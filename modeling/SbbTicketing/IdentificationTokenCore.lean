import SbbTicketing.SignatureCore
import SbbTicketing.TicketOwnershipCore

/-! The identity token's page: the signed code, the countdown and the two timers. Timers
work in milliseconds; a code carries the whole second of the clock. -/

namespace SbbTicketing

open Qt

variable {ρ : Type} (rnp : Rnp ρ) (lib : QtLibrary)

/-- A `QTimer`; `due` is the time of its next timeout while it is active. -/
structure QTimer where
  singleShot : Bool
  interval : Nat
  due : Option Nat
  deriving DecidableEq, Repr

namespace QTimer

def start (timer : QTimer) (interval time : Nat) : QTimer :=
  { timer with interval, due := some (time + interval) }

def stop (timer : QTimer) : QTimer := { timer with due := none }

def isActive (timer : QTimer) : Bool := timer.due.isSome

def fire (timer : QTimer) : QTimer :=
  if timer.singleShot then timer.stop
  else { timer with due := timer.due.map (· + timer.interval) }

end QTimer

def clockAt (millisecond : Nat) : Int64 := Int64.ofNat (millisecond / 1000)

/-- The clock readings of one generation, the second in the `catch` block, and the
millisecond at which the timers are started after it. -/
structure GenerationTimes where
  clock : Int64
  fallbackClock : Int64
  started : Nat
  deriving DecidableEq, Repr

/-- The identity token's page; `qrImage` is the text last handed to the QR generator. -/
structure IdentificationToken where
  publicKey : QString
  privateKey : QString
  countdown : Int
  timerLabelVisible : Bool
  timerLabel : QString
  qrImage : Option QString
  countdownTimer : QTimer
  refreshTimer : QTimer
  deriving DecidableEq, Repr

namespace IdentificationToken

def new : IdentificationToken where
  publicKey := []
  privateKey := []
  countdown := 10
  timerLabelVisible := false
  timerLabel := text "Refreshes in: 20s"
  qrImage := none
  countdownTimer := { singleShot := false, interval := 0, due := none }
  refreshTimer := { singleShot := true, interval := 0, due := none }

def signingErrors : SigningErrors where
  ffi := text "Failed to create RNP FFI for signing"
  keyInput := text "Failed to create input for private key"
  importKey := text "Failed to import private key"
  dataInput := text "Failed to create input for data"
  output := text "Failed to create output for signature"
  signOp := text "Failed to create signing operation"
  iterator := text "Failed to create key iterator"
  locateKey := text "Failed to locate key for signing"
  noKey := text "No key found for signing"
  addSigner := text "Failed to add signer"
  execute := text "Signing operation failed"
  buffer := text "Failed to get signature buffer"

def dataToSign (publicKey : QString) (timestamp : Int64) : QString := publicKey ++ number timestamp

/-- The `try` block of `generateQRCodeWithTimestamp` up to the text of the code. -/
def tokenData (token : IdentificationToken) (timestamp : Int64) : ExceptT QString (RnpM ρ) QString := do
  let signature ← signDetached rnp signingErrors token.privateKey (dataToSign token.publicKey timestamp)
  return arg (arg (arg (text "PIT:%1:%2:%3") (keyHash lib token.publicKey)) (number timestamp))
    (toHex signature)

def fallbackData (token : IdentificationToken) (timestamp : Int64) : QString :=
  arg (arg (text "PIT:%1:%2") (number timestamp)) (toHex (lib.sha256 (toUtf8 token.publicKey)))

def generateQRCodeWithTimestamp (token : IdentificationToken) (times : GenerationTimes) :
    RnpM ρ IdentificationToken := do
  let tokenText ← match ← (tokenData rnp lib token times.clock).run with
    | .ok tokenText => pure tokenText
    | .error _ => pure (fallbackData lib token times.fallbackClock)
  return { token with qrImage := some tokenText }

def setCountdown (token : IdentificationToken) (countdown : Int) : IdentificationToken :=
  { token with
    countdown
    timerLabel := arg (text "Refreshes in: %1s") (Numerals.decimal countdown) }

def setIdentificationToken (token : IdentificationToken) (publicKey privateKey : QString)
    (times : GenerationTimes) : RnpM ρ IdentificationToken := do
  let token := { token with publicKey, privateKey }
  let token ← generateQRCodeWithTimestamp rnp lib token times
  let token := { token with timerLabelVisible := true }
  let token := token.setCountdown 20
  return { token with
    countdownTimer := token.countdownTimer.start 1000 times.started
    refreshTimer := token.refreshTimer.start 20000 times.started }

def updateCountdown (token : IdentificationToken) : IdentificationToken :=
  let countdown := token.countdown - 1
  if countdown ≤ 0 then token.setCountdown 20 else token.setCountdown countdown

def refreshQRCode (token : IdentificationToken) (times : GenerationTimes) :
    RnpM ρ IdentificationToken := do
  let token ← generateQRCodeWithTimestamp rnp lib token times
  let token := token.setCountdown 20
  return { token with refreshTimer := token.refreshTimer.start 20000 times.started }

def clear (token : IdentificationToken) : IdentificationToken :=
  { token with
    publicKey := []
    privateKey := []
    qrImage := none
    timerLabelVisible := false
    countdownTimer := token.countdownTimer.stop
    refreshTimer := token.refreshTimer.stop
    countdown := 20 }

/-- A timeout of the countdown timer; an inactive timer delivers none. -/
def countdownTimeout (token : IdentificationToken) : IdentificationToken :=
  if token.countdownTimer.isActive then
    updateCountdown { token with countdownTimer := token.countdownTimer.fire }
  else token

def refreshTimeout (token : IdentificationToken) (times : GenerationTimes) :
    RnpM ρ IdentificationToken :=
  if token.refreshTimer.isActive then
    refreshQRCode rnp lib { token with refreshTimer := token.refreshTimer.fire } times
  else pure token

end IdentificationToken

end SbbTicketing
