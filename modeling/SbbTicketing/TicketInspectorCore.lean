import SbbTicketing.KeyManagerCore
import SbbTicketing.Runs
import SbbTicketing.TicketOwnershipCore

/-! The inspector's window: two panels that load a QR image each, the verify button and the
result. Style sheets and message boxes change nothing else and are left out. -/

namespace SbbTicketing

open Qt

variable {ρ : Type} (rnp : Rnp ρ) (lib : QtLibrary)

/-- The pixels of an image; a null pixmap is `none`. -/
abbrev QPixmap := QByteArray

structure ZbarimgRun where
  finished : Bool
  exitCode : Int
  standardOutput : QByteArray
  deriving DecidableEq, Repr

/-- The file an open dialog returned, with an empty name when it was cancelled. -/
structure ChosenFile where
  fileName : QString
  pixmap : Option QPixmap
  zbarimg : ZbarimgRun
  deriving DecidableEq, Repr

inductive Preview
  | message (text : QString)
  | picture (image : QPixmap)
  deriving DecidableEq, Repr

structure ScanPanel where
  qrData : QString
  image : Option QPixmap
  preview : Preview
  status : QString
  deriving DecidableEq, Repr

def decodeQRFromImage (file : ChosenFile) : QString :=
  if !file.zbarimg.finished then []
  else if file.zbarimg.exitCode ≠ 0 then []
  else trimmed (lib.fromUtf8 file.zbarimg.standardOutput)

namespace ScanPanel

def empty : ScanPanel where
  qrData := []
  image := none
  preview := .message (text "No QR Code Loaded")
  status := text "Status: Waiting"

/-- What both load handlers do with their panel, and whether they got as far as decoding. -/
def load (panel : ScanPanel) (file : ChosenFile) : ScanPanel × Bool :=
  if file.fileName.isEmpty then (panel, false)
  else
    -- the stored image is replaced even by one that could not be read
    let panel := { panel with image := file.pixmap }
    match file.pixmap with
    | none => (panel, false)
    | some image =>
        let panel := { panel with preview := .picture image, qrData := decodeQRFromImage lib file }
        let status :=
          if panel.qrData.isEmpty then text "Status: Failed to decode QR"
          else text "Status: QR Code Loaded ✓"
        ({ panel with status }, true)

end ScanPanel

structure TicketInspector where
  pit : ScanPanel
  ticket : ScanPanel
  verifyEnabled : Bool
  resultIcon : QString
  resultText : QString
  details : QString
  companyInfo : CompanyInfo
  deriving DecidableEq, Repr

namespace TicketInspector

def awaitingText : QString := text "Awaiting verification..."

def awaitingDetails : QString := text
  "Load both QR codes and click 'Verify Ownership' to check if the ticket belongs to the user."

def validText : QString := text "VALID: Ticket Belongs to User"

def invalidText : QString := text "INVALID: Ticket Does NOT Belong to User"

def new : RnpM ρ TicketInspector := do
  let companyInfo ← CompanyInfo.generateKeys rnp lib
  return {
    pit := ScanPanel.empty
    ticket := ScanPanel.empty
    verifyEnabled := false
    resultIcon := []
    resultText := awaitingText
    details := awaitingDetails
    companyInfo }

def loadPITQRCode (inspector : TicketInspector) (file : ChosenFile) : TicketInspector :=
  let (pit, decoded) := inspector.pit.load lib file
  let inspector := { inspector with pit }
  if decoded then
    { inspector with
      verifyEnabled := !inspector.pit.qrData.isEmpty && !inspector.ticket.qrData.isEmpty }
  else inspector

def loadTicketQRCode (inspector : TicketInspector) (file : ChosenFile) : TicketInspector :=
  let (ticket, decoded) := inspector.ticket.load lib file
  let inspector := { inspector with ticket }
  if decoded then
    { inspector with
      verifyEnabled := !inspector.pit.qrData.isEmpty && !inspector.ticket.qrData.isEmpty }
  else inspector

def mark (flag : Bool) : QString := if flag then text "✓" else text "✗"

def updateVerificationStatus (inspector : TicketInspector)
    (result : TicketOwnership.VerificationResult) : TicketInspector :=
  if result.keysMatch && result.pitParsed && result.ticketParsed then
    { inspector with
      resultIcon := text "✓"
      resultText := validText
      details := arg (text ("• Booking Reference: %1\n• PIT Parsed: ✓\n• Ticket Parsed: ✓\n" ++
        "• Public Key Hashes Match: ✓\n• Verification: PASSED")) result.bookingReference }
  else
    let details := text ("• Error: %1\n• PIT Parsed: %2\n• Ticket Parsed: %3\n" ++
      "• Public Key Hashes Match: %4\n• Verification: FAILED")
    { inspector with
      resultIcon := text "✗"
      resultText := invalidText
      details := arg (arg (arg (arg details result.errorMessage) (mark result.pitParsed))
        (mark result.ticketParsed)) (mark result.keysMatch) }

def obtainResult (inspector : TicketInspector) (now : Int64) :
    RnpM ρ (Option TicketOwnership.VerificationResult) := do
  if inspector.pit.qrData.isEmpty || inspector.ticket.qrData.isEmpty then return none
  let result ← TicketOwnership.verifyOwnershipOfCodes rnp lib now inspector.pit.qrData
    inspector.ticket.qrData
  return some result

def verifyOwnership (inspector : TicketInspector) (now : Int64) : RnpM ρ TicketInspector := do
  match ← obtainResult rnp lib inspector now with
  | none => return inspector
  | some result => return inspector.updateVerificationStatus result

def clearAll (inspector : TicketInspector) : TicketInspector :=
  { inspector with
    pit := ScanPanel.empty
    ticket := ScanPanel.empty
    verifyEnabled := false
    resultIcon := []
    resultText := awaitingText
    details := awaitingDetails }

def showsValid (inspector : TicketInspector) : Prop := inspector.resultText = validText

instance (inspector : TicketInspector) : Decidable inspector.showsValid :=
  inferInstanceAs (Decidable (_ = _))

end TicketInspector

inductive InspectorEvent
  | loadPIT (file : ChosenFile)
  | loadTicket (file : ChosenFile)
  | verifyClicked (now : Int64)
  | clearClicked

/-- The window, RNP beside it, and the two strings of the last verification that was run. -/
structure Inspection (ρ : Type) where
  inspector : TicketInspector
  rnpState : RnpState ρ
  verified : Option (QString × QString)

namespace Inspection

def start (state : RnpState ρ) : Inspection ρ :=
  let opened := (TicketInspector.new rnp lib).run state
  { inspector := opened.1, rnpState := opened.2, verified := none }

/-- A disabled button delivers no click. -/
def step (inspection : Inspection ρ) : InspectorEvent → Inspection ρ
  | .loadPIT file => { inspection with inspector := inspection.inspector.loadPITQRCode lib file }
  | .loadTicket file => { inspection with inspector := inspection.inspector.loadTicketQRCode lib file }
  | .clearClicked => { inspection with inspector := inspection.inspector.clearAll }
  | .verifyClicked now =>
      let inspector := inspection.inspector
      if inspector.verifyEnabled then
        let clicked := (inspector.verifyOwnership rnp lib now).run inspection.rnpState
        let verified :=
          if inspector.pit.qrData.isEmpty || inspector.ticket.qrData.isEmpty then inspection.verified
          else some (inspector.pit.qrData, inspector.ticket.qrData)
        { inspector := clicked.1, rnpState := clicked.2, verified }
      else inspection

def run : Inspection ρ → List InspectorEvent → Inspection ρ := Runs.run (step rnp lib)

end Inspection

end SbbTicketing
