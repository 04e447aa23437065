import SbbTicketing.SignatureCore

/-! `TicketOwnership`: the two parsers and the verification behind the inspector. The
parsers write out-parameters as they go, so what they leave there is part of their result;
an early `return result` of the verification is a `throw` of the result. -/

namespace SbbTicketing

open Qt

variable {ρ : Type} (rnp : Rnp ρ)

/-- The first 16 hexadecimal digits of the SHA-256 of a key's text, as issuer and verifier
both compute it. -/
def keyHash (lib : QtLibrary) (publicKey : QString) : QString :=
  left (toHex (lib.sha256 (toUtf8 publicKey))) 16

namespace TicketOwnership

structure VerificationResult where
  isValid : Bool := false
  pitParsed : Bool := false
  ticketParsed : Bool := false
  keysMatch : Bool := false
  pitSignatureValid : Bool := false
  ticketSignatureValid : Bool := false
  userPublicKey : QString := []
  errorMessage : QString := []
  pitTimestamp : Int64 := 0
  ticketTimestamp : Int64 := 0
  bookingReference : QString := []
  deriving DecidableEq, Repr

/-- The out-parameters of a parser: `outPublicKey` or `outBookingRef`, `outTimestamp`, `outSignature`. -/
structure ParsedCode where
  subject : QString := []
  timestamp : Int64 := 0
  signature : QString := []
  deriving DecidableEq, Repr

def parsePIT (now : Int64) (pitQRData : QString) (out : ParsedCode) : Bool × ParsedCode :=
  match split pitQRData ':' with
  | [tag, publicKey, stamp, signature] =>
      if tag ≠ text "PIT" then (false, out)
      else
        let out := { out with subject := publicKey }
        match toLongLong stamp with
        | none => (false, { out with timestamp := 0 })
        | some timestamp =>
            let out := { out with timestamp }
            let age := now - timestamp
            if age > 20 then (false, out)
            else if age < 0 then (false, out)
            else (true, { out with signature })
  | _ => (false, out)

def parseTicket (ticketQRData : QString) (out : ParsedCode) : Bool × ParsedCode :=
  match split ticketQRData ':' with
  | [tag, bookingRef, stamp, publicKeyHash, signature] =>
      if tag ≠ text "TICKET" then (false, out)
      else
        let out := { out with subject := bookingRef }
        match toLongLong stamp with
        | none => (false, { out with timestamp := 0 })
        | some timestamp =>
            let out := { out with timestamp }
            -- reference and hash travel in one out-parameter
            let out := { out with subject := bookingRef ++ text ":" ++ publicKeyHash }
            (true, { out with signature })
  | _ => (false, out)

def verifyPITSignature (publicKey : QString) (timestamp : Int64) (signature : QString) : RnpM ρ Bool :=
  verifyDetached rnp publicKey (publicKey ++ number timestamp) signature

def verifyTicketSignature (userPublicKey bookingRef : QString) (timestamp : Int64)
    (signature companyPublicKey : QString) : RnpM ρ Bool :=
  verifyDetached rnp companyPublicKey (userPublicKey ++ bookingRef ++ number timestamp) signature

/-- The part of `verifyOwnership` before it looks at the keys it was given. -/
def compareCodes (lib : QtLibrary) (now : Int64) (pitQRData ticketQRData : QString) :
    Except VerificationResult (VerificationResult × ParsedCode × ParsedCode) := do
  let result : VerificationResult := {}
  let (pitParsed, pit) := parsePIT now pitQRData {}
  let result := { result with pitParsed }
  if !result.pitParsed then
    throw { result with errorMessage := text "Failed to parse PIT QR code" }
  let result := { result with pitTimestamp := pit.timestamp }
  let (ticketParsed, ticket) := parseTicket ticketQRData {}
  let result := { result with ticketParsed }
  if !result.ticketParsed then
    throw { result with errorMessage := text "Failed to parse ticket QR code" }
  match split ticket.subject ':' with
  | [bookingRef, ticketPubKeyHash] =>
      let result := { result with bookingReference := bookingRef, ticketTimestamp := ticket.timestamp }
      let result := { result with keysMatch := lib.toLower pit.subject == lib.toLower ticketPubKeyHash }
      if !result.keysMatch then
        throw { result with
          errorMessage := text "Public key hashes do not match - ticket does not belong to this user" }
      return (result, pit, ticket)
  | _ =>
      throw { result with
        errorMessage := text "Failed to extract booking reference and key hash from ticket" }

def explain (result : VerificationResult) : VerificationResult :=
  if result.isValid then
    { result with errorMessage := text "Verification successful - ticket belongs to user" }
  else if result.errorMessage.isEmpty then { result with errorMessage := text "Verification failed" }
  else result

def conclude (companyPublicKey : QString) (result : VerificationResult) : VerificationResult :=
  let result := { result with
    isValid := result.pitParsed && result.ticketParsed && result.pitSignatureValid && result.keysMatch }
  let result :=
    if !companyPublicKey.isEmpty then
      { result with isValid := result.isValid && result.ticketSignatureValid }
    else result
  explain result

def verifyStages (lib : QtLibrary) (now : Int64)
    (pitQRData ticketQRData userPublicKey companyPublicKey : QString) :
    ExceptT VerificationResult (RnpM ρ) VerificationResult := do
  let (result, pit, ticket) ← liftExcept (compareCodes lib now pitQRData ticketQRData)
  let result ←
    if !userPublicKey.isEmpty then
      if lib.toLower (keyHash lib userPublicKey) ≠ lib.toLower pit.subject then
        throw { result with
          errorMessage := text "Provided public key does not match hash in PIT", isValid := false }
      else pure { result with userPublicKey }
    else
      pure { result with
        userPublicKey := []
        errorMessage :=
          text "Public key hashes match, but signature verification requires full public key" }
  let result ←
    if !userPublicKey.isEmpty then do
      let pitSignatureValid ← verifyPITSignature rnp userPublicKey result.pitTimestamp pit.signature
      let result := { result with pitSignatureValid }
      if !result.pitSignatureValid then
        throw { result with
          errorMessage := text "PIT signature verification failed - invalid identity token" }
      pure result
    else pure result
  let result ←
    if !companyPublicKey.isEmpty then do
      let ticketSignatureValid ← verifyTicketSignature rnp userPublicKey result.bookingReference
        result.ticketTimestamp ticket.signature companyPublicKey
      let result := { result with ticketSignatureValid }
      if !result.ticketSignatureValid then
        throw { result with
          errorMessage := text "Ticket signature verification failed - invalid or forged ticket" }
      pure result
    else
      pure { result with
        ticketSignatureValid := false
        errorMessage := text "Cannot verify ticket signature: company public key not provided" }
  return conclude companyPublicKey result
where
  liftExcept {α : Type} : Except VerificationResult α → ExceptT VerificationResult (RnpM ρ) α
    | .ok value => pure value
    | .error result => throw result

def verifyOwnership (lib : QtLibrary) (now : Int64)
    (pitQRData ticketQRData userPublicKey companyPublicKey : QString) : RnpM ρ VerificationResult := do
  match ← (verifyStages rnp lib now pitQRData ticketQRData userPublicKey companyPublicKey).run with
  | .ok result => return result
  | .error result => return result

def verifyOwnershipOfUser (lib : QtLibrary) (now : Int64)
    (pitQRData ticketQRData userPublicKey : QString) : RnpM ρ VerificationResult :=
  verifyOwnership rnp lib now pitQRData ticketQRData userPublicKey []

/-- The overload without keys, the one the inspector calls. -/
def verifyOwnershipOfCodes (lib : QtLibrary) (now : Int64) (pitQRData ticketQRData : QString) :
    RnpM ρ VerificationResult :=
  verifyOwnership rnp lib now pitQRData ticketQRData [] []

def extractUserPublicKeyFromTicket (ticketQRData : QString) : QString :=
  match split ticketQRData ':' with
  | [tag, _, _, publicKeyHash, _] => if tag ≠ text "TICKET" then [] else publicKeyHash
  | _ => []

end TicketOwnership

end SbbTicketing
