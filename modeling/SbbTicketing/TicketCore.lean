import Mathlib.Data.List.GetD
import SbbTicketing.KeyManagerCore
import SbbTicketing.TicketOwnershipCore

/-! Tickets and the page that lists them: booking references, the signed code of a ticket
and the overlay that shows it. -/

namespace SbbTicketing

open Qt

variable {ρ : Type} (rnp : Rnp ρ) (lib : QtLibrary)

/-- `QRandomGenerator::global`, with the values it will draw and how many it has drawn. -/
structure RandomGenerator where
  values : Nat → Nat
  drawn : Nat

def RandomGenerator.bounded (random : RandomGenerator) (highest : Nat) : Nat × RandomGenerator :=
  (random.values random.drawn % highest, { random with drawn := random.drawn + 1 })

def referenceChars : QString := text "ABCDEFGHIJKLMNOPQRSTUVWXYZ0123456789"

/-- The loop of `generateBookingReference`, with the passes still to make. -/
def appendReferenceChars : Nat → QString → RandomGenerator → QString × RandomGenerator
  | 0, ref, random => (ref, random)
  | passes + 1, ref, random =>
      let (index, random) := random.bounded referenceChars.length
      appendReferenceChars passes (ref ++ [referenceChars.getD index ' ']) random

def generateBookingReference (random : RandomGenerator) : QString × RandomGenerator :=
  appendReferenceChars 6 [] random

def IsReference (ref : QString) : Prop := ref.length = 6 ∧ ∀ c ∈ ref, c ∈ referenceChars

theorem appendReferenceChars_spec (passes : Nat) (ref : QString) (random : RandomGenerator)
    (drawnFrom : ∀ c ∈ ref, c ∈ referenceChars) :
    (appendReferenceChars passes ref random).1.length = ref.length + passes ∧
      ∀ c ∈ (appendReferenceChars passes ref random).1, c ∈ referenceChars := by
  induction passes generalizing ref random with
  | zero => exact ⟨rfl, drawnFrom⟩
  | succ passes ih =>
      have bound : random.values random.drawn % referenceChars.length < referenceChars.length :=
        Nat.mod_lt _ (by decide)
      have next : ∀ c ∈ ref ++ [referenceChars.getD (random.bounded referenceChars.length).1 ' '],
          c ∈ referenceChars := by
        intro c member
        rcases List.mem_append.mp member with earlier | last
        · exact drawnFrom c earlier
        · rw [List.mem_singleton.mp last, RandomGenerator.bounded, List.getD_eq_getElem _ _ bound]
          exact List.getElem_mem bound
      obtain ⟨length, characters⟩ := ih _ (random.bounded referenceChars.length).2 next
      refine ⟨?_, characters⟩
      simp only [appendReferenceChars, length, List.length_append, List.length_singleton]
      omega

theorem generateBookingReference_isReference (random : RandomGenerator) :
    IsReference (generateBookingReference random).1 := by
  simpa [IsReference, generateBookingReference] using appendReferenceChars_spec 6 [] random (by simp)

/-- A ticket's reference is generated or, in a default-constructed ticket, empty. -/
structure TicketInfo where
  departure : QString := []
  destination : QString := []
  date : Option QDate := none
  time : Option QTime := none
  bookingReference : QString := []
  userPublicKey : QString := []
  signedData : QString := []
  timestamp : Int64 := 0
  generated : bookingReference = [] ∨ IsReference bookingReference := by exact Or.inl rfl
  deriving DecidableEq

namespace TicketInfo

def unset : TicketInfo := {}

def new (departure destination : QString) (date : QDate) (time : QTime) (random : RandomGenerator) :
    TicketInfo × RandomGenerator :=
  let reference := generateBookingReference random
  ({ departure, destination, date, time, bookingReference := reference.1
     generated := Or.inr (generateBookingReference_isReference random) }, reference.2)

def isValid (ticket : TicketInfo) : Bool := !ticket.bookingReference.isEmpty

def setUserPublicKey (ticket : TicketInfo) (publicKey : QString) : TicketInfo :=
  { ticket with userPublicKey := publicKey }

def setSignedData (ticket : TicketInfo) (signature : QString) (timestamp : Int64) : TicketInfo :=
  { ticket with signedData := signature, timestamp }

end TicketInfo

inductive LayoutItem
  | card (ticket : TicketInfo)
  | stretch

/-- The ticket page; `qrImage` is the text last handed to the QR generator for the overlay. -/
structure BookingReference where
  ticketLayout : List LayoutItem
  noTicketLabelHidden : Bool
  scrollAreaHidden : Bool
  overlayHidden : Bool
  qrTitle : QString
  qrImage : Option QString
  currentTicket : TicketInfo
  companyInfo : Option CompanyInfo

namespace BookingReference

def new : BookingReference where
  ticketLayout := [.stretch]
  noTicketLabelHidden := false
  scrollAreaHidden := true
  overlayHidden := true
  qrTitle := text "Scan Ticket"
  qrImage := none
  currentTicket := TicketInfo.unset
  companyInfo := none

def setCompanyInfo (page : BookingReference) (companyInfo : CompanyInfo) : BookingReference :=
  { page with companyInfo := some companyInfo }

def addTicket (page : BookingReference) (ticket : TicketInfo) : BookingReference :=
  if !ticket.isValid then page
  else
    { page with
      noTicketLabelHidden := true
      scrollAreaHidden := false
      ticketLayout := .card ticket :: page.ticketLayout }

/-- The loop of `clearTickets`: items are taken from the front while more than one is left. -/
def takeCards : List LayoutItem → List LayoutItem
  | _ :: next :: rest => takeCards (next :: rest)
  | items => items

def clearTickets (page : BookingReference) : BookingReference :=
  { page with
    ticketLayout := takeCards page.ticketLayout
    scrollAreaHidden := true
    noTicketLabelHidden := false }

def signingErrors : SigningErrors where
  ffi := text "Failed to create RNP FFI for signing"
  keyInput := text "Failed to create input for company private key"
  importKey := text "Failed to import company private key"
  dataInput := text "Failed to create input for data"
  output := text "Failed to create output for signature"
  signOp := text "Failed to create signing operation"
  iterator := text "Failed to create key iterator"
  locateKey := text "Failed to locate company key"
  noKey := text "No company key found"
  addSigner := text "Failed to add company signer"
  execute := text "Company signing failed"
  buffer := text "Failed to get company signature"

/-- The time a ticket is signed for: its own, or the clock if it has none. -/
def signingTime (ticket : TicketInfo) (now : Int64) : Int64 :=
  if ticket.timestamp = 0 then now else ticket.timestamp

def dataToSign (ticket : TicketInfo) (timestamp : Int64) : QString :=
  ticket.userPublicKey ++ ticket.bookingReference ++ number timestamp

/-- The `try` block of `showQRCode` up to the text of the code. -/
def ticketData (page : BookingReference) (ticket : TicketInfo) (now : Int64) :
    ExceptT QString (RnpM ρ) QString := do
  let some companyInfo := page.companyInfo | throw (text "Company info not available")
  if !companyInfo.isValid then throw (text "Company info not available")
  let timestamp := signingTime ticket now
  let signatureHex ←
    if ticket.signedData.isEmpty then do
      let signature ← signDetached rnp signingErrors companyInfo.privateKey (dataToSign ticket timestamp)
      pure (toHex signature)
    else pure ticket.signedData
  return arg (arg (arg (arg (text "TICKET:%1:%2:%3:%4") ticket.bookingReference) (number timestamp))
    (keyHash lib ticket.userPublicKey)) signatureHex

def showQRCode (page : BookingReference) (ticket : TicketInfo) (now : Int64) :
    RnpM ρ BookingReference := do
  let page := { page with
    currentTicket := ticket
    qrTitle := text "Ticket: " ++ ticket.bookingReference }
  let qrData ← match ← (ticketData rnp lib page ticket now).run with
    | .ok qrData => pure qrData
    | .error _ => pure ticket.bookingReference
  return { page with qrImage := some qrData, overlayHidden := false }

def hideQRCode (page : BookingReference) : BookingReference := { page with overlayHidden := true }

/-- The file name a download suggests at a time of day, or the warning shown instead. -/
def downloadCurrentQRCode (page : BookingReference) (timestamp : QString) : Except QString QString :=
  if page.qrImage.isNone then .error (text "No QR code is currently displayed.")
  else if !page.currentTicket.isValid then .error (text "Invalid ticket information.")
  else .ok (arg (arg (text "Ticket_%1_%2.png") page.currentTicket.bookingReference) timestamp)

end BookingReference

end SbbTicketing
