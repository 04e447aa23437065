import SbbTicketing.StaticTickets

/-! What a valid verification says about the tickets the company has signed. The signed text
runs the user's key, the reference and the time together, and nothing in it tells where one ends;
the reference field would have to be of the one length references have. -/

namespace SbbTicketing

open Qt

variable {ρ : Type} (rnp : Rnp ρ) (lib : QtLibrary)

/-- A ticket `showQRCode` signed at a clock reading, for a time after the epoch. -/
structure SignedTicket where
  ticket : TicketInfo
  now : Int64
  valid : ticket.isValid = true
  positive : 0 < BookingReference.signingTime ticket now

namespace SignedTicket

def time (signed : SignedTicket) : Int64 := BookingReference.signingTime signed.ticket signed.now

def message (signed : SignedTicket) : QString :=
  BookingReference.dataToSign signed.ticket signed.time

theorem reference_length (signed : SignedTicket) : signed.ticket.bookingReference.length = 6 := by
  have valid := signed.valid
  rcases signed.ticket.generated with empty | ⟨length, _⟩
  · simp [TicketInfo.isValid, empty] at valid
  · exact length

end SignedTicket

/-- Under the company's key RNP accepts nothing but the messages of the history. -/
def SignedOnly (draws : Nat → ρ) (companyPublicKey : QString) (history : List SignedTicket) : Prop :=
  ∀ check data signature, rnp.accepts draws check (toUtf8 companyPublicKey) data signature = true →
    ∃ signed ∈ history, data = toUtf8 signed.message

def Authentic (history : List SignedTicket) (userPublicKey : QString)
    (result : TicketOwnership.VerificationResult) : Prop :=
  ∃ signed ∈ history, signed.ticket.userPublicKey = userPublicKey ∧
    signed.ticket.bookingReference = result.bookingReference ∧ signed.time = result.ticketTimestamp

instance (history : List SignedTicket) (userPublicKey : QString)
    (result : TicketOwnership.VerificationResult) : Decidable (Authentic history userPublicKey result) :=
  inferInstanceAs (Decidable (∃ signed ∈ history, _ ∧ _ ∧ _))

/-- Whatever the rest is, a ticket string is valid for a user only if it names a ticket of the history. -/
def ValidOnlyIfAuthentic (history : List SignedTicket) (ticketQRData userPublicKey : QString) : Prop :=
  ∀ {ρ : Type} (rnp : Rnp ρ) (state : RnpState ρ) (now : Int64) (pitQRData companyPublicKey : QString),
    companyPublicKey ≠ [] → SignedOnly rnp state.draws companyPublicKey history →
    let result := ((TicketOwnership.verifyOwnership rnp lib now pitQRData ticketQRData userPublicKey
      companyPublicKey).run state).1
    result.isValid = true → Authentic history userPublicKey result

def Presents (ticketQRData userPublicKey bookingRef : QString) (timestamp : Int64) : Prop :=
  userPublicKey ≠ [] ∧ ∃ publicKeyHash signature,
    TicketOwnership.ReadsTicket ticketQRData bookingRef timestamp publicKeyHash signature ∧
    lib.toLower (keyHash lib userPublicKey) = lib.toLower publicKeyHash ∧ signature ≠ []

def ReferenceOfSix (history : List SignedTicket) (ticketQRData userPublicKey : QString) : Prop :=
  ∀ bookingRef timestamp, Presents lib ticketQRData userPublicKey bookingRef timestamp →
    (∃ signed ∈ history, signed.message = userPublicKey ++ bookingRef ++ number timestamp) →
    bookingRef.length = 6

/-- The given key neither begins nor continues another key of the history. -/
def KeysApart (history : List SignedTicket) (userPublicKey : QString) : Prop :=
  ∀ signed ∈ history, signed.ticket.userPublicKey <+: userPublicKey ∨
    userPublicKey <+: signed.ticket.userPublicKey → signed.ticket.userPublicKey = userPublicKey

theorem keysApart_of_length {history : List SignedTicket} {userPublicKey : QString}
    (lengths : ∀ signed ∈ history, signed.ticket.userPublicKey.length = userPublicKey.length) :
    KeysApart history userPublicKey := by
  rintro signed member (begins | continues)
  · exact begins.eq_of_length (lengths signed member)
  · exact (continues.eq_of_length (lengths signed member).symm).symm

theorem SignedTicket.eq_of_message {history : List SignedTicket} {signed : SignedTicket}
    {userPublicKey bookingRef : QString} {timestamp : Int64} (apart : KeysApart history userPublicKey)
    (member : signed ∈ history)
    (same : signed.message = userPublicKey ++ bookingRef ++ number timestamp)
    (six : bookingRef.length = 6) :
    signed.ticket.userPublicKey = userPublicKey ∧ signed.ticket.bookingReference = bookingRef ∧
      signed.time = timestamp := by
  have own : signed.ticket.userPublicKey <+: signed.message := by
    rw [message, BookingReference.dataToSign, List.append_assoc]
    exact List.prefix_append _ _
  have given : userPublicKey <+: signed.message := by
    rw [same, List.append_assoc]
    exact List.prefix_append _ _
  have key := apart signed member <| List.prefix_or_prefix_of_prefix own given
  have lengths : (signed.ticket.userPublicKey ++ signed.ticket.bookingReference).length =
      (userPublicKey ++ bookingRef).length := by
    rw [List.length_append, List.length_append, key, signed.reference_length, six]
  obtain ⟨front, time⟩ := List.append_inj same lengths
  rw [key] at front
  exact ⟨key, List.append_cancel_left front, number_injective time⟩

theorem authentic_of_referenceOfSix {history : List SignedTicket} {ticketQRData userPublicKey : QString}
    (apart : KeysApart history userPublicKey)
    (ofSix : ReferenceOfSix lib history ticketQRData userPublicKey) :
    ValidOnlyIfAuthentic lib history ticketQRData userPublicKey := by
  intro ρ rnp state now pitQRData companyPublicKey company signedOnly result valid
  have entitled := (TicketOwnership.isValid_iff_entitled rnp lib now pitQRData ticketQRData
    userPublicKey companyPublicKey state).mp valid
  obtain ⟨user, pitHash, pitTimestamp, pitSignature, bookingRef, ticketTimestamp, ticketHash,
    ticketSignature, pitReads, fresh, ticketReads, same, hashed, _, _, companySigned⟩ := entitled
  obtain ⟨written, accepted⟩ := companySigned company
  have part := (TicketOwnership.verifyOwnership_exit rnp lib
    (TicketOwnership.compareCodes_of_match lib pitReads fresh ticketReads same) userPublicKey
    companyPublicKey state).parsedPart
  obtain ⟨signed, member, data⟩ := signedOnly _ _ _ accepted
  have message : signed.message = userPublicKey ++ bookingRef ++ number ticketTimestamp :=
    (toUtf8_injective data).symm
  have presents : Presents lib ticketQRData userPublicKey bookingRef ticketTimestamp :=
    ⟨user, ticketHash, ticketSignature, ticketReads, hashed.trans same, written⟩
  have six := ofSix bookingRef ticketTimestamp presents ⟨signed, member, message⟩
  obtain ⟨key, ref, stamp⟩ := SignedTicket.eq_of_message apart member message six
  exact ⟨signed, member, key, ref.trans part.bookingReference.symm,
    stamp.trans part.ticketTimestamp.symm⟩

/-- An RNP with a single signature that is good for one message under the company's key and
for everything under any other key. -/
def vouching (companyPublicKey message : QByteArray) : Rnp Unit where
  reply _ request :=
    match request with
    | .opVerifyExecute [.imported key] data _ =>
        if key = companyPublicKey ∧ data ≠ message then none else some [0]
    | _ => some [0]

theorem vouching_accepts_iff (companyPublicKey message : QByteArray) (draws : Nat → Unit) (check : Nat)
    (key data signature : QByteArray) :
    (vouching companyPublicKey message).accepts draws check key data signature = true ↔
      (key = companyPublicKey → data = message) := by
  by_cases sameKey : key = companyPublicKey
  · by_cases sameData : data = message
    · simp [Rnp.accepts, vouching, sameKey, sameData]
    · simp [Rnp.accepts, vouching, sameKey, sameData]
  · simp [Rnp.accepts, vouching, sameKey]

theorem vouching_signedOnly {history : List SignedTicket} {signed : SignedTicket}
    (member : signed ∈ history) (companyPublicKey : QString) (draws : Nat → Unit) :
    SignedOnly (vouching (toUtf8 companyPublicKey) (toUtf8 signed.message)) draws companyPublicKey
      history := by
  intro check data signature accepted
  rw [vouching_accepts_iff] at accepted
  exact ⟨signed, member, accepted rfl⟩

def vouchingState : RnpState Unit where
  draws := fun _ => ()
  calls := 0
  failed := false
  faulted := false
  store := HandleStore.empty

theorem referenceOfSix_of_authentic {history : List SignedTicket} {ticketQRData userPublicKey : QString}
    (authentic : ValidOnlyIfAuthentic lib history ticketQRData userPublicKey) :
    ReferenceOfSix lib history ticketQRData userPublicKey := by
  rintro bookingRef timestamp ⟨user, publicKeyHash, signature, ticketReads, hashed, written⟩
    ⟨signed, member, message⟩
  -- a token of the user's at time 0, and a company with another key that signed just this message
  have pitReads : TicketOwnership.ReadsPIT (tokenCode (keyHash lib userPublicKey) 0 (text "00"))
      (keyHash lib userPublicKey) 0 (text "00") :=
    readsPIT_tokenCode (IsMark.colon.not_mem_keyHash lib userPublicKey) (by decide) 0
  have fresh : TicketOwnership.Fresh 0 0 := by decide
  have otherKey : toUtf8 userPublicKey ≠ toUtf8 ('C' :: userPublicKey) := by
    intro same
    exact absurd (congrArg List.length (toUtf8_injective same)) (by simp)
  have valid := (TicketOwnership.isValid_iff_entitled
    (vouching (toUtf8 ('C' :: userPublicKey)) (toUtf8 signed.message)) lib 0
    (tokenCode (keyHash lib userPublicKey) 0 (text "00")) ticketQRData userPublicKey
    ('C' :: userPublicKey) vouchingState).mpr
    ⟨user, _, _, _, _, _, _, _, pitReads, fresh, ticketReads, hashed, rfl, by decide, by
      rw [vouching_accepts_iff]
      intro same
      exact absurd same otherKey, by
      intro _
      refine ⟨written, ?_⟩
      rw [vouching_accepts_iff, message]
      intro _
      rfl⟩
  have part := (TicketOwnership.verifyOwnership_exit
    (vouching (toUtf8 ('C' :: userPublicKey)) (toUtf8 signed.message)) lib
    (TicketOwnership.compareCodes_of_match lib pitReads fresh ticketReads hashed) userPublicKey
    ('C' :: userPublicKey) vouchingState).parsedPart
  obtain ⟨named, _, _, reference, _⟩ := authentic _ vouchingState 0 _ ('C' :: userPublicKey)
    (by simp) (vouching_signedOnly member _ _) valid
  have shown : named.ticket.bookingReference = bookingRef := reference.trans part.bookingReference
  rw [← shown, named.reference_length]

theorem authentic_iff_referenceOfSix (history : List SignedTicket)
    (ticketQRData userPublicKey : QString) (apart : KeysApart history userPublicKey) :
    ValidOnlyIfAuthentic lib history ticketQRData userPublicKey ↔
      ReferenceOfSix lib history ticketQRData userPublicKey :=
  ⟨referenceOfSix_of_authentic lib, authentic_of_referenceOfSix lib apart⟩

def sampleSigned : SignedTicket where
  ticket := PageRun.sampleTicket
  now := 1732368000
  valid := by decide +kernel
  positive := by decide +kernel

/-- One code of a history with a single ticket, as it was shown and with a digit of the time moved
into the reference. -/
theorem authentic_iff_referenceOfSix_sample :
    ValidOnlyIfAuthentic PlainRnp.library [sampleSigned]
        (text "TICKET:ABCDEF:1732368000:3e8fed5232328f57:00") (text "PAA") ∧
      ¬ValidOnlyIfAuthentic PlainRnp.library [sampleSigned]
        (text "TICKET:ABCDEF1:732368000:3e8fed5232328f57:00") (text "PAA") := by
  have apart : KeysApart [sampleSigned] (text "PAA") := by
    apply keysApart_of_length
    decide +kernel
  have genuine : TicketOwnership.ReadsTicket (text "TICKET:ABCDEF:1732368000:3e8fed5232328f57:00")
      (text "ABCDEF") 1732368000 (text "3e8fed5232328f57") (text "00") :=
    ⟨text "1732368000", by decide +kernel, by decide +kernel⟩
  have recut : TicketOwnership.ReadsTicket (text "TICKET:ABCDEF1:732368000:3e8fed5232328f57:00")
      (text "ABCDEF1") 732368000 (text "3e8fed5232328f57") (text "00") :=
    ⟨text "732368000", by decide +kernel, by decide +kernel⟩
  rw [authentic_iff_referenceOfSix PlainRnp.library _ _ _ apart,
    authentic_iff_referenceOfSix PlainRnp.library _ _ _ apart]
  constructor
  · rintro bookingRef timestamp ⟨_, publicKeyHash, signature, shown, _⟩ _
    rw [← (genuine.unique shown).1]
    rfl
  · intro ofSix
    have six := ofSix (text "ABCDEF1") 732368000
      ⟨by decide, _, _, recut, by decide +kernel, by decide⟩
      ⟨sampleSigned, List.mem_singleton_self _, by decide +kernel⟩
    exact absurd six (by decide)

/-- The code of a signed ticket, and the same signature with one digit of the time moved into
the reference: both verify, the second as a ticket that was never signed. -/
theorem recut_ticket_valid :
    let company : CompanyInfo := { PageRun.sampleCompany with publicKey := text "C" }
    let rnp := vouching (toUtf8 company.publicKey) (toUtf8 sampleSigned.message)
    let page := BookingReference.new.setCompanyInfo company
    let shown := ((page.showQRCode rnp PlainRnp.library sampleSigned.ticket sampleSigned.now).run
      vouchingState).1
    let verify := fun ticketQRData => ((TicketOwnership.verifyOwnership rnp PlainRnp.library 5
      (text "PIT:3e8fed5232328f57:0:00") ticketQRData (text "PAA") company.publicKey).run
        vouchingState).1
    let genuine := verify (text "TICKET:ABCDEF:1732368000:3e8fed5232328f57:00")
    let recut := verify (text "TICKET:ABCDEF1:732368000:3e8fed5232328f57:00")
    SignedOnly rnp vouchingState.draws company.publicKey [sampleSigned] ∧
      shown.qrImage = some (text "TICKET:ABCDEF:1732368000:3e8fed5232328f57:00") ∧
      genuine.isValid = true ∧ Authentic [sampleSigned] (text "PAA") genuine ∧
      recut.isValid = true ∧ ¬Authentic [sampleSigned] (text "PAA") recut := by
  refine ⟨vouching_signedOnly (by simp) _ _, ?_⟩
  decide +kernel

end SbbTicketing
