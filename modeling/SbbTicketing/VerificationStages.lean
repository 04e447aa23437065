import SbbTicketing.TicketOwnershipChecks

/-! The result of a verification stage by stage: what the keys cannot change, which flag
presupposes which, and what an early exit leaves at its default. -/

namespace SbbTicketing

open Qt

namespace TicketOwnership

variable {ρ : Type} (rnp : Rnp ρ) (lib : QtLibrary)

/-- Each flag presupposes the flags of the stages before it and the key it was checked with. -/
structure StagesOrdered (pitQRData userPublicKey companyPublicKey : QString)
    (result : VerificationResult) : Prop where
  ticketAfterPIT : result.ticketParsed = true → result.pitParsed = true
  keysAfterTicket : result.keysMatch = true → result.ticketParsed = true
  pitSignature : result.pitSignatureValid = true → result.keysMatch = true ∧ userPublicKey ≠ [] ∧
    ∃ publicKeyHash timestamp signature, ReadsPIT pitQRData publicKeyHash timestamp signature ∧
      lib.toLower (keyHash lib userPublicKey) = lib.toLower publicKeyHash
  ticketSignature : result.ticketSignatureValid = true → result.keysMatch = true ∧
    companyPublicKey ≠ [] ∧ (userPublicKey = [] ∨ result.pitSignatureValid = true)

theorem sameParsedPart (now : Int64) (pitQRData ticketQRData : QString)
    (userPublicKey companyPublicKey userPublicKey' companyPublicKey' : QString)
    (state state' : RnpState ρ) :
    SameParsedPart
      ((verifyOwnership rnp lib now pitQRData ticketQRData userPublicKey companyPublicKey).run state).1
      ((verifyOwnership rnp lib now pitQRData ticketQRData userPublicKey' companyPublicKey').run
        state').1 := by
  by_cases found : Match lib now pitQRData ticketQRData
  · obtain ⟨pitHash, pitTimestamp, pitSignature, bookingRef, ticketTimestamp, ticketHash,
      ticketSignature, pitReads, fresh, ticketReads, same⟩ := found
    have codes := compareCodes_of_match lib pitReads fresh ticketReads same
    have first := (verifyOwnership_exit rnp lib codes userPublicKey companyPublicKey state).parsedPart
    have second := (verifyOwnership_exit rnp lib codes userPublicKey' companyPublicKey' state').parsedPart
    exact first.trans second.symm
  · obtain ⟨result, failed, _⟩ := compareCodes_of_no_match lib found
    rw [verifyOwnership_of_error rnp lib failed, verifyOwnership_of_error rnp lib failed]
    exact ⟨rfl, rfl, rfl, rfl, rfl, rfl⟩

theorem verifyOwnership_of_pit_rejected {now : Int64} {pitQRData : QString}
    (rejected : (parsePIT now pitQRData {}).1 = false)
    (ticketQRData userPublicKey companyPublicKey : QString) (state : RnpState ρ) :
    ((verifyOwnership rnp lib now pitQRData ticketQRData userPublicKey companyPublicKey).run state).1 =
      { errorMessage := text "Failed to parse PIT QR code" } := by
  rw [verifyOwnership_of_error rnp lib (compareCodes_of_pit_rejected lib rejected ticketQRData)]

theorem verifyOwnership_of_ticket_rejected {now : Int64} {pitQRData ticketQRData : QString}
    (accepted : (parsePIT now pitQRData {}).1 = true)
    (rejected : (parseTicket ticketQRData {}).1 = false) (userPublicKey companyPublicKey : QString)
    (state : RnpState ρ) :
    ((verifyOwnership rnp lib now pitQRData ticketQRData userPublicKey companyPublicKey).run state).1 = {
      pitParsed := true
      pitTimestamp := (parsePIT now pitQRData {}).2.timestamp
      errorMessage := text "Failed to parse ticket QR code" } := by
  obtain ⟨hash, timestamp, signature, reads, fresh⟩ := parsePIT_accepts accepted
  rw [verifyOwnership_of_error rnp lib (compareCodes_of_ticket_rejected lib reads fresh rejected),
    parsePIT_of_reads reads fresh]

theorem stagesOrdered (now : Int64) (pitQRData ticketQRData userPublicKey companyPublicKey : QString)
    (state : RnpState ρ) :
    StagesOrdered lib pitQRData userPublicKey companyPublicKey
      ((verifyOwnership rnp lib now pitQRData ticketQRData userPublicKey companyPublicKey).run
        state).1 := by
  by_cases pitAccepted : (parsePIT now pitQRData {}).1 = true
  · by_cases ticketAccepted : (parseTicket ticketQRData {}).1 = true
    · obtain ⟨pitHash, pitTimestamp, pitSignature, pitReads, fresh⟩ := parsePIT_accepts pitAccepted
      obtain ⟨bookingRef, ticketTimestamp, ticketHash, ticketSignature, ticketReads⟩ :=
        parseTicket_accepts ticketAccepted
      by_cases same : lib.toLower pitHash = lib.toLower ticketHash
      · have exit := verifyOwnership_exit rnp lib
          (compareCodes_of_match lib pitReads fresh ticketReads same) userPublicKey companyPublicKey state
        have part := exit.parsedPart
        refine ⟨fun _ => part.pitParsed, fun _ => part.ticketParsed, ?_, ?_⟩
        · intro signed
          obtain ⟨user, hashed⟩ := exit.pitSignature signed
          exact ⟨part.keysMatch, user, pitHash, pitTimestamp, pitSignature, pitReads, hashed⟩
        · intro signed
          exact ⟨part.keysMatch, exit.ticketSignature signed⟩
      · rw [verifyOwnership_of_error rnp lib
          (compareCodes_of_mismatch lib pitReads fresh ticketReads same)]
        exact ⟨fun _ => rfl, fun _ => rfl, fun signed => Bool.noConfusion signed,
          fun signed => Bool.noConfusion signed⟩
    · simp only [Bool.not_eq_true] at ticketAccepted
      rw [verifyOwnership_of_ticket_rejected rnp lib pitAccepted ticketAccepted]
      exact ⟨fun _ => rfl, fun matched => Bool.noConfusion matched,
        fun signed => Bool.noConfusion signed, fun signed => Bool.noConfusion signed⟩
  · simp only [Bool.not_eq_true] at pitAccepted
    rw [verifyOwnership_of_pit_rejected rnp lib pitAccepted]
    exact ⟨fun parsed => Bool.noConfusion parsed, fun matched => Bool.noConfusion matched,
      fun signed => Bool.noConfusion signed, fun signed => Bool.noConfusion signed⟩

theorem isValid_without_company {now : Int64} {pitQRData ticketQRData userPublicKey companyPublicKey : QString}
    {state : RnpState ρ}
    (valid : ((verifyOwnership rnp lib now pitQRData ticketQRData userPublicKey companyPublicKey).run
      state).1.isValid = true) :
    ((verifyOwnership rnp lib now pitQRData ticketQRData userPublicKey []).run state).1.isValid = true := by
  rw [isValid_iff_entitled] at valid ⊢
  obtain ⟨user, pitHash, pitTimestamp, pitSignature, bookingRef, ticketTimestamp, ticketHash,
    ticketSignature, pitReads, fresh, ticketReads, same, hashed, written, accepted, _⟩ := valid
  refine ⟨user, pitHash, pitTimestamp, pitSignature, bookingRef, ticketTimestamp, ticketHash,
    ticketSignature, pitReads, fresh, ticketReads, same, hashed, written, accepted, ?_⟩
  intro company
  exact absurd rfl company

theorem verification_stages (now : Int64) (pitQRData ticketQRData : QString) :
    let result := fun userPublicKey companyPublicKey (state : RnpState ρ) =>
      ((verifyOwnership rnp lib now pitQRData ticketQRData userPublicKey companyPublicKey).run state).1
    (∀ userPublicKey companyPublicKey userPublicKey' companyPublicKey' state state',
      SameParsedPart (result userPublicKey companyPublicKey state)
        (result userPublicKey' companyPublicKey' state')) ∧
    (∀ userPublicKey companyPublicKey state, StagesOrdered lib pitQRData userPublicKey companyPublicKey
      (result userPublicKey companyPublicKey state)) ∧
    ((parsePIT now pitQRData {}).1 = false → ∀ userPublicKey companyPublicKey state,
      result userPublicKey companyPublicKey state =
        { errorMessage := text "Failed to parse PIT QR code" }) ∧
    ((parsePIT now pitQRData {}).1 = true → (parseTicket ticketQRData {}).1 = false →
      ∀ userPublicKey companyPublicKey state, result userPublicKey companyPublicKey state = {
        pitParsed := true
        pitTimestamp := (parsePIT now pitQRData {}).2.timestamp
        errorMessage := text "Failed to parse ticket QR code" }) ∧
    ∀ userPublicKey companyPublicKey state,
      (result userPublicKey companyPublicKey state).isValid = true →
        (result userPublicKey [] state).isValid = true := by
  intro result
  refine ⟨?_, ?_, ?_, ?_, ?_⟩
  · exact sameParsedPart rnp lib now pitQRData ticketQRData
  · exact stagesOrdered rnp lib now pitQRData ticketQRData
  · intro rejected
    exact verifyOwnership_of_pit_rejected rnp lib rejected ticketQRData
  · intro accepted rejected
    exact verifyOwnership_of_ticket_rejected rnp lib accepted rejected
  · intro userPublicKey companyPublicKey state
    exact isValid_without_company rnp lib

end TicketOwnership

end SbbTicketing
