import SbbTicketing.IssuedCodes

/-! What is shown when signing fails: texts no parser accepts, so that no verification takes
them for a code, in either position and under any keys. -/

namespace SbbTicketing

open Qt

variable {ρ : Type} (rnp : Rnp ρ) (lib : QtLibrary)

namespace TicketOwnership

theorem ReadsPIT.parts {pitQRData publicKeyHash signature : QString} {timestamp : Int64}
    (reads : ReadsPIT pitQRData publicKeyHash timestamp signature) :
    (split pitQRData ':').length = 4 := by
  obtain ⟨stamp, parts, _⟩ := reads
  rw [parts]
  rfl

theorem ReadsTicket.parts {ticketQRData bookingRef publicKeyHash signature : QString}
    {timestamp : Int64} (reads : ReadsTicket ticketQRData bookingRef timestamp publicKeyHash signature) :
    (split ticketQRData ':').length = 5 := by
  obtain ⟨stamp, parts, _⟩ := reads
  rw [parts]
  rfl

theorem not_both_accepted (now : Int64) (qrData : QString) (out out' : ParsedCode) :
    ¬((parsePIT now qrData out).1 = true ∧ (parseTicket qrData out').1 = true) := by
  rintro ⟨pitAccepted, ticketAccepted⟩
  obtain ⟨_, _, _, pitReads, _⟩ := parsePIT_accepts pitAccepted
  obtain ⟨_, _, _, _, ticketReads⟩ := parseTicket_accepts ticketAccepted
  have four := pitReads.parts
  have five := ticketReads.parts
  omega

def NeverMatches (pitQRData ticketQRData : QString) : Prop :=
  ∀ (now : Int64) (userPublicKey companyPublicKey : QString) (state : RnpState ρ),
    let result := ((verifyOwnership rnp lib now pitQRData ticketQRData userPublicKey
      companyPublicKey).run state).1
    result.keysMatch = false ∧ result.isValid = false

structure Unpresentable (qrData : QString) : Prop where
  notPIT : ∀ now out, (parsePIT now qrData out).1 = false
  notTicket : ∀ out, (parseTicket qrData out).1 = false
  neverAsPIT : ∀ ticketQRData, NeverMatches rnp lib qrData ticketQRData
  neverAsTicket : ∀ pitQRData, NeverMatches rnp lib pitQRData qrData

theorem neverMatches_of_parts {pitQRData ticketQRData : QString}
    (parts : (split pitQRData ':').length ≠ 4 ∨ (split ticketQRData ':').length ≠ 5) :
    NeverMatches rnp lib pitQRData ticketQRData := by
  intro now userPublicKey companyPublicKey state result
  have unread {hash ref ticketHash signature ticketSignature : QString} {timestamp ticketTimestamp : Int64}
      (pitReads : ReadsPIT pitQRData hash timestamp signature)
      (ticketReads : ReadsTicket ticketQRData ref ticketTimestamp ticketHash ticketSignature) : False := by
    rcases parts with notFour | notFive
    · exact notFour pitReads.parts
    · exact notFive ticketReads.parts
  refine ⟨?_, ?_⟩
  · rw [Bool.eq_false_iff, ne_eq, keysMatch_iff]
    rintro ⟨_, _, _, _, _, _, _, pitReads, _, ticketReads, _⟩
    exact unread pitReads ticketReads
  · rw [Bool.eq_false_iff, ne_eq, isValid_iff_entitled]
    rintro ⟨_, _, _, _, _, _, _, _, pitReads, _, ticketReads, _⟩
    exact unread pitReads ticketReads

theorem unpresentable_of_parts {qrData : QString} (notFour : (split qrData ':').length ≠ 4)
    (notFive : (split qrData ':').length ≠ 5) : Unpresentable rnp lib qrData where
  notPIT now out := by
    rw [Bool.eq_false_iff]
    intro accepted
    obtain ⟨_, _, _, reads, _⟩ := parsePIT_accepts accepted
    exact notFour reads.parts
  notTicket out := by
    rw [Bool.eq_false_iff]
    intro accepted
    obtain ⟨_, _, _, _, reads⟩ := parseTicket_accepts accepted
    exact notFive reads.parts
  neverAsPIT ticketQRData := neverMatches_of_parts rnp lib (Or.inl notFour)
  neverAsTicket pitQRData := neverMatches_of_parts rnp lib (Or.inr notFive)

end TicketOwnership

open TicketOwnership

def CallFails {α : Type} (action : ExceptT QString (RnpM ρ) α) (state : RnpState ρ) : Prop :=
  (action.run.run { state with failed := false }).2.failed = true

def Throws {α : Type} (action : ExceptT QString (RnpM ρ) α) (state : RnpState ρ) : Prop :=
  (action.run.run state).1.toOption = none

namespace IdentificationToken

theorem throws_of_callFails {token : IdentificationToken} {clock : Int64} {state : RnpState ρ}
    (fails : CallFails (token.tokenData rnp lib clock) state) :
    Throws (token.tokenData rnp lib clock) state := by
  have cleared := (tokenData_run rnp lib token clock { state with failed := false }).2.2
  rw [CallFails] at fails
  rw [fails, Bool.false_or] at cleared
  have unsigned : token.signatureAt rnp clock state = none := Option.isNone_iff_eq_none.mp cleared.symm
  rw [Throws, (tokenData_run rnp lib token clock state).1, unsigned]
  rfl

theorem generate_of_throws {token : IdentificationToken} {times : GenerationTimes} {state : RnpState ρ}
    (throws : Throws (token.tokenData rnp lib times.clock) state) :
    ((token.generateQRCodeWithTimestamp rnp lib times).run state).1.qrImage =
      some (token.fallbackData lib times.fallbackClock) := by
  obtain ⟨after, ran, _⟩ := generateQRCodeWithTimestamp_run rnp lib token times state
  rw [Throws, (tokenData_run rnp lib token times.clock state).1, Option.map_eq_none_iff] at throws
  rw [ran, throws]
  rfl

theorem split_fallbackData (token : IdentificationToken) (clock : Int64) :
    split (token.fallbackData lib clock) ':' =
      [text "PIT", number clock, toHex (lib.sha256 (toUtf8 token.publicKey))] := by
  have noPercent : '%' ∉ number clock := IsMark.percent.not_mem_number clock
  have first : arg (text "PIT:%1:%2") (number clock) =
      (text "PIT:" ++ number clock ++ text ":") ++ text "%2" := by
    rw [show text "PIT:%1:%2" = text "PIT:" ++ text "%1:%2" from rfl, arg_append (by decide)]
    rw [show arg (text "%1:%2") (number clock) = number clock ++ text ":%2" from rfl]
    simp [text]
  have filled (hash : QString) : arg (text "%2") hash = hash := by
    rw [show arg (text "%2") hash = hash ++ [] from rfl, List.append_nil]
  rw [fallbackData, first, arg_append (by simp [text, noPercent]), filled, split_eq_iff]
  refine ⟨by simp, ?_, by simp [List.intercalate, text]⟩
  have plainTag : ':' ∉ text "PIT" := by decide
  simp [plainTag, IsMark.colon.not_mem_number, IsMark.colon.not_mem_toHex]

end IdentificationToken

namespace BookingReference

theorem throws_of_callFails {page : BookingReference} {ticket : TicketInfo} {now : Int64}
    {state : RnpState ρ} (fails : CallFails (page.ticketData rnp lib ticket now) state) :
    Throws (page.ticketData rnp lib ticket now) state := by
  cases company : page.companyInfo with
  | none =>
      simp only [Throws, ticketData, company]
      rfl
  | some companyInfo =>
      by_cases valid : companyInfo.isValid = true
      · by_cases unsigned : ticket.signedData = []
        · have cleared := ticketData_unsigned rnp lib company valid unsigned now { state with failed := false }
          rw [CallFails, cleared.2.2, Bool.false_or] at fails
          have nothing : signatureAt rnp companyInfo ticket now state = none :=
            Option.isNone_iff_eq_none.mp fails
          rw [Throws, (ticketData_unsigned rnp lib company valid unsigned now state).1, nothing]
          rfl
        · rw [CallFails, ticketData_signed rnp lib company valid unsigned] at fails
          cases fails
      · simp only [Throws, ticketData, company, valid]
        rfl

theorem show_of_throws {page : BookingReference} {ticket : TicketInfo} {now : Int64} {state : RnpState ρ}
    (throws : Throws (page.ticketData rnp lib ticket now) state) :
    ((page.showQRCode rnp lib ticket now).run state).1.qrImage = some ticket.bookingReference := by
  rw [showQRCode_run]
  simp only
  rw [Throws] at throws
  rw [throws]
  rfl

end BookingReference

theorem failed_signing_unpresentable :
    (∀ qrData now out out', ¬((parsePIT now qrData out).1 = true ∧ (parseTicket qrData out').1 = true)) ∧
    (∀ (token : IdentificationToken) (times : GenerationTimes) (state : RnpState ρ),
      let action := token.tokenData rnp lib times.clock
      let fallback := token.fallbackData lib times.fallbackClock
      (CallFails action state → Throws action state) ∧
      (Throws action state →
        ((token.generateQRCodeWithTimestamp rnp lib times).run state).1.qrImage = some fallback) ∧
      Unpresentable rnp lib fallback) ∧
    (∀ (page : BookingReference) (ticket : TicketInfo) (now : Int64) (state : RnpState ρ),
      let action := page.ticketData rnp lib ticket now
      (CallFails action state → Throws action state) ∧
      (Throws action state →
        ((page.showQRCode rnp lib ticket now).run state).1.qrImage = some ticket.bookingReference) ∧
      Unpresentable rnp lib ticket.bookingReference) := by
  refine ⟨fun qrData now => not_both_accepted now qrData, ?_, ?_⟩
  · intro token times state action fallback
    refine ⟨IdentificationToken.throws_of_callFails rnp lib, IdentificationToken.generate_of_throws rnp lib, ?_⟩
    apply unpresentable_of_parts
    · simp [fallback, IdentificationToken.split_fallbackData]
    · simp [fallback, IdentificationToken.split_fallbackData]
  · intro page ticket now state action
    have whole := split_single (IsMark.colon.not_mem_reference ticket)
    refine ⟨BookingReference.throws_of_callFails rnp lib, BookingReference.show_of_throws rnp lib, ?_⟩
    apply unpresentable_of_parts
    · simp [whole]
    · simp [whole]

end SbbTicketing
