import SbbTicketing.Outcomes
import SbbTicketing.RnpChecks
import SbbTicketing.TicketOwnershipCore

/-! What the two parsers accept and what a valid verification means. -/

namespace SbbTicketing

open Qt Outcomes

namespace TicketOwnership

variable {ρ : Type} (rnp : Rnp ρ) (lib : QtLibrary)

/-- The four fields of a PIT, whatever its age. -/
def ReadsPIT (pitQRData publicKeyHash : QString) (timestamp : Int64) (signature : QString) : Prop :=
  ∃ stamp, split pitQRData ':' = [text "PIT", publicKeyHash, stamp, signature] ∧
    toLongLong stamp = some timestamp

def ReadsTicket (ticketQRData bookingRef : QString) (timestamp : Int64)
    (publicKeyHash signature : QString) : Prop :=
  ∃ stamp, split ticketQRData ':' = [text "TICKET", bookingRef, stamp, publicKeyHash, signature] ∧
    toLongLong stamp = some timestamp

theorem ReadsPIT.unique {pitQRData hash hash' signature signature' : QString}
    {timestamp timestamp' : Int64} (reads : ReadsPIT pitQRData hash timestamp signature)
    (other : ReadsPIT pitQRData hash' timestamp' signature') :
    hash = hash' ∧ timestamp = timestamp' ∧ signature = signature' := by
  obtain ⟨stamp, parts, value⟩ := reads
  obtain ⟨stamp', parts', value'⟩ := other
  have same := parts.symm.trans parts'
  simp only [List.cons.injEq, and_true, true_and] at same
  obtain ⟨rfl, rfl, rfl⟩ := same
  exact ⟨rfl, Option.some.inj (value.symm.trans value'), rfl⟩

theorem ReadsTicket.unique {ticketQRData bookingRef bookingRef' hash hash' signature signature' : QString}
    {timestamp timestamp' : Int64} (reads : ReadsTicket ticketQRData bookingRef timestamp hash signature)
    (other : ReadsTicket ticketQRData bookingRef' timestamp' hash' signature') :
    bookingRef = bookingRef' ∧ timestamp = timestamp' ∧ hash = hash' ∧ signature = signature' := by
  obtain ⟨stamp, parts, value⟩ := reads
  obtain ⟨stamp', parts', value'⟩ := other
  have same := parts.symm.trans parts'
  simp only [List.cons.injEq, and_true, true_and] at same
  obtain ⟨rfl, rfl, rfl, rfl⟩ := same
  exact ⟨rfl, Option.some.inj (value.symm.trans value'), rfl, rfl⟩

def Fresh (now timestamp : Int64) : Prop := 0 ≤ now - timestamp ∧ now - timestamp ≤ 20

instance (now timestamp : Int64) : Decidable (Fresh now timestamp) :=
  inferInstanceAs (Decidable (_ ∧ _))

/-- Where the subtraction does not go below the type, a wrapped age cannot look fresh. -/
theorem fresh_iff {now timestamp : Int64} (bound : -2 ^ 63 ≤ now.toInt - timestamp.toInt) :
    Fresh now timestamp ↔ timestamp.toInt ≤ now.toInt ∧ now.toInt ≤ timestamp.toInt + 20 := by
  have nowUpper := now.toInt_lt
  have timestampLower := timestamp.le_toInt
  have zero : (0 : Int64).toInt = 0 := by decide
  have limit : (20 : Int64).toInt = 20 := by decide
  simp only [Fresh, Int64.le_iff_toInt_le, Int64.toInt_sub, zero, limit, Int.bmod]
  omega

theorem fresh_iff_of_nonneg {now timestamp : Int64} (nonneg : 0 ≤ now) :
    Fresh now timestamp ↔ timestamp.toInt ≤ now.toInt ∧ now.toInt ≤ timestamp.toInt + 20 := by
  have nowLower : 0 ≤ now.toInt := Int64.le_iff_toInt_le.mp nonneg
  have upper := timestamp.toInt_lt
  exact fresh_iff (by omega)

theorem parsePIT_of_reads {now timestamp : Int64} {pitQRData publicKeyHash signature : QString}
    (reads : ReadsPIT pitQRData publicKeyHash timestamp signature) (fresh : Fresh now timestamp)
    (out : ParsedCode) :
    parsePIT now pitQRData out = (true, ⟨publicKeyHash, timestamp, signature⟩) := by
  obtain ⟨stamp, parts, value⟩ := reads
  have notOld : ¬now - timestamp > 20 := Int64.not_lt.mpr fresh.2
  have notFuture : ¬now - timestamp < 0 := Int64.not_lt.mpr fresh.1
  simp [parsePIT, parts, value, notOld, notFuture]

theorem parsePIT_accepts {now : Int64} {pitQRData : QString} {out : ParsedCode}
    (accepted : (parsePIT now pitQRData out).1 = true) :
    ∃ publicKeyHash timestamp signature,
      ReadsPIT pitQRData publicKeyHash timestamp signature ∧ Fresh now timestamp := by
  simp only [parsePIT] at accepted
  split at accepted
  · rename_i tag publicKey stamp signature parts
    by_cases tagged : tag = text "PIT"
    · subst tagged
      cases value : toLongLong stamp with
      | none => simp [value] at accepted
      | some timestamp =>
          by_cases old : now - timestamp > 20
          · simp [value, old] at accepted
          · by_cases future : now - timestamp < 0
            · simp [value, old, future] at accepted
            · exact ⟨publicKey, timestamp, signature, ⟨stamp, parts, value⟩,
                Int64.not_lt.mp future, Int64.not_lt.mp old⟩
    · simp [tagged] at accepted
  · simp at accepted

theorem parseTicket_of_reads {timestamp : Int64} {ticketQRData bookingRef publicKeyHash signature : QString}
    (reads : ReadsTicket ticketQRData bookingRef timestamp publicKeyHash signature) (out : ParsedCode) :
    parseTicket ticketQRData out =
      (true, ⟨bookingRef ++ text ":" ++ publicKeyHash, timestamp, signature⟩) := by
  obtain ⟨stamp, parts, value⟩ := reads
  simp [parseTicket, parts, value]

theorem parseTicket_accepts {ticketQRData : QString} {out : ParsedCode}
    (accepted : (parseTicket ticketQRData out).1 = true) :
    ∃ bookingRef timestamp publicKeyHash signature,
      ReadsTicket ticketQRData bookingRef timestamp publicKeyHash signature := by
  simp only [parseTicket] at accepted
  split at accepted
  · rename_i tag bookingRef stamp publicKeyHash signature parts
    by_cases tagged : tag = text "TICKET"
    · subst tagged
      cases value : toLongLong stamp with
      | none => simp [value] at accepted
      | some timestamp => exact ⟨bookingRef, timestamp, publicKeyHash, signature, stamp, parts, value⟩
    · simp [tagged] at accepted
  · simp at accepted

theorem split_packed {timestamp : Int64} {ticketQRData bookingRef publicKeyHash signature : QString}
    (reads : ReadsTicket ticketQRData bookingRef timestamp publicKeyHash signature) :
    split (bookingRef ++ text ":" ++ publicKeyHash) ':' = [bookingRef, publicKeyHash] := by
  obtain ⟨stamp, parts, _⟩ := reads
  have pieces (piece : QString) (member : piece ∈ split ticketQRData ':') : ':' ∉ piece :=
    not_mem_of_mem_split member
  rw [parts] at pieces
  have first := pieces bookingRef (by simp)
  have second := pieces publicKeyHash (by simp)
  have colon : bookingRef ++ text ":" ++ publicKeyHash = bookingRef ++ ':' :: publicKeyHash := by
    simp [text]
  rw [colon, split_append first, split_single second]

def compared (pitTimestamp ticketTimestamp : Int64) (bookingReference : QString) : VerificationResult :=
  { pitParsed := true, ticketParsed := true, keysMatch := true, pitTimestamp, ticketTimestamp,
    bookingReference }

theorem compareCodes_of_match {now pitTimestamp ticketTimestamp : Int64}
    {pitQRData ticketQRData pitHash pitSignature bookingRef ticketHash ticketSignature : QString}
    (pitReads : ReadsPIT pitQRData pitHash pitTimestamp pitSignature)
    (fresh : Fresh now pitTimestamp)
    (ticketReads : ReadsTicket ticketQRData bookingRef ticketTimestamp ticketHash ticketSignature)
    (same : lib.toLower pitHash = lib.toLower ticketHash) :
    compareCodes lib now pitQRData ticketQRData = .ok (compared pitTimestamp ticketTimestamp bookingRef,
      ⟨pitHash, pitTimestamp, pitSignature⟩,
      ⟨bookingRef ++ text ":" ++ ticketHash, ticketTimestamp, ticketSignature⟩) := by
  have packed := split_packed ticketReads
  simp only [compareCodes, parsePIT_of_reads pitReads fresh, parseTicket_of_reads ticketReads]
  simp only [packed, same, BEq.rfl, Bool.not_true]
  rfl

def Match (now : Int64) (pitQRData ticketQRData : QString) : Prop :=
  ∃ pitHash pitTimestamp pitSignature bookingRef ticketTimestamp ticketHash ticketSignature,
    ReadsPIT pitQRData pitHash pitTimestamp pitSignature ∧ Fresh now pitTimestamp ∧
    ReadsTicket ticketQRData bookingRef ticketTimestamp ticketHash ticketSignature ∧
    lib.toLower pitHash = lib.toLower ticketHash

theorem compareCodes_of_pit_rejected {now : Int64} {pitQRData : QString}
    (rejected : (parsePIT now pitQRData {}).1 = false) (ticketQRData : QString) :
    compareCodes lib now pitQRData ticketQRData =
      .error { errorMessage := text "Failed to parse PIT QR code" } := by
  obtain ⟨accepted, out, parsed⟩ : ∃ accepted out, parsePIT now pitQRData {} = (accepted, out) :=
    ⟨_, _, rfl⟩
  simp only [parsed] at rejected
  subst rejected
  simp only [compareCodes, parsed]
  rfl

theorem compareCodes_of_ticket_rejected {now pitTimestamp : Int64}
    {pitQRData ticketQRData pitHash pitSignature : QString}
    (pitReads : ReadsPIT pitQRData pitHash pitTimestamp pitSignature) (fresh : Fresh now pitTimestamp)
    (rejected : (parseTicket ticketQRData {}).1 = false) :
    compareCodes lib now pitQRData ticketQRData = .error {
      pitParsed := true
      pitTimestamp
      errorMessage := text "Failed to parse ticket QR code" } := by
  obtain ⟨accepted, out, parsed⟩ : ∃ accepted out, parseTicket ticketQRData {} = (accepted, out) :=
    ⟨_, _, rfl⟩
  simp only [parsed] at rejected
  subst rejected
  simp only [compareCodes, parsePIT_of_reads pitReads fresh, parsed]
  rfl

theorem compareCodes_of_mismatch {now pitTimestamp ticketTimestamp : Int64}
    {pitQRData ticketQRData pitHash pitSignature bookingRef ticketHash ticketSignature : QString}
    (pitReads : ReadsPIT pitQRData pitHash pitTimestamp pitSignature)
    (fresh : Fresh now pitTimestamp)
    (ticketReads : ReadsTicket ticketQRData bookingRef ticketTimestamp ticketHash ticketSignature)
    (different : lib.toLower pitHash ≠ lib.toLower ticketHash) :
    compareCodes lib now pitQRData ticketQRData = .error {
      compared pitTimestamp ticketTimestamp bookingRef with
      keysMatch := false
      errorMessage := text "Public key hashes do not match - ticket does not belong to this user" } := by
  have unequal : (lib.toLower pitHash == lib.toLower ticketHash) = false := by
    rwa [beq_eq_false_iff_ne]
  simp only [compareCodes, parsePIT_of_reads pitReads fresh, parseTicket_of_reads ticketReads,
    split_packed ticketReads, unequal]
  rfl

theorem compareCodes_of_no_match {now : Int64} {pitQRData ticketQRData : QString}
    (none : ¬Match lib now pitQRData ticketQRData) :
    ∃ result, compareCodes lib now pitQRData ticketQRData = .error result ∧
      result.isValid = false ∧ result.keysMatch = false := by
  by_cases pitAccepted : (parsePIT now pitQRData {}).1 = true
  · obtain ⟨pitHash, pitTimestamp, pitSignature, pitReads, fresh⟩ := parsePIT_accepts pitAccepted
    by_cases ticketAccepted : (parseTicket ticketQRData {}).1 = true
    · obtain ⟨bookingRef, ticketTimestamp, ticketHash, ticketSignature, ticketReads⟩ :=
        parseTicket_accepts ticketAccepted
      refine ⟨_, compareCodes_of_mismatch lib pitReads fresh ticketReads ?_, rfl, rfl⟩
      intro same
      exact none ⟨pitHash, pitTimestamp, pitSignature, bookingRef, ticketTimestamp, ticketHash,
        ticketSignature, pitReads, fresh, ticketReads, same⟩
    · simp only [Bool.not_eq_true] at ticketAccepted
      exact ⟨_, compareCodes_of_ticket_rejected lib pitReads fresh ticketAccepted, rfl, rfl⟩
  · simp only [Bool.not_eq_true] at pitAccepted
    exact ⟨_, compareCodes_of_pit_rejected lib pitAccepted ticketQRData, rfl, rfl⟩

structure SameParsedPart (first second : VerificationResult) : Prop where
  pitParsed : first.pitParsed = second.pitParsed
  ticketParsed : first.ticketParsed = second.ticketParsed
  keysMatch : first.keysMatch = second.keysMatch
  bookingReference : first.bookingReference = second.bookingReference
  pitTimestamp : first.pitTimestamp = second.pitTimestamp
  ticketTimestamp : first.ticketTimestamp = second.ticketTimestamp

namespace SameParsedPart

variable {first second third : VerificationResult}

theorem symm (same : SameParsedPart first second) : SameParsedPart second first :=
  ⟨same.pitParsed.symm, same.ticketParsed.symm, same.keysMatch.symm, same.bookingReference.symm,
    same.pitTimestamp.symm, same.ticketTimestamp.symm⟩

theorem trans (same : SameParsedPart first second) (same' : SameParsedPart second third) :
    SameParsedPart first third :=
  ⟨same.pitParsed.trans same'.pitParsed, same.ticketParsed.trans same'.ticketParsed,
    same.keysMatch.trans same'.keysMatch, same.bookingReference.trans same'.bookingReference,
    same.pitTimestamp.trans same'.pitTimestamp, same.ticketTimestamp.trans same'.ticketTimestamp⟩

end SameParsedPart

section

variable (draws : Nat → ρ) (call : Nat) (userPublicKey companyPublicKey : QString)
  (codes : VerificationResult) (pit ticket : ParsedCode)

def PITVerifies : Prop :=
  pit.signature ≠ [] ∧
    rnp.accepts draws call (toUtf8 userPublicKey) (toUtf8 (userPublicKey ++ number codes.pitTimestamp))
      (fromHex (toUtf8 pit.signature)) = true

def TicketVerifies : Prop :=
  ticket.signature ≠ [] ∧
    rnp.accepts draws call (toUtf8 companyPublicKey)
      (toUtf8 (userPublicKey ++ codes.bookingReference ++ number codes.ticketTimestamp))
      (fromHex (toUtf8 ticket.signature)) = true

/-- Everything verification looks at once the codes match, with the calls of the two signature
checks counted from the start. -/
def SignedBy : Prop :=
  userPublicKey ≠ [] ∧ lib.toLower (keyHash lib userPublicKey) = lib.toLower pit.subject ∧
    PITVerifies rnp draws call userPublicKey codes pit ∧
    (companyPublicKey ≠ [] →
      TicketVerifies rnp draws (call + 7) userPublicKey companyPublicKey codes ticket)

/-- The result when the ticket's signature comes up: a user that was given has been checked. -/
def identified : VerificationResult :=
  if userPublicKey = [] then
    { codes with
      userPublicKey := []
      errorMessage :=
        text "Public key hashes match, but signature verification requires full public key" }
  else { codes with userPublicKey, pitSignatureValid := true }

def Presented : Prop :=
  userPublicKey ≠ [] → lib.toLower (keyHash lib userPublicKey) = lib.toLower pit.subject ∧
    PITVerifies rnp draws call userPublicKey codes pit

/-- The exits of verification after the codes match, in the order of the source. -/
inductive Exit : VerificationResult → Prop
  | otherHash (user : userPublicKey ≠ [])
      (different : lib.toLower (keyHash lib userPublicKey) ≠ lib.toLower pit.subject) :
      Exit { codes with
        errorMessage := text "Provided public key does not match hash in PIT", isValid := false }
  | pitForged (user : userPublicKey ≠ []) (forged : ¬PITVerifies rnp draws call userPublicKey codes pit) :
      Exit { codes with
        userPublicKey
        pitSignatureValid := false
        errorMessage := text "PIT signature verification failed - invalid identity token" }
  | ticketForged {later : Nat} (presented : Presented rnp lib draws call userPublicKey codes pit)
      (company : companyPublicKey ≠ []) (counted : userPublicKey ≠ [] → later = call + 7)
      (forged : ¬TicketVerifies rnp draws later userPublicKey companyPublicKey codes ticket) :
      Exit { identified userPublicKey codes with
        ticketSignatureValid := false
        errorMessage := text "Ticket signature verification failed - invalid or forged ticket" }
  | ticketUnchecked (presented : Presented rnp lib draws call userPublicKey codes pit)
      (noCompany : companyPublicKey = []) :
      Exit (conclude companyPublicKey { identified userPublicKey codes with
        ticketSignatureValid := false
        errorMessage := text "Cannot verify ticket signature: company public key not provided" })
  | ticketVerified {later : Nat} (presented : Presented rnp lib draws call userPublicKey codes pit)
      (company : companyPublicKey ≠ []) (counted : userPublicKey ≠ [] → later = call + 7)
      (verified : TicketVerifies rnp draws later userPublicKey companyPublicKey codes ticket) :
      Exit (conclude companyPublicKey
        { identified userPublicKey codes with ticketSignatureValid := true })

end

theorem explain_eq (result : VerificationResult) :
    ∃ message, explain result = { result with errorMessage := message } := by
  simp only [explain]
  by_cases valid : result.isValid = true
  · exact ⟨_, if_pos valid⟩
  · rw [if_neg valid]
    by_cases silent : result.errorMessage.isEmpty = true
    · exact ⟨_, if_pos silent⟩
    · exact ⟨result.errorMessage, if_neg silent⟩

theorem conclude_eq (companyPublicKey : QString) (result : VerificationResult) :
    ∃ message, conclude companyPublicKey result = { result with
      isValid := result.pitParsed && result.ticketParsed && result.pitSignatureValid &&
        result.keysMatch && (companyPublicKey.isEmpty || result.ticketSignatureValid)
      errorMessage := message } := by
  simp only [conclude]
  by_cases noCompany : companyPublicKey.isEmpty = true
  · simpa [noCompany] using explain_eq _
  · simpa [noCompany] using explain_eq _

theorem conclude_keeps (companyPublicKey : QString) (result : VerificationResult) :
    SameParsedPart (conclude companyPublicKey result) result := by
  obtain ⟨message, same⟩ := conclude_eq companyPublicKey result
  rw [same]
  exact ⟨rfl, rfl, rfl, rfl, rfl, rfl⟩

theorem conclude_flags (companyPublicKey : QString) (result : VerificationResult) :
    (conclude companyPublicKey result).pitSignatureValid = result.pitSignatureValid ∧
      (conclude companyPublicKey result).ticketSignatureValid = result.ticketSignatureValid := by
  obtain ⟨message, same⟩ := conclude_eq companyPublicKey result
  rw [same]
  exact ⟨rfl, rfl⟩

theorem conclude_isValid (companyPublicKey : QString) (result : VerificationResult) :
    (conclude companyPublicKey result).isValid = (result.pitParsed && result.ticketParsed &&
      result.pitSignatureValid && result.keysMatch &&
      (companyPublicKey.isEmpty || result.ticketSignatureValid)) := by
  obtain ⟨message, same⟩ := conclude_eq companyPublicKey result
  rw [same]

theorem identified_keeps (userPublicKey : QString) (codes : VerificationResult) :
    SameParsedPart (identified userPublicKey codes) codes := by
  unfold identified
  split
  · exact ⟨rfl, rfl, rfl, rfl, rfl, rfl⟩
  · exact ⟨rfl, rfl, rfl, rfl, rfl, rfl⟩

theorem identified_flags (userPublicKey bookingRef : QString) (pitTimestamp ticketTimestamp : Int64) :
    let result := identified userPublicKey (compared pitTimestamp ticketTimestamp bookingRef)
    result.isValid = false ∧ (result.pitSignatureValid = true ↔ userPublicKey ≠ []) := by
  intro result
  by_cases anonymous : userPublicKey = []
  · simp [result, identified, anonymous, compared]
  · simp [result, identified, anonymous, compared]

section

variable {rnp lib} {draws : Nat → ρ} {call : Nat} {userPublicKey companyPublicKey : QString}

theorem Exit.parsedPart {codes result : VerificationResult} {pit ticket : ParsedCode}
    (exit : Exit rnp lib draws call userPublicKey companyPublicKey codes pit ticket result) :
    SameParsedPart result codes := by
  have named (ticketSignatureValid : Bool) (message : QString) :
      SameParsedPart { identified userPublicKey codes with
        ticketSignatureValid, errorMessage := message } codes := by
    have known := identified_keeps userPublicKey codes
    exact ⟨known.1, known.2, known.3, known.4, known.5, known.6⟩
  cases exit with
  | otherHash user different => exact ⟨rfl, rfl, rfl, rfl, rfl, rfl⟩
  | pitForged user forged => exact ⟨rfl, rfl, rfl, rfl, rfl, rfl⟩
  | ticketForged presented company counted forged => exact named _ _
  | ticketUnchecked presented noCompany => exact (conclude_keeps _ _).trans (named _ _)
  | ticketVerified presented company counted verified => exact (conclude_keeps _ _).trans (named _ _)

variable {pitTimestamp ticketTimestamp : Int64} {bookingRef : QString} {pit ticket : ParsedCode}
  {result : VerificationResult}

theorem concluded_isValid_iff (companyPublicKey message : QString) (ticketSignatureValid : Bool) :
    (conclude companyPublicKey
        { identified userPublicKey (compared pitTimestamp ticketTimestamp bookingRef) with
          ticketSignatureValid, errorMessage := message }).isValid = true ↔
      userPublicKey ≠ [] ∧ (companyPublicKey = [] ∨ ticketSignatureValid = true) := by
  have known := identified_keeps userPublicKey (compared pitTimestamp ticketTimestamp bookingRef)
  have flags := (identified_flags userPublicKey bookingRef pitTimestamp ticketTimestamp).2
  rw [conclude_isValid]
  simp only [known.pitParsed, known.ticketParsed, known.keysMatch, Bool.and_eq_true, Bool.or_eq_true,
    flags, List.isEmpty_iff]
  simp [compared]

theorem Exit.isValid_iff
    (exit : Exit rnp lib draws call userPublicKey companyPublicKey
      (compared pitTimestamp ticketTimestamp bookingRef) pit ticket result) :
    result.isValid = true ↔ SignedBy rnp lib draws call userPublicKey companyPublicKey
      (compared pitTimestamp ticketTimestamp bookingRef) pit ticket := by
  cases exit with
  | otherHash user different =>
      refine iff_of_false Bool.false_ne_true ?_
      rintro ⟨_, same, _⟩
      exact different same
  | pitForged user forged =>
      refine iff_of_false Bool.false_ne_true ?_
      rintro ⟨_, _, verifies, _⟩
      exact forged verifies
  | ticketForged presented company counted forged =>
      have invalid := (identified_flags userPublicKey bookingRef pitTimestamp ticketTimestamp).1
      refine iff_of_false (by simp [invalid]) ?_
      rintro ⟨user, _, _, companySigned⟩
      exact forged (counted user ▸ companySigned company)
  | ticketUnchecked presented noCompany =>
      rw [concluded_isValid_iff]
      constructor
      · rintro ⟨user, _⟩
        exact ⟨user, (presented user).1, (presented user).2, fun company => absurd noCompany company⟩
      · exact fun signed => ⟨signed.1, Or.inl noCompany⟩
  | ticketVerified presented company counted verified =>
      rw [concluded_isValid_iff]
      constructor
      · rintro ⟨user, _⟩
        exact ⟨user, (presented user).1, (presented user).2, fun _ => counted user ▸ verified⟩
      · exact fun signed => ⟨signed.1, Or.inr rfl⟩

theorem Presented.sameHash (presented : Presented rnp lib draws call userPublicKey
      (compared pitTimestamp ticketTimestamp bookingRef) pit)
    (valid : (identified userPublicKey
      (compared pitTimestamp ticketTimestamp bookingRef)).pitSignatureValid = true) :
    userPublicKey ≠ [] ∧ lib.toLower (keyHash lib userPublicKey) = lib.toLower pit.subject := by
  have user := (identified_flags userPublicKey bookingRef pitTimestamp ticketTimestamp).2.mp valid
  exact ⟨user, (presented user).1⟩

theorem Exit.pitSignature
    (exit : Exit rnp lib draws call userPublicKey companyPublicKey
      (compared pitTimestamp ticketTimestamp bookingRef) pit ticket result)
    (valid : result.pitSignatureValid = true) :
    userPublicKey ≠ [] ∧ lib.toLower (keyHash lib userPublicKey) = lib.toLower pit.subject := by
  cases exit with
  | otherHash user different => exact Bool.noConfusion valid
  | pitForged user forged => exact Bool.noConfusion valid
  | ticketForged presented company counted forged => exact presented.sameHash valid
  | ticketUnchecked presented noCompany =>
      rw [(conclude_flags _ _).1] at valid
      exact presented.sameHash valid
  | ticketVerified presented company counted verified =>
      rw [(conclude_flags _ _).1] at valid
      exact presented.sameHash valid

theorem Exit.ticketSignature
    (exit : Exit rnp lib draws call userPublicKey companyPublicKey
      (compared pitTimestamp ticketTimestamp bookingRef) pit ticket result)
    (valid : result.ticketSignatureValid = true) :
    companyPublicKey ≠ [] ∧ (userPublicKey = [] ∨ result.pitSignatureValid = true) := by
  cases exit with
  | otherHash user different => exact Bool.noConfusion valid
  | pitForged user forged => exact Bool.noConfusion valid
  | ticketForged presented company counted forged => exact Bool.noConfusion valid
  | ticketUnchecked presented noCompany =>
      rw [(conclude_flags _ _).2] at valid
      exact Bool.noConfusion valid
  | ticketVerified presented company counted verified =>
      refine ⟨company, or_iff_not_imp_left.mpr fun user => ?_⟩
      rw [(conclude_flags _ _).1]
      exact (identified_flags userPublicKey bookingRef pitTimestamp ticketTimestamp).2.mpr user

end

theorem verifyDetached_ends (publicKey data signature : QString) (state : RnpState ρ) :
    Ends (verifyDetached rnp publicKey data signature) state fun accepted after =>
      (accepted = true ↔ publicKey ≠ [] ∧ signature ≠ [] ∧
        rnp.accepts state.draws state.calls (toUtf8 publicKey) (toUtf8 data)
          (fromHex (toUtf8 signature)) = true) ∧
      after.draws = state.draws ∧ (accepted = true → after.calls = state.calls + 7) := by
  obtain ⟨accepted, after, ran, meaning⟩ := verifyDetached_cases rnp publicKey data signature state
  rw [Ends, StateT.run, ran]
  exact meaning

theorem verifyTicketSignature_ends (userPublicKey companyPublicKey : QString)
    (codes : VerificationResult) (ticket : ParsedCode) (company : companyPublicKey ≠ [])
    (state : RnpState ρ) :
    Ends (verifyTicketSignature rnp userPublicKey codes.bookingReference codes.ticketTimestamp
      ticket.signature companyPublicKey) state fun accepted _ => (accepted = true ↔
        TicketVerifies rnp state.draws state.calls userPublicKey companyPublicKey codes ticket) := by
  refine Ends.mono (verifyDetached_ends rnp _ _ _ state) ?_
  rintro accepted after ⟨meaning, _⟩
  rw [meaning]
  exact and_iff_right company

theorem verifyStages_exit {now : Int64} {pitQRData ticketQRData : QString}
    {codes : VerificationResult} {pit ticket : ParsedCode}
    (found : compareCodes lib now pitQRData ticketQRData = .ok (codes, pit, ticket))
    (userPublicKey companyPublicKey : QString) (state : RnpState ρ) :
    let exits := fun (result : VerificationResult) (_ : RnpState ρ) =>
      Exit rnp lib state.draws state.calls userPublicKey companyPublicKey codes pit ticket result
    Attempts (verifyStages rnp lib now pitQRData ticketQRData userPublicKey companyPublicKey) state
      exits exits := by
  intro exits
  unfold verifyStages
  simp only [found, verifyStages.liftExcept]
  refine attempts_bind (attempts_pure ?_)
  by_cases anonymous : userPublicKey = []
  · subst anonymous
    have known : identified [] codes = { codes with
        userPublicKey := []
        errorMessage :=
          text "Public key hashes match, but signature verification requires full public key" } :=
      if_pos rfl
    have presented : Presented rnp lib state.draws state.calls [] codes pit :=
      fun user => absurd rfl user
    simp only [List.isEmpty_nil, Bool.not_true, Bool.false_eq_true, ↓reduceIte, pure_bind]
    by_cases noCompany : companyPublicKey = []
    · subst noCompany
      have exit : Exit rnp lib state.draws state.calls [] [] codes pit ticket _ :=
        .ticketUnchecked presented rfl
      rw [known] at exit
      exact exit
    · have company : companyPublicKey.isEmpty = false := by simpa using noCompany
      simp only [company, Bool.not_false, ↓reduceIte]
      refine attempts_call (Ends.mono
        (verifyTicketSignature_ends rnp [] companyPublicKey codes ticket noCompany state) ?_)
      intro valid after meaning
      cases valid with
      | false =>
          have exit := Exit.ticketForged presented noCompany (fun user => absurd rfl user)
            fun verified => Bool.noConfusion (meaning.mpr verified)
          rw [known] at exit
          exact exit
      | true =>
          have exit := Exit.ticketVerified presented noCompany (fun user => absurd rfl user)
            (meaning.mp rfl)
          rw [known] at exit
          exact exit
  · have user : userPublicKey.isEmpty = false := by simpa using anonymous
    by_cases hashed : lib.toLower (keyHash lib userPublicKey) = lib.toLower pit.subject
    · have known : identified userPublicKey codes =
          { codes with userPublicKey, pitSignatureValid := true } := if_neg anonymous
      simp only [user, hashed, Bool.not_false, ne_eq, not_true_eq_false, ↓reduceIte, pure_bind]
      refine attempts_call (Ends.mono (verifyDetached_ends rnp _ _ _ state) ?_)
      rintro valid after ⟨meaning, sameDraws, counted⟩
      cases valid with
      | false =>
          refine Exit.pitForged anonymous fun verifies => ?_
          exact Bool.noConfusion (meaning.mpr ⟨anonymous, verifies⟩)
      | true =>
      have presented : Presented rnp lib state.draws state.calls userPublicKey codes pit :=
        fun _ => ⟨hashed, (meaning.mp rfl).2⟩
      by_cases noCompany : companyPublicKey = []
      · subst noCompany
        have exit : Exit rnp lib state.draws state.calls userPublicKey [] codes pit ticket _ :=
          .ticketUnchecked presented rfl
        rw [known] at exit
        exact exit
      · have company : companyPublicKey.isEmpty = false := by simpa using noCompany
        simp only [company, Bool.not_true, Bool.not_false, Bool.false_eq_true, ↓reduceIte]
        refine attempts_call (Ends.mono
          (verifyTicketSignature_ends rnp userPublicKey companyPublicKey codes ticket noCompany after) ?_)
        intro valid later meaning
        rw [sameDraws] at meaning
        cases valid with
        | false =>
            have exit := Exit.ticketForged presented noCompany (fun _ => counted rfl)
              fun verified => Bool.noConfusion (meaning.mpr verified)
            rw [known] at exit
            exact exit
        | true =>
            have exit := Exit.ticketVerified presented noCompany (fun _ => counted rfl) (meaning.mp rfl)
            rw [known] at exit
            exact exit
    · simp only [user, hashed, Bool.not_false, ne_eq, not_false_eq_true, ↓reduceIte]
      exact Exit.otherHash anonymous hashed

theorem verifyOwnership_exit {now : Int64} {pitQRData ticketQRData : QString}
    {codes : VerificationResult} {pit ticket : ParsedCode}
    (found : compareCodes lib now pitQRData ticketQRData = .ok (codes, pit, ticket))
    (userPublicKey companyPublicKey : QString) (state : RnpState ρ) :
    Exit rnp lib state.draws state.calls userPublicKey companyPublicKey codes pit ticket
      ((verifyOwnership rnp lib now pitQRData ticketQRData userPublicKey companyPublicKey).run
        state).1 := by
  change Ends (verifyOwnership rnp lib now pitQRData ticketQRData userPublicKey companyPublicKey) state
    fun result _ => Exit rnp lib state.draws state.calls userPublicKey companyPublicKey codes pit ticket
      result
  refine ends_bind (Ends.mono (verifyStages_exit rnp lib found userPublicKey companyPublicKey state) ?_)
  intro outcome after exit
  cases outcome with
  | ok result => exact exit
  | error result => exact exit

theorem verifyOwnership_of_error {now : Int64}
    {pitQRData ticketQRData userPublicKey companyPublicKey : QString} {result : VerificationResult}
    (failed : compareCodes lib now pitQRData ticketQRData = .error result) (state : RnpState ρ) :
    (verifyOwnership rnp lib now pitQRData ticketQRData userPublicKey companyPublicKey).run state =
      (result, state) := by
  simp only [verifyOwnership, verifyStages, failed]
  rfl

theorem keysMatch_iff (now : Int64) (pitQRData ticketQRData userPublicKey companyPublicKey : QString)
    (state : RnpState ρ) :
    ((verifyOwnership rnp lib now pitQRData ticketQRData userPublicKey companyPublicKey).run
      state).1.keysMatch = true ↔ Match lib now pitQRData ticketQRData := by
  by_cases found : Match lib now pitQRData ticketQRData
  · have matched := found
    obtain ⟨pitHash, pitTimestamp, pitSignature, bookingRef, ticketTimestamp, ticketHash,
      ticketSignature, pitReads, fresh, ticketReads, same⟩ := found
    have exit := verifyOwnership_exit rnp lib (compareCodes_of_match lib pitReads fresh ticketReads same)
      userPublicKey companyPublicKey state
    exact iff_of_true exit.parsedPart.keysMatch matched
  · obtain ⟨result, failed, _, different⟩ := compareCodes_of_no_match lib found
    rw [verifyOwnership_of_error rnp lib failed]
    simp only [different, found, Bool.false_eq_true]

theorem verifyOwnershipOfCodes_run (now : Int64) (pitQRData ticketQRData : QString)
    (state : RnpState ρ) :
    let outcome := (verifyOwnershipOfCodes rnp lib now pitQRData ticketQRData).run state
    outcome.2 = state ∧ outcome.1.isValid = false ∧
      (outcome.1.keysMatch = true ∧ outcome.1.pitParsed = true ∧ outcome.1.ticketParsed = true ↔
        Match lib now pitQRData ticketQRData) := by
  simp only [verifyOwnershipOfCodes]
  by_cases found : Match lib now pitQRData ticketQRData
  · have matched := found
    obtain ⟨pitHash, pitTimestamp, pitSignature, bookingRef, ticketTimestamp, ticketHash,
      ticketSignature, pitReads, fresh, ticketReads, same⟩ := found
    have codes := compareCodes_of_match lib pitReads fresh ticketReads same
    have exit := verifyOwnership_exit rnp lib codes [] [] state
    refine ⟨?_, ?_, ?_⟩
    · simp only [verifyOwnership, verifyStages, codes]
      rfl
    · rw [Bool.eq_false_iff, ne_eq, exit.isValid_iff]
      rintro ⟨user, _⟩
      exact user rfl
    · exact iff_of_true ⟨exit.parsedPart.keysMatch, exit.parsedPart.pitParsed,
        exit.parsedPart.ticketParsed⟩ matched
  · obtain ⟨result, failed, invalid, different⟩ := compareCodes_of_no_match lib found
    rw [verifyOwnership_of_error rnp lib failed]
    refine ⟨rfl, invalid, ?_⟩
    simp [different, found]

/-- What `isValid` stands for, with the condition on the company's signature left open: the
codes parse, the PIT is fresh, both hashes are the user key's, and the PIT's signature verifies. -/
def Entitled (now : Int64) (pitQRData ticketQRData userPublicKey : QString) (state : RnpState ρ)
    (company : QString → Int64 → QString → Prop) : Prop :=
  userPublicKey ≠ [] ∧ ∃ pitHash pitTimestamp pitSignature bookingRef ticketTimestamp ticketHash
      ticketSignature,
    ReadsPIT pitQRData pitHash pitTimestamp pitSignature ∧ Fresh now pitTimestamp ∧
    ReadsTicket ticketQRData bookingRef ticketTimestamp ticketHash ticketSignature ∧
    lib.toLower pitHash = lib.toLower ticketHash ∧
    lib.toLower (keyHash lib userPublicKey) = lib.toLower pitHash ∧
    pitSignature ≠ [] ∧
    rnp.accepts state.draws state.calls (toUtf8 userPublicKey)
      (toUtf8 (userPublicKey ++ number pitTimestamp)) (fromHex (toUtf8 pitSignature)) = true ∧
    company bookingRef ticketTimestamp ticketSignature

def CompanySigned (userPublicKey companyPublicKey : QString) (state : RnpState ρ)
    (bookingRef : QString) (ticketTimestamp : Int64) (ticketSignature : QString) : Prop :=
  companyPublicKey ≠ [] → ticketSignature ≠ [] ∧
    rnp.accepts state.draws (state.calls + 7) (toUtf8 companyPublicKey)
      (toUtf8 (userPublicKey ++ bookingRef ++ number ticketTimestamp))
      (fromHex (toUtf8 ticketSignature)) = true

theorem isValid_iff_entitled (now : Int64)
    (pitQRData ticketQRData userPublicKey companyPublicKey : QString) (state : RnpState ρ) :
    ((verifyOwnership rnp lib now pitQRData ticketQRData userPublicKey companyPublicKey).run
        state).1.isValid = true ↔
      Entitled rnp lib now pitQRData ticketQRData userPublicKey state
        (CompanySigned rnp userPublicKey companyPublicKey state) := by
  by_cases found : Match lib now pitQRData ticketQRData
  · obtain ⟨pitHash, pitTimestamp, pitSignature, bookingRef, ticketTimestamp, ticketHash,
      ticketSignature, pitReads, fresh, ticketReads, same⟩ := found
    have exit := verifyOwnership_exit rnp lib (compareCodes_of_match lib pitReads fresh ticketReads same)
      userPublicKey companyPublicKey state
    rw [exit.isValid_iff]
    constructor
    · rintro ⟨user, hashed, ⟨signed, accepted⟩, company⟩
      exact ⟨user, pitHash, pitTimestamp, pitSignature, bookingRef, ticketTimestamp, ticketHash,
        ticketSignature, pitReads, fresh, ticketReads, same, hashed, signed, accepted, company⟩
    · rintro ⟨user, pitHash', pitTimestamp', pitSignature', bookingRef', ticketTimestamp', ticketHash',
        ticketSignature', pitReads', _, ticketReads', _, hashed, signed, accepted, company⟩
      obtain ⟨rfl, rfl, rfl⟩ := pitReads.unique pitReads'
      obtain ⟨rfl, rfl, rfl, rfl⟩ := ticketReads.unique ticketReads'
      exact ⟨user, hashed, ⟨signed, accepted⟩, company⟩
  · obtain ⟨result, failed, invalid, _⟩ := compareCodes_of_no_match lib found
    rw [verifyOwnership_of_error rnp lib failed]
    simp only [invalid, Bool.false_eq_true, false_iff]
    rintro ⟨_, pitHash, pitTimestamp, pitSignature, bookingRef, ticketTimestamp, ticketHash,
      ticketSignature, pitReads, fresh, ticketReads, same, _⟩
    exact found ⟨pitHash, pitTimestamp, pitSignature, bookingRef, ticketTimestamp, ticketHash,
      ticketSignature, pitReads, fresh, ticketReads, same⟩

theorem isValid_exact (now : Int64)
    (pitQRData ticketQRData userPublicKey companyPublicKey : QString) (state : RnpState ρ) :
    (((verifyOwnership rnp lib now pitQRData ticketQRData userPublicKey companyPublicKey).run
        state).1.isValid = true ↔
      Entitled rnp lib now pitQRData ticketQRData userPublicKey state
        (CompanySigned rnp userPublicKey companyPublicKey state)) ∧
    ((verifyOwnershipOfCodes rnp lib now pitQRData ticketQRData).run state).1.isValid = false ∧
    (((verifyOwnershipOfUser rnp lib now pitQRData ticketQRData userPublicKey).run
        state).1.isValid = true ↔
      Entitled rnp lib now pitQRData ticketQRData userPublicKey state fun _ _ _ => True) ∧
    (0 ≤ now → ∀ timestamp, Fresh now timestamp ↔
      timestamp.toInt ≤ now.toInt ∧ now.toInt ≤ timestamp.toInt + 20) := by
  refine ⟨isValid_iff_entitled rnp lib now pitQRData ticketQRData userPublicKey companyPublicKey state,
    ?_, ?_, fun nonneg timestamp => fresh_iff_of_nonneg nonneg⟩
  · rw [Bool.eq_false_iff, verifyOwnershipOfCodes, ne_eq, isValid_iff_entitled]
    rintro ⟨user, _⟩
    exact user rfl
  · rw [verifyOwnershipOfUser, isValid_iff_entitled]
    simp [Entitled, CompanySigned]

end TicketOwnership

end SbbTicketing
