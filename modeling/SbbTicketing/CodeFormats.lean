import SbbTicketing.PlainRnp
import SbbTicketing.TicketOwnershipChecks

/-! The texts the two parsers accept, character for character, the clock readings at which a
PIT is accepted and those for which its age is defined, and how the two fields of a ticket
that travel in one parameter are taken apart again. -/

namespace SbbTicketing

open Qt

namespace TicketOwnership

variable {ρ : Type} (rnp : Rnp ρ) (lib : QtLibrary)

/-- A PIT text with these fields: nothing is asked of the hash and the signature but that they
hold no colon, and the timestamp may be spelled in any way that is read as its value. -/
def PITLayout (pitQRData publicKeyHash : QString) (timestamp : Int64) (signature : QString) : Prop :=
  ':' ∉ publicKeyHash ∧ ':' ∉ signature ∧ ∃ stamp, Spells stamp timestamp ∧
    pitQRData = text "PIT:" ++ publicKeyHash ++ text ":" ++ stamp ++ text ":" ++ signature

def TicketLayout (ticketQRData bookingRef : QString) (timestamp : Int64)
    (publicKeyHash signature : QString) : Prop :=
  ':' ∉ bookingRef ∧ ':' ∉ publicKeyHash ∧ ':' ∉ signature ∧ ∃ stamp, Spells stamp timestamp ∧
    ticketQRData = text "TICKET:" ++ bookingRef ++ text ":" ++ stamp ++ text ":" ++ publicKeyHash ++
      text ":" ++ signature

def DifferInSpelling (first second : QString) : Prop :=
  ∃ front timestamp stamp stamp' back, Spells stamp timestamp ∧ Spells stamp' timestamp ∧
    first = front ++ stamp ++ back ∧ second = front ++ stamp' ++ back

theorem colon_not_mem_stamp {stamp : QString} {timestamp : Int64} (spelled : Spells stamp timestamp) :
    ':' ∉ stamp := spelled.not_mem (by decide) (by decide) (by decide)

theorem readsPIT_iff_layout {pitQRData publicKeyHash signature : QString} {timestamp : Int64} :
    ReadsPIT pitQRData publicKeyHash timestamp signature ↔
      PITLayout pitQRData publicKeyHash timestamp signature := by
  simp only [ReadsPIT, split_eq_iff, toLongLong_eq_some_iff]
  constructor
  · rintro ⟨stamp, ⟨_, plain, rfl⟩, spelled⟩
    refine ⟨plain publicKeyHash (by simp), plain signature (by simp), stamp, spelled, ?_⟩
    simp [List.intercalate, text]
  · rintro ⟨plainHash, plainSignature, stamp, spelled, rfl⟩
    refine ⟨stamp, ⟨by simp, ?_, by simp [List.intercalate, text]⟩, spelled⟩
    have plainTag : ':' ∉ text "PIT" := by decide
    simp [plainTag, plainHash, plainSignature, colon_not_mem_stamp spelled]

theorem readsTicket_iff_layout {ticketQRData bookingRef publicKeyHash signature : QString}
    {timestamp : Int64} :
    ReadsTicket ticketQRData bookingRef timestamp publicKeyHash signature ↔
      TicketLayout ticketQRData bookingRef timestamp publicKeyHash signature := by
  simp only [ReadsTicket, split_eq_iff, toLongLong_eq_some_iff]
  constructor
  · rintro ⟨stamp, ⟨_, plain, rfl⟩, spelled⟩
    refine ⟨plain bookingRef (by simp), plain publicKeyHash (by simp), plain signature (by simp),
      stamp, spelled, ?_⟩
    simp [List.intercalate, text]
  · rintro ⟨plainRef, plainHash, plainSignature, stamp, spelled, rfl⟩
    refine ⟨stamp, ⟨by simp, ?_, by simp [List.intercalate, text]⟩, spelled⟩
    have plainTag : ':' ∉ text "TICKET" := by decide
    simp [plainTag, plainRef, plainHash, plainSignature, colon_not_mem_stamp spelled]

theorem parsePIT_eq_iff {now : Int64} {pitQRData : QString} {out parsed : ParsedCode} :
    parsePIT now pitQRData out = (true, parsed) ↔
      ReadsPIT pitQRData parsed.subject parsed.timestamp parsed.signature ∧ Fresh now parsed.timestamp := by
  constructor
  · intro accepted
    obtain ⟨hash, timestamp, signature, reads, fresh⟩ := parsePIT_accepts (congrArg Prod.fst accepted)
    rw [parsePIT_of_reads reads fresh, Prod.mk.injEq] at accepted
    rw [← accepted.2]
    exact ⟨reads, fresh⟩
  · rintro ⟨reads, fresh⟩
    exact parsePIT_of_reads reads fresh out

theorem parseTicket_eq_iff {ticketQRData : QString} {out parsed : ParsedCode} :
    parseTicket ticketQRData out = (true, parsed) ↔
      ∃ bookingRef publicKeyHash, parsed.subject = bookingRef ++ text ":" ++ publicKeyHash ∧
        ReadsTicket ticketQRData bookingRef parsed.timestamp publicKeyHash parsed.signature := by
  constructor
  · intro accepted
    obtain ⟨bookingRef, timestamp, hash, signature, reads⟩ :=
      parseTicket_accepts (congrArg Prod.fst accepted)
    rw [parseTicket_of_reads reads, Prod.mk.injEq] at accepted
    rw [← accepted.2]
    exact ⟨bookingRef, hash, rfl, reads⟩
  · rintro ⟨bookingRef, hash, packed, reads⟩
    rw [parseTicket_of_reads reads, ← packed]

theorem PITLayout.differInSpelling {first second publicKeyHash signature : QString} {timestamp : Int64}
    (firstLaid : PITLayout first publicKeyHash timestamp signature)
    (secondLaid : PITLayout second publicKeyHash timestamp signature) :
    DifferInSpelling first second := by
  obtain ⟨_, _, stamp, spelled, rfl⟩ := firstLaid
  obtain ⟨_, _, stamp', spelled', rfl⟩ := secondLaid
  refine ⟨text "PIT:" ++ publicKeyHash ++ text ":", timestamp, stamp, stamp', text ":" ++ signature,
    spelled, spelled', ?_, ?_⟩
  · rw [List.append_assoc]
  · rw [List.append_assoc]

theorem TicketLayout.differInSpelling {first second bookingRef publicKeyHash signature : QString}
    {timestamp : Int64} (firstLaid : TicketLayout first bookingRef timestamp publicKeyHash signature)
    (secondLaid : TicketLayout second bookingRef timestamp publicKeyHash signature) :
    DifferInSpelling first second := by
  obtain ⟨_, _, _, stamp, spelled, rfl⟩ := firstLaid
  obtain ⟨_, _, _, stamp', spelled', rfl⟩ := secondLaid
  refine ⟨text "TICKET:" ++ bookingRef ++ text ":", timestamp, stamp, stamp',
    text ":" ++ publicKeyHash ++ text ":" ++ signature, spelled, spelled', ?_, ?_⟩
  · simp only [List.append_assoc]
  · simp only [List.append_assoc]

theorem match_iff {now pitTimestamp ticketTimestamp : Int64}
    {pitQRData ticketQRData pitHash pitSignature bookingRef ticketHash ticketSignature : QString}
    (pitReads : ReadsPIT pitQRData pitHash pitTimestamp pitSignature) (fresh : Fresh now pitTimestamp)
    (ticketReads : ReadsTicket ticketQRData bookingRef ticketTimestamp ticketHash ticketSignature) :
    Match lib now pitQRData ticketQRData ↔ lib.toLower pitHash = lib.toLower ticketHash := by
  constructor
  · rintro ⟨pitHash', _, _, _, _, ticketHash', _, pitReads', _, ticketReads', same⟩
    rw [(pitReads.unique pitReads').1, (ticketReads.unique ticketReads').2.2.1]
    exact same
  · intro same
    exact ⟨_, _, _, _, _, _, _, pitReads, fresh, ticketReads, same⟩

theorem accepted_iff_layout (now : Int64) (qrData : QString) (out parsed : ParsedCode) :
    (parsePIT now qrData out = (true, parsed) ↔
      PITLayout qrData parsed.subject parsed.timestamp parsed.signature ∧ Fresh now parsed.timestamp) ∧
    (parseTicket qrData out = (true, parsed) ↔ ∃ bookingRef publicKeyHash,
      parsed.subject = bookingRef ++ text ":" ++ publicKeyHash ∧
      TicketLayout qrData bookingRef parsed.timestamp publicKeyHash parsed.signature) ∧
    (∀ other clock, parsePIT now qrData out = (true, parsed) → parsePIT clock other out = (true, parsed) →
      DifferInSpelling qrData other) ∧
    (∀ other, parseTicket qrData out = (true, parsed) → parseTicket other out = (true, parsed) →
      DifferInSpelling qrData other) ∧
    (∀ ticketQRData bookingRef timestamp publicKeyHash signature (state : RnpState ρ),
      parsePIT now qrData out = (true, parsed) →
      TicketLayout ticketQRData bookingRef timestamp publicKeyHash signature →
      (((verifyOwnershipOfCodes rnp lib now qrData ticketQRData).run state).1.keysMatch = true ↔
        lib.toLower parsed.subject = lib.toLower publicKeyHash)) := by
  refine ⟨?_, ?_, ?_, ?_, ?_⟩
  · rw [parsePIT_eq_iff, readsPIT_iff_layout]
  · simp only [parseTicket_eq_iff, readsTicket_iff_layout]
  · intro other clock accepted acceptedOther
    rw [parsePIT_eq_iff, readsPIT_iff_layout] at accepted acceptedOther
    exact accepted.1.differInSpelling acceptedOther.1
  · intro other accepted acceptedOther
    obtain ⟨bookingRef, hash, packed, reads⟩ := parseTicket_eq_iff.mp accepted
    obtain ⟨bookingRef', hash', packed', reads'⟩ := parseTicket_eq_iff.mp acceptedOther
    have parts := split_packed reads
    rw [← packed, packed', split_packed reads'] at parts
    simp only [List.cons.injEq, and_true] at parts
    obtain ⟨rfl, rfl⟩ := parts
    exact (readsTicket_iff_layout.mp reads).differInSpelling (readsTicket_iff_layout.mp reads')
  · intro ticketQRData bookingRef timestamp hash signature state accepted laid
    obtain ⟨pitReads, fresh⟩ := parsePIT_eq_iff.mp accepted
    have ticketReads := readsTicket_iff_layout.mpr laid
    rw [verifyOwnershipOfCodes, keysMatch_iff, match_iff lib pitReads fresh ticketReads]

/-- Texts without hash, reference or signature are accepted, one token in two spellings, and the
two empty hashes are compared and match. -/
theorem empty_fields_accepted :
    parsePIT 7 (text "PIT::7:") {} = (true, ⟨[], 7, []⟩) ∧
      parsePIT 7 (text "PIT:: +007:") {} = (true, ⟨[], 7, []⟩) ∧
      parseTicket (text "TICKET::7::") {} = (true, ⟨text ":", 7, []⟩) ∧
      ((verifyOwnershipOfCodes PlainRnp.rnp PlainRnp.library 7 (text "PIT:: +007:")
        (text "TICKET::7::")).run (PlainRnp.initialState 0)).1.keysMatch = true := by
  decide +kernel

theorem parsePIT_window (now : Int64) (nonneg : 0 ≤ now) (pitQRData : QString) (out : ParsedCode) :
    ((parsePIT now pitQRData out).1 = true ↔ ∃ publicKeyHash stamp timestamp signature,
      split pitQRData ':' = [text "PIT", publicKeyHash, stamp, signature] ∧
      toLongLong stamp = some timestamp ∧
      timestamp.toInt ≤ now.toInt ∧ now.toInt ≤ timestamp.toInt + 20) ∧
    (∀ publicKeyHash stamp timestamp signature,
      split pitQRData ':' = [text "PIT", publicKeyHash, stamp, signature] →
      toLongLong stamp = some timestamp →
      ((parsePIT now pitQRData out).1 = true →
        (parsePIT now pitQRData out).2 = ⟨publicKeyHash, timestamp, signature⟩) ∧
      ∀ clock : Int64, 0 ≤ clock → (parsePIT clock pitQRData out).1 = true →
        timestamp.toInt ≤ clock.toInt ∧ clock.toInt ≤ timestamp.toInt + 20) := by
  have readsWhenAccepted {clock : Int64} (accepted : (parsePIT clock pitQRData out).1 = true) :
      ReadsPIT pitQRData (parsePIT clock pitQRData out).2.subject
        (parsePIT clock pitQRData out).2.timestamp (parsePIT clock pitQRData out).2.signature ∧
      Fresh clock (parsePIT clock pitQRData out).2.timestamp :=
    parsePIT_eq_iff.mp (Prod.ext accepted rfl)
  refine ⟨⟨?_, ?_⟩, ?_⟩
  · intro accepted
    obtain ⟨⟨stamp, parts, value⟩, fresh⟩ := readsWhenAccepted accepted
    exact ⟨_, stamp, _, _, parts, value, (fresh_iff_of_nonneg nonneg).mp fresh⟩
  · rintro ⟨hash, stamp, timestamp, signature, parts, value, window⟩
    rw [parsePIT_of_reads ⟨stamp, parts, value⟩ ((fresh_iff_of_nonneg nonneg).mpr window)]
  · intro hash stamp timestamp signature parts value
    have reads : ReadsPIT pitQRData hash timestamp signature := ⟨stamp, parts, value⟩
    refine ⟨?_, ?_⟩
    · intro accepted
      obtain ⟨sameHash, sameTime, sameSignature⟩ := reads.unique (readsWhenAccepted accepted).1
      rw [sameHash, sameTime, sameSignature]
    · intro clock clockNonneg accepted
      obtain ⟨reads', fresh⟩ := readsWhenAccepted accepted
      rw [(reads.unique reads').2.1]
      exact (fresh_iff_of_nonneg clockNonneg).mp fresh

/-- A timestamp at the end of the type: the difference wraps, and does not look fresh. -/
theorem parsePIT_window_smallest :
    (parsePIT 0 (text "PIT:ab:-9223372036854775808:cd") {}).1 = false := by
  rw [Bool.eq_false_iff]
  intro accepted
  have window := (parsePIT_window 0 (by decide) (text "PIT:ab:-9223372036854775808:cd") {}).2
    (text "ab") (text "-9223372036854775808") Int64.minValue (text "cd") (by decide) (by decide +kernel)
  exact absurd (window.2 0 (by decide) accepted).2 (by decide)

/-- The exact age is a `qint64`, so the source may subtract. -/
def AgeDefined (now timestamp : Int64) : Prop :=
  Int64.minValue.toInt ≤ now.toInt - timestamp.toInt ∧ now.toInt - timestamp.toInt ≤ Int64.maxValue.toInt

/-- The numeral of a time 2^63 seconds or more before the clock reading, which the type still has. -/
def TooEarly (now : Int64) (stamp : QString) : Prop :=
  ∃ before zeros magnitude after,
    stamp = before ++ text "-" ++ List.replicate zeros '0' ++ Nat.toDigits 10 magnitude ++ after ∧
    (∀ c ∈ before, isSpace c = true) ∧ (∀ c ∈ after, isSpace c = true) ∧
    2 ^ 63 ≤ now.toInt + Int.ofNat magnitude ∧ magnitude ≤ 2 ^ 63

theorem ageDefined_iff_of_nonneg {now timestamp : Int64} (nonneg : 0 ≤ now) :
    AgeDefined now timestamp ↔ now.toInt < timestamp.toInt + 2 ^ 63 := by
  have nowLower : 0 ≤ now.toInt := Int64.le_iff_toInt_le.mp nonneg
  have upper := timestamp.toInt_lt
  have smallest : Int64.minValue.toInt = -2 ^ 63 := by decide
  have largest : Int64.maxValue.toInt = 2 ^ 63 - 1 := by decide
  rw [AgeDefined, smallest, largest]
  omega

theorem TooEarly.spells {now : Int64} {stamp : QString} (early : TooEarly now stamp) :
    ∃ timestamp, Spells stamp timestamp ∧ timestamp.toInt + 2 ^ 63 ≤ now.toInt := by
  obtain ⟨before, zeros, magnitude, after, rfl, spaceBefore, spaceAfter, far, bound⟩ := early
  have value : (Int64.ofInt (-Int.ofNat magnitude)).toInt = -Int.ofNat magnitude := by
    apply Int64.toInt_ofInt_of_le
    · simp only [Int.ofNat_eq_natCast]
      omega
    · simp only [Int.ofNat_eq_natCast]
      omega
  refine ⟨Int64.ofInt (-Int.ofNat magnitude), ⟨before, text "-" ++ List.replicate zeros '0' ++
    Nat.toDigits 10 magnitude, after, by simp, spaceBefore, spaceAfter, ?_⟩, ?_⟩
  · exact ⟨text "-", zeros, magnitude, rfl, Or.inr ⟨rfl, value⟩⟩
  · rw [value]
    omega

theorem tooEarly_of_spells {now timestamp : Int64} {stamp : QString} (spelled : Spells stamp timestamp)
    (far : timestamp.toInt + 2 ^ 63 ≤ now.toInt) : TooEarly now stamp := by
  obtain ⟨before, numeral, after, rfl, spaceBefore, spaceAfter, sign, zeros, magnitude, rfl, meaning⟩ :=
    spelled
  have smallest := timestamp.le_toInt
  have latest := now.toInt_lt
  rcases meaning with ⟨_, value⟩ | ⟨rfl, value⟩
  · -- a value that is not negative is no 2^63 before any clock reading
    rw [value, Int.ofNat_eq_natCast] at far
    omega
  · rw [value, Int.ofNat_eq_natCast] at far smallest
    refine ⟨before, zeros, magnitude, after, by simp [text], spaceBefore, spaceAfter, ?_, ?_⟩
    · rw [Int.ofNat_eq_natCast]
      omega
    · omega

/-- Also of a PIT that is then rejected: the age is taken of the value left in the out-parameter. -/
theorem parsePIT_timestamp {pitQRData publicKeyHash signature : QString} {timestamp : Int64}
    (reads : ReadsPIT pitQRData publicKeyHash timestamp signature) (now : Int64) (out : ParsedCode) :
    (parsePIT now pitQRData out).2.timestamp = timestamp := by
  obtain ⟨stamp, parts, value⟩ := reads
  by_cases old : now - timestamp > 20
  · simp [parsePIT, parts, value, old]
  · by_cases future : now - timestamp < 0
    · simp [parsePIT, parts, value, old, future]
    · simp [parsePIT, parts, value, old, future]

theorem parsePIT_age_defined_iff (now : Int64) (nonneg : 0 ≤ now) (pitQRData : QString)
    (out : ParsedCode) :
    (∀ publicKeyHash timestamp signature, ReadsPIT pitQRData publicKeyHash timestamp signature →
      (parsePIT now pitQRData out).2.timestamp = timestamp ∧
        AgeDefined now (parsePIT now pitQRData out).2.timestamp) ↔
    ∀ publicKeyHash stamp signature,
      split pitQRData ':' = [text "PIT", publicKeyHash, stamp, signature] → ¬TooEarly now stamp := by
  constructor
  · intro defined publicKeyHash stamp signature parts early
    obtain ⟨timestamp, spelled, far⟩ := early.spells
    obtain ⟨left, inRange⟩ := defined publicKeyHash timestamp signature
      ⟨stamp, parts, toLongLong_eq_some_iff.mpr spelled⟩
    rw [left, ageDefined_iff_of_nonneg nonneg] at inRange
    omega
  · intro representable publicKeyHash timestamp signature reads
    have left := parsePIT_timestamp reads now out
    refine ⟨left, ?_⟩
    rw [left, ageDefined_iff_of_nonneg nonneg]
    obtain ⟨stamp, parts, value⟩ := reads
    by_contra far
    refine representable publicKeyHash stamp signature parts ?_
    exact tooEarly_of_spells (toLongLong_eq_some_iff.mp value) (by omega)

/-- A timestamp that is not negative is never too early. -/
theorem parsePIT_age_defined_iff_recent :
    (parsePIT 1732368007 (text "PIT:ab:1732368000:cd") {}).2.timestamp = 1732368000 ∧
      AgeDefined 1732368007 (parsePIT 1732368007 (text "PIT:ab:1732368000:cd") {}).2.timestamp := by
  have fields : split (text "PIT:ab:1732368000:cd") ':' =
      [text "PIT", text "ab", text "1732368000", text "cd"] := by decide +kernel
  refine (parsePIT_age_defined_iff 1732368007 (by decide) (text "PIT:ab:1732368000:cd") {}).mpr ?_
    (text "ab") 1732368000 (text "cd") ⟨text "1732368000", fields, by decide +kernel⟩
  rintro publicKeyHash stamp signature parts ⟨before, zeros, magnitude, after, rfl, _⟩
  rw [fields] at parts
  simp only [List.cons.injEq, and_true, true_and] at parts
  have minus : '-' ∈ text "1732368000" := by
    rw [parts.2.1]
    simp [text]
  exact absurd minus (by decide)

/-- A PIT of the smallest timestamp, scanned at an ordinary time. -/
theorem age_undefined_for_smallest :
    (0 : Int64) ≤ 1732368007 ∧
      ReadsPIT (text "PIT:ab:-9223372036854775808:cd") (text "ab") Int64.minValue (text "cd") ∧
      (parsePIT 1732368007 (text "PIT:ab:-9223372036854775808:cd") {}).2.timestamp = Int64.minValue ∧
      ¬AgeDefined 1732368007
        (parsePIT 1732368007 (text "PIT:ab:-9223372036854775808:cd") {}).2.timestamp := by
  have reads : ReadsPIT (text "PIT:ab:-9223372036854775808:cd") (text "ab") Int64.minValue (text "cd") :=
    ⟨text "-9223372036854775808", by decide +kernel, by decide +kernel⟩
  have left := parsePIT_timestamp reads 1732368007 {}
  refine ⟨by decide, reads, left, ?_⟩
  rw [left, AgeDefined]
  decide

def extractionError : String := "Failed to extract booking reference and key hash from ticket"

/-- The result does not come from the branch for a packed pair that is not one. -/
def Extracted (result : VerificationResult) : Prop := result.errorMessage ≠ text extractionError

theorem extracted_of_text {result : VerificationResult} {message : String}
    (told : result.errorMessage = text message) (other : message ≠ extractionError) :
    Extracted result := by
  rw [Extracted, told]
  exact fun same => other (String.toList_inj.mp same)

theorem compared_extracted (pitTimestamp ticketTimestamp : Int64) (bookingRef : QString) :
    Extracted (compared pitTimestamp ticketTimestamp bookingRef) := by
  have silent : (compared pitTimestamp ticketTimestamp bookingRef).errorMessage = text "" := rfl
  exact extracted_of_text silent (by decide)

theorem compareCodes_extracted (now : Int64) (pitQRData ticketQRData : QString) :
    match compareCodes lib now pitQRData ticketQRData with
    | .ok (result, _, _) => Extracted result
    | .error result => Extracted result := by
  by_cases pitAccepted : (parsePIT now pitQRData {}).1 = true
  · obtain ⟨pitHash, pitTimestamp, pitSignature, pitReads, fresh⟩ := parsePIT_accepts pitAccepted
    by_cases ticketAccepted : (parseTicket ticketQRData {}).1 = true
    · obtain ⟨bookingRef, ticketTimestamp, ticketHash, ticketSignature, ticketReads⟩ :=
        parseTicket_accepts ticketAccepted
      by_cases same : lib.toLower pitHash = lib.toLower ticketHash
      · rw [compareCodes_of_match lib pitReads fresh ticketReads same]
        exact compared_extracted pitTimestamp ticketTimestamp bookingRef
      · rw [compareCodes_of_mismatch lib pitReads fresh ticketReads same]
        exact extracted_of_text rfl (by decide)
    · simp only [Bool.not_eq_true] at ticketAccepted
      rw [compareCodes_of_ticket_rejected lib pitReads fresh ticketAccepted]
      exact extracted_of_text rfl (by decide)
  · simp only [Bool.not_eq_true] at pitAccepted
    rw [compareCodes_of_pit_rejected lib pitAccepted]
    exact extracted_of_text rfl (by decide)

theorem explain_extracted {result : VerificationResult} (extracted : Extracted result) :
    Extracted (explain result) := by
  simp only [explain]
  split
  · exact extracted_of_text rfl (by decide)
  · split
    · exact extracted_of_text rfl (by decide)
    · exact extracted

theorem conclude_extracted (companyPublicKey : QString) {result : VerificationResult}
    (extracted : Extracted result) : Extracted (conclude companyPublicKey result) := by
  simp only [conclude]
  split
  · exact explain_extracted extracted
  · exact explain_extracted extracted

theorem identified_extracted (userPublicKey : QString) {codes : VerificationResult}
    (extracted : Extracted codes) : Extracted (identified userPublicKey codes) := by
  unfold identified
  split
  · exact extracted_of_text rfl (by decide)
  · exact extracted

theorem Exit.extracted {draws : Nat → ρ} {call : Nat} {userPublicKey companyPublicKey : QString}
    {codes result : VerificationResult} {pit ticket : ParsedCode}
    (exit : Exit rnp lib draws call userPublicKey companyPublicKey codes pit ticket result)
    (compared : Extracted codes) : Extracted result := by
  cases exit with
  | otherHash user different => exact extracted_of_text rfl (by decide)
  | pitForged user forged => exact extracted_of_text rfl (by decide)
  | ticketForged presented company counted forged => exact extracted_of_text rfl (by decide)
  | ticketUnchecked presented noCompany =>
      exact conclude_extracted _ (extracted_of_text rfl (by decide))
  | ticketVerified presented company counted verified =>
      exact conclude_extracted _ (identified_extracted userPublicKey compared)

theorem verifyOwnership_extracted (now : Int64)
    (pitQRData ticketQRData userPublicKey companyPublicKey : QString) (state : RnpState ρ) :
    Extracted ((verifyOwnership rnp lib now pitQRData ticketQRData userPublicKey companyPublicKey).run
      state).1 := by
  have codes := compareCodes_extracted lib now pitQRData ticketQRData
  split at codes
  · rename_i result pit ticket found
    exact (verifyOwnership_exit rnp lib found userPublicKey companyPublicKey state).extracted rnp lib codes
  · rename_i result failed
    rw [verifyOwnership_of_error rnp lib failed]
    exact codes

theorem extract_of_reads {ticketQRData bookingRef publicKeyHash signature : QString} {timestamp : Int64}
    (reads : ReadsTicket ticketQRData bookingRef timestamp publicKeyHash signature) :
    extractUserPublicKeyFromTicket ticketQRData = publicKeyHash := by
  obtain ⟨stamp, parts, _⟩ := reads
  simp [extractUserPublicKeyFromTicket, parts]

theorem extract_ne_nil {ticketQRData : QString} (found : extractUserPublicKeyFromTicket ticketQRData ≠ []) :
    ∃ bookingRef stamp signature, split ticketQRData ':' =
      [text "TICKET", bookingRef, stamp, extractUserPublicKeyFromTicket ticketQRData, signature] := by
  simp only [extractUserPublicKeyFromTicket] at found ⊢
  split at found
  · rename_i tag bookingRef stamp publicKeyHash signature parts
    by_cases tagged : tag = text "TICKET"
    · exact ⟨bookingRef, stamp, signature, by simp [parts, tagged]⟩
    · simp [tagged] at found
  · exact absurd rfl found

theorem parseTicket_rejects_iff {ticketQRData bookingRef stamp publicKeyHash signature : QString}
    (parts : split ticketQRData ':' = [text "TICKET", bookingRef, stamp, publicKeyHash, signature])
    (out : ParsedCode) : (parseTicket ticketQRData out).1 = false ↔ toLongLong stamp = none := by
  cases value : toLongLong stamp with
  | none => simp [parseTicket, parts, value]
  | some timestamp => simp [parseTicket, parts, value]

theorem packed_fields_recovered (ticketQRData : QString) :
    (∀ out parsed, parseTicket ticketQRData out = (true, parsed) →
      ∃ bookingRef stamp publicKeyHash signature,
        split ticketQRData ':' = [text "TICKET", bookingRef, stamp, publicKeyHash, signature] ∧
        split parsed.subject ':' = [bookingRef, publicKeyHash] ∧
        extractUserPublicKeyFromTicket ticketQRData = publicKeyHash) ∧
    (∀ now pitQRData userPublicKey companyPublicKey (state : RnpState ρ),
      let result := ((verifyOwnership rnp lib now pitQRData ticketQRData userPublicKey
        companyPublicKey).run state).1
      Extracted result ∧
      ∀ pit ticket, parsePIT now pitQRData {} = (true, pit) → parseTicket ticketQRData {} = (true, ticket) →
        result.keysMatch =
          (lib.toLower pit.subject == lib.toLower (extractUserPublicKeyFromTicket ticketQRData))) ∧
    (extractUserPublicKeyFromTicket ticketQRData ≠ [] → ∃ bookingRef stamp signature,
      split ticketQRData ':' =
        [text "TICKET", bookingRef, stamp, extractUserPublicKeyFromTicket ticketQRData, signature] ∧
      ∀ out, (parseTicket ticketQRData out).1 = false ↔ toLongLong stamp = none) := by
  refine ⟨?_, ?_, ?_⟩
  · intro out parsed accepted
    obtain ⟨bookingRef, publicKeyHash, packed, reads⟩ := parseTicket_eq_iff.mp accepted
    have unpacked := split_packed reads
    rw [← packed] at unpacked
    have extracted := extract_of_reads reads
    obtain ⟨stamp, parts, _⟩ := reads
    exact ⟨bookingRef, stamp, publicKeyHash, parsed.signature, parts, unpacked, extracted⟩
  · intro now pitQRData userPublicKey companyPublicKey state result
    refine ⟨verifyOwnership_extracted rnp lib now pitQRData ticketQRData userPublicKey
      companyPublicKey state, ?_⟩
    intro pit ticket pitAccepted ticketAccepted
    obtain ⟨pitReads, fresh⟩ := parsePIT_eq_iff.mp pitAccepted
    obtain ⟨bookingRef, publicKeyHash, _, ticketReads⟩ := parseTicket_eq_iff.mp ticketAccepted
    rw [Bool.eq_iff_iff, keysMatch_iff, match_iff lib pitReads fresh ticketReads, beq_iff_eq,
      extract_of_reads ticketReads]
  · intro found
    obtain ⟨bookingRef, stamp, signature, parts⟩ := extract_ne_nil found
    exact ⟨bookingRef, stamp, signature, parts, parseTicket_rejects_iff parts⟩

end TicketOwnership

end SbbTicketing
