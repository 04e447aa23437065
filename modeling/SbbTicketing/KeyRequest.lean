import SbbTicketing.JsonText
import SbbTicketing.Principals

/-! The request a key manager sends to RNP, as a JSON document. The id is written into the text
as it is, so the request says what it should exactly for the emails that need no escape. -/

namespace SbbTicketing

open Qt JsonText

/-- The bytes are the UTF-8 text of a JSON document of this value. -/
def Reads (bytes : QByteArray) (value : Json) : Prop :=
  ∃ document, toUtf8 document = bytes ∧ Decodes document value

def keyRequest (userId : QString) : Json :=
  .object [(utf16 (text "primary"), .object [
    (utf16 (text "type"), .string (utf16 (text "EDDSA"))),
    (utf16 (text "userid"), .string (utf16 userId)),
    (utf16 (text "usage"), .array [.string (utf16 (text "sign"))])])]

def requestOpening : QString := text "\x7b\"primary\":\x7b\"type\":\"EDDSA\",\"userid\":\""

def requestTail : QString := text ",\"usage\":[\"sign\"]\x7d\x7d"

def tokensBefore : List Token :=
  [.openObject, .string (utf16 (text "primary")), .colon, .openObject, .string (utf16 (text "type")),
    .colon, .string (utf16 (text "EDDSA")), .comma, .string (utf16 (text "userid")), .colon]

def tokensAfter : List Token :=
  [.comma, .string (utf16 (text "usage")), .colon, .openArray, .string (utf16 (text "sign")),
    .closeArray, .closeObject, .closeObject]

theorem reads_utf8_iff (document : QString) (value : Json) :
    Reads (toUtf8 document) value ↔ Decodes document value := by
  constructor
  · rintro ⟨other, same, decodes⟩
    rw [toUtf8_injective same] at decodes
    exact decodes
  · exact fun decodes => ⟨document, rfl, decodes⟩

theorem keyJson_eq (userId : QString) : PgpKeyManager.keyJson (toUtf8 userId) =
    toUtf8 (requestOpening ++ userId ++ '"' :: requestTail) := by
  have closing : text "\",\"usage\":[\"sign\"]\x7d\x7d" = '"' :: requestTail := rfl
  simp only [PgpKeyManager.keyJson, closing, requestOpening, toUtf8, List.flatMap_append]

theorem tokensOf_keyRequest (userId : QString) :
    tokensOf (keyRequest userId) = tokensBefore ++ .string (utf16 userId) :: tokensAfter := rfl

theorem requestTail_once : ∀ skipped rest, requestTail = skipped ++ '"' :: rest →
    lex rest ≠ some tokensAfter := by
  have checked : ∀ skip < requestTail.length, lex (requestTail.drop (skip + 1)) ≠ some tokensAfter := by
    decide +kernel
  intro skipped rest split
  have dropped : requestTail.drop (skipped.length + 1) = rest := by simp [split]
  rw [← dropped]
  exact checked skipped.length (by simp [split])

theorem reads_keyRequest_iff (userId : QString) :
    Reads (PgpKeyManager.keyJson (toUtf8 userId)) (keyRequest userId) ↔ ∀ c ∈ userId, Plain c := by
  rw [keyJson_eq, reads_utf8_iff, Decodes, tokensOf_keyRequest]
  exact spliced_iff (by decide +kernel) (by decide +kernel) requestTail_once userId

theorem reads_unique {bytes : QByteArray} {value other : Json} (reads : Reads bytes value)
    (readsOther : Reads bytes other) : value = other := by
  obtain ⟨document, rfl, decodes⟩ := reads
  exact decodes.unique ((reads_utf8_iff document other).mp readsOther)

theorem code_zero_of_encoded {c : Char} (zero : (0 : UInt8) ∈ String.utf8EncodeChar c) : c.toNat = 0 := by
  have code : c.val.toNat = c.toNat := rfl
  simp only [String.utf8EncodeChar, code] at zero
  -- One byte, then two, three and four: only the one byte of U+0000 can be zero.
  split_ifs at zero
  all_goals
    simp [← UInt8.toNat_inj] at zero
    omega

theorem cString_utf8 {string : QString} (plain : ∀ c ∈ string, Plain c) :
    cString (toUtf8 string) = toUtf8 string := by
  refine List.takeWhile_eq_self_iff.mpr fun byte member => decide_eq_true ?_
  rintro rfl
  obtain ⟨c, inString, encoded⟩ := List.mem_flatMap.mp member
  have printable := (plain c inString).2.2
  have zero := code_zero_of_encoded encoded
  omega

/-- RNP is given the whole text of the request for a plain id: no zero byte cuts it short. -/
theorem cString_keyJson {userId : QString} (plain : ∀ c ∈ userId, Plain c) :
    cString (PgpKeyManager.keyJson (toUtf8 userId)) = PgpKeyManager.keyJson (toUtf8 userId) := by
  have openingSent : cString (toUtf8 requestOpening) = toUtf8 requestOpening := by decide +kernel
  have closingSent : cString (toUtf8 ('"' :: requestTail)) = toUtf8 ('"' :: requestTail) := by
    decide +kernel
  have idSent := cString_utf8 plain
  simp only [cString, List.takeWhile_eq_self_iff] at openingSent closingSent idSent ⊢
  rw [keyJson_eq]
  intro byte member
  simp only [toUtf8, List.flatMap_append, List.mem_append] at member
  rcases member with (inOpening | inId) | inClosing
  · exact openingSent byte inOpening
  · exact idSent byte inId
  · exact closingSent byte inClosing

theorem plain_deterministicId_iff (lib : QtLibrary) (email secret : QString) :
    (∀ c ∈ deterministicId lib email secret, Plain c) ↔ ∀ c ∈ email, Plain c := by
  constructor
  · intro plain c member
    exact plain c (by simp [deterministicId, member])
  · intro plain c member
    simp only [deterministicId, List.mem_append] at member
    rcases member with (inEmail | separator) | inHash
    · exact plain c inEmail
    · rw [List.mem_singleton.mp separator]
      decide
    · exact HexText.forall_mem_encode (p := Plain) (by decide) _ c (List.mem_of_mem_take inHash)

theorem request_exact_iff (lib : QtLibrary) (credentials : Credentials) :
    let request := PgpKeyManager.keyJson (toUtf8 (credentials.userId lib))
    ((∀ value, Reads request value ↔ value = keyRequest (credentials.userId lib)) ∧
      cString request = request) ↔
    ∀ c ∈ credentials.email, Plain c := by
  intro request
  have plainId := plain_deterministicId_iff lib credentials.email credentials.password
  have reading := reads_keyRequest_iff (credentials.userId lib)
  constructor
  · rintro ⟨readsOnly, _⟩
    exact plainId.mp (reading.mp ((readsOnly _).mpr rfl))
  · intro plain
    have reads := reading.mpr (plainId.mpr plain)
    refine ⟨fun value => ⟨fun readsValue => reads_unique readsValue reads, ?_⟩,
      cString_keyJson (plainId.mpr plain)⟩
    rintro rfl
    exact reads

def quotedCredentials : Credentials where
  typedEmail := text "a\"@b.ch"
  password := text "pw"
  accepted := by decide

/-- The quotation mark ends the string of the id, and what follows it is no JSON. -/
theorem quoted_email_malformed :
    ¬ ∃ value, Reads (PgpKeyManager.keyJson (toUtf8 (quotedCredentials.userId PlainRnp.library))) value := by
  have unread : lex (requestOpening ++ quotedCredentials.userId PlainRnp.library ++ '"' :: requestTail) =
      none := by
    decide +kernel
  rintro ⟨value, reads⟩
  rw [keyJson_eq, reads_utf8_iff, Decodes, unread] at reads
  cases reads

/-- An email can also add fields, here a first `usage` of its own. -/
def usageCredentials : Credentials where
  typedEmail := text "a@b.ch\",\"usage\":[\"encrypt\"],\"x\":\""
  password := text "pw"
  accepted := by decide

example : Reads (PgpKeyManager.keyJson (toUtf8 (usageCredentials.userId PlainRnp.library)))
    (.object [(utf16 (text "primary"), .object [
      (utf16 (text "type"), .string (utf16 (text "EDDSA"))),
      (utf16 (text "userid"), .string (utf16 (text "a@b.ch"))),
      (utf16 (text "usage"), .array [.string (utf16 (text "encrypt"))]),
      (utf16 (text "x"), .string (utf16 (text "_0000000000000000"))),
      (utf16 (text "usage"), .array [.string (utf16 (text "sign"))])])]) := by
  rw [keyJson_eq, reads_utf8_iff]
  decide +kernel

end SbbTicketing
