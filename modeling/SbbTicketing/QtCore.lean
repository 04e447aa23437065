import Mathlib.Algebra.Group.Nat.Defs
import Mathlib.Algebra.Ring.Int.Defs
import Mathlib.Data.List.TakeWhile
import SbbTicketing.HexText
import SbbTicketing.Numerals

/-! The Qt value types and functions the ticketing code uses. A `QString` is its list of
Unicode characters: every string of the program comes from `fromUtf8`, `fromStdString`, an
edit field or a literal, so none holds half a surrogate pair. -/

namespace Qt

abbrev QString := List Char

abbrev QByteArray := List UInt8

/-- `QDate` as its Julian day, `QTime` as milliseconds since midnight. -/
abbrev QDate := Int

abbrev QTime := Int

/-- The parts of Qt that are looked up, not modelled: full Unicode lower-casing,
`QCryptographicHash::hash` with `Sha256`, and decoding of UTF-8 that may be ill-formed. -/
structure QtLibrary where
  toLower : QString → QString
  sha256 : QByteArray → QByteArray
  fromUtf8 : QByteArray → QString
  sha256_length : ∀ data, (sha256 data).length = 32

def text (literal : String) : QString := literal.toList

def isSpace (c : Char) : Bool :=
  let code := c.toNat
  (9 ≤ code && code ≤ 13) || code = 32 || code = 0x85 || code = 0xA0 || code = 0x1680 ||
    (0x2000 ≤ code && code ≤ 0x200A) || code = 0x2028 || code = 0x2029 || code = 0x202F ||
    code = 0x205F || code = 0x3000

def trimmed (string : QString) : QString :=
  ((string.dropWhile isSpace).reverse.dropWhile isSpace).reverse

/-- `QString::split` with one separator character, empty parts kept. -/
def split (string : QString) (separator : Char) : List QString := string.splitOn separator

/-- `QString::toUtf8`, also `toStdString` and the bytes of a converted literal. -/
def toUtf8 (string : QString) : QByteArray := string.flatMap String.utf8EncodeChar

/-- `QByteArray::toHex`, converted to the `QString` every caller wants. -/
def toHex (bytes : QByteArray) : QString := HexText.encode bytes

def fromHex (bytes : QByteArray) : QByteArray := HexText.decode bytes

def left (string : QString) (count : Nat) : QString := string.take count

def number (value : Int64) : QString := Numerals.decimal value.toInt

/-- `QString::toLongLong`: white space around the numeral, a sign `+` or `-` and leading zeros are
allowed; anything else, or a value outside the type, is not a number. Some versions of Qt also take
the minus sign U+2212, which is not read here. -/
def toLongLong (string : QString) : Option Int64 :=
  match Numerals.readInteger (trimmed string) with
  | none => none
  | some value => if -2 ^ 63 ≤ value ∧ value < 2 ^ 63 then some (Int64.ofInt value) else none

def Spells (string : QString) (value : Int64) : Prop :=
  ∃ before numeral after, string = before ++ numeral ++ after ∧
    (∀ c ∈ before, isSpace c = true) ∧ (∀ c ∈ after, isSpace c = true) ∧
    Numerals.IsNumeral numeral value.toInt

/-- A piece of a template: an ordinary character, or a place marker `%n`, `%Ln` with its text. -/
inductive ArgPiece
  | character (c : Char)
  | marker (number : Nat) (source : QString)
  deriving DecidableEq, Repr

def digitValue (c : Char) : Option Nat := if c.isDigit then some (c.toNat - 48) else none

/-- The place marker that starts after a `%`: its number and how many characters it takes. -/
def argMarker (afterPercent : QString) : Option (Nat × Nat) :=
  let localeLength := if afterPercent.head? = some 'L' then 1 else 0
  let digits := afterPercent.drop localeLength
  match digits.head?.bind digitValue with
  | none => none
  | some first =>
      match (digits.drop 1).head?.bind digitValue with
      | none => some (first, localeLength + 1)
      | some second => some (10 * first + second, localeLength + 2)

/-- Splits a template into pieces; the first argument counts characters of the marker being read. -/
def argPieces : Nat → QString → List ArgPiece
  | _, [] => []
  | skip + 1, _ :: rest => argPieces skip rest
  | 0, c :: rest =>
      match if c = '%' then argMarker rest else none with
      | none => .character c :: argPieces 0 rest
      | some (number, length) => .marker number ('%' :: rest.take length) :: argPieces length rest

def ArgPiece.number? : ArgPiece → Option Nat
  | .character _ => none
  | .marker number _ => some number

def ArgPiece.replaced (lowest : Nat) (value : QString) : ArgPiece → QString
  | .character c => [c]
  | .marker number source => if number = lowest then value else source

/-- `QString::arg`: the place markers with the lowest number are replaced by the value. -/
def arg (template value : QString) : QString :=
  let pieces := argPieces 0 template
  match (pieces.filterMap ArgPiece.number?).min? with
  | none => template
  | some lowest => pieces.flatMap (ArgPiece.replaced lowest value)

example : arg (arg (text "PIT:%1:%2") (text "7")) (text "ab") = text "PIT:7:ab" := by decide

/-- Qt on plain ASCII text, where case and UTF-8 are a matter of single bytes, with a table of
the digests it is asked for. -/
def asciiLibrary (digests : List (QString × QString)) : QtLibrary where
  toLower := List.map Char.toLower
  sha256 data :=
    let digest := ((digests.find? fun entry => toUtf8 entry.1 = data).map Prod.snd).getD []
    (fromHex (toUtf8 digest) ++ List.replicate 32 0).take 32
  fromUtf8 bytes := bytes.map fun byte => Char.ofNat byte.toNat
  sha256_length data := by simp

theorem split_single {piece : QString} {separator : Char} (absent : separator ∉ piece) :
    split piece separator = [piece] := List.splitOn_eq_singleton absent

theorem split_append {piece : QString} {separator : Char} (absent : separator ∉ piece) (rest : QString) :
    split (piece ++ separator :: rest) separator = piece :: split rest separator :=
  List.splitOn_append_cons_self_of_not_mem absent rest

theorem not_mem_of_mem_split {string piece : QString} {separator : Char}
    (member : piece ∈ split string separator) : separator ∉ piece := by
  induction string generalizing piece with
  | nil =>
      simp only [split, List.splitOn_nil, List.mem_singleton] at member
      simp [member]
  | cons c rest ih =>
      simp only [split] at member ih
      rw [List.splitOn_cons_eq_if_modifyHead] at member
      by_cases here : c = separator
      · subst here
        simp only [BEq.rfl, ↓reduceIte, List.mem_cons] at member
        rcases member with rfl | later
        · simp
        · exact ih later
      · simp only [beq_iff_eq, here, ↓reduceIte] at member
        cases parts : List.splitOn separator rest with
        | nil => simp at parts
        | cons first others =>
            rw [parts] at member ih
            simp only [List.modifyHead_cons, List.mem_cons] at member
            rcases member with rfl | later
            · have absent := ih List.mem_cons_self
              simp [Ne.symm here, absent]
            · exact ih (List.mem_cons_of_mem _ later)

theorem split_eq_iff {string : QString} {separator : Char} {parts : List QString} :
    split string separator = parts ↔
      parts ≠ [] ∧ (∀ piece ∈ parts, separator ∉ piece) ∧ string = [separator].intercalate parts := by
  constructor
  · rintro rfl
    refine ⟨List.splitOn_ne_nil _ _, fun piece member => not_mem_of_mem_split member, ?_⟩
    exact (List.intercalate_splitOn separator).symm
  · rintro ⟨nonempty, plain, rfl⟩
    exact List.splitOn_intercalate separator plain nonempty

theorem toUtf8_injective : Function.Injective toUtf8 := by
  intro first second same
  have encoded : first.utf8Encode = second.utf8Encode := by
    simpa only [List.utf8Encode, toUtf8] using congrArg List.toByteArray same
  apply String.ofList_inj.mp
  apply String.toByteArray_inj.mp
  simpa using encoded

theorem fromHex_toHex (bytes : QByteArray) : fromHex (toUtf8 (toHex bytes)) = bytes :=
  HexText.decode_utf8_encode bytes

theorem toHex_eq_nil_iff {bytes : QByteArray} : toHex bytes = [] ↔ bytes = [] :=
  HexText.encode_eq_nil_iff

theorem not_mem_toHex {c : Char} (other : ∀ digit < 16, Nat.digitChar digit ≠ c) (bytes : QByteArray) :
    c ∉ toHex bytes := by
  intro member
  exact HexText.forall_mem_encode (p := (· ≠ c)) other bytes c member rfl

theorem not_mem_number {c : Char} (notSign : c ≠ '-') (notDigit : c.isDigit = false) (value : Int64) :
    c ∉ number value := Numerals.not_mem_decimal notSign notDigit

theorem number_injective : Function.Injective number := by
  intro first second same
  exact Int64.toInt.inj (Numerals.decimal_injective same)

theorem dropWhile_eq_self_of_forall {α : Type} {predicate : α → Bool} {items : List α}
    (none : ∀ item ∈ items, predicate item = false) : items.dropWhile predicate = items := by
  cases items with
  | nil => rfl
  | cons first rest => simp [List.dropWhile, none first (by simp)]

theorem trimmed_pad {before core after : QString} (spaceBefore : ∀ c ∈ before, isSpace c = true)
    (solid : ∀ c ∈ core, isSpace c = false) (spaceAfter : ∀ c ∈ after, isSpace c = true) :
    trimmed (before ++ core ++ after) = core := by
  rw [trimmed, List.append_assoc, List.dropWhile_append_of_pos spaceBefore]
  cases core with
  | nil =>
      have gone : after.dropWhile isSpace = [] := List.dropWhile_eq_nil_iff.mpr spaceAfter
      simp [gone]
  | cons first rest =>
      have solidBack : ∀ c ∈ (first :: rest).reverse, isSpace c = false :=
        fun c member => solid c (List.mem_reverse.mp member)
      have spaceBack : ∀ c ∈ after.reverse, isSpace c = true :=
        fun c member => spaceAfter c (List.mem_reverse.mp member)
      rw [List.cons_append, List.dropWhile_cons_of_neg (by simp [solid first List.mem_cons_self]),
        ← List.cons_append, List.reverse_append, List.dropWhile_append_of_pos spaceBack,
        dropWhile_eq_self_of_forall solidBack, List.reverse_reverse]

theorem eq_trimmed_pad (string : QString) : ∃ before after, string = before ++ trimmed string ++ after ∧
    (∀ c ∈ before, isSpace c = true) ∧ (∀ c ∈ after, isSpace c = true) := by
  have front := List.takeWhile_append_dropWhile (p := isSpace) (l := string)
  have back := List.takeWhile_append_dropWhile (p := isSpace) (l := (string.dropWhile isSpace).reverse)
  refine ⟨string.takeWhile isSpace, ((string.dropWhile isSpace).reverse.takeWhile isSpace).reverse, ?_, ?_, ?_⟩
  · rw [trimmed, List.append_assoc, ← List.reverse_append, back, List.reverse_reverse, front]
  · intro c member
    exact List.mem_takeWhile_imp member
  · intro c member
    exact List.mem_takeWhile_imp (List.mem_reverse.mp member)

theorem isSpace_of_isDigit {c : Char} (digit : c.isDigit = true) : isSpace c = false := by
  simp only [Char.isDigit, Bool.and_eq_true, decide_eq_true_eq] at digit
  have lower : 48 ≤ c.toNat := digit.1
  have upper : c.toNat ≤ 57 := digit.2
  simp only [isSpace, Bool.or_eq_false_iff, Bool.and_eq_false_iff, decide_eq_false_iff_not]
  omega

theorem numeral_no_space {numeral : QString} {value : Int} (reads : Numerals.IsNumeral numeral value) :
    ∀ c ∈ numeral, isSpace c = false := by
  obtain ⟨sign, zeros, magnitude, rfl, meaning⟩ := reads
  intro c member
  rw [List.append_assoc] at member
  rcases List.mem_append.mp member with inSign | inDigits
  · rcases meaning with ⟨rfl | rfl, _⟩ | ⟨rfl, _⟩
    · simp at inSign
    · rw [List.mem_singleton.mp inSign]
      decide
    · rw [List.mem_singleton.mp inSign]
      decide
  · exact isSpace_of_isDigit (Numerals.isDigit_of_mem_spelled zeros magnitude c inDigits)

theorem Spells.not_mem {string : QString} {value : Int64} (spelled : Spells string value) {c : Char}
    (notSpace : isSpace c = false) (notDigit : c.isDigit = false) (notSign : c ≠ '+' ∧ c ≠ '-') :
    c ∉ string := by
  obtain ⟨before, numeral, after, rfl, spaceBefore, spaceAfter, sign, zeros, magnitude, rfl, meaning⟩ :=
    spelled
  have notBefore : c ∉ before := fun member => by simp [spaceBefore c member] at notSpace
  have notAfter : c ∉ after := fun member => by simp [spaceAfter c member] at notSpace
  have notSpelled : c ∉ List.replicate zeros '0' ++ Nat.toDigits 10 magnitude := fun member => by
    simp [Numerals.isDigit_of_mem_spelled zeros magnitude c member] at notDigit
  have notInSign : c ∉ sign := by
    rcases meaning with ⟨rfl | rfl, _⟩ | ⟨rfl, _⟩ <;> simp [notSign]
  simp only [List.append_assoc, List.mem_append, not_or] at notSpelled ⊢
  exact ⟨notBefore, notInSign, notSpelled.1, notSpelled.2, notAfter⟩

theorem toLongLong_eq_some_iff {string : QString} {value : Int64} :
    toLongLong string = some value ↔ Spells string value := by
  have lower := value.le_toInt
  have upper := value.toInt_lt
  simp only [toLongLong]
  constructor
  · intro read
    cases numeral : Numerals.readInteger (trimmed string) with
    | none => simp [numeral] at read
    | some whole =>
        simp only [numeral] at read
        by_cases inRange : -2 ^ 63 ≤ whole ∧ whole < 2 ^ 63
        · rw [if_pos inRange, Option.some.injEq] at read
          obtain ⟨before, after, padded, spaceBefore, spaceAfter⟩ := eq_trimmed_pad string
          have same : value.toInt = whole := by
            rw [← read, Int64.toInt_ofInt_of_le inRange.1 inRange.2]
          refine ⟨before, trimmed string, after, padded, spaceBefore, spaceAfter, ?_⟩
          rw [same]
          exact Numerals.readInteger_eq_some_iff.mp numeral
        · rw [if_neg inRange] at read
          cases read
  · rintro ⟨before, numeral, after, rfl, spaceBefore, spaceAfter, reads⟩
    rw [trimmed_pad spaceBefore (numeral_no_space reads) spaceAfter,
      Numerals.readInteger_eq_some_iff.mpr reads]
    simp only
    rw [if_pos ⟨lower, upper⟩, Int64.ofInt_toInt]

theorem toLongLong_number (value : Int64) : toLongLong (number value) = some value :=
  toLongLong_eq_some_iff.mpr
    ⟨[], number value, [], by simp, by simp, by simp, Numerals.isNumeral_decimal value.toInt⟩

theorem argPieces_append {plain rest : QString} (noPercent : '%' ∉ plain) :
    argPieces 0 (plain ++ rest) = plain.map .character ++ argPieces 0 rest := by
  induction plain with
  | nil => rfl
  | cons c plain ih =>
      obtain ⟨notPercent, later⟩ : '%' ≠ c ∧ '%' ∉ plain := by simpa using noPercent
      simp [argPieces, notPercent.symm, ih later]

theorem arg_append {plain rest : QString} (noPercent : '%' ∉ plain) (value : QString) :
    arg (plain ++ rest) value = plain ++ arg rest value := by
  have noNumbers : (plain.map ArgPiece.character).filterMap ArgPiece.number? = [] := by
    simp [ArgPiece.number?]
  have same (lowest : Nat) :
      (plain.map ArgPiece.character).flatMap (ArgPiece.replaced lowest value) = plain := by
    simp [List.flatMap_map, ArgPiece.replaced]
  simp only [arg, argPieces_append noPercent, List.filterMap_append, noNumbers, List.nil_append,
    List.flatMap_append]
  cases (List.filterMap ArgPiece.number? (argPieces 0 rest)).min? with
  | none => rfl
  | some lowest => simp only [same]

/-- A template with one place marker, not followed by another digit. -/
theorem arg_marker {before after : QString} (plainBefore : '%' ∉ before) (plainAfter : '%' ∉ after)
    (noDigit : after.head?.bind digitValue = none) (value : QString) :
    arg (before ++ '%' :: '1' :: after) value = before ++ (value ++ after) := by
  have marker : argMarker ('1' :: after) = some (1, 1) := by
    have one : digitValue '1' = some 1 := rfl
    simp [argMarker, one, noDigit]
  have characters : argPieces 0 after = after.map .character := by
    have split : argPieces 0 (after ++ []) = after.map .character ++ argPieces 0 [] :=
      argPieces_append plainAfter
    simpa [argPieces] using split
  have pieces : argPieces 0 ('%' :: '1' :: after) = .marker 1 ['%', '1'] :: after.map .character := by
    simp [argPieces, marker, characters]
  have noNumbers : (after.map ArgPiece.character).filterMap ArgPiece.number? = [] := by
    simp [ArgPiece.number?]
  rw [arg_append plainBefore]
  simp [arg, pieces, ArgPiece.number?, ArgPiece.replaced, noNumbers, List.flatMap_map]

end Qt
