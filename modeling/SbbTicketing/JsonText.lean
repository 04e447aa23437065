import Mathlib.Data.List.Basic

/-! JSON text, read one character at a time into tokens, and the values the tokens spell. A
string is the sequence of UTF-16 code units it denotes, an object its members in order. -/

namespace JsonText

inductive Token
  | openObject | closeObject | openArray | closeArray | colon | comma
  | string (units : List Nat)
  | literal (letters : List Char)
  deriving DecidableEq, Repr

/-- A value; numbers, `true`, `false` and `null` are kept as they are spelled. -/
inductive Json
  | literal (letters : List Char)
  | string (units : List Nat)
  | array (items : List Json)
  | object (members : List (List Nat × Json))

def utf16Units (c : Char) : List Nat :=
  if c.toNat < 0x10000 then [c.toNat]
  else [0xD800 + (c.toNat - 0x10000) / 0x400, 0xDC00 + (c.toNat - 0x10000) % 0x400]

def utf16 (text : List Char) : List Nat := text.flatMap utf16Units

/-- A character that stands for itself in a string. -/
def Plain (c : Char) : Prop := c ≠ '"' ∧ c ≠ '\\' ∧ 0x20 ≤ c.toNat

instance (c : Char) : Decidable (Plain c) := inferInstanceAs (Decidable (_ ∧ _))

def dropDigits (text : List Char) : Option (List Char) :=
  if text.head?.any Char.isDigit then some (text.dropWhile Char.isDigit) else none

def isExponent : List Char → Bool
  | [] => true
  | e :: '+' :: rest => (e == 'e' || e == 'E') && dropDigits rest == some []
  | e :: '-' :: rest => (e == 'e' || e == 'E') && dropDigits rest == some []
  | e :: rest => (e == 'e' || e == 'E') && dropDigits rest == some []

def isFraction : List Char → Bool
  | '.' :: rest => (dropDigits rest).any isExponent
  | rest => isExponent rest

def isNatural : List Char → Bool
  | '0' :: rest => isFraction rest
  | digits => (dropDigits digits).any isFraction

def isNumber : List Char → Bool
  | '-' :: rest => isNatural rest
  | rest => isNatural rest

def literal? (letters : List Char) : Option Token :=
  if letters = "true".toList ∨ letters = "false".toList ∨ letters = "null".toList ∨ isNumber letters then
    some (.literal letters)
  else none

def structural? : Char → Option Token
  | '{' => some .openObject
  | '}' => some .closeObject
  | '[' => some .openArray
  | ']' => some .closeArray
  | ':' => some .colon
  | ',' => some .comma
  | _ => none

def isWhitespace (c : Char) : Bool := c = ' ' || c = '\t' || c = '\n' || c = '\r'

def shortEscape : Char → Option Nat
  | '"' => some 0x22
  | '\\' => some 0x5C
  | '/' => some 0x2F
  | 'b' => some 0x08
  | 'f' => some 0x0C
  | 'n' => some 0x0A
  | 'r' => some 0x0D
  | 't' => some 0x09
  | _ => none

def hexValue (c : Char) : Option Nat :=
  if c.isDigit then some (c.toNat - 48)
  else if 'a' ≤ c ∧ c ≤ 'f' then some (c.toNat - 87)
  else if 'A' ≤ c ∧ c ≤ 'F' then some (c.toNat - 55)
  else none

/-- Where the reader stands: between tokens, in a literal, or in a string with the code units
read so far; an escape of four hexadecimal digits has its value and the digits still to come. -/
inductive Mode
  | between
  | word (letters : List Char)
  | string (units : List Nat)
  | escape (units : List Nat)
  | unicode (units : List Nat) (value left : Nat)
  deriving DecidableEq, Repr

namespace Mode

def begin (c : Char) : Mode × List Token :=
  if isWhitespace c then (.between, [])
  else if c = '"' then (.string [], [])
  else match structural? c with
    | some token => (.between, [token])
    | none => (.word [c], [])

def step : Mode → Char → Option (Mode × List Token)
  | .between, c => some (begin c)
  | .word letters, c =>
      match begin c with
      | (.word _, _) => some (.word (letters ++ [c]), [])
      | (next, tokens) => (literal? letters).map fun token => (next, token :: tokens)
  | .string units, c =>
      if c = '"' then some (.between, [.string units])
      else if c = '\\' then some (.escape units, [])
      else if c.toNat < 0x20 then none
      else some (.string (units ++ utf16Units c), [])
  | .escape units, c =>
      if c = 'u' then some (.unicode units 0 4, [])
      else (shortEscape c).map fun unit => (.string (units ++ [unit]), [])
  | .unicode units value left, c =>
      (hexValue c).map fun digit =>
        if left ≤ 1 then (.string (units ++ [16 * value + digit]), [])
        else (.unicode units (16 * value + digit) (left - 1), [])

def finish : Mode → Option (List Token)
  | .between => some []
  | .word letters => (literal? letters).map fun token => [token]
  | _ => none

def units? : Mode → Option (List Nat)
  | .string units => some units
  | .escape units => some units
  | .unicode units _ _ => some units
  | _ => none

end Mode

def scan : Mode → List Char → Option (Mode × List Token)
  | mode, [] => some (mode, [])
  | mode, c :: rest => do
      let (next, tokens) ← mode.step c
      let (last, later) ← scan next rest
      return (last, tokens ++ later)

def lex (text : List Char) : Option (List Token) := do
  let (last, tokens) ← scan .between text
  let final ← last.finish
  return tokens ++ final

mutual

def tokensOf : Json → List Token
  | .literal letters => [.literal letters]
  | .string units => [.string units]
  | .array [] => [.openArray, .closeArray]
  | .array (item :: items) => .openArray :: (tokensOf item ++ moreItems items)
  | .object [] => [.openObject, .closeObject]
  | .object ((key, value) :: members) =>
      .openObject :: .string key :: .colon :: (tokensOf value ++ moreMembers members)

/-- What follows an item: the other items, and the closing bracket. -/
def moreItems : List Json → List Token
  | [] => [.closeArray]
  | item :: items => .comma :: (tokensOf item ++ moreItems items)

def moreMembers : List (List Nat × Json) → List Token
  | [] => [.closeObject]
  | (key, value) :: members => .comma :: .string key :: .colon :: (tokensOf value ++ moreMembers members)

end

def Decodes (document : List Char) (value : Json) : Prop := lex document = some (tokensOf value)

instance (document : List Char) (value : Json) : Decidable (Decodes document value) :=
  inferInstanceAs (Decidable (_ = _))

example : Decodes "\x7b\"a\": [1, -2.5e3, \"\\u0041\\n\"]\x7d".toList (.object [([97], .array
    [.literal "1".toList, .literal "-2.5e3".toList, .string [0x41, 0x0A]])]) := by decide

theorem tokensOf_ne_close (value : Json) (rest rest' : List Token) :
    Token.closeArray :: rest ≠ tokensOf value ++ rest' := by
  intro same
  match value with
  | .literal _ | .string _ | .array [] | .array (_ :: _) | .object [] | .object (_ :: _) =>
      simp [tokensOf] at same

mutual

/-- The tokens of a value are the only value at the front of a token list. -/
theorem tokensOf_cancel : ∀ (value other : Json) {rest rest' : List Token},
    tokensOf value ++ rest = tokensOf other ++ rest' → value = other ∧ rest = rest'
  | .literal letters, other, rest, rest', same => by
      match other with
      | .literal letters' => simpa [tokensOf] using same
      | .string _ | .array [] | .array (_ :: _) | .object [] | .object (_ :: _) =>
          simp [tokensOf] at same
  | .string units, other, rest, rest', same => by
      match other with
      | .string units' => simpa [tokensOf] using same
      | .literal _ | .array [] | .array (_ :: _) | .object [] | .object (_ :: _) =>
          simp [tokensOf] at same
  | .array [], other, rest, rest', same => by
      match other with
      | .array [] => simpa [tokensOf] using same
      | .array (item :: items) =>
          simp only [tokensOf, List.cons_append, List.cons.injEq, true_and, List.append_assoc] at same
          exact absurd same (tokensOf_ne_close item _ _)
      | .literal _ | .string _ | .object [] | .object (_ :: _) => simp [tokensOf] at same
  | .array (item :: items), other, rest, rest', same => by
      match other with
      | .array [] =>
          simp only [tokensOf, List.cons_append, List.cons.injEq, true_and, List.append_assoc] at same
          exact absurd same.symm (tokensOf_ne_close item _ _)
      | .array (item' :: items') =>
          simp only [tokensOf, List.cons_append, List.cons.injEq, true_and, List.append_assoc] at same
          obtain ⟨rfl, more⟩ := tokensOf_cancel item item' same
          obtain ⟨rfl, later⟩ := moreItems_cancel items items' more
          exact ⟨rfl, later⟩
      | .literal _ | .string _ | .object [] | .object (_ :: _) => simp [tokensOf] at same
  | .object [], other, rest, rest', same => by
      match other with
      | .object [] => simpa [tokensOf] using same
      | .literal _ | .string _ | .array [] | .array (_ :: _) | .object (_ :: _) =>
          simp [tokensOf] at same
  | .object ((key, value) :: members), other, rest, rest', same => by
      match other with
      | .object ((key', value') :: members') =>
          simp only [tokensOf, List.cons_append, List.cons.injEq, true_and, List.append_assoc,
            Token.string.injEq] at same
          obtain ⟨rfl, sameValue⟩ := same
          obtain ⟨rfl, more⟩ := tokensOf_cancel value value' sameValue
          obtain ⟨rfl, later⟩ := moreMembers_cancel members members' more
          exact ⟨rfl, later⟩
      | .literal _ | .string _ | .array [] | .array (_ :: _) | .object [] => simp [tokensOf] at same

theorem moreItems_cancel : ∀ (items items' : List Json) {rest rest' : List Token},
    moreItems items ++ rest = moreItems items' ++ rest' → items = items' ∧ rest = rest'
  | [], items', rest, rest', same => by
      cases items' with
      | nil => simpa [moreItems] using same
      | cons _ _ => simp [moreItems] at same
  | item :: items, items', rest, rest', same => by
      cases items' with
      | nil => simp [moreItems] at same
      | cons item' items' =>
          simp only [moreItems, List.cons_append, List.cons.injEq, true_and, List.append_assoc] at same
          obtain ⟨rfl, more⟩ := tokensOf_cancel item item' same
          obtain ⟨rfl, later⟩ := moreItems_cancel items items' more
          exact ⟨rfl, later⟩

theorem moreMembers_cancel : ∀ (members members' : List (List Nat × Json)) {rest rest' : List Token},
    moreMembers members ++ rest = moreMembers members' ++ rest' → members = members' ∧ rest = rest'
  | [], members', rest, rest', same => by
      cases members' with
      | nil => simpa [moreMembers] using same
      | cons _ _ => simp [moreMembers] at same
  | (key, value) :: members, members', rest, rest', same => by
      cases members' with
      | nil => simp [moreMembers] at same
      | cons first members' =>
          obtain ⟨key', value'⟩ := first
          simp only [moreMembers, List.cons_append, List.cons.injEq, true_and, List.append_assoc,
            Token.string.injEq] at same
          obtain ⟨rfl, sameValue⟩ := same
          obtain ⟨rfl, more⟩ := tokensOf_cancel value value' sameValue
          obtain ⟨rfl, later⟩ := moreMembers_cancel members members' more
          exact ⟨rfl, later⟩

end

theorem Decodes.unique {document : List Char} {value other : Json} (decodes : Decodes document value)
    (decodesOther : Decodes document other) : value = other := by
  have same : tokensOf value ++ [] = tokensOf other ++ [] := by
    simpa using Option.some.inj (decodes.symm.trans decodesOther)
  exact (tokensOf_cancel value other same).1

theorem scan_append (mode : Mode) (front back : List Char) :
    scan mode (front ++ back) = (scan mode front).bind fun (next, tokens) =>
      (scan next back).map fun (last, later) => (last, tokens ++ later) := by
  induction front generalizing mode with
  | nil => cases scanned : scan mode back <;> simp [scan, scanned]
  | cons c rest ih =>
      simp only [List.cons_append, scan, Option.bind_eq_bind, Option.bind_assoc, ih]
      refine congrArg (Option.bind _) (funext fun first => ?_)
      refine congrArg (Option.bind _) (funext fun second => ?_)
      cases ended : scan second.1 back <;> simp [ended]

theorem scan_plain {text : List Char} (plain : ∀ c ∈ text, Plain c) (units : List Nat) :
    scan (.string units) text = some (.string (units ++ utf16 text), []) := by
  induction text generalizing units with
  | nil => simp [scan, utf16]
  | cons c rest ih =>
      obtain ⟨notQuote, notBackslash, printable⟩ := plain c List.mem_cons_self
      have later := ih (fun d member => plain d (List.mem_cons_of_mem c member)) (units ++ utf16Units c)
      have stepped : Mode.step (.string units) c = some (.string (units ++ utf16Units c), []) := by
        simp only [Mode.step, notQuote, notBackslash, ↓reduceIte]
        rw [if_neg (by omega)]
      simp [scan, stepped, later, utf16]

theorem utf16Units_pos (c : Char) : 1 ≤ (utf16Units c).length := by
  simp only [utf16Units]
  split <;> simp

theorem utf16_cons_length (c : Char) (rest : List Char) :
    (utf16 (c :: rest)).length = (utf16Units c).length + (utf16 rest).length := by
  simp [utf16]

/-- What one character does inside a string: it closes it, or it adds code units. An escape is
longer than what it stands for, so a character that adds as many as it has is plain. -/
theorem step_inside {mode next : Mode} {units : List Nat} {c : Char} {emitted : List Token}
    (inside : mode.units? = some units) (stepped : mode.step c = some (next, emitted)) :
    (c = '"' ∧ mode = .string units ∧ next = .between ∧ emitted = [.string units]) ∨
    ∃ extra, emitted = [] ∧ next.units? = some (units ++ extra) ∧
      extra.length ≤ (utf16Units c).length ∧
      (mode = .string units → extra.length = (utf16Units c).length →
        Plain c ∧ next = .string (units ++ extra)) := by
  have positive := utf16Units_pos c
  cases mode with
  | between => cases inside
  | word letters => cases inside
  | string read =>
      cases inside
      simp only [Mode.step] at stepped
      by_cases quote : c = '"'
      · rw [if_pos quote] at stepped
        cases stepped
        exact Or.inl ⟨quote, rfl, rfl, rfl⟩
      rw [if_neg quote] at stepped
      by_cases backslash : c = '\\'
      · rw [if_pos backslash] at stepped
        cases stepped
        refine Or.inr ⟨[], rfl, by simp [Mode.units?], by simp, fun _ same => ?_⟩
        simp only [List.length_nil] at same
        omega
      rw [if_neg backslash] at stepped
      by_cases control : c.toNat < 0x20
      · rw [if_pos control] at stepped
        cases stepped
      · rw [if_neg control] at stepped
        cases stepped
        exact Or.inr ⟨utf16Units c, rfl, rfl, Nat.le_refl _,
          fun _ _ => ⟨⟨quote, backslash, by omega⟩, rfl⟩⟩
  | escape read =>
      cases inside
      simp only [Mode.step] at stepped
      split at stepped
      · cases stepped
        exact Or.inr ⟨[], rfl, by simp [Mode.units?], by simp, nofun⟩
      · simp only [Option.map_eq_some_iff, Prod.mk.injEq] at stepped
        obtain ⟨unit, _, rfl, rfl⟩ := stepped
        exact Or.inr ⟨[unit], rfl, rfl, positive, nofun⟩
  | unicode read value left =>
      cases inside
      simp only [Mode.step, Option.map_eq_some_iff] at stepped
      obtain ⟨digit, _, stepped⟩ := stepped
      split at stepped
      · cases stepped
        exact Or.inr ⟨[16 * value + digit], rfl, rfl, positive, nofun⟩
      · cases stepped
        exact Or.inr ⟨[], rfl, by simp [Mode.units?], by simp, nofun⟩

/-- A string that is closed in the rest of the text: what is written of it, the code units that
gives, and the text after the closing quotation mark. -/
structure Closes (mode : Mode) (units : List Nat) (text : List Char) (last : Mode)
    (tokens : List Token) (written : List Char) (more : List Nat) (rest : List Char)
    (later : List Token) : Prop where
  text : text = written ++ '"' :: rest
  tokens : tokens = .string (units ++ more) :: later
  scanned : scan .between rest = some (last, later)
  bound : more.length ≤ (utf16 written).length
  plain : mode = .string units → more.length = (utf16 written).length → ∀ c ∈ written, Plain c

theorem string_closes {mode last : Mode} {units : List Nat} {text : List Char} {tokens : List Token}
    (inside : mode.units? = some units) (scanned : scan mode text = some (last, tokens))
    (outside : last.units? = none) :
    ∃ written more rest later, Closes mode units text last tokens written more rest later := by
  induction text generalizing mode units tokens with
  | nil =>
      simp only [scan, Option.some.injEq, Prod.mk.injEq] at scanned
      rw [scanned.1, outside] at inside
      cases inside
  | cons c rest ih =>
      simp only [scan, Option.bind_eq_bind, Option.bind_eq_some_iff] at scanned
      obtain ⟨⟨next, emitted⟩, stepped, ⟨final, later⟩, scannedRest, same⟩ := scanned
      simp only [Option.pure_def, Option.some.injEq, Prod.mk.injEq] at same
      obtain ⟨rfl, rfl⟩ := same
      rcases step_inside inside stepped with ⟨rfl, _, rfl, rfl⟩ | ⟨extra, rfl, inNext, short, plain⟩
      · refine ⟨[], [], rest, later, rfl, by simp, scannedRest, by simp [utf16], ?_⟩
        simp
      obtain ⟨written, more, after, tail, closes⟩ := ih inNext scannedRest
      have longer := utf16_cons_length c written
      have bound := closes.bound
      refine ⟨c :: written, extra ++ more, after, tail, ?_, ?_, closes.scanned, ?_, ?_⟩
      · rw [closes.text, List.cons_append]
      · rw [List.nil_append, closes.tokens, List.append_assoc]
      · rw [List.length_append]
        omega
      · intro inString sameLength
        rw [List.length_append] at sameLength
        obtain ⟨plainFirst, nextString⟩ := plain inString (by omega)
        exact List.forall_mem_cons.mpr ⟨plainFirst, closes.plain nextString (by omega)⟩

theorem finish_outside {mode : Mode} {tokens : List Token} (finished : mode.finish = some tokens) :
    mode.units? = none := by
  cases mode with
  | between => rfl
  | word letters => rfl
  | string units => cases finished
  | escape units => cases finished
  | unicode units value left => cases finished

theorem lex_eq_some_iff {text : List Char} {tokens : List Token} :
    lex text = some tokens ↔ ∃ last early final, scan .between text = some (last, early) ∧
      last.finish = some final ∧ early ++ final = tokens := by
  simp only [lex, Option.bind_eq_bind, Option.bind_eq_some_iff, Option.pure_def, Option.some.injEq,
    Prod.exists, exists_and_left]

theorem spliced_plain {opening tail inserted : List Char} {before after : List Token}
    (opens : scan .between opening = some (.string [], before)) (closes : lex tail = some after)
    (plain : ∀ c ∈ inserted, Plain c) :
    lex (opening ++ inserted ++ '"' :: tail) = some (before ++ .string (utf16 inserted) :: after) := by
  obtain ⟨last, early, final, scanned, finished, tokens⟩ := lex_eq_some_iff.mp closes
  have closing : scan (.string (utf16 inserted)) ('"' :: tail) =
      some (last, .string (utf16 inserted) :: early) := by
    simp [scan, Mode.step, scanned]
  refine lex_eq_some_iff.mpr ⟨last, before ++ .string (utf16 inserted) :: early, final, ?_, finished, ?_⟩
  · rw [List.append_assoc, scan_append, opens]
    simp [scan_append, scan_plain plain, closing]
  · rw [List.append_assoc, List.cons_append, tokens]

theorem plain_of_spliced {opening tail inserted : List Char} {before after : List Token}
    (opens : scan .between opening = some (.string [], before))
    (once : ∀ skipped rest, tail = skipped ++ '"' :: rest → lex rest ≠ some after)
    (lexed : lex (opening ++ inserted ++ '"' :: tail) =
      some (before ++ .string (utf16 inserted) :: after)) :
    ∀ c ∈ inserted, Plain c := by
  obtain ⟨last, early, final, scanned, finished, tokens⟩ := lex_eq_some_iff.mp lexed
  rw [List.append_assoc, scan_append, opens] at scanned
  simp only [Option.bind_some, Option.map_eq_some_iff, Prod.mk.injEq, Prod.exists] at scanned
  obtain ⟨last', more, scannedRest, rfl, rfl⟩ := scanned
  have inside : (Mode.string []).units? = some [] := rfl
  obtain ⟨written, units, rest, later, closed⟩ :=
    string_closes inside scannedRest (finish_outside finished)
  have tokensLater := closed.tokens
  rw [List.nil_append] at tokensLater
  rw [tokensLater, List.append_assoc, List.append_cancel_left_eq, List.cons_append, List.cons.injEq,
    Token.string.injEq] at tokens
  obtain ⟨rfl, laterTokens⟩ := tokens
  have lexedRest : lex rest = some after :=
    lex_eq_some_iff.mpr ⟨last', later, final, closed.scanned, finished, laterTokens⟩
  -- Closed later, the rest of the template would have to say the same again; closed earlier, what
  -- is written is too short for the code units of all that was inserted.
  have whole : written = inserted := by
    rcases List.append_eq_append_iff.mp closed.text with
      ⟨extra, writtenEq, tailEq⟩ | ⟨extra, insertedEq, _⟩
    · cases extra with
      | nil => rw [writtenEq, List.append_nil]
      | cons c extra =>
          rw [List.cons_append, List.cons.injEq] at tailEq
          exact absurd lexedRest (once extra rest tailEq.2)
    · cases extra with
      | nil => rw [insertedEq, List.append_nil]
      | cons c extra =>
          have bound := closed.bound
          have positive := utf16Units_pos c
          rw [insertedEq] at bound
          simp only [utf16, List.flatMap_append, List.flatMap_cons, List.length_append] at bound
          omega
  subst whole
  exact closed.plain rfl rfl

/-- A text written between `opening`, which ends inside a string, and a closing quotation mark is
read as that string, with the tokens of the template around it, exactly if it is plain. The rest
of the template must not say the same again after a later quotation mark. -/
theorem spliced_iff {opening tail : List Char} {before after : List Token}
    (opens : scan .between opening = some (.string [], before)) (closes : lex tail = some after)
    (once : ∀ skipped rest, tail = skipped ++ '"' :: rest → lex rest ≠ some after)
    (inserted : List Char) :
    lex (opening ++ inserted ++ '"' :: tail) = some (before ++ .string (utf16 inserted) :: after) ↔
      ∀ c ∈ inserted, Plain c :=
  ⟨plain_of_spliced opens once, spliced_plain opens closes⟩

end JsonText
