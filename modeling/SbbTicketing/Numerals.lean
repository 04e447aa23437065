import Mathlib.Data.List.Basic

/-! Canonical decimal numerals and a reader that also takes an explicit sign and
leading zeros. The reader undoes the writer, so a canonical numeral has one value
and a value has one canonical numeral. -/

namespace Numerals

def decimal : Int → List Char
  | .ofNat value => Nat.toDigits 10 value
  | .negSucc value => '-' :: Nat.toDigits 10 (value + 1)

def readNatural (text : List Char) : Option Nat :=
  if text ≠ [] ∧ text.all Char.isDigit then some (Nat.ofDigitChars 10 text 0) else none

def readInteger : List Char → Option Int
  | [] => none
  | sign :: digits =>
      if sign = '-' then (readNatural digits).map fun value => -Int.ofNat value
      else if sign = '+' then (readNatural digits).map Int.ofNat
      else (readNatural (sign :: digits)).map Int.ofNat

/-- The numerals of a value: digits with leading zeros after a sign, which only a negative
value needs. -/
def IsNumeral (text : List Char) (value : Int) : Prop :=
  ∃ sign zeros magnitude, text = sign ++ List.replicate zeros '0' ++ Nat.toDigits 10 magnitude ∧
    ((sign = [] ∨ sign = ['+']) ∧ value = Int.ofNat magnitude ∨
      sign = ['-'] ∧ value = -Int.ofNat magnitude)

theorem isDigit_of_mem_toDigits {value : Nat} {c : Char} (member : c ∈ Nat.toDigits 10 value) :
    c.isDigit = true :=
  Nat.isDigit_of_mem_toDigits (by decide) (by decide) member

theorem mem_decimal {value : Int} {c : Char} (member : c ∈ decimal value) :
    c = '-' ∨ c.isDigit = true := by
  cases value with
  | ofNat natural => exact Or.inr (isDigit_of_mem_toDigits member)
  | negSucc natural =>
      rcases List.mem_cons.mp member with sign | digit
      · exact Or.inl sign
      · exact Or.inr (isDigit_of_mem_toDigits digit)

theorem not_mem_decimal {value : Int} {c : Char} (notSign : c ≠ '-') (notDigit : c.isDigit = false) :
    c ∉ decimal value := by
  intro member
  rcases mem_decimal member with sign | digit
  · exact notSign sign
  · simp [notDigit] at digit

theorem digitChar_of_isDigit {c : Char} (digit : c.isDigit = true) : Nat.digitChar (c.toNat - 48) = c := by
  simp only [Char.isDigit, Bool.and_eq_true, decide_eq_true_eq] at digit
  have lower : 48 ≤ c.toNat := digit.1
  have upper : c.toNat ≤ 57 := digit.2
  apply Char.toNat_inj.mp
  rw [Nat.toNat_digitChar_of_lt_ten (by omega)]
  omega

theorem toDigits_append_digits {digits : List Char} (allDigits : ∀ c ∈ digits, c.isDigit = true)
    {start : Nat} (positive : 0 < start) :
    Nat.toDigits 10 start ++ digits = Nat.toDigits 10 (Nat.ofDigitChars 10 digits start) := by
  induction digits generalizing start with
  | nil => simp
  | cons c rest ih =>
      have digit : c.isDigit = true := allDigits c List.mem_cons_self
      have bound : c.toNat - 48 < 10 := by
        simp only [Char.isDigit, Bool.and_eq_true, decide_eq_true_eq] at digit
        have upper : c.toNat ≤ 57 := digit.2
        omega
      have pushed := Nat.toDigits_append_toDigits (b := 10) (by decide) positive bound
      rw [Nat.toDigits_of_lt_base bound, digitChar_of_isDigit digit] at pushed
      have positiveNext : 0 < 10 * start + (c.toNat - 48) := by omega
      have later := ih (fun d member => allDigits d (List.mem_cons_of_mem c member)) positiveNext
      calc Nat.toDigits 10 start ++ c :: rest
          = (Nat.toDigits 10 start ++ [c]) ++ rest := by simp
        _ = Nat.toDigits 10 (10 * start + (c.toNat - 48)) ++ rest := by rw [pushed]
        _ = Nat.toDigits 10 (Nat.ofDigitChars 10 (c :: rest) start) := by
            rw [later, Nat.ofDigitChars_cons]
            rfl

theorem digits_eq_zeros_append {digits : List Char} (allDigits : ∀ c ∈ digits, c.isDigit = true)
    (nonempty : digits ≠ []) : ∃ zeros, digits =
      List.replicate zeros '0' ++ Nat.toDigits 10 (Nat.ofDigitChars 10 digits 0) := by
  induction digits with
  | nil => exact absurd rfl nonempty
  | cons c rest ih =>
      have later : ∀ d ∈ rest, d.isDigit = true := fun d member => allDigits d (List.mem_cons_of_mem c member)
      by_cases zero : c = '0'
      · subst zero
        rw [Nat.ofDigitChars_cons]
        by_cases last : rest = []
        · subst last
          exact ⟨0, rfl⟩
        · obtain ⟨zeros, spelled⟩ := ih later last
          refine ⟨zeros + 1, ?_⟩
          rw [List.replicate_succ, List.cons_append]
          exact congrArg _ spelled
      · have digit : c.isDigit = true := allDigits c List.mem_cons_self
        have first := digitChar_of_isDigit digit
        simp only [Char.isDigit, Bool.and_eq_true, decide_eq_true_eq] at digit
        have lower : 48 ≤ c.toNat := digit.1
        have upper : c.toNat ≤ 57 := digit.2
        have notZero : c.toNat ≠ 48 := fun same => zero (Char.toNat_inj.mp same)
        have positive : 0 < c.toNat - 48 := by omega
        have pushed := toDigits_append_digits later positive
        rw [Nat.toDigits_of_lt_base (by omega), first] at pushed
        refine ⟨0, ?_⟩
        rw [Nat.ofDigitChars_cons, Nat.mul_zero, Nat.zero_add]
        exact pushed

theorem isDigit_of_mem_spelled (zeros value : Nat) :
    ∀ c ∈ List.replicate zeros '0' ++ Nat.toDigits 10 value, c.isDigit = true := by
  intro c member
  rcases List.mem_append.mp member with zero | digit
  · rw [List.eq_of_mem_replicate zero]
    rfl
  · exact isDigit_of_mem_toDigits digit

theorem readNatural_eq_some_iff {text : List Char} {value : Nat} : readNatural text = some value ↔
    ∃ zeros, text = List.replicate zeros '0' ++ Nat.toDigits 10 value := by
  simp only [readNatural]
  constructor
  · intro read
    by_cases digits : text ≠ [] ∧ text.all Char.isDigit = true
    · rw [if_pos digits, Option.some.injEq] at read
      subst read
      exact digits_eq_zeros_append (List.all_eq_true.mp digits.2) digits.1
    · rw [if_neg digits] at read
      cases read
  · rintro ⟨zeros, rfl⟩
    rw [if_pos ⟨by simp [Nat.toDigits_ne_nil], List.all_eq_true.mpr (isDigit_of_mem_spelled zeros value)⟩,
      Nat.ofDigitChars_append]
    simp

theorem readInteger_eq_some_iff {text : List Char} {value : Int} :
    readInteger text = some value ↔ IsNumeral text value := by
  constructor
  · intro read
    cases text with
    | nil => simp [readInteger] at read
    | cons sign digits =>
        simp only [readInteger] at read
        by_cases minus : sign = '-'
        · rw [if_pos minus, Option.map_eq_some_iff] at read
          obtain ⟨magnitude, digitsRead, rfl⟩ := read
          obtain ⟨zeros, rfl⟩ := readNatural_eq_some_iff.mp digitsRead
          exact ⟨['-'], zeros, magnitude, by simp [minus], Or.inr ⟨rfl, rfl⟩⟩
        · rw [if_neg minus] at read
          by_cases plus : sign = '+'
          · rw [if_pos plus, Option.map_eq_some_iff] at read
            obtain ⟨magnitude, digitsRead, rfl⟩ := read
            obtain ⟨zeros, rfl⟩ := readNatural_eq_some_iff.mp digitsRead
            exact ⟨['+'], zeros, magnitude, by simp [plus], Or.inl ⟨Or.inr rfl, rfl⟩⟩
          · rw [if_neg plus, Option.map_eq_some_iff] at read
            obtain ⟨magnitude, digitsRead, rfl⟩ := read
            obtain ⟨zeros, spelled⟩ := readNatural_eq_some_iff.mp digitsRead
            exact ⟨[], zeros, magnitude, spelled, Or.inl ⟨Or.inl rfl, rfl⟩⟩
  · rintro ⟨sign, zeros, magnitude, rfl, meaning⟩
    have read : readNatural (List.replicate zeros '0' ++ Nat.toDigits 10 magnitude) = some magnitude :=
      readNatural_eq_some_iff.mpr ⟨zeros, rfl⟩
    have digits := isDigit_of_mem_spelled zeros magnitude
    rcases meaning with ⟨rfl | rfl, rfl⟩ | ⟨rfl, rfl⟩
    · rw [List.nil_append]
      cases written : List.replicate zeros '0' ++ Nat.toDigits 10 magnitude with
      | nil => simp [Nat.toDigits_ne_nil] at written
      | cons first rest =>
          rw [written] at read digits
          have digit : first.isDigit = true := digits first List.mem_cons_self
          have notMinus : first ≠ '-' := by rintro rfl; simp at digit
          have notPlus : first ≠ '+' := by rintro rfl; simp at digit
          simp [readInteger, notMinus, notPlus, read]
    · simp [readInteger, read]
    · simp [readInteger, read]

theorem isNumeral_decimal (value : Int) : IsNumeral (decimal value) value := by
  cases value with
  | ofNat natural => exact ⟨[], 0, natural, rfl, Or.inl ⟨Or.inl rfl, rfl⟩⟩
  | negSucc natural => exact ⟨['-'], 0, natural + 1, rfl, Or.inr ⟨rfl, rfl⟩⟩

theorem readInteger_decimal (value : Int) : readInteger (decimal value) = some value :=
  readInteger_eq_some_iff.mpr (isNumeral_decimal value)

theorem decimal_injective : Function.Injective decimal := by
  intro left right same
  have values := congrArg readInteger same
  simpa [readInteger_decimal] using values

end Numerals
