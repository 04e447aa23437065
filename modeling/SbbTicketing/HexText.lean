import Mathlib.Data.List.Induction

/-! Lower-case hexadecimal text of a byte string, and the lenient decoder that skips
everything but hexadecimal digits and pairs the digits from the right. -/

namespace HexText

def highDigit (byte : UInt8) : Nat := byte.toNat / 16

def lowDigit (byte : UInt8) : Nat := byte.toNat % 16

def encode (bytes : List UInt8) : List Char :=
  bytes.flatMap fun byte => [Nat.digitChar (highDigit byte), Nat.digitChar (lowDigit byte)]

def digitValue (byte : UInt8) : Option Nat :=
  let code := byte.toNat
  if 48 ≤ code ∧ code ≤ 57 then some (code - 48)
  else if 97 ≤ code ∧ code ≤ 102 then some (code - 87)
  else if 65 ≤ code ∧ code ≤ 70 then some (code - 55)
  else none

/-- Bytes from hexadecimal digits given last digit first; an odd first digit stands alone. -/
def packReversed : List Nat → List UInt8
  | low :: high :: rest => packReversed rest ++ [UInt8.ofNat (high * 16 + low)]
  | [low] => [UInt8.ofNat low]
  | [] => []

def decode (text : List UInt8) : List UInt8 :=
  packReversed (text.filterMap digitValue).reverse

theorem highDigit_lt (byte : UInt8) : highDigit byte < 16 := by
  have bound := byte.toNat_lt
  simp only [highDigit]
  omega

theorem lowDigit_lt (byte : UInt8) : lowDigit byte < 16 := Nat.mod_lt _ (by decide)

theorem digits_rebuild (byte : UInt8) : UInt8.ofNat (highDigit byte * 16 + lowDigit byte) = byte := by
  have value : highDigit byte * 16 + lowDigit byte = byte.toNat := by
    simp only [highDigit, lowDigit]
    omega
  rw [value, UInt8.ofNat_toNat]

theorem digitValue_utf8 : ∀ digit < 16,
    (String.utf8EncodeChar (Nat.digitChar digit)).filterMap digitValue = [digit] := by
  decide

theorem encode_eq_nil_iff {bytes : List UInt8} : encode bytes = [] ↔ bytes = [] := by
  cases bytes <;> simp [encode]

theorem encode_length (bytes : List UInt8) : (encode bytes).length = 2 * bytes.length := by
  induction bytes with
  | nil => rfl
  | cons byte rest ih =>
      simp only [encode, List.flatMap_cons, List.length_append, List.length_cons, List.length_nil] at ih ⊢
      omega

theorem forall_mem_encode {p : Char → Prop} (digits : ∀ digit < 16, p (Nat.digitChar digit))
    (bytes : List UInt8) : ∀ c ∈ encode bytes, p c := by
  intro c member
  simp only [encode, List.mem_flatMap, List.mem_cons, List.not_mem_nil, or_false] at member
  obtain ⟨byte, _, rfl | rfl⟩ := member
  · exact digits _ (highDigit_lt byte)
  · exact digits _ (lowDigit_lt byte)

theorem filterMap_utf8_encode (bytes : List UInt8) :
    ((encode bytes).flatMap String.utf8EncodeChar).filterMap digitValue =
      bytes.flatMap fun byte => [highDigit byte, lowDigit byte] := by
  induction bytes with
  | nil => rfl
  | cons byte rest ih =>
      simp only [encode, List.flatMap_cons, List.cons_append, List.nil_append, List.filterMap_append,
        digitValue_utf8 _ (highDigit_lt byte), digitValue_utf8 _ (lowDigit_lt byte)] at ih ⊢
      rw [ih]

theorem packReversed_digits (bytes : List UInt8) :
    packReversed (bytes.flatMap fun byte => [highDigit byte, lowDigit byte]).reverse = bytes := by
  induction bytes using List.reverseRecOn with
  | nil => rfl
  | append_singleton bytes byte ih =>
      rw [List.flatMap_append, List.reverse_append]
      simp only [List.flatMap_cons, List.flatMap_nil, List.append_nil, List.reverse_cons,
        List.reverse_nil, List.nil_append, List.cons_append, packReversed, ih, digits_rebuild]

theorem decode_utf8_encode (bytes : List UInt8) :
    decode ((encode bytes).flatMap String.utf8EncodeChar) = bytes := by
  rw [decode, filterMap_utf8_encode, packReversed_digits]

end HexText
