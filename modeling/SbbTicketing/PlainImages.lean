import SbbTicketing.ImageContract
import SbbTicketing.PlainRnp

/-! Picture code that behaves as documented and is simple enough to compute with: the symbol of
the n-th text it knows has one black module, the n-th of its first row, and a file holds the
number of the module under the first black pixel. -/

namespace SbbTicketing

open Qt

namespace PlainImages

def symbol (index : Nat) : QRcode where
  version := 1
  width := 21
  data := (List.replicate 441 0).set index 1
  regular := by decide
  sized := by rw [List.length_set, List.length_replicate]

def encodeString (texts : List QString) (bytes : QByteArray) : Option QRcode :=
  (texts.findIdx? fun known => toUtf8 known = bytes).map symbol

def isMarked (image : QImage) (column : Nat) : Bool := image.get? column 0 = some (qRgb 0 0 0)

def save (image : QImage) : SavedFile where
  ok := true
  written := some (((List.range image.width).find? (isMarked image)).toList.map fun column =>
    UInt8.ofNat ((2 * column + 1) * 21 / (2 * image.width)))

def zbarimg (texts : List QString) : QByteArray → Int × QByteArray
  | [index] => (0, toUtf8 (texts.getD index.toNat []) ++ [10])
  | _ => (4, [])

def images (texts : List QString) : ImageLibrary where
  encodeString := encodeString texts
  nearest positive := Grid.centre positive
  nearest_onto positive enlarges := Grid.centre_onto positive enlarges
  save _ _ := save
  load := some
  zbarimg := zbarimg texts

theorem symbol_isBlack {index column row : Nat} (known : index < 21) (across : column < 21)
    (down : row < 21) (black : (symbol index).isBlack column row = true) : column = index := by
  have inside : row * 21 + column < 441 := by omega
  have byte : (symbol index).data.getD (row * 21 + column) 0 =
      if index = row * 21 + column then 1 else 0 := by
    simp only [symbol, List.getD_eq_getElem?_getD, List.getElem?_set, List.getElem?_replicate,
      List.length_replicate, inside, ↓reduceIte]
    by_cases same : index = row * 21 + column
    · simp [same, inside]
    · simp [same]
  rw [QRcode.isBlack, show (symbol index).width = 21 from rfl, byte] at black
  by_cases same : index = row * 21 + column
  · omega
  · simp [same] at black

variable {texts : List QString}

theorem isMarked_filled (size column : Nat) : isMarked (Grid.filled size size white) column = false := by
  have colours : white ≠ qRgb 0 0 0 := by decide
  apply decide_eq_false
  by_cases inside : 0 < size ∧ column < size
  · simp [Grid.get?, Grid.filled, inside, colours]
  · simp [Grid.get?, Grid.filled, inside]

theorem module_of_isMarked {image : QImage} {index column size : Nat} (known : index < 21)
    (depicts : Depicts (images texts) image (symbol index) size) (inside : column < size)
    (marked : isMarked image column = true) : (2 * column + 1) * 21 / (2 * size) = index := by
  let across := (images texts).nearest (symbol index).width_pos (⟨column, inside⟩ : Fin size)
  let down := (images texts).nearest (symbol index).width_pos (⟨0, by omega⟩ : Fin size)
  have pixel : image.get? column 0 = some ((symbol index).moduleColour across down) :=
    depicts.pixels ⟨column, inside⟩ ⟨0, by omega⟩
  have black : image.get? column 0 = some (qRgb 0 0 0) := by simpa [isMarked] using marked
  have dark : (symbol index).isBlack across down = true := by
    have colours : qRgb 0 0 0 ≠ qRgb 255 255 255 := by decide
    by_contra light
    rw [black, QRcode.moduleColour, if_neg light, Option.some.injEq] at pixel
    exact colours pixel
  exact symbol_isBlack known across.isLt down.isLt dark

theorem fromUtf8_ascii {string : QString} (low : ∀ c ∈ string, c.toNat < 128) :
    PlainRnp.library.fromUtf8 (toUtf8 string) = string := by
  induction string with
  | nil => rfl
  | cons c rest ih =>
      obtain ⟨here, later⟩ := List.forall_mem_cons.mp low
      have code : c.val.toNat = c.toNat := rfl
      have single : String.utf8EncodeChar c = [UInt8.ofNat c.toNat] := by
        simp only [String.utf8EncodeChar, code]
        rw [if_pos (by omega)]
      have small : c.toNat % 256 = c.toNat := by omega
      have tail := ih later
      simp only [PlainRnp.library, asciiLibrary, toUtf8, List.flatMap_cons, single] at tail ⊢
      simp [tail, small]

theorem scans (few : texts.length ≤ 21) : Scans (images texts) PlainRnp.library where
  ascii _ low := fromUtf8_ascii low
  blank attempt fileName size contents written := by
    have unmarked : (List.range size).find? (isMarked (Grid.filled size size white)) = none := by
      simp [isMarked_filled]
    have stored : some (((List.range size).find? (isMarked (Grid.filled size size white))).toList.map
      fun column => UInt8.ofNat ((2 * column + 1) * 21 / (2 * size))) = some contents := written
    rw [unmarked, Option.some.injEq] at stored
    rw [← stored]
    exact show (4 : Int) ≠ 0 by decide
  symbol := by
    intro code qrcode image size attempt fileName contents plain encoded depicts written found
    obtain ⟨index, known, rfl⟩ : ∃ index, texts.findIdx? (fun known => toUtf8 known = toUtf8 code) =
        some index ∧ symbol index = qrcode := Option.map_eq_some_iff.mp encoded
    obtain ⟨bound, same, _⟩ := List.findIdx?_eq_some_iff_getElem.mp known
    have sameBytes : toUtf8 texts[index] = toUtf8 code := by simpa using same
    have stored : some (((List.range image.width).find? (isMarked image)).toList.map
      fun column => UInt8.ofNat ((2 * column + 1) * 21 / (2 * image.width))) = some contents := written
    rw [Option.some.injEq, depicts.wide] at stored
    cases first : (List.range size).find? (isMarked image) with
    | none =>
        rw [first] at stored
        rw [← stored] at found
        exact absurd found (show (4 : Int) ≠ 0 by decide)
    | some column =>
        have inside : column < size := List.mem_range.mp (List.mem_of_find?_eq_some first)
        have scanned := module_of_isMarked (by omega) depicts inside (List.find?_some first)
        rw [first, Option.toList_some, List.map_singleton, scanned] at stored
        rw [← stored]
        have small : index % 256 = index := by omega
        simp [images, zbarimg, small, List.getElem?_eq_getElem bound, sameBytes]

end PlainImages

end SbbTicketing
