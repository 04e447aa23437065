import SbbTicketing.QrCodeGenCore

/-! What the picture of a text shows: every pixel has the colour of one module of the symbol,
and at the size the program asks for no module of any symbol is lost. -/

namespace SbbTicketing

open Qt

variable (images : ImageLibrary)

namespace QImage

theorem scaledSize_square {width : Nat} (positive : 0 < width) (size : Nat) :
    scaledSize width width (size, size) = (size, size) := by
  simp [scaledSize, Nat.ne_of_gt positive, Nat.mul_div_cancel _ positive]

theorem scaled_square {image : QImage} {width : Nat} (wide : image.width = width)
    (high : image.height = width) (positive : 0 < width) (size : Nat) :
    (scaled images image size size).width = size ∧ (scaled images image size size).height = size ∧
      ∀ x y : Fin size, (scaled images image size size).get? x y =
        image.get? (images.nearest positive x) (images.nearest positive y) := by
  obtain ⟨imageWidth, imageHeight, cell⟩ := image
  simp only at wide high
  subst wide
  subst high
  by_cases hidden : size = 0
  · subst hidden
    simp [scaled, positive, null, Grid.filled]
  have visible : 0 < size := Nat.pos_of_ne_zero hidden
  have shown : ¬(size = 0 ∨ size = 0) := by omega
  have columns : max (scaledSize imageHeight imageHeight (size, size)).1 1 = size := by
    rw [scaledSize_square positive]
    exact Nat.max_eq_left visible
  have rows : max (scaledSize imageHeight imageHeight (size, size)).2 1 = size := by
    rw [scaledSize_square positive]
    exact Nat.max_eq_left visible
  simp only [scaled, positive, and_self, ↓reduceDIte, Bool.or_eq_true, decide_eq_true_eq, shown, ↓reduceIte]
  generalize max (scaledSize imageHeight imageHeight (size, size)).1 1 = width at columns ⊢
  generalize max (scaledSize imageHeight imageHeight (size, size)).2 1 = height at rows ⊢
  subst columns
  subst rows
  refine ⟨rfl, rfl, ?_⟩
  intro x y
  exact Grid.get?_resampled _ _ x y

end QImage

namespace QRcode

theorem width_le (qrcode : QRcode) : qrcode.width ≤ 177 := by
  have regular := qrcode.regular
  omega

theorem moduleColour_eq_iff {first second : QRcode} {x y x' y' : Nat} :
    first.moduleColour x y = second.moduleColour x' y' ↔ first.isBlack x y = second.isBlack x' y' := by
  have different : qRgb 0 0 0 ≠ qRgb 255 255 255 := by decide
  cases firstBlack : first.isBlack x y <;> cases secondBlack : second.isBlack x' y' <;>
    simp [moduleColour, firstBlack, secondBlack, different, different.symm]

def drawn (qrcode : QRcode) : QImage :=
  (Grid.filled qrcode.width qrcode.width white).paint qrcode.moduleColour (List.range qrcode.width)
    (List.range qrcode.width)

theorem drawn_get? (qrcode : QRcode) (column row : Fin qrcode.width) :
    qrcode.drawn.get? column row = some (qrcode.moduleColour column row) := by
  have blank : (Grid.filled qrcode.width qrcode.width white).get? column row = some white :=
    Grid.get?_filled white column.isLt row.isLt
  simp [drawn, Grid.get?_paint, blank]

end QRcode

theorem generateQRCode_drawn {data : QString} {size : Nat} {qrcode : QRcode}
    (encoded : images.encodeString (cString (toUtf8 data)) = some qrcode) :
    (generateQRCode images data size).width = size ∧ (generateQRCode images data size).height = size ∧
      ∀ x y : Fin size, (generateQRCode images data size).get? x y =
        some (qrcode.moduleColour (images.nearest qrcode.width_pos x) (images.nearest qrcode.width_pos y)) := by
  obtain ⟨wide, high⟩ := (Grid.filled qrcode.width qrcode.width white).size_paint qrcode.moduleColour
    (List.range qrcode.width) (List.range qrcode.width)
  have scaled := QImage.scaled_square images wide high qrcode.width_pos size
  have same : generateQRCode images data size = QImage.scaled images qrcode.drawn size size := by
    simp only [generateQRCode, encoded]
    rfl
  rw [same]
  refine ⟨scaled.1, scaled.2.1, ?_⟩
  intro x y
  rw [← qrcode.drawn_get?]
  exact scaled.2.2 x y

theorem generateQRCode_blank {data : QString} (size : Nat)
    (refused : images.encodeString (cString (toUtf8 data)) = none) :
    generateQRCode images data size = Grid.filled size size white := by
  simp only [generateQRCode, refused]

/-- A pixel shows a module if it is taken from its column and row. -/
def Shows (qrcode : QRcode) {size : Nat} (x y : Fin size) (column row : Fin qrcode.width) : Prop :=
  images.nearest qrcode.width_pos x = column ∧ images.nearest qrcode.width_pos y = row

theorem width_le_of_shows_all {qrcode : QRcode} {size : Nat}
    (complete : ∀ column row, ∃ x y : Fin size, Shows images qrcode x y column row) :
    qrcode.width ≤ size := by
  have onto : Function.Surjective (images.nearest qrcode.width_pos : Fin size → Fin qrcode.width) := by
    intro column
    obtain ⟨x, _, same, _⟩ := complete column column
    exact ⟨x, same⟩
  exact Grid.le_of_onto onto

theorem shows_all_of_width_le {qrcode : QRcode} {size : Nat} (enlarges : qrcode.width ≤ size)
    (column row : Fin qrcode.width) : ∃ x y : Fin size, Shows images qrcode x y column row := by
  obtain ⟨x, across⟩ := images.nearest_onto qrcode.width_pos enlarges column
  obtain ⟨y, down⟩ := images.nearest_onto qrcode.width_pos enlarges row
  exact ⟨x, y, across, down⟩

theorem shows_all_iff (qrcode : QRcode) (size : Nat) :
    (∀ column row, ∃ x y : Fin size, Shows images qrcode x y column row) ↔ qrcode.width ≤ size :=
  ⟨width_le_of_shows_all images, shows_all_of_width_le images⟩

/-- A square picture in which every pixel has the colour of its module and no module is missing. -/
structure Depicts (image : QImage) (qrcode : QRcode) (size : Nat) : Prop where
  wide : image.width = size
  high : image.height = size
  pixels : ∀ x y : Fin size, image.get? x y =
    some (qrcode.moduleColour (images.nearest qrcode.width_pos x) (images.nearest qrcode.width_pos y))
  complete : ∀ column row, ∃ x y : Fin size, Shows images qrcode x y column row

theorem generateQRCode_depicts {data : QString} {size : Nat} {qrcode : QRcode}
    (encoded : images.encodeString (cString (toUtf8 data)) = some qrcode)
    (enlarges : qrcode.width ≤ size) :
    Depicts images (generateQRCode images data size) qrcode size := by
  obtain ⟨wide, high, pixels⟩ := generateQRCode_drawn images encoded
  exact ⟨wide, high, pixels, shows_all_of_width_le images enlarges⟩

theorem isBlack_of_picture {data other : QString} {qrcode otherCode : QRcode}
    (encoded : images.encodeString (cString (toUtf8 data)) = some qrcode)
    (otherEncoded : images.encodeString (cString (toUtf8 other)) = some otherCode)
    (sameWidth : qrcode.width = otherCode.width) {size : Nat} (enlarges : qrcode.width ≤ size)
    (same : generateQRCode images data size = generateQRCode images other size)
    (column row : Fin qrcode.width) : qrcode.isBlack column row = otherCode.isBlack column row := by
  obtain ⟨x, y, rfl, rfl⟩ := shows_all_of_width_le images enlarges column row
  have pixel := (generateQRCode_drawn images encoded).2.2 x y
  have otherPixel := (generateQRCode_drawn images otherEncoded).2.2 x y
  rw [← same, pixel, Option.some.injEq, QRcode.moduleColour_eq_iff] at otherPixel
  obtain ⟨version, width, data, regular, sized⟩ := otherCode
  simp only at sameWidth
  subst sameWidth
  exact otherPixel

/-- That enlarging keeps every module is what Qt's scaling is taken to do (`nearest_onto`); that a
smaller picture loses one is proved. -/
theorem picture_exact (data : QString) (size : Nat) :
    let image := generateQRCode images data size
    (image.width = size ∧ image.height = size) ∧
    (images.encodeString (cString (toUtf8 data)) = none →
      ∀ x y : Fin size, image.get? x y = some white) ∧
    ∀ qrcode, images.encodeString (cString (toUtf8 data)) = some qrcode →
      (∀ (x y : Fin size) column row, Shows images qrcode x y column row →
        image.get? x y = some (if qrcode.isBlack column row then qRgb 0 0 0 else qRgb 255 255 255)) ∧
      ((∀ column row, ∃ x y : Fin size, Shows images qrcode x y column row) ↔ qrcode.width ≤ size) ∧
      (∀ column row, ∃ x y : Fin 280, Shows images qrcode x y column row) ∧
      ∀ other otherCode, images.encodeString (cString (toUtf8 other)) = some otherCode →
        qrcode.width = otherCode.width →
        generateQRCode images data 280 = generateQRCode images other 280 →
        ∀ column row : Fin qrcode.width, qrcode.isBlack column row = otherCode.isBlack column row := by
  intro image
  cases encoded : images.encodeString (cString (toUtf8 data)) with
  | none =>
      have blank : image = _ := generateQRCode_blank images size encoded
      rw [blank]
      refine ⟨⟨rfl, rfl⟩, fun _ x y => Grid.get?_filled white x.isLt y.isLt, ?_⟩
      intro qrcode found
      cases found
  | some qrcode =>
      obtain ⟨wide, high, pixels⟩ := generateQRCode_drawn images encoded
      have bound := qrcode.width_le
      have enlarges : qrcode.width ≤ 280 := by omega
      refine ⟨⟨wide, high⟩, ?_, ?_⟩
      · intro refused
        cases refused
      · intro found same
        cases same
        refine ⟨?_, shows_all_iff images qrcode size, shows_all_of_width_le images enlarges, ?_⟩
        · rintro x y column row ⟨rfl, rfl⟩
          exact pixels x y
        · intro other otherCode otherEncoded sameWidth samePicture
          exact isBlack_of_picture images encoded otherEncoded sameWidth enlarges samePicture

end SbbTicketing
