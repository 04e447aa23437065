import SbbTicketing.DownloadsCore
import SbbTicketing.QrCodeImages
import SbbTicketing.ShownCodes

/-! What the code relies on when a code travels as an image file, and what follows for the
codes that are shown: a scan of the file gives the same text, or nothing. `fromUtf8` reads ASCII
as it is. With `--raw`, `zbarimg` prints the text of a symbol it finds and a line break, and fails
where there is none; it may fail on any picture. -/

namespace SbbTicketing

open Qt

variable (images : ImageLibrary) (lib : QtLibrary)

structure Scans : Prop where
  ascii : ∀ string : QString, (∀ c ∈ string, c.toNat < 128) → lib.fromUtf8 (toUtf8 string) = string
  blank : ∀ attempt fileName size contents,
    (images.save attempt fileName (Grid.filled size size white)).written = some contents →
      (images.zbarimg contents).1 ≠ 0
  symbol : ∀ {code qrcode image size attempt fileName contents}, CodeText code →
    images.encodeString (toUtf8 code) = some qrcode → Depicts images image qrcode size →
    (images.save attempt fileName image).written = some contents →
    (images.zbarimg contents).1 = 0 → (images.zbarimg contents).2 = toUtf8 code ++ [10]

def Pictures (contents : QByteArray) (code : QString) : Prop :=
  ∃ attempt fileName, (images.save attempt fileName (generateQRCode images code 280)).written = some contents

variable {images lib} {code : QString} {contents : QByteArray}

theorem Scans.output (scans : Scans images lib) (plain : CodeText code)
    (pictured : Pictures images contents code) (found : (images.zbarimg contents).1 = 0) :
    trimmed (lib.fromUtf8 (images.zbarimg contents).2) = code := by
  obtain ⟨attempt, fileName, written⟩ := pictured
  cases encoded : images.encodeString (cString (toUtf8 code)) with
  | none =>
      rw [generateQRCode_blank images 280 encoded] at written
      exact absurd found (scans.blank attempt fileName 280 contents written)
  | some qrcode =>
      have bound := qrcode.width_le
      have depicts := generateQRCode_depicts images encoded (show qrcode.width ≤ 280 by omega)
      rw [plain.cString] at encoded
      have printed := scans.symbol plain encoded depicts written found
      have newline : toUtf8 code ++ [10] = toUtf8 (code ++ ['\n']) := by
        have lineBreak : toUtf8 ['\n'] = [10] := by decide
        rw [← lineBreak]
        exact List.flatMap_append.symm
      have low : ∀ c ∈ code ++ ['\n'], c.toNat < 128 := by
        intro c member
        rcases List.mem_append.mp member with inCode | last
        · have range := isCodeChar_range (plain.2 c inCode)
          omega
        · rw [List.mem_singleton.mp last]
          decide
      rw [printed, newline, scans.ascii _ low, plain.trimmed_newline]

theorem Scans.decode_chosen (scans : Scans images lib) (plain : CodeText code)
    (pictured : Pictures images contents code) {disk : Disk} {fileName : QString}
    (stored : disk fileName = some contents) (inTime : Bool) :
    decodeQRFromImage lib (disk.chosen images fileName inTime) =
      if inTime = true ∧ (images.zbarimg contents).1 = 0 then code else [] := by
  simp only [decodeQRFromImage, Disk.chosen, stored]
  cases inTime with
  | false => simp
  | true =>
      by_cases found : (images.zbarimg contents).1 = 0
      · simp [found, scans.output plain pictured found]
      · simp [found]

end SbbTicketing
