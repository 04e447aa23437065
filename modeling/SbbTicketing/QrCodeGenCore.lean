import SbbTicketing.Grids
import SbbTicketing.KeyManagerCore

/-! `QRCodeGenerator`: the picture of a text. The symbol comes from libqrencode and the
enlarged picture from Qt, which are looked up; the loops in between are the program's. -/

namespace SbbTicketing

open Qt

abbrev QRgb := UInt32

abbrev QImage := Grid QRgb

def qRgb (red green blue : UInt32) : UInt32 :=
  (0xFF000000 : UInt32) ||| (red <<< 16) ||| (green <<< 8) ||| blue

/-- `Qt::white` in a picture of format `RGB32`. -/
def white : QRgb := 0xFFFFFFFF

/-- The symbol libqrencode returns, one byte for each module, row by row. -/
structure QRcode where
  version : Nat
  width : Nat
  data : QByteArray
  regular : 1 ≤ version ∧ version ≤ 40 ∧ width = 4 * version + 17
  sized : data.length = width * width

/-- What `QPixmap::save` returns, and what it has written to the file, if anything. -/
structure SavedFile where
  ok : Bool
  written : Option QByteArray
  deriving DecidableEq, Repr

/-- The code outside the repository that pictures go through: `QRcode_encodeString` for byte
data at level M, the source column or row of a pixel under `Qt::FastTransformation`, writing
image files (which may go well at one attempt and not at another) and reading them, and the
exit code and output of `zbarimg` on a file. -/
structure ImageLibrary where
  encodeString : QByteArray → Option QRcode
  nearest : ∀ {source target : Nat}, 0 < source → Fin target → Fin source
  nearest_onto : ∀ {source target : Nat} (positive : 0 < source), source ≤ target →
    Function.Surjective (nearest positive : Fin target → Fin source)
  save : Nat → QString → QImage → SavedFile
  load : QByteArray → Option QByteArray
  zbarimg : QByteArray → Int × QByteArray

variable (images : ImageLibrary)

namespace QImage

def null : QImage := Grid.filled 0 0 0

/-- `QSize::scaled` with `Qt::KeepAspectRatio`. -/
def scaledSize (width height : Nat) (bound : Nat × Nat) : Nat × Nat :=
  if width = 0 || height = 0 then bound
  else
    let fitted := bound.2 * width / height
    if fitted ≤ bound.1 then (fitted, bound.2) else (bound.1, bound.1 * height / width)

def scaled (image : QImage) (width height : Nat) : QImage :=
  if filled : 0 < image.width ∧ 0 < image.height then
    if width = 0 || height = 0 then null
    else
      let size := scaledSize image.width image.height (width, height)
      image.resampled (max size.1 1) (max size.2 1) (images.nearest filled.1) (images.nearest filled.2)
  else null

end QImage

namespace QRcode

def isBlack (qrcode : QRcode) (x y : Nat) : Bool :=
  qrcode.data.getD (y * qrcode.width + x) 0 &&& 1 != 0

def moduleColour (qrcode : QRcode) (x y : Nat) : QRgb :=
  if qrcode.isBlack x y then qRgb 0 0 0 else qRgb 255 255 255

theorem width_pos (qrcode : QRcode) : 0 < qrcode.width := by
  have regular := qrcode.regular
  omega

end QRcode

def generateQRCode (data : QString) (size : Nat) : QImage :=
  -- libqrencode reads a C string, so a zero byte ends the text
  match images.encodeString (cString (toUtf8 data)) with
  | none => Grid.filled size size white
  | some qrcode =>
      let qrWidth := qrcode.width
      let image : QImage := Grid.filled qrWidth qrWidth white
      let image := image.paint qrcode.moduleColour (List.range qrWidth) (List.range qrWidth)
      QImage.scaled images image size size

end SbbTicketing
