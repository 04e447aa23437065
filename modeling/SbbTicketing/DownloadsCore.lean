import SbbTicketing.IdentificationTokenCore
import SbbTicketing.QrCodeGenCore
import SbbTicketing.TicketCore
import SbbTicketing.TicketInspectorCore

/-! Codes as image files: the two download buttons write them, the inspector's load buttons
read them. A save dialog, `QFileDialog::getSaveFileName` with its caption, suggestion and filter,
keeps the timers going, so a download is the step in which its dialog returns, with the code that
is shown then. -/

namespace SbbTicketing

open Qt

variable (images : ImageLibrary)

abbrev Disk := QString → Option QByteArray

abbrev SaveDialog := QString → QString → QString → QString

inductive Notice
  | warning (title message : QString)
  | information (title message : QString)
  deriving DecidableEq, Repr

structure Download where
  notice : Option Notice
  disk : Disk

namespace Disk

def written (disk : Disk) (fileName : QString) (saved : SavedFile) : Disk :=
  match saved.written with
  | none => disk
  | some contents => Function.update disk fileName (some contents)

/-- What a load handler gets from a file; `inTime` tells whether `zbarimg` has finished. -/
def chosen (disk : Disk) (fileName : QString) (inTime : Bool) : ChosenFile where
  fileName
  pixmap := (disk fileName).bind images.load
  zbarimg :=
    match disk fileName with
    | none => { finished := inTime, exitCode := 1, standardOutput := [] }
    | some contents =>
        { finished := inTime
          exitCode := (images.zbarimg contents).1
          standardOutput := (images.zbarimg contents).2 }

end Disk

def imageFilter : QString := text "PNG Image (*.png);;JPEG Image (*.jpg *.jpeg);;All Files (*)"

def savePicture (code caption defaultFileName success : QString) (dialog : SaveDialog) (attempt : Nat)
    (disk : Disk) : Download :=
  let fileName := dialog caption defaultFileName imageFilter
  -- no name: the dialog was cancelled
  if fileName.isEmpty then { notice := none, disk }
  else
    let saved := images.save attempt fileName (generateQRCode images code 280)
    let disk := disk.written fileName saved
    if saved.ok then { notice := some (.information (text "Success") success), disk }
    else { notice := some (.warning (text "Error") (text "Failed to save QR code image.")), disk }

def IdentificationToken.downloadPIT (token : IdentificationToken) (timestamp : QString)
    (dialog : SaveDialog) (attempt : Nat) (disk : Disk) : Download :=
  match token.qrImage with
  | none =>
      { notice := some (.warning (text "No QR Code")
          (text "Please generate your PIT first by logging in."))
        disk }
  | some code =>
      -- the timestamp is the current time as yyyyMMdd_HHmmss
      let defaultFileName := arg (text "PIT_QRCode_%1.png") timestamp
      savePicture images code (text "Save PIT QR Code") defaultFileName
        (text "PIT QR code saved successfully!") dialog attempt disk

def BookingReference.saveCurrentQRCode (page : BookingReference) (timestamp : QString)
    (dialog : SaveDialog) (attempt : Nat) (disk : Disk) : Download :=
  -- the other part of `downloadCurrentQRCode`, once its checks have passed or failed
  match page.downloadCurrentQRCode timestamp with
  | .error message =>
      let title := if page.qrImage.isNone then text "No QR Code" else text "Error"
      { notice := some (.warning title message), disk }
  | .ok defaultFileName =>
      savePicture images (page.qrImage.getD []) (text "Save Ticket QR Code") defaultFileName
        (arg (text "Ticket QR code saved successfully!\nBooking: %1") page.currentTicket.bookingReference)
        dialog attempt disk

end SbbTicketing
