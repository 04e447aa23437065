import SbbTicketing.DownloadsCore
import SbbTicketing.WindowState

/-! The download buttons in every window a user can reach: their checks never refuse, and the
file that is chosen gets the picture of the latest code, the other files stay as they are. -/

namespace SbbTicketing

open Qt

variable {ρ : Type} (rnp : Rnp ρ) (lib : QtLibrary) (images : ImageLibrary)

namespace Disk

variable {disk : Disk} {fileName other : QString} {saved : SavedFile}

theorem written_of_ne (different : other ≠ fileName) : disk.written fileName saved other = disk other := by
  cases bytes : saved.written with
  | none => simp only [written, bytes]
  | some contents =>
      simp only [written, bytes]
      exact Function.update_of_ne different _ _

theorem written_self : disk.written fileName saved fileName = saved.written.or (disk fileName) := by
  cases bytes : saved.written with
  | none => simp only [written, bytes, Option.none_or]
  | some contents => simp only [written, bytes, Function.update_self, Option.some_or]

end Disk

/-- A picture of the code is put in the file the dialog answers, and the message box tells how
that went. -/
structure Saves (code caption suggestion success : QString) (dialog : SaveDialog) (attempt : Nat) (disk : Disk)
    (download : Download) : Prop where
  cancelled : dialog caption suggestion imageFilter = [] → download = { notice := none, disk }
  others : ∀ other, other ≠ dialog caption suggestion imageFilter → download.disk other = disk other
  stored : dialog caption suggestion imageFilter ≠ [] →
    download.disk (dialog caption suggestion imageFilter) =
      ((images.save attempt (dialog caption suggestion imageFilter)
        (generateQRCode images code 280)).written.or (disk (dialog caption suggestion imageFilter)))
  told : dialog caption suggestion imageFilter ≠ [] → download.notice = some (
    if (images.save attempt (dialog caption suggestion imageFilter) (generateQRCode images code 280)).ok then
      .information (text "Success") success
    else .warning (text "Error") (text "Failed to save QR code image."))

theorem saves_savePicture (code caption suggestion success : QString) (dialog : SaveDialog) (attempt : Nat)
    (disk : Disk) :
    Saves images code caption suggestion success dialog attempt disk
      (savePicture images code caption suggestion success dialog attempt disk) := by
  by_cases cancelled : dialog caption suggestion imageFilter = []
  · have nothing : savePicture images code caption suggestion success dialog attempt disk =
        { notice := none, disk } := by
      simp only [savePicture, cancelled, List.isEmpty_nil, ↓reduceIte]
    rw [nothing]
    exact ⟨fun _ => rfl, fun _ _ => rfl, fun given => absurd cancelled given, fun given => absurd cancelled given⟩
  · have whole : (savePicture images code caption suggestion success dialog attempt disk).disk =
        disk.written (dialog caption suggestion imageFilter) (images.save attempt
          (dialog caption suggestion imageFilter) (generateQRCode images code 280)) := by
      simp only [savePicture, List.isEmpty_iff, cancelled, ↓reduceIte]
      rw [apply_ite Download.disk, ite_self]
    refine ⟨fun none => absurd none cancelled, ?_, fun _ => ?_, fun _ => ?_⟩
    · intro other different
      rw [whole, Disk.written_of_ne different]
    · rw [whole, Disk.written_self]
    · simp only [savePicture, List.isEmpty_iff, cancelled, ↓reduceIte]
      split <;> rfl

namespace Session

variable {lib} {session : Session ρ} {record : LoginRecord ρ}

theorem downloadPIT_saves (inside : session.LoggedIn lib record) (timestamp : QString) (dialog : SaveDialog)
    (attempt : Nat) (disk : Disk) :
    ∃ issued, session.tokens.head? = some issued ∧
      Saves images issued.qrData (text "Save PIT QR Code") (text "PIT_QRCode_" ++ timestamp ++ text ".png")
        (text "PIT QR code saved successfully!") dialog attempt disk
        (session.window.identificationToken.downloadPIT images timestamp dialog attempt disk) := by
  obtain ⟨issued, latest, displayed⟩ := inside.token.current
  have suggestion : arg (text "PIT_QRCode_%1.png") timestamp =
      text "PIT_QRCode_" ++ timestamp ++ text ".png" := by
    have template : text "PIT_QRCode_%1.png" = text "PIT_QRCode_" ++ '%' :: '1' :: text ".png" := rfl
    rw [template, arg_marker (by decide) (by decide) rfl, List.append_assoc]
  refine ⟨issued, latest, ?_⟩
  simp only [IdentificationToken.downloadPIT, displayed, suggestion]
  exact saves_savePicture images _ _ _ _ dialog attempt disk

theorem downloadTicket_saves (inside : session.LoggedIn lib record)
    (opened : session.window.bookingReference.overlayHidden = false) (timestamp : QString)
    (dialog : SaveDialog) (attempt : Nat) (disk : Disk) :
    ∃ issued, session.tickets.head? = some issued ∧
      Saves images issued.qrData (text "Save Ticket QR Code")
        (text "Ticket_" ++ issued.ticket.bookingReference ++ text "_" ++ timestamp ++ text ".png")
        (text "Ticket QR code saved successfully!\nBooking: " ++ issued.ticket.bookingReference)
        dialog attempt disk
        (session.window.bookingReference.saveCurrentQRCode images timestamp dialog attempt disk) := by
  cases latest : session.tickets.head? with
  | none =>
      have closed := inside.ticket.closed (List.head?_eq_none_iff.mp latest)
      rw [closed.2] at opened
      cases opened
  | some issued =>
      obtain ⟨shown, displayed, current⟩ := inside.ticket.current issued latest
      have success : arg (text "Ticket QR code saved successfully!\nBooking: %1")
          issued.ticket.bookingReference =
            text "Ticket QR code saved successfully!\nBooking: " ++ issued.ticket.bookingReference := by
        have template : text "Ticket QR code saved successfully!\nBooking: %1" =
            text "Ticket QR code saved successfully!\nBooking: " ++ '%' :: '1' :: [] := rfl
        rw [template, arg_marker (by decide) (by decide) rfl, List.append_nil]
      refine ⟨issued, rfl, ?_⟩
      simp only [BookingReference.saveCurrentQRCode, shown.download, displayed, Option.getD_some, current, success]
      exact saves_savePicture images _ _ _ _ dialog attempt disk

end Session

/-- In every window a user can reach, a download button that can be clicked saves the latest code:
its checks for a missing code or ticket never refuse. -/
theorem downloads_exact (random : RandomGenerator) (state : RnpState ρ) (events : List WindowEvent)
    (timestamp : QString) (dialog : SaveDialog) (attempt : Nat) (disk : Disk) :
    let session := Session.run rnp lib (Session.start rnp lib random state) events
    (session.onPage 2 = true → ∃ issued, session.tokens.head? = some issued ∧
      Saves images issued.qrData (text "Save PIT QR Code") (text "PIT_QRCode_" ++ timestamp ++ text ".png")
        (text "PIT QR code saved successfully!") dialog attempt disk
        (session.window.identificationToken.downloadPIT images timestamp dialog attempt disk)) ∧
    (session.onPage 1 = true → session.window.bookingReference.overlayHidden = false →
      ∃ issued, session.tickets.head? = some issued ∧
        Saves images issued.qrData (text "Save Ticket QR Code")
          (text "Ticket_" ++ issued.ticket.bookingReference ++ text "_" ++ timestamp ++ text ".png")
          (text "Ticket QR code saved successfully!\nBooking: " ++ issued.ticket.bookingReference)
          dialog attempt disk
          (session.window.bookingReference.saveCurrentQRCode images timestamp dialog attempt disk)) := by
  intro session
  have phased : session.Phased lib :=
    Session.phased_run rnp (Or.inl ⟨random, Session.loggedOut_start rnp random state⟩) events
  constructor
  · intro shown
    obtain ⟨record, inside⟩ := Session.inside_of_onPage phased shown
    exact Session.downloadPIT_saves images inside timestamp dialog attempt disk
  · intro shown opened
    obtain ⟨record, inside⟩ := Session.inside_of_onPage phased shown
    exact Session.downloadTicket_saves images inside opened timestamp dialog attempt disk

end SbbTicketing
