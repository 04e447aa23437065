import SbbTicketing.InspectorState

/-! What the inspector's window is for, without its widgets: two strings and a verdict about
them. The window with its labels, and RNP beside it, does what this control does. -/

namespace SbbTicketing

open Qt

variable {ρ : Type} (rnp : Rnp ρ) (lib : QtLibrary)

inductive Verdict
  | awaiting
  | unreadPIT
  | unreadTicket
  | otherUser
  | belongs (reference : QString)
  deriving DecidableEq, Repr

namespace Verdict

def shown : Verdict → QString × QString × QString
  | .awaiting => ([], TicketInspector.awaitingText, TicketInspector.awaitingDetails)
  | .unreadPIT => (text "✗", TicketInspector.invalidText, text ("• Error: Failed to parse PIT QR code\n" ++
      "• PIT Parsed: ✗\n• Ticket Parsed: ✗\n• Public Key Hashes Match: ✗\n• Verification: FAILED"))
  | .unreadTicket => (text "✗", TicketInspector.invalidText, text (
      "• Error: Failed to parse ticket QR code\n" ++
      "• PIT Parsed: ✓\n• Ticket Parsed: ✗\n• Public Key Hashes Match: ✗\n• Verification: FAILED"))
  | .otherUser => (text "✗", TicketInspector.invalidText, text (
      "• Error: Public key hashes do not match - ticket does not belong to this user\n" ++
      "• PIT Parsed: ✓\n• Ticket Parsed: ✓\n• Public Key Hashes Match: ✗\n• Verification: FAILED"))
  | .belongs reference => (text "✓", TicketInspector.validText,
      text "• Booking Reference: " ++ (reference ++ text ("\n• PIT Parsed: ✓\n• Ticket Parsed: ✓\n" ++
        "• Public Key Hashes Match: ✓\n• Verification: PASSED")))

end Verdict

/-- The key hash a token names, if it is one and fresh. -/
def holderHash (now : Int64) (pitQRData : QString) : Option QString :=
  match split pitQRData ':' with
  | [tag, publicKeyHash, stamp, _] =>
      if tag = text "PIT" ∧ (toLongLong stamp).any (fun timestamp => TicketOwnership.Fresh now timestamp) then
        some publicKeyHash
      else none
  | _ => none

/-- The reference and the key hash a ticket names. -/
def ticketNames (ticketQRData : QString) : Option (QString × QString) :=
  match split ticketQRData ':' with
  | [tag, bookingRef, stamp, publicKeyHash, _] =>
      if tag = text "TICKET" ∧ (toLongLong stamp).isSome then some (bookingRef, publicKeyHash) else none
  | _ => none

def judge (now : Int64) (pitQRData ticketQRData : QString) : Verdict :=
  match holderHash now pitQRData, ticketNames ticketQRData with
  | none, _ => .unreadPIT
  | some _, none => .unreadTicket
  | some holder, some (reference, owner) =>
      if lib.toLower holder = lib.toLower owner then .belongs reference else .otherUser

theorem holderHash_eq_some_iff {now : Int64} {pitQRData publicKeyHash : QString} :
    holderHash now pitQRData = some publicKeyHash ↔
      ∃ timestamp signature, TicketOwnership.ReadsPIT pitQRData publicKeyHash timestamp signature ∧
        TicketOwnership.Fresh now timestamp := by
  constructor
  · intro named
    unfold holderHash at named
    split at named
    · rename_i tag hash stamp signature parts
      split_ifs at named with read
      obtain ⟨rfl, recent⟩ := read
      cases named
      cases parsed : toLongLong stamp with
      | none => simp [parsed] at recent
      | some timestamp => exact ⟨timestamp, signature, ⟨stamp, parts, parsed⟩, by simpa [parsed] using recent⟩
    · cases named
  · rintro ⟨timestamp, signature, ⟨stamp, parts, read⟩, fresh⟩
    simp [holderHash, parts, read, fresh]

theorem ticketNames_eq_some_iff {ticketQRData bookingRef publicKeyHash : QString} :
    ticketNames ticketQRData = some (bookingRef, publicKeyHash) ↔
      ∃ timestamp signature,
        TicketOwnership.ReadsTicket ticketQRData bookingRef timestamp publicKeyHash signature := by
  constructor
  · intro named
    unfold ticketNames at named
    split at named
    · rename_i tag ref stamp hash signature parts
      split_ifs at named with read
      obtain ⟨rfl, some⟩ := read
      obtain ⟨timestamp, parsed⟩ := Option.isSome_iff_exists.mp some
      cases named
      exact ⟨timestamp, signature, stamp, parts, parsed⟩
    · cases named
  · rintro ⟨timestamp, signature, stamp, parts, read⟩
    simp [ticketNames, parts, read]

theorem holderHash_eq_none_iff {now : Int64} {pitQRData : QString} :
    holderHash now pitQRData = none ↔ (TicketOwnership.parsePIT now pitQRData {}).1 = false := by
  rw [← Bool.not_eq_true]
  constructor
  · intro unread accepted
    obtain ⟨hash, timestamp, signature, reads, fresh⟩ := TicketOwnership.parsePIT_accepts accepted
    have named := holderHash_eq_some_iff.mpr ⟨timestamp, signature, reads, fresh⟩
    simp [unread] at named
  · intro rejected
    by_contra named
    obtain ⟨hash, found⟩ := Option.ne_none_iff_exists'.mp named
    obtain ⟨timestamp, signature, reads, fresh⟩ := holderHash_eq_some_iff.mp found
    exact rejected (by rw [TicketOwnership.parsePIT_of_reads reads fresh])

theorem ticketNames_eq_none_iff {ticketQRData : QString} :
    ticketNames ticketQRData = none ↔ (TicketOwnership.parseTicket ticketQRData {}).1 = false := by
  rw [← Bool.not_eq_true]
  constructor
  · intro unread accepted
    obtain ⟨ref, timestamp, hash, signature, reads⟩ := TicketOwnership.parseTicket_accepts accepted
    have named := ticketNames_eq_some_iff.mpr ⟨timestamp, signature, reads⟩
    simp [unread] at named
  · intro rejected
    by_contra named
    obtain ⟨⟨ref, hash⟩, found⟩ := Option.ne_none_iff_exists'.mp named
    obtain ⟨timestamp, signature, reads⟩ := ticketNames_eq_some_iff.mp found
    exact rejected (by rw [TicketOwnership.parseTicket_of_reads reads])

theorem judge_eq_belongs_iff {now : Int64} {pitQRData ticketQRData reference : QString} :
    judge lib now pitQRData ticketQRData = .belongs reference ↔
      ∃ holder owner, holderHash now pitQRData = some holder ∧
        ticketNames ticketQRData = some (reference, owner) ∧ lib.toLower holder = lib.toLower owner := by
  cases holder : holderHash now pitQRData with
  | none => simp [judge, holder]
  | some hash =>
      cases ticket : ticketNames ticketQRData with
      | none => simp [judge, holder, ticket]
      | some names =>
          by_cases same : lib.toLower hash = lib.toLower names.2
          · simp only [judge, holder, ticket, same, ↓reduceIte, Verdict.belongs.injEq]
            constructor
            · rintro rfl
              exact ⟨hash, names.2, rfl, rfl, same⟩
            · rintro ⟨_, _, _, named, _⟩
              exact congrArg Prod.fst (Option.some.inj named)
          · simp only [judge, holder, ticket, same, ↓reduceIte, reduceCtorEq, false_iff]
            rintro ⟨_, _, held, named, agree⟩
            cases held
            cases named
            exact same agree

namespace TicketInspector

def panel (inspector : TicketInspector) : QString × QString × QString :=
  (inspector.resultIcon, inspector.resultText, inspector.details)

theorem panel_loadPITQRCode (inspector : TicketInspector) (file : ChosenFile) :
    (inspector.loadPITQRCode lib file).panel = inspector.panel := by
  simp only [loadPITQRCode, panel]
  split <;> rfl

theorem panel_loadTicketQRCode (inspector : TicketInspector) (file : ChosenFile) :
    (inspector.loadTicketQRCode lib file).panel = inspector.panel := by
  simp only [loadTicketQRCode, panel]
  split <;> rfl

theorem panel_passed (inspector : TicketInspector) {result : TicketOwnership.VerificationResult}
    (passed : result.keysMatch = true ∧ result.pitParsed = true ∧ result.ticketParsed = true) :
    (inspector.updateVerificationStatus result).panel = (Verdict.belongs result.bookingReference).shown := by
  let rest := text ("\n• PIT Parsed: ✓\n• Ticket Parsed: ✓\n" ++
    "• Public Key Hashes Match: ✓\n• Verification: PASSED")
  have template : text ("• Booking Reference: %1\n• PIT Parsed: ✓\n• Ticket Parsed: ✓\n" ++
      "• Public Key Hashes Match: ✓\n• Verification: PASSED") =
      text "• Booking Reference: " ++ '%' :: '1' :: rest := by decide +kernel
  have plainRest : '%' ∉ rest := by decide +kernel
  have noDigit : rest.head?.bind digitValue = none := by decide +kernel
  have checked : (result.keysMatch && result.pitParsed && result.ticketParsed) = true := by simp [passed]
  rw [updateVerificationStatus, if_pos checked, template, arg_marker (by decide) plainRest noDigit]
  rfl

theorem panel_failed (inspector : TicketInspector) {result : TicketOwnership.VerificationResult}
    (failed : result.keysMatch = false) :
    (inspector.updateVerificationStatus result).panel = (text "✗", invalidText,
      arg (arg (arg (arg (text ("• Error: %1\n• PIT Parsed: %2\n• Ticket Parsed: %3\n" ++
        "• Public Key Hashes Match: %4\n• Verification: FAILED")) result.errorMessage)
        (mark result.pitParsed)) (mark result.ticketParsed)) (mark false)) := by
  simp only [updateVerificationStatus, failed, Bool.false_and, Bool.false_eq_true, ↓reduceIte, panel]

/-- The panel after a verification is the verdict on the two strings, whatever was shown before
and whatever RNP would do. -/
theorem panel_update (inspector : TicketInspector) (now : Int64) (pitQRData ticketQRData : QString)
    (state : RnpState ρ) :
    (inspector.updateVerificationStatus
      ((TicketOwnership.verifyOwnershipOfCodes rnp lib now pitQRData ticketQRData).run state).1).panel =
      (judge lib now pitQRData ticketQRData).shown := by
  simp only [TicketOwnership.verifyOwnershipOfCodes]
  cases holder : holderHash now pitQRData with
  | none =>
      have rejected := TicketOwnership.compareCodes_of_pit_rejected lib
        (holderHash_eq_none_iff.mp holder) ticketQRData
      rw [TicketOwnership.verifyOwnership_of_error rnp lib rejected, inspector.panel_failed rfl]
      simp only [judge, holder]
      decide +kernel
  | some hash =>
  obtain ⟨timestamp, signature, reads, fresh⟩ := holderHash_eq_some_iff.mp holder
  cases ticket : ticketNames ticketQRData with
  | none =>
      have rejected := TicketOwnership.compareCodes_of_ticket_rejected lib reads fresh
        (ticketNames_eq_none_iff.mp ticket)
      rw [TicketOwnership.verifyOwnership_of_error rnp lib rejected, inspector.panel_failed rfl]
      simp only [judge, holder, ticket]
      decide +kernel
  | some names =>
  obtain ⟨ticketTimestamp, ticketSignature, ticketReads⟩ := ticketNames_eq_some_iff.mp ticket
  by_cases same : lib.toLower hash = lib.toLower names.2
  · have compared := TicketOwnership.compareCodes_of_match lib reads fresh ticketReads same
    have part := (TicketOwnership.verifyOwnership_exit rnp lib compared [] [] state).parsedPart
    rw [inspector.panel_passed ⟨part.keysMatch, part.pitParsed, part.ticketParsed⟩, part.bookingReference]
    simp [judge, holder, ticket, same, TicketOwnership.compared]
  · have mismatch := TicketOwnership.compareCodes_of_mismatch lib reads fresh ticketReads same
    rw [TicketOwnership.verifyOwnership_of_error rnp lib mismatch, inspector.panel_failed rfl]
    simp only [judge, holder, ticket, same, ↓reduceIte, TicketOwnership.compared]
    decide +kernel

end TicketInspector

/-- The inspector's work: what has been read from each of the two pictures, and the verdict. -/
structure Control where
  pit : QString
  ticket : QString
  verdict : Verdict
  deriving DecidableEq, Repr

namespace Control

def fresh : Control := { pit := [], ticket := [], verdict := .awaiting }

/-- What is known of a code after a file was chosen for it; an unreadable file teaches nothing. -/
def read (known : QString) (file : ChosenFile) : QString :=
  if file.fileName = [] ∨ file.pixmap = none then known else decodeQRFromImage lib file

def step (control : Control) : InspectorEvent → Control
  | .loadPIT file => { control with pit := read lib control.pit file }
  | .loadTicket file => { control with ticket := read lib control.ticket file }
  | .verifyClicked now =>
      if control.pit = [] ∨ control.ticket = [] then control
      else { control with verdict := judge lib now control.pit control.ticket }
  | .clearClicked => fresh

def run : Control → List InspectorEvent → Control := Runs.run (step lib)

end Control

theorem ScanPanel.load_qrData (panel : ScanPanel) (file : ChosenFile) :
    (panel.load lib file).1.qrData = Control.read lib panel.qrData file := by
  by_cases cancelled : file.fileName = []
  · simp [load, Control.read, cancelled]
  · cases picture : file.pixmap with
    | none => simp [load, Control.read, cancelled, picture]
    | some image => simp [load, Control.read, cancelled, picture]

namespace Inspection

/-- The window shows what the control knows, and its button can be clicked when both codes are. -/
structure Carries (inspection : Inspection ρ) (control : Control) : Prop where
  pit : inspection.inspector.pit.qrData = control.pit
  ticket : inspection.inspector.ticket.qrData = control.ticket
  button : inspection.inspector.verifyEnabled = true ↔ control.pit ≠ [] ∧ control.ticket ≠ []
  panel : inspection.inspector.panel = control.verdict.shown

theorem carries_start (state : RnpState ρ) : Carries (start rnp lib state) Control.fresh where
  pit := rfl
  ticket := rfl
  button := iff_of_false Bool.false_ne_true fun given => given.1 rfl
  panel := rfl

theorem carries_step (inspection : Inspection ρ) (control : Control) (event : InspectorEvent)
    (carries : inspection.Carries control) :
    (inspection.step rnp lib event).Carries (control.step lib event) := by
  have tells : inspection.inspector.ButtonTells := by
    rw [TicketInspector.ButtonTells, carries.pit, carries.ticket]
    exact carries.button
  have button := buttonTells_step rnp lib inspection event tells
  rw [TicketInspector.ButtonTells] at button
  cases event with
  | loadPIT file =>
      obtain ⟨_, pit, ticket⟩ := inspection.inspector.loadPITQRCode_result lib file
      have read : (inspection.step rnp lib (.loadPIT file)).inspector.pit.qrData =
          Control.read lib control.pit file := by
        rw [← carries.pit, ← ScanPanel.load_qrData, ← pit]
        rfl
      have kept : (inspection.step rnp lib (.loadPIT file)).inspector.ticket.qrData = control.ticket :=
        (congrArg ScanPanel.qrData ticket).trans carries.ticket
      refine ⟨read, kept, ?_, ?_⟩
      · rw [button, read, kept]
        rfl
      · exact (inspection.inspector.panel_loadPITQRCode lib file).trans carries.panel
  | loadTicket file =>
      obtain ⟨_, pit, ticket⟩ := inspection.inspector.loadTicketQRCode_result lib file
      have kept : (inspection.step rnp lib (.loadTicket file)).inspector.pit.qrData = control.pit :=
        (congrArg ScanPanel.qrData pit).trans carries.pit
      have read : (inspection.step rnp lib (.loadTicket file)).inspector.ticket.qrData =
          Control.read lib control.ticket file := by
        rw [← carries.ticket, ← ScanPanel.load_qrData, ← ticket]
        rfl
      refine ⟨kept, read, ?_, ?_⟩
      · rw [button, read, kept]
        rfl
      · exact (inspection.inspector.panel_loadTicketQRCode lib file).trans carries.panel
  | clearClicked => exact ⟨rfl, rfl, iff_of_false Bool.false_ne_true fun given => given.1 rfl, rfl⟩
  | verifyClicked now =>
      by_cases missing : control.pit = [] ∨ control.ticket = []
      · have disabled : inspection.inspector.verifyEnabled = false := by
          rw [Bool.eq_false_iff, ne_eq, carries.button]
          tauto
        simpa [step, disabled, Control.step, missing] using carries
      · obtain ⟨pitKnown, ticketKnown⟩ := not_or.mp missing
        have enabled := carries.button.mpr ⟨pitKnown, ticketKnown⟩
        rw [step_verifyClicked rnp lib now enabled (carries.pit ▸ pitKnown) (carries.ticket ▸ ticketKnown),
          Control.step, if_neg missing, carries.pit, carries.ticket]
        obtain ⟨pit, ticket, verifyEnabled, _⟩ := inspection.inspector.update_keeps
          ((TicketOwnership.verifyOwnershipOfCodes rnp lib now control.pit control.ticket).run
            inspection.rnpState).1
        refine ⟨?_, ?_, ?_, ?_⟩
        · exact (congrArg ScanPanel.qrData pit).trans carries.pit
        · exact (congrArg ScanPanel.qrData ticket).trans carries.ticket
        · simp only [verifyEnabled, carries.button]
        · exact TicketInspector.panel_update rnp lib _ now control.pit control.ticket inspection.rnpState

theorem carries_run (state : RnpState ρ) (events : List InspectorEvent) :
    (run rnp lib (start rnp lib state) events).Carries (Control.run lib Control.fresh events) :=
  Runs.run_related (carries_step rnp lib) (carries_start rnp lib state) events

end Inspection

/-- The inspector's window refines its control: over any run each label shows what the control
knows, and RNP and the company's keys are left as the constructor left them. -/
theorem inspector_refines_control (state : RnpState ρ) (events : List InspectorEvent) :
    let opened := Inspection.start rnp lib state
    let inspection := Inspection.run rnp lib opened events
    inspection.Carries (Control.run lib Control.fresh events) ∧
      inspection.rnpState = opened.rnpState ∧
      inspection.inspector.companyInfo = opened.inspector.companyInfo :=
  ⟨Inspection.carries_run rnp lib state events,
    Inspection.sameSetup_run rnp lib (Inspection.start rnp lib state) events⟩

end SbbTicketing
