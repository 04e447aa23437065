import SbbTicketing.TicketInspectorChecks

/-! What holds in every state of the inspector's window: the button and the status labels tell
what is loaded, a preview belongs to its string, and clearing starts afresh. -/

namespace SbbTicketing

open Qt

variable {ρ : Type} (rnp : Rnp ρ) (lib : QtLibrary)

namespace ScanPanel

def loadedStatus : QString := text "Status: QR Code Loaded ✓"

def ShowsFile (panel : ScanPanel) (file : ChosenFile) : Prop :=
  file.fileName ≠ [] ∧ (∃ image, file.pixmap = some image ∧ panel.preview = .picture image) ∧
    panel.qrData = decodeQRFromImage lib file

/-- The label tells whether there is a string, and a string and the preview come from one of
the files loaded. -/
structure Coherent (panel : ScanPanel) (loaded : ChosenFile → Prop) : Prop where
  statusTells : panel.status = loadedStatus ↔ panel.qrData ≠ []
  sameFile : panel.qrData ≠ [] → ∃ file, loaded file ∧ panel.ShowsFile lib file

theorem coherent_empty (loaded : ChosenFile → Prop) : empty.Coherent lib loaded where
  statusTells := by
    simp only [empty, ne_eq, not_true_eq_false, iff_false]
    decide
  sameFile := fun given => absurd rfl given

theorem coherent_load {panel : ScanPanel} {loaded : ChosenFile → Prop}
    (coherent : panel.Coherent lib loaded) {file : ChosenFile} (member : loaded file) :
    (panel.load lib file).1.Coherent lib loaded := by
  simp only [load]
  by_cases cancelled : file.fileName = []
  · simpa [cancelled] using coherent
  · simp only [List.isEmpty_iff, cancelled, ↓reduceIte]
    cases read : file.pixmap with
    | none => exact ⟨coherent.statusTells, coherent.sameFile⟩
    | some image =>
        refine ⟨?_, fun _ => ⟨file, member, cancelled, ⟨image, read, rfl⟩, rfl⟩⟩
        by_cases undecoded : decodeQRFromImage lib file = []
        · simp only [undecoded, ↓reduceIte, ne_eq, not_true_eq_false, iff_false]
          decide
        · simp [undecoded, loadedStatus]

end ScanPanel

namespace Inspection

structure Coherent (events : List InspectorEvent) (inspection : Inspection ρ) : Prop where
  button : inspection.inspector.ButtonTells
  pit : inspection.inspector.pit.Coherent lib fun file => .loadPIT file ∈ events
  ticket : inspection.inspector.ticket.Coherent lib fun file => .loadTicket file ∈ events

theorem coherent_start (state : RnpState ρ) (events : List InspectorEvent) :
    Coherent lib events (start rnp lib state) where
  button := buttonTells_start rnp lib state
  pit := ScanPanel.coherent_empty lib _
  ticket := ScanPanel.coherent_empty lib _

theorem coherent_step {events : List InspectorEvent} (inspection : Inspection ρ) (event : InspectorEvent)
    (member : event ∈ events) (coherent : Coherent lib events inspection) :
    Coherent lib events (inspection.step rnp lib event) := by
  have button := buttonTells_step rnp lib inspection event coherent.button
  cases event with
  | loadPIT file =>
      obtain ⟨_, pit, ticket⟩ := inspection.inspector.loadPITQRCode_result lib file
      refine ⟨button, ?_, ?_⟩
      · simp only [step, pit]
        exact ScanPanel.coherent_load lib coherent.pit member
      · simp only [step, ticket]
        exact coherent.ticket
  | loadTicket file =>
      obtain ⟨_, pit, ticket⟩ := inspection.inspector.loadTicketQRCode_result lib file
      refine ⟨button, ?_, ?_⟩
      · simp only [step, pit]
        exact coherent.pit
      · simp only [step, ticket]
        exact ScanPanel.coherent_load lib coherent.ticket member
  | clearClicked =>
      exact ⟨button, ScanPanel.coherent_empty lib _, ScanPanel.coherent_empty lib _⟩
  | verifyClicked now =>
      by_cases enabled : inspection.inspector.verifyEnabled = true
      · obtain ⟨pit, ticket, _⟩ :=
          inspection.inspector.verifyOwnership_keeps rnp lib now inspection.rnpState
        refine ⟨button, ?_, ?_⟩
        · simp only [step, enabled, ↓reduceIte, pit]
          exact coherent.pit
        · simp only [step, enabled, ↓reduceIte, ticket]
          exact coherent.ticket
      · simpa [step, enabled] using coherent

def SameSetup (first second : Inspection ρ) : Prop :=
  second.rnpState = first.rnpState ∧ second.inspector.companyInfo = first.inspector.companyInfo

/-- Verifying without keys asks RNP for nothing, and no step replaces the company's keys. -/
theorem sameSetup_step (inspection : Inspection ρ) (event : InspectorEvent) :
    SameSetup inspection (inspection.step rnp lib event) := by
  cases event with
  | loadPIT file =>
      refine ⟨rfl, ?_⟩
      simp only [step, TicketInspector.loadPITQRCode]
      split <;> rfl
  | loadTicket file =>
      refine ⟨rfl, ?_⟩
      simp only [step, TicketInspector.loadTicketQRCode]
      split <;> rfl
  | clearClicked => exact ⟨rfl, rfl⟩
  | verifyClicked now =>
      by_cases enabled : inspection.inspector.verifyEnabled = true
      · obtain ⟨_, _, _, companyInfo, untouched⟩ :=
          inspection.inspector.verifyOwnership_keeps rnp lib now inspection.rnpState
        simp only [SameSetup, step, enabled, ↓reduceIte]
        exact ⟨untouched, companyInfo⟩
      · simp [SameSetup, step, enabled]

theorem sameSetup_run (inspection : Inspection ρ) (events : List InspectorEvent) :
    SameSetup inspection (run rnp lib inspection events) := by
  refine Runs.run_invariant ?_ ⟨rfl, rfl⟩ events
  rintro later event ⟨untouched, companyInfo⟩
  obtain ⟨untouched', companyInfo'⟩ := sameSetup_step rnp lib later event
  exact ⟨untouched'.trans untouched, companyInfo'.trans companyInfo⟩

/-- The window and RNP, without the record of what was verified. -/
def SameWindow (first second : Inspection ρ) : Prop :=
  first.inspector = second.inspector ∧ first.rnpState = second.rnpState

theorem sameWindow_step (first second : Inspection ρ) (event : InspectorEvent)
    (same : SameWindow first second) :
    SameWindow (first.step rnp lib event) (second.step rnp lib event) := by
  obtain ⟨inspector, rnpState⟩ := same
  cases event with
  | loadPIT file => exact ⟨by simp only [step, inspector], rnpState⟩
  | loadTicket file => exact ⟨by simp only [step, inspector], rnpState⟩
  | clearClicked => exact ⟨by simp only [step, inspector], rnpState⟩
  | verifyClicked now =>
      simp only [step, inspector, rnpState]
      by_cases enabled : second.inspector.verifyEnabled = true
      · simp only [enabled, ↓reduceIte]
        exact ⟨rfl, rfl⟩
      · simp only [enabled]
        exact ⟨inspector, rnpState⟩

theorem sameWindow_clear (state : RnpState ρ) (events : List InspectorEvent) :
    SameWindow ((run rnp lib (start rnp lib state) events).step rnp lib .clearClicked)
      (start rnp lib state) := by
  obtain ⟨untouched, companyInfo⟩ := sameSetup_run rnp lib (start rnp lib state) events
  refine ⟨?_, untouched⟩
  simp only [step, TicketInspector.clearAll, companyInfo]
  rfl

theorem inspector_coherent (state : RnpState ρ) (events : List InspectorEvent) :
    let opened := start rnp lib state
    let inspection := run rnp lib opened events
    let inspector := inspection.inspector
    (inspector.verifyEnabled = true ↔ inspector.pit.qrData ≠ [] ∧ inspector.ticket.qrData ≠ []) ∧
    (inspector.verifyEnabled = true → ∀ now,
      ((inspector.obtainResult rnp lib now).run inspection.rnpState).1 ≠ none) ∧
    inspector.pit.Coherent lib (fun file => .loadPIT file ∈ events) ∧
    inspector.ticket.Coherent lib (fun file => .loadTicket file ∈ events) ∧
    inspector.clearAll = opened.inspector ∧
    ∀ later, (run rnp lib opened (events ++ .clearClicked :: later)).inspector =
      (run rnp lib opened later).inspector := by
  intro opened inspection inspector
  have coherent : Coherent lib events inspection :=
    Runs.run_invariant_of_mem (coherent_step rnp lib) (coherent_start rnp lib state events)
  have cleared := sameWindow_clear rnp lib state events
  refine ⟨coherent.button, ?_, coherent.pit, coherent.ticket, cleared.1, ?_⟩
  · intro enabled now
    obtain ⟨pitGiven, ticketGiven⟩ := coherent.button.mp enabled
    rw [(TicketInspector.verifyOwnership_given rnp lib now inspection.rnpState pitGiven ticketGiven).1]
    exact Option.some_ne_none _
  · intro later
    have restarted := Runs.run_related (sameWindow_step rnp lib) cleared later
    simp only [run, Runs.run_append, Runs.run_cons]
    exact restarted.1

end Inspection

end SbbTicketing
