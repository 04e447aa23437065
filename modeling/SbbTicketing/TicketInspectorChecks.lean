import SbbTicketing.PlainRnp
import SbbTicketing.TicketInspectorCore
import SbbTicketing.TicketOwnershipChecks

/-! What the inspector's verdict stands for, and when it stays about the codes on screen. -/

namespace SbbTicketing

open Qt

variable {ρ : Type} (rnp : Rnp ρ) (lib : QtLibrary)

namespace ScanPanel

theorem load_unfinished {panel : ScanPanel} {file : ChosenFile}
    (unfinished : (panel.load lib file).2 = false) :
    (panel.load lib file).1.qrData = panel.qrData := by
  simp only [load] at unfinished ⊢
  by_cases cancelled : file.fileName.isEmpty = true
  · rw [if_pos cancelled]
  · rw [if_neg cancelled] at unfinished ⊢
    cases read : file.pixmap with
    | none => rfl
    | some image => simp [read] at unfinished

theorem load_keeps_iff {panel : ScanPanel} {file : ChosenFile} :
    (panel.load lib file).1.qrData = panel.qrData ↔
      file.fileName = [] ∨ file.pixmap = none ∨ decodeQRFromImage lib file = panel.qrData := by
  simp only [load]
  by_cases cancelled : file.fileName = []
  · simp [cancelled]
  · cases read : file.pixmap with
    | none => simp [cancelled]
    | some image => simp [cancelled]

end ScanPanel

namespace TicketInspector

theorem validText_ne_awaitingText : validText ≠ awaitingText := by decide

theorem validText_ne_invalidText : validText ≠ invalidText := by decide

theorem loadPITQRCode_result (inspector : TicketInspector) (file : ChosenFile) :
    (inspector.loadPITQRCode lib file).resultText = inspector.resultText ∧
      (inspector.loadPITQRCode lib file).pit = (inspector.pit.load lib file).1 ∧
      (inspector.loadPITQRCode lib file).ticket = inspector.ticket := by
  simp only [loadPITQRCode]
  by_cases decoded : (inspector.pit.load lib file).2 = true
  · simp [decoded]
  · simp [decoded]

theorem loadTicketQRCode_result (inspector : TicketInspector) (file : ChosenFile) :
    (inspector.loadTicketQRCode lib file).resultText = inspector.resultText ∧
      (inspector.loadTicketQRCode lib file).pit = inspector.pit ∧
      (inspector.loadTicketQRCode lib file).ticket = (inspector.ticket.load lib file).1 := by
  simp only [loadTicketQRCode]
  by_cases decoded : (inspector.ticket.load lib file).2 = true
  · simp [decoded]
  · simp [decoded]

theorem showsValid_update (inspector : TicketInspector) (result : TicketOwnership.VerificationResult) :
    (inspector.updateVerificationStatus result).showsValid ↔
      result.keysMatch = true ∧ result.pitParsed = true ∧ result.ticketParsed = true := by
  simp only [showsValid, updateVerificationStatus]
  by_cases passed : (result.keysMatch && result.pitParsed && result.ticketParsed) = true
  · rw [if_pos passed]
    simpa [and_assoc] using passed
  · rw [if_neg passed]
    have failed : ¬(result.keysMatch = true ∧ result.pitParsed = true ∧ result.ticketParsed = true) := by
      simpa [and_assoc] using passed
    simp [failed, validText_ne_invalidText.symm]

theorem update_keeps (inspector : TicketInspector) (result : TicketOwnership.VerificationResult) :
    (inspector.updateVerificationStatus result).pit = inspector.pit ∧
      (inspector.updateVerificationStatus result).ticket = inspector.ticket ∧
      (inspector.updateVerificationStatus result).verifyEnabled = inspector.verifyEnabled ∧
      (inspector.updateVerificationStatus result).companyInfo = inspector.companyInfo := by
  simp only [updateVerificationStatus]
  by_cases passed : (result.keysMatch && result.pitParsed && result.ticketParsed) = true
  · simp [passed]
  · simp [passed]

theorem verifyOwnership_missing {inspector : TicketInspector} (now : Int64) (state : RnpState ρ)
    (missing : inspector.pit.qrData = [] ∨ inspector.ticket.qrData = []) :
    (inspector.verifyOwnership rnp lib now).run state = (inspector, state) := by
  simp only [verifyOwnership, obtainResult]
  rcases missing with pit | ticket
  · simp [pit]
    rfl
  · simp [ticket]
    rfl

theorem verifyOwnership_given {inspector : TicketInspector} (now : Int64) (state : RnpState ρ)
    (pitGiven : inspector.pit.qrData ≠ []) (ticketGiven : inspector.ticket.qrData ≠ []) :
    let verification := (TicketOwnership.verifyOwnershipOfCodes rnp lib now inspector.pit.qrData
      inspector.ticket.qrData).run state
    (obtainResult rnp lib inspector now).run state = (some verification.1, verification.2) ∧
      (inspector.verifyOwnership rnp lib now).run state =
        (inspector.updateVerificationStatus verification.1, verification.2) := by
  intro verification
  have ran : (obtainResult rnp lib inspector now).run state =
      (some verification.1, verification.2) := by
    simp only [obtainResult, pitGiven, ticketGiven, List.isEmpty_iff, Bool.or_eq_true, or_self,
      ↓reduceIte]
    rfl
  refine ⟨ran, ?_⟩
  simp only [verifyOwnership, StateT.run_bind, ran]
  rfl

def ButtonTells (inspector : TicketInspector) : Prop :=
  inspector.verifyEnabled = true ↔ inspector.pit.qrData ≠ [] ∧ inspector.ticket.qrData ≠ []

theorem buttonTells_loadPIT {inspector : TicketInspector} (tells : inspector.ButtonTells)
    (file : ChosenFile) : (inspector.loadPITQRCode lib file).ButtonTells := by
  simp only [ButtonTells, loadPITQRCode] at tells ⊢
  by_cases decoded : (inspector.pit.load lib file).2 = true
  · simp [decoded]
  · simp only [Bool.not_eq_true] at decoded
    simpa [decoded, ScanPanel.load_unfinished lib decoded] using tells

theorem buttonTells_loadTicket {inspector : TicketInspector} (tells : inspector.ButtonTells)
    (file : ChosenFile) : (inspector.loadTicketQRCode lib file).ButtonTells := by
  simp only [ButtonTells, loadTicketQRCode] at tells ⊢
  by_cases decoded : (inspector.ticket.load lib file).2 = true
  · simp [decoded]
  · simp only [Bool.not_eq_true] at decoded
    simpa [decoded, ScanPanel.load_unfinished lib decoded] using tells

theorem verifyOwnership_keeps (inspector : TicketInspector) (now : Int64) (state : RnpState ρ) :
    let verified := (inspector.verifyOwnership rnp lib now).run state
    verified.1.pit = inspector.pit ∧ verified.1.ticket = inspector.ticket ∧
      verified.1.verifyEnabled = inspector.verifyEnabled ∧
      verified.1.companyInfo = inspector.companyInfo ∧ verified.2 = state := by
  by_cases missing : inspector.pit.qrData = [] ∨ inspector.ticket.qrData = []
  · simp only [verifyOwnership_missing rnp lib now state missing, and_self]
  · obtain ⟨pitGiven, ticketGiven⟩ := not_or.mp missing
    simp only [(verifyOwnership_given rnp lib now state pitGiven ticketGiven).2, update_keeps,
      (TicketOwnership.verifyOwnershipOfCodes_run rnp lib now inspector.pit.qrData
        inspector.ticket.qrData state).1, and_self]

end TicketInspector

namespace Inspection

def ButtonReady (inspection : Inspection ρ) : Prop :=
  inspection.inspector.verifyEnabled = true →
    inspection.inspector.pit.qrData ≠ [] ∧ inspection.inspector.ticket.qrData ≠ []

theorem step_verifyClicked {inspection : Inspection ρ} (now : Int64)
    (enabled : inspection.inspector.verifyEnabled = true)
    (pitGiven : inspection.inspector.pit.qrData ≠ [])
    (ticketGiven : inspection.inspector.ticket.qrData ≠ []) :
    let verification := (TicketOwnership.verifyOwnershipOfCodes rnp lib now
      inspection.inspector.pit.qrData inspection.inspector.ticket.qrData).run inspection.rnpState
    inspection.step rnp lib (.verifyClicked now) = {
      inspector := inspection.inspector.updateVerificationStatus verification.1
      rnpState := verification.2
      verified := some (inspection.inspector.pit.qrData, inspection.inspector.ticket.qrData) } := by
  have clicked := (TicketInspector.verifyOwnership_given rnp lib now inspection.rnpState pitGiven
    ticketGiven).2
  simp [step, enabled, clicked, pitGiven, ticketGiven]

theorem buttonTells_step (inspection : Inspection ρ) (event : InspectorEvent)
    (tells : inspection.inspector.ButtonTells) :
    (inspection.step rnp lib event).inspector.ButtonTells := by
  cases event with
  | loadPIT file => exact TicketInspector.buttonTells_loadPIT lib tells file
  | loadTicket file => exact TicketInspector.buttonTells_loadTicket lib tells file
  | clearClicked => simp [TicketInspector.ButtonTells, step, TicketInspector.clearAll, ScanPanel.empty]
  | verifyClicked now =>
      by_cases enabled : inspection.inspector.verifyEnabled = true
      · obtain ⟨pit, ticket, button, _⟩ :=
          inspection.inspector.verifyOwnership_keeps rnp lib now inspection.rnpState
        simp only [step, enabled, ↓reduceIte]
        rw [TicketInspector.ButtonTells, pit, ticket, button]
        exact tells
      · simpa [step, enabled] using tells

theorem buttonTells_start (state : RnpState ρ) : (start rnp lib state).inspector.ButtonTells :=
  iff_of_false Bool.false_ne_true fun given => given.1 rfl

theorem buttonReady_run (state : RnpState ρ) (events : List InspectorEvent) :
    (run rnp lib (start rnp lib state) events).ButtonReady := by
  have tells : (run rnp lib (start rnp lib state) events).inspector.ButtonTells :=
    Runs.run_invariant (buttonTells_step rnp lib) (buttonTells_start rnp lib state) events
  exact tells.mp

def scanned (name content : String) : ChosenFile where
  fileName := text name
  pixmap := some []
  zbarimg := { finished := true, exitCode := 0, standardOutput := toUtf8 (text content) }

def bareCodes : List InspectorEvent :=
  [.loadPIT (scanned "pit.png" "PIT:ab:0:"), .loadTicket (scanned "ticket.png" "TICKET:R:0:ab:")]

def desk : Inspection Nat :=
  start PlainRnp.rnp PlainRnp.library (PlainRnp.initialState 0)

theorem valid_iff_match (state : RnpState ρ) (events : List InspectorEvent) (now : Int64)
    (enabled : (run rnp lib (start rnp lib state) events).inspector.verifyEnabled = true) :
    let inspection := run rnp lib (start rnp lib state) events
    let clicked := inspection.step rnp lib (.verifyClicked now)
    ∃ result,
      ((inspection.inspector.obtainResult rnp lib now).run inspection.rnpState).1 = some result ∧
      result.isValid = false ∧ clicked.rnpState = inspection.rnpState ∧
      (clicked.inspector.showsValid ↔ TicketOwnership.Match lib now inspection.inspector.pit.qrData
        inspection.inspector.ticket.qrData) := by
  intro inspection clicked
  obtain ⟨pitGiven, ticketGiven⟩ := buttonReady_run rnp lib state events enabled
  have given := TicketInspector.verifyOwnership_given rnp lib now inspection.rnpState pitGiven ticketGiven
  have after : clicked = _ := step_verifyClicked rnp lib now enabled pitGiven ticketGiven
  have outcome := TicketOwnership.verifyOwnershipOfCodes_run rnp lib now
    inspection.inspector.pit.qrData inspection.inspector.ticket.qrData inspection.rnpState
  refine ⟨_, congrArg Prod.fst given.1, outcome.2.1, ?_, ?_⟩
  · rw [after]
    exact outcome.1
  · rw [after, TicketInspector.showsValid_update]
    exact outcome.2.2

theorem valid_iff_match_bareCodes :
    (run PlainRnp.rnp PlainRnp.library desk bareCodes).inspector.verifyEnabled = true ∧
      ((run PlainRnp.rnp PlainRnp.library desk bareCodes).step PlainRnp.rnp PlainRnp.library
          (.verifyClicked 0)).rnpState =
        (run PlainRnp.rnp PlainRnp.library desk bareCodes).rnpState := by
  have enabled : (run PlainRnp.rnp PlainRnp.library desk bareCodes).inspector.verifyEnabled = true := by
    decide +kernel
  obtain ⟨_, _, _, untouched, _⟩ := valid_iff_match PlainRnp.rnp PlainRnp.library
    (PlainRnp.initialState 0) bareCodes 0 enabled
  exact ⟨enabled, untouched⟩

/-- Unsigned codes made up on paper turn the panel green over a result that is not valid. -/
theorem bareCodes_shown_valid :
    let inspection := run PlainRnp.rnp PlainRnp.library desk bareCodes
    (inspection.step PlainRnp.rnp PlainRnp.library (.verifyClicked 0)).inspector.showsValid ∧
      ((inspection.inspector.obtainResult PlainRnp.rnp PlainRnp.library 0).run
        inspection.rnpState).1.map (·.isValid) = some false := by
  decide +kernel

/-- If the panel is green, the verification behind it was run on the two strings now loaded. -/
def VerdictIsCurrent (inspection : Inspection ρ) : Prop :=
  inspection.inspector.showsValid →
    inspection.verified = some (inspection.inspector.pit.qrData, inspection.inspector.ticket.qrData)

/-- A load while the panel is green is cancelled, unreadable, or decodes to what was there. -/
def KeepsVerdict (inspection : Inspection ρ) : InspectorEvent → Prop
  | .loadPIT file => inspection.inspector.showsValid → file.fileName = [] ∨ file.pixmap = none ∨
      decodeQRFromImage lib file = inspection.inspector.pit.qrData
  | .loadTicket file => inspection.inspector.showsValid → file.fileName = [] ∨ file.pixmap = none ∨
      decodeQRFromImage lib file = inspection.inspector.ticket.qrData
  | .verifyClicked _ => True
  | .clearClicked => True

theorem verdict_step (inspection : Inspection ρ) (event : InspectorEvent)
    (ready : inspection.ButtonReady) (current : inspection.VerdictIsCurrent) :
    (inspection.step rnp lib event).VerdictIsCurrent ↔ inspection.KeepsVerdict lib event := by
  cases event with
  | loadPIT file =>
      simp only [VerdictIsCurrent, KeepsVerdict, step, TicketInspector.showsValid,
        TicketInspector.loadPITQRCode_result, ← ScanPanel.load_keeps_iff] at current ⊢
      refine imp_congr_right fun shown => ?_
      rw [current shown]
      simp [eq_comm]
  | loadTicket file =>
      simp only [VerdictIsCurrent, KeepsVerdict, step, TicketInspector.showsValid,
        TicketInspector.loadTicketQRCode_result, ← ScanPanel.load_keeps_iff] at current ⊢
      refine imp_congr_right fun shown => ?_
      rw [current shown]
      simp [eq_comm]
  | clearClicked =>
      simp only [VerdictIsCurrent, KeepsVerdict, step, TicketInspector.showsValid,
        TicketInspector.clearAll, iff_true]
      intro shown
      exact absurd shown.symm TicketInspector.validText_ne_awaitingText
  | verifyClicked now =>
      simp only [KeepsVerdict, iff_true]
      by_cases enabled : inspection.inspector.verifyEnabled = true
      · obtain ⟨pitGiven, ticketGiven⟩ := ready enabled
        rw [step_verifyClicked rnp lib now enabled pitGiven ticketGiven]
        simp [VerdictIsCurrent, TicketInspector.update_keeps]
      · simpa [step, enabled] using current

theorem verdict_current_iff (state : RnpState ρ) (events : List InspectorEvent) :
    Runs.EveryState (step rnp lib) VerdictIsCurrent (start rnp lib state) events ↔
      Runs.EveryStep (step rnp lib) (KeepsVerdict lib) (start rnp lib state) events := by
  refine Runs.everyState_iff_everyStep (buttonTells_step rnp lib) ?_
    (buttonTells_start rnp lib state) ?_ events
  · intro inspection event tells
    exact verdict_step rnp lib inspection event tells.mp
  · intro shown
    exact absurd shown.symm TicketInspector.validText_ne_awaitingText

/-- After a green verdict another passenger's PIT is loaded, and the panel stays green. -/
theorem stale_verdict :
    let inspection := run PlainRnp.rnp PlainRnp.library desk
      (bareCodes ++ [.verifyClicked 0, .loadPIT (scanned "other.png" "PIT:cd:0:")])
    inspection.inspector.showsValid ∧
      inspection.inspector.pit.qrData = text "PIT:cd:0:" ∧
      inspection.verified = some (text "PIT:ab:0:", text "TICKET:R:0:ab:") := by
  decide +kernel

end Inspection

end SbbTicketing
