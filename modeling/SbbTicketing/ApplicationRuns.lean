import SbbTicketing.ApplicationCore
import SbbTicketing.InspectorControl
import SbbTicketing.Simulations
import SbbTicketing.WindowState

/-! Processes side by side: which windows the arguments open, and that each window lives
through a run of the machine as it would alone, with the files it is given. -/

namespace SbbTicketing

open Qt

variable {ρ ι : Type} (rnp : Rnp ρ) (lib : QtLibrary) (images : ImageLibrary)

namespace Modes

def inspectorFlags : List QString := [text "--inspector", text "-i"]

def userFlags : List QString := [text "--user", text "-u"]

def bothFlags : List QString := [text "--both", text "-b"]

theorem read_eq (modes : Modes) (argument : QString) : modes.read argument =
    { inspectorMode := modes.inspectorMode || inspectorFlags.contains argument
      userMode := modes.userMode || userFlags.contains argument
      bothMode := modes.bothMode || bothFlags.contains argument } := by
  by_cases inspector : argument = text "--inspector" ∨ argument = text "-i"
  · rw [read, if_pos inspector]
    rcases inspector with rfl | rfl
    · simp [inspectorFlags, userFlags, bothFlags, text]
    · simp [inspectorFlags, userFlags, bothFlags, text]
  · rw [read, if_neg inspector]
    by_cases user : argument = text "--user" ∨ argument = text "-u"
    · rw [if_pos user]
      rcases user with rfl | rfl
      · simp [inspectorFlags, userFlags, bothFlags, text]
      · simp [inspectorFlags, userFlags, bothFlags, text]
    · rw [if_neg user]
      by_cases both : argument = text "--both" ∨ argument = text "-b"
      · simp [inspectorFlags, userFlags, bothFlags, inspector, user, both]
      · simp [inspectorFlags, userFlags, bothFlags, inspector, user, both]

theorem foldl_read (arguments : List QString) (modes : Modes) : arguments.foldl read modes =
    { inspectorMode := modes.inspectorMode || arguments.any inspectorFlags.contains
      userMode := modes.userMode || arguments.any userFlags.contains
      bothMode := modes.bothMode || arguments.any bothFlags.contains } := by
  induction arguments generalizing modes with
  | nil => simp
  | cons argument rest ih => simp [ih, read_eq, Bool.or_assoc]

end Modes

theorem TicketOwnership.verifyOwnershipOfCodes_value (now : Int64) (pitQRData ticketQRData : QString)
    (state state' : RnpState ρ) :
    ((verifyOwnershipOfCodes rnp lib now pitQRData ticketQRData).run state).1 =
      ((verifyOwnershipOfCodes rnp lib now pitQRData ticketQRData).run state').1 := by
  simp only [verifyOwnershipOfCodes]
  cases compared : compareCodes lib now pitQRData ticketQRData with
  | error result => rw [verifyOwnership_of_error rnp lib compared, verifyOwnership_of_error rnp lib compared]
  | ok found =>
      simp only [verifyOwnership, verifyStages, compared]
      rfl

namespace Inspection

/-- The inspector's window without the RNP of its process, which it does not use. -/
def onScreen (inspection : Inspection ρ) : TicketInspector × Option (QString × QString) :=
  (inspection.inspector, inspection.verified)

theorem onScreen_step {first second : Inspection ρ} (same : first.onScreen = second.onScreen)
    (event : InspectorEvent) :
    (first.step rnp lib event).onScreen = (second.step rnp lib event).onScreen := by
  obtain ⟨inspector, firstState, verified⟩ := first
  obtain ⟨inspector', secondState, verified'⟩ := second
  simp only [onScreen, Prod.mk.injEq] at same
  obtain ⟨rfl, rfl⟩ := same
  cases event with
  | loadPIT file => rfl
  | loadTicket file => rfl
  | clearClicked => rfl
  | verifyClicked now =>
      by_cases enabled : inspector.verifyEnabled = true
      · simp only [step, enabled, ↓reduceIte, onScreen, Prod.mk.injEq, and_true]
        by_cases missing : inspector.pit.qrData = [] ∨ inspector.ticket.qrData = []
        · rw [TicketInspector.verifyOwnership_missing rnp lib now _ missing,
            TicketInspector.verifyOwnership_missing rnp lib now _ missing]
        · obtain ⟨pitGiven, ticketGiven⟩ := not_or.mp missing
          rw [(TicketInspector.verifyOwnership_given rnp lib now _ pitGiven ticketGiven).2,
            (TicketInspector.verifyOwnership_given rnp lib now _ pitGiven ticketGiven).2,
            TicketOwnership.verifyOwnershipOfCodes_value rnp lib now _ _ firstState secondState]
      · simp [step, enabled, onScreen]

end Inspection

namespace Application

theorem launched_user {arguments : List QString} {random : RandomGenerator} {state : RnpState ρ}
    {session : Session ρ} (opened : (launch rnp lib arguments random state).user? = some session) :
    session.LoggedOut random := by
  have fresh : (Session.start rnp lib random state).LoggedOut random :=
    Session.loggedOut_start rnp random state
  obtain ⟨untouched, ready, status, nothing⟩ := fresh
  simp only [launch, user?] at opened
  split_ifs at opened
  · cases opened
    exact ⟨untouched, ready, status, nothing⟩
  · cases opened
  · cases opened
    exact ⟨untouched, ready, status, nothing⟩

theorem launched_inspector {arguments : List QString} {random : RandomGenerator} {state : RnpState ρ}
    {inspection : Inspection ρ}
    (opened : (launch rnp lib arguments random state).inspectorWindow = some inspection) :
    ∃ before, inspection = Inspection.start rnp lib before := by
  simp only [launch] at opened
  split_ifs at opened
  · exact ⟨_, (Option.some.inj opened).symm⟩
  · exact ⟨_, (Option.some.inj opened).symm⟩

/-- Which windows open depends on which flags are among the arguments, not on their order or
number; unknown arguments are passed over, and a window opens whatever is given. -/
theorem launch_windows (arguments : List QString) (random : RandomGenerator) (state : RnpState ρ) :
    let given := fun flags => ∃ argument ∈ arguments, argument ∈ flags
    let application := launch rnp lib arguments random state
    (application.inspectorWindow.isSome = true ↔ given Modes.inspectorFlags ∨ given Modes.bothFlags) ∧
    (application.userWindow.isSome = true ↔
      given Modes.userFlags ∨ given Modes.bothFlags ∨ ¬given Modes.inspectorFlags) ∧
    (∀ session, application.userWindow = some session → session = Session.start rnp lib random state) ∧
    ∀ inspection, application.inspectorWindow = some inspection →
      application.rnpState = inspection.rnpState ∧
      inspection = Inspection.start rnp lib
        ((application.userWindow.map (·.rnpState)).getD state) := by
  intro given application
  have flags (names : List QString) : given names ↔ arguments.any names.contains = true := by
    simp [given]
  simp only [flags, application, launch, Modes.ofArguments, Modes.foldl_read]
  cases arguments.any Modes.inspectorFlags.contains <;> cases arguments.any Modes.userFlags.contains <;>
    cases arguments.any Modes.bothFlags.contains <;> simp

theorem inspectorStep_rnpState (application : Application ρ) (event : InspectorEvent) :
    (application.inspectorStep rnp lib event).rnpState = application.rnpState := by
  cases window : application.inspectorWindow with
  | none => simp [inspectorStep, inspector?, window]
  | some inspection =>
      simp only [inspectorStep, inspector?, window, Option.map_some]
      exact (Inspection.sameSetup_step rnp lib _ event).1

theorem user?_userStep (application : Application ρ) (event : WindowEvent) :
    (application.userStep rnp lib event).user? = application.user?.map (·.step rnp lib event) := by
  cases window : application.userWindow with
  | none => simp [userStep, user?, window]
  | some session => simp [userStep, user?, window]

theorem user?_inspectorStep (application : Application ρ) (event : InspectorEvent) :
    (application.inspectorStep rnp lib event).user? = application.user? := by
  have same := application.inspectorStep_rnpState rnp lib event
  have window : (application.inspectorStep rnp lib event).userWindow = application.userWindow := by
    simp only [inspectorStep]
    split <;> rfl
  simp only [user?, same, window]

theorem onScreen_inspectorStep {application : Application ρ} {window : Option (Inspection ρ)}
    (same : application.inspectorWindow.map Inspection.onScreen = window.map Inspection.onScreen)
    (event : InspectorEvent) :
    (application.inspectorStep rnp lib event).inspectorWindow.map Inspection.onScreen =
      (window.map (·.step rnp lib event)).map Inspection.onScreen := by
  cases own : application.inspectorWindow with
  | none =>
      have missing : window = none := by simpa [own, eq_comm] using same
      simp [inspectorStep, inspector?, own, missing]
  | some inspection =>
      obtain ⟨alone, found, shown⟩ : ∃ alone, window = some alone ∧ alone.onScreen = inspection.onScreen := by
        simpa [own, eq_comm] using same
      have borrowed : Inspection.onScreen { inspection with rnpState := application.rnpState } =
          alone.onScreen := shown.symm
      simp only [inspectorStep, inspector?, own, found, Option.map_some, Option.some.injEq]
      exact Inspection.onScreen_step rnp lib borrowed event

theorem inspectorWindow_userStep (application : Application ρ) (event : WindowEvent) :
    (application.userStep rnp lib event).inspectorWindow = application.inspectorWindow := by
  simp only [userStep]
  split <;> rfl

end Application

/-- What an event is to the inspector's window, with the file a load finds. -/
def ProcessEvent.toInspector (disk : Disk) : ProcessEvent → List InspectorEvent
  | .loadPIT fileName inTime => [.loadPIT (disk.chosen images fileName inTime)]
  | .loadTicket fileName inTime => [.loadTicket (disk.chosen images fileName inTime)]
  | .verifyClicked now => [.verifyClicked now]
  | .clearClicked => [.clearClicked]
  | _ => []

def ProcessEvent.toUser : ProcessEvent → List WindowEvent
  | .user event => [event]
  | _ => []

namespace System

variable [DecidableEq ι] (who : ι)

def toUser : SystemEvent ι → List WindowEvent
  | .process actor event => if actor = who then event.toUser else []
  | .foreign .. => []

def toInspector (system : System ι ρ) : SystemEvent ι → List InspectorEvent
  | .process actor event => if actor = who then event.toInspector images system.disk else []
  | .foreign .. => []

def received (system : System ι ρ) (events : List (SystemEvent ι)) : List InspectorEvent :=
  Simulations.emitted (step rnp lib images) (toInspector images who) system events

variable {who}

theorem mem_received {system : System ι ρ} {events : List (SystemEvent ι)} {message : InspectorEvent}
    (member : message ∈ received rnp lib images who system events) :
    ∃ earlier event later, events = earlier ++ .process who event :: later ∧
      message ∈ event.toInspector images (run rnp lib images system earlier).disk := by
  obtain ⟨earlier, event, later, rfl, sent⟩ := Simulations.mem_emitted member
  cases event with
  | foreign fileName contents => simp [toInspector] at sent
  | process actor event =>
      simp only [toInspector] at sent
      split_ifs at sent with same
      · exact ⟨earlier, event, later, by rw [same], sent⟩
      · simp at sent

theorem user?_step (system : System ι ρ) (event : SystemEvent ι) :
    ((system.step rnp lib images event).process who).user? =
      Runs.run (fun session event => session.map (·.step rnp lib event)) (system.process who).user?
        (toUser who event) := by
  cases event with
  | foreign fileName contents => rfl
  | process actor event =>
      by_cases same : actor = who
      · subst same
        simp only [step, Function.update_self, toUser, ↓reduceIte]
        cases event with
        | user event => exact Application.user?_userStep rnp lib _ event
        | downloadPIT timestamp dialog attempt => rfl
        | downloadTicket timestamp dialog attempt => rfl
        | loadPIT fileName inTime => exact Application.user?_inspectorStep rnp lib _ _
        | loadTicket fileName inTime => exact Application.user?_inspectorStep rnp lib _ _
        | verifyClicked now => exact Application.user?_inspectorStep rnp lib _ _
        | clearClicked => exact Application.user?_inspectorStep rnp lib _ _
      · simp only [step, Function.update_of_ne (Ne.symm same), toUser, same, ↓reduceIte]
        rfl

theorem onScreen_step (system : System ι ρ) (window : Option (Inspection ρ)) (event : SystemEvent ι)
    (same : (system.process who).inspectorWindow.map Inspection.onScreen =
      window.map Inspection.onScreen) :
    ((system.step rnp lib images event).process who).inspectorWindow.map Inspection.onScreen =
      (Runs.run (fun inspection event => inspection.map (·.step rnp lib event)) window
        (toInspector images who system event)).map Inspection.onScreen := by
  cases event with
  | foreign fileName contents => exact same
  | process actor event =>
      by_cases own : actor = who
      · subst own
        simp only [step, Function.update_self, toInspector, ↓reduceIte]
        cases event with
        | user event =>
            exact (congrArg _ ((system.process actor).inspectorWindow_userStep rnp lib event)).trans same
        | downloadPIT timestamp dialog attempt => exact same
        | downloadTicket timestamp dialog attempt => exact same
        | loadPIT fileName inTime => exact Application.onScreen_inspectorStep rnp lib same _
        | loadTicket fileName inTime => exact Application.onScreen_inspectorStep rnp lib same _
        | verifyClicked now => exact Application.onScreen_inspectorStep rnp lib same _
        | clearClicked => exact Application.onScreen_inspectorStep rnp lib same _
      · simp only [step, Function.update_of_ne (Ne.symm own), toInspector, own, ↓reduceIte]
        exact same

theorem user?_run (system : System ι ρ) (events : List (SystemEvent ι)) :
    ((run rnp lib images system events).process who).user? =
      (system.process who).user?.map (Session.run rnp lib · (events.flatMap (toUser who))) := by
  have simulated := @Simulations.run_emitted _ _ _ _ (step rnp lib images) _ _
    (fun system => (system.process who).user?) (user?_step rnp lib images) system events
  rw [Simulations.emitted_stateless, Simulations.run_option] at simulated
  exact simulated

theorem onScreen_run (system : System ι ρ) (events : List (SystemEvent ι)) :
    ((run rnp lib images system events).process who).inspectorWindow.map Inspection.onScreen =
      (system.process who).inspectorWindow.map fun inspection =>
        (Inspection.run rnp lib inspection (received rnp lib images who system events)).onScreen := by
  have simulated := @Simulations.run_emitted_related _ _ _ _ (step rnp lib images) _
    (toInspector images who)
    (fun system window => (system.process who).inspectorWindow.map Inspection.onScreen =
      window.map Inspection.onScreen)
    (onScreen_step rnp lib images) system (system.process who).inspectorWindow rfl events
  rw [Simulations.run_option, Option.map_map] at simulated
  exact simulated

end System

/-- The windows of a machine do not disturb each other: a user window does what its own clicks
and timeouts do to it alone, and an inspector's window what its own clicks do, with the files as
they were when it loaded them. -/
theorem windows_run_alone [DecidableEq ι] (launches : ι → Launch ρ) (disk : Disk)
    (events : List (SystemEvent ι)) (who : ι) :
    let started := System.start rnp lib launches disk
    let launched := started.process who
    let last := (System.run rnp lib images started events).process who
    last.user? =
      launched.user?.map (Session.run rnp lib · (events.flatMap (System.toUser who))) ∧
    last.inspectorWindow.map Inspection.onScreen = launched.inspectorWindow.map fun inspection =>
      (Inspection.run rnp lib inspection (System.received rnp lib images who started events)).onScreen :=
  ⟨System.user?_run rnp lib images _ events, System.onScreen_run rnp lib images _ events⟩

end SbbTicketing
