import SbbTicketing.ApplicationRuns
import SbbTicketing.HandleSafety
import SbbTicketing.KeyManagerLifetimes

/-! The RNP handles of a process over its whole life. Signing keeps whatever is held while it
runs, so between two events the handles alive are those of the start and the contexts that were
lost to a failed key generation. -/

namespace SbbTicketing

open Qt Outcomes

variable {ρ : Type} (rnp : Rnp ρ) (lib : QtLibrary)

section

variable {start state : RnpState ρ} {held : List (Handle × RnpShape)}

theorem Window.handleLoginSuccess_ends (window : Window) (times : GenerationTimes) (account : AccountInfo)
    (holds : start.Holds state held) :
    Ends (window.handleLoginSuccess rnp lib times account) state fun _ after => start.Holds after held := by
  have generated := IdentificationToken.generateQRCodeWithTimestamp_closes rnp lib
    { window.identificationToken with publicKey := account.publicKey, privateKey := account.privateKey } times
    holds
  exact ends_bind (ends_bind (Ends.mono generated fun _ _ closes => closes.holds))

end

open ManagerRun (contexts)

/-- The company's context is lost when the key ring of a window is set up in this state. -/
def CompanyInfo.LosesContext (state : RnpState ρ) : Prop :=
  PgpKeyManager.LosesContext rnp (toUtf8 (deterministicId lib companyEmail companySeed)) state

theorem CompanyInfo.generateKeys_contexts {start state : RnpState ρ} {lost : List Handle}
    (holds : start.Holds state (contexts lost)) :
    ∃ more, start.Holds ((generateKeys rnp lib).run state).2 (contexts (more ++ lost)) ∧ more.length ≤ 1 ∧
      (more = [] ↔ ¬CompanyInfo.LosesContext rnp lib state) := by
  have left : PgpKeyManager.LeavesHeld rnp _ start state (contexts lost) ((generateKeys rnp lib).run state).2 :=
    generateKeys_ends rnp lib holds
  rcases left with ⟨kept, same⟩ | ⟨loses, ffi, more⟩
  · exact ⟨[], same, by simp, by simp [CompanyInfo.LosesContext, kept]⟩
  · exact ⟨[ffi], more, by simp, by simp [CompanyInfo.LosesContext, loses]⟩

namespace Session

/-- The event is a login that gets a context and then fails to generate the key. -/
def LosesContext (session : Session ρ) : WindowEvent → Prop
  | .login email password _ => session.window.mainStacked = 0 ∧
      LoginPage.inputError (trimmed email) password = none ∧
      PgpKeyManager.LosesContext rnp (toUtf8 (deterministicId lib (trimmed email) password)) session.rnpState
  | _ => False

variable {start : RnpState ρ} {session : Session ρ} {lost : List Handle}

theorem loginStep_contexts (holds : start.Holds session.rnpState (contexts lost))
    (email password : QString) (times : GenerationTimes) :
    ∃ more, start.Holds (session.loginStep rnp lib email password times).rnpState (contexts (more ++ lost)) ∧
      more.length ≤ 1 ∧ (more = [] ↔ ¬(LoginPage.inputError (trimmed email) password = none ∧
        PgpKeyManager.LosesContext rnp (toUtf8 (deterministicId lib (trimmed email) password))
          session.rnpState)) := by
  have tried : Ends (session.window.login rnp lib email password times) session.rnpState fun _ after =>
      if LoginPage.inputError (trimmed email) password = none then
        PgpKeyManager.LeavesHeld rnp (toUtf8 (deterministicId lib (trimmed email) password)) start
          session.rnpState (contexts lost) after
      else start.Holds after (contexts lost) := by
    refine ends_bind (LoginPage.handleLogin_ends rnp lib
      { session.window.loginPage with email, password } holds ?_)
    intro account after held kept
    exact session.window.handleLoginSuccess_ends rnp lib times account kept
  have state : (session.loginStep rnp lib email password times).rnpState =
      ((session.window.login rnp lib email password times).run session.rnpState).2 := by
    simp only [loginStep]
    split <;> rfl
  rw [state]
  simp only [Ends] at tried
  split_ifs at tried with accepted
  · rcases tried with ⟨kept, same⟩ | ⟨loses, ffi, more⟩
    · exact ⟨[], same, by simp, by simp [kept]⟩
    · exact ⟨[ffi], more, by simp, by simp [accepted, loses]⟩
  · exact ⟨[], tried, by simp, by simp [accepted]⟩

theorem step_contexts (holds : start.Holds session.rnpState (contexts lost)) (event : WindowEvent) :
    ∃ more, start.Holds (session.step rnp lib event).rnpState (contexts (more ++ lost)) ∧
      more.length ≤ 1 ∧ (more = [] ↔ ¬session.LosesContext rnp lib event) := by
  have unchanged : ∃ more, start.Holds session.rnpState (contexts (more ++ lost)) ∧ more.length ≤ 1 ∧
      (more = [] ↔ True) := ⟨[], holds, by simp⟩
  cases event with
  | login email password times =>
      by_cases shown : session.window.mainStacked = 0
      · simp only [step, LosesContext, shown, ↓reduceIte, true_and]
        exact loginStep_contexts rnp lib holds email password times
      · simp only [step, LosesContext, shown, ↓reduceIte, false_and, not_false_eq_true]
        exact unchanged
  | book departure destination date time =>
      simp only [step, LosesContext, not_false_eq_true]
      split_ifs <;> exact unchanged
  | viewTicket position now =>
      simp only [step, LosesContext, not_false_eq_true]
      split
      · rename_i ticket found
        split_ifs
        · refine ⟨[], ?_, by simp⟩
          exact (BookingReference.showQRCode_closes rnp lib session.window.bookingReference ticket now
            holds).holds
        · exact unchanged
      · exact unchanged
  | closeQRCode =>
      simp only [step, LosesContext, not_false_eq_true]
      split_ifs <;> exact unchanged
  | countdownTimeout => exact ⟨[], holds, by simp [LosesContext]⟩
  | refreshTimeout times =>
      simp only [step, LosesContext, not_false_eq_true]
      split_ifs with active
      · refine ⟨[], ?_, by simp⟩
        have refreshed := IdentificationToken.generateQRCodeWithTimestamp_closes rnp lib
          { session.window.identificationToken with
            refreshTimer := session.window.identificationToken.refreshTimer.fire } times holds
        simp only [refreshStep, Window.refreshTimeout, IdentificationToken.refreshTimeout, active, ↓reduceIte]
        exact Closes.holds refreshed
      · exact unchanged
  | navigate button =>
      simp only [step, LosesContext, not_false_eq_true]
      split_ifs <;> exact unchanged

end Session

/-- Nothing that has been acquired since the start is alive, and no handle was misused. -/
structure AllReleased (start now : RnpState ρ) : Prop where
  sameLive : now.store.objects = start.store.objects
  unfaulted : now.faulted = start.faulted

/-- The same but for some contexts, which have come to life and were not released. -/
structure AllButContexts (start now : RnpState ρ) (lost : List Handle) : Prop where
  distinct : lost.Nodup
  contexts : ∀ ffi ∈ lost, start.store.objects ffi = none ∧
    ∃ keyring, now.store.objects ffi = some (.ffi keyring)
  others : ∀ handle, handle ∉ lost → now.store.objects handle = start.store.objects handle
  unfaulted : now.faulted = start.faulted

section

variable {start now : RnpState ρ} {lost : List Handle}

theorem allButContexts_of_holds (holds : start.Holds now (contexts lost)) : AllButContexts start now lost where
  distinct := by
    have distinct := holds.holding.distinct
    rwa [ManagerRun.contexts_fst] at distinct
  contexts := by
    intro ffi member
    have held : (ffi, .ffi) ∈ contexts lost := List.mem_map_of_mem member
    refine ⟨start.store.fresh ffi (holds.holding.later _ held), ?_⟩
    obtain ⟨object, found, shape⟩ := holds.object held
    cases object with
    | ffi keyring => exact ⟨keyring, found⟩
    | _ => cases shape
  others := by
    intro handle other
    refine holds.holding.others handle ?_
    rwa [ManagerRun.contexts_fst]
  unfaulted := holds.unfaulted

theorem allReleased_iff (holds : start.Holds now (contexts lost)) : AllReleased start now ↔ lost = [] := by
  have left := allButContexts_of_holds holds
  constructor
  · intro released
    rw [List.eq_nil_iff_forall_not_mem]
    intro ffi member
    obtain ⟨before, keyring, after⟩ := left.contexts ffi member
    rw [released.sameLive, before] at after
    cases after
  · rintro rfl
    exact ⟨funext fun handle => left.others handle (by simp), left.unfaulted⟩

end

namespace Application

/-- Some key ring set up at the launch loses its context. -/
def LaunchLosesContext (arguments : List QString) (random : RandomGenerator) (state : RnpState ρ) : Prop :=
  let application := launch rnp lib arguments random state
  application.userWindow.isSome = true ∧ CompanyInfo.LosesContext rnp lib state ∨
    application.inspectorWindow.isSome = true ∧
      CompanyInfo.LosesContext rnp lib ((application.userWindow.map (·.rnpState)).getD state)

def LosesContext (application : Application ρ) : ProcessEvent → Prop
  | .user event => ∃ session, application.user? = some session ∧ session.LosesContext rnp lib event
  | _ => False

theorem launch_contexts (arguments : List QString) (random : RandomGenerator) (state : RnpState ρ) :
    ∃ lost, state.Holds (launch rnp lib arguments random state).rnpState (contexts lost) ∧ lost.length ≤ 2 ∧
      (lost = [] ↔ ¬LaunchLosesContext rnp lib arguments random state) := by
  have nothing : state.Holds state (contexts []) := RnpState.Holds.refl state
  obtain ⟨first, opened, firstBound, firstExact⟩ := CompanyInfo.generateKeys_contexts rnp lib nothing
  rw [List.append_nil] at opened
  obtain ⟨second, both, secondBound, secondExact⟩ := CompanyInfo.generateKeys_contexts rnp lib opened
  simp only [LaunchLosesContext, launch]
  split_ifs
  · have later : second = [] ↔
        ¬CompanyInfo.LosesContext rnp lib (Session.start rnp lib random state).rnpState := secondExact
    refine ⟨second ++ first, both, by simp; omega, ?_⟩
    simp [firstExact, later, and_comm]
  · exact ⟨first, opened, by omega, by simpa using firstExact⟩
  · exact ⟨first, opened, by omega, by simpa using firstExact⟩

theorem step_contexts {start : RnpState ρ} {application : Application ρ} {lost : List Handle}
    (holds : start.Holds application.rnpState (contexts lost)) (images : ImageLibrary) (disk : Disk)
    (event : ProcessEvent) :
    ∃ more, start.Holds (application.step rnp lib images disk event).1.rnpState (contexts (more ++ lost)) ∧
      more.length ≤ 1 ∧ (more = [] ↔ ¬application.LosesContext rnp lib event) := by
  have unchanged : ∃ more, start.Holds application.rnpState (contexts (more ++ lost)) ∧ more.length ≤ 1 ∧
      (more = [] ↔ True) := ⟨[], holds, by simp⟩
  cases event with
  | user event =>
      cases window : application.user? with
      | none =>
          simp only [step, userStep, window, LosesContext, reduceCtorEq, false_and, exists_false,
            not_false_eq_true]
          exact unchanged
      | some session =>
          have same : session.rnpState = application.rnpState := by
            obtain ⟨own, _, rfl⟩ := Option.map_eq_some_iff.mp window
            rfl
          simp only [step, userStep, window, LosesContext, Option.some.injEq, exists_eq_left']
          exact Session.step_contexts rnp lib (same ▸ holds) event
  | downloadPIT timestamp dialog attempt => simpa [step, LosesContext] using unchanged
  | downloadTicket timestamp dialog attempt => simpa [step, LosesContext] using unchanged
  | loadPIT fileName inTime =>
      simpa [step, LosesContext, inspectorStep_rnpState] using unchanged
  | loadTicket fileName inTime =>
      simpa [step, LosesContext, inspectorStep_rnpState] using unchanged
  | verifyClicked now => simpa [step, LosesContext, inspectorStep_rnpState] using unchanged
  | clearClicked => simpa [step, LosesContext, inspectorStep_rnpState] using unchanged

end Application

namespace System

variable {ι : Type} [DecidableEq ι] (images : ImageLibrary) (who : ι)

def LosesContext (system : System ι ρ) : SystemEvent ι → Prop
  | .process actor event => actor = who ∧ (system.process who).LosesContext rnp lib event
  | .foreign .. => False

def isLogin : SystemEvent ι → Bool
  | .process actor (.user (.login ..)) => actor = who
  | _ => false

variable {who} {start : RnpState ρ} {system : System ι ρ} {lost : List Handle}

theorem step_contexts (holds : start.Holds (system.process who).rnpState (contexts lost))
    (event : SystemEvent ι) :
    ∃ more, start.Holds ((system.step rnp lib images event).process who).rnpState (contexts (more ++ lost)) ∧
      more.length ≤ 1 ∧ (more = [] ↔ ¬system.LosesContext rnp lib who event) := by
  cases event with
  | foreign fileName contents => exact ⟨[], holds, by simp, by simp [LosesContext]⟩
  | process actor event =>
      by_cases same : actor = who
      · subst same
        simp only [step, Function.update_self, LosesContext, true_and]
        exact Application.step_contexts rnp lib holds images system.disk event
      · simp only [step, Function.update_of_ne (Ne.symm same), LosesContext, same, false_and, not_false_eq_true]
        exact ⟨[], holds, by simp, by simp⟩

theorem isLogin_of_losesContext {event : SystemEvent ι} (loses : system.LosesContext rnp lib who event) :
    isLogin who event = true := by
  cases event with
  | foreign fileName contents => exact loses.elim
  | process actor event =>
      obtain ⟨same, loses⟩ := loses
      cases event with
      | user event =>
          obtain ⟨session, _, loses⟩ := loses
          cases event with
          | login email password times => simpa [isLogin] using same
          | _ => exact loses.elim
      | _ => exact loses.elim

/-- The contexts lost so far: two at the launch at most, and one for each login since. -/
def Accounted (who : ι) (start : RnpState ρ) (events : List (SystemEvent ι)) (system : System ι ρ) : Prop :=
  ∃ lost, start.Holds (system.process who).rnpState (contexts lost) ∧
    lost.length ≤ 2 + (events.filter (isLogin who)).length

theorem accounted_step (events : List (SystemEvent ι)) (system : System ι ρ) (event : SystemEvent ι)
    (accounted : Accounted who start events system) :
    Accounted who start (events ++ [event]) (system.step rnp lib images event) := by
  obtain ⟨lost, holds, bound⟩ := accounted
  obtain ⟨more, next, single, exact⟩ := step_contexts rnp lib images holds event
  refine ⟨more ++ lost, next, ?_⟩
  by_cases loses : system.LosesContext rnp lib who event
  · have login := isLogin_of_losesContext rnp lib loses
    simp only [List.length_append, List.filter_append, List.filter_cons, login, ↓reduceIte, List.filter_nil,
      List.length_singleton]
    omega
  · rw [exact.mpr loses, List.nil_append, List.filter_append, List.length_append]
    omega

end System

/-- Whatever RNP answers, no process ever misuses a handle, and all that a process leaves alive
between two events are contexts of failed key generations: at most two from its launch and one
for each login tried. It leaves nothing exactly as long as no key generation fails after its
context was made. -/
theorem process_handles {ι : Type} [DecidableEq ι] (images : ImageLibrary) (launches : ι → Launch ρ) (disk : Disk)
    (events : List (SystemEvent ι)) (who : ι) :
    let started := System.start rnp lib launches disk
    let initial := (launches who).state
    (∃ lost, AllButContexts initial ((System.run rnp lib images started events).process who).rnpState lost ∧
      lost.length ≤ 2 + (events.filter (System.isLogin who)).length) ∧
    (Runs.EveryState (System.step rnp lib images)
        (fun system => AllReleased initial (system.process who).rnpState) started events ↔
      ¬Application.LaunchLosesContext rnp lib (launches who).arguments (launches who).random initial ∧
        Runs.EveryStep (System.step rnp lib images)
          (fun system event => ¬system.LosesContext rnp lib who event) started events) := by
  intro started initial
  obtain ⟨lost, opened, bound, exact⟩ := Application.launch_contexts rnp lib (launches who).arguments
    (launches who).random initial
  have released : AllReleased initial (started.process who).rnpState ↔ lost = [] := allReleased_iff opened
  constructor
  · have accounted : System.Accounted who initial events (System.run rnp lib images started events) :=
      Runs.run_history ⟨lost, opened, by simpa using bound⟩ (System.accounted_step rnp lib images) events
    obtain ⟨all, holds, total⟩ := accounted
    exact ⟨all, allButContexts_of_holds holds, total⟩
  · rw [← exact, ← released]
    let clean (system : System ι ρ) : Prop := AllReleased initial (system.process who).rnpState
    let accounted (system : System ι ρ) : Prop :=
      ∃ lost, initial.Holds (system.process who).rnpState (contexts lost)
    have preserved (system : System ι ρ) (event : SystemEvent ι) (before : accounted system) :
        accounted (system.step rnp lib images event) := by
      obtain ⟨lost, holds⟩ := before
      obtain ⟨more, next, _⟩ := System.step_contexts rnp lib images holds event
      exact ⟨more ++ lost, next⟩
    have stepExact (system : System ι ρ) (event : SystemEvent ι) (before : accounted system)
        (now : clean system) :
        clean (system.step rnp lib images event) ↔ ¬system.LosesContext rnp lib who event := by
      obtain ⟨lost, holds⟩ := before
      obtain rfl := (allReleased_iff holds).mp now
      obtain ⟨more, next, _, lossless⟩ := System.step_contexts rnp lib images holds event
      rw [← lossless, ← List.append_eq_nil_iff.trans (and_iff_left rfl)]
      exact allReleased_iff next
    have first (every : Runs.EveryState (System.step rnp lib images) clean started events) : clean started :=
      Runs.everyState_start every
    have throughout (now : clean started) :=
      Runs.everyState_iff_everyStep preserved stepExact ⟨lost, opened⟩ now events
    exact ⟨fun every => ⟨first every, (throughout (first every)).mp every⟩,
      fun ⟨now, met⟩ => (throughout now).mpr met⟩

end SbbTicketing
