import SbbTicketing.KeyManagerCore
import SbbTicketing.PlainRnp
import SbbTicketing.RnpScopes
import SbbTicketing.Runs
import Mathlib.Data.List.Perm.Basic

/-! The RNP contexts of key managers over whole runs. A manager keeps its context alive from
its construction to its destruction, its methods give back what they acquire, and a context
is lost exactly when a construction gets one and then fails to generate the key. -/

namespace SbbTicketing

open Qt Outcomes

variable {ρ : Type} (rnp : Rnp ρ)

namespace PgpKeyManager

/-- The construction gets a context but no key. -/
def LosesContext (userId : QByteArray) (state : RnpState ρ) : Prop :=
  rnp.reply (state.draws state.calls) .ffiCreate ≠ none ∧
    rnp.reply (state.draws (state.calls + 1)) (.generateKeyJson [] (cString (keyJson userId))) = none

/-- Once no manager is left of a construction: what was held before, and the context if it is lost. -/
def LeavesHeld (userId : QByteArray) (start state : RnpState ρ) (held : List (Handle × RnpShape))
    (after : RnpState ρ) : Prop :=
  (¬LosesContext rnp userId state ∧ start.Holds after held) ∨
    LosesContext rnp userId state ∧ ∃ ffi, start.Holds after ((ffi, .ffi) :: held)

section

variable {start state : RnpState ρ} {held : List (Handle × RnpShape)} {manager : PgpKeyManager}
  {userKey input output op : Handle} {α : Type} {last : ExceptT QString (RnpM ρ) α}
  {returns : α → RnpState ρ → Prop} {throws : QString → RnpState ρ → Prop}

theorem generateKey_attempts (holds : start.Holds state held) (member : (manager.ffi, .ffi) ∈ held)
    (empty : state.keyring? manager.ffi = some []) :
    let generated := rnp.reply (state.draws state.calls)
      (.generateKeyJson [] (cString (keyJson manager.userId)))
    Attempts (generateKey rnp manager) state
      (fun _ after => generated ≠ none ∧ start.Holds after held)
      (fun _ after => generated = none ∧ start.Holds after held) := by
  intro generated
  unfold generateKey
  refine attempts_call (ends_generateKeyJson rnp holds member empty ?_ ?_)
  · exact fun after failed kept => ⟨failed, kept⟩
  · intro buffer after made holds
    exact attempts_lift (ends_destroy rnp holds rfl fun _ kept => ⟨made, kept⟩)

theorem new_attempts (userId : QByteArray) (holds : start.Holds state held) :
    Attempts (new rnp userId) state
      (fun manager after => ¬LosesContext rnp userId state ∧
        start.Holds after ((manager.ffi, .ffi) :: held))
      (fun _ after => LeavesHeld rnp userId start state held after) := by
  unfold new
  refine attempts_call (ends_create_eq rnp (fun failed => ?_) fun opened created => ?_)
  · exact Or.inl ⟨fun loses => loses.1 failed, holds.answered none⟩
  have context := (holds.answered (some opened)).acquired (.ffi [])
  refine attempts_bind (Attempts.mono (generateKey_attempts rnp context (.head _) ?_) ?_ ?_)
  · exact RnpState.keyring?_acquired _ []
  · rintro _ after ⟨generated, kept⟩
    exact ⟨fun loses => generated loses.2, kept⟩
  · rintro message after ⟨failed, left⟩
    exact Or.inr ⟨⟨by simp [created], failed⟩, _, left⟩

theorem attempts_closeOp
    (holds : start.Holds state ((op, .signOp manager.ffi input output) :: (output, .output) ::
      (input, .input) :: (userKey, .key manager.ffi) :: held))
    (met : ∀ after, start.Holds after held → Attempts last after returns throws) :
    Attempts (do
      opSignDestroy rnp op; outputDestroy rnp output; inputDestroy rnp input
      keyHandleDestroy rnp userKey
      last : ExceptT QString (RnpM ρ) α) state returns throws :=
  attempts_close rnp [(op, .signOp _ _ _), (output, .output), (input, .input), (userKey, .key _)] holds met

theorem exportArmored_attempts (errors : ExportErrors) (flags : KeyFlags)
    (holds : start.Holds state held) (member : (manager.ffi, .ffi) ∈ held) :
    Attempts (exportArmored rnp errors flags manager) state
      (fun _ after => start.Holds after held) (fun _ after => start.Holds after held) := by
  unfold exportArmored
  refine attempts_call (ends_locateKey rnp holds member ?_ fun key s1 holds => ?_)
  · exact fun after holds => holds
  refine attempts_call (ends_outputToMemory rnp holds ?_ fun out s2 holds => ?_)
  · intro after holds
    exact attempts_close rnp [(key, .key _)] holds fun _ kept => kept
  refine attempts_call (ends_keyExport rnp holds (.tail _ (.head _)) (by simp [member]) (.head _)
    fun answer s3 holds => ?_)
  cases answer with
  | none => exact attempts_close rnp [(out, .output), (key, .key _)] holds fun _ kept => kept
  | some _ =>
  refine attempts_call (ends_outputMemoryGetBuf rnp holds (.head _) fun answer s4 holds => ?_)
  cases answer with
  | none => exact attempts_close rnp [(out, .output), (key, .key _)] holds fun _ kept => kept
  | some exported => exact attempts_close rnp [(out, .output), (key, .key _)] holds fun _ kept => kept

theorem exportKeys_attempts (lib : QtLibrary) (holds : start.Holds state held)
    (member : (manager.ffi, .ffi) ∈ held) :
    Attempts (exportKeys rnp lib manager) state
      (fun _ after => start.Holds after held) (fun _ after => start.Holds after held) := by
  unfold exportKeys
  refine attempts_bind (Attempts.mono (exportArmored_attempts rnp _ _ holds member) ?_
    fun _ _ kept => kept)
  intro publicKey after holds
  refine attempts_bind (Attempts.mono (exportArmored_attempts rnp _ _ holds member) ?_
    fun _ _ kept => kept)
  exact fun privateKey after holds => attempts_pure holds

theorem signData_attempts (data : QByteArray) (holds : start.Holds state held)
    (member : (manager.ffi, .ffi) ∈ held) :
    Attempts (signData rnp manager data) state
      (fun _ after => start.Holds after held) (fun _ after => start.Holds after held) := by
  unfold signData
  refine attempts_call (ends_locateKey rnp holds member ?_ fun key s1 holds => ?_)
  · exact fun after holds => holds
  refine attempts_call (ends_inputFromMemory rnp holds ?_ fun input s2 holds => ?_)
  · intro after holds
    exact attempts_close rnp [(key, .key _)] holds fun _ kept => kept
  refine attempts_call (ends_outputToMemory rnp holds ?_ fun output s3 holds => ?_)
  · intro after holds
    exact attempts_close rnp [(input, .input), (key, .key _)] holds fun _ kept => kept
  refine attempts_call (ends_opSignDetachedCreate rnp holds (by simp [member]) (.tail _ (.head _))
    (.head _) ?_ fun signOp s4 holds => ?_)
  · intro after holds
    exact attempts_close rnp [(output, .output), (input, .input), (key, .key _)] holds
      fun _ kept => kept
  refine attempts_call (ends_opSignAddSignature rnp holds (.head _)
    (.tail _ (.tail _ (.tail _ (.head _)))) (by simp [member]) fun answer s5 holds => ?_)
  cases answer with
  | none => exact attempts_closeOp rnp holds fun _ kept => kept
  | some _ =>
  refine attempts_call (ends_opSignExecute rnp holds (.head _) (by simp [member])
    (.tail _ (.tail _ (.head _))) (.tail _ (.head _)) fun answer s6 holds => ?_)
  cases answer with
  | none => exact attempts_closeOp rnp holds fun _ kept => kept
  | some _ =>
  refine attempts_call (ends_outputMemoryGetBuf rnp holds (.tail _ (.head _)) fun answer s7 holds => ?_)
  cases answer with
  | none => exact attempts_closeOp rnp holds fun _ kept => kept
  | some signature => exact attempts_closeOp rnp holds fun _ kept => kept

theorem delete_ends (holds : start.Holds state ((manager.ffi, .ffi) :: held)) :
    Ends (delete rnp manager) state fun _ after => start.Holds after held :=
  ends_destroy rnp holds rfl fun _ kept => kept

end

end PgpKeyManager

/-- What the program does with key managers; the positions count from the newest one alive. -/
inductive ManagerEvent
  | construct (userId : QByteArray)
  | exportPublicKeyArmored (position : Nat)
  | exportSecretKeyArmored (position : Nat)
  | signData (position : Nat) (data : QByteArray)
  | destroy (position : Nat)

structure ManagerRun (ρ : Type) where
  managers : List PgpKeyManager
  rnpState : RnpState ρ

namespace ManagerRun

def construct (userId : QByteArray) (run : ManagerRun ρ) : ManagerRun ρ :=
  match (PgpKeyManager.new rnp userId).run.run run.rnpState with
  | (.ok manager, rnpState) => { managers := manager :: run.managers, rnpState }
  | (.error _, rnpState) => { run with rnpState }

def call (method : PgpKeyManager → ExceptT QString (RnpM ρ) QByteArray) (position : Nat)
    (run : ManagerRun ρ) : ManagerRun ρ :=
  match run.managers[position]? with
  | none => run
  | some manager => { run with rnpState := ((method manager).run.run run.rnpState).2 }

def destroy (position : Nat) (run : ManagerRun ρ) : ManagerRun ρ :=
  match run.managers[position]? with
  | none => run
  | some manager =>
      { managers := run.managers.eraseIdx position
        rnpState := ((manager.delete rnp).run run.rnpState).2 }

def step (run : ManagerRun ρ) : ManagerEvent → ManagerRun ρ
  | .construct userId => run.construct rnp userId
  | .exportPublicKeyArmored position => run.call (PgpKeyManager.exportPublicKeyArmored rnp) position
  | .exportSecretKeyArmored position => run.call (PgpKeyManager.exportSecretKeyArmored rnp) position
  | .signData position data => run.call (PgpKeyManager.signData rnp · data) position
  | .destroy position => run.destroy rnp position

/-- Apart from what was alive at the start, the live handles are one context for each manager. -/
structure OnePerManager (start : RnpState ρ) (run : ManagerRun ρ) : Prop where
  distinct : (run.managers.map PgpKeyManager.ffi).Nodup
  owned : ∀ manager ∈ run.managers, start.store.objects manager.ffi = none ∧
    ∃ keyring, run.rnpState.store.objects manager.ffi = some (.ffi keyring)
  others : ∀ handle, handle ∉ run.managers.map PgpKeyManager.ffi →
    run.rnpState.store.objects handle = start.store.objects handle

/-- If the event is a construction that gets a context, then its key generation succeeds. -/
def KeyGenerated (run : ManagerRun ρ) : ManagerEvent → Prop
  | .construct userId => ¬PgpKeyManager.LosesContext rnp userId run.rnpState
  | _ => True

def contexts (ffis : List Handle) : List (Handle × RnpShape) := ffis.map fun ffi => (ffi, .ffi)

/-- The contexts of the managers alive, and those that no manager has. -/
def Accounts (start : RnpState ρ) (run : ManagerRun ρ) (lost : List Handle) : Prop :=
  start.Holds run.rnpState (contexts (run.managers.map PgpKeyManager.ffi ++ lost))

variable {start : RnpState ρ} {run : ManagerRun ρ} {lost : List Handle}

theorem contexts_fst (ffis : List Handle) : (contexts ffis).map Prod.fst = ffis := by
  simp [contexts, Function.comp_def]

theorem contexts_perm {ffis ffis' : List Handle} (same : ffis.Perm ffis') :
    (contexts ffis).Perm (contexts ffis') := same.map _

namespace Accounts

theorem initial (start : RnpState ρ) : Accounts start ⟨[], start⟩ [] := RnpState.Holds.refl start

theorem fresh (accounts : Accounts start run lost) {ffi : Handle}
    (member : ffi ∈ run.managers.map PgpKeyManager.ffi ++ lost) : start.store.objects ffi = none :=
  start.store.fresh ffi (accounts.holding.later _ (List.mem_map_of_mem member))

theorem alive (accounts : Accounts start run lost) {ffi : Handle}
    (member : ffi ∈ run.managers.map PgpKeyManager.ffi ++ lost) :
    ∃ keyring, run.rnpState.store.objects ffi = some (.ffi keyring) := by
  obtain ⟨object, found, shape⟩ := RnpState.Holds.object accounts (List.mem_map_of_mem member)
  cases object with
  | ffi keyring => exact ⟨keyring, found⟩
  | _ => cases shape

theorem onePerManager_iff (accounts : Accounts start run lost) :
    OnePerManager start run ↔ lost = [] := by
  have distinct := accounts.holding.distinct
  rw [contexts_fst] at distinct
  constructor
  · intro one
    rw [List.eq_nil_iff_forall_not_mem]
    intro ffi member
    obtain ⟨keyring, found⟩ := accounts.alive (List.mem_append_right _ member)
    have unowned : ffi ∉ run.managers.map PgpKeyManager.ffi := fun owned =>
      (List.nodup_append.mp distinct).2.2 ffi owned ffi member rfl
    rw [one.others ffi unowned, accounts.fresh (List.mem_append_right _ member)] at found
    cases found
  · rintro rfl
    rw [List.append_nil] at distinct
    refine ⟨distinct, ?_, ?_⟩
    · intro manager member
      have owned : manager.ffi ∈ run.managers.map PgpKeyManager.ffi ++ [] := by
        simpa using ⟨manager, member, rfl⟩
      exact ⟨accounts.fresh owned, accounts.alive owned⟩
    · intro handle unowned
      refine accounts.holding.others handle ?_
      rwa [contexts_fst, List.append_nil]

end Accounts

theorem construct_accounts (userId : QByteArray) (accounts : Accounts start run lost) :
    ∃ more, Accounts start (run.construct rnp userId) (more ++ lost) ∧
      (more = [] ↔ ¬PgpKeyManager.LosesContext rnp userId run.rnpState) := by
  have tried := PgpKeyManager.new_attempts rnp userId accounts
  simp only [Attempts, Ends] at tried
  unfold construct
  obtain ⟨outcome, after, ran⟩ : ∃ outcome after,
      (PgpKeyManager.new rnp userId).run.run run.rnpState = (outcome, after) := ⟨_, _, rfl⟩
  rw [ran] at tried ⊢
  cases outcome with
  | ok manager => exact ⟨[], tried.2, by simp [tried.1]⟩
  | error message =>
      rcases tried with ⟨kept, same⟩ | ⟨loses, ffi, more⟩
      · exact ⟨[], same, by simp [kept]⟩
      · have moved : (ffi :: (run.managers.map PgpKeyManager.ffi ++ lost)).Perm
            (run.managers.map PgpKeyManager.ffi ++ ffi :: lost) := List.perm_middle.symm
        have accounted : Accounts start { run with rnpState := after } (ffi :: lost) :=
          RnpState.Holds.perm more (contexts_perm moved)
        exact ⟨[ffi], accounted, by simp [loses]⟩

theorem call_accounts {method : PgpKeyManager → ExceptT QString (RnpM ρ) QByteArray}
    (keeps : ∀ manager held, start.Holds run.rnpState held → (manager.ffi, .ffi) ∈ held →
      Attempts (method manager) run.rnpState
        (fun _ after => start.Holds after held) (fun _ after => start.Holds after held))
    (position : Nat) (accounts : Accounts start run lost) :
    Accounts start (run.call method position) lost := by
  unfold call
  cases found : run.managers[position]? with
  | none => exact accounts
  | some manager =>
      have owned : manager.ffi ∈ run.managers.map PgpKeyManager.ffi :=
        List.mem_map_of_mem (List.mem_of_getElem? found)
      have tried := keeps manager _ accounts (List.mem_map_of_mem (List.mem_append_left _ owned))
      simp only [Attempts, Ends] at tried
      split at tried
      · exact tried
      · exact tried

theorem destroy_accounts (position : Nat) (accounts : Accounts start run lost) :
    Accounts start (run.destroy rnp position) lost := by
  unfold destroy
  cases found : run.managers[position]? with
  | none => exact accounts
  | some manager =>
      obtain ⟨bound, rfl⟩ := List.getElem?_eq_some_iff.mp found
      have first := (List.getElem_cons_eraseIdx_perm bound).symm.map PgpKeyManager.ffi
      have moved := RnpState.Holds.perm accounts (contexts_perm (first.append_right lost))
      exact PgpKeyManager.delete_ends rnp moved

theorem step_accounts (event : ManagerEvent) (accounts : Accounts start run lost) :
    ∃ more, Accounts start (run.step rnp event) (more ++ lost) ∧
      (more = [] ↔ KeyGenerated rnp run event) := by
  have unchanged : ([] : List Handle) = [] ↔ True := by simp
  cases event with
  | construct userId => exact construct_accounts rnp userId accounts
  | exportPublicKeyArmored position =>
      refine ⟨[], call_accounts (fun manager held holds member => ?_) position accounts, unchanged⟩
      exact PgpKeyManager.exportArmored_attempts rnp _ _ holds member
  | exportSecretKeyArmored position =>
      refine ⟨[], call_accounts (fun manager held holds member => ?_) position accounts, unchanged⟩
      exact PgpKeyManager.exportArmored_attempts rnp _ _ holds member
  | signData position data =>
      refine ⟨[], call_accounts (fun manager held holds member => ?_) position accounts, unchanged⟩
      exact PgpKeyManager.signData_attempts rnp data holds member
  | destroy position => exact ⟨[], destroy_accounts rnp position accounts, unchanged⟩

def Accounted (start : RnpState ρ) (run : ManagerRun ρ) : Prop := ∃ lost, Accounts start run lost

theorem initial_accounted (start : RnpState ρ) : Accounted start ⟨[], start⟩ :=
  ⟨[], Accounts.initial start⟩

theorem step_accounted (run : ManagerRun ρ) (event : ManagerEvent) (accounted : Accounted start run) :
    Accounted start (run.step rnp event) := by
  obtain ⟨lost, accounts⟩ := accounted
  obtain ⟨more, next, _⟩ := step_accounts rnp event accounts
  exact ⟨more ++ lost, next⟩

/-- Whatever fails, no run uses a handle it has released or releases one twice. -/
theorem run_unfaulted (start : RnpState ρ) (events : List ManagerEvent) :
    (Runs.run (step rnp) ⟨[], start⟩ events).rnpState.faulted = start.faulted := by
  obtain ⟨lost, accounts⟩ := Runs.run_invariant (step_accounted rnp) (initial_accounted start) events
  exact accounts.unfaulted

end ManagerRun

theorem contexts_owned (start : RnpState ρ) (events : List ManagerEvent) :
    Runs.EveryState (ManagerRun.step rnp) (ManagerRun.OnePerManager start) ⟨[], start⟩ events ↔
      Runs.EveryStep (ManagerRun.step rnp) (ManagerRun.KeyGenerated rnp) ⟨[], start⟩ events := by
  refine Runs.everyState_iff_everyStep (ManagerRun.step_accounted rnp) ?_
    (ManagerRun.initial_accounted start) ?_ events
  · rintro run event ⟨lost, accounts⟩ one
    obtain rfl := accounts.onePerManager_iff.mp one
    obtain ⟨more, next, lossless⟩ := ManagerRun.step_accounts rnp event accounts
    rw [next.onePerManager_iff, List.append_nil, lossless]
  · exact (ManagerRun.Accounts.initial start).onePerManager_iff.mpr rfl

/-- The plain RNP, except that it reads the JSON it is given: quotation marks come in pairs. -/
def PlainRnp.strict : Rnp Nat where
  reply
    | seed, .generateKeyJson keyring json =>
        if json.count 34 % 2 = 0 then PlainRnp.reply seed (.generateKeyJson keyring json) else none
    | seed, request => PlainRnp.reply seed request

/-- The user id of a login with a quotation mark in the address, which goes into the JSON as it is. -/
theorem context_lost_to_quoted_userId :
    ¬Runs.EveryState (ManagerRun.step PlainRnp.strict)
      (ManagerRun.OnePerManager (PlainRnp.initialState 0)) ⟨[], PlainRnp.initialState 0⟩
      [.construct (toUtf8 (text "a\"@b.ch_838ef5f5e1532759"))] := by
  rintro ⟨_, one⟩
  have unowned : (ManagerRun.step PlainRnp.strict ⟨[], PlainRnp.initialState 0⟩
      (.construct (toUtf8 (text "a\"@b.ch_838ef5f5e1532759")))).managers.map PgpKeyManager.ffi = [] := by
    decide +kernel
  have same := one.others 0 (by simp [unowned])
  exact absurd same (by decide +kernel)

section

variable {start state : RnpState ρ} {held : List (Handle × RnpShape)} {α : Type}

theorem withKeyManager_attempts (userId : QByteArray)
    (scope : PgpKeyManager → ExceptT QString (RnpM ρ) α) (holds : start.Holds state held)
    (keeps : ∀ manager after, start.Holds after ((manager.ffi, .ffi) :: held) →
      Attempts (scope manager) after (fun _ later => start.Holds later ((manager.ffi, .ffi) :: held))
        (fun _ later => start.Holds later ((manager.ffi, .ffi) :: held))) :
    Attempts (withKeyManager rnp userId scope) state
      (fun _ after => PgpKeyManager.LeavesHeld rnp userId start state held after)
      (fun _ after => PgpKeyManager.LeavesHeld rnp userId start state held after) := by
  unfold withKeyManager
  refine attempts_bind (Attempts.mono (PgpKeyManager.new_attempts rnp userId holds) ?_ ?_)
  · rintro manager after ⟨kept, holds⟩
    refine attempts_call (Ends.mono (keeps manager after holds) fun outcome later used => ?_)
    have holds : start.Holds later ((manager.ffi, .ffi) :: held) := by
      cases outcome with
      | ok value => exact used
      | error message => exact used
    refine attempts_call (Ends.mono (PgpKeyManager.delete_ends rnp holds) fun _ last closed => ?_)
    cases outcome with
    | ok value => exact Or.inl ⟨kept, closed⟩
    | error message => exact Or.inl ⟨kept, closed⟩
  · exact fun message after left => left

theorem CompanyInfo.generateKeys_ends (lib : QtLibrary) (holds : start.Holds state held) :
    Ends (CompanyInfo.generateKeys rnp lib) state fun _ after =>
      PgpKeyManager.LeavesHeld rnp (toUtf8 (deterministicId lib companyEmail companySeed)) start state
        held after := by
  have scope := withKeyManager_attempts rnp (toUtf8 (deterministicId lib companyEmail companySeed))
    (PgpKeyManager.exportKeys rnp lib) holds
    fun manager after holds => PgpKeyManager.exportKeys_attempts rnp lib holds (.head _)
  refine ends_bind (Ends.mono scope fun outcome after left => ?_)
  cases outcome with
  | ok keys => exact left
  | error message => exact left

/-- A login whose input is refused leaves RNP alone; the slot runs while the manager is alive. -/
theorem LoginPage.handleLogin_ends (lib : QtLibrary) (page : LoginPage)
    {loginSuccessful : AccountInfo → RnpM ρ α} (holds : start.Holds state held)
    (slot : ∀ account after held, start.Holds after held →
      Ends (loginSuccessful account) after fun _ later => start.Holds later held) :
    Ends (handleLogin rnp lib page loginSuccessful) state fun _ after =>
      if inputError (trimmed page.email) page.password = none then
        PgpKeyManager.LeavesHeld rnp (toUtf8 (deterministicId lib (trimmed page.email) page.password))
          start state held after
      else start.Holds after held := by
  cases checked : inputError (trimmed page.email) page.password with
  | some message =>
      simp only [handleLogin, checked]
      exact holds
  | none =>
  simp only [handleLogin, checked, ↓reduceIte]
  refine ends_bind (Ends.mono (withKeyManager_attempts rnp _ _ holds ?_) ?_)
  · intro manager after holds
    refine attempts_bind (Attempts.mono
      (PgpKeyManager.exportKeys_attempts rnp lib holds (.head _)) ?_ fun _ _ kept => kept)
    intro keys later kept
    exact attempts_lift (slot _ later _ kept)
  · intro outcome after left
    cases outcome with
    | ok handled => exact left
    | error message => exact left

end

end SbbTicketing
