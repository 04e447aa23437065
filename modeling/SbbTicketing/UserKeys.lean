import SbbTicketing.KeyConversations
import SbbTicketing.KeyManagerLifetimes
import SbbTicketing.Simulations

/-! Key managers as their users see them, each a user id and its key. Whatever the order in which
several managers are used, each of them does what its key alone would do. -/

namespace SbbTicketing

open Qt Outcomes

variable {ρ : Type} (rnp : Rnp ρ)

/-- The keys of the managers alive, from the newest, and the calls made so far. -/
structure KeyFleet where
  keys : List UserKey
  calls : Nat

namespace KeyFleet

def construct (draws : Nat → ρ) (userId : QByteArray) (fleet : KeyFleet) : KeyFleet :=
  match (UserKey.generate rnp draws userId).run.run fleet.calls with
  | (.ok key, calls) => { keys := key :: fleet.keys, calls }
  | (.error _, calls) => { fleet with calls }

def call (method : UserKey → Conversation QByteArray) (position : Nat) (fleet : KeyFleet) : KeyFleet :=
  match fleet.keys[position]? with
  | none => fleet
  | some key => { fleet with calls := ((method key).run.run fleet.calls).2 }

def step (draws : Nat → ρ) (fleet : KeyFleet) : ManagerEvent → KeyFleet
  | .construct userId => fleet.construct rnp draws userId
  | .exportPublicKeyArmored position =>
      fleet.call (UserKey.exportArmored rnp draws PgpKeyManager.publicExportErrors .publicKeys) position
  | .exportSecretKeyArmored position =>
      fleet.call (UserKey.exportArmored rnp draws PgpKeyManager.secretExportErrors .secretKeys) position
  | .signData position data => fleet.call (UserKey.signData rnp draws data) position
  | .destroy position => { fleet with keys := fleet.keys.eraseIdx position }

def answer (method : UserKey → Conversation QByteArray) (position : Nat) (fleet : KeyFleet) :
    List (Except QString QByteArray) :=
  (fleet.keys[position]?.map fun key => ((method key).run.run fleet.calls).1).toList

/-- What the user of the managers gets back from an event. -/
def returned (draws : Nat → ρ) (fleet : KeyFleet) : ManagerEvent → List (Except QString QByteArray)
  | .construct userId => [((UserKey.generate rnp draws userId).run.run fleet.calls).1.map UserKey.userId]
  | .exportPublicKeyArmored position =>
      fleet.answer (UserKey.exportArmored rnp draws PgpKeyManager.publicExportErrors .publicKeys) position
  | .exportSecretKeyArmored position =>
      fleet.answer (UserKey.exportArmored rnp draws PgpKeyManager.secretExportErrors .secretKeys) position
  | .signData position data => fleet.answer (UserKey.signData rnp draws data) position
  | .destroy _ => []

end KeyFleet

namespace ManagerRun

def answer (method : PgpKeyManager → ExceptT QString (RnpM ρ) QByteArray) (position : Nat)
    (run : ManagerRun ρ) : List (Except QString QByteArray) :=
  (run.managers[position]?.map fun manager => ((method manager).run.run run.rnpState).1).toList

def returned (run : ManagerRun ρ) : ManagerEvent → List (Except QString QByteArray)
  | .construct userId => [((PgpKeyManager.new rnp userId).run.run run.rnpState).1.map PgpKeyManager.userId]
  | .exportPublicKeyArmored position => run.answer (PgpKeyManager.exportPublicKeyArmored rnp) position
  | .exportSecretKeyArmored position => run.answer (PgpKeyManager.exportSecretKeyArmored rnp) position
  | .signData position data => run.answer (PgpKeyManager.signData rnp · data) position
  | .destroy _ => []

structure Represents (draws : Nat → ρ) (run : ManagerRun ρ) (fleet : KeyFleet) : Prop where
  draws : run.rnpState.draws = draws
  calls : run.rnpState.calls = fleet.calls
  keys : run.managers.map (·.key? run.rnpState) = fleet.keys.map some
  distinct : (run.managers.map PgpKeyManager.ffi).Nodup

variable {draws : Nat → ρ} {run : ManagerRun ρ} {fleet : KeyFleet}

namespace Represents

theorem key (represents : run.Represents draws fleet) {manager : PgpKeyManager}
    (member : manager ∈ run.managers) : ∃ key, manager.key? run.rnpState = some key := by
  have found : manager.key? run.rnpState ∈ fleet.keys.map some :=
    represents.keys ▸ List.mem_map_of_mem member
  obtain ⟨key, _, same⟩ := List.mem_map.mp found
  exact ⟨key, same.symm⟩

theorem keys_preserved (represents : run.Represents draws fleet) {after : RnpState ρ}
    (preserves : run.rnpState.Preserves after) :
    run.managers.map (·.key? after) = fleet.keys.map some := by
  rw [← represents.keys]
  refine List.map_congr_left fun manager member => ?_
  obtain ⟨key, has⟩ := represents.key member
  rw [has, preserves.key? has]

theorem getElem? (represents : run.Represents draws fleet) (position : Nat) :
    run.managers[position]?.map (·.key? run.rnpState) = fleet.keys[position]?.map some := by
  rw [← List.getElem?_map, represents.keys, List.getElem?_map]

end Represents

theorem represents_call {method : PgpKeyManager → ExceptT QString (RnpM ρ) QByteArray}
    {conversation : UserKey → Conversation QByteArray} (represents : run.Represents draws fleet)
    (follows : ∀ manager key, manager.key? run.rnpState = some key →
      Follows (method manager) run.rnpState (conversation key))
    (position : Nat) :
    (run.call method position).Represents draws (fleet.call conversation position) ∧
      run.answer method position = fleet.answer conversation position := by
  have same := represents.getElem? position
  unfold call KeyFleet.call answer KeyFleet.answer
  cases found : run.managers[position]? with
  | none =>
      rw [found, Option.map_none, eq_comm, Option.map_eq_none_iff] at same
      rw [same]
      exact ⟨represents, rfl⟩
  | some manager =>
      obtain ⟨key, has⟩ := represents.key (List.mem_of_getElem? found)
      rw [found, Option.map_some, has] at same
      have listed : fleet.keys[position]? = some key := by simpa using same.symm
      have ran := follows manager key has
      simp only [Follows, FollowsFrom, Ends, represents.calls] at ran
      simp only [listed, Option.map_some, ran.1]
      exact ⟨⟨ran.2.draws.trans represents.draws, rfl, represents.keys_preserved ran.2,
        represents.distinct⟩, trivial⟩

theorem represents_construct (represents : run.Represents draws fleet) (userId : QByteArray) :
    (run.construct rnp userId).Represents draws (fleet.construct rnp draws userId) ∧
      ((PgpKeyManager.new rnp userId).run.run run.rnpState).1.map PgpKeyManager.userId =
        ((UserKey.generate rnp draws userId).run.run fleet.calls).1.map UserKey.userId := by
  have made : Attempts (PgpKeyManager.new rnp userId) run.rnpState _ _ :=
    PgpKeyManager.new_follows rnp userId
  simp only [Attempts, Ends, represents.draws, represents.calls] at made
  unfold construct KeyFleet.construct
  obtain ⟨outcome, after, ran⟩ : ∃ outcome after,
      (PgpKeyManager.new rnp userId).run.run run.rnpState = (outcome, after) := ⟨_, _, rfl⟩
  rw [ran] at made ⊢
  cases outcome with
  | error message =>
      obtain ⟨failed, preserves⟩ := made
      rw [failed]
      exact ⟨⟨preserves.draws.trans represents.draws, rfl, represents.keys_preserved preserves,
        represents.distinct⟩, rfl⟩
  | ok manager =>
      obtain ⟨key, generated, preserves, new, has⟩ := made
      have older : manager.ffi ∉ run.managers.map PgpKeyManager.ffi := by
        intro member
        obtain ⟨other, listed, same⟩ := List.mem_map.mp member
        obtain ⟨otherKey, owned⟩ := represents.key listed
        have below := HandleStore.lt_next_of_live (PgpKeyManager.key?_eq_some owned).2
        exact Nat.ne_of_lt below (same.trans new)
      rw [generated]
      refine ⟨⟨preserves.draws.trans represents.draws, rfl, ?_, ?_⟩, ?_⟩
      · rw [List.map_cons, List.map_cons, has, represents.keys_preserved preserves]
      · exact List.nodup_cons.mpr ⟨older, represents.distinct⟩
      · exact congrArg Except.ok (PgpKeyManager.key?_eq_some has).1

theorem represents_destroy (represents : run.Represents draws fleet) (position : Nat) :
    (run.destroy rnp position).Represents draws { fleet with keys := fleet.keys.eraseIdx position } := by
  unfold destroy
  cases found : run.managers[position]? with
  | none =>
      have same := represents.getElem? position
      rw [found, Option.map_none, eq_comm, Option.map_eq_none_iff, List.getElem?_eq_none_iff] at same
      rw [List.eraseIdx_of_length_le same]
      exact represents
  | some manager =>
      obtain ⟨bound, rfl⟩ := List.getElem?_eq_some_iff.mp found
      obtain ⟨key, has⟩ := represents.key (List.getElem_mem bound)
      have closed : ((run.managers[position].delete rnp).run run.rnpState).2 =
          run.rnpState.released run.managers[position].ffi := by
        refine if_pos ?_
        rw [(PgpKeyManager.key?_eq_some has).2]
        rfl
      have distinct := ((List.getElem_cons_eraseIdx_perm bound).map PgpKeyManager.ffi).nodup_iff.mpr
        represents.distinct
      rw [List.map_cons, List.nodup_cons] at distinct
      have others : (fleet.keys.eraseIdx position).map some =
          (run.managers.eraseIdx position).map (·.key? run.rnpState) := by
        rw [← List.eraseIdx_map, ← represents.keys, List.eraseIdx_map]
      simp only [closed]
      refine ⟨represents.draws, represents.calls, Eq.trans ?_ others.symm, distinct.2⟩
      refine List.map_congr_left fun other member => ?_
      have unlike : other.ffi ≠ run.managers[position].ffi := by
        intro same
        exact distinct.1 (same ▸ List.mem_map_of_mem member)
      simp [PgpKeyManager.key?, unlike]

theorem represents_step (represents : run.Represents draws fleet) (event : ManagerEvent) :
    (run.step rnp event).Represents draws (fleet.step rnp draws event) ∧
      run.returned rnp event = fleet.returned rnp draws event := by
  obtain rfl := represents.draws
  cases event with
  | construct userId =>
      have made := represents_construct rnp represents userId
      exact ⟨made.1, congrArg (fun outcome => [outcome]) made.2⟩
  | exportPublicKeyArmored position =>
      refine represents_call represents (fun manager key has => ?_) position
      exact PgpKeyManager.exportArmored_follows rnp _ _ has
  | exportSecretKeyArmored position =>
      refine represents_call represents (fun manager key has => ?_) position
      exact PgpKeyManager.exportArmored_follows rnp _ _ has
  | signData position data =>
      refine represents_call represents (fun manager key has => ?_) position
      exact PgpKeyManager.signData_follows rnp data has
  | destroy position => exact ⟨represents_destroy rnp represents position, rfl⟩

end ManagerRun

/-- In any run that creates, uses and destroys managers in any order, each manager alive has the one
key that was generated for it, and everything that is returned or thrown is what the keys alone
return or throw. -/
theorem managers_refine_keys (start : RnpState ρ) (events : List ManagerEvent) :
    let run := Runs.run (ManagerRun.step rnp) ⟨[], start⟩ events
    let fleet := Runs.run (KeyFleet.step rnp start.draws) ⟨[], start.calls⟩ events
    run.managers.map (·.key? run.rnpState) = fleet.keys.map some ∧
      Simulations.emitted (ManagerRun.step rnp) (ManagerRun.returned rnp) ⟨[], start⟩ events =
        Simulations.emitted (KeyFleet.step rnp start.draws) (KeyFleet.returned rnp start.draws)
          ⟨[], start.calls⟩ events := by
  intro run fleet
  have initial : ManagerRun.Represents start.draws ⟨[], start⟩ ⟨[], start.calls⟩ :=
    ⟨rfl, rfl, rfl, List.nodup_nil⟩
  have simulates (before : ManagerRun ρ) (keys : KeyFleet) (event : ManagerEvent)
      (represents : before.Represents start.draws keys) :=
    ManagerRun.represents_step rnp represents event
  have side := Simulations.emitted_related simulates initial events
  exact ⟨side.1.keys, side.2⟩

end SbbTicketing
