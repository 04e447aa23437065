import SbbTicketing.HandleStore
import Mathlib.Data.List.Nodup

/-! The handles a stretch of a program has acquired and still holds: each is new, of a known
shape and recorded once, and every other handle is as it was when the stretch began. -/

namespace HandleStore

/-- What a stretch of history comes to: no handle is acquired twice, and the handles acquired
and not released are the ones held. -/
structure Ledger (events : List HandleEvent) (held : List Nat) : Prop where
  balanced : ∀ handle, events.count (.acquired handle) =
    events.count (.released handle) + held.count handle
  once : ∀ handle, events.count (.acquired handle) ≤ 1

namespace Ledger

variable {events : List HandleEvent} {held : List Nat} {handle : Nat}

theorem nil : Ledger [] [] where
  balanced := fun _ => rfl
  once := fun _ => Nat.zero_le 1

theorem acquired (ledger : Ledger events held) (new : .acquired handle ∉ events) :
    Ledger (.acquired handle :: events) (handle :: held) where
  balanced := by
    intro other
    have before := ledger.balanced other
    by_cases same : handle = other
    · simp [same, before]
      omega
    · simp [same, before]
  once := by
    intro other
    by_cases same : handle = other
    · subst same
      simp [List.count_eq_zero_of_not_mem new]
    · simpa [same] using ledger.once other

theorem released (ledger : Ledger events (handle :: held)) :
    Ledger (.released handle :: events) held where
  balanced := by
    intro other
    have before := ledger.balanced other
    by_cases same : handle = other
    · simp [same] at before ⊢
      omega
    · simpa [same] using before
  once := by
    intro other
    simpa using ledger.once other

theorem perm {held' : List Nat} (ledger : Ledger events held) (same : held.Perm held') :
    Ledger events held' where
  balanced := by
    intro handle
    rw [← same.count_eq]
    exact ledger.balanced handle
  once := ledger.once

theorem distinct (ledger : Ledger events held) : held.Nodup := by
  rw [List.nodup_iff_count]
  intro handle
  have balanced := ledger.balanced handle
  have once := ledger.once handle
  omega

end Ledger

variable {α κ : Type}

structure Holding (shape : α → κ) (start now : HandleStore α) (held : List (Nat × κ)) : Prop where
  shapes : ∀ entry ∈ held, (now.objects entry.1).map shape = some entry.2
  later : ∀ entry ∈ held, start.next ≤ entry.1
  others : ∀ handle, handle ∉ held.map Prod.fst → now.objects handle = start.objects handle
  bound : start.next ≤ now.next
  recorded : ∃ events, now.history = events ++ start.history ∧ Ledger events (held.map Prod.fst) ∧
    ∀ handle, .acquired handle ∈ events → handle < now.next

namespace Holding

variable {shape : α → κ} {start now : HandleStore α} {held : List (Nat × κ)} {handle : Nat}
  {object : α} {kind : κ}

theorem refl (start : HandleStore α) : Holding shape start start [] where
  shapes := by simp
  later := by simp
  others := fun _ _ => rfl
  bound := Nat.le_refl _
  recorded := ⟨[], rfl, Ledger.nil, by simp⟩

theorem distinct (holding : Holding shape start now held) : (held.map Prod.fst).Nodup := by
  obtain ⟨events, _, ledger, _⟩ := holding.recorded
  exact ledger.distinct

theorem perm {held' : List (Nat × κ)} (holding : Holding shape start now held)
    (same : held.Perm held') : Holding shape start now held' where
  shapes := fun entry member => holding.shapes entry (same.mem_iff.mpr member)
  later := fun entry member => holding.later entry (same.mem_iff.mpr member)
  others := by
    intro handle other
    refine holding.others handle fun member => other ?_
    exact (same.map Prod.fst).mem_iff.mp member
  bound := holding.bound
  recorded := by
    obtain ⟨events, history, ledger, earlier⟩ := holding.recorded
    exact ⟨events, history, ledger.perm (same.map Prod.fst), earlier⟩

theorem acquire (holding : Holding shape start now held) (object : α) :
    Holding shape start (now.acquire object) ((now.next, shape object) :: held) where
  shapes := by
    intro entry member
    rcases List.mem_cons.mp member with rfl | member
    · simp
    · have live := holding.shapes entry member
      have other : entry.1 ≠ now.next := by
        intro same
        simp [same] at live
      simpa [other] using live
  later := by
    intro entry member
    rcases List.mem_cons.mp member with rfl | member
    · exact holding.bound
    · exact holding.later entry member
  others := by
    intro handle other
    simp only [List.map_cons, List.mem_cons, not_or] at other
    rw [acquire_objects, if_neg other.1]
    exact holding.others handle other.2
  bound := Nat.le_succ_of_le holding.bound
  recorded := by
    obtain ⟨events, history, ledger, earlier⟩ := holding.recorded
    refine ⟨.acquired now.next :: events, by simp [HandleStore.acquire, history], ?_, ?_⟩
    · refine ledger.acquired fun member => ?_
      exact absurd (earlier now.next member) (Nat.lt_irrefl _)
    · intro handle member
      rcases List.mem_cons.mp member with same | member
      · cases same
        exact Nat.lt_succ_self _
      · exact Nat.lt_succ_of_lt (earlier handle member)

theorem update (holding : Holding shape start now held) (member : (handle, kind) ∈ held)
    (same : shape object = kind) : Holding shape start (now.update handle object) held where
  shapes := by
    intro entry inHeld
    have live := holding.shapes entry inHeld
    by_cases here : entry.1 = handle
    · have target := holding.shapes _ member
      rw [here] at live
      rw [live] at target
      rw [update_objects, if_pos here, Option.map_map]
      cases found : now.objects handle with
      | none => simp [found] at live
      | some old => simpa [same] using target.symm
    · rwa [update_objects, if_neg here]
  later := holding.later
  others := by
    intro other outside
    have here : other ≠ handle := by
      rintro rfl
      exact outside (List.mem_map_of_mem member)
    rw [update_objects, if_neg here]
    exact holding.others other outside
  bound := holding.bound
  recorded := holding.recorded

theorem release (holding : Holding shape start now ((handle, kind) :: held)) :
    Holding shape start (now.release handle) held where
  shapes := by
    intro entry member
    have different : entry.1 ≠ handle := by
      rintro rfl
      have distinct := holding.distinct
      simp only [List.map_cons, List.nodup_cons] at distinct
      exact distinct.1 (List.mem_map_of_mem member)
    rw [release_objects, if_neg different]
    exact holding.shapes entry (List.mem_cons_of_mem _ member)
  later := fun entry member => holding.later entry (List.mem_cons_of_mem _ member)
  others := by
    intro other outside
    by_cases here : other = handle
    · subst here
      rw [release_objects, if_pos rfl]
      exact (start.fresh other (holding.later _ List.mem_cons_self)).symm
    · rw [release_objects, if_neg here]
      exact holding.others other (by simp [here, outside])
  bound := holding.bound
  recorded := by
    obtain ⟨events, history, ledger, earlier⟩ := holding.recorded
    refine ⟨.released handle :: events, by simp [HandleStore.release, history], ledger.released, ?_⟩
    intro other member
    exact earlier other (by simpa using member)

theorem replace (holding : Holding shape start now ((handle, kind) :: held)) (object : α) :
    Holding shape start (now.update handle object) ((handle, shape object) :: held) where
  shapes := by
    intro entry member
    rcases List.mem_cons.mp member with rfl | inHeld
    · have live := holding.shapes _ List.mem_cons_self
      obtain ⟨old, found, _⟩ := Option.map_eq_some_iff.mp live
      simp [found]
    · have different : entry.1 ≠ handle := by
        rintro rfl
        have distinct := holding.distinct
        simp only [List.map_cons, List.nodup_cons] at distinct
        exact distinct.1 (List.mem_map_of_mem inHeld)
      rw [update_objects, if_neg different]
      exact holding.shapes entry (List.mem_cons_of_mem _ inHeld)
  later := by
    intro entry member
    rcases List.mem_cons.mp member with rfl | inHeld
    · exact holding.later (handle, kind) List.mem_cons_self
    · exact holding.later entry (List.mem_cons_of_mem _ inHeld)
  others := by
    intro other outside
    have here : other ≠ handle := by
      rintro rfl
      exact outside List.mem_cons_self
    rw [update_objects, if_neg here]
    exact holding.others other outside
  bound := holding.bound
  recorded := holding.recorded

theorem restored (holding : Holding shape start now []) : now.objects = start.objects :=
  funext fun handle => holding.others handle (by simp)

end Holding

end HandleStore
