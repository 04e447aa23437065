import Mathlib.Data.List.Basic

/-! A store of objects behind opaque handles. Every handle is new when it is handed out,
so a released handle never comes back to life, and the store remembers in which order
handles were acquired and released. -/

inductive HandleEvent
  | acquired (handle : Nat)
  | released (handle : Nat)
  deriving DecidableEq, Repr

structure HandleStore (α : Type) where
  objects : Nat → Option α
  next : Nat
  history : List HandleEvent
  fresh : ∀ handle, next ≤ handle → objects handle = none

namespace HandleStore

variable {α : Type}

def empty : HandleStore α where
  objects := fun _ => none
  next := 0
  history := []
  fresh := fun _ _ => rfl

def acquire (store : HandleStore α) (object : α) : HandleStore α where
  objects := fun handle => if handle = store.next then some object else store.objects handle
  next := store.next + 1
  history := .acquired store.next :: store.history
  fresh := by
    intro handle bound
    rw [if_neg (by omega)]
    exact store.fresh handle (by omega)

/-- Replaces the object behind a live handle and leaves a dead one dead. -/
def update (store : HandleStore α) (handle : Nat) (object : α) : HandleStore α where
  objects := fun other =>
    if other = handle then (store.objects handle).map fun _ => object else store.objects other
  next := store.next
  history := store.history
  fresh := by
    intro other bound
    split
    · rename_i same
      subst same
      simp [store.fresh other bound]
    · exact store.fresh other bound

def release (store : HandleStore α) (handle : Nat) : HandleStore α where
  objects := fun other => if other = handle then none else store.objects other
  next := store.next
  history := .released handle :: store.history
  fresh := by
    intro other bound
    split
    · rfl
    · exact store.fresh other bound

@[simp] theorem acquire_objects (store : HandleStore α) (object : α) (handle : Nat) :
    (store.acquire object).objects handle =
      if handle = store.next then some object else store.objects handle := rfl

@[simp] theorem acquire_next (store : HandleStore α) (object : α) :
    (store.acquire object).next = store.next + 1 := rfl

@[simp] theorem update_objects (store : HandleStore α) (handle other : Nat) (object : α) :
    (store.update handle object).objects other =
      if other = handle then (store.objects handle).map fun _ => object
      else store.objects other := rfl

@[simp] theorem update_next (store : HandleStore α) (handle : Nat) (object : α) :
    (store.update handle object).next = store.next := rfl

@[simp] theorem release_objects (store : HandleStore α) (handle other : Nat) :
    (store.release handle).objects other =
      if other = handle then none else store.objects other := rfl

@[simp] theorem release_next (store : HandleStore α) (handle : Nat) :
    (store.release handle).next = store.next := rfl

@[simp] theorem objects_next (store : HandleStore α) : store.objects store.next = none :=
  store.fresh store.next (Nat.le_refl _)

theorem lt_next_of_live {store : HandleStore α} {handle : Nat} {object : α}
    (live : store.objects handle = some object) : handle < store.next := by
  by_contra above
  rw [store.fresh handle (by omega)] at live
  cases live

end HandleStore
