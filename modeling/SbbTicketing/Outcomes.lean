import Mathlib.Logic.Basic

/-! What a stateful action comes to: conditions on its result and on the state it ends in, and
the rules that carry them through sequences of actions, with and without exceptions. -/

namespace Outcomes

variable {σ ε α β : Type}

def Ends (action : StateM σ α) (start : σ) (post : α → σ → Prop) : Prop :=
  post (action.run start).1 (action.run start).2

/-- The action returns with one condition or throws with the other. -/
def Attempts (action : ExceptT ε (StateM σ) α) (start : σ) (returns : α → σ → Prop)
    (throws : ε → σ → Prop) : Prop :=
  Ends action.run start fun outcome after =>
    match outcome with
    | .ok value => returns value after
    | .error error => throws error after

variable {start : σ} {post : α → σ → Prop} {returns : α → σ → Prop} {throws : ε → σ → Prop}

theorem ends_of_forall {action : StateM σ α} (met : ∀ value after, post value after) :
    Ends action start post := met _ _

theorem ends_bind {action : StateM σ β} {next : β → StateM σ α}
    (ends : Ends action start fun value middle => Ends (next value) middle post) :
    Ends (action >>= next) start post := ends

theorem ends_get {next : σ → StateM σ α} (ends : Ends (next start) start post) :
    Ends (get >>= next) start post := ends

theorem Ends.mono {action : StateM σ α} {weaker : α → σ → Prop} (ends : Ends action start post)
    (implies : ∀ value after, post value after → weaker value after) : Ends action start weaker :=
  implies _ _ ends

theorem attempts_pure {value : α} (met : returns value start) :
    Attempts (pure value : ExceptT ε (StateM σ) α) start returns throws := met

theorem attempts_lift {action : StateM σ α} (ends : Ends action start returns) :
    Attempts (liftM action : ExceptT ε (StateM σ) α) start returns throws := ends

/-- A call that cannot throw, and what follows it. -/
theorem attempts_call {action : StateM σ β} {next : β → ExceptT ε (StateM σ) α}
    (ends : Ends action start fun value middle => Attempts (next value) middle returns throws) :
    Attempts (liftM action >>= next) start returns throws := ends

theorem attempts_bind {action : ExceptT ε (StateM σ) β} {next : β → ExceptT ε (StateM σ) α}
    (attempts : Attempts action start (fun value middle => Attempts (next value) middle returns throws)
      throws) :
    Attempts (action >>= next) start returns throws := by
  rw [Attempts, ExceptT.run_bind]
  refine ends_bind (Ends.mono attempts fun outcome middle met => ?_)
  cases outcome with
  | ok value => exact met
  | error error => exact met

theorem Attempts.mono {action : ExceptT ε (StateM σ) α} {returns' : α → σ → Prop}
    {throws' : ε → σ → Prop} (attempts : Attempts action start returns throws)
    (ifReturns : ∀ value after, returns value after → returns' value after)
    (ifThrows : ∀ error after, throws error after → throws' error after) :
    Attempts action start returns' throws' := by
  refine Ends.mono attempts fun outcome after met => ?_
  cases outcome with
  | ok value => exact ifReturns value after met
  | error error => exact ifThrows error after met

theorem run_bind (action : ExceptT ε (StateM σ) β) (next : β → ExceptT ε (StateM σ) α) (start : σ) :
    (action >>= next).run.run start =
      match action.run.run start with
      | (.ok value, middle) => (next value).run.run middle
      | (.error error, middle) => (.error error, middle) := by
  rw [ExceptT.run_bind, StateT.run_bind]
  rcases action.run.run start with ⟨outcome, middle⟩
  cases outcome with
  | ok value => rfl
  | error error => rfl

end Outcomes
