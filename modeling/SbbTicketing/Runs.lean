import Mathlib.Data.List.Induction

/-! Runs of a deterministic machine over a list of events, and the induction rules
for what holds in every state of a run: outright, when every step meets a guard, and
exactly when every step meets it. -/

namespace Runs

variable {σ ε : Type*}

def run (step : σ → ε → σ) (start : σ) (events : List ε) : σ := events.foldl step start

def EveryStep (step : σ → ε → σ) (guard : σ → ε → Prop) : σ → List ε → Prop
  | _, [] => True
  | state, event :: rest => guard state event ∧ EveryStep step guard (step state event) rest

def EveryState (step : σ → ε → σ) (holds : σ → Prop) : σ → List ε → Prop
  | state, [] => holds state
  | state, event :: rest => holds state ∧ EveryState step holds (step state event) rest

@[simp] theorem run_nil (step : σ → ε → σ) (start : σ) : run step start [] = start := rfl

@[simp] theorem run_cons (step : σ → ε → σ) (start : σ) (event : ε) (rest : List ε) :
    run step start (event :: rest) = run step (step start event) rest := rfl

theorem run_append (step : σ → ε → σ) (start : σ) (first second : List ε) :
    run step start (first ++ second) = run step (run step start first) second :=
  List.foldl_append

/-- The invariant may speak of the events of the run. -/
theorem run_invariant_of_mem {step : σ → ε → σ} {invariant : σ → Prop} {events : List ε}
    (preserved : ∀ state, ∀ event ∈ events, invariant state → invariant (step state event))
    {start : σ} (initial : invariant start) : invariant (run step start events) := by
  induction events generalizing start with
  | nil => exact initial
  | cons event rest ih =>
      apply ih
      · intro state later member
        exact preserved state later (List.mem_cons_of_mem event member)
      · exact preserved start event List.mem_cons_self initial

theorem run_invariant {step : σ → ε → σ} {invariant : σ → Prop}
    (preserved : ∀ state event, invariant state → invariant (step state event))
    {start : σ} (initial : invariant start) (events : List ε) :
    invariant (run step start events) :=
  run_invariant_of_mem (fun state event _ => preserved state event) initial

theorem run_related {τ : Type*} {step : σ → ε → σ} {step' : τ → ε → τ} {related : σ → τ → Prop}
    (preserved : ∀ state state' event, related state state' → related (step state event) (step' state' event))
    {start : σ} {start' : τ} (initial : related start start') (events : List ε) :
    related (run step start events) (run step' start' events) := by
  induction events generalizing start start' with
  | nil => exact initial
  | cons event rest ih => exact ih (preserved start start' event initial)

/-- What holds of the events so far and the state they lead to, one last event at a time. -/
theorem run_history {step : σ → ε → σ} {holds : List ε → σ → Prop} {start : σ}
    (initial : holds [] start)
    (preserved : ∀ events state event, holds events state → holds (events ++ [event]) (step state event))
    (events : List ε) : holds events (run step start events) := by
  induction events using List.reverseRecOn with
  | nil => exact initial
  | append_singleton events event ih =>
      rw [run_append, run_cons, run_nil]
      exact preserved events _ event ih

theorem everyState_start {step : σ → ε → σ} {holds : σ → Prop} {start : σ} {events : List ε}
    (throughout : EveryState step holds start events) : holds start := by
  cases events with
  | nil => exact throughout
  | cons _ _ => exact throughout.1

/-- If, in states that keep the invariant and have the property, a step keeps the
property exactly when it meets the guard, then a run has the property throughout
exactly when all its steps meet the guard. -/
theorem everyState_iff_everyStep {step : σ → ε → σ} {invariant holds : σ → Prop}
    {guard : σ → ε → Prop}
    (preserved : ∀ state event, invariant state → invariant (step state event))
    (exact : ∀ state event, invariant state → holds state →
      (holds (step state event) ↔ guard state event))
    {start : σ} (initial : invariant start) (now : holds start) (events : List ε) :
    EveryState step holds start events ↔ EveryStep step guard start events := by
  induction events generalizing start with
  | nil => simp [EveryState, EveryStep, now]
  | cons event rest ih =>
      simp only [EveryState, EveryStep, now, true_and]
      have stepExact := exact start event initial now
      constructor
      · intro throughout
        have next : holds (step start event) := by
          cases rest with
          | nil => exact throughout
          | cons _ _ => exact throughout.1
        exact ⟨stepExact.mp next, (ih (preserved start event initial) next).mp throughout⟩
      · rintro ⟨met, later⟩
        have next := stepExact.mpr met
        exact (ih (preserved start event initial) next).mpr later

/-- Where every step meets a guard that keeps the invariant, two conditions that agree in
guarded steps agree over the whole run, and the invariant holds at its end. -/
theorem everyStep_congr {step : σ → ε → σ} {invariant : σ → Prop} {guard first second : σ → ε → Prop}
    (preserved : ∀ state event, invariant state → guard state event → invariant (step state event))
    (agree : ∀ state event, invariant state → guard state event → (first state event ↔ second state event))
    {start : σ} (initial : invariant start) {events : List ε} (guarded : EveryStep step guard start events) :
    (EveryStep step first start events ↔ EveryStep step second start events) ∧
      invariant (run step start events) := by
  induction events generalizing start with
  | nil => exact ⟨Iff.rfl, initial⟩
  | cons event rest ih =>
      obtain ⟨met, later⟩ := guarded
      obtain ⟨same, last⟩ := ih (preserved start event initial met) later
      exact ⟨and_congr (agree start event initial met) same, last⟩

theorem everyStep_of_run {step : σ → ε → σ} {holds : σ → Prop}
    (backward : ∀ state event, holds (step state event) → holds state) {start : σ} {events : List ε}
    (last : holds (run step start events)) :
    holds start ∧ EveryStep step (fun state event => holds (step state event)) start events := by
  induction events generalizing start with
  | nil => exact ⟨last, trivial⟩
  | cons event rest ih =>
      obtain ⟨next, later⟩ := ih last
      exact ⟨backward start event next, next, later⟩

theorem everyStep_and {step : σ → ε → σ} {first second : σ → ε → Prop} {start : σ} {events : List ε}
    (firstMet : EveryStep step first start events) (secondMet : EveryStep step second start events) :
    EveryStep step (fun state event => first state event ∧ second state event) start events := by
  induction events generalizing start with
  | nil => trivial
  | cons event rest ih => exact ⟨⟨firstMet.1, secondMet.1⟩, ih firstMet.2 secondMet.2⟩

end Runs
