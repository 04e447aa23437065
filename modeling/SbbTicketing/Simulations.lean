import SbbTicketing.Runs

/-! One machine carried out by another: every step of the one comes to some events of the
other, which may depend on the state the step is taken in. A run then comes to a run over
the events emitted along the way, also where the two are only related, or take the same events
side by side. -/

namespace Simulations

open Runs

variable {σ τ ε κ : Type*}

def emitted (step : σ → ε → σ) (emit : σ → ε → List κ) : σ → List ε → List κ
  | _, [] => []
  | state, event :: rest => emit state event ++ emitted step emit (step state event) rest

variable {step : σ → ε → σ} {step' : τ → κ → τ} {emit : σ → ε → List κ} {view : σ → τ}

theorem emitted_append (start : σ) (first second : List ε) :
    emitted step emit start (first ++ second) =
      emitted step emit start first ++ emitted step emit (run step start first) second := by
  induction first generalizing start with
  | nil => rfl
  | cons event rest ih => simp [emitted, ih]

theorem emitted_stateless (send : ε → List κ) (start : σ) (events : List ε) :
    emitted step (fun _ event => send event) start events = events.flatMap send := by
  induction events generalizing start with
  | nil => rfl
  | cons event rest ih => simp [emitted, ih]

/-- The simulation: `view` of a step is what its events do to the view. -/
theorem run_emitted
    (simulates : ∀ state event, view (step state event) = run step' (view state) (emit state event))
    (start : σ) (events : List ε) :
    view (run step start events) = run step' (view start) (emitted step emit start events) := by
  induction events generalizing start with
  | nil => rfl
  | cons event rest ih => rw [run_cons, ih, simulates, emitted, run_append]

theorem run_emitted_related {related : σ → τ → Prop}
    (simulates : ∀ state state' event, related state state' →
      related (step state event) (run step' state' (emit state event)))
    {start : σ} {start' : τ} (initial : related start start') (events : List ε) :
    related (run step start events) (run step' start' (emitted step emit start events)) := by
  induction events generalizing start start' with
  | nil => exact initial
  | cons event rest ih =>
      rw [run_cons, emitted, run_append]
      exact ih (simulates start start' event initial)

theorem emitted_related {step' : τ → ε → τ} {emit' : τ → ε → List κ} {related : σ → τ → Prop}
    (simulates : ∀ state state' event, related state state' →
      related (step state event) (step' state' event) ∧ emit state event = emit' state' event)
    {start : σ} {start' : τ} (initial : related start start') (events : List ε) :
    related (run step start events) (run step' start' events) ∧
      emitted step emit start events = emitted step' emit' start' events := by
  induction events generalizing start start' with
  | nil => exact ⟨initial, rfl⟩
  | cons event rest ih =>
      obtain ⟨next, same⟩ := simulates start start' event initial
      obtain ⟨last, later⟩ := ih next
      rw [run_cons, run_cons, emitted, emitted, same, later]
      exact ⟨last, rfl⟩

theorem emitted_history {holds : List κ → σ → Prop} {start : σ} (initial : holds [] start)
    (preserved : ∀ messages state event, holds messages state →
      holds (messages ++ emit state event) (step state event))
    (events : List ε) : holds (emitted step emit start events) (run step start events) := by
  induction events using List.reverseRecOn with
  | nil => exact initial
  | append_singleton events event ih =>
      rw [run_append, emitted_append]
      have next := preserved _ _ event ih
      simpa [emitted] using next

theorem run_option (step : σ → ε → σ) (start : Option σ) (events : List ε) :
    run (fun state event => state.map (step · event)) start events =
      start.map (run step · events) := by
  induction events generalizing start with
  | nil => cases start <;> rfl
  | cons event rest ih =>
      rw [run_cons, ih, Option.map_map]
      rfl

theorem mem_emitted {start : σ} {events : List ε} {message : κ}
    (member : message ∈ emitted step emit start events) :
    ∃ before event after, events = before ++ event :: after ∧
      message ∈ emit (run step start before) event := by
  induction events generalizing start with
  | nil => simp [emitted] at member
  | cons event rest ih =>
      rcases List.mem_append.mp member with now | later
      · exact ⟨[], event, rest, rfl, now⟩
      · obtain ⟨before, found, after, rfl, sent⟩ := ih later
        exact ⟨event :: before, found, after, rfl, sent⟩

end Simulations
