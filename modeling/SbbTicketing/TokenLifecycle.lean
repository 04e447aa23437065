import SbbTicketing.IssuedCodes
import SbbTicketing.Runs

/-! The identity token's page over any order of logins, clearing and timeouts: it shows a code
of the keys it holds and keeps refreshing it, or it holds no keys and shows nothing. -/

namespace SbbTicketing

open Qt

variable {ρ : Type} (rnp : Rnp ρ) (lib : QtLibrary)

inductive TokenEvent
  | setIdentificationToken (publicKey privateKey : QString) (times : GenerationTimes)
  | clear
  | countdownTimeout
  | refreshTimeout (times : GenerationTimes)

structure TokenRun (ρ : Type) where
  token : IdentificationToken
  rnpState : RnpState ρ

namespace IdentificationToken

def BuildsCode (token : IdentificationToken) (code : QString) : Prop :=
  (∃ clock draws call bytes,
    rnp.signature draws call (toUtf8 token.privateKey) (toUtf8 (dataToSign token.publicKey clock)) =
      some bytes ∧
    code = tokenCode (keyHash lib token.publicKey) clock (toHex bytes)) ∨
  ∃ clock, code = token.fallbackData lib clock

structure Active (token : IdentificationToken) : Prop where
  counting : token.countdownTimer.isActive = true
  refreshing : token.refreshTimer.isActive = true
  labelShown : token.timerLabelVisible = true
  codeShown : ∃ code, token.qrImage = some code ∧ token.BuildsCode rnp lib code

structure Idle (token : IdentificationToken) : Prop where
  notCounting : token.countdownTimer.isActive = false
  notRefreshing : token.refreshTimer.isActive = false
  labelHidden : token.timerLabelVisible = false
  noPublicKey : token.publicKey = []
  noPrivateKey : token.privateKey = []
  noCode : token.qrImage = none

/-- The invariant: a countdown timer that is periodic stays active when it fires. -/
structure Settled (token : IdentificationToken) : Prop where
  periodic : token.countdownTimer.singleShot = false
  phase : token.Active rnp lib ∨ token.Idle
  countdownPositive : 1 ≤ token.countdown
  countdownBound : token.countdown ≤ 20

theorem buildsCode_shownData (token : IdentificationToken) (times : GenerationTimes)
    (state : RnpState ρ) :
    token.BuildsCode rnp lib (token.shownData lib times (token.signatureAt rnp times.clock state)) := by
  cases made : token.signatureAt rnp times.clock state with
  | none => exact Or.inr ⟨times.fallbackClock, rfl⟩
  | some bytes => exact Or.inl ⟨times.clock, state.draws, state.calls, bytes, made, rfl⟩

theorem settled_new : new.Settled rnp lib where
  periodic := rfl
  phase := Or.inr ⟨rfl, rfl, rfl, rfl, rfl, rfl⟩
  countdownPositive := by decide
  countdownBound := by decide

theorem settled_clear {token : IdentificationToken} (settled : token.Settled rnp lib) :
    token.clear.Settled rnp lib where
  periodic := settled.periodic
  phase := Or.inr ⟨rfl, rfl, rfl, rfl, rfl, rfl⟩
  countdownPositive := by simp [clear]
  countdownBound := by simp [clear]

theorem settled_set {token : IdentificationToken} (settled : token.Settled rnp lib)
    (publicKey privateKey : QString) (times : GenerationTimes) (state : RnpState ρ) :
    ((token.setIdentificationToken rnp lib publicKey privateKey times).run state).1.Settled rnp lib := by
  obtain ⟨after, ran, _⟩ := setIdentificationToken_run rnp lib token publicKey privateKey times state
  rw [ran]
  refine ⟨settled.periodic, Or.inl ⟨rfl, rfl, rfl, _, rfl, ?_⟩, ?_, ?_⟩
  · exact buildsCode_shownData rnp lib { token with publicKey, privateKey } times state
  · simp [setCountdown]
  · simp [setCountdown]

theorem settled_countdownTimeout {token : IdentificationToken} (settled : token.Settled rnp lib) :
    token.countdownTimeout.Settled rnp lib := by
  have positive := settled.countdownPositive
  have bound := settled.countdownBound
  by_cases counting : token.countdownTimer.isActive = true
  · have active : token.Active rnp lib := by
      rcases settled.phase with active | idle
      · exact active
      · rw [idle.notCounting] at counting
        cases counting
    have fired : token.countdownTimer.fire.isActive = true := by
      have due := active.counting
      simpa [QTimer.fire, settled.periodic, QTimer.isActive] using due
    have periodic : token.countdownTimer.fire.singleShot = false := by
      simp [QTimer.fire, settled.periodic]
    simp only [countdownTimeout, counting, ↓reduceIte, updateCountdown]
    by_cases wrapped : token.countdown - 1 ≤ 0
    · rw [if_pos wrapped]
      refine ⟨periodic, Or.inl ⟨fired, active.refreshing, active.labelShown, active.codeShown⟩, ?_, ?_⟩
      · simp [setCountdown]
      · simp [setCountdown]
    · rw [if_neg wrapped]
      refine ⟨periodic, Or.inl ⟨fired, active.refreshing, active.labelShown, active.codeShown⟩, ?_, ?_⟩
      · simp only [setCountdown]
        omega
      · simp only [setCountdown]
        omega
  · simpa [countdownTimeout, counting] using settled

theorem settled_refreshTimeout {token : IdentificationToken} (settled : token.Settled rnp lib)
    (times : GenerationTimes) (state : RnpState ρ) :
    ((token.refreshTimeout rnp lib times).run state).1.Settled rnp lib := by
  by_cases refreshing : token.refreshTimer.isActive = true
  · have active : token.Active rnp lib := by
      rcases settled.phase with active | idle
      · exact active
      · rw [idle.notRefreshing] at refreshing
        cases refreshing
    obtain ⟨after, ran, _⟩ := refreshTimeout_run rnp lib token times state refreshing
    rw [ran]
    refine ⟨settled.periodic, Or.inl ⟨active.counting, rfl, active.labelShown, _, rfl, ?_⟩, ?_, ?_⟩
    · exact buildsCode_shownData rnp lib token times state
    · simp [setCountdown]
    · simp [setCountdown]
  · rw [refreshTimeout, if_neg refreshing]
    exact settled

end IdentificationToken

namespace TokenRun

def start (state : RnpState ρ) : TokenRun ρ := { token := IdentificationToken.new, rnpState := state }

def step (run : TokenRun ρ) : TokenEvent → TokenRun ρ
  | .setIdentificationToken publicKey privateKey times =>
      let shown := (run.token.setIdentificationToken rnp lib publicKey privateKey times).run run.rnpState
      { token := shown.1, rnpState := shown.2 }
  | .clear => { run with token := run.token.clear }
  | .countdownTimeout => { run with token := run.token.countdownTimeout }
  | .refreshTimeout times =>
      let shown := (run.token.refreshTimeout rnp lib times).run run.rnpState
      { token := shown.1, rnpState := shown.2 }

def run : TokenRun ρ → List TokenEvent → TokenRun ρ := Runs.run (step rnp lib)

theorem settled_step (run : TokenRun ρ) (event : TokenEvent) (settled : run.token.Settled rnp lib) :
    (run.step rnp lib event).token.Settled rnp lib := by
  cases event with
  | setIdentificationToken publicKey privateKey times =>
      exact IdentificationToken.settled_set rnp lib settled publicKey privateKey times run.rnpState
  | clear => exact IdentificationToken.settled_clear rnp lib settled
  | countdownTimeout => exact IdentificationToken.settled_countdownTimeout rnp lib settled
  | refreshTimeout times =>
      exact IdentificationToken.settled_refreshTimeout rnp lib settled times run.rnpState

end TokenRun

theorem no_lingering_token (state : RnpState ρ) (events : List TokenEvent) :
    let token := (TokenRun.run rnp lib (TokenRun.start state) events).token
    (token.Active rnp lib ∨ token.Idle) ∧ 1 ≤ token.countdown ∧ token.countdown ≤ 20 := by
  intro token
  have settled : token.Settled rnp lib :=
    Runs.run_invariant (TokenRun.settled_step rnp lib) (IdentificationToken.settled_new rnp lib) events
  exact ⟨settled.phase, settled.countdownPositive, settled.countdownBound⟩

end SbbTicketing
