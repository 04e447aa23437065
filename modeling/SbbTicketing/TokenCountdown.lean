import SbbTicketing.IssuedCodes
import SbbTicketing.PlainRnp
import SbbTicketing.Runs

/-! The countdown beside the token, second by second: the countdown timer and the refresh
timer at their ideal times, with timeouts of one instant delivered in either order. -/

namespace SbbTicketing

open Qt

variable {ρ : Type} (rnp : Rnp ρ) (lib : QtLibrary)

/-- Which of two timeouts due at one instant is delivered first. -/
inductive DeliveryOrder
  | countdownFirst | refreshFirst
  deriving DecidableEq, Repr

structure TimedToken (ρ : Type) where
  token : IdentificationToken
  rnpState : RnpState ρ
  now : Nat
  refreshed : Nat

namespace TimedToken

def instant (now : Nat) : GenerationTimes where
  clock := clockAt now
  fallbackClock := clockAt now
  started := now

def start (publicKey privateKey : QString) (now : Nat) (state : RnpState ρ) : TimedToken ρ :=
  let shown := (IdentificationToken.new.setIdentificationToken rnp lib publicKey privateKey
    (instant now)).run state
  { token := shown.1, rnpState := shown.2, now, refreshed := now }

def deliverCountdown (timed : TimedToken ρ) : TimedToken ρ :=
  if timed.token.countdownTimer.due = some timed.now then
    { timed with token := timed.token.countdownTimeout }
  else timed

def deliverRefresh (timed : TimedToken ρ) : TimedToken ρ :=
  if timed.token.refreshTimer.due = some timed.now then
    let shown := (timed.token.refreshTimeout rnp lib (instant timed.now)).run timed.rnpState
    { timed with token := shown.1, rnpState := shown.2, refreshed := timed.now }
  else timed

/-- One second passes and everything due at its end is delivered. -/
def second (timed : TimedToken ρ) (order : DeliveryOrder) : TimedToken ρ :=
  let timed := { timed with now := timed.now + 1000 }
  match order with
  | .countdownFirst => timed.deliverCountdown.deliverRefresh rnp lib
  | .refreshFirst => (timed.deliverRefresh rnp lib).deliverCountdown

def run : TimedToken ρ → List DeliveryOrder → TimedToken ρ := Runs.run (second rnp lib)

def TellsTimeLeft (timed : TimedToken ρ) : Prop :=
  timed.token.countdown = 20 - ((timed.now - timed.refreshed) / 1000 : Nat) ∧
    timed.token.timerLabel = arg (text "Refreshes in: %1s") (Numerals.decimal timed.token.countdown)

/-- Where the refresh is due as well, the countdown is delivered before it. -/
def CountdownFirst (timed : TimedToken ρ) (order : DeliveryOrder) : Prop :=
  timed.token.refreshTimer.due = some (timed.now + 1000) → order = .countdownFirst

def everySecond (due : Nat) : QTimer where
  singleShot := false
  interval := 1000
  due := some due

/-- The invariant: the countdown timer runs every second and the refresh is due 20 seconds after
the last one, which was a whole number of seconds ago. -/
structure Ticking (timed : TimedToken ρ) : Prop where
  countdownTimer : timed.token.countdownTimer = everySecond (timed.now + 1000)
  refreshDue : timed.token.refreshTimer.due = some (timed.refreshed + 20000)
  whole : ∃ seconds < 20, timed.now = timed.refreshed + 1000 * seconds

theorem countdownTimeout_eq {token : IdentificationToken} {due : Nat}
    (timer : token.countdownTimer = everySecond due) :
    token.countdownTimeout = { token with countdownTimer := everySecond (due + 1000) }.setCountdown
      (if token.countdown ≤ 1 then 20 else token.countdown - 1) := by
  simp only [IdentificationToken.countdownTimeout, timer, everySecond, QTimer.isActive, Option.isSome_some,
    ↓reduceIte, IdentificationToken.updateCountdown, QTimer.fire, Option.map_some, Bool.false_eq_true]
  by_cases last : token.countdown ≤ 1
  · rw [if_pos last, if_pos (by omega)]
  · rw [if_neg last, if_neg (by omega)]

theorem deliverCountdown_eq {timed : TimedToken ρ}
    (timer : timed.token.countdownTimer = everySecond timed.now) :
    timed.deliverCountdown = { timed with
      token := { timed.token with countdownTimer := everySecond (timed.now + 1000) }.setCountdown
        (if timed.token.countdown ≤ 1 then 20 else timed.token.countdown - 1) } := by
  have due : timed.token.countdownTimer.due = some timed.now := by rw [timer, everySecond]
  rw [deliverCountdown, if_pos due, countdownTimeout_eq timer]

theorem deliverRefresh_eq (timed : TimedToken ρ)
    (due : timed.token.refreshTimer.due = some timed.now) :
    ∃ image after, timed.deliverRefresh rnp lib = {
      token := { timed.token with
        qrImage := image
        refreshTimer := timed.token.refreshTimer.fire.start 20000 timed.now }.setCountdown 20
      rnpState := after
      now := timed.now
      refreshed := timed.now } := by
  have active : timed.token.refreshTimer.isActive = true := by
    rw [QTimer.isActive, due]
    rfl
  obtain ⟨after, ran, _, _⟩ := IdentificationToken.refreshTimeout_run rnp lib timed.token
    (instant timed.now) timed.rnpState active
  refine ⟨some (timed.token.shownData lib (instant timed.now)
    (timed.token.signatureAt rnp (clockAt timed.now) timed.rnpState)), after, ?_⟩
  simp only [deliverRefresh, if_pos due, ran]
  rfl

theorem second_quiet {timed : TimedToken ρ} (ticking : Ticking timed)
    (quiet : timed.token.refreshTimer.due ≠ some (timed.now + 1000)) (order : DeliveryOrder) :
    timed.second rnp lib order = { timed with
      token := { timed.token with countdownTimer := everySecond (timed.now + 2000) }.setCountdown
        (if timed.token.countdown ≤ 1 then 20 else timed.token.countdown - 1)
      now := timed.now + 1000 } := by
  cases order with
  | countdownFirst =>
      simp only [second]
      rw [deliverCountdown_eq ticking.countdownTimer, deliverRefresh]
      exact if_neg quiet
  | refreshFirst =>
      simp only [second, deliverRefresh, if_neg quiet]
      exact deliverCountdown_eq ticking.countdownTimer

/-- A second at whose end both timers are due: the code is refreshed, and a countdown delivered
after that takes a second off the new count. -/
theorem second_due {timed : TimedToken ρ} (ticking : Ticking timed)
    (due : timed.token.refreshTimer.due = some (timed.now + 1000)) (order : DeliveryOrder) :
    ∃ image after, timed.second rnp lib order = {
      token := { timed.token with
        countdownTimer := everySecond (timed.now + 2000)
        qrImage := image
        refreshTimer := timed.token.refreshTimer.fire.start 20000 (timed.now + 1000) }.setCountdown
          (if order = DeliveryOrder.countdownFirst then 20 else 19)
      rnpState := after
      now := timed.now + 1000
      refreshed := timed.now + 1000 } := by
  cases order with
  | countdownFirst =>
      simp only [second]
      rw [deliverCountdown_eq ticking.countdownTimer]
      obtain ⟨image, after, refreshed⟩ := deliverRefresh_eq rnp lib { timed with
        token := { timed.token with countdownTimer := everySecond (timed.now + 2000) }.setCountdown
          (if timed.token.countdown ≤ 1 then 20 else timed.token.countdown - 1)
        now := timed.now + 1000 } due
      exact ⟨image, after, refreshed⟩
  | refreshFirst =>
      obtain ⟨image, after, refreshed⟩ :=
        deliverRefresh_eq rnp lib { timed with now := timed.now + 1000 } due
      refine ⟨image, after, ?_⟩
      simp only [second, refreshed]
      rw [deliverCountdown_eq]
      · rfl
      · exact ticking.countdownTimer

theorem ticking_start (publicKey privateKey : QString) (now : Nat) (state : RnpState ρ) :
    Ticking (start rnp lib publicKey privateKey now state) := by
  obtain ⟨after, ran, _, _⟩ := IdentificationToken.setIdentificationToken_run rnp lib
    IdentificationToken.new publicKey privateKey (instant now) state
  simp only [start, ran]
  exact ⟨rfl, rfl, 0, by omega, rfl⟩

theorem tells_start (publicKey privateKey : QString) (now : Nat) (state : RnpState ρ) :
    TellsTimeLeft (start rnp lib publicKey privateKey now state) := by
  obtain ⟨after, ran, _, _⟩ := IdentificationToken.setIdentificationToken_run rnp lib
    IdentificationToken.new publicKey privateKey (instant now) state
  simp only [start, ran, TellsTimeLeft]
  refine ⟨?_, rfl⟩
  simp [IdentificationToken.setCountdown]

theorem due_iff {timed : TimedToken ρ} (ticking : Ticking timed) {seconds : Nat}
    (elapsed : timed.now = timed.refreshed + 1000 * seconds) :
    timed.token.refreshTimer.due = some (timed.now + 1000) ↔ seconds = 19 := by
  rw [ticking.refreshDue, Option.some.injEq]
  omega

theorem ticking_second (timed : TimedToken ρ) (order : DeliveryOrder) (ticking : Ticking timed) :
    Ticking (timed.second rnp lib order) := by
  obtain ⟨seconds, bound, elapsed⟩ := ticking.whole
  by_cases due : timed.token.refreshTimer.due = some (timed.now + 1000)
  · obtain ⟨image, after, next⟩ := second_due rnp lib ticking due order
    rw [next]
    exact ⟨rfl, rfl, 0, by omega, rfl⟩
  · rw [second_quiet rnp lib ticking due order]
    refine ⟨rfl, ticking.refreshDue, seconds + 1, ?_, ?_⟩
    · rw [due_iff ticking elapsed] at due
      omega
    · simp only [elapsed]
      omega

theorem tells_second (timed : TimedToken ρ) (order : DeliveryOrder) (ticking : Ticking timed)
    (tells : TellsTimeLeft timed) :
    TellsTimeLeft (timed.second rnp lib order) ↔ CountdownFirst timed order := by
  obtain ⟨seconds, bound, elapsed⟩ := ticking.whole
  obtain ⟨count, _⟩ := tells
  have left : timed.token.countdown = 20 - (seconds : Int) := by
    rw [count, elapsed, Nat.add_sub_cancel_left, Nat.mul_div_cancel_left seconds (by omega)]
  by_cases due : timed.token.refreshTimer.due = some (timed.now + 1000)
  · obtain ⟨image, after, next⟩ := second_due rnp lib ticking due order
    simp only [CountdownFirst, due, true_implies, next, TellsTimeLeft]
    cases order with
    | countdownFirst => simp [IdentificationToken.setCountdown]
    | refreshFirst => simp [IdentificationToken.setCountdown]
  · have early := due
    rw [due_iff ticking elapsed] at early
    simp only [CountdownFirst, due, false_implies, iff_true, second_quiet rnp lib ticking due order,
      TellsTimeLeft]
    refine ⟨?_, rfl⟩
    have next : (timed.now + 1000 - timed.refreshed) / 1000 = seconds + 1 := by omega
    simp only [IdentificationToken.setCountdown, next, left]
    rw [if_neg (by omega)]
    omega

end TimedToken

theorem countdown_tells_time_left_iff (publicKey privateKey : QString) (now : Nat) (state : RnpState ρ)
    (orders : List DeliveryOrder) :
    Runs.EveryState (TimedToken.second rnp lib) TimedToken.TellsTimeLeft
        (TimedToken.start rnp lib publicKey privateKey now state) orders ↔
      Runs.EveryStep (TimedToken.second rnp lib) TimedToken.CountdownFirst
        (TimedToken.start rnp lib publicKey privateKey now state) orders :=
  Runs.everyState_iff_everyStep (TimedToken.ticking_second rnp lib) (TimedToken.tells_second rnp lib)
    (TimedToken.ticking_start rnp lib publicKey privateKey now state)
    (TimedToken.tells_start rnp lib publicKey privateKey now state) orders

/-- With the refresh delivered first after 20 seconds, the countdown shows 20 when 19 of the next
20 seconds are over. -/
theorem countdown_one_second_off :
    let timed := TimedToken.run PlainRnp.rnp PlainRnp.library
      (TimedToken.start PlainRnp.rnp PlainRnp.library (text "PAA") (text "SAA") 0 (PlainRnp.initialState 0))
      (List.replicate 39 .refreshFirst)
    timed.now = timed.refreshed + 19000 ∧ timed.token.countdown = 20 ∧
      timed.token.timerLabel = text "Refreshes in: 20s" := by
  decide +kernel

end SbbTicketing
