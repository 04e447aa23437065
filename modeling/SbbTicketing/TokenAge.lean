import SbbTicketing.IssuedCodes
import SbbTicketing.PlainRnp
import SbbTicketing.Runs

/-! How old the token on screen gets: a run of generations in milliseconds, with the time
signing takes between reading the clock and restarting the refresh timer. -/

namespace SbbTicketing

open Qt

variable {ρ : Type} (rnp : Rnp ρ) (lib : QtLibrary)

/-- One generation: when it reads the clock, when its `catch` block would read it again, and
when its code is on screen and the refresh timer started. -/
structure Generation where
  read : Nat
  readAgain : Nat
  shown : Nat

def Generation.times (generation : Generation) : GenerationTimes where
  clock := clockAt generation.read
  fallbackClock := clockAt generation.readAgain
  started := generation.shown

/-- The token, RNP beside it, and the generation whose code is on screen. -/
structure TokenScreen (ρ : Type) where
  token : IdentificationToken
  rnpState : RnpState ρ
  current : Generation

theorem toInt_clockAt {millisecond : Nat} (inRange : millisecond < 2 ^ 63) :
    (clockAt millisecond).toInt = millisecond / 1000 := by
  have bound : millisecond / 1000 < 2 ^ 63 := by omega
  rw [clockAt, Int64.toInt_ofNat_of_lt bound]
  rfl

theorem fresh_clockAt_iff {read now : Nat} (ordered : read ≤ now) (inRange : now < 2 ^ 63) :
    TicketOwnership.Fresh (clockAt now) (clockAt read) ↔ now < read - read % 1000 + 21000 := by
  have nowClock := toInt_clockAt inRange
  have readClock : (clockAt read).toInt = read / 1000 := toInt_clockAt (by omega)
  have nonneg : 0 ≤ clockAt now := by
    rw [Int64.le_iff_toInt_le, nowClock]
    exact Int.natCast_nonneg _
  rw [TicketOwnership.fresh_iff_of_nonneg nonneg, nowClock, readClock]
  omega

namespace TokenScreen

def start (publicKey privateKey : QString) (first : Generation) (state : RnpState ρ) : TokenScreen ρ :=
  let shown := (IdentificationToken.new.setIdentificationToken rnp lib publicKey privateKey
    first.times).run state
  { token := shown.1, rnpState := shown.2, current := first }

def refresh (screen : TokenScreen ρ) (next : Generation) : TokenScreen ρ :=
  let shown := (screen.token.refreshTimeout rnp lib next.times).run screen.rnpState
  { token := shown.1, rnpState := shown.2, current := next }

def run : TokenScreen ρ → List Generation → TokenScreen ρ := Runs.run (refresh rnp lib)

def Timely (screen : TokenScreen ρ) (next : Generation) : Prop :=
  (∃ due, screen.token.refreshTimer.due = some due ∧ due ≤ next.read) ∧ next.read ≤ next.shown ∧
    next.shown < 2 ^ 63

/-- The condition holds of every code of the run and the time it leaves the screen: when the
next one is shown or, for the last, when the page is closed. -/
def OfEveryCode (holds : TokenScreen ρ → Nat → Prop) (start : TokenScreen ρ)
    (generations : List Generation) (closed : Nat) : Prop :=
  Runs.EveryStep (refresh rnp lib) (fun screen next => holds screen next.shown) start generations ∧
    holds (run rnp lib start generations) closed

def FreshUntil (screen : TokenScreen ρ) (replaced : Nat) : Prop :=
  ∀ now, screen.current.shown ≤ now → now < replaced →
    TicketOwnership.Fresh (clockAt now) (clockAt screen.current.read)

/-- The code leaves the screen by the end of the last whole second in which it is not too old. -/
def ReplacedInTime (screen : TokenScreen ρ) (replaced : Nat) : Prop :=
  replaced ≤ screen.current.read - screen.current.read % 1000 + 21000

instance (screen : TokenScreen ρ) (replaced : Nat) : Decidable (ReplacedInTime screen replaced) :=
  inferInstanceAs (Decidable (_ ≤ _))

def ParsedUntil (screen : TokenScreen ρ) (replaced : Nat) : Prop :=
  ∀ now, screen.current.shown ≤ now → now < replaced →
    (TicketOwnership.parsePIT (clockAt now) (screen.token.qrImage.getD []) {}).1 = true

def Unfailed (screen : TokenScreen ρ) : Prop := screen.rnpState.failed = false

instance (screen : TokenScreen ρ) : Decidable screen.Unfailed := inferInstanceAs (Decidable (_ = _))

/-- The invariant: the timer runs from when the code was shown, and the code carries the
reading of its generation unless a call failed. -/
structure Stamped (screen : TokenScreen ρ) : Prop where
  due : screen.token.refreshTimer.due = some (screen.current.shown + 20000)
  ordered : screen.current.read ≤ screen.current.shown
  reads : screen.Unfailed → ∃ publicKeyHash signature,
    TicketOwnership.ReadsPIT (screen.token.qrImage.getD []) publicKeyHash
      (clockAt screen.current.read) signature

theorem reads_shownData (token : IdentificationToken) (times : GenerationTimes)
    {signature : Option QByteArray} (signed : signature.isNone = false) :
    ∃ publicKeyHash bytes,
      TicketOwnership.ReadsPIT (token.shownData lib times signature) publicKeyHash times.clock bytes := by
  obtain ⟨bytes, made⟩ := Option.isSome_iff_exists.mp (Option.isNone_eq_false_iff.mp signed)
  refine ⟨keyHash lib token.publicKey, toHex bytes, ?_⟩
  rw [made]
  exact readsPIT_tokenCode (IsMark.colon.not_mem_keyHash lib _) (IsMark.colon.not_mem_toHex bytes)
    times.clock

theorem stamped_start (publicKey privateKey : QString) {first : Generation}
    (signs : first.read ≤ first.shown) (state : RnpState ρ) :
    Stamped (start rnp lib publicKey privateKey first state) := by
  obtain ⟨after, ran, _, failed⟩ := IdentificationToken.setIdentificationToken_run rnp lib
    IdentificationToken.new publicKey privateKey first.times state
  simp only [start, ran]
  refine ⟨rfl, signs, ?_⟩
  intro unfailed
  rw [Unfailed, failed, Bool.or_eq_false_iff] at unfailed
  exact reads_shownData lib _ first.times unfailed.2

theorem refresh_eq {screen : TokenScreen ρ} (stamped : Stamped screen) (next : Generation) :
    let signature := screen.token.signatureAt rnp next.times.clock screen.rnpState
    ∃ after, screen.refresh rnp lib next = {
        token := { screen.token.setCountdown 20 with
          qrImage := some (screen.token.shownData lib next.times signature)
          refreshTimer := screen.token.refreshTimer.fire.start 20000 next.shown }
        rnpState := after
        current := next } ∧ after.failed = (screen.rnpState.failed || signature.isNone) := by
  have active : screen.token.refreshTimer.isActive = true := by
    rw [QTimer.isActive, stamped.due]
    rfl
  obtain ⟨after, ran, _, failed⟩ := IdentificationToken.refreshTimeout_run rnp lib screen.token
    next.times screen.rnpState active
  refine ⟨after, ?_, failed⟩
  simp only [refresh, ran]
  rfl

theorem stamped_refresh (screen : TokenScreen ρ) (next : Generation) (stamped : Stamped screen)
    (timely : Timely screen next) : Stamped (screen.refresh rnp lib next) := by
  obtain ⟨after, shown, failed⟩ := refresh_eq rnp lib stamped next
  rw [shown]
  refine ⟨rfl, timely.2.1, ?_⟩
  intro unfailed
  simp only [Unfailed, failed, Bool.or_eq_false_iff] at unfailed
  exact reads_shownData lib screen.token next.times unfailed.2

theorem freshUntil_iff {screen : TokenScreen ρ} (stamped : Stamped screen) {replaced : Nat}
    (later : screen.current.shown < replaced) (inRange : replaced < 2 ^ 63) :
    FreshUntil screen replaced ↔ ReplacedInTime screen replaced := by
  have ordered := stamped.ordered
  simp only [FreshUntil, ReplacedInTime]
  constructor
  · intro fresh
    have last := fresh (replaced - 1) (by omega) (by omega)
    rw [fresh_clockAt_iff (by omega) (by omega)] at last
    omega
  · intro inTime now shown before
    rw [fresh_clockAt_iff (by omega) (by omega)]
    omega

theorem parsedUntil_iff {screen : TokenScreen ρ} (stamped : Stamped screen)
    (unfailed : screen.Unfailed) (replaced : Nat) :
    ParsedUntil screen replaced ↔ FreshUntil screen replaced := by
  obtain ⟨publicKeyHash, signature, reads⟩ := stamped.reads unfailed
  have parsed (now : Int64) : (TicketOwnership.parsePIT now (screen.token.qrImage.getD []) {}).1 = true ↔
      TicketOwnership.Fresh now (clockAt screen.current.read) := by
    constructor
    · intro accepted
      obtain ⟨_, _, _, other, fresh⟩ := TicketOwnership.parsePIT_accepts accepted
      obtain ⟨_, rfl, _⟩ := reads.unique other
      exact fresh
    · intro fresh
      rw [TicketOwnership.parsePIT_of_reads reads fresh]
  simp only [ParsedUntil, FreshUntil, parsed]

theorem shown_before_next {screen : TokenScreen ρ} {next : Generation} (stamped : Stamped screen)
    (timely : Timely screen next) : screen.current.shown < next.shown := by
  obtain ⟨⟨due, set, fired⟩, signs, _⟩ := timely
  rw [stamped.due, Option.some.injEq] at set
  omega

theorem refresh_unfailed (screen : TokenScreen ρ) (next : Generation)
    (unfailed : (screen.refresh rnp lib next).Unfailed) : screen.Unfailed := by
  simp only [Unfailed, refresh] at unfailed
  by_cases active : screen.token.refreshTimer.isActive = true
  · obtain ⟨after, ran, _, failed⟩ := IdentificationToken.refreshTimeout_run rnp lib screen.token
      next.times screen.rnpState active
    rw [ran] at unfailed
    simp only [failed, Bool.or_eq_false_iff] at unfailed
    exact unfailed.1
  · rw [IdentificationToken.refreshTimeout, if_neg active] at unfailed
    exact unfailed

theorem freshUntil_run {start : TokenScreen ρ} {generations : List Generation} {closed : Nat}
    (stamped : Stamped start) (timely : Runs.EveryStep (refresh rnp lib) Timely start generations)
    (pageOpen : (run rnp lib start generations).current.shown < closed) (inRange : closed < 2 ^ 63) :
    OfEveryCode rnp lib FreshUntil start generations closed ↔
      OfEveryCode rnp lib ReplacedInTime start generations closed := by
  obtain ⟨replaced, last⟩ := Runs.everyStep_congr (stamped_refresh rnp lib)
    (fun screen next stamped timely =>
      freshUntil_iff stamped (shown_before_next stamped timely) timely.2.2) stamped timely
  exact and_congr replaced (freshUntil_iff last pageOpen inRange)

theorem parsedUntil_run {start : TokenScreen ρ} {generations : List Generation} (closed : Nat)
    (stamped : Stamped start) (timely : Runs.EveryStep (refresh rnp lib) Timely start generations)
    (unfailed : (run rnp lib start generations).Unfailed) :
    OfEveryCode rnp lib ParsedUntil start generations closed ↔
      OfEveryCode rnp lib FreshUntil start generations closed := by
  obtain ⟨unfailedStart, unfailedSteps⟩ := Runs.everyStep_of_run (refresh_unfailed rnp lib) unfailed
  have kept (screen : TokenScreen ρ) (next : Generation) (both : screen.Stamped ∧ screen.Unfailed)
      (met : Timely screen next ∧ (screen.refresh rnp lib next).Unfailed) :
      (screen.refresh rnp lib next).Stamped ∧ (screen.refresh rnp lib next).Unfailed :=
    ⟨stamped_refresh rnp lib screen next both.1 met.1, met.2⟩
  obtain ⟨replaced, last⟩ := Runs.everyStep_congr kept
    (fun screen next both _ => parsedUntil_iff both.1 both.2 next.shown) ⟨stamped, unfailedStart⟩
    (Runs.everyStep_and timely unfailedSteps)
  exact and_congr replaced (parsedUntil_iff last.1 last.2 closed)

end TokenScreen

theorem code_never_expires_iff (publicKey privateKey : QString) (first : Generation)
    (state : RnpState ρ) (generations : List Generation) (closed : Nat)
    (signs : first.read ≤ first.shown)
    (timely : Runs.EveryStep (TokenScreen.refresh rnp lib) TokenScreen.Timely
      (TokenScreen.start rnp lib publicKey privateKey first state) generations)
    (pageOpen : (TokenScreen.run rnp lib (TokenScreen.start rnp lib publicKey privateKey first state)
      generations).current.shown < closed)
    (inRange : closed < 2 ^ 63) :
    let start := TokenScreen.start rnp lib publicKey privateKey first state
    let inTime := TokenScreen.OfEveryCode rnp lib TokenScreen.ReplacedInTime start generations
      closed
    (TokenScreen.OfEveryCode rnp lib TokenScreen.FreshUntil start generations closed ↔ inTime) ∧
      ((TokenScreen.run rnp lib start generations).Unfailed →
        (TokenScreen.OfEveryCode rnp lib TokenScreen.ParsedUntil start generations closed ↔ inTime)) := by
  intro start inTime
  have stamped : TokenScreen.Stamped start :=
    TokenScreen.stamped_start rnp lib publicKey privateKey signs state
  have fresh := TokenScreen.freshUntil_run rnp lib stamped timely pageOpen inRange
  refine ⟨fresh, ?_⟩
  intro unfailed
  exact (TokenScreen.parsedUntil_run rnp lib closed stamped timely unfailed).trans fresh

theorem code_never_expires_iff_instant :
    TokenScreen.OfEveryCode PlainRnp.rnp PlainRnp.library TokenScreen.ParsedUntil
      (TokenScreen.start PlainRnp.rnp PlainRnp.library (text "PAA") (text "SAA") ⟨999, 999, 999⟩
        (PlainRnp.initialState 0)) [⟨20999, 20999, 20999⟩] 40999 := by
  have exact := code_never_expires_iff PlainRnp.rnp PlainRnp.library (text "PAA") (text "SAA")
    ⟨999, 999, 999⟩ (PlainRnp.initialState 0) [⟨20999, 20999, 20999⟩] 40999 (by decide)
    ⟨⟨⟨20999, by decide +kernel, by decide⟩, by decide, by decide⟩, trivial⟩ (by decide +kernel)
    (by decide)
  refine (exact.2 (by decide +kernel)).mpr ⟨⟨?_, trivial⟩, ?_⟩
  all_goals decide +kernel

/-- Signing takes 50 ms and the clock is read late in its second: for 99 ms the code on screen
is 21 seconds old. -/
theorem code_expires_on_screen :
    let screen := TokenScreen.start PlainRnp.rnp PlainRnp.library (text "PAA") (text "SAA")
      ⟨999, 1049, 1049⟩ (PlainRnp.initialState 0)
    let next : Generation := ⟨21049, 21099, 21099⟩
    screen.Timely next ∧ (screen.refresh PlainRnp.rnp PlainRnp.library next).Unfailed ∧
      screen.current.shown ≤ 21010 ∧ 21010 < next.shown ∧
      ¬TicketOwnership.Fresh (clockAt 21010) (clockAt screen.current.read) ∧
      (TicketOwnership.parsePIT (clockAt 21010) (screen.token.qrImage.getD []) {}).1 = false := by
  intro screen next
  refine ⟨⟨⟨21049, ?_, ?_⟩, ?_, ?_⟩, ?_, ?_, ?_, ?_, ?_⟩
  all_goals decide +kernel

end SbbTicketing
