import Mathlib.Data.List.Nodup
import SbbTicketing.TicketList

/-! Where the booking references in the list come from, over any run of the application and any
random stream: six draws for each booking, and nothing that keeps two bookings apart. -/

namespace SbbTicketing

open Qt

variable {ρ : Type} (rnp : Rnp ρ) (lib : QtLibrary)

def drawnReference (values : Nat → Nat) (position : Nat) : QString :=
  (List.range 6).map fun draw => referenceChars.getD (values (position + draw) % 36) ' '

def bookingReferences (random : RandomGenerator) (bookings : Nat) : List QString :=
  ((List.range bookings).map fun booking =>
    drawnReference random.values (random.drawn + 6 * booking)).reverse

def SameDraws (random : RandomGenerator) (booking booking' : Nat) : Prop :=
  ∀ draw < 6, random.values (random.drawn + 6 * booking + draw) % 36 =
    random.values (random.drawn + 6 * booking' + draw) % 36

theorem appendReferenceChars_eq (passes : Nat) (ref : QString) (random : RandomGenerator) :
    appendReferenceChars passes ref random =
      (ref ++ (List.range passes).map fun draw =>
          referenceChars.getD (random.values (random.drawn + draw) % 36) ' ',
        { random with drawn := random.drawn + passes }) := by
  induction passes generalizing ref random with
  | zero => simp [appendReferenceChars]
  | succ passes ih =>
      have size : referenceChars.length = 36 := rfl
      simp only [appendReferenceChars, ih, RandomGenerator.bounded, size, List.range_succ_eq_map,
        List.map_cons, List.map_map, List.append_assoc, List.singleton_append, Nat.add_zero]
      refine Prod.ext ?_ ?_
      · simp only [Function.comp_def, Nat.succ_eq_add_one]
        congr 3
        funext draw
        rw [show random.drawn + 1 + draw = random.drawn + (draw + 1) by omega]
      · simp only [RandomGenerator.mk.injEq, true_and]
        omega

theorem generateBookingReference_eq (random : RandomGenerator) :
    generateBookingReference random =
      (drawnReference random.values random.drawn, { random with drawn := random.drawn + 6 }) :=
  appendReferenceChars_eq 6 [] random

theorem referenceChar_eq_iff {index index' : Nat} (bound : index < 36) (bound' : index' < 36) :
    referenceChars.getD index ' ' = referenceChars.getD index' ' ' ↔ index = index' := by
  have size : referenceChars.length = 36 := rfl
  have distinct : referenceChars.Nodup := by decide
  rw [List.getD_eq_getElem _ _ (size ▸ bound), List.getD_eq_getElem _ _ (size ▸ bound'),
    List.Nodup.getElem_inj_iff distinct]

theorem drawnReference_eq_iff (random : RandomGenerator) (booking booking' : Nat) :
    drawnReference random.values (random.drawn + 6 * booking) =
        drawnReference random.values (random.drawn + 6 * booking') ↔
      SameDraws random booking booking' := by
  simp only [drawnReference, SameDraws, List.map_inj_left, List.mem_range]
  constructor
  · intro same draw bound
    exact (referenceChar_eq_iff (Nat.mod_lt _ (by omega)) (Nat.mod_lt _ (by omega))).mp (same draw bound)
  · intro same draw bound
    rw [same draw bound]

theorem bookingReferences_succ (random : RandomGenerator) (bookings : Nat) :
    bookingReferences random (bookings + 1) =
      drawnReference random.values (random.drawn + 6 * bookings) :: bookingReferences random bookings := by
  simp [bookingReferences, List.range_succ]

namespace Session

/-- The invariant: as many bookings as cards, each made with its own six draws. -/
structure Booked (random : RandomGenerator) (session : Session ρ) : Prop where
  values : session.window.random.values = random.values
  cards : ∃ tickets,
    session.window.bookingReference.ticketLayout = BookingReference.cardsLayout tickets ∧
    session.window.random.drawn = random.drawn + 6 * tickets.length ∧
    tickets.map TicketInfo.bookingReference = bookingReferences random tickets.length

theorem searchClicked_booked (window : Window) (departure destination : QString) (date : QDate)
    (time : QTime) :
    ∃ ticket, ticket.bookingReference = drawnReference window.random.values window.random.drawn ∧
      window.searchClicked departure destination date time = { window with
        ticketInfo := ticket
        random := { window.random with drawn := window.random.drawn + 6 }
        bookingReference := window.bookingReference.addTicket ticket
        stacked := 1 } := by
  have drawn := generateBookingReference_eq window.random
  by_cases keyed : (window.isLoggedIn && !window.accountInfo.publicKey.isEmpty) = true
  · refine ⟨(TicketInfo.new departure destination date time window.random).1.setUserPublicKey
      window.accountInfo.publicKey, congrArg Prod.fst drawn, ?_⟩
    simp only [Window.searchClicked, if_pos keyed]
    exact congrArg _ (congrArg Prod.snd drawn)
  · refine ⟨(TicketInfo.new departure destination date time window.random).1, congrArg Prod.fst drawn, ?_⟩
    simp only [Window.searchClicked, if_neg keyed]
    exact congrArg _ (congrArg Prod.snd drawn)

theorem booked_start (random : RandomGenerator) (state : RnpState ρ) :
    Booked random (start rnp lib random state) :=
  ⟨rfl, [], rfl, rfl, rfl⟩

theorem booked_book {random : RandomGenerator} {session : Session ρ} (booked : Booked random session)
    (departure destination : QString) (date : QDate) (time : QTime) :
    Booked random { session with window := session.window.goClicked departure destination date time } := by
  obtain ⟨values, tickets, layout, drawn, references⟩ := booked
  simp only [Window.goClicked]
  by_cases incomplete : (trimmed departure).isEmpty || (trimmed destination).isEmpty
  · rw [if_pos incomplete]
    exact ⟨values, tickets, layout, drawn, references⟩
  · rw [if_neg incomplete]
    obtain ⟨ticket, reference, searched⟩ :=
      searchClicked_booked session.window (trimmed departure) (trimmed destination) date time
    rw [values, drawn] at reference
    have valid : ticket.isValid = true := by
      rw [TicketInfo.isValid, reference]
      rfl
    rw [searched]
    refine ⟨values, ticket :: tickets, ?_, ?_, ?_⟩
    · simp [BookingReference.addTicket, valid, layout, BookingReference.cardsLayout]
    · simp only [drawn, List.length_cons]
      omega
    · rw [List.map_cons, references, List.length_cons, bookingReferences_succ, reference]

theorem booked_of_same {random : RandomGenerator} {session session' : Session ρ}
    (booked : Booked random session) (sameRandom : session'.window.random = session.window.random)
    (sameLayout : session'.window.bookingReference.ticketLayout =
      session.window.bookingReference.ticketLayout) : Booked random session' := by
  obtain ⟨values, cards⟩ := booked
  rw [← sameRandom] at values
  rw [← sameRandom, ← sameLayout] at cards
  exact ⟨values, cards⟩

theorem loginStep_keeps (session : Session ρ) (email password : QString) (times : GenerationTimes) :
    (session.loginStep rnp lib email password times).window.random = session.window.random ∧
      (session.loginStep rnp lib email password times).window.bookingReference =
        session.window.bookingReference := by
  have cases := LoginPage.handleLogin_cases rnp lib { session.window.loginPage with email, password }
    (session.window.handleLoginSuccess rnp lib times) session.rnpState
  have kept : ((session.window.login rnp lib email password times).run session.rnpState).1.random =
        session.window.random ∧
      ((session.window.login rnp lib email password times).run session.rnpState).1.bookingReference =
        session.window.bookingReference := by
    rw [login_run]
    rcases cases with ⟨refused, _⟩ | ⟨keys, middle, _, _, _, handled, _⟩
    · simp only [refused, Option.getD_none, and_self]
    · obtain ⟨after, ran, _⟩ := handleLoginSuccess_run rnp lib session.window times
        ⟨trimmed email, keys.1, keys.2⟩ middle
      simp only [ran] at handled
      simp only [handled, Option.getD_some, and_self]
  simp only [loginStep]
  split
  · exact kept
  · exact kept

theorem booked_of_handled {random : RandomGenerator} {session after : Session ρ}
    (handled : Handled rnp lib session after) (booked : Booked random session) : Booked random after := by
  cases handled with
  | ignored => exact booked
  | login email password times =>
      obtain ⟨sameRandom, samePage⟩ := loginStep_keeps rnp lib session email password times
      exact booked_of_same booked sameRandom (congrArg _ samePage)
  | book departure destination date time => exact booked_book booked departure destination date time
  | viewTicket ticket now =>
      rw [viewStep_eq]
      exact booked_of_same booked rfl rfl
  | closeQRCode => exact booked_of_same booked rfl rfl
  | countdownTimeout => exact booked_of_same booked rfl rfl
  | refreshTimeout times active =>
      obtain ⟨after, refreshed, _⟩ := refreshStep_eq rnp lib session times active
      rw [refreshed]
      exact booked_of_same booked rfl rfl
  | navigate page => exact booked_of_same booked rfl rfl

theorem booked_step {random : RandomGenerator} (session : Session ρ) (event : WindowEvent)
    (booked : Booked random session) : Booked random (session.step rnp lib event) :=
  booked_of_handled rnp lib (step_handled rnp lib session event) booked

end Session

theorem bookingReferences_get (random : RandomGenerator) {bookings position : Nat}
    (bound : position < (bookingReferences random bookings).length) :
    (bookingReferences random bookings)[position] =
      drawnReference random.values (random.drawn + 6 * (bookings - 1 - position)) := by
  simp [bookingReferences]

theorem references_equal_iff (random : RandomGenerator) (state : RnpState ρ) (events : List WindowEvent) :
    ∃ tickets,
      (Session.run rnp lib (Session.start rnp lib random state) events).window.bookingReference.ticketLayout
        = BookingReference.cardsLayout tickets ∧
      tickets.map TicketInfo.bookingReference = bookingReferences random tickets.length ∧
      ∀ first second : Fin tickets.length,
        (tickets.get first).bookingReference = (tickets.get second).bookingReference ↔
          SameDraws random (tickets.length - 1 - first) (tickets.length - 1 - second) := by
  have booked : Session.Booked random
      (Session.run rnp lib (Session.start rnp lib random state) events) :=
    Runs.run_invariant (Session.booked_step rnp lib) (Session.booked_start rnp lib random state) events
  obtain ⟨_, tickets, layout, _, references⟩ := booked
  have reference (position : Fin tickets.length) : (tickets.get position).bookingReference =
      drawnReference random.values (random.drawn + 6 * (tickets.length - 1 - position)) := by
    have bound : position.val < (tickets.map TicketInfo.bookingReference).length := by simp
    have mapped : (tickets.map TicketInfo.bookingReference)[position.val] =
        (tickets.get position).bookingReference := by simp
    rw [← mapped]
    simp only [references, bookingReferences_get]
  refine ⟨tickets, layout, references, ?_⟩
  intro first second
  rw [reference, reference]
  exact drawnReference_eq_iff random _ _

theorem two_bookings_one_reference :
    let random : RandomGenerator := { values := fun _ => 0, drawn := 0 }
    let session := Session.run PlainRnp.rnp PlainRnp.library
      (Session.start PlainRnp.rnp PlainRnp.library random (PlainRnp.initialState 0)) [
        .login (text "a@b.ch") (text "pw") (Session.sampleTimes 100 100000),
        .book (text "Bern") (text "Basel") 0 0, .navigate .home, .book (text "Bern") (text "Chur") 0 0]
    session.window.bookingReference.ticketLayout.map (fun item => match item with
      | .card ticket => (ticket.destination, ticket.bookingReference)
      | .stretch => ([], [])) =
        [(text "Chur", text "AAAAAA"), (text "Basel", text "AAAAAA"), ([], [])] := by
  decide +kernel

end SbbTicketing
