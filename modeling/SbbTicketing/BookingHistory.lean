import SbbTicketing.HonestTokens
import SbbTicketing.LocationSelectionCore
import SbbTicketing.WindowState

/-! What the booking form shows and what the ticket list holds, in terms of the clicks so far:
a red border is an unanswered complaint, and the cards are the searches that went out. -/

namespace SbbTicketing

open Qt

variable {ρ : Type} (rnp : Rnp ρ) (lib : QtLibrary)

namespace Clicked

def search? : Clicked → Option Search
  | .refused _ => none
  | .search sent => some sent

def isRefused : Clicked → Bool
  | .refused _ => true
  | .search _ => false

def searches (clicked : List Clicked) : List Search := (clicked.filterMap search?).reverse

/-- The clicks after the last search, the latest first. -/
def sinceSearch (clicked : List Clicked) : List Clicked := clicked.reverse.takeWhile isRefused

theorem searches_concat (clicked : List Clicked) (last : Clicked) :
    searches (clicked ++ [last]) = last.search?.toList ++ searches clicked := by
  cases last <;> simp [searches, search?]

theorem sinceSearch_concat (clicked : List Clicked) (last : Clicked) :
    sinceSearch (clicked ++ [last]) = if last.isRefused then last :: sinceSearch clicked else [] := by
  simp [sinceSearch, List.takeWhile_cons]

end Clicked

structure Search.Complete (search : Search) : Prop where
  departs : search.departure ≠ [] ∧ trimmed search.departure = search.departure
  arrives : search.destination ≠ [] ∧ trimmed search.destination = search.destination

def TicketInfo.IsFor (ticket : TicketInfo) (search : Search) : Prop :=
  ticket.departure = search.departure ∧ ticket.destination = search.destination ∧
    ticket.date = some search.date ∧ ticket.time = some search.time

namespace LocationSelection

/-- The borders tell the complaints since the last search. -/
structure Tells (form : LocationSelection) (clicked : List Clicked) : Prop where
  departure : form.departureBorder = .red ↔ .refused .departure ∈ Clicked.sinceSearch clicked
  destination : form.destinationBorder = .red ↔ .refused .destination ∈ Clicked.sinceSearch clicked

variable {form : LocationSelection} {clicked : List Clicked}

theorem tells_enter (tells : form.Tells clicked) (input : FormInput) : (form.enter input).Tells clicked := by
  obtain ⟨departure, destination⟩ := tells
  cases input <;> exact ⟨departure, destination⟩

theorem tells_goClicked (tells : form.Tells clicked) :
    form.goClicked.1.Tells (clicked ++ [form.goClicked.2]) := by
  obtain ⟨departure, destination⟩ := tells
  simp only [goClicked]
  split_ifs with noDeparture noDestination
  · exact ⟨by simp [Clicked.sinceSearch_concat, Clicked.isRefused],
      by simp [Clicked.sinceSearch_concat, Clicked.isRefused, destination]⟩
  · exact ⟨by simp [Clicked.sinceSearch_concat, Clicked.isRefused, departure],
      by simp [Clicked.sinceSearch_concat, Clicked.isRefused]⟩
  · exact ⟨by simp [Clicked.sinceSearch_concat, Clicked.isRefused],
      by simp [Clicked.sinceSearch_concat, Clicked.isRefused]⟩

theorem tells_clear (tells : form.Tells clicked) (currentDate : QDate) (currentTime : QTime) :
    (form.clear currentDate currentTime).Tells clicked := by
  obtain ⟨departure, destination⟩ := tells
  exact ⟨departure, destination⟩

theorem complete_of_search {search : Search} (sent : form.goClicked.2 = .search search) : search.Complete := by
  simp only [goClicked] at sent
  split_ifs at sent with noDeparture noDestination
  cases sent
  simp only [List.isEmpty_iff] at noDeparture noDestination
  exact ⟨⟨noDeparture, trimmed_trimmed _⟩, ⟨noDestination, trimmed_trimmed _⟩⟩

end LocationSelection

namespace BookingReference

def listing (page : BookingReference) : List LayoutItem × Bool × Bool :=
  (page.ticketLayout, page.noTicketLabelHidden, page.scrollAreaHidden)

theorem showsList_of_listing {page other : BookingReference} (same : other.listing = page.listing)
    {tickets : List TicketInfo} (shows : page.ShowsList tickets) : other.ShowsList tickets := by
  obtain ⟨layout, label, scrollArea⟩ := shows
  simp only [listing, Prod.mk.injEq] at same
  obtain ⟨sameLayout, sameLabel, sameArea⟩ := same
  exact ⟨sameLayout.trans layout, sameLabel ▸ label, sameArea ▸ scrollArea⟩

theorem showsList_addTicket {page : BookingReference} {tickets : List TicketInfo}
    (shows : page.ShowsList tickets) {ticket : TicketInfo} (valid : ticket.isValid = true) :
    (page.addTicket ticket).ShowsList (ticket :: tickets) := by
  obtain ⟨layout, label, scrollArea⟩ := shows
  simp only [addTicket, valid, Bool.not_true, Bool.false_eq_true, ↓reduceIte]
  exact ⟨by simp [layout, cardsLayout], by simp, by simp⟩

end BookingReference

namespace Session

variable {lib} {session : Session ρ}

theorem listing_step (phased : session.Phased lib) {event : WindowEvent} (other : event.isBooking = false) :
    (session.step rnp lib event).window.bookingReference.listing =
      session.window.bookingReference.listing := by
  cases event with
  | login email password times =>
      simp only [step]
      split_ifs with shown
      · rcases phased with ⟨random, out⟩ | ⟨record, inside⟩
        · rcases loginStep_outcome rnp lib out.ready out.isLoggedIn email password times with
            ⟨message, _, after, failed⟩ | ⟨keys, _, signature, after, made⟩
          · rw [failed]
          · rw [made]
        · simp [inside.shown.2.1] at shown
      · rfl
  | book departure destination date time => cases other
  | viewTicket position now =>
      simp only [step]
      split
      · split_ifs with shown
        · rw [viewStep_eq]
          rfl
        · rfl
      · rfl
  | closeQRCode =>
      simp only [step]
      split_ifs <;> rfl
  | countdownTimeout => rfl
  | refreshTimeout times =>
      simp only [step]
      split_ifs with active
      · obtain ⟨after, refreshed, _⟩ := refreshStep_eq rnp lib session times active
        rw [refreshed]
      · rfl
  | navigate button =>
      simp only [step]
      split_ifs <;> rfl

end Session

namespace BookingWindow

variable {rnp lib} {window : BookingWindow ρ} {clicked : List Clicked}

theorem goClicked_refused {field : FormField} (refused : window.form.goClicked.2 = .refused field)
    (currentDate : QDate) (currentTime : QTime) :
    window.goClicked currentDate currentTime = { window with form := window.form.goClicked.1 } := by
  simp only [goClicked, refused]

theorem goClicked_search {search : Search} (sent : window.form.goClicked.2 = .search search)
    (currentDate : QDate) (currentTime : QTime) :
    window.goClicked currentDate currentTime =
      searchClicked { window with form := window.form.goClicked.1 } search currentDate currentTime := by
  simp only [goClicked, sent]

/-- What an event is to the window without the form. -/
def sent (window : BookingWindow ρ) (event : BookingEvent) : List WindowEvent :=
  match event with
  | .other event => if event.isBooking then [] else [event]
  | event => (window.clicks event).filterMap fun clicked => clicked.search?.map fun search =>
      .book search.departure search.destination search.date search.time

theorem session_step (window : BookingWindow ρ) (event : BookingEvent) :
    (window.step rnp lib event).session = Session.run rnp lib window.session (window.sent event) := by
  cases event with
  | enter input =>
      simp only [step]
      split <;> rfl
  | other event =>
      simp only [step, sent]
      split <;> rfl
  | goClicked currentDate currentTime =>
      by_cases shown : window.session.onPage 0 = true
      · cases outcome : window.form.goClicked.2 with
        | refused field =>
            simp only [step, shown, ↓reduceIte, goClicked_refused outcome]
            simp [sent, clicks, shown, outcome, Clicked.search?, Session.run]
        | search search =>
            have complete := LocationSelection.complete_of_search outcome
            simp only [step, shown, ↓reduceIte, goClicked_search outcome]
            simp [sent, clicks, shown, outcome, Clicked.search?, Session.run, Session.step, searchClicked,
              Window.goClicked, complete.departs, complete.arrives]
      · simp [step, sent, clicks, shown, Session.run]

/-- The form tells the complaints, the list holds the searches, and each of them is complete. -/
structure History (lib : QtLibrary) (clicked : List Clicked) (window : BookingWindow ρ) : Prop where
  phased : window.session.Phased lib
  form : window.form.Tells clicked
  cards : ∃ cards, window.session.window.bookingReference.ShowsList cards ∧
    List.Forall₂ TicketInfo.IsFor cards (Clicked.searches clicked)
  complete : ∀ search ∈ Clicked.searches clicked, search.Complete

theorem history_goClicked (history : window.History lib clicked) (shown : window.session.onPage 0 = true)
    (currentDate : QDate) (currentTime : QTime)
    (phased : (window.goClicked currentDate currentTime).session.Phased lib) :
    (window.goClicked currentDate currentTime).History lib (clicked ++ [window.form.goClicked.2]) := by
  obtain ⟨cards, shows, each⟩ := history.cards
  have tells := LocationSelection.tells_goClicked history.form
  cases outcome : window.form.goClicked.2 with
  | refused field =>
      rw [outcome] at tells
      rw [goClicked_refused outcome] at phased ⊢
      have same : Clicked.searches (clicked ++ [.refused field]) = Clicked.searches clicked :=
        Clicked.searches_concat clicked _
      exact ⟨phased, tells, ⟨cards, shows, same ▸ each⟩, same ▸ history.complete⟩
  | search search =>
      rw [outcome] at tells
      rw [goClicked_search outcome] at phased ⊢
      have complete := LocationSelection.complete_of_search outcome
      have more : Clicked.searches (clicked ++ [.search search]) = search :: Clicked.searches clicked :=
        Clicked.searches_concat clicked _
      obtain ⟨_, inside⟩ := Session.inside_of_onPage history.phased shown
      obtain ⟨ticket, random, booked, about, searched⟩ := Session.searchClicked_ticket inside.shown.1
        complete.departs complete.arrives search.date search.time
      refine ⟨phased, LocationSelection.tells_clear tells currentDate currentTime, ⟨ticket :: cards, ?_, ?_⟩, ?_⟩
      · simp only [searchClicked, searched]
        exact BookingReference.showsList_addTicket shows booked.isValid
      · rw [more]
        exact .cons about each
      · rw [more]
        exact List.forall_mem_cons.mpr ⟨complete, history.complete⟩

theorem history_step (clicked : List Clicked) (window : BookingWindow ρ) (event : BookingEvent)
    (history : window.History lib clicked) :
    (window.step rnp lib event).History lib (clicked ++ window.clicks event) := by
  have phased : (window.step rnp lib event).session.Phased lib := by
    rw [session_step]
    exact Session.phased_run rnp history.phased _
  obtain ⟨cards, shows, each⟩ := history.cards
  cases event with
  | enter input =>
      simp only [step, clicks, List.append_nil] at phased ⊢
      split
      · exact ⟨history.phased, LocationSelection.tells_enter history.form input, history.cards, history.complete⟩
      · exact history
  | other event =>
      simp only [step, clicks, List.append_nil] at phased ⊢
      by_cases booking : event.isBooking = true
      · rw [if_pos booking]
        exact history
      · rw [if_neg booking] at phased ⊢
        have same := Session.listing_step rnp history.phased (by simpa using booking)
        exact ⟨phased, history.form, ⟨cards, BookingReference.showsList_of_listing same shows, each⟩,
          history.complete⟩
  | goClicked currentDate currentTime =>
      by_cases shown : window.session.onPage 0 = true
      · simp only [step, clicks, shown, ↓reduceIte] at phased ⊢
        exact history_goClicked history shown currentDate currentTime phased
      · simp only [step, clicks, shown, Bool.false_eq_true, ↓reduceIte, List.append_nil] at phased ⊢
        exact history

theorem history_start (random : RandomGenerator) (state : RnpState ρ) (currentDate : QDate)
    (currentTime : QTime) : (start rnp lib random state currentDate currentTime).History lib [] where
  phased := Or.inl ⟨random, Session.loggedOut_start rnp random state⟩
  form := ⟨by simp [start, LocationSelection.new, Clicked.sinceSearch],
    by simp [start, LocationSelection.new, Clicked.sinceSearch]⟩
  cards := ⟨[], ⟨rfl, iff_of_true rfl rfl, iff_of_false Bool.true_eq_false.mp (by simp)⟩, .nil⟩
  complete := by simp [Clicked.searches]

/-- What is in the two fields has been typed, if anything is. -/
structure Typed (events : List BookingEvent) (window : BookingWindow ρ) : Prop where
  departure : window.form.departureEdit = [] ∨ .enter (.departure window.form.departureEdit) ∈ events
  destination : window.form.destinationEdit = [] ∨ .enter (.destination window.form.destinationEdit) ∈ events

theorem goClicked_fields (window : BookingWindow ρ) (currentDate : QDate) (currentTime : QTime) :
    let form := (window.goClicked currentDate currentTime).form
    form.departureEdit = [] ∧ form.destinationEdit = [] ∨
      form.departureEdit = window.form.departureEdit ∧ form.destinationEdit = window.form.destinationEdit := by
  cases outcome : window.form.goClicked.2 with
  | search search =>
      rw [goClicked_search outcome]
      exact Or.inl ⟨rfl, rfl⟩
  | refused field =>
      rw [goClicked_refused outcome]
      right
      simp only [LocationSelection.goClicked]
      split_ifs <;> exact ⟨rfl, rfl⟩

theorem typed_run {events : List BookingEvent} (typed : window.Typed events) :
    (run rnp lib window events).Typed events := by
  refine Runs.run_invariant_of_mem (fun window event member typed => ?_) typed
  obtain ⟨departure, destination⟩ := typed
  cases event with
  | enter input =>
      simp only [step]
      split_ifs
      · cases input with
        | departure text => exact ⟨Or.inr member, destination⟩
        | destination text => exact ⟨departure, Or.inr member⟩
        | date date => exact ⟨departure, destination⟩
        | time time => exact ⟨departure, destination⟩
      · exact ⟨departure, destination⟩
  | goClicked currentDate currentTime =>
      simp only [step]
      split_ifs
      · rcases window.goClicked_fields currentDate currentTime with
          ⟨noDeparture, noDestination⟩ | ⟨sameDeparture, sameDestination⟩
        · exact ⟨Or.inl noDeparture, Or.inl noDestination⟩
        · exact ⟨sameDeparture ▸ departure, sameDestination ▸ destination⟩
      · exact ⟨departure, destination⟩
  | other event =>
      simp only [step]
      split_ifs <;> exact ⟨departure, destination⟩

theorem clicks_search {search : Search} {currentDate : QDate} {currentTime : QTime}
    (sent : window.clicks (.goClicked currentDate currentTime) = [.search search]) :
    window.session.onPage 0 = true ∧ window.form.goClicked.2 = .search search := by
  simp only [clicks] at sent
  split_ifs at sent with shown
  exact ⟨shown, List.cons.inj sent |>.1⟩

end BookingWindow

/-- Whatever is typed and clicked, the window with the form is the window without it, given the
searches that went out. Each of them names both stations and has its card, the latest first; a
border is red if and only if the field was found blank after the last search. -/
theorem bookings_listed (random : RandomGenerator) (state : RnpState ρ) (currentDate : QDate)
    (currentTime : QTime) (events : List BookingEvent) :
    let start := BookingWindow.start rnp lib random state currentDate currentTime
    let last := BookingWindow.run rnp lib start events
    let clicked := Simulations.emitted (BookingWindow.step rnp lib) BookingWindow.clicks start events
    last.session = Session.run rnp lib (Session.start rnp lib random state)
      (Simulations.emitted (BookingWindow.step rnp lib) BookingWindow.sent start events) ∧
    (∃ cards, last.session.window.bookingReference.ShowsList cards ∧
      List.Forall₂ TicketInfo.IsFor cards (Clicked.searches clicked)) ∧
    (∀ search ∈ Clicked.searches clicked, search.Complete) ∧
    (last.form.departureBorder = .red ↔ .refused .departure ∈ Clicked.sinceSearch clicked) ∧
    (last.form.destinationBorder = .red ↔ .refused .destination ∈ Clicked.sinceSearch clicked) := by
  intro start last clicked
  have history : last.History lib clicked := Simulations.emitted_history
    (BookingWindow.history_start random state currentDate currentTime) BookingWindow.history_step events
  refine ⟨?_, history.cards, history.complete, history.form.departure, history.form.destination⟩
  exact Simulations.run_emitted BookingWindow.session_step start events

/-- A second click books nothing by itself: between two searches both stations of the second have
been typed. -/
theorem no_double_booking (window : BookingWindow ρ) (first second : Search) (between : List BookingEvent)
    (firstDate secondDate : QDate) (firstTime secondTime : QTime)
    (sent : window.clicks (.goClicked firstDate firstTime) = [.search first])
    (again : (BookingWindow.run rnp lib (window.step rnp lib (.goClicked firstDate firstTime)) between).clicks
      (.goClicked secondDate secondTime) = [.search second]) :
    (∃ text, .enter (.departure text) ∈ between ∧ trimmed text = second.departure ∧ second.departure ≠ []) ∧
    ∃ text, .enter (.destination text) ∈ between ∧ trimmed text = second.destination ∧
      second.destination ≠ [] := by
  obtain ⟨shown, outcome⟩ := BookingWindow.clicks_search sent
  have cleared : (window.step rnp lib (.goClicked firstDate firstTime)).Typed between := by
    simp only [BookingWindow.step, shown, ↓reduceIte, BookingWindow.goClicked_search outcome]
    exact ⟨Or.inl rfl, Or.inl rfl⟩
  have typed : (BookingWindow.run rnp lib _ between).Typed between := BookingWindow.typed_run cleared
  obtain ⟨_, resent⟩ := BookingWindow.clicks_search again
  have complete := LocationSelection.complete_of_search resent
  simp only [LocationSelection.goClicked] at resent
  split_ifs at resent with noDeparture noDestination
  cases resent
  have filled {field : QString} (visible : trimmed field ≠ []) : field ≠ [] := by
    rintro rfl
    exact visible rfl
  exact ⟨⟨_, typed.departure.resolve_left (filled complete.departs.1), rfl, complete.departs.1⟩,
    ⟨_, typed.destination.resolve_left (filled complete.arrives.1), rfl, complete.arrives.1⟩⟩

namespace BookingWindow

def sample : BookingWindow Nat :=
  run PlainRnp.rnp PlainRnp.library
    (start PlainRnp.rnp PlainRnp.library Session.sampleRandom (PlainRnp.initialState 0) 0 0)
    [.other (.login (text "a@b.ch") (text "pw") (Session.sampleTimes 100 100000)),
      .enter (.departure (text "Bern")), .goClicked 0 0, .enter (.destination (text "Basel "))]

def sampleBetween : List BookingEvent := [.other (.navigate .home), .goClicked 1 1,
  .enter (.departure (text " Thun")), .enter (.destination (text "Chur"))]

end BookingWindow

theorem no_double_booking_sample :
    ∃ typed, .enter (.departure typed) ∈ BookingWindow.sampleBetween ∧ trimmed typed = text "Thun" := by
  obtain ⟨⟨typed, member, named, _⟩, _⟩ := no_double_booking PlainRnp.rnp PlainRnp.library
    BookingWindow.sample ⟨text "Bern", text "Basel", 0, 0⟩ ⟨text "Thun", text "Chur", 2, 2⟩
    BookingWindow.sampleBetween 2 2 2 2 (by decide +kernel) (by decide +kernel)
  exact ⟨typed, member, named⟩

end SbbTicketing
