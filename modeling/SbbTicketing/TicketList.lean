import SbbTicketing.StaticTickets

/-! The ticket page as a list: what its layout, its labels and its overlay show after any run
of bookings, views and clearing, told from the events alone. -/

namespace SbbTicketing

open Qt

variable {ρ : Type} (rnp : Rnp ρ) (lib : QtLibrary)

namespace PageEvent

def clears : PageEvent → Bool
  | .clearTickets => true
  | _ => false

def added : PageEvent → Option TicketInfo
  | .addTicket ticket => if ticket.isValid then some ticket else none
  | _ => none

end PageEvent

/-- The valid tickets added since the last clearing, newest first: the events read backwards. -/
def listedTickets (events : List PageEvent) : List TicketInfo :=
  (events.reverse.takeWhile fun event => !event.clears).filterMap PageEvent.added

theorem listedTickets_snoc (events : List PageEvent) (event : PageEvent) :
    listedTickets (events ++ [event]) =
      if event.clears then [] else event.added.toList ++ listedTickets events := by
  rw [listedTickets, List.reverse_append]
  by_cases clearing : event.clears = true
  · simp [clearing]
  · cases found : event.added with
    | none => simp [clearing, found, listedTickets]
    | some ticket => simp [clearing, found, listedTickets]

namespace BookingReference

def cardsLayout (tickets : List TicketInfo) : List LayoutItem :=
  tickets.map .card ++ [.stretch]

theorem takeCards_cardsLayout (tickets : List TicketInfo) :
    takeCards (cardsLayout tickets) = (cardsLayout tickets).drop tickets.length := by
  induction tickets with
  | nil => rfl
  | cons ticket rest ih =>
      rw [List.length_cons, cardsLayout, List.map_cons, List.cons_append, List.drop_succ_cons, ← cardsLayout,
        ← ih]
      cases rest with
      | nil => rfl
      | cons next others => rfl

theorem drop_cardsLayout (tickets : List TicketInfo) :
    (cardsLayout tickets).drop tickets.length = [.stretch] := by
  rw [cardsLayout, List.drop_left' (by simp)]

structure ShowsList (page : BookingReference) (tickets : List TicketInfo) : Prop where
  layout : page.ticketLayout = cardsLayout tickets
  label : page.noTicketLabelHidden = false ↔ tickets = []
  scrollArea : page.scrollAreaHidden = false ↔ tickets ≠ []

/-- The overlay is about the current ticket: the code, the title and the name of a download. -/
structure ShowsCurrent (page : BookingReference) : Prop where
  code : ∃ qrData, page.qrImage = some qrData ∧ (qrData = page.currentTicket.bookingReference ∨
    ∃ timestamp signature, qrData = ticketCode page.currentTicket.bookingReference timestamp
      (keyHash lib page.currentTicket.userPublicKey) signature)
  title : page.qrTitle = text "Ticket: " ++ page.currentTicket.bookingReference
  download : ∀ timestamp, page.downloadCurrentQRCode timestamp =
    .ok (text "Ticket_" ++ page.currentTicket.bookingReference ++ text "_" ++ timestamp ++ text ".png")

theorem ticketData_form {page : BookingReference} {ticket : TicketInfo} {now : Int64} {state : RnpState ρ}
    {qrData : QString} (made : ((page.ticketData rnp lib ticket now).run.run state).1.toOption = some qrData) :
    ∃ timestamp signature, qrData =
      ticketCode ticket.bookingReference timestamp (keyHash lib ticket.userPublicKey) signature := by
  cases company : page.companyInfo with
  | none =>
      simp only [ticketData, company] at made
      cases made
  | some companyInfo =>
      by_cases valid : companyInfo.isValid = true
      · by_cases unsigned : ticket.signedData = []
        · rw [(ticketData_unsigned rnp lib company valid unsigned now state).1,
            Option.map_eq_some_iff] at made
          obtain ⟨bytes, _, rfl⟩ := made
          exact ⟨_, _, rfl⟩
        · rw [ticketData_signed rnp lib company valid unsigned] at made
          exact ⟨_, _, (Option.some.inj made).symm⟩
      · simp only [ticketData, company, valid] at made
        cases made

theorem download_eq {page : BookingReference} {qrData : QString} (shown : page.qrImage = some qrData)
    (valid : page.currentTicket.isValid = true) (timestamp : QString) :
    page.downloadCurrentQRCode timestamp =
      .ok (text "Ticket_" ++ page.currentTicket.bookingReference ++ text "_" ++ timestamp ++ text ".png") := by
  have plainRef : '%' ∉ page.currentTicket.bookingReference := IsMark.percent.not_mem_reference _
  have first : arg (text "Ticket_%1_%2.png") page.currentTicket.bookingReference =
      (text "Ticket_" ++ page.currentTicket.bookingReference ++ text "_") ++ text "%2.png" := by
    rw [show text "Ticket_%1_%2.png" = text "Ticket_" ++ text "%1_%2.png" from rfl, arg_append (by decide)]
    rw [show arg (text "%1_%2.png") page.currentTicket.bookingReference =
      page.currentTicket.bookingReference ++ text "_%2.png" from rfl]
    simp [text]
  rw [downloadCurrentQRCode, shown, valid, first, arg_append (by simp [text, plainRef])]
  rw [show arg (text "%2.png") timestamp = timestamp ++ text ".png" from rfl]
  simp

theorem showsCurrent_showQRCode (page : BookingReference) {ticket : TicketInfo}
    (valid : ticket.isValid = true) (now : Int64) (state : RnpState ρ) :
    ((page.showQRCode rnp lib ticket now).run state).1.ShowsCurrent lib := by
  rw [showQRCode_run]
  refine ⟨⟨_, rfl, ?_⟩, rfl, download_eq rfl valid⟩
  cases made : ((page.ticketData rnp lib ticket now).run.run state).1.toOption with
  | none => exact Or.inl rfl
  | some qrData => exact Or.inr (ticketData_form rnp lib made)

end BookingReference

theorem isValid_of_listed {events : List PageEvent} {ticket : TicketInfo}
    (member : ticket ∈ listedTickets events) : ticket.isValid = true := by
  rw [listedTickets, List.mem_filterMap] at member
  obtain ⟨event, _, added⟩ := member
  cases event with
  | addTicket other =>
      simp only [PageEvent.added] at added
      by_cases valid : other.isValid = true
      · rw [if_pos valid, Option.some.injEq] at added
        rw [← added]
        exact valid
      · simp [valid] at added
  | clearTickets => cases added
  | openCard position now => cases added
  | close => cases added

namespace PageRun

/-- A page that was just constructed, with or without the company's keys. -/
def opened (companyInfo : Option CompanyInfo) (state : RnpState ρ) : PageRun ρ where
  page := { BookingReference.new with companyInfo }
  rnpState := state
  views := []

structure Listing (events : List PageEvent) (run : PageRun ρ) : Prop where
  list : run.page.ShowsList (listedTickets events)
  current : run.views ≠ [] → run.page.ShowsCurrent lib

theorem listing_opened (companyInfo : Option CompanyInfo) (state : RnpState ρ) :
    Listing lib [] (opened companyInfo state) := by
  refine ⟨⟨rfl, ?_, ?_⟩, ?_⟩
  · exact iff_of_true rfl rfl
  · exact iff_of_false (by simp [opened, BookingReference.new]) fun given => given rfl
  · intro viewed
    exact absurd rfl viewed

theorem card_listed {events : List PageEvent} {run : PageRun ρ} (listing : Listing lib events run)
    {position : Nat} {ticket : TicketInfo}
    (found : run.page.ticketLayout[position]? = some (.card ticket)) : ticket ∈ listedTickets events := by
  have member := List.mem_of_getElem? found
  rw [listing.list.layout, BookingReference.cardsLayout] at member
  simpa using member

theorem list_step (events : List PageEvent) (run : PageRun ρ) (event : PageEvent)
    (listing : Listing lib events run) :
    (run.step rnp lib event).page.ShowsList (listedTickets (events ++ [event])) := by
  have next := listedTickets_snoc events event
  obtain ⟨layout, label, scrollArea⟩ := listing.list
  cases event with
  | addTicket ticket =>
      by_cases valid : ticket.isValid = true
      · have grown : listedTickets (events ++ [.addTicket ticket]) = ticket :: listedTickets events := by
          simpa [PageEvent.clears, PageEvent.added, valid] using next
        rw [grown]
        simp only [step, BookingReference.addTicket, valid]
        refine ⟨?_, by simp, by simp⟩
        simp [layout, BookingReference.cardsLayout]
      · have same : listedTickets (events ++ [.addTicket ticket]) = listedTickets events := by
          simpa [PageEvent.clears, PageEvent.added, valid] using next
        rw [same]
        simp only [step, BookingReference.addTicket, valid]
        exact ⟨layout, label, scrollArea⟩
  | clearTickets =>
      have cleared : listedTickets (events ++ [.clearTickets]) = [] := next
      rw [cleared]
      simp only [step, BookingReference.clearTickets]
      refine ⟨?_, by simp, by simp⟩
      rw [layout, BookingReference.takeCards_cardsLayout, BookingReference.drop_cardsLayout]
      rfl
  | openCard position now =>
      have same : listedTickets (events ++ [.openCard position now]) = listedTickets events := next
      rw [same]
      simp only [step]
      split
      · rw [BookingReference.showQRCode_run]
        exact ⟨layout, label, scrollArea⟩
      · exact ⟨layout, label, scrollArea⟩
  | close =>
      have same : listedTickets (events ++ [.close]) = listedTickets events := next
      rw [same]
      exact ⟨layout, label, scrollArea⟩

theorem current_step (events : List PageEvent) (run : PageRun ρ) (event : PageEvent)
    (listing : Listing lib events run) (viewed : (run.step rnp lib event).views ≠ []) :
    (run.step rnp lib event).page.ShowsCurrent lib := by
  cases event with
  | addTicket ticket =>
      obtain ⟨code, title, download⟩ := listing.current viewed
      simp only [step, BookingReference.addTicket]
      by_cases valid : ticket.isValid = true
      · simp only [valid]
        exact ⟨code, title, download⟩
      · simp only [valid]
        exact ⟨code, title, download⟩
  | clearTickets =>
      obtain ⟨code, title, download⟩ := listing.current viewed
      exact ⟨code, title, download⟩
  | openCard position now =>
      simp only [step] at viewed ⊢
      split at viewed
      · rename_i ticket found
        exact BookingReference.showsCurrent_showQRCode rnp lib run.page
          (isValid_of_listed (card_listed lib listing found)) now run.rnpState
      · exact listing.current viewed
  | close =>
      obtain ⟨code, title, download⟩ := listing.current viewed
      exact ⟨code, title, download⟩

theorem listing_step (events : List PageEvent) (run : PageRun ρ) (event : PageEvent)
    (listing : Listing lib events run) : Listing lib (events ++ [event]) (run.step rnp lib event) :=
  ⟨list_step rnp lib events run event listing, current_step rnp lib events run event listing⟩

end PageRun

theorem ticket_list_integrity (companyInfo : Option CompanyInfo) (state : RnpState ρ)
    (events : List PageEvent) :
    let shown := PageRun.run rnp lib (PageRun.opened companyInfo state) events
    let tickets := listedTickets events
    shown.page.ShowsList tickets ∧
    BookingReference.takeCards shown.page.ticketLayout = shown.page.ticketLayout.drop tickets.length ∧
    shown.page.ticketLayout.take tickets.length = tickets.map .card ∧
    (shown.views ≠ [] → shown.page.ShowsCurrent lib) := by
  intro shown tickets
  have listing : PageRun.Listing lib events shown :=
    Runs.run_history (PageRun.listing_opened lib companyInfo state) (PageRun.listing_step rnp lib) events
  refine ⟨listing.list, ?_, ?_, listing.current⟩
  · rw [listing.list.layout]
    exact BookingReference.takeCards_cardsLayout tickets
  · rw [listing.list.layout, BookingReference.cardsLayout]
    exact List.take_left' (List.length_map _)

end SbbTicketing
