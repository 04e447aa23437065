import SbbTicketing.Simulations
import SbbTicketing.WindowCore

/-! `LocationSelection`, the booking form, and the user window with the form on its first page.
What is typed stays in the form until a search goes out, and then the window clears it. -/

namespace SbbTicketing

open Qt

variable {ρ : Type} (rnp : Rnp ρ) (lib : QtLibrary)

/-- The colour of a field's border while another field has the focus. -/
inductive Border
  | grey | red
  deriving DecidableEq, Repr

structure LocationSelection where
  departureEdit : QString
  departureBorder : Border
  destinationEdit : QString
  destinationBorder : Border
  dateEdit : QDate
  timeEdit : QTime
  deriving DecidableEq, Repr

inductive FormField
  | departure | destination
  deriving DecidableEq, Repr

/-- What `searchClicked` is emitted with. -/
structure Search where
  departure : QString
  destination : QString
  date : QDate
  time : QTime
  deriving DecidableEq, Repr

/-- What a click of the button comes to: a field is found blank, or a search goes out. -/
inductive Clicked
  | refused (field : FormField)
  | search (search : Search)
  deriving DecidableEq, Repr

inductive FormInput
  | departure (text : QString)
  | destination (text : QString)
  | date (date : QDate)
  | time (time : QTime)

namespace LocationSelection

def new (currentDate : QDate) (currentTime : QTime) : LocationSelection where
  departureEdit := []
  departureBorder := .grey
  destinationEdit := []
  destinationBorder := .grey
  dateEdit := currentDate
  timeEdit := currentTime

def enter (form : LocationSelection) : FormInput → LocationSelection
  | .departure text => { form with departureEdit := text }
  | .destination text => { form with destinationEdit := text }
  | .date date => { form with dateEdit := date }
  | .time time => { form with timeEdit := time }

def goClicked (form : LocationSelection) : LocationSelection × Clicked :=
  let departure := trimmed form.departureEdit
  let destination := trimmed form.destinationEdit
  if departure.isEmpty then ({ form with departureBorder := .red }, .refused .departure)
  else if destination.isEmpty then ({ form with destinationBorder := .red }, .refused .destination)
  else
    -- only a search makes the borders grey again
    ({ form with departureBorder := .grey, destinationBorder := .grey },
      .search { departure, destination, date := form.dateEdit, time := form.timeEdit })

def clear (form : LocationSelection) (currentDate : QDate) (currentTime : QTime) : LocationSelection :=
  { form with departureEdit := [], destinationEdit := [], dateEdit := currentDate, timeEdit := currentTime }

end LocationSelection

structure BookingWindow (ρ : Type) where
  session : Session ρ
  form : LocationSelection

inductive BookingEvent
  | enter (input : FormInput)
  | goClicked (currentDate : QDate) (currentTime : QTime)
  | other (event : WindowEvent)

/-- In a window with a form a booking is a click in the form. -/
def WindowEvent.isBooking : WindowEvent → Bool
  | .book .. => true
  | _ => false

namespace BookingWindow

def start (random : RandomGenerator) (state : RnpState ρ) (currentDate : QDate) (currentTime : QTime) :
    BookingWindow ρ where
  session := Session.start rnp lib random state
  form := LocationSelection.new currentDate currentTime

/-- The slot of the search: the ticket is listed, the form cleared and the ticket page shown. -/
def searchClicked (window : BookingWindow ρ) (search : Search) (currentDate : QDate) (currentTime : QTime) :
    BookingWindow ρ where
  session := { window.session with window :=
    window.session.window.searchClicked search.departure search.destination search.date search.time }
  form := window.form.clear currentDate currentTime

def goClicked (window : BookingWindow ρ) (currentDate : QDate) (currentTime : QTime) : BookingWindow ρ :=
  let (form, clicked) := window.form.goClicked
  match clicked with
  | .refused _ => { window with form }
  | .search search => searchClicked { window with form } search currentDate currentTime

def step (window : BookingWindow ρ) : BookingEvent → BookingWindow ρ
  | .enter input =>
      if window.session.onPage 0 then { window with form := window.form.enter input } else window
  | .goClicked currentDate currentTime =>
      if window.session.onPage 0 then window.goClicked currentDate currentTime else window
  | .other event =>
      if event.isBooking then window else { window with session := window.session.step rnp lib event }

def run : BookingWindow ρ → List BookingEvent → BookingWindow ρ := Runs.run (step rnp lib)

/-- What a click of the button comes to, if the event is one. -/
def clicks (window : BookingWindow ρ) : BookingEvent → List Clicked
  | .goClicked .. => if window.session.onPage 0 then [window.form.goClicked.2] else []
  | _ => []

end BookingWindow

end SbbTicketing
