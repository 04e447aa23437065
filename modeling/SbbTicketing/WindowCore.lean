import SbbTicketing.IdentificationTokenCore
import SbbTicketing.Runs
import SbbTicketing.TicketCore

/-! The user application: one window with a login page and, behind it, the booking form, the
ticket list and the identity token. A widget of a page that is not shown gets no clicks. -/

namespace SbbTicketing

open Qt

variable {ρ : Type} (rnp : Rnp ρ) (lib : QtLibrary)

structure Window where
  loginPage : LoginPage
  companyInfo : CompanyInfo
  bookingReference : BookingReference
  identificationToken : IdentificationToken
  ticketInfo : TicketInfo
  accountInfo : AccountInfo
  isLoggedIn : Bool
  mainStacked : Nat
  stacked : Nat
  random : RandomGenerator

namespace Window

/-- The company's keys are a member, so they are generated before anything else. -/
def new (random : RandomGenerator) : RnpM ρ Window := do
  let companyInfo ← CompanyInfo.generateKeys rnp lib
  return {
    loginPage := LoginPage.new
    companyInfo
    bookingReference := BookingReference.new.setCompanyInfo companyInfo
    identificationToken := IdentificationToken.new
    ticketInfo := TicketInfo.unset
    accountInfo := { email := [], publicKey := [], privateKey := [] }
    isLoggedIn := false
    mainStacked := 0
    stacked := 0
    random }

def handleLoginSuccess (window : Window) (times : GenerationTimes) (account : AccountInfo) :
    RnpM ρ Window := do
  let window := { window with accountInfo := account, isLoggedIn := true }
  let identificationToken ← window.identificationToken.setIdentificationToken rnp lib
    account.publicKey account.privateKey times
  return { window with identificationToken, mainStacked := 1 }

def login (window : Window) (email password : QString) (times : GenerationTimes) : RnpM ρ Window := do
  let page := { window.loginPage with email, password }
  let (loginPage, handled) ← page.handleLogin rnp lib (window.handleLoginSuccess rnp lib times)
  return { handled.getD window with loginPage }

def searchClicked (window : Window) (departure destination : QString) (date : QDate) (time : QTime) :
    Window :=
  let (ticketInfo, random) := TicketInfo.new departure destination date time window.random
  let ticketInfo :=
    if window.isLoggedIn && !window.accountInfo.publicKey.isEmpty then
      ticketInfo.setUserPublicKey window.accountInfo.publicKey
    else ticketInfo
  { window with
    ticketInfo
    random
    bookingReference := window.bookingReference.addTicket ticketInfo
    stacked := 1 }

def goClicked (window : Window) (departure destination : QString) (date : QDate) (time : QTime) :
    Window :=
  let departure := trimmed departure
  let destination := trimmed destination
  if departure.isEmpty || destination.isEmpty then window
  else window.searchClicked departure destination date time

def viewTicket (window : Window) (ticket : TicketInfo) (now : Int64) : RnpM ρ Window := do
  let bookingReference ← window.bookingReference.showQRCode rnp lib ticket now
  return { window with bookingReference }

def refreshTimeout (window : Window) (times : GenerationTimes) : RnpM ρ Window := do
  let identificationToken ← window.identificationToken.refreshTimeout rnp lib times
  return { window with identificationToken }

end Window

inductive NavButton
  | home | ticket | id

def NavButton.index : NavButton → Nat
  | .home => 0
  | .ticket => 1
  | .id => 2

inductive WindowEvent
  | login (email password : QString) (times : GenerationTimes)
  | book (departure destination : QString) (date : QDate) (time : QTime)
  | viewTicket (position : Nat) (now : Int64)
  | closeQRCode
  | countdownTimeout
  | refreshTimeout (times : GenerationTimes)
  | navigate (button : NavButton)

/-- A ticket code that was shown: the card's ticket, the clock and the text. -/
structure IssuedTicket where
  ticket : TicketInfo
  now : Int64
  qrData : QString
  deriving DecidableEq

structure IssuedToken where
  clock : Int64
  qrData : QString
  deriving DecidableEq, Repr

structure LoginRecord (ρ : Type) where
  email : QString
  password : QString
  drawn : ρ
  deriving DecidableEq, Repr

/-- A run of the application: the window, RNP beside it, and the codes it has shown. -/
structure Session (ρ : Type) where
  window : Window
  rnpState : RnpState ρ
  login : Option (LoginRecord ρ)
  tickets : List IssuedTicket
  tokens : List IssuedToken

namespace Session

def start (random : RandomGenerator) (state : RnpState ρ) : Session ρ :=
  let opened := (Window.new rnp lib random).run state
  { window := opened.1, rnpState := opened.2, login := none, tickets := [], tokens := [] }

def loginStep (session : Session ρ) (email password : QString) (times : GenerationTimes) : Session ρ :=
  let handled := (session.window.login rnp lib email password times).run session.rnpState
  if handled.1.isLoggedIn then
    { session with
      window := handled.1
      rnpState := handled.2
      login := some { email, password, drawn := session.rnpState.draws (session.rnpState.calls + 1) }
      tokens := ⟨times.clock, handled.1.identificationToken.qrImage.getD []⟩ :: session.tokens }
  else { session with window := handled.1, rnpState := handled.2 }

def viewStep (session : Session ρ) (ticket : TicketInfo) (now : Int64) : Session ρ :=
  let viewed := (session.window.viewTicket rnp lib ticket now).run session.rnpState
  { session with
    window := viewed.1
    rnpState := viewed.2
    tickets := ⟨ticket, now, viewed.1.bookingReference.qrImage.getD []⟩ :: session.tickets }

def refreshStep (session : Session ρ) (times : GenerationTimes) : Session ρ :=
  let refreshed := (session.window.refreshTimeout rnp lib times).run session.rnpState
  { session with
    window := refreshed.1
    rnpState := refreshed.2
    tokens := ⟨times.clock, refreshed.1.identificationToken.qrImage.getD []⟩ :: session.tokens }

def onPage (session : Session ρ) (page : Nat) : Bool :=
  session.window.mainStacked == 1 && session.window.stacked == page

def step (session : Session ρ) : WindowEvent → Session ρ
  | .login email password times =>
      if session.window.mainStacked = 0 then session.loginStep rnp lib email password times else session
  | .book departure destination date time =>
      if session.onPage 0 then
        { session with window := session.window.goClicked departure destination date time }
      else session
  | .viewTicket position now =>
      match session.window.bookingReference.ticketLayout[position]? with
      | some (.card ticket) => if session.onPage 1 then session.viewStep rnp lib ticket now else session
      | _ => session
  | .closeQRCode =>
      if session.onPage 1 then
        { session with window := { session.window with
            bookingReference := session.window.bookingReference.hideQRCode } }
      else session
  | .countdownTimeout =>
      { session with window := { session.window with
          identificationToken := session.window.identificationToken.countdownTimeout } }
  | .refreshTimeout times =>
      if session.window.identificationToken.refreshTimer.isActive then session.refreshStep rnp lib times
      else session
  | .navigate button =>
      if session.window.mainStacked = 1 then
        { session with window := { session.window with stacked := button.index } }
      else session

def run : Session ρ → List WindowEvent → Session ρ := Runs.run (step rnp lib)

end Session

end SbbTicketing
