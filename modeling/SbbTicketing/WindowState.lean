import Mathlib.Data.List.DropRight
import SbbTicketing.FallbackCodes
import SbbTicketing.LoginChecks
import SbbTicketing.SessionChecks
import SbbTicketing.TicketList

/-! What every state of the user application looks like, whatever RNP does: until a login
nothing but the login page has changed, and after it every part of the window belongs to the
one account that was made. -/

namespace SbbTicketing

open Qt

variable {ρ : Type} (rnp : Rnp ρ) (lib : QtLibrary)

theorem trimmed_trimmed (string : QString) : trimmed (trimmed string) = trimmed string := by
  have back : trimmed string = (string.dropWhile isSpace).rdropWhile isSpace := rfl
  obtain ⟨rest, whole⟩ : trimmed string <+: string.dropWhile isSpace := List.rdropWhile_prefix _ _
  have front : (trimmed string).dropWhile isSpace = trimmed string := by
    cases core : trimmed string with
    | nil => rfl
    | cons first others =>
        have solid := List.dropWhile_idempotent (p := isSpace) string
        rw [← whole, core, List.cons_append] at solid
        exact List.dropWhile_cons_of_neg (List.dropWhile_eq_self_iff.mp solid (by simp))
  calc
    trimmed (trimmed string) = ((trimmed string).dropWhile isSpace).rdropWhile isSpace := rfl
    _ = trimmed string := by rw [front, back, List.rdropWhile_idempotent]

/-- The text shown for a key when its signature could not be made. -/
def fallbackToken (publicKey : QString) (clock : Int64) : QString :=
  arg (arg (text "PIT:%1:%2") (number clock)) (toHex (lib.sha256 (toUtf8 publicKey)))

def TokenIssued (publicKey : QString) (issued : IssuedToken) : Prop :=
  (∃ signature, issued.qrData = tokenCode (keyHash lib publicKey) issued.clock (toHex signature)) ∨
    ∃ clock, issued.qrData = fallbackToken lib publicKey clock

def TicketIssued (publicKey : QString) (issued : IssuedTicket) : Prop :=
  (∃ signature, issued.qrData = ticketCode issued.ticket.bookingReference issued.now
      (keyHash lib publicKey) (toHex signature)) ∨
    issued.qrData = issued.ticket.bookingReference

/-- A ticket as it is booked: with a drawn reference, for the key, for two named stations, and
without a signature. -/
structure BookedFor (publicKey : QString) (ticket : TicketInfo) : Prop where
  reference : IsReference ticket.bookingReference
  own : ticket.userPublicKey = publicKey
  unsigned : ticket.signedData = [] ∧ ticket.timestamp = 0
  departs : ticket.departure ≠ [] ∧ trimmed ticket.departure = ticket.departure
  arrives : ticket.destination ≠ [] ∧ trimmed ticket.destination = ticket.destination

theorem BookedFor.isValid {publicKey : QString} {ticket : TicketInfo} (booked : BookedFor publicKey ticket) :
    ticket.isValid = true := by
  have six := booked.reference.1
  have filled : ticket.bookingReference ≠ [] := by
    intro empty
    simp [empty] at six
  simp [TicketInfo.isValid, filled]

/-- The identity token's page shows the latest code of the account's keys and keeps going. -/
structure TokenPage (account : AccountInfo) (token : IdentificationToken) (tokens : List IssuedToken) :
    Prop where
  keys : token.publicKey = account.publicKey ∧ token.privateKey = account.privateKey
  running : token.countdownTimer.isActive = true ∧ token.refreshTimer.isActive = true
  periodic : token.countdownTimer.singleShot = false
  label : token.timerLabelVisible = true ∧
    token.timerLabel = arg (text "Refreshes in: %1s") (Numerals.decimal token.countdown)
  countdown : 1 ≤ token.countdown ∧ token.countdown ≤ 20
  issued : ∀ issued ∈ tokens, TokenIssued lib account.publicKey issued
  current : ∃ issued, tokens.head? = some issued ∧ token.qrImage = some issued.qrData

/-- The ticket page lists tickets booked for the key, and the overlay is about the latest view. -/
structure TicketPage (publicKey : QString) (page : BookingReference) (tickets : List IssuedTicket) :
    Prop where
  cards : ∃ cards, page.ShowsList cards ∧ ∀ ticket ∈ cards, BookedFor publicKey ticket
  issued : ∀ issued ∈ tickets, .card issued.ticket ∈ page.ticketLayout ∧ TicketIssued lib publicKey issued
  closed : tickets = [] → page.qrImage = none ∧ page.overlayHidden = true
  current : ∀ issued, tickets.head? = some issued →
    page.ShowsCurrent lib ∧ page.qrImage = some issued.qrData ∧ page.currentTicket = issued.ticket

namespace TokenPage

variable {lib} {account : AccountInfo} {token : IdentificationToken} {tokens : List IssuedToken}

theorem issued_shownData (token : IdentificationToken) (times : GenerationTimes)
    (signature : Option QByteArray) :
    TokenIssued lib token.publicKey ⟨times.clock, token.shownData lib times signature⟩ := by
  cases signature with
  | none => exact Or.inr ⟨times.fallbackClock, rfl⟩
  | some bytes => exact Or.inl ⟨bytes, rfl⟩

theorem ofGenerated (publicKey : token.publicKey = account.publicKey)
    (privateKey : token.privateKey = account.privateKey) (times : GenerationTimes)
    (signature : Option QByteArray) (issued : ∀ issued ∈ tokens, TokenIssued lib account.publicKey issued)
    {timerLabelVisible : Bool} (visible : timerLabelVisible = true) {countdownTimer refreshTimer : QTimer}
    (periodic : countdownTimer.singleShot = false) (counting : countdownTimer.isActive = true)
    (refreshing : refreshTimer.isActive = true) :
    TokenPage lib account
      { token.setCountdown 20 with
        qrImage := some (token.shownData lib times signature)
        timerLabelVisible
        countdownTimer
        refreshTimer }
      (⟨times.clock, token.shownData lib times signature⟩ :: tokens) where
  keys := ⟨publicKey, privateKey⟩
  running := ⟨counting, refreshing⟩
  periodic := periodic
  label := ⟨visible, rfl⟩
  countdown := by simp [IdentificationToken.setCountdown]
  issued := by
    intro entry member
    rcases List.mem_cons.mp member with rfl | earlier
    · exact publicKey ▸ issued_shownData token times signature
    · exact issued entry earlier
  current := ⟨_, rfl, rfl⟩

theorem countdownTimeout (page : TokenPage lib account token tokens) :
    TokenPage lib account token.countdownTimeout tokens := by
  have positive := page.countdown.1
  have bound := page.countdown.2
  have fired : token.countdownTimer.fire.isActive = true := by
    simpa [QTimer.fire, page.periodic, QTimer.isActive] using page.running.1
  have periodic : token.countdownTimer.fire.singleShot = false := by simp [QTimer.fire, page.periodic]
  have shown (countdown : Int) (inRange : 1 ≤ countdown ∧ countdown ≤ 20) :
      TokenPage lib account
        ({ token with countdownTimer := token.countdownTimer.fire }.setCountdown countdown) tokens :=
    ⟨page.keys, ⟨fired, page.running.2⟩, periodic, ⟨page.label.1, rfl⟩, inRange, page.issued, page.current⟩
  simp only [IdentificationToken.countdownTimeout, page.running.1, ↓reduceIte,
    IdentificationToken.updateCountdown]
  by_cases wrapped : token.countdown - 1 ≤ 0
  · rw [if_pos wrapped]
    exact shown 20 (by omega)
  · rw [if_neg wrapped]
    exact shown (token.countdown - 1) (by omega)

end TokenPage

namespace TicketPage

variable {lib} {publicKey : QString} {page : BookingReference} {tickets : List IssuedTicket}

theorem issued_view (page : BookingReference) {ticket : TicketInfo} (booked : BookedFor publicKey ticket)
    (now : Int64) (state : RnpState ρ) :
    TicketIssued lib publicKey ⟨ticket, now,
      ((page.ticketData rnp lib ticket now).run.run state).1.toOption.getD ticket.bookingReference⟩ := by
  have time : BookingReference.signingTime ticket now = now := by
    simp [BookingReference.signingTime, booked.unsigned.2]
  cases company : page.companyInfo with
  | none =>
      simp only [BookingReference.ticketData, company]
      exact Or.inr rfl
  | some companyInfo =>
      by_cases valid : companyInfo.isValid = true
      · have signing := BookingReference.ticketData_unsigned rnp lib company valid booked.unsigned.1 now state
        rw [signing.1, time, booked.own]
        cases BookingReference.signatureAt rnp companyInfo ticket now state with
        | none => exact Or.inr rfl
        | some bytes => exact Or.inl ⟨bytes, rfl⟩
      · simp only [BookingReference.ticketData, company, valid]
        exact Or.inr rfl

theorem addTicket (shown : TicketPage lib publicKey page tickets) {ticket : TicketInfo}
    (booked : BookedFor publicKey ticket) : TicketPage lib publicKey (page.addTicket ticket) tickets := by
  have valid := booked.isValid
  obtain ⟨cards, ⟨layout, label, scrollArea⟩, own⟩ := shown.cards
  simp only [BookingReference.addTicket, valid, Bool.not_true, Bool.false_eq_true, ↓reduceIte]
  refine ⟨⟨ticket :: cards, ⟨?_, by simp, by simp⟩, ?_⟩, ?_, shown.closed, ?_⟩
  · simp [layout, BookingReference.cardsLayout]
  · intro other member
    rcases List.mem_cons.mp member with rfl | earlier
    · exact booked
    · exact own other earlier
  · intro issued member
    exact ⟨List.mem_cons_of_mem _ (shown.issued issued member).1, (shown.issued issued member).2⟩
  · intro issued latest
    obtain ⟨⟨code, title, download⟩, image, current⟩ := shown.current issued latest
    exact ⟨⟨code, title, download⟩, image, current⟩

theorem view (shown : TicketPage lib publicKey page tickets) {ticket : TicketInfo}
    (card : .card ticket ∈ page.ticketLayout) (now : Int64) (state : RnpState ρ) :
    let viewed := (page.showQRCode rnp lib ticket now).run state
    TicketPage lib publicKey viewed.1 (⟨ticket, now, viewed.1.qrImage.getD []⟩ :: tickets) := by
  obtain ⟨cards, ⟨layout, label, scrollArea⟩, own⟩ := shown.cards
  have booked : BookedFor publicKey ticket := by
    rw [layout, BookingReference.cardsLayout] at card
    exact own ticket (by simpa using card)
  have about := BookingReference.showsCurrent_showQRCode rnp lib page booked.isValid now state
  rw [BookingReference.showQRCode_run] at about ⊢
  refine ⟨⟨cards, ⟨layout, label, scrollArea⟩, own⟩, ?_, by simp, ?_⟩
  · intro issued member
    rcases List.mem_cons.mp member with rfl | earlier
    · exact ⟨card, issued_view rnp page booked now state⟩
    · exact shown.issued issued earlier
  · intro issued latest
    cases latest
    exact ⟨about, rfl, rfl⟩

theorem hide (shown : TicketPage lib publicKey page tickets) :
    TicketPage lib publicKey page.hideQRCode tickets := by
  obtain ⟨cards, ⟨layout, label, scrollArea⟩, own⟩ := shown.cards
  refine ⟨⟨cards, ⟨layout, label, scrollArea⟩, own⟩, shown.issued, ?_, ?_⟩
  · intro unseen
    exact ⟨(shown.closed unseen).1, rfl⟩
  · intro issued latest
    obtain ⟨⟨code, title, download⟩, image, current⟩ := shown.current issued latest
    exact ⟨⟨code, title, download⟩, image, current⟩

end TicketPage

/-- What the constructor leaves, given the keys it has generated. -/
def Window.opened (companyInfo : CompanyInfo) (random : RandomGenerator) : Window where
  loginPage := LoginPage.new
  companyInfo := companyInfo
  bookingReference := BookingReference.new.setCompanyInfo companyInfo
  identificationToken := IdentificationToken.new
  ticketInfo := TicketInfo.unset
  accountInfo := { email := [], publicKey := [], privateKey := [] }
  isLoggedIn := false
  mainStacked := 0
  stacked := 0
  random := random

namespace Session

structure LoggedOut (random : RandomGenerator) (session : Session ρ) : Prop where
  untouched : session.window = { Window.opened session.window.companyInfo random with
    loginPage := session.window.loginPage }
  ready : session.window.loginPage.Ready
  status : session.window.loginPage.statusVisible = true →
    session.window.loginPage.statusText ∈ LoginPage.messages ∧
    session.window.loginPage.statusColor = text "#d32f2f"
  nothing : session.login = none ∧ session.tickets = [] ∧ session.tokens = []

structure LoggedIn (record : LoginRecord ρ) (session : Session ρ) : Prop where
  login : session.login = some record
  accepted : LoginPage.inputError (trimmed record.email) record.password = none
  email : session.window.accountInfo.email = trimmed record.email
  page : session.window.loginPage = LoginPage.locked record.email
  shown : session.window.isLoggedIn = true ∧ session.window.mainStacked = 1 ∧ session.window.stacked ≤ 2
  company : session.window.bookingReference.companyInfo = some session.window.companyInfo
  token : TokenPage lib session.window.accountInfo session.window.identificationToken session.tokens
  ticket : TicketPage lib session.window.accountInfo.publicKey session.window.bookingReference
    session.tickets

variable {lib} {random : RandomGenerator} {record : LoginRecord ρ} {session : Session ρ}

theorem loggedOut_start (random : RandomGenerator) (state : RnpState ρ) :
    (start rnp lib random state).LoggedOut random where
  untouched := rfl
  ready := ⟨rfl, rfl⟩
  status := by
    intro visible
    exact Bool.noConfusion visible
  nothing := ⟨rfl, rfl, rfl⟩

variable (lib) in
theorem loginStep_outcome (ready : session.window.loginPage.Ready)
    (before : session.window.isLoggedIn = false) (email password : QString) (times : GenerationTimes) :
    let attempt := LoginPage.attempted rnp lib session.rnpState.draws session.rnpState.calls email password
    (∃ message, attempt = .error message ∧ ∃ after, session.loginStep rnp lib email password times =
      { session with
        window := { session.window with
          loginPage := { session.window.loginPage with email, password }.failed message }
        rnpState := after }) ∨
    ∃ keys, attempt = .ok keys ∧ ∃ signature after,
      let token := { session.window.identificationToken with publicKey := keys.1, privateKey := keys.2 }
      session.loginStep rnp lib email password times =
        { session with
          window := { session.window with
            loginPage := LoginPage.locked email
            accountInfo := ⟨trimmed email, keys.1, keys.2⟩
            isLoggedIn := true
            mainStacked := 1
            identificationToken := { token.setCountdown 20 with
              qrImage := some (token.shownData lib times signature)
              timerLabelVisible := true
              countdownTimer := token.countdownTimer.start 1000 times.started
              refreshTimer := token.refreshTimer.start 20000 times.started } }
          rnpState := after
          login := some
            { email, password, drawn := session.rnpState.draws (session.rnpState.calls + 1) }
          tokens := ⟨times.clock, token.shownData lib times signature⟩ :: session.tokens } := by
  have outcome := LoginPage.handleLogin_steps rnp lib { session.window.loginPage with email, password }
    ready (session.window.handleLoginSuccess rnp lib times) session.rnpState
  have ran := login_run rnp lib session.window email password times session.rnpState
  simp only [loginStep, ran]
  rcases outcome with ⟨message, failed, result⟩ | ⟨keys, middle, made, result⟩
  · refine Or.inl ⟨message, failed,
      ((session.window.login rnp lib email password times).run session.rnpState).2, ?_⟩
    rw [result]
    simp only [Option.getD_none, before, Bool.false_eq_true, ↓reduceIte]
    rfl
  · obtain ⟨after, ran, _⟩ := handleLoginSuccess_run rnp lib session.window times
      ⟨trimmed email, keys.1, keys.2⟩ middle
    refine Or.inr ⟨keys, made,
      ({ session.window.identificationToken with publicKey := keys.1, privateKey := keys.2 } :
        IdentificationToken).signatureAt rnp times.clock middle,
      ((session.window.login rnp lib email password times).run session.rnpState).2, ?_⟩
    rw [result]
    simp only [Option.getD_some, ran, ↓reduceIte]
    rfl

theorem LoggedOut.isLoggedIn (out : session.LoggedOut random) : session.window.isLoggedIn = false := by
  rw [out.untouched]
  rfl

theorem phases_login (out : session.LoggedOut random) (email password : QString) (times : GenerationTimes) :
    (session.loginStep rnp lib email password times).LoggedOut random ∨
      ∃ record, (session.loginStep rnp lib email password times).LoggedIn lib record := by
  obtain ⟨noLogin, noTickets, noTokens⟩ := out.nothing
  have page : session.window.bookingReference =
      BookingReference.new.setCompanyInfo session.window.companyInfo :=
    congrArg Window.bookingReference out.untouched
  have token : session.window.identificationToken = IdentificationToken.new :=
    congrArg Window.identificationToken out.untouched
  have home : session.window.stacked = 0 := congrArg Window.stacked out.untouched
  rcases loginStep_outcome rnp lib out.ready out.isLoggedIn email password times with
    ⟨message, refused, after, failed⟩ | ⟨keys, accepted, signature, after, made⟩
  · left
    rw [failed]
    refine ⟨?_, out.ready, fun _ => ⟨LoginPage.attempted_error refused, rfl⟩, out.nothing⟩
    exact congrArg (fun window : Window => { window with
      loginPage := { session.window.loginPage with email, password }.failed message }) out.untouched
  · right
    rw [made]
    refine ⟨_, rfl, LoginPage.attempted_ok accepted, rfl, rfl, ⟨rfl, rfl, ?_⟩,
      congrArg BookingReference.companyInfo page, ?_, ?_⟩
    · simp [home]
    · exact TokenPage.ofGenerated rfl rfl times signature (by simp [noTokens]) rfl
        (by rw [token]; rfl) rfl rfl
    · simp only [page, noTickets]
      exact ⟨⟨[], ⟨rfl, by simp [BookingReference.new, BookingReference.setCompanyInfo], by
        simp [BookingReference.new, BookingReference.setCompanyInfo]⟩, by simp⟩, by simp,
        fun _ => ⟨rfl, rfl⟩, by simp⟩

theorem loggedOut_step (out : session.LoggedOut random) (event : WindowEvent) :
    (session.step rnp lib event).LoggedOut random ∨
      ∃ record, (session.step rnp lib event).LoggedIn lib record := by
  have loginShown : session.window.mainStacked = 0 := congrArg Window.mainStacked out.untouched
  have layout : session.window.bookingReference.ticketLayout = [.stretch] :=
    congrArg (fun window : Window => window.bookingReference.ticketLayout) out.untouched
  have token : session.window.identificationToken = IdentificationToken.new :=
    congrArg Window.identificationToken out.untouched
  have hidden (page : Nat) : session.onPage page = false := by simp [onPage, loginShown]
  cases event with
  | login email password times =>
      rw [step, if_pos loginShown]
      exact phases_login rnp out email password times
  | book departure destination date time =>
      simp only [step, hidden]
      exact Or.inl out
  | viewTicket position now =>
      left
      simp only [step, hidden]
      split
      · exact out
      · exact out
  | closeQRCode =>
      simp only [step, hidden]
      exact Or.inl out
  | countdownTimeout =>
      left
      have same : session.window.identificationToken.countdownTimeout =
          session.window.identificationToken := by
        rw [token]
        rfl
      simp only [step, same]
      exact out
  | refreshTimeout times =>
      left
      have stopped : session.window.identificationToken.refreshTimer.isActive = false := by
        rw [token]
        rfl
      simp only [step, stopped]
      exact out
  | navigate button =>
      simp only [step, loginShown]
      exact Or.inl out

/-- The ticket a logged in user books, as it is put on top of the list. -/
theorem searchClicked_ticket {window : Window} (loggedIn : window.isLoggedIn = true)
    {departure destination : QString} (departs : departure ≠ [] ∧ trimmed departure = departure)
    (arrives : destination ≠ [] ∧ trimmed destination = destination) (date : QDate) (time : QTime) :
    ∃ ticket random, BookedFor window.accountInfo.publicKey ticket ∧
      (ticket.departure = departure ∧ ticket.destination = destination ∧ ticket.date = some date ∧
        ticket.time = some time) ∧
      window.searchClicked departure destination date time = { window with
        ticketInfo := ticket
        random
        bookingReference := window.bookingReference.addTicket ticket
        stacked := 1 } := by
  have drawn := generateBookingReference_isReference window.random
  by_cases anonymous : window.accountInfo.publicKey = []
  · refine ⟨(TicketInfo.new departure destination date time window.random).1,
      (TicketInfo.new departure destination date time window.random).2,
      ⟨drawn, anonymous.symm, ⟨rfl, rfl⟩, departs, arrives⟩, ⟨rfl, rfl, rfl, rfl⟩, ?_⟩
    simp [Window.searchClicked, anonymous]
  · refine ⟨(TicketInfo.new departure destination date time window.random).1.setUserPublicKey
        window.accountInfo.publicKey,
      (TicketInfo.new departure destination date time window.random).2,
      ⟨drawn, rfl, ⟨rfl, rfl⟩, departs, arrives⟩, ⟨rfl, rfl, rfl, rfl⟩, ?_⟩
    simp [Window.searchClicked, anonymous, loggedIn]

/-- What no event changes once the user is logged in, and the records that only grow. -/
structure Continues (session after : Session ρ) : Prop where
  account : after.window.accountInfo = session.window.accountInfo
  company : after.window.companyInfo = session.window.companyInfo
  tickets : session.tickets <:+ after.tickets
  tokens : session.tokens <:+ after.tokens

theorem Continues.refl (session : Session ρ) : Continues session session :=
  ⟨rfl, rfl, List.suffix_refl _, List.suffix_refl _⟩

theorem Continues.trans {first second third : Session ρ} (earlier : Continues first second)
    (later : Continues second third) : Continues first third :=
  ⟨later.account.trans earlier.account, later.company.trans earlier.company,
    earlier.tickets.trans later.tickets, earlier.tokens.trans later.tokens⟩

theorem loggedIn_step (inside : session.LoggedIn lib record) (event : WindowEvent) :
    (session.step rnp lib event).LoggedIn lib record ∧ Continues session (session.step rnp lib event) := by
  have unchanged : session.LoggedIn lib record ∧ Continues session session := ⟨inside, .refl session⟩
  cases event with
  | login email password times =>
      have appShown : session.window.mainStacked ≠ 0 := by simp [inside.shown.2.1]
      rw [step, if_neg appShown]
      exact unchanged
  | book departure destination date time =>
      by_cases shown : session.onPage 0 = true
      · rw [step, if_pos shown, Window.goClicked]
        by_cases incomplete : (trimmed departure).isEmpty || (trimmed destination).isEmpty
        · rw [if_pos incomplete]
          exact unchanged
        · rw [if_neg incomplete]
          simp only [List.isEmpty_iff, Bool.or_eq_true, not_or] at incomplete
          obtain ⟨ticket, random, booked, _, searched⟩ := searchClicked_ticket inside.shown.1
            ⟨incomplete.1, trimmed_trimmed departure⟩ ⟨incomplete.2, trimmed_trimmed destination⟩ date time
          rw [searched]
          refine ⟨⟨inside.login, inside.accepted, inside.email, inside.page,
            ⟨inside.shown.1, inside.shown.2.1, by simp⟩, ?_, inside.token, inside.ticket.addTicket booked⟩,
            ⟨rfl, rfl, List.suffix_refl _, List.suffix_refl _⟩⟩
          exact (BookingReference.addTicket_companyInfo _ _).trans inside.company
      · rw [step, if_neg shown]
        exact unchanged
  | viewTicket position now =>
      simp only [step]
      split
      · rename_i ticket found
        by_cases shown : session.onPage 1 = true
        · rw [if_pos shown]
          have viewed := inside.ticket.view rnp (List.mem_of_getElem? found) now session.rnpState
          rw [BookingReference.showQRCode_run] at viewed
          rw [viewStep_eq]
          refine ⟨⟨inside.login, inside.accepted, inside.email, inside.page, inside.shown, inside.company,
            inside.token, viewed⟩, ⟨rfl, rfl, List.suffix_cons _ _, List.suffix_refl _⟩⟩
        · rw [if_neg shown]
          exact unchanged
      · exact unchanged
  | closeQRCode =>
      by_cases shown : session.onPage 1 = true
      · rw [step, if_pos shown]
        refine ⟨⟨inside.login, inside.accepted, inside.email, inside.page, inside.shown, inside.company,
          inside.token, inside.ticket.hide⟩, ⟨rfl, rfl, List.suffix_refl _, List.suffix_refl _⟩⟩
      · rw [step, if_neg shown]
        exact unchanged
  | countdownTimeout =>
      refine ⟨⟨inside.login, inside.accepted, inside.email, inside.page, inside.shown, inside.company,
        inside.token.countdownTimeout, inside.ticket⟩, ⟨rfl, rfl, List.suffix_refl _, List.suffix_refl _⟩⟩
  | refreshTimeout times =>
      have active := inside.token.running.2
      obtain ⟨after, refreshed, _⟩ := refreshStep_eq rnp lib session times active
      simp only [step, active, ↓reduceIte]
      rw [refreshed]
      refine ⟨⟨inside.login, inside.accepted, inside.email, inside.page, inside.shown, inside.company, ?_,
        inside.ticket⟩, ⟨rfl, rfl, List.suffix_refl _, List.suffix_cons _ _⟩⟩
      exact TokenPage.ofGenerated inside.token.keys.1 inside.token.keys.2 times _ inside.token.issued
        inside.token.label.1 inside.token.periodic inside.token.running.1 rfl
  | navigate button =>
      rw [step, if_pos inside.shown.2.1]
      refine ⟨⟨inside.login, inside.accepted, inside.email, inside.page,
        ⟨inside.shown.1, inside.shown.2.1, ?_⟩, inside.company, inside.token, inside.ticket⟩,
        ⟨rfl, rfl, List.suffix_refl _, List.suffix_refl _⟩⟩
      cases button <;> simp [NavButton.index]

theorem phases_run (out : session.LoggedOut random) (events : List WindowEvent) :
    (run rnp lib session events).LoggedOut random ∨
      ∃ record, (run rnp lib session events).LoggedIn lib record := by
  have preserved (later : Session ρ) (event : WindowEvent)
      (phase : later.LoggedOut random ∨ ∃ record, later.LoggedIn lib record) :
      (later.step rnp lib event).LoggedOut random ∨ ∃ record, (later.step rnp lib event).LoggedIn lib record := by
    rcases phase with out | ⟨record, inside⟩
    · exact loggedOut_step rnp out event
    · exact Or.inr ⟨record, (loggedIn_step rnp inside event).1⟩
  exact Runs.run_invariant preserved (Or.inl out) events

theorem continues_run (inside : session.LoggedIn lib record) (events : List WindowEvent) :
    (run rnp lib session events).LoggedIn lib record ∧ Continues session (run rnp lib session events) := by
  have preserved (later : Session ρ) (event : WindowEvent)
      (soFar : later.LoggedIn lib record ∧ Continues session later) :
      (later.step rnp lib event).LoggedIn lib record ∧ Continues session (later.step rnp lib event) := by
    have next := loggedIn_step rnp soFar.1 event
    exact ⟨next.1, soFar.2.trans next.2⟩
  exact Runs.run_invariant preserved ⟨inside, .refl session⟩ events

variable (lib) in
def Phased (session : Session ρ) : Prop :=
  (∃ random, session.LoggedOut random) ∨ ∃ record, session.LoggedIn lib record

theorem phased_run (phased : session.Phased lib) (events : List WindowEvent) :
    (run rnp lib session events).Phased lib := by
  rcases phased with ⟨random, out⟩ | ⟨record, inside⟩
  · rcases phases_run rnp out events with still | entered
    · exact Or.inl ⟨random, still⟩
    · exact Or.inr entered
  · exact Or.inr ⟨record, (continues_run rnp inside events).1⟩

theorem inside_of_onPage (phased : session.Phased lib) {page : Nat} (shown : session.onPage page = true) :
    ∃ record, session.LoggedIn lib record := by
  rcases phased with ⟨random, out⟩ | inside
  · have hidden : session.window.mainStacked = 0 := congrArg Window.mainStacked out.untouched
    simp [onPage, hidden] at shown
  · exact inside

end Session

theorem window_phases (random : RandomGenerator) (state : RnpState ρ) (events : List WindowEvent) :
    let session := Session.run rnp lib (Session.start rnp lib random state) events
    session.LoggedOut random ∨ ∃ record, session.LoggedIn lib record :=
  Session.phases_run rnp (Session.loggedOut_start rnp random state) events

/-- There is no logging out and no second login: a run is before its login, or everything that
comes later keeps the account and adds to what was issued. -/
theorem login_final (random : RandomGenerator) (state : RnpState ρ) (earlier later : List WindowEvent) :
    let first := Session.run rnp lib (Session.start rnp lib random state) earlier
    let last := Session.run rnp lib (Session.start rnp lib random state) (earlier ++ later)
    (first.login = none ∧ first.window.loginPage.Ready) ∨
      ∃ record, first.LoggedIn lib record ∧ last.LoggedIn lib record ∧ Session.Continues first last := by
  intro first last
  have resumed : last = Session.run rnp lib first later := Runs.run_append _ _ earlier later
  have phase : first.LoggedOut random ∨ ∃ record, first.LoggedIn lib record :=
    Session.phases_run rnp (Session.loggedOut_start rnp random state) earlier
  rcases phase with out | ⟨record, inside⟩
  · exact Or.inl ⟨out.nothing.1, out.ready⟩
  · right
    rw [resumed]
    exact ⟨record, inside, Session.continues_run rnp inside later⟩

/-- On the login page an attempt fails with the message of the first check or the first step of the
key generation that fails, and changes nothing else of the window. It succeeds exactly when none
does, and then the account has the exported keys. Past the login page an attempt does nothing. -/
theorem login_exact (random : RandomGenerator) (state : RnpState ρ) (events : List WindowEvent)
    (email password : QString) (times : GenerationTimes) :
    let session := Session.run rnp lib (Session.start rnp lib random state) events
    let after := session.step rnp lib (.login email password times)
    if session.window.mainStacked = 0 then
      match LoginPage.attempted rnp lib session.rnpState.draws session.rnpState.calls email password with
      | .error message =>
          after.window = { session.window with
            loginPage := { session.window.loginPage with email, password }.failed message } ∧
          after.login = none
      | .ok keys =>
          after.window.accountInfo = ⟨trimmed email, keys.1, keys.2⟩ ∧
          after.window.loginPage = LoginPage.locked email ∧ ∃ record, after.LoggedIn lib record
    else after = session := by
  intro session after
  have phase : session.LoggedOut random ∨ ∃ record, session.LoggedIn lib record :=
    Session.phases_run rnp (Session.loggedOut_start rnp random state) events
  rcases phase with out | ⟨record, inside⟩
  · have shown : session.window.mainStacked = 0 := congrArg Window.mainStacked out.untouched
    have stepped : after = session.loginStep rnp lib email password times := if_pos shown
    rw [if_pos shown]
    rcases Session.loginStep_outcome rnp lib out.ready out.isLoggedIn email password times with
      ⟨message, refused, _, failed⟩ | ⟨keys, accepted, _, _, made⟩
    · rw [refused, stepped, failed]
      exact ⟨rfl, out.nothing.1⟩
    · have entered : after.LoggedOut random ∨ ∃ record, after.LoggedIn lib record :=
        Session.loggedOut_step rnp out (.login email password times)
      rw [stepped, made] at entered
      rw [accepted, stepped, made]
      refine ⟨rfl, rfl, ?_⟩
      rcases entered with still | entered
      · exact Bool.noConfusion still.isLoggedIn
      · exact entered
  · have past : session.window.mainStacked ≠ 0 := by simp [inside.shown.2.1]
    rw [if_neg past]
    exact if_neg past

end SbbTicketing
