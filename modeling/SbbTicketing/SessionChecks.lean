import SbbTicketing.IssuedCodes
import SbbTicketing.KeyManagerChecks
import SbbTicketing.RnpContract
import SbbTicketing.WindowCore

/-! What holds in every run of the user application in which no RNP call has failed: the
keys in use were generated in this run, and every code shown was signed with them. -/

namespace SbbTicketing

open Qt

variable {ρ : Type} (rnp : Rnp ρ) (lib : QtLibrary)

def FromLogin (account : AccountInfo) (record : LoginRecord ρ) : Prop :=
  ∃ draws call, draws (call + 1) = record.drawn ∧
    rnp.keyPair lib draws call
      (toUtf8 (deterministicId lib (trimmed record.email) record.password)) =
        some (account.publicKey, account.privateKey)

/-- The card's ticket belongs to the account and is not signed yet. -/
def CardOf (account : AccountInfo) (ticket : TicketInfo) : Prop :=
  ticket.userPublicKey = account.publicKey ∧ ticket.signedData = [] ∧ ticket.timestamp = 0

/-- The code was signed with the company's key for the account's ticket. -/
def TicketSigned (companyInfo : CompanyInfo) (account : AccountInfo) (issued : IssuedTicket) : Prop :=
  CardOf account issued.ticket ∧ ∃ draws call signature,
    rnp.signature draws call (toUtf8 companyInfo.privateKey)
      (toUtf8 (BookingReference.dataToSign issued.ticket issued.now)) = some signature ∧
    issued.qrData = ticketCode issued.ticket.bookingReference issued.now
      (keyHash lib account.publicKey) (toHex signature)

def TokenSigned (account : AccountInfo) (issued : IssuedToken) : Prop :=
  ∃ draws call signature,
    rnp.signature draws call (toUtf8 account.privateKey)
      (toUtf8 (IdentificationToken.dataToSign account.publicKey issued.clock)) = some signature ∧
    issued.qrData = tokenCode (keyHash lib account.publicKey) issued.clock (toHex signature)

theorem TicketSigned.reads {rnp : Rnp ρ} {lib : QtLibrary} {companyInfo : CompanyInfo}
    {account : AccountInfo} {issued : IssuedTicket}
    (signed : TicketSigned rnp lib companyInfo account issued) :
    ∃ draws call signature,
      rnp.signature draws call (toUtf8 companyInfo.privateKey)
        (toUtf8 (account.publicKey ++ issued.ticket.bookingReference ++ number issued.now)) =
          some signature ∧
      TicketOwnership.ReadsTicket issued.qrData issued.ticket.bookingReference issued.now
        (keyHash lib account.publicKey) (toHex signature) := by
  obtain ⟨own, draws, call, signature, made, code⟩ := signed
  simp only [BookingReference.dataToSign, own.1] at made
  refine ⟨draws, call, signature, made, ?_⟩
  rw [code]
  exact readsTicket_ticketCode (IsMark.colon.not_mem_reference issued.ticket)
    (IsMark.colon.not_mem_keyHash lib _)
    (IsMark.colon.not_mem_toHex _) _

theorem TokenSigned.reads {rnp : Rnp ρ} {lib : QtLibrary} {account : AccountInfo}
    {issued : IssuedToken} (signed : TokenSigned rnp lib account issued) :
    ∃ draws call signature,
      rnp.signature draws call (toUtf8 account.privateKey)
        (toUtf8 (account.publicKey ++ number issued.clock)) = some signature ∧
      TicketOwnership.ReadsPIT issued.qrData (keyHash lib account.publicKey) issued.clock
        (toHex signature) := by
  obtain ⟨draws, call, signature, made, code⟩ := signed
  refine ⟨draws, call, signature, made, ?_⟩
  rw [code]
  exact readsPIT_tokenCode (IsMark.colon.not_mem_keyHash lib _) (IsMark.colon.not_mem_toHex _) _

structure SessionSound (session : Session ρ) : Prop where
  company : KeyPair rnp lib session.window.companyInfo.publicKey session.window.companyInfo.privateKey
  issuer : session.window.bookingReference.companyInfo = some session.window.companyInfo
  loggedOut : session.window.isLoggedIn = false →
    session.window.mainStacked = 0 ∧ session.window.bookingReference.ticketLayout = [.stretch] ∧
    session.window.identificationToken.refreshTimer.isActive = false ∧
    session.tickets = [] ∧ session.tokens = [] ∧ session.login = none
  loggedIn : session.window.isLoggedIn = true →
    session.window.mainStacked = 1 ∧
    session.window.identificationToken.publicKey = session.window.accountInfo.publicKey ∧
    session.window.identificationToken.privateKey = session.window.accountInfo.privateKey ∧
    ∃ record, session.login = some record ∧ FromLogin rnp lib session.window.accountInfo record
  cards : ∀ ticket, .card ticket ∈ session.window.bookingReference.ticketLayout →
    CardOf session.window.accountInfo ticket
  tickets : session.window.companyInfo.isValid = true → ∀ issued ∈ session.tickets,
    TicketSigned rnp lib session.window.companyInfo session.window.accountInfo issued
  tokens : ∀ issued ∈ session.tokens, TokenSigned rnp lib session.window.accountInfo issued

def Sound (session : Session ρ) : Prop :=
  session.rnpState.failed = false → SessionSound rnp lib session

namespace Session

theorem sound_start (random : RandomGenerator) (state : RnpState ρ) :
    Sound rnp lib (start rnp lib random state) := by
  intro unfailed
  have generated := CompanyInfo.generateKeys_cases rnp lib state
  rcases generated with ⟨_, failed⟩ | ⟨pair, _, _⟩
  · exact Bool.noConfusion (failed.symm.trans unfailed)
  · exact {
      company := ⟨_, _, _, pair⟩
      issuer := rfl
      loggedOut := fun _ => ⟨rfl, rfl, rfl, rfl, rfl, rfl⟩
      loggedIn := fun loggedIn => absurd loggedIn (by simp [start, Window.new])
      cards := by
        intro ticket member
        have onlyStretch :
            (start rnp lib random state).window.bookingReference.ticketLayout = [.stretch] := rfl
        simp [onlyStretch] at member
      tickets := by simp [start]
      tokens := by simp [start] }

theorem searchClicked_eq {window : Window} (loggedIn : window.isLoggedIn = true)
    (departure destination : QString) (date : QDate) (time : QTime) :
    ∃ ticket random, CardOf window.accountInfo ticket ∧
      window.searchClicked departure destination date time = { window with
        ticketInfo := ticket
        random
        bookingReference := window.bookingReference.addTicket ticket
        stacked := 1 } := by
  by_cases anonymous : window.accountInfo.publicKey = []
  · refine ⟨(TicketInfo.new departure destination date time window.random).1,
      (TicketInfo.new departure destination date time window.random).2, ⟨anonymous.symm, rfl, rfl⟩, ?_⟩
    simp [Window.searchClicked, anonymous]
  · refine ⟨(TicketInfo.new departure destination date time window.random).1.setUserPublicKey
        window.accountInfo.publicKey,
      (TicketInfo.new departure destination date time window.random).2, ⟨rfl, rfl, rfl⟩, ?_⟩
    simp [Window.searchClicked, anonymous, loggedIn]

theorem loggedIn_of_login {session : Session ρ} (sound : SessionSound rnp lib session)
    {record : LoginRecord ρ} (login : session.login = some record) :
    FromLogin rnp lib session.window.accountInfo record := by
  have loggedIn : session.window.isLoggedIn = true := by
    by_contra out
    have none := (sound.loggedOut (by simpa using out)).2.2.2.2.2
    simp [none] at login
  obtain ⟨_, _, _, _, same, made⟩ := sound.loggedIn loggedIn
  rw [login, Option.some.injEq] at same
  exact same ▸ made

theorem loggedIn_of_onPage {session : Session ρ} (sound : SessionSound rnp lib session) {page : Nat}
    (shown : session.onPage page = true) : session.window.isLoggedIn = true := by
  by_contra out
  have hidden := (sound.loggedOut (by simpa using out)).1
  simp [onPage, hidden] at shown

theorem sound_book {session : Session ρ} (sound : SessionSound rnp lib session)
    (shown : session.onPage 0 = true) (departure destination : QString) (date : QDate) (time : QTime) :
    SessionSound rnp lib
      { session with window := session.window.goClicked departure destination date time } := by
  have loggedIn := loggedIn_of_onPage rnp lib sound shown
  simp only [Window.goClicked]
  by_cases incomplete : (trimmed departure).isEmpty || (trimmed destination).isEmpty
  · rw [if_pos incomplete]
    exact sound
  · rw [if_neg incomplete]
    obtain ⟨ticket, random, own, booked⟩ :=
      searchClicked_eq loggedIn (trimmed departure) (trimmed destination) date time
    rw [booked]
    exact {
      company := sound.company
      issuer := (BookingReference.addTicket_companyInfo _ _).trans sound.issuer
      loggedOut := fun out => Bool.noConfusion (loggedIn.symm.trans out)
      loggedIn := sound.loggedIn
      cards := by
        intro other member
        rcases BookingReference.mem_addTicket member with rfl | earlier
        · exact own
        · exact sound.cards other earlier
      tickets := sound.tickets
      tokens := sound.tokens }

theorem viewStep_eq (session : Session ρ) (ticket : TicketInfo) (now : Int64) :
    let tried := (session.window.bookingReference.ticketData rnp lib ticket now).run.run session.rnpState
    let qrData := tried.1.toOption.getD ticket.bookingReference
    session.viewStep rnp lib ticket now = { session with
      window := { session.window with
        bookingReference := { session.window.bookingReference with
          currentTicket := ticket
          qrTitle := text "Ticket: " ++ ticket.bookingReference
          qrImage := some qrData
          overlayHidden := false } }
      rnpState := tried.2
      tickets := ⟨ticket, now, qrData⟩ :: session.tickets } := by
  have viewed := BookingReference.showQRCode_run rnp lib session.window.bookingReference ticket now
    session.rnpState
  simp only [viewStep, Window.viewTicket, StateT.run_bind, viewed]
  rfl

theorem sound_view {session : Session ρ} (sound : SessionSound rnp lib session) {ticket : TicketInfo}
    (card : .card ticket ∈ session.window.bookingReference.ticketLayout)
    (loggedIn : session.window.isLoggedIn = true) (now : Int64)
    (unfailed : (session.viewStep rnp lib ticket now).rnpState.failed = false) :
    SessionSound rnp lib (session.viewStep rnp lib ticket now) := by
  have own := sound.cards ticket card
  rw [viewStep_eq] at unfailed ⊢
  exact {
    company := sound.company
    issuer := sound.issuer
    loggedOut := fun out => Bool.noConfusion (loggedIn.symm.trans out)
    loggedIn := sound.loggedIn
    cards := sound.cards
    tickets := by
      intro valid issued member
      rcases List.mem_cons.mp member with rfl | earlier
      · refine ⟨own, ?_⟩
        have signing := BookingReference.ticketData_unsigned rnp lib sound.issuer valid own.2.1 now
          session.rnpState
        simp only [signing.2.2, Bool.or_eq_false_iff, Option.isNone_eq_false_iff] at unfailed
        obtain ⟨signature, made⟩ := Option.isSome_iff_exists.mp unfailed.2
        have time : BookingReference.signingTime ticket now = now := by
          simp [BookingReference.signingTime, own.2.2]
        simp only [BookingReference.signatureAt, time] at made signing
        refine ⟨_, _, signature, made, ?_⟩
        simp only [signing.1, made, own.1]
        rfl
      · exact sound.tickets valid issued earlier
    tokens := sound.tokens }

theorem refreshStep_eq (session : Session ρ) (times : GenerationTimes)
    (active : session.window.identificationToken.refreshTimer.isActive = true) :
    let token := session.window.identificationToken
    let signature := token.signatureAt rnp times.clock session.rnpState
    ∃ after, session.refreshStep rnp lib times = { session with
        window := { session.window with
          identificationToken := { token.setCountdown 20 with
            qrImage := some (token.shownData lib times signature)
            refreshTimer := token.refreshTimer.fire.start 20000 times.started } }
        rnpState := after
        tokens := ⟨times.clock, token.shownData lib times signature⟩ :: session.tokens } ∧
      after.failed = (session.rnpState.failed || signature.isNone) := by
  intro token signature
  obtain ⟨after, ran, _, failed⟩ := IdentificationToken.refreshTimeout_run rnp lib token times
    session.rnpState active
  refine ⟨after, ?_, failed⟩
  simp only [refreshStep, Window.refreshTimeout, StateT.run_bind]
  rw [ran]
  rfl

theorem sound_refresh {session : Session ρ} (sound : SessionSound rnp lib session)
    (times : GenerationTimes)
    (active : session.window.identificationToken.refreshTimer.isActive = true)
    (unfailed : (session.refreshStep rnp lib times).rnpState.failed = false) :
    SessionSound rnp lib (session.refreshStep rnp lib times) := by
  have loggedIn : session.window.isLoggedIn = true := by
    by_contra out
    have stopped := (sound.loggedOut (by simpa using out)).2.2.1
    simp [active] at stopped
  obtain ⟨_, publicKey, privateKey, _⟩ := sound.loggedIn loggedIn
  obtain ⟨after, refreshed, failed⟩ := refreshStep_eq rnp lib session times active
  rw [refreshed] at unfailed ⊢
  rw [failed, Bool.or_eq_false_iff, Option.isNone_eq_false_iff] at unfailed
  obtain ⟨signature, made⟩ := Option.isSome_iff_exists.mp unfailed.2
  exact {
    company := sound.company
    issuer := sound.issuer
    loggedOut := fun out => Bool.noConfusion (loggedIn.symm.trans out)
    loggedIn := sound.loggedIn
    cards := sound.cards
    tickets := sound.tickets
    tokens := by
      intro issued member
      rcases List.mem_cons.mp member with rfl | earlier
      · refine ⟨session.rnpState.draws, session.rnpState.calls, signature, ?_, ?_⟩
        · simpa [IdentificationToken.signatureAt, publicKey, privateKey] using made
        · simp [IdentificationToken.shownData, made, publicKey]
      · exact sound.tokens issued earlier }

theorem login_run (window : Window) (email password : QString) (times : GenerationTimes)
    (state : RnpState ρ) :
    let page := { window.loginPage with email, password }
    let outcome := (page.handleLogin rnp lib (window.handleLoginSuccess rnp lib times)).run state
    (window.login rnp lib email password times).run state =
      ({ outcome.1.2.getD window with loginPage := outcome.1.1 }, outcome.2) := rfl

theorem handleLoginSuccess_run (window : Window) (times : GenerationTimes) (account : AccountInfo)
    (state : RnpState ρ) :
    let token := { window.identificationToken with
      publicKey := account.publicKey, privateKey := account.privateKey }
    let signature := token.signatureAt rnp times.clock state
    ∃ after, (window.handleLoginSuccess rnp lib times account).run state =
        ({ window with
            accountInfo := account
            isLoggedIn := true
            mainStacked := 1
            identificationToken := { token.setCountdown 20 with
              qrImage := some (token.shownData lib times signature)
              timerLabelVisible := true
              countdownTimer := token.countdownTimer.start 1000 times.started
              refreshTimer := token.refreshTimer.start 20000 times.started } }, after) ∧
      after.failed = (state.failed || signature.isNone) := by
  intro token signature
  obtain ⟨after, ran, _, failed⟩ := IdentificationToken.setIdentificationToken_run rnp lib
    window.identificationToken account.publicKey account.privateKey times state
  refine ⟨after, ?_, failed⟩
  simp only [Window.handleLoginSuccess, StateT.run_bind]
  rw [ran]
  rfl

theorem sound_login {session : Session ρ} (sound : SessionSound rnp lib session)
    (shown : session.window.mainStacked = 0) (email password : QString) (times : GenerationTimes)
    (unfailed : (session.loginStep rnp lib email password times).rnpState.failed = false) :
    SessionSound rnp lib (session.loginStep rnp lib email password times) := by
  have loggedOut : session.window.isLoggedIn = false := by
    by_contra inside
    have page := (sound.loggedIn (by simpa using inside)).1
    omega
  obtain ⟨_, layout, _, noTickets, noTokens, _⟩ := sound.loggedOut loggedOut
  have cases := LoginPage.handleLogin_cases rnp lib { session.window.loginPage with email, password }
    (session.window.handleLoginSuccess rnp lib times) session.rnpState
  simp only [loginStep, login_run] at unfailed ⊢
  rcases cases with ⟨refused, _⟩ | ⟨keys, middle, accepted, pair, middleUnfailed, handled, failed⟩
  · rw [refused]
    simp only [Option.getD_none, loggedOut, Bool.false_eq_true, ↓reduceIte]
    exact {
      company := sound.company
      issuer := sound.issuer
      loggedOut := fun _ => sound.loggedOut loggedOut
      loggedIn := fun inside => absurd inside (by simp)
      cards := sound.cards
      tickets := sound.tickets
      tokens := sound.tokens }
  · obtain ⟨after, ran, signing⟩ := handleLoginSuccess_run rnp lib session.window times
      ⟨trimmed email, keys.1, keys.2⟩ middle
    simp only [ran] at handled failed
    rw [handled] at unfailed ⊢
    simp only [Option.getD_some, ↓reduceIte] at unfailed ⊢
    rw [failed, signing, Bool.or_eq_false_iff, Option.isNone_eq_false_iff] at unfailed
    obtain ⟨signature, made⟩ := Option.isSome_iff_exists.mp unfailed.2
    exact {
      company := sound.company
      issuer := sound.issuer
      loggedOut := fun out => absurd out (by simp)
      loggedIn := fun _ => ⟨rfl, rfl, rfl, _, rfl, _, _, rfl, pair⟩
      cards := by
        intro ticket member
        simp [layout] at member
      tickets := by
        intro _ issued member
        simp [noTickets] at member
      tokens := by
        intro issued member
        simp only [noTokens, List.mem_singleton] at member
        subst member
        refine ⟨middle.draws, middle.calls, signature, made, ?_⟩
        simp [IdentificationToken.shownData, made] }

theorem countdownTimeout_keeps (token : IdentificationToken) :
    token.countdownTimeout.publicKey = token.publicKey ∧
      token.countdownTimeout.privateKey = token.privateKey ∧
      token.countdownTimeout.refreshTimer = token.refreshTimer := by
  simp only [IdentificationToken.countdownTimeout, IdentificationToken.updateCountdown,
    IdentificationToken.setCountdown]
  split
  · split <;> exact ⟨rfl, rfl, rfl⟩
  · exact ⟨rfl, rfl, rfl⟩

/-- What an event can do to a session: nothing, or its handler runs where the event can occur. -/
inductive Handled (session : Session ρ) : Session ρ → Prop
  | ignored : Handled session session
  | login (email password : QString) (times : GenerationTimes)
      (shown : session.window.mainStacked = 0) :
      Handled session (session.loginStep rnp lib email password times)
  | book (departure destination : QString) (date : QDate) (time : QTime)
      (shown : session.onPage 0 = true) :
      Handled session { session with
        window := session.window.goClicked departure destination date time }
  | viewTicket (ticket : TicketInfo) (now : Int64)
      (card : .card ticket ∈ session.window.bookingReference.ticketLayout)
      (shown : session.onPage 1 = true) : Handled session (session.viewStep rnp lib ticket now)
  | closeQRCode : Handled session { session with window := { session.window with
      bookingReference := session.window.bookingReference.hideQRCode } }
  | countdownTimeout : Handled session { session with window := { session.window with
      identificationToken := session.window.identificationToken.countdownTimeout } }
  | refreshTimeout (times : GenerationTimes)
      (active : session.window.identificationToken.refreshTimer.isActive = true) :
      Handled session (session.refreshStep rnp lib times)
  | navigate (page : Nat) :
      Handled session { session with window := { session.window with stacked := page } }

theorem step_handled (session : Session ρ) (event : WindowEvent) :
    Handled rnp lib session (session.step rnp lib event) := by
  cases event with
  | login email password times =>
      by_cases shown : session.window.mainStacked = 0
      · rw [step, if_pos shown]
        exact .login email password times shown
      · rw [step, if_neg shown]
        exact .ignored
  | book departure destination date time =>
      by_cases shown : session.onPage 0 = true
      · rw [step, if_pos shown]
        exact .book departure destination date time shown
      · rw [step, if_neg shown]
        exact .ignored
  | viewTicket position now =>
      simp only [step]
      split
      · rename_i ticket found
        by_cases shown : session.onPage 1 = true
        · rw [if_pos shown]
          exact .viewTicket ticket now (List.mem_of_getElem? found) shown
        · rw [if_neg shown]
          exact .ignored
      · exact .ignored
  | closeQRCode =>
      by_cases shown : session.onPage 1 = true
      · rw [step, if_pos shown]
        exact .closeQRCode
      · rw [step, if_neg shown]
        exact .ignored
  | countdownTimeout => exact .countdownTimeout
  | refreshTimeout times =>
      by_cases active : session.window.identificationToken.refreshTimer.isActive = true
      · rw [step, if_pos active]
        exact .refreshTimeout times active
      · rw [step, if_neg active]
        exact .ignored
  | navigate button =>
      by_cases shown : session.window.mainStacked = 1
      · rw [step, if_pos shown]
        exact .navigate button.index
      · rw [step, if_neg shown]
        exact .ignored

theorem loginStep_unfailed {session : Session ρ} {email password : QString} {times : GenerationTimes}
    (unfailed : (session.loginStep rnp lib email password times).rnpState.failed = false) :
    session.rnpState.failed = false := by
  have cases := LoginPage.handleLogin_cases rnp lib { session.window.loginPage with email, password }
    (session.window.handleLoginSuccess rnp lib times) session.rnpState
  have after : ((session.window.login rnp lib email password times).run
      session.rnpState).2.failed = false := by
    simp only [loginStep] at unfailed
    split at unfailed <;> exact unfailed
  rw [login_run] at after
  rcases cases with ⟨_, same | failed⟩ | ⟨keys, middle, _, _, middleUnfailed, _, failed⟩
  · exact same ▸ after
  · exact Bool.noConfusion (failed.symm.trans after)
  · obtain ⟨_, ran, signing⟩ := handleLoginSuccess_run rnp lib session.window times
      ⟨trimmed email, keys.1, keys.2⟩ middle
    simp only [ran] at failed
    have both := failed.symm.trans after
    rw [signing, Bool.or_eq_false_iff] at both
    exact middleUnfailed ▸ both.1

theorem unfailed_of_handled {session after : Session ρ} (handled : Handled rnp lib session after)
    (unfailed : after.rnpState.failed = false) : session.rnpState.failed = false := by
  cases handled with
  | ignored => exact unfailed
  | login email password times => exact loginStep_unfailed rnp lib unfailed
  | book departure destination date time => exact unfailed
  | viewTicket ticket now =>
      rw [viewStep_eq] at unfailed
      exact BookingReference.ticketData_unfailed rnp lib unfailed
  | closeQRCode => exact unfailed
  | countdownTimeout => exact unfailed
  | refreshTimeout times active =>
      obtain ⟨after, refreshed, failed⟩ := refreshStep_eq rnp lib session times active
      rw [refreshed] at unfailed
      rw [failed, Bool.or_eq_false_iff] at unfailed
      exact unfailed.1
  | navigate page => exact unfailed

theorem sound_of_handled {session after : Session ρ} (handled : Handled rnp lib session after)
    (sound : Sound rnp lib session) : Sound rnp lib after := by
  intro unfailed
  have now := sound (unfailed_of_handled rnp lib handled unfailed)
  cases handled with
  | ignored => exact now
  | login email password times shown =>
      exact sound_login rnp lib now shown email password times unfailed
  | book departure destination date time shown =>
      exact sound_book rnp lib now shown departure destination date time
  | viewTicket ticket clock card shown =>
      exact sound_view rnp lib now card (loggedIn_of_onPage rnp lib now shown) clock unfailed
  | closeQRCode =>
      exact ⟨now.company, now.issuer, now.loggedOut, now.loggedIn, now.cards, now.tickets, now.tokens⟩
  | countdownTimeout =>
      obtain ⟨publicKey, privateKey, refreshTimer⟩ :=
        countdownTimeout_keeps session.window.identificationToken
      refine ⟨now.company, now.issuer, ?_, ?_, now.cards, now.tickets, now.tokens⟩
      · intro out
        simp only [refreshTimer]
        exact now.loggedOut out
      · intro inside
        simp only [publicKey, privateKey]
        exact now.loggedIn inside
  | refreshTimeout times active => exact sound_refresh rnp lib now times active unfailed
  | navigate page =>
      exact ⟨now.company, now.issuer, now.loggedOut, now.loggedIn, now.cards, now.tickets, now.tokens⟩

theorem sound_step (session : Session ρ) (event : WindowEvent) (sound : Sound rnp lib session) :
    Sound rnp lib (session.step rnp lib event) :=
  sound_of_handled rnp lib (step_handled rnp lib session event) sound

theorem sound_run (random : RandomGenerator) (state : RnpState ρ) (events : List WindowEvent) :
    Sound rnp lib (run rnp lib (start rnp lib random state) events) :=
  Runs.run_invariant (sound_step rnp lib) (sound_start rnp lib random state) events

end Session

end SbbTicketing
