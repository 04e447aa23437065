import SbbTicketing.ControlSoundness

/-! The way of an honest passenger: what a download puts on the disk stays there while nobody
writes to the file, and an inspector who loads both pictures comes to the verdict on the codes. -/

namespace SbbTicketing

open Qt

variable {ρ ι : Type} (rnp : Rnp ρ) (lib : QtLibrary) (images : ImageLibrary)

/-- The file holds a picture of the code that can be loaded and scanned. -/
def Readable (disk : Disk) (fileName code : QString) : Prop :=
  fileName ≠ [] ∧ ∃ contents, disk fileName = some contents ∧ Pictures images contents code ∧
    (images.load contents).isSome = true ∧ (images.zbarimg contents).1 = 0

variable {lib images} in
theorem Readable.read_chosen {disk : Disk} {fileName code known : QString}
    (readable : Readable images disk fileName code) (scans : Scans images lib) (plain : CodeText code) :
    Control.read lib known (disk.chosen images fileName true) = code := by
  obtain ⟨given, contents, held, picture, load, scanned⟩ := readable
  obtain ⟨pixmap, read⟩ := Option.isSome_iff_exists.mp load
  rw [Control.read, if_neg (by simp [Disk.chosen, given, held, read]),
    scans.decode_chosen plain picture held true, if_pos ⟨rfl, scanned⟩]

def Spares (fileName : QString) : SystemEvent ι → Prop
  | .foreign other _ => other ≠ fileName
  | .process _ (.downloadPIT _ dialog _) => ∀ caption suggestion filter, dialog caption suggestion filter ≠ fileName
  | .process _ (.downloadTicket _ dialog _) => ∀ caption suggestion filter,
      dialog caption suggestion filter ≠ fileName
  | .process _ _ => True

theorem savePicture_spares {code caption defaultFileName success fileName : QString} {dialog : SaveDialog}
    (other : ∀ caption suggestion filter, dialog caption suggestion filter ≠ fileName) (attempt : Nat)
    (disk : Disk) :
    (savePicture images code caption defaultFileName success dialog attempt disk).disk fileName =
      disk fileName :=
  (saves_savePicture images code caption defaultFileName success dialog attempt disk).others fileName
    (other caption defaultFileName imageFilter).symm

theorem savePicture_stores {code fileName : QString} {attempt : Nat} {contents : QByteArray}
    {dialog : SaveDialog} (named : ∀ caption suggestion filter, dialog caption suggestion filter = fileName)
    (given : fileName ≠ [])
    (written : (images.save attempt fileName (generateQRCode images code 280)).written = some contents)
    (caption defaultFileName success : QString) (disk : Disk) :
    (savePicture images code caption defaultFileName success dialog attempt disk).disk =
      Function.update disk fileName (some contents) := by
  simp only [savePicture, named, List.isEmpty_iff, given, ↓reduceIte]
  rw [apply_ite Download.disk, ite_self, Disk.written, written]

namespace Application

theorem step_spares {application : Application ρ} {event : ProcessEvent} {who : ι} {fileName : QString}
    (spares : Spares fileName (.process who event)) (disk : Disk) :
    (application.step rnp lib images disk event).2 fileName = disk fileName := by
  cases event with
  | downloadPIT timestamp dialog attempt =>
      cases window : application.user? with
      | none => simp only [step, downloadPIT, window]
      | some session =>
          by_cases shown : session.onPage 2 = true
          · cases displayed : session.window.identificationToken.qrImage with
            | none => simp only [step, downloadPIT, window, shown, ↓reduceIte, IdentificationToken.downloadPIT,
                displayed]
            | some code =>
                simp only [step, downloadPIT, window, shown, ↓reduceIte, IdentificationToken.downloadPIT,
                  displayed]
                exact savePicture_spares images spares attempt disk
          · simp [step, downloadPIT, window, shown]
  | downloadTicket timestamp dialog attempt =>
      cases window : application.user? with
      | none => simp only [step, downloadTicket, window]
      | some session =>
          simp only [step, downloadTicket, window]
          split_ifs with shown
          · cases checked : session.window.bookingReference.downloadCurrentQRCode timestamp with
            | error message => simp only [BookingReference.saveCurrentQRCode, checked]
            | ok defaultFileName =>
                simp only [BookingReference.saveCurrentQRCode, checked]
                exact savePicture_spares images spares attempt disk
          · rfl
  | user event => rfl
  | loadPIT fileName inTime => rfl
  | loadTicket fileName inTime => rfl
  | verifyClicked now => rfl
  | clearClicked => rfl

theorem downloadPIT_stores {application : Application ρ} {session : Session ρ} {code fileName : QString}
    {attempt : Nat} {contents : QByteArray} {dialog : SaveDialog}
    (window : application.user? = some session) (shown : session.onPage 2 = true)
    (displayed : session.window.identificationToken.qrImage = some code)
    (named : ∀ caption suggestion filter, dialog caption suggestion filter = fileName)
    (given : fileName ≠ [])
    (written : (images.save attempt fileName (generateQRCode images code 280)).written = some contents)
    (timestamp : QString) (disk : Disk) :
    application.downloadPIT images timestamp dialog attempt disk =
      Function.update disk fileName (some contents) := by
  simp only [downloadPIT, window, shown, ↓reduceIte, IdentificationToken.downloadPIT, displayed]
  exact savePicture_stores images named given written _ _ _ disk

theorem downloadTicket_stores {application : Application ρ} {session : Session ρ} {code fileName : QString}
    {attempt : Nat} {contents : QByteArray} {dialog : SaveDialog}
    (window : application.user? = some session) (shown : session.onPage 1 = true)
    (opened : session.window.bookingReference.overlayHidden = false)
    (displayed : session.window.bookingReference.qrImage = some code)
    (valid : session.window.bookingReference.currentTicket.isValid = true)
    (named : ∀ caption suggestion filter, dialog caption suggestion filter = fileName)
    (given : fileName ≠ [])
    (written : (images.save attempt fileName (generateQRCode images code 280)).written = some contents)
    (timestamp : QString) (disk : Disk) :
    application.downloadTicket images timestamp dialog attempt disk =
      Function.update disk fileName (some contents) := by
  simp only [downloadTicket, window, shown, opened, Bool.not_false, Bool.and_self, ↓reduceIte,
    BookingReference.saveCurrentQRCode, BookingReference.downloadCurrentQRCode, displayed,
    Option.isNone_some, Bool.false_eq_true, valid, Bool.not_true, Option.getD_some]
  exact savePicture_stores images named given written _ _ _ disk

theorem carries_inspectorStep {application : Application ρ} {inspection : Inspection ρ} {control : Control}
    (window : application.inspectorWindow = some inspection) (carries : inspection.Carries control)
    (event : InspectorEvent) :
    ∃ later, (application.inspectorStep rnp lib event).inspectorWindow = some later ∧
      later.Carries (control.step lib event) := by
  have borrowed : Inspection.Carries { inspection with rnpState := application.rnpState } control :=
    ⟨carries.pit, carries.ticket, carries.button, carries.panel⟩
  exact ⟨_, by simp only [inspectorStep, inspector?, window, Option.map_some],
    Inspection.carries_step rnp lib _ control event borrowed⟩

end Application

namespace System

variable [DecidableEq ι] {rnp lib images} {system : System ι ρ}

theorem run_spares {fileName : QString} {events : List (SystemEvent ι)}
    (spared : ∀ event ∈ events, Spares fileName event) :
    (run rnp lib images system events).disk fileName = system.disk fileName := by
  have preserved (later : System ι ρ) (event : SystemEvent ι) (member : event ∈ events)
      (kept : later.disk fileName = system.disk fileName) :
      (later.step rnp lib images event).disk fileName = system.disk fileName := by
    rw [← kept]
    cases event with
    | foreign other contents => exact Function.update_of_ne (spared _ member).symm _ _
    | process who event => exact Application.step_spares rnp lib images (spared _ member) later.disk
  exact Runs.run_invariant_of_mem preserved rfl

theorem checking_verdict (scans : Scans images lib) {who : ι} {inspection : Inspection ρ} {control : Control}
    (window : (system.process who).inspectorWindow = some inspection) (carries : inspection.Carries control)
    {pitFile ticketFile pitQRData ticketQRData : QString} (pitCode : CodeText pitQRData)
    (ticketCode : CodeText ticketQRData) (pitReadable : Readable images system.disk pitFile pitQRData)
    (ticketReadable : Readable images system.disk ticketFile ticketQRData) (now : Int64) :
    ∃ later, ((run rnp lib images system (checking who pitFile ticketFile now)).process who).inspectorWindow =
        some later ∧
      later.Carries ⟨pitQRData, ticketQRData, judge lib now pitQRData ticketQRData⟩ := by
  obtain ⟨first, firstWindow, firstCarries⟩ := Application.carries_inspectorStep rnp lib window carries
    (.loadPIT (system.disk.chosen images pitFile true))
  obtain ⟨second, secondWindow, secondCarries⟩ := Application.carries_inspectorStep rnp lib firstWindow
    firstCarries (.loadTicket (system.disk.chosen images ticketFile true))
  obtain ⟨third, thirdWindow, thirdCarries⟩ := Application.carries_inspectorStep rnp lib secondWindow
    secondCarries (.verifyClicked now)
  refine ⟨third, ?_, ?_⟩
  · simp only [run, checking, Runs.run_cons, Runs.run_nil, step, Application.step, Function.update_self]
    exact thirdWindow
  · simp only [Control.step, pitReadable.read_chosen scans pitCode,
      ticketReadable.read_chosen scans ticketCode, pitCode.1, ticketCode.1, or_self, ↓reduceIte] at thirdCarries
    exact thirdCarries

theorem presenting_stores {who : ι} {session : Session ρ} {record : LoginRecord ρ} {ticket : IssuedTicket}
    {token : IssuedToken} (window : (system.process who).user? = some session)
    (inside : session.LoggedIn lib record) (ticketPage : session.onPage 1 = true)
    (opened : session.window.bookingReference.overlayHidden = false)
    (latestTicket : session.tickets.head? = some ticket) (latestToken : session.tokens.head? = some token)
    {ticketFile pitFile : QString} (named : pitFile ≠ [] ∧ ticketFile ≠ [] ∧ pitFile ≠ ticketFile)
    {attempt attempt' : Nat} {ticketContents pitContents : QByteArray}
    (ticketSaved : (images.save attempt ticketFile (generateQRCode images ticket.qrData 280)).written =
      some ticketContents)
    (pitSaved : (images.save attempt' pitFile (generateQRCode images token.qrData 280)).written =
      some pitContents) (timestamp : QString) :
    let after := run rnp lib images system (presenting who ticketFile pitFile timestamp attempt attempt')
    after.disk pitFile = some pitContents ∧ after.disk ticketFile = some ticketContents := by
  obtain ⟨shown, image, current⟩ := inside.ticket.current ticket latestTicket
  obtain ⟨issued, latest, code⟩ := inside.token.current
  rw [latestToken, Option.some.injEq] at latest
  subst latest
  obtain ⟨cards, ⟨layout, _⟩, booked⟩ := inside.ticket.cards
  have listed := (inside.ticket.issued ticket (List.mem_of_head? latestTicket)).1
  rw [layout, BookingReference.cardsLayout] at listed
  have valid := (booked ticket.ticket (by simpa using listed)).isValid
  rw [← current] at valid
  have ticketStored := Application.downloadTicket_stores images window ticketPage opened image valid
    (fun _ _ _ => rfl) named.2.1 ticketSaved timestamp system.disk
  -- the identity page is the next one shown, and the code on it is still the same
  have navigated : ((system.process who).userStep rnp lib (.navigate .id)).user? = some { session with
      window := { session.window with stacked := 2 } } := by
    rw [Application.user?_userStep, window, Option.map_some]
    simp only [Session.step, inside.shown.2.1, ↓reduceIte]
    rfl
  have idPage : Session.onPage { session with window := { session.window with stacked := 2 } } 2 = true := by
    simp [Session.onPage, inside.shown.2.1]
  have pitStored := Application.downloadPIT_stores images navigated idPage code (fun _ _ _ => rfl)
    named.1 pitSaved timestamp (Function.update system.disk ticketFile (some ticketContents))
  simp only [run, presenting, Runs.run_cons, Runs.run_nil, step, Application.step, Function.update_self,
    ticketStored, pitStored]
  exact ⟨trivial, by rw [Function.update_of_ne named.2.2.symm, Function.update_self]⟩

end System

/-- The code on display is the signed one, not what is shown when signing has failed. -/
def IssuedToken.IsSigned (publicKey : QString) (issued : IssuedToken) : Prop :=
  ∃ signature, issued.qrData = tokenCode (keyHash lib publicKey) issued.clock (toHex signature)

def IssuedTicket.IsSigned (publicKey : QString) (issued : IssuedTicket) : Prop :=
  ∃ signature, issued.qrData = ticketCode issued.ticket.bookingReference issued.now (keyHash lib publicKey)
    (toHex signature)

section

variable {lib} {publicKey : QString} {token : IssuedToken} {ticket : IssuedTicket}

theorem holderHash_token (made : TokenIssued lib publicKey token) {now : Int64} {publicKeyHash : QString} :
    holderHash now token.qrData = some publicKeyHash ↔
      (token.IsSigned lib publicKey ∧ TicketOwnership.Fresh now token.clock) ∧
        publicKeyHash = keyHash lib publicKey := by
  rw [holderHash_eq_some_iff]
  constructor
  · rintro ⟨timestamp, signature, reads, fresh⟩
    rcases made with signed | ⟨clock, fallback⟩
    · obtain ⟨bytes, code⟩ := signed
      have own := readsPIT_tokenCode (IsMark.colon.not_mem_keyHash lib publicKey)
        (IsMark.colon.not_mem_toHex bytes) token.clock
      rw [← code] at own
      obtain ⟨hash, rfl, _⟩ := reads.unique own
      exact ⟨⟨⟨bytes, code⟩, fresh⟩, hash⟩
    · have four := reads.parts
      have three := fallbackToken_parts lib publicKey clock
      rw [fallback] at four
      omega
  · rintro ⟨⟨⟨bytes, code⟩, fresh⟩, rfl⟩
    refine ⟨token.clock, toHex bytes, ?_, fresh⟩
    rw [code]
    exact readsPIT_tokenCode (IsMark.colon.not_mem_keyHash lib publicKey)
      (IsMark.colon.not_mem_toHex bytes) token.clock

theorem ticketNames_ticket (made : TicketIssued lib publicKey ticket) {reference publicKeyHash : QString} :
    ticketNames ticket.qrData = some (reference, publicKeyHash) ↔
      ticket.IsSigned lib publicKey ∧ reference = ticket.ticket.bookingReference ∧
        publicKeyHash = keyHash lib publicKey := by
  have plainRef := IsMark.colon.not_mem_reference ticket.ticket
  rw [ticketNames_eq_some_iff]
  constructor
  · rintro ⟨timestamp, signature, reads⟩
    rcases made with ⟨bytes, code⟩ | fallback
    · have own := readsTicket_ticketCode plainRef (IsMark.colon.not_mem_keyHash lib publicKey)
        (IsMark.colon.not_mem_toHex bytes) ticket.now
      rw [← code] at own
      obtain ⟨ref, _, hash, _⟩ := reads.unique own
      exact ⟨⟨bytes, code⟩, ref, hash⟩
    · have five := reads.parts
      rw [fallback, split_single plainRef] at five
      simp at five
  · rintro ⟨⟨bytes, code⟩, rfl, rfl⟩
    refine ⟨ticket.now, toHex bytes, ?_⟩
    rw [code]
    exact readsTicket_ticketCode plainRef (IsMark.colon.not_mem_keyHash lib publicKey)
      (IsMark.colon.not_mem_toHex bytes) ticket.now

theorem judge_issued {holderKey ownerKey : QString} (tokenMade : TokenIssued lib holderKey token)
    (ticketMade : TicketIssued lib ownerKey ticket) {now : Int64} {reference : QString} :
    judge lib now token.qrData ticket.qrData = .belongs reference ↔
      (token.IsSigned lib holderKey ∧ ticket.IsSigned lib ownerKey ∧ TicketOwnership.Fresh now token.clock ∧
        lib.toLower (keyHash lib holderKey) = lib.toLower (keyHash lib ownerKey)) ∧
        reference = ticket.ticket.bookingReference := by
  rw [judge_eq_belongs_iff]
  simp only [holderHash_token tokenMade, ticketNames_ticket ticketMade]
  constructor
  · rintro ⟨_, _, ⟨⟨signed, fresh⟩, rfl⟩, ⟨ticketSigned, named, rfl⟩, same⟩
    exact ⟨⟨signed, ticketSigned, fresh, same⟩, named⟩
  · rintro ⟨⟨signed, ticketSigned, fresh, same⟩, named⟩
    exact ⟨_, _, ⟨⟨signed, fresh⟩, rfl⟩, ⟨ticketSigned, named, rfl⟩, same⟩

end

/-- What an inspector is shown about a token of the one key and a ticket of the other. -/
structure Judged (lib : QtLibrary) (now : Int64) (holderKey ownerKey : QString) (token : IssuedToken)
    (ticket : IssuedTicket) (inspection : Inspection ρ) : Prop where
  panel : inspection.inspector.panel = (judge lib now token.qrData ticket.qrData).shown
  valid : inspection.inspector.showsValid ↔ token.IsSigned lib holderKey ∧ ticket.IsSigned lib ownerKey ∧
    TicketOwnership.Fresh now token.clock ∧ lib.toLower (keyHash lib holderKey) = lib.toLower (keyHash lib ownerKey)
  named : inspection.inspector.showsValid →
    inspection.inspector.panel = (Verdict.belongs ticket.ticket.bookingReference).shown

variable {rnp lib images}

theorem judged_of_panel {now : Int64} {holderKey ownerKey : QString} {token : IssuedToken} {ticket : IssuedTicket}
    {inspection : Inspection ρ} (tokenMade : TokenIssued lib holderKey token)
    (ticketMade : TicketIssued lib ownerKey ticket)
    (panel : inspection.inspector.panel = (judge lib now token.qrData ticket.qrData).shown) :
    Judged lib now holderKey ownerKey token ticket inspection := by
  have named : inspection.inspector.showsValid →
      judge lib now token.qrData ticket.qrData = .belongs ticket.ticket.bookingReference := by
    intro valid
    have headline : inspection.inspector.panel.2.1 = TicketInspector.validText := valid
    rw [panel] at headline
    obtain ⟨reference, belongs⟩ := Verdict.belongs_of_headline headline
    rw [belongs, ((judge_issued tokenMade ticketMade).mp belongs).2]
  refine ⟨panel, ⟨fun valid => ((judge_issued tokenMade ticketMade).mp (named valid)).1, fun entitled => ?_⟩,
    fun valid => panel.trans (congrArg Verdict.shown (named valid))⟩
  have belongs := (judge_issued tokenMade ticketMade).mpr ⟨entitled, rfl⟩
  have headline : inspection.inspector.panel.2.1 = TicketInspector.validText := by
    rw [panel]
    exact congrArg (fun verdict => verdict.shown.2.1) belongs
  exact headline

namespace System

variable [DecidableEq ι]

theorem inspectorWindow_isSome_run (system : System ι ρ) (events : List (SystemEvent ι)) (who : ι) :
    ((run rnp lib images system events).process who).inspectorWindow.isSome =
      (system.process who).inspectorWindow.isSome := by
  have shown : ((run rnp lib images system events).process who).inspectorWindow.map Inspection.onScreen = _ :=
    onScreen_run rnp lib images system events
  have same := congrArg Option.isSome shown
  rwa [Option.isSome_map, Option.isSome_map] at same

theorem judged_checking (scans : Scans images lib) (launches : ι → Launch ρ) (disk : Disk)
    (events : List (SystemEvent ι)) {inspector : ι}
    (works : ((start rnp lib launches disk).process inspector).inspectorWindow.isSome = true)
    {holderSession ownerSession : Session ρ} (holderPhased : holderSession.Phased lib)
    (ownerPhased : ownerSession.Phased lib) {token : IssuedToken} (tokenShown : token ∈ holderSession.tokens)
    {ticket : IssuedTicket} (ticketShown : ticket ∈ ownerSession.tickets) {pitFile ticketFile : QString}
    (pitReadable : Readable images (run rnp lib images (start rnp lib launches disk) events).disk pitFile
      token.qrData)
    (ticketReadable : Readable images (run rnp lib images (start rnp lib launches disk) events).disk ticketFile
      ticket.qrData) (now : Int64) :
    ∃ inspection, ((run rnp lib images (start rnp lib launches disk) (events ++
        checking inspector pitFile ticketFile now)).process inspector).inspectorWindow = some inspection ∧
      Judged lib now holderSession.window.accountInfo.publicKey ownerSession.window.accountInfo.publicKey token
        ticket inspection := by
  have shownToken : holderSession.Shown token.qrData := Or.inl ⟨token, tokenShown, rfl⟩
  have shownTicket : ownerSession.Shown ticket.qrData := Or.inr ⟨ticket, ticketShown, rfl⟩
  obtain ⟨_, holderInside⟩ := Session.loggedIn_of_shown holderPhased shownToken
  obtain ⟨_, ownerInside⟩ := Session.loggedIn_of_shown ownerPhased shownTicket
  obtain ⟨checker, opened⟩ : ∃ checker, ((run rnp lib images (start rnp lib launches disk)
      events).process inspector).inspectorWindow = some checker := by
    rw [← Option.isSome_iff_exists, inspectorWindow_isSome_run]
    exact works
  obtain ⟨control, carries, _⟩ := backed_inspector scans launches disk events opened
  obtain ⟨inspection, final, judged⟩ := checking_verdict scans opened carries
    (Session.codeText_of_shown holderPhased shownToken) (Session.codeText_of_shown ownerPhased shownTicket)
    pitReadable ticketReadable now
  refine ⟨inspection, ?_, judged_of_panel (holderInside.token.issued token tokenShown)
    (ownerInside.ticket.issued ticket ticketShown).2 judged.panel⟩
  rw [run, Runs.run_append]
  exact final

end System

/-- Whoever has put them there: given two files with readable pictures of a token and a ticket that
user windows of the machine have shown, an inspector is told exactly whether both were signed, the
token is fresh and the two accounts have one key hash, and then which ticket it is. -/
theorem verdict_exact [DecidableEq ι] (scans : Scans images lib) (launches : ι → Launch ρ) (disk : Disk)
    (events : List (SystemEvent ι)) (holder owner inspector : ι) (holderSession ownerSession : Session ρ)
    (holderWindow : ((System.run rnp lib images (System.start rnp lib launches disk) events).process
      holder).user? = some holderSession)
    (ownerWindow : ((System.run rnp lib images (System.start rnp lib launches disk) events).process
      owner).user? = some ownerSession)
    (works : ((System.start rnp lib launches disk).process inspector).inspectorWindow.isSome = true)
    (token : IssuedToken) (tokenShown : token ∈ holderSession.tokens)
    (ticket : IssuedTicket) (ticketShown : ticket ∈ ownerSession.tickets) (pitFile ticketFile : QString)
    (pitReadable : Readable images (System.run rnp lib images (System.start rnp lib launches disk) events).disk
      pitFile token.qrData)
    (ticketReadable : Readable images (System.run rnp lib images (System.start rnp lib launches disk) events).disk
      ticketFile ticket.qrData) (now : Int64) :
    ∃ inspection, ((System.run rnp lib images (System.start rnp lib launches disk) (events ++
        System.checking inspector pitFile ticketFile now)).process inspector).inspectorWindow =
        some inspection ∧
      Judged lib now holderSession.window.accountInfo.publicKey ownerSession.window.accountInfo.publicKey token
        ticket inspection := by
  have traced : (System.run rnp lib images (System.start rnp lib launches disk) events).Traced lib images
      (System.Foreign disk events) := System.traced_run launches disk (List.Subset.refl events)
  exact System.judged_checking scans launches disk events works (traced.users holder _ holderWindow)
    (traced.users owner _ ownerWindow) tokenShown ticketShown pitReadable ticketReadable now

namespace System

def sampleToken : IssuedToken := Session.sample.tokens.head (by decide +kernel)

def sampleTicket : IssuedTicket := Session.sample.tickets.head (by decide +kernel)

def sampleCopied : List (SystemEvent Bool) :=
  sampleEarlier ++ [.foreign (text "pit.png") (some [0]), .foreign (text "ticket.png") (some [2])]

end System

theorem verdict_exact_sample : ∃ inspection,
    ((System.run PlainRnp.rnp PlainRnp.library System.sampleImages System.sampleStart (System.sampleCopied ++
      System.checking false (text "pit.png") (text "ticket.png") 1000)).process false).inspectorWindow =
        some inspection ∧
    ¬inspection.inspector.showsValid := by
  have window : ((System.run PlainRnp.rnp PlainRnp.library System.sampleImages System.sampleStart
      System.sampleCopied).process true).user? = some Session.sample := by
    rw [System.user?_run]
    rfl
  have pitReadable : Readable System.sampleImages (System.run PlainRnp.rnp PlainRnp.library System.sampleImages
      System.sampleStart System.sampleCopied).disk (text "pit.png") System.sampleToken.qrData :=
    ⟨by decide, [0], by decide +kernel, ⟨0, [], by decide +kernel⟩, rfl, rfl⟩
  have ticketReadable : Readable System.sampleImages (System.run PlainRnp.rnp PlainRnp.library
      System.sampleImages System.sampleStart System.sampleCopied).disk (text "ticket.png")
      System.sampleTicket.qrData :=
    ⟨by decide, [2], by decide +kernel, ⟨0, [], by decide +kernel⟩, rfl, rfl⟩
  obtain ⟨inspection, opened, judged⟩ := verdict_exact (PlainImages.scans (by decide +kernel)) _ _
    System.sampleCopied true true false _ _ window window (by decide +kernel) System.sampleToken
    (List.head_mem _) System.sampleTicket (List.head_mem _) _ _ pitReadable ticketReadable 1000
  have stale : ¬TicketOwnership.Fresh 1000 System.sampleToken.clock := by decide +kernel
  exact ⟨inspection, opened, fun valid => stale (judged.valid.mp valid).2.2.1⟩

/-- A ticket's code and the current token are on display in a window that shows the ticket page. -/
structure OnShow (session : Session ρ) (token : IssuedToken) (ticket : IssuedTicket) : Prop where
  page : session.onPage 1 = true
  opened : session.window.bookingReference.overlayHidden = false
  token : session.tokens.head? = some token
  ticket : session.tickets.head? = some ticket

variable (images) in
/-- Two files the codes can be saved to, and pictures of them that can be loaded and scanned. -/
structure Carriers (pitCode ticketCode pitFile ticketFile : QString) (attempt attempt' : Nat)
    (pitContents ticketContents : QByteArray) : Prop where
  named : pitFile ≠ [] ∧ ticketFile ≠ [] ∧ pitFile ≠ ticketFile
  ticketSaved : (images.save attempt ticketFile (generateQRCode images ticketCode 280)).written =
    some ticketContents
  pitSaved : (images.save attempt' pitFile (generateQRCode images pitCode 280)).written = some pitContents
  loads : (images.load pitContents).isSome = true ∧ (images.load ticketContents).isSome = true
  found : (images.zbarimg pitContents).1 = 0 ∧ (images.zbarimg ticketContents).1 = 0

/-- A passenger saves the two codes on display, and an inspector of any process loads the two
files and clicks: whatever happened before, and whatever happens in between to other files and in
all windows, the inspector is shown the verdict on the two codes. It is a valid one if and only if
both were signed and the token is fresh, and then it names the passenger's ticket. -/
theorem control_complete [DecidableEq ι] (scans : Scans images lib) (launches : ι → Launch ρ) (disk : Disk)
    (earlier between : List (SystemEvent ι)) (passenger inspector : ι) (session : Session ρ)
    (window : ((System.run rnp lib images (System.start rnp lib launches disk) earlier).process
      passenger).user? = some session)
    (works : ((System.start rnp lib launches disk).process inspector).inspectorWindow.isSome = true)
    (token : IssuedToken) (ticket : IssuedTicket) (onShow : OnShow session token ticket)
    (pitFile ticketFile : QString) (attempt attempt' : Nat) (pitContents ticketContents : QByteArray)
    (carriers : Carriers images token.qrData ticket.qrData pitFile ticketFile attempt attempt' pitContents
      ticketContents)
    (spared : ∀ event ∈ between, Spares pitFile event ∧ Spares ticketFile event) (timestamp : QString)
    (now : Int64) :
    let publicKey := session.window.accountInfo.publicKey
    let last := System.run rnp lib images (System.start rnp lib launches disk) (earlier ++
      System.presenting passenger ticketFile pitFile timestamp attempt attempt' ++ between ++
        System.checking inspector pitFile ticketFile now)
    ∃ inspection, (last.process inspector).inspectorWindow = some inspection ∧
      inspection.inspector.panel = (judge lib now token.qrData ticket.qrData).shown ∧
      (inspection.inspector.showsValid ↔ token.IsSigned lib publicKey ∧ ticket.IsSigned lib publicKey ∧
        TicketOwnership.Fresh now token.clock) ∧
      (inspection.inspector.showsValid →
        inspection.inspector.panel = (Verdict.belongs ticket.ticket.bookingReference).shown) := by
  intro publicKey last
  have phased : session.Phased lib :=
    (System.traced_run launches disk (List.Subset.refl earlier)).users passenger session window
  have tokenShown := List.mem_of_head? onShow.token
  have ticketShown := List.mem_of_head? onShow.ticket
  obtain ⟨record, inside⟩ := Session.loggedIn_of_shown phased (Or.inl ⟨token, tokenShown, rfl⟩)
  have stored : let after := System.run rnp lib images _ (System.presenting passenger _ _ timestamp _ _)
      after.disk pitFile = some pitContents ∧ after.disk ticketFile = some ticketContents :=
    System.presenting_stores window inside onShow.page onShow.opened onShow.ticket onShow.token
      carriers.named carriers.ticketSaved carriers.pitSaved timestamp
  let saved := System.run rnp lib images (System.start rnp lib launches disk) (earlier ++
    System.presenting passenger ticketFile pitFile timestamp attempt attempt' ++ between)
  have kept : saved.disk pitFile = some pitContents ∧ saved.disk ticketFile = some ticketContents := by
    simp only [saved, System.run, Runs.run_append] at stored ⊢
    exact ⟨(System.run_spares fun event member => (spared event member).1).trans stored.1,
      (System.run_spares fun event member => (spared event member).2).trans stored.2⟩
  obtain ⟨inspection, final, judged⟩ := System.judged_checking scans launches disk _ works phased phased
    tokenShown ticketShown
    ⟨carriers.named.1, pitContents, kept.1, ⟨attempt', pitFile, carriers.pitSaved⟩, carriers.loads.1,
      carriers.found.1⟩
    ⟨carriers.named.2.1, ticketContents, kept.2, ⟨attempt, ticketFile, carriers.ticketSaved⟩,
      carriers.loads.2, carriers.found.2⟩ now
  refine ⟨inspection, final, judged.panel, judged.valid.trans ?_, judged.named⟩
  simp only [and_true]
  rfl

theorem control_complete_sample : ∃ inspection,
    ((System.run PlainRnp.rnp PlainRnp.library System.sampleImages System.sampleStart
      System.sampleEvents).process false).inspectorWindow = some inspection ∧
    inspection.inspector.panel = (Verdict.belongs (text "ABCDEF")).shown := by
  have window : ((System.run PlainRnp.rnp PlainRnp.library System.sampleImages System.sampleStart
      System.sampleEarlier).process true).user? = some Session.sample := by
    rw [System.user?_run]
    rfl
  have onShow : OnShow Session.sample System.sampleToken System.sampleTicket :=
    ⟨by decide +kernel, by decide +kernel, List.head?_eq_some_head _, List.head?_eq_some_head _⟩
  have carriers : Carriers System.sampleImages System.sampleToken.qrData System.sampleTicket.qrData
      (text "pit.png") (text "ticket.png") 0 0 [0] [2] := by
    constructor
    all_goals decide +kernel
  obtain ⟨inspection, opened, panel, _⟩ := control_complete
    (PlainImages.scans (by decide +kernel)) _ _ System.sampleEarlier [.process true .clearClicked] true false
    Session.sample window (by decide +kernel) _ _ onShow _ _ 0 0 _ _ carriers (by simp [Spares]) (text "1") 130
  have judged : judge PlainRnp.library 130 System.sampleToken.qrData System.sampleTicket.qrData =
      .belongs (text "ABCDEF") := by decide +kernel
  rw [judged] at panel
  exact ⟨inspection, opened, panel⟩

end SbbTicketing
