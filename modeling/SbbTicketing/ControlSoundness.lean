import SbbTicketing.ApplicationRuns
import SbbTicketing.DownloadChecks
import SbbTicketing.HonestTokens
import SbbTicketing.PlainImages

/-! Ticket control across the processes of a machine: where the strings behind a verdict come
from, and that a valid one is about a fresh token and a ticket that user windows have shown,
unless another program has made the file. -/

namespace SbbTicketing

open Qt

variable {ρ ι : Type} (rnp : Rnp ρ) (lib : QtLibrary) (images : ImageLibrary)

namespace Control

/-- What is known was read from somewhere, and a verdict was reached by a click about two strings
that were. -/
structure Backed (clicked : Int64 → Prop) (readable : QString → Prop) (control : Control) : Prop where
  pit : control.pit = [] ∨ readable control.pit
  ticket : control.ticket = [] ∨ readable control.ticket
  verdict : ∀ reference, control.verdict = .belongs reference → ∃ now pitQRData ticketQRData,
    clicked now ∧ readable pitQRData ∧ readable ticketQRData ∧
      judge lib now pitQRData ticketQRData = .belongs reference

variable {lib} {clicked : Int64 → Prop} {readable : QString → Prop} {control : Control}

theorem backed_fresh : fresh.Backed lib clicked readable where
  pit := Or.inl rfl
  ticket := Or.inl rfl
  verdict := by simp [fresh]

theorem readable_read {known : QString} (backed : known = [] ∨ readable known) {file : ChosenFile}
    (decoded : decodeQRFromImage lib file = [] ∨ readable (decodeQRFromImage lib file)) :
    read lib known file = [] ∨ readable (read lib known file) := by
  simp only [read]
  split
  · exact backed
  · exact decoded

theorem backed_step (backed : control.Backed lib clicked readable) (event : InspectorEvent)
    (click : ∀ now, event = .verifyClicked now → clicked now)
    (load : ∀ file, event = .loadPIT file ∨ event = .loadTicket file →
      decodeQRFromImage lib file = [] ∨ readable (decodeQRFromImage lib file)) :
    (control.step lib event).Backed lib clicked readable := by
  cases event with
  | loadPIT file =>
      exact ⟨readable_read backed.pit (load file (Or.inl rfl)), backed.ticket, backed.verdict⟩
  | loadTicket file =>
      exact ⟨backed.pit, readable_read backed.ticket (load file (Or.inr rfl)), backed.verdict⟩
  | clearClicked => exact backed_fresh
  | verifyClicked now =>
      rw [step]
      by_cases missing : control.pit = [] ∨ control.ticket = []
      · rw [if_pos missing]
        exact backed
      · obtain ⟨pitKnown, ticketKnown⟩ := not_or.mp missing
        rw [if_neg missing]
        refine ⟨backed.pit, backed.ticket, fun reference judged => ?_⟩
        exact ⟨now, control.pit, control.ticket, click now rfl, backed.pit.resolve_left pitKnown,
          backed.ticket.resolve_left ticketKnown, judged⟩

theorem backed_run {events : List InspectorEvent} (clicks : ∀ now, .verifyClicked now ∈ events → clicked now)
    (loads : ∀ file, .loadPIT file ∈ events ∨ .loadTicket file ∈ events →
      decodeQRFromImage lib file = [] ∨ readable (decodeQRFromImage lib file)) :
    (run lib fresh events).Backed lib clicked readable := by
  have preserved (control : Control) (event : InspectorEvent) (member : event ∈ events)
      (backed : control.Backed lib clicked readable) : (control.step lib event).Backed lib clicked readable := by
    refine backed_step backed event ?_ ?_
    · rintro now rfl
      exact clicks now member
    · rintro file (rfl | rfl)
      · exact loads file (Or.inl member)
      · exact loads file (Or.inr member)
  exact Runs.run_invariant_of_mem preserved backed_fresh

end Control

theorem Verdict.belongs_of_headline {verdict : Verdict} (valid : verdict.shown.2.1 = TicketInspector.validText) :
    ∃ reference, verdict = .belongs reference := by
  have otherHeadlines : TicketInspector.awaitingText ≠ TicketInspector.validText ∧
      TicketInspector.invalidText ≠ TicketInspector.validText := by decide
  cases verdict with
  | awaiting => exact absurd valid otherHeadlines.1
  | unreadPIT => exact absurd valid otherHeadlines.2
  | unreadTicket => exact absurd valid otherHeadlines.2
  | otherUser => exact absurd valid otherHeadlines.2
  | belongs reference => exact ⟨reference, rfl⟩

variable {images} in
theorem savePicture_disk {code caption defaultFileName success fileName : QString} {dialog : SaveDialog}
    {attempt : Nat} {disk : Disk} {contents : QByteArray}
    (stored : (savePicture images code caption defaultFileName success dialog attempt disk).disk fileName =
      some contents) : disk fileName = some contents ∨ Pictures images contents code := by
  have saves := saves_savePicture images code caption defaultFileName success dialog attempt disk
  by_cases same : fileName = dialog caption defaultFileName imageFilter
  · subst same
    by_cases cancelled : dialog caption defaultFileName imageFilter = []
    · rw [saves.cancelled cancelled] at stored
      exact Or.inl stored
    · rw [saves.stored cancelled, Option.or_eq_some_iff] at stored
      rcases stored with written | ⟨_, before⟩
      · exact Or.inr ⟨attempt, _, written⟩
      · exact Or.inl before
  · rw [saves.others fileName same] at stored
    exact Or.inl stored

namespace Application

theorem step_disk {application : Application ρ} {disk : Disk} {event : ProcessEvent} {fileName : QString}
    {contents : QByteArray}
    (stored : (application.step rnp lib images disk event).2 fileName = some contents) :
    disk fileName = some contents ∨ ∃ session code, application.user? = some session ∧
      (session.window.identificationToken.qrImage = some code ∨
        session.window.bookingReference.qrImage = some code) ∧ Pictures images contents code := by
  cases event with
  | downloadPIT timestamp dialog attempt =>
      simp only [step, downloadPIT] at stored
      cases window : application.user? with
      | none =>
          simp only [window] at stored
          exact Or.inl stored
      | some session =>
          simp only [window] at stored
          split_ifs at stored with shown
          · simp only [IdentificationToken.downloadPIT] at stored
            cases displayed : session.window.identificationToken.qrImage with
            | none =>
                simp only [displayed] at stored
                exact Or.inl stored
            | some code =>
                simp only [displayed] at stored
                rcases savePicture_disk stored with before | pictured
                · exact Or.inl before
                · exact Or.inr ⟨session, code, rfl, Or.inl displayed, pictured⟩
          · exact Or.inl stored
  | downloadTicket timestamp dialog attempt =>
      simp only [step, downloadTicket] at stored
      cases window : application.user? with
      | none =>
          simp only [window] at stored
          exact Or.inl stored
      | some session =>
          simp only [window] at stored
          split_ifs at stored with shown
          · simp only [BookingReference.saveCurrentQRCode] at stored
            cases displayed : session.window.bookingReference.qrImage with
            | none =>
                simp only [BookingReference.downloadCurrentQRCode, displayed, Option.isNone_none,
                  ↓reduceIte] at stored
                exact Or.inl stored
            | some code =>
                split at stored
                · exact Or.inl stored
                · rw [displayed, Option.getD_some] at stored
                  rcases savePicture_disk stored with before | pictured
                  · exact Or.inl before
                  · exact Or.inr ⟨session, code, rfl, Or.inr displayed, pictured⟩
          · exact Or.inl stored
  | user event => exact Or.inl stored
  | loadPIT fileName inTime => exact Or.inl stored
  | loadTicket fileName inTime => exact Or.inl stored
  | verifyClicked now => exact Or.inl stored
  | clearClicked => exact Or.inl stored

end Application

namespace System

def Issued (system : System ι ρ) (code : QString) : Prop :=
  ∃ who session, (system.process who).user? = some session ∧ session.Shown code

/-- Another program made the file: it was there before, or was put there during the run. -/
def Foreign (disk : Disk) (events : List (SystemEvent ι)) (contents : QByteArray) : Prop :=
  (∃ fileName, disk fileName = some contents) ∨ ∃ fileName, .foreign fileName (some contents) ∈ events

/-- Every file is a picture of a code that was issued, or another program's. -/
structure Traced (foreignFile : QByteArray → Prop) (system : System ι ρ) : Prop where
  users : ∀ who session, (system.process who).user? = some session → session.Phased lib
  files : ∀ fileName contents, system.disk fileName = some contents →
    foreignFile contents ∨ ∃ code, system.Issued code ∧ CodeText code ∧ Pictures images contents code

variable {rnp lib images} {system : System ι ρ} {foreignFile : QByteArray → Prop}

theorem traced_start (launches : ι → Launch ρ) (disk : Disk) (events : List (SystemEvent ι)) :
    (start rnp lib launches disk).Traced lib images (Foreign disk events) where
  users := by
    intro who session window
    exact Or.inl ⟨_, Application.launched_user rnp lib window⟩
  files := fun fileName contents stored => Or.inl (Or.inl ⟨fileName, stored⟩)

def Read (lib : QtLibrary) (images : ImageLibrary) (foreignFile : QByteArray → Prop) (system : System ι ρ)
    (data : QString) : Prop :=
  (∃ contents, foreignFile contents ∧ trimmed (lib.fromUtf8 (images.zbarimg contents).2) = data) ∨
    system.Issued data

theorem Traced.read_chosen (traced : system.Traced lib images foreignFile) (scans : Scans images lib)
    (fileName : QString) (inTime : Bool) :
    let data := decodeQRFromImage lib (system.disk.chosen images fileName inTime)
    data = [] ∨ system.Read lib images foreignFile data := by
  intro data
  cases stored : system.disk fileName with
  | none =>
      left
      simp [data, decodeQRFromImage, Disk.chosen, stored]
  | some contents =>
      rcases traced.files fileName contents stored with strange | ⟨code, issued, plain, pictured⟩
      · simp only [data, decodeQRFromImage, Disk.chosen, stored]
        cases inTime with
        | false => exact Or.inl rfl
        | true =>
            by_cases failed : (images.zbarimg contents).1 ≠ 0
            · left
              simp [failed]
            · right
              simp only [Bool.not_true, Bool.false_eq_true, ↓reduceIte, if_neg failed]
              exact Or.inl ⟨contents, strange, rfl⟩
      · have decoded := scans.decode_chosen plain pictured stored inTime
        simp only [data, decoded]
        split
        · exact Or.inr (Or.inr issued)
        · exact Or.inl rfl

/-- A fresh token and a ticket for the reference, both shown by user windows of the machine, for
accounts with one key hash. -/
def Entitles (lib : QtLibrary) (system : System ι ρ) (now : Int64) (pitQRData ticketQRData reference : QString) :
    Prop :=
  ∃ holder holderSession owner ownerSession,
    (system.process holder).user? = some holderSession ∧ (system.process owner).user? = some ownerSession ∧
    ∃ token ∈ holderSession.tokens, ∃ ticket ∈ ownerSession.tickets,
      token.qrData = pitQRData ∧ TicketOwnership.Fresh now token.clock ∧
      ticket.qrData = ticketQRData ∧ ticket.ticket.bookingReference = reference ∧
      lib.toLower (keyHash lib holderSession.window.accountInfo.publicKey) =
        lib.toLower (keyHash lib ownerSession.window.accountInfo.publicKey)

theorem entitles_of_judge
    (users : ∀ who session, (system.process who).user? = some session → session.Phased lib)
    {now : Int64} {pitQRData ticketQRData reference : QString} (pitIssued : system.Issued pitQRData)
    (ticketIssued : system.Issued ticketQRData)
    (judged : judge lib now pitQRData ticketQRData = .belongs reference) :
    system.Entitles lib now pitQRData ticketQRData reference := by
  obtain ⟨holderHash, ownerHash, held, named, same⟩ := (judge_eq_belongs_iff lib).mp judged
  obtain ⟨timestamp, signature, reads, fresh⟩ := holderHash_eq_some_iff.mp held
  obtain ⟨ticketTimestamp, ticketSignature, ticketReads⟩ := ticketNames_eq_some_iff.mp named
  obtain ⟨holder, holderSession, holderWindow, pitShown⟩ := pitIssued
  obtain ⟨owner, ownerSession, ownerWindow, ticketShown⟩ := ticketIssued
  obtain ⟨_, holderInside⟩ := Session.loggedIn_of_shown (users holder holderSession holderWindow) pitShown
  obtain ⟨_, ownerInside⟩ := Session.loggedIn_of_shown (users owner ownerSession ownerWindow) ticketShown
  obtain ⟨token, tokenMember, pit, clock, rfl⟩ := Session.token_of_reads holderInside pitShown reads
  obtain ⟨ticket, ticketMember, code, ref, rfl⟩ := Session.ticket_of_reads ownerInside ticketShown ticketReads
  exact ⟨holder, holderSession, owner, ownerSession, holderWindow, ownerWindow, token, tokenMember, ticket,
    ticketMember, pit, clock ▸ fresh, code, ref, same⟩

theorem Read.issued {data : QString} (read : system.Read lib images foreignFile data)
    (own : ∀ contents, foreignFile contents → trimmed (lib.fromUtf8 (images.zbarimg contents).2) ≠ data) :
    system.Issued data := by
  rcases read with ⟨contents, strange, decoded⟩ | issued
  · exact absurd decoded (own contents strange)
  · exact issued

variable [DecidableEq ι]

theorem users_run (users : ∀ who session, (system.process who).user? = some session → session.Phased lib)
    (events : List (SystemEvent ι)) (who : ι) (session : Session ρ)
    (window : ((run rnp lib images system events).process who).user? = some session) :
    session.Phased lib := by
  rw [user?_run, Option.map_eq_some_iff] at window
  obtain ⟨earlier, before, rfl⟩ := window
  exact Session.phased_run rnp (users who earlier before) _

theorem issued_run (users : ∀ who session, (system.process who).user? = some session → session.Phased lib)
    {code : QString} (issued : system.Issued code) (events : List (SystemEvent ι)) :
    (run rnp lib images system events).Issued code := by
  obtain ⟨who, session, window, shown⟩ := issued
  refine ⟨who, Session.run rnp lib session (events.flatMap (toUser who)), ?_, ?_⟩
  · rw [user?_run, window]
    rfl
  · exact Session.shown_run (users who session window) shown _

theorem traced_step (traced : system.Traced lib images foreignFile) (event : SystemEvent ι)
    (foreigners : ∀ fileName contents, event = .foreign fileName (some contents) → foreignFile contents) :
    (system.step rnp lib images event).Traced lib images foreignFile := by
  have issued {code : QString} (before : system.Issued code) : (system.step rnp lib images event).Issued code :=
    issued_run traced.users before [event]
  refine ⟨users_run traced.users [event], ?_⟩
  intro fileName contents stored
  have kept (before : system.disk fileName = some contents) : foreignFile contents ∨
      ∃ code, (system.step rnp lib images event).Issued code ∧ CodeText code ∧ Pictures images contents code := by
    rcases traced.files fileName contents before with strange | ⟨code, made, plain, pictured⟩
    · exact Or.inl strange
    · exact Or.inr ⟨code, issued made, plain, pictured⟩
  cases event with
  | foreign other data =>
      by_cases same : fileName = other
      · subst same
        simp only [step, Function.update_self] at stored
        exact Or.inl (foreigners fileName contents (by rw [stored]))
      · simp only [step, Function.update_of_ne same] at stored
        exact kept stored
  | process who event =>
      rcases Application.step_disk rnp lib images stored with before | ⟨session, code, window, displayed, pictured⟩
      · exact kept before
      · have phased := traced.users who session window
        have shown : session.Shown code := by
          rcases displayed with onToken | onTicket
          · exact Session.shown_of_token phased onToken
          · exact Session.shown_of_ticket phased onTicket
        exact Or.inr ⟨code, issued ⟨who, session, window, shown⟩, Session.codeText_of_shown phased shown,
          pictured⟩

theorem traced_run (launches : ι → Launch ρ) (disk : Disk) {events : List (SystemEvent ι)}
    {before : List (SystemEvent ι)} (earlier : before ⊆ events) :
    (run rnp lib images (start rnp lib launches disk) before).Traced lib images (Foreign disk events) := by
  refine Runs.run_invariant_of_mem ?_ (traced_start launches disk events)
  intro system event member traced
  refine traced_step traced event ?_
  rintro fileName contents rfl
  exact Or.inr ⟨fileName, earlier member⟩

theorem read_of_earlier {earlier later : List (SystemEvent ι)}
    (traced : (run rnp lib images system earlier).Traced lib images foreignFile) {data : QString}
    (read : (run rnp lib images system earlier).Read lib images foreignFile data) :
    (run rnp lib images system (earlier ++ later)).Read lib images foreignFile data := by
  rcases read with strange | issued
  · exact Or.inl strange
  · right
    have persists : (run rnp lib images (run rnp lib images system earlier) later).Issued data :=
      issued_run traced.users issued later
    rw [run, ← Runs.run_append] at persists
    exact persists

theorem chosen_of_received {who : ι} {events : List (SystemEvent ι)} {file : ChosenFile}
    (member : .loadPIT file ∈ received rnp lib images who system events ∨
      .loadTicket file ∈ received rnp lib images who system events) :
    ∃ earlier later fileName inTime, events = earlier ++ later ∧
      file = (run rnp lib images system earlier).disk.chosen images fileName inTime := by
  rcases member with pit | ticket
  · obtain ⟨earlier, event, later, whole, found⟩ := mem_received rnp lib images pit
    cases event <;> simp [ProcessEvent.toInspector] at found
    exact ⟨earlier, _, _, _, whole, found⟩
  · obtain ⟨earlier, event, later, whole, found⟩ := mem_received rnp lib images ticket
    cases event <;> simp [ProcessEvent.toInspector] at found
    exact ⟨earlier, _, _, _, whole, found⟩

theorem click_of_received {who : ι} {events : List (SystemEvent ι)} {now : Int64}
    (member : .verifyClicked now ∈ received rnp lib images who system events) :
    .process who (.verifyClicked now) ∈ events := by
  obtain ⟨earlier, event, later, rfl, found⟩ := mem_received rnp lib images member
  cases event <;> simp [ProcessEvent.toInspector] at found
  simp [found]

theorem backed_inspector (scans : Scans images lib) (launches : ι → Launch ρ) (disk : Disk)
    (events : List (SystemEvent ι)) {who : ι} {inspection : Inspection ρ}
    (window : ((run rnp lib images (start rnp lib launches disk) events).process who).inspectorWindow =
      some inspection) :
    ∃ control, inspection.Carries control ∧
      control.Backed lib (fun now => .process who (.verifyClicked now) ∈ events)
        ((run rnp lib images (start rnp lib launches disk) events).Read lib images (Foreign disk events)) := by
  have alone : ((run rnp lib images (start rnp lib launches disk) events).process who).inspectorWindow.map
      Inspection.onScreen = _ := onScreen_run rnp lib images (start rnp lib launches disk) events
  rw [window, Option.map_some, eq_comm, Option.map_eq_some_iff] at alone
  obtain ⟨opened, launched, shown⟩ := alone
  obtain ⟨before, rfl⟩ := Application.launched_inspector rnp lib launched
  have carries := Inspection.carries_run rnp lib before
    (received rnp lib images who (start rnp lib launches disk) events)
  have same : _ = inspection.inspector := congrArg Prod.fst shown
  refine ⟨Control.run lib Control.fresh (received rnp lib images who (start rnp lib launches disk) events),
    ⟨same ▸ carries.pit, same ▸ carries.ticket, same ▸ carries.button, same ▸ carries.panel⟩,
    Control.backed_run (fun now => click_of_received) ?_⟩
  intro file member
  obtain ⟨earlier, later, fileName, inTime, rfl, rfl⟩ := chosen_of_received member
  have traced : (run rnp lib images (start rnp lib launches disk) earlier).Traced lib images
      (Foreign disk (earlier ++ later)) := traced_run launches disk (List.subset_append_left _ _)
  rcases traced.read_chosen scans fileName inTime with nothing | read
  · exact Or.inl nothing
  · exact Or.inr (read_of_earlier traced read)

end System

/-- Whatever is on the disk after a run was there before or is another program's, or it is a picture
of a code, plain enough to be scanned back, that a user window has shown. -/
theorem files_traced [DecidableEq ι] (launches : ι → Launch ρ) (disk : Disk) (events : List (SystemEvent ι))
    (fileName : QString) :
    let last := System.run rnp lib images (System.start rnp lib launches disk) events
    ∀ contents, last.disk fileName = some contents → System.Foreign disk events contents ∨
      ∃ code, last.Issued code ∧ CodeText code ∧ Pictures images contents code := by
  intro last
  have traced : last.Traced lib images (System.Foreign disk events) :=
    System.traced_run launches disk (List.Subset.refl events)
  exact traced.files fileName

/-- A valid verdict was reached by a click about two strings; one of them was in a file of another
program, or user windows of the machine have shown both: a token that was fresh at the click, and
the ticket named in the details, for accounts with one key hash. -/
theorem control_sound [DecidableEq ι] (scans : Scans images lib) (launches : ι → Launch ρ) (disk : Disk)
    (events : List (SystemEvent ι)) (who : ι) (inspection : Inspection ρ)
    (window : ((System.run rnp lib images (System.start rnp lib launches disk) events).process
      who).inspectorWindow = some inspection)
    (valid : inspection.inspector.showsValid) :
    ∃ now pitQRData ticketQRData reference,
      .process who (.verifyClicked now) ∈ events ∧
      inspection.inspector.panel = (Verdict.belongs reference).shown ∧
      judge lib now pitQRData ticketQRData = .belongs reference ∧
      ((∃ contents, System.Foreign disk events contents ∧
          (trimmed (lib.fromUtf8 (images.zbarimg contents).2) = pitQRData ∨
            trimmed (lib.fromUtf8 (images.zbarimg contents).2) = ticketQRData)) ∨
        (System.run rnp lib images (System.start rnp lib launches disk) events).Entitles lib now pitQRData
          ticketQRData reference) := by
  obtain ⟨control, carries, backed⟩ := System.backed_inspector scans launches disk events window
  have headline : control.verdict.shown.2.1 = TicketInspector.validText := by
    rw [← carries.panel]
    exact valid
  obtain ⟨reference, verdict⟩ := Verdict.belongs_of_headline headline
  obtain ⟨now, pitQRData, ticketQRData, clicked, pitRead, ticketRead, judged⟩ := backed.verdict reference verdict
  refine ⟨now, pitQRData, ticketQRData, reference, clicked, verdict ▸ carries.panel, judged, ?_⟩
  rcases pitRead with ⟨contents, strange, decoded⟩ | pitIssued
  · exact Or.inl ⟨contents, strange, Or.inl decoded⟩
  · rcases ticketRead with ⟨contents, strange, decoded⟩ | ticketIssued
    · exact Or.inl ⟨contents, strange, Or.inr decoded⟩
    · right
      have traced : (System.run rnp lib images (System.start rnp lib launches disk) events).Traced lib images
          (System.Foreign disk events) := System.traced_run launches disk (List.Subset.refl events)
      exact System.entitles_of_judge traced.users pitIssued ticketIssued judged

namespace System

/-- What a passenger does to present a ticket that is on screen: both codes are downloaded. -/
def presenting (who : ι) (ticketFile pitFile timestamp : QString) (attempt attempt' : Nat) :
    List (SystemEvent ι) :=
  [.process who (.downloadTicket timestamp (fun _ _ _ => ticketFile) attempt),
    .process who (.user (.navigate .id)),
    .process who (.downloadPIT timestamp (fun _ _ _ => pitFile) attempt')]

def checking (who : ι) (pitFile ticketFile : QString) (now : Int64) : List (SystemEvent ι) :=
  [.process who (.loadPIT pitFile true), .process who (.loadTicket ticketFile true),
    .process who (.verifyClicked now)]

def sampleStart : System Bool Nat :=
  start PlainRnp.rnp PlainRnp.library (fun passenger => {
    arguments := [if passenger then text "--user" else text "--inspector"]
    random := Session.sampleRandom
    state := PlainRnp.initialState 0 }) fun _ => none

def sampleImages : ImageLibrary :=
  PlainImages.images (Session.sample.tokens.map (·.qrData) ++ Session.sample.tickets.map (·.qrData))

def sampleEarlier : List (SystemEvent Bool) := Session.sampleEvents.map fun event => .process true (.user event)

def sampleEvents : List (SystemEvent Bool) := sampleEarlier ++
  (presenting true (text "ticket.png") (text "pit.png") (text "1") 0 0 ++
    ([.process true .clearClicked] ++ checking false (text "pit.png") (text "ticket.png") 130))

end System

theorem control_sound_sample : ∃ now pitQRData ticketQRData reference,
    System.Entitles PlainRnp.library
      (System.run PlainRnp.rnp PlainRnp.library System.sampleImages System.sampleStart System.sampleEvents)
      now pitQRData ticketQRData reference := by
  let last := System.run PlainRnp.rnp PlainRnp.library System.sampleImages System.sampleStart
    System.sampleEvents
  have shown : (last.process false).inspectorWindow.map (·.inspector.resultText) =
      some TicketInspector.validText := by decide +kernel
  obtain ⟨inspection, window, valid⟩ := Option.map_eq_some_iff.mp shown
  obtain ⟨now, pitQRData, ticketQRData, reference, _, _, _, ⟨contents, strange, _⟩ | entitled⟩ :=
    control_sound PlainRnp.rnp PlainRnp.library System.sampleImages (PlainImages.scans (by decide +kernel)) _ _
      System.sampleEvents false inspection window valid
  · have own : ¬System.Foreign (fun _ => none) System.sampleEvents contents := by
      simp [System.Foreign, System.sampleEvents, System.sampleEarlier, Session.sampleEvents,
        System.presenting, System.checking]
    exact absurd strange own
  · exact ⟨now, pitQRData, ticketQRData, reference, entitled⟩

end SbbTicketing
