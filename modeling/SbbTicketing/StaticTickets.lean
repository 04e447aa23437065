import SbbTicketing.HonestTokens

/-! The ticket page on its own, over any run of bookings and views: what every view of a
ticket shows, and when two views of one ticket show the same. -/

namespace SbbTicketing

open Qt

variable {ρ : Type} (rnp : Rnp ρ) (lib : QtLibrary)

def SignsDeterministically : Prop :=
  ∀ {draws draws' : Nat → ρ} {call call' : Nat} {key data signature signature' : QByteArray},
    rnp.signature draws call key data = some signature →
    rnp.signature draws' call' key data = some signature' → signature = signature'

/-- Two ticket codes with the same tag, reference, timestamp and key hash and, where signing
is deterministic, with the same signature. -/
def SameCode (first second : QString) : Prop :=
  (split first ':').take 4 = (split second ':').take 4 ∧ (SignsDeterministically rnp → first = second)

inductive PageEvent
  | addTicket (ticket : TicketInfo)
  | clearTickets
  | openCard (position : Nat) (now : Int64)
  | close

structure PageRun (ρ : Type) where
  page : BookingReference
  rnpState : RnpState ρ
  views : List IssuedTicket

def ShowsTicket (companyInfo : CompanyInfo) (view : IssuedTicket) : Prop :=
  let timestamp := BookingReference.signingTime view.ticket view.now
  ∃ signature,
    view.qrData = ticketCode view.ticket.bookingReference timestamp
      (keyHash lib view.ticket.userPublicKey) signature ∧
    (view.ticket.signedData ≠ [] → signature = view.ticket.signedData) ∧
    (view.ticket.signedData = [] → ∃ draws call bytes,
      rnp.signature draws call (toUtf8 companyInfo.privateKey)
        (toUtf8 (BookingReference.dataToSign view.ticket timestamp)) = some bytes ∧
      signature = toHex bytes)

namespace BookingReference

theorem signingTime_eq_iff (ticket : TicketInfo) (now now' : Int64) :
    signingTime ticket now = signingTime ticket now' ↔ ticket.timestamp ≠ 0 ∨ now = now' := by
  by_cases timeless : ticket.timestamp = 0
  · simp [signingTime, timeless]
  · simp [signingTime, timeless]

theorem showQRCode_unfailed {page : BookingReference} {companyInfo : CompanyInfo}
    (company : page.companyInfo = some companyInfo) (valid : companyInfo.isValid = true)
    (ticket : TicketInfo) (now : Int64) (state : RnpState ρ) :
    let shown := (page.showQRCode rnp lib ticket now).run state
    shown.1.companyInfo = some companyInfo ∧
      (shown.2.failed = false → state.failed = false ∧
        ShowsTicket rnp lib companyInfo ⟨ticket, now, shown.1.qrImage.getD []⟩) := by
  rw [showQRCode_run]
  refine ⟨company, ?_⟩
  intro unfailed
  refine ⟨ticketData_unfailed rnp lib unfailed, ?_⟩
  by_cases unsigned : ticket.signedData = []
  · obtain ⟨data, _, failed⟩ := ticketData_unsigned rnp lib company valid unsigned now state
    simp only [failed, Bool.or_eq_false_iff, Option.isNone_eq_false_iff] at unfailed
    obtain ⟨bytes, made⟩ := Option.isSome_iff_exists.mp unfailed.2
    refine ⟨toHex bytes, ?_, ?_, ?_⟩
    · simp only [data, made]
      rfl
    · intro signed
      exact absurd unsigned signed
    · intro _
      exact ⟨state.draws, state.calls, bytes, made, rfl⟩
  · have data := ticketData_signed rnp lib company valid unsigned now state
    refine ⟨ticket.signedData, ?_, ?_, ?_⟩
    · simp only [data]
      rfl
    · intro _
      rfl
    · intro empty
      exact absurd empty unsigned

end BookingReference

theorem sameCode_iff {companyInfo : CompanyInfo} {first second : IssuedTicket}
    (firstShows : ShowsTicket rnp lib companyInfo first)
    (secondShows : ShowsTicket rnp lib companyInfo second) (same : first.ticket = second.ticket) :
    SameCode rnp first.qrData second.qrData ↔
      first.ticket.timestamp ≠ 0 ∨ first.now = second.now := by
  obtain ⟨signature, code, own, new⟩ := firstShows
  obtain ⟨signature', code', own', new'⟩ := secondShows
  rw [← same] at code' own' new'
  rw [← BookingReference.signingTime_eq_iff]
  have fields (timestamp : Int64) (signature : QString) :=
    split_ticketCode (IsMark.colon.not_mem_reference first.ticket)
      (IsMark.colon.not_mem_keyHash lib first.ticket.userPublicKey) timestamp signature
  constructor
  · rintro ⟨sameFields, _⟩
    rw [code, code', fields, fields] at sameFields
    simp only [List.take_succ_cons, List.cons.injEq, true_and] at sameFields
    exact number_injective sameFields.1
  · intro sameTime
    rw [← sameTime] at code' new'
    refine ⟨?_, ?_⟩
    · rw [code, code', fields, fields]
      rfl
    · intro deterministic
      have sameSignature : signature = signature' := by
        by_cases unsigned : first.ticket.signedData = []
        · obtain ⟨_, _, bytes, made, rfl⟩ := new unsigned
          obtain ⟨_, _, bytes', made', rfl⟩ := new' unsigned
          rw [deterministic made made']
        · rw [own unsigned, own' unsigned]
      rw [code, code', sameSignature]

namespace PageRun

def start (companyInfo : CompanyInfo) (state : RnpState ρ) : PageRun ρ where
  page := BookingReference.new.setCompanyInfo companyInfo
  rnpState := state
  views := []

def step (run : PageRun ρ) : PageEvent → PageRun ρ
  | .addTicket ticket => { run with page := run.page.addTicket ticket }
  | .clearTickets => { run with page := run.page.clearTickets }
  | .openCard position now =>
      match run.page.ticketLayout[position]? with
      | some (.card ticket) =>
          let shown := (run.page.showQRCode rnp lib ticket now).run run.rnpState
          { page := shown.1
            rnpState := shown.2
            views := ⟨ticket, now, shown.1.qrImage.getD []⟩ :: run.views }
      | _ => run
  | .close => { run with page := run.page.hideQRCode }

def run : PageRun ρ → List PageEvent → PageRun ρ := Runs.run (step rnp lib)

structure Faithful (companyInfo : CompanyInfo) (run : PageRun ρ) : Prop where
  company : run.page.companyInfo = some companyInfo
  shown : run.rnpState.failed = false → ∀ view ∈ run.views, ShowsTicket rnp lib companyInfo view

theorem faithful_step {companyInfo : CompanyInfo} (valid : companyInfo.isValid = true)
    (run : PageRun ρ) (event : PageEvent) (faithful : Faithful rnp lib companyInfo run) :
    Faithful rnp lib companyInfo (run.step rnp lib event) := by
  cases event with
  | addTicket ticket =>
      refine ⟨?_, faithful.shown⟩
      rw [← faithful.company]
      exact BookingReference.addTicket_companyInfo run.page ticket
  | clearTickets => exact ⟨faithful.company, faithful.shown⟩
  | openCard position now =>
      simp only [step]
      split
      · rename_i ticket found
        have view := BookingReference.showQRCode_unfailed rnp lib faithful.company valid ticket now
          run.rnpState
        refine ⟨view.1, ?_⟩
        intro unfailed other member
        obtain ⟨before, shows⟩ := view.2 unfailed
        rcases List.mem_cons.mp member with rfl | earlier
        · exact shows
        · exact faithful.shown before other earlier
      · exact faithful
  | close => exact ⟨faithful.company, faithful.shown⟩

theorem faithful_run {companyInfo : CompanyInfo} (valid : companyInfo.isValid = true)
    (state : RnpState ρ) (events : List PageEvent) :
    Faithful rnp lib companyInfo (run rnp lib (start companyInfo state) events) := by
  apply Runs.run_invariant (faithful_step rnp lib valid)
  exact ⟨rfl, by simp [start]⟩

end PageRun

theorem static_code_iff (companyInfo : CompanyInfo) (state : RnpState ρ) (events : List PageEvent)
    (first second : IssuedTicket) (valid : companyInfo.isValid = true)
    (unfailed : (PageRun.run rnp lib (PageRun.start companyInfo state) events).rnpState.failed = false)
    (firstShown : first ∈ (PageRun.run rnp lib (PageRun.start companyInfo state) events).views)
    (secondShown : second ∈ (PageRun.run rnp lib (PageRun.start companyInfo state) events).views)
    (same : first.ticket = second.ticket) :
    SameCode rnp first.qrData second.qrData ↔
      first.ticket.timestamp ≠ 0 ∨ first.now = second.now := by
  have shown := (PageRun.faithful_run rnp lib valid state events).shown unfailed
  exact sameCode_iff rnp lib (shown first firstShown) (shown second secondShown) same

namespace PageRun

def sampleTicket : TicketInfo :=
  (TicketInfo.new (text "Bern") (text "Basel") 0 0 Session.sampleRandom).1.setUserPublicKey (text "PAA")

def sampleCompany : CompanyInfo :=
  ((CompanyInfo.generateKeys PlainRnp.rnp PlainRnp.library).run (PlainRnp.initialState 0)).1

def sampleEvents : List PageEvent := [
  .addTicket sampleTicket, .openCard 0 107, .close, .openCard 0 107, .close,
  .addTicket (TicketInfo.new (text "Bern") (text "Chur") 0 0 { Session.sampleRandom with drawn := 6 }).1,
  .openCard 1 207]

def sample : PageRun Nat :=
  run PlainRnp.rnp PlainRnp.library (start sampleCompany (PlainRnp.initialState 5)) sampleEvents

def sampleView (now : Int64) (qrData : String) : IssuedTicket where
  ticket := sampleTicket
  now
  qrData := text qrData

end PageRun

theorem static_code_iff_sample :
    ¬SameCode PlainRnp.rnp (text "TICKET:ABCDEF:107:3e8fed5232328f57:4141504141414243444546313037")
      (text "TICKET:ABCDEF:207:3e8fed5232328f57:4141504141414243444546323037") := by
  have exact := static_code_iff PlainRnp.rnp PlainRnp.library PageRun.sampleCompany
    (PlainRnp.initialState 5) PageRun.sampleEvents
    (PageRun.sampleView 107 "TICKET:ABCDEF:107:3e8fed5232328f57:4141504141414243444546313037")
    (PageRun.sampleView 207 "TICKET:ABCDEF:207:3e8fed5232328f57:4141504141414243444546323037")
    (by decide +kernel) (by decide +kernel) (by decide +kernel) (by decide +kernel) rfl
  intro same
  rcases exact.mp same with ownTime | sameClock
  · exact ownTime rfl
  · exact absurd sameClock (by decide)

theorem card_shows_two_codes :
    PageRun.sampleCompany.isValid = true ∧ PageRun.sample.rnpState.failed = false ∧
      PageRun.sample.views.map (fun view => (view.ticket, (split view.qrData ':').take 4)) = [
        (PageRun.sampleTicket, [text "TICKET", text "ABCDEF", text "207", text "3e8fed5232328f57"]),
        (PageRun.sampleTicket, [text "TICKET", text "ABCDEF", text "107", text "3e8fed5232328f57"]),
        (PageRun.sampleTicket, [text "TICKET", text "ABCDEF", text "107", text "3e8fed5232328f57"])] := by
  decide +kernel

end SbbTicketing
