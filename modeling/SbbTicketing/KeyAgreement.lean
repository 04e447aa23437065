import SbbTicketing.HonestTokens
import SbbTicketing.TicketInspectorCore

/-! Keys that were meant to be the same in two places: a passenger's in two logins, the
company's in the window and in the inspector. They are, exactly when RNP drew the same
randomness for both. -/

namespace SbbTicketing

open Qt

variable {ρ κ : Type} (rnp : Rnp ρ) (lib : QtLibrary)

theorem keysMatch_of_same_key {account other : AccountInfo} {companyInfo : CompanyInfo}
    {ticket : IssuedTicket} {token : IssuedToken}
    (ticketSigned : TicketSigned rnp lib companyInfo account ticket)
    (tokenSigned : TokenSigned rnp lib other token) (same : account.publicKey = other.publicKey)
    {now : Int64} (fresh : TicketOwnership.Fresh now token.clock)
    (userPublicKey companyPublicKey : QString) (state : RnpState ρ) :
    ((TicketOwnership.verifyOwnership rnp lib now token.qrData ticket.qrData userPublicKey
      companyPublicKey).run state).1.keysMatch = true := by
  obtain ⟨_, _, ticketSignature, _, ticketReads⟩ := ticketSigned.reads
  obtain ⟨_, _, pitSignature, _, pitReads⟩ := tokenSigned.reads
  rw [same] at ticketReads
  exact (TicketOwnership.verifyOwnership_exit rnp lib
    (TicketOwnership.compareCodes_of_match lib pitReads fresh ticketReads rfl)
    userPublicKey companyPublicKey state).parsedPart.keysMatch

/-- The two sessions agree: one key, and every ticket of the first matches every fresh token of
the second. -/
def TicketsSurvive (first second : Session ρ) : Prop :=
  first.window.accountInfo.publicKey = second.window.accountInfo.publicKey ∧
    ∀ ticket ∈ first.tickets, ∀ token ∈ second.tokens, ∀ now,
      TicketOwnership.Fresh now token.clock → ∀ userPublicKey companyPublicKey state,
        ((TicketOwnership.verifyOwnership rnp lib now token.qrData ticket.qrData userPublicKey
          companyPublicKey).run state).1.keysMatch = true

theorem tickets_survive_iff {randomness : ρ → κ} (random random' : RandomGenerator)
    (initial initial' : RnpState ρ) (events events' : List WindowEvent) (record record' : LoginRecord ρ)
    (documented : GeneratesFrom rnp lib
      (toUtf8 (deterministicId lib (trimmed record.email) record.password)) randomness)
    (unfailed : (Session.run rnp lib (Session.start rnp lib random initial) events).rnpState.failed =
      false)
    (unfailed' : (Session.run rnp lib (Session.start rnp lib random' initial')
      events').rnpState.failed = false)
    (company : (Session.run rnp lib (Session.start rnp lib random initial)
      events).window.companyInfo.isValid = true)
    (login : (Session.run rnp lib (Session.start rnp lib random initial) events).login = some record)
    (login' : (Session.run rnp lib (Session.start rnp lib random' initial') events').login =
      some record')
    (sameEmail : trimmed record.email = trimmed record'.email)
    (samePassword : record.password = record'.password) :
    TicketsSurvive rnp lib (Session.run rnp lib (Session.start rnp lib random initial) events)
        (Session.run rnp lib (Session.start rnp lib random' initial') events') ↔
      randomness record.drawn = randomness record'.drawn := by
  have sound := Session.sound_run rnp lib random initial events unfailed
  have sound' := Session.sound_run rnp lib random' initial' events' unfailed'
  generalize Session.run rnp lib (Session.start rnp lib random initial) events = first at *
  generalize Session.run rnp lib (Session.start rnp lib random' initial') events' = second at *
  obtain ⟨draws, call, drawn, made⟩ := Session.loggedIn_of_login rnp lib sound login
  obtain ⟨draws', call', drawn', made'⟩ := Session.loggedIn_of_login rnp lib sound' login'
  have keys := publicKey_eq_iff documented made (by rw [sameEmail, samePassword]; exact made')
  rw [drawn, drawn'] at keys
  constructor
  · intro survive
    exact keys.mp survive.1
  · intro same
    refine ⟨keys.mpr same, ?_⟩
    intro ticket ticketShown token tokenShown now fresh userPublicKey companyPublicKey state
    exact keysMatch_of_same_key rnp lib (sound.tickets company ticket ticketShown)
      (sound'.tokens token tokenShown) (keys.mpr same) fresh userPublicKey companyPublicKey state

namespace Session

def sampleAgain : Session Nat :=
  run PlainRnp.rnp PlainRnp.library
    (start PlainRnp.rnp PlainRnp.library sampleRandom (PlainRnp.initialState 1)) sampleEvents

end Session

theorem tickets_survive_iff_sample :
    ¬TicketsSurvive PlainRnp.rnp PlainRnp.library Session.sample Session.sampleAgain := by
  have drawn : TicketsSurvive PlainRnp.rnp PlainRnp.library Session.sample Session.sampleAgain ↔
      11 = 12 := by
    refine tickets_survive_iff PlainRnp.rnp PlainRnp.library
      Session.sampleRandom Session.sampleRandom (PlainRnp.initialState 0) (PlainRnp.initialState 1)
      Session.sampleEvents Session.sampleEvents ⟨text "a@b.ch", text "pw", 11⟩
      ⟨text "a@b.ch", text "pw", 12⟩ (PlainRnp.generatesFrom _) ?_ ?_ ?_ ?_ ?_ rfl rfl
    all_goals decide +kernel
  rw [drawn]
  decide

theorem second_login_other_keys :
    Session.sample.login.map (fun record => (record.email, record.password)) =
        Session.sampleAgain.login.map (fun record => (record.email, record.password)) ∧
      Session.sample.window.accountInfo.publicKey ≠ Session.sampleAgain.window.accountInfo.publicKey ∧
      (Session.sample.tickets.map fun ticket => Session.sampleAgain.tokens.map fun token =>
        ((TicketOwnership.verifyOwnership PlainRnp.rnp PlainRnp.library token.clock token.qrData
          ticket.qrData [] []).run (PlainRnp.initialState 0)).1.keysMatch) = [[false, false]] := by
  decide +kernel

theorem issued_accepted_iff {companyInfo : CompanyInfo} {others : QString × QString}
    {made made' : Nat → ρ} {call call' : Nat} {userId : QByteArray}
    {page : BookingReference} {ticket : TicketInfo} {now timestamp : Int64}
    {qrData bookingRef publicKeyHash signature : QString} {issuing verifying : RnpState ρ}
    (pair : rnp.keyPair lib made call userId = some (companyInfo.publicKey, companyInfo.privateKey))
    (other : rnp.keyPair lib made' call' userId = some others) (given : others.1 ≠ [])
    (issuer : page.companyInfo = some companyInfo) (valid : companyInfo.isValid = true)
    (unsigned : ticket.signedData = [])
    (issued : ((page.showQRCode rnp lib ticket now).run issuing).2.failed = false)
    (shown : ((page.showQRCode rnp lib ticket now).run issuing).1.qrImage = some qrData)
    (reads : TicketOwnership.ReadsTicket qrData bookingRef timestamp publicKeyHash signature)
    (honours : HonoursSignatures rnp lib verifying.draws)
    (rejects : RejectsForeign rnp lib userId verifying.draws) :
    ((TicketOwnership.verifyTicketSignature rnp ticket.userPublicKey bookingRef timestamp signature
        others.1).run verifying).1 = true ↔ companyInfo.publicKey = others.1 := by
  have signing := BookingReference.ticketData_unsigned rnp lib issuer valid unsigned now issuing
  rw [BookingReference.showQRCode_run] at issued shown
  simp only [signing.2.2, Bool.or_eq_false_iff, Option.isNone_eq_false_iff] at issued
  obtain ⟨bytes, signed⟩ := Option.isSome_iff_exists.mp issued.2
  simp only [signing.1, signed, Option.map_some, Option.getD_some, Option.some.injEq] at shown
  have own := readsTicket_ticketCode (IsMark.colon.not_mem_reference ticket)
    (IsMark.colon.not_mem_keyHash lib ticket.userPublicKey) (IsMark.colon.not_mem_toHex bytes)
    (BookingReference.signingTime ticket now)
  rw [shown] at own
  obtain ⟨rfl, rfl, _, rfl⟩ := own.unique reads
  obtain ⟨accepted, after, ran, meaning, _⟩ := verifyDetached_cases rnp others.1
    (ticket.userPublicKey ++ ticket.bookingReference ++
      number (BookingReference.signingTime ticket now)) (toHex bytes) verifying
  simp only [TicketOwnership.verifyTicketSignature, StateT.run]
  rw [ran, meaning]
  simp only [BookingReference.signatureAt, BookingReference.dataToSign] at signed
  constructor
  · rintro ⟨_, _, accepted⟩
    by_contra different
    have refused := rejects pair other (Ne.symm different) signed verifying.calls
    rw [fromHex_toHex, refused] at accepted
    exact absurd accepted (by decide)
  · intro same
    rw [← same]
    exact ⟨same ▸ given, accepts_signed rnp lib honours ⟨_, _, _, pair⟩ signed verifying.calls⟩

theorem inspector_accepts_iff {randomness : ρ → κ}
    (documented : GeneratesFrom rnp lib
      (toUtf8 (deterministicId lib CompanyInfo.companyEmail CompanyInfo.companySeed)) randomness)
    (first second issuing verifying : RnpState ρ) (page : BookingReference) (ticket : TicketInfo)
    (now timestamp : Int64) (qrData bookingRef publicKeyHash signature : QString)
    (issuer : page.companyInfo = some ((CompanyInfo.generateKeys rnp lib).run first).1)
    (valid : ((CompanyInfo.generateKeys rnp lib).run first).1.isValid = true)
    (constructed : ((CompanyInfo.generateKeys rnp lib).run second).2.failed = false)
    (unsigned : ticket.signedData = [])
    (issued : ((page.showQRCode rnp lib ticket now).run issuing).2.failed = false)
    (shown : ((page.showQRCode rnp lib ticket now).run issuing).1.qrImage = some qrData)
    (reads : TicketOwnership.ReadsTicket qrData bookingRef timestamp publicKeyHash signature)
    (honours : HonoursSignatures rnp lib verifying.draws)
    (rejects : RejectsForeign rnp lib
      (toUtf8 (deterministicId lib CompanyInfo.companyEmail CompanyInfo.companySeed)) verifying.draws) :
    ((TicketOwnership.verifyTicketSignature rnp ticket.userPublicKey bookingRef timestamp signature
        ((CompanyInfo.generateKeys rnp lib).run second).1.publicKey).run verifying).1 = true ↔
      randomness (first.draws (first.calls + 1)) = randomness (second.draws (second.calls + 1)) := by
  rcases CompanyInfo.generateKeys_cases rnp lib first with ⟨invalid, _⟩ | ⟨made, _, _⟩
  · exact Bool.noConfusion (valid.symm.trans invalid)
  rcases CompanyInfo.generateKeys_cases rnp lib second with ⟨_, failed⟩ | ⟨otherMade, _, _⟩
  · exact Bool.noConfusion (failed.symm.trans constructed)
  rw [issued_accepted_iff rnp lib made otherMade (publicKey_ne_nil documented otherMade) issuer valid
    unsigned issued shown reads honours rejects]
  exact publicKey_eq_iff documented made otherMade

theorem inspector_accepts_iff_sample :
    ((TicketOwnership.verifyTicketSignature PlainRnp.rnp (text "PAA") (text "ABCDEF") 107
      (text "4141504141414243444546313037")
      ((CompanyInfo.generateKeys PlainRnp.rnp PlainRnp.library).run
        (PlainRnp.initialState 0)).1.publicKey).run (PlainRnp.initialState 9)).1 = true := by
  refine (inspector_accepts_iff PlainRnp.rnp PlainRnp.library (PlainRnp.generatesFrom _)
    (PlainRnp.initialState 0) (PlainRnp.initialState 0) (PlainRnp.initialState 5)
    (PlainRnp.initialState 9)
    (BookingReference.new.setCompanyInfo
      ((CompanyInfo.generateKeys PlainRnp.rnp PlainRnp.library).run (PlainRnp.initialState 0)).1)
    ((TicketInfo.new (text "Bern") (text "Basel") 0 0 Session.sampleRandom).1.setUserPublicKey
      (text "PAA")) 107 107
    (text "TICKET:ABCDEF:107:3e8fed5232328f57:4141504141414243444546313037")
    (text "ABCDEF") (text "3e8fed5232328f57")
    (text "4141504141414243444546313037") rfl ?_ ?_ rfl ?_ ?_
    ⟨text "107", ?_, ?_⟩ (PlainRnp.honoursSignatures _) (PlainRnp.rejectsForeign _ _)).mpr rfl
  all_goals decide +kernel

theorem inspector_other_key :
    let inspector := ((TicketInspector.new PlainRnp.rnp PlainRnp.library).run Session.sample.rnpState).1
    let verdict := fun companyPublicKey => Session.sample.tickets.map fun issued =>
      ((TicketOwnership.verifyTicketSignature PlainRnp.rnp issued.ticket.userPublicKey
        issued.ticket.bookingReference issued.now
        (TicketOwnership.parseTicket issued.qrData {}).2.signature companyPublicKey).run
          (PlainRnp.initialState 0)).1
    verdict Session.sample.window.companyInfo.publicKey = [true] ∧
      inspector.companyInfo.isValid = true ∧ verdict inspector.companyInfo.publicKey = [false] := by
  decide +kernel

end SbbTicketing
