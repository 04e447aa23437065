import SbbTicketing.PlainRnp
import SbbTicketing.SessionChecks

/-! The codes an honest passenger shows are accepted for as long as the token is fresh, in
every run of the application. -/

namespace SbbTicketing

open Qt

variable {ρ : Type} (rnp : Rnp ρ) (lib : QtLibrary)

theorem accepts_signed {verifying : Nat → ρ} (honours : HonoursSignatures rnp lib verifying)
    {publicKey privateKey data : QString} (pair : KeyPair rnp lib publicKey privateKey)
    {draws : Nat → ρ} {call : Nat} {signature : QByteArray}
    (made : rnp.signature draws call (toUtf8 privateKey) (toUtf8 data) = some signature) (check : Nat) :
    toHex signature ≠ [] ∧
      rnp.accepts verifying check (toUtf8 publicKey) (toUtf8 data)
        (fromHex (toUtf8 (toHex signature))) = true := by
  refine ⟨?_, ?_⟩
  · rw [ne_eq, toHex_eq_nil_iff]
    exact honours.written pair made
  · rw [fromHex_toHex]
    exact honours.accepted pair made check

theorem FromLogin.keyPair {account : AccountInfo} {record : LoginRecord ρ}
    (login : FromLogin rnp lib account record) :
    KeyPair rnp lib account.publicKey account.privateKey := by
  obtain ⟨draws, call, _, pair⟩ := login
  exact ⟨draws, call, _, pair⟩

namespace Session

def sampleTimes (clock : Int64) (started : Nat) : GenerationTimes where
  clock
  fallbackClock := clock
  started

def sampleEvents : List WindowEvent := [
  .login (text "a@b.ch") (text "pw") (sampleTimes 100 100000),
  .book (text "Bern") (text "Basel") 0 0, .viewTicket 0 107, .refreshTimeout (sampleTimes 120 120000)]

def sampleRandom : RandomGenerator where
  values := fun draw => draw
  drawn := 0

def sample : Session Nat :=
  run PlainRnp.rnp PlainRnp.library
    (start PlainRnp.rnp PlainRnp.library sampleRandom (PlainRnp.initialState 0)) sampleEvents

end Session

theorem honest_tokens_accepted (random : RandomGenerator) (initial : RnpState ρ)
    (events : List WindowEvent) (verifying : RnpState ρ) (now : Int64) (ticket : IssuedTicket)
    (token : IssuedToken)
    (unfailed : (Session.run rnp lib (Session.start rnp lib random initial) events).rnpState.failed =
      false)
    (company : (Session.run rnp lib (Session.start rnp lib random initial)
      events).window.companyInfo.isValid = true)
    (account : (Session.run rnp lib (Session.start rnp lib random initial)
      events).window.accountInfo.publicKey ≠ [])
    (ticketShown : ticket ∈ (Session.run rnp lib (Session.start rnp lib random initial) events).tickets)
    (tokenShown : token ∈ (Session.run rnp lib (Session.start rnp lib random initial) events).tokens)
    (honours : HonoursSignatures rnp lib verifying.draws) (nonneg : 0 ≤ now) :
    let window := (Session.run rnp lib (Session.start rnp lib random initial) events).window
    let result := ((TicketOwnership.verifyOwnership rnp lib now token.qrData ticket.qrData
      window.accountInfo.publicKey window.companyInfo.publicKey).run verifying).1
    result.isValid = true ∧ result.bookingReference = ticket.ticket.bookingReference ∧
        result.ticketTimestamp = BookingReference.signingTime ticket.ticket ticket.now ∧
        result.pitTimestamp = token.clock ↔
      token.clock.toInt ≤ now.toInt ∧ now.toInt ≤ token.clock.toInt + 20 := by
  have sound := Session.sound_run rnp lib random initial events unfailed
  generalize Session.run rnp lib (Session.start rnp lib random initial) events = session at *
  intro window result
  have loggedIn : window.isLoggedIn = true := by
    by_contra out
    have none := (sound.loggedOut (by simpa using out)).2.2.2.1
    simp [none] at ticketShown
  obtain ⟨_, _, _, record, _, login⟩ := sound.loggedIn loggedIn
  have ticketSigned := sound.tickets company ticket ticketShown
  have time : BookingReference.signingTime ticket.ticket ticket.now = ticket.now := by
    simp [BookingReference.signingTime, ticketSigned.1.2.2]
  obtain ⟨_, _, ticketSignature, ticketMade, ticketReads⟩ := ticketSigned.reads
  obtain ⟨_, _, pitSignature, pitMade, pitReads⟩ := (sound.tokens token tokenShown).reads
  rw [← TicketOwnership.fresh_iff_of_nonneg nonneg, time]
  constructor
  · rintro ⟨valid, _⟩
    rw [TicketOwnership.isValid_iff_entitled] at valid
    obtain ⟨_, _, _, _, _, _, _, _, reads, fresh, _⟩ := valid
    obtain ⟨_, rfl, _⟩ := pitReads.unique reads
    exact fresh
  · intro fresh
    have exit := TicketOwnership.verifyOwnership_exit rnp lib
      (TicketOwnership.compareCodes_of_match lib pitReads fresh ticketReads rfl)
      window.accountInfo.publicKey window.companyInfo.publicKey verifying
    have part := exit.parsedPart
    refine ⟨exit.isValid_iff.mpr ⟨account, rfl, ?_, fun _ => ?_⟩, part.bookingReference,
      part.ticketTimestamp, part.pitTimestamp⟩
    · exact accepts_signed rnp lib honours (FromLogin.keyPair rnp lib login) pitMade verifying.calls
    · exact accepts_signed rnp lib honours sound.company ticketMade (verifying.calls + 7)

theorem honest_tokens_accepted_sample :
    ∃ ticket ∈ Session.sample.tickets, ∃ token ∈ Session.sample.tokens,
      ((TicketOwnership.verifyOwnership PlainRnp.rnp PlainRnp.library 125 token.qrData ticket.qrData
        Session.sample.window.accountInfo.publicKey
        Session.sample.window.companyInfo.publicKey).run (PlainRnp.initialState 500)).1.isValid =
          true := by
  have tickets : Session.sample.tickets ≠ [] := by
    rw [← List.isEmpty_eq_false_iff]
    decide +kernel
  have token : Session.sample.tokens.headD ⟨0, []⟩ ∈ Session.sample.tokens := by decide +kernel
  refine ⟨Session.sample.tickets.head tickets, List.head_mem tickets, _, token, ?_⟩
  have accepted := honest_tokens_accepted PlainRnp.rnp PlainRnp.library Session.sampleRandom
    (PlainRnp.initialState 0) Session.sampleEvents (PlainRnp.initialState 500) 125
    (Session.sample.tickets.head tickets) (Session.sample.tokens.headD ⟨0, []⟩) (by decide +kernel)
    (by decide +kernel) (by decide +kernel) (List.head_mem tickets) token
    (PlainRnp.honoursSignatures _) (by decide)
  exact (accepted.mpr (by decide +kernel)).1

end SbbTicketing
