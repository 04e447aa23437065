import SbbTicketing.KeyRequest
import SbbTicketing.TicketInspectorCore
import SbbTicketing.WindowState

/-! The alphabet of the codes: whatever RNP does, a code that is shown is made of letters,
digits, colons and minus signs, so it reaches the symbol whole and is read back as it is. -/

namespace SbbTicketing

open Qt

variable {ρ : Type} (rnp : Rnp ρ) (lib : QtLibrary)

def isCodeChar (c : Char) : Bool := c.isAlphanum || c = ':' || c = '-'

def CodeText (data : QString) : Prop := data ≠ [] ∧ ∀ c ∈ data, isCodeChar c = true

theorem isCodeChar_range {c : Char} (inAlphabet : isCodeChar c = true) : 45 ≤ c.toNat ∧ c.toNat ≤ 122 := by
  have code : c.val.toNat = c.toNat := rfl
  have ranges : isCodeChar c = (((decide (65 ≤ c.val ∧ c.val ≤ 90) ||
      (decide (97 ≤ c.val) && decide (c.val ≤ 122))) || (decide (48 ≤ c.val) && decide (c.val ≤ 57))) ||
      decide (c = ':') || decide (c = '-')) := rfl
  simp only [ranges, Bool.or_eq_true, Bool.and_eq_true, decide_eq_true_eq, UInt32.le_iff_toNat_le,
    code] at inAlphabet
  rcases inAlphabet with (((upper | lower) | digit) | rfl) | rfl
  · have bounds : 65 ≤ c.toNat ∧ c.toNat ≤ 90 := upper
    omega
  · have bounds : 97 ≤ c.toNat ∧ c.toNat ≤ 122 := lower
    omega
  · have bounds : 48 ≤ c.toNat ∧ c.toNat ≤ 57 := digit
    omega
  · decide
  · decide

theorem isSpace_of_isCodeChar {c : Char} (inAlphabet : isCodeChar c = true) : isSpace c = false := by
  have range := isCodeChar_range inAlphabet
  simp only [isSpace, Bool.or_eq_false_iff, Bool.and_eq_false_iff, decide_eq_false_iff_not]
  omega

theorem isCodeChar_of_isDigit {c : Char} (digit : c.isDigit = true) : isCodeChar c = true := by
  simp [isCodeChar, Char.isAlphanum, digit]

theorem isCodeChar_of_mem_toHex (bytes : QByteArray) : ∀ c ∈ toHex bytes, isCodeChar c = true :=
  HexText.forall_mem_encode (by decide) bytes

theorem isCodeChar_of_mem_number (value : Int64) : ∀ c ∈ number value, isCodeChar c = true := by
  intro c member
  rcases Numerals.mem_decimal member with rfl | digit
  · rfl
  · exact isCodeChar_of_isDigit digit

theorem isCodeChar_of_mem_keyHash (publicKey : QString) : ∀ c ∈ keyHash lib publicKey, isCodeChar c = true :=
  fun c member => isCodeChar_of_mem_toHex _ c (List.mem_of_mem_take member)

theorem isCodeChar_of_mem_reference {reference : QString} (drawn : IsReference reference) :
    ∀ c ∈ reference, isCodeChar c = true := by
  have letters : ∀ c ∈ referenceChars, isCodeChar c = true := List.all_eq_true.mp (by decide)
  exact fun c member => letters c (drawn.2 c member)

theorem fallbackToken_eq (publicKey : QString) (clock : Int64) :
    fallbackToken lib publicKey clock =
      text "PIT" ++ ':' :: (number clock ++ ':' :: toHex (lib.sha256 (toUtf8 publicKey))) := by
  have parts := IdentificationToken.split_fallbackData lib { IdentificationToken.new with publicKey } clock
  exact (split_eq_iff.mp parts).2.2.trans (by simp [List.intercalate])

theorem fallbackToken_parts (publicKey : QString) (clock : Int64) :
    (split (fallbackToken lib publicKey clock) ':').length = 3 := by
  have parts := IdentificationToken.split_fallbackData lib { IdentificationToken.new with publicKey } clock
  exact congrArg List.length parts

theorem TokenIssued.parts {publicKey : QString} {issued : IssuedToken}
    (made : TokenIssued lib publicKey issued) :
    (split issued.qrData ':').length = 4 ∨ (split issued.qrData ':').length = 3 := by
  rcases made with ⟨signature, shown⟩ | ⟨clock, shown⟩
  · left
    rw [shown]
    exact (readsPIT_tokenCode (IsMark.colon.not_mem_keyHash lib publicKey)
      (IsMark.colon.not_mem_toHex signature) issued.clock).parts
  · right
    rw [shown]
    exact fallbackToken_parts lib publicKey clock

theorem TicketIssued.parts {publicKey : QString} {issued : IssuedTicket}
    (made : TicketIssued lib publicKey issued) :
    (split issued.qrData ':').length = 5 ∨ (split issued.qrData ':').length = 1 := by
  have plainRef := IsMark.colon.not_mem_reference issued.ticket
  rcases made with ⟨signature, shown⟩ | shown
  · left
    rw [shown]
    exact (readsTicket_ticketCode plainRef (IsMark.colon.not_mem_keyHash lib publicKey)
      (IsMark.colon.not_mem_toHex signature) issued.now).parts
  · right
    rw [shown, split_single plainRef]
    rfl

theorem TokenIssued.codeText {publicKey : QString} {issued : IssuedToken}
    (made : TokenIssued lib publicKey issued) : CodeText issued.qrData := by
  have tag : ∀ c ∈ text "PIT:", isCodeChar c = true := List.all_eq_true.mp (by decide)
  rcases made with ⟨signature, shown⟩ | ⟨clock, shown⟩
  · have fields := isCodeChar_of_mem_keyHash lib publicKey
    have stamp := isCodeChar_of_mem_number issued.clock
    have signed := isCodeChar_of_mem_toHex signature
    rw [shown]
    refine ⟨by simp [tokenCode], ?_⟩
    grind [tokenCode, text]
  · have stamp := isCodeChar_of_mem_number clock
    have hash := isCodeChar_of_mem_toHex (lib.sha256 (toUtf8 publicKey))
    rw [shown, fallbackToken_eq]
    refine ⟨by simp, ?_⟩
    grind [text]

theorem TicketIssued.codeText {publicKey : QString} {issued : IssuedTicket}
    (booked : BookedFor publicKey issued.ticket) (made : TicketIssued lib publicKey issued) :
    CodeText issued.qrData := by
  have tag : ∀ c ∈ text "TICKET:", isCodeChar c = true := List.all_eq_true.mp (by decide)
  have reference := isCodeChar_of_mem_reference booked.reference
  rcases made with ⟨signature, shown⟩ | shown
  · have fields := isCodeChar_of_mem_keyHash lib publicKey
    have stamp := isCodeChar_of_mem_number issued.now
    have signed := isCodeChar_of_mem_toHex signature
    rw [shown]
    refine ⟨by simp [ticketCode], ?_⟩
    grind [ticketCode, text]
  · rw [shown]
    refine ⟨?_, reference⟩
    intro empty
    have six := booked.reference.1
    simp [empty] at six

namespace CodeText

variable {data : QString} (plain : CodeText data)

include plain

/-- libqrencode is given the whole text: no zero byte cuts it short. -/
theorem cString : cString (toUtf8 data) = toUtf8 data := by
  refine cString_utf8 fun c member => ?_
  have inAlphabet := plain.2 c member
  have range := isCodeChar_range inAlphabet
  refine ⟨?_, ?_, by omega⟩
  · rintro rfl
    revert inAlphabet
    decide
  · rintro rfl
    revert inAlphabet
    decide

theorem trimmed_newline : trimmed (data ++ ['\n']) = data := by
  have solid : ∀ c ∈ data, isSpace c = false := fun c member => isSpace_of_isCodeChar (plain.2 c member)
  have newline : ∀ c ∈ ['\n'], isSpace c = true := List.all_eq_true.mp (by decide)
  have stripped : trimmed ([] ++ data ++ ['\n']) = data := trimmed_pad (by simp) solid newline
  simpa using stripped

end CodeText

def Session.Shown (session : Session ρ) (code : QString) : Prop :=
  (∃ issued ∈ session.tokens, issued.qrData = code) ∨ ∃ issued ∈ session.tickets, issued.qrData = code

namespace Session

variable {rnp lib} {session : Session ρ} {record : LoginRecord ρ} {code : QString}

theorem shown_of_token (phased : session.Phased lib)
    (displayed : session.window.identificationToken.qrImage = some code) : session.Shown code := by
  rcases phased with ⟨random, out⟩ | ⟨record, inside⟩
  · rw [out.untouched] at displayed
    cases displayed
  · obtain ⟨issued, latest, image⟩ := inside.token.current
    rw [image, Option.some.injEq] at displayed
    exact Or.inl ⟨issued, List.mem_of_head? latest, displayed⟩

theorem shown_of_ticket (phased : session.Phased lib)
    (displayed : session.window.bookingReference.qrImage = some code) : session.Shown code := by
  rcases phased with ⟨random, out⟩ | ⟨record, inside⟩
  · rw [out.untouched] at displayed
    cases displayed
  · cases latest : session.tickets.head? with
    | none =>
        have closed := inside.ticket.closed (List.head?_eq_none_iff.mp latest)
        rw [closed.1] at displayed
        cases displayed
    | some issued =>
        obtain ⟨_, image, _⟩ := inside.ticket.current issued latest
        rw [image, Option.some.injEq] at displayed
        exact Or.inr ⟨issued, List.mem_of_head? latest, displayed⟩

theorem loggedIn_of_shown (phased : session.Phased lib) (shown : session.Shown code) :
    ∃ record, session.LoggedIn lib record := by
  rcases phased with ⟨random, out⟩ | inside
  · obtain ⟨_, noTickets, noTokens⟩ := out.nothing
    simp [Shown, noTickets, noTokens] at shown
  · exact inside

theorem codeText_of_shown (phased : session.Phased lib) (shown : session.Shown code) : CodeText code := by
  obtain ⟨record, inside⟩ := loggedIn_of_shown phased shown
  rcases shown with ⟨issued, member, rfl⟩ | ⟨issued, member, rfl⟩
  · exact (inside.token.issued issued member).codeText
  · obtain ⟨cards, ⟨layout, _⟩, booked⟩ := inside.ticket.cards
    obtain ⟨card, made⟩ := inside.ticket.issued issued member
    rw [layout, BookingReference.cardsLayout] at card
    exact made.codeText lib (booked issued.ticket (by simpa using card))

theorem shown_run (phased : session.Phased lib) (shown : session.Shown code) (events : List WindowEvent) :
    (run rnp lib session events).Shown code := by
  obtain ⟨record, inside⟩ := loggedIn_of_shown phased shown
  have continues := (continues_run rnp inside events).2
  rcases shown with ⟨issued, member, same⟩ | ⟨issued, member, same⟩
  · exact Or.inl ⟨issued, continues.tokens.subset member, same⟩
  · exact Or.inr ⟨issued, continues.tickets.subset member, same⟩

/-- A shown code that reads as a token was issued as one, with the account's key hash and the clock
it was made at. -/
theorem token_of_reads (inside : session.LoggedIn lib record) (shown : session.Shown code)
    {publicKeyHash signature : QString} {timestamp : Int64}
    (reads : TicketOwnership.ReadsPIT code publicKeyHash timestamp signature) :
    ∃ issued ∈ session.tokens, issued.qrData = code ∧ issued.clock = timestamp ∧
      publicKeyHash = keyHash lib session.window.accountInfo.publicKey := by
  have four := reads.parts
  rcases shown with ⟨issued, member, rfl⟩ | ⟨issued, member, rfl⟩
  · rcases inside.token.issued issued member with ⟨bytes, made⟩ | ⟨clock, made⟩
    · have own := readsPIT_tokenCode (IsMark.colon.not_mem_keyHash lib session.window.accountInfo.publicKey)
        (IsMark.colon.not_mem_toHex bytes) issued.clock
      rw [← made] at own
      obtain ⟨hash, clock, _⟩ := reads.unique own
      exact ⟨issued, member, rfl, clock.symm, hash⟩
    · have three := fallbackToken_parts lib session.window.accountInfo.publicKey clock
      rw [made] at four
      omega
  · have other := (inside.ticket.issued issued member).2.parts lib
    omega

/-- A shown code that reads as a ticket was issued for one, under the account's key hash. -/
theorem ticket_of_reads (inside : session.LoggedIn lib record) (shown : session.Shown code)
    {bookingRef publicKeyHash signature : QString} {timestamp : Int64}
    (reads : TicketOwnership.ReadsTicket code bookingRef timestamp publicKeyHash signature) :
    ∃ issued ∈ session.tickets, issued.qrData = code ∧ issued.ticket.bookingReference = bookingRef ∧
      publicKeyHash = keyHash lib session.window.accountInfo.publicKey := by
  have five := reads.parts
  rcases shown with ⟨issued, member, rfl⟩ | ⟨issued, member, rfl⟩
  · have other := (inside.token.issued issued member).parts lib
    omega
  · rcases (inside.ticket.issued issued member).2 with ⟨bytes, made⟩ | made
    · have own := readsTicket_ticketCode (IsMark.colon.not_mem_reference issued.ticket)
        (IsMark.colon.not_mem_keyHash lib session.window.accountInfo.publicKey)
        (IsMark.colon.not_mem_toHex bytes) issued.now
      rw [← made] at own
      obtain ⟨reference, _, hash, _⟩ := reads.unique own
      exact ⟨issued, member, rfl, reference.symm, hash⟩
    · rw [made, split_single (IsMark.colon.not_mem_reference issued.ticket)] at five
      simp at five

end Session

/-- Every code on display has been issued, and every issued code goes into its symbol whole and
comes back as it was when a scanner adds a line break. -/
theorem shown_codes_plain (random : RandomGenerator) (state : RnpState ρ) (events : List WindowEvent) :
    let session := Session.run rnp lib (Session.start rnp lib random state) events
    let window := session.window
    (∀ code, window.identificationToken.qrImage = some code ∨ window.bookingReference.qrImage = some code →
      session.Shown code) ∧
    ∀ code, session.Shown code →
      CodeText code ∧ cString (toUtf8 code) = toUtf8 code ∧
      ∀ file : ChosenFile, file.zbarimg.finished = true → file.zbarimg.exitCode = 0 →
        lib.fromUtf8 file.zbarimg.standardOutput = code ++ ['\n'] → decodeQRFromImage lib file = code := by
  intro session window
  have phased : session.Phased lib :=
    Session.phased_run rnp (Or.inl ⟨random, Session.loggedOut_start rnp random state⟩) events
  refine ⟨?_, ?_⟩
  · rintro code (onToken | onTicket)
    · exact Session.shown_of_token phased onToken
    · exact Session.shown_of_ticket phased onTicket
  · intro code shown
    have plain := Session.codeText_of_shown phased shown
    refine ⟨plain, plain.cString, ?_⟩
    intro file finished succeeded output
    simp only [decodeQRFromImage, finished, succeeded, output, plain.trimmed_newline]
    rfl

end SbbTicketing
