import SbbTicketing.IdentificationTokenCore
import SbbTicketing.RnpChecks
import SbbTicketing.TicketCore
import SbbTicketing.TicketOwnershipChecks

/-! The texts the user application puts into QR codes: their layout, that the parsers read
the same fields back, and when the signed form is what is shown. -/

namespace SbbTicketing

open Qt

variable {ρ : Type} (rnp : Rnp ρ) (lib : QtLibrary)

def tokenCode (publicKeyHash : QString) (timestamp : Int64) (signature : QString) : QString :=
  text "PIT" ++ ':' :: (publicKeyHash ++ ':' :: (number timestamp ++ ':' :: signature))

def ticketCode (bookingRef : QString) (timestamp : Int64) (publicKeyHash signature : QString) : QString :=
  text "TICKET" ++ ':' :: (bookingRef ++ ':' :: (number timestamp ++ ':' ::
    (publicKeyHash ++ ':' :: signature)))

/-- The characters with a meaning in the codes: the separator, and the start of a place marker. -/
def IsMark (c : Char) : Prop := c = ':' ∨ c = '%'

namespace IsMark

theorem colon : IsMark ':' := Or.inl rfl

theorem percent : IsMark '%' := Or.inr rfl

variable {c : Char} (mark : IsMark c)

include mark

theorem not_mem_number (value : Int64) : c ∉ number value := by
  rcases mark with rfl | rfl
  · exact Qt.not_mem_number (by decide) rfl value
  · exact Qt.not_mem_number (by decide) rfl value

theorem not_mem_toHex (bytes : QByteArray) : c ∉ toHex bytes := by
  rcases mark with rfl | rfl
  · exact Qt.not_mem_toHex (by decide) bytes
  · exact Qt.not_mem_toHex (by decide) bytes

theorem not_mem_keyHash (publicKey : QString) : c ∉ keyHash lib publicKey := by
  intro member
  exact mark.not_mem_toHex _ (List.mem_of_mem_take member)

theorem not_mem_reference (ticket : TicketInfo) : c ∉ ticket.bookingReference := by
  intro member
  rcases ticket.generated with empty | ⟨_, characters⟩
  · simp [empty] at member
  · have inside : c ∈ referenceChars := characters c member
    rcases mark with rfl | rfl
    · exact absurd inside (by decide)
    · exact absurd inside (by decide)

end IsMark

theorem arg_tokenCode {publicKeyHash : QString} (noPercent : '%' ∉ publicKeyHash) (timestamp : Int64)
    (signature : QString) :
    arg (arg (arg (text "PIT:%1:%2:%3") publicKeyHash) (number timestamp)) signature =
      tokenCode publicKeyHash timestamp signature := by
  have noPercentYet : '%' ∉ number timestamp := IsMark.percent.not_mem_number timestamp
  have first : arg (text "PIT:%1:%2:%3") publicKeyHash =
      (text "PIT:" ++ publicKeyHash ++ text ":") ++ text "%2:%3" := by
    rw [show text "PIT:%1:%2:%3" = text "PIT:" ++ text "%1:%2:%3" from rfl, arg_append (by decide)]
    rw [show arg (text "%1:%2:%3") publicKeyHash = publicKeyHash ++ text ":%2:%3" from rfl]
    simp [text]
  have second : arg ((text "PIT:" ++ publicKeyHash ++ text ":") ++ text "%2:%3") (number timestamp) =
      (text "PIT:" ++ publicKeyHash ++ text ":" ++ number timestamp ++ text ":") ++ text "%3" := by
    rw [arg_append (by simp [text, noPercent])]
    rw [show arg (text "%2:%3") (number timestamp) = number timestamp ++ text ":%3" from rfl]
    simp [text]
  rw [first, second, arg_append (by simp [text, noPercent, noPercentYet])]
  rw [show arg (text "%3") signature = signature ++ [] from rfl]
  simp [text, tokenCode]

theorem arg_ticketCode {bookingRef publicKeyHash : QString} (plainRef : '%' ∉ bookingRef)
    (plainHash : '%' ∉ publicKeyHash) (timestamp : Int64) (signature : QString) :
    arg (arg (arg (arg (text "TICKET:%1:%2:%3:%4") bookingRef) (number timestamp)) publicKeyHash)
        signature =
      ticketCode bookingRef timestamp publicKeyHash signature := by
  have plainTime : '%' ∉ number timestamp := IsMark.percent.not_mem_number timestamp
  have first : arg (text "TICKET:%1:%2:%3:%4") bookingRef =
      (text "TICKET:" ++ bookingRef ++ text ":") ++ text "%2:%3:%4" := by
    rw [show text "TICKET:%1:%2:%3:%4" = text "TICKET:" ++ text "%1:%2:%3:%4" from rfl,
      arg_append (by decide)]
    rw [show arg (text "%1:%2:%3:%4") bookingRef = bookingRef ++ text ":%2:%3:%4" from rfl]
    simp [text]
  have second : arg ((text "TICKET:" ++ bookingRef ++ text ":") ++ text "%2:%3:%4") (number timestamp) =
      (text "TICKET:" ++ bookingRef ++ text ":" ++ number timestamp ++ text ":") ++ text "%3:%4" := by
    rw [arg_append (by simp [text, plainRef])]
    rw [show arg (text "%2:%3:%4") (number timestamp) = number timestamp ++ text ":%3:%4" from rfl]
    simp [text]
  have third : arg ((text "TICKET:" ++ bookingRef ++ text ":" ++ number timestamp ++ text ":") ++
        text "%3:%4") publicKeyHash =
      (text "TICKET:" ++ bookingRef ++ text ":" ++ number timestamp ++ text ":" ++ publicKeyHash ++
        text ":") ++ text "%4" := by
    rw [arg_append (by simp [text, plainRef, plainTime])]
    rw [show arg (text "%3:%4") publicKeyHash = publicKeyHash ++ text ":%4" from rfl]
    simp [text]
  rw [first, second, third, arg_append (by simp [text, plainRef, plainTime, plainHash])]
  rw [show arg (text "%4") signature = signature ++ [] from rfl]
  simp [text, ticketCode]

theorem split_ticketCode {bookingRef publicKeyHash : QString} (plainRef : ':' ∉ bookingRef)
    (plainHash : ':' ∉ publicKeyHash) (timestamp : Int64) (signature : QString) :
    split (ticketCode bookingRef timestamp publicKeyHash signature) ':' =
      text "TICKET" :: bookingRef :: number timestamp :: publicKeyHash :: split signature ':' := by
  rw [ticketCode, split_append (by decide), split_append plainRef,
    split_append (IsMark.colon.not_mem_number timestamp), split_append plainHash]

theorem readsTicket_ticketCode {bookingRef publicKeyHash signature : QString}
    (plainRef : ':' ∉ bookingRef) (plainHash : ':' ∉ publicKeyHash) (plainSignature : ':' ∉ signature)
    (timestamp : Int64) :
    TicketOwnership.ReadsTicket (ticketCode bookingRef timestamp publicKeyHash signature) bookingRef
      timestamp publicKeyHash signature := by
  refine ⟨number timestamp, ?_, toLongLong_number timestamp⟩
  rw [split_ticketCode plainRef plainHash, split_single plainSignature]

theorem readsPIT_tokenCode {publicKeyHash signature : QString} (plainHash : ':' ∉ publicKeyHash)
    (plainSignature : ':' ∉ signature) (timestamp : Int64) :
    TicketOwnership.ReadsPIT (tokenCode publicKeyHash timestamp signature) publicKeyHash timestamp
      signature := by
  refine ⟨number timestamp, ?_, toLongLong_number timestamp⟩
  rw [tokenCode, split_append (by decide), split_append plainHash,
    split_append (IsMark.colon.not_mem_number timestamp), split_single plainSignature]

/-- A text made from a signature: it is made exactly when signing succeeds. -/
theorem signDetached_map (errors : SigningErrors) (privateKey dataToSign : QString)
    (format : QByteArray → QString) (state : RnpState ρ) :
    let outcome := (signDetached rnp errors privateKey dataToSign >>= fun bytes =>
      pure (format bytes)).run.run state
    let signature := rnp.signature state.draws state.calls (toUtf8 privateKey) (toUtf8 dataToSign)
    outcome.1.toOption = signature.map format ∧ outcome.2.draws = state.draws ∧
      outcome.2.failed = (state.failed || signature.isNone) := by
  intro outcome signature
  have signed := signDetached_spec rnp errors privateKey dataToSign state
  obtain ⟨value, after, ran⟩ : ∃ value after,
      (signDetached rnp errors privateKey dataToSign).run.run state = (value, after) := ⟨_, _, rfl⟩
  simp only [ran] at signed
  obtain ⟨made, draws, failed⟩ := signed
  cases value with
  | error message =>
      have whole : outcome = (.error message, after) := run_bind_error ran
      rw [whole]
      exact ⟨congrArg (Option.map format) made, draws, failed⟩
  | ok bytes =>
      have whole : outcome = (.ok (format bytes), after) := run_bind_ok ran
      rw [whole]
      exact ⟨congrArg (Option.map format) made, draws, failed⟩

namespace IdentificationToken

def signatureAt (token : IdentificationToken) (clock : Int64) (state : RnpState ρ) : Option QByteArray :=
  rnp.signature state.draws state.calls (toUtf8 token.privateKey)
    (toUtf8 (dataToSign token.publicKey clock))

theorem tokenData_run (token : IdentificationToken) (clock : Int64) (state : RnpState ρ) :
    let outcome := (token.tokenData rnp lib clock).run.run state
    let signature := token.signatureAt rnp clock state
    outcome.1.toOption =
        signature.map (fun bytes => tokenCode (keyHash lib token.publicKey) clock (toHex bytes)) ∧
      outcome.2.draws = state.draws ∧ outcome.2.failed = (state.failed || signature.isNone) := by
  have signed := signDetached_map rnp signingErrors token.privateKey (dataToSign token.publicKey clock)
    (fun bytes => tokenCode (keyHash lib token.publicKey) clock (toHex bytes)) state
  simp only [signatureAt, tokenData, arg_tokenCode (IsMark.percent.not_mem_keyHash lib token.publicKey)]
  exact signed

/-- The text a generation puts on screen, given what signing produced. -/
def shownData (token : IdentificationToken) (times : GenerationTimes) (signature : Option QByteArray) :
    QString :=
  (signature.map fun bytes => tokenCode (keyHash lib token.publicKey) times.clock (toHex bytes)).getD
    (token.fallbackData lib times.fallbackClock)

theorem generateQRCodeWithTimestamp_run (token : IdentificationToken) (times : GenerationTimes)
    (state : RnpState ρ) :
    let signature := token.signatureAt rnp times.clock state
    ∃ after, (token.generateQRCodeWithTimestamp rnp lib times).run state =
        ({ token with qrImage := some (token.shownData lib times signature) }, after) ∧
      after.draws = state.draws ∧ after.failed = (state.failed || signature.isNone) := by
  have data := tokenData_run rnp lib token times.clock state
  obtain ⟨value, after, ran⟩ : ∃ value after,
      (token.tokenData rnp lib times.clock).run.run state = (value, after) := ⟨_, _, rfl⟩
  simp only [ran] at data
  refine ⟨after, ?_, data.2⟩
  rw [shownData, ← data.1]
  simp only [generateQRCodeWithTimestamp, StateT.run_bind, ran]
  cases value with
  | error message => rfl
  | ok tokenText => rfl

theorem refreshQRCode_run (token : IdentificationToken) (times : GenerationTimes) (state : RnpState ρ) :
    let signature := token.signatureAt rnp times.clock state
    ∃ after, (token.refreshQRCode rnp lib times).run state =
        ({ token.setCountdown 20 with
            qrImage := some (token.shownData lib times signature)
            refreshTimer := token.refreshTimer.start 20000 times.started }, after) ∧
      after.draws = state.draws ∧ after.failed = (state.failed || signature.isNone) := by
  obtain ⟨after, ran, draws, failed⟩ := generateQRCodeWithTimestamp_run rnp lib token times state
  refine ⟨after, ?_, draws, failed⟩
  simp only [refreshQRCode, StateT.run_bind, ran]
  rfl

theorem refreshTimeout_run (token : IdentificationToken) (times : GenerationTimes) (state : RnpState ρ)
    (active : token.refreshTimer.isActive = true) :
    let signature := token.signatureAt rnp times.clock state
    ∃ after, (token.refreshTimeout rnp lib times).run state =
        ({ token.setCountdown 20 with
            qrImage := some (token.shownData lib times signature)
            refreshTimer := token.refreshTimer.fire.start 20000 times.started }, after) ∧
      after.draws = state.draws ∧ after.failed = (state.failed || signature.isNone) := by
  rw [refreshTimeout, if_pos active]
  exact refreshQRCode_run rnp lib { token with refreshTimer := token.refreshTimer.fire } times state

theorem setIdentificationToken_run (token : IdentificationToken) (publicKey privateKey : QString)
    (times : GenerationTimes) (state : RnpState ρ) :
    let keyed := { token with publicKey, privateKey }
    let signature := keyed.signatureAt rnp times.clock state
    ∃ after, (token.setIdentificationToken rnp lib publicKey privateKey times).run state =
        ({ keyed.setCountdown 20 with
            qrImage := some (keyed.shownData lib times signature)
            timerLabelVisible := true
            countdownTimer := token.countdownTimer.start 1000 times.started
            refreshTimer := token.refreshTimer.start 20000 times.started }, after) ∧
      after.draws = state.draws ∧ after.failed = (state.failed || signature.isNone) := by
  intro keyed signature
  obtain ⟨after, ran, draws, failed⟩ := generateQRCodeWithTimestamp_run rnp lib keyed times state
  refine ⟨after, ?_, draws, failed⟩
  simp only [setIdentificationToken, StateT.run_bind]
  rw [ran]
  rfl

end IdentificationToken

namespace BookingReference

theorem mem_addTicket {page : BookingReference} {ticket other : TicketInfo}
    (member : .card other ∈ (page.addTicket ticket).ticketLayout) :
    other = ticket ∨ .card other ∈ page.ticketLayout := by
  simp only [addTicket] at member
  by_cases valid : ticket.isValid = true
  · simpa [valid] using member
  · simp only [Bool.not_eq_true] at valid
    right
    simpa [valid] using member

theorem addTicket_companyInfo (page : BookingReference) (ticket : TicketInfo) :
    (page.addTicket ticket).companyInfo = page.companyInfo := by
  simp only [addTicket]
  split <;> rfl

def signatureAt (companyInfo : CompanyInfo) (ticket : TicketInfo) (now : Int64) (state : RnpState ρ) :
    Option QByteArray :=
  rnp.signature state.draws state.calls (toUtf8 companyInfo.privateKey)
    (toUtf8 (dataToSign ticket (signingTime ticket now)))

theorem showQRCode_run (page : BookingReference) (ticket : TicketInfo) (now : Int64)
    (state : RnpState ρ) :
    let tried := (page.ticketData rnp lib ticket now).run.run state
    (page.showQRCode rnp lib ticket now).run state = ({ page with
      currentTicket := ticket
      qrTitle := text "Ticket: " ++ ticket.bookingReference
      qrImage := some (tried.1.toOption.getD ticket.bookingReference)
      overlayHidden := false }, tried.2) := by
  obtain ⟨value, after, ran⟩ : ∃ value after,
      (page.ticketData rnp lib ticket now).run.run state = (value, after) := ⟨_, _, rfl⟩
  have renamed : (({ page with currentTicket := ticket
                               qrTitle := text "Ticket: " ++ ticket.bookingReference } :
      BookingReference).ticketData rnp lib ticket now).run.run state = (value, after) := ran
  simp only [showQRCode, StateT.run_bind, renamed, ran]
  cases value with
  | error message => rfl
  | ok qrData => rfl

theorem ticketData_signed {page : BookingReference} {companyInfo : CompanyInfo} {ticket : TicketInfo}
    (company : page.companyInfo = some companyInfo) (valid : companyInfo.isValid = true)
    (signed : ticket.signedData ≠ []) (now : Int64) (state : RnpState ρ) :
    (page.ticketData rnp lib ticket now).run.run state =
      (.ok (ticketCode ticket.bookingReference (signingTime ticket now)
        (keyHash lib ticket.userPublicKey) ticket.signedData), state) := by
  rw [← arg_ticketCode (IsMark.percent.not_mem_reference ticket)
    (IsMark.percent.not_mem_keyHash lib ticket.userPublicKey)]
  simp only [ticketData, company, valid, List.isEmpty_iff, signed, Bool.not_true, ↓reduceIte]
  rfl

theorem ticketData_unsigned {page : BookingReference} {companyInfo : CompanyInfo} {ticket : TicketInfo}
    (company : page.companyInfo = some companyInfo) (valid : companyInfo.isValid = true)
    (unsigned : ticket.signedData = []) (now : Int64) (state : RnpState ρ) :
    let outcome := (page.ticketData rnp lib ticket now).run.run state
    let signature := signatureAt rnp companyInfo ticket now state
    outcome.1.toOption = signature.map (fun bytes =>
        ticketCode ticket.bookingReference (signingTime ticket now) (keyHash lib ticket.userPublicKey)
          (toHex bytes)) ∧
      outcome.2.draws = state.draws ∧ outcome.2.failed = (state.failed || signature.isNone) := by
  have signed := signDetached_map rnp signingErrors companyInfo.privateKey
    (dataToSign ticket (signingTime ticket now))
    (fun bytes => ticketCode ticket.bookingReference (signingTime ticket now)
      (keyHash lib ticket.userPublicKey) (toHex bytes)) state
  simp only [signatureAt, ticketData, company, valid, List.isEmpty_iff, unsigned, Bool.not_true,
    Bool.false_eq_true, ↓reduceIte, pure_bind,
    arg_ticketCode (IsMark.percent.not_mem_reference ticket)
      (IsMark.percent.not_mem_keyHash lib ticket.userPublicKey)]
  exact signed

theorem ticketData_unfailed {page : BookingReference} {ticket : TicketInfo} {now : Int64}
    {state : RnpState ρ} (unfailed : ((page.ticketData rnp lib ticket now).run.run state).2.failed = false) :
    state.failed = false := by
  cases company : page.companyInfo with
  | none =>
      simp only [ticketData, company] at unfailed
      exact unfailed
  | some companyInfo =>
      by_cases valid : companyInfo.isValid = true
      · by_cases unsigned : ticket.signedData = []
        · have spec := ticketData_unsigned rnp lib company valid unsigned now state
          rw [spec.2.2, Bool.or_eq_false_iff] at unfailed
          exact unfailed.1
        · rw [ticketData_signed rnp lib company valid unsigned now state] at unfailed
          exact unfailed
      · simp only [Bool.not_eq_true] at valid
        simp only [ticketData, company, valid, Bool.not_false, ↓reduceIte] at unfailed
        exact unfailed

end BookingReference

end SbbTicketing
