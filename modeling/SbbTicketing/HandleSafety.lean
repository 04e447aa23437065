import SbbTicketing.IssuedCodes
import SbbTicketing.RnpScopes

/-! Signing and verifying release every RNP handle on every path, whichever call fails, and
never touch one they have released. -/

namespace SbbTicketing

open Qt Outcomes

variable {ρ : Type} (rnp : Rnp ρ) (lib : QtLibrary)

/-- The last thing done with a handle is to destroy the context, when nothing else is left. -/
def FfiLast (before after : HandleStore RnpObject) : Prop :=
  after = before ∨ ∃ (middle : HandleStore RnpObject) (ffi : Handle) (keyring : Keyring),
    middle.objects ffi = some (.ffi keyring) ∧
    (∀ handle, handle ≠ ffi → middle.objects handle = before.objects handle) ∧
    after = middle.release ffi

structure ReleasesAll (before after : RnpState ρ) : Prop where
  sameLive : after.store.objects = before.store.objects
  unfaulted : after.faulted = before.faulted
  destroyedOnce : ∃ events, after.store.history = events ++ before.store.history ∧
    HandleStore.Ledger events []
  ffiLast : FfiLast before.store after.store

/-- A conversation with a context of its own is over: what was held is held again, and the context,
if there was one, went last. -/
structure Closes (start : RnpState ρ) (held : List (Handle × RnpShape)) (before after : RnpState ρ) :
    Prop where
  holds : start.Holds after held
  contextLast : after.store = before.store ∨ ∃ (middle : RnpState ρ) (ffi : Handle),
    start.Holds middle ((ffi, .ffi) :: held) ∧ after.store = middle.store.release ffi

theorem Closes.releasesAll {state after : RnpState ρ} (closes : Closes state [] state after) :
    ReleasesAll state after where
  sameLive := closes.holds.holding.restored
  unfaulted := closes.holds.unfaulted
  destroyedOnce := by
    obtain ⟨events, history, ledger, _⟩ := closes.holds.holding.recorded
    exact ⟨events, history, ledger⟩
  ffiLast := by
    rcases closes.contextLast with same | ⟨middle, ffi, holds, released⟩
    · exact Or.inl same
    · obtain ⟨object, found, shaped⟩ := holds.object List.mem_cons_self
      cases object with
      | ffi keyring =>
          refine Or.inr ⟨middle.store, ffi, keyring, found, ?_, released⟩
          intro handle other
          exact holds.holding.others handle (by simpa using other)
      | _ => cases shaped

section

variable {α : Type} {start before state : RnpState ρ} {held : List (Handle × RnpShape)}
  {ffi input output op key : Handle}

theorem ends_firstCreate {post : Option Handle → RnpState ρ → Prop} (holds : start.Holds state held)
    (failed : ∀ after, Closes start held state after → post none after)
    (created : ∀ ffi after, start.Holds after ((ffi, .ffi) :: held) → post (some ffi) after) :
    Ends (ffiCreate rnp) state post := by
  refine ends_create_eq rnp (fun _ => failed _ ?_) fun _ _ => created _ _ ?_
  · exact ⟨holds.answered none, Or.inl rfl⟩
  · exact (holds.answered _).acquired (.ffi [])

theorem ends_lastDestroy {post : Unit → RnpState ρ → Prop}
    (holds : start.Holds state ((ffi, .ffi) :: held))
    (next : ∀ after, Closes start held before after → post () after) :
    Ends (ffiDestroy rnp ffi) state post := by
  obtain ⟨object, found, shaped⟩ := holds.object List.mem_cons_self
  have alive : (state.store.objects ffi).map RnpObject.kind = some .ffi := by
    rw [found, Option.map_some, ← RnpObject.kind_shape, shaped]
    rfl
  change post () (if (state.store.objects ffi).map RnpObject.kind = some .ffi then
    state.released ffi else state.misused)
  rw [if_pos alive]
  exact next _ ⟨⟨holds.holding.release, holds.unfaulted⟩, Or.inr ⟨state, ffi, holds, rfl⟩⟩

theorem ends_closeContext {last : RnpM ρ α} {post : α → RnpState ρ → Prop}
    (closing : List (Handle × RnpShape)) (holds : start.Holds state (closing ++ (ffi, .ffi) :: held))
    (met : ∀ after, Closes start held before after → Ends last after post) :
    Ends (closing.foldr (fun entry (rest : RnpM ρ α) => do destroy rnp entry.2.kind entry.1; rest)
      (do ffiDestroy rnp ffi; last)) state post :=
  ends_close rnp closing holds fun _ holds => ends_bind (ends_lastDestroy rnp holds met)

theorem attempts_closeContext {last : ExceptT QString (RnpM ρ) α} {returns : α → RnpState ρ → Prop}
    {throws : QString → RnpState ρ → Prop} (closing : List (Handle × RnpShape))
    (holds : start.Holds state (closing ++ (ffi, .ffi) :: held))
    (met : ∀ after, Closes start held before after → Attempts last after returns throws) :
    Attempts (closing.foldr
      (fun entry (rest : ExceptT QString (RnpM ρ) α) => do destroy rnp entry.2.kind entry.1; rest)
      (do ffiDestroy rnp ffi; last)) state returns throws :=
  attempts_close rnp closing holds fun _ holds => attempts_call (ends_lastDestroy rnp holds met)

theorem verifyDetached_closes (publicKey data signature : QString) (holds : start.Holds state held) :
    Ends (verifyDetached rnp publicKey data signature) state fun _ after =>
      Closes start held state after := by
  unfold verifyDetached
  split
  · exact ⟨holds, Or.inl rfl⟩
  refine ends_bind (ends_firstCreate rnp holds (fun after closes => closes) fun ffi s1 holds => ?_)
  refine ends_bind (ends_inputFromMemory rnp holds ?_ fun keyInput s2 holds => ?_)
  · intro after holds
    exact ends_closeContext rnp [] holds fun _ closes => closes
  refine ends_bind (ends_importKeys rnp holds (by simp) (by simp) fun answer s3 holds => ?_)
  cases answer with
  | none => exact ends_closeContext rnp [(keyInput, .input)] holds fun _ closes => closes
  | some _ =>
  refine ends_bind (ends_destroy rnp holds rfl fun s4 holds => ?_)
  refine ends_bind (ends_inputFromMemory rnp holds ?_ fun dataInput s5 holds => ?_)
  · intro after holds
    exact ends_closeContext rnp [] holds fun _ closes => closes
  refine ends_bind (ends_inputFromMemory rnp holds ?_ fun sigInput s6 holds => ?_)
  · intro after holds
    exact ends_closeContext rnp [(dataInput, .input)] holds fun _ closes => closes
  refine ends_bind (ends_opVerifyDetachedCreate rnp holds (by simp) (by simp) (by simp) ?_
    fun verifyOp s7 holds => ?_)
  · intro after holds
    exact ends_closeContext rnp [(sigInput, .input), (dataInput, .input)] holds fun _ closes => closes
  refine ends_bind (ends_opVerifyExecute rnp holds (.head _) (by simp) (by simp) (by simp)
    fun result s8 holds => ?_)
  exact ends_closeContext rnp [(verifyOp, .verifyOp _ _ _), (sigInput, .input), (dataInput, .input)]
    holds fun _ closes => closes

theorem attempts_closeOp {last : ExceptT QString (RnpM ρ) α} {returns : α → RnpState ρ → Prop}
    {throws : QString → RnpState ρ → Prop}
    (holds : start.Holds state ((op, .signOp ffi input output) :: (output, .output) :: (input, .input) ::
      (ffi, .ffi) :: held))
    (met : ∀ after, Closes start held before after → Attempts last after returns throws) :
    Attempts (do
      opSignDestroy rnp op; outputDestroy rnp output; inputDestroy rnp input; ffiDestroy rnp ffi
      last : ExceptT QString (RnpM ρ) α) state returns throws :=
  attempts_closeContext rnp [(op, .signOp _ _ _), (output, .output), (input, .input)] holds met

theorem attempts_closeKey {last : ExceptT QString (RnpM ρ) α} {returns : α → RnpState ρ → Prop}
    {throws : QString → RnpState ρ → Prop}
    (holds : start.Holds state ((key, .key ffi) :: (op, .signOp ffi input output) :: (output, .output) ::
      (input, .input) :: (ffi, .ffi) :: held))
    (met : ∀ after, Closes start held before after → Attempts last after returns throws) :
    Attempts (do
      keyHandleDestroy rnp key; opSignDestroy rnp op; outputDestroy rnp output
      inputDestroy rnp input; ffiDestroy rnp ffi
      last : ExceptT QString (RnpM ρ) α) state returns throws :=
  attempts_close rnp [(key, .key _)] holds fun _ holds => attempts_closeOp rnp holds met

theorem signDetached_closes (errors : SigningErrors) (privateKey dataToSign : QString)
    (holds : start.Holds state held) :
    Attempts (signDetached rnp errors privateKey dataToSign) state
      (fun _ after => Closes start held state after) (fun _ after => Closes start held state after) := by
  unfold signDetached
  refine attempts_call (ends_firstCreate rnp holds (fun after closes => closes) fun ffi s1 holds => ?_)
  refine attempts_call (ends_inputFromMemory rnp holds ?_ fun keyInput s2 holds => ?_)
  · intro after holds
    exact attempts_closeContext rnp [] holds fun _ closes => closes
  refine attempts_call (ends_importKeys rnp holds (by simp) (by simp) fun answer s3 holds => ?_)
  cases answer with
  | none => exact attempts_closeContext rnp [(keyInput, .input)] holds fun _ closes => closes
  | some _ =>
  refine attempts_call (ends_destroy rnp holds rfl fun s4 holds => ?_)
  refine attempts_call (ends_inputFromMemory rnp holds ?_ fun dataInput s5 holds => ?_)
  · intro after holds
    exact attempts_closeContext rnp [] holds fun _ closes => closes
  refine attempts_call (ends_outputToMemory rnp holds ?_ fun sigOutput s6 holds => ?_)
  · intro after holds
    exact attempts_closeContext rnp [(dataInput, .input)] holds fun _ closes => closes
  refine attempts_call (ends_opSignDetachedCreate rnp holds (by simp) (by simp) (by simp) ?_
    fun signOp s7 holds => ?_)
  · intro after holds
    exact attempts_closeContext rnp [(sigOutput, .output), (dataInput, .input)] holds
      fun _ closes => closes
  refine attempts_call (ends_identifierIteratorCreate rnp holds (by simp) ?_ fun it s8 holds => ?_)
  · intro after holds
    exact attempts_closeOp rnp holds fun _ closes => closes
  refine attempts_call (ends_identifierIteratorNext rnp holds (.head _) (by simp)
    fun grip s9 holds => ?_)
  cases grip with
  | none =>
      refine attempts_bind (attempts_pure ?_)
      refine attempts_call (ends_destroy rnp holds rfl fun s10 holds => ?_)
      exact attempts_closeOp rnp holds fun _ closes => closes
  | some grip =>
  refine attempts_call (ends_locateKey rnp holds (by simp) ?_ fun key s10 holds => ?_)
  · intro after holds
    refine attempts_call (ends_destroy rnp holds rfl fun s10 holds => ?_)
    exact attempts_closeOp rnp holds fun _ closes => closes
  refine attempts_bind (attempts_pure ?_)
  -- the iterator goes while the key, acquired after it, stays
  refine attempts_call (ends_destroy rnp holds.swap rfl fun s11 holds => ?_)
  refine attempts_call (ends_opSignAddSignature rnp holds (.tail _ (.head _)) (.head _)
    (by simp) fun answer s12 holds => ?_)
  cases answer with
  | none => exact attempts_closeKey rnp holds fun _ closes => closes
  | some _ =>
  refine attempts_call (ends_opSignExecute rnp holds (.tail _ (.head _)) (by simp) (by simp)
    (by simp) fun answer s13 holds => ?_)
  cases answer with
  | none => exact attempts_closeKey rnp holds fun _ closes => closes
  | some _ =>
  refine attempts_call (ends_outputMemoryGetBuf rnp holds (by simp) fun answer s14 holds => ?_)
  cases answer with
  | none => exact attempts_closeKey rnp holds fun _ closes => closes
  | some signature => exact attempts_closeKey rnp holds fun _ closes => closes

theorem IdentificationToken.generateQRCodeWithTimestamp_closes (token : IdentificationToken)
    (times : GenerationTimes) (holds : start.Holds state held) :
    Ends (token.generateQRCodeWithTimestamp rnp lib times) state fun _ after =>
      Closes start held state after := by
  have signing : Attempts (token.tokenData rnp lib times.clock) state
      (fun _ after => Closes start held state after) (fun _ after => Closes start held state after) :=
    attempts_bind (signDetached_closes rnp signingErrors token.privateKey
      (dataToSign token.publicKey times.clock) holds)
  refine ends_bind (Ends.mono signing fun outcome after closes => ?_)
  cases outcome with
  | ok tokenText => exact closes
  | error message => exact closes

theorem BookingReference.showQRCode_closes (page : BookingReference) (ticket : TicketInfo) (now : Int64)
    (holds : start.Holds state held) :
    Closes start held state ((page.showQRCode rnp lib ticket now).run state).2 := by
  have unused : Closes start held state state := ⟨holds, Or.inl rfl⟩
  have tried : Attempts (page.ticketData rnp lib ticket now) state
      (fun _ after => Closes start held state after) (fun _ after => Closes start held state after) := by
    simp only [ticketData]
    cases page.companyInfo with
    | none => exact unused
    | some companyInfo =>
    by_cases valid : companyInfo.isValid = true
    · by_cases unsigned : ticket.signedData = []
      · simp only [valid, unsigned]
        exact attempts_bind (signDetached_closes rnp signingErrors companyInfo.privateKey
          (dataToSign ticket (signingTime ticket now)) holds)
      · simp only [valid, List.isEmpty_iff, unsigned]
        exact unused
    · simp only [valid]
      exact unused
  rw [showQRCode_run]
  simp only [Attempts, Ends] at tried
  split at tried
  · exact tried
  · exact tried

end

theorem handles_released :
    (∀ (token : IdentificationToken) (times : GenerationTimes) (state : RnpState ρ),
      ReleasesAll state ((token.generateQRCodeWithTimestamp rnp lib times).run state).2) ∧
    (∀ (page : BookingReference) (ticket : TicketInfo) (now : Int64) (state : RnpState ρ),
      ReleasesAll state ((page.showQRCode rnp lib ticket now).run state).2) ∧
    (∀ (publicKey : QString) (timestamp : Int64) (signature : QString) (state : RnpState ρ),
      let outcome := (TicketOwnership.verifyPITSignature rnp publicKey timestamp signature).run state
      ReleasesAll state outcome.2 ∧
      (outcome.1 = true → rnp.accepts state.draws state.calls (toUtf8 publicKey)
        (toUtf8 (publicKey ++ number timestamp)) (fromHex (toUtf8 signature)) = true)) ∧
    (∀ (userPublicKey bookingRef : QString) (timestamp : Int64) (signature companyPublicKey : QString)
      (state : RnpState ρ),
      let outcome := (TicketOwnership.verifyTicketSignature rnp userPublicKey bookingRef timestamp
        signature companyPublicKey).run state
      ReleasesAll state outcome.2 ∧
      (outcome.1 = true → rnp.accepts state.draws state.calls (toUtf8 companyPublicKey)
        (toUtf8 (userPublicKey ++ bookingRef ++ number timestamp)) (fromHex (toUtf8 signature)) = true)) := by
  have accepted {publicKey data signature : QString} {state : RnpState ρ}
      (valid : ((verifyDetached rnp publicKey data signature).run state).1 = true) :
      rnp.accepts state.draws state.calls (toUtf8 publicKey) (toUtf8 data) (fromHex (toUtf8 signature)) =
        true := by
    obtain ⟨result, after, ran, meaning, _⟩ := verifyDetached_cases rnp publicKey data signature state
    rw [StateT.run, ran] at valid
    exact (meaning.mp valid).2.2
  have checked (publicKey data signature : QString) (state : RnpState ρ) :
      ReleasesAll state ((verifyDetached rnp publicKey data signature).run state).2 :=
    Closes.releasesAll (verifyDetached_closes rnp publicKey data signature (RnpState.Holds.refl state))
  refine ⟨?_, ?_, ?_, ?_⟩
  · intro token times state
    exact Closes.releasesAll
      (token.generateQRCodeWithTimestamp_closes rnp lib times (RnpState.Holds.refl state))
  · intro page ticket now state
    exact (page.showQRCode_closes rnp lib ticket now (RnpState.Holds.refl state)).releasesAll
  · intro publicKey timestamp signature state
    exact ⟨checked publicKey _ signature state, accepted⟩
  · intro userPublicKey bookingRef timestamp signature companyPublicKey state
    exact ⟨checked companyPublicKey _ signature state, accepted⟩

end SbbTicketing
