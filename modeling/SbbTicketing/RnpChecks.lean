import SbbTicketing.KeyManagerCore
import SbbTicketing.Outcomes
import SbbTicketing.SignatureCore

/-! What the RNP conversations return and leave behind, whatever RNP answers: one case for
each call that can be the first to fail, and one for success. -/

namespace SbbTicketing

open Qt Outcomes

variable {ρ : Type} (rnp : Rnp ρ)

namespace RnpState

variable (state : RnpState ρ) (answer : Option QByteArray) (handle : Handle) (object : RnpObject)

@[simp] theorem answered_draws : (state.answered answer).draws = state.draws := rfl
@[simp] theorem answered_calls : (state.answered answer).calls = state.calls + 1 := rfl
@[simp] theorem answered_failed :
    (state.answered answer).failed = (state.failed || answer.isNone) := rfl
@[simp] theorem answered_faulted : (state.answered answer).faulted = state.faulted := rfl
@[simp] theorem answered_store : (state.answered answer).store = state.store := rfl

@[simp] theorem acquired_draws : (state.acquired object).draws = state.draws := rfl
@[simp] theorem acquired_calls : (state.acquired object).calls = state.calls := rfl
@[simp] theorem acquired_failed : (state.acquired object).failed = state.failed := rfl
@[simp] theorem acquired_faulted : (state.acquired object).faulted = state.faulted := rfl
@[simp] theorem acquired_store : (state.acquired object).store = state.store.acquire object := rfl

@[simp] theorem updated_draws : (state.updated handle object).draws = state.draws := rfl
@[simp] theorem updated_calls : (state.updated handle object).calls = state.calls := rfl
@[simp] theorem updated_failed : (state.updated handle object).failed = state.failed := rfl
@[simp] theorem updated_faulted : (state.updated handle object).faulted = state.faulted := rfl
@[simp] theorem updated_store :
    (state.updated handle object).store = state.store.update handle object := rfl

@[simp] theorem released_draws : (state.released handle).draws = state.draws := rfl
@[simp] theorem released_calls : (state.released handle).calls = state.calls := rfl
@[simp] theorem released_failed : (state.released handle).failed = state.failed := rfl
@[simp] theorem released_faulted : (state.released handle).faulted = state.faulted := rfl
@[simp] theorem released_store : (state.released handle).store = state.store.release handle := rfl

end RnpState

theorem stateT_pure_eq {σ α : Type} (value : α) :
    (StateT.pure value : StateM σ α) = fun state => (value, state) := rfl

section

attribute [local simp] ask create misuse destroy ffiDestroy inputDestroy outputDestroy opSignDestroy
  opVerifyDestroy identifierIteratorDestroy keyHandleDestroy bufferDestroy ffiCreate inputFromMemory
  outputToMemory importKeys opSignDetachedCreate identifierIteratorCreate identifierIteratorNext
  locateKey opSignAddSignature opSignExecute outputMemoryGetBuf opVerifyDetachedCreate
  opVerifyExecute generateKeyJson keyExport RnpObject.kind RnpState.keyring? RnpState.inputData?
  RnpState.outputData?
  StateT.run bind StateT.bind pure stateT_pure_eq get StateT.get getThe MonadStateOf.get
  modify modifyGet StateT.modifyGet MonadStateOf.modifyGet ExceptT.run ExceptT.bind ExceptT.bindCont
  ExceptT.pure ExceptT.mk ExceptT.lift liftM monadLift MonadLift.monadLift MonadLiftT.monadLift throw throwThe
  MonadExceptOf.throw Functor.map StateT.map Except.toOption Nat.add_assoc

theorem verifyDetached_missing (publicKey data signature : QString) (state : RnpState ρ)
    (missing : publicKey = [] ∨ signature = []) :
    (verifyDetached rnp publicKey data signature).run state = (false, state) := by
  rcases missing with rfl | rfl <;> simp [verifyDetached]

/-- A signature check that is given a key and a signature accepts exactly when every RNP
call succeeds, and then it has made seven calls. -/
theorem verifyDetached_spec (publicKey data signature : QString) (state : RnpState ρ)
    (keyGiven : publicKey ≠ []) (signatureGiven : signature ≠ []) :
    let outcome := (verifyDetached rnp publicKey data signature).run state
    outcome.1 = rnp.accepts state.draws state.calls (toUtf8 publicKey) (toUtf8 data)
        (fromHex (toUtf8 signature)) ∧
      outcome.2.draws = state.draws ∧
      (outcome.1 = true → outcome.2.calls = state.calls + 7) := by
  simp only [verifyDetached, Rnp.accepts]
  generalize toUtf8 publicKey = key
  generalize toUtf8 data = bytes
  generalize fromHex (toUtf8 signature) = sig
  cases created : rnp.reply (state.draws state.calls) .ffiCreate with
  | none => simp [keyGiven, signatureGiven, created]
  | some _ =>
  cases keyRead : rnp.reply (state.draws (state.calls + 1)) (.inputFromMemory key) with
  | none => simp [keyGiven, signatureGiven, created, keyRead]
  | some _ =>
  cases imported : rnp.reply (state.draws (state.calls + 2)) (.importKeys .publicKeys [] key) with
  | none => simp [keyGiven, signatureGiven, created, keyRead, imported]
  | some _ =>
  cases dataRead : rnp.reply (state.draws (state.calls + 3)) (.inputFromMemory bytes) with
  | none => simp [keyGiven, signatureGiven, created, keyRead, imported, dataRead]
  | some _ =>
  cases sigRead : rnp.reply (state.draws (state.calls + 4)) (.inputFromMemory sig) with
  | none => simp [keyGiven, signatureGiven, created, keyRead, imported, dataRead, sigRead]
  | some _ =>
  cases prepared : rnp.reply (state.draws (state.calls + 5))
      (.opVerifyDetachedCreate [.imported key] bytes sig) with
  | none => simp [keyGiven, signatureGiven, created, keyRead, imported, dataRead, sigRead, prepared]
  | some _ =>
  cases executed : rnp.reply (state.draws (state.calls + 6))
      (.opVerifyExecute [.imported key] bytes sig) <;>
    simp [keyGiven, signatureGiven, created, keyRead, imported, dataRead, sigRead, prepared, executed]

/-- A signing conversation returns what the twelve calls produce, and throws exactly when one
of them fails. -/
theorem signDetached_spec (errors : SigningErrors) (privateKey dataToSign : QString)
    (state : RnpState ρ) :
    let outcome := (signDetached rnp errors privateKey dataToSign).run.run state
    let signature := rnp.signature state.draws state.calls (toUtf8 privateKey) (toUtf8 dataToSign)
    outcome.1.toOption = signature ∧ outcome.2.draws = state.draws ∧
      outcome.2.failed = (state.failed || signature.isNone) := by
  simp only [signDetached, Rnp.signature]
  generalize toUtf8 privateKey = key
  generalize toUtf8 dataToSign = bytes
  cases created : rnp.reply (state.draws state.calls) .ffiCreate with
  | none => simp [created]
  | some _ =>
  cases keyRead : rnp.reply (state.draws (state.calls + 1)) (.inputFromMemory key) with
  | none => simp [created, keyRead]
  | some _ =>
  cases imported : rnp.reply (state.draws (state.calls + 2)) (.importKeys .secretKeys [] key) with
  | none => simp [created, keyRead, imported]
  | some _ =>
  cases dataRead : rnp.reply (state.draws (state.calls + 3)) (.inputFromMemory bytes) with
  | none => simp [created, keyRead, imported, dataRead]
  | some _ =>
  cases output : rnp.reply (state.draws (state.calls + 4)) .outputToMemory with
  | none => simp [created, keyRead, imported, dataRead, output]
  | some _ =>
  cases prepared : rnp.reply (state.draws (state.calls + 5))
      (.opSignDetachedCreate [.imported key] bytes) with
  | none => simp [created, keyRead, imported, dataRead, output, prepared]
  | some _ =>
  cases iterated : rnp.reply (state.draws (state.calls + 6))
      (.identifierIteratorCreate [.imported key]) with
  | none => simp [created, keyRead, imported, dataRead, output, prepared, iterated]
  | some _ =>
  cases advanced : rnp.reply (state.draws (state.calls + 7))
      (.identifierIteratorNext [.imported key]) with
  | none => simp [created, keyRead, imported, dataRead, output, prepared, iterated, advanced]
  | some grip =>
  cases located : rnp.reply (state.draws (state.calls + 8))
      (.locateKey [.imported key] (text "grip") grip) with
  | none => simp [created, keyRead, imported, dataRead, output, prepared, iterated, advanced, located]
  | some signer =>
  cases added : rnp.reply (state.draws (state.calls + 9))
      (.opSignAddSignature [.imported key] signer) with
  | none =>
      simp [created, keyRead, imported, dataRead, output, prepared, iterated, advanced, located, added]
  | some _ =>
  cases executed : rnp.reply (state.draws (state.calls + 10))
      (.opSignExecute [.imported key] [signer] bytes) with
  | none =>
      simp [created, keyRead, imported, dataRead, output, prepared, iterated, advanced, located, added,
        executed]
  | some signature =>
  cases copied : rnp.reply (state.draws (state.calls + 11)) (.outputMemoryGetBuf signature) <;>
    simp [created, keyRead, imported, dataRead, output, prepared, iterated, advanced, located, added,
      executed, copied]

theorem PgpKeyManager.new_yields (userId : QByteArray) (state : RnpState ρ) :
    Attempts (PgpKeyManager.new rnp userId) state
      (fun manager after => ∃ opened material,
        rnp.reply (state.draws state.calls) .ffiCreate = some opened ∧
        rnp.reply (state.draws (state.calls + 1))
          (.generateKeyJson [] (cString (keyJson userId))) = some material ∧
        manager.userId = userId ∧ after.draws = state.draws ∧ after.calls = state.calls + 2 ∧
        after.failed = state.failed ∧
        after.store.objects manager.ffi = some (.ffi [.generated material]))
      (fun _ after => after.failed = true) := by
  simp only [Attempts, Ends, PgpKeyManager.new, PgpKeyManager.generateKey]
  cases created : rnp.reply (state.draws state.calls) .ffiCreate with
  | none => simp [created]
  | some opened =>
  cases made : rnp.reply (state.draws (state.calls + 1))
      (.generateKeyJson [] (cString (PgpKeyManager.keyJson userId))) with
  | none => simp [created, made]
  | some material => simp [created, made]

theorem PgpKeyManager.exportArmored_yields (errors : ExportErrors) (flags : KeyFlags)
    (manager : PgpKeyManager) (keyring : Keyring) (state : RnpState ρ)
    (live : state.store.objects manager.ffi = some (.ffi keyring)) :
    Attempts (exportArmored rnp errors flags manager) state
      (fun exported after =>
        rnp.exported state.draws state.calls flags keyring manager.userId = some exported ∧
        after.draws = state.draws ∧ after.calls = state.calls + 4 ∧ after.failed = state.failed ∧
        after.store.objects manager.ffi = some (.ffi keyring))
      (fun _ after => after.failed = true) := by
  have below := HandleStore.lt_next_of_live live
  have notKey := Nat.ne_of_lt below
  have notOutput := Nat.ne_of_lt (Nat.lt_succ_of_lt below)
  simp only [Attempts, Ends, exportArmored, locateUserKey, Rnp.exported]
  cases located : rnp.reply (state.draws state.calls)
      (.locateKey keyring (text "userid") (cString manager.userId)) with
  | none => simp [live, located]
  | some identity =>
  cases output : rnp.reply (state.draws (state.calls + 1)) .outputToMemory with
  | none => simp [live, located, output]
  | some _ =>
  cases written : rnp.reply (state.draws (state.calls + 2)) (.keyExport flags keyring identity) with
  | none => simp [live, notKey, notOutput, located, output, written]
  | some exported =>
  cases copied : rnp.reply (state.draws (state.calls + 3)) (.outputMemoryGetBuf exported) with
  | none => simp [live, notKey, notOutput, located, output, written, copied]
  | some _ => simp [live, notKey, notOutput, located, output, written, copied]

end

theorem verifyDetached_cases (publicKey data signature : QString) (state : RnpState ρ) :
    ∃ accepted after, (verifyDetached rnp publicKey data signature) state = (accepted, after) ∧
      (accepted = true ↔ publicKey ≠ [] ∧ signature ≠ [] ∧
        rnp.accepts state.draws state.calls (toUtf8 publicKey) (toUtf8 data)
          (fromHex (toUtf8 signature)) = true) ∧
      after.draws = state.draws ∧ (accepted = true → after.calls = state.calls + 7) := by
  refine ⟨((verifyDetached rnp publicKey data signature) state).1,
    ((verifyDetached rnp publicKey data signature) state).2, rfl, ?_⟩
  by_cases missing : publicKey = [] ∨ signature = []
  · have ran := verifyDetached_missing rnp publicKey data signature state missing
    simp only [StateT.run] at ran
    rw [ran]
    refine ⟨?_, rfl, by simp⟩
    simp only [Bool.false_eq_true, false_iff]
    rintro ⟨keyGiven, signatureGiven, _⟩
    exact missing.elim keyGiven signatureGiven
  · obtain ⟨keyGiven, signatureGiven⟩ := not_or.mp missing
    have spec := verifyDetached_spec rnp publicKey data signature state keyGiven signatureGiven
    simp only [StateT.run] at spec
    refine ⟨?_, spec.2⟩
    rw [spec.1]
    simp [keyGiven, signatureGiven]

section

variable {α β : Type} {state after : RnpState ρ}

theorem run_bind_ok {action : ExceptT QString (RnpM ρ) α} {next : α → ExceptT QString (RnpM ρ) β}
    {value : α} (done : action.run.run state = (.ok value, after)) :
    (action >>= next).run.run state = (next value).run.run after := by
  simp only [ExceptT.run, StateT.run] at done
  simp [ExceptT.run, StateT.run, bind, ExceptT.bind, ExceptT.mk, StateT.bind, ExceptT.bindCont, done]

theorem run_bind_error {action : ExceptT QString (RnpM ρ) α} {next : α → ExceptT QString (RnpM ρ) β}
    {message : QString} (thrown : action.run.run state = (.error message, after)) :
    (action >>= next).run.run state = (.error message, after) := by
  simp only [ExceptT.run, StateT.run] at thrown
  simp [ExceptT.run, StateT.run, bind, ExceptT.bind, ExceptT.mk, StateT.bind, ExceptT.bindCont,
    thrown, pure, stateT_pure_eq]

end

end SbbTicketing
