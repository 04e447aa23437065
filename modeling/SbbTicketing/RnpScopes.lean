import SbbTicketing.HandleLedger
import SbbTicketing.Outcomes
import SbbTicketing.RnpCore

/-! What each RNP call does to the handles held, whatever RNP answers: a call that creates
something adds one handle or none, a destroy call takes the handle away, and a call on handles
that are held and of the right shape is no misuse. -/

namespace SbbTicketing

open Qt Outcomes

/-- An object without its contents: its kind and the handles it refers to. -/
inductive RnpShape
  | ffi | input | output
  | signOp (ffi input output : Handle)
  | verifyOp (ffi data signature : Handle)
  | iterator (ffi : Handle)
  | key (ffi : Handle)
  | buffer

def RnpObject.shape : RnpObject → RnpShape
  | .ffi _ => .ffi
  | .input _ => .input
  | .output _ => .output
  | .signOp context source target _ => .signOp context source target
  | .verifyOp context message detached => .verifyOp context message detached
  | .iterator context => .iterator context
  | .key context _ => .key context
  | .buffer => .buffer

def RnpShape.kind : RnpShape → HandleKind
  | .ffi => .ffi
  | .input => .input
  | .output => .output
  | .signOp .. => .signOp
  | .verifyOp .. => .verifyOp
  | .iterator _ => .iterator
  | .key _ => .key
  | .buffer => .buffer

theorem RnpObject.kind_shape (object : RnpObject) : object.shape.kind = object.kind := by
  cases object <;> rfl

variable {ρ : Type} (rnp : Rnp ρ)

namespace RnpState

theorem keyring?_acquired (state : RnpState ρ) (keyring : Keyring) :
    (state.acquired (.ffi keyring)).keyring? state.store.next = some keyring := by
  simp [keyring?, acquired]

/-- The handles acquired since `start` and still held, and no handle misused in between. -/
structure Holds (start now : RnpState ρ) (held : List (Handle × RnpShape)) : Prop where
  holding : HandleStore.Holding RnpObject.shape start.store now.store held
  unfaulted : now.faulted = start.faulted

namespace Holds

variable {start now : RnpState ρ} {held : List (Handle × RnpShape)} {handle : Handle}

theorem refl (start : RnpState ρ) : Holds start start [] := ⟨HandleStore.Holding.refl _, rfl⟩

theorem perm {held' : List (Handle × RnpShape)} (holds : Holds start now held)
    (same : held.Perm held') : Holds start now held' :=
  ⟨holds.holding.perm same, holds.unfaulted⟩

theorem swap {first second : Handle × RnpShape}
    (holds : Holds start now (first :: second :: held)) : Holds start now (second :: first :: held) :=
  holds.perm (.swap second first held)

theorem answered (holds : Holds start now held) (answer : Option QByteArray) :
    Holds start (now.answered answer) held := ⟨holds.holding, holds.unfaulted⟩

theorem acquired (holds : Holds start now held) (object : RnpObject) :
    Holds start (now.acquired object) ((now.store.next, object.shape) :: held) :=
  ⟨holds.holding.acquire object, holds.unfaulted⟩

theorem updated {shape : RnpShape} {object : RnpObject} (holds : Holds start now held)
    (member : (handle, shape) ∈ held) (same : object.shape = shape) :
    Holds start (now.updated handle object) held :=
  ⟨holds.holding.update member same, holds.unfaulted⟩

theorem object {shape : RnpShape} (holds : Holds start now held) (member : (handle, shape) ∈ held) :
    ∃ object, now.store.objects handle = some object ∧ object.shape = shape :=
  Option.map_eq_some_iff.mp (holds.holding.shapes _ member)

theorem keyring (holds : Holds start now held) (member : (handle, .ffi) ∈ held) :
    ∃ keyring, now.keyring? handle = some keyring := by
  obtain ⟨object, found, shape⟩ := holds.object member
  cases object with
  | ffi keyring => exact ⟨keyring, by simp only [keyring?, found]⟩
  | _ => cases shape

theorem inputData (holds : Holds start now held) (member : (handle, .input) ∈ held) :
    ∃ data, now.inputData? handle = some data := by
  obtain ⟨object, found, shape⟩ := holds.object member
  cases object with
  | input data => exact ⟨data, by simp only [inputData?, found]⟩
  | _ => cases shape

theorem outputData (holds : Holds start now held) (member : (handle, .output) ∈ held) :
    ∃ data, now.outputData? handle = some data := by
  obtain ⟨object, found, shape⟩ := holds.object member
  cases object with
  | output data => exact ⟨data, by simp only [outputData?, found]⟩
  | _ => cases shape

theorem signOp {context source target : Handle} (holds : Holds start now held)
    (member : (handle, .signOp context source target) ∈ held) :
    ∃ signers, now.store.objects handle = some (.signOp context source target signers) := by
  obtain ⟨object, found, shape⟩ := holds.object member
  cases object with
  | signOp _ _ _ signers =>
      cases shape
      exact ⟨signers, found⟩
  | _ => cases shape

theorem verifyOp {context message detached : Handle} (holds : Holds start now held)
    (member : (handle, .verifyOp context message detached) ∈ held) :
    now.store.objects handle = some (.verifyOp context message detached) := by
  obtain ⟨object, found, shape⟩ := holds.object member
  cases object with
  | verifyOp _ _ _ =>
      cases shape
      exact found
  | _ => cases shape

theorem iterator {context : Handle} (holds : Holds start now held)
    (member : (handle, .iterator context) ∈ held) :
    now.store.objects handle = some (.iterator context) := by
  obtain ⟨object, found, shape⟩ := holds.object member
  cases object with
  | iterator _ =>
      cases shape
      exact found
  | _ => cases shape

theorem key {context : Handle} (holds : Holds start now held) (member : (handle, .key context) ∈ held) :
    ∃ identity, now.store.objects handle = some (.key context identity) := by
  obtain ⟨object, found, shape⟩ := holds.object member
  cases object with
  | key _ identity =>
      cases shape
      exact ⟨identity, found⟩
  | _ => cases shape

end Holds

end RnpState

section

variable {start state : RnpState ρ} {held : List (Handle × RnpShape)}
  {ffi input output op key it data signature : Handle}

theorem ends_ask_eq {post : Option QByteArray → RnpState ρ → Prop} {request : Request}
    (met : ∀ answer, rnp.reply (state.draws state.calls) request = answer →
      post answer (state.answered answer)) :
    Ends (ask rnp request) state post := met _ rfl

theorem ends_ask {post : Option QByteArray → RnpState ρ → Prop} (request : Request)
    (holds : start.Holds state held)
    (next : ∀ answer after, start.Holds after held → post answer after) :
    Ends (ask rnp request) state post :=
  ends_ask_eq rnp fun answer _ => next answer _ (holds.answered answer)

theorem ends_create_eq {post : Option Handle → RnpState ρ → Prop} {request : Request}
    {object : QByteArray → RnpObject}
    (failed : rnp.reply (state.draws state.calls) request = none → post none (state.answered none))
    (created : ∀ payload, rnp.reply (state.draws state.calls) request = some payload →
      post (some state.store.next) ((state.answered (some payload)).acquired (object payload))) :
    Ends (create rnp request object) state post := by
  refine ends_bind (ends_ask_eq rnp fun answer answers => ?_)
  cases answer with
  | none => exact failed answers
  | some payload => exact created payload answers

theorem ends_create {post : Option Handle → RnpState ρ → Prop} {request : Request}
    {object : QByteArray → RnpObject} {shape : RnpShape} (shaped : ∀ payload, (object payload).shape = shape)
    (holds : start.Holds state held) (failed : ∀ after, start.Holds after held → post none after)
    (created : ∀ handle after, start.Holds after ((handle, shape) :: held) → post (some handle) after) :
    Ends (create rnp request object) state post := by
  refine ends_create_eq rnp (fun _ => failed _ (holds.answered none)) fun payload _ => ?_
  exact created _ _ (shaped payload ▸ (holds.answered _).acquired (object payload))

theorem ends_inputFromMemory {post : Option Handle → RnpState ρ → Prop} {bytes : QByteArray}
    (holds : start.Holds state held) (failed : ∀ after, start.Holds after held → post none after)
    (created : ∀ input after, start.Holds after ((input, .input) :: held) → post (some input) after) :
    Ends (inputFromMemory rnp bytes) state post :=
  ends_create rnp (fun _ => rfl) holds failed created

theorem ends_outputToMemory {post : Option Handle → RnpState ρ → Prop} (holds : start.Holds state held)
    (failed : ∀ after, start.Holds after held → post none after)
    (created : ∀ output after, start.Holds after ((output, .output) :: held) → post (some output) after) :
    Ends (outputToMemory rnp) state post :=
  ends_create rnp (fun _ => rfl) holds failed created

theorem ends_importKeys {post : Option Unit → RnpState ρ → Prop} {flags : KeyFlags}
    (holds : start.Holds state held) (ffiHeld : (ffi, .ffi) ∈ held) (inputHeld : (input, .input) ∈ held)
    (next : ∀ answer after, start.Holds after held → post answer after) :
    Ends (importKeys rnp ffi input flags) state post := by
  obtain ⟨keyring, ring⟩ := holds.keyring ffiHeld
  obtain ⟨bytes, read⟩ := holds.inputData inputHeld
  refine ends_get ?_
  simp only [ring, read]
  refine ends_bind (ends_ask rnp _ holds fun answer after holds => ?_)
  cases answer with
  | none => exact next none after holds
  | some _ => exact next _ _ (holds.updated ffiHeld rfl)

theorem ends_opSignDetachedCreate {post : Option Handle → RnpState ρ → Prop}
    (holds : start.Holds state held) (ffiHeld : (ffi, .ffi) ∈ held) (inputHeld : (input, .input) ∈ held)
    (outputHeld : (output, .output) ∈ held) (failed : ∀ after, start.Holds after held → post none after)
    (created : ∀ op after, start.Holds after ((op, .signOp ffi input output) :: held) →
      post (some op) after) :
    Ends (opSignDetachedCreate rnp ffi input output) state post := by
  obtain ⟨keyring, ring⟩ := holds.keyring ffiHeld
  obtain ⟨bytes, read⟩ := holds.inputData inputHeld
  obtain ⟨buffer, written⟩ := holds.outputData outputHeld
  refine ends_get ?_
  simp only [ring, read, written]
  exact ends_create rnp (fun _ => rfl) holds failed created

theorem ends_identifierIteratorCreate {post : Option Handle → RnpState ρ → Prop}
    (holds : start.Holds state held) (ffiHeld : (ffi, .ffi) ∈ held)
    (failed : ∀ after, start.Holds after held → post none after)
    (created : ∀ it after, start.Holds after ((it, .iterator ffi) :: held) → post (some it) after) :
    Ends (identifierIteratorCreate rnp ffi) state post := by
  obtain ⟨keyring, ring⟩ := holds.keyring ffiHeld
  refine ends_get ?_
  simp only [ring]
  exact ends_create rnp (fun _ => rfl) holds failed created

theorem ends_identifierIteratorNext {post : Option QByteArray → RnpState ρ → Prop}
    (holds : start.Holds state held) (itHeld : (it, .iterator ffi) ∈ held) (ffiHeld : (ffi, .ffi) ∈ held)
    (next : ∀ answer after, start.Holds after held → post answer after) :
    Ends (identifierIteratorNext rnp it) state post := by
  obtain ⟨keyring, ring⟩ := holds.keyring ffiHeld
  have found := holds.iterator itHeld
  refine ends_get ?_
  simp only [found, ring]
  exact ends_ask rnp _ holds next

theorem ends_locateKey {post : Option Handle → RnpState ρ → Prop} {identifierType : QString}
    {identifier : QByteArray} (holds : start.Holds state held) (ffiHeld : (ffi, .ffi) ∈ held)
    (failed : ∀ after, start.Holds after held → post none after)
    (created : ∀ key after, start.Holds after ((key, .key ffi) :: held) → post (some key) after) :
    Ends (locateKey rnp ffi identifierType identifier) state post := by
  obtain ⟨keyring, ring⟩ := holds.keyring ffiHeld
  refine ends_get ?_
  simp only [ring]
  exact ends_create rnp (fun _ => rfl) holds failed created

theorem ends_opSignAddSignature {post : Option Unit → RnpState ρ → Prop} {context : Handle}
    (holds : start.Holds state held) (opHeld : (op, .signOp ffi input output) ∈ held)
    (keyHeld : (key, .key context) ∈ held) (ffiHeld : (ffi, .ffi) ∈ held)
    (next : ∀ answer after, start.Holds after held → post answer after) :
    Ends (opSignAddSignature rnp op key) state post := by
  obtain ⟨signers, found⟩ := holds.signOp opHeld
  obtain ⟨signer, located⟩ := holds.key keyHeld
  obtain ⟨keyring, ring⟩ := holds.keyring ffiHeld
  refine ends_get ?_
  simp only [found, located, ring]
  refine ends_bind (ends_ask rnp _ holds fun answer after holds => ?_)
  cases answer with
  | none => exact next none after holds
  | some _ => exact next _ _ (holds.updated opHeld rfl)

theorem ends_opSignExecute {post : Option Unit → RnpState ρ → Prop} (holds : start.Holds state held)
    (opHeld : (op, .signOp ffi input output) ∈ held) (ffiHeld : (ffi, .ffi) ∈ held)
    (inputHeld : (input, .input) ∈ held) (outputHeld : (output, .output) ∈ held)
    (next : ∀ answer after, start.Holds after held → post answer after) :
    Ends (opSignExecute rnp op) state post := by
  obtain ⟨signers, found⟩ := holds.signOp opHeld
  obtain ⟨keyring, ring⟩ := holds.keyring ffiHeld
  obtain ⟨bytes, read⟩ := holds.inputData inputHeld
  obtain ⟨buffer, written⟩ := holds.outputData outputHeld
  refine ends_get ?_
  simp only [found, ring, read, written]
  refine ends_bind (ends_ask rnp _ holds fun answer after holds => ?_)
  cases answer with
  | none => exact next none after holds
  | some _ => exact next _ _ (holds.updated outputHeld rfl)

theorem ends_outputMemoryGetBuf {post : Option QByteArray → RnpState ρ → Prop}
    (holds : start.Holds state held) (outputHeld : (output, .output) ∈ held)
    (next : ∀ answer after, start.Holds after held → post answer after) :
    Ends (outputMemoryGetBuf rnp output) state post := by
  obtain ⟨buffer, written⟩ := holds.outputData outputHeld
  refine ends_get ?_
  simp only [written]
  refine ends_bind (ends_ask rnp _ holds fun answer after holds => ?_)
  cases answer with
  | none => exact next none after holds
  | some _ => exact next _ _ holds

theorem ends_opVerifyDetachedCreate {post : Option Handle → RnpState ρ → Prop}
    (holds : start.Holds state held) (ffiHeld : (ffi, .ffi) ∈ held) (dataHeld : (data, .input) ∈ held)
    (signatureHeld : (signature, .input) ∈ held)
    (failed : ∀ after, start.Holds after held → post none after)
    (created : ∀ op after, start.Holds after ((op, .verifyOp ffi data signature) :: held) →
      post (some op) after) :
    Ends (opVerifyDetachedCreate rnp ffi data signature) state post := by
  obtain ⟨keyring, ring⟩ := holds.keyring ffiHeld
  obtain ⟨bytes, read⟩ := holds.inputData dataHeld
  obtain ⟨detached, readToo⟩ := holds.inputData signatureHeld
  refine ends_get ?_
  simp only [ring, read, readToo]
  exact ends_create rnp (fun _ => rfl) holds failed created

theorem ends_opVerifyExecute {post : Option Unit → RnpState ρ → Prop} (holds : start.Holds state held)
    (opHeld : (op, .verifyOp ffi data signature) ∈ held) (ffiHeld : (ffi, .ffi) ∈ held)
    (dataHeld : (data, .input) ∈ held) (signatureHeld : (signature, .input) ∈ held)
    (next : ∀ answer after, start.Holds after held → post answer after) :
    Ends (opVerifyExecute rnp op) state post := by
  have found := holds.verifyOp opHeld
  obtain ⟨keyring, ring⟩ := holds.keyring ffiHeld
  obtain ⟨bytes, read⟩ := holds.inputData dataHeld
  obtain ⟨detached, readToo⟩ := holds.inputData signatureHeld
  refine ends_get ?_
  simp only [found, ring, read, readToo]
  refine ends_bind (ends_ask rnp _ holds fun answer after holds => ?_)
  cases answer with
  | none => exact next none after holds
  | some _ => exact next _ _ holds

theorem ends_generateKeyJson {post : Option Handle → RnpState ρ → Prop} {keyring : Keyring}
    {json : QByteArray} (holds : start.Holds state held) (ffiHeld : (ffi, .ffi) ∈ held)
    (ring : state.keyring? ffi = some keyring)
    (failed : ∀ after, rnp.reply (state.draws state.calls) (.generateKeyJson keyring json) = none →
      start.Holds after held → post none after)
    (created : ∀ buffer after, rnp.reply (state.draws state.calls) (.generateKeyJson keyring json) ≠ none →
      start.Holds after ((buffer, .buffer) :: held) → post (some buffer) after) :
    Ends (generateKeyJson rnp ffi json) state post := by
  refine ends_get ?_
  simp only [ring]
  refine ends_bind (ends_ask_eq rnp fun answer answers => ?_)
  cases answer with
  | none => exact failed _ answers (holds.answered none)
  | some material =>
      refine created _ _ (by simp [answers]) ?_
      exact ((holds.answered (some material)).updated ffiHeld rfl).acquired .buffer

theorem ends_keyExport {post : Option Unit → RnpState ρ → Prop} {flags : KeyFlags}
    (holds : start.Holds state held) (keyHeld : (key, .key ffi) ∈ held) (ffiHeld : (ffi, .ffi) ∈ held)
    (outputHeld : (output, .output) ∈ held)
    (next : ∀ answer after, start.Holds after held → post answer after) :
    Ends (keyExport rnp key output flags) state post := by
  obtain ⟨identity, located⟩ := holds.key keyHeld
  obtain ⟨keyring, ring⟩ := holds.keyring ffiHeld
  obtain ⟨buffer, written⟩ := holds.outputData outputHeld
  refine ends_get ?_
  simp only [located, ring, written]
  refine ends_bind (ends_ask rnp _ holds fun answer after holds => ?_)
  cases answer with
  | none => exact next none after holds
  | some _ => exact next _ _ (holds.updated outputHeld rfl)

theorem ends_destroy {post : Unit → RnpState ρ → Prop} {handle : Handle} {shape : RnpShape}
    {kind : HandleKind} (holds : start.Holds state ((handle, shape) :: held))
    (sameKind : shape.kind = kind) (next : ∀ after, start.Holds after held → post () after) :
    Ends (destroy rnp kind handle) state post := by
  obtain ⟨object, found, shaped⟩ := holds.object List.mem_cons_self
  have alive : (state.store.objects handle).map RnpObject.kind = some kind := by
    rw [found, Option.map_some, ← RnpObject.kind_shape, shaped, sameKind]
  change post () (if (state.store.objects handle).map RnpObject.kind = some kind then
    state.released handle else state.misused)
  rw [if_pos alive]
  exact next _ ⟨holds.holding.release, holds.unfaulted⟩

theorem ends_close {α : Type} {last : RnpM ρ α} {post : α → RnpState ρ → Prop}
    (closing : List (Handle × RnpShape)) (holds : start.Holds state (closing ++ held))
    (met : ∀ after, start.Holds after held → Ends last after post) :
    Ends (closing.foldr
      (fun entry (rest : RnpM ρ α) => do destroy rnp entry.2.kind entry.1; rest) last) state post := by
  induction closing generalizing state with
  | nil => exact met state holds
  | cons entry closing ih =>
      exact ends_bind (ends_destroy rnp holds rfl fun after holds => ih holds)

/-- The exit of a conversation that returns or throws: what was acquired last goes first. -/
theorem attempts_close {α : Type} {last : ExceptT QString (RnpM ρ) α} {returns : α → RnpState ρ → Prop}
    {throws : QString → RnpState ρ → Prop} (closing : List (Handle × RnpShape))
    (holds : start.Holds state (closing ++ held))
    (met : ∀ after, start.Holds after held → Attempts last after returns throws) :
    Attempts (closing.foldr
      (fun entry (rest : ExceptT QString (RnpM ρ) α) => do destroy rnp entry.2.kind entry.1; rest) last)
      state returns throws := by
  induction closing generalizing state with
  | nil => exact met state holds
  | cons entry closing ih =>
      exact attempts_call (ends_destroy rnp holds rfl fun after holds => ih holds)

end

end SbbTicketing
