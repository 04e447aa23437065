import SbbTicketing.HandleStore
import SbbTicketing.QtCore

/-! The RNP calls the program makes. RNP itself is not in the repository: what it answers
is the parameter `Rnp`, one answer for each call, from the contents of the handles passed
and from what the library draws for the call (entropy, memory pressure, anything else).
The handles are the caller's side and are modelled here: a call that succeeds puts an object
behind a new handle, a destroy call takes it away, and a call on a dead handle or on a
handle of another kind is recorded as a fault. -/

namespace SbbTicketing

open Qt

abbrev Handle := Nat

/-- What a keyring holds: key data that was imported, or a key generated in place. -/
inductive KeyringEntry
  | imported (data : QByteArray)
  | generated (material : QByteArray)
  deriving DecidableEq, Repr

abbrev Keyring := List KeyringEntry

inductive KeyFlags
  | publicKeys
  | secretKeys
  deriving DecidableEq, Repr

/-- A call with the contents of the handles it is given. -/
inductive Request
  | ffiCreate
  | inputFromMemory (data : QByteArray)
  | importKeys (flags : KeyFlags) (keyring : Keyring) (data : QByteArray)
  | outputToMemory
  | opSignDetachedCreate (keyring : Keyring) (data : QByteArray)
  | identifierIteratorCreate (keyring : Keyring)
  | identifierIteratorNext (keyring : Keyring)
  | locateKey (keyring : Keyring) (identifierType : QString) (identifier : QByteArray)
  | opSignAddSignature (keyring : Keyring) (key : QByteArray)
  | opSignExecute (keyring : Keyring) (signers : List QByteArray) (data : QByteArray)
  | outputMemoryGetBuf (data : QByteArray)
  | opVerifyDetachedCreate (keyring : Keyring) (data signature : QByteArray)
  | opVerifyExecute (keyring : Keyring) (data signature : QByteArray)
  | generateKeyJson (keyring : Keyring) (json : QByteArray)
  | keyExport (flags : KeyFlags) (keyring : Keyring) (key : QByteArray)
  deriving DecidableEq, Repr

/-- RNP: `none` is an error code (or a null out-parameter), `some payload` is success with the
bytes the call produces, if it produces any. -/
structure Rnp (ρ : Type) where
  reply : ρ → Request → Option QByteArray

inductive HandleKind
  | ffi | input | output | signOp | verifyOp | iterator | key | buffer
  deriving DecidableEq, Repr

inductive RnpObject
  | ffi (keyring : Keyring)
  | input (data : QByteArray)
  | output (data : QByteArray)
  | signOp (ffi input output : Handle) (signers : List QByteArray)
  | verifyOp (ffi data signature : Handle)
  | iterator (ffi : Handle)
  | key (ffi : Handle) (key : QByteArray)
  | buffer
  deriving DecidableEq, Repr

def RnpObject.kind : RnpObject → HandleKind
  | .ffi _ => .ffi
  | .input _ => .input
  | .output _ => .output
  | .signOp .. => .signOp
  | .verifyOp .. => .verifyOp
  | .iterator _ => .iterator
  | .key .. => .key
  | .buffer => .buffer

/-- The process as RNP sees it: what it will draw for each call, how many calls were made,
whether one of them failed, whether a handle was misused, and the objects alive. -/
structure RnpState (ρ : Type) where
  draws : Nat → ρ
  calls : Nat
  failed : Bool
  faulted : Bool
  store : HandleStore RnpObject

abbrev RnpM (ρ : Type) := StateM (RnpState ρ)

variable {ρ : Type}

namespace RnpState

def answered (state : RnpState ρ) (answer : Option QByteArray) : RnpState ρ :=
  { state with calls := state.calls + 1, failed := state.failed || answer.isNone }

def misused (state : RnpState ρ) : RnpState ρ := { state with faulted := true }

def acquired (state : RnpState ρ) (object : RnpObject) : RnpState ρ :=
  { state with store := state.store.acquire object }

def updated (state : RnpState ρ) (handle : Handle) (object : RnpObject) : RnpState ρ :=
  { state with store := state.store.update handle object }

def released (state : RnpState ρ) (handle : Handle) : RnpState ρ :=
  { state with store := state.store.release handle }

def keyring? (state : RnpState ρ) (ffi : Handle) : Option Keyring :=
  match state.store.objects ffi with
  | some (.ffi keyring) => some keyring
  | _ => none

def inputData? (state : RnpState ρ) (input : Handle) : Option QByteArray :=
  match state.store.objects input with
  | some (.input data) => some data
  | _ => none

def outputData? (state : RnpState ρ) (output : Handle) : Option QByteArray :=
  match state.store.objects output with
  | some (.output data) => some data
  | _ => none

end RnpState

variable (rnp : Rnp ρ)

def ask (request : Request) : RnpM ρ (Option QByteArray) := fun state =>
  let answer := rnp.reply (state.draws state.calls) request
  (answer, state.answered answer)

def create (request : Request) (object : QByteArray → RnpObject) : RnpM ρ (Option Handle) := do
  match ← ask rnp request with
  | none => pure none
  | some payload => fun state => (some state.store.next, state.acquired (object payload))

/-- A call that was given a dead handle: nothing happens but the fault. -/
def misuse : RnpM ρ (Option α) := fun state => (none, state.misused)

def destroy (_rnp : Rnp ρ) (kind : HandleKind) (handle : Handle) : RnpM ρ Unit :=
  modify fun state =>
    if (state.store.objects handle).map RnpObject.kind = some kind then state.released handle
    else state.misused

def ffiDestroy : Handle → RnpM ρ Unit := destroy rnp .ffi
def inputDestroy : Handle → RnpM ρ Unit := destroy rnp .input
def outputDestroy : Handle → RnpM ρ Unit := destroy rnp .output
def opSignDestroy : Handle → RnpM ρ Unit := destroy rnp .signOp
def opVerifyDestroy : Handle → RnpM ρ Unit := destroy rnp .verifyOp
def identifierIteratorDestroy : Handle → RnpM ρ Unit := destroy rnp .iterator
def keyHandleDestroy : Handle → RnpM ρ Unit := destroy rnp .key
def bufferDestroy : Handle → RnpM ρ Unit := destroy rnp .buffer

def ffiCreate : RnpM ρ (Option Handle) := create rnp .ffiCreate fun _ => .ffi []

def inputFromMemory (data : QByteArray) : RnpM ρ (Option Handle) :=
  create rnp (.inputFromMemory data) fun _ => .input data

def outputToMemory : RnpM ρ (Option Handle) := create rnp .outputToMemory fun _ => .output []

def importKeys (ffi input : Handle) (flags : KeyFlags) : RnpM ρ (Option Unit) := do
  let state ← get
  match state.keyring? ffi, state.inputData? input with
  | some keyring, some data =>
      match ← ask rnp (.importKeys flags keyring data) with
      | none => pure none
      | some _ => fun state => (some (), state.updated ffi (.ffi (keyring ++ [.imported data])))
  | _, _ => misuse

def opSignDetachedCreate (ffi input output : Handle) : RnpM ρ (Option Handle) := do
  let state ← get
  match state.keyring? ffi, state.inputData? input, state.outputData? output with
  | some keyring, some data, some _ =>
      create rnp (.opSignDetachedCreate keyring data) fun _ => .signOp ffi input output []
  | _, _, _ => misuse

def identifierIteratorCreate (ffi : Handle) : RnpM ρ (Option Handle) := do
  let state ← get
  match state.keyring? ffi with
  | some keyring => create rnp (.identifierIteratorCreate keyring) fun _ => .iterator ffi
  | none => misuse

/-- The next identifier, `none` on an error code or a null identifier. -/
def identifierIteratorNext (iterator : Handle) : RnpM ρ (Option QByteArray) := do
  let state ← get
  match state.store.objects iterator with
  | some (.iterator ffi) =>
      match state.keyring? ffi with
      | some keyring => ask rnp (.identifierIteratorNext keyring)
      | none => misuse
  | _ => misuse

def locateKey (ffi : Handle) (identifierType : QString) (identifier : QByteArray) :
    RnpM ρ (Option Handle) := do
  let state ← get
  match state.keyring? ffi with
  | some keyring => create rnp (.locateKey keyring identifierType identifier) fun key => .key ffi key
  | none => misuse

def opSignAddSignature (op key : Handle) : RnpM ρ (Option Unit) := do
  let state ← get
  match state.store.objects op, state.store.objects key with
  | some (.signOp ffi input output signers), some (.key _ signer) =>
      match state.keyring? ffi with
      | some keyring =>
          match ← ask rnp (.opSignAddSignature keyring signer) with
          | none => pure none
          | some _ => fun state =>
              (some (), state.updated op (.signOp ffi input output (signers ++ [signer])))
      | none => misuse
  | _, _ => misuse

def opSignExecute (op : Handle) : RnpM ρ (Option Unit) := do
  let state ← get
  match state.store.objects op with
  | some (.signOp ffi input output signers) =>
      match state.keyring? ffi, state.inputData? input, state.outputData? output with
      | some keyring, some data, some _ =>
          match ← ask rnp (.opSignExecute keyring signers data) with
          | none => pure none
          | some signature => fun state => (some (), state.updated output (.output signature))
      | _, _, _ => misuse
  | _ => misuse

def outputMemoryGetBuf (output : Handle) : RnpM ρ (Option QByteArray) := do
  let state ← get
  match state.outputData? output with
  | some data =>
      match ← ask rnp (.outputMemoryGetBuf data) with
      | none => pure none
      | some _ => pure (some data)
  | none => misuse

def opVerifyDetachedCreate (ffi data signature : Handle) : RnpM ρ (Option Handle) := do
  let state ← get
  match state.keyring? ffi, state.inputData? data, state.inputData? signature with
  | some keyring, some dataBytes, some signatureBytes =>
      create rnp (.opVerifyDetachedCreate keyring dataBytes signatureBytes)
        fun _ => .verifyOp ffi data signature
  | _, _, _ => misuse

def opVerifyExecute (op : Handle) : RnpM ρ (Option Unit) := do
  let state ← get
  match state.store.objects op with
  | some (.verifyOp ffi data signature) =>
      match state.keyring? ffi, state.inputData? data, state.inputData? signature with
      | some keyring, some dataBytes, some signatureBytes =>
          match ← ask rnp (.opVerifyExecute keyring dataBytes signatureBytes) with
          | none => pure none
          | some _ => pure (some ())
      | _, _, _ => misuse
  | _ => misuse

def generateKeyJson (ffi : Handle) (json : QByteArray) : RnpM ρ (Option Handle) := do
  let state ← get
  match state.keyring? ffi with
  | some keyring =>
      match ← ask rnp (.generateKeyJson keyring json) with
      | none => pure none
      | some material => fun state =>
          let state := state.updated ffi (.ffi (keyring ++ [.generated material]))
          (some state.store.next, state.acquired .buffer)
  | none => misuse

def keyExport (key output : Handle) (flags : KeyFlags) : RnpM ρ (Option Unit) := do
  let state ← get
  match state.store.objects key, state.outputData? output with
  | some (.key ffi identity), some _ =>
      match state.keyring? ffi with
      | some keyring =>
          match ← ask rnp (.keyExport flags keyring identity) with
          | none => pure none
          | some exported => fun state => (some (), state.updated output (.output exported))
      | none => misuse
  | _, _ => misuse

end SbbTicketing
