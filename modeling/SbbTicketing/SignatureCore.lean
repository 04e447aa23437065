import SbbTicketing.RnpCore

/-! The two RNP conversations of the program, each written twice in the source: a detached
signature with the first key of an imported secret keyring, and the check of a detached
signature under an imported public key. Every exit destroys what is alive at that point. -/

namespace SbbTicketing

open Qt

variable {ρ : Type} (rnp : Rnp ρ)

/-- The texts of the exceptions a signing conversation throws, in the order of its steps. -/
structure SigningErrors where
  ffi : QString
  keyInput : QString
  importKey : QString
  dataInput : QString
  output : QString
  signOp : QString
  iterator : QString
  locateKey : QString
  noKey : QString
  addSigner : QString
  execute : QString
  buffer : QString

def signDetached (errors : SigningErrors) (privateKey dataToSign : QString) :
    ExceptT QString (RnpM ρ) QByteArray := do
  let some ffi ← ffiCreate rnp | throw errors.ffi
  let some keyInput ← inputFromMemory rnp (toUtf8 privateKey)
    | do ffiDestroy rnp ffi; throw errors.keyInput
  let some () ← importKeys rnp ffi keyInput .secretKeys
    | do inputDestroy rnp keyInput; ffiDestroy rnp ffi; throw errors.importKey
  inputDestroy rnp keyInput
  let some dataInput ← inputFromMemory rnp (toUtf8 dataToSign)
    | do ffiDestroy rnp ffi; throw errors.dataInput
  let some sigOutput ← outputToMemory rnp
    | do inputDestroy rnp dataInput; ffiDestroy rnp ffi; throw errors.output
  let some signOp ← opSignDetachedCreate rnp ffi dataInput sigOutput
    | do outputDestroy rnp sigOutput; inputDestroy rnp dataInput; ffiDestroy rnp ffi; throw errors.signOp
  let some it ← identifierIteratorCreate rnp ffi
    | do opSignDestroy rnp signOp; outputDestroy rnp sigOutput; inputDestroy rnp dataInput; ffiDestroy rnp ffi
         throw errors.iterator
  -- no identifier at all leaves the key null, which is noticed only after the iterator is gone
  let located ← match ← identifierIteratorNext rnp it with
    | none => pure none
    | some grip => do
        let some key ← locateKey rnp ffi (text "grip") grip
          | do identifierIteratorDestroy rnp it; opSignDestroy rnp signOp; outputDestroy rnp sigOutput
               inputDestroy rnp dataInput; ffiDestroy rnp ffi; throw errors.locateKey
        pure (some key)
  identifierIteratorDestroy rnp it
  let some key := located
    | do opSignDestroy rnp signOp; outputDestroy rnp sigOutput; inputDestroy rnp dataInput; ffiDestroy rnp ffi
         throw errors.noKey
  let some () ← opSignAddSignature rnp signOp key
    | do keyHandleDestroy rnp key; opSignDestroy rnp signOp; outputDestroy rnp sigOutput
         inputDestroy rnp dataInput; ffiDestroy rnp ffi; throw errors.addSigner
  let some () ← opSignExecute rnp signOp
    | do keyHandleDestroy rnp key; opSignDestroy rnp signOp; outputDestroy rnp sigOutput
         inputDestroy rnp dataInput; ffiDestroy rnp ffi; throw errors.execute
  let some signature ← outputMemoryGetBuf rnp sigOutput
    | do keyHandleDestroy rnp key; opSignDestroy rnp signOp; outputDestroy rnp sigOutput
         inputDestroy rnp dataInput; ffiDestroy rnp ffi; throw errors.buffer
  keyHandleDestroy rnp key
  opSignDestroy rnp signOp
  outputDestroy rnp sigOutput
  inputDestroy rnp dataInput
  ffiDestroy rnp ffi
  return signature

def verifyDetached (publicKey dataToVerify signature : QString) : RnpM ρ Bool := do
  if publicKey.isEmpty || signature.isEmpty then return false
  let some ffi ← ffiCreate rnp | return false
  let some keyInput ← inputFromMemory rnp (toUtf8 publicKey)
    | do ffiDestroy rnp ffi; return false
  let some () ← importKeys rnp ffi keyInput .publicKeys
    | do inputDestroy rnp keyInput; ffiDestroy rnp ffi; return false
  inputDestroy rnp keyInput
  let some dataInput ← inputFromMemory rnp (toUtf8 dataToVerify)
    | do ffiDestroy rnp ffi; return false
  let some sigInput ← inputFromMemory rnp (fromHex (toUtf8 signature))
    | do inputDestroy rnp dataInput; ffiDestroy rnp ffi; return false
  let some verifyOp ← opVerifyDetachedCreate rnp ffi dataInput sigInput
    | do inputDestroy rnp sigInput; inputDestroy rnp dataInput; ffiDestroy rnp ffi; return false
  let result ← opVerifyExecute rnp verifyOp
  opVerifyDestroy rnp verifyOp
  inputDestroy rnp sigInput
  inputDestroy rnp dataInput
  ffiDestroy rnp ffi
  return result.isSome

namespace Rnp

/-- The calls of a signature check numbered from `call` on all succeed: the import of the
key and the verification of the data against the signature. -/
def accepts (draws : Nat → ρ) (call : Nat) (key data signature : QByteArray) : Bool :=
  let keyring := [KeyringEntry.imported key]
  (rnp.reply (draws call) .ffiCreate).isSome &&
  (rnp.reply (draws (call + 1)) (.inputFromMemory key)).isSome &&
  (rnp.reply (draws (call + 2)) (.importKeys .publicKeys [] key)).isSome &&
  (rnp.reply (draws (call + 3)) (.inputFromMemory data)).isSome &&
  (rnp.reply (draws (call + 4)) (.inputFromMemory signature)).isSome &&
  (rnp.reply (draws (call + 5)) (.opVerifyDetachedCreate keyring data signature)).isSome &&
  (rnp.reply (draws (call + 6)) (.opVerifyExecute keyring data signature)).isSome

/-- What the calls of a signing conversation numbered from `call` on produce, if none fails. -/
def signature (draws : Nat → ρ) (call : Nat) (key data : QByteArray) : Option QByteArray := do
  let keyring := [KeyringEntry.imported key]
  let _ ← rnp.reply (draws call) .ffiCreate
  let _ ← rnp.reply (draws (call + 1)) (.inputFromMemory key)
  let _ ← rnp.reply (draws (call + 2)) (.importKeys .secretKeys [] key)
  let _ ← rnp.reply (draws (call + 3)) (.inputFromMemory data)
  let _ ← rnp.reply (draws (call + 4)) .outputToMemory
  let _ ← rnp.reply (draws (call + 5)) (.opSignDetachedCreate keyring data)
  let _ ← rnp.reply (draws (call + 6)) (.identifierIteratorCreate keyring)
  let grip ← rnp.reply (draws (call + 7)) (.identifierIteratorNext keyring)
  let signer ← rnp.reply (draws (call + 8)) (.locateKey keyring (text "grip") grip)
  let _ ← rnp.reply (draws (call + 9)) (.opSignAddSignature keyring signer)
  let signature ← rnp.reply (draws (call + 10)) (.opSignExecute keyring [signer] data)
  let _ ← rnp.reply (draws (call + 11)) (.outputMemoryGetBuf signature)
  return signature

end Rnp

end SbbTicketing
