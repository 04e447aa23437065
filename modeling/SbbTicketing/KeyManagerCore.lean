import SbbTicketing.RnpCore

/-! Key generation and export, and the two places that use them: the company's keys and
the login page. A `std::string` is its bytes; `c_str` ends it at the first zero byte. -/

namespace SbbTicketing

open Qt

variable {ρ : Type} (rnp : Rnp ρ)

def cString (bytes : QByteArray) : QByteArray := bytes.takeWhile (· ≠ 0)

structure PgpKeyManager where
  ffi : Handle
  userId : QByteArray

namespace PgpKeyManager

def keyJson (userId : QByteArray) : QByteArray :=
  toUtf8 (text "\x7b\"primary\":\x7b\"type\":\"EDDSA\",\"userid\":\"") ++ userId ++
    toUtf8 (text "\",\"usage\":[\"sign\"]\x7d\x7d")

def generateKey (manager : PgpKeyManager) : ExceptT QString (RnpM ρ) Unit := do
  let some genResults ← generateKeyJson rnp manager.ffi (cString (keyJson manager.userId))
    | throw (text "Key generation failed")
  bufferDestroy rnp genResults

/-- The constructor. The destructor does not run when it throws, so a context whose key
generation fails stays alive. -/
def new (userId : QByteArray) : ExceptT QString (RnpM ρ) PgpKeyManager := do
  let some ffi ← ffiCreate rnp | throw (text "Failed to create RNP FFI")
  let manager := { ffi, userId }
  generateKey rnp manager
  return manager

def delete (manager : PgpKeyManager) : RnpM ρ Unit := ffiDestroy rnp manager.ffi

def locateUserKey (manager : PgpKeyManager) : RnpM ρ (Option Handle) :=
  locateKey rnp manager.ffi (text "userid") (cString manager.userId)

structure ExportErrors where
  locate : QString
  output : QString
  keyExport : QString
  buffer : QString

def exportArmored (errors : ExportErrors) (flags : KeyFlags) (manager : PgpKeyManager) :
    ExceptT QString (RnpM ρ) QByteArray := do
  let some key ← locateUserKey rnp manager | throw errors.locate
  let some out ← outputToMemory rnp
    | do keyHandleDestroy rnp key; throw errors.output
  let some () ← keyExport rnp key out flags
    | do outputDestroy rnp out; keyHandleDestroy rnp key; throw errors.keyExport
  let some exported ← outputMemoryGetBuf rnp out
    | do outputDestroy rnp out; keyHandleDestroy rnp key; throw errors.buffer
  outputDestroy rnp out
  keyHandleDestroy rnp key
  return exported

def publicExportErrors : ExportErrors where
  locate := text "Failed to locate user key for public export"
  output := text "Failed to create public key output"
  keyExport := text "Public key export failed"
  buffer := text "Failed to get public key buffer"

def secretExportErrors : ExportErrors where
  locate := text "Failed to locate user key for secret export"
  output := text "Failed to create secret key output"
  keyExport := text "Secret key export failed"
  buffer := text "Failed to get secret key buffer"

def exportPublicKeyArmored : PgpKeyManager → ExceptT QString (RnpM ρ) QByteArray :=
  exportArmored rnp publicExportErrors .publicKeys

def exportSecretKeyArmored : PgpKeyManager → ExceptT QString (RnpM ρ) QByteArray :=
  exportArmored rnp secretExportErrors .secretKeys

def signData (manager : PgpKeyManager) (data : QByteArray) : ExceptT QString (RnpM ρ) QByteArray := do
  let some key ← locateUserKey rnp manager | throw (text "Failed to locate user key for signing")
  let some input ← inputFromMemory rnp data
    | do keyHandleDestroy rnp key; throw (text "Failed to create input for signing")
  let some output ← outputToMemory rnp
    | do inputDestroy rnp input; keyHandleDestroy rnp key
         throw (text "Failed to create output for signature")
  let some signOp ← opSignDetachedCreate rnp manager.ffi input output
    | do outputDestroy rnp output; inputDestroy rnp input; keyHandleDestroy rnp key
         throw (text "Failed to create signing operation")
  let some () ← opSignAddSignature rnp signOp key
    | do opSignDestroy rnp signOp; outputDestroy rnp output; inputDestroy rnp input
         keyHandleDestroy rnp key; throw (text "Failed to add signer")
  let some () ← opSignExecute rnp signOp
    | do opSignDestroy rnp signOp; outputDestroy rnp output; inputDestroy rnp input
         keyHandleDestroy rnp key; throw (text "Signing operation failed")
  let some signature ← outputMemoryGetBuf rnp output
    | do opSignDestroy rnp signOp; outputDestroy rnp output; inputDestroy rnp input
         keyHandleDestroy rnp key; throw (text "Failed to get signature buffer")
  opSignDestroy rnp signOp
  outputDestroy rnp output
  inputDestroy rnp input
  keyHandleDestroy rnp key
  return signature

def exportKeys (lib : QtLibrary) (manager : PgpKeyManager) :
    ExceptT QString (RnpM ρ) (QString × QString) := do
  let publicKey ← exportPublicKeyArmored rnp manager
  let privateKey ← exportSecretKeyArmored rnp manager
  return (lib.fromUtf8 publicKey, lib.fromUtf8 privateKey)

end PgpKeyManager

def withKeyManager {α : Type} (userId : QByteArray)
    (scope : PgpKeyManager → ExceptT QString (RnpM ρ) α) : ExceptT QString (RnpM ρ) α := do
  let manager ← PgpKeyManager.new rnp userId
  let outcome ← ExceptT.lift (scope manager).run
  manager.delete rnp
  match outcome with
  | .ok value => return value
  | .error message => throw message

def deterministicId (lib : QtLibrary) (email secret : QString) : QString :=
  email ++ text "_" ++ left (toHex (lib.sha256 (toUtf8 (email ++ secret)))) 16

structure CompanyInfo where
  publicKey : QString
  privateKey : QString
  deriving DecidableEq, Repr

namespace CompanyInfo

def companyEmail : QString := text "sbbsupersecretadmin@gmail.com"

def companySeed : QString := text "SBB_COMPANY_MASTER_KEY_2025"

def isValid (info : CompanyInfo) : Bool := !info.publicKey.isEmpty && !info.privateKey.isEmpty

def generateKeys (lib : QtLibrary) : RnpM ρ CompanyInfo := do
  let userId := toUtf8 (deterministicId lib companyEmail companySeed)
  match ← (withKeyManager rnp userId (PgpKeyManager.exportKeys rnp lib)).run with
  | .ok (publicKey, privateKey) => return { publicKey, privateKey }
  | .error _ => return { publicKey := [], privateKey := [] }

end CompanyInfo

structure AccountInfo where
  email : QString
  publicKey : QString
  privateKey : QString
  deriving DecidableEq, Repr

structure LoginPage where
  email : QString
  password : QString
  buttonEnabled : Bool
  buttonText : QString
  statusVisible : Bool
  statusText : QString
  statusColor : QString
  deriving DecidableEq, Repr

namespace LoginPage

def new : LoginPage where
  email := []
  password := []
  buttonEnabled := true
  buttonText := text "Login"
  statusVisible := false
  statusText := []
  statusColor := []

def showStatus (page : LoginPage) (message : QString) (isError : Bool) : LoginPage :=
  if message.isEmpty then { page with statusVisible := false }
  else
    { page with
      statusVisible := true
      statusText := message
      statusColor := if isError then text "#d32f2f" else text "#388e3c" }

def inputError (email password : QString) : Option QString :=
  if email.isEmpty then some (text "Please enter your email")
  else if password.isEmpty then some (text "Please enter your password")
  else if '@' ∉ email then some (text "Please enter a valid email address")
  else none

/-- `loginSuccessful` is the slot connected to the signal; it runs inside the `try` block,
while the key manager is still alive. -/
def handleLogin {α : Type} (lib : QtLibrary) (page : LoginPage)
    (loginSuccessful : AccountInfo → RnpM ρ α) : RnpM ρ (LoginPage × Option α) := do
  let email := trimmed page.email
  let password := page.password
  match inputError email password with
  | some message => return (page.showStatus message true, none)
  | none =>
      let page := { page with buttonEnabled := false, buttonText := text "Generating Keys..." }
      let page := page.showStatus (text "Generating PGP keys, please wait...") false
      let userId := toUtf8 (deterministicId lib email password)
      let outcome ← (withKeyManager rnp userId fun manager => do
        let (publicKey, privateKey) ← PgpKeyManager.exportKeys rnp lib manager
        loginSuccessful { email, publicKey, privateKey }).run
      match outcome with
      | .ok handled =>
          return ({ page with password := [] }.showStatus (text "Login successful!") false, some handled)
      | .error message =>
          let page := page.showStatus (arg (text "Key generation failed: %1") message) true
          return ({ page with buttonEnabled := true, buttonText := text "Login" }, none)

end LoginPage

namespace Rnp

/-- What the four calls of an export numbered from `call` on produce, if none fails. -/
def exported (draws : Nat → ρ) (call : Nat) (flags : KeyFlags) (keyring : Keyring)
    (userId : QByteArray) : Option QByteArray := do
  let identity ← rnp.reply (draws call) (.locateKey keyring (text "userid") (cString userId))
  let _ ← rnp.reply (draws (call + 1)) .outputToMemory
  let exported ← rnp.reply (draws (call + 2)) (.keyExport flags keyring identity)
  let _ ← rnp.reply (draws (call + 3)) (.outputMemoryGetBuf exported)
  return exported

/-- The keys a key manager constructed at call `call` exports, if no call fails. -/
def keyPair (lib : QtLibrary) (draws : Nat → ρ) (call : Nat) (userId : QByteArray) :
    Option (QString × QString) := do
  let _ ← rnp.reply (draws call) .ffiCreate
  let json := cString (PgpKeyManager.keyJson userId)
  let material ← rnp.reply (draws (call + 1)) (.generateKeyJson [] json)
  let keyring := [KeyringEntry.generated material]
  let publicKey ← rnp.exported draws (call + 2) .publicKeys keyring userId
  let privateKey ← rnp.exported draws (call + 6) .secretKeys keyring userId
  return (lib.fromUtf8 publicKey, lib.fromUtf8 privateKey)

end Rnp

end SbbTicketing
