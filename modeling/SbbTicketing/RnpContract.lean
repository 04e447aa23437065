import SbbTicketing.KeyManagerCore
import SbbTicketing.SignatureCore

/-! What RNP is documented to do with keys and signatures, as assumptions about its replies to the
requests the program sends. The conversations of the program may still fail at any call. A key
is generated under a user id and exported with it, so keys are compared under one user id only. -/

namespace SbbTicketing

open Qt

variable {ρ : Type}

def KeyPair (rnp : Rnp ρ) (lib : QtLibrary) (publicKey privateKey : QString) : Prop :=
  ∃ draws call userId, rnp.keyPair lib draws call userId = some (publicKey, privateKey)

structure HonoursSignatures (rnp : Rnp ρ) (lib : QtLibrary) (verifier : Nat → ρ) : Prop where
  written : ∀ {publicKey privateKey draws call data signature},
    KeyPair rnp lib publicKey privateKey →
    rnp.signature draws call (toUtf8 privateKey) data = some signature → signature ≠ []
  accepted : ∀ {publicKey privateKey draws call data signature},
    KeyPair rnp lib publicKey privateKey →
    rnp.signature draws call (toUtf8 privateKey) data = some signature →
    ∀ check, rnp.accepts verifier check (toUtf8 publicKey) data signature = true

def RejectsForeign (rnp : Rnp ρ) (lib : QtLibrary) (userId : QByteArray) (verifier : Nat → ρ) : Prop :=
  ∀ {made made' call call' keys others draws signing data signature},
    rnp.keyPair lib made call userId = some keys → rnp.keyPair lib made' call' userId = some others →
    others.1 ≠ keys.1 →
    rnp.signature draws signing (toUtf8 keys.2) data = some signature →
    ∀ check, rnp.accepts verifier check (toUtf8 others.1) data signature = false

def Generates (rnp : Rnp ρ) (userId : QByteArray) (drawn : ρ) (material : QByteArray) : Prop :=
  rnp.reply drawn (.generateKeyJson [] (cString (PgpKeyManager.keyJson userId))) = some material

def ExportsPublic (rnp : Rnp ρ) (userId material exported : QByteArray) : Prop :=
  ∃ located drawn identity,
    rnp.reply located (.locateKey [.generated material] (text "userid") (cString userId)) =
      some identity ∧
    rnp.reply drawn (.keyExport .publicKeys [.generated material] identity) = some exported

/-- Under the user id, a generated key shows which randomness was drawn for it, and a public
export shows which key it is of. -/
structure GeneratesFrom {κ : Type} (rnp : Rnp ρ) (lib : QtLibrary) (userId : QByteArray)
    (randomness : ρ → κ) : Prop where
  generated : ∀ {drawn drawn' material material'},
    Generates rnp userId drawn material → Generates rnp userId drawn' material' →
    (material = material' ↔ randomness drawn = randomness drawn')
  exported : ∀ {drawn drawn' material material' exported exported'},
    Generates rnp userId drawn material → Generates rnp userId drawn' material' →
    ExportsPublic rnp userId material exported → ExportsPublic rnp userId material' exported' →
    (exported = exported' ↔ material = material')
  exported_ne_nil : ∀ {drawn material exported},
    Generates rnp userId drawn material → ExportsPublic rnp userId material exported → exported ≠ []
  armored : ∀ {drawn material exported},
    Generates rnp userId drawn material → ExportsPublic rnp userId material exported →
    toUtf8 (lib.fromUtf8 exported) = exported

section

variable {κ : Type} {rnp : Rnp ρ} {lib : QtLibrary} {randomness : ρ → κ} {draws draws' : Nat → ρ}
  {call call' : Nat} {userId : QByteArray} {keys keys' : QString × QString}

theorem publicKey_of_keyPair (made : rnp.keyPair lib draws call userId = some keys) :
    ∃ material exported, Generates rnp userId (draws (call + 1)) material ∧
      ExportsPublic rnp userId material exported ∧ keys.1 = lib.fromUtf8 exported := by
  simp only [Rnp.keyPair, Rnp.exported, Option.bind_eq_bind, Option.bind_eq_some_iff,
    Option.pure_def, Option.some.injEq] at made
  obtain ⟨_, _, material, generated, _, ⟨identity, located, _, _, _, exported, _, _, rfl⟩, _, _, rfl⟩ :=
    made
  exact ⟨material, _, generated, ⟨_, _, identity, located, exported⟩, rfl⟩

theorem publicKey_eq_iff (documented : GeneratesFrom rnp lib userId randomness)
    (made : rnp.keyPair lib draws call userId = some keys)
    (made' : rnp.keyPair lib draws' call' userId = some keys') :
    keys.1 = keys'.1 ↔ randomness (draws (call + 1)) = randomness (draws' (call' + 1)) := by
  obtain ⟨material, exported, generated, exports, shown⟩ := publicKey_of_keyPair made
  obtain ⟨material', exported', generated', exports', shown'⟩ := publicKey_of_keyPair made'
  rw [← documented.generated generated generated',
    ← documented.exported generated generated' exports exports', shown, shown']
  constructor
  · intro same
    rw [← documented.armored generated exports, ← documented.armored generated' exports', same]
  · rintro rfl
    rfl

theorem publicKey_ne_nil (documented : GeneratesFrom rnp lib userId randomness)
    (made : rnp.keyPair lib draws call userId = some keys) : keys.1 ≠ [] := by
  obtain ⟨material, exported, generated, exports, shown⟩ := publicKey_of_keyPair made
  intro empty
  have bytes := documented.armored generated exports
  rw [← shown, empty] at bytes
  exact documented.exported_ne_nil generated exports bytes.symm

end

end SbbTicketing
