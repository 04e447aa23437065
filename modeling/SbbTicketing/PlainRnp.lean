import SbbTicketing.RnpContract

/-! An RNP that behaves as documented and is simple enough to compute with: the number drawn
for a key is the length of its name, and a signature is that name in front of the data. -/

namespace SbbTicketing

open Qt

namespace PlainRnp

def keyName (seed : Nat) : QByteArray := List.replicate (seed + 1) 65

def publicText (name : QByteArray) : QByteArray := toUtf8 (text "P") ++ name

def secretText (name : QByteArray) : QByteArray := toUtf8 (text "S") ++ name

def contents : KeyringEntry → QByteArray
  | .imported data => data
  | .generated material => material

def reply (seed : Nat) : Request → Option QByteArray
  | .identifierIteratorNext keyring => keyring.head?.map contents
  | .locateKey keyring _ _ => keyring.head?.map contents
  | .generateKeyJson _ _ => some (keyName seed)
  | .keyExport .publicKeys keyring _ => keyring.head?.map fun key => publicText (contents key)
  | .keyExport .secretKeys keyring _ => keyring.head?.map fun key => secretText (contents key)
  | .opSignExecute _ signers data =>
      match signers with
      | [secret] => some (secret.tail ++ data)
      | _ => none
  | .opVerifyExecute keyring data signature =>
      match keyring with
      | [.imported publicKey] => if publicKey.tail ++ data = signature then some [] else none
      | _ => none
  | _ => some []

def rnp : Rnp Nat := { reply }

def library : QtLibrary := asciiLibrary [
  (text "sbbsupersecretadmin@gmail.comSBB_COMPANY_MASTER_KEY_2025",
    text "f6b9900791566e8e26436a0171a72f9b7e5cec29c52fd2c964fa66d9d14bd53c"),
  (text "a@b.chpw", text "1dba2ee4ba81d9b5aa27b951d75c4da30c2e51f814e967a6c4d6419ea5fdcbe6"),
  (text "PAA", text "3e8fed5232328f577afbf339a269a3820293cbd8e4c0de5bc57f9d22c6aa215e"),
  (text "PAAAAAAAAAAAA", text "976330f3890c23229876e6b5f9b8f115699449a40d6c93b3569646693ea0d90e"),
  (text "PAAAAAAAAAAAAA", text "b7fe973a91689f2d59af0cbe874ec35f9034dca0c04f57d6c7c5df61ef246987")]

def initialState (offset : Nat) : RnpState Nat where
  draws := fun call => call + offset
  calls := 0
  failed := false
  faulted := false
  store := HandleStore.empty

theorem signature_eq (draws : Nat → Nat) (call : Nat) (key data : QByteArray) :
    rnp.signature draws call key data = some (key.tail ++ data) := rfl

theorem accepts_iff (draws : Nat → Nat) (call : Nat) (key data signature : QByteArray) :
    rnp.accepts draws call key data signature = true ↔ key.tail ++ data = signature := by
  by_cases same : key.tail ++ data = signature
  · simp [Rnp.accepts, rnp, reply, same]
  · simp [Rnp.accepts, rnp, reply, same]

theorem keyName_injective {seed seed' : Nat} : keyName seed = keyName seed' ↔ seed = seed' := by
  constructor
  · intro same
    have lengths := congrArg List.length same
    simpa [keyName] using lengths
  · rintro rfl
    rfl

theorem toUtf8_fromUtf8_ascii {bytes : QByteArray} (ascii : ∀ byte ∈ bytes, byte < 128) :
    toUtf8 (library.fromUtf8 bytes) = bytes := by
  have single : ∀ code < 128, String.utf8EncodeChar (Char.ofNat code) = [UInt8.ofNat code] := by
    decide
  induction bytes with
  | nil => rfl
  | cons byte rest ih =>
      obtain ⟨here, later⟩ := List.forall_mem_cons.mp ascii
      have tail := ih later
      have bound : byte.toNat < 128 := UInt8.lt_iff_toNat_lt.mp here
      simp only [library, asciiLibrary, toUtf8, List.map_cons, List.flatMap_cons] at tail ⊢
      rw [tail, single byte.toNat bound, UInt8.ofNat_toNat]
      rfl

theorem append_keyName_ascii {tag : QByteArray} (ascii : ∀ byte ∈ tag, byte < 128) (seed : Nat) :
    ∀ byte ∈ tag ++ keyName seed, byte < 128 := by
  intro byte member
  rcases List.mem_append.mp member with tagged | named
  · exact ascii byte tagged
  · rw [List.eq_of_mem_replicate named]
    decide

theorem publicText_ascii (seed : Nat) : ∀ byte ∈ publicText (keyName seed), byte < 128 :=
  append_keyName_ascii (by decide +kernel) seed

theorem secretText_ascii (seed : Nat) : ∀ byte ∈ secretText (keyName seed), byte < 128 :=
  append_keyName_ascii (by decide +kernel) seed

theorem keyPair_eq (draws : Nat → Nat) (call : Nat) (userId : QByteArray) :
    rnp.keyPair library draws call userId = some (
      library.fromUtf8 (publicText (keyName (draws (call + 1)))),
      library.fromUtf8 (secretText (keyName (draws (call + 1))))) := rfl

theorem keyPair_bytes {publicKey privateKey : QString} (pair : KeyPair rnp library publicKey privateKey) :
    ∃ seed, toUtf8 publicKey = publicText (keyName seed) ∧
      toUtf8 privateKey = secretText (keyName seed) := by
  obtain ⟨draws, call, userId, made⟩ := pair
  rw [keyPair_eq, Option.some.injEq, Prod.mk.injEq] at made
  obtain ⟨rfl, rfl⟩ := made
  exact ⟨draws (call + 1), toUtf8_fromUtf8_ascii (publicText_ascii _),
    toUtf8_fromUtf8_ascii (secretText_ascii _)⟩

theorem honoursSignatures (verifier : Nat → Nat) : HonoursSignatures rnp library verifier where
  written := by
    intro publicKey privateKey draws call data signature pair made
    obtain ⟨seed, _, secret⟩ := keyPair_bytes pair
    rw [signature_eq, secret, Option.some.injEq] at made
    rw [← made]
    simp [secretText, text, toUtf8, String.utf8EncodeChar, keyName]
  accepted := by
    intro publicKey privateKey draws call data signature pair made check
    obtain ⟨seed, shown, secret⟩ := keyPair_bytes pair
    rw [signature_eq, secret, Option.some.injEq] at made
    rw [accepts_iff, shown, ← made]
    rfl

theorem rejectsForeign (userId : QByteArray) (verifier : Nat → Nat) :
    RejectsForeign rnp library userId verifier := by
  intro made made' call call' keys others draws signing data signature pair other different signed check
  obtain ⟨seed, shown, secret⟩ := keyPair_bytes ⟨made, call, userId, pair⟩
  obtain ⟨otherSeed, otherShown, _⟩ := keyPair_bytes ⟨made', call', userId, other⟩
  rw [signature_eq, secret, Option.some.injEq] at signed
  rw [Bool.eq_false_iff, ne_eq, accepts_iff, otherShown, ← signed]
  intro same
  apply different
  have names : keyName otherSeed = keyName seed := List.append_cancel_right same
  rw [keyName_injective] at names
  apply toUtf8_injective
  rw [shown, otherShown, names]

theorem eq_of_generates {userId material : QByteArray} {drawn : Nat}
    (generated : Generates rnp userId drawn material) : material = keyName drawn :=
  (Option.some.inj generated).symm

theorem eq_of_exportsPublic {userId material exported : QByteArray}
    (exports : ExportsPublic rnp userId material exported) : exported = publicText material := by
  obtain ⟨_, _, _, _, shown⟩ := exports
  exact (Option.some.inj shown).symm

theorem generatesFrom (userId : QByteArray) :
    GeneratesFrom rnp library userId (fun drawn : Nat => drawn) where
  generated := by
    intro drawn drawn' material material' generated generated'
    rw [eq_of_generates generated, eq_of_generates generated', keyName_injective]
  exported := by
    intro drawn drawn' material material' exported exported' _ _ exports exports'
    rw [eq_of_exportsPublic exports, eq_of_exportsPublic exports']
    exact List.append_right_inj _
  exported_ne_nil := by
    intro drawn material exported _ exports
    rw [eq_of_exportsPublic exports]
    simp [publicText, text, toUtf8, String.utf8EncodeChar]
  armored := by
    intro drawn material exported generated exports
    rw [eq_of_exportsPublic exports, eq_of_generates generated]
    exact toUtf8_fromUtf8_ascii (publicText_ascii _)

end PlainRnp

end SbbTicketing
