import SbbTicketing.RnpChecks

/-! What generating and exporting a key pair comes to: either a call has failed, or both
keys are exports of the one key generated by the second call of the conversation. -/

namespace SbbTicketing

open Qt Outcomes

variable {ρ : Type} (rnp : Rnp ρ)

section

variable {α : Type} {state : RnpState ρ}

/-- A condition met once the manager is deleted: that changes neither what RNP draws nor what failed. -/
def OnceDeleted (post : α → RnpState ρ → Prop) (value : α) (before : RnpState ρ) : Prop :=
  ∀ after, after.draws = before.draws → after.failed = before.failed → post value after

theorem ends_delete {manager : PgpKeyManager} {post : Unit → RnpState ρ → Prop}
    (met : OnceDeleted post () state) : Ends (manager.delete rnp) state post := by
  by_cases alive : (state.store.objects manager.ffi).map RnpObject.kind = some .ffi
  · have closed : ((manager.delete rnp).run state).2 = state.released manager.ffi := if_pos alive
    exact met _ (by rw [closed]; rfl) (by rw [closed]; rfl)
  · have closed : ((manager.delete rnp).run state).2 = state.misused := if_neg alive
    exact met _ (by rw [closed]; rfl) (by rw [closed]; rfl)

theorem PgpKeyManager.exportKeys_yields (lib : QtLibrary) (manager : PgpKeyManager) (keyring : Keyring)
    (live : state.store.objects manager.ffi = some (.ffi keyring)) :
    Attempts (exportKeys rnp lib manager) state
      (fun keys after => ∃ publicKey privateKey, keys = (lib.fromUtf8 publicKey, lib.fromUtf8 privateKey) ∧
        rnp.exported state.draws state.calls .publicKeys keyring manager.userId = some publicKey ∧
        rnp.exported state.draws (state.calls + 4) .secretKeys keyring manager.userId =
          some privateKey ∧
        after.draws = state.draws ∧ after.failed = state.failed)
      (fun _ after => after.failed = true) := by
  have first := exportArmored_yields rnp publicExportErrors .publicKeys manager keyring state live
  refine attempts_bind (Attempts.mono first ?_ fun _ _ failed => failed)
  rintro publicKey middle ⟨made, draws, calls, unfailed, live⟩
  have second := exportArmored_yields rnp secretExportErrors .secretKeys manager keyring middle live
  refine attempts_bind (Attempts.mono second ?_ fun _ _ failed => failed)
  rintro privateKey after ⟨madeToo, drawsToo, _, unfailedToo, _⟩
  rw [draws, calls] at madeToo
  exact attempts_pure ⟨publicKey, privateKey, rfl, made, madeToo, drawsToo.trans draws,
    unfailedToo.trans unfailed⟩

/-- A scope that exports both keys and goes on with them: a call of the export fails, or the
rest runs with the pair that was generated. -/
theorem withKeyManager_yields (lib : QtLibrary) (userId : QByteArray)
    (rest : QString × QString → ExceptT QString (RnpM ρ) α) {returns : α → RnpState ρ → Prop}
    {throws : QString → RnpState ρ → Prop}
    (failed : ∀ message after, after.failed = true → throws message after)
    (met : ∀ keys middle, rnp.keyPair lib state.draws state.calls userId = some keys →
      middle.draws = state.draws → middle.failed = state.failed →
      Attempts (rest keys) middle (OnceDeleted returns) (OnceDeleted throws)) :
    Attempts (withKeyManager rnp userId fun manager => do
      let keys ← PgpKeyManager.exportKeys rnp lib manager
      rest keys) state returns throws := by
  unfold withKeyManager
  refine attempts_bind (Attempts.mono (PgpKeyManager.new_yields rnp userId state) ?_ failed)
  rintro manager opened ⟨payload, material, created, made, rfl, draws, calls, unfailed, live⟩
  have scope : Attempts (do
      let keys ← PgpKeyManager.exportKeys rnp lib manager
      rest keys) opened (OnceDeleted returns) (OnceDeleted throws) := by
    have exports := PgpKeyManager.exportKeys_yields rnp lib manager _ live
    refine attempts_bind (Attempts.mono exports ?_ ?_)
    · rintro _ middle ⟨publicKey, privateKey, rfl, first, second, drawsToo, unfailedToo⟩
      rw [draws, calls] at first second
      have pair : rnp.keyPair lib state.draws state.calls manager.userId =
          some (lib.fromUtf8 publicKey, lib.fromUtf8 privateKey) := by
        simp [Rnp.keyPair, created, made, first, second]
      exact met _ middle pair (drawsToo.trans draws) (unfailedToo.trans unfailed)
    · intro message middle exportFailed after _ same
      exact failed message after (same.trans exportFailed)
  refine attempts_call (Ends.mono scope fun outcome later met => attempts_call (ends_delete rnp ?_))
  intro after draws same
  cases outcome with
  | ok value => exact met after draws same
  | error message => exact met after draws same

theorem CompanyInfo.generateKeys_cases (lib : QtLibrary) (state : RnpState ρ) :
    Ends (CompanyInfo.generateKeys rnp lib) state fun info after =>
      (info.isValid = false ∧ after.failed = true) ∨
        (rnp.keyPair lib state.draws state.calls (toUtf8 (deterministicId lib companyEmail companySeed)) =
            some (info.publicKey, info.privateKey) ∧
          after.draws = state.draws ∧ after.failed = state.failed) := by
  have scope : Attempts (withKeyManager rnp (toUtf8 (deterministicId lib companyEmail companySeed))
      fun manager => PgpKeyManager.exportKeys rnp lib manager >>= pure) state
      (fun keys after => rnp.keyPair lib state.draws state.calls
          (toUtf8 (deterministicId lib companyEmail companySeed)) = some keys ∧
        after.draws = state.draws ∧ after.failed = state.failed)
      (fun _ after => after.failed = true) := by
    refine withKeyManager_yields rnp lib _ pure (fun _ _ failed => failed) ?_
    intro keys middle pair draws unfailed after drawsToo unfailedToo
    exact ⟨pair, drawsToo.trans draws, unfailedToo.trans unfailed⟩
  simp only [bind_pure] at scope
  refine ends_bind (Ends.mono scope fun outcome after told => ?_)
  cases outcome with
  | ok keys => exact Or.inr told
  | error message => exact Or.inl ⟨rfl, told⟩

theorem LoginPage.handleLogin_cases {α : Type} (lib : QtLibrary) (page : LoginPage)
    (loginSuccessful : AccountInfo → RnpM ρ α) (state : RnpState ρ) :
    Ends (handleLogin rnp lib page loginSuccessful) state fun result after =>
      (result.2 = none ∧ (after = state ∨ after.failed = true)) ∨
        ∃ keys middle, inputError (trimmed page.email) page.password = none ∧
          rnp.keyPair lib state.draws state.calls
            (toUtf8 (deterministicId lib (trimmed page.email) page.password)) = some keys ∧
          middle.failed = state.failed ∧
          result.2 = some ((loginSuccessful ⟨trimmed page.email, keys.1, keys.2⟩).run middle).1 ∧
          after.failed = ((loginSuccessful ⟨trimmed page.email, keys.1, keys.2⟩).run middle).2.failed := by
  cases checked : inputError (trimmed page.email) page.password with
  | some message =>
      simp only [handleLogin, checked]
      exact Or.inl ⟨rfl, Or.inl rfl⟩
  | none =>
  simp only [handleLogin, checked]
  have scope : Attempts (withKeyManager rnp
      (toUtf8 (deterministicId lib (trimmed page.email) page.password)) fun manager => do
        let keys ← PgpKeyManager.exportKeys rnp lib manager
        liftM (loginSuccessful ⟨trimmed page.email, keys.1, keys.2⟩)) state
      (fun handled after => ∃ keys middle, rnp.keyPair lib state.draws state.calls
          (toUtf8 (deterministicId lib (trimmed page.email) page.password)) = some keys ∧
        middle.failed = state.failed ∧
        handled = ((loginSuccessful ⟨trimmed page.email, keys.1, keys.2⟩).run middle).1 ∧
        after.failed = ((loginSuccessful ⟨trimmed page.email, keys.1, keys.2⟩).run middle).2.failed)
      (fun _ after => after.failed = true) := by
    refine withKeyManager_yields rnp lib _ _ (fun _ _ failed => failed) ?_
    intro keys middle pair draws unfailed
    refine attempts_lift fun after _ same => ?_
    exact ⟨keys, middle, pair, unfailed, rfl, same⟩
  refine ends_bind (Ends.mono scope fun outcome after told => ?_)
  cases outcome with
  | ok handled =>
      obtain ⟨keys, middle, pair, unfailed, rfl, same⟩ := told
      exact Or.inr ⟨keys, middle, trivial, pair, unfailed, rfl, same⟩
  | error message => exact Or.inl ⟨rfl, Or.inr told⟩

end

end SbbTicketing
