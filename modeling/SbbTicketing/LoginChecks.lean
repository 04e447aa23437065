import SbbTicketing.KeyConversations

/-! How a login attempt ends: with the message of the first check or the first step of the key
generation that fails and the button ready for another try, or with the slot run on the account
of the exported keys and the page locked. -/

namespace SbbTicketing

open Qt Outcomes

variable {ρ : Type} (rnp : Rnp ρ) (lib : QtLibrary)

namespace PgpKeyManager

def ExportErrors.all (errors : ExportErrors) : List QString :=
  [errors.locate, errors.output, errors.keyExport, errors.buffer]

/-- What a key manager that is constructed and exports both keys can throw. -/
def errors : List QString :=
  [text "Failed to create RNP FFI", text "Key generation failed"] ++
    publicExportErrors.all ++ secretExportErrors.all

end PgpKeyManager

namespace UserKey

section

variable {draws : Nat → ρ} {call : Nat}

theorem request_throws (request : Request) (message : QString) :
    Attempts (rnp.request draws request message) call (fun _ _ => True) fun thrown _ => thrown = message := by
  unfold Rnp.request Attempts Ends
  cases answered : rnp.reply (draws call) request <;> simp [ExceptT.run, ExceptT.mk, StateT.run, answered]

theorem exportArmored_throws (errors : PgpKeyManager.ExportErrors) (flags : KeyFlags) (key : UserKey) :
    Attempts (exportArmored rnp draws errors flags key) call (fun _ _ => True)
      fun message _ => message ∈ errors.all := by
  unfold exportArmored
  refine attempts_bind (Attempts.mono (request_throws rnp _ _) (fun identity _ _ => ?_) ?_)
  · refine attempts_bind (Attempts.mono (request_throws rnp _ _) (fun _ _ _ => ?_) ?_)
    · refine attempts_bind (Attempts.mono (request_throws rnp _ _) (fun exported _ _ => ?_) ?_)
      · refine attempts_bind (Attempts.mono (request_throws rnp _ _) (fun _ _ _ => trivial) ?_)
        rintro _ _ rfl
        exact .tail _ (.tail _ (.tail _ (.head _)))
      · rintro _ _ rfl
        exact .tail _ (.tail _ (.head _))
    · rintro _ _ rfl
      exact .tail _ (.head _)
  · rintro _ _ rfl
    exact .head _

theorem generate_throws (userId : QByteArray) :
    Attempts (generate rnp draws userId) call (fun _ _ => True) fun message _ => message ∈ PgpKeyManager.errors := by
  unfold generate
  refine attempts_bind (Attempts.mono (request_throws rnp _ _) (fun _ _ _ => ?_) ?_)
  · refine attempts_bind (Attempts.mono (request_throws rnp _ _) (fun _ _ _ => trivial) ?_)
    rintro _ _ rfl
    exact List.mem_append_left _ (List.mem_append_left _ (.tail _ (.head _)))
  · rintro _ _ rfl
    exact List.mem_append_left _ (List.mem_append_left _ (.head _))

theorem exportKeys_throws (key : UserKey) :
    Attempts (key.exportKeys rnp lib draws) call (fun _ _ => True)
      fun message _ => message ∈ PgpKeyManager.errors := by
  unfold exportKeys
  refine attempts_bind (Attempts.mono (exportArmored_throws rnp _ _ _) (fun publicKey _ _ => ?_) ?_)
  · refine attempts_bind (Attempts.mono (exportArmored_throws rnp _ _ _) (fun privateKey _ _ => trivial) ?_)
    intro message _ thrown
    exact List.mem_append_right _ thrown
  · intro message _ thrown
    exact List.mem_append_left _ (List.mem_append_right _ thrown)

end

/-- The keys of a new account: one key is generated and exported twice. -/
def newAccount (draws : Nat → ρ) (userId : QByteArray) : Conversation (QString × QString) := do
  let key ← generate rnp draws userId
  key.exportKeys rnp lib draws

theorem newAccount_throws (draws : Nat → ρ) (call : Nat) (userId : QByteArray) :
    Attempts (newAccount rnp lib draws userId) call (fun _ _ => True)
      fun message _ => message ∈ PgpKeyManager.errors := by
  unfold newAccount
  refine attempts_bind (Attempts.mono (generate_throws rnp userId) ?_ fun _ _ thrown => thrown)
  exact fun key _ _ => exportKeys_throws rnp lib key

end UserKey

/-- A scope that exports both keys and goes on with them: it throws what the first failing step
throws, or the rest runs with the keys. -/
theorem withKeyManager_steps {α : Type} {state : RnpState ρ} (userId : QByteArray)
    (rest : QString × QString → ExceptT QString (RnpM ρ) α) {returned : α → Prop} {thrown : QString → Prop}
    (failed : ∀ message, ((UserKey.newAccount rnp lib state.draws userId).run.run state.calls).1 =
      .error message → thrown message)
    (met : ∀ keys middle, ((UserKey.newAccount rnp lib state.draws userId).run.run state.calls).1 = .ok keys →
      Attempts (rest keys) middle (fun value _ => returned value) fun message _ => thrown message) :
    Attempts (withKeyManager rnp userId fun manager => do
      let keys ← PgpKeyManager.exportKeys rnp lib manager
      rest keys) state (fun value _ => returned value) fun message _ => thrown message := by
  simp only [UserKey.newAccount, run_bind] at failed met
  unfold withKeyManager
  refine attempts_bind (Attempts.mono (PgpKeyManager.new_follows rnp userId) ?_ ?_)
  · rintro manager opened ⟨key, made, preserves, _, has⟩
    simp only [made] at failed met
    obtain ⟨same, _⟩ := PgpKeyManager.exportKeys_follows rnp lib has
    rw [preserves.draws] at same
    simp only [same] at failed met
    have scope : Attempts (do
        let keys ← PgpKeyManager.exportKeys rnp lib manager
        rest keys) opened (fun value _ => returned value) fun message _ => thrown message := by
      rw [Attempts, Ends, run_bind]
      obtain ⟨outcome, middle, ran⟩ : ∃ outcome middle,
          (PgpKeyManager.exportKeys rnp lib manager).run.run opened = (outcome, middle) := ⟨_, _, rfl⟩
      rw [ran] at failed met ⊢
      cases outcome with
      | error message => exact failed message rfl
      | ok keys => exact met keys middle rfl
    refine attempts_call (Ends.mono scope fun outcome later told => ?_)
    refine attempts_call (ends_of_forall fun _ _ => ?_)
    cases outcome with
    | ok value => exact told
    | error message => exact told
  · rintro message after ⟨thrown, _⟩
    rw [thrown] at failed
    exact failed message rfl

namespace LoginPage

def inputErrors : List QString :=
  [text "Please enter your email", text "Please enter your password",
    text "Please enter a valid email address"]

def messages : List QString :=
  inputErrors ++ PgpKeyManager.errors.map (text "Key generation failed: " ++ ·)

def Ready (page : LoginPage) : Prop := page.buttonEnabled = true ∧ page.buttonText = text "Login"

def failed (page : LoginPage) (message : QString) : LoginPage :=
  { page with statusVisible := true, statusText := message, statusColor := text "#d32f2f" }

def locked (email : QString) : LoginPage where
  email := email
  password := []
  buttonEnabled := false
  buttonText := text "Generating Keys..."
  statusVisible := true
  statusText := text "Login successful!"
  statusColor := text "#388e3c"

theorem inputError_mem {email password message : QString}
    (refused : inputError email password = some message) : message ∈ inputErrors := by
  simp only [inputError] at refused
  split at refused
  · cases refused
    exact .head _
  · split at refused
    · cases refused
      exact .tail _ (.head _)
    · split at refused
      · cases refused
        exact .tail _ (.tail _ (.head _))
      · cases refused

theorem ne_nil_of_mem_messages {message : QString} (known : message ∈ messages) : message ≠ [] := by
  rintro rfl
  exact absurd known (by decide)

/-- How an attempt ends: with the message of a check or of a step of the key generation, or with
the keys of the account. -/
def attempted (draws : Nat → ρ) (call : Nat) (email password : QString) : Except QString (QString × QString) :=
  match inputError (trimmed email) password with
  | some message => .error message
  | none =>
      let userId := toUtf8 (deterministicId lib (trimmed email) password)
      ((UserKey.newAccount rnp lib draws userId).run.run call).1.mapError (text "Key generation failed: " ++ ·)

section

variable {rnp lib} {draws : Nat → ρ} {call : Nat} {email password : QString}

theorem attempted_error {message : QString}
    (refused : attempted rnp lib draws call email password = .error message) : message ∈ messages := by
  simp only [attempted] at refused
  split at refused
  · rename_i complaint checked
    cases refused
    exact List.mem_append_left _ (inputError_mem checked)
  · have known := UserKey.newAccount_throws rnp lib draws call
      (toUtf8 (deterministicId lib (trimmed email) password))
    simp only [Attempts, Ends] at known
    split at known
    · rename_i keys made
      rw [made] at refused
      cases refused
    · rename_i thrown made
      rw [made] at refused
      cases refused
      exact List.mem_append_right _ (List.mem_map_of_mem known)

theorem attempted_ok {keys : QString × QString}
    (made : attempted rnp lib draws call email password = .ok keys) :
    inputError (trimmed email) password = none := by
  simp only [attempted] at made
  split at made
  · cases made
  · assumption

end

theorem showStatus_failed (page : LoginPage) {message : QString} (given : message ≠ []) :
    page.showStatus message true = page.failed message := by
  simp [showStatus, failed, given]

theorem handleLogin_steps {α : Type} (page : LoginPage) (ready : page.Ready)
    (loginSuccessful : AccountInfo → RnpM ρ α) (state : RnpState ρ) :
    Ends (handleLogin rnp lib page loginSuccessful) state fun result _ =>
      (∃ message, attempted rnp lib state.draws state.calls page.email page.password = .error message ∧
        result = (page.failed message, none)) ∨
        ∃ keys middle, attempted rnp lib state.draws state.calls page.email page.password = .ok keys ∧
          result = (locked page.email,
            some ((loginSuccessful ⟨trimmed page.email, keys.1, keys.2⟩).run middle).1) := by
  simp only [attempted]
  cases checked : inputError (trimmed page.email) page.password with
  | some message =>
      have given := ne_nil_of_mem_messages (List.mem_append_left _ (inputError_mem checked))
      simp only [handleLogin, checked]
      refine Or.inl ⟨message, rfl, ?_⟩
      rw [← page.showStatus_failed given]
      rfl
  | none =>
  simp only [handleLogin, checked]
  let userId := toUtf8 (deterministicId lib (trimmed page.email) page.password)
  let account := ((UserKey.newAccount rnp lib state.draws userId).run.run state.calls).1
  have scope : Attempts (withKeyManager rnp userId fun manager => do
        let keys ← PgpKeyManager.exportKeys rnp lib manager
        liftM (loginSuccessful ⟨trimmed page.email, keys.1, keys.2⟩)) state
      (fun handled _ => ∃ keys middle, account = .ok keys ∧
        handled = ((loginSuccessful ⟨trimmed page.email, keys.1, keys.2⟩).run middle).1)
      (fun message _ => account = .error message) := by
    refine withKeyManager_steps rnp lib _ _ (fun _ failed => failed) ?_
    intro keys middle made
    exact attempts_lift ⟨keys, middle, made, rfl⟩
  refine ends_bind (Ends.mono scope fun outcome after told => ?_)
  cases outcome with
  | ok handled =>
      obtain ⟨keys, middle, made, rfl⟩ := told
      have wrapped := congrArg (Except.mapError (text "Key generation failed: " ++ ·)) made
      exact Or.inr ⟨keys, middle, wrapped, rfl⟩
  | error message =>
      have shown : arg (text "Key generation failed: %1") message =
          text "Key generation failed: " ++ message := by
        have template : text "Key generation failed: %1" =
            text "Key generation failed: " ++ '%' :: '1' :: [] := rfl
        rw [template, arg_marker (by decide) (by decide) rfl, List.append_nil]
      obtain ⟨enabled, label⟩ := ready
      have wrapped := congrArg (Except.mapError (text "Key generation failed: " ++ ·)) told
      refine Or.inl ⟨text "Key generation failed: " ++ message, wrapped, ?_⟩
      simp only [shown, showStatus_failed _ (show text "Key generation failed: " ++ message ≠ [] by simp [text]),
        failed, enabled, label]
      rfl

end LoginPage

end SbbTicketing
