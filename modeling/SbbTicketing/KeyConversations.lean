import SbbTicketing.HandleLedger
import SbbTicketing.RnpChecks

/-! The methods of a key manager, call by call, against the same conversations without contexts and
handles: a user id and the one key that was generated for it. A rule for each kind of call says
what it asks of RNP and what it leaves behind. -/

namespace SbbTicketing

open Qt Outcomes

variable {ρ : Type} (rnp : Rnp ρ)

/-- Calls that are counted, up to the first that fails. -/
abbrev Conversation := ExceptT QString (StateM Nat)

def Rnp.request (draws : Nat → ρ) (request : Request) (message : QString) : Conversation QByteArray :=
  ExceptT.mk fun call =>
    match rnp.reply (draws call) request with
    | none => (.error message, call + 1)
    | some payload => (.ok payload, call + 1)

structure UserKey where
  userId : QByteArray
  material : QByteArray

namespace UserKey

def keyring (key : UserKey) : Keyring := [.generated key.material]

def generate (draws : Nat → ρ) (userId : QByteArray) : Conversation UserKey := do
  let _ ← rnp.request draws .ffiCreate (text "Failed to create RNP FFI")
  let json := cString (PgpKeyManager.keyJson userId)
  let material ← rnp.request draws (.generateKeyJson [] json) (text "Key generation failed")
  return { userId, material }

def exportArmored (draws : Nat → ρ) (errors : PgpKeyManager.ExportErrors) (flags : KeyFlags)
    (key : UserKey) : Conversation QByteArray := do
  let identity ← rnp.request draws (.locateKey key.keyring (text "userid") (cString key.userId)) errors.locate
  let _ ← rnp.request draws .outputToMemory errors.output
  let exported ← rnp.request draws (.keyExport flags key.keyring identity) errors.keyExport
  let _ ← rnp.request draws (.outputMemoryGetBuf exported) errors.buffer
  return exported

def signData (draws : Nat → ρ) (data : QByteArray) (key : UserKey) : Conversation QByteArray := do
  let signer ← rnp.request draws (.locateKey key.keyring (text "userid") (cString key.userId))
    (text "Failed to locate user key for signing")
  let _ ← rnp.request draws (.inputFromMemory data) (text "Failed to create input for signing")
  let _ ← rnp.request draws .outputToMemory (text "Failed to create output for signature")
  let _ ← rnp.request draws (.opSignDetachedCreate key.keyring data)
    (text "Failed to create signing operation")
  let _ ← rnp.request draws (.opSignAddSignature key.keyring signer) (text "Failed to add signer")
  let signature ← rnp.request draws (.opSignExecute key.keyring [signer] data)
    (text "Signing operation failed")
  let _ ← rnp.request draws (.outputMemoryGetBuf signature) (text "Failed to get signature buffer")
  return signature

def exportKeys (lib : QtLibrary) (draws : Nat → ρ) (key : UserKey) : Conversation (QString × QString) := do
  let publicKey ← key.exportArmored rnp draws PgpKeyManager.publicExportErrors .publicKeys
  let privateKey ← key.exportArmored rnp draws PgpKeyManager.secretExportErrors .secretKeys
  return (lib.fromUtf8 publicKey, lib.fromUtf8 privateKey)

end UserKey

/-- The key a manager has in a state. -/
def PgpKeyManager.key? (state : RnpState ρ) (manager : PgpKeyManager) : Option UserKey :=
  match state.store.objects manager.ffi with
  | some (.ffi [.generated material]) => some { userId := manager.userId, material }
  | _ => none

/-- Nothing that was alive has changed. -/
structure RnpState.Preserves (state after : RnpState ρ) : Prop where
  draws : after.draws = state.draws
  bound : state.store.next ≤ after.store.next
  objects : ∀ handle < state.store.next, after.store.objects handle = state.store.objects handle

theorem PgpKeyManager.key?_eq_some {state : RnpState ρ} {manager : PgpKeyManager} {key : UserKey}
    (has : manager.key? state = some key) :
    manager.userId = key.userId ∧ state.store.objects manager.ffi = some (.ffi key.keyring) := by
  unfold key? at has
  split at has
  · rename_i material live
    cases has
    exact ⟨rfl, live⟩
  · cases has

theorem RnpState.Preserves.key? {state after : RnpState ρ} (preserves : state.Preserves after)
    {manager : PgpKeyManager} {key : UserKey} (has : manager.key? state = some key) :
    manager.key? after = some key := by
  have below := HandleStore.lt_next_of_live (PgpKeyManager.key?_eq_some has).2
  rw [← has, PgpKeyManager.key?, preserves.objects _ below]
  rfl

theorem RnpState.Preserves.trans {first second third : RnpState ρ} (earlier : first.Preserves second)
    (later : second.Preserves third) : first.Preserves third where
  draws := later.draws.trans earlier.draws
  bound := Nat.le_trans earlier.bound later.bound
  objects := by
    intro handle old
    rw [later.objects handle (Nat.lt_of_lt_of_le old earlier.bound), earlier.objects handle old]

/-- From a state between, the action returns or throws what the conversation does and makes as many
calls, and what was alive at the start is as it was. -/
def FollowsFrom {α : Type} (start : RnpState ρ) (action : ExceptT QString (RnpM ρ) α) (now : RnpState ρ)
    (conversation : Conversation α) : Prop :=
  Ends action.run now fun outcome after =>
    conversation.run.run now.calls = (outcome, after.calls) ∧ start.Preserves after

def Follows {α : Type} (action : ExceptT QString (RnpM ρ) α) (state : RnpState ρ)
    (conversation : Conversation α) : Prop :=
  FollowsFrom state action state conversation

theorem follows_bind {α β : Type} {state : RnpState ρ} {action : ExceptT QString (RnpM ρ) α}
    {next : α → ExceptT QString (RnpM ρ) β} {conversation : Conversation α} {rest : α → Conversation β}
    (follows : Follows action state conversation)
    (met : ∀ value after, state.Preserves after → Follows (next value) after (rest value)) :
    Follows (action >>= next) state (conversation >>= rest) := by
  unfold Follows FollowsFrom Ends at follows ⊢
  obtain ⟨outcome, after, ran⟩ : ∃ outcome after, action.run.run state = (outcome, after) := ⟨_, _, rfl⟩
  rw [ran] at follows
  obtain ⟨same, preserves⟩ := follows
  rw [run_bind, run_bind, ran, same]
  cases outcome with
  | error message => exact ⟨rfl, preserves⟩
  | ok value =>
      obtain ⟨sameToo, preservesToo⟩ := met value after preserves
      exact ⟨sameToo, preserves.trans preservesToo⟩

theorem follows_pure {α : Type} {state : RnpState ρ} (value : α) :
    Follows (pure value : ExceptT QString (RnpM ρ) α) state (pure value) :=
  ⟨rfl, rfl, Nat.le_refl _, fun _ _ => rfl⟩

/-- What was acquired since the start and is still alive, with its contents. -/
structure RnpState.Contains (start now : RnpState ρ) (held : List (Handle × RnpObject)) : Prop where
  holding : HandleStore.Holding id start.store now.store held
  draws : now.draws = start.draws

namespace RnpState.Contains

variable {start now : RnpState ρ} {held : List (Handle × RnpObject)} {handle : Handle}
  {object : RnpObject} {keyring : Keyring}

theorem refl (start : RnpState ρ) : start.Contains start [] := ⟨HandleStore.Holding.refl _, rfl⟩

theorem answered (contains : start.Contains now held) (answer : Option QByteArray) :
    start.Contains (now.answered answer) held := ⟨contains.holding, contains.draws⟩

theorem acquired (contains : start.Contains now held) (object : RnpObject) :
    start.Contains (now.acquired object) ((now.store.next, object) :: held) :=
  ⟨contains.holding.acquire object, contains.draws⟩

theorem updated (contains : start.Contains now ((handle, object) :: held)) (written : RnpObject) :
    start.Contains (now.updated handle written) ((handle, written) :: held) :=
  ⟨contains.holding.replace written, contains.draws⟩

theorem released (contains : start.Contains now ((handle, object) :: held)) :
    start.Contains (now.released handle) held :=
  ⟨contains.holding.release, contains.draws⟩

theorem swap {first second : Handle × RnpObject}
    (contains : start.Contains now (first :: second :: held)) :
    start.Contains now (second :: first :: held) :=
  ⟨contains.holding.perm (.swap second first held), contains.draws⟩

theorem live (contains : start.Contains now held) (member : (handle, object) ∈ held) :
    now.store.objects handle = some object := by
  have found := contains.holding.shapes _ member
  rwa [Option.map_id] at found

theorem old (contains : start.Contains now held) (alive : start.store.objects handle = some object) :
    now.store.objects handle = some object := by
  rw [contains.holding.others handle ?_, alive]
  intro member
  obtain ⟨entry, inHeld, rfl⟩ := List.mem_map.mp member
  exact Nat.not_lt_of_le (contains.holding.later entry inHeld) (HandleStore.lt_next_of_live alive)

theorem preserves (contains : start.Contains now held) : start.Preserves now where
  draws := contains.draws
  bound := contains.holding.bound
  objects := by
    intro handle below
    refine contains.holding.others handle fun member => ?_
    obtain ⟨entry, inHeld, rfl⟩ := List.mem_map.mp member
    exact Nat.not_lt_of_le (contains.holding.later entry inHeld) below

end RnpState.Contains

/-- A call that asks RNP once, what it returns and what it does to the objects. -/
def Answers {α : Type} (call : RnpM ρ (Option α)) (now : RnpState ρ) (request : Request)
    (value : QByteArray → α) (effect : QByteArray → RnpState ρ → RnpState ρ) : Prop :=
  call.run now = match rnp.reply (now.draws now.calls) request with
    | none => (none, now.answered none)
    | some payload => (some (value payload), effect payload (now.answered (some payload)))

section

attribute [local simp] ask create destroy bufferDestroy ffiCreate opSignDetachedCreate
  locateKey opSignAddSignature opSignExecute outputMemoryGetBuf generateKeyJson keyExport
  RnpObject.kind RnpState.keyring? RnpState.inputData? RnpState.outputData?
  StateT.run bind StateT.bind pure stateT_pure_eq get StateT.get getThe MonadStateOf.get
  modify modifyGet StateT.modifyGet MonadStateOf.modifyGet ExceptT.run ExceptT.bind ExceptT.bindCont
  ExceptT.pure ExceptT.mk ExceptT.lift liftM monadLift MonadLift.monadLift MonadLiftT.monadLift throw throwThe
  MonadExceptOf.throw Functor.map StateT.map Rnp.request Nat.add_assoc

section

variable {now : RnpState ρ} {ffi input output op key : Handle} {keyring : Keyring}
  {bytes written signer : QByteArray} {signers : List QByteArray}

theorem create_answers (request : Request) (object : QByteArray → RnpObject) :
    Answers rnp (create rnp request object) now request (fun _ => now.store.next)
      fun payload after => after.acquired (object payload) := by
  cases answer : rnp.reply (now.draws now.calls) request with
  | none => simp [Answers, answer]
  | some payload => simp [Answers, answer]

theorem locateKey_answers (ring : now.store.objects ffi = some (.ffi keyring))
    (identifierType : QString) (identifier : QByteArray) :
    Answers rnp (locateKey rnp ffi identifierType identifier) now
      (.locateKey keyring identifierType identifier) (fun _ => now.store.next)
      fun identity after => after.acquired (.key ffi identity) := by
  have located : (locateKey rnp ffi identifierType identifier).run now =
      (create rnp (.locateKey keyring identifierType identifier) fun key => .key ffi key).run now := by
    simp [ring]
  rw [Answers, located]
  exact create_answers rnp _ _

theorem opSignDetachedCreate_answers (ring : now.store.objects ffi = some (.ffi keyring))
    (read : now.store.objects input = some (.input bytes))
    (empty : now.store.objects output = some (.output written)) :
    Answers rnp (opSignDetachedCreate rnp ffi input output) now (.opSignDetachedCreate keyring bytes)
      (fun _ => now.store.next) fun _ after => after.acquired (.signOp ffi input output []) := by
  have prepared : (opSignDetachedCreate rnp ffi input output).run now =
      (create rnp (.opSignDetachedCreate keyring bytes) fun _ => .signOp ffi input output []).run now := by
    simp [ring, read, empty]
  rw [Answers, prepared]
  exact create_answers rnp _ _

theorem opSignAddSignature_answers (ring : now.store.objects ffi = some (.ffi keyring))
    (prepared : now.store.objects op = some (.signOp ffi input output signers))
    (located : now.store.objects key = some (.key ffi signer)) :
    Answers rnp (opSignAddSignature rnp op key) now (.opSignAddSignature keyring signer) (fun _ => ())
      fun _ after => after.updated op (.signOp ffi input output (signers ++ [signer])) := by
  cases answer : rnp.reply (now.draws now.calls) (.opSignAddSignature keyring signer) with
  | none => simp [Answers, ring, prepared, located, answer]
  | some _ => simp [Answers, ring, prepared, located, answer]

theorem opSignExecute_answers (ring : now.store.objects ffi = some (.ffi keyring))
    (prepared : now.store.objects op = some (.signOp ffi input output signers))
    (read : now.store.objects input = some (.input bytes))
    (empty : now.store.objects output = some (.output written)) :
    Answers rnp (opSignExecute rnp op) now (.opSignExecute keyring signers bytes) (fun _ => ())
      fun signature after => after.updated output (.output signature) := by
  cases answer : rnp.reply (now.draws now.calls) (.opSignExecute keyring signers bytes) with
  | none => simp [Answers, ring, prepared, read, empty, answer]
  | some _ => simp [Answers, ring, prepared, read, empty, answer]

theorem keyExport_answers (flags : KeyFlags) (ring : now.store.objects ffi = some (.ffi keyring))
    (located : now.store.objects key = some (.key ffi signer))
    (empty : now.store.objects output = some (.output written)) :
    Answers rnp (keyExport rnp key output flags) now (.keyExport flags keyring signer) (fun _ => ())
      fun exported after => after.updated output (.output exported) := by
  cases answer : rnp.reply (now.draws now.calls) (.keyExport flags keyring signer) with
  | none => simp [Answers, ring, located, empty, answer]
  | some _ => simp [Answers, ring, located, empty, answer]

theorem outputMemoryGetBuf_answers (filled : now.store.objects output = some (.output written)) :
    Answers rnp (outputMemoryGetBuf rnp output) now (.outputMemoryGetBuf written) (fun _ => written)
      fun _ after => after := by
  cases answer : rnp.reply (now.draws now.calls) (.outputMemoryGetBuf written) with
  | none => simp [Answers, filled, answer]
  | some _ => simp [Answers, filled, answer]

end

section

variable {α β : Type} {start now : RnpState ρ} {held : List (Handle × RnpObject)}
  {call : RnpM ρ (Option β)} {next : Option β → ExceptT QString (RnpM ρ) α} {request : Request}
  {message : QString} {rest : QByteArray → Conversation α}

theorem follows_call {value : QByteArray → β} {effect : QByteArray → RnpState ρ → RnpState ρ}
    (answers : Answers rnp call now request value effect) (draws : now.draws = start.draws)
    (counted : ∀ payload after, (effect payload after).calls = after.calls)
    (failed : FollowsFrom start (next none) (now.answered none) (throw message))
    (answered : ∀ payload, FollowsFrom start (next (some (value payload)))
      (effect payload (now.answered (some payload))) (rest payload)) :
    FollowsFrom start (liftM call >>= next) now (rnp.request start.draws request message >>= rest) := by
  have ran : call.run now = _ := answers
  change Ends (next (call.run now).1).run (call.run now).2 fun outcome after =>
    (rnp.request start.draws request message >>= rest).run.run now.calls = (outcome, after.calls) ∧
      start.Preserves after
  rw [ran, run_bind, ← draws]
  cases answer : rnp.reply (now.draws now.calls) request with
  | none =>
      refine Ends.mono failed fun outcome after met => ⟨Eq.trans ?_ met.1, met.2⟩
      simp [answer]
  | some payload =>
      refine Ends.mono (answered payload) fun outcome after met => ⟨Eq.trans ?_ met.1, met.2⟩
      simp [answer, counted]

theorem follows_create {object : QByteArray → RnpObject} {next : Option Handle → ExceptT QString (RnpM ρ) α}
    {call : RnpM ρ (Option Handle)}
    (answers : Answers rnp call now request (fun _ => now.store.next)
      fun payload after => after.acquired (object payload))
    (contains : start.Contains now held)
    (failed : ∀ after, start.Contains after held → FollowsFrom start (next none) after (throw message))
    (created : ∀ payload handle after, start.Contains after ((handle, object payload) :: held) →
      FollowsFrom start (next (some handle)) after (rest payload)) :
    FollowsFrom start (liftM call >>= next) now (rnp.request start.draws request message >>= rest) := by
  refine follows_call rnp answers contains.draws (fun _ _ => rfl) ?_ fun payload => ?_
  · exact failed _ (contains.answered none)
  · exact created payload _ _ ((contains.answered _).acquired (object payload))

theorem follows_write {object : QByteArray → RnpObject} {next : Option Unit → ExceptT QString (RnpM ρ) α}
    {call : RnpM ρ (Option Unit)} {target : Handle} {old : RnpObject}
    (answers : Answers rnp call now request (fun _ => ())
      fun payload after => after.updated target (object payload))
    (contains : start.Contains now ((target, old) :: held))
    (failed : ∀ after, start.Contains after ((target, old) :: held) →
      FollowsFrom start (next none) after (throw message))
    (written : ∀ payload after, start.Contains after ((target, object payload) :: held) →
      FollowsFrom start (next (some ())) after (rest payload)) :
    FollowsFrom start (liftM call >>= next) now (rnp.request start.draws request message >>= rest) := by
  refine follows_call rnp answers contains.draws (fun _ _ => rfl) ?_ fun payload => ?_
  · exact failed _ (contains.answered none)
  · exact written payload _ ((contains.answered _).updated (object payload))

theorem follows_read {bytes : QByteArray} {next : Option QByteArray → ExceptT QString (RnpM ρ) α}
    {call : RnpM ρ (Option QByteArray)}
    (answers : Answers rnp call now request (fun _ => bytes) fun _ after => after)
    (contains : start.Contains now held)
    (failed : ∀ after, start.Contains after held → FollowsFrom start (next none) after (throw message))
    (copied : ∀ payload after, start.Contains after held →
      FollowsFrom start (next (some bytes)) after (rest payload)) :
    FollowsFrom start (liftM call >>= next) now (rnp.request start.draws request message >>= rest) := by
  refine follows_call rnp answers contains.draws (fun _ _ => rfl) ?_ fun payload => ?_
  · exact failed _ (contains.answered none)
  · exact copied payload _ (contains.answered _)

theorem follows_destroy {last : ExceptT QString (RnpM ρ) α} {conversation : Conversation α}
    {handle : Handle} {object : RnpObject} {kind : HandleKind}
    (contains : start.Contains now ((handle, object) :: held)) (sameKind : object.kind = kind)
    (met : ∀ after, start.Contains after held → FollowsFrom start last after conversation) :
    FollowsFrom start (do destroy rnp kind handle; last) now conversation := by
  have alive : (now.store.objects handle).map RnpObject.kind = some kind := by
    rw [contains.live List.mem_cons_self, Option.map_some, sameKind]
  have closed : (destroy rnp kind handle).run now = ((), now.released handle) :=
    congrArg (fun after => ((), after)) (if_pos alive)
  change Ends last.run ((destroy rnp kind handle).run now).2 fun outcome after =>
    conversation.run.run now.calls = (outcome, after.calls) ∧ start.Preserves after
  rw [closed]
  exact met _ contains.released

theorem follows_closeOp {last : ExceptT QString (RnpM ρ) α} {conversation : Conversation α}
    {ffi op output input userKey : Handle} {bytes written signer : QByteArray}
    {signers : List QByteArray}
    (contains : start.Contains now ((op, .signOp ffi input output signers) :: (output, .output written) ::
      (input, .input bytes) :: (userKey, .key ffi signer) :: held))
    (met : ∀ after, start.Contains after held → FollowsFrom start last after conversation) :
    FollowsFrom start (do
      opSignDestroy rnp op; outputDestroy rnp output; inputDestroy rnp input
      keyHandleDestroy rnp userKey; last) now conversation :=
  follows_destroy rnp contains rfl fun _ contains =>
    follows_destroy rnp contains rfl fun _ contains =>
    follows_destroy rnp contains rfl fun _ contains =>
    follows_destroy rnp contains rfl met

theorem follows_throw (contains : start.Contains now held) (message : QString) :
    FollowsFrom start (throw message : ExceptT QString (RnpM ρ) α) now (throw message) :=
  ⟨rfl, contains.preserves⟩

theorem follows_return (contains : start.Contains now held) (value : α) :
    FollowsFrom start (pure value : ExceptT QString (RnpM ρ) α) now (pure value) :=
  ⟨rfl, contains.preserves⟩

end

variable {state : RnpState ρ} {manager : PgpKeyManager} {key : UserKey}

theorem PgpKeyManager.exportArmored_follows (errors : ExportErrors) (flags : KeyFlags)
    (has : manager.key? state = some key) :
    Follows (exportArmored rnp errors flags manager) state
      (UserKey.exportArmored rnp state.draws errors flags key) := by
  obtain ⟨userId, live⟩ := key?_eq_some has
  have contains := RnpState.Contains.refl state
  simp only [Follows, exportArmored, locateUserKey, userId, UserKey.exportArmored]
  refine follows_create rnp (locateKey_answers rnp (contains.old live) _ _) contains ?_
    fun identity userKey s1 contains => ?_
  · exact fun after contains => follows_throw contains errors.locate
  refine follows_create rnp (create_answers rnp _ _) contains ?_ fun _ out s2 contains => ?_
  · intro after contains
    exact follows_destroy rnp contains rfl fun _ contains => follows_throw contains errors.output
  refine follows_write rnp (keyExport_answers rnp flags (contains.old live)
    (contains.live (.tail _ (.head _))) (contains.live (.head _))) contains ?_
    fun exported s3 contains => ?_
  · intro after contains
    exact follows_destroy rnp contains rfl fun _ contains =>
      follows_destroy rnp contains rfl fun _ contains => follows_throw contains errors.keyExport
  refine follows_read rnp (outputMemoryGetBuf_answers rnp (contains.live (.head _))) contains ?_
    fun _ s4 contains => ?_
  · intro after contains
    exact follows_destroy rnp contains rfl fun _ contains =>
      follows_destroy rnp contains rfl fun _ contains => follows_throw contains errors.buffer
  exact follows_destroy rnp contains rfl fun _ contains =>
    follows_destroy rnp contains rfl fun _ contains => follows_return contains exported

theorem PgpKeyManager.signData_follows (data : QByteArray) (has : manager.key? state = some key) :
    Follows (signData rnp manager data) state (UserKey.signData rnp state.draws data key) := by
  obtain ⟨userId, live⟩ := key?_eq_some has
  have contains := RnpState.Contains.refl state
  simp only [Follows, signData, locateUserKey, userId, UserKey.signData]
  refine follows_create rnp (locateKey_answers rnp (contains.old live) _ _) contains ?_
    fun signer userKey s1 contains => ?_
  · exact fun after contains => follows_throw contains _
  refine follows_create rnp (create_answers rnp _ _) contains ?_ fun _ input s2 contains => ?_
  · intro after contains
    exact follows_destroy rnp contains rfl fun _ contains => follows_throw contains _
  refine follows_create rnp (create_answers rnp _ _) contains ?_ fun _ output s3 contains => ?_
  · intro after contains
    exact follows_destroy rnp contains rfl fun _ contains =>
      follows_destroy rnp contains rfl fun _ contains => follows_throw contains _
  refine follows_create rnp (opSignDetachedCreate_answers rnp (contains.old live)
    (contains.live (.tail _ (.head _))) (contains.live (.head _))) contains ?_
    fun _ signOp s4 contains => ?_
  · intro after contains
    exact follows_destroy rnp contains rfl fun _ contains =>
      follows_destroy rnp contains rfl fun _ contains =>
      follows_destroy rnp contains rfl fun _ contains => follows_throw contains _
  refine follows_write rnp (opSignAddSignature_answers rnp (contains.old live) (contains.live (.head _))
    (contains.live (.tail _ (.tail _ (.tail _ (.head _)))))) contains ?_ fun _ s5 contains => ?_
  · intro after contains
    exact follows_closeOp rnp contains fun _ contains => follows_throw contains _
  -- the output is written while the operation, acquired after it, stays
  refine follows_write rnp (opSignExecute_answers rnp (contains.old live) (contains.live (.head _))
    (contains.live (.tail _ (.tail _ (.head _)))) (contains.live (.tail _ (.head _)))) contains.swap ?_
    fun signature s6 contains => ?_
  · intro after contains
    exact follows_closeOp rnp contains.swap fun _ contains => follows_throw contains _
  refine follows_read rnp (outputMemoryGetBuf_answers rnp (contains.live (.head _))) contains.swap ?_
    fun _ s7 contains => ?_
  · intro after contains
    exact follows_closeOp rnp contains fun _ contains => follows_throw contains _
  exact follows_closeOp rnp contains fun _ contains => follows_return contains signature

theorem PgpKeyManager.exportKeys_follows (lib : QtLibrary) (has : manager.key? state = some key) :
    Follows (exportKeys rnp lib manager) state (key.exportKeys rnp lib state.draws) := by
  refine follows_bind (exportArmored_follows rnp _ _ has) fun publicKey middle preserves => ?_
  have second := exportArmored_follows rnp secretExportErrors .secretKeys (preserves.key? has)
  rw [preserves.draws] at second
  exact follows_bind second fun privateKey after _ => follows_pure _

theorem preserves_iff {after : RnpState ρ} :
    state.Preserves after ↔ after.draws = state.draws ∧ state.store.next ≤ after.store.next ∧
      ∀ handle < state.store.next, after.store.objects handle = state.store.objects handle :=
  ⟨fun preserves => ⟨preserves.draws, preserves.bound, preserves.objects⟩,
    fun preserves => ⟨preserves.1, preserves.2.1, preserves.2.2⟩⟩

theorem PgpKeyManager.new_follows (userId : QByteArray) :
    Attempts (new rnp userId) state
      (fun manager after => ∃ key,
        (UserKey.generate rnp state.draws userId).run.run state.calls = (.ok key, after.calls) ∧
        state.Preserves after ∧ manager.ffi = state.store.next ∧ manager.key? after = some key)
      (fun message after =>
        (UserKey.generate rnp state.draws userId).run.run state.calls = (.error message, after.calls) ∧
        state.Preserves after) := by
  have notContext : ∀ handle < state.store.next, handle ≠ state.store.next := fun _ => Nat.ne_of_lt
  have notBuffer (handle : Nat) (old : handle < state.store.next) : handle ≠ state.store.next + 1 :=
    Nat.ne_of_lt (Nat.lt_succ_of_lt old)
  simp only [Attempts, Ends, new, generateKey, UserKey.generate, preserves_iff]
  cases created : rnp.reply (state.draws state.calls) .ffiCreate with
  | none => simp [created]
  | some opened =>
  cases made : rnp.reply (state.draws (state.calls + 1))
      (.generateKeyJson [] (cString (PgpKeyManager.keyJson userId))) with
  | none => simp +contextual [created, made, notContext]
  | some material => simp +contextual [created, made, notContext, notBuffer, key?]

end

end SbbTicketing
