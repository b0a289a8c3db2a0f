import Mathlib.Algebra.Group.Nat.Defs
import Sutradhara.Foundation.Interleaving

/-!
# Leases of agent restores

A restore agent opens an item, is streamed its bytes, and commits what it has
staged or revealed.  The server keeps the item, the checkpoint of the agent and
the lease of the current open.  Each transaction of `OpenRestore` and
`CommitRestore` is one step with its own reading of the clock, except that
`_mark_streaming` reads the item before its transaction begins and writes it back
without a guard: these are two steps.  Between two steps of a call any other calls
may run, and a call may stop for ever.
-/

namespace Sutradhara
namespace Restore

open Foundation Option
open Foundation.Interleaving

/-- The bytes of a digest. -/
abbrev Digest := List UInt8

/-! ## Rows -/

/-- State of a restore item. -/
inductive ItemState
  | queued
  | wakingDisk
  | streaming
  | sent
  | done
  | fellBackToTape
  | denied
  | failed
  deriving DecidableEq

/-- Where the bytes of an item come from. -/
inductive Source
  | cache
  | tape

/-- `RestoreRequest`, as far as the agent service reads it. -/
structure RestoreRequest where
  deliveryMode : String
  receiverDeviceId : Option String

/-- `RestoreRequestItem`. -/
structure RestoreRequestItem where
  id : Nat
  finalRelPath : Option String
  sizeBytes : Option Nat
  contentSha256 : Digest
  state : ItemState
  source : Option Source
  bytesRestored : Nat

/-- `RestoreItemCheckpoint`. -/
structure RestoreItemCheckpoint where
  manifestSha256 : Digest
  committedIndex : Nat
  revealed : Bool

/-- `RestoreOpenSession`: the lease of an item. -/
structure RestoreOpenSession where
  receiverDeviceId : String
  manifestSha256 : Digest
  generation : Nat
  expiresAt : Int

/-- The rows of one item. -/
structure Rows where
  request : RestoreRequest
  item : RestoreRequestItem
  checkpoint : Option RestoreItemCheckpoint
  openSession : Option RestoreOpenSession

/-! ## Messages -/

/-- The status codes of refused calls. -/
inductive StatusCode
  | failedPrecondition
  | permissionDenied
  | alreadyExists
  | resourceExhausted

/-- A refused call. -/
structure Abort where
  code : StatusCode
  message : String

def unmet (message : String) : Abort := ⟨.failedPrecondition, message⟩
def denied (message : String) : Abort := ⟨.permissionDenied, message⟩

/-- A lease as the agent presents it. -/
structure LeaseToken where
  restoreRequestItemId : Nat
  receiverDeviceId : String
  manifestSha256 : Digest
  generation : Nat

structure ResumeToken where
  restoreRequestItemId : Nat
  manifestSha256 : Digest

structure OpenRequest where
  restoreRequestItemId : Nat
  leaseToken : Option LeaseToken
  resumeToken : Option ResumeToken

inductive DurableState
  | unspecified
  | staged
  | revealed
  deriving DecidableEq

structure CommitRequest where
  restoreRequestItemId : Nat
  manifestSha256 : Digest
  leaseToken : Option LeaseToken
  committedIndex : Nat
  durableState : DurableState

inductive CommitStatus
  | advanced
  | unchanged
  | revealed
  | alreadyDone

structure CommitReply where
  status : CommitStatus
  committedIndex : Nat
  revealed : Bool

/-! ## The manifest -/

/-- A number in network byte order. -/
def bigEndian (width value : Nat) : List UInt8 :=
  (List.range width).reverse.map fun place => UInt8.ofNat (value / 256 ^ place)

/-- `_MANIFEST_DOMAIN`. -/
def manifestDomain : List UInt8 := "sutradhara.restore.manifest.v1".toUTF8.toList ++ [0]

/-- The bytes that `_manifest_digest` hashes for the single file of an item. -/
def manifestBytes (finalRelPath : String) (size : Nat) (contentSha256 : Digest) : List UInt8 :=
  let path := finalRelPath.toUTF8.toList
  manifestDomain ++ bigEndian 4 1 ++ bigEndian 4 path.length ++ path ++
    bigEndian 8 size ++ contentSha256

/-- What the service is configured with and does not compute. -/
structure Service where
  sha256 : List UInt8 → Digest
  /-- `validate_restore_relative_path`. -/
  validateRelativePath : String → Except String String
  leaseDuration : Int

/-! ## Opening -/

/-- `_PreparedOpen`, without the source that the stream reads from. -/
structure PreparedOpen where
  deviceId : String
  originalState : ItemState
  size : Nat
  manifestSha256 : Digest
  source : Source
  committedIndex : Nat
  revealed : Bool
  expectedGeneration : Option Nat

/-- `_Lease`. -/
structure Lease where
  deviceId : String
  manifestSha256 : Digest
  generation : Nat
  expiresAt : Int

/-- What an open asks of its surroundings before it leases: the enrolment and
scope of the device, its destination, the capabilities of its operator, and a
verified source. -/
structure Admission where
  device : Option Abort
  destination : Option Abort
  capabilities : Option Abort
  source : Option Abort

section

variable (service : Service) (rows : Rows) (request : OpenRequest) (deviceId : String)
  (admission : Admission) (digest : Digest) (prepared : PreparedOpen) (lease : Lease) (now : Int)

/-- Whether an item in this state can be opened at all. -/
def streamable : Bool :=
  match rows.item.state with
  | .queued | .sent => true
  | .streaming => rows.openSession.isSome
  | .done => rows.checkpoint.any RestoreItemCheckpoint.revealed
  | _ => false

/-- The refusal of a presented lease token. -/
def leaseTokenFault : Option LeaseToken → Option Abort
  | none => none
  | some supplied =>
    if supplied.restoreRequestItemId ≠ rows.item.id ∨
        supplied.receiverDeviceId ≠ deviceId ∨
        supplied.manifestSha256 ≠ digest then
      some (unmet "lease token does not match")
    else if rows.openSession.any fun session =>
        session.generation = supplied.generation then
      none
    else some (unmet "lease generation is stale or superseded")

/-- The refusal of a presented resume token. -/
def resumeTokenFault (leaseToken : Option LeaseToken) : Option ResumeToken → Option Abort
  | none => none
  | some resume =>
    if resume.restoreRequestItemId ≠ rows.item.id ∨ resume.manifestSha256 ≠ digest then
      some (unmet "resume token manifest does not match the frozen plan")
    else if leaseToken.isNone then some (unmet "resume requires the prior lease generation")
    else none

/-- The checks of `_prepare_open` up to the manifest of the item: its path and
its size. -/
def admitOpen : Except Abort (String × Nat) :=
  if request.restoreRequestItemId = 0 then .error (unmet "restore item id must be positive")
  else
    match admission.device with
    | some abort => .error abort
    | none =>
      if request.restoreRequestItemId ≠ rows.item.id then
        .error (unmet "restore item is unavailable")
      else if rows.request.deliveryMode ≠ "agent" then .error (unmet "item is not agent-delivery")
      else if rows.request.receiverDeviceId ≠ some deviceId then
        .error (denied "device is not the bound receiver")
      else if !streamable rows then .error (unmet "item is not streamable")
      else
        match admission.destination, admission.capabilities with
        | some abort, _ => .error abort
        | none, some abort => .error abort
        | none, none =>
          match rows.item.finalRelPath, rows.item.sizeBytes with
          | some path, some size =>
            match service.validateRelativePath path with
            | .error message => .error (unmet message)
            | .ok valid => .ok (valid, size)
          | _, _ => .error (unmet "item manifest is incomplete")

/-- The checkpoint that an open works with, which it creates if there is none. -/
def freezeCheckpoint : RestoreItemCheckpoint := rows.checkpoint.getD ⟨digest, 0, false⟩

/-- `_prepare_open`.  The checkpoint is committed before a source is looked for. -/
def prepareOpen : Rows × Except Abort PreparedOpen :=
  match admitOpen service rows request deviceId admission with
  | .error abort => (rows, .error abort)
  | .ok (path, size) =>
    let digest := service.sha256 (manifestBytes path size rows.item.contentSha256)
    let checkpoint := freezeCheckpoint rows digest
    if checkpoint.manifestSha256 ≠ digest then
      (rows, .error (unmet "server-frozen restore manifest changed"))
    else
      match leaseTokenFault rows deviceId digest request.leaseToken with
      | some abort => (rows, .error abort)
      | none =>
        match resumeTokenFault rows digest request.leaseToken request.resumeToken with
        | some abort => (rows, .error abort)
        | none =>
          let frozen := { rows with checkpoint := some checkpoint }
          let prepared : PreparedOpen :=
            { deviceId := deviceId
              originalState :=
                if checkpoint.revealed then rows.item.state
                else if rows.item.state = .streaming then .queued
                else rows.item.state
              size := size
              manifestSha256 := digest
              source :=
                if checkpoint.revealed ∨ 0 < checkpoint.committedIndex then
                  rows.item.source.getD .cache
                else .cache
              committedIndex := checkpoint.committedIndex
              revealed := checkpoint.revealed
              expectedGeneration := request.leaseToken.map LeaseToken.generation }
          if checkpoint.revealed ∨ 0 < checkpoint.committedIndex then (frozen, .ok prepared)
          else
            match admission.source with
            | some abort => (frozen, .error abort)
            | none => (frozen, .ok prepared)

/-- `_acquire_lease`. -/
def acquireLease : Except Abort (Rows × Lease) :=
  let expires := now + service.leaseDuration
  let granted := fun generation =>
    (({ rows with
      openSession := some ⟨prepared.deviceId, prepared.manifestSha256, generation, expires⟩ },
      ⟨prepared.deviceId, prepared.manifestSha256, generation, expires⟩) : Rows × Lease)
  match rows.openSession with
  | some session =>
    if session.expiresAt ≤ now ∧ prepared.expectedGeneration.all (· = session.generation) then
      .ok (granted (session.generation + 1))
    else if prepared.expectedGeneration.isSome then
      .error (unmet "lease generation is stale, live, or superseded")
    else .error ⟨.alreadyExists, "restore item has a live open"⟩
  | none =>
    if prepared.expectedGeneration.isSome then
      .error (unmet "lease generation is stale, live, or superseded")
    else .ok (granted 1)

/-- The read of `_mark_streaming`.  `none` is the error of an item that ceased to be
streamable. -/
def readStreamable : Option RestoreRequestItem :=
  match rows.item.state with
  | .queued | .sent | .streaming => some rows.item
  | _ => none

/-- The write of `_mark_streaming`: the columns that differ from what was read are
set, whatever the item has become. -/
def markStreaming (read : RestoreRequestItem) : Rows :=
  { rows with
    item :=
      { rows.item with
        state := if read.state = .streaming then rows.item.state else .streaming
        bytesRestored := if read.bytesRestored = 0 then rows.item.bytesRestored else 0 } }

/-- The lease row is the one of a lease. -/
def holdsLease : Bool :=
  rows.openSession.any fun session =>
    session.receiverDeviceId = lease.deviceId &&
      session.manifestSha256 = lease.manifestSha256 &&
      session.generation = lease.generation

/-- `_mark_sent`: the rows, and whether one was updated. -/
def markSent (emittedBytes : Nat) (now : Int) : Rows × Bool :=
  if rows.item.state = .streaming ∧ holdsLease rows lease ∧
      rows.openSession.any fun session => now < session.expiresAt then
    ({ rows with
      item :=
        { rows.item with
          state := .sent
          source := some prepared.source
          bytesRestored := emittedBytes } }, true)
  else (rows, false)

/-- `_restore_interrupted_state`. -/
def restoreInterruptedState : Rows :=
  if rows.item.state = .streaming ∧ holdsLease rows lease then
    { rows with
      item :=
        { rows.item with
          state := prepared.originalState
          bytesRestored := 0 } }
  else rows

/-- `_release_lease`. -/
def releaseLease : Rows :=
  if holdsLease rows lease then
    { rows with
      openSession := rows.openSession.map fun session => { session with expiresAt := now } }
  else rows

end

/-! ## Committing -/

section

variable (rows : Rows) (request : CommitRequest) (checkpoint : RestoreItemCheckpoint)
  (deviceId : String) (device : Option Abort)

/-- The checks of `CommitRestore` that read no row: the presented token. -/
def admitCommit : Except Abort LeaseToken :=
  match device with
  | some abort => .error abort
  | none =>
    if request.restoreRequestItemId = 0 then .error (unmet "restore item id must be positive")
    else if request.manifestSha256.length ≠ 32 then .error (unmet "manifest digest is invalid")
    else
      match request.leaseToken with
      | none => .error (unmet "lease token is required")
      | some token =>
        if token.restoreRequestItemId ≠ request.restoreRequestItemId ∨
            token.receiverDeviceId ≠ deviceId ∨
            token.manifestSha256 ≠ request.manifestSha256 ∨
            token.generation = 0 then
          .error (unmet "lease token does not match")
        else if 1 < request.committedIndex then .error (unmet "committed index exceeds manifest")
        else if request.durableState = .unspecified then .error (unmet "durable state is invalid")
        else if request.durableState = .revealed ∧ request.committedIndex ≠ 1 then
          .error (unmet "revealed commit must cover manifest")
        else .ok token

/-- The checkpoint and the lease that the preconditions of a commit select. -/
def selectForCommit (generation : Nat) : Option (RestoreItemCheckpoint × RestoreOpenSession) :=
  match rows.checkpoint, rows.openSession with
  | some checkpoint, some session =>
    if rows.item.id = request.restoreRequestItemId ∧
        checkpoint.manifestSha256 = request.manifestSha256 ∧
        rows.request.receiverDeviceId = some deviceId ∧
        session.receiverDeviceId = deviceId ∧
        session.manifestSha256 = request.manifestSha256 ∧
        session.generation = generation then
      some (checkpoint, session)
    else none
  | _, _ => none

/-- The checkpoint after the guarded update of a commit, if it updates a row. -/
def advanceCheckpoint (request : CommitRequest) (live : Bool) : Option RestoreItemCheckpoint :=
  if live = true ∧ checkpoint.revealed = false then
    if request.durableState = .revealed then
      some { checkpoint with
        committedIndex := request.committedIndex
        revealed := true }
    else if checkpoint.committedIndex < request.committedIndex then
      some { checkpoint with committedIndex := request.committedIndex }
    else none
  else none

/-- The end of a commit whose update changed no row. -/
def unchangedReply (live : Bool) : Except Abort CommitReply :=
  if live = false ∧ checkpoint.revealed = false then .error (unmet "restore lease has expired")
  else if request.durableState = .revealed then
    if checkpoint.revealed = true ∧ rows.item.state = .done then
      .ok ⟨.alreadyDone, checkpoint.committedIndex, checkpoint.revealed⟩
    else .error (unmet "restore reveal could not be committed")
  else
    .ok ⟨if checkpoint.revealed then .alreadyDone else .unchanged,
      checkpoint.committedIndex, checkpoint.revealed⟩

/-- The transaction of `CommitRestore`.  An abort rolls it back. -/
def commitRestore (now : Int) : Rows × Except Abort CommitReply :=
  match admitCommit request deviceId device with
  | .error abort => (rows, .error abort)
  | .ok token =>
    match selectForCommit rows request deviceId token.generation with
    | none => (rows, .error (unmet "manifest, receiver, or lease generation does not match"))
    | some (checkpoint, session) =>
      let live := decide (now < session.expiresAt)
      match advanceCheckpoint checkpoint request live with
      | none => (rows, unchangedReply rows request checkpoint live)
      | some advanced =>
        if request.durableState = .revealed then
          if rows.item.state = .sent then
            ({ rows with
              checkpoint := some advanced
              item := { rows.item with state := .done } },
              .ok ⟨.revealed, advanced.committedIndex, advanced.revealed⟩)
          else (rows, .error (unmet "restore item has not reached sent"))
        else
          ({ rows with checkpoint := some advanced },
            .ok ⟨.advanced, advanced.committedIndex, advanced.revealed⟩)

end

/-! ## Calls -/

/-- Where an open stands between two of its transactions. -/
inductive Opening
  | start (request : OpenRequest) (deviceId : String)
  | leasing (prepared : PreparedOpen)
  | marking (prepared : PreparedOpen) (lease : Lease)
  | marked (prepared : PreparedOpen) (lease : Lease) (read : RestoreRequestItem)
  | streaming (prepared : PreparedOpen) (lease : Lease)
  | sending (prepared : PreparedOpen) (lease : Lease) (emittedBytes : Nat)
  | interrupting (prepared : PreparedOpen) (lease : Lease)
  | releasing (lease : Lease)
  | ended (outcome : Except Abort Bool)

/-- Where a commit stands. -/
inductive Committing
  | start (request : CommitRequest) (deviceId : String)
  | ended (outcome : Except Abort CommitReply)

/-- One call of the service. -/
inductive Call
  | opening (stage : Opening)
  | committing (stage : Committing)

/-- What the surroundings answer to a step of a call. -/
inductive Answer
  | admission (admission : Admission)
  | identified (device : Option Abort) (now : Int)
  | clock (now : Int)
  | streamed
  | interrupted

section

variable (service : Service) (rows : Rows)

/-- One step of `OpenRestore`.  An already committed file is not sent again. -/
def stepOpening : Opening → Answer → Option (Rows × Opening)
  | .start request deviceId, .admission admission =>
    match prepareOpen service rows request deviceId admission with
    | (next, .error abort) => some (next, .ended (.error abort))
    | (next, .ok prepared) =>
      if prepared.revealed then some (next, .ended (.ok true))
      else some (next, .leasing prepared)
  | .leasing prepared, .clock now =>
    match acquireLease service rows prepared now with
    | .error abort => some (rows, .ended (.error abort))
    | .ok (next, lease) => some (next, .marking prepared lease)
  | .marking prepared lease, .clock _ =>
    match readStreamable rows with
    | none => some (rows, .interrupting prepared lease)
    | some read => some (rows, .marked prepared lease read)
  | .marked prepared lease read, .clock _ =>
    some (markStreaming rows read, .streaming prepared lease)
  | .streaming prepared lease, .streamed =>
    some (rows, .sending prepared lease (if 0 < prepared.committedIndex then 0 else prepared.size))
  | .streaming prepared lease, .interrupted => some (rows, .interrupting prepared lease)
  | .sending prepared lease emittedBytes, .clock now =>
    match markSent rows prepared lease emittedBytes now with
    | (next, true) => some (next, .ended (.ok true))
    | (next, false) => some (next, .interrupting prepared lease)
  | .interrupting prepared lease, .clock _ =>
    some (restoreInterruptedState rows prepared lease, .releasing lease)
  | .releasing lease, .clock now => some (releaseLease rows lease now, .ended (.ok false))
  | _, _ => none

/-- One step of `CommitRestore`. -/
def stepCommitting : Committing → Answer → Option (Rows × Committing)
  | .start request deviceId, .identified device now =>
    let result := commitRestore rows request deviceId device now
    some (result.1, .ended result.2)
  | _, _ => none

/-- One step of a call. -/
def stepCall : Call → Answer → Option (Rows × Call)
  | .opening stage, answer =>
    (stepOpening service rows stage answer).map fun result => (result.1, .opening result.2)
  | .committing stage, answer =>
    (stepCommitting rows stage answer).map fun result => (result.1, .committing result.2)

/-- Calls enter at their start. -/
def entering : Call → Bool
  | .opening (.start ..) => true
  | .committing (.start ..) => true
  | _ => false

/-- Any number of calls on one item. -/
def program : Program Rows Call Answer where
  initial := entering
  step _ rows call answer := stepCall service rows call answer

/-! ## What every step keeps -/

/-- The item is done exactly when its checkpoint is revealed, and no index
exceeds the manifest. -/
structure Sound (rows : Rows) : Prop where
  done_iff : rows.item.state = .done ↔
    ∃ checkpoint, rows.checkpoint = some checkpoint ∧ checkpoint.revealed = true
  index : ∀ checkpoint, rows.checkpoint = some checkpoint → checkpoint.committedIndex ≤ 1

/-- An open that has read the item and is about to write its state back. -/
def Call.marks : Call → Bool
  | .opening (.marked _ _ read) => read.state ≠ .streaming
  | _ => false

/-- What a call relies on: a leased open falls back to a state that is not done, and
while it is about to write, the item is not done. -/
def Call.Relies : Call → Prop
  | .opening (.leasing prepared) | .opening (.marking prepared _)
  | .opening (.streaming prepared _) | .opening (.sending prepared _ _)
  | .opening (.interrupting prepared _) => prepared.originalState ≠ .done
  | .opening (.marked prepared _ read) => prepared.originalState ≠ .done ∧
    (read.state ≠ .streaming → rows.item.state ≠ .done)
  | _ => True

/-- The lease that a call holds or has just been granted. -/
def Call.lease? : Call → Option Lease
  | .opening (.marking _ lease) | .opening (.marked _ lease _)
  | .opening (.streaming _ lease) | .opening (.sending _ lease _) | .opening (.interrupting _ lease)
  | .opening (.releasing lease) => some lease
  | _ => none

/-- A commit that carries what a change of the checkpoint asks for. -/
def Authorised (call : Call) (answer : Answer) : Prop :=
  ∃ request deviceId device now token checkpoint session,
    call = .committing (.start request deviceId) ∧
    answer = .identified device now ∧
    rows.checkpoint = some checkpoint ∧
    rows.openSession = some session ∧
    request.leaseToken = some token ∧
    token.generation = session.generation ∧
    now < session.expiresAt ∧
    session.receiverDeviceId = deviceId ∧
    rows.request.receiverDeviceId = some deviceId ∧
    request.manifestSha256 = checkpoint.manifestSha256

end

/-- What one step of a call does to the rows of its item. -/
structure Safe (rows : Rows) (call : Call) (answer : Answer) (next : Rows)
    (call' : Call) : Prop where
  generation : ∀ session, rows.openSession = some session →
    ∃ session', next.openSession = some session' ∧ session.generation ≤ session'.generation
  granted : ∀ lease, call.lease? = none → call'.lease? = some lease →
    ∀ session, rows.openSession = some session → session.generation < lease.generation
  checkpoint : ∀ checkpoint, rows.checkpoint = some checkpoint →
    ∃ checkpoint', next.checkpoint = some checkpoint' ∧
      checkpoint'.manifestSha256 = checkpoint.manifestSha256 ∧
      checkpoint.committedIndex ≤ checkpoint'.committedIndex ∧
      (checkpoint.revealed = true → checkpoint'.revealed = true)
  authorised : ∀ checkpoint, rows.checkpoint = some checkpoint →
    next.checkpoint ≠ some checkpoint → Authorised rows call answer

/-- What the rows of an item and the calls on it are to be like. -/
structure LeaseSafe (service : Service) (config : Config Rows Call) : Prop where
  sound : Sound config.shared
  safe : ∀ index answer next, (program service).move config (.act index answer) = some next →
    ∃ call call', config.threads[index]? = some call ∧ next.threads[index]? = some call' ∧
      Safe config.shared call answer next.shared call'

/-- Every run from sound rows is safe. -/
def LeaseSafeLaw : Prop :=
  ∀ service rows moves config, Sound rows →
    Transition.run (program service).move ⟨rows, []⟩ moves = some config → LeaseSafe service config

/-- A commit that asks to reveal a sent item under its current, unexpired lease. -/
def CommitRequest.reveals (request : CommitRequest) (rows : Rows) (now : Int) : Bool :=
  request.durableState = .revealed && rows.item.state = .sent && rows.openSession.any fun session =>
      now < session.expiresAt &&
        request.leaseToken.any fun token => token.generation = session.generation

/-- No commit reveals while an open stands between the read and the write of
`_mark_streaming`. -/
def careful (config : Config Rows Call) : Move Call Answer → Bool
  | .act index (.identified _ now) =>
    match config.threads[index]? with
    | some (.committing (.start request _)) =>
      !request.reveals config.shared now || !config.threads.any Call.marks
    | _ => true
  | _ => true

/-- A step that leaves checkpoint and lease alone and grants nothing is safe. -/
theorem safe_of_same
    (checkpoint : next.checkpoint = rows.checkpoint)
    (openSession : next.openSession = rows.openSession)
    (lease : call'.lease? = none ∨ call.lease?.isSome = true) :
    Safe rows call answer next call' where
  generation session present := ⟨session, openSession.trans present, Nat.le_refl _⟩
  granted lease' none_ some_ := by
    rcases lease with absent | present
    · rw [absent] at some_
      cases some_
    · rw [none_] at present
      cases present
  checkpoint checkpoint' present :=
    ⟨checkpoint', checkpoint.trans present, rfl, Nat.le_refl _, id⟩
  authorised checkpoint' present changed := absurd (checkpoint.trans present) changed

/-- Moving an item between states other than done keeps its rows sound. -/
theorem Sound.withState
    (sound : Sound rows)
    (checkpoint : next.checkpoint = rows.checkpoint)
    (before : rows.item.state ≠ .done)
    (after : next.item.state ≠ .done) : Sound next where
  done_iff := by
    rw [checkpoint, ← sound.done_iff]
    exact ⟨fun done => absurd done after, fun done => absurd done before⟩
  index := by
    rw [checkpoint]
    exact sound.index

/-- Rows that differ in the lease alone are as sound as before. -/
theorem Sound.withSession (sound : Sound rows) : Sound { rows with openSession := openSession } :=
  ⟨sound.done_iff, sound.index⟩

/-! ### Opening -/

/-- A prepared open has frozen the checkpoint, and falls back to a state that is
not done unless everything is revealed already. -/
theorem prepareOpen_spec
    (prepares : prepareOpen service rows request deviceId admission = (next, result)) :
    (next = rows ∧ ∀ prepared, result ≠ .ok prepared) ∨ ∃ digest, next = { rows with
          checkpoint := some (freezeCheckpoint rows digest) } ∧
        ∀ prepared, result = .ok prepared →
          prepared.revealed = (freezeCheckpoint rows digest).revealed ∧
            (prepared.revealed = false → prepared.originalState =
              if rows.item.state = .streaming then .queued
              else rows.item.state) := by
  unfold prepareOpen at prepares
  split at prepares
  · cases prepares
    exact .inl ⟨rfl, nofun⟩
  next path size _ =>
    dsimp only at prepares
    split at prepares
    · cases prepares
      exact .inl ⟨rfl, nofun⟩
    · split at prepares
      · cases prepares
        exact .inl ⟨rfl, nofun⟩
      · split at prepares
        · cases prepares
          exact .inl ⟨rfl, nofun⟩
        · refine .inr ⟨service.sha256 (manifestBytes path size rows.item.contentSha256), ?_⟩
          split at prepares
          · cases prepares
            refine ⟨rfl, fun prepared equal => ?_⟩
            cases equal
            exact ⟨rfl, fun hidden => if_neg (by simpa using hidden)⟩
          · split at prepares
            · cases prepares
              exact ⟨rfl, nofun⟩
            · cases prepares
              refine ⟨rfl, fun prepared equal => ?_⟩
              cases equal
              exact ⟨rfl, fun hidden => if_neg (by simpa using hidden)⟩

theorem Sound.freeze (sound : Sound rows) :
    Sound { rows with checkpoint := some (freezeCheckpoint rows digest) } := by
  cases present : rows.checkpoint with
  | some checkpoint =>
    have same : { rows with
        checkpoint := some (freezeCheckpoint rows digest) } = rows := by
      rw [freezeCheckpoint, present, getD_some, ← present]
    rw [same]
    exact sound
  | none =>
    have fresh : freezeCheckpoint rows digest = ⟨digest, 0, false⟩ := by
      rw [freezeCheckpoint, present]
      rfl
    rw [fresh]
    refine ⟨⟨fun done => ?_, ?_⟩, ?_⟩
    · obtain ⟨checkpoint, found, _⟩ := sound.done_iff.mp done
      rw [present] at found
      cases found
    · rintro ⟨checkpoint, found, revealed⟩
      cases found
      cases revealed
    · rintro checkpoint found
      cases found
      exact Nat.zero_le _

/-- Freezing creates a checkpoint or leaves the one there is. -/
theorem safe_freeze (lease : call'.lease? = none) : Safe rows call answer
      { rows with checkpoint := some (freezeCheckpoint rows digest) } call' := by
  have kept : ∀ checkpoint, rows.checkpoint = some checkpoint →
      some (freezeCheckpoint rows digest) = some checkpoint := by
    intro checkpoint present
    rw [freezeCheckpoint, present, getD_some]
  refine ⟨fun session present => ⟨session, present, Nat.le_refl _⟩, ?_, ?_, ?_⟩
  · intro lease' _ granted
    rw [lease] at granted
    cases granted
  · intro checkpoint present
    exact ⟨checkpoint, kept checkpoint present, rfl, Nat.le_refl _, id⟩
  · intro checkpoint present changed
    exact absurd (kept checkpoint present) changed

/-- A granted lease has a new generation. -/
theorem acquireLease_eq_ok
    (acquired : acquireLease service rows prepared now = .ok (next, lease)) :
    ∃ session', next = { rows with openSession := some session' } ∧
      session'.generation = lease.generation ∧
      ∀ session, rows.openSession = some session → session.generation < lease.generation := by
  unfold acquireLease at acquired
  split at acquired
  next session present =>
    split at acquired
    · cases acquired
      refine ⟨_, rfl, rfl, fun other found => ?_⟩
      rw [present] at found
      cases found
      exact Nat.lt_succ_self _
    · split at acquired <;> cases acquired
  next absent =>
    split at acquired
    · cases acquired
    · cases acquired
      refine ⟨_, rfl, rfl, fun other found => ?_⟩
      rw [absent] at found
      cases found

theorem safe_acquireLease
    (acquired : acquireLease service rows prepared now = .ok (next, lease)) :
    Safe rows call answer next (.opening (.marking prepared lease)) := by
  obtain ⟨session', rfl, same, above⟩ := acquireLease_eq_ok acquired
  refine ⟨?_, ?_, ?_, ?_⟩
  · intro session present
    exact ⟨session', rfl, same ▸ Nat.le_of_lt (above session present)⟩
  · rintro lease' _ ⟨⟩ session present
    exact above session present
  · exact fun checkpoint present => ⟨checkpoint, present, rfl, Nat.le_refl _, id⟩
  · exact fun checkpoint present changed => absurd present changed

/-- Marking an item sent changes a streaming item only. -/
theorem markSent_spec (marked : markSent rows prepared lease emittedBytes now = (next, updated)) :
    next = rows ∨ (rows.item.state = .streaming ∧ next.item.state = .sent ∧
        next.checkpoint = rows.checkpoint ∧
        next.openSession = rows.openSession) := by
  unfold markSent at marked
  split at marked
  next guard =>
    cases marked
    exact .inr ⟨guard.1, rfl, rfl, rfl⟩
  · cases marked
    exact .inl rfl

variable {rows : Rows}

variable {now : Int}

theorem releaseLease_spec : ∃ openSession,
      releaseLease rows lease now = { rows with openSession := openSession } ∧
      ∀ session, rows.openSession = some session → ∃ session', openSession = some session' ∧
          session.generation ≤ session'.generation := by
  unfold releaseLease
  split
  · refine ⟨_, rfl, fun session present => ?_⟩
    rw [present]
    exact ⟨_, rfl, Nat.le_refl _⟩
  · exact ⟨rows.openSession, rfl, fun session present => ⟨session, present, Nat.le_refl _⟩⟩

/-- Under a lease the rows may stay or the item may leave the streaming state. -/
theorem Sound.safe_of_moved
    (sound : Sound rows)
    (moved : next = rows ∨ (rows.item.state = .streaming ∧ next.item.state = state ∧
      next.checkpoint = rows.checkpoint ∧ next.openSession = rows.openSession))
    (unfinished : state ≠ .done)
    (leased : call.lease?.isSome = true) :
    Safe rows call answer next call' ∧ Sound next := by
  rcases moved with rfl | ⟨before, after, checkpoint, openSession⟩
  · exact ⟨safe_of_same rfl rfl (.inr leased), sound⟩
  · exact ⟨safe_of_same checkpoint openSession (.inr leased),
      sound.withState checkpoint (by rw [before]; decide) (after ▸ unfinished)⟩

theorem unfinished_of_readStreamable
    {read : RestoreRequestItem}
    (isRead : readStreamable rows = some read) :
    rows.item.state ≠ .done := by
  unfold readStreamable at isRead
  split at isRead
  all_goals first
    | cases isRead; done
    | next state =>
      rw [state]
      decide

/-- Writing the streaming state over an item that is not done. -/
theorem Sound.markStreaming
    {read : RestoreRequestItem}
    (sound : Sound rows)
    (unfinished : read.state ≠ .streaming → rows.item.state ≠ .done) :
    Sound (markStreaming rows read) := by
  by_cases same : read.state = .streaming
  · refine ⟨?_, sound.index⟩
    simp only [Restore.markStreaming, same, if_true]
    exact sound.done_iff
  · refine sound.withState rfl (unfinished same) ?_
    simp [Restore.markStreaming, same]

/-- Every step of an open is safe and keeps the rows sound. -/
theorem safe_stepOpening
    (sound : Sound rows)
    (relies : (Call.opening stage).Relies rows)
    (stepped : stepOpening service rows stage answer = some (next, stage')) :
    Safe rows (.opening stage) answer next (.opening stage') ∧ Sound next ∧
      (Call.opening stage').Relies next := by
  unfold stepOpening at stepped
  split at stepped
  · split at stepped
    next abort prepares =>
      cases stepped
      rcases prepareOpen_spec prepares with ⟨rfl, _⟩ | ⟨digest, rfl, _⟩
      · exact ⟨safe_of_same rfl rfl (.inl rfl), sound, trivial⟩
      · exact ⟨safe_freeze rfl, sound.freeze, trivial⟩
    next prepared prepares =>
      rcases prepareOpen_spec prepares with ⟨_, failed⟩ | ⟨digest, rfl, about⟩
      · exact absurd rfl (failed prepared)
      · obtain ⟨same, original⟩ := about prepared rfl
        split at stepped
        · cases stepped
          exact ⟨safe_freeze rfl, sound.freeze, trivial⟩
        next hidden =>
          cases stepped
          rw [Bool.not_eq_true] at hidden
          refine ⟨safe_freeze rfl, sound.freeze, ?_⟩
          show prepared.originalState ≠ .done
          rw [original hidden]
          split
          · decide
          · intro done
            obtain ⟨checkpoint, found, revealed⟩ := sound.done_iff.mp done
            rw [hidden, freezeCheckpoint, found, getD_some, revealed] at same
            cases same
  · split at stepped
    · cases stepped
      exact ⟨safe_of_same rfl rfl (.inl rfl), sound, trivial⟩
    next acquired =>
      cases stepped
      obtain ⟨session', rfl, _⟩ := acquireLease_eq_ok acquired
      exact ⟨safe_acquireLease acquired, sound.withSession, relies⟩
  · split at stepped
    · cases stepped
      exact ⟨safe_of_same rfl rfl (.inr rfl), sound, relies⟩
    next isRead =>
      cases stepped
      exact ⟨safe_of_same rfl rfl (.inr rfl), sound, relies,
        fun _ => unfinished_of_readStreamable isRead⟩
  · cases stepped
    exact ⟨safe_of_same rfl rfl (.inr rfl), sound.markStreaming relies.2, relies.1⟩
  · cases stepped
    exact ⟨safe_of_same rfl rfl (.inr rfl), sound, relies⟩
  · cases stepped
    exact ⟨safe_of_same rfl rfl (.inr rfl), sound, relies⟩
  · split at stepped
    next marked =>
      cases stepped
      exact and_assoc.mp ⟨sound.safe_of_moved (markSent_spec marked) (by decide) rfl, trivial⟩
    next marked =>
      cases stepped
      exact and_assoc.mp ⟨sound.safe_of_moved (markSent_spec marked) (by decide) rfl, relies⟩
  next prepared lease _ =>
    cases stepped
    refine and_assoc.mp ⟨sound.safe_of_moved ?_ relies rfl, trivial⟩
    unfold restoreInterruptedState
    split
    next guard => exact .inr ⟨guard.1, rfl, rfl, rfl⟩
    · exact .inl rfl
  next lease now =>
    cases stepped
    obtain ⟨openSession, same, generation⟩ := releaseLease_spec
    rw [same]
    refine ⟨⟨generation, nofun, ?_, ?_⟩, sound.withSession, trivial⟩
    · exact fun checkpoint present => ⟨checkpoint, present, rfl, Nat.le_refl _, id⟩
    · exact fun checkpoint present changed => absurd present changed
  · cases stepped

/-- No step of an open ends an item. -/
theorem done_of_stepOpening
    (relies : (Call.opening stage).Relies rows)
    (stepped : stepOpening service rows stage answer = some (next, stage'))
    (finished : next.item.state = .done) : rows.item.state = .done := by
  have moved : ∀ state, state ≠ .done → (next = rows ∨ (rows.item.state = .streaming ∧
      next.item.state = state ∧ next.checkpoint = rows.checkpoint ∧
      next.openSession = rows.openSession)) → rows.item.state = .done := by
    rintro state unfinished (rfl | ⟨_, left, _⟩)
    · exact finished
    · exact absurd (left.symm.trans finished) unfinished
  unfold stepOpening at stepped
  split at stepped
  · split at stepped
    next prepares =>
      cases stepped
      rcases prepareOpen_spec prepares with ⟨rfl, _⟩ | ⟨digest, rfl, _⟩ <;> exact finished
    next prepares =>
      rcases prepareOpen_spec prepares with ⟨rfl, _⟩ | ⟨digest, rfl, _⟩ <;>
        split at stepped <;> cases stepped <;> exact finished
  · split at stepped
    · cases stepped
      exact finished
    next acquired =>
      cases stepped
      obtain ⟨session', rfl, _⟩ := acquireLease_eq_ok acquired
      exact finished
  · split at stepped <;> cases stepped <;> exact finished
  · cases stepped
    simp only [markStreaming] at finished
    split at finished
    · exact finished
    · cases finished
  · cases stepped
    exact finished
  · cases stepped
    exact finished
  · split at stepped
    next marked =>
      cases stepped
      exact moved .sent (by decide) (markSent_spec marked)
    next marked =>
      cases stepped
      exact moved .sent (by decide) (markSent_spec marked)
  next prepared lease _ =>
    cases stepped
    refine moved prepared.originalState relies ?_
    unfold restoreInterruptedState
    split
    next guard => exact .inr ⟨guard.1, rfl, rfl, rfl⟩
    · exact .inl rfl
  next lease now =>
    cases stepped
    obtain ⟨openSession, same, _⟩ := releaseLease_spec
    rw [same] at finished
    exact finished
  · cases stepped

/-! ### Committing -/

/-- What an admitted commit presents. -/
theorem admitCommit_eq_ok (admitted : admitCommit request deviceId device = .ok token) :
    request.leaseToken = some token ∧ request.committedIndex ≤ 1 ∧
      (request.durableState = .revealed → request.committedIndex = 1) := by
  unfold admitCommit at admitted
  split at admitted
  · cases admitted
  · split at admitted
    · cases admitted
    · split at admitted
      · cases admitted
      · split at admitted
        · cases admitted
        next presented =>
          split at admitted
          · cases admitted
          · split at admitted
            · cases admitted
            next bounded =>
              split at admitted
              · cases admitted
              · split at admitted
                · cases admitted
                next covered =>
                  cases admitted
                  refine ⟨presented, Nat.not_lt.mp bounded, ?_⟩
                  intro revealing
                  by_contra short
                  exact covered ⟨revealing, short⟩

/-- What the preconditions of a commit say about the rows. -/
theorem selectForCommit_eq_some
    (selected : selectForCommit rows request deviceId generation = some (checkpoint, session)) :
    rows.checkpoint = some checkpoint ∧ rows.openSession = some session ∧
      checkpoint.manifestSha256 = request.manifestSha256 ∧
      rows.request.receiverDeviceId = some deviceId ∧
      session.receiverDeviceId = deviceId ∧
      session.generation = generation := by
  unfold selectForCommit at selected
  split at selected
  next present leased =>
    split at selected
    next matching =>
      cases selected
      obtain ⟨_, manifest, receiver, device, _, generation⟩ := matching
      exact ⟨present, leased, manifest, receiver, device, generation⟩
    · cases selected
  · cases selected

/-- A guarded update needs a live lease and moves the checkpoint forward. -/
theorem advanceCheckpoint_eq_some
    (advances : advanceCheckpoint checkpoint request live = some advanced) :
    live = true ∧ checkpoint.revealed = false ∧
      advanced.manifestSha256 = checkpoint.manifestSha256 ∧
      advanced.committedIndex = request.committedIndex ∧
      (advanced.revealed = true ↔ request.durableState = .revealed) ∧
      (request.durableState = .revealed ∨ checkpoint.committedIndex < request.committedIndex) := by
  unfold advanceCheckpoint at advances
  split at advances
  next guard =>
    split at advances
    next revealing =>
      cases advances
      exact ⟨guard.1, guard.2, rfl, rfl, by simp [revealing], .inl revealing⟩
    next staging =>
      split at advances
      next below =>
        cases advances
        exact ⟨guard.1, guard.2, rfl, rfl, by simp [guard.2, staging], .inr below⟩
      · cases advances
  · cases advances

/-- A commit leaves the rows alone, or advances the checkpoint under a live lease
and, when it reveals, ends a sent item in the same transaction. -/
theorem commitRestore_cases :
    (commitRestore rows request deviceId device now).1 = rows ∨
      ∃ token checkpoint session advanced, admitCommit request deviceId device = .ok token ∧
        selectForCommit rows request deviceId token.generation = some (checkpoint, session) ∧
        advanceCheckpoint checkpoint request (decide (now < session.expiresAt)) = some advanced ∧
        (commitRestore rows request deviceId device now).1.openSession = rows.openSession ∧
        (commitRestore rows request deviceId device now).1.checkpoint = some advanced ∧
        (commitRestore rows request deviceId device now).1.item.state =
          if request.durableState = .revealed then .done
          else rows.item.state := by
  unfold commitRestore
  cases admitted : admitCommit request deviceId device with
  | error abort => exact .inl rfl
  | ok token =>
    dsimp only
    cases selected : selectForCommit rows request deviceId token.generation with
    | none => exact .inl rfl
    | some pair =>
      obtain ⟨checkpoint, session⟩ := pair
      dsimp only
      cases advances : advanceCheckpoint checkpoint request (decide (now < session.expiresAt)) with
      | none => exact .inl rfl
      | some advanced =>
        dsimp only
        split
        next revealing =>
          split
          · exact .inr ⟨token, checkpoint, session, advanced, rfl, selected,
              advances, rfl, rfl, rfl⟩
          · exact .inl rfl
        · exact .inr ⟨token, checkpoint, session, advanced, rfl, selected, advances, rfl, rfl, rfl⟩

theorem safe_commitRestore (sound : Sound rows) :
    Safe rows (.committing (.start request deviceId)) (.identified device now)
        (commitRestore rows request deviceId device now).1
        (.committing stage') ∧
      Sound (commitRestore rows request deviceId device now).1 := by
  rcases commitRestore_cases with
    same | ⟨token, checkpoint, session, advanced, admitted, selected, advances,
      openSession, written, state⟩
  · rw [same]
    exact ⟨safe_of_same rfl rfl (.inl rfl), sound⟩
  · obtain ⟨presented, bounded, covers⟩ := admitCommit_eq_ok admitted
    obtain ⟨present, leased, manifest, receiver, bound, generation⟩ :=
      selectForCommit_eq_some selected
    obtain ⟨live, hidden, frozen, index, revealed, forward⟩ := advanceCheckpoint_eq_some advances
    have notDone : rows.item.state ≠ .done := by
      intro done
      obtain ⟨other, found, shown⟩ := sound.done_iff.mp done
      rw [present] at found
      cases found
      rw [hidden] at shown
      cases shown
    refine ⟨⟨?_, nofun, ?_, ?_⟩, ⟨?_, ?_⟩⟩
    · intro other found
      exact ⟨other, openSession.trans found, Nat.le_refl _⟩
    · intro other found
      rw [present] at found
      cases found
      refine ⟨advanced, written, frozen, ?_, fun shown => ?_⟩
      · rcases forward with revealing | below
        · rw [index, covers revealing]
          exact sound.index checkpoint present
        · rw [index]
          exact Nat.le_of_lt below
      · rw [hidden] at shown
        cases shown
    · intro _ _ _
      exact ⟨request, deviceId, device, now, token, checkpoint, session, rfl,
        rfl, present, leased, presented, generation.symm,
        of_decide_eq_true live, bound, receiver, manifest.symm⟩
    · rw [state, written]
      constructor
      · intro done
        refine ⟨advanced, rfl, revealed.mpr ?_⟩
        by_contra staging
        rw [if_neg staging] at done
        exact notDone done
      · rintro ⟨other, found, shown⟩
        cases found
        rw [if_pos (revealed.mp shown)]
    · intro other found
      rw [written] at found
      cases found
      rw [index]
      exact bounded

/-- Only a commit that reveals a sent item under its live lease ends the item. -/
theorem done_of_commitRestore
    (finished : (commitRestore rows request deviceId device now).1.item.state = .done) :
    rows.item.state = .done ∨ request.reveals rows now = true := by
  unfold commitRestore at finished
  split at finished
  · exact .inl finished
  next token admitted =>
    split at finished
    · exact .inl finished
    next checkpoint session selected =>
      dsimp only at finished
      split at finished
      · exact .inl finished
      next advanced advances =>
        split at finished
        next revealing =>
          split at finished
          next sent =>
            obtain ⟨presented, _⟩ := admitCommit_eq_ok admitted
            obtain ⟨_, leased, _, _, _, generation⟩ := selectForCommit_eq_some selected
            have live := (advanceCheckpoint_eq_some advances).1
            refine .inr ?_
            simpa [CommitRequest.reveals, revealing, sent, leased, presented, generation] using live
          · exact .inl finished
        · exact .inl finished

/-! ## Every run -/

theorem safe_stepCall
    (sound : Sound rows)
    (relies : call.Relies rows)
    (stepped : stepCall service rows call answer = some (next, call')) :
    Safe rows call answer next call' ∧ Sound next ∧ call'.Relies next := by
  cases call with
  | opening stage =>
    obtain ⟨⟨rows', stage'⟩, taken, same⟩ := map_eq_some_iff.mp stepped
    cases same
    exact safe_stepOpening sound relies taken
  | committing stage =>
    obtain ⟨⟨rows', stage'⟩, taken, same⟩ := map_eq_some_iff.mp stepped
    cases same
    unfold stepCommitting at taken
    split at taken
    next request deviceId device now =>
      cases taken
      obtain ⟨safe, kept⟩ := safe_commitRestore sound
      exact ⟨safe, kept, trivial⟩
    · cases taken

/-- A careful step does not end an item that another call is about to write. -/
theorem Call.Relies.step
    {config : Config Rows Call}
    (allowed : careful config (.act index answer) = true)
    (present : config.threads[index]? = some call)
    (own : call.Relies config.shared)
    (stepped : stepCall service config.shared call answer = some (next, call'))
    (member : other ∈ config.threads)
    (relies : other.Relies config.shared) :
    other.Relies next := by
  have unfinished : other.marks = true → config.shared.item.state ≠ .done →
      next.item.state ≠ .done := by
    intro marks before finished
    cases call with
    | opening stage =>
      obtain ⟨⟨rows', stage'⟩, taken, same⟩ := map_eq_some_iff.mp stepped
      cases same
      exact before (done_of_stepOpening own taken finished)
    | committing stage =>
      obtain ⟨⟨rows', stage'⟩, taken, same⟩ := map_eq_some_iff.mp stepped
      cases same
      unfold stepCommitting at taken
      split at taken
      next request deviceId device now =>
        cases taken
        rcases done_of_commitRestore finished with already | reveals
        · exact before already
        · have marked : config.threads.any Call.marks = true :=
            List.any_eq_true.mpr ⟨other, member, marks⟩
          simp [careful, present, reveals, marked] at allowed
      · cases taken
  cases other with
  | committing stage => trivial
  | opening stage =>
    cases stage with
    | marked prepared lease read =>
      refine ⟨relies.1, fun changed => ?_⟩
      exact unfinished (decide_eq_true changed) (relies.2 changed)
    | _ => exact relies

/-- The rows are sound and every call has what it relies on. -/
def Kept (config : Config Rows Call) : Prop :=
  Program.Annotated Sound (fun rows _ call => call.Relies rows) (fun _ _ => True) config

theorem kept_move
    (kept : Kept config)
    (allowed : careful config move = true)
    (moved : (program service).move config move = some next) : Kept next := by
  refine (program service).annotated_move (fun config move => careful config move = true)
    (fun _ _ _ => trivial) ?_ ?_ config move next kept allowed moved
  · intro config call _ initial _
    refine ⟨fun _ => ?_, fun _ _ _ => trivial⟩
    cases call with
    | committing stage => trivial
    | opening stage =>
      cases stage with
      | start request deviceId => trivial
      | _ => cases initial
  · intro config index answer call rows' call' annotated allowed present stepped
    have own := annotated.thread index call present
    obtain ⟨_, sound, relies⟩ := safe_stepCall annotated.common own stepped
    exact ⟨sound, relies, fun other otherCall _ found =>
      ⟨Call.Relies.step allowed present own stepped (List.mem_of_getElem? found)
        (annotated.thread other otherCall found), trivial⟩⟩

/-- In every run of opens and commits on one item in which no commit reveals between the
read and the write of `_mark_streaming`, the item is done exactly when its checkpoint is
revealed, and every step is safe. -/
theorem leaseSafe_of_careful
    {service : Service}
    {rows : Rows}
    {moves : List (Move Call Answer)}
    {config : Config Rows Call}
    (sound : Sound rows)
    (admitted : Transition.Admits (program service).move
      (fun config move => careful config move = true) ⟨rows, []⟩ moves)
    (ran : Transition.run (program service).move ⟨rows, []⟩ moves = some config) :
    LeaseSafe service config := by
  have kept : Kept config :=
    Transition.invariant_of_admits (program service).move Kept
      (fun _ _ _ before allowed moved => kept_move before allowed moved)
      (Program.annotated_of_idle _ _ sound) admitted ran
  refine ⟨kept.common, fun index answer next moved => ?_⟩
  obtain ⟨call, rows', call', present, stepped, rfl⟩ := (program service).move_act_eq_some moved
  obtain ⟨safe, _⟩ := safe_stepCall kept.common (kept.thread index call present) stepped
  have length : index < config.threads.length := (List.getElem?_eq_some_iff.mp present).1
  exact ⟨call, call', present, by simp [length], safe⟩

/-- A queued item that nobody has opened. -/
def queuedRows : Rows where
  request := ⟨"agent", some "device"⟩
  item := ⟨7, some "clip.mov", some 3, [], .queued, none, 0⟩
  checkpoint := none
  openSession := none

theorem sound_queuedRows : Sound queuedRows :=
  ⟨⟨nofun, fun ⟨_, found, _⟩ => by cases found⟩, nofun⟩

/-- A service with a hash of one value, which suffices for one item. -/
def plainService : Service where
  sha256 _ := List.replicate 32 0
  validateRelativePath path := .ok path
  leaseDuration := 30

/-- An open enters, is leased, and reads the item. -/
def openedMoves (index : Nat) (now : Int) : List (Move Call Answer) :=
  [.spawn (.opening (.start ⟨7, none, none⟩ "device")),
    .act index (.admission ⟨none, none, none, none⟩), .act index (.clock now),
    .act index (.clock now)]

/-- It marks the item and is streamed to its end. -/
def streamedMoves (index : Nat) (now : Int) : List (Move Call Answer) :=
  [.act index (.clock now), .act index .streamed, .act index (.clock now)]

/-- The commit that reveals what the open has delivered. -/
def revealingCommit (generation : Nat) : CommitRequest where
  restoreRequestItemId := 7
  manifestSha256 := List.replicate 32 0
  leaseToken := some ⟨7, "device", List.replicate 32 0, generation⟩
  committedIndex := 1
  durableState := .revealed

theorem leaseSafe_of_careful_revealed : ∃ config,
      Transition.run (program plainService).move ⟨queuedRows, []⟩
        (openedMoves 0 100 ++ streamedMoves 0 110 ++
          [.spawn (.committing (.start (revealingCommit 1) "device")),
            .act 1 (.identified none 120)]) = some config ∧
      config.shared.item.state = .done ∧ LeaseSafe plainService config := by
  refine (map_eq_some_iff.mp ?_).imp fun config seen =>
    ⟨seen.1, seen.2, leaseSafe_of_careful sound_queuedRows (by decide +kernel) seen.1⟩
  decide +kernel

/-- An open reads the queued item and stalls until its lease has expired.  A second open
is streamed and its commit reveals.  Then the first one writes. -/
theorem not_leaseSafeLaw : ¬LeaseSafeLaw := by
  intro law
  have seen : (Transition.run (program plainService).move ⟨queuedRows, []⟩
      (openedMoves 0 100 ++ openedMoves 1 200 ++ streamedMoves 1 210 ++
        [.spawn (.committing (.start (revealingCommit 2) "device")),
          .act 2 (.identified none 220), .act 0 (.clock 230)])).map (fun config =>
        (config.shared.item.state, config.shared.checkpoint.map
          RestoreItemCheckpoint.revealed)) = some (.streaming, some true) := by
    decide +kernel
  obtain ⟨config, ran, facts⟩ := map_eq_some_iff.mp seen
  obtain ⟨streaming, revealed⟩ := Prod.mk.inj facts
  obtain ⟨checkpoint, present, shown⟩ := map_eq_some_iff.mp revealed
  have sound := (law plainService queuedRows _ config sound_queuedRows ran).sound
  have done := sound.done_iff.mpr ⟨checkpoint, present, shown⟩
  rw [streaming] at done
  cases done

end Restore
end Sutradhara
