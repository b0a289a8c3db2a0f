import Mathlib.Data.List.Cycle
import Sutradhara.Archive.Sessions
import Sutradhara.Evidence.Writers

/-!
# The fan-out of a flush

A flush builds one artifact for every pool target, compares the members of each
with the claimed snapshot, and only then writes.  The writes cannot be undone,
while the catalog rows of a target live in a savepoint of the one transaction of
the flush.  This module is the transaction with the exceptions of the steps it
models; the history lists what happened outside the catalog.

Left out are the rows of other tables (for roots, exclusions and the manifest an
answer says whether recording them raises), the working directories, and what
follows the seal: the condition of an incomplete flush, the outbox row and the
jobs that are scheduled.
-/

namespace Sutradhara
namespace Archive
namespace Fanout

open Foundation Evidence
open Evidence (Catalog Digest EvidenceError VerifyResult)
open List hiding next after tail count max

/-- Supported representations of a copy. -/
inductive Representation
  | rawBytes
  | remObjectV1
  | remEncryptV1
  | d2tarRaw
  deriving DecidableEq

/-- `PoolTarget`, as far as a flush reads it. -/
structure PoolTarget where
  poolId : String
  backendId : Nat
  backendName : String
  representation : Representation
  keyEpoch : Option String

/-- `MemberInput`, without the source path that only the builder reads. -/
structure MemberInput where
  memberPath : String
  logicalAssetHash : String
  fileSha256 : String
  sizeBytes : Nat
  ingestItemId : Option Nat

/-- `BuiltMember`. -/
structure BuiltMember where
  memberPath : String
  logicalAssetHash : String
  fileSha256 : String
  sizeBytes : Nat
  ingestItemId : Option String

/-- `BuildArtifact`. -/
structure BuildArtifact where
  members : List BuiltMember
  storedDigest : Digest
  recipientEpochs : List String
  manifestPath : Option String

/-- What an `ArchiveFanoutError` that is not transient complains about. -/
inductive Refusal
  | missingSigner
  | notOpen (bundleId : String)
  | noMembers (bundleId : String)
  | missingKeyEpoch (poolId : String)
  | preflightShort (bundleId : String) (required available : Int)
  | allQuarantined (bundleId : String)
  | oversize (memberPath : String)
  | quarantineBound (bundleId : String)
  | unexpectedMember (poolId memberPath : String)
  | logicalHash (memberPath built expected : String)
  | sha256 (memberPath built expected : String)
  | size (memberPath : String) (built expected : Nat)
  | lineage (memberPath : String) (echoed : Option String) (expected : Nat)
  | omittedMembers (poolId : String) (memberPaths : List String)
  | missingRecipientEpochs
  | verifyFailed (detail : String)
  | detail (text : String)

/-- What is raised, as far as the handlers tell exceptions apart. -/
inductive Raised
  | backendError (detail : String)
  | osError (detail : String)
  | runtimeError (detail : String)
  | archiveFanoutError (refusal : Refusal)
  | transientPoolFanoutError (poolId backendName : String)
  | evidenceError (error : EvidenceError)
  | claimLost (bundleId : String)
  | integrityError
  | other (detail : String)

/-- What `except (BackendError, OSError)` catches. -/
def Raised.retryable : Raised → Bool
  | .backendError _ | .osError _ | .transientPoolFanoutError .. => true
  | _ => false

/-- What `except TransientPoolFanoutError` catches. -/
def Raised.transient : Raised → Bool
  | .transientPoolFanoutError .. => true
  | _ => false

/-- What `except ArchiveFanoutError` catches below the transient handler. -/
def Raised.refused : Raised → Bool
  | .archiveFanoutError _ => true
  | _ => false

/-- What happens outside the catalog, by attempt and position of the target. -/
inductive Effect
  | built (attempt target : Nat)
  | validated (attempt target : Nat)
  | writeStarted (attempt target : Nat)
  | wrote (attempt target : Nat) (locator : String)
  deriving DecidableEq

/-- The arguments of `flush_bundle`. -/
structure Request where
  bundleId : String
  token : String
  deliverables : Bool
  signed : Bool
  tapeCapacityBytes : Option Nat
  now : Nat
  producerProcess : String

/-- Whatever the flush asks for and does not compute.  Writes are only reached
by the last attempt, so the answers after them go by target alone. -/
structure Surroundings where
  /-- `bundle_group_targets`. -/
  targets : Except Raised (List PoolTarget)
  availableBytes : Int
  /-- `validate_submission_member_identity`. -/
  identityFault : List BundleMember → Option Raised
  /-- `_member_inputs_for_flush`. -/
  memberInputs : List BundleMember → Except Raised (List MemberInput)
  /-- A row that `_render_flush_map` cannot carry, or what else it raises. -/
  unmappable : List BundleMember → Option (BundleMember × String)
  renderFault : List BundleMember → Option Raised
  /-- `_build_for_target`. -/
  build : Nat → Nat → Except Raised BuildArtifact
  /-- The search for `source map line (\d+)`. -/
  mapLine : String → Option Nat
  /-- The search for the archive path in a digest refusal of the writer. -/
  writerPath : String → Option String
  /-- The name of a minted quarantine bundle. -/
  quarantineId : String
  /-- `write_object_to_pool`, down to the locator of the committed record. -/
  write : Nat → Except Raised String
  /-- `_record_build_locators_and_roots`. -/
  rootsFault : Nat → Option Raised
  /-- `_verify_members_from_copy`. -/
  verify : Nat → Except Raised VerifyResult
  /-- `_record_build_exclusions`. -/
  exclusionsFault : Nat → Option Raised
  /-- `emit_customer_manifest`. -/
  emitManifest : Nat → Except Raised String

/-! ## Building and validating -/

section

variable (world : Surroundings) (rows : List BundleMember) (request : Request)
  (attempt index : Nat) (target : PoolTarget) (artifact : BuildArtifact) (locator : String)
  (members : List MemberInput)

/-- The complaint of `validate_built_members` about one built member. -/
def builtMemberFault (built : BuiltMember) : Option Refusal :=
  match members.reverse.find? fun member => member.memberPath = built.memberPath with
  | none => some (.unexpectedMember target.poolId built.memberPath)
  | some member =>
    if built.logicalAssetHash ≠ member.logicalAssetHash then
      some (.logicalHash built.memberPath built.logicalAssetHash member.logicalAssetHash)
    else if built.fileSha256 ≠ member.fileSha256 then
      some (.sha256 built.memberPath built.fileSha256 member.fileSha256)
    else if built.sizeBytes ≠ member.sizeBytes then
      some (.size built.memberPath built.sizeBytes member.sizeBytes)
    else
      match member.ingestItemId with
      | none => none
      | some expected =>
        if built.ingestItemId = none ∨ built.ingestItemId = some (toString expected) then
          none
        else some (.lineage built.memberPath built.ingestItemId expected)

/-- The member paths that an artifact does not carry. -/
def omittedPaths : List String :=
  ((members.map MemberInput.memberPath).dedup.filter fun path =>
    !(artifact.members.any fun built => built.memberPath = path)).insertionSort (· ≤ ·)

/-- `validate_built_members`. -/
def validateBuiltMembers : Option Refusal :=
  match artifact.members.findSome? (builtMemberFault target members) with
  | some refusal => some refusal
  | none =>
    match omittedPaths artifact members with
    | [] => none
    | missing => some (.omittedMembers target.poolId missing)

/-- `_identify_member_failure`. -/
def identifyMemberFailure (message : String) (rows : List BundleMember) : Option BundleMember :=
  match world.mapLine message with
  | some line => if 2 ≤ line then rows[line - 2]? else none
  | none =>
    match world.writerPath message with
    | some wanted => rows.find? fun row => row.memberPath = wanted
    | none => none

/-- How an attempt stops before its first write. -/
inductive Stop
  | raised (raised : Raised)
  | memberFailure (member : BundleMember) (message : String)

/-- Build and validate one target. -/
def prepareTarget (attempt index : Nat)
    (target : PoolTarget) : List Effect × Except Stop BuildArtifact :=
  match world.build attempt index with
  | .error (.runtimeError message) =>
    match identifyMemberFailure world message rows with
    | some member => ([], .error (.memberFailure member message))
    | none => ([], .error (.raised (.runtimeError message)))
  | .error raised => ([], .error (.raised raised))
  | .ok artifact =>
    match validateBuiltMembers target artifact members with
    | some refusal => ([.built attempt index], .error (.raised (.archiveFanoutError refusal)))
    | none => ([.built attempt index, .validated attempt index], .ok artifact)

/-- The first loop of `_fan_out_targets`, from a position on. -/
def prepareFrom (world : Surroundings) (rows : List BundleMember)
    (members : List MemberInput) (attempt : Nat) :
    Nat → List PoolTarget → List Effect × Except Stop (List (PoolTarget × BuildArtifact))
  | _, [] => ([], .ok [])
  | index, target :: rest =>
    match prepareTarget world rows members attempt index target with
    | (effects, .error stop) => (effects, .error stop)
    | (effects, .ok artifact) =>
      match prepareFrom world rows members attempt (index + 1) rest with
      | (more, .error stop) => (effects ++ more, .error stop)
      | (more, .ok prepared) => (effects ++ more, .ok ((target, artifact) :: prepared))

/-! ## Writing and recording -/

/-- The verdict of a read-back on the row of its copy. -/
def recordVerdict (catalog : Catalog) (copy : Evidence.Copy) (result : VerifyResult)
    (execution : Evidence.Execution) : Except EvidenceError Catalog :=
  if result.measured ∧ result.actualHash.isSome then
    (recordMeasured catalog copy result execution).map Prod.fst
  else if result.ok then
    (recordUnmeasuredPromotion catalog copy result execution).map Prod.fst
  else .ok (catalog.lower copy.id .suspect)

/-- The copy that a target registers for a returned locator. -/
def newCopy (bundleId locator : String) : Evidence.NewCopy where
  subject := .bundle bundleId
  backendId := target.backendId
  poolId := some target.poolId
  nativeLocatorKey := locator
  representation := none
  integrityHash := artifact.storedDigest
  integrityHashProvenance := .locallyComputed
  health := .ok

/-- The execution under which a fan-out records its read-back. -/
def executionOf : Evidence.Execution where
  source := .fanout
  executionId := fanoutExecutionId request.bundleId target.poolId locator
  producerProcess := request.producerProcess
  actor := none
  now := request.now

/-- What a failed call against a pool becomes. -/
def poolFailure (raised : Raised) : Raised :=
  if raised.retryable then .transientPoolFanoutError target.poolId target.backendName
  else raised

/-- `write_bundle_copy_for_pool` after the physical write.  The catalog is the
one inside the savepoint, also when an exception leaves it. -/
def recordWritten (catalog : Catalog) : Catalog × Except Raised Nat :=
  if target.representation = .remEncryptV1 ∧ artifact.recipientEpochs = [] then
    (catalog, .error (.archiveFanoutError .missingRecipientEpochs))
  else
    match addBundleCopy catalog
        (newCopy target artifact request.bundleId locator) request.bundleId with
    | .error error => (catalog, .error (.evidenceError error))
    | .ok (added, copy, _) =>
      match world.rootsFault index with
      | some raised => (added, .error raised)
      | none =>
        match world.verify index with
        | .error raised => (added.lower copy.id .suspect, .error (poolFailure target raised))
        | .ok result =>
          match recordVerdict added copy result
              (executionOf request target copy.nativeLocatorKey) with
          | .error error => (added, .error (.evidenceError error))
          | .ok recorded =>
            if result.ok then (recorded, .ok copy.id)
            else (recorded, .error (.archiveFanoutError (.verifyFailed result.detail)))

/-- The state of the second loop of `_fan_out_targets`. -/
structure Fanned where
  catalog : Catalog
  effects : List Effect
  copyIds : List Nat
  transientFailures : List String
  writeFailures : List String
  manifestReceipt : Option String

/-- Whether a target is the one whose manifest the customer receives. -/
def emitsManifest (delivered : Bool) : Bool :=
  request.deliverables && artifact.manifestPath.isSome && !delivered &&
    (target.representation = .remObjectV1 || target.representation = .remEncryptV1)

variable (fanned : Fanned)

/-- The end of a round of the loop, after the savepoint of its target was
released. -/
def deliver : Fanned × Option Raised :=
  if emitsManifest request target artifact fanned.manifestReceipt.isSome then
    match world.emitManifest index with
    | .error raised => (fanned, some raised)
    | .ok receipt => ({ fanned with manifestReceipt := some receipt }, none)
  else (fanned, none)

/-- The savepoint of a target after its physical write has returned. -/
def settle : Fanned × Option Raised :=
  match recordWritten world request index target artifact locator fanned.catalog with
  | (_, .error (.transientPoolFanoutError ..)) =>
    -- leaves the savepoint, which discards the rows of the target
    ({ fanned with transientFailures := fanned.transientFailures ++ [target.poolId] }, none)
  | (recorded, .error (.archiveFanoutError _)) =>
    -- caught inside the savepoint, so the rows stay
    ({ fanned with
      catalog := recorded
      writeFailures := fanned.writeFailures ++ [target.poolId] }, none)
  | (_, .error raised) => (fanned, some raised)
  | (recorded, .ok copyId) =>
    match world.exclusionsFault index with
    | some raised =>
      if raised.transient then
        ({ fanned with transientFailures := fanned.transientFailures ++ [target.poolId] }, none)
      else (fanned, some raised)
    | none =>
      deliver world request index target artifact
        { fanned with
          catalog := recorded
          copyIds := fanned.copyIds ++ [copyId] }

/-- One round of the second loop of `_fan_out_targets`. -/
def placeTarget : Fanned × Option Raised :=
  match world.write index with
  | .error raised =>
    let started := { fanned with effects := fanned.effects ++ [.writeStarted attempt index] }
    match poolFailure target raised with
    | .transientPoolFanoutError .. =>
      ({ started with
        transientFailures := started.transientFailures ++ [target.poolId] },
        none)
    | .archiveFanoutError _ =>
      ({ started with writeFailures := started.writeFailures ++ [target.poolId] }, none)
    | escaped => (started, some escaped)
  | .ok locator =>
    settle world request index target artifact locator
      { fanned with
        effects := fanned.effects ++ [.writeStarted attempt index, .wrote attempt index locator] }

end

/-- The second loop of `_fan_out_targets`, from a position on. -/
def placeFrom (world : Surroundings) (request : Request) (attempt : Nat) :
    Nat → List (PoolTarget × BuildArtifact) → Fanned → Fanned × Option Raised
  | _, [], fanned => (fanned, none)
  | index, (target, artifact) :: rest, fanned =>
    match placeTarget world request attempt index target artifact fanned with
    | (next, some raised) => (next, some raised)
    | (next, none) => placeFrom world request attempt (index + 1) rest next

/-! ## The flush -/

/-- Why a partially placed bundle gets a condition. -/
inductive ConditionReason
  | transientBackendFailure
  | postWritePoolFailure

/-- `FanoutResult`. -/
structure FanoutResult where
  bundleId : String
  copyIds : List Nat
  manifestReceipt : Option String
  incomplete : Bool
  failedPools : List String
  conditionReason : Option ConditionReason

/-- What a flush leaves behind.  A raised exception rolls both tables back. -/
structure Outcome where
  store : Store
  catalog : Catalog
  effects : List Effect
  result : Except Raised FanoutResult

/-- The result of a sealed flush. -/
def Fanned.result (fanned : Fanned) (bundleId : String) : FanoutResult where
  bundleId := bundleId
  copyIds := fanned.copyIds
  manifestReceipt := fanned.manifestReceipt
  incomplete := !(fanned.transientFailures.isEmpty && fanned.writeFailures.isEmpty)
  failedPools := fanned.transientFailures ++ fanned.writeFailures
  conditionReason :=
    if !fanned.writeFailures.isEmpty then some .postWritePoolFailure
    else if !fanned.transientFailures.isEmpty then some .transientBackendFailure
    else none

section

variable (world : Surroundings) (request : Request) (bundle : Bundle) (store : Store)
  (catalog : Catalog) (targets : List PoolTarget)

/-- The quarantine bundle of a flush, minted for its first failed member. -/
def mintQuarantine : Option String → Option Store
  | some _ => some store
  | none =>
    store.insertBundle (quarantineBundle bundle world.quarantineId request.now)

/-- `_quarantine_member`.  `none` is a violated constraint. -/
def quarantineMember (member : BundleMember) (quarantine : Option String)
    (store : Store) : Option (Store × String) :=
  (mintQuarantine world request bundle store quarantine).bind fun minted =>
      let held := quarantine.getD world.quarantineId
      if (minted.memberAt held member.memberPath).isNone then
        let moved := minted.moveMember member.id held
        let discounted := moved.bumpCounters request.bundleId (-member.sizeBytes) (-1)
        some (discounted.bumpCounters held member.sizeBytes 1, held)
      else none

/-- What one attempt of the flush comes to. -/
inductive Attempted
  | raised (raised : Raised)
  | memberFailure (member : BundleMember) (message : String)
  | fanned (fanned : Fanned)

/-- The checks of an attempt before its first build. -/
def prepareMembers (rows : List BundleMember) : Except Stop (List MemberInput) :=
  match rows.find? fun row => request.tapeCapacityBytes.any (· < row.sizeBytes) with
  | some row => .error (.raised (.archiveFanoutError (.oversize row.memberPath)))
  | none =>
    match world.identityFault rows with
    | some raised => .error (.raised raised)
    | none =>
      match world.memberInputs rows with
      | .error raised => .error (.raised raised)
      | .ok members =>
        match world.unmappable rows with
        | some (member, message) => .error (.memberFailure member message)
        | none =>
          match world.renderFault rows with
          | some raised => .error (.raised raised)
          | none => .ok members

/-- An attempt over a snapshot of rows, up to its first write. -/
def prepareAttempt (attempt : Nat) (rows : List BundleMember) :
    List Effect × Except Stop (List (PoolTarget × BuildArtifact)) :=
  match prepareMembers world request rows with
  | .error stop => ([], .error stop)
  | .ok members => prepareFrom world rows members attempt 0 targets

/-- One attempt over a snapshot of rows, with `_fan_out_targets`. -/
def fanOutTargets
    (attempt : Nat) (rows : List BundleMember) (catalog : Catalog) : List Effect × Attempted :=
  match prepareAttempt world request targets attempt rows with
  | (effects, .error (.raised raised)) => (effects, .raised raised)
  | (effects, .error (.memberFailure member message)) => (effects, .memberFailure member message)
  | (effects, .ok prepared) =>
    match placeFrom world request attempt 0 prepared ⟨catalog, [], [], [], [], none⟩ with
    | (fanned, some raised) => (effects ++ fanned.effects, .raised raised)
    | (fanned, none) => (effects ++ fanned.effects, .fanned fanned)

/-- The loop of `flush_bundle`.  `retries` is what the claimed snapshot still
allows; `old` is the database that a raised exception falls back to. -/
def attemptFrom (world : Surroundings) (request : Request) (targets : List PoolTarget)
    (bundle : Bundle) (old : Store) (catalog : Catalog) :
    Nat → Nat → Option String → List Effect → Store → Outcome
  | retries, attempt, quarantine, effects, store =>
    let rows := store.memberRowsForFlush request.bundleId
    if rows.isEmpty then
      ⟨old, catalog, effects, .error (.archiveFanoutError (.allQuarantined request.bundleId))⟩
    else
      match fanOutTargets world request targets attempt rows catalog with
      | (more, .raised raised) => ⟨old, catalog, effects ++ more, .error raised⟩
      | (more, .fanned fanned) =>
        match store.closeBundle request.bundleId request.token request.now rows with
        | none => ⟨old, catalog, effects ++ more, .error (.claimLost request.bundleId)⟩
        | some closed =>
          ⟨closed, fanned.catalog, effects ++ more, .ok (fanned.result request.bundleId)⟩
      | (more, .memberFailure member _) =>
        match retries with
        | 0 =>
          ⟨old, catalog, effects ++ more,
            .error (.archiveFanoutError (.quarantineBound request.bundleId))⟩
        | retries + 1 =>
          match quarantineMember world request bundle member quarantine store with
          | none => ⟨old, catalog, effects ++ more, .error .integrityError⟩
          | some (next, held) =>
            attemptFrom world request targets bundle old catalog
              retries (attempt + 1) (some held) (effects ++ more) next

/-- `_require_key_epoch`. -/
def requireKeyEpoch : Option Refusal :=
  (targets.find? fun target =>
    target.representation = .remEncryptV1 ∧ target.keyEpoch = none).map
      fun target => .missingKeyEpoch target.poolId

/-- `flush_bundle` up to its loop: the targets, the row of the bundle and the
claimed database. -/
def claimFlush : Except Raised (List PoolTarget × Bundle × Store) :=
  if request.deliverables && !request.signed then .error (.archiveFanoutError .missingSigner)
  else
    match store.bundles.find? request.bundleId with
    | none => .error (.other "no row was found")
    | some bundle =>
      if bundle.status ≠ .opened then .error (.archiveFanoutError (.notOpen request.bundleId))
      else if bundle.memberCount = 0 then
        .error (.archiveFanoutError (.noMembers request.bundleId))
      else
        match world.targets with
        | .error raised => .error raised
        | .ok targets =>
          match requireKeyEpoch targets with
          | some refusal => .error (.archiveFanoutError refusal)
          | none =>
            let required := bundle.totalBytes * max targets.length 1
            if world.availableBytes < required then
              .error (.archiveFanoutError (.preflightShort request.bundleId
                required world.availableBytes))
            else
              match store.claimBundleForFlush request.bundleId request.token request.now with
              | none => .error (.claimLost request.bundleId)
              | some claimed =>
                .ok (targets, bundle,
                  match bundle.archiveId with
                  | none => claimed.assignArchiveId request.bundleId
                  | some _ => claimed)

/-- `flush_bundle` as one transaction. -/
def flushBundle : Outcome :=
  match claimFlush world request store with
  | .error raised => ⟨store, catalog, [], .error raised⟩
  | .ok (targets, bundle, claimed) =>
    attemptFrom world request targets bundle store catalog
      (claimed.memberRowsForFlush request.bundleId).length 0 none [] claimed

/-! ## What has to be on record -/

/-- The store and the catalog of copies are tables of one database. -/
structure Books (store : Store) (catalog : Catalog) : Prop where
  bundles : ∀ bundleId, bundleId ∈ catalog.bundles ↔ (store.bundles.find? bundleId).isSome
  history : ∀ entry ∈ catalog.history, ∃ copy ∈ catalog.copies.rows, copy.id = entry.copyId
  /-- Copies of a bundle are only registered when it is sealed. -/
  opened : ∀ bundleId bundle, store.bundles.find? bundleId = some bundle →
    bundle.status = .opened → ∀ copy ∈ catalog.copies.rows, copy.subject ≠ .bundle bundleId

/-- A healthy or suspect row of the bundle for a locator of a target. -/
def HasRow (target : PoolTarget) (locator : String) : Prop :=
  ∃ copy ∈ catalog.copies.rows,
    copy.subject = .bundle request.bundleId ∧
    copy.backendId = target.backendId ∧
    copy.poolId = some target.poolId ∧
    copy.nativeLocatorKey = locator ∧
    (copy.health = .ok ∨ copy.health = .suspect)

end

/-- No object is on media without a row. -/
structure Recorded (request : Request) (targets : List PoolTarget)
    (outcome : Outcome) : Prop where
  preparedFirst : ∀ before after attempt index,
    outcome.effects = before ++ .writeStarted attempt index :: after →
      ∀ other < targets.length,
        .built attempt other ∈ before ∧ .validated attempt other ∈ before
  returned : ∀ attempt index locator,
    .wrote attempt index locator ∈ outcome.effects →
      outcome.result.isOk = true ∧ outcome.store.status? request.bundleId = some .sealed
  rows : ∀ attempt index locator,
    .wrote attempt index locator ∈ outcome.effects →
      ∃ target, targets[index]? = some target ∧ HasRow request outcome.catalog target locator

/-- No flush leaves an object on media without a row. -/
def RecordedLaw : Prop :=
  ∀ world request store catalog targets,
    Books store catalog →
    world.targets = .ok targets →
    Recorded request targets (flushBundle world request store catalog)

/-! ## When every returned write stays on record -/

/-- Whether the answer of a read-back leaves the row healthy or suspect. -/
def credible (artifact : BuildArtifact) : Except Raised VerifyResult → Bool
  | .error raised => raised.refused
  | .ok result =>
    match result.measured, result.actualHash with
    | true, some digest => isContentHash digest && digest == artifact.storedDigest
    | true, none => !result.ok
    | false, _ => true

section

variable (world : Surroundings) (request : Request) (index : Nat) (target : PoolTarget)
  (artifact : BuildArtifact) (delivered : Bool)

/-- Whether the locators of a written object are recorded and its read-back passes. -/
def passes : Bool :=
  (world.rootsFault index).isNone &&
    match world.verify index with
    | .error _ => false
    | .ok result => result.ok

/-- Whether the answers that follow a returned write keep its row: none of them
raises, except for a refusal that is caught inside the savepoint. -/
def stands : Bool :=
  !(target.representation = .remEncryptV1 && artifact.recipientEpochs = []) &&
    (match world.rootsFault index with
      | some raised => raised.refused
      | none => credible artifact (world.verify index)) &&
    (!passes world index ||
      (world.exclusionsFault index).isNone && (!emitsManifest request target artifact delivered ||
          (world.emitManifest index).isOk))

end

/-- Whether the second loop keeps every returned write on record.  `taken` holds
the locators it was given so far: a write that raises for good ends the flush,
which is harmless until the first object is on media. -/
def lands (world : Surroundings) (request : Request) (catalog : Catalog) :
    List (Nat × String) → Bool → Nat → List (PoolTarget × BuildArtifact) → Bool
  | _, _, _, [] => true
  | taken, delivered, index, (target, artifact) :: rest =>
    match world.write index with
    | .error raised =>
      if raised.retryable || raised.refused then
        lands world request catalog taken delivered (index + 1) rest
      else taken.isEmpty
    | .ok locator =>
      (catalog.copyAt target.backendId locator).isNone &&
        !taken.contains (target.backendId, locator) &&
        stands world request index target artifact delivered &&
        lands world request catalog ((target.backendId, locator) :: taken) (delivered ||
            passes world index && emitsManifest request target artifact delivered)
          (index + 1) rest

/-- The attempt of the loop that gets to its writes, with what it has prepared. -/
def writingFrom (world : Surroundings) (request : Request) (targets : List PoolTarget)
    (bundle : Bundle) :
    Nat → Nat → Option String → Store → Option (List (PoolTarget × BuildArtifact))
  | retries, attempt, quarantine, store =>
    let rows := store.memberRowsForFlush request.bundleId
    if rows.isEmpty then none
    else
      match (prepareAttempt world request targets attempt rows).2 with
      | .ok prepared => some prepared
      | .error (.raised _) => none
      | .error (.memberFailure member _) =>
        match retries with
        | 0 => none
        | retries + 1 =>
          match quarantineMember world request bundle member quarantine store with
          | none => none
          | some (next, held) =>
            writingFrom world request targets bundle retries (attempt + 1) (some held) next

/-- What a flush has built and validated when it starts to write. -/
def writing (world : Surroundings) (request : Request) (store : Store) :
    Option (List (PoolTarget × BuildArtifact)) :=
  match claimFlush world request store with
  | .error _ => none
  | .ok (targets, bundle, claimed) =>
    writingFrom world request targets bundle
      (claimed.memberRowsForFlush request.bundleId).length 0 none claimed

/-- Whether a flush that gets to its writes keeps every returned one on record. -/
def settled (world : Surroundings) (request : Request) (store : Store)
    (catalog : Catalog) : Bool :=
  (writing world request store).all (lands world request catalog [] false 0)

/-! ## Order of the effects -/

/-- Effects on media. -/
def Effect.physical : Effect → Bool
  | .built .. | .validated .. => false
  | .writeStarted .. | .wrote .. => true

/-- The attempt an effect belongs to. -/
def Effect.attempt : Effect → Nat
  | .built attempt _ | .validated attempt _ => attempt
  | .writeStarted attempt _ | .wrote attempt _ _ => attempt

/-- Nothing has reached media. -/
def Dry (effects : List Effect) : Prop := ∀ effect ∈ effects, effect.physical = false

theorem Dry.append (dryFront : Dry front) (dryRest : Dry rest) : Dry (front ++ rest) := by
  intro effect member
  rcases mem_append.mp member with member | member
  · exact dryFront effect member
  · exact dryRest effect member

section

variable (world : Surroundings) (rows : List BundleMember) (members : List MemberInput)
  (attempt index : Nat)

theorem dry_prepareTarget (target : PoolTarget) :
    Dry (prepareTarget world rows members attempt index target).1 := by
  unfold prepareTarget Dry
  split
  · split <;> simp
  · simp
  · split <;> simp [Effect.physical]

theorem dry_prepareFrom (targets : List PoolTarget) :
    Dry (prepareFrom world rows members attempt index targets).1 := by
  induction targets generalizing index with
  | nil => exact fun _ member => absurd member not_mem_nil
  | cons target rest ih =>
    have first := dry_prepareTarget world rows members attempt index target
    have others := ih (index + 1)
    unfold prepareFrom
    split
    next prepared => rwa [prepared] at first
    next prepared =>
      rw [prepared] at first
      split
      next later =>
        rw [later] at others
        exact first.append others
      next later =>
        rw [later] at others
        exact first.append others

end

/-- What the first loop has established when it ends. -/
structure Prepared (attempt index : Nat) (targets : List PoolTarget)
    (effects : List Effect) (prepared : List (PoolTarget × BuildArtifact)) : Prop where
  covers : prepared.map Prod.fst = targets
  events : ∀ offset < targets.length,
    .built attempt (index + offset) ∈ effects ∧ .validated attempt (index + offset) ∈ effects

theorem prepareTarget_eq_ok
    (prepared : prepareTarget world rows members attempt index target = (effects, .ok artifact)) :
    effects = [.built attempt index, .validated attempt index] := by
  unfold prepareTarget at prepared
  split at prepared
  · split at prepared <;> cases prepared
  · cases prepared
  · split at prepared
    · cases prepared
    · cases prepared
      rfl

theorem prepared_of_prepareFrom
    (finished : prepareFrom world rows members attempt index targets = (effects, .ok prepared)) :
    Prepared attempt index targets effects prepared := by
  induction targets generalizing index effects prepared with
  | nil =>
    cases finished
    exact ⟨rfl, fun _ below => absurd below (Nat.not_lt_zero _)⟩
  | cons target rest ih =>
    unfold prepareFrom at finished
    split at finished
    · cases finished
    next early artifact first =>
      obtain rfl := prepareTarget_eq_ok first
      split at finished
      · cases finished
      next more later others =>
        cases finished
        have remaining := ih others
        refine ⟨by rw [map_cons, remaining.covers], fun offset below => ?_⟩
        cases offset with
        | zero => simp
        | succ offset =>
          have member := remaining.events offset (Nat.lt_of_succ_lt_succ below)
          rw [Nat.add_right_comm] at member
          exact ⟨mem_append_right _ member.1, mem_append_right _ member.2⟩

/-- The second loop only appends effects of its own attempt. -/
def Extends (attempt : Nat) (fanned next : Fanned) : Prop :=
  ∃ more, next.effects = fanned.effects ++ more ∧ ∀ effect ∈ more, effect.attempt = attempt

theorem Extends.refl (attempt : Nat) (fanned : Fanned) : Extends attempt fanned fanned :=
  ⟨[], (append_nil _).symm, fun _ member => absurd member not_mem_nil⟩

theorem Extends.trans (first : Extends attempt fanned next) (second : Extends attempt next last) :
    Extends attempt fanned last := by
  obtain ⟨more, effects, within⟩ := first
  obtain ⟨later, laterEffects, laterWithin⟩ := second
  refine ⟨more ++ later, by rw [laterEffects, effects, append_assoc], ?_⟩
  intro effect member
  rcases mem_append.mp member with member | member
  · exact within effect member
  · exact laterWithin effect member

section

variable (world : Surroundings) (request : Request) (count attempt index : Nat)
  (target : PoolTarget) (artifact : BuildArtifact) (fanned : Fanned)

@[simp] theorem effects_deliver :
    (deliver world request index target artifact fanned).1.effects = fanned.effects := by
  unfold deliver
  split
  · split <;> rfl
  · rfl

@[simp] theorem effects_settle :
    (settle world request index target artifact locator fanned).1.effects = fanned.effects := by
  unfold settle
  split
  · rfl
  · rfl
  · rfl
  · split
    · split <;> rfl
    · rw [effects_deliver]

theorem extends_placeTarget :
    Extends attempt fanned (placeTarget world request attempt index target artifact fanned).1 := by
  unfold placeTarget
  split
  · refine ⟨[.writeStarted attempt index], ?_, by simp [Effect.attempt]⟩
    split <;> rfl
  next locator _ =>
    exact ⟨[.writeStarted attempt index, .wrote attempt index locator],
      effects_settle .., by simp [Effect.attempt]⟩

theorem extends_placeFrom (fanned : Fanned) :
    Extends attempt fanned (placeFrom world request attempt index prepared fanned).1 := by
  induction prepared generalizing index fanned with
  | nil => exact .refl attempt fanned
  | cons pair rest ih =>
    have first := extends_placeTarget world request attempt index pair.1 pair.2 fanned
    unfold placeFrom
    split
    next placed => rwa [placed] at first
    next next_ placed =>
      rw [placed] at first
      exact first.trans (ih (index + 1) next_)

/-- Every started write of a history has its attempt prepared before it. -/
def PreparedFirst (effects : List Effect) : Prop :=
  ∀ before after attempt index,
    effects = before ++ .writeStarted attempt index :: after →
      ∀ other < count,
        .built attempt other ∈ before ∧ .validated attempt other ∈ before

theorem Dry.preparedFirst (dry : Dry effects) (count : Nat) : PreparedFirst count effects := by
  rintro before after attempt index rfl
  have started := dry (.writeStarted attempt index) (by simp)
  cases started

end

/-- Writes that follow a dry history with their whole attempt are in order. -/
theorem preparedFirst_append
    (dry : Dry front)
    (complete : ∀ other < count, .built attempt other ∈ front ∧ .validated attempt other ∈ front)
    (within : ∀ effect ∈ rest, effect.attempt = attempt) :
    PreparedFirst count (front ++ rest) := by
  intro before after found index split other below
  rcases append_eq_append_iff.mp split with ⟨middle, rfl, tail⟩ | ⟨middle, rfl, tail⟩
  · have same : found = attempt :=
      within (.writeStarted found index) (by rw [tail]; simp)
    rw [same]
    exact ⟨mem_append_left _ (complete other below).1, mem_append_left _ (complete other below).2⟩
  · cases middle with
    | nil =>
      have same : found = attempt :=
        within (.writeStarted found index) (by rw [← nil_append rest, ← tail]; simp)
      rw [same]
      simpa using complete other below
    | cons effect middle =>
      injection tail with same
      have started := dry effect (by simp)
      rw [← same] at started
      cases started

/-! ## Rows of returned writes -/

/-- Every entry of the history is about a row. -/
def Referenced (catalog : Catalog) : Prop :=
  ∀ entry ∈ catalog.history, ∃ copy ∈ catalog.copies.rows, copy.id = entry.copyId

/-- A row that counts as a record of its object. -/
def Sound (copy : Evidence.Copy) : Prop := copy.health = .ok ∨ copy.health = .suspect

/-- One row for a locator has been appended, and receipts only for it. -/
structure Registers (request : Request) (target : PoolTarget) (locator : String)
    (copy : Evidence.Copy) (catalog next : Catalog) : Prop where
  rows : next.copies.rows = catalog.copies.rows ++ [copy]
  subject : copy.subject = .bundle request.bundleId
  backendId : copy.backendId = target.backendId
  poolId : copy.poolId = some target.poolId
  key : copy.nativeLocatorKey = locator
  receipts : ∀ entry ∈ next.history, entry ∈ catalog.history ∨ entry.copyId = copy.id
  bundles : next.bundles = catalog.bundles

theorem executionId_ne_empty (request : Request) (target : PoolTarget) (locator : String) :
    (executionOf request target locator).executionId ≠ "" := by
  intro empty
  have length := congrArg String.length empty
  simp [executionOf, fanoutExecutionId] at length

section Registration

variable {request : Request} {target : PoolTarget} {artifact : BuildArtifact}
variable {locator : String} {catalog : Catalog}

/-- The row that `add_bundle_copy` appends for a new locator. -/
def appended (request : Request) (target : PoolTarget) (artifact : BuildArtifact)
    (locator : String) (catalog : Catalog) : Evidence.Copy :=
  (newCopy target artifact request.bundleId locator).row (nextId catalog.copies)

/-- The catalog after `add_bundle_copy` has appended a row. -/
def withAppended (request : Request) (target : PoolTarget) (artifact : BuildArtifact)
    (locator : String) (catalog : Catalog) : Catalog :=
  { catalog with
    copies := catalog.copies.insert
      (appended request target artifact locator catalog)
      (Evidence.Catalog.find?_newId catalog) }

theorem addBundleCopy_of_fresh
    (known : request.bundleId ∈ catalog.bundles)
    (fresh : catalog.copyAt target.backendId locator = none) : addBundleCopy catalog
        (newCopy target artifact request.bundleId locator) request.bundleId =
      .ok (withAppended request target artifact locator catalog,
        appended request target artifact locator catalog, true) := by
  have absent : catalog.copyAt (newCopy target artifact request.bundleId locator).backendId
      (newCopy target artifact request.bundleId locator).nativeLocatorKey = none := fresh
  unfold addBundleCopy
  rw [if_neg (fun unknown => unknown known), absent]
  rfl

/-- No row of the bundle is in the pool of the target. -/
def Unplaced (request : Request) (target : PoolTarget) (catalog : Catalog) : Prop :=
  ∀ copy ∈ catalog.copies.rows,
    copy.subject = .bundle request.bundleId → copy.poolId ≠ some target.poolId

/-- A locator that belongs to another bundle or pool is refused. -/
theorem addBundleCopy_of_taken
    (unplaced : Unplaced request target catalog)
    (taken : catalog.copyAt target.backendId locator ≠ none) :
    ∃ error, addBundleCopy catalog (newCopy target artifact request.bundleId locator)
      request.bundleId = .error error := by
  obtain ⟨existing, found⟩ := Option.ne_none_iff_exists'.mp taken
  have occupied : catalog.copyAt (newCopy target artifact request.bundleId locator).backendId
      (newCopy target artifact request.bundleId locator).nativeLocatorKey = some existing := found
  unfold addBundleCopy
  rw [occupied]
  split
  · exact ⟨_, rfl⟩
  · by_cases foreign : existing.subject = .bundle request.bundleId
    · have elsewhere := unplaced existing (mem_of_find?_eq_some found) foreign
      exact ⟨_, by simp only [foreign, ne_eq, not_true_eq_false, if_false]; exact if_pos elsewhere⟩
    · exact ⟨_, if_pos foreign⟩

/-- A change of the appended row that keeps its identity registers it. -/
theorem registers_of_rewrite
    (copies : next.copies = (withAppended request target artifact locator catalog).copies.update
        (appended request target artifact locator catalog).id change)
    (bundles : next.bundles = catalog.bundles)
    (history : next.history = catalog.history ++ [entry])
    (about : entry.copyId = (appended request target artifact locator catalog).id)
    (identity : ∀ copy, (change.apply copy).subject = copy.subject ∧
      (change.apply copy).backendId = copy.backendId ∧ (change.apply copy).poolId = copy.poolId ∧
      (change.apply copy).nativeLocatorKey = copy.nativeLocatorKey) :
    Registers request target locator
      (change.apply (appended request target artifact locator catalog)) catalog next := by
  obtain ⟨subject, backendId, poolId, key⟩ :=
    identity (appended request target artifact locator catalog)
  refine ⟨?_, subject, backendId, poolId, key, ?_, bundles⟩
  · rw [copies]
    exact Table.rows_update_insert _ _ (find?_nextId catalog.copies) _
  · intro other member
    rw [history] at member
    rcases mem_append.mp member with old | new
    · exact .inl old
    · rw [mem_singleton.mp new, about, change.keeps]
      exact .inr rfl

theorem registers_lower : Registers request target locator
      ((withHealth .suspect).apply (appended request target artifact locator catalog)) catalog
      ((withAppended request target artifact locator catalog).lower
        (appended request target artifact locator catalog).id .suspect) :=
  registers_of_rewrite rfl rfl rfl rfl fun _ => ⟨rfl, rfl, rfl, rfl⟩

/-- No receipt speaks of a row that has just been appended. -/
theorem receiptForExecution_appended (history : Referenced catalog) :
    (withAppended request target artifact locator catalog).receiptForExecution
      (appended request target artifact locator catalog).id source executionId = none := by
  have absent := (Table.find?_eq_none_iff ..).mp (find?_nextId catalog.copies)
  unfold Evidence.Catalog.receiptForExecution
  rw [findSome?_eq_none_iff]
  intro entry member
  cases entry with
  | lowered => rfl
  | receipt receipt =>
    obtain ⟨copy, present, same⟩ := history _ member
    refine if_neg fun matching => absent copy present ?_
    exact same.trans matching.1

/-- What becomes of the appended row: the verdict is not recorded at all, or the
row is sound exactly when the read-back is credible. -/
def Judged (request : Request) (target : PoolTarget) (artifact : BuildArtifact) (locator : String)
    (catalog : Catalog) (verdict : Except Raised VerifyResult)
    (recorded : Except EvidenceError Catalog) : Prop :=
  (∃ error, recorded = .error error ∧ credible artifact verdict = false) ∨
    ∃ copy next, recorded = .ok next ∧ Registers request target locator copy catalog next ∧
      (credible artifact verdict = true ↔ Sound copy)

theorem judged_recordMeasured
    (history : Referenced catalog)
    (measured : result.measured = true)
    (actual : result.actualHash = some digest) :
    Judged request target artifact locator catalog (.ok result)
      ((recordMeasured (withAppended request target artifact locator catalog)
        (appended request target artifact locator catalog) result
        (executionOf request target locator)).map Prod.fst) := by
  unfold recordMeasured
  rw [measured, actual, if_neg (executionId_ne_empty request target locator)]
  cases contentHash : isContentHash digest with
  | false =>
    simp only [contentHash]
    exact .inl ⟨_, rfl, by simp [credible, measured, actual, contentHash]⟩
  | true =>
    simp only [contentHash, receiptForExecution_appended history]
    refine .inr ⟨_, _, rfl,
      registers_of_rewrite rfl rfl rfl rfl (fun _ => ⟨rfl, rfl, rfl, rfl⟩), ?_⟩
    by_cases same : digest = artifact.storedDigest
    · subst same
      cases accepted : result.ok <;>
        simp [credible, measured, actual, contentHash, Sound, projectMeasured, measuredHealth,
          appended, newCopy, Evidence.NewCopy.row]
    · simp [credible, measured, actual, contentHash, same, Sound, projectMeasured, measuredHealth,
        appended, newCopy, Evidence.NewCopy.row]

/-- The verdict of a read-back on the appended row. -/
theorem judged_recordVerdict (history : Referenced catalog) (result : VerifyResult) :
    Judged request target artifact locator catalog (.ok result)
      (recordVerdict (withAppended request target artifact locator catalog)
        (appended request target artifact locator catalog) result
        (executionOf request target locator)) := by
  unfold recordVerdict
  cases measured : result.measured with
  | false =>
    have credited : credible artifact (.ok result) = true := by simp [credible, measured]
    cases accepted : result.ok with
    | false => exact .inr ⟨_, _, rfl, registers_lower, by simp [credited, Sound, withHealth]⟩
    | true =>
      simp only [recordUnmeasuredPromotion, if_neg (executionId_ne_empty request target locator),
        measured, accepted, receiptForExecution_appended history]
      exact .inr ⟨_, _, rfl, registers_of_rewrite rfl rfl rfl rfl fun _ => ⟨rfl, rfl, rfl, rfl⟩,
        by simp [credited, Sound, projectUnmeasured]⟩
  | true =>
    cases actual : result.actualHash with
    | some digest => exact judged_recordMeasured history measured actual
    | none =>
      cases accepted : result.ok with
      | false =>
        exact .inr ⟨_, _, rfl, registers_lower,
          by simp [credible, measured, actual, accepted, Sound, withHealth]⟩
      | true =>
        refine .inl ⟨.measuredPromotion, ?_, by simp [credible, measured, actual, accepted]⟩
        simp [recordUnmeasuredPromotion, executionId_ne_empty request target locator, measured,
          Except.map]

end Registration

section Settling

variable {world : Surroundings} {request : Request} {index : Nat} {target : PoolTarget}
variable {artifact : BuildArtifact} {locator : String} {fanned : Fanned}

/-- A refusal is caught inside the savepoint; anything else discards the row or
ends the flush. -/
theorem settle_of_error
    (failed : recordWritten world request index target artifact locator fanned.catalog =
      (next, .error raised)) :
    let settled := settle world request index target artifact locator fanned
    if raised.refused then
      settled.2 = none ∧ settled.1.catalog = next ∧
        settled.1.manifestReceipt = fanned.manifestReceipt
    else settled.2 ≠ none ∨ settled.1.catalog = fanned.catalog := by
  unfold settle
  rw [failed]
  cases raised <;> simp [Raised.refused]

/-- What follows a passed read-back keeps the row, or discards it or ends the flush. -/
theorem settle_of_ok
    (passed : recordWritten world request index target artifact locator fanned.catalog =
      (next, .ok copyId)) :
    let settled := settle world request index target artifact locator fanned
    let emits := emitsManifest request target artifact fanned.manifestReceipt.isSome
    if (world.exclusionsFault index).isNone && (!emits || (world.emitManifest index).isOk) then
      settled.2 = none ∧ settled.1.catalog = next ∧
        settled.1.manifestReceipt.isSome = (fanned.manifestReceipt.isSome || emits)
    else settled.2 ≠ none ∨ settled.1.catalog = fanned.catalog := by
  unfold settle
  rw [passed]
  cases excluded : world.exclusionsFault index with
  | some raised => cases transient : raised.transient <;> simp [transient]
  | none =>
    dsimp only [deliver]
    cases emits : emitsManifest request target artifact fanned.manifestReceipt.isSome with
    | false => simp
    | true => cases emitted : world.emitManifest index <;> simp [Except.isOk, Except.toBool]

/-- How a returned write ends: without its row, or with one that is sound exactly
when its answers keep it. -/
def Ends (request : Request) (target : PoolTarget) (locator : String) (fanned : Fanned)
    (keeps delivers : Bool) (settled : Fanned × Option Raised) : Prop :=
  (keeps = false ∧ (settled.2 ≠ none ∨ settled.1.catalog = fanned.catalog)) ∨
    (settled.2 = none ∧
      settled.1.manifestReceipt.isSome = (fanned.manifestReceipt.isSome || delivers) ∧
      ∃ copy, Registers request target locator copy fanned.catalog settled.1.catalog ∧
        (keeps = true ↔ Sound copy))

section

variable (failed : recordWritten world request index target artifact locator fanned.catalog =
  (next, .error raised))
include failed

theorem ends_of_refused
    (refused : raised.refused = true)
    (registers : Registers request target locator copy fanned.catalog next)
    (sound : keeps = true ↔ Sound copy)
    (undelivered : delivers = false) :
    Ends request target locator fanned keeps delivers
      (settle world request index target artifact locator fanned) := by
  have caught := settle_of_error failed
  rw [if_pos refused] at caught
  obtain ⟨returns, catalog, receipt⟩ := caught
  exact .inr ⟨returns, by rw [receipt, undelivered, Bool.or_false],
    copy, catalog ▸ registers, sound⟩

theorem ends_of_unrefused (unrefused : raised.refused = false) (loses : keeps = false) :
    Ends request target locator fanned keeps delivers
      (settle world request index target artifact locator fanned) := by
  have escaped := settle_of_error failed
  rw [if_neg (by simp [unrefused])] at escaped
  exact .inl ⟨loses, escaped⟩

end

/-- A row that has passed its read-back. -/
theorem ends_of_ok
    (passed : recordWritten world request index target artifact locator fanned.catalog =
      (next, .ok copyId))
    (registers : Registers request target locator copy fanned.catalog next)
    (sound : credited = true ↔ Sound copy) :
    let emits := emitsManifest request target artifact fanned.manifestReceipt.isSome
    Ends request target locator fanned
      (credited && ((world.exclusionsFault index).isNone &&
        (!emits || (world.emitManifest index).isOk))) emits
      (settle world request index target artifact locator fanned) := by
  intro emits
  have ended := settle_of_ok passed
  cases delivered : (world.exclusionsFault index).isNone &&
      (!emits || (world.emitManifest index).isOk) with
  | false =>
    rw [if_neg (fun kept => by rw [delivered] at kept; cases kept)] at ended
    exact .inl ⟨Bool.and_false _, ended⟩
  | true =>
    rw [if_pos delivered] at ended
    obtain ⟨returns, catalog, receipt⟩ := ended
    exact .inr ⟨returns, receipt, copy, catalog ▸ registers, by rw [Bool.and_true]; exact sound⟩

/-- A write whose locator the catalog does not know and that is not refused before
its row exists. -/
theorem ends_of_fresh
    (known : request.bundleId ∈ fanned.catalog.bundles)
    (history : Referenced fanned.catalog)
    (fresh : fanned.catalog.copyAt target.backendId locator = none)
    (epochs : ¬(target.representation = .remEncryptV1 ∧ artifact.recipientEpochs = [])) :
    Ends request target locator fanned
      (stands world request index target artifact fanned.manifestReceipt.isSome)
      (passes world index && emitsManifest request target artifact fanned.manifestReceipt.isSome)
      (settle world request index target artifact locator fanned) := by
  have written : recordWritten world request index target artifact locator fanned.catalog =
      _ := if_neg epochs
  have unmet : (decide (target.representation = .remEncryptV1) &&
      decide (artifact.recipientEpochs = [])) = false := by simpa using epochs
  rw [addBundleCopy_of_fresh known fresh] at written
  cases roots : world.rootsFault index with
  | some raised =>
    simp only [roots] at written
    cases refused : raised.refused with
    | false => exact ends_of_unrefused written refused (by simp [stands, roots, refused])
    | true =>
      exact ends_of_refused written refused ⟨rfl, rfl, rfl, rfl, rfl, fun _ old => .inl old, rfl⟩
        (by simp [stands, passes, unmet, roots, refused, Sound, appended, newCopy,
          Evidence.NewCopy.row]) (by simp [passes, roots])
  | none =>
    simp only [roots] at written
    cases verified : world.verify index with
    | error raised =>
      simp only [verified] at written
      have sameRefusal : (poolFailure target raised).refused = raised.refused := by
        cases raised <;> rfl
      cases refused : raised.refused with
      | false =>
        exact ends_of_unrefused written (sameRefusal.trans refused)
          (by simp [stands, roots, verified, credible, refused])
      | true =>
        exact ends_of_refused written (sameRefusal.trans refused) registers_lower
          (by simp [stands, passes, unmet, roots, verified, credible, refused, Sound, withHealth])
          (by simp [passes, verified])
    | ok result =>
      have located : (appended request target artifact locator
        fanned.catalog).nativeLocatorKey = locator := rfl
      simp only [verified, located] at written
      rcases @judged_recordVerdict request target artifact locator fanned.catalog history
        result with
        ⟨error, recorded, discredited⟩ | ⟨copy, next, recorded, registers, sound⟩
      · simp only [recorded] at written
        exact ends_of_unrefused written rfl (by simp [stands, roots, verified, discredited])
      · simp only [recorded] at written
        cases accepted : result.ok with
        | false =>
          simp only [accepted] at written
          exact ends_of_refused written rfl registers
            (by simpa [stands, passes, unmet, roots, verified, accepted] using sound)
            (by simp [passes, verified, accepted])
        | true =>
          simp only [accepted] at written
          simpa [stands, passes, unmet, roots, verified, accepted] using
            ends_of_ok written registers sound

theorem ends_settle
    (known : request.bundleId ∈ fanned.catalog.bundles)
    (history : Referenced fanned.catalog)
    (unplaced : Unplaced request target fanned.catalog) :
    Ends request target locator fanned
      ((fanned.catalog.copyAt target.backendId locator).isNone &&
        stands world request index target artifact fanned.manifestReceipt.isSome)
      (passes world index && emitsManifest request target artifact fanned.manifestReceipt.isSome)
      (settle world request index target artifact locator fanned) := by
  by_cases epochs : target.representation = .remEncryptV1 ∧ artifact.recipientEpochs = []
  · -- refused before the row exists
    have failed : recordWritten world request index target artifact locator
        fanned.catalog = _ := if_pos epochs
    have caught := settle_of_error failed
    exact .inl ⟨by simp [stands, epochs], .inr caught.2.1⟩
  · cases found : fanned.catalog.copyAt target.backendId locator with
    | none => simpa using ends_of_fresh known history found epochs
    | some existing =>
      obtain ⟨error, refusal⟩ := @addBundleCopy_of_taken request target artifact locator
        fanned.catalog unplaced (found ▸ Option.some_ne_none existing)
      have failed : recordWritten world request index target artifact locator
          fanned.catalog = _ := if_neg epochs
      rw [refusal] at failed
      exact ends_of_unrefused failed rfl rfl

end Settling

/-! ## The second loop -/

/-- The catalog before the target at a position: rows of the bundle are in the
pools of earlier targets. -/
structure Tidy (request : Request) (targets : List PoolTarget) (index : Nat)
    (catalog : Catalog) : Prop where
  known : request.bundleId ∈ catalog.bundles
  history : Referenced catalog
  pools : ∀ copy ∈ catalog.copies.rows, copy.subject = .bundle request.bundleId →
    ∃ target ∈ targets.take index, copy.poolId = some target.poolId

section

variable (registers : Registers request target locator copy catalog next)
include registers

theorem Registers.hasRow (sound : Sound copy) : HasRow request next target locator :=
  ⟨copy, by simp [registers.rows], registers.subject, registers.backendId, registers.poolId,
    registers.key, sound⟩

/-- The row of a registration is the only new one. -/
theorem Registers.hasRow_iff :
    HasRow request next other otherLocator ↔ HasRow request catalog other otherLocator ∨
      (copy.backendId = other.backendId ∧ copy.poolId = some other.poolId ∧
        copy.nativeLocatorKey = otherLocator ∧ Sound copy) := by
  simp only [HasRow, registers.rows, mem_append, mem_singleton, or_and_right, exists_or,
    exists_eq_left, registers.subject, true_and, Sound]

theorem Registers.tidy
    (tidy : Tidy request targets index catalog)
    (found : targets[index]? = some target) : Tidy request targets (index + 1) next := by
  refine ⟨registers.bundles ▸ tidy.known, fun entry member => ?_, fun other member about => ?_⟩
  · rcases registers.receipts entry member with old | new
    · obtain ⟨present, among, same⟩ := tidy.history entry old
      exact ⟨present, by rw [registers.rows]; exact mem_append_left _ among, same⟩
    · exact ⟨copy, by simp [registers.rows], new.symm⟩
  · rw [registers.rows, mem_append, mem_singleton] at member
    rw [take_add_one, found]
    rcases member with old | rfl
    · obtain ⟨earlier, among, same⟩ := tidy.pools other old about
      exact ⟨earlier, mem_append_left _ among, same⟩
    · exact ⟨target, by simp, registers.poolId⟩

/-- A registration takes only its own locator. -/
theorem Registers.isNone_copyAt (backend : Nat) (wanted : String) :
    (next.copyAt backend wanted).isNone = ((catalog.copyAt backend wanted).isNone &&
      !((backend, wanted) == (target.backendId, locator))) := by
  unfold Evidence.Catalog.copyAt
  rw [registers.rows, find?_append, find?_singleton, registers.backendId, registers.key]
  cases catalog.copies.rows.find? _ with
  | some => simp
  | none =>
    by_cases same : (backend, wanted) = (target.backendId, locator)
    · cases same
      simp
    · have differs : ¬(target.backendId = backend ∧ locator = wanted) := fun equal =>
        same (by rw [equal.1, equal.2])
      simp [beq_eq_false_iff_ne.mpr same, differs]

end

theorem Tidy.succ (tidy : Tidy request targets index catalog) :
    Tidy request targets (index + 1) catalog where
  known := tidy.known
  history := tidy.history
  pools copy member about := by
    obtain ⟨earlier, among, same⟩ := tidy.pools copy member about
    exact ⟨earlier, take_subset_take_left _ (Nat.le_succ _) among, same⟩

/-- Where no two targets share a pool, the pool of a target is empty before its turn. -/
theorem Tidy.unplaced
    (tidy : Tidy request targets index catalog)
    (distinct : (targets.map PoolTarget.poolId).Nodup)
    (found : targets[index]? = some target) :
    Unplaced request target catalog := by
  intro copy member about same
  obtain ⟨earlier, among, pool⟩ := tidy.pools copy member about
  have later : target ∈ targets.drop index :=
    mem_of_mem_head? (by rw [head?_drop, found]; rfl)
  have apart := disjoint_take_drop distinct (Nat.le_refl index)
  rw [← map_take, ← map_drop] at apart
  exact apart (mem_map_of_mem among)
    (by rw [Option.some.inj (pool.symm.trans same)]; exact mem_map_of_mem later)

/-- The second loop before the target at a position.  Every write that has
returned a locator is on record, and the rows it added are those of `taken`. -/
structure Kept (request : Request) (targets : List PoolTarget) (catalog : Catalog)
    (taken : List (Nat × String)) (index : Nat) (fanned : Fanned) : Prop
    extends Tidy request targets index fanned.catalog where
  rows : ∀ attempt position locator, .wrote attempt position locator ∈ fanned.effects →
    taken ≠ [] ∧ ∃ target, targets[position]? = some target ∧
      HasRow request fanned.catalog target locator
  begun : taken ≠ [] → ∃ attempt position locator,
    .wrote attempt position locator ∈ fanned.effects
  free : ∀ backend locator, (fanned.catalog.copyAt backend locator).isNone =
    ((catalog.copyAt backend locator).isNone && !taken.contains (backend, locator))

/-- The loop has ended with every returned write on record. -/
def OnRecord (request : Request) (targets : List PoolTarget)
    (placed : Fanned × Option Raised) : Prop :=
  ∀ attempt position locator, .wrote attempt position locator ∈ placed.1.effects →
    placed.2 = none ∧ ∃ target, targets[position]? = some target ∧
      HasRow request placed.1.catalog target locator

/-- The target whose turn it is, and the ones after it. -/
theorem turn_of_covers
    {prepared : List (PoolTarget × BuildArtifact)}
    (covers : (pair :: prepared).map Prod.fst = drop index targets) :
    targets[index]? = some pair.1 ∧ prepared.map Prod.fst = targets.drop (index + 1) := by
  constructor
  · rw [← head?_drop, ← covers]
    rfl
  · rw [← tail_drop, ← covers]
    rfl

section Rounds

variable {world : Surroundings} {request : Request} {attempt index : Nat}
variable {target : PoolTarget} {artifact : BuildArtifact} {fanned : Fanned}

theorem placeTarget_of_error (failed : world.write index = .error raised) :
    let placed := placeTarget world request attempt index target artifact fanned
    placed.1.catalog = fanned.catalog ∧ placed.1.manifestReceipt = fanned.manifestReceipt ∧
      placed.1.effects = fanned.effects ++ [.writeStarted attempt index] ∧
      placed.2.isNone = (raised.retryable || raised.refused) := by
  unfold placeTarget
  rw [failed]
  cases raised <;> simp [poolFailure, Raised.retryable, Raised.refused]

theorem placeFrom_of_escapes
    (escapes : (placeTarget world request attempt index target artifact fanned).2 ≠ none) :
    placeFrom world request attempt index ((target, artifact) :: rest) fanned =
      placeTarget world request attempt index target artifact fanned := by
  unfold placeFrom
  split
  next placed => exact placed.symm
  next placed =>
    rw [placed] at escapes
    exact absurd rfl escapes

theorem placeFrom_of_returns
    (returns : (placeTarget world request attempt index target artifact fanned).2 = none) :
    placeFrom world request attempt index ((target, artifact) :: rest) fanned =
      placeFrom world request attempt (index + 1) rest
        (placeTarget world request attempt index target artifact fanned).1 := by
  rw [placeFrom]
  split
  next placed =>
    rw [placed] at returns
    cases returns
  next placed => rw [placed]

end Rounds

section Keeping

variable {request : Request} {targets : List PoolTarget} {catalog : Catalog} {fanned next : Fanned}
variable (kept : Kept request targets catalog taken index fanned)
include kept

/-- A round without a returned write. -/
theorem Kept.skip
    (same : next.catalog = fanned.catalog)
    (effects : next.effects = fanned.effects ++ [.writeStarted attempt index]) :
    Kept request targets catalog taken (index + 1) next where
  toTidy := same ▸ kept.toTidy.succ
  rows _ _ _ member := by
    rw [same]
    exact kept.rows _ _ _ (by simpa [effects] using member)
  begun some := by
    obtain ⟨_, _, _, member⟩ := kept.begun some
    exact ⟨_, _, _, effects ▸ mem_append_left _ member⟩
  free := same ▸ kept.free

/-- A round that leaves a sound row for its returned write. -/
theorem Kept.register
    (found : targets[index]? = some target)
    (registers : Registers request target locator copy fanned.catalog next.catalog)
    (sound : Sound copy)
    (effects : next.effects =
      fanned.effects ++ [.writeStarted attempt index, .wrote attempt index locator]) :
    Kept request targets catalog ((target.backendId, locator) :: taken) (index + 1) next where
  toTidy := registers.tidy kept.toTidy found
  rows other position wanted member := by
    refine ⟨List.cons_ne_nil _ _, ?_⟩
    rw [effects, mem_append] at member
    rcases member with old | new
    · obtain ⟨_, placed, at_, has⟩ := kept.rows other position wanted old
      exact ⟨placed, at_, registers.hasRow_iff.mpr (.inl has)⟩
    · simp only [mem_cons, reduceCtorEq, not_mem_nil, or_false, false_or] at new
      obtain ⟨rfl, rfl, rfl⟩ := new
      exact ⟨target, found, registers.hasRow sound⟩
  begun _ := ⟨attempt, index, locator, by simp [effects]⟩
  free backend wanted := by
    rw [registers.isNone_copyAt, kept.free, contains_cons, Bool.not_or, Bool.and_assoc,
      Bool.and_comm (!taken.contains _)]

end Keeping

section Placing

variable {world : Surroundings} {request : Request} {targets : List PoolTarget}
variable (distinct : (targets.map PoolTarget.poolId).Nodup)
include distinct

/-- A round whose write returns, as its answers have it. -/
theorem ends_placeTarget
    (found : targets[index]? = some target)
    (tidy : Tidy request targets index fanned.catalog)
    (written : world.write index = .ok locator) :
    Ends request target locator fanned
      ((fanned.catalog.copyAt target.backendId locator).isNone &&
        stands world request index target artifact fanned.manifestReceipt.isSome)
      (passes world index && emitsManifest request target artifact fanned.manifestReceipt.isSome)
      (placeTarget world request attempt index target artifact fanned) := by
  unfold placeTarget
  rw [written]
  exact @ends_settle world request index target artifact locator
    { fanned with
      effects := fanned.effects ++ [.writeStarted attempt index, .wrote attempt index locator] }
    tidy.known tidy.history (tidy.unplaced distinct found)

/-- One round ends the flush, or appends at most a row in the pool of its target. -/
theorem tidy_placeTarget
    (found : targets[index]? = some target)
    (tidy : Tidy request targets index fanned.catalog)
    (returns : (placeTarget world request attempt index target artifact fanned).2 = none) :
    let placed := placeTarget world request attempt index target artifact fanned
    Tidy request targets (index + 1) placed.1.catalog ∧
      ∀ other locator, other.poolId ≠ target.poolId →
        HasRow request placed.1.catalog other locator →
          HasRow request fanned.catalog other locator := by
  intro placed
  cases written : world.write index with
  | error raised =>
    have same : placed.1.catalog = fanned.catalog := (placeTarget_of_error written).1
    rw [same]
    exact ⟨tidy.succ, fun _ _ _ has => has⟩
  | ok locator =>
    rcases ends_placeTarget distinct found tidy written with
      ⟨_, escaped | same⟩ | ⟨_, _, copy, registers, _⟩
    · exact absurd returns escaped
    · rw [same]
      exact ⟨tidy.succ, fun _ _ _ has => has⟩
    · refine ⟨registers.tidy tidy found, fun other wanted differs has => ?_⟩
      refine (registers.hasRow_iff.mp has).resolve_right fun new => differs ?_
      exact Option.some.inj (new.2.1.symm.trans registers.poolId)

/-- A row that is missing after the turn of its target stays missing. -/
theorem lost_placeFrom
    (covers : prepared.map Prod.fst = targets.drop index)
    (tidy : Tidy request targets index fanned.catalog)
    (found : targets[position]? = some target)
    (earlier : position < index)
    (lost : ¬HasRow request fanned.catalog target locator) :
    let placed := placeFrom world request attempt index prepared fanned
    placed.2 ≠ none ∨ ¬HasRow request placed.1.catalog target locator := by
  induction prepared generalizing index fanned with
  | nil => exact .inr lost
  | cons pair rest ih =>
    obtain ⟨current, artifact⟩ := pair
    obtain ⟨turn, covered⟩ := turn_of_covers covers
    by_cases returns : (placeTarget world request attempt index current artifact fanned).2 = none
    · obtain ⟨tidied, unchanged⟩ := tidy_placeTarget distinct turn tidy returns
      rw [placeFrom_of_returns returns]
      refine ih covered tidied (Nat.lt_succ_of_lt earlier) (lost ∘ unchanged target locator ?_)
      intro same
      refine nodup_iff_getElem?_ne_getElem?.mp distinct position index earlier ?_ ?_
      · rw [length_map]
        exact (List.getElem?_eq_some_iff.mp turn).1
      · rw [getElem?_map, getElem?_map, found, turn, Option.map_some, Option.map_some, same]
    · rw [placeFrom_of_escapes returns]
      exact .inl returns

/-- A returned write without a row is off the record for good. -/
theorem not_onRecord_of_lost
    (covers : ((target, artifact) :: prepared).map Prod.fst = targets.drop index)
    (tidy : Tidy request targets index fanned.catalog)
    (written : world.write index = .ok locator)
    (lost : let placed := placeTarget world request attempt index target artifact fanned
      placed.2 = none → ¬HasRow request placed.1.catalog target locator) :
    ¬OnRecord request targets
      (placeFrom world request attempt index ((target, artifact) :: prepared) fanned) := by
  intro record
  obtain ⟨turn, covered⟩ := turn_of_covers covers
  have wrote : .wrote attempt index locator ∈
      (placeTarget world request attempt index target artifact fanned).1.effects := by
    simp [placeTarget, written]
  by_cases returns : (placeTarget world request attempt index target artifact fanned).2 = none
  · rw [placeFrom_of_returns returns] at record
    obtain ⟨later, extended, _⟩ := extends_placeFrom world request attempt (index + 1)
      (placeTarget world request attempt index target artifact fanned).1
    obtain ⟨finished, found, at_, has⟩ :=
      record attempt index locator (extended ▸ mem_append_left later wrote)
    obtain rfl := Option.some.inj (turn.symm.trans at_)
    rcases lost_placeFrom distinct covered (tidy_placeTarget distinct turn tidy returns).1 turn
      (Nat.lt_succ_self index) (lost returns) with escaped | missing
    · exact escaped finished
    · exact missing has
  · rw [placeFrom_of_escapes returns] at record
    exact returns (record attempt index locator wrote).1

/-- The second loop keeps every returned write on record exactly if its answers
do. -/
theorem onRecord_placeFrom
    (covers : prepared.map Prod.fst = targets.drop index)
    (kept : Kept request targets catalog taken index fanned) :
    OnRecord request targets (placeFrom world request attempt index prepared fanned) ↔
      lands world request catalog taken fanned.manifestReceipt.isSome index prepared = true := by
  induction prepared generalizing index fanned taken with
  | nil => exact ⟨fun _ => rfl, fun _ _ _ _ member => ⟨rfl, (kept.rows _ _ _ member).2⟩⟩
  | cons pair rest ih =>
    obtain ⟨target, artifact⟩ := pair
    obtain ⟨turn, covered⟩ := turn_of_covers covers
    cases written : world.write index with
    | error raised =>
      obtain ⟨same, receipt, effects, returns⟩ :=
        @placeTarget_of_error world request attempt index target artifact fanned raised written
      rw [lands, written]
      cases caught : raised.retryable || raised.refused with
      | true =>
        rw [caught, Option.isNone_iff_eq_none] at returns
        rw [placeFrom_of_returns returns, ih covered (kept.skip same effects), receipt]
        simp [caught]
      | false =>
        have escapes : (placeTarget world request attempt index target artifact fanned).2 ≠
            none := fun none => by simp [none, caught] at returns
        rw [placeFrom_of_escapes escapes]
        simp only [caught, Bool.false_eq_true, if_false, List.isEmpty_iff]
        constructor
        · intro record
          by_contra some
          obtain ⟨other, position, locator, member⟩ := kept.begun some
          exact escapes (record other position locator (effects ▸ mem_append_left _ member)).1
        · intro empty other position locator member
          exact absurd empty (kept.rows _ _ _ (by simpa [effects] using member)).1
    | ok locator =>
      have unplaced : ¬HasRow request fanned.catalog target locator := by
        rintro ⟨copy, member, about, _, pool, _⟩
        exact kept.unplaced distinct turn copy member about pool
      have answers : lands world request catalog taken fanned.manifestReceipt.isSome index
          ((target, artifact) :: rest) =
        (((fanned.catalog.copyAt target.backendId locator).isNone &&
          stands world request index target artifact fanned.manifestReceipt.isSome) &&
          lands world request catalog ((target.backendId, locator) :: taken)
            (fanned.manifestReceipt.isSome || passes world index &&
              emitsManifest request target artifact fanned.manifestReceipt.isSome)
            (index + 1) rest) := by
        rw [lands, written, kept.free]
      rw [answers]
      have ended : Ends request target locator fanned _ _
          (placeTarget world request attempt index target artifact fanned) :=
        ends_placeTarget distinct turn kept.toTidy written
      rcases ended with ⟨loses, failed⟩ | ⟨returns, receipt, copy, registers, sound⟩
      · rw [loses, Bool.false_and]
        refine iff_of_false (not_onRecord_of_lost distinct covers kept.toTidy written ?_)
          Bool.false_ne_true
        intro placed returns
        rw [failed.resolve_left (not_not_intro returns)]
        exact unplaced
      · rw [Bool.and_eq_true, sound]
        by_cases keeps : Sound copy
        · have effects : (placeTarget world request attempt index target artifact
              fanned).1.effects =
              fanned.effects ++ [.writeStarted attempt index, .wrote attempt index locator] := by
            simp [placeTarget, written]
          rw [placeFrom_of_returns returns, ih covered (kept.register turn registers keeps effects),
            receipt, and_iff_right keeps]
        · refine iff_of_false (not_onRecord_of_lost distinct covers kept.toTidy written ?_)
            fun lands => keeps lands.1
          intro placed _ has
          exact (registers.hasRow_iff.mp has).elim unplaced fun new => keeps new.2.2.2

end Placing

/-! ## The claim holds until the seal -/

/-- The bundle is claimed by the token of the request. -/
def Claimed (request : Request) (store : Store) : Prop :=
  ∃ bundle, store.bundles.find? request.bundleId = some bundle ∧
    bundle.status = .flushing ∧ bundle.claimedBy = some request.token

section

variable (claimed : Claimed request store)
include claimed

theorem claimed_updateBundle
    (status : ∀ bundle, (change.apply bundle).status = bundle.status)
    (token : ∀ bundle, (change.apply bundle).claimedBy = bundle.claimedBy) :
    Claimed request (store.updateBundle bundleId change) := by
  obtain ⟨bundle, found, flushing, owned⟩ := claimed
  by_cases same : request.bundleId = bundleId
  · subst same
    refine ⟨change.apply bundle, ?_, (status bundle).trans flushing, (token bundle).trans owned⟩
    rw [Store.updateBundle, Table.find?_update_self, found]
    rfl
  · refine ⟨bundle, ?_, flushing, owned⟩
    rw [Store.updateBundle, Table.find?_update_of_ne _ _ same, found]

theorem claimed_insertBundle
    (inserted : store.insertBundle bundle = some next) : Claimed request next := by
  obtain ⟨row, found, flushing, owned⟩ := claimed
  unfold Store.insertBundle at inserted
  split at inserted
  next absent =>
    cases inserted
    refine ⟨row, ?_, flushing, owned⟩
    rw [Table.find?_insert_of_ne, found]
    rintro same
    rw [← same, found] at absent
    cases absent
  · cases inserted

theorem claimed_quarantineMember
    (moved : quarantineMember world request bundle member quarantine store = some (next, held)) :
    Claimed request next := by
  have counted : ∀ minted : Store, Claimed request minted → Claimed request
        (((minted.moveMember member.id (quarantine.getD world.quarantineId)).bumpCounters
            request.bundleId (-member.sizeBytes) (-1)).bumpCounters
          (quarantine.getD world.quarantineId) member.sizeBytes 1) := by
    intro minted minting
    have relocated : Claimed request (minted.moveMember member.id
        (quarantine.getD world.quarantineId)) := minting
    exact claimed_updateBundle
      (claimed_updateBundle relocated (fun _ => rfl) (fun _ => rfl))
      (fun _ => rfl) (fun _ => rfl)
  obtain ⟨minted, minting, rest⟩ := Option.bind_eq_some_iff.mp moved
  have mintedClaim : Claimed request minted := by
    cases quarantine with
    | some held =>
      cases minting
      exact claimed
    | none => exact claimed_insertBundle claimed minting
  dsimp only at rest
  split at rest
  · cases rest
    exact counted minted mintedClaim
  · cases rest

/-- A claimed bundle can be sealed. -/
theorem closeBundle_of_claimed :
    ∃ closed, store.closeBundle request.bundleId request.token request.now rows = some closed ∧
      closed.status? request.bundleId = some .sealed := by
  obtain ⟨bundle, found, flushing, owned⟩ := claimed
  unfold Store.closeBundle Store.updateBundleWhere
  rw [found]
  simp only [flushing, owned]
  refine ⟨_, rfl, ?_⟩
  simp only [Store.status?, Store.updateBundle, Table.find?_update_self, found, Option.map_some]

end

theorem claimed_claimBundleForFlush
    {request : Request}
    {store next : Store}
    (taken : store.claimBundleForFlush request.bundleId request.token request.now = some next) :
    Claimed request next := by
  unfold Store.claimBundleForFlush Store.updateBundleWhere at taken
  split at taken
  · cases taken
  next bundle found =>
    split at taken
    · cases taken
      refine ⟨{ bundle with
        status := .flushing
        claimedBy := some request.token
        flushedAt := some request.now }, ?_, rfl, rfl⟩
      rw [Store.updateBundle, Table.find?_update_self, found]
      rfl
    · cases taken

/-! ## Whole flushes -/

section Flushes

variable {world : Surroundings} {request : Request}
variable {targets : List PoolTarget} {catalog : Catalog}

theorem dry_prepareAttempt : Dry (prepareAttempt world request targets attempt rows).1 := by
  unfold prepareAttempt
  split
  · exact fun _ member => absurd member not_mem_nil
  · exact dry_prepareFrom _ _ _ _ _ _

theorem prepared_of_prepareAttempt
    (finished : prepareAttempt world request targets attempt rows = (effects, .ok prepared)) :
    Prepared attempt 0 targets effects prepared := by
  unfold prepareAttempt at finished
  split at finished
  · cases finished
  · exact prepared_of_prepareFrom finished

/-- What an attempt comes to when it has stopped before its first write. -/
def Stop.attempted : Stop → Attempted
  | .raised escaped => .raised escaped
  | .memberFailure member message => .memberFailure member message

/-- An attempt stops before its first write, or has prepared every target and
goes through the second loop. -/
theorem fanOutTargets_eq (fannedOut : fanOutTargets world request targets attempt rows
      catalog = (more, attempted)) :
    (∃ stop, Dry more ∧
      (prepareAttempt world request targets attempt rows).2 = .error stop ∧
      attempted = stop.attempted) ∨
    ∃ front prepared fanned escaped, Dry front ∧
      Prepared attempt 0 targets front prepared ∧
      (prepareAttempt world request targets attempt rows).2 = .ok prepared ∧
      placeFrom world request attempt 0 prepared
        ⟨catalog, [], [], [], [], none⟩ = (fanned, escaped) ∧
      more = front ++ fanned.effects ∧
      attempted = match escaped with
        | some raised => .raised raised
        | none => .fanned fanned := by
  have dry : Dry (prepareAttempt world request targets attempt rows).1 := dry_prepareAttempt
  unfold fanOutTargets at fannedOut
  split at fannedOut
  next finished =>
    cases fannedOut
    rw [finished] at dry ⊢
    exact .inl ⟨_, dry, rfl, rfl⟩
  next finished =>
    cases fannedOut
    rw [finished] at dry ⊢
    exact .inl ⟨_, dry, rfl, rfl⟩
  next front prepared finished =>
    have ready := prepared_of_prepareAttempt finished
    rw [finished] at dry ⊢
    split at fannedOut
    next fanned raised placed =>
      cases fannedOut
      exact .inr ⟨front, prepared, fanned, some raised, dry, ready, rfl, placed, rfl, rfl⟩
    next fanned placed =>
      cases fannedOut
      exact .inr ⟨front, prepared, fanned, none, dry, ready, rfl, placed, rfl, rfl⟩

/-- A member failure is found before the first write. -/
theorem dry_of_memberFailure (fannedOut : fanOutTargets world request targets attempt rows
      catalog = (more, .memberFailure member message)) :
    Dry more ∧ (prepareAttempt world request targets attempt rows).2 =
      .error (.memberFailure member message) := by
  rcases fanOutTargets_eq fannedOut with
    ⟨stop, still, stopped, ended⟩ | ⟨_, _, _, escaped, _, _, _, _, _, ended⟩
  · cases stop with
    | raised => cases ended
    | memberFailure =>
      cases ended
      exact ⟨still, stopped⟩
  · cases escaped <;> cases ended

theorem Prepared.append
    (ready : Prepared attempt index targets front prepared)
    (effects : List Effect) : Prepared attempt index targets (effects ++ front) prepared where
  covers := ready.covers
  events offset below :=
    (ready.events offset below).imp (mem_append_right _) (mem_append_right _)

/-- What a flush leaves behind, by what it has prepared for its writes. -/
def Leaves (world : Surroundings) (request : Request) (targets : List PoolTarget)
    (catalog : Catalog) (outcome : Outcome) : Option (List (PoolTarget × BuildArtifact)) → Prop
  | none => Dry outcome.effects
  | some prepared => ∃ attempt front fanned escaped,
    placeFrom world request attempt 0 prepared ⟨catalog, [], [], [], [], none⟩ = (fanned, escaped) ∧
    Dry front ∧ Prepared attempt 0 targets front prepared ∧
    outcome.effects = front ++ fanned.effects ∧
    outcome.result.isOk = escaped.isNone ∧
    (escaped = none → outcome.store.status? request.bundleId = some .sealed ∧
      outcome.catalog = fanned.catalog)

theorem leaves_attemptFrom (dry : Dry effects) (claimed : Claimed request store) :
    Leaves world request targets catalog
      (attemptFrom world request targets bundle old catalog retries attempt quarantine
        effects store)
      (writingFrom world request targets bundle retries attempt quarantine store) := by
  fun_induction attemptFrom world request targets bundle old catalog
    retries attempt quarantine effects store with
  | case1 _ _ _ _ _ _ empty =>
    rw [writingFrom, if_pos empty]
    exact dry
  | case2 retries attempt _ _ _ rows some more raised fannedOut =>
    rw [writingFrom, if_neg some]
    rcases fanOutTargets_eq fannedOut with
      ⟨stop, still, stopped, ended⟩ |
      ⟨front, prepared, fanned, escaped, still, ready, finished, placed, rfl, ended⟩
    · cases stop with
      | memberFailure => cases ended
      | raised =>
        rw [stopped]
        exact dry.append still
    · rw [finished]
      cases escaped with
      | none => cases ended
      | some =>
        exact ⟨attempt, _, fanned, _, placed, dry.append still, ready.append _,
          (append_assoc ..).symm, rfl, nofun⟩
  | case3 _ _ _ _ _ _ _ _ _ _ lost =>
    obtain ⟨closed, sealing, _⟩ := closeBundle_of_claimed claimed
    rw [sealing] at lost
    cases lost
  | case4 retries attempt _ _ _ rows some more fanned fannedOut closed sealing =>
    obtain ⟨_, sealed, status⟩ := closeBundle_of_claimed claimed
    obtain rfl : closed = _ := Option.some.inj (sealing.symm.trans sealed)
    rw [writingFrom, if_neg some]
    rcases fanOutTargets_eq fannedOut with
      ⟨stop, _, _, ended⟩ |
      ⟨front, prepared, _, escaped, still, ready, finished, placed, rfl, ended⟩
    · cases stop <;> cases ended
    · rw [finished]
      cases escaped with
      | some => cases ended
      | none =>
        cases ended
        exact ⟨attempt, _, fanned, none, placed, dry.append still, ready.append _,
          (append_assoc ..).symm, rfl,
          fun _ => ⟨status, rfl⟩⟩
  | case5 _ _ _ _ _ some _ _ _ fannedOut =>
    rw [writingFrom]
    dsimp only
    rw [if_neg some, (dry_of_memberFailure fannedOut).2]
    exact dry.append (dry_of_memberFailure fannedOut).1
  | case6 _ _ _ _ _ some _ _ _ fannedOut _ unmoved =>
    rw [writingFrom]
    dsimp only
    rw [if_neg some, (dry_of_memberFailure fannedOut).2]
    dsimp only
    rw [unmoved]
    exact dry.append (dry_of_memberFailure fannedOut).1
  | case7 _ _ _ _ _ some _ _ _ fannedOut _ _ _ moved ih =>
    rw [writingFrom]
    dsimp only
    rw [if_neg some, (dry_of_memberFailure fannedOut).2]
    dsimp only
    rw [moved]
    exact ih (dry.append (dry_of_memberFailure fannedOut).1)
      (claimed_quarantineMember claimed moved)

/-- A dry outcome owes nothing. -/
theorem recorded_of_dry (dry : Dry outcome.effects) : Recorded request targets outcome where
  preparedFirst := dry.preparedFirst _
  returned _ _ _ member := by cases dry _ member
  rows _ _ _ member := by cases dry _ member

theorem preparedFirst_of_leaves
    (leaves : Leaves world request targets catalog outcome writes) :
    PreparedFirst targets.length outcome.effects := by
  cases writes with
  | none => exact Dry.preparedFirst leaves _
  | some prepared =>
    obtain ⟨attempt, front, fanned, escaped, placed, dry, ready, effects, _⟩ := leaves
    obtain ⟨writes, appended, within⟩ := extends_placeFrom world request attempt 0
      ⟨catalog, [], [], [], [], none⟩
    rw [placed] at appended
    rw [effects, appended]
    exact preparedFirst_append dry (by simpa using ready.events) within

/-- An outcome is on record exactly if the loop it went through is. -/
theorem recorded_iff_onRecord
    {prepared : List (PoolTarget × BuildArtifact)}
    (leaves : Leaves world request targets catalog outcome (some prepared)) :
    ∃ attempt, prepared.map Prod.fst = targets ∧ (Recorded request targets outcome ↔
      OnRecord request targets
        (placeFrom world request attempt 0 prepared ⟨catalog, [], [], [], [], none⟩)) := by
  have order := preparedFirst_of_leaves leaves
  obtain ⟨attempt, front, fanned, escaped, placed, dry, ready, effects, returned, kept⟩ := leaves
  have later : ∀ other position locator, .wrote other position locator ∈ outcome.effects ↔
      .wrote other position locator ∈ fanned.effects := by
    intro other position locator
    rw [effects, mem_append]
    exact or_iff_right fun early => by cases dry _ early
  refine ⟨attempt, ready.covers, ?_⟩
  rw [placed]
  constructor
  · intro recorded other position locator member
    have member := (later other position locator).mpr member
    have finished : escaped = none := by
      simpa [(recorded.returned other position locator member).1] using returned
    refine ⟨finished, ?_⟩
    rw [← (kept finished).2]
    exact recorded.rows other position locator member
  · intro record
    refine ⟨order, fun other position locator member => ?_, fun other position locator member => ?_⟩
    · have finished : escaped = none := (record other position locator ((later ..).mp member)).1
      exact ⟨by rw [returned, finished]; rfl, (kept finished).1⟩
    · obtain ⟨finished, rows⟩ := record other position locator ((later ..).mp member)
      rw [(kept finished).2]
      exact rows

/-- A flush that gets to its loop has claimed the open bundle. -/
theorem claimFlush_eq_ok
    (begun : claimFlush world request store = .ok (offered, bundle, next)) :
    world.targets = .ok offered ∧ store.bundles.find? request.bundleId = some bundle ∧
      bundle.status = .opened ∧ Claimed request next := by
  unfold claimFlush at begun
  split at begun
  · cases begun
  · split at begun
    · cases begun
    next found =>
      split at begun
      · cases begun
      next opened =>
        split at begun
        · cases begun
        · split at begun
          · cases begun
          next targets =>
            split at begun
            · cases begun
            · dsimp only at begun
              split at begun
              · cases begun
              · split at begun
                · cases begun
                next taken =>
                  have owned := claimed_claimBundleForFlush taken
                  cases begun
                  refine ⟨targets, found, not_not.mp opened, ?_⟩
                  split
                  · exact claimed_updateBundle owned (fun _ => rfl) (fun _ => rfl)
                  · exact owned

theorem leaves_flushBundle (found : world.targets = .ok targets) :
    Leaves world request targets catalog (flushBundle world request store catalog)
      (writing world request store) := by
  have nothing : Dry [] := fun _ member => absurd member not_mem_nil
  unfold flushBundle writing
  split
  · exact nothing
  next begun =>
    obtain ⟨offered, _, _, claimed⟩ := claimFlush_eq_ok begun
    cases offered.symm.trans found
    exact leaves_attemptFrom nothing claimed

/-- No flush starts a write before every target is built and validated. -/
theorem preparedFirst_flushBundle (found : world.targets = .ok targets) :
    PreparedFirst targets.length (flushBundle world request store catalog).effects :=
  preparedFirst_of_leaves (leaves_flushBundle found)

/-- Where targets do not share a pool, a flush leaves no object on media without a
row exactly if the writes it gets to are settled. -/
theorem recorded_iff_settled
    {store : Store}
    (books : Books store catalog)
    (found : world.targets = .ok targets)
    (distinct : (targets.map PoolTarget.poolId).Nodup) :
    Recorded request targets (flushBundle world request store catalog) ↔
      settled world request store catalog = true := by
  have leaves := @leaves_flushBundle world request targets catalog store found
  unfold settled
  cases writes : writing world request store with
  | none =>
    rw [writes] at leaves
    exact iff_of_true (recorded_of_dry leaves) rfl
  | some prepared =>
    rw [writes] at leaves
    have tidy : Tidy request targets 0 catalog := by
      unfold writing at writes
      split at writes
      · cases writes
      next begun =>
        obtain ⟨_, present, opened, _⟩ := claimFlush_eq_ok begun
        exact ⟨(books.bundles _).mpr (by rw [present]; rfl), books.history,
          fun copy member about => absurd about (books.opened _ _ present opened copy member)⟩
    obtain ⟨attempt, covers, recorded⟩ := recorded_iff_onRecord leaves
    have begun : Kept request targets catalog [] 0 ⟨catalog, [], [], [], [], none⟩ :=
      ⟨tidy, fun _ _ _ member => absurd member not_mem_nil, fun some => absurd rfl some,
        fun _ _ => by simp⟩
    rw [recorded, onRecord_placeFrom distinct covers begun]
    rfl

end Flushes

/-! ## Flushes of one small bundle -/

/-- A store with one open bundle of one member. -/
def smallStore : Store where
  bundles := ⟨[⟨"b", "g", .opened, 3, 1, 10, 60, none, none, 0, none, none, none⟩], by decide⟩
  members := ⟨[⟨1, "b", "h", "video", "clip.mov", some "/s/clip.mov", 3, "h", none⟩], by decide⟩
  assets := ["h"]
  seals := []
  admissions := []

/-- A catalog that knows the bundle and no copy. -/
def smallCatalog : Catalog where
  copies := Table.empty
  assets := []
  bundles := ["b"]
  pools := []
  jobs := []
  history := []

/-- The tape and the shelf pool that the bundle goes to. -/
def smallTargets : List PoolTarget :=
  [⟨"tape", 1, "library", .remObjectV1, none⟩, ⟨"shelf", 2, "vault", .d2tarRaw, none⟩]

def smallRequest : Request where
  bundleId := "b"
  token := "host:1:boot:1"
  deliverables := false
  signed := false
  tapeCapacityBytes := none
  now := 7
  producerProcess := "p"

/-- Both targets build; the tape returns a locator and the shelf is away.  The
answer of the read-back is left open. -/
def smallSurroundings (verdict : Except Raised VerifyResult) : Surroundings where
  targets := .ok smallTargets
  availableBytes := 1000
  identityFault _ := none
  memberInputs _ := .ok [⟨"clip.mov", "h", "h", 3, none⟩]
  unmappable _ := none
  renderFault _ := none
  build _ _ := .ok ⟨[⟨"clip.mov", "h", "h", 3, none⟩], [], [], none⟩
  mapLine _ := none
  writerPath _ := none
  quarantineId := "q"
  write
    | 0 => .ok "barcode:5"
    | _ => .error (.osError "no such mount")
  rootsFault _ := none
  verify _ := verdict
  exclusionsFault _ := none
  emitManifest _ := .ok "receipt"

theorem books_small : Books smallStore smallCatalog where
  bundles bundleId := by
    by_cases same : bundleId = "b"
    · subst same
      decide
    · have absent : smallStore.bundles.find? bundleId = none := by
        rw [Table.find?_eq_none_iff]
        intro bundle member
        rw [mem_singleton.mp member]
        exact fun equal => same equal.symm
      simp [absent, smallCatalog, same]
  history _ member := absurd member not_mem_nil
  opened _ _ _ _ _ member := absurd member not_mem_nil

theorem preparedFirst_flushBundle_small :
    let flushed := flushBundle (smallSurroundings (.error (.backendError "timeout")))
      smallRequest smallStore smallCatalog
    Effect.writeStarted 0 0 ∈ flushed.effects ∧ PreparedFirst smallTargets.length flushed.effects :=
  ⟨by decide +kernel, preparedFirst_flushBundle rfl⟩

/-- A read-back that refuses the tape object leaves a suspect row. -/
theorem recorded_iff_settled_refused : Effect.wrote 0 0 "barcode:5" ∈
        (flushBundle (smallSurroundings (.error (.archiveFanoutError (.detail "member differs"))))
          smallRequest smallStore smallCatalog).effects ∧
      Recorded smallRequest smallTargets (flushBundle (smallSurroundings
          (.error (.archiveFanoutError (.detail "member differs"))))
          smallRequest smallStore smallCatalog) :=
  ⟨by decide +kernel, (recorded_iff_settled books_small rfl (by decide)).mpr (by decide +kernel)⟩

/-- The tape has written its object and the backend fails during the read-back:
the savepoint discards the row, and the flush seals the bundle without one. -/
theorem not_recordedLaw : ¬RecordedLaw := by
  intro law
  have recorded := law (smallSurroundings (.error (.backendError "timeout")))
    smallRequest smallStore smallCatalog smallTargets books_small rfl
  have wrote : Effect.wrote 0 0 "barcode:5" ∈
      (flushBundle (smallSurroundings (.error (.backendError "timeout")))
        smallRequest smallStore smallCatalog).effects := by
    decide +kernel
  have rows : (flushBundle (smallSurroundings (.error (.backendError "timeout")))
        smallRequest smallStore smallCatalog).catalog.copies.rows = [] := by
    decide +kernel
  obtain ⟨_, _, copy, member, _⟩ := recorded.rows 0 0 "barcode:5" wrote
  rw [rows] at member
  exact absurd member not_mem_nil

end Fanout
end Archive
end Sutradhara
