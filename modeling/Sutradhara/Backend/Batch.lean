import Sutradhara.Journal.Envelope

/-!
# The tape batch writer

A write session appends objects one by one, and a checkpoint or the close of the
session makes them durable.  The daemon may answer anything.  Each append that reaches
the daemon has a number here, and what the writer returns or lists for requeue carries
the number of its append.
-/

namespace Sutradhara
namespace Backend

open Foundation
open Foundation.Raising
open Journal (hexText)

/-- A string of bytes. -/
abbrev Bytes := List UInt8

/-! ## Messages of the daemon -/

/-- `AppendCommitInfo`. -/
structure AppendCommitInfo where
  appendMode : Nat
  tapeUuid : Bytes
  voltag : Option String
  tapeFileNumber : Option Nat
  firstBodyLba : Nat
  positionBeforeLba : Option Nat
  positionAfterLba : Option Nat
  journalRecordOrdinal : Option Nat
  estimatedRemainingBytes : Option Nat
  sealedAfterWrite : Option Bool
  durability : Nat
  batchId : Bytes
  provisionalOrdinal : Option Nat

/-- `ObjectCopy`.  The time of the last verification is given as its text, or as the
error that its conversion raises. -/
structure ObjectCopy where
  tapeUuid : Bytes
  tapeFileNumber : Nat
  firstBodyLba : Nat
  lastVerifiedAt : Option (String ⊕ String)
  health : Nat
  poolId : String

/-- `ObjectRecord`. -/
structure ObjectRecord where
  objectId : Bytes
  callerObjectId : String
  contentSha256 : Bytes
  logicalSizeBytes : Nat
  bodyFormat : String
  callerMetadata : List (String × String)
  copies : List ObjectCopy
  appendCommitInfo : Option AppendCommitInfo

/-- What a checkpoint or a close may be answered with. -/
inductive SessionResponse
  | checkpoint (committedObjects : List ObjectRecord) (committedCopies : List ObjectCopy)
  | writeSession (checkpointedObjects : List ObjectRecord) (committedCopies : List ObjectCopy)
  | other (typeName : String)

/-! ## Errors -/

/-- The errors met by the writer. -/
inductive BatchFault
  | writerClosed
  | digestLength
  | emptyCallerObjectId
  | alreadyPending (callerObjectId : String)
  | rpc (text : String)
  | observer (text : String)
  | writtenExposedCopy
  | writtenExposedFileNumber
  | unknownDurability (value : Nat)
  | batchChanged (before after : String)
  | unexpectedResponse (operation typeName : String)
  | unpaired (operation : String) (copies objects : Nat)
  | omittedCommits (operation : String)
  | ambiguousCopy (copies : Nat) (tapeUuid : Bytes)
  | unknownCaller (operation callerObjectId : String)
  | duplicateCopy (operation callerObjectId : String)
  | uncommitted (operation : String) (missing : List String)
  | contentHashLength (length : Nat)
  | fieldLength (field : String) (length expected : Nat)
  | timestamp (text : String)

/-- The text of an error, with the quotation of texts as the source has it. -/
def BatchFault.detail (quote : String → String) : BatchFault → String
  | .writerClosed => "Remanence batch writer is closed"
  | .digestLength => "content_sha256 must be exactly 32 bytes"
  | .emptyCallerObjectId => "caller_object_id must be non-empty"
  | .alreadyPending callerObjectId =>
    s!"caller_object_id {quote callerObjectId} is already pending"
  | .rpc text => text
  | .observer text => text
  | .writtenExposedCopy => "Remanence WRITTEN ack exposed a committed ObjectCopy"
  | .writtenExposedFileNumber => "Remanence WRITTEN ack exposed provisional tape_file_number"
  | .unknownDurability value => s!"Remanence AppendCommitInfo has unknown durability {value}"
  | .batchChanged before after => s!"Remanence changed batch id {quote before} -> {quote after}"
  | .unexpectedResponse operation typeName =>
    s!"Remanence {operation} returned unexpected response type {typeName}"
  | .unpaired operation copies objects =>
    s!"Remanence {operation} returned {copies} copies for {objects} committed objects"
  | .omittedCommits operation => s!"Remanence {operation} response omitted the committed-copy set"
  | .ambiguousCopy copies tapeUuid =>
    s!"Remanence committed-copy response returned {copies} copies; cannot " ++
      "identify the one written to tape " ++
      String.ofList ((hexText tapeUuid).toList.take 12) ++ "…"
  | .unknownCaller operation callerObjectId =>
    s!"Remanence {operation} returned unknown caller_object_id {quote callerObjectId}"
  | .duplicateCopy operation callerObjectId =>
    s!"Remanence {operation} returned duplicate committed copy for " ++ quote callerObjectId
  | .uncommitted operation missing =>
    s!"Remanence {operation} did not commit every pending caller object: " ++
      "[" ++ ", ".intercalate (missing.map quote) ++ "]"
  | .contentHashLength length => s!"content_sha256 must be 32 bytes; got {length}"
  | .fieldLength field length expected =>
    s!"Remanence Catalog returned {field} with {length} bytes; expected {expected}"
  | .timestamp text => text

/-- The errors that end a session.  The mismatch of a digest,
`RemanenceDigestMismatchError`, is told apart from the others. -/
inductive WriteFault
  | digestMismatch (supplied streamed : Bytes)
  | other (fault : BatchFault)

/-- The text of an error that ends a session. -/
def WriteFault.detail (quote : String → String) : WriteFault → String
  | .digestMismatch supplied streamed =>
    "Remanence content SHA-256 mismatch: supplied=" ++ hexText supplied ++
      " streamed=" ++ hexText streamed
  | .other fault => fault.detail quote

/-! ## Copies -/

/-- The commit info of an append as it stands in the metadata of a copy. -/
structure CommitMetadata where
  appendMode : String
  tapeUuid : String
  voltag : Option String
  tapeFileNumber : Nat
  firstBodyLba : Nat
  positionBeforeLba : Option Nat
  positionAfterLba : Option Nat
  journalRecordOrdinal : Option Nat
  estimatedRemainingBytes : Option Nat
  sealedAfterWrite : Option Bool

/-- The metadata of a copy. -/
structure CopyMetadata where
  bodyFormat : String
  callerObjectId : String
  health : String
  lastVerifiedAt : String
  callerMetadata : List (String × String)
  appendCommitInfo : Option CommitMetadata

/-- The native locator of a copy. -/
structure NativeLocator where
  tapeUuid : String
  tapeFileNumber : Nat
  firstBodyLba : Nat
  objectId : String
  callerObjectId : String
  contentSha256 : String
  poolId : String
  bodyFormat : String

/-- `CopyRecord`. -/
structure CopyRecord where
  logicalId : Bytes
  nativeLocator : NativeLocator
  integrityHash : Bytes
  sizeBytes : Nat
  metadata : CopyMetadata

section

variable (value : Bytes) (object : ObjectRecord) (copy : ObjectCopy)

/-- `content_hash`. -/
def contentHash : Except BatchFault Bytes :=
  if value.length = 32 then .ok value else .error (.contentHashLength value.length)

/-- `_hex_bytes`. -/
def hexBytes (field : String) (length : Nat) : Except BatchFault String :=
  if value.length = length then .ok (hexText value)
  else .error (.fieldLength field value.length length)

/-- `_copy_health`. -/
def copyHealth : Nat → String
  | 0 => "unspecified"
  | 1 => "ok"
  | 2 => "suspect"
  | 3 => "degraded"
  | 4 => "lost"
  | health => s!"unknown:{health}"

/-- `_append_mode`. -/
def appendMode : Nat → String
  | 0 => "unspecified"
  | 1 => "fresh"
  | 2 => "append"
  | 3 => "resume_control"
  | 4 => "seal"
  | mode => s!"unknown:{mode}"

/-- `_timestamp_text` of the last verification. -/
def timestampText : Option (String ⊕ String) → Except BatchFault String
  | none => .ok ""
  | some (.inl text) => .ok text
  | some (.inr error) => .error (.timestamp error)

/-- `_append_commit_info_from_proto`. -/
def appendCommitInfoFromProto (info : AppendCommitInfo) : Except BatchFault CommitMetadata := do
  let tapeUuid ← hexBytes info.tapeUuid "append_commit_info.tape_uuid" 16
  return {
    appendMode := appendMode info.appendMode
    tapeUuid := tapeUuid
    voltag := info.voltag
    tapeFileNumber := info.tapeFileNumber.getD 0
    firstBodyLba := info.firstBodyLba
    positionBeforeLba := info.positionBeforeLba
    positionAfterLba := info.positionAfterLba
    journalRecordOrdinal := info.journalRecordOrdinal
    estimatedRemainingBytes := info.estimatedRemainingBytes
    sealedAfterWrite := info.sealedAfterWrite }

/-- `_native_locator_from_proto`. -/
def nativeLocatorFromProto :
    Except BatchFault NativeLocator := do
  let tapeUuid ← hexBytes copy.tapeUuid "tape_uuid" 16
  let objectId ← hexBytes object.objectId "object_id" 16
  let contentSha256 ← hexBytes object.contentSha256 "content_sha256" 32
  return {
    tapeUuid := tapeUuid
    tapeFileNumber := copy.tapeFileNumber
    firstBodyLba := copy.firstBodyLba
    objectId := objectId
    callerObjectId := object.callerObjectId
    contentSha256 := contentSha256
    poolId := copy.poolId
    bodyFormat := object.bodyFormat }

/-- `_copy_record_from_proto`. -/
def copyRecordFromProto :
    Except BatchFault CopyRecord := do
  let digest ← contentHash object.contentSha256
  let lastVerifiedAt ← timestampText copy.lastVerifiedAt
  let appendCommitInfo ← object.appendCommitInfo.mapM appendCommitInfoFromProto
  let nativeLocator ← nativeLocatorFromProto object copy
  return {
    logicalId := digest
    nativeLocator := nativeLocator
    integrityHash := digest
    sizeBytes := object.logicalSizeBytes
    metadata := {
      bodyFormat := object.bodyFormat
      callerObjectId := object.callerObjectId
      health := copyHealth copy.health
      lastVerifiedAt := lastVerifiedAt
      callerMetadata := object.callerMetadata.map fun entry =>
        ("caller_meta:" ++ entry.1, entry.2)
      appendCommitInfo := appendCommitInfo } }

/-- `_select_written_copy`. -/
def selectWrittenCopy (tapeUuid : Bytes) : Except BatchFault ObjectCopy :=
  match object.copies.filter fun copy => copy.tapeUuid = tapeUuid, object.copies with
  | [copy], _ => .ok copy
  | [], [copy] => .ok copy
  | _, _ => .error (.ambiguousCopy object.copies.length tapeUuid)

/-! ## Receipts -/

/-- `AppendDurability`. -/
inductive AppendDurability
  | written
  | checkpointed
  deriving DecidableEq

/-- `WrittenReceipt`. -/
structure WrittenReceipt where
  batchId : String
  provisionalOrdinal : Nat

/-- `_append_durability`. -/
def appendDurability : Option AppendCommitInfo → Except BatchFault (Option AppendDurability)
  | none => .ok none
  | some info =>
    match info.durability with
    | 1 => .ok (some .written)
    | 2 => .ok (some .checkpointed)
    | value => .error (.unknownDurability value)

/-- `_written_receipt_from_response`.  Ordinals are unsigned in the messages. -/
def writtenReceiptFromResponse (fallbackBatchId : String) (fallbackOrdinal : Nat) :
    Except BatchFault (WrittenReceipt × Option AppendDurability) := do
  let durability ← appendDurability object.appendCommitInfo
  if durability = some .written then
    require object.copies.isEmpty .writtenExposedCopy
    require (object.appendCommitInfo.all fun info => info.tapeFileNumber.isNone)
      .writtenExposedFileNumber
  let batchId := match object.appendCommitInfo with
    | some info => if info.batchId.isEmpty then fallbackBatchId else hexText info.batchId
    | none => fallbackBatchId
  let ordinal := (object.appendCommitInfo.bind fun info =>
    info.provisionalOrdinal).getD fallbackOrdinal
  return (⟨batchId, ordinal⟩, durability)

end

/-! ## The writer -/

/-- `_PendingAppend`, with the number of the append. -/
structure PendingAppend where
  attempt : Nat
  source : String
  callerObjectId : String
  receipt : WrittenReceipt
  legacyRecord : Option ObjectRecord

/-- `CommittedCopy`, with the number of the append. -/
structure CommittedCopy where
  attempt : Nat
  callerObjectId : String
  copyRecord : CopyRecord
  batchId : String
  provisionalOrdinal : Nat

/-- `RequeueObject`, with the number of the append. -/
structure RequeueObject where
  attempt : Nat
  callerObjectId : String
  source : String
  batchId : String
  provisionalOrdinal : Option Nat

/-- The session of a writer. -/
structure WriteSession where
  endpoint : String
  sessionId : Bytes
  tapeUuid : Bytes
  driveElementAddress : Nat
  quote : String → String

/-- `BatchWriter`. -/
structure BatchWriter where
  pending : List PendingAppend
  closed : Bool
  batchId : Option String
  nextOrdinal : Nat

/-- The error that ends a session. -/
inductive SessionError
  | digestMismatch (message : String)
  | writeSession (message : String) (sessionId : Bytes) (driveElementAddress : Nat)
      (requeueObjects : List RequeueObject)

/-- The objects that an error lists for requeue. -/
def SessionError.requeueObjects : SessionError → List RequeueObject
  | .digestMismatch _ => []
  | .writeSession _ _ _ objects => objects

section

variable (session : WriteSession)

/-- `_requeue_objects`. -/
def BatchWriter.requeueObjects (writer : BatchWriter) : List RequeueObject :=
  writer.pending.map fun item =>
    ⟨item.attempt, item.callerObjectId, item.source, item.receipt.batchId,
      some item.receipt.provisionalOrdinal⟩

/-- `_fail`.  A digest mismatch is passed on as it is. -/
def BatchWriter.fail (writer : BatchWriter) (fault : WriteFault)
    (requeue : List RequeueObject) : BatchWriter × SessionError :=
  ({ writer with closed := true },
    match fault with
    | .digestMismatch _ _ => .digestMismatch (fault.detail session.quote)
    | .other _ => .writeSession
        (s!"Remanence write session at {session.quote session.endpoint} failed: " ++
          fault.detail session.quote)
        session.sessionId session.driveElementAddress requeue)

/-- What happens while an object is streamed: the digest of the bytes, if the stream
was read to its end, the answer of the daemon, and the error of the observer of written
objects, if it raises. -/
structure AppendAnswer where
  streamed : Option Bytes
  response : Except String ObjectRecord
  observer : Option String

section

variable (writer : BatchWriter) (attempt : Nat) (source callerObjectId operation : String)
  (response : SessionResponse) (contentSha256 : Option Bytes) (answer : AppendAnswer)

/-- The stream of an object does not match the digest supplied for it. -/
def mismatch : Option WriteFault :=
  match contentSha256, answer.streamed with
  | some supplied, some streamed =>
    if streamed ≠ supplied then some (.digestMismatch supplied streamed) else none
  | _, _ => none

/-- The part of `append` that takes up the record of the daemon.  The object is pending
before the observer is called. -/
def BatchWriter.takeUp (record : ObjectRecord)
    (observer : Option String) : BatchWriter × Except BatchFault WrittenReceipt :=
  match writtenReceiptFromResponse record
      (writer.batchId.getD (hexText session.sessionId)) writer.nextOrdinal with
  | .error fault => (writer, .error fault)
  | .ok (receipt, durability) =>
    match writer.batchId.filter fun before => before ≠ receipt.batchId with
    | some before => (writer, .error (.batchChanged before receipt.batchId))
    | none =>
      ({ writer with
          batchId := some receipt.batchId
          nextOrdinal := max (writer.nextOrdinal + 1) (receipt.provisionalOrdinal + 1)
          pending := writer.pending ++ [⟨attempt, source, callerObjectId, receipt,
            if durability.isNone then some record else none⟩] },
        match observer with
        | some text => .error (.observer text)
        | none => .ok receipt)

/-- The exchange with the daemon about one object. -/
def BatchWriter.exchange : BatchWriter × Except WriteFault WrittenReceipt :=
  match mismatch contentSha256 answer with
  | some fault => (writer, .error fault)
  | none =>
    match answer.response with
    | .error text => (writer, .error (.other (.rpc text)))
    | .ok record =>
      let (next, outcome) := writer.takeUp session attempt source callerObjectId
        record answer.observer
      (next, outcome.mapError .other)

/-- The checks of `append` before anything is sent. -/
def BatchWriter.checkAppend : Except BatchFault Unit := do
  require (!writer.closed) .writerClosed
  require (contentSha256.all fun digest => digest.length = 32) .digestLength
  require (!callerObjectId.isEmpty) .emptyCallerObjectId
  require (writer.pending.all fun item => item.callerObjectId ≠ callerObjectId)
    (.alreadyPending callerObjectId)

/-- The objects that a failed `append` lists. -/
def BatchWriter.requeueWith : List RequeueObject :=
  if writer.requeueObjects.any fun item => item.callerObjectId = callerObjectId then
    writer.requeueObjects
  else writer.requeueObjects ++ [⟨attempt, callerObjectId, source,
    writer.batchId.getD (hexText session.sessionId), none⟩]

/-- `append` after its checks. -/
def BatchWriter.append : BatchWriter × Except SessionError WrittenReceipt :=
  match writer.exchange session attempt source callerObjectId contentSha256 answer with
  | (next, .ok receipt) => (next, .ok receipt)
  | (next, .error fault) =>
    let (ended, error) := next.fail session fault
      (next.requeueWith session attempt source callerObjectId)
    (ended, .error error)

/-- `_committed_proto_pairs_from_response`. -/
def committedProtoPairsFromResponse :
    Except BatchFault (Option (List (ObjectRecord × ObjectCopy))) :=
  match response with
  | .checkpoint objects copies =>
    if objects.length ≠ copies.length then
      .error (.unpaired operation copies.length objects.length)
    else .ok (some (objects.zip copies))
  | .writeSession objects copies =>
    if objects.isEmpty && copies.isEmpty then .ok none
    else if objects.length ≠ copies.length then
      .error (.unpaired operation copies.length objects.length)
    else .ok (some (objects.zip copies))
  | .other typeName => .error (.unexpectedResponse operation typeName)

/-- The commits of a daemon that gave the durable records with the appends. -/
def BatchWriter.legacyCommits : Except BatchFault (List (ObjectRecord × ObjectCopy)) := do
  require (writer.pending.all fun item => item.legacyRecord.isSome) (.omittedCommits operation)
  (writer.pending.filterMap fun item => item.legacyRecord).mapM fun record => do
    let copy ← selectWrittenCopy record session.tapeUuid
    return (record, copy)

/-- The commits of a response. -/
def BatchWriter.commits :
    Option (List (ObjectRecord × ObjectCopy)) → Except BatchFault (List (ObjectRecord × ObjectCopy))
  | some pairs => .ok pairs
  | none => writer.legacyCommits session operation

/-- The pending append that a commit is about, and the id it is returned under.  The
ids of pending appends are distinct. -/
def BatchWriter.committedItem (legacy : Bool) (index : Nat)
    (object : ObjectRecord) : Option PendingAppend :=
  if legacy && index < writer.pending.length then writer.pending[index]?
  else writer.pending.find? fun item => item.callerObjectId = object.callerObjectId

/-- The loop of `_accept_committed` over the commits. -/
def BatchWriter.acceptEach (writer : BatchWriter) (operation : String)
    (legacy : Bool) : Nat → List String → List (ObjectRecord × ObjectCopy) →
      Except BatchFault (List CommittedCopy)
  | _, _, [] => .ok []
  | index, seen, (object, copy) :: rest =>
    match writer.committedItem legacy index object with
    | none => .error (.unknownCaller operation object.callerObjectId)
    | some item => do
        let copyRecord ← copyRecordFromProto object copy
        require (!seen.contains item.callerObjectId) (.duplicateCopy operation item.callerObjectId)
        let later ← writer.acceptEach operation legacy (index + 1)
          (item.callerObjectId :: seen) rest
        return ⟨item.attempt, item.callerObjectId, copyRecord, item.receipt.batchId,
          item.receipt.provisionalOrdinal⟩ :: later

/-- The copies that `_accept_committed` finds, before the writer forgets its appends.
The observer of checkpoints is called when there is a batch. -/
def BatchWriter.acceptedCopies (observer : Option String) :
    Except BatchFault (List CommittedCopy) := do
  let found ← committedProtoPairsFromResponse operation response
  let commits ← writer.commits session operation found
  let committed ← writer.acceptEach operation found.isNone 0 [] commits
  let seen := committed.map fun copy => copy.callerObjectId
  let missing := (writer.pending.map fun item => item.callerObjectId).filter
    fun callerObjectId => !seen.contains callerObjectId
  require missing.isEmpty (.uncommitted operation missing.mergeSort)
  match writer.batchId, observer with
  | some _, some text => .error (.observer text)
  | _, _ => return committed

/-- `_accept_committed`, in the handlers of `checkpoint` and `close`. -/
def BatchWriter.settle (response : Except String SessionResponse) (observer : Option String) :
    BatchWriter × Except SessionError (List CommittedCopy) :=
  let accepted : Except BatchFault (List CommittedCopy) := match response with
    | .error text => .error (.rpc text)
    | .ok answer => writer.acceptedCopies session operation answer observer
  match accepted with
  | .ok committed => ({ writer with pending := [], batchId := none }, .ok committed)
  | .error fault =>
    let (ended, error) := writer.fail session (.other fault) writer.requeueObjects
    (ended, .error error)

end

/-! ## Sessions -/

/-- The writer, the ids of the appends that reached the daemon, in order, the copies
that were returned, and the objects listed by the error that ended the session. -/
structure Batch where
  writer : BatchWriter
  attempts : List String
  committed : List CommittedCopy
  requeued : List RequeueObject

/-- A new session. -/
def Batch.opened : Batch := ⟨⟨[], false, none, 1⟩, [], [], []⟩

/-- A call of the writer, with what the daemon and the observers do. -/
inductive BatchCall
  | append (source callerObjectId : String) (contentSha256 : Option Bytes) (answer : AppendAnswer)
  | checkpoint (response : Except String SessionResponse) (observer : Option String)
  | close (response : Except String SessionResponse) (observer : Option String)

section

variable (batch : Batch) (attempt : Nat)

/-- Note the result of a `checkpoint` or a `close`. -/
def Batch.settled (result : BatchWriter × Except SessionError (List CommittedCopy)) : Batch :=
  match result with
  | (writer, .ok copies) =>
    { batch with writer := writer, committed := batch.committed ++ copies }
  | (writer, .error error) =>
    { batch with
      writer := writer
      requeued := batch.requeued ++ error.requeueObjects }

/-- Note the result of an `append` that reached the daemon. -/
def Batch.attempted (callerObjectId : String)
    (result : BatchWriter × Except SessionError WrittenReceipt) : Batch :=
  { batch with
    writer := result.1
    attempts := batch.attempts ++ [callerObjectId]
    requeued := match result.2 with
      | .ok _ => batch.requeued
      | .error error => batch.requeued ++ error.requeueObjects }

/-- Carry out a call.  A call that is refused changes nothing. -/
def Batch.step : BatchCall → Option Batch
  | .append source callerObjectId contentSha256 answer =>
    match batch.writer.checkAppend callerObjectId contentSha256 with
    | .error _ => some batch
    | .ok _ => some (batch.attempted callerObjectId
        (batch.writer.append session batch.attempts.length source callerObjectId
          contentSha256 answer))
  | .checkpoint response observer =>
    if batch.writer.closed then some batch
    else some (batch.settled (batch.writer.settle session "CheckpointSession" response observer))
  | .close response observer =>
    if batch.writer.closed then some batch
    else
      let next := batch.settled (batch.writer.settle session "CloseWriteSession" response observer)
      some { next with writer := { next.writer with closed := true } }

/-! ## Conservation -/

/-- How often an append was returned as committed. -/
def Batch.returns : Nat := (batch.committed.map CommittedCopy.attempt).count attempt

/-- How often an append was listed for requeue. -/
def Batch.lists : Nat := (batch.requeued.map RequeueObject.attempt).count attempt

end

/-- No append is returned and listed, or either of them twice; when the session has
ended each append was returned or listed; and only what was appended is returned. -/
structure Conserved (batch : Batch) : Prop where
  atMostOnce : ∀ attempt, batch.returns attempt + batch.lists attempt ≤ 1
  ended : batch.writer.closed = true → ∀ attempt < batch.attempts.length,
    batch.returns attempt + batch.lists attempt = 1
  appended : ∀ copy ∈ batch.committed, batch.attempts[copy.attempt]? = some copy.callerObjectId

end

/-- Every session conserves its appends. -/
def ConservationLaw : Prop :=
  ∀ (session : WriteSession) (calls : List BatchCall) (final : Batch),
    Transition.run (Batch.step session) Batch.opened calls = some final → Conserved final

end Backend
end Sutradhara
