import Sutradhara.Foundation.Interleaving

/-!
# Streaming intake calls

One streaming intake has a durable row, a landing directory and the
process-local upload counter of its runtime state.  `UploadFile`,
`CommitIntake`, `AbortIntake`, the failure after a lost lease and the orphan
reconciliation are cut at their own transactions and file-system effects.  Each
cut is one step of a thread, and the answers of the environment (arriving bytes,
a lost lease, an error of the assembly) are choices of the schedule.
-/

namespace Sutradhara
namespace Intake

open Foundation.Interleaving

/-- Durable state of a streaming intake row. -/
inductive GrpcIntakeState
  | streaming
  | committing
  | committed
  | aborted
  deriving DecidableEq

/-- One line of `receive-receipts.jsonl`. -/
structure Receipt where
  relpath : String
  serverSha256 : String
  bytes : Nat

/-- What the calls read and write below the landing directory of the intake. -/
structure LandingDir where
  receipts : List Receipt
  receivingMarker : Bool
  sentinel : Bool

/-- One entry of a commit request. -/
structure CommitFile where
  relpath : String
  clientSha256 : String
  bytes : Nat

/-- The part of a commit request that decides its course. -/
structure CommitRequest where
  files : List CommitFile
  manifestDigest : String

/-- What a finished call reported. -/
inductive Reply
  | failedPrecondition (detail : String)
  | fileReceipt (receipt : Receipt)
  | commitIntake (status : String) (reuploadRelpaths : List String)
  | liveStatus
  | abortIntake (status : String)
  | reconciled
  | raised

/-- Everything that several calls of one intake share.  `removedByAbort` records
that an abort has removed the landing directory. -/
structure Shared where
  state : GrpcIntakeState
  manifestDigest : Option String
  dir : Option LandingDir
  inFlight : Nat
  removedByAbort : Bool

/-- Where a call stands between two of its steps. -/
inductive Call
  | upload (relpath : String)
  | receiving (relpath : String)
  | leaseLost
  | uploadExit (reply : Reply)
  | commit (request : CommitRequest)
  | commitClaim (request : CommitRequest)
  | commitCheck (request : CommitRequest)
  | commitRollback (reply : Reply)
  | commitAssemble (request : CommitRequest)
  | commitFinish (request : CommitRequest)
  | commitCleanup
  | abort
  | abortRemove
  | abortMark
  | reconcile
  | returned (reply : Reply)

/-- Answers of the environment to one step. -/
inductive Answer
  | proceed
  | received (serverSha256 : String) (bytes : Nat)
  | leaseLost
  | receiveError (detail : String)
  | raised
  | raisedAfterMkdir
  | raisedRemoving (receipts receivingMarker sentinel : Bool)
  | inactive
  | killed
  deriving DecidableEq

section

variable (landing : LandingDir) (dir : Option LandingDir) (shared : Shared) (relpath : String)
  (request : CommitRequest)

/-- `compare_and_set_state`. -/
def compareAndSetState (expect update : GrpcIntakeState) : Option Shared :=
  if shared.state = expect then some { shared with state := update }
  else none

/-- `set_state`: no current value is expected. -/
def setState (state : GrpcIntakeState) : Shared := { shared with state := state }

/-- `set_committed_digest`: no current value is expected. -/
def setCommittedDigest (digest : String) : Shared :=
  { shared with state := .committed, manifestDigest := some digest }

/-- `_read_receipts`: a later line of the ledger replaces an earlier one. -/
def readReceipts : Option (String × Nat) :=
  match dir with
  | none => none
  | some landing =>
    (landing.receipts.reverse.find? fun receipt =>
      receipt.relpath == relpath).map fun receipt => (receipt.serverSha256, receipt.bytes)

/-- `_reupload_relpaths`: the requested files without a matching receipt. -/
def reuploadRelpaths (receipts : String → Option (String × Nat))
    (files : List CommitFile) : List String :=
  ((files.filter fun item =>
    receipts item.relpath != some (item.clientSha256.toLower, item.bytes)).map
      CommitFile.relpath).mergeSort

/-- `UploadFile` up to the first chunk.  The row is read and the stream counted
under the runtime lock. -/
def uploadFile : Shared × Call :=
  if shared.state = .streaming then
    ({ shared with inFlight := shared.inFlight + 1 }, .receiving relpath)
  else (shared, .returned (.failedPrecondition "intake is not streaming"))

/-- An empty landing directory, as a stray `mkdir` of a payload parent leaves it
after a removal. -/
def strayDir : LandingDir := ⟨[], false, false⟩

/-- `_append_receipt`. -/
def appendReceipt (receipt : Receipt) : LandingDir :=
  { landing with receipts := landing.receipts ++ [receipt] }

/-- `_receive_file`: the streamed file is stored and its receipt appended, or the
stream ends with an exception or a lost lease. -/
def receiveFile : Answer → Option (Shared × Call)
  | .received digest size =>
    match shared.dir with
    | none => some (shared, .uploadExit .raised)
    | some landing =>
      let receipt : Receipt := ⟨relpath, digest, size⟩
      some
        ({ shared with dir := some (appendReceipt landing receipt) },
          .uploadExit (.fileReceipt receipt))
  | .leaseLost => some (shared, .leaseLost)
  | .raised => some (shared, .uploadExit .raised)
  | .raisedAfterMkdir =>
    some ({ shared with dir := some (shared.dir.getD strayDir) }, .uploadExit .raised)
  | _ => none

/-- `_fail_intake_after_lease_loss`: one transaction, guarded by the state it
reads. -/
def failIntakeAfterLeaseLoss : Shared :=
  if shared.state = .streaming ∨ shared.state = .committing then setState shared .aborted
  else shared

/-- The `finally` block of `UploadFile`. -/
def leaveUpload : Shared := { shared with inFlight := shared.inFlight - 1 }

/-- `CommitIntake` up to the runtime lock: the row is read outside of it. -/
def commitIntake : Call :=
  match shared.state with
  | .committed =>
    if shared.manifestDigest = some request.manifestDigest then .returned .liveStatus
    else .returned (.failedPrecondition "manifest digest conflict")
  | .aborted => .returned (.failedPrecondition "intake is aborted")
  | .streaming | .committing => .commitClaim request

/-- `CommitIntake` under the runtime lock. -/
def commitClaim : Shared × Call :=
  if shared.inFlight ≠ 0 then (shared, .returned (.failedPrecondition "upload in flight"))
  else
    match compareAndSetState shared .streaming .committing with
    | some claimed => (claimed, .commitCheck request)
    | none => (shared, .returned (.failedPrecondition "intake is not streaming"))

/-- `CommitIntake` reads the ledger and compares it with the request. -/
def commitCheck : Call :=
  let missing := reuploadRelpaths (readReceipts shared.dir) request.files
  if missing = [] then .commitAssemble request
  else .commitRollback (.commitIntake "streaming" missing)

/-- `assemble_committed_bag`: tag files and sentinel, in a landing directory that
is made when it is missing. -/
def assembleCommittedBag : LandingDir := { dir.getD strayDir with sentinel := true }

/-- `CommitIntake` around the assembly.  Only a `ReceiveError` is rolled back. -/
def commitAssemble : Answer → Option (Shared × Call)
  | .proceed =>
    some ({ shared with dir := some (assembleCommittedBag shared.dir) }, .commitFinish request)
  | .receiveError detail => some (shared, .commitRollback (.failedPrecondition detail))
  | .raised => some (shared, .returned .raised)
  | _ => none

/-- `CommitIntake` drops the receiving marker after its last transaction. -/
def commitCleanup : Shared :=
  { shared with dir := shared.dir.map fun landing => { landing with receivingMarker := false } }

/-- `AbortIntake` up to its status check. -/
def abortIntake (shared : Shared) : Call :=
  match shared.state with
  | .committed => .returned (.failedPrecondition "committed intake cannot be aborted")
  | .aborted => .returned (.abortIntake "aborted")
  | .streaming | .committing => .abortRemove

/-- A removal that fails part way leaves any part of the directory. -/
def LandingDir.remains (receipts receivingMarker sentinel : Bool) : LandingDir where
  receipts := if receipts then landing.receipts else []
  receivingMarker := receivingMarker && landing.receivingMarker
  sentinel := sentinel && landing.sentinel

/-- `AbortIntake` removes the landing directory, when there is one. -/
def abortRemove : Answer → Option (Shared × Call)
  | .proceed =>
    some ({ shared with
        dir := none
        removedByAbort := shared.removedByAbort || shared.dir.isSome },
      .abortMark)
  | .raisedRemoving receipts receivingMarker sentinel =>
    let left := shared.dir.map fun landing => landing.remains receipts receivingMarker sentinel
    some ({ shared with dir := left }, .returned .raised)
  | _ => none

/-- `_reconcile_orphaned_grpc_intakes` for this row, in one transaction.  The
answer says whether the row is selected as an inactive orphan. -/
def reconcileOrphanedGrpcIntake : Answer → Option Shared
  | .inactive =>
    if shared.state = .streaming ∨ shared.state = .committing then some (setState shared .aborted)
    else some shared
  | .proceed => some shared
  | _ => none

/-- A call that dies with its process takes its upload out of the counter of
the process.  An abort that has removed the directory has no such step: when it
dies it is never scheduled again. -/
def die : Call → Option (Shared × Call)
  | .receiving _ | .leaseLost | .uploadExit _ => some (leaveUpload shared, .returned .raised)
  | .abortMark | .returned _ => none
  | _ => some (shared, .returned .raised)

/-- One step of a living call. -/
def serve (call : Call) (answer : Answer) : Option (Shared × Call) :=
  match call with
  | .upload relpath => some (uploadFile shared relpath)
  | .receiving relpath => receiveFile shared relpath answer
  | .leaseLost =>
    some (failIntakeAfterLeaseLoss shared,
      .uploadExit (.failedPrecondition "source lease lost during upload"))
  | .uploadExit reply => some (leaveUpload shared, .returned reply)
  | .commit request => some (shared, commitIntake shared request)
  | .commitClaim request => some (commitClaim shared request)
  | .commitCheck request => some (shared, commitCheck shared request)
  | .commitRollback reply => some (setState shared .streaming, .returned reply)
  | .commitAssemble request => commitAssemble shared request answer
  | .commitFinish request =>
    some (setCommittedDigest shared request.manifestDigest, .commitCleanup)
  | .commitCleanup => some (commitCleanup shared, .returned (.commitIntake "verifying" []))
  | .abort => some (shared, abortIntake shared)
  | .abortRemove => abortRemove shared answer
  | .abortMark => some (setState shared .aborted, .returned (.abortIntake "aborted"))
  | .reconcile =>
    (reconcileOrphanedGrpcIntake shared answer).map fun next => (next, .returned .reconciled)
  | .returned _ => none

end

/-- One step of one call. -/
def step (_self : Nat) (shared : Shared) (call : Call)
    (answer : Answer) : Option (Shared × Call) :=
  if answer = .killed then die shared call
  else serve shared call answer

/-- A call enters at its first line. -/
def entering : Call → Bool
  | .upload _ | .commit _ | .abort | .reconcile => true
  | _ => false

/-- The calls of one streaming intake. -/
def program : Program Shared Call Answer where
  initial := entering
  step := step

/-- A configuration of calls on one intake. -/
abbrev Calls := Config Shared Call

/-- `StartIntake` has inserted the row and made the landing directory. -/
def started : Calls where
  shared := ⟨.streaming, none, some ⟨[], true, false⟩, 0, false⟩
  threads := []

end Intake
end Sutradhara
