import Sutradhara.Foundation.Table
import Sutradhara.Foundation.Transition

/-!
# Copy health, measurements and receipts

The recorder is the only writer of a copy's measured digest.  It appends a
receipt in the transaction that changes the digest.  Verification jobs, fan-out,
restores and scrub passes call it; they and several others also assign a health
below OK without a receipt.  The history lists the receipts in their order and,
between them, those assignments.
-/

namespace Sutradhara
namespace Evidence

open Foundation

/-- The bytes of a digest. -/
abbrev Digest := List UInt8

/-- `is_content_hash`. -/
def isContentHash (digest : Digest) : Bool := digest.length == 32

/-- Health of one copy. -/
inductive CopyHealth
  | ok
  | suspect
  | corrupt
  | missing
  deriving DecidableEq

/-- Origin of the expected digest of a copy. -/
inductive IntegrityHashProvenance
  | locallyComputed
  | backendDiscovered
  deriving DecidableEq

/-- What a copy is a copy of. -/
inductive CopySubject
  | asset (hash : Digest)
  | bundle (id : String)
  deriving DecidableEq

/-- The content hash of an asset copy. -/
def CopySubject.logicalAssetHash : CopySubject → Option Digest
  | .asset hash => some hash
  | .bundle _ => none

/-- One catalogued copy. -/
structure Copy where
  id : Nat
  subject : CopySubject
  backendId : Nat
  poolId : Option String
  nativeLocatorKey : String
  representation : Option String
  integrityHash : Digest
  integrityHashProvenance : IntegrityHashProvenance
  health : CopyHealth
  lastCheckedAt : Option Nat
  lastMeasuredDigest : Option Digest
  lastMeasuredAt : Option Nat
  deletedAt : Option Nat

/-- Outcome of a backend check. -/
structure VerifyResult where
  ok : Bool
  measured : Bool
  actualHash : Option Digest
  detail : String

/-- Who emits a receipt. -/
inductive ReceiptSource
  | fanout
  | verifyJob
  | restore
  | scrub
  deriving DecidableEq

/-- `MEASUREMENT_SOURCES`. -/
def ReceiptSource.measures : ReceiptSource → Bool
  | .fanout | .verifyJob | .restore => true
  | .scrub => false

/-- Why a receipt does not confirm its copy. -/
inductive FailureKind
  | digestMismatch
  | backendFailure
  | identityUnproven
  | measurementInvalidated

/-- One append-only receipt. -/
structure VerifyReceipt where
  copyId : Nat
  backendId : Nat
  expectedDigest : Digest
  measuredDigest : Option Digest
  backendOk : Bool
  failureKind : Option FailureKind
  failureDetail : Option String
  source : ReceiptSource
  executionId : String
  producerProcess : String
  actor : Option String
  at_ : Nat

/-- A receipt, or the assignment of a health below OK by another writer. -/
inductive HistoryEntry
  | receipt (receipt : VerifyReceipt)
  | lowered (copyId : Nat) (health : CopyHealth)

/-- The copy an entry is about. -/
def HistoryEntry.copyId : HistoryEntry → Nat
  | .receipt issued => issued.copyId
  | .lowered copyId _ => copyId

/-- A storage pool, as far as a scrub reads it. -/
structure Pool where
  id : String
  backendId : Nat
  representation : String

/-- The catalog tables that the writers of evidence read and write.  `jobs` holds
the dedupe keys of submitted jobs. -/
structure Catalog where
  copies : Table Copy.id
  assets : List Digest
  bundles : List String
  pools : List Pool
  jobs : List String
  history : List HistoryEntry

/-- Errors of the writers.  Each rolls its transaction back. -/
inductive EvidenceError
  | unknownCopy
  | tombstoned
  | unknownLogicalAsset
  | unknownBundle
  | copyBundleMismatch
  | copyPoolMismatch
  | measurementSource
  | emptyExecutionId
  | notMeasured
  | notContentHash
  | measuredPromotion
  | failedPromotion
  | missingVerifyJob
  | unknownPool (poolId : String)
  | foreignPool (poolId : String)
  | recordRepresentation (poolId : String)
  | copyRepresentation (copyId : Nat)

/-- `_receipt_for_execution`. -/
def Catalog.receiptForExecution (catalog : Catalog) (copyId : Nat) (source : ReceiptSource)
    (executionId : String) : Option VerifyReceipt :=
  catalog.history.findSome? fun
    | .receipt receipt =>
      if receipt.copyId = copyId ∧ receipt.source = source ∧ receipt.executionId = executionId then
        some receipt
      else none
    | .lowered .. => none

/-- The outcome a measurement has for a copy. -/
def measuredHealth (copy : Copy) (measured : Digest) (ok : Bool) :
    CopyHealth × Option FailureKind :=
  if measured ≠ copy.integrityHash then (.corrupt, some .digestMismatch)
  else if !ok then (.suspect, some .backendFailure)
  else if copy.subject.logicalAssetHash.any (· ≠ copy.integrityHash) ∧
      copy.integrityHashProvenance ≠ .locallyComputed then
    (.suspect, some .identityUnproven)
  else (.ok, none)

/-- Circumstances of a recorded execution. -/
structure Execution where
  source : ReceiptSource
  executionId : String
  producerProcess : String
  actor : Option String
  now : Nat

variable (catalog : Catalog) (copy : Copy) (result : VerifyResult) (execution : Execution)
  (copyId now : Nat) (health : CopyHealth)

/-- The projection that a measurement leaves on its copy. -/
def projectMeasured (measured : Digest) (health : CopyHealth) : Rewrite Copy.id where
  apply copy :=
    { copy with
      lastCheckedAt := some now
      lastMeasuredDigest := some measured
      lastMeasuredAt := some now
      health := health }
  keeps _ := rfl

/-- `result.detail or None`. -/
def VerifyResult.failureDetail : Option String :=
  if result.detail = "" then none else some result.detail

/-- `record_measured`. -/
def recordMeasured : Except EvidenceError (Catalog × VerifyReceipt) :=
  if !execution.source.measures then .error .measurementSource
  else if execution.executionId = "" then .error .emptyExecutionId
  else
    match result.measured, result.actualHash with
    | true, some measured =>
      if !isContentHash measured then .error .notContentHash
      else
        match catalog.receiptForExecution copy.id execution.source execution.executionId with
        | some receipt => .ok (catalog, receipt)
        | none =>
          let outcome := measuredHealth copy measured result.ok
          let receipt : VerifyReceipt :=
            { copyId := copy.id
              backendId := copy.backendId
              expectedDigest := copy.integrityHash
              measuredDigest := some measured
              backendOk := result.ok
              failureKind := outcome.2
              failureDetail := result.failureDetail
              source := execution.source
              executionId := execution.executionId
              producerProcess := execution.producerProcess
              actor := execution.actor
              at_ := execution.now }
          .ok
            ({ catalog with
              copies := catalog.copies.update copy.id
                (projectMeasured execution.now measured outcome.1)
              history := catalog.history ++ [.receipt receipt] }, receipt)
    | _, _ => .error .notMeasured

/-- The dedupe key of the verification that follows an invalidation. -/
def remeasureKey : String := "verify:remeasure:" ++ toString copyId

/-- `submit` with a dedupe key. -/
def submit (jobs : List String) (dedupeKey : String) : List String :=
  if dedupeKey ∈ jobs then jobs else jobs ++ [dedupeKey]

/-- The projection that an unmeasured promotion leaves on its copy. -/
def projectUnmeasured : Rewrite Copy.id where
  apply copy :=
    { copy with
      lastCheckedAt := some now
      lastMeasuredDigest := none
      lastMeasuredAt := none
      health := .ok }
  keeps _ := rfl

/-- `record_unmeasured_promotion`. -/
def recordUnmeasuredPromotion : Except EvidenceError (Catalog × VerifyReceipt) :=
  if execution.executionId = "" then .error .emptyExecutionId
  else if result.measured then .error .measuredPromotion
  else if !result.ok then .error .failedPromotion
  else
    match catalog.receiptForExecution copy.id execution.source execution.executionId with
    | some receipt =>
      if remeasureKey copy.id ∈ catalog.jobs then .ok (catalog, receipt)
      else .error .missingVerifyJob
    | none =>
      let receipt : VerifyReceipt :=
        { copyId := copy.id
          backendId := copy.backendId
          expectedDigest := copy.integrityHash
          measuredDigest := none
          backendOk := true
          failureKind := some .measurementInvalidated
          failureDetail := result.failureDetail
          source := execution.source
          executionId := execution.executionId
          producerProcess := execution.producerProcess
          actor := execution.actor
          at_ := execution.now }
      .ok
        ({ catalog with
          copies := catalog.copies.update copy.id (projectUnmeasured execution.now)
          jobs := submit catalog.jobs (remeasureKey copy.id)
          history := catalog.history ++ [.receipt receipt] }, receipt)

/-- Assign a health to a copy. -/
def withHealth : Rewrite Copy.id where
  apply copy := { copy with health := health }
  keeps _ := rfl

/-- A writer outside the recorder assigns a health below OK. -/
def Catalog.lower : Catalog :=
  { catalog with
    copies := catalog.copies.update copyId (withHealth health)
    history := catalog.history ++ [.lowered copyId health] }

/-- Note the time of a check. -/
def withCheckedAt : Rewrite Copy.id where
  apply copy := { copy with lastCheckedAt := some now }
  keeps _ := rfl

def Catalog.touch : Catalog :=
  { catalog with copies := catalog.copies.update copyId (withCheckedAt now) }

end Evidence
end Sutradhara
