import Sutradhara.Evidence.Recorder

/-!
# The writers of copy health

Copies are created by replication, fan-out, cloud blobs and scrub passes.
Verification jobs, the read-back of a fan-out and restores measure them, scrub
passes compare them with the enumeration of their backend, and failed restores
and repairs mark them suspect.  Each operation is one transaction.
-/

namespace Sutradhara
namespace Evidence

open Foundation

/-- The next row id of the copy table. -/
def nextId (copies : Table Copy.id) : Nat := (copies.rows.map Copy.id).foldr max 0 + 1

theorem le_foldr_max {ids : List Nat} {id : Nat} (member : id ∈ ids) : id ≤ ids.foldr max 0 := by
  induction ids with
  | nil => cases member
  | cons head rest ih =>
    rcases List.mem_cons.mp member with rfl | later
    · exact Nat.le_max_left _ _
    · exact Nat.le_trans (ih later) (Nat.le_max_right _ _)

theorem find?_nextId (copies : Table Copy.id) : copies.find? (nextId copies) = none := by
  rw [Table.find?_eq_none_iff]
  intro copy member same
  have bound := le_foldr_max (List.mem_map_of_mem member : copy.id ∈ _)
  unfold nextId at same
  omega

/-- What a caller states about a copy it has written. -/
structure NewCopy where
  subject : CopySubject
  backendId : Nat
  poolId : Option String
  nativeLocatorKey : String
  representation : Option String
  integrityHash : Digest
  integrityHashProvenance : IntegrityHashProvenance
  health : CopyHealth

section

variable (catalog : Catalog) (copyId : Nat) (new : NewCopy) (hash : Digest)
  (bundleId poolId nativeLocatorKey : String)

/-- The row of a new copy, which claims neither a check nor a measurement. -/
def NewCopy.row (id : Nat) : Copy where
  id := id
  subject := new.subject
  backendId := new.backendId
  poolId := new.poolId
  nativeLocatorKey := new.nativeLocatorKey
  representation := new.representation
  integrityHash := new.integrityHash
  integrityHashProvenance := new.integrityHashProvenance
  health := new.health
  lastCheckedAt := none
  lastMeasuredDigest := none
  lastMeasuredAt := none
  deletedAt := none

/-- The copy that is registered under a locator of a backend. -/
def Catalog.copyAt (backendId : Nat) (nativeLocatorKey : String) : Option Copy :=
  catalog.copies.rows.find? fun copy =>
    copy.backendId == backendId && copy.nativeLocatorKey == nativeLocatorKey

theorem Catalog.find?_newId : catalog.copies.find? (nextId catalog.copies) = none :=
  find?_nextId catalog.copies

/-- Insert a copy under a fresh id. -/
def Catalog.insertCopy : Catalog × Copy :=
  let copy := new.row (nextId catalog.copies)
  ({ catalog with copies := catalog.copies.insert copy (find?_nextId catalog.copies) }, copy)

/-- `add_copy`: a registered locator returns its copy unmutated. -/
def addCopy : Except EvidenceError (Catalog × Copy × Bool) :=
  if hash ∉ catalog.assets then .error .unknownLogicalAsset
  else
    match catalog.copyAt new.backendId new.nativeLocatorKey with
    | some existing =>
      if new.poolId.isSome ∧ existing.poolId ≠ new.poolId then .error .copyPoolMismatch
      else .ok (catalog, existing, false)
    | none =>
      let inserted := catalog.insertCopy { new with subject := .asset hash }
      .ok (inserted.1, inserted.2, true)

/-- `add_bundle_copy`. -/
def addBundleCopy : Except EvidenceError (Catalog × Copy × Bool) :=
  if bundleId ∉ catalog.bundles then .error .unknownBundle
  else
    match catalog.copyAt new.backendId new.nativeLocatorKey with
    | some existing =>
      if existing.subject ≠ .bundle bundleId then .error .copyBundleMismatch
      else if existing.poolId ≠ new.poolId then .error .copyPoolMismatch
      else .ok (catalog, existing, false)
    | none =>
      let inserted := catalog.insertCopy { new with subject := .bundle bundleId }
      .ok (inserted.1, inserted.2, true)

/-- The dedupe key of the first verification of a copy. -/
def verifyCopyKey : String := "verify:copy:" ++ toString copyId

/-- `replicate` and `repair` for one target: the written copy is registered as OK
and its verification enqueued. -/
def replicateTo :
    Except EvidenceError Catalog :=
  match addCopy catalog { new with health := .ok } hash with
  | .error error => .error error
  | .ok (added, copy, created) =>
    if created then .ok { added with jobs := submit added.jobs (verifyCopyKey copy.id) }
    else .ok added

/-- `handle_verify`. -/
def handleVerify (result : VerifyResult) (execution : Execution) : Except EvidenceError Catalog :=
  match catalog.copies.find? copyId with
  | none => .error .unknownCopy
  | some copy =>
    if copy.deletedAt.isSome then .error .tombstoned
    else if result.measured ∧ result.actualHash.isSome then
      (recordMeasured catalog copy result { execution with source := .verifyJob }).map Prod.fst
    else if result.ok then
      (recordUnmeasuredPromotion catalog copy result
        { execution with source := .verifyJob }).map Prod.fst
    else .ok ((catalog.touch copyId execution.now).lower copyId .suspect)

/-- The execution id of the read-back of a fan-out. -/
def fanoutExecutionId : String := bundleId ++ ":" ++ poolId ++ ":" ++ nativeLocatorKey

/-- `write_bundle_copy_for_pool` after the physical write.  `none` stands for a
read-back that raises; the caller seals what it has, so the suspect health is
kept. -/
def writeBundleCopyForPool
    (verifyResult : Option VerifyResult) (execution : Execution) : Except EvidenceError Catalog :=
  match addBundleCopy catalog { new with poolId := some poolId, health := .ok } bundleId with
  | .error error => .error error
  | .ok (added, copy, _) =>
    match verifyResult with
    | none => .ok (added.lower copy.id .suspect)
    | some result =>
      let recorded : Execution :=
        { execution with
          source := .fanout
          executionId := fanoutExecutionId bundleId poolId copy.nativeLocatorKey }
      if result.measured ∧ result.actualHash.isSome then
        (recordMeasured added copy result recorded).map Prod.fst
      else if result.ok then (recordUnmeasuredPromotion added copy result recorded).map Prod.fst
      else .ok (added.lower copy.id .suspect)

/-- `restore_copy` up to its measurement of the stored bytes. -/
def restoreCopy (storedDigest : Digest) (execution : Execution) : Except EvidenceError Catalog :=
  match catalog.copies.find? copyId with
  | none => .error .unknownCopy
  | some copy =>
    let intact := storedDigest == copy.integrityHash
    (recordMeasured catalog copy
      { ok := intact
        measured := true
        actualHash := some storedDigest
        detail := if intact then "" else "stored bytes differ from Copy.integrity_hash" }
      { execution with source := .restore }).map Prod.fst

end

/-! ## Scrub -/

/-- One object that a backend enumerates. -/
structure CopyRecord where
  logicalId : Digest
  integrityHash : Digest
  nativeLocatorKey : String
  poolId : Option String
  representation : Option String
  bundleContainer : Bool

/-- A warning of a scrub pass. -/
inductive IntegrityWarning
  | recordedDiffers (copyId : Nat) (recorded returned : Digest)
  | identityDiffers (locatorKey : String) (logicalId integrityHash : Digest)

/-- What a scrub pass reports. -/
structure ScrubReport where
  assetsAdded : Nat
  copiesAdded : Nat
  copiesUpdated : Nat
  copiesMarkedMissing : Nat
  unknownObjects : Nat
  unknownObjectLocators : List String
  integrityWarnings : List IntegrityWarning

/-- A scrub pass in progress.  `unseen` maps the locators of the snapshot that
have not been enumerated yet to their copies. -/
structure ScrubPass where
  catalog : Catalog
  unseen : List (String × Nat)
  report : ScrubReport

/-- Circumstances of a scrub pass. -/
structure ScrubRun where
  backendId : Nat
  runId : String
  producerProcess : String
  now : Nat

section

variable (pass : ScrubPass) (catalog : Catalog) (run : ScrubRun) (existing : Copy)
  (record : CopyRecord) (pool : Option Pool)

/-- `_health_for_record`. -/
def healthForRecord : CopyHealth :=
  if record.logicalId = record.integrityHash then .ok else .suspect

/-- The warnings of `_health_for_record`. -/
def warningsForRecord : List IntegrityWarning :=
  if record.logicalId = record.integrityHash then []
  else [.identityDiffers record.nativeLocatorKey record.logicalId record.integrityHash]

/-- `_pool_for_record`. -/
def poolForRecord (backendId : Nat) (record : CopyRecord) : Except EvidenceError (Option Pool) :=
  match record.poolId.filter (· ≠ "") with
  | none => .ok none
  | some poolId =>
    match catalog.pools.find? fun pool => pool.id == poolId with
    | none => .error (.unknownPool poolId)
    | some pool =>
      if pool.backendId ≠ backendId then .error (.foreignPool poolId)
      else .ok (some pool)

/-- `_storage_metadata_for_record`, down to the representation. -/
def representationForRecord : Option Pool → Except EvidenceError (Option String)
  | none => .ok record.representation
  | some pool =>
    if record.representation.isSome ∧ record.representation ≠ some pool.representation then
      .error (.recordRepresentation pool.id)
    else .ok (some pool.representation)

/-- The promotion of a scrub pass. -/
def scrubPromotion (detail : String) : Except EvidenceError Catalog :=
  (recordUnmeasuredPromotion catalog existing ⟨true, false, none, detail⟩
    ⟨.scrub, run.runId, run.producerProcess, none, run.now⟩).map Prod.fst

/-- The checks of `_update_existing_copy` against the pool of the record. -/
def assertPool : Option Pool → Except EvidenceError Unit
  | none => .ok ()
  | some pool =>
    if existing.poolId ≠ some pool.id then .error .copyPoolMismatch
    else if existing.representation ≠ some pool.representation then
      .error (.copyRepresentation existing.id)
    else .ok ()

/-- The health that `_update_existing_copy` gives a copy found again.  The copy
has been touched already. -/
def refreshHealth : Except EvidenceError Catalog :=
  let recordHealth := healthForRecord record
  if existing.integrityHash ≠ record.integrityHash then .ok (catalog.lower existing.id .suspect)
  else if existing.health = .missing ∧ recordHealth = .ok then
    scrubPromotion catalog run existing "scrub rediscovery"
  else if existing.health = .missing then .ok (catalog.lower existing.id recordHealth)
  else if recordHealth = .suspect then .ok (catalog.lower existing.id .suspect)
  else if existing.health = .suspect ∧ recordHealth = .ok then
    scrubPromotion catalog run existing "scrub enumerate refresh"
  else .ok catalog

/-- `_update_existing_copy`. -/
def updateExistingCopy : Except EvidenceError ScrubPass :=
  match assertPool existing pool with
  | .error error => .error error
  | .ok () =>
    match refreshHealth (pass.catalog.touch existing.id run.now) run existing record with
    | .error error => .error error
    | .ok catalog =>
      let warnings :=
        if existing.integrityHash ≠ record.integrityHash then
          [IntegrityWarning.recordedDiffers existing.id existing.integrityHash record.integrityHash]
        else []
      .ok
        { pass with
          catalog := catalog
          report :=
            { pass.report with
              copiesUpdated := pass.report.copiesUpdated + 1
              integrityWarnings := pass.report.integrityWarnings ++ warnings } }

/-- Register the asset of an enumerated object, when it is new. -/
def addAsset (hash : Digest) : ScrubPass :=
  if hash ∈ pass.catalog.assets then pass
  else
    { pass with
      catalog := { pass.catalog with assets := pass.catalog.assets ++ [hash] }
      report := { pass.report with assetsAdded := pass.report.assetsAdded + 1 } }

/-- An object that may belong to a bundle is counted and left alone. -/
def noteUnknown (locatorKey : String) : ScrubPass :=
  { pass with
    report :=
      { pass.report with
        unknownObjects := pass.report.unknownObjects + 1
        unknownObjectLocators :=
          if pass.report.unknownObjectLocators.length < 20 then
            pass.report.unknownObjectLocators ++ [locatorKey]
          else pass.report.unknownObjectLocators } }

/-- `_ingest_record` for an object without a copy in the snapshot. -/
def ingestNew (representation : Option String) : Except EvidenceError ScrubPass :=
  if record.logicalId ∉ pass.catalog.assets ∧ record.bundleContainer then
    .ok (noteUnknown pass record.nativeLocatorKey)
  else
    let registered := addAsset pass record.logicalId
    let new : NewCopy :=
      { subject := .asset record.logicalId
        backendId := run.backendId
        poolId := pool.map Pool.id
        nativeLocatorKey := record.nativeLocatorKey
        representation := representation
        integrityHash := record.integrityHash
        integrityHashProvenance := .backendDiscovered
        health := healthForRecord record }
    match addCopy registered.catalog new record.logicalId with
    | .error error => .error error
    | .ok (added, copy, created) =>
      if created then
        let touched := added.touch copy.id run.now
        .ok
          { registered with
            catalog := { touched with jobs := submit touched.jobs (verifyCopyKey copy.id) }
            report :=
              { registered.report with copiesAdded := registered.report.copiesAdded + 1 } }
      else .ok { registered with catalog := added }

/-- `_ingest_record`. -/
def ingestRecord (pass : ScrubPass) (record : CopyRecord) : Except EvidenceError ScrubPass :=
  let warned : ScrubPass :=
    { pass with
      unseen := pass.unseen.filter fun seen => seen.1 ≠ record.nativeLocatorKey
      report :=
        { pass.report with
          integrityWarnings := pass.report.integrityWarnings ++ warningsForRecord record } }
  match poolForRecord pass.catalog run.backendId record with
  | .error error => .error error
  | .ok pool =>
    match representationForRecord record pool with
    | .error error => .error error
    | .ok representation =>
      match (pass.unseen.lookup record.nativeLocatorKey).bind pass.catalog.copies.find? with
      | some existing => updateExistingCopy warned run existing record pool
      | none => ingestNew warned run record pool representation

/-- Mark a copy that was not enumerated. -/
def markStranded (copyId : Nat) : ScrubPass :=
  match pass.catalog.copies.find? copyId with
  | none => pass
  | some stranded =>
    if stranded.health ≠ .missing then
      { pass with
        catalog := pass.catalog.lower copyId .missing
        report :=
          { pass.report with copiesMarkedMissing := pass.report.copiesMarkedMissing + 1 } }
    else pass

/-- `scrub_backend` over the objects that a backend enumerates. -/
def scrubBackend (records : List CopyRecord) : Except EvidenceError ScrubPass :=
  let snapshot := (catalog.copies.rows.filter fun copy =>
    copy.backendId == run.backendId).map fun copy => (copy.nativeLocatorKey, copy.id)
  match records.foldlM (ingestRecord run) ⟨catalog, snapshot, ⟨0, 0, 0, 0, 0, [], []⟩⟩ with
  | .error error => .error error
  | .ok pass => .ok ((pass.unseen.map Prod.snd).foldl markStranded pass)

/-! ## Operations -/

/-- A retention release marks a copy as deleted. -/
def withDeletedAt (now : Nat) : Rewrite Copy.id where
  apply copy := { copy with deletedAt := some now }
  keeps _ := rfl

/-- The transactions that touch copies or receipts.  `markSuspect` is the last
step of a failed restore, self-heal or bundle repair. -/
inductive Operation
  | addBundle (bundleId : String)
  | addAsset (hash : Digest)
  | addPool (pool : Pool)
  | replicate (new : NewCopy) (hash : Digest)
  | cloudBlob (new : NewCopy) (bundleId : String)
  | fanout (new : NewCopy) (bundleId poolId : String)
      (verifyResult : Option VerifyResult) (execution : Execution)
  | verify (copyId : Nat) (result : VerifyResult) (execution : Execution)
  | restore (copyId : Nat) (storedDigest : Digest) (execution : Execution)
  | markSuspect (copyId : Nat)
  | scrub (run : ScrubRun) (records : List CopyRecord)
  | release (copyId now : Nat)

/-- The catalog after one transaction, unless it raises. -/
def step : Operation → Option Catalog
  | .addBundle bundleId => some { catalog with bundles := catalog.bundles ++ [bundleId] }
  | .addAsset hash => some { catalog with assets := catalog.assets ++ [hash] }
  | .addPool pool => some { catalog with pools := catalog.pools ++ [pool] }
  | .replicate new hash => (replicateTo catalog new hash).toOption
  | .cloudBlob new bundleId =>
    ((addBundleCopy catalog { new with health := .ok } bundleId).map Prod.fst).toOption
  | .fanout new bundleId poolId verifyResult execution =>
    (writeBundleCopyForPool catalog new bundleId poolId verifyResult execution).toOption
  | .verify copyId result execution => (handleVerify catalog copyId result execution).toOption
  | .restore copyId storedDigest execution =>
    (restoreCopy catalog copyId storedDigest execution).toOption
  | .markSuspect copyId => some (catalog.lower copyId .suspect)
  | .scrub run records => ((scrubBackend catalog run records).map ScrubPass.catalog).toOption
  | .release copyId now =>
    some { catalog with copies := catalog.copies.update copyId (withDeletedAt now) }

end

/-- A catalog without rows. -/
def emptyCatalog : Catalog := ⟨Table.empty, [], [], [], [], []⟩

end Evidence
end Sutradhara
