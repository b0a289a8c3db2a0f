import Mathlib.Data.List.Sort
import Sutradhara.Foundation.Raising

/-!
# Restoring an asset from its candidate copies

A restore tries the copies of an asset in plan order.  The stored bytes of a copy
arrive in chunks and may fail at any of them; they pass a check of the stored
digest, are turned back into the logical bytes, pass a check of the logical digest
and size, and go to a temporary file that replaces the destination only at a
verified end.  A chunk source is the list of its chunks with the fault that ends
it, if one does.
-/

namespace Sutradhara
namespace Restore

namespace Candidates

open Foundation List

abbrev Bytes := List UInt8
abbrev Digest := List UInt8

/-! ## Faults and streams -/

/-- What a source may raise.  The last one stands for every exception that the
candidate loop does not catch. -/
inductive SourceFault
  | archiveRestoreError
  | backendError
  | stagingError
  | uncaught
  deriving DecidableEq

/-- What a candidate may fail with. -/
inductive Fault
  | source (fault : SourceFault)
  | storedMemberIntegrity
  | logicalMemberIntegrity
  | chunkRestoreIntegrity
  deriving DecidableEq

/-- The exceptions after which the candidate loop goes on. -/
def Fault.caught : Fault → Bool
  | .source .uncaught => false
  | _ => true

/-- The chunks of an iterator and the fault that it ends with. -/
structure Stream where
  chunks : List Bytes
  fault : Option Fault

/-- All bytes that a stream delivers. -/
def Stream.bytes (stream : Stream) : Bytes := stream.chunks.flatten

/-- What is restored. -/
structure Asset where
  hash : Digest
  sizeBytes : Nat

/-- `StagingTransform`, as far as a restore reads it. -/
structure StagingTransform where
  stepOrder : Nat
  kind : String
  reversible : Bool

/-- Hashing and decompression.  A decompressor may stop before the end of the
stream that it reads. -/
structure Codec where
  sha256 : Bytes → Digest
  decompress : Stream → Stream

/-- `PlannedMember` with the behaviour of its backend: what opening the stored
stream gives, and what closing it raises. -/
structure Candidate where
  copyId : Nat
  poolId : String
  expectedStoredSha256 : Digest
  transforms : List StagingTransform
  opened : Except SourceFault (List Bytes × Option SourceFault)
  closing : Option SourceFault

/-! ## The verifying generators -/

section

variable (candidate : Candidate) (codec : Codec) (transforms : List StagingTransform)
  (asset : Asset) (candidates : List Candidate) (stream : Stream)

/-- `_verify_stored_chunks`. -/
def verifyStoredChunks (expectedSha256 : Digest) (mismatchIsLogical : Bool)
    (stream : Stream) : Stream where
  chunks := stream.chunks
  fault :=
    match stream.fault with
    | some fault => some fault
    | none =>
      if codec.sha256 stream.bytes ≠ expectedSha256 then
        some (if mismatchIsLogical then .logicalMemberIntegrity else .storedMemberIntegrity)
      else none

/-- One transform of `_reverse_transform_chunks`. -/
def reverseTransform (transform : StagingTransform) : Except Fault Stream :=
  if !transform.reversible then .ok stream
  else if transform.kind = "zstd-file-v1" then .ok (codec.decompress stream)
  else .error (.source .stagingError)

/-- The transforms from the last step to the first. -/
def reversalOrder : List StagingTransform :=
  transforms.insertionSort fun first second => second.stepOrder ≤ first.stepOrder

/-- `_reverse_transform_chunks`. -/
def reverseTransformChunks : Except Fault Stream :=
  (reversalOrder transforms).foldlM (reverseTransform codec) stream

/-- `_verify_logical_chunks`. -/
def verifyLogicalChunks : Stream where
  chunks := stream.chunks
  fault :=
    match stream.fault with
    | some fault => some fault
    | none =>
      if stream.bytes.length ≠ asset.sizeBytes then some .logicalMemberIntegrity
      else if codec.sha256 stream.bytes ≠ asset.hash then some .logicalMemberIntegrity
      else none

/-- No transform has to be reversed and the stored digest is the logical one. -/
def Candidate.identityIsLogical : Bool :=
  !(candidate.transforms.any StagingTransform.reversible) &&
    candidate.expectedStoredSha256 = asset.hash

/-- The stored stream of a candidate. -/
def Candidate.storedStream : Except Fault Stream :=
  match candidate.opened with
  | .error fault => .error (.source fault)
  | .ok (chunks, fault) => .ok ⟨chunks, fault.map .source⟩

/-- `open_member_stream`, up to the end of its body. -/
def Candidate.openMemberStream : Except Fault Stream := do
  let stored ← candidate.storedStream
  let verified := verifyStoredChunks codec candidate.expectedStoredSha256
    (candidate.identityIsLogical asset) stored
  let logical ← reverseTransformChunks codec candidate.transforms verified
  return verifyLogicalChunks codec asset logical

/-! ## Publishing -/

/-- The destination and the temporary file beside it. -/
structure Directory where
  destination : Option Bytes
  temporary : Option Bytes

section

variable (directory : Directory)

/-- Append a chunk to the temporary file. -/
def Directory.append (chunk : Bytes) : Directory :=
  { directory with temporary := directory.temporary.map (· ++ chunk) }

/-- Remove the temporary file. -/
def Directory.unlink : Directory := { directory with temporary := none }

/-- Move the temporary file over the destination. -/
def Directory.replace : Directory where
  destination := directory.temporary
  temporary := none

/-- `atomic_write_verified_chunks`. -/
def atomicWriteVerifiedChunks : Directory × Except Fault Unit :=
  let written := stream.chunks.foldl Directory.append { directory with temporary := some [] }
  match stream.fault with
  | some fault => (written.unlink, .error fault)
  | none =>
    if stream.bytes.length ≠ asset.sizeBytes then (written.unlink, .error .chunkRestoreIntegrity)
    else if codec.sha256 stream.bytes ≠ asset.hash then
      (written.unlink, .error .chunkRestoreIntegrity)
    else (written.replace, .ok ())

/-- One candidate: its stream is opened, published and closed.  What closing
raises takes the place of what the body has raised. -/
def Candidate.attempt : Directory × Except Fault Unit :=
  match candidate.openMemberStream codec asset with
  | .error fault =>
    match candidate.opened, candidate.closing with
    | .ok _, some closing => (directory, .error (.source closing))
    | _, _ => (directory, .error fault)
  | .ok stream =>
    let (published, outcome) := atomicWriteVerifiedChunks codec asset stream directory
    match candidate.closing with
    | some closing => (published, .error (.source closing))
    | none => (published, outcome)

end

/-! ## The candidate loop -/

/-- Why a restore fails.  The first lists the copies that were tried. -/
inductive Failure
  | integrity (copyIds : List Nat)
  | unavailable
  | raised (fault : Fault)
  deriving DecidableEq

/-- `RestoreResult`. -/
structure RestoreResult where
  assetHash : Digest
  poolId : String
  copyId : Nat
  sizeBytes : Nat
  deriving DecidableEq

/-- The directory, the copies marked suspect, the number of member streams asked
for, and the result of a restore. -/
structure Outcome where
  directory : Directory
  suspects : List Nat
  streams : Nat
  result : Except Failure RestoreResult

/-- The loop of `restore_asset` over the remaining candidates. -/
def restoreFrom (codec : Codec) (asset : Asset) :
    List Candidate → Directory → List Nat → List Nat → Outcome
  | [], directory, suspects, tried =>
    ⟨directory, suspects, tried.length,
      .error (if tried.isEmpty then .unavailable else .integrity tried)⟩
  | candidate :: rest, directory, suspects, tried =>
    match candidate.attempt codec asset directory with
    | (next, .ok ()) =>
      ⟨next, suspects, tried.length + 1,
        .ok ⟨asset.hash, candidate.poolId, candidate.copyId, asset.sizeBytes⟩⟩
    | (next, .error fault) =>
      if fault.caught then
        restoreFrom codec asset rest next
          (if fault = .logicalMemberIntegrity then suspects ++ [candidate.copyId] else suspects)
          (tried ++ [candidate.copyId])
      else ⟨next, suspects, tried.length + 1, .error (.raised fault)⟩

/-- `restore_asset` over the candidates of its plan. -/
def restoreAsset (destination : Option Bytes) : Outcome :=
  restoreFrom codec asset candidates ⟨destination, none⟩ [] []

/-! ## What a restore owes -/

/-- The logical bytes of a candidate as they leave the reversed transforms.  The
stored digest of a candidate without transforms is checked with the logical one. -/
def Candidate.logicalStream : Except Fault Stream := do
  let stored ← candidate.storedStream
  if candidate.identityIsLogical asset then return stored
  else
    reverseTransformChunks codec candidate.transforms
      (verifyStoredChunks codec candidate.expectedStoredSha256 false stored)

/-- Bytes with the size and the digest of the asset. -/
def Asset.is (codec : Codec) (bytes : Bytes) : Prop :=
  bytes.length = asset.sizeBytes ∧ codec.sha256 bytes = asset.hash

instance (asset : Asset) (codec : Codec) (bytes : Bytes) : Decidable (asset.is codec bytes) :=
  inferInstanceAs (Decidable (_ ∧ _))

/-- What the stream of a candidate comes to: an earlier fault, the bytes of the
asset at its end, or a failed logical check. -/
def Candidate.judged : Except Fault Bytes :=
  match candidate.logicalStream codec asset with
  | .error fault => .error fault
  | .ok stream =>
    match stream.fault with
    | some fault => .error fault
    | none =>
      if asset.is codec stream.bytes then .ok stream.bytes
      else .error .logicalMemberIntegrity

/-- The stream of each of these candidates fails in a way that the loop goes on
from. -/
def AllFail : Prop :=
  ∀ candidate ∈ candidates, ∃ fault,
    candidate.judged codec asset = .error fault ∧ fault.caught = true

/-- What reaches the loop from a candidate: what closing its opened stream raises,
and otherwise the failure of the stream. -/
def Candidate.raised : Option Fault :=
  match candidate.opened, candidate.closing with
  | .ok _, some closing => some (.source closing)
  | _, _ =>
    match candidate.judged codec asset with
    | .error fault => some fault
    | .ok _ => none

end

/-- The candidates whose streams are asked for: up to the first that the loop does
not go on from. -/
def reached (codec : Codec) (asset : Asset) : List Candidate → List Candidate
  | [] => []
  | candidate :: rest =>
    candidate ::
      if (candidate.raised codec asset).any Fault.caught then reached codec asset rest else []

/-- A restore delivers only the bytes of the asset, ends with the first candidate
that has them, and suspects the copies whose streams failed the logical check. -/
structure Faithful (codec : Codec) (asset : Asset) (candidates : List Candidate)
    (destination : Option Bytes) (outcome : Outcome) : Prop where
  delivered : outcome.directory.destination = destination ∨
    ∃ bytes, outcome.directory.destination = some bytes ∧ asset.is codec bytes
  failed : AllFail codec asset candidates →
    outcome.directory.destination = destination ∧ outcome.result.isOk = false
  first : ∀ front candidate rest bytes,
    candidates = front ++ candidate :: rest →
      AllFail codec asset front → candidate.judged codec asset = .ok bytes →
        outcome.result = .ok ⟨asset.hash, candidate.poolId, candidate.copyId, asset.sizeBytes⟩ ∧
        outcome.directory.destination = some bytes ∧ outcome.streams = front.length + 1
  suspects : ∀ copyId, copyId ∈ outcome.suspects ↔
    ∃ candidate ∈ reached codec asset candidates, candidate.copyId = copyId ∧
      candidate.judged codec asset = .error .logicalMemberIntegrity

/-- Every restore is faithful. -/
def FaithfulLaw : Prop :=
  ∀ codec asset candidates destination,
    Faithful codec asset candidates destination (restoreAsset codec asset candidates destination)

/-- Where closing a stream must raise nothing: at the first candidate that streams
to a verified end, and at one reached candidate of each copy that fails the logical
check.  Before that first candidate closing may raise what the loop catches. -/
structure Quiet (codec : Codec) (asset : Asset) (candidates : List Candidate) : Prop where
  winner : ∀ front candidate rest bytes,
    candidates = front ++ candidate :: rest →
      AllFail codec asset front → candidate.judged codec asset = .ok bytes →
        candidate.closing = none ∧
        ∀ other ∈ front, other.opened.isOk = true → other.closing ≠ some .uncaught
  suspect : ∀ candidate ∈ reached codec asset candidates,
    candidate.judged codec asset = .error .logicalMemberIntegrity →
      ∃ other ∈ reached codec asset candidates, other.copyId = candidate.copyId ∧
        other.judged codec asset = .error .logicalMemberIntegrity ∧ other.closing = none

/-! ## Streams of one candidate -/

section Candidate

variable {codec : Codec} {asset : Asset} {candidate : Candidate}

variable {stream : Stream}

theorem reverseTransformChunks_of_irreversible
    (irreversible : transforms.any StagingTransform.reversible = false) :
    reverseTransformChunks codec transforms stream = .ok stream := by
  have skipped : ∀ transform ∈ reversalOrder transforms, transform.reversible = false := by
    intro transform member
    rw [reversalOrder, mem_insertionSort] at member
    simpa using any_eq_false.mp irreversible transform member
  unfold reverseTransformChunks
  generalize reversalOrder transforms = ordered at skipped
  induction ordered with
  | nil => rfl
  | cons transform rest ih =>
    have first : reverseTransform codec stream transform = .ok stream := by
      simp [reverseTransform, skipped transform (by simp)]
    rw [foldlM_cons, first]
    exact ih fun other member => skipped other (mem_cons_of_mem _ member)

/-- A verified logical stream ends in a fault, or with the bytes of the asset. -/
theorem fault_verifyLogicalChunks :
    (verifyLogicalChunks codec asset stream).fault = match stream.fault with
      | some fault => some fault
      | none =>
        if asset.is codec stream.bytes then none
        else some .logicalMemberIntegrity := by
  unfold verifyLogicalChunks
  cases stream.fault with
  | some fault => rfl
  | none =>
    by_cases size : stream.bytes.length = asset.sizeBytes <;>
      by_cases digest : codec.sha256 stream.bytes = asset.hash <;> simp [Asset.is, digest]

@[simp] theorem bytes_verifyStoredChunks :
    (verifyStoredChunks codec expectedSha256 mismatchIsLogical stream).bytes = stream.bytes := rfl

/-- The opened stream of a candidate has the bytes of its logical stream and
their check behind it. -/
theorem openMemberStream_of_logicalStream :
    (∃ fault, candidate.logicalStream codec asset = .error fault ∧
        candidate.openMemberStream codec asset = .error fault) ∨
      ∃ logical opened, candidate.logicalStream codec asset = .ok logical ∧
        candidate.openMemberStream codec asset = .ok opened ∧
        opened.bytes = logical.bytes ∧
        opened.fault = (verifyLogicalChunks codec asset logical).fault := by
  unfold Candidate.logicalStream Candidate.openMemberStream
  cases candidate.storedStream with
  | error fault => exact .inl ⟨fault, rfl, rfl⟩
  | ok stored =>
    cases identity : candidate.identityIsLogical asset with
    | true =>
      have parts := identity
      simp only [Candidate.identityIsLogical, Bool.and_eq_true,
        Bool.not_eq_true', decide_eq_true_eq] at parts
      refine .inr ⟨stored, verifyLogicalChunks codec asset
        (verifyStoredChunks codec asset.hash true stored), rfl, ?_, rfl, ?_⟩
      rotate_left
      · -- Checking the same digest twice is checking it once.
        rw [fault_verifyLogicalChunks, fault_verifyLogicalChunks, bytes_verifyStoredChunks,
          verifyStoredChunks]
        cases stored.fault with
        | some fault => rfl
        | none =>
          by_cases digest : codec.sha256 stored.bytes = asset.hash <;> simp [Asset.is, digest]
      simp only [parts.2, reverseTransformChunks_of_irreversible parts.1]
      rfl
    | false =>
      simp only [Raising.ok_bind]
      cases reverseTransformChunks codec candidate.transforms
          (verifyStoredChunks codec candidate.expectedStoredSha256 false stored) with
      | error fault => exact .inl ⟨fault, rfl, rfl⟩
      | ok logical => exact .inr ⟨logical, _, rfl, rfl, rfl, rfl⟩

/-- What the opened stream of a candidate does is what its judgement says. -/
theorem openMemberStream_of_judged_error (judged : candidate.judged codec asset = .error fault) :
    candidate.openMemberStream codec asset = .error fault ∨
      ∃ opened, candidate.openMemberStream codec asset = .ok opened ∧
        opened.fault = some fault := by
  unfold Candidate.judged at judged
  rcases @openMemberStream_of_logicalStream codec asset candidate with
    ⟨other, logical, opens⟩ | ⟨logical, opened, streams, opens, _, same⟩
  · rw [logical] at judged
    cases judged
    exact .inl opens
  · refine .inr ⟨opened, opens, ?_⟩
    rw [same, fault_verifyLogicalChunks]
    rw [streams] at judged
    dsimp only at judged
    split at judged
    · cases judged
      rfl
    · split at judged
      · cases judged
      next wrong =>
        cases judged
        exact if_neg wrong

theorem openMemberStream_of_judged_ok (judged : candidate.judged codec asset = .ok bytes) :
    asset.is codec bytes ∧ ∃ opened, candidate.openMemberStream codec asset = .ok opened ∧
        opened.fault = none ∧ opened.bytes = bytes := by
  unfold Candidate.judged at judged
  rcases @openMemberStream_of_logicalStream codec asset candidate with
    ⟨other, logical, opens⟩ | ⟨logical, opened, streams, opens, content, same⟩
  · rw [logical] at judged
    cases judged
  · rw [streams] at judged
    dsimp only at judged
    split at judged
    · cases judged
    next clean =>
      split at judged
      next right =>
        cases judged
        refine ⟨right, opened, opens, ?_, content⟩
        rw [same, fault_verifyLogicalChunks, clean]
        exact if_pos right
      · cases judged

/-! ## Publishing -/

theorem foldl_append (chunks : List Bytes) (directory : Directory) (prior : Bytes) :
    chunks.foldl Directory.append { directory with temporary := some prior } =
      { directory with temporary := some (prior ++ chunks.flatten) } := by
  induction chunks generalizing prior with
  | nil => simp
  | cons chunk rest ih =>
    rw [flatten_cons, ← append_assoc]
    exact ih (prior ++ chunk)

/-- A stream with a fault leaves the destination and no temporary file. -/
theorem atomicWriteVerifiedChunks_of_fault (faulty : stream.fault = some fault) :
    atomicWriteVerifiedChunks codec asset stream ⟨destination, none⟩ =
      (⟨destination, none⟩, .error fault) := by
  have written := foldl_append stream.chunks ⟨destination, none⟩ []
  simp only [atomicWriteVerifiedChunks, written, faulty, Directory.unlink]

/-- A stream that ends with the bytes of the asset replaces the destination. -/
theorem atomicWriteVerifiedChunks_of_end
    (clean : stream.fault = none)
    (right : asset.is codec stream.bytes) :
    atomicWriteVerifiedChunks codec asset stream ⟨destination, none⟩ =
      (⟨some stream.bytes, none⟩, .ok ()) := by
  have written := foldl_append stream.chunks ⟨destination, none⟩ []
  simp only [atomicWriteVerifiedChunks, written, clean, right.1, right.2, ne_eq]
  rfl

/-- A stream that was not opened fails with what opening raised. -/
theorem judged_of_opened_error
    (opened : candidate.opened = .error fault) :
    candidate.judged codec asset = .error (.source fault) := by
  unfold Candidate.judged Candidate.logicalStream Candidate.storedStream
  rw [opened]
  rfl

/-- The destination after a candidate: a verified end replaces it, whatever is
raised afterwards. -/
def Candidate.landed (candidate : Candidate) (codec : Codec) (asset : Asset)
    (destination : Option Bytes) : Option Bytes :=
  match candidate.judged codec asset with
  | .error _ => destination
  | .ok bytes => some bytes

theorem attempt_eq
    (destination : Option Bytes) :
    candidate.attempt codec asset ⟨destination, none⟩ =
      (⟨candidate.landed codec asset destination, none⟩,
       match candidate.raised codec asset with
        | some fault => .error fault
        | none => .ok ()) := by
  unfold Candidate.attempt Candidate.raised Candidate.landed
  cases judged : candidate.judged codec asset with
  | error fault =>
    rcases openMemberStream_of_judged_error judged with opens | ⟨opened, opens, faulty⟩
    · rw [opens]
      cases candidate.opened <;> cases candidate.closing <;> rfl
    · rw [opens]
      simp only [atomicWriteVerifiedChunks_of_fault faulty]
      cases isOpened : candidate.opened with
      | ok => cases candidate.closing <;> rfl
      | error other =>
        -- an opened member stream has an opened stored stream
        simp [Candidate.openMemberStream, Candidate.storedStream, isOpened] at opens
  | ok bytes =>
    obtain ⟨right, opened, opens, clean, rfl⟩ := openMemberStream_of_judged_ok judged
    rw [opens]
    simp only [atomicWriteVerifiedChunks_of_end clean right]
    cases isOpened : candidate.opened with
    | ok => cases candidate.closing <;> rfl
    | error other =>
      rw [judged_of_opened_error isOpened] at judged
      cases judged

theorem is_of_judged_ok
    (judged : candidate.judged codec asset = .ok bytes) :
    asset.is codec bytes :=
  (openMemberStream_of_judged_ok judged).1

/-- Nothing is raised by a verified end that closes quietly. -/
theorem raised_of_judged_ok
    (judged : candidate.judged codec asset = .ok bytes) :
    candidate.raised codec asset = candidate.closing.map .source := by
  unfold Candidate.raised
  cases opened : candidate.opened with
  | ok => cases candidate.closing <;> simp [judged]
  | error fault =>
    rw [judged_of_opened_error opened] at judged
    cases judged

/-- The loop sees a failed logical check unless closing raises something else. -/
theorem raised_eq_logical_iff :
    candidate.raised codec asset = some .logicalMemberIntegrity ↔
      candidate.judged codec asset = .error .logicalMemberIntegrity ∧ candidate.closing = none := by
  unfold Candidate.raised
  cases opened : candidate.opened with
  | ok =>
    cases closing : candidate.closing with
    | some => simp
    | none => cases candidate.judged codec asset <;> simp
  | error fault => simp [judged_of_opened_error opened]

/-- A candidate whose stream fails in a caught way is passed over unless closing it
raises what the loop does not catch. -/
theorem raised_of_judged_error
    (judged : candidate.judged codec asset = .error fault)
    (caught : fault.caught = true) :
    ∃ other, candidate.raised codec asset = some other ∧
      (other.caught = true ↔
        (candidate.opened.isOk = true → candidate.closing ≠ some .uncaught)) := by
  unfold Candidate.raised
  cases candidate.opened with
  | error => exact ⟨fault, by simp [judged], by simp [caught, Except.isOk, Except.toBool]⟩
  | ok =>
    cases candidate.closing with
    | none => exact ⟨fault, by simp [judged], by simp [caught]⟩
    | some closing =>
      refine ⟨_, rfl, ?_⟩
      cases closing <;> simp [Fault.caught, Except.isOk, Except.toBool]

end Candidate

/-! ## The loop -/

section Loop

variable {codec : Codec} {asset : Asset}

/-- One round of the loop. -/
theorem restoreFrom_cons
    (candidate : Candidate)
    (rest : List Candidate)
    (destination : Option Bytes)
    (suspects tried : List Nat) :
    restoreFrom codec asset (candidate :: rest) ⟨destination, none⟩ suspects tried =
      match candidate.raised codec asset with
      | none =>
        ⟨⟨candidate.landed codec asset destination, none⟩, suspects, tried.length + 1,
          .ok ⟨asset.hash, candidate.poolId, candidate.copyId, asset.sizeBytes⟩⟩
      | some fault =>
        if fault.caught then
          restoreFrom codec asset rest ⟨candidate.landed codec asset destination, none⟩
            (if fault = .logicalMemberIntegrity then suspects ++ [candidate.copyId] else suspects)
            (tried ++ [candidate.copyId])
        else
          ⟨⟨candidate.landed codec asset destination, none⟩, suspects, tried.length + 1,
            .error (.raised fault)⟩ := by
  rw [restoreFrom, attempt_eq]
  cases candidate.raised codec asset <;> rfl

/-- No restore puts other bytes at the destination, however its streams close. -/
theorem delivered_restoreFrom
    (sofar : current = destination ∨ ∃ bytes, current = some bytes ∧ asset.is codec bytes)
    (suspects tried : List Nat) :
    let outcome := restoreFrom codec asset candidates ⟨current, none⟩ suspects tried
    outcome.directory.destination = destination ∨
      ∃ bytes, outcome.directory.destination = some bytes ∧ asset.is codec bytes := by
  induction candidates generalizing current suspects tried with
  | nil => exact sofar
  | cons candidate rest ih =>
    have settled : candidate.landed codec asset current = destination ∨
        ∃ bytes, candidate.landed codec asset current = some bytes ∧ asset.is codec bytes := by
      unfold Candidate.landed
      cases judged : candidate.judged codec asset with
      | error => exact sofar
      | ok bytes => exact .inr ⟨bytes, rfl, is_of_judged_ok judged⟩
    rw [restoreFrom_cons]
    split
    · exact settled
    · split
      · exact ih settled _ _
      · exact settled

/-- Without a verified end the destination stays and the restore fails. -/
theorem failed_restoreFrom
    (fails : AllFail codec asset candidates)
    (suspects tried : List Nat) :
    let outcome := restoreFrom codec asset candidates ⟨destination, none⟩ suspects tried
    outcome.directory.destination = destination ∧ outcome.result.isOk = false := by
  induction candidates generalizing suspects tried with
  | nil => exact ⟨rfl, rfl⟩
  | cons candidate rest ih =>
    obtain ⟨fault, judged, caught⟩ := fails candidate mem_cons_self
    obtain ⟨raised, isRaised, _⟩ := raised_of_judged_error judged caught
    have kept : candidate.landed codec asset destination = destination := by
      rw [Candidate.landed, judged]
    rw [restoreFrom_cons, isRaised, kept]
    dsimp only
    split
    · exact ih (fun other member => fails other (mem_cons_of_mem _ member)) _ _
    · exact ⟨rfl, rfl⟩

/-- The suspects of a restore are the reached candidates whose failed check the loop
sees. -/
theorem mem_suspects_restoreFrom
    (copyId : Nat)
    (suspects tried : List Nat) :
    copyId ∈ (restoreFrom codec asset candidates ⟨destination, none⟩ suspects tried).suspects ↔
      copyId ∈ suspects ∨ ∃ candidate ∈ reached codec asset candidates,
        candidate.copyId = copyId ∧
          candidate.raised codec asset = some .logicalMemberIntegrity := by
  induction candidates generalizing destination suspects tried with
  | nil => simp [restoreFrom, reached]
  | cons candidate rest ih =>
    rw [restoreFrom_cons, reached]
    cases raised : candidate.raised codec asset with
    | none => simp [raised]
    | some fault =>
      by_cases caught : fault.caught = true
      · simp only [Option.any_some, caught, if_true, ih, mem_cons, exists_eq_or_imp, raised]
        by_cases logical : fault = .logicalMemberIntegrity
        · simp [logical, or_assoc, eq_comm]
        · simp [logical]
      · have other : fault ≠ .logicalMemberIntegrity := by
          rintro rfl
          exact caught rfl
        simp [caught, raised, other]

/-- A restore that succeeds has asked for at least one more stream. -/
theorem lt_streams_restoreFrom
    (succeeds : (restoreFrom codec asset candidates ⟨destination, none⟩ suspects
      tried).result.isOk = true) :
    tried.length < (restoreFrom codec asset candidates ⟨destination, none⟩ suspects
      tried).streams := by
  induction candidates generalizing destination suspects tried with
  | nil => cases succeeds
  | cons candidate rest ih =>
    rw [restoreFrom_cons] at succeeds ⊢
    split at succeeds
    · exact Nat.lt_succ_self _
    next fault _ =>
      by_cases caught : fault.caught = true
      · rw [if_pos caught] at succeeds ⊢
        have later := ih succeeds
        rw [length_append] at later
        exact Nat.lt_of_succ_lt later
      · rw [if_neg caught] at succeeds
        cases succeeds

/-- The first candidate with a verified end is the last one asked for, and is
reported, exactly if closing gets in the way at none of the candidates so far. -/
theorem wins_restoreFrom_iff
    (fails : AllFail codec asset front)
    (judged : candidate.judged codec asset = .ok bytes)
    (rest : List Candidate)
    (destination : Option Bytes)
    (suspects tried : List Nat) :
    let outcome := restoreFrom codec asset (front ++ candidate :: rest) ⟨destination, none⟩
      suspects tried
    (outcome.result = .ok ⟨asset.hash, candidate.poolId, candidate.copyId, asset.sizeBytes⟩ ∧
      outcome.directory.destination = some bytes ∧
      outcome.streams = tried.length + (front.length + 1)) ↔
    (candidate.closing = none ∧
      ∀ other ∈ front, other.opened.isOk = true → other.closing ≠ some .uncaught) := by
  induction front generalizing suspects tried with
  | nil =>
    have landed : candidate.landed codec asset destination = some bytes := by
      rw [Candidate.landed, judged]
    rw [nil_append, restoreFrom_cons, raised_of_judged_ok judged, landed]
    cases closing : candidate.closing with
    | none => simp
    | some fault =>
      simp only [Option.map_some]
      refine iff_of_false ?_ (by simp)
      rintro ⟨succeeds, _, streams⟩
      split at succeeds
      next caught =>
        have later := lt_streams_restoreFrom (by rw [succeeds]; rfl)
        rw [if_pos caught] at streams
        rw [streams, length_append] at later
        simp at later
      · cases succeeds
  | cons head front ih =>
    obtain ⟨fault, failed, caught⟩ := fails head mem_cons_self
    obtain ⟨raised, isRaised, passes⟩ := raised_of_judged_error failed caught
    have kept : head.landed codec asset destination = destination := by
      rw [Candidate.landed, failed]
    rw [cons_append, restoreFrom_cons, isRaised, kept]
    dsimp only
    rw [forall_mem_cons, ← passes]
    by_cases goesOn : raised.caught = true
    · rw [if_pos goesOn]
      have later := ih (fun other member => fails other (mem_cons_of_mem _ member))
        (if raised = .logicalMemberIntegrity then suspects ++ [head.copyId] else suspects)
        (tried ++ [head.copyId])
      rw [length_append, length_singleton] at later
      simp only [goesOn, true_and, ← later, length_cons, Nat.add_assoc, Nat.add_comm]
    · rw [if_neg goesOn]
      simp [goesOn]

/-- A restore is faithful exactly if closing raises nothing where it matters. -/
theorem faithful_iff_quiet
    (codec : Codec)
    (asset : Asset)
    (candidates : List Candidate)
    (destination : Option Bytes) :
    Faithful codec asset candidates destination
        (restoreAsset codec asset candidates destination) ↔
      Quiet codec asset candidates := by
  constructor
  · intro faithful
    refine ⟨?_, ?_⟩
    · rintro front candidate rest bytes rfl fails judged
      have first := faithful.first front candidate rest bytes rfl fails judged
      refine (wins_restoreFrom_iff fails judged rest destination [] []).mp ⟨first.1, first.2.1, ?_⟩
      rw [length_nil, Nat.zero_add]
      exact first.2.2
    · intro candidate member judged
      have marked := (faithful.suspects candidate.copyId).mpr ⟨candidate, member, rfl, judged⟩
      rw [restoreAsset, mem_suspects_restoreFrom] at marked
      obtain ⟨⟨⟩⟩ | ⟨other, reached, same, raised⟩ := marked
      exact ⟨other, reached, same, raised_eq_logical_iff.mp raised⟩
  · intro quiet
    refine ⟨delivered_restoreFrom (.inl rfl) [] [], fun fails => failed_restoreFrom fails [] [],
      ?_, ?_⟩
    · rintro front candidate rest bytes rfl fails judged
      have first := (wins_restoreFrom_iff fails judged rest destination [] []).mpr
        (quiet.winner front candidate rest bytes rfl fails judged)
      rw [length_nil, Nat.zero_add] at first
      exact first
    · intro copyId
      rw [restoreAsset, mem_suspects_restoreFrom]
      constructor
      · rintro (⟨⟨⟩⟩ | ⟨candidate, reached, same, raised⟩)
        exact ⟨candidate, reached, same, (raised_eq_logical_iff.mp raised).1⟩
      · rintro ⟨candidate, reached, same, judged⟩
        obtain ⟨other, reachedToo, sameCopy, failed⟩ := quiet.suspect candidate reached judged
        exact .inr ⟨other, reachedToo, sameCopy.trans same, raised_eq_logical_iff.mpr failed⟩

end Loop

/-! ## Small restores -/

/-- A hash that is the text itself and a decompressor that changes nothing. -/
def plainCodec : Codec where
  sha256 bytes := bytes
  decompress stream := stream

/-- A copy of two bytes that arrives in two chunks. -/
def goodCopy (closing : Option SourceFault) : Candidate :=
  ⟨1, "tape", [1, 2], [], .ok ([[1], [2]], none), closing⟩

/-- The only copy streams to its verified end and is published, and then its
backend fails to close: the restore raises. -/
theorem not_faithfulLaw : ¬FaithfulLaw := by
  intro law
  have faithful := law plainCodec ⟨[1, 2], 2⟩ [goodCopy (some .backendError)] none
  have judged : (goodCopy (some .backendError)).judged plainCodec ⟨[1, 2], 2⟩ = .ok [1, 2] := by
    decide +kernel
  have wins := faithful.first [] (goodCopy (some .backendError)) [] [1, 2] rfl
    (fun _ member => absurd member not_mem_nil) judged
  have raises : (restoreAsset plainCodec ⟨[1, 2], 2⟩
      [goodCopy (some .backendError)] none).result = .error (.integrity [1]) := by
    decide +kernel
  cases wins.1

end Candidates
end Restore
end Sutradhara
