import Sutradhara.Restore.Candidates

/-!
# The ladder of a partial restore

Cutting an asset tries three rungs in turn: a ranged cut from a plain object, the
whole member of a copy that is not encrypted, and the whole member of an encrypted
one.  Each rung takes the first candidate that fits it.  A whole member is published
as it was read, without a look at its digest, and a failed read ends the cut.
-/

namespace Sutradhara
namespace Restore
namespace Ladder

open Candidates (Bytes Digest)
open List

/-- `Representation`. -/
inductive Representation
  | rawBytes
  | remObjectV1
  | remEncryptV1
  | d2tarRaw
  deriving DecidableEq

/-- `Copy`, as far as the ladder reads it. -/
structure LocatedCopy where
  id : Nat
  backendId : Nat
  healthy : Bool
  deleted : Bool
  storedSizeBytes : Option Int
  deriving DecidableEq

/-- `AssetLocator` with its copy.  The block range is the start of a valid one. -/
structure AssetLocator where
  id : Nat
  poolId : String
  representation : Representation
  copy : Option LocatedCopy
  sizeBytes : Option Int
  offset : Option Int
  firstChunkLba : Option Int
  blockRange : Option Int
  deriving DecidableEq

/-- What a reader raises: an `ArchiveRestoreError` or a `BackendError`, or anything
else. -/
inductive ReadFault
  | caught
  | uncaught

/-- What a ranged cut raises, by its handlers. -/
inductive RangedFault
  | transient
  | unavailable (reason : String)
  | uncaught

/-- One attempt at a ranged cut.  It may still raise after it has published. -/
inductive Ranged
  | failed (fault : RangedFault)
  | published (bytes : Bytes) (raised : Option RangedFault)

/-- The catalog, the backends and the file system, as a cut finds them. -/
structure Site where
  busy : Bool
  sidecarGrammar : Option String
  /-- The rows that the query of `_candidate_locators` selects. -/
  rows : List AssetLocator
  poolOrder : List String
  available : Nat → Bool
  ranged : AssetLocator → Nat → Ranged
  readRange : AssetLocator → Nat → Nat → Except ReadFault Bytes
  /-- Where the payload begins, if the object is a local archive. -/
  localArchive : AssetLocator → Except ReadFault (Option Int)
  tarMember : AssetLocator → Except ReadFault Bytes
  remMember : AssetLocator → Except ReadFault Bytes
  scratchFree : Int
  syncFails : Bool

structure CutRequest where
  assetHash : Digest
  tIn : Rat
  tOut : Rat

/-- What a cut raises. -/
inductive CutFault
  | invalid
  | busy
  | unavailable
  | raised
  deriving DecidableEq

inductive RungState
  | completed
  | fallback
  | skipped
  deriving DecidableEq

/-- `PFRRungAttempt`. -/
structure RungAttempt where
  rung : Nat
  state : RungState
  reason : String
  deriving DecidableEq

/-- `PFRCutResult`. -/
structure CutResult where
  rung : Nat
  reason : String
  attempts : List RungAttempt
  deriving DecidableEq

/-! ## Candidates -/

namespace Site

variable (site : Site)

/-- The sort key of `_candidate_locators`. -/
def key (locator : AssetLocator) : List Nat :=
  [site.poolOrder.idxOf locator.poolId, (locator.copy.map LocatedCopy.id).getD 0, locator.id]

/-- `_candidate_locators`. -/
def candidateLocators : List AssetLocator :=
  (site.rows.filter fun locator =>
    (locator.copy.any fun copy => copy.healthy && !copy.deleted) &&
      site.poolOrder.contains locator.poolId).insertionSort fun first second =>
        !(site.key second).lex (site.key first)

/-- The backend of the locator's copy is at hand. -/
def backed (locator : AssetLocator) : Bool :=
  locator.copy.any fun copy => site.available copy.backendId

/-- `_first_supported_locator`. -/
def firstSupportedLocator (representation : Representation) : Option AssetLocator :=
  site.candidateLocators.find? fun locator =>
    locator.representation = representation && site.backed locator

/-- `_first_non_aead_locator`. -/
def firstNonAeadLocator : Option AssetLocator :=
  site.candidateLocators.find? fun locator =>
    locator.representation ≠ .remEncryptV1 && site.backed locator

/-! ## Whole members -/

/-- `_copy_backend_range_to_path`. -/
def copyBackendRange (locator : AssetLocator) (start stop : Int) : Except ReadFault Bytes :=
  if start < 0 ∨ stop < start then .error .caught
  else
    flatten <$> (range (((stop - start).toNat + 262143) / 262144)).mapM fun index =>
      let cursor := start.toNat + 262144 * index
      let chunkEnd := min (cursor + 262144) stop.toNat
      (site.readRange locator cursor chunkEnd).bind fun chunk =>
        if chunk.length = chunkEnd - cursor then .ok chunk else .error .caught

/-- `read_member_to_path`. -/
def readMemberToPath (locator : AssetLocator) : Except ReadFault Bytes :=
  match locator.sizeBytes with
  | none => .error .caught
  | some size =>
    if size < 0 then .error .caught
    else if size = 0 then .ok []
    else
      match locator.representation, locator.offset with
      | .d2tarRaw, _ =>
        match locator.blockRange with
        | some start => site.copyBackendRange locator start (start + size)
        | none => site.tarMember locator
      | _, some offset =>
        (site.localArchive locator).bind fun
          | some payloadStart =>
            if offset < 0 then .error .caught
            else site.copyBackendRange locator (payloadStart + offset)
              (payloadStart + offset + size)
          | none => site.copyBackendRange locator offset (offset + size)
      | .remObjectV1, none =>
        match locator.firstChunkLba with
        | none => .error .caught
        | some lba =>
          if lba < 0 then .error .caught
          else site.copyBackendRange locator (lba * 262144) (lba * 262144 + size)
      | .remEncryptV1, none => site.remMember locator
      | .rawBytes, none => .error .caught

variable (output : Option Bytes)

/-- `_restore_member_whole`, with what it leaves at the output path. -/
def restoreMemberWhole (locator : AssetLocator) : Option Bytes × Except CutFault Unit :=
  match site.readMemberToPath locator with
  | .error .caught => (output, .error .unavailable)
  | .error .uncaught => (output, .error .raised)
  | .ok bytes => (some bytes, if site.syncFails then .error .raised else .ok ())

/-- `_preflight_aead_scratch` passes. -/
def preflightAeadScratch (locator : AssetLocator) : Bool :=
  locator.sizeBytes.any fun size =>
    let stored := (locator.copy.bind LocatedCopy.storedSizeBytes).filter (0 ≤ ·)
    0 ≤ size && stored.getD size + size + size ≤ site.scratchFree

/-! ## The rungs -/

/-- The attempts of `_cut_ranged_rem_object`. -/
def cutRanged : List Ranged → Option Bytes → Option Bytes × Except RangedFault Unit
  | [], output => (output, .error (.unavailable "PFRUnavailable"))
  | .failed .transient :: rest, output => cutRanged rest output
  | .failed fault :: _, output => (output, .error fault)
  | .published bytes none :: _, _ => (some bytes, .ok ())
  | .published bytes (some .transient) :: rest, _ => cutRanged rest (some bytes)
  | .published bytes (some fault) :: _, _ => (some bytes, .error fault)

/-- The first rung, or nothing when an exception leaves it. -/
def rungOne : Option Bytes × Option RungAttempt :=
  match site.sidecarGrammar with
  | none => (output, some ⟨1, .skipped, "sidecar-missing"⟩)
  | some grammar =>
    if grammar = "mxf" then
      match site.firstSupportedLocator .remObjectV1 with
      | none => (output, some ⟨1, .skipped, "no-rem-object-plain-locator"⟩)
      | some locator =>
        match cutRanged [site.ranged locator 0, site.ranged locator 1] output with
        | (output, .ok ()) => (output, some ⟨1, .completed, "ranged-pfr"⟩)
        | (output, .error (.unavailable reason)) => (output, some ⟨1, .fallback, reason⟩)
        | (output, .error _) => (output, none)
    else (output, some ⟨1, .skipped, "sidecar-grammar-" ++ grammar⟩)

/-- A rung that restores a whole member. -/
def wholeRung (rung : Nat) (reason : String) (attempts : List RungAttempt)
    (locator : AssetLocator) : Option Bytes × Except CutFault CutResult :=
  let restored := site.restoreMemberWhole output locator
  (restored.1, restored.2.map fun _ => ⟨rung, reason, attempts ++ [⟨rung, .completed, reason⟩]⟩)

/-- The second and the third rung. -/
def lowerRungs (attempts : List RungAttempt) : Option Bytes × Except CutFault CutResult :=
  match site.firstNonAeadLocator with
  | some locator => site.wholeRung output 2 "member-whole-file" attempts locator
  | none =>
    match site.firstSupportedLocator .remEncryptV1 with
    | none => (output, .error .unavailable)
    | some locator =>
      if site.preflightAeadScratch locator then
        site.wholeRung output 3 "aead_ranged_unsupported"
          (attempts ++ [⟨2, .skipped, "no-restorable-non-aead-locator"⟩]) locator
      else (output, .error .unavailable)

/-- `cut_pfr_asset`. -/
def cutPfrAsset (request : CutRequest) : Option Bytes × Except CutFault CutResult :=
  if request.assetHash.length ≠ 32 ∨ request.tOut ≤ request.tIn then (output, .error .invalid)
  else if site.busy then (output, .error .busy)
  else
    match site.rungOne output with
    | (output, none) => (output, .error .raised)
    | (output, some attempt) =>
      if attempt.state = .completed then (output, .ok ⟨1, "ranged-pfr", [attempt]⟩)
      else site.lowerRungs output [attempt]

/-! ## What a cut owes -/

/-- A whole member can be read back from the locator. -/
def restorable (locator : AssetLocator) : Bool :=
  (site.readMemberToPath locator).isOk &&
    (locator.representation ≠ .remEncryptV1 || site.preflightAeadScratch locator)

/-- An asset that is reported unavailable cannot be read back from any candidate. -/
def Exhausts (request : CutRequest) : Prop :=
  (site.cutPfrAsset output request).2 = .error .unavailable →
    ∀ locator ∈ site.candidateLocators, site.backed locator = true → site.restorable locator = false

/-- A whole member is the asset, and a cut that raises leaves the output alone. -/
structure Delivers (sha256 : Bytes → Digest) (request : CutRequest) : Prop where
  delivered : ∀ result, (site.cutPfrAsset output request).2 = .ok result → result.rung ≠ 1 →
    ∃ bytes, (site.cutPfrAsset output request).1 = some bytes ∧ sha256 bytes = request.assetHash
  unchanged : ∀ fault, (site.cutPfrAsset output request).2 = .error fault →
    (site.cutPfrAsset output request).1 = output

end Site

def ExhaustsLaw : Prop := ∀ (site : Site) output request, site.Exhausts output request

def DeliversLaw : Prop :=
  ∀ (site : Site) output sha256 request, site.Delivers output sha256 request

/-- A plain object of one byte in the pool `p`, on a backend of the same number. -/
def plainLocator (id : Nat) : AssetLocator :=
  ⟨id, "p", .remObjectV1, some ⟨id, id, true, false, none⟩, some 1, none, some 0, none⟩

/-- Two copies of the asset and no sidecar. -/
def twoCopies (readRange : AssetLocator → Nat → Nat → Except ReadFault Bytes) : Site where
  busy := false
  sidecarGrammar := none
  rows := [plainLocator 1, plainLocator 2]
  poolOrder := ["p"]
  available _ := true
  ranged _ _ := .failed .transient
  readRange := readRange
  localArchive _ := .error .caught
  tarMember _ := .error .caught
  remMember _ := .error .caught
  scratchFree := 0
  syncFails := false

def zeroRequest : CutRequest := ⟨replicate 32 0, 0, 1⟩

/-- The second copy is not read after the first has failed. -/
theorem not_exhaustsLaw : ¬ ExhaustsLaw := by
  intro law
  have fails := law (twoCopies fun locator _ _ =>
    if locator.id = 1 then .error .caught else .ok [0]) none zeroRequest (by decide +kernel)
    (plainLocator 2) (by decide +kernel) rfl
  exact absurd fails (by decide +kernel)

/-- Bytes that are not the asset are published. -/
theorem not_deliversLaw : ¬ DeliversLaw := by
  intro law
  obtain ⟨bytes, published, same⟩ := (law (twoCopies fun _ _ _ => .ok [1]) none
    (fun bytes => replicate 32 (bytes.headD 0)) zeroRequest).delivered
      ⟨2, "member-whole-file", [⟨1, .skipped, "sidecar-missing"⟩,
        ⟨2, .completed, "member-whole-file"⟩]⟩ (by decide +kernel) (by decide)
  have isOne : (Site.cutPfrAsset (twoCopies fun _ _ _ => .ok [1]) none zeroRequest).1 =
      some [1] := by decide +kernel
  cases published
  exact absurd same (by decide)

/-! ## What the site decides -/

/-- The values that a cut accepts. -/
def CutRequest.Valid (request : CutRequest) : Prop :=
  request.assetHash.length = 32 ∧ request.tIn < request.tOut

/-- What an attempt raises. -/
def Ranged.fault : Ranged → Option RangedFault
  | .failed fault => some fault
  | .published _ raised => raised

/-- What an attempt leaves at the output path. -/
def Ranged.left (output : Option Bytes) : Ranged → Option Bytes
  | .failed _ => output
  | .published bytes _ => some bytes

namespace Site

variable (site : Site)

/-- The ranged attempts that are made: none without an MXF sidecar and a plain object, and
a second one after a transient fault. -/
def tried : List Ranged :=
  if site.sidecarGrammar = some "mxf" then
    ((site.firstSupportedLocator .remObjectV1).map fun locator =>
      if (site.ranged locator 0).fault matches some .transient then
        [site.ranged locator 0, site.ranged locator 1]
      else [site.ranged locator 0]).getD []
  else []

/-- What the ranged attempts leave at the output path. -/
def left (output : Option Bytes) : Option Bytes := site.tried.foldl Ranged.left output

/-- A ranged attempt ends the cut with a result. -/
def Completes : Prop := ∃ attempt ∈ site.tried, attempt.fault = none

/-- A ranged attempt ends the cut with an exception. -/
def Raises : Prop := ∃ attempt ∈ site.tried, attempt.fault = some .uncaught

/-- The locator that the lower rungs take. -/
def taken : Option AssetLocator :=
  site.firstNonAeadLocator.or (site.firstSupportedLocator .remEncryptV1)

/-- There is scratch space for an encrypted member. -/
def ready (locator : AssetLocator) : Bool :=
  locator.representation ≠ .remEncryptV1 || site.preflightAeadScratch locator

/-- The backend answers the reads of a stretch of the object, block by block, with as many
bytes as were asked for. -/
def Stretch
    (locator : AssetLocator)
    (start stop : Int)
    (bytes : Bytes) : Prop :=
  0 ≤ start ∧ start ≤ stop ∧ ∃ chunks : List Bytes, chunks.flatten = bytes ∧
    Forall₂ (fun index chunk =>
        site.readRange locator (start.toNat + 262144 * index)
            (min (start.toNat + 262144 * index + 262144) stop.toNat) = .ok chunk ∧
          chunk.length = min (start.toNat + 262144 * index + 262144) stop.toNat -
            (start.toNat + 262144 * index))
      (range (((stop - start).toNat + 262143) / 262144)) chunks

/-- What the backend has for the member that the locator names. -/
inductive Serves (locator : AssetLocator) : Bytes → Prop
  | empty (sized : locator.sizeBytes = some 0) : Serves locator []
  | tarRange
      (sized : locator.sizeBytes = some size)
      (positive : 0 < size)
      (isTar : locator.representation = .d2tarRaw)
      (block : locator.blockRange = some start)
      (stretch : site.Stretch locator start (start + size) bytes) : Serves locator bytes
  | tarMember
      (sized : locator.sizeBytes = some size)
      (positive : 0 < size)
      (isTar : locator.representation = .d2tarRaw)
      (block : locator.blockRange = none)
      (member : site.tarMember locator = .ok bytes) : Serves locator bytes
  | archived
      (sized : locator.sizeBytes = some size)
      (positive : 0 < size)
      (notTar : locator.representation ≠ .d2tarRaw)
      (located : locator.offset = some offset)
      (archive : site.localArchive locator = .ok (some payloadStart))
      (inside : 0 ≤ offset)
      (stretch : site.Stretch locator (payloadStart + offset) (payloadStart + offset + size)
        bytes) : Serves locator bytes
  | ranged
      (sized : locator.sizeBytes = some size)
      (positive : 0 < size)
      (notTar : locator.representation ≠ .d2tarRaw)
      (located : locator.offset = some offset)
      (archive : site.localArchive locator = .ok none)
      (stretch : site.Stretch locator offset (offset + size) bytes) : Serves locator bytes
  | chunked
      (sized : locator.sizeBytes = some size)
      (positive : 0 < size)
      (plain : locator.representation = .remObjectV1)
      (unlocated : locator.offset = none)
      (chunk : locator.firstChunkLba = some lba)
      (inside : 0 ≤ lba)
      (stretch : site.Stretch locator (lba * 262144) (lba * 262144 + size) bytes) :
      Serves locator bytes
  | encrypted
      (sized : locator.sizeBytes = some size)
      (positive : 0 < size)
      (aead : locator.representation = .remEncryptV1)
      (unlocated : locator.offset = none)
      (member : site.remMember locator = .ok bytes) : Serves locator bytes

/-- The copies are such that an asset is not given up while one of them could be read: the
cut ends before the lower rungs, or the locator that they take is read back or raises
what is not taken for a failed read, or no other one could be read back. -/
def Serviceable (request : CutRequest) : Prop :=
  ¬ request.Valid ∨ site.busy = true ∨ site.Completes ∨ site.Raises ∨
    (∃ locator ∈ site.taken, site.restorable locator = true ∨
      site.ready locator = true ∧ site.readMemberToPath locator = .error .uncaught) ∨
    ∀ locator ∈ site.candidateLocators, site.backed locator = true → locator ∉ site.taken →
      site.restorable locator = false

/-- The backends and the file system are such that a whole member is the asset and a
failed cut has no effect. -/
structure Sound
    (output : Option Bytes)
    (sha256 : Bytes → Digest)
    (request : CutRequest) : Prop where
  /-- A ranged attempt that raises leaves what was there. -/
  raised : site.Raises → site.left output = output
  /-- So do ranged attempts before lower rungs that have nothing to read. -/
  unread : ¬ site.Completes → ¬ site.Raises →
    (∀ locator ∈ site.taken, site.ready locator = true → ∀ bytes, ¬ site.Serves locator bytes) →
    site.left output = output
  /-- What the lower rungs are served is the asset. -/
  served : ¬ site.Completes → ¬ site.Raises → site.syncFails = false →
    ∀ locator ∈ site.taken, site.ready locator = true → ∀ bytes, site.Serves locator bytes →
      sha256 bytes = request.assetHash
  /-- Where the directory cannot be synced, it already was at the output path. -/
  unsynced : ¬ site.Completes → ¬ site.Raises → site.syncFails = true →
    ∀ locator ∈ site.taken, site.ready locator = true → ∀ bytes, site.Serves locator bytes →
      output = some bytes

variable {site : Site} {output : Option Bytes}

/-! ## Reads -/

/-- A loop over fallible reads ends well exactly if each of them does. -/
theorem mapM_eq_ok_iff {read : α → Except ε β} :
    items.mapM read = .ok results ↔
      Forall₂ (fun item result => read item = .ok result) items results := by
  induction items generalizing results with
  | nil =>
    rw [mapM_nil, forall₂_nil_left_iff]
    exact ⟨fun same => (Except.ok.inj same).symm, fun same => congrArg _ same.symm⟩
  | cons item rest ih =>
    rw [mapM_cons, forall₂_cons_left_iff]
    simp only [← ih]
    cases read item with
    | error fault => exact ⟨nofun, fun ⟨_, _, failed, _⟩ => nomatch failed⟩
    | ok result =>
      cases rest.mapM read with
      | error fault => exact ⟨nofun, fun ⟨_, _, _, failed, _⟩ => nomatch failed⟩
      | ok others =>
        constructor
        · rintro ⟨⟩
          exact ⟨result, others, rfl, rfl, rfl⟩
        · rintro ⟨_, _, ⟨⟩, ⟨⟩, rfl⟩
          rfl

theorem copyBackendRange_eq_ok_iff :
    site.copyBackendRange locator start stop = .ok bytes ↔
      site.Stretch locator start stop bytes := by
  unfold copyBackendRange Stretch
  split_ifs with bad
  · exact ⟨nofun, fun ⟨lower, upper, _⟩ => absurd bad (by omega)⟩
  · have split : ∀ (all : Except ReadFault (List Bytes)),
        flatten <$> all = .ok bytes ↔ ∃ chunks, flatten chunks = bytes ∧ all = .ok chunks := by
      rintro (fault | chunks)
      · exact ⟨nofun, nofun⟩
      · exact ⟨fun same => ⟨chunks, Except.ok.inj same, rfl⟩, by rintro ⟨_, rfl, ⟨⟩⟩; rfl⟩
    have chunk : ∀ (answer : Except ReadFault Bytes) (size : Nat) (bytes : Bytes),
        (answer.bind fun chunk => if chunk.length = size then .ok chunk else .error .caught) =
          .ok bytes ↔ answer = .ok bytes ∧ bytes.length = size := by
      rintro (fault | answered) size bytes
      · exact ⟨nofun, nofun⟩
      · by_cases full : answered.length = size
        · simp only [Except.bind, full, if_true, Except.ok.injEq]
          exact ⟨fun same => ⟨same, same ▸ full⟩, And.left⟩
        · simp only [Except.bind, full, if_false, Except.ok.injEq]
          exact ⟨nofun, fun ⟨same, fits⟩ => absurd (same ▸ fits) full⟩
    simp only [split, mapM_eq_ok_iff, chunk]
    exact ⟨fun found => ⟨by omega, by omega, found⟩, fun found => found.2.2⟩

theorem serves_of_readMemberToPath (read : site.readMemberToPath locator = .ok bytes) :
    site.Serves locator bytes := by
  unfold readMemberToPath at read
  split at read
  · cases read
  next size sized =>
    split_ifs at read with negative empty
    · cases read
      exact .empty (empty ▸ sized)
    · have positive : 0 < size := by omega
      split at read
      next isTar =>
        split at read
        next start block =>
          exact .tarRange sized positive isTar block (copyBackendRange_eq_ok_iff.mp read)
        next block => exact .tarMember sized positive isTar block read
      next offset located notTar =>
        cases archive : site.localArchive locator with
        | error fault =>
          rw [archive] at read
          cases read
        | ok found =>
          rw [archive, Except.bind] at read
          cases found with
          | none =>
            exact .ranged sized positive notTar located archive
              (copyBackendRange_eq_ok_iff.mp read)
          | some payloadStart =>
            dsimp only at read
            split_ifs at read with outside
            exact .archived sized positive notTar located archive (not_lt.mp outside)
              (copyBackendRange_eq_ok_iff.mp read)
      next plain unlocated =>
        split at read
        · cases read
        next lba chunk =>
          split_ifs at read with outside
          exact .chunked sized positive plain unlocated chunk (not_lt.mp outside)
            (copyBackendRange_eq_ok_iff.mp read)
      next aead unlocated => exact .encrypted sized positive aead unlocated read
      · cases read

theorem readMemberToPath_of_serves (served : site.Serves locator bytes) :
    site.readMemberToPath locator = .ok bytes := by
  unfold readMemberToPath
  cases served with
  | empty sized => simp [sized]
  | tarRange sized positive isTar block stretch =>
    simp only [sized, positive.not_gt, positive.ne', if_false, isTar, block]
    exact copyBackendRange_eq_ok_iff.mpr stretch
  | tarMember sized positive isTar block member =>
    simp only [sized, positive.not_gt, positive.ne', if_false, isTar, block]
    exact member
  | archived sized positive notTar located archive inside stretch =>
    simp only [sized, positive.not_gt, positive.ne', if_false, located, archive, Except.bind,
      inside.not_gt]
    exact copyBackendRange_eq_ok_iff.mpr stretch
  | ranged sized positive notTar located archive stretch =>
    simp only [sized, positive.not_gt, positive.ne', if_false, located, archive, Except.bind]
    exact copyBackendRange_eq_ok_iff.mpr stretch
  | chunked sized positive plain unlocated chunk inside stretch =>
    simp only [sized, positive.not_gt, positive.ne', if_false, plain, unlocated, chunk,
      inside.not_gt]
    exact copyBackendRange_eq_ok_iff.mpr stretch
  | encrypted sized positive aead unlocated member =>
    simp only [sized, positive.not_gt, positive.ne', if_false, aead, unlocated]
    exact member

/-- What is read back is what the backend has for the member. -/
theorem readMemberToPath_eq_ok_iff :
    site.readMemberToPath locator = .ok bytes ↔ site.Serves locator bytes :=
  ⟨serves_of_readMemberToPath, readMemberToPath_of_serves⟩

/-! ## What becomes of a cut -/

theorem restorable_eq :
    site.restorable locator = ((site.readMemberToPath locator).isOk && site.ready locator) :=
  rfl

/-- Only a transient fault leads to another attempt. -/
theorem cutRanged_cons :
    cutRanged (attempt :: rest) output =
      match attempt.fault with
      | none => (attempt.left output, .ok ())
      | some .transient => cutRanged rest (attempt.left output)
      | some fault => (attempt.left output, .error fault) := by
  rcases attempt with (_ | _ | _) | ⟨bytes, _ | (_ | _ | _)⟩ <;> rfl

/-- The attempts that are made, and what comes of them. -/
theorem cutRanged_cases
    (found : site.firstSupportedLocator .remObjectV1 = some locator)
    (grammar : site.sidecarGrammar = some "mxf") :
    ∃ ended, cutRanged [site.ranged locator 0, site.ranged locator 1] output =
        (site.left output, ended) ∧
      ((site.Completes ∧ ¬ site.Raises ∧ ended = .ok ()) ∨
        (site.Raises ∧ ended = .error .uncaught) ∨
        (¬ site.Completes ∧ ¬ site.Raises ∧ ∃ reason, ended = .error (.unavailable reason))) := by
  simp only [left, Completes, Raises, tried, grammar, found, if_true, Option.map_some,
    Option.getD_some, cutRanged_cons]
  rcases first : (site.ranged locator 0).fault with _ | _ | reason | _ <;>
    simp only [reduceIte, mem_cons, not_mem_nil, or_false, foldl_cons, foldl_nil,
      Bool.false_eq_true]
  · exact ⟨_, rfl, by simp [first]⟩
  · rcases second : (site.ranged locator 1).fault with _ | _ | reason | _ <;>
      exact ⟨_, rfl, by simp [first, second]⟩
  · exact ⟨_, rfl, by simp [first]⟩
  · exact ⟨_, rfl, by simp [first]⟩

/-- What the ranged rung leaves, and how it ends. -/
theorem rungOne_cases :
    ∃ ended, site.rungOne output = (site.left output, ended) ∧
      ((site.Completes ∧ ¬ site.Raises ∧ ∃ attempt ∈ ended, attempt.state = .completed) ∨
        (site.Raises ∧ ended = none) ∨
        (¬ site.Completes ∧ ¬ site.Raises ∧ ∃ attempt ∈ ended, attempt.state ≠ .completed)) := by
  have skipped : ∀ reason, site.tried = [] →
      ∃ ended, (output, some (⟨1, .skipped, reason⟩ : RungAttempt)) = (site.left output, ended) ∧
        ((site.Completes ∧ ¬ site.Raises ∧ ∃ attempt ∈ ended, attempt.state = .completed) ∨
          (site.Raises ∧ ended = none) ∨
          (¬ site.Completes ∧ ¬ site.Raises ∧ ∃ attempt ∈ ended, attempt.state ≠ .completed)) := by
    intro reason none
    exact ⟨_, by rw [left, none, foldl_nil], .inr (.inr (by simp [Completes, Raises, none]))⟩
  unfold rungOne
  split
  next grammar => exact skipped _ (by simp [tried, grammar])
  next grammar isGrammar =>
    split_ifs with mxf
    · subst mxf
      cases found : site.firstSupportedLocator .remObjectV1 with
      | none => exact skipped _ (by simp [tried, isGrammar, found])
      | some locator =>
        obtain ⟨ended, cut, how⟩ := @cutRanged_cases site output _ found isGrammar
        simp only [cut]
        obtain ⟨completes, calm, rfl⟩ | ⟨raises, rfl⟩ | ⟨incomplete, calm, reason, rfl⟩ := how
        · exact ⟨_, rfl, .inl ⟨completes, calm, _, rfl, rfl⟩⟩
        · exact ⟨_, rfl, .inr (.inl ⟨raises, rfl⟩)⟩
        · exact ⟨_, rfl, .inr (.inr ⟨incomplete, calm, _, rfl, nofun⟩)⟩
    · exact skipped _ (by simp [tried, isGrammar, mxf])

/-- The lower rungs restore the locator that they take, if there is scratch space for it. -/
theorem lowerRungs_eq :
    (∃ locator, site.taken = some locator ∧ site.ready locator = true ∧
        ∃ rung reason tried, rung ≠ 1 ∧
          site.lowerRungs output attempts = site.wholeRung output rung reason tried locator) ∨
      (∀ locator ∈ site.taken, site.ready locator = false) ∧
        site.lowerRungs output attempts = (output, .error .unavailable) := by
  unfold lowerRungs taken
  cases plain : site.firstNonAeadLocator with
  | some locator =>
    have fits := find?_some plain
    rw [Bool.and_eq_true] at fits
    exact .inl ⟨locator, rfl, by rw [ready, fits.1, Bool.true_or], _, _, _, by decide, rfl⟩
  | none =>
    cases aead : site.firstSupportedLocator .remEncryptV1 with
    | none => exact .inr ⟨nofun, rfl⟩
    | some locator =>
      have fits := find?_some aead
      rw [Bool.and_eq_true, decide_eq_true_eq] at fits
      have scratch : site.ready locator = site.preflightAeadScratch locator := by
        simp [ready, fits.1]
      dsimp only
      split_ifs with passes
      · exact .inl ⟨locator, rfl, scratch.trans passes, _, _, _, by decide, rfl⟩
      · refine .inr ⟨?_, rfl⟩
        rintro _ ⟨⟩
        exact scratch.trans (eq_false_of_ne_true passes)

/-- The lower rungs publish what the locator that they take is served, or leave the
output alone. -/
theorem lowerRungs_cases :
    (∃ locator, site.taken = some locator ∧ site.ready locator = true ∧ ∃ bytes,
        site.readMemberToPath locator = .ok bytes ∧ ∃ rung reason tried, rung ≠ 1 ∧
          site.lowerRungs output attempts = (some bytes,
            if site.syncFails then .error .raised else .ok ⟨rung, reason, tried⟩)) ∨
      (∀ locator ∈ site.taken, site.ready locator = true →
        (site.readMemberToPath locator).isOk = false) ∧
      ∃ fault, site.lowerRungs output attempts = (output, .error fault) ∧
        (fault = .unavailable ∧ (∀ locator ∈ site.taken, site.ready locator = true →
            site.readMemberToPath locator ≠ .error .uncaught) ∨
          fault = .raised ∧ ∃ locator ∈ site.taken,
            site.ready locator = true ∧ site.readMemberToPath locator = .error .uncaught) := by
  obtain ⟨locator, taken, ready, rung, reason, tried, lower, whole⟩ | ⟨unready, failed⟩ :=
    @lowerRungs_eq site output attempts
  · rw [whole]
    unfold wholeRung restoreMemberWhole
    simp only [taken, Option.mem_some_iff, forall_eq', exists_eq_left']
    cases read : site.readMemberToPath locator with
    | error fault =>
      refine .inr ⟨fun _ => rfl, ?_⟩
      cases fault with
      | caught => exact ⟨_, rfl, .inl ⟨rfl, fun _ => nofun⟩⟩
      | uncaught => exact ⟨_, rfl, .inr ⟨rfl, ready, rfl⟩⟩
    | ok bytes =>
      refine .inl ⟨locator, rfl, ready, bytes, read, rung, reason,
        tried ++ [⟨rung, .completed, reason⟩], lower, ?_⟩
      split_ifs <;> rfl
  · have never : ∀ locator ∈ site.taken, site.ready locator ≠ true := fun locator member =>
      ne_true_of_eq_false (unready locator member)
    refine .inr ⟨fun locator member ready => absurd ready (never locator member), _, failed,
      .inl ⟨rfl, fun locator member ready => absurd ready (never locator member)⟩⟩

/-- The four ways of a cut. -/
theorem cutPfrAsset_cases :
    ((¬ request.Valid ∨ site.busy = true) ∧ ∃ fault, fault ≠ .unavailable ∧
        site.cutPfrAsset output request = (output, .error fault)) ∨
      (request.Valid ∧ site.busy = false) ∧
        ((site.Completes ∧ ¬ site.Raises ∧ ∃ result, result.rung = 1 ∧
            site.cutPfrAsset output request = (site.left output, .ok result)) ∨
          (site.Raises ∧ site.cutPfrAsset output request = (site.left output, .error .raised)) ∨
          (¬ site.Completes ∧ ¬ site.Raises ∧ ∃ attempts,
            site.cutPfrAsset output request = site.lowerRungs (site.left output) attempts)) := by
  unfold cutPfrAsset
  split_ifs with invalid busy
  · refine .inl ⟨.inl fun valid => ?_, .invalid, nofun, rfl⟩
    exact invalid.elim (absurd valid.1) (Rat.not_le.mpr valid.2)
  · exact .inl ⟨.inr busy, .busy, nofun, rfl⟩
  · rw [not_or, not_not, Rat.not_le] at invalid
    refine .inr ⟨⟨invalid, eq_false_of_ne_true busy⟩, ?_⟩
    obtain ⟨ended, first, how⟩ := @rungOne_cases site output
    simp only [first]
    obtain ⟨completes, calm, attempt, rfl, done⟩ | ⟨raises, rfl⟩ |
      ⟨incomplete, calm, attempt, rfl, undone⟩ := how
    · exact .inl ⟨completes, calm, _, rfl, if_pos done⟩
    · exact .inr (.inl ⟨raises, rfl⟩)
    · exact .inr (.inr ⟨incomplete, calm, _, if_neg undone⟩)

/-- An asset is given up too early exactly if the lower rungs take a locator that fails
while another one could be read back. -/
theorem exhausts_iff_serviceable
    (site : Site)
    (output : Option Bytes)
    (request : CutRequest) :
    site.Exhausts output request ↔ site.Serviceable request := by
  unfold Exhausts Serviceable
  obtain ⟨refused, fault, other, cut⟩ | ⟨⟨valid, free⟩, how⟩ :=
    @cutPfrAsset_cases site output request
  · rw [cut]
    refine iff_of_true (fun same => absurd (Except.error.inj same) other) ?_
    exact refused.imp_right .inl
  obtain ⟨completes, -, result, -, cut⟩ | ⟨raises, cut⟩ | ⟨incomplete, calm, attempts, cut⟩ := how
  · rw [cut]
    exact iff_of_true nofun (.inr (.inr (.inl completes)))
  · rw [cut]
    exact iff_of_true nofun (.inr (.inr (.inr (.inl raises))))
  simp only [valid, free, incomplete, calm, not_true_eq_false, Bool.false_eq_true, false_or, cut]
  obtain ⟨locator, taken, ready, bytes, read, rung, reason, tried, -, lower⟩ |
    ⟨unread, fault, lower, kind⟩ := @lowerRungs_cases site (site.left output) attempts
  · rw [lower]
    refine iff_of_true ?_ (.inl ⟨locator, taken, .inl ?_⟩)
    · split_ifs <;> nofun
    · rw [restorable_eq, read, ready]
      rfl
  · have unserved : ∀ locator ∈ site.taken, site.restorable locator = false := by
      intro locator member
      rw [restorable_eq, Bool.and_eq_false_iff, or_iff_not_imp_right]
      exact fun ready => unread locator member (eq_true_of_ne_false ready)
    rw [lower]
    obtain ⟨rfl, caught⟩ | ⟨rfl, locator, member, ready, read⟩ := kind
    · constructor
      · exact fun failed => .inr fun locator member backed _ => failed rfl locator member backed
      · rintro (⟨locator, member, served | ⟨ready, read⟩⟩ | others) - other listed backed
        · rw [unserved locator member] at served
          cases served
        · exact absurd read (caught locator member ready)
        · by_cases isTaken : other ∈ site.taken
          · exact unserved other isTaken
          · exact others other listed backed isTaken
    · exact iff_of_true nofun (.inl ⟨locator, member, .inr ⟨ready, read⟩⟩)

theorem delivers_iff_of_eq
    {after : Option Bytes}
    (cut : site.cutPfrAsset output request = (after, ended)) :
    site.Delivers output sha256 request ↔
      (∀ result, ended = .ok result → result.rung ≠ 1 →
        ∃ bytes, after = some bytes ∧ sha256 bytes = request.assetHash) ∧
      ∀ fault, ended = .error fault → after = output := by
  constructor
  · rintro ⟨delivered, unchanged⟩
    rw [cut] at delivered unchanged
    exact ⟨delivered, unchanged⟩
  · rintro ⟨delivered, unchanged⟩
    constructor <;> rw [cut]
    exacts [delivered, unchanged]

/-- The lower rungs deliver what they are served. -/
theorem delivers_iff_of_falls
    (incomplete : ¬ site.Completes)
    (calm : ¬ site.Raises)
    (cut : site.cutPfrAsset output request = site.lowerRungs (site.left output) attempts) :
    site.Delivers output sha256 request ↔ site.Sound output sha256 request := by
  obtain ⟨locator, taken, ready, bytes, read, rung, reason, tried, below, lower⟩ |
    ⟨unread, fault, lower, -⟩ := @lowerRungs_cases site (site.left output) attempts
  · have only : ∀ other ∈ site.taken, ∀ served, site.Serves other served → served = bytes := by
      intro other member served serves
      rw [taken, Option.mem_some_iff] at member
      subst member
      exact Except.ok.inj ((readMemberToPath_eq_ok_iff.mpr serves).symm.trans read)
    have serves := readMemberToPath_eq_ok_iff.mp read
    rw [delivers_iff_of_eq (cut.trans lower)]
    cases synced : site.syncFails with
    | false =>
      constructor
      · rintro ⟨delivered, -⟩
        obtain ⟨_, ⟨⟩, same⟩ := delivered _ rfl below
        exact ⟨fun raises => absurd raises calm,
          fun _ _ none => absurd serves (none locator taken ready bytes),
          fun _ _ _ other member _ served isServed => only other member served isServed ▸ same,
          fun _ _ failed => absurd failed (by simp [synced])⟩
      · intro sound
        refine ⟨fun _ _ _ => ⟨bytes, rfl, ?_⟩, nofun⟩
        exact sound.served incomplete calm synced locator taken ready bytes serves
    | true =>
      constructor
      · rintro ⟨-, unchanged⟩
        have same : output = some bytes := (unchanged _ rfl).symm
        exact ⟨fun raises => absurd raises calm,
          fun _ _ none => absurd serves (none locator taken ready bytes),
          fun _ _ well => absurd well (by simp [synced]),
          fun _ _ _ other member _ served isServed => only other member served isServed ▸ same⟩
      · intro sound
        refine ⟨nofun, fun _ _ => ?_⟩
        exact (sound.unsynced incomplete calm synced locator taken ready bytes serves).symm
  · have unserved : ∀ locator ∈ site.taken, site.ready locator = true →
        ∀ bytes, ¬ site.Serves locator bytes := by
      intro locator member ready bytes serves
      have failed := unread locator member ready
      rw [readMemberToPath_eq_ok_iff.mpr serves] at failed
      cases failed
    rw [delivers_iff_of_eq (cut.trans lower)]
    constructor
    · rintro ⟨-, unchanged⟩
      exact ⟨fun raises => absurd raises calm, fun _ _ _ => unchanged _ rfl,
        fun _ _ _ locator member ready bytes serves =>
          absurd serves (unserved locator member ready bytes),
        fun _ _ _ locator member ready bytes serves =>
          absurd serves (unserved locator member ready bytes)⟩
    · intro sound
      exact ⟨nofun, fun _ _ => sound.unread incomplete calm unserved⟩

/-- A cut delivers exactly what the backends and the file system let it: nothing between
a read and the output path looks at the digest, and a publication is not taken back. -/
theorem delivers_iff_sound
    (site : Site)
    (output : Option Bytes)
    (sha256 : Bytes → Digest)
    (request : CutRequest) :
    site.Delivers output sha256 request ↔
      (request.Valid → site.busy = false → site.Sound output sha256 request) := by
  obtain ⟨refused, fault, -, cut⟩ | ⟨⟨valid, free⟩, how⟩ :=
    @cutPfrAsset_cases site output request
  · rw [delivers_iff_of_eq cut]
    refine iff_of_true ⟨nofun, fun _ _ => rfl⟩ fun valid free => ?_
    exact refused.elim (absurd valid) (by simp [free])
  simp only [valid, free, forall_const]
  obtain ⟨completes, calm, result, first, cut⟩ | ⟨raises, cut⟩ |
    ⟨incomplete, calm, attempts, cut⟩ := how
  · rw [delivers_iff_of_eq cut]
    refine iff_of_true ⟨?_, nofun⟩ ⟨fun raises => absurd raises calm, ?_, ?_, ?_⟩
    · rintro _ ⟨⟩ below
      exact absurd first below
    all_goals exact fun incomplete => absurd completes incomplete
  · rw [delivers_iff_of_eq cut]
    constructor
    · rintro ⟨-, unchanged⟩
      exact ⟨fun _ => unchanged _ rfl, fun _ calm => absurd raises calm,
        fun _ calm => absurd raises calm, fun _ calm => absurd raises calm⟩
    · exact fun sound => ⟨nofun, fun _ _ => sound.raised raises⟩
  · exact delivers_iff_of_falls incomplete calm cut

end Site

end Ladder
end Restore
end Sutradhara
