import Sutradhara.Archive.Fanout
import Sutradhara.Foundation.Effects
import Sutradhara.Foundation.Overwriting
import Sutradhara.Receive.Canonical

/-!
# Writes into object stores

An SSH disk and an S3 bucket store an object under a key made of the pool and the name
of the local file.  Both replace what is there.  The name comes from the caller: raw
bytes keep the name of their source, every sealed asset is the file
`sealed.rem-object` of a scratch directory, and a bundle artifact is named after the
bundle and its representation.
-/

namespace Sutradhara
namespace Replication

open Foundation
open Foundation.Effects (Computation)
open Foundation.Effects.Computation
open Foundation.Overwriting (Write Names)
open Receive (Text Bytes)
open Archive.Fanout (Representation)

/-- A SHA-256 in hexadecimal digits. -/
abbrev Digest := Text

/-! ## Keys -/

/-- `str.strip("/")`. -/
def stripSlashes (text : Text) : Text :=
  ((text.dropWhile (· = '/')).reverse.dropWhile (· = '/')).reverse

section

variable (key keyPrefix pool name : Text)

/-- `_validate_key`.  A key that passes is its own normal form, so that the check of
the normalised key never fires. -/
def validateKey : Bool :=
  !key.isEmpty && key.head? ≠ some '/' && !key.contains '\\' &&
    key.all (fun char => 32 ≤ char.toNat && char.toNat ≠ 127) &&
      (key.splitOn '/').all fun part => part ≠ [] && part ≠ ['.'] && part ≠ ['.', '.']

/-- The key of `SshDiskBackend.write_object_to_pool`. -/
def sshKey : Text :=
  let cleanPool := stripSlashes pool
  if cleanPool = [] then name else cleanPool ++ '/' :: name

/-- `S3Backend._join_key`. -/
def joinKey (parts : List Text) : Text :=
  let keyParts := if keyPrefix = [] then parts else keyPrefix :: parts
  ['/'].intercalate ((keyParts.map stripSlashes).filter (· ≠ []))

/-- The key of `S3Backend.write_object_to_pool`: `write_object` joins the key that it
is given with the prefix once more. -/
def s3Key : Text := joinKey keyPrefix [joinKey keyPrefix [stripSlashes pool, name]]

/-- `RsyncSshTransport._remote_path` below `root.rstrip("/") or "/"`. -/
def remotePath (root key : Text) : Text :=
  (root.reverse.dropWhile (· = '/')).reverse ++ '/' :: key

end

/-! ## Stores -/

/-- Where an object is: a path on a host, or a key of a bucket. -/
inductive Address
  | file (host path : Text)
  | object (endpoint : Option Text) (bucket key : Text)
  deriving DecidableEq

/-- `SshDiskBackend` and `S3Backend`. -/
inductive Store
  | sshDisk (host root : Text)
  | s3 (endpoint : Option Text) (bucket keyPrefix : Text)

/-- `native_locator`. -/
inductive Locator
  | sshDisk (key : Text) (sha256 : Digest) (sizeBytes : Nat)
  | s3 (bucket key : Text) (sha256 : Digest)
  deriving DecidableEq

def Locator.key : Locator → Text
  | .sshDisk key _ _ => key
  | .s3 _ key _ => key

def Locator.sha256 : Locator → Digest
  | .sshDisk _ sha256 _ => sha256
  | .s3 _ _ sha256 => sha256

/-- The bucket of a locator, or the one of the backend. -/
def Locator.bucket (own : Text) : Locator → Text
  | .sshDisk .. => own
  | .s3 bucket _ _ => bucket

/-- Where a backend reads the object of a locator. -/
def Store.address : Store → Locator → Address
  | .sshDisk host root, locator => .file host (remotePath root locator.key)
  | .s3 endpoint bucket _, locator => .object endpoint (locator.bucket bucket) locator.key

/-- `CopyRecord`. -/
structure CopyRecord where
  logicalId : Digest
  nativeLocator : Locator
  integrityHash : Digest
  sizeBytes : Nat

/-- How a transfer fails, with what it leaves behind.  The command that renames, and
the upload, may have done their work although an error is reported. -/
inductive Fault
  | mkdir
  | rsync (left : Option Bytes)
  | rename (moved : Bool)
  | upload (stored : Bool)

/-- A transfer of a local file to a pool. -/
structure Attempt where
  store : Store
  pool : Text
  name : Text
  content : Bytes
  fault : Option Fault

section

variable (final : Address) (attempt : Attempt)

/-- The key of an attempt. -/
def Attempt.key : Text :=
  match attempt.store with
  | .sshDisk _ _ => sshKey attempt.pool attempt.name
  | .s3 _ _ keyPrefix => s3Key keyPrefix attempt.pool attempt.name

/-- Where an attempt stores its content. -/
def Attempt.address : Address :=
  match attempt.store with
  | .sshDisk host root => .file host (remotePath root attempt.key)
  | .s3 endpoint bucket _ => .object endpoint bucket attempt.key

/-- The path that `RsyncSshTransport.put` transfers to before it renames. -/
def Attempt.partialPath : Option Address :=
  match attempt.store with
  | .sshDisk host root => some (.file host (remotePath root attempt.key ++ ".partial".toList))
  | .s3 .. => none

/-- `RsyncSshTransport.put`: transfer next to the object, then `mv -f`. -/
def putChanges (staged : Address) (content : Bytes) :
    Option Fault → List (Address × Option Bytes)
  | some .mkdir => []
  | some (.rsync left) => [(staged, left)]
  | some (.rename false) => [(staged, some content)]
  | _ => [(staged, some content), (staged, none), (final, some content)]

/-- `upload_file`. -/
def uploadChanges (content : Bytes) :
    Option Fault → List (Address × Option Bytes)
  | some (.upload true) => [(final, some content)]
  | some _ => []
  | none => [(final, some content)]

/-- What an attempt changes in the store. -/
def Attempt.changes : List (Address × Option Bytes) :=
  match attempt.partialPath with
  | some staged => putChanges attempt.address staged attempt.content attempt.fault
  | none => uploadChanges attempt.address attempt.content attempt.fault

end

variable (sha256 : Bytes → Digest)

/-- The locator of an attempt. -/
def Attempt.locator (attempt : Attempt) : Locator :=
  match attempt.store with
  | .sshDisk _ _ => .sshDisk attempt.key (sha256 attempt.content) attempt.content.length
  | .s3 _ bucket _ => .s3 bucket attempt.key (sha256 attempt.content)

/-- The locator that an attempt returns. -/
def Attempt.returned (attempt : Attempt) : Option (Store × Locator) :=
  match attempt.fault with
  | none => some (attempt.store, attempt.locator sha256)
  | some _ => none

/-- An attempt as a write into the store of all objects. -/
def Attempt.toWrite (attempt : Attempt) : Write Address Bytes Digest where
  changes := attempt.changes
  receipt := (attempt.returned sha256).map fun written =>
    (written.1.address written.2, written.2.sha256)

/-! ## The catalog -/

/-- Whose bytes a copy holds. -/
inductive Owner
  | asset (hash : Digest)
  | bundle (bundleId : Text)
  deriving DecidableEq

/-- `Copy`, as far as the writers read it.  `pending` says that a verification job is
live, and `measured` that the bytes have been read back. -/
structure Copy where
  owner : Owner
  backendId : Nat
  poolId : Option Text
  nativeLocator : Locator
  integrityHash : Digest
  representation : Representation
  healthy : Bool
  deleted : Bool
  measured : Bool
  pending : Bool

/-- The objects of all stores, and the catalog. -/
structure World where
  objects : Address → Option Bytes
  copies : List Copy
  assets : List Digest
  bundles : List Text

/-- What a writer leaves.  An exception does not undo a write; `catalog` is what
rollbacks and other jobs make of the tables. -/
inductive Effect
  | write (attempt : Attempt)
  | record (copy : Copy)
  | suspect (backendId : Nat) (locator : Locator)
  | catalog (copies : List Copy) (assets : List Digest) (bundles : List Text)

/-- The attempt of an effect. -/
def Effect.attempt : Effect → Option Attempt
  | .write attempt => some attempt
  | _ => none

def World.apply (world : World) : Effect → World
  | .write attempt => { world with objects := (attempt.toWrite sha256).apply world.objects }
  | .record copy => { world with copies := world.copies ++ [copy] }
  | .suspect backendId locator =>
    { world with
      copies := world.copies.map fun copy =>
        if copy.backendId = backendId ∧ copy.nativeLocator = locator then
          { copy with healthy := false }
        else copy }
  | .catalog copies assets bundles => { world with copies, assets, bundles }

/-- Why a writer stops. -/
inductive WriterError
  | unsafeKey (key : Text)
  | backend
  | policyMissing
  | missingKeyEpoch (poolId : Text)
  | keyEpochDomain (poolId : Text)
  | recipients
  | build
  | reportRepresentation
  | reportChunkSize
  | reportFiles (name : Text)
  | fileDigest
  | storedDigest
  | recipientEpochs
  | copyIntegrity (poolId : Text)
  | poolRepresentation (poolId : Text)
  | sharedMedia
  | unknownLogicalAsset
  | unknownBundle
  | copyPoolMismatch
  | verify

abbrev Writer (Value : Type) : Type := Computation World Effect WriterError Value

/-! ## Writing an object -/

/-- `write_object_to_pool`.  Only the SSH backend looks at its key. -/
def writeObjectToPool (attempt : Attempt) : Writer CopyRecord :=
  if attempt.partialPath.isSome && !validateKey attempt.key then raise (.unsafeKey attempt.key)
  else
    chain (World.apply sha256) (leave (.write attempt)) fun _ =>
      match attempt.fault with
      | none =>
        done ⟨sha256 attempt.content, attempt.locator sha256, sha256 attempt.content,
          attempt.content.length⟩
      | some _ => raise .backend

/-! ## Sealing -/

/-- The name of a file in its directory, as `Path.name` gives it. -/
def Plain (name : Text) : Prop := name ≠ [] ∧ '/' ∉ name

instance (name : Text) : Decidable (Plain name) := inferInstanceAs (Decidable (_ ∧ _))

/-- A local file. -/
structure SourceFile where
  name : Text
  content : Bytes
  plain : Plain name

/-- A key epoch with the domain of its id. -/
structure KeyEpoch where
  domain : String
  keyId : Text
  deriving DecidableEq

/-- An entry of `files` in a build report. -/
structure ReportFile where
  entryType : String
  path : Text
  fileSha256 : Option Digest

/-- The report of `rem archive build`.  A digest is `none` where it is missing or not
the hexadecimal text of one. -/
structure BuildReport where
  representation : Option String
  chunkSize : Option Nat
  files : Option (List ReportFile)
  storedDigest : Option Digest
  recipientEpochs : Option (List Text)

/-- What sealing and writing for one target meet: the recipients of the key registry,
the object that `rem` builds with its report, and a fault of the transfer. -/
structure Answers where
  recipients : Option (List Text)
  build : Option (Bytes × BuildReport)
  fault : Option Fault

/-- `SealResult`. -/
structure SealResult where
  sealedName : Text
  content : Bytes
  storedDigest : Digest
  plaintextDigest : Digest
  representation : Representation
  recipientEpochs : List Text

/-- `_REM_REPRESENTATIONS`. -/
def remRepresentation : String → Option Representation
  | "plaintext" => some .remObjectV1
  | "encrypted" => some .remEncryptV1
  | _ => none

/-- `REM_OBJECT_CHUNK_SIZE`. -/
def remObjectChunkSize : Nat := 262144

section

variable (report : BuildReport) (source : SourceFile) (representation : Representation)
  (keyEpoch : Option KeyEpoch) (answers : Answers)

/-- `_assert_report_representation`. -/
def assertReportRepresentation (expected : Representation) :
    Except WriterError Unit :=
  if report.representation.bind remRepresentation ≠ some expected then
    .error .reportRepresentation
  else if report.chunkSize ≠ some remObjectChunkSize then .error .reportChunkSize
  else .ok ()

/-- `_single_member_digest_from_build_report`. -/
def singleMemberDigestFromBuildReport (basename : Text) :
    Except WriterError Digest :=
  match report.files with
  | none => .error (.reportFiles basename)
  | some files =>
    match files.filter fun file => file.entryType = "regular" ∧ file.path = basename with
    | [file] =>
      match file.fileSha256 with
      | some digest => .ok digest
      | none => .error (.reportFiles basename)
    | _ => .error (.reportFiles basename)

/-- The recipients that a build is asked for. -/
def sealRecipients : Except WriterError (List Text) :=
  match representation, keyEpoch, answers.recipients with
  | .remEncryptV1, some _, some [hot, recovery] => .ok [hot, recovery]
  | .remEncryptV1, _, _ => .error .recipients
  | _, _, _ => .ok []

/-- The checks of a report, and the recipients that it names. -/
def checkReport (recipients : List Text) (content : Bytes) (report : BuildReport) :
    Except WriterError (List Text) :=
  (assertReportRepresentation report representation).bind fun _ =>
    (singleMemberDigestFromBuildReport report source.name).bind fun fileDigest =>
      if fileDigest ≠ sha256 source.content then .error .fileDigest
      else if report.storedDigest ≠ some (sha256 content) then .error .storedDigest
      else if representation = .remEncryptV1 then
        if report.recipientEpochs = some recipients then .ok recipients
        else .error .recipientEpochs
      else .ok []

/-- `RemObjectCliSealer.seal`: a sealed object always has the same file name. -/
def sealFile : Except WriterError SealResult :=
  if representation = .rawBytes ∨ representation = .d2tarRaw then
    .ok ⟨source.name, source.content, sha256 source.content, sha256 source.content,
      representation, []⟩
  else
    (sealRecipients representation keyEpoch answers).bind fun recipients =>
      match answers.build with
      | none => .error .build
      | some (content, report) =>
        (checkReport sha256 source representation recipients content report).map
          fun recipientEpochs =>
            ⟨"sealed.rem-object".toList, content, sha256 content,
              sha256 source.content, representation, recipientEpochs⟩

end

/-! ## Assets -/

/-- `PoolTarget`, as far as the writers read it. -/
structure PoolTarget where
  poolId : Text
  backendId : Nat
  representation : Representation
  keyEpoch : Option KeyEpoch
  deriving DecidableEq

/-- A target with its backend and what the write for it meets. -/
structure Placement where
  store : Store
  target : PoolTarget
  answers : Answers

section

variable (copy : Copy) (bundleId : Text) (asset : Digest) (poolId : Text) (source : SourceFile)
  (placement : Placement) (target : PoolTarget)

/-- `_epoch_for`. -/
def epochFor : Except WriterError (Option KeyEpoch) :=
  if target.representation ≠ .remEncryptV1 then .ok none
  else
    match target.keyEpoch with
    | none => .error (.missingKeyEpoch target.poolId)
    | some epoch =>
      if epoch.domain = "archive" then .ok (some epoch)
      else .error (.keyEpochDomain target.poolId)

/-- `_assert_copy_integrity`. -/
def assertCopyIntegrity (record : CopyRecord) (result : SealResult)
    (target : PoolTarget) : Except WriterError Unit :=
  if result.representation = .rawBytes then
    if record.logicalId = asset ∧ record.integrityHash = asset then .ok ()
    else .error (.copyIntegrity target.poolId)
  else if result.plaintextDigest ≠ asset then .error (.copyIntegrity target.poolId)
  else if record.integrityHash = result.storedDigest then .ok ()
  else .error (.copyIntegrity target.poolId)

/-- `_assert_copy_matches_pool`. -/
def assertCopyMatchesPool : Except WriterError Unit :=
  if copy.representation = target.representation then .ok ()
  else .error (.poolRepresentation target.poolId)

/-- Return what a check gives, or raise. -/
def check {Value : Type} : Except WriterError Value → Writer Value
  | .ok value => done value
  | .error error => raise error

/-- The copy at a locator of a backend. -/
def copyAt (world : World) (backendId : Nat) (locator : Locator) : Option Copy :=
  world.copies.find? fun copy => copy.backendId = backendId ∧ copy.nativeLocator = locator

/-- `add_copy`.  A new copy gets a verification job. -/
def addCopy : Writer Copy :=
  reading fun world =>
    if !world.assets.contains asset then raise .unknownLogicalAsset
    else
      match copyAt world copy.backendId copy.nativeLocator with
      | some existing =>
        if existing.poolId ≠ some poolId then raise .copyPoolMismatch
        else done existing
      | none => chain (World.apply sha256) (leave (.record copy)) fun _ => done copy

/-- The body of the loops of `replicate_asset` and `repair`. -/
def writeAssetCopy : Writer Copy :=
  let target := placement.target
  chain (World.apply sha256) (check ((epochFor target).bind fun epoch =>
      sealFile sha256 source target.representation epoch placement.answers))
    fun result =>
      chain (World.apply sha256) (writeObjectToPool sha256
          ⟨placement.store, target.poolId, result.sealedName, result.content,
            placement.answers.fault⟩) fun record =>
        chain (World.apply sha256) (check (assertCopyIntegrity asset record result target)) fun _ =>
            chain (World.apply sha256) (addCopy sha256
                { owner := .asset asset
                  backendId := target.backendId
                  poolId := some target.poolId
                  nativeLocator := record.nativeLocator
                  integrityHash := result.storedDigest
                  representation := target.representation
                  healthy := true
                  deleted := false
                  measured := false
                  pending := true } asset target.poolId) fun copy =>
              chain (World.apply sha256) (check (assertCopyMatchesPool copy target))
                fun _ => done copy

/-- A healthy copy of an asset in a pool; `direct_copies` with the pool of a target. -/
def inPool (copy : Copy) : Bool :=
  copy.owner = .asset asset && copy.healthy && !copy.deleted &&
    copy.backendId = target.backendId && copy.poolId = some target.poolId

/-- `_healthy_copies_by_pool`: the first healthy copy of every target. -/
def healthyCopiesByPool (copies : List Copy) (asset : Digest) :
    List PoolTarget → Except WriterError (List (PoolTarget × Copy))
  | [] => .ok []
  | target :: rest =>
    (healthyCopiesByPool copies asset rest).bind fun others =>
      match copies.find? (inPool asset target) with
      | none => .ok others
      | some copy => (assertCopyMatchesPool copy target).map fun _ => (target, copy) :: others

/-- The loop of `replicate_asset`: a target with a healthy copy is not written.  That
such a copy fits its pool has been checked before the loop. -/
def replicateTargets (asset : Digest) (source : SourceFile)
    (existing : List (PoolTarget × Copy)) : List Placement → Writer (List Copy)
  | [] => done []
  | placement :: rest =>
    chain (World.apply sha256) (match existing.lookup placement.target with
      | some copy => done copy
      | none => writeAssetCopy sha256 asset source placement) fun copy =>
        chain (World.apply sha256) (replicateTargets asset source existing rest)
          fun copies => done (copy :: copies)

/-- `replicate_asset`. -/
def replicateAsset (placements : List Placement) : Writer (List Copy) :=
  if placements = [] then raise .policyMissing
  else
    reading fun world =>
      chain (World.apply sha256) (check (healthyCopiesByPool world.copies asset
          (placements.map Placement.target))) fun existing =>
        replicateTargets sha256 asset source existing placements

/-- A copy that counts for `replication_status`: measured, or with a live job. -/
def countsFor (copy : Copy) : Bool := inPool asset target copy && (copy.measured || copy.pending)

/-- `replication_status`: the targets that are missing.  The medium of a copy on disk
or in a cloud is its backend, and two targets may not share one. -/
def replicationStatus (copies : List Copy) (asset : Digest) (wanted : List PoolTarget) :
    Except WriterError (List PoolTarget) :=
  let held := wanted.filter fun target => copies.any (countsFor asset target)
  if wanted = [] then .error .policyMissing
  else
    match wanted.find? fun target => copies.any fun copy =>
        countsFor asset target copy && copy.representation ≠ target.representation with
    | some target => .error (.poolRepresentation target.poolId)
    | none =>
      if ¬ (held.map PoolTarget.backendId).Nodup then .error .sharedMedia
      else .ok (wanted.filter fun target => target ∉ held)

/-- The loop of `repair`. -/
def repairTargets (asset : Digest) (source : SourceFile) (missing : List PoolTarget) :
    List Placement → Writer (List Copy)
  | [] => done []
  | placement :: rest =>
    if placement.target ∉ missing then repairTargets asset source missing rest
    else
      chain (World.apply sha256) (writeAssetCopy sha256 asset source placement) fun copy =>
          chain (World.apply sha256) (repairTargets asset source missing rest)
            fun copies => done (copy :: copies)

/-- `repair`; `wanted` has the pools that do not accept writes too. -/
def repair (wanted : List PoolTarget) (placements : List Placement) : Writer (List Copy) :=
  reading fun world =>
    chain (World.apply sha256) (check (replicationStatus world.copies asset wanted)) fun missing =>
        if missing = [] then done []
        else if placements = [] then raise .policyMissing
        else repairTargets sha256 asset source missing placements

/-! ## Bundles -/

/-- `Representation.value`. -/
def representationValue : Representation → Text
  | .rawBytes => "raw-bytes".toList
  | .remObjectV1 => "rem-object-v1".toList
  | .remEncryptV1 => "rem-encrypt-v1".toList
  | .d2tarRaw => "d2tar-raw".toList

/-- The path below the working directory of the artifact that `_build_for_target`
builds. -/
def artifactPath (representation : Representation) : Text :=
  if representation = .d2tarRaw then bundleId ++ "-d2tar-raw.tar".toList
  else bundleId ++ '-' :: representationValue representation ++ ".rem-object".toList

/-- `Path.name`. -/
def baseName (path : Text) : Text := (path.reverse.takeWhile (· ≠ '/')).reverse

/-- The file name of the artifact of a bundle. -/
def artifactName (representation : Representation) : Text :=
  baseName (artifactPath bundleId representation)

/-- `BuildArtifact`, with the bytes of its file. -/
structure BuildArtifact where
  content : Bytes
  storedDigest : Digest

/-- `add_bundle_copy`. -/
def addBundleCopy : Writer Copy :=
  reading fun world =>
    if !world.bundles.contains bundleId then raise .unknownBundle
    else
      match copyAt world copy.backendId copy.nativeLocator with
      | some existing =>
        if existing.owner ≠ .bundle bundleId ∨ existing.poolId ≠ some poolId then
          raise .copyPoolMismatch
        else done existing
      | none => chain (World.apply sha256) (leave (.record copy)) fun _ => done copy

/-- `write_bundle_copy_for_pool`, with the answer of the verification. -/
def writeBundleCopyForPool (artifact : BuildArtifact) (verified : Bool) : Writer Copy :=
  let target := placement.target
  chain (World.apply sha256) (writeObjectToPool sha256
      ⟨placement.store, target.poolId, artifactName bundleId target.representation,
        artifact.content, placement.answers.fault⟩) fun record =>
    chain (World.apply sha256) (addBundleCopy sha256
        { owner := .bundle bundleId
          backendId := target.backendId
          poolId := some target.poolId
          nativeLocator := record.nativeLocator
          integrityHash := artifact.storedDigest
          representation := target.representation
          healthy := true
          deleted := false
          measured := verified
          pending := false } bundleId target.poolId) fun copy =>
      if verified then done copy
      else
        chain (World.apply sha256) (leave (.suspect copy.backendId copy.nativeLocator))
          fun _ => raise .verify

end

/-! ## Sequences of calls -/

/-- A call of a writer, or a change of the catalog by others. -/
inductive Call
  | replicateAsset (asset : Digest) (source : SourceFile) (placements : List Placement)
  | repair (asset : Digest) (source : SourceFile) (wanted : List PoolTarget)
      (placements : List Placement)
  | fanOut (bundleId : Text) (placement : Placement) (artifact : BuildArtifact) (verified : Bool)
  | catalog (copies : List Copy) (assets : List Digest) (bundles : List Text)

section

variable (world : World) (calls : List Call)

/-- What a call leaves, whether it returns or raises. -/
def Call.effects : Call → List Effect
  | .replicateAsset asset source placements =>
    (Replication.replicateAsset sha256 asset source placements world).1
  | .repair asset source wanted placements =>
    (Replication.repair sha256 asset source wanted placements world).1
  | .fanOut bundleId placement artifact verified =>
    (writeBundleCopyForPool sha256 bundleId placement artifact verified world).1
  | .catalog copies assets bundles => [.catalog copies assets bundles]

/-- What a sequence of calls leaves. -/
def perform : World → List Call → List Effect
  | _, [] => []
  | world, call :: rest =>
    let effects := call.effects sha256 world
    effects ++ perform (effects.foldl (World.apply sha256) world) rest

/-- The attempts of a sequence of calls, in their order. -/
def attempts : List Attempt := (perform sha256 world calls).filterMap Effect.attempt

/-- The world after a sequence of calls. -/
def after : World := (perform sha256 world calls).foldl (World.apply sha256) world

/-! ## What a locator is for -/

/-- A locator names bytes with the digest that it records. -/
def Intact (written : Store × Locator) : Prop :=
  ∃ content, world.objects (written.1.address written.2) = some content ∧
    sha256 content = written.2.sha256

end

/-- Every locator that a write has returned stays intact. -/
def LocatorLaw : Prop :=
  ∀ (sha256 : Bytes → Digest) (world : World) (calls : List Call),
    ∀ attempt ∈ attempts sha256 world calls, ∀ written,
      attempt.returned sha256 = some written → Intact sha256 (after sha256 world calls) written

/-! ## The files that the calls hand over -/

/-- The part of a key that a pool or a prefix gives. -/
def folderPart (text : Text) : Text :=
  if stripSlashes text = [] then [] else stripSlashes text ++ ['/']

section

variable (store : Store) (pool : Text)

/-- The folder of a pool on a backend: what the addresses of its objects begin with. -/
def Store.folder : Address :=
  match store with
  | .sshDisk host root => .file host (remotePath root (folderPart pool))
  | .s3 endpoint bucket keyPrefix =>
    .object endpoint bucket (folderPart keyPrefix ++ folderPart keyPrefix ++ folderPart pool)

/-- Whether a backend transfers to a partial file first. -/
def Store.stages : Bool :=
  match store with
  | .sshDisk .. => true
  | .s3 .. => false

variable (source : SourceFile) (placement : Placement)

/-- The file of an asset for one target: the source under its own name, or what `rem`
builds of it under the name of every sealed object. -/
def Placement.file : Option Attempt :=
  let target := placement.target
  let fault := placement.answers.fault
  if target.representation = .rawBytes ∨ target.representation = .d2tarRaw then
    some ⟨placement.store, target.poolId, source.name, source.content, fault⟩
  else
    placement.answers.build.map fun built =>
      ⟨placement.store, target.poolId, "sealed.rem-object".toList, built.1, fault⟩

end

/-- The files that a call hands over to backends: those of the targets that lack a
copy when it begins. -/
def Call.files (world : World) : Call → List Attempt
  | .replicateAsset asset source placements =>
    match healthyCopiesByPool world.copies asset (placements.map Placement.target) with
    | .error _ => []
    | .ok existing =>
      (placements.filter fun placement => (existing.lookup placement.target).isNone).filterMap
        (Placement.file source)
  | .repair asset source wanted placements =>
    match replicationStatus world.copies asset wanted with
    | .error _ => []
    | .ok missing =>
      (placements.filter fun placement => placement.target ∈ missing).filterMap
        (Placement.file source)
  | .fanOut bundleId placement artifact _ =>
    [⟨placement.store, placement.target.poolId,
      artifactName bundleId placement.target.representation, artifact.content,
      placement.answers.fault⟩]
  | .catalog .. => []

/-- The files of a sequence of calls, in their order. -/
def files : World → List Call → List Attempt
  | _, [] => []
  | world, call :: rest =>
    call.files world ++ files ((call.effects sha256 world).foldl (World.apply sha256) world) rest

/-- A later file of the same folder has another name than an earlier one, or the same
digest, and the earlier one is not named like its partial file. -/
structure Apart (earlier later : Attempt) : Prop where
  name : later.store.folder later.pool = earlier.store.folder earlier.pool →
    later.name = earlier.name → sha256 later.content = sha256 earlier.content
  partialName : later.store.stages = true →
    later.store.folder later.pool = earlier.store.folder earlier.pool →
      later.name ++ ".partial".toList ≠ earlier.name

end Replication
end Sutradhara
