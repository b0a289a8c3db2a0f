import Sutradhara.Archive.Catalog
import Sutradhara.Foundation.Transaction

/-!
# Appends, flushes and sweeps as sessions

Each operation is a session that issues its statements one at a time.  The
answers of its environment, such as the clock, new ids, the result of a build and
the liveness of a process, come with the statement.  A commit or a rollback may
follow every statement; a rolled back session has ended.
-/

namespace Sutradhara
namespace Archive

open Foundation
open Foundation.Json
open Foundation.Transaction

/-- What an operation raises. -/
inductive Failure
  | bundleNotOpen (bundleId : String)
  | unknownBundleAsset (logicalAssetHash : String)
  | memberNaming (requested bundleId artifactclass : String)
  | memberNotAdded (memberPath bundleId : String)
  | flushNotOpen (bundleId : String)
  | flushEmpty (bundleId : String)
  | claimLost (bundleId : String)
  | allQuarantined (bundleId : String)
  | quarantineBound (bundleId : String)
  | buildFailed (bundleId : String)
  | sealLost (bundleId token : String)
  | memberMoveConflict (memberId : Nat)

/-- The arguments of `add_bundle_member`. -/
structure Append where
  bundleId : String
  artifactclass : String
  logicalAssetHash : String
  memberPath : String
  sizeBytes : Nat
  fileSha256 : String
  sourcePath : Option String
  sourceMetadata : Option Dict

/-- The row that an append inserts. -/
def Append.candidate (request : Append) (id : Nat) (memberPath : String) : BundleMember where
  id := id
  bundleId := request.bundleId
  logicalAssetHash := request.logicalAssetHash
  artifactclass := request.artifactclass
  memberPath := memberPath
  sourcePath := request.sourcePath
  sizeBytes := request.sizeBytes
  fileSha256 := request.fileSha256
  sourceMetadata := request.sourceMetadata

/-- Where an append stands. -/
inductive Appending
  | readStatus
  | requireAsset
  | resolve (attempt : Nat) (rungs : List String)
  | merge (existing : BundleMember)
  | insert (attempt : Nat) (finalPath : String)
  | bump (member : BundleMember)
  | returned (member : BundleMember) (created : Bool)
  | raised (failure : Failure)

/-- The bundle and the process identity of a flush. -/
structure Flush where
  bundleId : String
  token : String

/-- How often a flush has retried, its bound, and its quarantine bundle. -/
structure Rounds where
  attempt : Nat
  maxAttempts : Option Nat
  quarantine : Option String

/-- Where a flush stands.  The bundle is the row as the flush read it. -/
inductive Flushing
  | read
  | claim (bundle : Bundle)
  | assignArchiveId (bundle : Bundle)
  | load (bundle : Bundle) (rounds : Rounds)
  | build (bundle : Bundle) (rounds : Rounds) (rows : List BundleMember)
  | mint (bundle : Bundle) (rounds : Rounds) (member : BundleMember)
  | move (bundle : Bundle) (rounds : Rounds) (member : BundleMember) (quarantine : String)
  | discount (bundle : Bundle) (rounds : Rounds) (member : BundleMember) (quarantine : String)
  | count (bundle : Bundle) (rounds : Rounds) (member : BundleMember) (quarantine : String)
  | close (rows : List BundleMember)
  | returned
  | raised (failure : Failure)

/-- Where a reaper pass stands: the stuck bundles with the tokens it read. -/
inductive Reaping
  | select
  | examine (stuck : List (String × Option String))
  | reap (bundleId : String) (stuck : List (String × Option String))
  | returned

/-- Where a void seal pass stands. -/
inductive Voiding
  | select
  | void (orphans : List String)
  | returned

/-- A session. -/
inductive Session
  | append (request : Append) (place : Appending)
  | flush (request : Flush) (place : Flushing)
  | reap (place : Reaping)
  | void (place : Voiding)
  | stopped

/-- What the environment tells a statement. -/
inductive Answer
  | nothing
  | clock (now : Nat)
  | memberId (id : Nat)
  | bundleId (id : String) (now : Nat)
  | built
  | failing (index : Nat)
  | failed
  | live (alive : Bool)
  | fingerprints (groups : List String)

/-- The effect of a statement of one operation, with the local state of the
operation. -/
abbrev Statement (Place : Type) := Option (Effect Store Place)

/-- Put the local state of an operation into a session. -/
def Statement.within {Place : Type} (wrap : Place → Session)
    (statement : Statement Place) : Option (Effect Store Session) :=
  statement.map fun
    | .reads next => .reads (wrap next)
    | .writes store next => .writes store (wrap next)

/-- Go on at one place after a guarded update of one row, at another after one
that met no row. -/
def guarded {Place : Type} (store : Store) (updated : Option Store)
    (hit miss : Place) : Statement Place :=
  match updated with
  | some next => some (.writes next hit)
  | none => some (.writes store miss)

variable (request : Flush) (bundle : Bundle) (sha256Hex : String → String) (store : Store)

/-- `add_bundle_member`, with `_resolve_member_name` one rung at a time. -/
def addBundleMember (request : Append) (store : Store) :
    Appending → Answer → Statement Appending
  | .readStatus, .nothing =>
    match store.status? request.bundleId with
    | none => none
    | some .opened => some (.reads .requireAsset)
    | some _ => some (.reads (.raised (.bundleNotOpen request.bundleId)))
  | .requireAsset, .nothing =>
    if store.assets.contains request.logicalAssetHash then
      some (.reads (.resolve 0 (nameLadder sha256Hex request.memberPath
        request.fileSha256 request.artifactclass)))
    else some (.reads (.raised (.unknownBundleAsset request.logicalAssetHash)))
  | .resolve _ [], .nothing =>
    some (.reads (.raised (.memberNaming request.memberPath request.bundleId
      request.artifactclass)))
  | .resolve attempt (candidate :: rungs), .nothing =>
    match store.memberAt request.bundleId candidate with
    | none => some (.reads (.insert attempt candidate))
    | some row =>
      if row.artifactclass = request.artifactclass ∧
          row.logicalAssetHash = request.logicalAssetHash then
        some (.reads (.merge row))
      else some (.reads (.resolve attempt rungs))
  | .merge existing, .nothing =>
    match mergeMemberSourceMetadata existing.sourceMetadata request.sourceMetadata with
    | none => some (.reads (.returned existing false))
    | some merged =>
      some (.writes (store.updateMetadata existing.id merged)
        (.returned { existing with sourceMetadata := some merged } false))
  | .insert attempt finalPath, .memberId id =>
    let candidate := request.candidate id finalPath
    if store.admissible candidate then
      (store.insertMember candidate).map fun inserted => .writes inserted (.bump candidate)
    else if attempt = 0 then
      some (.writes store (.resolve 1 (nameLadder sha256Hex request.memberPath
        request.fileSha256 request.artifactclass)))
    else some (.writes store (.raised (.memberNotAdded request.memberPath request.bundleId)))
  | .bump member, .nothing =>
    some (.writes (store.bumpCounters request.bundleId request.sizeBytes 1) (.returned member true))
  | _, _ => none

/-- The bundle that `_quarantine_member` mints. -/
def quarantineBundle (id : String) (now : Nat) : Bundle where
  id := id
  bundleGroup := bundle.bundleGroup
  status := .held
  totalBytes := 0
  memberCount := 0
  targetBytes := bundle.targetBytes
  maxAgeSeconds := bundle.maxAgeSeconds
  archiveId := some ("archive-" ++ id)
  claimedBy := none
  openedAt := now
  flushedAt := none
  sealedAt := none
  heldAt := some now

/-- The retry after a build failure that names a member: quarantine it, unless
the bound of the claimed snapshot is exceeded. -/
def retry (rounds : Rounds) (member : BundleMember) : Flushing :=
  let next := { rounds with attempt := rounds.attempt + 1 }
  if rounds.maxAttempts.any fun bound => bound < next.attempt then
    .raised (.quarantineBound request.bundleId)
  else
    match rounds.quarantine with
    | none => .mint bundle next member
    | some quarantine => .move bundle next member quarantine

/-- `flush_bundle` with `claim_bundle_for_flush`, `_quarantine_member` and
`close_bundle`.  Whatever else may raise before the seal is an answer of the
build or of the first read. -/
def flushBundle : Flushing → Answer → Statement Flushing
  | .read, .nothing =>
    (store.bundles.find? request.bundleId).map fun bundle =>
      if bundle.status ≠ .opened then .reads (.raised (.flushNotOpen request.bundleId))
      else if bundle.memberCount = 0 then .reads (.raised (.flushEmpty request.bundleId))
      else .reads (.claim bundle)
  | .read, .failed => some (.reads (.raised (.buildFailed request.bundleId)))
  | .claim bundle, .clock now =>
    guarded store (store.claimBundleForFlush request.bundleId request.token now)
      (match bundle.archiveId with
      | none => .assignArchiveId bundle
      | some _ => .load bundle ⟨0, none, none⟩)
      (.raised (.claimLost request.bundleId))
  | .assignArchiveId bundle, .nothing =>
    some (.writes (store.assignArchiveId request.bundleId) (.load bundle ⟨0, none, none⟩))
  | .load bundle rounds, .nothing =>
    let rows := store.memberRowsForFlush request.bundleId
    if rows.isEmpty then some (.reads (.raised (.allQuarantined request.bundleId)))
    else
      some (.reads (.build bundle
        { rounds with maxAttempts := some (rounds.maxAttempts.getD rows.length) } rows))
  | .build _ _ rows, .built => some (.reads (.close rows))
  | .build bundle rounds rows, .failing index =>
    (rows[index]?).map fun member => .reads (retry request bundle rounds member)
  | .build _ _ _, .failed => some (.reads (.raised (.buildFailed request.bundleId)))
  | .mint bundle rounds member, .bundleId id now =>
    (store.insertBundle (quarantineBundle bundle id now)).map fun minted =>
      .writes minted (.move bundle { rounds with quarantine := some id } member id)
  | .move bundle rounds member quarantine, .nothing =>
    if (store.memberAt quarantine member.memberPath).isNone then
      some (.writes (store.moveMember member.id quarantine)
        (.discount bundle rounds member quarantine))
    else some (.writes store (.raised (.memberMoveConflict member.id)))
  | .discount bundle rounds member quarantine, .nothing =>
    some (.writes (store.bumpCounters request.bundleId (-member.sizeBytes) (-1))
      (.count bundle rounds member quarantine))
  | .count bundle rounds member quarantine, .nothing =>
    some (.writes (store.bumpCounters quarantine member.sizeBytes 1) (.load bundle rounds))
  | .close rows, .clock now =>
    guarded store (store.closeBundle request.bundleId request.token now rows)
      .returned (.raised (.sealLost request.bundleId request.token))
  | _, _ => none

/-- `reap_stuck_flushing`.  A claim without a token is never live. -/
def reapStuckFlushing (store : Store) : Reaping → Answer → Statement Reaping
  | .select, .nothing =>
    some (.reads (.examine ((store.bundles.rows.filter fun bundle =>
      bundle.status = .flushing).map fun bundle => (bundle.id, bundle.claimedBy))))
  | .examine [], .nothing => some (.reads .returned)
  | .examine ((bundleId, token) :: stuck), .live alive =>
    if alive && token.any (· ≠ "") then some (.reads (.examine stuck))
    else some (.reads (.reap bundleId stuck))
  | .reap bundleId stuck, .nothing =>
    guarded store (store.reapStuckFlushing bundleId) (.examine stuck) (.examine stuck)
  | _, _ => none

/-- `void_seal_orphans`. -/
def voidSealOrphans : Voiding → Answer → Statement Voiding
  | .select, .fingerprints groups =>
    some (.reads (.void ((store.bundles.rows.filter fun bundle =>
      bundle.status = .opened ∧ bundle.archiveId = none ∧
        bundle.memberCount = 0 ∧ bundle.bundleGroup ∉ groups).map Bundle.id)))
  | .void [], .nothing => some (.reads .returned)
  | .void (bundleId :: orphans), .clock now =>
    guarded store (store.voidSealOrphan bundleId now) (.void orphans) (.void orphans)
  | _, _ => none

/-- One statement of a session. -/
def statement :
    Session → Answer → Option (Effect Store Session)
  | .append request place, answer =>
    (addBundleMember sha256Hex request store place answer).within (.append request)
  | .flush request place, answer =>
    (flushBundle request store place answer).within (.flush request)
  | .reap place, answer => (reapStuckFlushing store place answer).within .reap
  | .void place, answer => (voidSealOrphans store place answer).within .void
  | .stopped, _ => none

/-- The places at which an operation begins. -/
def entering : Session → Bool
  | .append _ .readStatus => true
  | .flush _ .read => true
  | .reap .select => true
  | .void .select => true
  | _ => false

/-- The sessions over the bundle catalog. -/
def client : Client Store Session Answer where
  initial := entering
  statement := statement sha256Hex
  stopped := .stopped

end Archive
end Sutradhara
