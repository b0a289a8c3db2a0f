import Mathlib.Data.List.Sort
import Sutradhara.Foundation.Json
import Sutradhara.Foundation.Table

/-!
# Bundles and their members

A bundle accumulates member rows under unique paths, is claimed for a flush, and
is sealed.  This module holds the rows, the names a member may take, and the
single statements in which appends, flushes and sweeps touch the catalog.  Digests
are kept as the hexadecimal text that the naming ladder works on.
-/

namespace Sutradhara
namespace Archive

open Foundation
open Foundation.Json

/-- Status of a bundle.  The first is the status named open. -/
inductive BundleStatus
  | opened
  | flushing
  | held
  | sealed
  | void
  deriving DecidableEq

/-- A row of the bundle table. -/
structure Bundle where
  id : String
  bundleGroup : String
  status : BundleStatus
  totalBytes : Int
  memberCount : Int
  targetBytes : Nat
  maxAgeSeconds : Nat
  archiveId : Option String
  claimedBy : Option String
  openedAt : Nat
  flushedAt : Option Nat
  sealedAt : Option Nat
  heldAt : Option Nat

/-- A row of the member table. -/
structure BundleMember where
  id : Nat
  bundleId : String
  logicalAssetHash : String
  artifactclass : String
  memberPath : String
  sourcePath : Option String
  sizeBytes : Nat
  fileSha256 : String
  sourceMetadata : Option Dict

/-- What a row says about its member.  The metadata of a row may be folded into
later and does not belong to it. -/
def BundleMember.identity (member : BundleMember) : BundleMember :=
  { member with sourceMetadata := none }

/-- A successful seal with the rows whose build it closed. -/
structure Seal where
  bundleId : String
  members : List BundleMember

/-- An inserted row with the status its bundle had at the insert. -/
structure Admission where
  memberId : Nat
  bundleId : String
  status : BundleStatus

/-- The tables, and the history of seals and inserts. -/
structure Store where
  bundles : Table Bundle.id
  members : Table BundleMember.id
  assets : List String
  seals : List Seal
  admissions : List Admission

/-! ## Names -/

/-- The parts before and after the last occurrence of a character. -/
def splitLast (mark : Char) (text : List Char) : Option (List Char × List Char) :=
  match text with
  | [] => none
  | char :: rest =>
    match splitLast mark rest with
    | some (before, after) => some (char :: before, after)
    | none => if char = mark then some ([], rest) else none

/-- The parts before and after the first occurrence of a character. -/
def splitFirst (mark : Char) (text : List Char) : Option (List Char × List Char) :=
  match text with
  | [] => none
  | char :: rest =>
    if char = mark then some ([], rest)
    else (splitFirst mark rest).map fun parts => (char :: parts.1, parts.2)

/-- Insert a tag after the first-dot stem of a file name. -/
def tagBase (base tag : List Char) : List Char :=
  match splitFirst '.' base with
  | some (stem, rest) => stem ++ '.' :: tag ++ '.' :: rest
  | none => base ++ '.' :: tag

/-- `tag_member_path`. -/
def tagMemberPath (memberPath tag : String) : String :=
  String.ofList (match splitLast '/' memberPath.toList with
    | some (head, base) => head ++ '/' :: tagBase base tag.toList
    | none => tagBase memberPath.toList tag.toList)

/-- A character that the slug keeps. -/
def isSlugChar (char : Char) : Bool :=
  ('A' ≤ char && char ≤ 'Z') || ('a' ≤ char && char ≤ 'z') ||
    ('0' ≤ char && char ≤ '9') || char = '_' || char = '-'

/-- Replace every run of other characters by one hyphen. -/
def slugChars : Bool → List Char → List Char
  | _, [] => []
  | inRun, char :: rest =>
    if isSlugChar char then char :: slugChars false rest
    else if inRun then slugChars true rest
    else '-' :: slugChars true rest

section

variable (sha256Hex : String → String) (artifactclass : String)

/-- `_class_slug`. -/
def classSlug : String :=
  match slugChars false artifactclass.toList with
  | [] => "class"
  | chars => String.ofList chars

/-- `_NAME_LADDER_PREFIXES`. -/
def nameLadderPrefixes : List Nat := [10, 20, 32, 48, 64]

/-- `_class_seed`, over the hexadecimal digest of a text. -/
def classSeed : String := String.ofList ((sha256Hex artifactclass).toList.take 12)

/-- `_name_ladder`. -/
def nameLadder (requested digest artifactclass : String) : List String :=
  requested :: (nameLadderPrefixes.map fun length =>
      tagMemberPath requested (String.ofList (digest.toList.take length))) ++
    [tagMemberPath requested
      (digest ++ "." ++ classSlug artifactclass ++ "-" ++ classSeed sha256Hex artifactclass)]

end

/-! ## Source metadata -/

/-- `SUBMISSION_LINKS_KEY`. -/
def submissionLinksKey : String := "submission_links"

/-- The pair an entry of the links names.  A Boolean counts as a number. -/
def submissionLink : Value → Option (String × Int)
  | .obj entry =>
    match Dict.get entry "submission_id", Dict.get entry "submission_member_id" with
    | .str submissionId, .scalar (.int memberId) => some (submissionId, memberId)
    | .str submissionId, .scalar (.bool flag) => some (submissionId, if flag then 1 else 0)
    | _, _ => none
  | _ => none

/-- The links of a value stored under the key. -/
def linksOf : Value → List (String × Int)
  | .arr entries => entries.filterMap submissionLink
  | _ => []

/-- `submission_links`. -/
def submissionLinks (metadata : Dict) : List (String × Int) :=
  linksOf (Dict.get metadata submissionLinksKey)

/-- A link as it is stored. -/
def linkValue (link : String × Int) : Value :=
  .obj [("submission_id", .str link.1), ("submission_member_id", .scalar (.int link.2))]

/-- Put a value under a key, in the place the key has or at the end. -/
def assign (key : String) (value : Value) : Dict → Dict
  | [] => [(key, value)]
  | (name, old) :: rest =>
    if name = key then (name, value) :: rest
    else (name, old) :: assign key value rest

/-- Fold one incoming member into the metadata.  `none` leaves it as it is. -/
def foldMetadata (merged : Dict) (key : String) (value : Value) : Option Dict :=
  if key = submissionLinksKey then
    let existing := submissionLinks merged
    let added := (linksOf value).filter fun link => !existing.contains link
    if added.isEmpty then none
    else some (assign key (.arr ((existing ++ added).map linkValue)) merged)
  else if merged.any fun entry => entry.1 = key then none
  else some (assign key value merged)

/-- `merge_member_source_metadata`: the metadata to store, if it changed. -/
def mergeMemberSourceMetadata (stored incoming : Option Dict) : Option Dict :=
  let fold := fun (state : Dict × Bool) (entry : String × Value) =>
    match foldMetadata state.1 entry.1 entry.2 with
    | none => state
    | some merged => (merged, true)
  let (merged, changed) := (incoming.getD []).foldl fold (stored.getD [], false)
  if changed then some merged else none

/-! ## Statements -/

namespace Store

variable (store : Store) (row : BundleMember) (memberId : Nat) (bundleId token : String) (now : Nat)

/-- Status of the bundle with an id. -/
def status? : Option BundleStatus := (store.bundles.find? bundleId).map Bundle.status

/-- The member rows of a bundle. -/
def rowsOf : List BundleMember := store.members.rows.filter fun row => row.bundleId = bundleId

/-- The row with a path in a bundle. -/
def memberAt (memberPath : String) : Option BundleMember :=
  store.members.rows.find? fun row => row.bundleId = bundleId ∧ row.memberPath = memberPath

/-- `_member_rows_for_flush`: the rows in the order of their paths. -/
def memberRowsForFlush : List BundleMember :=
  (store.rowsOf bundleId).insertionSort fun first second => first.memberPath ≤ second.memberPath

/-- Update the bundle with an id. -/
def updateBundle (change : Rewrite Bundle.id) : Store :=
  { store with bundles := store.bundles.update bundleId change }

/-- Update the bundle with an id if its row passes a guard.  `none` is a row
count other than one. -/
def updateBundleWhere (guard : Bundle → Bool) (change : Rewrite Bundle.id) : Option Store :=
  match store.bundles.find? bundleId with
  | none => none
  | some bundle => if guard bundle then some (store.updateBundle bundleId change) else none

/-- The guarded update of `claim_bundle_for_flush`. -/
def claimBundleForFlush : Option Store :=
  store.updateBundleWhere bundleId (fun bundle => bundle.status = .opened) ⟨fun bundle =>
      { bundle with
        status := .flushing
        claimedBy := some token
        flushedAt := some now }, fun _ => rfl⟩

/-- The assignment of an archive id after the claim. -/
def assignArchiveId : Store :=
  store.updateBundle bundleId
    ⟨fun bundle => { bundle with archiveId := some ("archive-" ++ bundleId) }, fun _ => rfl⟩

/-- The guarded update of `close_bundle`, which the history remembers together
with the rows that were built. -/
def closeBundle (built : List BundleMember) : Option Store :=
  (store.updateBundleWhere bundleId
    (fun bundle => bundle.status = .flushing ∧ bundle.claimedBy = some token)
    ⟨fun bundle =>
      { bundle with status := .sealed, sealedAt := some now },
      fun _ => rfl⟩).map fun closed =>
        { closed with seals := closed.seals ++ [⟨bundleId, built⟩] }

/-- The guarded update of `reap_stuck_flushing`. -/
def reapStuckFlushing : Option Store :=
  store.updateBundleWhere bundleId (fun bundle => bundle.status = .flushing)
    ⟨fun bundle => { bundle with status := .opened, claimedBy := none }, fun _ => rfl⟩

/-- The guarded update of `void_seal_orphans`. -/
def voidSealOrphan : Option Store :=
  store.updateBundleWhere bundleId (fun bundle => bundle.status = .opened)
    ⟨fun bundle => { bundle with status := .void, sealedAt := some now }, fun _ => rfl⟩

/-- Move the counters of a bundle. -/
def bumpCounters (bytes count : Int) : Store :=
  store.updateBundle bundleId ⟨fun bundle =>
      { bundle with
        totalBytes := bundle.totalBytes + bytes
        memberCount := bundle.memberCount + count }, fun _ => rfl⟩

/-- Insert a bundle under an unused id. -/
def insertBundle (bundle : Bundle) : Option Store :=
  if absent : store.bundles.find? bundle.id = none then
    some { store with bundles := store.bundles.insert bundle absent }
  else none

/-- The constraints that an inserted member row has to meet: its bundle and its
asset exist, and its path is free. -/
def admissible : Bool :=
  (store.status? row.bundleId).isSome &&
    store.assets.contains row.logicalAssetHash &&
    (store.memberAt row.bundleId row.memberPath).isNone

/-- Insert a member row under an unused id.  The status of its bundle is not
looked at; the history remembers it. -/
def insertMember : Option Store :=
  if absent : store.members.find? row.id = none then
    match store.status? row.bundleId with
    | none => none
    | some status =>
      some { store with
        members := store.members.insert row absent
        admissions := store.admissions ++ [⟨row.id, row.bundleId, status⟩] }
  else none

/-- Replace the metadata of a member row. -/
def updateMetadata (metadata : Dict) : Store :=
  { store with
    members := store.members.update memberId
      ⟨fun row => { row with sourceMetadata := some metadata }, fun _ => rfl⟩ }

/-- Move a member row into another bundle. -/
def moveMember : Store :=
  { store with
    members := store.members.update memberId
      ⟨fun row => { row with bundleId := bundleId }, fun _ => rfl⟩ }

end Store

end Archive
end Sutradhara
