import Mathlib.Data.Char
import Mathlib.Data.List.Lex
import Mathlib.Data.List.Sort
import Sutradhara.Receive.Manifest

/-!
# Validation of a bag

Validation hashes the files below `data/`, reads the manifest and compares the two
maps.  Both maps are keyed by canonical paths, and the comparison canonicalises
the keys once more: a path below a directory named `data` loses that directory,
and what then falls together is compared once.
-/

namespace Sutradhara
namespace Receive

open Foundation OrderedMap
open List hiding map

/-- What the entry of a payload directory is. -/
inductive EntryKind
  | directory
  | file (content : Bytes)
  | symlink
  | special
  deriving DecidableEq

/-- An entry below the payload root, by its names from there. -/
structure PayloadEntry where
  path : List FileName
  kind : EntryKind
  deriving DecidableEq

/-- What a path below the bag root leads to. -/
inductive Found
  | missing
  | notRegular
  | file (content : Bytes)
  deriving DecidableEq

/-- A bag directory. -/
structure Bag where
  /-- The entries below `data/` in the order in which they are visited, if that
  directory exists. -/
  payload : Option (List PayloadEntry)
  root : Text → Found

/-- Unicode tables, SHA-256 in lower case hexadecimal digits and the reader of the
package index. -/
structure Platform extends Unicode where
  sha256 : Bytes → Text
  packageIndexRead : Bytes → Bool
  sha256_lowercase : ∀ content, asciiLowercase (sha256 content) = sha256 content

variable (platform : Platform)

/-! ## Hashing the payload -/

/-- The suffixes of `PACKAGE_GLOBS`. -/
def packageSuffixes : List Text :=
  [".fcpbundle".toList, ".photoslibrary".toList, ".imovielibrary".toList, ".app".toList]

/-- `is_package_boundary`. -/
def isPackageBoundary (unicode : Unicode) (relpath : Text) : Bool :=
  let whole := unicode.lowercase relpath
  let name := ((whole.splitOn '/').getLast?).getD whole
  packageSuffixes.any fun pattern =>
    let ending := unicode.lowercase pattern
    ending.isSuffixOf name || ending.isSuffixOf whole

/-- `HashReceipt`. -/
structure HashReceipt where
  relpath : Text
  sha256Hex : Text
  sizeBytes : Nat

/-- Why a payload is not hashed. -/
inductive HashError
  | path (error : PathError)
  | symlink (relpath : Text)
  | packageDirectory (relpath : Text)
  | specialFile (relpath : Text)

/-- The receipt of an entry; a directory has none. -/
def payloadHash (rejectNativePackages : Bool) (entry : PayloadEntry) :
    Except HashError (Option HashReceipt) :=
  match canonicalizeFilesystemPath platform.toUnicode entry.path with
  | .error error => .error (.path error)
  | .ok relpath =>
    match entry.kind with
    | .symlink => .error (.symlink relpath)
    | .directory =>
      if rejectNativePackages && isPackageBoundary platform.toUnicode relpath then
        .error (.packageDirectory relpath)
      else .ok none
    | .file content => .ok (some ⟨relpath, platform.sha256 content, content.length⟩)
    | .special => .error (.specialFile relpath)

/-- `collect_payload_hashes`. -/
def collectPayloadHashes (rejectNativePackages : Bool) :
    List PayloadEntry → Except HashError (List HashReceipt)
  | [] => .ok []
  | entry :: rest =>
    (payloadHash platform rejectNativePackages entry).bind fun receipt =>
      (collectPayloadHashes rejectNativePackages rest).map (receipt.toList ++ ·)

/-- `hash_payload_tree_with_policy`. -/
def hashPayloadTreeWithPolicy (entries : List PayloadEntry)
    (rejectNativePackages : Bool) : Except HashError (List HashReceipt) :=
  (collectPayloadHashes platform rejectNativePackages entries).map
    (List.insertionSort fun first second => first.relpath ≤ second.relpath)

/-! ## Comparing with the manifest -/

/-- `ManifestDigestMismatch`. -/
structure ManifestDigestMismatch where
  path : Text
  expected : Text
  actual : Text
  deriving DecidableEq

/-- What the comparison of two manifests reports. -/
@[ext]
structure MismatchReport where
  missing : List Text
  extra : List Text
  mismatched : List ManifestDigestMismatch
  deriving DecidableEq

/-- The entries of a map under the canonical form of their paths. -/
def canonicalEntries (unicode : Unicode) :
    List (Text × Text) → Except PathError (List (Text × Text))
  | [] => .ok []
  | entry :: rest =>
    (canonicalizeManifestPath unicode entry.1).bind fun path =>
      (canonicalEntries unicode rest).map ((path, asciiLowercase entry.2) :: ·)

/-- The comparison of two maps with canonical keys. -/
def compareCanonical (actual expected : List (Text × Text)) : MismatchReport :=
  let missing := (expected.map Prod.fst).filter fun path => (actual.lookup path).isNone
  let extra := (actual.map Prod.fst).filter fun path => (expected.lookup path).isNone
  let mismatched := actual.filterMap fun entry =>
    (expected.lookup entry.1).bind fun digest =>
      if entry.2 ≠ digest then some ⟨entry.1, digest, entry.2⟩ else none
  if missing = [] ∧ extra = [] ∧ mismatched = [] ∧ expected ≠ [] then ⟨[], [], []⟩
  else if expected = [] then ⟨[], extra, []⟩
  else ⟨missing, extra, mismatched⟩

/-- `manifest_mismatch`. -/
def manifestMismatch (unicode : Unicode) (actual expected : List (Text × Text)) :
    Except PathError MismatchReport :=
  (canonicalEntries unicode actual).bind fun actualCanonical =>
    (canonicalEntries unicode expected).map fun expectedCanonical =>
      compareCanonical (collect actualCanonical) (collect expectedCanonical)

/-! ## The tag manifest -/

/-- What the digest of a tag file should have been. -/
inductive TagExpectation
  | readable
  | listed
  | digest (value : Text)

/-- What was there instead. -/
inductive TagActual
  | error (error : TagFileError)
  | unsafePath
  | absent
  | digest (value : Text)

/-- `TagManifestMismatch`. -/
structure TagManifestMismatch where
  path : Text
  expected : TagExpectation
  actual : TagActual

section

variable (records : List HashReceipt) (bag : Bag)

/-- `fs::read_to_string` of a file below the bag root. -/
def readToString (name : Text) : Except TagFileError Text :=
  match bag.root name with
  | .file content =>
    match decodeUtf8 content with
    | some text => .ok text
    | none => .error .unreadable
  | _ => .error .unreadable

/-- One listed tag file of `verify_tagmanifest`. -/
def verifyTagFile (entry : Text × Text) : List TagManifestMismatch :=
  if !isSafeBagRelativePath entry.1 then [⟨entry.1, .digest entry.2, .unsafePath⟩]
  else
    match bag.root entry.1 with
    | .file content =>
      if platform.sha256 content = entry.2 then []
      else [⟨entry.1, .digest entry.2, .digest (platform.sha256 content)⟩]
    | _ => [⟨entry.1, .digest entry.2, .absent⟩]

/-- The tag files that every bag lists. -/
def bagTagFiles : List Text :=
  ["bagit.txt".toList, "bag-info.txt".toList, "manifest-sha256.txt".toList]

/-- `verify_tagmanifest`. -/
def verifyTagmanifest (requiredTagFiles : List Text) : List TagManifestMismatch :=
  match (readToString bag "tagmanifest-sha256.txt".toList).bind
      (readChecksumManifest platform.toUnicode false) with
  | .error error => [⟨"tagmanifest-sha256.txt".toList, .readable, .error error⟩]
  | .ok expected =>
    ((bagTagFiles ++ requiredTagFiles).filter fun relpath => (expected.lookup relpath).isNone).map
      (fun relpath => ⟨relpath, .listed, .absent⟩) ++
    expected.flatMap (verifyTagFile platform bag)

/-! ## Validation -/

/-- The errors of a validation. -/
inductive BagError
  | missingData
  | cannotHash (error : HashError)
  | cannotReadManifest (error : TagFileError)
  | cannotReadBagInfo (error : TagFileError)
  | cannotReadPackageIndex
  | mismatch (error : PathError)
  | payloadOxum (expected actual : Text)
  | receivePackage (actual : Option Text)
  | canonicalizationVersion (actual : Text)
  | packageProfileVersion (actual : Text)
  | packageProfileHash (actual : Text)

/-- The error text begins with `complete:`. -/
def BagError.isCompleteness : BagError → Bool
  | .missingData => true
  | .cannotHash _ => true
  | .cannotReadManifest _ => true
  | _ => false

/-- `BagValidationResult`. -/
structure BagValidationResult where
  metadata : List (Text × Text)
  manifest : List (Text × Text)
  actual : List (Text × Text)
  actualRecords : List HashReceipt
  missing : List Text
  extra : List Text
  mismatched : List ManifestDigestMismatch
  tagMismatched : List TagManifestMismatch
  errors : List BagError

/-- `BagValidationResult::complete`. -/
def BagValidationResult.complete (result : BagValidationResult) : Bool :=
  result.missing.isEmpty && result.extra.isEmpty && !result.errors.any BagError.isCompleteness

/-- `BagValidationResult::valid`. -/
def BagValidationResult.valid (result : BagValidationResult) : Bool :=
  result.complete && result.mismatched.isEmpty &&
    result.tagMismatched.isEmpty && result.errors.isEmpty

/-- Keep a value, or a default and the error that is reported. -/
def orReport {Error Value : Type} (default : Value) (report : Error → BagError) :
    Except Error Value → Value × List BagError
  | .ok value => (value, [])
  | .error error => (default, [report error])

/-- Decimal digits. -/
def decimal (number : Nat) : Text := Nat.toDigits 10 number

/-- The `Payload-Oxum` of a payload. -/
def payloadOxum : Text :=
  decimal (records.map HashReceipt.sizeBytes).sum ++ '.' :: decimal records.length

def receivePackage : Text := "sutradhara-receive/0.1.0".toList

def canonicalizationVersion : Text := "receive-bagit-path-v2".toList

def packageProfileVersion : Text := "package-tar-v1".toList

def packageProfileHash : Text :=
  "fc87e5e8ad47962fa800b2d2e7fac6ae1da148f142319a4c32efca1ed392ef3c".toList

/-- A package label is required with a package index and optional without. -/
def packageLabelAccepted (indexed : Bool) (label : Option Text) (value : Text) : Bool :=
  label = some value || (!indexed && label = none)

/-- The checks of a `bag-info.txt` that is not empty. -/
def metadataErrors (metadata : List (Text × Text)) (records : List HashReceipt)
    (indexed : Bool) : List BagError :=
  let label (key : String) := metadata.lookup key.toList
  if metadata = [] then []
  else
    (if label "Payload-Oxum" = some (payloadOxum records) then []
      else [.payloadOxum (payloadOxum records) ((label "Payload-Oxum").getD [])]) ++
    (if label "Receive-Package" = some receivePackage then []
      else [.receivePackage (label "Receive-Package")]) ++
    (if label "Canonicalization-Version" = some canonicalizationVersion then []
      else [.canonicalizationVersion ((label "Canonicalization-Version").getD [])]) ++
    (if packageLabelAccepted indexed (label "Package-Profile-Version")
          packageProfileVersion then []
      else [.packageProfileVersion ((label "Package-Profile-Version").getD [])]) ++
    (if packageLabelAccepted indexed (label "Package-Profile-Hash")
          packageProfileHash then []
      else [.packageProfileHash ((label "Package-Profile-Hash").getD [])])

/-- The payload as validation hashes it. -/
def payloadRecords : List HashReceipt × List BagError :=
  match bag.payload with
  | none => ([], [.missingData])
  | some entries => orReport [] .cannotHash (hashPayloadTreeWithPolicy platform entries true)

/-- The manifest of a bag, line by line. -/
def manifestLines : Except TagFileError (List (Text × Text)) :=
  (readToString bag "manifest-sha256.txt".toList).bind (checksumEntries platform.toUnicode true)

/-- `read_manifest_sha256`. -/
def readManifestSha256 : Except TagFileError (List (Text × Text)) :=
  (manifestLines platform bag).map collect

/-- The error of a package index that is there and is not read. -/
def packageIndexErrors : List BagError :=
  match bag.root "package-index.json".toList with
  | .missing => []
  | .notRegular => [.cannotReadPackageIndex]
  | .file content => if platform.packageIndexRead content then [] else [.cannotReadPackageIndex]

/-- The map of paths and digests of hashed files. -/
def actualDigests : List (Text × Text) :=
  collect (records.map fun record => (record.relpath, record.sha256Hex))

/-- `validate_bag`. -/
def validateBag : BagValidationResult :=
  let (actualRecords, dataErrors) := payloadRecords platform bag
  let (manifest, manifestErrors) :=
    orReport [] .cannotReadManifest (readManifestSha256 platform bag)
  let (metadata, bagInfoErrors) :=
    orReport [] .cannotReadBagInfo
      ((readToString bag "bag-info.txt".toList).bind (readBagInfo platform.toUnicode))
  let indexed : Bool := bag.root "package-index.json".toList ≠ .missing
  let actual := actualDigests actualRecords
  let (mismatch, mismatchErrors) :=
    orReport ⟨[], [], []⟩ .mismatch (manifestMismatch platform.toUnicode actual manifest)
  { metadata, manifest, actual, actualRecords
    missing := mismatch.missing
    extra := mismatch.extra
    mismatched := mismatch.mismatched
    tagMismatched := verifyTagmanifest platform bag
      (if indexed then ["package-index.json".toList] else [])
    errors := dataErrors ++ manifestErrors ++ bagInfoErrors ++
      packageIndexErrors platform bag ++ mismatchErrors ++
      metadataErrors metadata actualRecords indexed }

end

/-! ## Files as a writer leaves them -/

variable {platform}

omit platform in
theorem readToString_of_root (found : bag.root name = .file (encodeUtf8 text)) :
    readToString bag name = .ok text := by
  rw [readToString, found]
  dsimp only
  rw [decodeUtf8_encodeUtf8]

/-- A name that a tag manifest lists under itself. -/
structure TagName (unicode : Unicode) (name : Text) : Prop where
  encoded : encodeBagitPath name ≠ [] ∧ (encodeBagitPath name).head?.any isBlank = false
  accepted : checksumPath unicode false (encodeBagitPath name) = .ok name
  secure : isSafeBagRelativePath name = true

/-- A tag manifest that lists every required file with the digest it has reports
nothing. -/
theorem verifyTagmanifest_eq_nil
    {bag : Bag}
    {requiredTagFiles : List Text}
    {files : List (Text × Bytes)}
    (tags : readToString bag "tagmanifest-sha256.txt".toList =
      .ok (joinLines (files.map fun file => checksumLine (platform.sha256 file.2) file.1)))
    (isDigest : ∀ file ∈ files, IsDigest (platform.sha256 file.2))
    (named : ∀ file ∈ files, TagName platform.toUnicode file.1)
    (present : ∀ file ∈ files, bag.root file.1 = .file file.2)
    (required : ∀ name ∈ bagTagFiles ++ requiredTagFiles, ∃ file ∈ files, file.1 = name) :
    verifyTagmanifest platform bag requiredTagFiles = [] := by
  have entries := checksumEntries_joinLines platform.toUnicode false isDigest
    (fun file member => (named file member).encoded)
    (fun file member => (named file member).accepted)
  rw [verifyTagmanifest, tags]
  change (match (checksumEntries platform.toUnicode false _).map
    collect with | .error _ => _ | .ok _ => _) = _
  rw [entries]
  change _ ++ _ = []
  rw [append_eq_nil_iff, map_eq_nil_iff, filter_eq_nil_iff, flatMap_eq_nil_iff]
  constructor
  · intro name member
    obtain ⟨file, fileMember, rfl⟩ := required name member
    obtain ⟨digest, found⟩ := exists_lookup_collect (mem_map_of_mem (f := fun file : Text × Bytes =>
        (file.1, platform.sha256 file.2)) fileMember)
    simp [found]
  · intro entry member
    obtain ⟨file, fileMember, rfl⟩ := mem_map.mp (mem_of_mem_collect member)
    simp [verifyTagFile, (named file fileMember).secure, present file fileMember]

omit platform in
/-- Paths in canonical form and digests in lower case stay as they are. -/
theorem canonicalEntries_eq_self
    (stays : ∀ entry ∈ map, canonicalizeManifestPath unicode entry.1 = .ok entry.1 ∧
      asciiLowercase entry.2 = entry.2) :
    canonicalEntries unicode map = .ok map := by
  induction map with
  | nil => rfl
  | cons entry rest ih =>
    obtain ⟨path, digest⟩ := stays entry mem_cons_self
    rw [canonicalEntries, path, ih fun entry member =>
      stays entry (mem_cons_of_mem _ member), digest]
    rfl

/-- The comparison finds nothing where both maps answer every path alike. -/
theorem compareCanonical_eq_nil_iff (distinct : (actual.map Prod.fst).Nodup) :
    compareCanonical actual expected = ⟨[], [], []⟩ ↔
      ∀ path, actual.lookup path = expected.lookup path := by
  have parts : compareCanonical actual expected = ⟨[], [], []⟩ ↔
      (∀ path ∈ expected.map Prod.fst, actual.lookup path ≠ none) ∧
      (∀ path ∈ actual.map Prod.fst, expected.lookup path ≠ none) ∧
      ∀ entry ∈ actual, ∀ digest, expected.lookup entry.1 = some digest → entry.2 = digest := by
    have unanswered (paths : List Text) (map : List (Text × Text)) :
        (paths.filter fun path => (map.lookup path).isNone) = [] ↔
          ∀ path ∈ paths, map.lookup path ≠ none := by
      simp [filter_eq_nil_iff]
    have differing : (actual.filterMap fun entry =>
          (expected.lookup entry.1).bind fun digest =>
            if entry.2 ≠ digest then some (⟨entry.1, digest, entry.2⟩ : ManifestDigestMismatch)
            else none) = [] ↔
        ∀ entry ∈ actual, ∀ digest, expected.lookup entry.1 = some digest → entry.2 = digest := by
      simp [filterMap_eq_nil_iff]
    unfold compareCanonical
    dsimp only
    rw [← unanswered, ← unanswered, ← differing]
    split_ifs with nothing empty
    · exact iff_of_true rfl ⟨nothing.1, nothing.2.1, nothing.2.2.1⟩
    · simp [empty]
    · rw [MismatchReport.mk.injEq]
  rw [parts]
  constructor
  · rintro ⟨present, listed, alike⟩ path
    cases found : actual.lookup path with
    | some digest =>
      have member := mem_of_lookup found
      obtain ⟨other, listedAs⟩ := Option.ne_none_iff_exists'.mp
        (listed path (mem_map_of_mem member))
      rw [listedAs]
      exact congrArg some (alike _ member other listedAs)
    | none =>
      cases listedAs : expected.lookup path with
      | none => rfl
      | some digest => exact absurd found (present path (mem_map_of_mem (mem_of_lookup listedAs)))
  · intro alike
    have answers (map : List (Text × Text)) (path : Text) (member : path ∈ map.map Prod.fst) :
        map.lookup path ≠ none := by
      obtain ⟨entry, entryMember, rfl⟩ := mem_map.mp member
      intro absent
      exact absurd (lookup_eq_none_iff.mp absent entry entryMember) (by simp)
    refine ⟨fun path member => ?_, fun path member => ?_, fun entry member digest listedAs => ?_⟩
    · rw [alike]
      exact answers expected path member
    · rw [← alike]
      exact answers actual path member
    · rw [← alike, lookup_of_nodup distinct member] at listedAs
      exact Option.some.inj listedAs

/-- Maps with the same entries agree. -/
theorem compareCanonical_of_perm
    (same : actual.Perm expected)
    (distinct : (expected.map Prod.fst).Nodup) :
    compareCanonical actual expected = ⟨[], [], []⟩ := by
  have distinctActual := (same.map Prod.fst).nodup_iff.mpr distinct
  refine (compareCanonical_eq_nil_iff distinctActual).mpr fun path => Option.ext fun digest => ?_
  constructor
  · intro found
    exact lookup_of_nodup distinct (same.mem_iff.mp (mem_of_lookup found))
  · intro found
    exact lookup_of_nodup distinctActual (same.mem_iff.mpr (mem_of_lookup found))

/-- Maps with the same canonical paths and digests are reported to agree. -/
theorem manifestMismatch_of_perm
    (sameActual : actual.Perm entries)
    (sameExpected : expected.Perm entries)
    (distinct : (entries.map Prod.fst).Nodup)
    (stays : ∀ entry ∈ entries, canonicalizeManifestPath unicode entry.1 = .ok entry.1 ∧
        asciiLowercase entry.2 = entry.2) :
    manifestMismatch unicode actual expected = .ok ⟨[], [], []⟩ := by
  have distinctActual := (sameActual.map Prod.fst).nodup_iff.mpr distinct
  have distinctExpected := (sameExpected.map Prod.fst).nodup_iff.mpr distinct
  have order : (collect actual).Perm (collect expected) :=
    ((perm_collect_of_nodup distinctActual).trans sameActual).trans
      ((perm_collect_of_nodup distinctExpected).trans sameExpected).symm
  have distinctMap := ((perm_collect_of_nodup distinctExpected).map
    Prod.fst).nodup_iff.mpr distinctExpected
  rw [manifestMismatch, canonicalEntries_eq_self fun entry member =>
      stays entry (sameActual.mem_iff.mp member),
    canonicalEntries_eq_self fun entry member => stays entry (sameExpected.mem_iff.mp member)]
  exact congrArg Except.ok (compareCanonical_of_perm order distinctMap)

/-- A bag is valid when every stage succeeds and nothing is reported. -/
theorem valid_of_stages
    (index : decide (bag.root "package-index.json".toList ≠ .missing) = indexed)
    (hashed : payloadRecords platform bag = (records, []))
    (listed : readManifestSha256 platform bag = .ok manifest)
    (labelled : (readToString bag "bag-info.txt".toList).bind
      (readBagInfo platform.toUnicode) = .ok metadata)
    (indexRead : packageIndexErrors platform bag = [])
    (agrees : manifestMismatch platform.toUnicode (actualDigests records) manifest =
      .ok ⟨[], [], []⟩)
    (fits : metadataErrors metadata records indexed = [])
    (tags : verifyTagmanifest platform bag
      (if indexed then ["package-index.json".toList] else []) = []) :
    (validateBag platform bag).valid = true := by
  simp only [validateBag, hashed, listed, labelled, orReport, agrees, index, fits, tags, indexRead]
  rfl

end Receive
end Sutradhara
