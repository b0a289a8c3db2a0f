import Sutradhara.Receive.Bag

/-!
# The files of a bag

A unit is stored below `data/` under the text of its canonical path, and the tag
files are written from the receipts of the units.
-/

namespace Sutradhara
namespace Receive

open Foundation

/-- What a bag is written with: the tables and readers of validation, and the order in
which directories are listed. -/
structure Receiver extends Platform where
  /-- The entries of a directory in the order in which they are visited. -/
  visit : List PayloadEntry → List PayloadEntry
  isDigest : ∀ content, IsDigest (sha256 content)
  visit_perm : ∀ entries, (visit entries).Perm entries

/-- Why the files of a bag are not written. -/
inductive ReceiveError
  | path (error : PathError)
  | unsafeRelpath (relpath : Text)
  | notDirectory (path : List FileName)
  | invalidSha256 (relpath digest : Text)

/-! ## Placing the payload -/

/-- A unit of a bag, with its bytes. -/
structure SourceEntry where
  relpath : Text
  content : Bytes

section

variable (entries : List PayloadEntry) (path : List FileName)

/-- A part of a path as the name of a directory entry. -/
def toFileName (part : Text) : Option FileName :=
  if proper : ProperBytes (encodeUtf8 part) then some ⟨encodeUtf8 part, proper⟩
  else none

/-- The names of `safe_payload_path`. -/
def payloadNames : List Text → Option (List FileName)
  | [] => some []
  | part :: rest => (toFileName part).bind fun name => (payloadNames rest).map (name :: ·)

/-- What is at a path. -/
def kindAt : Option EntryKind :=
  (entries.find? fun entry => entry.path = path).map PayloadEntry.kind

/-- The directories on the way to a path. -/
def parents : List (List FileName) := path.dropLast.inits.filter (· ≠ [])

/-- `safe_payload_path`: the destination of a unit, when every directory on the way
is a directory or missing. -/
def safePayloadPath (relpath : Text) : Except ReceiveError (List FileName) :=
  match payloadNames (relpath.splitOn '/') with
  | none => .error (.unsafeRelpath relpath)
  | some path =>
    match (parents path).find? fun parent =>
        kindAt entries parent ≠ none ∧ kindAt entries parent ≠ some .directory with
    | some parent => .error (.notDirectory parent)
    | none => .ok path

end

variable (receiver : Receiver)

/-! ## Writing the tag files -/

variable (value : Text) (unicode : Unicode) (entries metadata : List (Text × Text))
  (extraTagFiles files : List (Text × Bytes))

/-- `is_sha256_hex`. -/
def isSha256Hex : Bool := value.length = 64 && value.all isAsciiHexdigit

/-- The lines of `bagit_manifest_text`. -/
def bagitManifestLines (unicode : Unicode) : List (Text × Text) → Except ReceiveError (List Text)
  | [] => .ok []
  | (relpath, digest) :: rest =>
    if !isSha256Hex (asciiLowercase digest) then .error (.invalidSha256 relpath digest)
    else
      match canonicalizeManifestPath unicode relpath with
      | .error error => .error (.path error)
      | .ok canonical =>
        (bagitManifestLines unicode rest).map
          (checksumLine (asciiLowercase digest) ("data/".toList ++ canonical) :: ·)

/-- `bagit_manifest_text`. -/
def bagitManifestText :
    Except ReceiveError Text :=
  (bagitManifestLines unicode entries).map joinLines

/-- Whether a receive reads its payload again before it completes. -/
inductive VerifyMode
  | staged
  | blocking

/-- `ReceiveOptions`. -/
structure ReceiveOptions where
  intakeId : Text
  baggingDate : Text
  sourceKind : Text
  operator : Text
  sourceRef : Option Text
  artifactclass : Text
  label : Option Text
  verify : VerifyMode

/-- `BAG_INFO_ORDER`. -/
def bagInfoOrder : List Text :=
  ["Bagging-Date".toList, "Payload-Oxum".toList, "Bag-Software-Agent".toList,
    "Receive-Package".toList, "Intake-Id".toList, "Operator".toList,
    "Source-Kind".toList, "Source-Ref".toList, "Artifactclass".toList, "Label".toList,
    "Canonicalization-Version".toList, "Package-Profile-Version".toList,
    "Package-Profile-Hash".toList, "Skipped-Count".toList]

/-- `bag_info_metadata`, in the order of `BAG_INFO_ORDER`. -/
def bagInfoMetadata (options : ReceiveOptions) (fileCount totalBytes : Nat)
    (skippedCount : Nat) : List (Text × Text) :=
  [("Bagging-Date".toList, options.baggingDate),
    ("Payload-Oxum".toList, decimal totalBytes ++ '.' :: decimal fileCount),
    ("Bag-Software-Agent".toList, "sutradhara-receive/receive-v2".toList),
    ("Receive-Package".toList, receivePackage), ("Intake-Id".toList, options.intakeId),
    ("Operator".toList, options.operator), ("Source-Kind".toList, options.sourceKind),
    ("Source-Ref".toList, options.sourceRef.getD []),
    ("Artifactclass".toList, options.artifactclass), ("Label".toList, options.label.getD []),
    ("Canonicalization-Version".toList, canonicalizationVersion),
    ("Package-Profile-Version".toList, packageProfileVersion),
    ("Package-Profile-Hash".toList, packageProfileHash),
    ("Skipped-Count".toList, decimal skippedCount)]

/-- `bag_info_value`. -/
def bagInfoValue : Text := value.map fun char => if char = '\r' ∨ char = '\n' then ' ' else char

/-- `bag_info_text`. -/
def bagInfoText : Text :=
  joinLines (metadata.map fun field => labelLine (field.1, bagInfoValue field.2))

def bagitText : Text := "BagIt-Version: 1.0\nTag-File-Character-Encoding: UTF-8\n".toList

/-- `tagmanifest_text`, from the files beside the payload. -/
def tagmanifestText : Text :=
  joinLines ((files.insertionSort fun first second => first.1 ≤ second.1).map
    fun file => checksumLine (receiver.sha256 file.2) file.1)

/-- The package index as a tag file, when there is one. -/
def packageIndexFiles (index : Option Bytes) : List (Text × Bytes) :=
  index.toList.map fun content => ("package-index.json".toList, content)

/-- The files that a tag manifest lists. -/
def tagFiles (bagInfo manifest : Text) (extraTagFiles : List (Text × Bytes)) :
    List (Text × Bytes) :=
  [("bagit.txt".toList, encodeUtf8 bagitText), ("bag-info.txt".toList, encodeUtf8 bagInfo),
    ("manifest-sha256.txt".toList, encodeUtf8 manifest)] ++ extraTagFiles

/-- Tag files with their tag manifest. -/
def withTagmanifest : List (Text × Bytes) :=
  ("tagmanifest-sha256.txt".toList, encodeUtf8 (tagmanifestText receiver files)) :: files

/-- `write_bagit_files`: the files of the bag with their tag manifest. -/
def writeBagitFiles : Except ReceiveError (List (Text × Bytes)) :=
  (bagitManifestText receiver.toUnicode entries).map fun manifest =>
    withTagmanifest receiver (tagFiles (bagInfoText metadata) manifest extraTagFiles)

/-- What a file of the bag is. -/
def foundIn (name : Text) : Found :=
  match files.lookup name with
  | some content => .file content
  | none => .missing

end Receive
end Sutradhara
