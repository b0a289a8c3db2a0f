import Sutradhara.Intake.Terminal
import Sutradhara.Receive.Received

/-!
# Uploads and the bag of a streamed intake

`UploadFile` streams a file beside the payload, makes the directories on the way,
renames the file into `data/` and appends a receipt; each of these is an effect of
its own, and several uploads run at once.  `CommitIntake` takes the intake when no
upload is in flight, compares the receipts with the list of the request and writes
the tag files from that list.  It never looks at `data/` itself.
-/

namespace Sutradhara
namespace Intake
namespace Assembly

open Foundation
open Foundation.Interleaving
open Receive

/-! ## Requests and state -/

/-- One line of `receive-receipts.jsonl`. -/
structure Receipt where
  relpath : Text
  serverSha256 : Text
  bytes : Nat

/-- One message of an upload stream. -/
structure Chunk where
  intakeId : Text
  relpath : Text
  offset : Nat
  data : Bytes
  isLast : Bool

/-- One entry of a commit request. -/
structure CommitFile where
  relpath : Text
  clientSha256 : Text
  bytes : Nat

/-- The type of a package member, with the fields that belong to it. -/
inductive MemberType
  | file (length : Nat) (sha256 : Text) (dataOffset : Nat)
  | directory
  | symlink (linkname : Text)
  | other (name : Text)

structure PackageMember where
  member : Text
  type : MemberType

/-- One package of a commit request. -/
structure PackageIndex where
  logicalMemberPath : Text
  storedMemberPath : Text
  sha256 : Text
  members : List PackageMember

structure ReceiveFacts where
  canonicalizationVersion : Text
  packageProfileVersion : Text
  skippedCount : Nat

structure CommitRequest where
  files : List CommitFile
  manifestDigest : Text
  receiveFacts : ReceiveFacts
  packageIndexes : List PackageIndex

/-- The `ReceiveError` that ends an assembly. -/
inductive AssemblyError
  | manifestDigest
  | canonicalizationVersion (actual : Text)
  | packageProfile (actual : Text)
  | memberType (name : Text)
  | path (error : PathError)
  | bag (error : ReceiveError)

/-- What a finished call reported, a successful commit apart. -/
inductive Reply
  | invalidArgument (detail : String)
  | failedPrecondition (detail : String)
  | assembly (error : AssemblyError)
  | fileReceipt (receipt : Receipt)
  | reupload (relpaths : List Text)
  | liveStatus
  | raised

/-- Everything that several calls of one intake share: the row, the upload counter,
the payload directory, the ledger of receipts and the tag files. -/
structure Shared where
  state : GrpcIntakeState
  manifestDigest : Option Text
  inFlight : Nat
  data : List PayloadEntry
  receipts : List Receipt
  tags : List (Text × Bytes)

/-- What the calls are run with: the receive package, the fields of the row that the
tag files repeat, and the digests and texts that are computed from a request. -/
structure Server where
  receiver : Receiver
  options : ReceiveOptions
  /-- `manifest_digest`. -/
  manifestDigest : List CommitFile → Text
  /-- The text of `package-index.json`. -/
  packageIndexText : List PackageIndex → Bytes

variable (server : Server)

/-- The Unicode tables of a server. -/
abbrev Server.unicode : Unicode := server.receiver.toUnicode

/-- Where a call stands between two of its steps. -/
inductive Call
  | upload (relpath : Text)
  | receiving (relpath : Text)
  | streaming (relpath : Text) (path : List FileName)
  | received (relpath : Text) (path : List FileName) (content : Bytes)
  | replacing (relpath : Text) (path : List FileName) (content : Bytes)
  | replaced (relpath : Text) (path : List FileName) (content : Bytes)
  | uploadExit (reply : Reply)
  | commit (request : CommitRequest)
  | commitClaim (request : CommitRequest)
  | commitCheck (request : CommitRequest)
  | commitRollback (reply : Reply)
  | commitAssemble (request : CommitRequest)
  | commitFinish (request : CommitRequest)
  | commitCleanup (request : CommitRequest)
  /-- `CommitIntake` has returned with the status `verifying`. -/
  | committed (request : CommitRequest)
  | returned (reply : Reply)

/-- Answers of the environment to one step. -/
inductive Answer
  | proceed
  | stream (chunks : List Chunk)
  | leaseLost
  | raised

/-! ## Uploads -/

section

variable (entries : List PayloadEntry) (unicode : Unicode) (records : List (Text × Text × Nat))
  (shared : Shared) (raw relpath : Text) (path : List FileName) (content : Bytes)
  (request : CommitRequest)

/-- `_validate_wire_relpath`. -/
def validateWireRelpath : Except Reply Text :=
  if "data/".toList.isPrefixOf raw then
    .error (.invalidArgument "relpath must not start with data/")
  else if raw.head? = some '/' || (raw.splitOn '/').contains ['.', '.'] then
    .error (.invalidArgument "unsafe relpath")
  else
    match canonicalizeManifestPath unicode raw with
    | .error _ => .error .raised
    | .ok canonical =>
      if raw ≠ canonical then .error (.invalidArgument "relpath is not canonical")
      else .ok canonical

/-- `UploadFile` up to the first chunk: the path is checked, then the row is read and
the stream counted under the runtime lock. -/
def uploadFile : Shared × Call :=
  match validateWireRelpath server.unicode raw with
  | .error reply => (shared, .returned reply)
  | .ok relpath =>
    if shared.state = .streaming then
      ({ shared with inFlight := shared.inFlight + 1 }, .receiving relpath)
    else (shared, .returned (.failedPrecondition "intake is not streaming"))

/-- The chunk loop of `_receive_file`, with the bytes received so far. -/
def receiveChunks (intakeId relpath : Text) : Bytes → List Chunk → Except String Bytes
  | _, [] => .error "stream ended before is_last"
  | received, chunk :: rest =>
    if chunk.intakeId ≠ intakeId ∨ chunk.relpath ≠ relpath then .error "chunk identity changed"
    else if chunk.data ≠ [] ∧ chunk.offset ≠ received.length then .error "unexpected chunk offset"
    else if chunk.isLast then .ok (received ++ chunk.data)
    else receiveChunks intakeId relpath (received ++ chunk.data) rest

/-- `_fail_intake_after_lease_loss`. -/
def failIntakeAfterLeaseLoss : Shared :=
  if shared.state = .streaming ∨ shared.state = .committing then { shared with state := .aborted }
  else shared

/-- `_receive_file` asks for its destination. -/
def locate : Answer → Option (Shared × Call)
  | .proceed =>
    match safePayloadPath shared.data relpath with
    | .error _ => some (shared, .uploadExit .raised)
    | .ok path => some (shared, .streaming relpath path)
  | .raised => some (shared, .uploadExit .raised)
  | _ => none

/-- `_receive_file` reads the stream into a temporary file. -/
def receiveStream :
    Answer → Option (Shared × Call)
  | .stream chunks =>
    match receiveChunks server.options.intakeId relpath [] chunks with
    | .error detail => some (shared, .uploadExit (.invalidArgument detail))
    | .ok content => some (shared, .received relpath path content)
  | .leaseLost =>
    some (failIntakeAfterLeaseLoss shared,
      .uploadExit (.failedPrecondition "source lease lost during upload"))
  | .raised => some (shared, .uploadExit .raised)
  | .proceed => none

/-- `mkdir` of every directory on the way to a path. -/
def makeParents : List PayloadEntry :=
  ((parents path).filter fun parent => kindAt entries parent = none).map
    (⟨·, .directory⟩) ++ entries

/-- Rename a file to a path, in place of the file that is there. -/
def placeFile : List PayloadEntry :=
  ⟨path, .file content⟩ :: entries.filter fun entry => entry.path ≠ path

/-- `_receive_file` makes the directories.  It raises when something else has come to
stand on the way. -/
def makeDirectories : Answer → Option (Shared × Call)
  | .proceed =>
    if (parents path).all fun parent =>
        kindAt shared.data parent = none ||
          kindAt shared.data parent = some .directory then
      some ({ shared with data := makeParents shared.data path }, .replacing relpath path content)
    else some (shared, .uploadExit .raised)
  | .raised => some (shared, .uploadExit .raised)
  | _ => none

/-- `_receive_file` renames the temporary file.  A directory is not replaced. -/
def replaceFile : Answer → Option (Shared × Call)
  | .proceed =>
    if kindAt shared.data path = some .directory then some (shared, .uploadExit .raised)
    else
      some ({ shared with data := placeFile shared.data path content },
        .replaced relpath path content)
  | .raised => some (shared, .uploadExit .raised)
  | _ => none

/-- The receipt of a stored file. -/
def receiptOf : Receipt := ⟨relpath, server.receiver.sha256 content, content.length⟩

/-- `_append_receipt`. -/
def appendReceipt :
    Answer → Option (Shared × Call)
  | .proceed =>
    let receipt := receiptOf server relpath content
    some ({ shared with receipts := shared.receipts ++ [receipt] },
      .uploadExit (.fileReceipt receipt))
  | .raised => some (shared, .uploadExit .raised)
  | _ => none

/-- The `finally` block of `UploadFile`. -/
def leaveUpload : Shared := { shared with inFlight := shared.inFlight - 1 }

/-! ## Commits -/

/-- `_read_receipts`, as the list of records: a later one replaces an earlier one. -/
def readReceipts (unicode : Unicode) : List Receipt → Except PathError (List (Text × Text × Nat))
  | [] => .ok []
  | receipt :: rest =>
    (canonicalizeManifestPath unicode receipt.relpath).bind fun relpath =>
      (readReceipts unicode rest).map ((relpath, receipt.serverSha256, receipt.bytes) :: ·)

/-- The record of a path that counts. -/
def landed : Option (Text × Nat) := records.reverse.lookup relpath

/-- The loop of `_reupload_relpaths`. -/
def missingRelpaths (unicode : Unicode) (records : List (Text × Text × Nat)) :
    List CommitFile → Except PathError (List Text)
  | [] => .ok []
  | item :: rest =>
    (canonicalizeManifestPath unicode item.relpath).bind fun relpath =>
      (missingRelpaths unicode records rest).map fun missing =>
        if landed records relpath = some (asciiLowercase item.clientSha256, item.bytes)
        then missing
        else relpath :: missing

/-- `_reupload_relpaths`. -/
def reuploadRelpaths (files : List CommitFile) : Except PathError (List Text) :=
  (missingRelpaths unicode records files).map
    (List.insertionSort fun first second => first ≤ second)

/-- `CommitIntake` up to the runtime lock: the row is read outside of it. -/
def commitIntake : Call :=
  match shared.state with
  | .committed =>
    if shared.manifestDigest = some request.manifestDigest then .returned .liveStatus
    else .returned (.failedPrecondition "manifest digest conflict")
  | .aborted => .returned (.failedPrecondition "intake is aborted")
  | .streaming | .committing => .commitClaim request

/-- `CommitIntake` under the runtime lock. -/
def commitClaim : Shared × Call :=
  if shared.inFlight ≠ 0 then (shared, .returned (.failedPrecondition "upload in flight"))
  else if shared.state = .streaming then
    ({ shared with state := .committing }, .commitCheck request)
  else (shared, .returned (.failedPrecondition "intake is not streaming"))

/-- `CommitIntake` compares the receipts with the request.  A path that has no
canonical form raises outside of every handler. -/
def commitCheck : Call :=
  match (readReceipts server.unicode shared.receipts).bind fun records =>
      reuploadRelpaths server.unicode records request.files with
  | .error _ => .returned .raised
  | .ok [] => .commitAssemble request
  | .ok (relpath :: rest) => .commitRollback (.reupload (relpath :: rest))

/-- `_check_receive_fact_skew`. -/
def checkReceiveFactSkew (facts : ReceiveFacts) : Except AssemblyError Unit :=
  if facts.canonicalizationVersion ≠ canonicalizationVersion then
    .error (.canonicalizationVersion facts.canonicalizationVersion)
  else if facts.packageProfileVersion ≠ [] ∧
      facts.packageProfileVersion ≠ packageProfileVersion then
    .error (.packageProfile facts.packageProfileVersion)
  else .ok ()

/-- `_member_entry`. -/
def memberEntry (member : PackageMember) :
    Except AssemblyError PackageMember :=
  match canonicalizeManifestPath unicode member.member with
  | .error error => .error (.path error)
  | .ok path =>
    match member.type with
    | .other name => .error (.memberType name)
    | type => .ok ⟨path, type⟩

/-- `_member_entry` of every member of a package. -/
def memberEntries (unicode : Unicode) :
    List PackageMember → Except AssemblyError (List PackageMember)
  | [] => .ok []
  | member :: rest =>
    (memberEntry unicode member).bind fun entry => (memberEntries unicode rest).map (entry :: ·)

/-- `_package_index_entry`. -/
def packageIndexEntry (package : PackageIndex) :
    Except AssemblyError PackageIndex :=
  match canonicalizeManifestPath unicode package.storedMemberPath,
      canonicalizeManifestPath unicode package.logicalMemberPath with
  | .error error, _ => .error (.path error)
  | _, .error error => .error (.path error)
  | .ok stored, .ok logical =>
    (memberEntries unicode package.members).map fun members =>
      ⟨logical, stored, asciiLowercase package.sha256,
        members.insertionSort fun first second => first.member ≤ second.member⟩

/-- `_package_index_entry` of every package of a request. -/
def packageIndexEntries (unicode : Unicode) :
    List PackageIndex → Except AssemblyError (List PackageIndex)
  | [] => .ok []
  | package :: rest =>
    (packageIndexEntry unicode package).bind fun entry =>
      (packageIndexEntries unicode rest).map (entry :: ·)

/-- The tag file of the packages; without a package an earlier one is removed. -/
def packageIndexFile (packages : List PackageIndex) : List (Text × Bytes) :=
  if packages = [] then []
  else [("package-index.json".toList, server.packageIndexText
    (packages.insertionSort fun first second =>
      first.storedMemberPath ≤ second.storedMemberPath))]

/-- The entries of the manifest in the order of the request. -/
def manifestEntries (unicode : Unicode) :
    List CommitFile → Except AssemblyError (List (Text × Text))
  | [] => .ok []
  | item :: rest =>
    match canonicalizeManifestPath unicode item.relpath with
    | .error error => .error (.path error)
    | .ok relpath =>
      (manifestEntries unicode rest).map ((relpath, asciiLowercase item.clientSha256) :: ·)

/-- `write_bagit_files` with the labels of a commit.  The size of the payload is the
sum over the request, the number of its files that of the manifest. -/
def writeCommitted (entries : List (Text × Text))
    (packages : List PackageIndex) : Except AssemblyError (List (Text × Bytes)) :=
  (writeBagitFiles server.receiver entries
    (bagInfoMetadata server.options entries.length
      (request.files.map CommitFile.bytes).sum request.receiveFacts.skippedCount)
    (packageIndexFile server packages)).mapError .bag

/-- `assemble_committed_bag`, as the tag files that it leaves. -/
def assembleCommittedBag : Except AssemblyError (List (Text × Bytes)) :=
  (checkReceiveFactSkew request.receiveFacts).bind fun _ =>
    (manifestEntries server.unicode request.files).bind fun entries =>
      (packageIndexEntries server.unicode request.packageIndexes).bind fun packages =>
        writeCommitted server request (OrderedMap.collect entries) packages

/-- The `try` block of `CommitIntake`. -/
def assemble : Except AssemblyError (List (Text × Bytes)) :=
  if server.manifestDigest request.files ≠ request.manifestDigest then .error .manifestDigest
  else assembleCommittedBag server request

/-- `CommitIntake` around the assembly.  Only a `ReceiveError` is rolled back. -/
def commitAssemble : Answer → Option (Shared × Call)
  | .proceed =>
    match assemble server request with
    | .error error => some (shared, .commitRollback (.assembly error))
    | .ok tags => some ({ shared with tags := tags }, .commitFinish request)
  | .raised => some (shared, .returned .raised)
  | _ => none

/-- `_rollback_to_streaming`. -/
def commitRollback (reply : Reply) : Answer → Option (Shared × Call)
  | .proceed => some ({ shared with state := .streaming }, .returned reply)
  | .raised => some (shared, .returned .raised)
  | _ => none

/-- `set_committed_digest`. -/
def setCommittedDigest (digest : Text) : Shared :=
  { shared with state := .committed, manifestDigest := some digest }

/-- The last transaction of `CommitIntake`. -/
def commitFinish : Answer → Option (Shared × Call)
  | .proceed => some (setCommittedDigest shared request.manifestDigest, .commitCleanup request)
  | .raised => some (shared, .returned .raised)
  | _ => none

/-- `CommitIntake` drops its markers and returns. -/
def commitCleanup : Answer → Option (Shared × Call)
  | .proceed => some (shared, .committed request)
  | .raised => some (shared, .returned .raised)
  | _ => none

end

/-! ## Calls -/

/-- One step of one call. -/
def step (_self : Nat) (shared : Shared) (call : Call) (answer : Answer) : Option (Shared × Call) :=
  match call with
  | .upload raw => some (uploadFile server shared raw)
  | .receiving relpath => locate shared relpath answer
  | .streaming relpath path => receiveStream server shared relpath path answer
  | .received relpath path content => makeDirectories shared relpath path content answer
  | .replacing relpath path content => replaceFile shared relpath path content answer
  | .replaced relpath _ content => appendReceipt server shared relpath content answer
  | .uploadExit reply => some (leaveUpload shared, .returned reply)
  | .commit request => some (shared, commitIntake shared request)
  | .commitClaim request => some (commitClaim shared request)
  | .commitCheck request => some (shared, commitCheck server shared request)
  | .commitRollback reply => commitRollback shared reply answer
  | .commitAssemble request => commitAssemble server shared request answer
  | .commitFinish request => commitFinish shared request answer
  | .commitCleanup request => commitCleanup shared request answer
  | .committed _ => none
  | .returned _ => none

/-- A call enters at its first line. -/
def entering : Call → Bool
  | .upload _ | .commit _ => true
  | _ => false

/-- The uploads and commits of one streaming intake. -/
def program : Program Shared Call Answer where
  initial := entering
  step := step server

/-- A configuration of calls on one intake. -/
abbrev Calls := Config Shared Call

/-- `StartIntake` has inserted the row and made the empty payload directory. -/
def started : Calls where
  shared := ⟨.streaming, none, 0, [], [], []⟩
  threads := []

/-! ## The committed bag -/

/-- A payload file is the one that an entry of a commit names, with its digest and
size. -/
def Matches (item : CommitFile) (file : List FileName × Bytes) : Prop :=
  ∃ relpath, canonicalizeManifestPath server.unicode item.relpath = .ok relpath ∧
    payloadNames (relpath.splitOn '/') = some file.1 ∧
    server.receiver.sha256 file.2 = asciiLowercase item.clientSha256 ∧
    file.2.length = item.bytes

/-- The bag in the landing directory. -/
def Shared.bag (shared : Shared) : Bag where
  payload := some (server.receiver.visit shared.data)
  root := foundIn shared.tags

/-- The payload is what a commit lists, and the bag is valid. -/
structure Yielded (request : CommitRequest) (shared : Shared) : Prop where
  listed : ∀ file ∈ payloadFiles shared.data, ∃ item ∈ request.files, Matches server item file
  present : ∀ item ∈ request.files, ∃ file ∈ payloadFiles shared.data, Matches server item file
  valid : (validateBag server.receiver.toPlatform (shared.bag server)).valid = true

/-- A successful commit yields the bag that it lists, whatever the uploads and
commits are and however their steps interleave. -/
def CommitLaw : Prop :=
  ∀ (server : Server) (moves : List (Move Call Answer)) (config : Calls),
    Transition.run (program server).move started moves = some config →
    ∀ request, .committed request ∈ config.threads → Yielded server request config.shared

/-! ## Orderly runs -/

/-- A path without an escape, in no directory that has the ending of a package. -/
def Plain (unicode : Unicode) (relpath : Text) : Prop :=
  '\\' ∉ relpath ∧ ∀ above ∈ (relpath.splitOn '/').dropLast.inits, above ≠ [] →
    isPackageBoundary unicode (['/'].intercalate above) = false

/-- Where a call has replaced a file whose receipt is still to be written. -/
def Call.replacedAt : Call → Option (List FileName)
  | .replaced _ path _ => some path
  | _ => none

/-- A request lists every received path, each once, and sends no package index. -/
structure Covers (unicode : Unicode) (receipts : List Receipt)
    (request : CommitRequest) : Prop where
  distinct : (request.files.map fun item => listedPath unicode item.relpath).Nodup
  complete : ∀ receipt ∈ receipts,
    receipt.relpath ∈ request.files.map fun item => listedPath unicode item.relpath
  noPackages : request.packageIndexes = []

/-- Uploads name plain paths, no file is replaced while the receipt of another upload
of it is outstanding, every replaced file gets its receipt, and every commit that is
assembled covers the receipts. -/
def Orderly (config : Calls) : Move Call Answer → Prop
  | .spawn (.upload relpath) => Plain server.unicode relpath
  | .spawn _ => True
  | .act index answer =>
    match config.threads[index]? with
    | some (.replacing _ path _) => ∀ other ∈ config.threads, other.replacedAt ≠ some path
    | some (.replaced _ _ _) => answer = .proceed
    | some (.commitAssemble request) => Covers server.unicode config.shared.receipts request
    | _ => True

end Assembly
end Intake
end Sutradhara
