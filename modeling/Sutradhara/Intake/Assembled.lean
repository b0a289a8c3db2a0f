import Sutradhara.Intake.Uploads

/-!
# The bag that a commit yields

A commit compares its list with the receipts and never with the payload, so a file
that it does not list stays in the bag.  In an orderly run the receipts tell the
truth: every payload file has its own last receipt, or the upload that has just
replaced it still holds its bytes.  A commit finds no such upload, and from then on
nothing but the commit itself touches the intake.
-/

namespace Sutradhara
namespace Intake
namespace Assembly

open Foundation List
open Foundation.Interleaving
open Foundation.Raising
open Receive Transition

variable {server : Server}

/-! ## Receipts and payload -/

/-- Every receipt has its file, and every file its own last receipt, or an upload
that has replaced it and still holds its bytes. -/
structure Ledger (server : Server) (shared : Shared) (calls : List Call) : Prop where
  sound : Sound server.unicode shared.data
  receipts : ∀ receipt ∈ shared.receipts, Accepted server.unicode receipt.relpath ∧
    ∃ file ∈ payloadFiles shared.data, payloadNames (receipt.relpath.splitOn '/') = some file.1
  files : ∀ file ∈ payloadFiles shared.data, ∃ relpath,
    Accepted server.unicode relpath ∧
      payloadNames (relpath.splitOn '/') = some file.1 ∧
      (landed (shared.receipts.map Receipt.record) relpath =
          some (server.receiver.sha256 file.2, file.2.length) ∨
        .replaced relpath file.1 file.2 ∈ calls)

section Ledger

variable {answer : Answer} {shared shared' : Shared} {call call' : Call}
  {calls calls' : List Call} {index : Nat} {relpath : Text} {path : List FileName}
  {content : Bytes}

section

variable (ledger : Ledger server shared calls)
include ledger

theorem Ledger.frame
    (data : shared'.data = shared.data)
    (receipts : shared'.receipts = shared.receipts)
    (kept : ∀ relpath path content, .replaced relpath path content ∈ calls →
      .replaced relpath path content ∈ calls') :
    Ledger server shared' calls' := by
  refine ⟨data ▸ ledger.sound, ?_, ?_⟩
  · rw [data, receipts]
    exact ledger.receipts
  · rw [data, receipts]
    intro file isFile
    obtain ⟨relpath, accepted, named, truth⟩ := ledger.files file isFile
    exact ⟨relpath, accepted, named, truth.imp_right (kept _ _ _)⟩

theorem Ledger.makeParents
    (accepted : Accepted server.unicode relpath)
    (named : payloadNames (relpath.splitOn '/') = some path) :
    Ledger server { shared with data := makeParents shared.data path } calls := by
  let unit : SourceEntry := ⟨relpath, []⟩
  have received := @received_of_accepted path server.receiver unit accepted named
  have plain : ∀ parent ∈ parents path, isPackageBoundary server.unicode
      (canonicalPath server.unicode parent) = false := by
    intro parent above
    rw [← @destination_of_named path unit named] at above
    exact received.isPackageBoundary_parent above
  refine ⟨ledger.sound.makeParents plain, ?_, ?_⟩
  · intro receipt inside
    rw [payloadFiles_makeParents]
    exact ledger.receipts receipt inside
  · intro file isFile
    rw [payloadFiles_makeParents] at isFile
    exact ledger.files file isFile

theorem Ledger.placeFile
    (accepted : Accepted server.unicode relpath)
    (named : payloadNames (relpath.splitOn '/') = some path)
    (kept : ∀ relpath path content, .replaced relpath path content ∈ calls →
      .replaced relpath path content ∈ calls')
    (placed : .replaced relpath path content ∈ calls') :
    Ledger server { shared with data := placeFile shared.data path content } calls' := by
  let unit : SourceEntry := ⟨relpath, content⟩
  have rooted := (@received_of_accepted path server.receiver unit accepted named).destination_ne_nil
  rw [@destination_of_named path unit named] at rooted
  refine ⟨ledger.sound.placeFile rooted, ?_, ?_⟩
  · intro receipt inside
    obtain ⟨isAccepted, file, isFile, isNamed⟩ := ledger.receipts receipt inside
    by_cases same : file.1 = path
    · exact ⟨isAccepted, (path, content), mem_payloadFiles_placeFile.mpr (.inl rfl), same ▸ isNamed⟩
    · exact ⟨isAccepted, file, mem_payloadFiles_placeFile.mpr (.inr ⟨isFile, same⟩), isNamed⟩
  · intro file isFile
    rcases mem_payloadFiles_placeFile.mp isFile with rfl | ⟨before, -⟩
    · exact ⟨relpath, accepted, named, .inr placed⟩
    · obtain ⟨own, isAccepted, isNamed, truth⟩ := ledger.files file before
      exact ⟨own, isAccepted, isNamed, truth.imp_right (kept _ _ _)⟩

theorem Ledger.appendReceipt
    (accepted : Accepted server.unicode relpath)
    (named : payloadNames (relpath.splitOn '/') = some path)
    (isFile : (path, content) ∈ payloadFiles shared.data)
    (kept : ∀ other path content, other ≠ relpath →
      .replaced other path content ∈ calls → .replaced other path content ∈ calls') :
    Ledger server
      { shared with receipts := shared.receipts ++ [receiptOf server relpath content] }
      calls' := by
  refine ⟨ledger.sound, ?_, ?_⟩
  · intro receipt inside
    rcases mem_append.mp inside with before | here
    · exact ledger.receipts receipt before
    · rw [mem_singleton.mp here]
      exact ⟨accepted, (path, content), isFile, named⟩
  · intro file inside
    obtain ⟨own, isAccepted, isNamed, truth⟩ := ledger.files file inside
    refine ⟨own, isAccepted, isNamed, ?_⟩
    rw [landed_append]
    by_cases same : own = relpath
    · -- The file at this path is the one that the upload has put there.
      subst same
      obtain rfl := Option.some.inj (isNamed.symm.trans named)
      rw [(Prod.mk.inj (inj_on_of_nodup_map ledger.sound.distinct inside isFile rfl)).2]
      exact .inl (if_pos rfl)
    · rw [if_neg (by exact same)]
      exact truth.imp_right (kept _ _ _ same)

end

/-- A step keeps the ledger, if every replaced file gets its receipt. -/
theorem Transit.ledger
    (transit : Transit server answer shared call shared' call')
    (ledger : Ledger server shared calls)
    (holds : Holds server shared index call)
    (present : calls[index]? = some call)
    (receipt : call.replacedAt ≠ none → answer = .proceed) :
    Ledger server shared' (calls.set index call') := by
  have kept : call.replacedAt = none → ∀ relpath path content,
      .replaced relpath path content ∈ calls →
      .replaced relpath path content ∈ calls.set index call' := by
    intro quiet relpath path content member
    refine Program.mem_set_of_ne present member ?_
    rintro rfl
    cases quiet
  cases transit with
  | finish window => exact ledger.frame rfl rfl (kept (replacedAt_of_window window))
  | fail _ notReplaced => exact ledger.frame rfl rfl (kept notReplaced)
  | reject window =>
    exact ledger.frame rfl rfl (kept (replacedAt_of_window (by rw [window]; decide)))
  | enterUpload | locate | receive | leaveUpload | readRow | claim | check | rollback
  | assemble | commit | succeed => exact ledger.frame rfl rfl (kept rfl)
  | loseLease =>
    refine ledger.frame ?_ ?_ (kept rfl)
    · unfold failIntakeAfterLeaseLoss
      split_ifs <;> rfl
    · unfold failIntakeAfterLeaseLoss
      split_ifs <;> rfl
  | makeParents => exact (ledger.makeParents holds.accepted holds.named).frame rfl rfl (kept rfl)
  | place =>
    refine ledger.placeFile holds.accepted holds.named (kept rfl) ?_
    exact List.mem_set (List.getElem?_eq_some_iff.mp present).1 _
  | loseReceipt raised =>
    rw [receipt nofun] at raised
    cases raised
  | appendReceipt =>
    refine ledger.appendReceipt holds.1.accepted holds.1.named holds.2 ?_
    intro other path content different member
    refine Program.mem_set_of_ne present member ?_
    rintro ⟨⟩
    exact different rfl

end Ledger

/-! ## The bag of a covering commit -/

section Bag

variable {shared : Shared} {calls : List Call} {request : CommitRequest}
  {tags : List (Text × Bytes)}

/-- The file that an entry of a commit names, under an accepted path. -/
structure Stored (server : Server) (item : CommitFile) (file : List FileName × Bytes) : Prop where
  accepted : Accepted server.unicode (listedPath server.unicode item.relpath)
  listed : canonicalizeManifestPath server.unicode item.relpath =
    .ok (listedPath server.unicode item.relpath)
  named : payloadNames ((listedPath server.unicode item.relpath).splitOn '/') = some file.1
  digest : server.receiver.sha256 file.2 = asciiLowercase item.clientSha256
  size : file.2.length = item.bytes

theorem Stored.isMatch (stored : Stored server item file) : Matches server item file :=
  ⟨_, stored.listed, stored.named, stored.digest, stored.size⟩

/-- With no upload under way, what has landed is stored. -/
theorem Ledger.exists_stored
    (ledger : Ledger server shared calls)
    (settled : ∀ call ∈ calls, call.replacedAt = none)
    (isLanded : Landed server.unicode shared.receipts request)
    (member : item ∈ request.files) :
    ∃ file, file ∈ payloadFiles shared.data ∧ Stored server item file := by
  obtain ⟨records, read, all⟩ := isLanded
  rw [readReceipts_of_canonical fun receipt inside =>
    (ledger.receipts receipt inside).1.canonical] at read
  obtain rfl := Except.ok.inj read
  obtain ⟨relpath, canonical, found⟩ := all item member
  have listed : listedPath server.unicode item.relpath = relpath := by
    rw [listedPath, canonical]
    rfl
  obtain ⟨receipt, inside, rfl⟩ := exists_receipt_of_landed found
  obtain ⟨accepted, file, isFile, named⟩ := ledger.receipts receipt inside
  obtain ⟨own, -, ownNamed, truth⟩ := ledger.files file isFile
  obtain rfl := relpath_unique named ownNamed
  rcases truth with isOwn | outstanding
  · obtain ⟨digest, size⟩ := Prod.mk.inj (Option.some.inj (isOwn.symm.trans found))
    refine ⟨file, isFile, ?_, ?_, ?_, digest, size⟩
    · rw [listed]
      exact accepted
    · rw [listed]
      exact canonical
    · rw [listed]
      exact named
  · cases settled _ outstanding

theorem eq_of_manifestEntries (read : manifestEntries unicode files = .ok entries) :
    entries = files.map fun item =>
      (listedPath unicode item.relpath, asciiLowercase item.clientSha256) := by
  induction files generalizing entries with
  | nil =>
    cases read
    rfl
  | cons item rest ih =>
    rw [manifestEntries] at read
    cases canonical : canonicalizeManifestPath unicode item.relpath with
    | error error =>
      rw [canonical] at read
      cases read
    | ok relpath =>
      rw [canonical] at read
      obtain ⟨others, readRest, rfl⟩ := exists_of_map_eq_ok read
      rw [ih readRest, map_cons, listedPath, canonical]
      rfl

/-- The tag files of an assembled commit without packages. -/
theorem exists_manifest_of_assemble
    (assembled : assemble server request = .ok tags)
    (noPackages : request.packageIndexes = [])
    (isEntries : entries = OrderedMap.collect (request.files.map fun item =>
      (listedPath server.unicode item.relpath, asciiLowercase item.clientSha256))) :
    ∃ manifest, bagitManifestText server.unicode entries = .ok manifest ∧
      tags = withTagmanifest server.receiver (tagFiles
        (bagInfoText (bagInfoMetadata server.options entries.length
          (request.files.map CommitFile.bytes).sum request.receiveFacts.skippedCount))
        manifest []) := by
  unfold assemble at assembled
  split_ifs at assembled
  obtain ⟨-, -, later⟩ := exists_of_bind_eq_ok assembled
  obtain ⟨list, read, later⟩ := exists_of_bind_eq_ok later
  obtain ⟨packages, indexed, wrote⟩ := exists_of_bind_eq_ok later
  rw [noPackages] at indexed
  obtain rfl := Except.ok.inj indexed
  rw [eq_of_manifestEntries read, ← isEntries, writeCommitted] at wrote
  cases written : writeBagitFiles server.receiver entries (bagInfoMetadata
      server.options entries.length (request.files.map CommitFile.bytes).sum
      request.receiveFacts.skippedCount) (packageIndexFile server []) with
  | error error =>
    rw [written] at wrote
    cases wrote
  | ok files =>
    rw [written] at wrote
    obtain rfl := Except.ok.inj wrote
    obtain ⟨manifest, text, rfl⟩ := exists_of_map_eq_ok written
    exact ⟨manifest, text, rfl⟩

/-- A commit that covers truthful receipts yields the bag that it lists. -/
theorem Ledger.yielded
    (ledger : Ledger server shared calls)
    (settled : ∀ call ∈ calls, call.replacedAt = none)
    (isLanded : Landed server.unicode shared.receipts request)
    (covers : Covers server.unicode shared.receipts request)
    (assembled : assemble server request = .ok tags) :
    Yielded server request { shared with tags := tags } := by
  have each : ∀ item ∈ request.files,
      ∃ file, file ∈ payloadFiles shared.data ∧ Stored server item file :=
    fun item member => ledger.exists_stored settled isLanded member
  choose! fileOf inside stored using each
  have named : ∀ file ∈ payloadFiles shared.data, ∃ item ∈ request.files, fileOf item = file := by
    rintro ⟨path, content⟩ isFile
    obtain ⟨relpath, -, pathNamed, isOwn | outstanding⟩ := ledger.files _ isFile
    swap
    · cases settled _ outstanding
    obtain ⟨receipt, received, rfl⟩ := exists_receipt_of_landed isOwn
    obtain ⟨item, isItem, same⟩ := mem_map.mp (covers.complete receipt received)
    have isNamed := same ▸ pathNamed
    refine ⟨item, isItem, ?_⟩
    have samePath : (fileOf item).1 = path :=
      Option.some.inj ((stored item isItem).named.symm.trans isNamed)
    exact inj_on_of_nodup_map ledger.sound.distinct (inside item isItem) isFile samePath
  refine ⟨?_, fun item isItem => ⟨_, inside item isItem, (stored item isItem).isMatch⟩, ?_⟩
  · intro file isFile
    obtain ⟨item, isItem, rfl⟩ := named file isFile
    exact ⟨item, isItem, (stored item isItem).isMatch⟩
  -- The files as units, in the order of the request.
  let unitOf : CommitFile → SourceEntry := fun item =>
    ⟨listedPath server.unicode item.relpath, (fileOf item).2⟩
  have received : ∀ unit ∈ request.files.map unitOf, Received server.receiver unit := by
    intro unit isUnit
    obtain ⟨item, isItem, rfl⟩ := mem_map.mp isUnit
    exact received_of_accepted (stored item isItem).accepted (stored item isItem).named
  have relpaths : (request.files.map unitOf).map SourceEntry.relpath =
      request.files.map fun item => listedPath server.unicode item.relpath := by
    rw [map_map]
    rfl
  have places : (request.files.map unitOf).map
      (fun unit => (destination unit, unit.content)) = request.files.map fileOf := by
    rw [map_map]
    refine map_congr_left fun item isItem => ?_
    exact Prod.ext (destination_of_named (stored item isItem).named) rfl
  have distinct : ((request.files.map unitOf).map SourceEntry.relpath).Nodup :=
    relpaths ▸ covers.distinct
  have files : (payloadFiles shared.data).Perm ((request.files.map unitOf).map
      fun unit => (destination unit, unit.content)) := by
    refine (perm_ext_iff_of_nodup ledger.sound.distinct.of_map ?_).mpr ?_
    · apply List.Nodup.of_map Prod.fst
      rw [map_map]
      exact nodup_destination received distinct
    · intro file
      rw [places, mem_map]
      constructor
      · exact named file
      · rintro ⟨item, isItem, rfl⟩
        exact inside item isItem
  have entries : (request.files.map unitOf).map (unitEntry server.receiver) =
      request.files.map fun item =>
        (listedPath server.unicode item.relpath, asciiLowercase item.clientSha256) := by
    rw [map_map]
    refine map_congr_left fun item isItem => ?_
    exact Prod.ext rfl (stored item isItem).digest
  obtain ⟨manifest, written, isTags⟩ := exists_manifest_of_assemble assembled
    covers.noPackages (congrArg OrderedMap.collect entries)
  obtain ⟨records, hashed, order⟩ := @exists_payloadRecords_of_files server.receiver
    (request.files.map unitOf) shared.data (Shared.bag server { shared with tags := tags })
    rfl received ledger.sound.regular files
  have count : (OrderedMap.collect ((request.files.map unitOf).map
      (unitEntry server.receiver))).length = (request.files.map unitOf).length := by
    rw [(OrderedMap.perm_collect_of_nodup ?_).length_eq, length_map]
    rw [map_map]
    exact distinct
  have bytes : (request.files.map CommitFile.bytes).sum =
      ((request.files.map unitOf).map fun unit =>
        unit.content.length).sum := by
    rw [map_map]
    refine congrArg List.sum (map_congr_left fun item isItem => ?_)
    exact (stored item isItem).size.symm
  refine (@valid_of_written server.receiver (request.files.map unitOf) _ manifest none
    server.options request.receiveFacts.skippedCount records received distinct
    hashed order written ?_ (by rintro content ⟨⟩)).1
  rw [← bytes, ← count]
  exact congrArg foundIn isTags

end Bag

/-! ## Orderly runs -/

/-- The upload counter counts the uploads. -/
def CountsUploads (config : Calls) : Prop :=
  config.shared.inFlight = config.threads.countP fun call => call.window == .uploading

/-- What holds between any two steps of an orderly run. -/
structure Consistent (server : Server) (config : Calls) : Prop where
  calls : Program.Annotated (fun _ => True) (Holds server) Beside config
  uploads : CountsUploads config
  ledger : Ledger server config.shared config.threads

section Runs

variable {config next : Calls} {move : Move Call Answer} {index : Nat}
  {answer : Answer} {call : Call}

section

variable (orderly : Orderly server config (.act index answer))
include orderly

theorem Orderly.free (present : config.threads[index]? = some (.replacing relpath path content)) :
    ∀ other ∈ config.threads, other.replacedAt ≠ some path := by
  rw [Orderly, present] at orderly
  exact orderly

theorem Orderly.receipt
    (present : config.threads[index]? = some call)
    (replaced : call.replacedAt ≠ none) :
    answer = .proceed := by
  rw [Orderly, present] at orderly
  cases call with
  | replaced relpath path content => exact orderly
  | upload | receiving | streaming | received | replacing | uploadExit | commit
  | commitClaim | commitCheck | commitRollback | commitAssemble | commitFinish
  | commitCleanup | committed | returned => exact absurd rfl replaced

theorem Orderly.covers (present : config.threads[index]? = some (.commitAssemble request)) :
    Covers server.unicode config.shared.receipts request := by
  rw [Orderly, present] at orderly
  exact orderly

end

theorem countsUploads_move
    (counts : CountsUploads config)
    (moved : (program server).move config move = some next) : CountsUploads next := by
  refine (program server).counts_move ?_ (fun taken counted => ?_) counts moved
  · intro call initial
    cases call <;> first | rfl | cases initial
  · exact (step_transit taken).inFlight_add fun uploading => counted (by simp [uploading])

theorem ledger_move
    (consistent : Consistent server config)
    (orderly : Orderly server config move)
    (moved : (program server).move config move = some next) :
    Ledger server next.shared next.threads := by
  cases move with
  | spawn call =>
    obtain ⟨-, rfl⟩ := (program server).move_spawn_eq_some moved
    exact consistent.ledger.frame rfl rfl fun _ _ _ member => mem_append_left _ member
  | act index answer =>
    obtain ⟨call, shared', call', present, taken, rfl⟩ := (program server).move_act_eq_some moved
    exact (step_transit taken).ledger consistent.ledger
      (consistent.calls.thread index call present) present (orderly.receipt present)

/-- Orderly calls stay consistent. -/
theorem consistent_move
    (config : Calls)
    (move : Move Call Answer)
    (next : Calls)
    (consistent : Consistent server config)
    (orderly : Orderly server config move)
    (moved : (program server).move config move = some next) : Consistent server next := by
  refine ⟨?_, countsUploads_move consistent.uploads moved, ledger_move consistent orderly moved⟩
  refine (program server).annotated_move
    (fun config move => Orderly server config move ∧ CountsUploads config ∧
      Ledger server config.shared config.threads)
    Beside.symm ?_ ?_ config move next consistent.calls
    ⟨orderly, consistent.uploads, consistent.ledger⟩ moved
  · rintro config call - initial ⟨orderly, -⟩
    cases call with
    | upload relpath => exact ⟨fun _ => orderly, fun _ _ _ => .of_outside rfl⟩
    | commit request => exact ⟨fun _ => trivial, fun _ _ _ => .of_outside rfl⟩
    | receiving | streaming | received | replacing | replaced | uploadExit
    | commitClaim | commitCheck | commitRollback | commitAssemble | commitFinish
    | commitCleanup | committed | returned => cases initial
  · rintro config index answer call shared' call' annotated ⟨orderly, counts, ledger⟩ present taken
    have transit := step_transit taken
    have holds := annotated.thread index call present
    refine ⟨trivial, transit.own holds ?_, ?_⟩
    · rintro request tags rfl assembled
      refine ledger.yielded (fun otherCall member => ?_) holds.2 (orderly.covers present) assembled
      obtain ⟨other, otherPresent⟩ := mem_iff_getElem?.mp member
      refine replacedAt_of_window ?_
      by_cases same : other = index
      · subst same
        rw [Option.some.inj (otherPresent.symm.trans present)]
        nofun
      · have beside := annotated.pair index other _ otherCall (Ne.symm same) present otherPresent
        rw [beside.outside_of_committing rfl]
        decide
    · intro other otherCall different otherPresent
      have otherHolds := annotated.thread other otherCall otherPresent
      have beside := annotated.pair index other call otherCall (Ne.symm different)
        present otherPresent
      have noUpload : config.shared.inFlight = 0 → otherCall.window ≠ .uploading := by
        intro idle uploading
        unfold CountsUploads at counts
        rw [idle, eq_comm, countP_eq_zero] at counts
        exact counts otherCall (mem_of_getElem? otherPresent) (by simp [uploading])
      have free : ∀ relpath path content, call = .replacing relpath path content →
          otherCall.replacedAt ≠ some path := by
        rintro relpath path content rfl
        exact orderly.free present otherCall (mem_of_getElem? otherPresent)
      exact ⟨transit.others holds otherHolds beside noUpload free,
        transit.beside otherHolds beside noUpload free⟩

theorem consistent_started (server : Server) : Consistent server started where
  calls := Program.annotated_of_idle (Holds server) Beside trivial
  uploads := rfl
  ledger := by
    refine ⟨⟨nodup_nil, ?_⟩, ?_, ?_⟩
    · rintro entry ⟨⟩
    · rintro receipt ⟨⟩
    · rintro file ⟨⟩

end Runs

/-- In every orderly run, a successful commit yields the bag that it lists. -/
theorem yielded_of_orderly
    (server : Server)
    (moves : List (Move Call Answer))
    (config : Calls)
    (reached : run (program server).move started moves = some config)
    (orderly : Transition.Admits (program server).move (Orderly server) started moves)
    (request : CommitRequest)
    (committed : .committed request ∈ config.threads) :
    Yielded server request config.shared := by
  have consistent := invariant_of_admits (program server).move
    (Consistent server) consistent_move (consistent_started server) orderly reached
  obtain ⟨index, present⟩ := mem_iff_getElem?.mp committed
  exact (consistent.calls.thread index _ present).2

/-! ## One upload and one commit -/

/-- A server whose stand-ins read plain text only. -/
def sampleServer : Server where
  receiver := plainReceiver
  options := sampleOptions
  manifestDigest _ := []
  packageIndexText _ := []

/-- The file `x` arrives in one chunk. -/
def sampleUpload : List (Move Call Answer) :=
  [.spawn (.upload ['x']), .act 0 .proceed, .act 0 .proceed,
    .act 0 (.stream [⟨sampleOptions.intakeId, ['x'], 0, [2, 3], true⟩]),
    .act 0 .proceed, .act 0 .proceed, .act 0 .proceed, .act 0 .proceed]

/-- The receipt of `x`. -/
def sampleReceipt : Receipt := receiptOf sampleServer ['x'] [2, 3]

/-- What the upload of `x` leaves. -/
def uploaded : Calls where
  shared := ⟨.streaming, none, 0, placeFile (makeParents [] [nameX]) [nameX] [2, 3],
    [sampleReceipt], []⟩
  threads := [.returned (.fileReceipt sampleReceipt)]

/-- A commit of these files, from its first line to its return. -/
def sampleCommit (request : CommitRequest) : List (Move Call Answer) :=
  .spawn (.commit request) :: List.replicate 6 (.act 1 .proceed)

def sampleRequest (files : List CommitFile) : CommitRequest :=
  ⟨files, [], ⟨canonicalizationVersion, [], 0⟩, []⟩

/-- What the commit leaves. -/
def committedWith (request : CommitRequest) (tags : List (Text × Bytes)) : Calls where
  shared := { setCommittedDigest uploaded.shared request.manifestDigest with tags := tags }
  threads := uploaded.threads ++ [.committed request]

theorem uploadFile_x (streaming : shared.state = .streaming) :
    uploadFile sampleServer shared ['x'] =
      ({ shared with inFlight := shared.inFlight + 1 }, .receiving ['x']) := by
  have valid : validateWireRelpath sampleServer.unicode ['x'] = .ok ['x'] := by
    have listed : canonicalizeManifestPath sampleServer.unicode ['x'] = .ok ['x'] :=
      canonicalizeManifestPath_x
    rw [validateWireRelpath, listed]
    rfl
  rw [uploadFile, valid]
  exact if_pos streaming

theorem move_upload_x :
    (program sampleServer).move ⟨started.shared, [.upload ['x']]⟩ (.act 0 .proceed) =
      some ⟨{ started.shared with inFlight := 1 }, [.receiving ['x']]⟩ := by
  change some (Config.mk (uploadFile sampleServer started.shared ['x']).1
    [(uploadFile sampleServer started.shared ['x']).2]) = _
  rw [uploadFile_x rfl]
  rfl

/-- The upload of `x` arrives. -/
theorem run_sampleUpload : run (program sampleServer).move started sampleUpload = some uploaded :=
  run_of_step _ rfl (run_of_step _ move_upload_x rfl)

/-- The upload of `x` is orderly. -/
theorem orderly_sampleUpload :
    Transition.Admits (program sampleServer).move (Orderly sampleServer) started
      sampleUpload := by
  have plain : Plain sampleServer.unicode ['x'] := ⟨by decide, by decide⟩
  have free : ∀ other ∈ [Call.replacing ['x'] [nameX] [2, 3]],
      other.replacedAt ≠ some [nameX] := forall_mem_singleton.mpr nofun
  exact admits_of_step _ plain rfl (admits_of_step _ trivial move_upload_x
      (admits_of_step _ trivial rfl (admits_of_step _ trivial rfl
          (admits_of_step _ trivial rfl (admits_of_step _ free rfl
              (admits_of_step _ rfl rfl (admits_of_step _ trivial rfl trivial)))))))

section Commit

variable {request : CommitRequest} {tags : List (Text × Bytes)}

theorem commitCheck_uploaded
    (noMissing : missingRelpaths plainUnicode [sampleReceipt.record] request.files = .ok []) :
    commitCheck sampleServer { uploaded.shared with state := .committing } request =
      .commitAssemble request := by
  have read : readReceipts plainUnicode [sampleReceipt] = .ok [sampleReceipt.record] :=
    readReceipts_of_canonical (forall_mem_singleton.mpr canonicalizeManifestPath_x)
  have checked : ((readReceipts sampleServer.unicode uploaded.shared.receipts).bind
      fun records => reuploadRelpaths sampleServer.unicode records request.files) = .ok [] := by
    change ((readReceipts plainUnicode [sampleReceipt]).bind _) = _
    rw [read]
    change reuploadRelpaths plainUnicode _ _ = _
    rw [reuploadRelpaths, noMissing]
    rfl
  rw [commitCheck, checked]

/-- The calls when a commit has begun. -/
def committing (tags : List (Text × Bytes)) (call : Call) : Calls where
  shared := { uploaded.shared with state := .committing, tags := tags }
  threads := uploaded.threads ++ [call]

theorem move_commitCheck
    (noMissing : missingRelpaths plainUnicode [sampleReceipt.record] request.files = .ok []) :
    (program sampleServer).move (committing [] (.commitCheck request)) (.act 1 .proceed) =
      some (committing [] (.commitAssemble request)) := by
  have checked : commitCheck sampleServer
      (committing [] (.commitCheck request)).shared request = .commitAssemble request :=
    commitCheck_uploaded noMissing
  change some (Config.mk (committing [] (.commitCheck request)).shared
    (uploaded.threads ++ [commitCheck sampleServer _ request])) = _
  rw [checked]
  rfl

theorem move_commitAssemble (assembled : assemble sampleServer request = .ok tags) :
    (program sampleServer).move (committing [] (.commitAssemble request)) (.act 1 .proceed) =
      some (committing tags (.commitFinish request)) := by
  change (commitAssemble sampleServer _ request .proceed).map _ = _
  rw [commitAssemble, assembled]
  rfl

section

variable (noMissing : missingRelpaths plainUnicode [sampleReceipt.record] request.files = .ok [])
include noMissing

/-- A commit that misses no file and assembles its bag succeeds. -/
theorem run_sampleCommit (assembled : assemble sampleServer request = .ok tags) :
    run (program sampleServer).move uploaded (sampleCommit request) =
      some (committedWith request tags) :=
  run_of_step _ rfl (run_of_step _ rfl (run_of_step _ rfl
        (run_of_step _ (move_commitCheck noMissing)
          (run_of_step _ (move_commitAssemble assembled) rfl))))

theorem run_sample (assembled : assemble sampleServer request = .ok tags) :
    run (program sampleServer).move started (sampleUpload ++ sampleCommit request) =
      some (committedWith request tags) := by
  rw [run_append, run_sampleUpload]
  exact run_sampleCommit noMissing assembled

end

end Commit

/-- A commit with an empty list succeeds and leaves the uploaded file in the bag. -/
theorem not_commitLaw : ¬ CommitLaw := by
  intro law
  obtain ⟨tags, assembled⟩ : ∃ tags, assemble sampleServer (sampleRequest []) =
      .ok tags := ⟨_, rfl⟩
  have yielded := law sampleServer _ _ (run_sample rfl assembled) (sampleRequest [])
    (mem_of_getElem? (i := 1) rfl)
  have isFile : ([nameX], [2, 3]) ∈
      payloadFiles (committedWith (sampleRequest []) tags).shared.data :=
    mem_of_getElem? (i := 0) rfl
  obtain ⟨item, isItem, -⟩ := yielded.listed _ isFile
  cases isItem

/-- The list of the uploaded file. -/
def listX : CommitRequest := sampleRequest [⟨['x'], countingDigest [2, 3], 2⟩]

/-- A commit that lists the uploaded file yields its bag. -/
theorem yielded_of_orderly_single : ∃ tags, run (program sampleServer).move started
        (sampleUpload ++ sampleCommit listX) = some (committedWith listX tags) ∧
      Yielded sampleServer listX (committedWith listX tags).shared := by
  have lower := (isDigest_countingDigest [2, 3]).asciiLowercase_eq
  have noMissing : missingRelpaths plainUnicode [sampleReceipt.record] listX.files = .ok [] := by
    change (canonicalizeManifestPath plainUnicode ['x']).bind _ = _
    rw [canonicalizeManifestPath_x]
    rfl
  obtain ⟨tags, assembled⟩ : ∃ tags, assemble sampleServer listX = .ok tags := by
    have entries : manifestEntries plainUnicode listX.files =
        .ok [(['x'], countingDigest [2, 3])] := by
      simp only [listX, sampleRequest, manifestEntries, canonicalizeManifestPath_x]
      rfl
    have manifest : bagitManifestText sampleServer.receiver.toUnicode
        [(['x'], countingDigest [2, 3])] = .ok _ :=
      congrArg (Except.map joinLines)
        (@bagitManifestLines_single ['x'] ['x'] [2, 3] canonicalizeManifestPath_x)
    change ∃ tags, (manifestEntries plainUnicode listX.files).bind (fun entries =>
      writeCommitted sampleServer listX (OrderedMap.collect entries) []) = .ok tags
    rw [entries]
    change ∃ tags, writeCommitted sampleServer listX [(['x'], countingDigest [2, 3])] [] = .ok tags
    exact ⟨_, rfl⟩
  have listed : listedPath plainUnicode ['x'] = ['x'] := by
    rw [listedPath, canonicalizeManifestPath_x]
    rfl
  have covers : Covers plainUnicode [sampleReceipt] listX := by
    refine ⟨nodup_singleton _, forall_mem_singleton.mpr ?_, rfl⟩
    exact mem_singleton.mpr listed.symm
  have reached := run_sample noMissing assembled
  refine ⟨tags, reached, yielded_of_orderly sampleServer _ _ reached ?_ listX
    (mem_of_getElem? (i := 1) rfl)⟩
  refine admits_append _ orderly_sampleUpload fun middle ended => ?_
  rw [Option.some.inj (ended.symm.trans run_sampleUpload)]
  exact admits_of_step _ trivial rfl (admits_of_step _ trivial rfl (admits_of_step _ trivial rfl
    (admits_of_step _ trivial (move_commitCheck noMissing)
      (admits_of_step _ covers (move_commitAssemble assembled)
        (admits_of_step _ trivial rfl (admits_of_step _ trivial rfl trivial))))))

end Assembly
end Intake
end Sutradhara
