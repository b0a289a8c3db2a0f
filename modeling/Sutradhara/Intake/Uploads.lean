import Sutradhara.Foundation.Splitting
import Sutradhara.Intake.Assembly

/-!
# What uploads and commits rely on

Every step of a call is listed once with everything that it can do.  From that list
follows what a call may rely on between two of its steps: an upload that its path is
accepted and that no commit has begun, a commit that nothing but itself touches the
intake, and a finished commit that nothing does.
-/

namespace Sutradhara
namespace Intake
namespace Assembly

open Foundation List
open Foundation.Interleaving
open Foundation.Raising
open Foundation.Splitting
open Receive

/-! ## Paths that are accepted -/

section Wire

variable {unicode : Unicode} {relpath raw : Text}

theorem mem_of_mem_stripDotSlash (member : char ∈ stripDotSlash text) : char ∈ text := by
  fun_induction stripDotSlash text with
  | case1 rest ih => exact mem_cons_of_mem _ (mem_cons_of_mem _ (ih member))
  | case2 text _ => exact member

theorem mem_of_mem_stripData (member : char ∈ stripData text) : char ∈ text := by
  unfold stripData at member
  split at member
  · simp [member]
  · exact member

/-- Components without a backslash are no escapes. -/
theorem properEscapes_of_noBackslash
    (noSlash : ∀ component ∈ components, '/' ∉ component)
    (noBackslash : ∀ component ∈ components, '\\' ∉ component) : ProperEscapes components := by
  intro component member notEmpty notDot notDots raw read
  have unescaped := eq_ok_of_toOption_eq_some read
  have clean := isClean_of_unescapeFrom (noBackslash component member) unescaped
  rw [Except.ok.inj (unescaped.symm.trans (unescapeFrom_of_isClean clean 0)),
    properBytes_encodeUtf8_iff]
  exact ⟨notEmpty, notDot, notDots, noSlash component member⟩

/-- The canonical form of a path without a backslash, component by component. -/
theorem exists_parts_of_canonicalizeManifestPath
    (noBackslash : '\\' ∉ raw)
    (listed : canonicalizeManifestPath unicode raw = .ok canonical) :
    ∃ parts, canonical = ['/'].intercalate parts ∧ parts ≠ [] ∧
      ∀ part ∈ parts, CanonicalPart unicode part := by
  obtain ⟨parts, read, joined⟩ := exists_of_bind_eq_ok listed
  unfold joinCanonicalParts at joined
  split_ifs at joined with empty
  refine ⟨parts, (Except.ok.inj joined).symm, empty, fun part =>
    CanonicalPart.of_canonicalManifestParts
      (properEscapes_of_noBackslash (fun _ => notMem_of_mem_splitOn) ?_) read⟩
  intro component member inside
  have stripped := mem_of_mem_stripData (mem_of_mem_splitOn member inside)
  exact noBackslash (mem_of_mem_stripDotSlash ((dropWhile_suffix _).subset stripped))

/-- What an orderly run knows of a path that has passed the checks of an upload. -/
structure Accepted (unicode : Unicode) (relpath : Text) : Prop where
  canonical : canonicalizeManifestPath unicode relpath = .ok relpath
  notBelowData : "data/".toList.isPrefixOf relpath = false
  plain : Plain unicode relpath

theorem accepted_of_validateWireRelpath
    (valid : validateWireRelpath unicode raw = .ok relpath)
    (plain : Plain unicode raw) : Accepted unicode relpath := by
  unfold validateWireRelpath at valid
  split_ifs at valid with below unsafeParts
  cases listed : canonicalizeManifestPath unicode raw with
  | error error =>
    rw [listed] at valid
    cases valid
  | ok canonical =>
    rw [listed] at valid
    dsimp only at valid
    split_ifs at valid with differs
    obtain rfl := Except.ok.inj valid
    obtain rfl := not_not.mp differs
    exact ⟨listed, Bool.not_eq_true _ ▸ below, plain⟩

/-- An accepted path is stored, listed and found as it is. -/
theorem Accepted.storedPath (accepted : Accepted unicode relpath) :
    StoredPath unicode relpath (relpath.splitOn '/') ∧
      (relpath.splitOn '/').map (canonicalText unicode) = relpath.splitOn '/' := by
  obtain ⟨noBackslash, above⟩ := accepted.plain
  obtain ⟨parts, joined, some, canonical⟩ :=
    exists_parts_of_canonicalizeManifestPath noBackslash accepted.canonical
  have proper : ∀ part ∈ parts, ProperText part :=
    fun part member => (canonical part member).properText
  have split : relpath.splitOn '/' = parts := by rw [joined, splitOn_join proper some]
  have clean : ∀ part ∈ parts, part.all isClean = true := fun part member =>
    (canonical part member).isClean fun inside =>
      noBackslash (mem_of_mem_splitOn (split ▸ member) inside)
  have stays : parts.map (canonicalText unicode) = parts := by
    refine (map_congr_left fun part member => ?_).trans (map_id _)
    exact (canonical part member).canonicalText_eq (clean part member)
  have notData := withoutData_of_isPrefixOf_false (joined ▸ accepted.notBelowData)
  rw [split] at above ⊢
  refine ⟨⟨joined, some, proper, clean, notData, by rw [stays, notData], ?_⟩, stays⟩
  intro count inside positive
  rw [map_take, stays]
  refine above _ ?_ ?_
  · rw [mem_inits, dropLast_eq_take]
    exact take_prefix_take_left (by omega)
  · intro empty
    have length := congrArg List.length empty
    rw [length_take, length_nil] at length
    omega

/-- Names come from one path only. -/
theorem relpath_unique
    {second : Text}
    (namedFirst : payloadNames (first.splitOn '/') = some path)
    (namedSecond : payloadNames (second.splitOn '/') = some path) : first = second := by
  have parts := (spells_of_payloadNames namedFirst).text_unique (spells_of_payloadNames namedSecond)
  rw [← @List.intercalate_splitOn _ first _ _ '/', parts, intercalate_splitOn]

end Wire

/-! ## The payload directory -/

section Payload

variable {unicode : Unicode} {data : List PayloadEntry} {path : List FileName} {content : Bytes}

theorem received_of_accepted
    {receiver : Receiver}
    {unit : SourceEntry}
    (accepted : Accepted receiver.toUnicode unit.relpath)
    (named : payloadNames (unit.relpath.splitOn '/') = some path) : Received receiver unit := by
  obtain ⟨stored, stays⟩ := accepted.storedPath
  refine ⟨?_, _, stored, ?_⟩
  · rw [destination_of_named named]
    exact named
  · rw [stays]
    exact stored.join

/-- Every entry is a file or a directory that is no package, and no path has two
files. -/
structure Sound (unicode : Unicode) (data : List PayloadEntry) : Prop where
  distinct : ((payloadFiles data).map Prod.fst).Nodup
  regular : ∀ entry ∈ data, entry.path ≠ [] ∧
    ((∃ content, entry.kind = .file content) ∨
      entry.kind = .directory ∧
        isPackageBoundary unicode (canonicalPath unicode entry.path) = false)

theorem payloadFiles_makeParents : payloadFiles (makeParents data path) = payloadFiles data := by
  simp only [makeParents, payloadFiles, filterMap_append]
  exact congrArg (· ++ _) payloadFiles_directories

theorem mem_payloadFiles_placeFile : file ∈ payloadFiles (placeFile data path content) ↔
      file = (path, content) ∨ file ∈ payloadFiles data ∧ file.1 ≠ path := by
  rw [mem_payloadFiles_iff, mem_payloadFiles_iff, placeFile, mem_cons,
    mem_filter, decide_eq_true_eq, PayloadEntry.mk.injEq, EntryKind.file.injEq, Prod.mk.injEq]

theorem Sound.makeParents
    (sound : Sound unicode data)
    (plain : ∀ parent ∈ parents path,
      isPackageBoundary unicode (canonicalPath unicode parent) = false) :
    Sound unicode (makeParents data path) := by
  refine ⟨by rw [payloadFiles_makeParents]; exact sound.distinct, ?_⟩
  intro entry member
  rcases mem_append.mp member with made | before
  · obtain ⟨parent, missing, rfl⟩ := mem_map.mp made
    have above := (mem_filter.mp missing).1
    exact ⟨(mem_parents_iff.mp above).2, .inr ⟨rfl, plain parent above⟩⟩
  · exact sound.regular entry before

theorem Sound.placeFile (sound : Sound unicode data) (rooted : path ≠ []) :
    Sound unicode (placeFile data path content) := by
  refine ⟨nodup_paths_placed sound.distinct, ?_⟩
  intro entry member
  rcases mem_cons.mp member with rfl | before
  · exact ⟨rooted, .inl ⟨content, rfl⟩⟩
  · exact sound.regular entry (mem_filter.mp before).1

end Payload

/-! ## Receipts -/

section Receipts

variable {unicode : Unicode} {receipts : List Receipt} {relpath : Text}

/-- A receipt as a record of the ledger. -/
def Receipt.record (receipt : Receipt) : Text × Text × Nat :=
  (receipt.relpath, receipt.serverSha256, receipt.bytes)

theorem readReceipts_of_canonical (canonical : ∀ receipt ∈ receipts,
      canonicalizeManifestPath unicode receipt.relpath = .ok receipt.relpath) :
    readReceipts unicode receipts = .ok (receipts.map Receipt.record) := by
  induction receipts with
  | nil => rfl
  | cons receipt rest ih =>
    rw [readReceipts, canonical receipt mem_cons_self,
      ih fun other member => canonical other (mem_cons_of_mem _ member)]
    rfl

/-- The last receipt of a path counts. -/
theorem landed_append (receipt : Receipt) :
    landed ((receipts ++ [receipt]).map Receipt.record) relpath =
      if relpath = receipt.relpath then some (receipt.serverSha256, receipt.bytes)
      else landed (receipts.map Receipt.record) relpath := by
  rw [landed, map_append, reverse_append]
  exact OrderedMap.lookup_cons_eq_ite relpath receipt.record _

theorem exists_receipt_of_landed
    (isLanded : landed (receipts.map Receipt.record) relpath = some found) :
    ∃ receipt ∈ receipts, receipt.relpath = relpath := by
  have member := OrderedMap.mem_of_lookup isLanded
  rw [mem_reverse] at member
  obtain ⟨receipt, inside, same⟩ := mem_map.mp member
  exact ⟨receipt, inside, congrArg Prod.fst same⟩

/-- Every entry of a request has a receipt with its digest and size. -/
def Landed (unicode : Unicode) (receipts : List Receipt) (request : CommitRequest) : Prop :=
  ∃ records, readReceipts unicode receipts = .ok records ∧
    ∀ item ∈ request.files, ∃ relpath,
      canonicalizeManifestPath unicode item.relpath = .ok relpath ∧
        landed records relpath = some (asciiLowercase item.clientSha256, item.bytes)

theorem landed_of_missingRelpaths (none : missingRelpaths unicode records files = .ok []) :
    ∀ item ∈ files, ∃ relpath, canonicalizeManifestPath unicode item.relpath = .ok relpath ∧
        landed records relpath = some (asciiLowercase item.clientSha256, item.bytes) := by
  induction files with
  | nil => rintro item ⟨⟩
  | cons item rest ih =>
    obtain ⟨relpath, listed, later⟩ := exists_of_bind_eq_ok none
    obtain ⟨missing, read, same⟩ := exists_of_map_eq_ok later
    split_ifs at same with isLanded
    subst same
    intro other member
    rcases mem_cons.mp member with rfl | further
    · exact ⟨relpath, listed, isLanded⟩
    · exact ih read other further

end Receipts

/-! ## What a step can do -/

variable {server : Server}

/-- An upload is counted from its lock to its `finally` block; a commit runs from its
compare-and-set to its last state write. -/
def Call.window : Call → Window
  | .receiving _ | .streaming _ _ | .received _ _ _ | .replacing _ _ _
  | .replaced _ _ _ | .uploadExit _ => .uploading
  | .commitCheck _ | .commitRollback _ | .commitAssemble _
  | .commitFinish _ => .committing
  | _ => .outside

/-- Everything a step can do. -/
inductive Transit (server : Server) (answer : Answer) :
    Shared → Call → Shared → Call → Prop
  | finish {shared call reply}
      (window : call.window ≠ .uploading) :
      Transit server answer shared call shared (.returned reply)
  | fail {shared call reply}
      (window : call.window = .uploading)
      (notReplaced : call.replacedAt = none) :
      Transit server answer shared call shared (.uploadExit reply)
  | enterUpload {shared raw relpath}
      (valid : validateWireRelpath server.unicode raw = .ok relpath)
      (streaming : shared.state = .streaming) :
      Transit server answer shared (.upload raw)
        { shared with inFlight := shared.inFlight + 1 } (.receiving relpath)
  | locate {shared relpath path}
      (named : payloadNames (relpath.splitOn '/') = some path) :
      Transit server answer shared (.receiving relpath) shared (.streaming relpath path)
  | receive {shared relpath path content} :
      Transit server answer shared (.streaming relpath path) shared (.received relpath path content)
  | loseLease {shared relpath path reply} :
      Transit server answer shared (.streaming relpath path)
        (failIntakeAfterLeaseLoss shared) (.uploadExit reply)
  | makeParents {shared relpath path content} :
      Transit server answer shared (.received relpath path content)
        { shared with data := makeParents shared.data path }
        (.replacing relpath path content)
  | place {shared relpath path content} :
      Transit server answer shared (.replacing relpath path content)
        { shared with data := placeFile shared.data path content }
        (.replaced relpath path content)
  | loseReceipt {shared relpath path content}
      (raised : answer = .raised) :
      Transit server answer shared (.replaced relpath path content) shared (.uploadExit .raised)
  | appendReceipt {shared relpath path content reply} :
      Transit server answer shared (.replaced relpath path content)
        { shared with receipts := shared.receipts ++ [receiptOf server relpath content] }
        (.uploadExit reply)
  | leaveUpload {shared reply} :
      Transit server answer shared (.uploadExit reply) (leaveUpload shared) (.returned reply)
  | readRow {shared request} :
      Transit server answer shared (.commit request) shared (.commitClaim request)
  | claim {shared request}
      (idle : shared.inFlight = 0)
      (streaming : shared.state = .streaming) :
      Transit server answer shared (.commitClaim request)
        { shared with state := .committing } (.commitCheck request)
  | check {shared request}
      (isLanded : Landed server.unicode shared.receipts request) :
      Transit server answer shared (.commitCheck request) shared (.commitAssemble request)
  | reject {shared call reply}
      (window : call.window = .committing) :
      Transit server answer shared call shared (.commitRollback reply)
  | rollback {shared reply} :
      Transit server answer shared (.commitRollback reply)
        { shared with state := .streaming } (.returned reply)
  | assemble {shared request tags}
      (assembled : assemble server request = .ok tags) :
      Transit server answer shared (.commitAssemble request)
        { shared with tags := tags } (.commitFinish request)
  | commit {shared request} :
      Transit server answer shared (.commitFinish request)
        (setCommittedDigest shared request.manifestDigest) (.commitCleanup request)
  | succeed {shared request} :
      Transit server answer shared (.commitCleanup request) shared (.committed request)

section Steps

variable {shared shared' : Shared} {call' : Call} {answer : Answer} {relpath : Text}
  {path : List FileName} {content : Bytes} {request : CommitRequest}

theorem uploadFile_transit (shared : Shared) (raw : Text) :
    Transit server answer shared (.upload raw) (uploadFile server shared raw).1
      (uploadFile server shared raw).2 := by
  unfold uploadFile
  cases valid : validateWireRelpath server.unicode raw with
  | error reply => exact .finish nofun
  | ok relpath =>
    dsimp only
    by_cases streaming : shared.state = .streaming
    · rw [if_pos streaming]
      exact .enterUpload valid streaming
    · rw [if_neg streaming]
      exact .finish nofun

/-- The destination of a file is the path that its names spell. -/
theorem payloadNames_of_safePayloadPath (safe : safePayloadPath entries relpath = .ok path) :
    payloadNames (relpath.splitOn '/') = some path := by
  unfold safePayloadPath at safe
  cases names : payloadNames (relpath.splitOn '/') with
  | none =>
    rw [names] at safe
    cases safe
  | some other =>
    rw [names] at safe
    dsimp only at safe
    cases blocked : (parents other).find? fun parent =>
        kindAt entries parent ≠ none ∧ kindAt entries parent ≠ some .directory with
    | some parent =>
      rw [blocked] at safe
      cases safe
    | none =>
      rw [blocked] at safe
      exact congrArg some (Except.ok.inj safe)

theorem locate_transit (taken : locate shared relpath answer = some (shared', call')) :
    Transit server answer shared (.receiving relpath) shared' call' := by
  cases answer with
  | proceed =>
    simp only [Assembly.locate] at taken
    cases safe : safePayloadPath shared.data relpath with
    | error error =>
      rw [safe] at taken
      cases taken
      exact .fail rfl rfl
    | ok path =>
      rw [safe] at taken
      cases taken
      exact .locate (payloadNames_of_safePayloadPath safe)
  | raised =>
    cases taken
    exact .fail rfl rfl
  | stream | leaseLost => cases taken

theorem receiveStream_transit
    (taken : receiveStream server shared relpath path answer = some (shared', call')) :
    Transit server answer shared (.streaming relpath path) shared' call' := by
  cases answer with
  | stream chunks =>
    simp only [receiveStream] at taken
    cases read : receiveChunks server.options.intakeId relpath [] chunks with
    | error detail =>
      rw [read] at taken
      cases taken
      exact .fail rfl rfl
    | ok content =>
      rw [read] at taken
      cases taken
      exact .receive
  | leaseLost =>
    cases taken
    exact .loseLease
  | raised =>
    cases taken
    exact .fail rfl rfl
  | proceed => cases taken

theorem commitIntake_transit :
    Transit server answer shared (.commit request) shared (commitIntake shared request) := by
  unfold commitIntake
  cases shared.state with
  | streaming | committing => exact .readRow
  | aborted => exact .finish nofun
  | committed =>
    split_ifs
    · exact .finish nofun
    · exact .finish nofun

theorem commitClaim_transit (shared : Shared) (request : CommitRequest) :
    Transit server answer shared (.commitClaim request) (commitClaim shared request).1
      (commitClaim shared request).2 := by
  unfold commitClaim
  by_cases busy : shared.inFlight ≠ 0
  · rw [if_pos busy]
    exact .finish nofun
  · rw [if_neg busy]
    by_cases streaming : shared.state = .streaming
    · rw [if_pos streaming]
      exact .claim (not_not.mp busy) streaming
    · rw [if_neg streaming]
      exact .finish nofun

theorem commitCheck_transit : Transit server answer shared (.commitCheck request) shared
      (commitCheck server shared request) := by
  unfold commitCheck
  cases checked : (readReceipts server.unicode shared.receipts).bind fun records =>
      reuploadRelpaths server.unicode records request.files with
  | error error => exact .finish nofun
  | ok missing =>
    cases missing with
    | nil =>
      obtain ⟨records, read, none⟩ := exists_of_bind_eq_ok checked
      -- A sorted list is empty when the list is.
      obtain ⟨missing, listed, sorted⟩ := exists_of_map_eq_ok none
      have length := (perm_insertionSort (fun first second => first ≤ second) missing).length_eq
      rw [sorted] at length
      rw [length_eq_zero_iff.mp length.symm] at listed
      exact .check ⟨records, read, landed_of_missingRelpaths listed⟩
    | cons relpath rest => exact .reject rfl

theorem commitAssemble_transit
    (taken : commitAssemble server shared request answer = some (shared', call')) :
    Transit server answer shared (.commitAssemble request) shared' call' := by
  cases answer with
  | proceed =>
    simp only [commitAssemble] at taken
    cases assembled : Assembly.assemble server request with
    | error error =>
      rw [assembled] at taken
      cases taken
      exact .reject rfl
    | ok tags =>
      rw [assembled] at taken
      cases taken
      exact .assemble assembled
  | raised =>
    cases taken
    exact .finish nofun
  | stream | leaseLost => cases taken

/-- Every step is one of the listed transitions. -/
theorem step_transit
    (taken : (program server).step self shared call answer = some (shared', call')) :
    Transit server answer shared call shared' call' := by
  cases call with
  | upload raw =>
    have transit := @uploadFile_transit server answer shared raw
    rw [Option.some.inj taken] at transit
    exact transit
  | receiving relpath => exact locate_transit taken
  | streaming relpath path => exact receiveStream_transit taken
  | received relpath path content =>
    cases answer with
    | proceed =>
      change (if _ then _ else _) = _ at taken
      split_ifs at taken <;> cases taken
      · exact .makeParents
      · exact .fail rfl rfl
    | raised =>
      cases taken
      exact .fail rfl rfl
    | stream | leaseLost => cases taken
  | replacing relpath path content =>
    cases answer with
    | proceed =>
      change (if _ then _ else _) = _ at taken
      split_ifs at taken <;> cases taken
      · exact .fail rfl rfl
      · exact .place
    | raised =>
      cases taken
      exact .fail rfl rfl
    | stream | leaseLost => cases taken
  | replaced relpath path content =>
    cases answer with
    | proceed =>
      cases taken
      exact .appendReceipt
    | raised =>
      cases taken
      exact .loseReceipt rfl
    | stream | leaseLost => cases taken
  | uploadExit reply =>
    cases taken
    exact .leaveUpload
  | commit request =>
    cases taken
    exact commitIntake_transit
  | commitClaim request =>
    have transit := @commitClaim_transit server answer shared request
    rw [Option.some.inj taken] at transit
    exact transit
  | commitCheck request =>
    cases taken
    exact commitCheck_transit
  | commitRollback reply =>
    cases answer <;> cases taken
    · exact .rollback
    · exact .finish nofun
  | commitAssemble request => exact commitAssemble_transit taken
  | commitFinish request =>
    cases answer <;> cases taken
    · exact .commit
    · exact .finish nofun
  | commitCleanup request =>
    cases answer <;> cases taken
    · exact .succeed
    · exact .finish nofun
  | committed | returned => cases taken

end Steps

/-! ## What every call knows -/

/-- Uploads may be under way. -/
def Open (shared : Shared) : Prop := shared.state ≠ .committing ∧ shared.state ≠ .committed

/-- An upload of an accepted path to the place that it names. -/
structure Placing (server : Server) (shared : Shared) (relpath : Text)
    (path : List FileName) : Prop where
  isOpen : Open shared
  accepted : Accepted server.unicode relpath
  named : payloadNames (relpath.splitOn '/') = some path

theorem Placing.reopen (placing : Placing server shared relpath path) (isOpen : Open shared') :
    Placing server shared' relpath path :=
  ⟨isOpen, placing.accepted, placing.named⟩

/-- What a call relies on between two of its steps. -/
def Holds (server : Server) (shared : Shared) (_index : Nat) : Call → Prop
  | .upload relpath => Plain server.unicode relpath
  | .receiving relpath => Open shared ∧ Accepted server.unicode relpath
  | .streaming relpath path | .received relpath path _ | .replacing relpath path _ =>
    Placing server shared relpath path
  | .replaced relpath path content =>
    Placing server shared relpath path ∧ (path, content) ∈ payloadFiles shared.data
  | .uploadExit _ => Open shared
  | .commitCheck _ | .commitRollback _ => shared.state = .committing
  | .commitAssemble request =>
    shared.state = .committing ∧ Landed server.unicode shared.receipts request
  | .commitFinish request => shared.state = .committing ∧ Yielded server request shared
  | .commitCleanup request | .committed request =>
    shared.state = .committed ∧ Yielded server request shared
  | .commit _ | .commitClaim _ | .returned _ => True

/-- Two calls stand in compatible windows, and no two of them have replaced one
file. -/
def Beside (first second : Call) : Prop :=
  first.window.compatible second.window = true ∧
    ∀ path, first.replacedAt = some path → second.replacedAt ≠ some path

theorem Beside.symm (first second : Call) (beside : Beside first second) : Beside second first :=
  ⟨Window.compatible_symm _ _ beside.1, fun path own others => beside.2 path others own⟩

section Calls

variable {answer : Answer} {shared shared' : Shared} {call call' otherCall : Call}
  {index other : Nat}

theorem Holds.isOpen
    (holds : Holds server shared index call)
    (window : call.window = .uploading) : Open shared := by
  cases call with
  | receiving relpath => exact holds.1
  | streaming relpath path => exact Placing.isOpen holds
  | received relpath path content => exact Placing.isOpen holds
  | replacing relpath path content => exact Placing.isOpen holds
  | replaced relpath path content => exact holds.1.isOpen
  | uploadExit reply => exact holds
  | upload | commit | commitClaim | commitCheck | commitRollback | commitAssemble
  | commitFinish | commitCleanup | committed | returned => cases window

theorem Holds.committing
    (holds : Holds server shared index call)
    (window : call.window = .committing) : shared.state = .committing := by
  cases call with
  | commitCheck request => exact holds
  | commitRollback reply => exact holds
  | commitAssemble request => exact holds.1
  | commitFinish request => exact holds.1
  | upload | receiving | streaming | received | replacing | replaced | uploadExit
  | commit | commitClaim | commitCleanup | committed | returned => cases window

theorem open_of_streaming (streaming : shared.state = .streaming) : Open shared := by
  constructor <;> rw [streaming] <;> decide

theorem Open.failIntakeAfterLeaseLoss (isOpen : Open shared) :
    Open (failIntakeAfterLeaseLoss shared) := by
  unfold Assembly.failIntakeAfterLeaseLoss
  split_ifs
  · exact ⟨nofun, nofun⟩
  · exact isOpen

theorem replacedAt_of_window (window : call.window ≠ .uploading) : call.replacedAt = none := by
  cases call with
  | replaced relpath path content => exact absurd rfl window
  | upload | receiving | streaming | received | replacing | uploadExit | commit
  | commitClaim | commitCheck | commitRollback | commitAssemble | commitFinish
  | commitCleanup | committed | returned => rfl

/-- A step leaves its own call with what it relies on next; the tag files of a commit
are taken on trust here. -/
theorem Transit.own
    (transit : Transit server answer shared call shared' call')
    (holds : Holds server shared index call)
    (yields : ∀ request tags, call = .commitAssemble request →
      Assembly.assemble server request = .ok tags →
      Yielded server request { shared with tags := tags }) :
    Holds server shared' index call' := by
  cases transit with
  | finish => trivial
  | fail window => exact holds.isOpen window
  | enterUpload valid streaming =>
    exact ⟨open_of_streaming streaming, accepted_of_validateWireRelpath valid holds⟩
  | locate named => exact ⟨holds.1, holds.2, named⟩
  | receive => exact holds
  | loseLease => exact (Placing.isOpen holds).failIntakeAfterLeaseLoss
  | makeParents =>
    have isOpen := holds.isOpen rfl
    exact Placing.reopen holds isOpen
  | place =>
    have isOpen := holds.isOpen rfl
    exact ⟨Placing.reopen holds isOpen, mem_payloadFiles_placeFile.mpr (.inl rfl)⟩
  | loseReceipt => exact holds.1.isOpen
  | appendReceipt =>
    have isOpen := holds.1.isOpen
    exact isOpen
  | leaveUpload | readRow | rollback => trivial
  | claim => rfl
  | check isLanded => exact ⟨holds, isLanded⟩
  | reject window => exact holds.committing window
  | assemble assembled => exact ⟨holds.1, yields _ _ rfl assembled⟩
  | commit => exact ⟨rfl, holds.2.listed, holds.2.present, holds.2.valid⟩
  | succeed => exact holds

/-- The upload counter is nothing that a call relies on. -/
theorem Holds.withInFlight (holds : Holds server shared index call) :
    Holds server { shared with inFlight := inFlight } index call := by
  cases call with
  | streaming | received | replacing =>
    have isOpen := holds.isOpen rfl
    exact Placing.reopen holds isOpen
  | replaced =>
    have isOpen := holds.isOpen rfl
    exact ⟨holds.1.reopen isOpen, holds.2⟩
  | commitFinish | commitCleanup | committed =>
    exact ⟨holds.1, holds.2.listed, holds.2.present, holds.2.valid⟩
  | upload | receiving | uploadExit | commit | commitClaim | commitCheck
  | commitRollback | commitAssemble | returned => exact holds

/-- While uploads are open, a call relies on nothing but them being open and on the
file that it has replaced. -/
theorem Holds.of_open
    (holds : Holds server shared index call)
    (isOpen : Open shared)
    (staysOpen : Open shared')
    (kept : ∀ path content, call.replacedAt = some path →
      (path, content) ∈ payloadFiles shared.data → (path, content) ∈ payloadFiles shared'.data) :
    Holds server shared' index call := by
  cases call with
  | upload relpath => exact holds
  | receiving relpath => exact ⟨staysOpen, holds.2⟩
  | streaming | received | replacing => exact Placing.reopen holds staysOpen
  | replaced relpath path content =>
    exact ⟨holds.1.reopen staysOpen, kept path content rfl holds.2⟩
  | uploadExit reply => exact staysOpen
  | commitCheck request => exact absurd holds isOpen.1
  | commitRollback reply => exact absurd holds isOpen.1
  | commitAssemble request => exact absurd holds.1 isOpen.1
  | commitFinish request => exact absurd holds.1 isOpen.1
  | commitCleanup request => exact absurd holds.1 isOpen.2
  | committed request => exact absurd holds.1 isOpen.2
  | commit | commitClaim | returned => trivial

/-- Outside of every window and before the commit, a call relies on nothing. -/
theorem Holds.of_outside
    (holds : Holds server shared index call)
    (window : call.window = .outside)
    (state : shared.state ≠ .committed) :
    Holds server shared' index call := by
  cases call with
  | upload relpath => exact holds
  | commit | commitClaim | returned => trivial
  | commitCleanup request => exact absurd holds.1 state
  | committed request => exact absurd holds.1 state
  | receiving | streaming | received | replacing | replaced | uploadExit | commitCheck
  | commitRollback | commitAssemble | commitFinish => cases window

theorem Beside.of_outside (window : call.window = .outside) : Beside call otherCall := by
  constructor
  · rw [window]
    cases otherCall.window <;> rfl
  · intro path replaced
    rw [replacedAt_of_window (by rw [window]; decide)] at replaced
    cases replaced

theorem Beside.of_window_eq
    (beside : Beside call otherCall)
    (window : call'.window = call.window)
    (apart : ∀ path, call'.replacedAt = some path → otherCall.replacedAt ≠ some path) :
    Beside call' otherCall :=
  ⟨by rw [window]; exact beside.1, apart⟩

/-- Beside a commit every other call is outside its window. -/
theorem Beside.outside_of_committing
    (beside : Beside call otherCall)
    (window : call.window = .committing) : otherCall.window = .outside := by
  have compatible := beside.1
  rw [window] at compatible
  cases otherWindow : otherCall.window with
  | outside => rfl
  | uploading | committing | aborting =>
    rw [otherWindow] at compatible
    cases compatible

section

variable (transit : Transit server answer shared call shared' call')
include transit

/-- A step keeps what every other call relies on. -/
theorem Transit.others
    (holds : Holds server shared index call)
    (otherHolds : Holds server shared other otherCall)
    (beside : Beside call otherCall)
    (noUpload : shared.inFlight = 0 → otherCall.window ≠ .uploading)
    (free : ∀ relpath path content, call = .replacing relpath path content →
      otherCall.replacedAt ≠ some path) :
    Holds server shared' other otherCall := by
  cases transit with
  | finish | fail | locate | receive | loseReceipt | readRow | check | reject
  | succeed => exact otherHolds
  | enterUpload | leaveUpload => exact otherHolds.withInFlight
  | loseLease =>
    have isOpen := Placing.isOpen holds
    refine otherHolds.of_open isOpen isOpen.failIntakeAfterLeaseLoss ?_
    intro path content _ member
    unfold failIntakeAfterLeaseLoss
    split_ifs <;> exact member
  | makeParents =>
    have isOpen := Placing.isOpen holds
    refine otherHolds.of_open isOpen isOpen ?_
    intro path content _ member
    exact (payloadFiles_makeParents).symm ▸ member
  | place =>
    have isOpen := Placing.isOpen holds
    refine otherHolds.of_open isOpen isOpen ?_
    intro path content replaced member
    refine mem_payloadFiles_placeFile.mpr (.inr ⟨member, ?_⟩)
    rintro rfl
    exact free _ _ _ rfl replaced
  | appendReceipt =>
    have isOpen := Placing.isOpen holds.1
    exact otherHolds.of_open isOpen isOpen fun _ _ _ member => member
  | claim idle streaming =>
    refine otherHolds.of_outside ?_ (by rw [streaming]; decide)
    cases window : otherCall.window with
    | outside => rfl
    | uploading => exact absurd window (noUpload idle)
    | committing =>
      have committing := otherHolds.committing window
      rw [streaming] at committing
      cases committing
    | aborting => cases otherCall <;> cases window
  | rollback =>
    exact otherHolds.of_outside (beside.outside_of_committing rfl)
      (by rw [holds.committing rfl]; decide)
  | assemble =>
    exact otherHolds.of_outside (beside.outside_of_committing rfl)
      (by rw [holds.committing rfl]; decide)
  | commit =>
    exact otherHolds.of_outside (beside.outside_of_committing rfl)
      (by rw [holds.committing rfl]; decide)

/-- A step stays beside every other call. -/
theorem Transit.beside
    (otherHolds : Holds server shared other otherCall)
    (beside : Beside call otherCall)
    (noUpload : shared.inFlight = 0 → otherCall.window ≠ .uploading)
    (free : ∀ relpath path content, call = .replacing relpath path content →
      otherCall.replacedAt ≠ some path) :
    Beside call' otherCall := by
  -- An entering call meets no commit, since the intake is still streaming.
  have noCommit : shared.state = .streaming → otherCall.window ≠ .committing := by
    intro streaming window
    have committing := otherHolds.committing window
    rw [streaming] at committing
    cases committing
  cases transit with
  | finish | leaveUpload | readRow | rollback | commit | succeed => exact .of_outside rfl
  | enterUpload valid streaming =>
    refine ⟨?_, nofun⟩
    cases window : otherCall.window with
    | committing => exact absurd window (noCommit streaming)
    | outside | uploading | aborting => rfl
  | fail window => exact beside.of_window_eq window.symm nofun
  | locate | receive | loseLease | makeParents | loseReceipt | appendReceipt | check =>
    exact beside.of_window_eq rfl nofun
  | place =>
    refine beside.of_window_eq rfl ?_
    rintro path ⟨⟩
    exact free _ _ _ rfl
  | claim idle streaming =>
    refine ⟨?_, nofun⟩
    cases window : otherCall.window with
    | outside => rfl
    | uploading => exact absurd window (noUpload idle)
    | committing => exact absurd window (noCommit streaming)
    | aborting => cases otherCall <;> cases window
  | reject window => exact beside.of_window_eq window.symm nofun
  | assemble => exact beside.of_window_eq rfl nofun

/-- The upload counter moves exactly with the uploading window. -/
theorem Transit.inFlight_add (counted : call.window = .uploading → 0 < shared.inFlight) :
    shared'.inFlight + (if call.window == .uploading then 1 else 0) =
      shared.inFlight + (if call'.window == .uploading then 1 else 0) := by
  cases transit with
  | finish window =>
    have outside : (call.window == Window.uploading) = false := beq_eq_false_iff_ne.mpr window
    rw [outside]
    rfl
  | fail window =>
    rw [window]
    rfl
  | reject window =>
    rw [window]
    rfl
  | leaveUpload => exact Nat.sub_add_cancel (counted rfl)
  | loseLease =>
    have same : (failIntakeAfterLeaseLoss shared).inFlight = shared.inFlight := by
      unfold failIntakeAfterLeaseLoss
      split_ifs <;> rfl
    rw [same]
    rfl
  | enterUpload | locate | receive | makeParents | place | loseReceipt
  | appendReceipt | readRow | claim | check | rollback | assemble | commit
  | succeed => rfl

end

end Calls

end Assembly
end Intake
end Sutradhara
