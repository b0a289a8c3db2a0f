import Mathlib.Data.List.Infix
import Mathlib.Data.List.Induction
import Mathlib.Data.List.Pairwise
import Sutradhara.Foundation.Effects

/-!
# Staging and enqueueing

A source file that a policy merges or compresses is first copied below the staging
root, under its logical name; the compressed file gets the same name with a
suffix.  The member row then names the last of these files and records the size
and the digest that it has at that moment.  Calls run one after the other, and
nothing else writes.
-/

namespace Sutradhara
namespace Archive
namespace Staging

open Foundation.Effects List
open Foundation.Effects.Computation

abbrev Bytes := List UInt8

/-- One component of a path. -/
abbrev Name := List Char

/-- An absolute path, from the root down. -/
abbrev Path := List Name

/-! ## The disk -/

/-- Regular files with their contents, and directories. -/
structure Disk where
  files : Path → Option Bytes
  directories : Path → Bool

/-- What a call does to the disk. -/
inductive Effect
  | mkdirs (path : Path)
  | write (path : Path) (content : Bytes)
  | unlink (path : Path)

/-- The file that an effect writes or removes. -/
def Effect.file? : Effect → Option Path
  | .mkdirs _ => none
  | .write path _ => some path
  | .unlink path => some path

def Disk.apply (disk : Disk) : Effect → Disk
  | .mkdirs path =>
    { disk with directories := fun other => disk.directories other || other.isPrefixOf path }
  | .write path content =>
    { disk with files := fun other => if other = path then some content else disk.files other }
  | .unlink path =>
    { disk with files := fun other => if other = path then none else disk.files other }

/-! ## Policies and calls -/

inductive Codec
  | off
  | zstd
  | unsupported
  deriving DecidableEq

/-- `StagingPolicy`: whether AppleDouble sidecars are merged, and how files are
compressed. -/
structure StagingPolicy where
  mergesAppledouble : Bool
  codec : Codec
  level : Option Int
  globs : List String
  minBytes : Option Nat

/-- One call of `stage_and_enqueue_artifact` into a staging root.  The logical
path is escaped already. -/
structure Call where
  source : Path
  logicalMemberPath : List Char
  policy : StagingPolicy

/-- What staging calls on. -/
structure Tools where
  sha256 : Bytes → Bytes
  compress : Int → Bytes → Bytes
  globMatches : List Char → String → Bool
  /-- Whether a sidecar parses and its entries can be set. -/
  sidecarApplies : Bytes → Bool

/-- Why a call raises. -/
inductive Failure
  | notRegularFile
  | sidecarSource
  | unsafeMemberPath
  | unsupportedCodec
  | unpinnedLevel
  | sameFile
  | notADirectory
  | isADirectory
  | appledouble
  | missing
  | enqueue

/-- Computations of a call. -/
abbrev Staged (Value : Type) := Computation Disk Effect Failure Value

section

variable (tools : Tools) (source destination path root : Path) (call : Call) (current : Path)

/-- The file name of a path. -/
def fileName : Name := path.getLastD []

/-- `with_name` of a path. -/
def withName (name : Name) : Path := path.dropLast ++ [name]

/-- The name of the sidecar beside a file. -/
def sidecarOf : Path := withName path ('.' :: '_' :: fileName path)

/-- `_is_appledouble_sidecar`. -/
def isAppledoubleSidecar : Bool :=
  match fileName path with
  | '.' :: '_' :: _ :: _ => true
  | _ => false

/-- The pieces of a text between slashes. -/
def splitSlash : List Char → List Name
  | [] => [[]]
  | char :: rest =>
    match splitSlash rest with
    | [] => [[char]]
    | head :: tail => if char = '/' then [] :: head :: tail else (char :: head) :: tail

/-- The parts of a relative `PurePosixPath`. -/
def pureParts (text : List Char) : List Name :=
  (splitSlash text).filter fun part => part ≠ [] ∧ part ≠ ['.']

/-- `_safe_staging_path`. -/
def safeStagingPath (memberPath : List Char) : Except Failure Path :=
  if memberPath.head? = some '/' ∨ ['.', '.'] ∈ pureParts memberPath then .error .unsafeMemberPath
  else .ok (root ++ pureParts memberPath)

/-- `_ZSTD_SUFFIX`. -/
def zstdSuffix : List Char := ['.', 'z', 's', 't']

/-- `_should_compress`. -/
def shouldCompress (policy : StagingPolicy) (memberPath : List Char)
    (sizeBytes : Nat) : Except Failure Bool :=
  match policy.codec with
  | .off => .ok false
  | .unsupported => .error .unsupportedCodec
  | .zstd =>
    .ok (!(policy.minBytes.any (sizeBytes < ·)) &&
      (policy.globs.isEmpty || policy.globs.any (tools.globMatches memberPath)))

/-- `_required_compression_level`. -/
def requiredCompressionLevel (policy : StagingPolicy) : Except Failure Int :=
  match policy.level with
  | none => .error .unpinnedLevel
  | some level => .ok level

/-! ## Staging -/

/-- Raise what a pure check raises. -/
def checked {Value : Type} : Except Failure Value → Staged Value
  | .ok value => done value
  | .error failure => raise failure

/-- Make the directories above a file. -/
def makeParents : Staged Unit :=
  reading fun disk =>
    if path.dropLast.inits.any fun above => (disk.files above).isSome then raise .notADirectory
    else leave (.mkdirs path.dropLast)

/-- Where `shutil.copy2` writes: into a directory under the name of the
source. -/
def copyTarget (disk : Disk) (source destination : Path) : Path :=
  if disk.directories destination then destination ++ [fileName source]
  else destination

/-- `shutil.copy2`. -/
def copyFile : Staged Unit :=
  reading fun disk =>
    match disk.files source with
    | none => raise .missing
    | some content =>
      if copyTarget disk source destination = source then raise .sameFile
      else if disk.directories (copyTarget disk source destination) then raise .isADirectory
      else leave (.write (copyTarget disk source destination) content)

/-- `_merge_appledouble`. -/
def mergeAppledouble (staged : Path) : Staged Unit :=
  reading fun disk =>
    if disk.directories (sidecarOf source) then raise .appledouble
    else
      match disk.files (sidecarOf source) with
      | none => done ()
      | some raw =>
        if !tools.sidecarApplies raw then raise .appledouble
        else if disk.directories (sidecarOf staged) then raise .isADirectory
        else if (disk.files (sidecarOf staged)).isSome then leave (.unlink (sidecarOf staged))
        else done ()

/-- `_compress_zstd`. -/
def compressZstd (level : Int) (source destination : Path) : Staged Unit :=
  reading fun disk =>
    match disk.files source with
    | none => raise .missing
    | some content =>
      if disk.directories destination then raise .isADirectory
      else leave (.write destination (tools.compress level content))

/-- Copy the source below the root if it has to be changed. -/
def copyToStage (needsCopy : Bool) : Staged Path :=
  if needsCopy then
    chain Disk.apply (checked (safeStagingPath root call.logicalMemberPath)) fun path =>
        chain Disk.apply (makeParents path) fun _ =>
          chain Disk.apply (copyFile call.source path) fun _ => done path
  else done call.source

/-- Write the compressed file beside the copy. -/
def compressStaged : Staged Path :=
  chain Disk.apply
    (checked (safeStagingPath root (call.logicalMemberPath ++ zstdSuffix)))
    fun path =>
      chain Disk.apply (makeParents path) fun _ =>
        chain Disk.apply (checked (requiredCompressionLevel call.policy)) fun level =>
          chain Disk.apply (compressZstd tools level current path) fun _ => done path

/-- Whether a call copies its source. -/
def needsCopy (originalSize : Nat) : Except Failure Bool :=
  if call.policy.mergesAppledouble then .ok true
  else shouldCompress tools call.policy call.logicalMemberPath originalSize

/-- Merge the sidecar of the source if the policy says so. -/
def mergeStaged : Staged Unit :=
  if call.policy.mergesAppledouble then mergeAppledouble tools call.source current
  else done ()

/-- `stage_artifact` of a source of a given size: the path of the staged file. -/
def stageSized (originalSize : Nat) : Staged Path :=
  chain Disk.apply (checked (needsCopy tools call originalSize)) fun copies =>
    chain Disk.apply (copyToStage root call copies) fun current =>
      chain Disk.apply (mergeStaged tools call current) fun _ =>
        chain Disk.apply
          (checked (shouldCompress tools call.policy call.logicalMemberPath
            originalSize)) fun compresses =>
          if compresses then compressStaged tools root call current
          else done current

/-- `stage_artifact`. -/
def stageArtifact : Staged Path :=
  reading fun disk =>
    match disk.files call.source with
    | none => raise .notRegularFile
    | some original =>
      if call.policy.mergesAppledouble && isAppledoubleSidecar call.source then
        raise .sidecarSource
      else stageSized tools root call original.length

/-! ## Enqueueing -/

/-- What a member row says about its source. -/
structure BundleMember where
  sourcePath : Path
  sizeBytes : Nat
  fileSha256 : Bytes
  deriving DecidableEq

/-- What the catalog makes of a measured file. -/
inductive Enqueued
  | added
  | alreadyThere
  | refused

/-- The disk and the rows of members that are not flushed yet. -/
structure World where
  disk : Disk
  members : List BundleMember

/-- `enqueue_artifact`, down to the row it adds: the staged file is measured. -/
def enqueueArtifact (disk : Disk) (stagedPath : Path) (answer : Enqueued) : Option BundleMember :=
  match disk.files stagedPath, answer with
  | some content, .added => some ⟨stagedPath, content.length, tools.sha256 content⟩
  | _, _ => none

/-- `stage_and_enqueue_artifact`. -/
def stageAndEnqueueArtifact (world : World) (call : Call) (answer : Enqueued) : World :=
  let staged := stageArtifact tools root call world.disk
  let disk := staged.1.foldl Disk.apply world.disk
  match staged.2 with
  | .error _ => ⟨disk, world.members⟩
  | .ok path => ⟨disk, world.members ++ (enqueueArtifact tools disk path answer).toList⟩

/-- A sequence of calls into one staging root. -/
def stageAll (world : World) (calls : List (Call × Enqueued)) : World :=
  calls.foldl
    (fun reached entry => stageAndEnqueueArtifact tools root reached entry.1 entry.2) world

/-! ## Staged bytes stay put -/

/-- The file of every member has the recorded size and digest. -/
def Intact (world : World) : Prop :=
  ∀ member ∈ world.members, ∃ content,
    world.disk.files member.sourcePath = some content ∧
      content.length = member.sizeBytes ∧
      tools.sha256 content = member.fileSha256

/-- Members stay intact after every sequence of calls, and while another call is
under way. -/
def IntactLaw : Prop :=
  ∀ tools root disk calls call,
    Intact tools (stageAll tools root ⟨disk, []⟩ calls) ∧
      ∀ begun ∈ (stageArtifact tools root call
          (stageAll tools root ⟨disk, []⟩ calls).disk).1.inits,
        Intact tools
          ⟨begun.foldl Disk.apply (stageAll tools root ⟨disk, []⟩ calls).disk,
            (stageAll tools root ⟨disk, []⟩ calls).members⟩

/-- Where a call copies its source to. -/
def copyPath : Path := root ++ pureParts call.logicalMemberPath

/-- Where a call compresses to. -/
def compressedPath : Path := root ++ pureParts (call.logicalMemberPath ++ zstdSuffix)

/-- The files that a call may write or remove. -/
def mayTouch : List Path :=
  (if call.policy.mergesAppledouble ∨ call.policy.codec ≠ .off then
    [copyPath root call, copyPath root call ++ [fileName call.source]] else []) ++
  (if call.policy.mergesAppledouble then [sidecarOf (copyPath root call)] else []) ++
  (if call.policy.codec ≠ .off then [compressedPath root call] else [])

/-- The files that the row of a call may name. -/
def mayName : List Path :=
  (if call.policy.mergesAppledouble then [copyPath root call] else [call.source]) ++
  (if call.policy.codec ≠ .off then [compressedPath root call] else [])

/-- The later call has no business with what the row of the earlier one names. -/
def Apart (earlier later : Call) : Prop :=
  ∀ path ∈ mayName root earlier, path ∉ mayTouch root later

end

instance (root : Path) (earlier later : Call) : Decidable (Apart root earlier later) :=
  inferInstanceAs (Decidable (∀ path ∈ _, _))

/-! ### What a call touches and names -/

section Calls

variable {tools : Tools} {root : Path} {call : Call}

/-- Effects on the files that the call may touch. -/
def Touches (paths : List Path) (effect : Effect) : Prop :=
  ∀ path, effect.file? = some path → path ∈ paths

theorem within_checked : Within kind (checked value) := by
  cases value with
  | ok value => exact within_done value
  | error failure => exact within_raise failure

theorem within_makeParents : Within (Touches paths) (makeParents path) := by
  refine within_reading fun disk => ?_
  split
  · exact within_raise _
  · exact within_leave nofun

theorem within_copyFile
    (plain : destination ∈ paths)
    (inside : destination ++ [fileName source] ∈ paths) :
    Within (Touches paths) (copyFile source destination) := by
  refine within_reading fun disk => ?_
  split
  · exact within_raise _
  · split_ifs
    · exact within_raise _
    · exact within_raise _
    · refine within_leave fun path named => ?_
      cases named
      unfold copyTarget
      split
      · exact inside
      · exact plain

theorem within_mergeAppledouble (sidecar : sidecarOf staged ∈ paths) :
    Within (Touches paths) (mergeAppledouble tools source staged) := by
  refine within_reading fun disk => ?_
  split
  · exact within_raise _
  · split
    · exact within_done _
    · split
      · exact within_raise _
      · split
        · exact within_raise _
        · split
          · refine within_leave fun path named => ?_
            cases named
            exact sidecar
          · exact within_done _

theorem within_compressZstd (target : destination ∈ paths) :
    Within (Touches paths) (compressZstd tools level source destination) := by
  refine within_reading fun disk => ?_
  split
  · exact within_raise _
  · split
    · exact within_raise _
    · refine within_leave fun path named => ?_
      cases named
      exact target

theorem safeStagingPath_eq_ok (safe : safeStagingPath root memberPath = .ok path) :
    path = root ++ pureParts memberPath := by
  unfold safeStagingPath at safe
  split at safe
  · cases safe
  · cases safe
    rfl

theorem returns_checked (value : Except Failure Value) :
    Returns (fun found => value = .ok found) (checked value) := by
  cases value with
  | ok value => exact returns_done rfl
  | error failure => exact returns_raise failure

theorem within_copyToStage
    (plain : copies = true → copyPath root call ∈ mayTouch root call)
    (inside : copies = true → copyPath root call ++ [fileName call.source] ∈ mayTouch root call) :
    Within (Touches (mayTouch root call)) (copyToStage root call copies) := by
  cases copies with
  | false => exact within_done _
  | true =>
    refine within_chain within_checked (returns_checked _) ?_
    intro path safe
    obtain rfl := safeStagingPath_eq_ok safe
    exact within_chain within_makeParents returns_any fun _ _ =>
      within_chain (within_copyFile (plain rfl) (inside rfl)) returns_any fun _ _ => within_done _

theorem returns_copyToStage :
    Returns (· = if copies then copyPath root call else call.source)
      (copyToStage root call copies) := by
  cases copies with
  | false => exact returns_done rfl
  | true =>
    refine returns_chain (returns_checked _) ?_
    intro path safe
    obtain rfl := safeStagingPath_eq_ok safe
    exact returns_chain returns_any fun _ _ =>
      returns_chain returns_any fun _ _ => returns_done rfl

theorem returns_compressStaged : Returns (· = compressedPath root call)
      (compressStaged tools root call current) := by
  refine returns_chain (returns_checked _) ?_
  intro path safe
  obtain rfl := safeStagingPath_eq_ok safe
  exact returns_chain returns_any fun _ _ => returns_chain returns_any fun _ _ =>
    returns_chain returns_any fun _ _ => returns_done rfl

/-- A file is compressed only under a policy with a codec. -/
theorem codec_of_shouldCompress
    (compresses : shouldCompress tools call.policy call.logicalMemberPath sizeBytes = .ok true) :
    call.policy.codec ≠ .off := by
  intro off
  rw [shouldCompress, off] at compresses
  cases compresses

/-- Staging touches only the files that its names lead to. -/
theorem within_stageSized : Within (Touches (mayTouch root call))
      (stageSized tools root call originalSize) := by
  refine within_chain within_checked (returns_checked _) fun copies needs => ?_
  have policy : copies = true →
      call.policy.mergesAppledouble = true ∨ call.policy.codec ≠ .off := by
    rintro rfl
    unfold needsCopy at needs
    split at needs
    next merges => exact .inl merges
    · exact .inr (codec_of_shouldCompress needs)
  refine within_chain (within_copyToStage (fun copied => by simp [mayTouch, policy copied])
      (fun copied => by simp [mayTouch, policy copied]))
    returns_copyToStage ?_
  rintro current rfl
  refine within_chain ?_ returns_any fun _ _ => ?_
  · unfold mergeStaged
    split
    swap
    · exact within_done _
    rename_i merges
    apply within_mergeAppledouble
    have copied : copies = true := by
      rw [needsCopy, if_pos merges] at needs
      exact (Except.ok.inj needs).symm
    simp [mayTouch, merges, copied]
  · refine within_chain within_checked (returns_checked _) fun compresses decided => ?_
    cases compresses with
    | false => exact within_done _
    | true =>
      have target : compressedPath root call ∈ mayTouch root call := by
        simp [mayTouch, codec_of_shouldCompress decided]
      refine within_chain within_checked (returns_checked _) ?_
      intro path safe
      obtain rfl := safeStagingPath_eq_ok safe
      exact within_chain within_makeParents returns_any fun _ _ =>
        within_chain within_checked returns_any fun _ _ =>
          within_chain (within_compressZstd target) returns_any fun _ _ => within_done _

/-- A staged file has one of the names that its row may carry. -/
theorem returns_stageSized : Returns (· ∈ mayName root call)
      (stageSized tools root call originalSize) := by
  refine returns_chain (returns_checked _) fun copies needs => ?_
  refine returns_chain returns_copyToStage ?_
  rintro current rfl
  refine returns_chain returns_any fun _ _ => ?_
  refine returns_chain (returns_checked _) fun compresses decided => ?_
  cases compresses with
  | true =>
    intro state path returned
    rw [returns_compressStaged state path returned]
    simp [mayName, codec_of_shouldCompress decided]
  | false =>
    refine returns_done ?_
    -- without compression a copy was only made for the merge
    unfold needsCopy at needs
    split at needs
    next merges =>
      cases needs
      simp [mayName, merges]
    next plain =>
      rw [decided] at needs
      cases needs
      simp [mayName, plain]

theorem within_stageArtifact (tools : Tools) :
    Within (Touches (mayTouch root call)) (stageArtifact tools root call) := by
  refine within_reading fun disk => ?_
  split
  · exact within_raise _
  · split
    · exact within_raise _
    · exact within_stageSized

theorem returns_stageArtifact :
    Returns (· ∈ mayName root call) (stageArtifact tools root call) := by
  refine returns_reading fun disk => ?_
  split
  · exact returns_raise _
  · split
    · exact returns_raise _
    · exact returns_stageSized

end Calls

/-! ### Sequences of calls -/

section Sequences

variable {tools : Tools} {root : Path}

/-- Effects on other files leave a file alone. -/
theorem files_foldl_apply
    {effects : List Effect}
    (touches : ∀ effect ∈ effects, Touches paths effect)
    (elsewhere : path ∉ paths) :
    (effects.foldl Disk.apply disk).files path = disk.files path := by
  induction effects generalizing disk with
  | nil => rfl
  | cons effect rest ih =>
    rw [foldl_cons, ih fun other member => touches other (mem_cons_of_mem _ member)]
    have own := touches effect (by simp)
    cases effect with
    | mkdirs above => rfl
    | write target content =>
      have other : path ≠ target := fun same => elsewhere (same ▸ own target rfl)
      exact if_neg other
    | unlink target =>
      have other : path ≠ target := fun same => elsewhere (same ▸ own target rfl)
      exact if_neg other

/-- Rows name what some earlier call may name, and are intact. -/
structure Kept (tools : Tools) (root : Path) (calls : List Call) (world : World) : Prop where
  named : ∀ member ∈ world.members, ∃ call ∈ calls, member.sourcePath ∈ mayName root call
  intact : Intact tools world

/-- A call that is apart from all earlier ones leaves their members intact, at
any moment of its work. -/
theorem Kept.intact_foldl
    {calls : List Call}
    {world : World}
    {effects : List Effect}
    (kept : Kept tools root calls world)
    (apart : ∀ earlier ∈ calls, Apart root earlier call)
    (touches : ∀ effect ∈ effects, Touches (mayTouch root call) effect) :
    Intact tools ⟨effects.foldl Disk.apply world.disk, world.members⟩ := by
  intro member present
  obtain ⟨earlier, made, named⟩ := kept.named member present
  obtain ⟨content, found, measured⟩ := kept.intact member present
  refine ⟨content, ?_, measured⟩
  rw [files_foldl_apply touches (apart earlier made member.sourcePath named)]
  exact found

theorem enqueueArtifact_eq_some
    (enqueued : enqueueArtifact tools disk path answer = some member) :
    member.sourcePath = path ∧ ∃ content, disk.files path = some content ∧
      content.length = member.sizeBytes ∧
      tools.sha256 content = member.fileSha256 := by
  unfold enqueueArtifact at enqueued
  split at enqueued
  next content found =>
    cases enqueued
    exact ⟨rfl, content, found, rfl, rfl⟩
  · cases enqueued

theorem Kept.stageAndEnqueueArtifact
    {calls : List Call}
    {world : World}
    (kept : Kept tools root calls world)
    (apart : ∀ earlier ∈ calls, Apart root earlier call)
    (answer : Enqueued) :
    Kept tools root (calls ++ [call]) (stageAndEnqueueArtifact tools root world call answer) := by
  have old := kept.intact_foldl apart (within_stageArtifact tools world.disk)
  have oldNamed : ∀ member ∈ world.members,
      ∃ made ∈ calls ++ [call], member.sourcePath ∈ mayName root made := by
    intro member present
    obtain ⟨earlier, made, named⟩ := kept.named member present
    exact ⟨earlier, mem_append_left _ made, named⟩
  unfold Staging.stageAndEnqueueArtifact
  dsimp only
  split
  · exact ⟨oldNamed, old⟩
  next path staged =>
    have pathNamed := returns_stageArtifact world.disk path staged
    constructor
    · intro member present
      rcases mem_append.mp present with before | new
      · exact oldNamed member before
      · obtain ⟨rfl, _⟩ := enqueueArtifact_eq_some (Option.mem_toList.mp new)
        exact ⟨call, by simp, pathNamed⟩
    · intro member present
      rcases mem_append.mp present with before | new
      · exact old member before
      · obtain ⟨rfl, measured⟩ :=
          enqueueArtifact_eq_some (Option.mem_toList.mp new)
        exact measured

theorem kept_stageAll
    {calls : List (Call × Enqueued)}
    (apart : (calls.map Prod.fst).Pairwise (Apart root))
    (disk : Disk) :
    Kept tools root (calls.map Prod.fst) (stageAll tools root ⟨disk, []⟩ calls) := by
  induction calls using List.reverseRecOn with
  | nil =>
    exact ⟨fun _ present => absurd present not_mem_nil, fun _ present => absurd present not_mem_nil⟩
  | append_singleton calls entry ih =>
    rw [map_append, pairwise_append] at apart
    rw [stageAll, List.foldl_append, map_append]
    exact (ih apart.1).stageAndEnqueueArtifact
      (fun earlier made => apart.2.2 earlier made entry.1 (by simp)) entry.2

/-- Where no call may touch what the row of an earlier call may name, members stay
intact after every sequence of calls and while another call is under way. -/
theorem intact_of_apart
    {calls : List (Call × Enqueued)}
    {call : Call}
    (apart : (calls.map Prod.fst ++ [call]).Pairwise (Apart root))
    (disk : Disk) :
    Intact tools (stageAll tools root ⟨disk, []⟩ calls) ∧ ∀ begun ∈ (stageArtifact tools root call
          (stageAll tools root ⟨disk, []⟩ calls).disk).1.inits,
        Intact tools ⟨begun.foldl Disk.apply (stageAll tools root ⟨disk, []⟩ calls).disk,
            (stageAll tools root ⟨disk, []⟩ calls).members⟩ := by
  rw [pairwise_append] at apart
  have kept := @kept_stageAll tools root calls apart.1 disk
  refine ⟨kept.intact, fun begun started => ?_⟩
  refine kept.intact_foldl (fun earlier made => apart.2.2 earlier made call (by simp)) ?_
  intro effect member
  exact within_stageArtifact tools _ effect (((mem_inits _ _).mp started).subset member)

end Sequences

/-! ### Two sources of one name -/

/-- Two cards with a file of the same name. -/
def twoCards : Disk where
  files
    | [['a'], ['x']] => some [1]
    | [['b'], ['x']] => some [2, 2]
    | _ => none
  directories _ := false

def plainTools : Tools where
  sha256 content := content
  compress _ content := 0 :: content
  globMatches _ _ := true
  sidecarApplies _ := true

/-- A policy that merges sidecars and does not compress. -/
def mergePolicy : StagingPolicy := ⟨true, .off, none, [], none⟩

/-- A policy that compresses everything. -/
def zstdPolicy : StagingPolicy := ⟨false, .zstd, some 3, [], none⟩

/-- Merging one file and compressing another under its own name. -/
theorem intact_of_apart_two_names : Intact plainTools (stageAll plainTools [['s']] ⟨twoCards, []⟩
        [(⟨[['a'], ['x']], ['x'], mergePolicy⟩, .added),
          (⟨[['b'], ['x']], ['y'], zstdPolicy⟩, .added)]) :=
  (@intact_of_apart plainTools [['s']] [(⟨[['a'], ['x']], ['x'], mergePolicy⟩, .added),
      (⟨[['b'], ['x']], ['y'], zstdPolicy⟩, .added)]
    ⟨[['a'], ['x']], ['z'], zstdPolicy⟩ (by decide) twoCards).1

/-- The second of two sources with one logical name is copied over the staged
file of the first, whose row keeps the old size and digest. -/
theorem not_intactLaw : ¬IntactLaw := by
  intro law
  have intact := (law plainTools [['s']] twoCards [(⟨[['a'], ['x']], ['x'], mergePolicy⟩, .added),
      (⟨[['b'], ['x']], ['x'], mergePolicy⟩, .added)]
    ⟨[['a'], ['x']], ['z'], mergePolicy⟩).1
  obtain ⟨content, found, size, _⟩ := intact ⟨[['s'], ['x']], 1, [1]⟩ (by decide +kernel)
  cases found
  cases size

end Staging
end Archive
end Sutradhara
