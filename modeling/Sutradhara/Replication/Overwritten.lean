import Mathlib.Data.List.DropRight
import Mathlib.Data.List.TakeWhile
import Sutradhara.Replication.Objects

/-!
# Locators and later writes

An attempt changes two addresses at most: the one that its locator names, and the
partial path of an SSH transfer.  An address is the folder of a pool on a backend and
the plain name of the local file, so files meet only if both are the same.  A locator
is therefore intact after any calls whose files have names of their own in each folder.
Nothing in the code sees to that.  Two sealed assets of one pool always meet.
-/

namespace Sutradhara
namespace Replication

open Foundation List
open Foundation.Overwriting
open Foundation.Effects
open Foundation.Effects.Computation
open Receive (Text Bytes)

variable {sha256 : Bytes → Digest}

/-! ## One attempt -/

/-- The locator of an attempt is read where the attempt has stored. -/
@[simp] theorem address_locator (attempt : Attempt) :
    attempt.store.address (attempt.locator sha256) = attempt.address := by
  unfold Attempt.locator Attempt.address
  cases attempt.store with
  | sshDisk host root => rfl
  | s3 endpoint bucket keyPrefix => rfl

@[simp] theorem sha256_locator (attempt : Attempt) :
    (attempt.locator sha256).sha256 = sha256 attempt.content := by
  unfold Attempt.locator
  cases attempt.store with
  | sshDisk host root => rfl
  | s3 endpoint bucket keyPrefix => rfl

variable {attempt : Attempt}

theorem receipt_toWrite (handed : (attempt.toWrite sha256).receipt = some receipt) :
    attempt.fault = none ∧ receipt = (attempt.address, sha256 attempt.content) := by
  obtain ⟨written, returned, rfl⟩ := Option.map_eq_some_iff.mp handed
  unfold Attempt.returned at returned
  split at returned <;> cases returned
  rename_i noFault
  exact ⟨noFault, by rw [address_locator, sha256_locator]⟩

/-- An upload stores its content or nothing. -/
theorem mem_uploadChanges (member : change ∈ uploadChanges final content fault) :
    change = (final, some content) := by
  cases fault with
  | none => exact mem_singleton.mp member
  | some fault =>
    cases fault with
    | mkdir => cases member
    | rsync left => cases member
    | rename moved => cases member
    | upload stored =>
      cases stored with
      | false => cases member
      | true => exact mem_singleton.mp member

/-- A transfer that gets to its rename changes the partial path and the address. -/
theorem mem_renamed
    (member : change ∈ [(staged, some content), (staged, none), (final, some content)]) :
    change = (final, some content) ∨ change.1 = staged := by
  simp only [mem_cons, not_mem_nil, or_false] at member
  rcases member with rfl | rfl | rfl
  · exact .inr rfl
  · exact .inr rfl
  · exact .inl rfl

theorem mem_putChanges (member : change ∈ putChanges final staged content fault) :
    change = (final, some content) ∨ change.1 = staged := by
  cases fault with
  | none => exact mem_renamed member
  | some fault =>
    cases fault with
    | mkdir => cases member
    | rsync left => exact .inr (congrArg Prod.fst (mem_singleton.mp member))
    | rename moved =>
      cases moved with
      | false => exact .inr (congrArg Prod.fst (mem_singleton.mp member))
      | true => exact mem_renamed member
    | upload stored => exact mem_renamed member

/-- An attempt changes its address, to its content, and its partial path. -/
theorem mem_changes (member : change ∈ attempt.changes) :
    change = (attempt.address, some attempt.content) ∨ attempt.partialPath = some change.1 := by
  unfold Attempt.changes at member
  cases staging : attempt.partialPath with
  | none =>
    rw [staging] at member
    exact .inl (mem_uploadChanges member)
  | some staged =>
    rw [staging] at member
    rcases mem_putChanges member with whole | same
    · exact .inl whole
    · exact .inr (congrArg some same.symm)

/-- After an attempt without a fault its address holds its content. -/
theorem apply_toWrite_address (noFault : attempt.fault = none) :
    (attempt.toWrite sha256).apply objects attempt.address = some attempt.content := by
  change attempt.changes.foldl replaceAt objects attempt.address = _
  unfold Attempt.changes
  rw [noFault]
  cases attempt.partialPath <;> exact replaceAt_self _ (attempt.address, some attempt.content)

theorem honest_toWrite : Honest sha256 (attempt.toWrite sha256) := by
  intro receipt handed objects
  obtain ⟨noFault, rfl⟩ := receipt_toWrite handed
  exact ⟨attempt.content, apply_toWrite_address noFault, rfl⟩

/-! ## Sequences of calls -/

/-- Of all that the calls leave, only the attempts change objects. -/
theorem objects_foldl_apply (effects : List Effect) :
    (effects.foldl (World.apply sha256) world).objects =
      ((effects.filterMap Effect.attempt).map (Attempt.toWrite sha256)).foldl Write.apply
        world.objects := by
  induction effects generalizing world with
  | nil => rfl
  | cons effect rest ih =>
    rw [foldl_cons, ih]
    cases effect with
    | write attempt => rfl
    | record copy => rfl
    | suspect backendId locator => rfl
    | catalog copies assets bundles => rfl

/-! ## Keys -/

/-- A key part after which a file name may begin. -/
def Closed (folder : Text) : Prop := folder = [] ∨ folder.getLast? = some '/'

/-- A text that `str.strip("/")` leaves as it is. -/
def Trimmed (text : Text) : Prop := text.head? ≠ some '/' ∧ text.getLast? ≠ some '/'

theorem stripSlashes_eq_rdropWhile (text : Text) :
    stripSlashes text = (text.dropWhile (· = '/')).rdropWhile (· = '/') := rfl

theorem trimmed_stripSlashes (text : Text) : Trimmed (stripSlashes text) := by
  rw [stripSlashes_eq_rdropWhile]
  have first := head?_dropWhile_not (fun char => decide (char = '/')) text
  generalize text.dropWhile (fun char => decide (char = '/')) = rest at first
  constructor
  · intro slash
    obtain ⟨more, split⟩ := rdropWhile_prefix (fun char => decide (char = '/')) rest
    rw [← split] at first
    rw [head?_append, slash] at first
    simp at first
  · intro slash
    have last := rdropWhile_last_not (fun char => decide (char = '/')) rest
    have nonempty : rdropWhile (fun char => decide (char = '/')) rest ≠ [] := by
      intro empty
      rw [empty] at slash
      cases slash
    rw [getLast?_eq_some_getLast nonempty] at slash
    exact last nonempty (by simpa using slash)

theorem Trimmed.stripSlashes_eq (trimmed : Trimmed text) : stripSlashes text = text := by
  have front : text.dropWhile (fun char => decide (char = '/')) = text := by
    cases text with
    | nil => rfl
    | cons char rest =>
      refine dropWhile_cons_of_neg ?_
      simpa using trimmed.1
  rw [stripSlashes_eq_rdropWhile, front, rdropWhile_eq_self_iff]
  intro nonempty
  have last := trimmed.2
  rw [getLast?_eq_some_getLast nonempty] at last
  simpa using last

theorem closed_folderPart (text : Text) : Closed (folderPart text) := by
  unfold folderPart Closed
  split <;> simp

theorem sshKey_eq (pool name : Text) : sshKey pool name = folderPart pool ++ name := by
  unfold sshKey folderPart
  dsimp only
  split <;> simp

theorem Plain.trimmed (plain : Plain name) : Trimmed name :=
  ⟨fun slash => plain.2 (mem_of_head? slash), fun slash => plain.2 (mem_of_getLast? slash)⟩

/-- Folders before a trimmed key. -/
theorem Trimmed.folderPart_append (trimmed : Trimmed key) (nonempty : key ≠ []) (text : Text) :
    Trimmed (folderPart text ++ key) := by
  unfold folderPart
  split
  · exact trimmed
  · rename_i some
    have front := (trimmed_stripSlashes text).1
    constructor
    · rw [append_assoc, head?_append_of_ne_nil _ some]
      exact front
    · rw [getLast?_append_of_ne_nil _ nonempty]
      exact trimmed.2

theorem stripSlashes_nil : stripSlashes [] = [] := rfl

/-- `_join_key` puts the folders of the prefix and of the pool before a trimmed key. -/
theorem joinKey_eq (keyPrefix pool : Text) (trimmed : Trimmed key) (nonempty : key ≠ []) :
    joinKey keyPrefix [stripSlashes pool, key] =
      folderPart keyPrefix ++ folderPart pool ++ key := by
  have again := (trimmed_stripSlashes pool).stripSlashes_eq
  have same := trimmed.stripSlashes_eq
  unfold joinKey folderPart
  by_cases empty : keyPrefix = []
  · subst empty
    by_cases noPool : stripSlashes pool = [] <;>
      simp [again, same, noPool, nonempty, stripSlashes_nil, intercalate]
  · by_cases noPrefix : stripSlashes keyPrefix = [] <;>
      by_cases noPool : stripSlashes pool = [] <;>
        simp [again, empty, noPrefix, same, noPool, nonempty, stripSlashes_nil, intercalate]

theorem joinKey_singleton (keyPrefix : Text) (trimmed : Trimmed key) (nonempty : key ≠ []) :
    joinKey keyPrefix [key] = folderPart keyPrefix ++ key := by
  have blank : joinKey keyPrefix [key] = joinKey keyPrefix [stripSlashes [], key] := by
    unfold joinKey
    split <;> simp [filter_cons, stripSlashes_nil]
  rw [blank, joinKey_eq keyPrefix [] trimmed nonempty]
  simp [folderPart, stripSlashes_nil]

/-- The prefix of a bucket stands twice before the pool. -/
theorem s3Key_eq (keyPrefix pool : Text) (plain : Plain name) :
    s3Key keyPrefix pool name =
      folderPart keyPrefix ++ folderPart keyPrefix ++ folderPart pool ++ name := by
  have inPool := plain.trimmed.folderPart_append plain.1 pool
  have nonempty : folderPart pool ++ name ≠ [] := append_ne_nil_of_right_ne_nil _ plain.1
  have whole := inPool.folderPart_append nonempty keyPrefix
  unfold s3Key
  rw [joinKey_eq keyPrefix pool plain.trimmed plain.1, append_assoc,
    joinKey_singleton keyPrefix whole (append_ne_nil_of_right_ne_nil _ nonempty)]
  simp only [append_assoc]

theorem baseName_append (closed : Closed folder) (plain : Plain name) :
    baseName (folder ++ name) = name := by
  have inside : ∀ char ∈ name.reverse, decide (char ≠ '/') = true := by
    intro char member
    refine decide_eq_true fun slash => plain.2 ?_
    rw [← slash]
    exact mem_reverse.mp member
  unfold baseName
  rw [reverse_append, takeWhile_append_of_pos inside]
  rcases closed with rfl | slash
  · simp
  · rw [← head?_reverse] at slash
    obtain ⟨rest, isRest⟩ := head?_eq_some_iff.mp slash
    rw [isRest, takeWhile_cons_of_neg (by simp), append_nil, reverse_reverse]

/-- A closed folder and a plain name are found again in their key. -/
theorem append_inj_of_plain
    (closed : Closed folder)
    (closedOther : Closed other)
    (plain : Plain name)
    (plainOther : Plain otherName)
    (same : folder ++ name = other ++ otherName) :
    folder = other ∧ name = otherName := by
  have names := congrArg baseName same
  rw [baseName_append closed plain, baseName_append closedOther plainOther] at names
  subst names
  exact ⟨append_cancel_right same, rfl⟩

theorem closed_append (closed : Closed folder) (later : Closed rest) : Closed (folder ++ rest) := by
  rcases later with rfl | slash
  · rwa [append_nil]
  · refine .inr ?_
    rw [getLast?_append, slash]
    rfl

/-! ## Folders and names -/

/-- A file of a folder. -/
def Address.below (name : Text) : Address → Address
  | .file host path => .file host (path ++ name)
  | .object endpoint bucket key => .object endpoint bucket (key ++ name)

theorem address_eq_below (plain : Plain attempt.name) :
    attempt.address = (attempt.store.folder attempt.pool).below attempt.name := by
  unfold Attempt.address Attempt.key Store.folder
  cases attempt.store with
  | sshDisk host root => simp [sshKey_eq, remotePath, Address.below]
  | s3 endpoint bucket keyPrefix => simp [s3Key_eq keyPrefix attempt.pool plain, Address.below]

theorem partialPath_eq_below :
    attempt.partialPath =
      if attempt.store.stages then
        some ((attempt.store.folder attempt.pool).below (attempt.name ++ ".partial".toList))
      else none := by
  unfold Attempt.partialPath Attempt.key Store.folder Store.stages
  cases attempt.store with
  | sshDisk host root => simp [sshKey_eq, remotePath, Address.below]
  | s3 endpoint bucket keyPrefix => rfl

/-- Files of two folders meet only if the folders and the names are the same. -/
theorem below_folder_inj
    (plain : Plain name)
    (plainOther : Plain otherName)
    (same : (Store.folder store pool).below name =
      (Store.folder otherStore otherPool).below otherName) :
    store.folder pool = otherStore.folder otherPool ∧ name = otherName := by
  have closedPath : ∀ root pool : Text, Closed (remotePath root (folderPart pool)) := by
    intro root pool
    unfold remotePath
    rw [← singleton_append, ← append_assoc]
    exact closed_append (.inr (by simp)) (closed_folderPart pool)
  cases store with
  | sshDisk host root =>
    cases otherStore with
    | sshDisk otherHost otherRoot =>
      obtain ⟨rfl, paths⟩ := Address.file.inj same
      obtain ⟨folders, names⟩ := append_inj_of_plain (closedPath root pool)
        (closedPath otherRoot otherPool) plain plainOther paths
      exact ⟨congrArg (Address.file host) folders, names⟩
    | s3 => cases same
  | s3 endpoint bucket keyPrefix =>
    cases otherStore with
    | sshDisk => cases same
    | s3 otherEndpoint otherBucket otherPrefix =>
      obtain ⟨rfl, rfl, keys⟩ := Address.object.inj same
      have closedKey : ∀ front pool : Text,
          Closed (folderPart front ++ folderPart front ++ folderPart pool) := fun front pool =>
        closed_append (closed_append (closed_folderPart front) (closed_folderPart front))
          (closed_folderPart pool)
      obtain ⟨folders, names⟩ := append_inj_of_plain (closedKey keyPrefix pool)
        (closedKey otherPrefix otherPool) plain plainOther keys
      exact ⟨congrArg (Address.object endpoint bucket) folders, names⟩

/-- A write of a file that is apart from an earlier one spares its receipt. -/
theorem spares_of_apart
    (earlier later : Attempt)
    (plain : Plain earlier.name)
    (plainLater : Plain later.name)
    (apart : Apart sha256 earlier later) :
    Spares sha256 (earlier.toWrite sha256) (later.toWrite sha256) := by
  intro receipt handed change member same
  obtain ⟨-, rfl⟩ := receipt_toWrite handed
  rcases mem_changes member with rfl | staged
  · rw [address_eq_below plain, address_eq_below plainLater] at same
    obtain ⟨folders, names⟩ := below_folder_inj plainLater plain same
    exact ⟨_, rfl, apart.name folders names⟩
  · rw [same, partialPath_eq_below] at staged
    split at staged
    next stages =>
      have plainPartial : Plain (later.name ++ ".partial".toList) := by
        refine ⟨by simp, ?_⟩
        rw [mem_append, not_or]
        exact ⟨plainLater.2, by decide⟩
      rw [address_eq_below plain] at staged
      obtain ⟨folders, names⟩ := below_folder_inj plainPartial plain (Option.some.inj staged)
      exact absurd names (apart.partialName stages folders)
    · cases staged

/-! ## The attempts of a call are files of the call -/

theorem emits_check (value : Except WriterError Value) :
    Emits Effect.attempt bound (check value) := by
  cases value with
  | ok value => exact emits_done value
  | error error => exact emits_raise error

theorem returns_check
    {passed : Value → Prop}
    {checked : Except WriterError Value}
    (holds : ∀ value, checked = .ok value → passed value) :
    Returns passed (check checked) := by
  cases checked with
  | ok value => exact returns_done (holds value rfl)
  | error error => exact returns_raise error

theorem emits_writeObjectToPool (attempt : Attempt) :
    Emits Effect.attempt [attempt] (writeObjectToPool sha256 attempt) := by
  unfold writeObjectToPool
  split
  · exact emits_raise _
  · refine emits_chain_of_first (emits_leave (Sublist.refl _)) fun _ => ?_
    cases attempt.fault with
    | none => exact emits_done _
    | some fault => exact emits_raise _

/-- Sealing hands over the file of the placement. -/
theorem file_of_sealFile
    {placement : Placement}
    {result : SealResult}
    (sealing : sealFile sha256 source placement.target.representation epoch
      placement.answers = .ok result) :
    placement.file source = some ⟨placement.store, placement.target.poolId, result.sealedName,
      result.content, placement.answers.fault⟩ := by
  unfold sealFile at sealing
  unfold Placement.file
  split at sealing
  next raw =>
    cases sealing
    simp only [raw, if_true]
  next other =>
    simp only [other, if_false]
    obtain ⟨recipients, -, building⟩ := Raising.exists_of_bind_eq_ok sealing
    cases built : placement.answers.build with
    | none =>
      rw [built] at building
      cases building
    | some artifact =>
      rw [built] at building
      obtain ⟨_, -, rfl⟩ := Raising.exists_of_map_eq_ok building
      rfl

theorem emits_addCopy : Emits Effect.attempt [] (addCopy sha256 copy asset poolId) := by
  refine emits_reading fun world => ?_
  split
  · exact emits_raise _
  · split
    · split
      · exact emits_raise _
      · exact emits_done _
    · exact emits_chain_of_first (emits_leave (Sublist.refl _)) fun _ => emits_done _

theorem emits_addBundleCopy :
    Emits Effect.attempt [] (addBundleCopy sha256 copy bundleId poolId) := by
  refine emits_reading fun world => ?_
  split
  · exact emits_raise _
  · split
    · split
      · exact emits_raise _
      · exact emits_done _
    · exact emits_chain_of_first (emits_leave (Sublist.refl _)) fun _ => emits_done _

theorem emits_writeAssetCopy (asset : Digest) (source : SourceFile) (placement : Placement) :
    Emits Effect.attempt (placement.file source).toList
      (writeAssetCopy sha256 asset source placement) := by
  have files : Returns (fun result => placement.file source = some ⟨placement.store,
      placement.target.poolId, result.sealedName, result.content, placement.answers.fault⟩)
      (check ((epochFor placement.target).bind fun epoch =>
        sealFile sha256 source placement.target.representation epoch placement.answers)) := by
    refine returns_check fun result sealing => ?_
    obtain ⟨epoch, -, sealing⟩ := Raising.exists_of_bind_eq_ok sealing
    exact file_of_sealFile sealing
  unfold writeAssetCopy
  refine emits_chain_of_next (emits_check _) files fun result isFile => ?_
  rw [isFile]
  refine emits_chain_of_first (emits_writeObjectToPool _) fun record => ?_
  refine emits_chain_of_next (emits_check _) returns_any fun _ _ => ?_
  refine emits_chain_of_next emits_addCopy returns_any fun copy _ => ?_
  exact emits_chain_of_next (emits_check _) returns_any fun _ _ => emits_done _

theorem filterMap_cons_toList (item : Item) (items : List Item) (image : Item → Option Image) :
    (item :: items).filterMap image = (image item).toList ++ items.filterMap image := by
  cases found : image item <;> simp [found]

theorem emits_replicateTargets
    (asset : Digest)
    (source : SourceFile)
    (existing : List (PoolTarget × Copy))
    (placements : List Placement) :
    Emits Effect.attempt
      ((placements.filter fun placement => (existing.lookup placement.target).isNone).filterMap
        (Placement.file source))
      (replicateTargets sha256 asset source existing placements) := by
  induction placements with
  | nil => exact emits_done _
  | cons placement rest ih =>
    unfold replicateTargets
    cases held : existing.lookup placement.target with
    | some copy =>
      rw [filter_cons_of_neg (by simp [held])]
      refine emits_chain_of_next (emits_done _) returns_any fun _ _ => ?_
      exact emits_chain_of_first ih fun _ => emits_done _
    | none =>
      rw [filter_cons_of_pos (by simp [held]), filterMap_cons_toList]
      refine emits_chain (emits_writeAssetCopy asset source placement) returns_any fun _ _ => ?_
      exact emits_chain_of_first ih fun _ => emits_done _

theorem emits_repairTargets
    (asset : Digest)
    (source : SourceFile)
    (missing : List PoolTarget)
    (placements : List Placement) :
    Emits Effect.attempt
      ((placements.filter fun placement => placement.target ∈ missing).filterMap
        (Placement.file source))
      (repairTargets sha256 asset source missing placements) := by
  induction placements with
  | nil => exact emits_done _
  | cons placement rest ih =>
    unfold repairTargets
    split
    next held =>
      rw [filter_cons_of_neg (by simpa using held)]
      exact ih
    next held =>
      rw [filter_cons_of_pos (by simpa using held), filterMap_cons_toList]
      refine emits_chain (emits_writeAssetCopy asset source placement) returns_any fun _ _ => ?_
      exact emits_chain_of_first ih fun _ => emits_done _

/-- The attempts of a call are among its files. -/
theorem attempts_effects (world : World) (call : Call) :
    ((call.effects sha256 world).filterMap Effect.attempt).Sublist (call.files world) := by
  cases call with
  | replicateAsset asset source placements =>
    simp only [Call.effects, Call.files, replicateAsset]
    split
    · exact nil_sublist _
    · unfold reading
      dsimp only
      cases healthyCopiesByPool world.copies asset (placements.map Placement.target) with
      | error error => exact nil_sublist _
      | ok existing => exact emits_replicateTargets asset source existing placements world
  | repair asset source wanted placements =>
    simp only [Call.effects, Call.files, repair, reading]
    cases replicationStatus world.copies asset wanted with
    | error error => exact nil_sublist _
    | ok missing =>
      simp only [check, chain_done]
      split
      · exact nil_sublist _
      · split
        · exact nil_sublist _
        · exact emits_repairTargets asset source missing placements world
  | fanOut bundleId placement artifact verified =>
    refine emits_chain_of_first (emits_writeObjectToPool _) (fun record => ?_) world
    refine emits_chain_of_next emits_addBundleCopy returns_any fun copy _ => ?_
    split
    · exact emits_done _
    · exact emits_chain_of_next (emits_leave (Sublist.refl _)) returns_any fun _ _ => emits_raise _
  | catalog => exact nil_sublist _

theorem attempts_sublist_files (world : World) (calls : List Call) :
    (attempts sha256 world calls).Sublist (files sha256 world calls) := by
  unfold attempts
  induction calls generalizing world with
  | nil => exact nil_sublist _
  | cons call rest ih =>
    unfold perform files
    rw [filterMap_append]
    exact (attempts_effects world call).append (ih _)

/-! ## Every file has a plain name -/

theorem plain_baseName (char : Char) (other : char ≠ '/') (last : path.getLast? = some char) :
    Plain (baseName path) := by
  unfold baseName
  constructor
  · rw [← head?_reverse] at last
    obtain ⟨rest, isRest⟩ := head?_eq_some_iff.mp last
    rw [isRest, takeWhile_cons_of_pos (by simpa using other)]
    simp
  · intro slash
    have kept := mem_takeWhile_imp (mem_reverse.mp slash)
    simp at kept

theorem plain_artifactName (bundleId : Text) (representation : Archive.Fanout.Representation) :
    Plain (artifactName bundleId representation) := by
  unfold artifactName artifactPath
  split
  · exact plain_baseName 'r' (by decide) (getLast?_append_of_ne_nil _ (by decide))
  · exact plain_baseName 't' (by decide) (getLast?_append_of_ne_nil _ (by decide))

theorem plain_of_file (isFile : Placement.file source placement = some attempt) :
    Plain attempt.name := by
  unfold Placement.file at isFile
  dsimp only at isFile
  split at isFile
  · cases isFile
    exact source.plain
  · obtain ⟨built, -, rfl⟩ := Option.map_eq_some_iff.mp isFile
    exact (by decide : Plain "sealed.rem-object".toList)

theorem plain_of_mem_files (member : attempt ∈ files sha256 world calls) : Plain attempt.name := by
  have placed : ∀ source placements, attempt ∈ filterMap (Placement.file source) placements →
      Plain attempt.name := by
    intro source placements inside
    obtain ⟨placement, -, isFile⟩ := mem_filterMap.mp inside
    exact plain_of_file isFile
  induction calls generalizing world with
  | nil => cases member
  | cons call rest ih =>
    rcases mem_append.mp member with now | later
    · cases call with
      | replicateAsset asset source placements =>
        simp only [Call.files] at now
        split at now
        · cases now
        · exact placed _ _ now
      | repair asset source wanted placements =>
        simp only [Call.files] at now
        split at now
        · cases now
        · exact placed _ _ now
      | fanOut bundleId placement artifact verified =>
        rw [mem_singleton.mp now]
        exact plain_artifactName bundleId _
      | catalog => cases now
    · exact ih later

/-! ## Whole runs -/

/-- Where later files of a folder have other names than the earlier ones or the same
digest, and no file is named like the partial file of a later one, every locator that
was returned is intact. -/
theorem locators_intact_of_apart
    (sha256 : Bytes → Digest)
    (world : World)
    (calls : List Call)
    (apart : (files sha256 world calls).Pairwise (Apart sha256)) :
    ∀ attempt ∈ attempts sha256 world calls, ∀ written, attempt.returned sha256 = some written →
        Intact sha256 (after sha256 world calls) written := by
  intro attempt member written returned
  have inFiles : (attempts sha256 world calls).Sublist (files sha256 world calls) :=
    attempts_sublist_files world calls
  have spared : ((attempts sha256 world calls).map (Attempt.toWrite sha256)).Pairwise
      (Spares sha256) := by
    refine pairwise_map.mpr ((apart.sublist inFiles).imp_of_mem ?_)
    intro earlier later first second apart
    exact spares_of_apart earlier later (plain_of_mem_files (inFiles.subset first))
      (plain_of_mem_files (inFiles.subset second)) apart
  have honest : ∀ write ∈ (attempts sha256 world calls).map (Attempt.toWrite sha256),
      Honest sha256 write := by
    intro write inside
    obtain ⟨source, -, rfl⟩ := mem_map.mp inside
    exact honest_toWrite
  have named := names_of_pairwise honest spared world.objects (attempt.toWrite sha256)
    (mem_map_of_mem member) (written.1.address written.2, written.2.sha256)
    (by rw [Attempt.toWrite, returned]; rfl)
  rw [attempts, ← objects_foldl_apply] at named
  exact named

/-! ## Two assets in one pool -/

/-- A stand-in for SHA-256 that tells any two contents apart. -/
def spelledDigest (content : Bytes) : Digest := content.map fun byte => Char.ofNat byte.toNat

/-- The file `a` with one byte, and the file `b` with another. -/
def sourceA : SourceFile := ⟨['a'], [1], by decide⟩

def sourceB : SourceFile := ⟨['b'], [2], by decide⟩

section

variable (representation : Archive.Fanout.Representation) (source : SourceFile)

/-- A build that seals a source behind one byte. -/
def sealedBuild : Bytes × BuildReport :=
  (0 :: source.content,
    { representation := some "plaintext"
      chunkSize := some remObjectChunkSize
      files := some [⟨"regular", source.name, some (spelledDigest source.content)⟩]
      storedDigest := some (spelledDigest (0 :: source.content))
      recipientEpochs := none })

/-- The pool `p` of an SSH disk. -/
def placementIn : Placement where
  store := .sshDisk ['h'] ['/', 'r']
  target := ⟨['p'], 1, representation, none⟩
  answers := ⟨none, some (sealedBuild source), none⟩

/-- Both files are in the catalog and nothing is stored. -/
def emptyWorld : World := ⟨fun _ => none, [], [spelledDigest [1], spelledDigest [2]], []⟩

/-- Replicate both files into the pool. -/
def replicateBoth : List Call :=
  [.replicateAsset (spelledDigest [1]) sourceA [placementIn representation sourceA],
    .replicateAsset (spelledDigest [2]) sourceB [placementIn representation sourceB]]

end

/-- The attempt to store a file in the pool. -/
def attemptIn (name : Text) (content : Bytes) : Attempt :=
  ⟨.sshDisk ['h'] ['/', 'r'], ['p'], name, content, none⟩

theorem files_raw : files spelledDigest emptyWorld (replicateBoth .rawBytes) =
      [attemptIn ['a'] [1], attemptIn ['b'] [2]] := by
  rfl

/-- The second sealed asset of a pool replaces the first. -/
theorem not_locatorLaw : ¬ LocatorLaw := by
  intro law
  have first : attemptIn "sealed.rem-object".toList [0, 1] ∈
      attempts spelledDigest emptyWorld (replicateBoth .remObjectV1) := by
    exact mem_cons_self
  obtain ⟨content, found, digest⟩ := law spelledDigest emptyWorld
    (replicateBoth .remObjectV1) _ first _ rfl
  have stored : (after spelledDigest emptyWorld (replicateBoth .remObjectV1)).objects
      (attemptIn "sealed.rem-object".toList [0, 1]).address = some [0, 2] := by
    rw [after, objects_foldl_apply]
    change ((attempts spelledDigest emptyWorld (replicateBoth .remObjectV1)).map
      (Attempt.toWrite spelledDigest)).foldl Write.apply _ _ = _
    exact apply_toWrite_address rfl
  rw [address_locator, stored] at found
  cases found
  exact absurd digest (by decide)

/-- Raw files with names of their own stay. -/
theorem locators_intact_of_apart_raw :
    Intact spelledDigest (after spelledDigest emptyWorld (replicateBoth .rawBytes))
        (.sshDisk ['h'] ['/', 'r'], (attemptIn ['a'] [1]).locator spelledDigest) ∧
      Intact spelledDigest (after spelledDigest emptyWorld (replicateBoth .rawBytes))
        (.sshDisk ['h'] ['/', 'r'], (attemptIn ['b'] [2]).locator spelledDigest) := by
  have apart : (files spelledDigest emptyWorld (replicateBoth .rawBytes)).Pairwise
      (Apart spelledDigest) := by
    rw [files_raw]
    exact pairwise_pair.mpr ⟨fun _ same => absurd same (by decide), fun _ _ => by decide⟩
  constructor
  · exact locators_intact_of_apart spelledDigest emptyWorld (replicateBoth .rawBytes) apart
      (attemptIn ['a'] [1]) mem_cons_self _ rfl
  · exact locators_intact_of_apart spelledDigest emptyWorld (replicateBoth .rawBytes) apart
      (attemptIn ['b'] [2]) (mem_cons_of_mem _ mem_cons_self) _ rfl

end Replication
end Sutradhara
