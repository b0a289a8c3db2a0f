import Mathlib.Algebra.BigOperators.Group.List.Basic
import Mathlib.Algebra.GroupWithZero.Nat
import Mathlib.Algebra.Ring.Int.Defs
import Mathlib.Data.List.Sort
import Mathlib.Data.PNat.Basic
import Sutradhara.Foundation.Table

/-!
# Trimming the blob cache

The cache directory of the partial restores is cut back to a budget by deleting the
blobs that were read longest ago.  Blobs that a sidecar refers to stay, and a deletion
that fails is passed over.
-/

namespace Sutradhara
namespace Restore
namespace BlobCache

open Foundation List

/-- A path as text. -/
abbrev Path := List Char

/-- A regular file below the blob directory. -/
structure BlobFile where
  path : Path
  size : Nat
  accessed : Int
  deriving DecidableEq

/-- A reference of a sidecar. -/
structure BlobRef where
  sha256 : List Char
  path : Option Path

/-- The blob directory, and what else the file system answers. -/
structure Site where
  blobDir : Path
  exists? : Path → Bool
  resolve : Path → Path

section

variable (site : Site) (sidecar : Option (List BlobRef)) (budget : Int) (fails : BlobFile → Bool)

/-- `_resolve_blob_path`. -/
def resolveBlobPath (blob : BlobRef) : Option Path :=
  let candidate := site.blobDir ++ '/' :: blob.sha256.take 2 ++ '/' :: blob.sha256
  match blob.path.filter fun path => !path.isEmpty && site.exists? path with
  | some path => some path
  | none => if site.exists? candidate then some candidate else none

/-- `_protected_blob_paths`. -/
def protectedBlobPaths : List Path :=
  ((sidecar.getD []).filterMap (resolveBlobPath site)).map site.resolve

def totalSize (files : List BlobFile) : Int := (files.map fun file => (file.size : Int)).sum

/-- The deletions, with what the directory holds and the total that is kept: each file
that is tried with the directory before, and the directory at the end. -/
def trimFrom : List BlobFile → Int → List BlobFile →
    List (BlobFile × List BlobFile) × List BlobFile
  | dir, _, [] => ([], dir)
  | dir, total, file :: rest =>
    if fails file then ((trimFrom dir total rest).map ((file, dir) :: ·) id)
    else if total - file.size ≤ budget then ([(file, dir)], dir.erase file)
    else (trimFrom (dir.erase file) (total - file.size) rest).map ((file, dir) :: ·) id

variable (listing : Table BlobFile.path)

/-- The files that are not temporary. -/
def allFiles : List BlobFile :=
  listing.rows.filter fun file => !".tmp".toList.isSuffixOf file.path

/-- The files that may be deleted, the one read longest ago first. -/
def candidates : List BlobFile :=
  ((allFiles listing).filter fun file =>
      !(protectedBlobPaths site sidecar).contains (site.resolve file.path)).insertionSort
    fun first second => first.accessed ≤ second.accessed

/-- `enforce_blob_lru`. -/
def enforceBlobLru : List (BlobFile × List BlobFile) × List BlobFile :=
  let total := totalSize (allFiles listing)
  if budget ≤ 0 ∨ total ≤ budget then ([], allFiles listing)
  else trimFrom budget fails (allFiles listing) total (candidates site sidecar listing)

end

/-- A reference resolves to its own path if there is a file, and else to the path of its
digest if there is one. -/
def Site.Resolves (site : Site) (blob : BlobRef) (path : Path) : Prop :=
  (blob.path = some path ∧ path ≠ [] ∧ site.exists? path = true) ∨
    (∀ own, blob.path = some own → own = [] ∨ site.exists? own = false) ∧
    path = site.blobDir ++ '/' :: blob.sha256.take 2 ++ '/' :: blob.sha256 ∧
    site.exists? path = true

/-- A reference of the sidecar resolves to the file. -/
def Protected (site : Site) (sidecar : Option (List BlobRef)) (file : BlobFile) : Prop :=
  ∃ blobs, sidecar = some blobs ∧ ∃ blob ∈ blobs, ∃ path,
    site.Resolves blob path ∧ site.resolve path = site.resolve file.path

/-- The name of a temporary file. -/
abbrev Temporary (file : BlobFile) : Prop := ".tmp".toList <:+ file.path

/-- What is left of a directory after deletions have been tried. -/
def left (fails : BlobFile → Bool) (dir tried : List BlobFile) : List BlobFile :=
  dir.filter fun file => ¬ (file ∈ tried ∧ fails file = false)

/-- What the loop does from a directory that is over the budget on. -/
structure Trims
    (budget : Int)
    (fails : BlobFile → Bool)
    (dir files : List BlobFile)
    (outcome : List (BlobFile × List BlobFile) × List BlobFile) : Prop where
  ordered : outcome.1.map Prod.fst <+: files
  needed : ∀ before tried after, outcome.1 = before ++ tried :: after →
    tried.2 = left fails dir (before.map Prod.fst) ∧ budget < totalSize tried.2
  final : outcome.2 = left fails dir (outcome.1.map Prod.fst)
  sufficient : totalSize outcome.2 ≤ budget ∨
    ∀ file ∈ outcome.2, file ∈ dir ∧ (file ∈ files → fails file = true)

theorem resolveBlobPath_eq_some :
    resolveBlobPath site blob = some path ↔ site.Resolves blob path := by
  unfold resolveBlobPath Site.Resolves
  cases own : blob.path with
  | none => grind
  | some given => grind [List.isEmpty_iff]

theorem mem_protectedBlobPaths :
    site.resolve file.path ∈ protectedBlobPaths site sidecar ↔ Protected site sidecar file := by
  unfold protectedBlobPaths Protected
  simp only [mem_map, mem_filterMap, resolveBlobPath_eq_some]
  cases sidecar with
  | none => simp
  | some blobs => grind

theorem totalSize_erase (member : file ∈ dir) :
    totalSize (dir.erase file) = totalSize dir - file.size := by
  have whole := sum_map_erase (fun file : BlobFile => (file.size : Int)) member
  unfold totalSize
  omega

theorem left_nil : left fails dir [] = dir := by
  simp [left]

theorem left_cons_of_fails (failed : fails file = true) :
    left fails dir (file :: tried) = left fails dir tried := by
  refine filter_congr fun other _ => decide_eq_decide.mpr (not_congr ⟨?_, ?_⟩)
  · rintro ⟨member, deleted⟩
    rcases mem_cons.mp member with rfl | later
    · exact absurd failed (by simp [deleted])
    · exact ⟨later, deleted⟩
  · exact fun ⟨later, deleted⟩ => ⟨mem_cons_of_mem _ later, deleted⟩

theorem left_erase
    (deleted : fails file = false)
    (distinct : dir.Nodup) :
    left fails (dir.erase file) tried = left fails dir (file :: tried) := by
  rw [distinct.erase_eq_filter, left, filter_filter]
  refine filter_congr fun other _ => ?_
  by_cases same : other = file
  · simp [same, deleted]
  · simp [same]

/-- The invariant of the loop is that the total is the size of the directory and over
the budget. -/
theorem trims_trimFrom
    (counted : totalSize dir = total)
    (exceeded : budget < total)
    (distinct : dir.Nodup)
    (inside : files ⊆ dir)
    (single : files.Nodup) :
    Trims budget fails dir files (trimFrom budget fails dir total files) := by
  induction files generalizing dir total with
  | nil =>
    exact ⟨prefix_rfl, by simp [trimFrom], left_nil.symm, Or.inr fun _ member => ⟨member, nofun⟩⟩
  | cons file rest ih =>
    obtain ⟨fresh, singleRest⟩ := nodup_cons.mp single
    obtain ⟨present, insideRest⟩ := cons_subset.mp inside
    subst counted
    have first {attempts : List (BlobFile × List BlobFile)} {dir' : List BlobFile}
        (same : ∀ tried, left fails dir' tried = left fails dir (file :: tried))
        (needed : ∀ before tried after, attempts = before ++ tried :: after →
          tried.2 = left fails dir' (before.map Prod.fst) ∧ budget < totalSize tried.2) :
        ∀ before tried after, (file, dir) :: attempts = before ++ tried :: after →
          tried.2 = left fails dir (before.map Prod.fst) ∧ budget < totalSize tried.2 := by
      rintro (_ | ⟨head, before⟩) tried after split
      · cases split
        exact ⟨left_nil.symm, exceeded⟩
      · obtain ⟨rfl, later⟩ := cons.inj split
        rw [map_cons, ← same]
        exact needed before tried after later
    rw [trimFrom]
    split
    next failed =>
      have trims := ih rfl exceeded distinct insideRest singleRest
      have same (tried : List BlobFile) : left fails dir tried = left fails dir (file :: tried) :=
        (left_cons_of_fails failed).symm
      refine ⟨prefix_cons_inj file |>.mpr trims.ordered, first same trims.needed,
        trims.final.trans (same _), trims.sufficient.imp_right fun all other member => ?_⟩
      obtain ⟨isOld, undeletable⟩ := all other member
      refine ⟨isOld, fun listed => ?_⟩
      rcases mem_cons.mp listed with rfl | later
      · exact failed
      · exact undeletable later
    next deleted =>
      rw [Bool.not_eq_true] at deleted
      have same (tried : List BlobFile) :
          left fails (dir.erase file) tried = left fails dir (file :: tried) :=
        left_erase deleted distinct
      rw [← totalSize_erase present]
      split
      next enough =>
        refine ⟨⟨rest, rfl⟩, first same (by simp), ?_, Or.inl enough⟩
        exact left_nil.symm.trans (same [])
      next more =>
        have still : rest ⊆ dir.erase file := fun other member =>
          (mem_erase_of_ne (ne_of_mem_of_not_mem member fresh)).mpr (insideRest member)
        have trims := ih rfl (not_le.mp more) (distinct.erase file) still singleRest
        refine ⟨prefix_cons_inj file |>.mpr trims.ordered, first same trims.needed,
          trims.final.trans (same _), trims.sufficient.imp_right fun all other member => ?_⟩
        obtain ⟨isLeft, undeletable⟩ := all other member
        obtain ⟨differs, isOld⟩ := distinct.mem_erase_iff.mp isLeft
        exact ⟨isOld, fun listed => undeletable (mem_of_ne_of_mem differs listed)⟩

/-- The directory listing without the temporary files, after deletions have been tried. -/
def remaining
    (fails : BlobFile → Bool)
    (listing : Table BlobFile.path)
    (tried : List BlobFile) : List BlobFile :=
  listing.rows.filter fun file => ¬ Temporary file ∧ ¬ (file ∈ tried ∧ fails file = false)

theorem allFiles_eq : allFiles listing = listing.rows.filter fun file => ¬ Temporary file := by
  refine filter_congr fun file _ => ?_
  rw [decide_not, Bool.not_inj_iff, Bool.eq_iff_iff, decide_eq_true_iff]
  exact isSuffixOf_iff_suffix

theorem mem_candidates :
    file ∈ candidates site sidecar listing ↔
      file ∈ listing.rows ∧ ¬ Temporary file ∧ ¬ Protected site sidecar file := by
  rw [← mem_protectedBlobPaths, candidates, mem_insertionSort, mem_filter, allFiles_eq, mem_filter,
    decide_eq_true_iff, and_assoc]
  simp

theorem left_allFiles :
    left fails (allFiles listing) tried = remaining fails listing tried := by
  rw [left, allFiles_eq, filter_filter, remaining]
  refine filter_congr fun file _ => ?_
  rw [Bool.decide_and, Bool.and_comm]

/-- A sorted list is tried from its front. -/
theorem mem_of_prefix_candidates
    (ordered : tried <+: candidates site sidecar listing)
    (listed : file ∈ candidates site sidecar listing)
    (later : other ∈ tried)
    (earlier : file.accessed < other.accessed) : file ∈ tried := by
  obtain ⟨rest, split⟩ := ordered
  have sorted : (candidates site sidecar listing).Pairwise fun first second =>
      first.accessed ≤ second.accessed := pairwise_insertionSort _ _
  rw [← split] at listed sorted
  rcases mem_append.mp listed with inside | after
  · exact inside
  · have order := (pairwise_append.mp sorted).2.2 other later file after
    omega

/-- Trimming tries only files that are neither protected nor temporary, the one read longest
ago first and only while what remains is over the budget, and ends within it or with files
that are protected or cannot be deleted. -/
theorem enforceBlobLru_trims
    (site : Site)
    (sidecar : Option (List BlobRef))
    (budget : ℕ+)
    (fails : BlobFile → Bool)
    (listing : Table BlobFile.path) :
    let outcome := enforceBlobLru site sidecar (budget : ℕ) fails listing
    let tried := outcome.1.map Prod.fst
    (∀ file ∈ tried, file ∈ listing.rows ∧ ¬ Temporary file ∧ ¬ Protected site sidecar file) ∧
    (tried.Nodup ∧ tried.Pairwise fun first second => first.accessed ≤ second.accessed) ∧
    (∀ file ∈ listing.rows, ¬ Temporary file → ¬ Protected site sidecar file →
      ∀ later ∈ tried, file.accessed < later.accessed → file ∈ tried) ∧
    (∀ before attempt after, outcome.1 = before ++ attempt :: after →
      attempt.2 = remaining fails listing (before.map Prod.fst) ∧
        (budget : ℕ) < totalSize attempt.2) ∧
    outcome.2 = remaining fails listing tried ∧
    (totalSize outcome.2 ≤ (budget : ℕ) ∨
      ∀ file ∈ outcome.2, Protected site sidecar file ∨ fails file = true) := by
  have positive := budget.pos
  intro outcome tried
  by_cases within : totalSize (allFiles listing) ≤ (budget : ℕ)
  · have unchanged : outcome = ([], allFiles listing) := if_pos (Or.inr within)
    have all : allFiles listing = remaining fails listing [] := left_nil.symm.trans left_allFiles
    simp only [tried, unchanged]
    exact ⟨nofun, ⟨nodup_nil, Pairwise.nil⟩, nofun, by simp, all, Or.inl within⟩
  · have trimmed : outcome = trimFrom (budget : ℕ) fails (allFiles listing)
        (totalSize (allFiles listing)) (candidates site sidecar listing) := if_neg (by omega)
    have distinct : (allFiles listing).Nodup := (Nodup.of_map _ listing.unique).filter _
    have single : (candidates site sidecar listing).Nodup :=
      (perm_insertionSort _ _).nodup_iff.mpr (distinct.filter _)
    have trims : Trims (budget : ℕ) fails (allFiles listing) (candidates site sidecar listing)
        outcome := trimmed ▸ trims_trimFrom rfl (not_le.mp within) distinct
      (fun file member => (mem_filter.mp ((mem_insertionSort _).mp member)).1) single
    have sorted : (candidates site sidecar listing).Pairwise fun first second =>
        first.accessed ≤ second.accessed := pairwise_insertionSort _ _
    have front := trims.ordered.sublist
    simp only [← left_allFiles]
    refine ⟨fun file member => mem_candidates.mp (front.subset member),
      ⟨single.sublist front, sorted.sublist front⟩,
      fun file listed lasting free later isTried => mem_of_prefix_candidates trims.ordered
        (mem_candidates.mpr ⟨listed, lasting, free⟩) isTried,
      trims.needed, trims.final, trims.sufficient.imp_right fun all file member => ?_⟩
    obtain ⟨isFile, undeletable⟩ := all file member
    by_cases kept : Protected site sidecar file
    · exact Or.inl kept
    · exact Or.inr (undeletable (mem_insertionSort _ |>.mpr (mem_filter.mpr
        ⟨isFile, by simpa [mem_protectedBlobPaths] using kept⟩)))

end BlobCache
end Restore
end Sutradhara
