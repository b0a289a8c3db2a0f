import Mathlib.Data.Prod.Lex
import Mathlib.Data.Rat.Floor
import Mathlib.Data.Finset.Max
import Mathlib.Data.List.Sort
import Mathlib.Data.List.MinMax
import Sutradhara.Hdcache.Entries

/-!
# The disk for a new entry

Placement keeps the disks with room, narrows them by what the siblings of the content
already use and takes the first in an order that ends in a digest of the disk.  Small
content goes where its siblings are, large content away from them.
-/

namespace Sutradhara
namespace Hdcache
namespace Placement

open List

/-- `DiskState`. -/
structure Disk where
  diskId : String
  state : DiskState
  overReserve : Bool
  capacityBytes : Int
  filledBytes : Int
  fillingBytes : Int
  enclosure : Option String

namespace Disk

variable (disk : Disk)

def committedBytes : Int := max 0 disk.filledBytes + max 0 disk.fillingBytes

def freeBytes : Int := max 0 (disk.capacityBytes - disk.committedBytes)

def filledRatio : ℚ :=
  if disk.capacityBytes ≤ 0 then 1 else disk.committedBytes / disk.capacityBytes

/-- An enclosure that is known. -/
def inEnclosure : Option String := disk.enclosure.filter (· ≠ "")

end Disk

/-- `PlacementConfig`.  The product of a capacity and `reserve_fraction`, rounded up, is
left to the floating point unit. -/
structure PlacementConfig where
  spreadMinBytes : Int
  reserveLargestExpectedFileBytes : Int
  reserveTmpHeadroomBytes : Int
  fractionalFloor : Int → Int
  enclosureSpread : Bool

/-- `PlacementContext`. -/
structure PlacementContext where
  contentSha256 : List UInt8
  sizeBytes : Int
  siblingDisks : Finset String
  groupDiskCounts : String → Int

/-- The elements with a property, or all of them if there is none. -/
def narrow {Item : Type} (keep : Item → Bool) (items : List Item) : List Item :=
  if (items.filter keep).isEmpty then items else items.filter keep

/-- The count of the group, the balance and the digest of a disk. -/
def GroupKey (Digest : Type) : Type := ℤ ×ₗ ℚ ×ₗ Digest

section

variable {Digest : Type} [LinearOrder Digest]

instance : LinearOrder (GroupKey Digest) := @Prod.Lex.instLinearOrder _ _ Int.instLinearOrder _

variable (tiebreak : List UInt8 → String ↪ Digest)
  (config : PlacementConfig) (ctx : PlacementContext) (candidates disks : List Disk)

/-- `reserve_bytes`. -/
def reserveBytes (disk : Disk) : Int :=
  max (config.reserveLargestExpectedFileBytes + config.reserveTmpHeadroomBytes)
    (config.fractionalFloor disk.capacityBytes)

/-- `_viable_candidates`: the active, healthy disks with room for the content and their
reserve. -/
def viableCandidates : List Disk :=
  disks.filter fun disk => disk.state = .active ∧ disk.overReserve = false ∧
    ctx.sizeBytes + reserveBytes config disk ≤ disk.freeBytes

/-- `_balance_key`. -/
def balanceKey (disk : Disk) : ℚ ×ₗ Digest :=
  toLex (disk.filledRatio, tiebreak ctx.contentSha256 disk.diskId)

/-- `_small_group_key`. -/
def smallGroupKey (disk : Disk) : GroupKey Digest :=
  toLex (-ctx.groupDiskCounts disk.diskId, balanceKey tiebreak ctx disk)

/-- `_large_group_key`. -/
def largeGroupKey (disk : Disk) : GroupKey Digest :=
  toLex (ctx.groupDiskCounts disk.diskId, balanceKey tiebreak ctx disk)

/-- `_choose_small`. -/
def chooseSmall : Option Disk :=
  ((candidates.filter (·.diskId ∈ ctx.siblingDisks)).argmin (smallGroupKey tiebreak ctx)).or
    (((candidates.filter (0 < ctx.groupDiskCounts ·.diskId)).argmin
      (smallGroupKey tiebreak ctx)).or (candidates.argmin (balanceKey tiebreak ctx)))

/-- The enclosures of the siblings. -/
def usedEnclosures : List String :=
  (disks.filter (·.diskId ∈ ctx.siblingDisks)).filterMap Disk.inEnclosure

/-- The disk is known to be in another enclosure. -/
def spreads (disk : Disk) : Bool := disk.inEnclosure.any (· ∉ usedEnclosures ctx disks)

/-- The candidates that `_choose_large` takes the first of. -/
def narrowed : List Disk :=
  let apart := narrow (·.diskId ∉ ctx.siblingDisks) candidates
  if config.enclosureSpread ∧ ctx.siblingDisks.Nonempty ∧ usedEnclosures ctx disks ≠ [] then
    narrow (spreads ctx disks) apart
  else apart

/-- `_choose_large`. -/
def chooseLarge : Option Disk :=
  (narrowed config ctx candidates disks).argmin (largeGroupKey tiebreak ctx)

/-- `choose`: nothing is the error. -/
def choose : Option String :=
  let viable := viableCandidates config ctx disks
  if viable.isEmpty then none
  else if ctx.sizeBytes < config.spreadMinBytes then
    (chooseSmall tiebreak ctx viable).map Disk.diskId
  else (chooseLarge tiebreak config ctx viable disks).map Disk.diskId

/-- An active, healthy disk with room for the content and its reserve. -/
structure Viable (disk : Disk) : Prop where
  listed : disk ∈ disks
  active : disk.state = .active
  healthy : disk.overReserve = false
  room : ctx.sizeBytes + reserveBytes config disk ≤ disk.freeBytes

/-- The disk is known to be in an enclosure in which there is no sibling. -/
def Spread (disk : Disk) : Prop :=
  ∃ enclosure, disk.enclosure = some enclosure ∧ enclosure ≠ "" ∧
    ∀ sibling ∈ disks, sibling.diskId ∈ ctx.siblingDisks → sibling.enclosure ≠ some enclosure

/-- The disk is viable and is where the siblings and the group of the content want it. -/
structure Affine (chosen : Disk) : Prop where
  viable : Viable config ctx disks chosen
  apart : config.spreadMinBytes ≤ ctx.sizeBytes →
    (∃ disk, Viable config ctx disks disk ∧ disk.diskId ∉ ctx.siblingDisks) →
      chosen.diskId ∉ ctx.siblingDisks
  spread : config.spreadMinBytes ≤ ctx.sizeBytes → config.enclosureSpread = true →
    (∃ disk, Viable config ctx disks disk ∧ disk.diskId ∉ ctx.siblingDisks ∧
      Spread ctx disks disk) →
    ∀ sibling ∈ disks, sibling.diskId ∈ ctx.siblingDisks →
      ∀ enclosure, sibling.enclosure = some enclosure → enclosure ≠ "" →
        chosen.enclosure ≠ some enclosure
  bundle : ctx.sizeBytes < config.spreadMinBytes →
    (∃ disk, Viable config ctx disks disk ∧ disk.diskId ∈ ctx.siblingDisks) →
      chosen.diskId ∈ ctx.siblingDisks
  group : ctx.sizeBytes < config.spreadMinBytes →
    (∀ disk, Viable config ctx disks disk → disk.diskId ∉ ctx.siblingDisks) →
    (∃ disk, Viable config ctx disks disk ∧ 0 < ctx.groupDiskCounts disk.diskId) →
      0 < ctx.groupDiskCounts chosen.diskId

end

section

variable {Item : Type} {keep : Item → Bool} {items others : List Item}

theorem mem_narrow : item ∈ narrow keep items ↔
    item ∈ items ∧ ((∃ other ∈ items, keep other = true) → keep item = true) := by
  unfold narrow
  split_ifs with empty
  · have none : ¬ ∃ other ∈ items, keep other = true := by simpa using empty
    simp [none]
  · have exist : ∃ other ∈ items, keep other = true := by simpa using empty
    simp [exist]

theorem narrow_eq_nil : narrow keep items = [] ↔ items = [] := by
  unfold narrow
  split_ifs with empty
  · rfl
  · exact iff_of_false (mt List.isEmpty_iff.mpr empty) fun none => empty (by rw [none]; rfl)

theorem perm_narrow (perm : items.Perm others) : (narrow keep items).Perm (narrow keep others) := by
  have kept := perm.filter keep
  unfold narrow
  rw [kept.isEmpty_eq]
  split_ifs
  · exact perm
  · exact kept

/-- What the key determines about the least element does not depend on the order. -/
theorem map_argmin_of_perm
    {Key Name : Type}
    [LinearOrder Key]
    {key : Item → Key}
    {name : Item → Name}
    (finer : ∀ item other, key item = key other → name item = name other)
    (perm : items.Perm others) : (items.argmin key).map name = (others.argmin key).map name := by
  cases least : items.argmin key with
  | none =>
    rw [argmin_eq_none] at least
    subst least
    rw [← perm.nil_eq]
    rfl
  | some item =>
    have inside := perm.subset (argmin_mem least)
    cases otherLeast : others.argmin key with
    | none => exact absurd inside (argmin_eq_none.mp otherLeast ▸ not_mem_nil)
    | some other =>
      exact congrArg some (finer item other (le_antisymm
        (le_of_mem_argmin (perm.mem_iff.mpr (argmin_mem otherLeast)) least)
        (le_of_mem_argmin inside otherLeast)))

end

section

variable {Digest : Type} [LinearOrder Digest] {tiebreak : List UInt8 → String ↪ Digest}
  {config : PlacementConfig} {ctx : PlacementContext} {candidates disks others : List Disk}

theorem mem_viableCandidates :
    disk ∈ viableCandidates config ctx disks ↔ Viable config ctx disks disk := by
  rw [viableCandidates, mem_filter, decide_eq_true_iff]
  constructor
  · rintro ⟨listed, active, healthy, room⟩
    exact ⟨listed, active, healthy, room⟩
  · rintro ⟨listed, active, healthy, room⟩
    exact ⟨listed, active, healthy, room⟩

theorem mem_usedEnclosures :
    enclosure ∈ usedEnclosures ctx disks ↔ enclosure ≠ "" ∧
      ∃ sibling ∈ disks,
        sibling.diskId ∈ ctx.siblingDisks ∧ sibling.enclosure = some enclosure := by
  simp only [usedEnclosures, mem_filterMap, mem_filter, decide_eq_true_iff, Disk.inEnclosure,
    Option.filter_eq_some_iff]
  constructor
  · rintro ⟨sibling, ⟨listed, isSibling⟩, same, known⟩
    exact ⟨known, sibling, listed, isSibling, same⟩
  · rintro ⟨known, sibling, listed, isSibling, same⟩
    exact ⟨sibling, ⟨listed, isSibling⟩, same, known⟩

theorem spreads_iff : spreads ctx disks disk = true ↔ Spread ctx disks disk := by
  simp only [spreads, Option.any_eq_true, decide_eq_true_iff, mem_usedEnclosures, Disk.inEnclosure,
    Option.filter_eq_some_iff, Spread]
  constructor
  · rintro ⟨enclosure, ⟨same, known⟩, unused⟩
    exact ⟨enclosure, same, known, fun sibling listed isSibling used =>
      unused ⟨known, sibling, listed, isSibling, used⟩⟩
  · rintro ⟨enclosure, same, known, unused⟩
    exact ⟨enclosure, ⟨same, known⟩, fun ⟨_, sibling, listed, isSibling, used⟩ =>
      unused sibling listed isSibling used⟩

theorem affine_of_chooseLarge
    (large : config.spreadMinBytes ≤ ctx.sizeBytes)
    (chosen : chooseLarge tiebreak config ctx (viableCandidates config ctx disks) disks =
      some disk) :
    Affine config ctx disks disk := by
  have member := argmin_mem chosen
  unfold narrowed at member
  split_ifs at member with spread
  · obtain ⟨inside, spreading⟩ := mem_narrow.mp member
    obtain ⟨isCandidate, apart⟩ := mem_narrow.mp inside
    simp only [mem_viableCandidates] at isCandidate apart
    refine ⟨isCandidate, fun _ => by simpa using apart, fun _ _ exist => ?_,
      fun small => absurd small (not_lt.mpr large), fun small => absurd small (not_lt.mpr large)⟩
    obtain ⟨other, isViable, isApart, isSpread⟩ := exist
    have inOther := spreads_iff.mp (spreading ⟨other, mem_narrow.mpr
      ⟨mem_viableCandidates.mpr isViable, by simp [isApart]⟩, spreads_iff.mpr isSpread⟩)
    obtain ⟨own, isOwn, -, unused⟩ := inOther
    rintro sibling listed isSibling enclosure used - same
    exact unused sibling listed isSibling (used.trans (same.symm.trans isOwn))
  · obtain ⟨isCandidate, apart⟩ := mem_narrow.mp member
    simp only [mem_viableCandidates] at isCandidate apart
    refine ⟨isCandidate, fun _ => by simpa using apart,
      fun _ on _ sibling listed isSibling enclosure used known _ => spread ⟨on, ?_⟩,
      fun small => absurd small (not_lt.mpr large), fun small => absurd small (not_lt.mpr large)⟩
    exact ⟨⟨_, isSibling⟩,
      ne_nil_of_mem (mem_usedEnclosures.mpr ⟨known, sibling, listed, isSibling, used⟩)⟩

theorem affine_of_chooseSmall
    (small : ctx.sizeBytes < config.spreadMinBytes)
    (chosen : chooseSmall tiebreak ctx (viableCandidates config ctx disks) = some disk) :
    Affine config ctx disks disk := by
  suffices placed : disk ∈ viableCandidates config ctx disks ∧
      ((∃ other ∈ viableCandidates config ctx disks, other.diskId ∈ ctx.siblingDisks) →
        disk.diskId ∈ ctx.siblingDisks) ∧ _ by
    simp only [mem_viableCandidates] at placed
    exact ⟨placed.1, fun large => absurd small (not_lt.mpr large),
      fun large => absurd small (not_lt.mpr large), fun _ => placed.2.1, fun _ => placed.2.2⟩
  unfold chooseSmall at chosen
  rcases Option.or_eq_some_iff.mp chosen with sibling | ⟨noSibling, chosen⟩
  · obtain ⟨inside, isSibling⟩ := mem_filter.mp (argmin_mem sibling)
    rw [decide_eq_true_iff] at isSibling
    exact ⟨inside, fun _ => isSibling, fun all =>
      absurd isSibling (all disk (mem_viableCandidates.mp inside))⟩
  · have alone : ¬ ∃ other ∈ viableCandidates config ctx disks,
        other.diskId ∈ ctx.siblingDisks := by
      simpa using noSibling
    rcases Option.or_eq_some_iff.mp chosen with group | ⟨noGroup, chosen⟩
    · obtain ⟨inside, isGroup⟩ := mem_filter.mp (argmin_mem group)
      exact ⟨inside, fun exist => absurd exist alone, fun _ _ => of_decide_eq_true isGroup⟩
    · have none : ¬ ∃ other ∈ viableCandidates config ctx disks,
          0 < ctx.groupDiskCounts other.diskId := by
        simpa using noGroup
      simp only [mem_viableCandidates] at none
      exact ⟨argmin_mem chosen, fun exist => absurd exist alone, fun _ exist => absurd exist none⟩

theorem narrowed_eq_nil : narrowed config ctx candidates disks = [] ↔ candidates = [] := by
  unfold narrowed
  split_ifs <;> simp [narrow_eq_nil]

theorem perm_narrowed (perm : disks.Perm others) (viable : candidates.Perm candidates') :
    (narrowed config ctx candidates disks).Perm (narrowed config ctx candidates' others) := by
  have used : (usedEnclosures ctx disks).Perm (usedEnclosures ctx others) :=
    (perm.filter _).filterMap _
  have same : spreads ctx disks = spreads ctx others := by
    funext disk
    simp only [spreads, used.mem_iff]
  have empty : usedEnclosures ctx disks = [] ↔ usedEnclosures ctx others = [] :=
    ⟨fun none => (none ▸ used).nil_eq.symm, fun none => (none ▸ used).eq_nil⟩
  unfold narrowed
  simp only [same, ne_eq, empty]
  split_ifs
  · exact perm_narrow (perm_narrow viable)
  · exact perm_narrow viable

theorem choose_eq_of_perm (perm : disks.Perm others) :
    choose tiebreak config ctx disks = choose tiebreak config ctx others := by
  have balance (disk other : Disk) (same : balanceKey tiebreak ctx disk =
      balanceKey tiebreak ctx other) : disk.diskId = other.diskId :=
    (tiebreak ctx.contentSha256).injective (Prod.mk.inj same).2
  have small (disk other : Disk) (same : smallGroupKey tiebreak ctx disk =
      smallGroupKey tiebreak ctx other) := balance disk other (Prod.mk.inj same).2
  have large (disk other : Disk) (same : largeGroupKey tiebreak ctx disk =
      largeGroupKey tiebreak ctx other) := balance disk other (Prod.mk.inj same).2
  have viable : (viableCandidates config ctx disks).Perm (viableCandidates config ctx others) :=
    perm.filter _
  simp only [choose, chooseSmall, chooseLarge, Option.map_or, viable.isEmpty_eq]
  rw [map_argmin_of_perm small (viable.filter _), map_argmin_of_perm small (viable.filter _),
    map_argmin_of_perm balance viable, map_argmin_of_perm large (perm_narrowed perm viable)]

end

/-- Placement fails exactly when no disk is viable, chooses a disk by its affinity, and does
not depend on the order of the disks. -/
theorem choose_affine
    {Digest : Type}
    [LinearOrder Digest]
    (tiebreak : List UInt8 → String ↪ Digest)
    (config : PlacementConfig)
    (ctx : PlacementContext)
    (disks : List Disk) :
    (choose tiebreak config ctx disks = none ↔ ∀ disk, ¬ Viable config ctx disks disk) ∧
    (∀ diskId ∈ choose tiebreak config ctx disks, ∃ chosen : Disk,
      chosen.diskId = diskId ∧ Affine config ctx disks chosen) ∧
    ∀ others, disks.Perm others →
      choose tiebreak config ctx disks = choose tiebreak config ctx others := by
  refine ⟨?_, ?_, fun _ => choose_eq_of_perm⟩
  · have none : viableCandidates config ctx disks = [] ↔
        ∀ disk, ¬ Viable config ctx disks disk := by
      rw [eq_nil_iff_forall_not_mem]
      exact forall_congr' fun disk => not_congr mem_viableCandidates
    rw [← none]
    unfold choose
    dsimp only
    split_ifs with empty
    · exact iff_of_true rfl (List.isEmpty_iff.mp empty)
    all_goals
      rw [List.isEmpty_iff] at empty
      simp [chooseSmall, chooseLarge, narrowed_eq_nil, empty]
  · intro diskId chosen
    unfold choose at chosen
    dsimp only at chosen
    split_ifs at chosen with empty small
    · cases chosen
    all_goals obtain ⟨disk, isChosen, rfl⟩ := Option.map_eq_some_iff.mp chosen
    · exact ⟨disk, rfl, affine_of_chooseSmall small isChosen⟩
    · exact ⟨disk, rfl, affine_of_chooseLarge (not_lt.mp small) isChosen⟩

end Placement
end Hdcache
end Sutradhara
