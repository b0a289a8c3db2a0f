import Sutradhara.Archive.Catalog

/-!
# Sealed membership and the writes that keep it

A sealed bundle should hold exactly the member rows that its flush loaded after
the claim and built.  Every single write of the catalog is described by what it
leaves alone: the bundles it keeps, the claims it spares, and the seals.
-/

namespace Sutradhara
namespace Archive

open Foundation Store

section

variable (store : Store) (bundleId : String)

/-- The member rows of a bundle, up to their metadata. -/
def Store.identities : List BundleMember := (store.rowsOf bundleId).map BundleMember.identity

/-- The member rows of a bundle are exactly the given ones. -/
def Store.Holds (rows : List BundleMember) : Prop :=
  ∀ member, member ∈ store.identities bundleId ↔ member ∈ rows.map BundleMember.identity

/-- Every seal closed what its bundle holds, every sealed bundle has a seal, and
no row was inserted into a claimed, sealed or void bundle. -/
structure SealedAsBuilt (store : Store) : Prop where
  sealed : ∀ closure ∈ store.seals,
    store.status? closure.bundleId = some .sealed ∧ store.Holds closure.bundleId closure.members
  built : ∀ bundleId, store.status? bundleId = some .sealed →
    ∃ closure ∈ store.seals, closure.bundleId = bundleId
  admitted : ∀ admission ∈ store.admissions,
    admission.status ∉ [BundleStatus.flushing, .sealed, .void]

/-- A catalog before any seal, with an empty history. -/
structure Unsealed (store : Store) : Prop where
  unsealed : ∀ bundleId, store.status? bundleId ≠ some .sealed
  seals : store.seals = []
  admissions : store.admissions = []

/-! ## What a write leaves alone -/

/-- A write keeps the status and the rows of a bundle. -/
structure Keeps (store next : Store) (bundleId : String) : Prop where
  status : next.status? bundleId = store.status? bundleId
  members : ∀ member, member ∈ next.identities bundleId ↔ member ∈ store.identities bundleId

theorem Keeps.refl : Keeps store store bundleId := ⟨rfl, fun _ => Iff.rfl⟩

end

theorem Keeps.holds (keeps : Keeps store next bundleId) (holds : store.Holds bundleId rows) :
    next.Holds bundleId rows :=
  fun member => (keeps.members member).trans (holds member)

/-- A write keeps every claimed bundle but its own, and every held bundle stays
held. -/
structure Spares (own : Option String) (store next : Store) : Prop where
  flushing : ∀ bundleId, own ≠ some bundleId →
    store.status? bundleId = some .flushing → Keeps store next bundleId
  held : ∀ bundleId, store.status? bundleId = some .held → next.status? bundleId = some .held

/-- A write that neither seals nor touches a sealed bundle. -/
structure Preserves (own : Option String)
    (store next : Store) : Prop extends Spares own store next where
  sealed : ∀ bundleId, store.status? bundleId = some .sealed → Keeps store next bundleId
  unsealed : ∀ bundleId, next.status? bundleId = some .sealed →
    store.status? bundleId = some .sealed
  seals : next.seals = store.seals
  admitted : ∀ admission ∈ next.admissions,
    admission ∈ store.admissions ∨ admission.status = .opened

/-- A write that keeps all bundles. -/
theorem Preserves.of_keeps
    (own : Option String)
    (keeps : ∀ bundleId, Keeps store next bundleId)
    (seals : next.seals = store.seals)
    (admissions : next.admissions = store.admissions) :
    Preserves own store next where
  flushing bundleId _ _ := keeps bundleId
  held bundleId held := (keeps bundleId).status.trans held
  sealed bundleId _ := keeps bundleId
  unsealed bundleId sealed := (keeps bundleId).status.symm.trans sealed
  seals := seals
  admitted _ member := Or.inl (admissions ▸ member)

theorem Preserves.refl (own : Option String) (store : Store) : Preserves own store store :=
  .of_keeps own (Keeps.refl store) rfl rfl

theorem Preserves.sealedAsBuilt
    (preserves : Preserves own store next)
    (law : SealedAsBuilt store) : SealedAsBuilt next where
  sealed closure member := by
    rw [preserves.seals] at member
    obtain ⟨status, holds⟩ := law.sealed closure member
    have keeps := preserves.sealed closure.bundleId status
    exact ⟨keeps.status.trans status, keeps.holds holds⟩
  built bundleId status := by
    rw [preserves.seals]
    exact law.built bundleId (preserves.unsealed bundleId status)
  admitted admission member := by
    rcases preserves.admitted admission member with before | opened
    · exact law.admitted admission before
    · simp [opened]

/-! ## Bundle writes -/

variable {store : Store}

theorem status?_updateBundle_self :
    (store.updateBundle bundleId change).status? bundleId =
      (store.bundles.find? bundleId).map fun bundle => (change.apply bundle).status := by
  simp only [status?, updateBundle, Table.find?_update_self, Option.map_map]
  rfl

theorem keeps_updateBundle_of_ne
    (different : other ≠ bundleId) : Keeps store (store.updateBundle bundleId change) other where
  status := by simp only [status?, updateBundle, Table.find?_update_of_ne _ _ different]
  members _ := Iff.rfl

/-- An update that does not touch the status keeps every bundle. -/
theorem keeps_updateBundle
    (same : ∀ bundle, (change.apply bundle).status = bundle.status)
    (other : String) :
    Keeps store (store.updateBundle bundleId change) other := by
  by_cases equal : other = bundleId
  · subst equal
    refine ⟨?_, fun _ => Iff.rfl⟩
    rw [status?_updateBundle_self]
    simp only [same]
    rfl
  · exact keeps_updateBundle_of_ne equal

theorem preserves_updateBundle
    (store : Store)
    (bundleId : String)
    (change : Rewrite Bundle.id)
    (same : ∀ bundle, (change.apply bundle).status = bundle.status)
    (own : Option String) :
    Preserves own store (store.updateBundle bundleId change) :=
  .of_keeps own (keeps_updateBundle same) rfl rfl

/-- A guarded update that takes one bundle from a status to another. -/
structure Shifts (bundleId : String) (source target : BundleStatus)
    (store next : Store) : Prop where
  source : store.status? bundleId = some source
  target : next.status? bundleId = some target
  members : ∀ member, member ∈ next.identities bundleId ↔ member ∈ store.identities bundleId
  others : ∀ other, other ≠ bundleId → Keeps store next other
  seals : next.seals = store.seals
  admissions : next.admissions = store.admissions

theorem shifts_updateBundleWhere
    {guard : Bundle → Bool}
    (guards : ∀ bundle, guard bundle = true → bundle.status = source)
    (changes : ∀ bundle, (change.apply bundle).status = target)
    (updated : store.updateBundleWhere bundleId guard change = some next) :
    Shifts bundleId source target store next := by
  unfold updateBundleWhere at updated
  split at updated
  · cases updated
  next bundle found =>
    split at updated
    next passed =>
      cases updated
      refine ⟨?_, ?_, fun _ => Iff.rfl, ?_, rfl, rfl⟩
      · simp [status?, found, guards bundle passed]
      · rw [status?_updateBundle_self, found]
        simp [changes]
      · intro other different
        exact keeps_updateBundle_of_ne different
    · cases updated

/-- A shift keeps the other bundles open. -/
theorem Shifts.opened
    {bundleId : String}
    {source target : BundleStatus}
    (shifts : Shifts bundleId source target store next)
    (apart : source = .opened → bundleId ≠ other)
    (opened : store.status? other = some .opened) :
    next.status? other = some .opened := by
  have different : other ≠ bundleId := by
    rintro rfl
    exact apart (Option.some.inj (shifts.source.symm.trans opened)) rfl
  exact (shifts.others other different).status.trans opened

/-- A shift spares all claims but one on its own bundle. -/
theorem Shifts.spares
    {bundleId : String}
    {source target : BundleStatus}
    (shifts : Shifts bundleId source target store next)
    (unheld : source ≠ .held) :
    Spares (some bundleId) store next where
  flushing other different _ := shifts.others other fun equal => different (equal ▸ rfl)
  held other held := by
    by_cases equal : other = bundleId
    · subst equal
      exact absurd (Option.some.inj (shifts.source.symm.trans held)) unheld
    · exact (shifts.others other equal).status.trans held

theorem Shifts.preserves
    {bundleId : String}
    {source target : BundleStatus}
    (shifts : Shifts bundleId source target store next)
    (unheld : source ≠ .held)
    (before : source ≠ .sealed)
    (after : target ≠ .sealed) :
    Preserves (some bundleId) store next where
  toSpares := shifts.spares unheld
  sealed other sealed := by
    refine shifts.others other ?_
    rintro rfl
    exact before (Option.some.inj (shifts.source.symm.trans sealed))
  unsealed other sealed := by
    by_cases equal : other = bundleId
    · subst equal
      exact absurd (Option.some.inj (shifts.target.symm.trans sealed)) after
    · exact (shifts.others other equal).status.symm.trans sealed
  seals := shifts.seals
  admitted admission member := Or.inl (shifts.admissions ▸ member)

/-- Sessions need not own a bundle that is not claimed. -/
theorem Preserves.disown
    (preserves : Preserves (some bundleId) store next)
    (unclaimed : store.status? bundleId ≠ some .flushing) : Preserves none store next where
  toSpares := ⟨fun other _ flushing => by
    refine preserves.flushing other ?_ flushing
    intro equal
    cases equal
    exact unclaimed flushing, preserves.held⟩
  sealed := preserves.sealed
  unsealed := preserves.unsealed
  seals := preserves.seals
  admitted := preserves.admitted

/-- A minted bundle was not there before. -/
theorem insertBundle_eq_some (inserted : store.insertBundle bundle = some next) :
    store.status? bundle.id = none ∧ next.status? bundle.id = some bundle.status ∧
      (∀ other, other ≠ bundle.id → Keeps store next other) ∧
      next.seals = store.seals ∧ next.admissions = store.admissions := by
  unfold insertBundle at inserted
  split at inserted
  next absent =>
    cases inserted
    refine ⟨?_, ?_, ?_, rfl, rfl⟩
    · simp [status?, absent]
    · simp [status?, Table.find?_insert_self]
    · intro other different
      refine ⟨?_, fun _ => Iff.rfl⟩
      simp [status?, Table.find?_insert_of_ne _ _ absent different]
  · cases inserted

theorem preserves_insertBundle
    (inserted : store.insertBundle bundle = some next)
    (unsealed : bundle.status ≠ .sealed)
    (own : Option String) : Preserves own store next := by
  obtain ⟨absent, status, others, seals, admissions⟩ := insertBundle_eq_some inserted
  have keeps (other : String) (known : BundleStatus)
      (found : store.status? other = some known) : Keeps store next other := by
    refine others other ?_
    rintro rfl
    rw [absent] at found
    cases found
  refine ⟨⟨fun other _ found => keeps other _ found, fun other found =>
    (keeps other _ found).status.trans found⟩, fun other found =>
    keeps other _ found, ?_, seals, fun admission member => Or.inl (admissions ▸ member)⟩
  intro other sealed
  by_cases equal : other = bundle.id
  · subst equal
    exact absurd (Option.some.inj (status.symm.trans sealed)) unsealed
  · exact (others other equal).status.symm.trans sealed

/-! ## Member writes -/

theorem mem_identities :
    member ∈ store.identities bundleId ↔ ∃ row ∈ store.members.rows,
        row.bundleId = bundleId ∧ row.identity = member := by
  simp [identities, rowsOf, and_assoc]

/-- Metadata does not belong to the identity of a row. -/
theorem preserves_updateMetadata
    (memberId : Nat)
    (metadata : Json.Dict)
    (own : Option String) : Preserves own store (store.updateMetadata memberId metadata) := by
  refine .of_keeps own ?_ rfl rfl
  intro bundleId
  refine ⟨rfl, ?_⟩
  intro member
  simp only [mem_identities, updateMetadata, Table.mem_update]
  constructor
  · rintro ⟨row, ⟨old, present, _, rfl⟩ | ⟨present, _⟩, within, rfl⟩
    · exact ⟨old, present, within, rfl⟩
    · exact ⟨row, present, within, rfl⟩
  · rintro ⟨row, present, within, rfl⟩
    by_cases target : row.id = memberId
    · exact ⟨_, Or.inl ⟨row, present, target, rfl⟩, within, rfl⟩
    · exact ⟨row, Or.inr ⟨present, target⟩, within, rfl⟩

/-- An insert into an open bundle reaches no other bundle. -/
theorem preserves_insertMember
    (inserted : store.insertMember row = some next)
    (opened : store.status? row.bundleId = some .opened) : Preserves none store next := by
  unfold insertMember at inserted
  split at inserted
  next absent =>
    rw [opened] at inserted
    cases inserted
    have keeps (other : String) (different : other ≠ row.bundleId) : Keeps store { store with
            members := store.members.insert row absent
            admissions := store.admissions ++ [⟨row.id, row.bundleId, .opened⟩] } other := by
      refine ⟨rfl, ?_⟩
      intro member
      simp only [mem_identities, Table.mem_insert]
      constructor
      · rintro ⟨found, present | rfl, within, same⟩
        · exact ⟨found, present, within, same⟩
        · exact absurd within.symm different
      · rintro ⟨found, present, within, same⟩
        exact ⟨found, Or.inl present, within, same⟩
    have apart (other : String) (status : BundleStatus)
        (known : store.status? other = some status)
        (closed : status ≠ .opened) : other ≠ row.bundleId := by
      rintro rfl
      exact closed (Option.some.inj (known.symm.trans opened))
    refine ⟨⟨fun other _ known =>
      keeps other (apart other _ known (by decide)), fun _ known => known⟩,
      fun other known => keeps other (apart other _ known (by decide)),
      fun _ known => known, rfl, ?_⟩
    intro admission member
    rcases List.mem_append.mp member with before | new
    · exact Or.inl before
    · rw [List.mem_singleton.mp new]
      exact Or.inr rfl
  · cases inserted

/-- A row moved from a claimed bundle into a held one reaches no third bundle. -/
theorem preserves_moveMember
    (inside : ∃ member ∈ store.identities source, member.id = memberId)
    (claimed : store.status? source = some .flushing)
    (held : store.status? target = some .held) :
    Preserves (some source) store (store.moveMember memberId target) := by
  obtain ⟨_, member, rfl⟩ := inside
  obtain ⟨moved, movedPresent, movedWithin, rfl⟩ := (mem_identities ..).mp member
  have keeps (other : String) (notSource : other ≠ source) (notTarget : other ≠ target) :
      Keeps store (store.moveMember moved.identity.id target) other := by
    refine ⟨rfl, ?_⟩
    intro member
    simp only [mem_identities, moveMember, Table.mem_update]
    constructor
    · rintro ⟨row, ⟨old, _, _, rfl⟩ | ⟨present, _⟩, within, same⟩
      · exact absurd within.symm notTarget
      · exact ⟨row, present, within, same⟩
    · rintro ⟨row, present, within, same⟩
      refine ⟨row, Or.inr ⟨present, ?_⟩, within, same⟩
      intro equal
      have one : row = moved := store.members.eq_of_key_eq present movedPresent equal
      rw [one, movedWithin] at within
      exact notSource within.symm
  have apart (other place : String) (status known : BundleStatus)
      (found : store.status? other = some status)
      (placed : store.status? place = some known)
      (differs : status ≠ known) : other ≠ place := by
    rintro rfl
    exact differs (Option.some.inj (found.symm.trans placed))
  exact ⟨⟨fun other different found => keeps other (fun equal => different (equal ▸ rfl))
      (apart other target _ _ found held (by decide)), fun _ found => found⟩,
    fun other found => keeps other (apart other source _ _ found claimed (by decide))
      (apart other target _ _ found held (by decide)),
    fun _ found => found, rfl, fun _ member => Or.inl member⟩

end Archive
end Sutradhara
