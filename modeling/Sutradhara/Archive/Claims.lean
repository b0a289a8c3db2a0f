import Sutradhara.Archive.Membership
import Sutradhara.Archive.Sessions

/-!
# What the sessions rely on

A flush relies on its claim: the bundle is claimed, and holds the rows that the
flush has loaded.  An append relies on its look at the status until it has inserted.
Each statement of each operation is judged once, by what it leaves to the session
itself and by what it leaves to the others.
-/

namespace Sutradhara
namespace Archive

open Foundation Option
open Foundation.Transaction

/-! ## What a flush relies on -/

/-- The flush has its claim and has not sealed. -/
def Flushing.claimed : Flushing → Bool
  | .read | .claim _ | .returned | .raised _ => false
  | _ => true

/-- The rows that the flush has loaded and may seal. -/
def Flushing.loaded : Flushing → Option (List BundleMember)
  | .build _ _ rows => some rows
  | .close rows => some rows
  | _ => none

/-- The member that the flush is about to move. -/
def Flushing.moving : Flushing → Option Nat
  | .mint _ _ member => some member.id
  | .move _ _ member _ => some member.id
  | _ => none

/-- The quarantine bundles that the flush knows. -/
def Flushing.quarantines : Flushing → List String
  | .load _ rounds | .build _ rounds _ | .mint _ rounds _ => rounds.quarantine.toList
  | .move _ rounds _ quarantine | .discount _ rounds _ quarantine
  | .count _ rounds _ quarantine => quarantine :: rounds.quarantine.toList
  | _ => []

/-- The append has found its bundle open and has not inserted its row. -/
def Appending.checked : Appending → Bool
  | .requireAsset | .resolve .. | .insert .. => true
  | _ => false

section

variable (session first second : Session)

/-- The session runs a flush that has claimed a bundle. -/
def Session.claims (bundleId : String) : Bool :=
  match session with
  | .flush request place => place.claimed && request.bundleId == bundleId
  | _ => false

/-- The session runs an append between its look at the status of a bundle and its insert. -/
def Session.checks (bundleId : String) : Bool :=
  match session with
  | .append request place => place.checked && request.bundleId == bundleId
  | _ => false

/-- The session is about to claim a bundle or to void it. -/
def Session.shuts (bundleId : String) : Bool :=
  match session with
  | .flush request (.claim _) => request.bundleId == bundleId
  | .void (.void (orphan :: _)) => orphan == bundleId
  | _ => false

/-- What a flush with a claim relies on: its bundle is claimed and holds the
given rows, among them those it has loaded and the one it moves, and its
quarantine bundle is held. -/
structure Claimed (bundleId : String) (place : Flushing) (rows : List BundleMember)
    (store : Store) : Prop where
  flushing : store.status? bundleId = some .flushing
  holds : store.Holds bundleId rows
  loaded : ∀ found, place.loaded = some found → ∀ member,
    member ∈ found.map BundleMember.identity ↔ member ∈ rows.map BundleMember.identity
  moving : ∀ memberId, place.moving = some memberId →
    ∃ member ∈ rows.map BundleMember.identity, member.id = memberId
  held : ∀ quarantine ∈ place.quarantines, store.status? quarantine = some .held

/-- What a session relies on. -/
def At (rows : List BundleMember) (store : Store) : Prop :=
  match session with
  | .flush request place => place.claimed = true → Claimed request.bundleId place rows store
  | .append request place => place.checked = true → store.status? request.bundleId = some .opened
  | _ => True

/-- No two sessions have claimed one bundle. -/
def Both : Prop := ∀ bundleId, first.claims bundleId = true → second.claims bundleId = false

theorem both_symmetric (both : Both first second) : Both second first := by
  intro bundleId claims
  cases claimed : first.claims bundleId with
  | false => rfl
  | true => exact absurd claims (by simp [both bundleId claimed])

end

/-- A claim survives what spares it. -/
theorem Claimed.of_keeps
    (claimed : Claimed bundleId place rows store)
    (keeps : Keeps store next bundleId)
    (held : ∀ bundleId, store.status? bundleId = some .held →
      next.status? bundleId = some .held) :
    Claimed bundleId place rows next where
  flushing := keeps.status.trans claimed.flushing
  holds := keeps.holds claimed.holds
  loaded := claimed.loaded
  moving := claimed.moving
  held quarantine member := held quarantine (claimed.held quarantine member)

/-- The sessions that do not own the bundle of a write keep what they rely
on, if no bundle is shut under an append. -/
theorem Spares.at
    (spares : Spares own store next)
    (apart : ∀ bundleId, own = some bundleId → session.claims bundleId = false)
    (stays : ∀ bundleId, session.checks bundleId = true →
      store.status? bundleId = some .opened → next.status? bundleId = some .opened)
    (relied : At session rows store) :
    At session rows next := by
  cases session with
  | flush request place =>
    intro has
    have claimed := relied has
    refine claimed.of_keeps ?_ spares.held
    refine spares.flushing request.bundleId ?_ claimed.flushing
    intro owned
    have unclaimed := apart request.bundleId owned
    simp [Session.claims, has] at unclaimed
  | append request place =>
    intro checked
    exact stays request.bundleId (by simp [Session.checks, checked]) (relied checked)
  | reap place => trivial
  | void place => trivial
  | stopped => trivial

/-- A session that enters or has ended relies on nothing. -/
theorem at_of_unclaimed
    (unclaimed : ∀ bundleId, session.claims bundleId = false)
    (unchecked : ∀ bundleId, session.checks bundleId = false)
    (rows : List BundleMember)
    (store : Store) :
    At session rows store := by
  cases session with
  | flush request place =>
    intro has
    have none := unclaimed request.bundleId
    simp [Session.claims, has] at none
  | append request place =>
    intro checked
    have none := unchecked request.bundleId
    simp [Session.checks, checked] at none
  | reap place => trivial
  | void place => trivial
  | stopped => trivial

theorem both_of_unclaimed
    (unclaimed : ∀ bundleId, session.claims bundleId = false)
    (other : Session) : Both session other := by
  intro bundleId claims
  rw [unclaimed bundleId] at claims
  cases claims

/-- An entering session has no claim and has not looked at a status. -/
theorem unclaimed_of_entering
    (initial : entering session = true)
    (bundleId : String) :
    session.claims bundleId = false ∧ session.checks bundleId = false := by
  cases session with
  | flush request place =>
    cases place with
    | read => exact ⟨rfl, rfl⟩
    | _ => cases initial
  | append request place =>
    cases place with
    | readStatus => exact ⟨rfl, rfl⟩
    | _ => cases initial
  | reap place => exact ⟨rfl, rfl⟩
  | void place => exact ⟨rfl, rfl⟩
  | stopped => exact ⟨rfl, rfl⟩

/-- A session that relies on a claim finds the bundle claimed. -/
theorem At.status (relied : At session rows store) (claims : session.claims bundleId = true) :
    store.status? bundleId = some .flushing := by
  cases session with
  | flush request place =>
    simp only [Session.claims, Bool.and_eq_true, beq_iff_eq] at claims
    obtain ⟨has, rfl⟩ := claims
    exact (relied has).flushing
  | append request place => cases claims
  | reap place => cases claims
  | void place => cases claims
  | stopped => cases claims

/-! ## Statements of the operations -/

theorem within_eq_reads
    {Place : Type}
    {wrap : Place → Session}
    {statement : Statement Place}
    (read : statement.within wrap = some (.reads next)) :
    ∃ place, statement = some (.reads place) ∧ next = wrap place := by
  obtain ⟨effect, found, equal⟩ := map_eq_some_iff.mp read
  cases effect with
  | reads place =>
    cases equal
    exact ⟨place, found, rfl⟩
  | writes store place => cases equal

theorem within_eq_writes
    {Place : Type}
    {wrap : Place → Session}
    {statement : Statement Place}
    (wrote : statement.within wrap = some (.writes store next)) :
    ∃ place, statement = some (.writes store place) ∧ next = wrap place := by
  obtain ⟨effect, found, equal⟩ := map_eq_some_iff.mp wrote
  cases effect with
  | reads place => cases equal
  | writes written place =>
    cases equal
    exact ⟨place, found, rfl⟩

/-- A guarded update hits one row or leaves the store as it was. -/
theorem guarded_eq_writes (wrote : guarded store updated hit miss = some (.writes next place)) :
    (updated = some next ∧ place = hit) ∨ (next = store ∧ place = miss) := by
  unfold guarded at wrote
  split at wrote
  · cases wrote
    exact Or.inl ⟨rfl, rfl⟩
  · cases wrote
    exact Or.inr ⟨rfl, rfl⟩

theorem guarded_ne_reads : guarded store updated hit miss ≠ some (.reads place) := by
  unfold guarded
  split <;> simp

/-- An append whose insert meets an open bundle touches no claimed and no sealed
bundle. -/
theorem addBundleMember_preserves
    (opened : ∀ attempt finalPath, place = .insert attempt finalPath →
      store.status? request.bundleId = some .opened)
    (wrote : addBundleMember sha256Hex request store place answer = some (.writes next place')) :
    Preserves none store next := by
  unfold addBundleMember at wrote
  split at wrote
  · split at wrote <;> cases wrote
  · split at wrote <;> cases wrote
  · cases wrote
  · split at wrote
    · cases wrote
    · split at wrote <;> cases wrote
  · split at wrote
    · cases wrote
    · cases wrote
      exact preserves_updateMetadata _ _ none
  next attempt finalPath id =>
    simp only at wrote
    split at wrote
    · obtain ⟨inserted, found, equal⟩ := map_eq_some_iff.mp wrote
      cases equal
      exact preserves_insertMember found (opened attempt finalPath rfl)
    · split at wrote
      · cases wrote
        exact .refl none store
      · cases wrote
        exact .refl none store
  · cases wrote
    exact preserves_updateBundle store _ _ (fun _ => rfl) none
  · cases wrote

/-- An append looks at the status of its bundle before anything else. -/
theorem addBundleMember_reads
    (read : addBundleMember sha256Hex request store place answer = some (.reads place'))
    (checked : place'.checked = true) :
    place.checked = true ∨ place = .readStatus ∧ store.status? request.bundleId = some .opened := by
  unfold addBundleMember at read
  split at read
  · split at read
    · cases read
    next opened => exact .inr ⟨rfl, opened⟩
    · cases read
      cases checked
  · exact .inl rfl
  · exact .inl rfl
  · exact .inl rfl
  · split at read
    · cases read
      cases checked
    · cases read
  · exact .inl rfl
  · cases read
  · cases read

/-- An append that tries again after a refused insert has changed nothing. -/
theorem addBundleMember_retries
    (wrote : addBundleMember sha256Hex request store place answer = some (.writes next place'))
    (checked : place'.checked = true) :
    place.checked = true ∧ next = store := by
  unfold addBundleMember at wrote
  split at wrote
  · split at wrote <;> cases wrote
  · split at wrote <;> cases wrote
  · cases wrote
  · split at wrote
    · cases wrote
    · split at wrote <;> cases wrote
  · split at wrote
    · cases wrote
    · cases wrote
      cases checked
  · simp only at wrote
    split at wrote
    · obtain ⟨inserted, -, equal⟩ := map_eq_some_iff.mp wrote
      cases equal
      cases checked
    · split at wrote
      · cases wrote
        exact ⟨rfl, rfl⟩
      · cases wrote
        cases checked
  · cases wrote
    cases checked
  · cases wrote

/-- A reaper writes to the bundle it is about to reap only. -/
theorem reapStuckFlushing_preserves (wrote : reapStuckFlushing store place answer =
      some (.writes next place')) :
    ∃ bundleId stuck, place = .reap bundleId stuck ∧ Preserves (some bundleId) store next := by
  unfold reapStuckFlushing at wrote
  split at wrote
  · cases wrote
  · cases wrote
  · split at wrote <;> cases wrote
  next bundleId stuck =>
    refine ⟨bundleId, stuck, rfl, ?_⟩
    rcases guarded_eq_writes wrote with ⟨reaped, _⟩ | ⟨rfl, _⟩
    · have shifts : Shifts bundleId .flushing .opened store next :=
        shifts_updateBundleWhere (fun _ => of_decide_eq_true) (fun _ => rfl) reaped
      exact shifts.preserves (by decide) (by decide) (by decide)
    · exact .refl _ _
  · cases wrote

theorem voidSealOrphans_preserves (wrote : voidSealOrphans store place answer =
      some (.writes next place')) :
    Preserves none store next := by
  unfold voidSealOrphans at wrote
  split at wrote
  · cases wrote
  · cases wrote
  · rcases guarded_eq_writes wrote with ⟨voided, _⟩ | ⟨rfl, _⟩
    · have shifts := shifts_updateBundleWhere (fun _ => of_decide_eq_true) (fun _ => rfl) voided
      refine (shifts.preserves (by decide) (by decide) (by decide)).disown ?_
      rw [shifts.source]
      decide
    · exact .refl none _
  · cases wrote

/-! ## Statements of a flush -/

/-- A flush goes on under its claim when it knows no more rows, moves a row it
has, and keeps its quarantine bundle. -/
theorem Claimed.advance
    (claimed : Claimed bundleId place rows store)
    (loaded : ∀ found, place'.loaded = some found → ∀ member,
      member ∈ found.map BundleMember.identity ↔ member ∈ rows.map BundleMember.identity)
    (moving : ∀ memberId, place'.moving = some memberId →
      ∃ member ∈ rows.map BundleMember.identity, member.id = memberId)
    (quarantines : ∀ quarantine ∈ place'.quarantines, quarantine ∈ place.quarantines) :
    Claimed bundleId place' rows store where
  flushing := claimed.flushing
  holds := claimed.holds
  loaded := loaded
  moving := moving
  held quarantine member := claimed.held quarantine (quarantines quarantine member)

/-- The retry after a failure names a loaded row. -/
theorem Claimed.retry
    (claimed : Claimed request.bundleId (.build bundle rounds found) rows store)
    (named : member ∈ found)
    (goes : (Archive.retry request bundle rounds member).claimed = true) :
    Claimed request.bundleId (Archive.retry request bundle rounds member) rows
      store := by
  have inside : ∃ other ∈ rows.map BundleMember.identity, other.id = member.id :=
    ⟨member.identity, (claimed.loaded found rfl _).mp (List.mem_map_of_mem named), rfl⟩
  unfold Archive.retry at goes ⊢
  simp only at goes ⊢
  split at goes
  · cases goes
  next bounded =>
    rw [if_neg bounded]
    split
    next unknown =>
      refine claimed.advance (by simp [Flushing.loaded]) ?_ ?_
      · intro memberId moving
        cases moving
        exact inside
      · intro quarantine known
        exact known
    next quarantine known =>
      refine claimed.advance (by simp [Flushing.loaded]) ?_ ?_
      · intro memberId moving
        cases moving
        exact inside
      · intro other listed
        simpa [Flushing.quarantines, known] using listed

/-- A reading statement of a flush keeps its claim. -/
theorem flushBundle_reads
    (read : flushBundle request seen place answer = some (.reads place'))
    (goes : place'.claimed = true)
    (relied : place.claimed = true → Claimed request.bundleId place rows seen) :
    place.claimed = true ∧
      ∀ store, Claimed request.bundleId place rows store →
        Claimed request.bundleId place' rows store := by
  unfold flushBundle at read
  split at read
  · obtain ⟨bundle, _, equal⟩ := map_eq_some_iff.mp read
    split at equal
    · cases equal
      cases goes
    · split at equal
      · cases equal
        cases goes
      · cases equal
        cases goes
  · cases read
    cases goes
  · exact absurd read guarded_ne_reads
  · cases read
  next bundle rounds =>
    simp only at read
    split at read
    · cases read
      cases goes
    · cases read
      refine ⟨rfl, ?_⟩
      intro store claimed
      refine claimed.advance ?_ (by simp [Flushing.moving]) fun _ known => known
      intro found loaded member
      cases loaded
      exact (((List.perm_insertionSort _ _).map BundleMember.identity).mem_iff).trans
        ((relied rfl).holds member)
  · cases read
    refine ⟨rfl, ?_⟩
    intro store claimed
    refine claimed.advance ?_ (by simp [Flushing.moving]) (by simp [Flushing.quarantines])
    intro found loaded
    cases loaded
    exact claimed.loaded _ rfl
  next bundle rounds found index =>
    obtain ⟨member, named, equal⟩ := map_eq_some_iff.mp read
    cases equal
    refine ⟨rfl, ?_⟩
    intro store claimed
    exact claimed.retry (List.mem_of_getElem? named) goes
  · cases read
    cases goes
  · obtain ⟨minted, _, equal⟩ := map_eq_some_iff.mp read
    cases equal
  · split at read <;> cases read
  · cases read
  · cases read
  · exact absurd read guarded_ne_reads
  · cases read

/-- What a writing statement of a flush does. -/
structure FlushWrites (bundleId : String) (place place' : Flushing)
    (store next : Store) : Prop where
  law : SealedAsBuilt next
  spares : Spares (if place.claimed then some bundleId else none) store next
  later : place'.claimed = true → ∃ rows, Claimed bundleId place' rows next
  origin : place'.claimed = true → place.claimed = true ∨ store.status? bundleId = some .opened

section

variable (law : SealedAsBuilt store)
include law

/-- A write under a claim that keeps the bundle. -/
theorem FlushWrites.of_keeps
    (claimed : Claimed bundleId place rows store)
    (has : place.claimed = true)
    (preserves : Preserves (some bundleId) store next)
    (keeps : Keeps store next bundleId)
    (loaded : place'.loaded = none)
    (moving : ∀ memberId, place'.moving = some memberId → place.moving = some memberId)
    (held : ∀ quarantine ∈ place'.quarantines,
      quarantine ∈ place.quarantines ∨ next.status? quarantine = some .held) :
    FlushWrites bundleId place place' store next where
  law := preserves.sealedAsBuilt law
  spares := by
    rw [if_pos has]
    exact preserves.toSpares
  later _ := ⟨rows,
    { flushing := keeps.status.trans claimed.flushing
      holds := keeps.holds claimed.holds
      loaded := by simp [loaded]
      moving := fun memberId moves => claimed.moving memberId (moving memberId moves)
      held := fun quarantine member =>
        (held quarantine member).elim
          (fun known => preserves.held quarantine (claimed.held quarantine known)) id }⟩
  origin _ := Or.inl has

/-- The claim takes an open bundle with the rows it holds. -/
theorem flushWrites_claim
    (claimed : store.claimBundleForFlush bundleId token now = some next)
    (loaded : place'.loaded = none)
    (moving : place'.moving = none)
    (quarantines : place'.quarantines = []) :
    FlushWrites bundleId (.claim bundle) place' store next := by
  have shifts : Shifts bundleId .opened .flushing store next :=
    shifts_updateBundleWhere (fun _ => of_decide_eq_true) (fun _ => rfl) claimed
  have preserves :=
    (shifts.preserves (by decide) (by decide) (by decide)).disown (by rw [shifts.source]; decide)
  refine ⟨preserves.sealedAsBuilt law, preserves.toSpares, ?_, ?_⟩
  · intro _
    exact ⟨next.rowsOf bundleId,
      { flushing := shifts.target
        holds := fun _ => Iff.rfl
        loaded := by simp [loaded]
        moving := by simp [moving]
        held := by simp [quarantines] }⟩
  · intro _
    exact Or.inr shifts.source

/-- The seal closes what the flush has loaded. -/
theorem flushWrites_close
    (claimed : Claimed bundleId (.close found) rows store)
    (closed : store.closeBundle bundleId token now found = some next) :
    FlushWrites bundleId (.close found) .returned store next := by
  obtain ⟨middle, updated, rfl⟩ := map_eq_some_iff.mp closed
  have shifts : Shifts bundleId .flushing .sealed store middle :=
    shifts_updateBundleWhere (fun _ passed => (of_decide_eq_true passed).1) (fun _ => rfl) updated
  refine ⟨⟨?_, ?_, ?_⟩, ?_, nofun, nofun⟩
  · intro closure member
    rcases List.mem_append.mp member with before | new
    · rw [shifts.seals] at before
      obtain ⟨status, holds⟩ := law.sealed closure before
      have keeps := shifts.others closure.bundleId fun equal => by
        rw [equal, shifts.source] at status
        cases status
      exact ⟨keeps.status.trans status, keeps.holds holds⟩
    · rw [List.mem_singleton.mp new]
      refine ⟨shifts.target, ?_⟩
      intro other
      calc
        other ∈ middle.identities bundleId ↔
            other ∈ store.identities bundleId := shifts.members other
        _ ↔ other ∈ rows.map BundleMember.identity := claimed.holds other
        _ ↔ other ∈ found.map BundleMember.identity := (claimed.loaded found rfl other).symm
  · intro other sealed
    by_cases equal : other = bundleId
    · exact ⟨⟨bundleId, found⟩, by simp, equal.symm⟩
    · obtain ⟨closure, member, names⟩ := law.built other
        ((shifts.others other equal).status.symm.trans sealed)
      exact ⟨closure, by simp [shifts.seals, member], names⟩
  · intro admission member
    exact law.admitted admission (shifts.admissions ▸ member)
  · have spares := shifts.spares (by decide)
    exact ⟨fun other different known =>
      ⟨(spares.flushing other different known).status,
        (spares.flushing other different known).members⟩, spares.held⟩

/-- The quarantine takes a row out of the claimed bundle. -/
theorem flushWrites_move (claimed :
      Claimed bundleId (.move bundle rounds member quarantine) rows store) :
    FlushWrites bundleId (.move bundle rounds member quarantine)
      (.discount bundle rounds member quarantine) store
      (store.moveMember member.id quarantine) := by
  obtain ⟨found, listed, names⟩ := claimed.moving member.id rfl
  have preserves := preserves_moveMember
    ⟨found, (claimed.holds found).mpr listed, names⟩ claimed.flushing
    (claimed.held quarantine (List.mem_cons_self ..))
  refine ⟨preserves.sealedAsBuilt law, preserves.toSpares, ?_, fun _ => Or.inl rfl⟩
  intro _
  exact ⟨(store.moveMember member.id quarantine).rowsOf bundleId,
    { flushing := claimed.flushing
      holds := fun _ => Iff.rfl
      loaded := by simp [Flushing.loaded]
      moving := by simp [Flushing.moving]
      held := claimed.held }⟩

/-- A write that ends the flush and changes nothing. -/
theorem FlushWrites.of_raised {bundleId : String} {place : Flushing} {failure : Failure} :
    FlushWrites bundleId place (.raised failure) store store where
  law := law
  spares := (Preserves.refl _ store).toSpares
  later := nofun
  origin := nofun

/-- Every writing statement of a flush keeps sealed membership, spares the other
claims, and leaves the flush with its claim or without one. -/
theorem flushBundle_writes
    {request : Flush}
    {next : Store}
    {place place' : Flushing}
    (wrote : flushBundle request store place answer = some (.writes next place'))
    (relied : place.claimed = true → Claimed request.bundleId place rows store) :
    FlushWrites request.bundleId place place' store next := by
  unfold flushBundle at wrote
  split at wrote
  · obtain ⟨bundle, _, equal⟩ := map_eq_some_iff.mp wrote
    split at equal
    · cases equal
    · split at equal <;> cases equal
  · cases wrote
  next bundle now =>
    rcases guarded_eq_writes wrote with ⟨claimed, rfl⟩ | ⟨rfl, rfl⟩
    · apply flushWrites_claim law claimed
      all_goals split <;> rfl
    · exact .of_raised law
  · cases wrote
    have preserves := preserves_updateBundle store request.bundleId ⟨fun bundle =>
        { bundle with archiveId := some ("archive-" ++ request.bundleId) },
        fun _ => rfl⟩ (fun _ => rfl)
    exact .of_keeps law (relied rfl) rfl (preserves _)
      ((preserves none).flushing _ nofun (relied rfl).flushing) rfl nofun
      (by simp [Flushing.quarantines])
  · simp only at wrote
    split at wrote <;> cases wrote
  · cases wrote
  · obtain ⟨member, _, equal⟩ := map_eq_some_iff.mp wrote
    cases equal
  · cases wrote
  next bundle rounds member id now =>
    obtain ⟨minted, inserted, equal⟩ := map_eq_some_iff.mp wrote
    cases equal
    have preserves := preserves_insertBundle inserted
      (show (quarantineBundle bundle id now).status ≠ .sealed by simp [quarantineBundle])
    refine .of_keeps law (relied rfl) rfl (preserves _)
      ((preserves none).flushing _ nofun (relied rfl).flushing) rfl
      (fun _ moving => moving) ?_
    intro quarantine known
    have new : quarantine = id := by simpa [Flushing.quarantines] using known
    subst new
    exact Or.inr (insertBundle_eq_some inserted).2.1
  · split at wrote
    · cases wrote
      exact flushWrites_move law (relied rfl)
    · cases wrote
      exact .of_raised law
  · cases wrote
    have preserves := preserves_updateBundle store request.bundleId
    exact .of_keeps law (relied rfl) rfl (preserves _ (fun _ => rfl) _)
      ((preserves _ (fun _ => rfl) none).flushing _ nofun (relied rfl).flushing)
      rfl nofun fun _ known => Or.inl known
  next bundle rounds member quarantine =>
    cases wrote
    have preserves := preserves_updateBundle store quarantine
    exact .of_keeps law (relied rfl) rfl (preserves _ (fun _ => rfl) _)
      ((preserves _ (fun _ => rfl) none).flushing _ nofun (relied rfl).flushing)
      rfl nofun fun _ known => Or.inl (List.mem_cons_of_mem _ known)
  · rcases guarded_eq_writes wrote with ⟨closed, rfl⟩ | ⟨rfl, rfl⟩
    · exact flushWrites_close law (relied rfl) closed
    · exact .of_raised law
  · cases wrote

end

/-! ## Open bundles -/

theorem opened_of_addBundleMember
    (wrote : addBundleMember sha256Hex request store place answer = some (.writes next place'))
    (opened : store.status? bundleId = some .opened) :
    next.status? bundleId = some .opened := by
  unfold addBundleMember at wrote
  split at wrote
  · split at wrote <;> cases wrote
  · split at wrote <;> cases wrote
  · cases wrote
  · split at wrote
    · cases wrote
    · split at wrote <;> cases wrote
  · split at wrote
    · cases wrote
    · cases wrote
      exact opened
  · simp only at wrote
    split at wrote
    · obtain ⟨inserted, found, equal⟩ := map_eq_some_iff.mp wrote
      cases equal
      unfold Store.insertMember at found
      split at found
      · split at found
        · cases found
        · cases found
          exact opened
      · cases found
    · split at wrote <;> (cases wrote; exact opened)
  · cases wrote
    exact (keeps_updateBundle (fun _ => rfl) bundleId).status.trans opened
  · cases wrote

theorem opened_of_flushBundle
    (wrote : flushBundle request store place answer = some (.writes next place'))
    (unshut : (Session.flush request place).shuts bundleId = false)
    (opened : store.status? bundleId = some .opened) :
    next.status? bundleId = some .opened := by
  unfold flushBundle at wrote
  split at wrote
  · obtain ⟨bundle, -, equal⟩ := map_eq_some_iff.mp wrote
    split at equal
    · cases equal
    · split at equal <;> cases equal
  · cases wrote
  next bundle now =>
    rcases guarded_eq_writes wrote with ⟨claimed, -⟩ | ⟨rfl, -⟩
    · have shifts : Shifts request.bundleId .opened .flushing store next :=
        shifts_updateBundleWhere (fun _ => of_decide_eq_true) (fun _ => rfl) claimed
      refine shifts.opened (fun _ same => ?_) opened
      simp [Session.shuts, same] at unshut
    · exact opened
  · cases wrote
    exact (keeps_updateBundle (fun _ => rfl) bundleId).status.trans opened
  · simp only at wrote
    split at wrote <;> cases wrote
  · cases wrote
  · obtain ⟨member, -, equal⟩ := map_eq_some_iff.mp wrote
    cases equal
  · cases wrote
  next bundle rounds member id now =>
    obtain ⟨minted, inserted, equal⟩ := map_eq_some_iff.mp wrote
    cases equal
    obtain ⟨absent, -, others, -⟩ := insertBundle_eq_some inserted
    refine (others bundleId ?_).status.trans opened
    rintro rfl
    cases absent.symm.trans opened
  · split at wrote <;> (cases wrote; exact opened)
  · cases wrote
    exact (keeps_updateBundle (fun _ => rfl) bundleId).status.trans opened
  · cases wrote
    exact (keeps_updateBundle (fun _ => rfl) bundleId).status.trans opened
  · rcases guarded_eq_writes wrote with ⟨closed, -⟩ | ⟨rfl, -⟩
    · obtain ⟨middle, updated, rfl⟩ := map_eq_some_iff.mp closed
      have shifts : Shifts request.bundleId .flushing .sealed store middle :=
        shifts_updateBundleWhere (fun _ passed => (of_decide_eq_true passed).1) (fun _ => rfl)
          updated
      exact shifts.opened nofun opened
    · exact opened
  · cases wrote

/-- A bundle ceases to be open by a claim or a void seal only. -/
theorem opened_of_writes
    (wrote : statement sha256Hex store session answer = some (.writes next session'))
    (unshut : session.shuts bundleId = false)
    (opened : store.status? bundleId = some .opened) :
    next.status? bundleId = some .opened := by
  cases session with
  | append request place =>
    obtain ⟨place', appended, -⟩ := within_eq_writes wrote
    exact opened_of_addBundleMember appended opened
  | flush request place =>
    obtain ⟨place', flushed, -⟩ := within_eq_writes wrote
    exact opened_of_flushBundle flushed unshut opened
  | reap place =>
    obtain ⟨place', reaped, -⟩ := within_eq_writes wrote
    unfold reapStuckFlushing at reaped
    split at reaped
    · cases reaped
    · cases reaped
    · split at reaped <;> cases reaped
    · rcases guarded_eq_writes reaped with ⟨updated, -⟩ | ⟨rfl, -⟩
      · have shifts := shifts_updateBundleWhere (fun _ => of_decide_eq_true) (fun _ => rfl) updated
        exact shifts.opened nofun opened
      · exact opened
    · cases reaped
  | void place =>
    obtain ⟨place', voided, -⟩ := within_eq_writes wrote
    unfold voidSealOrphans at voided
    split at voided
    · cases voided
    · cases voided
    · rcases guarded_eq_writes voided with ⟨updated, -⟩ | ⟨rfl, -⟩
      · have shifts := shifts_updateBundleWhere (fun _ => of_decide_eq_true) (fun _ => rfl) updated
        refine shifts.opened (fun _ same => ?_) opened
        simp [Session.shuts, same] at unshut
      · exact opened
    · cases voided
  | stopped => cases wrote

end Archive
end Sutradhara
