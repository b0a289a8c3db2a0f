import Sutradhara.Archive.Claims

/-!
# Sealed membership under interleaved sessions

An append looks at the status of its bundle once and inserts later, so a flush
may claim, load, build and seal in between.  As long as no bundle is claimed or voided
between an append's look at it and the insert, and no claim is reaped while its flush
still runs, sealed membership is what was built.
-/

namespace Sutradhara
namespace Archive

open Foundation
open Foundation.Interleaving
open Foundation.Transaction

/-! ## Runs -/

/-- The database with all sessions that ever entered. -/
abbrev System := Config (Database Store) Session

/-- A session enters, issues a statement, commits or rolls back. -/
abbrev Step := Move Session (Choice Answer)

/-- A catalog without sessions. -/
def idle (store : Store) : System := ⟨.quiet store, []⟩

/-- Every run leaves every session with sealed membership as it was built. -/
def SealedMembershipLaw : Prop :=
  ∀ (sha256Hex : String → String) (store : Store) (steps : List Step)
    (final : System),
    Unsealed store →
    Transition.run (client sha256Hex).program.move (idle store) steps = some final →
    ∀ session, SealedAsBuilt (final.shared.view session)

/-- A bundle is claimed or voided only when no append stands between its look at the
status and its insert, and an append does not look while the claim or the void seal of
another session waits for its commit.  A claim is reaped only when no flush runs
under it. -/
def careful (system : System) : Step → Bool
  | .act index (.statement _) =>
    match system.threads[index]? with
    | some (.append request .readStatus) =>
      system.shared.current.status? request.bundleId ==
        (system.shared.view index).status? request.bundleId
    | some (.flush request (.claim _)) =>
      system.threads.all fun other => !other.checks request.bundleId
    | some (.void (.void (bundleId :: _))) =>
      system.threads.all fun other => !other.checks bundleId
    | some (.reap (.reap bundleId _)) => system.threads.all fun other => !other.claims bundleId
    | _ => true
  | _ => true

/-- No append stands before its insert into a bundle that is about to be shut. -/
theorem unchecked_of_shuts
    (allowed : careful system (.act index (.statement answer)) = true)
    (present : system.threads[index]? = some session)
    (shuts : session.shuts bundleId = true)
    (member : other ∈ system.threads) :
    other.checks bundleId = false := by
  unfold Session.shuts at shuts
  split at shuts
  · simp only [careful, present, List.all_eq_true, Bool.not_eq_true'] at allowed
    rw [← eq_of_beq shuts]
    exact allowed other member
  · simp only [careful, present, List.all_eq_true, Bool.not_eq_true'] at allowed
    rw [← eq_of_beq shuts]
    exact allowed other member
  · cases shuts

/-- A reading statement gives no claim. -/
theorem claims_of_reads
    (read : statement sha256Hex seen session answer = some (.reads next))
    (relied : At session rows seen)
    (claims : next.claims bundleId = true) :
    session.claims bundleId = true := by
  cases session with
  | flush request place =>
    obtain ⟨place', flushed, rfl⟩ := within_eq_reads read
    simp only [Session.claims, Bool.and_eq_true] at claims ⊢
    exact ⟨(flushBundle_reads flushed claims.1 relied).1, claims.2⟩
  | append request place =>
    obtain ⟨place', _, rfl⟩ := within_eq_reads read
    cases claims
  | reap place =>
    obtain ⟨place', _, rfl⟩ := within_eq_reads read
    cases claims
  | void place =>
    obtain ⟨place', _, rfl⟩ := within_eq_reads read
    cases claims
  | stopped => cases read

/-- A reading statement leads from what a session relies on to what it relies on
next. -/
theorem at_of_reads
    (read : statement sha256Hex seen session answer = some (.reads next))
    (same : ∀ request, session = .append request .readStatus →
      newest.status? request.bundleId = seen.status? request.bundleId)
    (seenFact : At session rows seen)
    (newestFact : At session rows newest) :
    At next rows seen ∧ At next rows newest := by
  cases session with
  | flush request place =>
    obtain ⟨place', flushed, rfl⟩ := within_eq_reads read
    constructor
    · intro goes
      obtain ⟨has, advance⟩ := flushBundle_reads flushed goes seenFact
      exact advance seen (seenFact has)
    · intro goes
      obtain ⟨has, advance⟩ := flushBundle_reads flushed goes seenFact
      exact advance newest (newestFact has)
  | append request place =>
    obtain ⟨place', appended, rfl⟩ := within_eq_reads read
    constructor
    · intro checked
      rcases addBundleMember_reads appended checked with before | ⟨-, opened⟩
      · exact seenFact before
      · exact opened
    · intro checked
      rcases addBundleMember_reads appended checked with before | ⟨rfl, opened⟩
      · exact newestFact before
      · exact (same request rfl).trans opened
  | reap place =>
    obtain ⟨place', _, rfl⟩ := within_eq_reads read
    exact ⟨trivial, trivial⟩
  | void place =>
    obtain ⟨place', _, rfl⟩ := within_eq_reads read
    exact ⟨trivial, trivial⟩
  | stopped => cases read

/-- What a careful writing statement gives and leaves to the other sessions. -/
structure CarefulWrite (system : System) (index : Nat) (session next : Session)
    (store : Store) : Prop where
  law : SealedAsBuilt store
  later : ∃ rows, At next rows store
  others : ∀ (other : Nat) otherSession otherRows, other ≠ index →
    system.threads[other]? = some otherSession →
    Both session otherSession →
    At otherSession otherRows system.shared.current →
      At otherSession otherRows store ∧ Both next otherSession

section

variable {system : System} {store : Store}

variable (stays : ∀ other ∈ system.threads, ∀ bundleId, other.checks bundleId = true →
  system.shared.current.status? bundleId = some .opened → store.status? bundleId = some .opened)
include stays

/-- A write of a session that never claims. -/
theorem CarefulWrite.of_preserves
    (law : SealedAsBuilt system.shared.current)
    (preserves : Preserves own system.shared.current store)
    (free : ∀ bundleId, own = some bundleId →
      ∀ other ∈ system.threads, other.claims bundleId = false)
    (unclaimed : ∀ bundleId, next.claims bundleId = false)
    (later : At next [] store) :
    CarefulWrite system index session next store where
  law := preserves.sealedAsBuilt law
  later := ⟨[], later⟩
  others other otherSession otherRows _ present _ fact := by
    have member := List.mem_of_getElem? present
    refine ⟨preserves.toSpares.at ?_ (stays otherSession member) fact,
      both_of_unclaimed unclaimed _⟩
    exact fun bundleId owned => free bundleId owned otherSession member

/-- A write of a flush. -/
theorem CarefulWrite.of_flush
    (writes : FlushWrites request.bundleId place place' system.shared.current store) :
    CarefulWrite system index (.flush request place) (.flush request place') store where
  law := writes.law
  later := by
    by_cases goes : place'.claimed = true
    · obtain ⟨rows, claimed⟩ := writes.later goes
      exact ⟨rows, fun _ => claimed⟩
    · exact ⟨[], fun has => absurd has goes⟩
  others other otherSession otherRows _ present apart fact := by
    constructor
    · refine writes.spares.at ?_ (stays otherSession (List.mem_of_getElem? present)) fact
      intro bundleId owned
      split at owned
      next has =>
        cases owned
        exact apart request.bundleId (by simp [Session.claims, has])
      · cases owned
    · intro bundleId claims
      simp only [Session.claims, Bool.and_eq_true, beq_iff_eq] at claims
      obtain ⟨goes, rfl⟩ := claims
      rcases writes.origin goes with has | opened
      · exact apart request.bundleId (by simp [Session.claims, has])
      · cases claimed : otherSession.claims request.bundleId with
        | false => rfl
        | true =>
          have flushing := fact.status claimed
          rw [opened] at flushing
          cases flushing

end

theorem carefulWrite
    (allowed : careful system (.act index (.statement answer)) = true)
    (present : system.threads[index]? = some session)
    (wrote : statement sha256Hex system.shared.current session answer = some (.writes store next))
    (law : SealedAsBuilt system.shared.current)
    (relied : At session rows system.shared.current) :
    CarefulWrite system index session next store := by
  have stays : ∀ other ∈ system.threads, ∀ bundleId, other.checks bundleId = true →
      system.shared.current.status? bundleId = some .opened →
        store.status? bundleId = some .opened := by
    intro other member bundleId checks opened
    refine opened_of_writes wrote ?_ opened
    by_contra shuts
    have free := unchecked_of_shuts allowed present (eq_true_of_ne_false shuts) member
    rw [free] at checks
    cases checks
  cases session with
  | append request place =>
    obtain ⟨place', appended, rfl⟩ := within_eq_writes wrote
    refine .of_preserves stays law (addBundleMember_preserves ?_ appended) nofun (fun _ => rfl) ?_
    · rintro attempt finalPath rfl
      exact relied rfl
    · intro checked
      obtain ⟨before, rfl⟩ := addBundleMember_retries appended checked
      exact relied before
  | flush request place =>
    obtain ⟨place', flushed, rfl⟩ := within_eq_writes wrote
    exact .of_flush stays (flushBundle_writes law flushed relied)
  | reap place =>
    obtain ⟨place', reaped, rfl⟩ := within_eq_writes wrote
    obtain ⟨bundleId, stuck, rfl, preserves⟩ := reapStuckFlushing_preserves reaped
    refine .of_preserves stays law preserves ?_ (fun _ => rfl) trivial
    rintro _ ⟨⟩
    simpa [careful, present] using allowed
  | void place =>
    obtain ⟨place', voided, rfl⟩ := within_eq_writes wrote
    exact .of_preserves stays law (voidSealOrphans_preserves voided) nofun (fun _ => rfl) trivial
  | stopped => cases wrote

/-- Sealed membership everywhere, and what the sessions rely on. -/
abbrev Serialised : System → Prop := Client.Assertion SealedAsBuilt At Both

theorem serialised_move
    (holds : Serialised system)
    (allowed : careful system step = true)
    (moved : (client sha256Hex).program.move system step = some next) : Serialised next := by
  refine (client sha256Hex).assertion_move
    (fun system step => careful system step = true) both_symmetric ?_ ?_ ?_ ?_
    system step next holds allowed moved
  · intro session initial
    have free := unclaimed_of_entering initial
    exact ⟨⟨[], at_of_unclaimed (fun bundleId => (free bundleId).1)
      (fun bundleId => (free bundleId).2) []⟩, both_of_unclaimed fun bundleId => (free bundleId).1⟩
  · exact ⟨⟨[], fun _ => trivial⟩, both_of_unclaimed fun _ => rfl⟩
  · intro system index session answer next rows allowed present read relies
    have same : ∀ request, session = .append request .readStatus →
        system.shared.current.status? request.bundleId =
          (system.shared.view index).status? request.bundleId := by
      rintro request rfl
      simpa [careful, present] using allowed
    obtain ⟨seen, newest⟩ := at_of_reads read same relies.seen relies.newest
    refine ⟨⟨rows, seen, newest⟩, fun other both bundleId claims => ?_⟩
    exact both bundleId (claims_of_reads read relies.seen claims)
  · intro system index session answer store next rows allowed present _ wrote law relied
    have write := carefulWrite allowed present wrote law relied
    exact ⟨write.law, write.later, write.others⟩

theorem Unsealed.sealedAsBuilt (unsealed : Unsealed store) : SealedAsBuilt store where
  sealed := by simp [unsealed.seals]
  built bundleId sealed := absurd sealed (unsealed.unsealed bundleId)
  admitted := by simp [unsealed.admissions]

theorem serialised_idle (unsealed : Unsealed store) : Serialised (idle store) :=
  Program.annotated_of_idle _ _ ⟨unsealed.sealedAsBuilt, unsealed.sealedAsBuilt⟩

/-- In every run in which no bundle is claimed or voided between an append's look at its
status and its insert, and no claim is reaped under a running flush, sealed membership is
what was built. -/
theorem sealedAsBuilt_of_careful
    (sha256Hex : String → String)
    {store : Store}
    {steps : List Step}
    {final : System}
    (unsealed : Unsealed store)
    (admitted : Transition.Admits (client sha256Hex).program.move
      (fun system step => careful system step = true) (idle store) steps)
    (ended : Transition.run (client sha256Hex).program.move (idle store) steps = some final)
    (session : Nat) :
    SealedAsBuilt (final.shared.view session) := by
  have serialised : Serialised final :=
    Transition.invariant_of_admits _ Serialised (fun system step next holds allowed moved =>
        serialised_move holds allowed moved)
      (serialised_idle unsealed) admitted ended
  exact serialised.common.view session

/-! ## An append that slips in -/

/-- The rows of a table decide whether a catalog is before any seal. -/
theorem Unsealed.of_rows
    (rows : ∀ bundle ∈ store.bundles.rows, bundle.status ≠ .sealed)
    (seals : store.seals = [])
    (admissions : store.admissions = []) : Unsealed store where
  unsealed bundleId status := by
    obtain ⟨bundle, found, sealed⟩ := Option.map_eq_some_iff.mp status
    exact rows bundle ((Table.find?_eq_some_iff ..).mp found).1 sealed
  seals := seals
  admissions := admissions

/-- An open bundle with one member. -/
def photoStore : Store where
  bundles := ⟨[⟨"b1", "group", .opened, 5, 1, 100, 0, none, none, 0, none, none, none⟩], by decide⟩
  members := ⟨[⟨1, "b1", "aa", "photos", "a.tif", none, 5, "aa", none⟩], by decide⟩
  assets := ["aa", "bb"]
  seals := []
  admissions := []

theorem photoStore_unsealed : Unsealed photoStore := .of_rows (by decide) rfl rfl

/-- The append of a second member. -/
def lateAppend : Append := ⟨"b1", "photos", "bb", "late.tif", 7, "bb", none, none⟩

/-- The statements of a session, in order. -/
def statements (index : Nat) (answers : List Answer) : List Step :=
  answers.map fun answer => .act index (.statement answer)

/-- The append reads an open bundle, a flush claims, builds and seals it, and the
append inserts its row into the sealed bundle. -/
def slippedSteps : List Step :=
  [.spawn (.append lateAppend .readStatus), .spawn (.flush ⟨"b1", "host:1"⟩ .read)] ++
  statements 0 [.nothing, .nothing] ++
  statements 1 [.nothing, .clock 1, .nothing, .nothing, .built, .clock 2] ++
  [.act 1 .commit] ++
  statements 0 [.nothing, .memberId 2, .nothing] ++
  [.act 0 .commit]

/-- The ids of the rows of sealed bundles are the ids of the rows built. -/
theorem SealedAsBuilt.mem_ids
    (law : SealedAsBuilt store)
    (closed : (bundleId, ids) ∈ store.seals.map fun closure =>
      (closure.bundleId, closure.members.map BundleMember.id))
    (present : memberId ∈ (store.rowsOf bundleId).map BundleMember.id) : memberId ∈ ids := by
  obtain ⟨closure, member, equal⟩ := List.mem_map.mp closed
  cases equal
  obtain ⟨row, inside, rfl⟩ := List.mem_map.mp present
  obtain ⟨found, built, same⟩ := List.mem_map.mp (((law.sealed closure member).2 row.identity).mp
      (List.mem_map_of_mem inside))
  have identical : found.identity.id = row.identity.id := by rw [same]
  change found.id = row.id at identical
  rw [← identical]
  exact List.mem_map_of_mem built

/-- The row of the late append is in the sealed bundle and was never built. -/
theorem not_sealedMembershipLaw : ¬ SealedMembershipLaw := by
  intro law
  have seen : (Transition.run (client id).program.move (idle photoStore)
      slippedSteps).map (fun final =>
        (((final.shared.view 0).rowsOf "b1").map BundleMember.id,
          (final.shared.view 0).seals.map fun closure =>
            (closure.bundleId, closure.members.map BundleMember.id))) =
        some ([1, 2], [("b1", [1])]) := by
    decide +kernel
  obtain ⟨final, ended, facts⟩ := Option.map_eq_some_iff.mp seen
  obtain ⟨present, closed⟩ := Prod.mk.inj facts
  have built : 2 ∈ [1] :=
    (law id photoStore slippedSteps final photoStore_unsealed ended 0).mem_ids
      (by rw [closed]; exact List.mem_singleton_self _)
      (by rw [present]; decide)
  exact absurd built (by decide)

/-- The late append comes first; the flush then quarantines its row, and seals
the other one. -/
def quarantinedSteps : List Step :=
  [.spawn (.append lateAppend .readStatus), .spawn (.flush ⟨"b1", "host:1"⟩ .read)] ++
  statements 0 [.nothing, .nothing, .nothing, .memberId 2, .nothing] ++
  [.act 0 .commit] ++
  statements 1 [.nothing, .clock 1, .nothing, .nothing, .failing 1,
    .bundleId "b2" 2, .nothing, .nothing, .nothing, .nothing, .built, .clock 3] ++
  [.act 1 .commit]

theorem sealedAsBuilt_of_careful_quarantined :
    ∃ final, Transition.run (client id).program.move (idle photoStore)
        quarantinedSteps = some final ∧
      (final.shared.view 0).status? "b1" = some .sealed ∧
      (final.shared.view 0).status? "b2" = some .held ∧
      SealedAsBuilt (final.shared.view 0) := by
  have seen : (Transition.run (client id).program.move (idle photoStore)
      quarantinedSteps).map (fun final =>
        ((final.shared.view 0).status? "b1", (final.shared.view 0).status? "b2")) =
        some (some .sealed, some .held) := by
    decide +kernel
  obtain ⟨final, ended, facts⟩ := Option.map_eq_some_iff.mp seen
  obtain ⟨closed, held⟩ := Prod.mk.inj facts
  exact ⟨final, ended, closed, held,
    sealedAsBuilt_of_careful id photoStore_unsealed (by decide +kernel) ended 0⟩

end Archive
end Sutradhara
