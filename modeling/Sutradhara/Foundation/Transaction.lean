import Sutradhara.Foundation.Interleaving

/-!
# Sessions of a database with one writer

The first writing statement of a session takes the write lock and works on a copy
of the committed store.  Other sessions go on reading the committed store, and
their writes wait.  A commit publishes the copy, a rollback drops it.  A session
may commit after any statement, so the runs below contain every interleaving of
single statements.
-/

namespace Foundation
namespace Transaction

open Interleaving

variable {Store Local Answer Ghost : Type*}

/-- The committed store, and the session that writes with its working copy. -/
structure Database (Store : Type*) where
  committed : Store
  writer : Option (Nat × Store)

namespace Database

section

variable (store : Store) (database : Database Store) (session : Nat)

/-- A database in which no session writes. -/
def quiet : Database Store := ⟨store, none⟩

/-- The newest state, committed or not. -/
def current : Store :=
  match database.writer with
  | none => database.committed
  | some (_, working) => working

/-- What the statements of a session read. -/
def view : Store :=
  match database.writer with
  | none => database.committed
  | some (owner, working) => if owner = session then working else database.committed

/-- Leave a new working copy behind, unless another session writes. -/
def write (store : Store) : Option (Database Store) :=
  match database.writer with
  | none => some ⟨database.committed, some (session, store)⟩
  | some (owner, _) =>
    if owner = session then some ⟨database.committed, some (session, store)⟩
    else none

/-- Publish the working copy of a session. -/
def commit : Database Store :=
  match database.writer with
  | none => database
  | some (owner, working) => if owner = session then ⟨working, none⟩ else database

/-- Drop the working copy of a session. -/
def rollback : Database Store :=
  match database.writer with
  | none => database
  | some (owner, _) => if owner = session then ⟨database.committed, none⟩ else database

/-- A session sees the committed store or the newest state. -/
theorem view_eq_or :
    database.view session = database.committed ∨ database.view session = database.current := by
  unfold view current
  split
  · exact Or.inl rfl
  · split
    · exact Or.inr rfl
    · exact Or.inl rfl

end

variable {database : Database Store} {session : Nat}

/-- A session that may write sees the newest state, and no other session sees
its writing. -/
theorem write_eq_some
    {next : Database Store}
    {store : Store}
    (written : database.write session store = some next) :
    database.view session = database.current ∧
      next = ⟨database.committed, some (session, store)⟩ ∧
      ∀ other, other ≠ session → next.view other = database.view other := by
  unfold write at written
  split at written
  next idle =>
    cases written
    refine ⟨by simp [view, current, idle], rfl, ?_⟩
    intro other different
    simp [view, idle, Ne.symm different]
  next owner working busy =>
    split at written
    next own =>
      cases written
      subst own
      refine ⟨by simp [view, current, busy], rfl, ?_⟩
      intro other different
      simp [view, busy, Ne.symm different]
    · cases written

/-- A commit shows every session what it saw or the newest state. -/
theorem view_commit (database : Database Store) :
    (database.commit session).view other = database.view other ∨
      (database.commit session).view other = database.current := by
  unfold commit
  split
  · exact Or.inl rfl
  next busy =>
    split
    · exact Or.inr (by simp [view, current, busy])
    · exact Or.inl rfl

@[simp] theorem current_commit :
    (database.commit session).current = database.current := by
  unfold commit
  split
  · rfl
  next busy =>
    split
    · simp [current, busy]
    · rfl

@[simp] theorem committed_rollback :
    (database.rollback session).committed = database.committed := by
  unfold rollback
  split
  · rfl
  · split <;> rfl

/-- A rollback takes nothing from the other sessions, and leaves as newest what
it was or what the others see. -/
theorem rollback_other (database : Database Store) {other : Nat} (different : other ≠ session) :
    (database.rollback session).view other = database.view other ∧
      ((database.rollback session).current = database.current ∨
        (database.rollback session).current = database.view other) := by
  unfold rollback
  split
  · exact ⟨rfl, Or.inl rfl⟩
  next owner working busy =>
    split
    next own =>
      subst own
      have seen : database.view other = database.committed := by
        simp [view, busy, Ne.symm different]
      exact ⟨seen.symm, Or.inr seen.symm⟩
    · exact ⟨rfl, Or.inl rfl⟩

theorem of_eq_or_eq
    {Fact : Store → Prop}
    (same : store = first ∨ store = second)
    (left : Fact first)
    (right : Fact second) : Fact store := by
  rcases same with rfl | rfl
  · exact left
  · exact right

/-- A fact about the committed store and about the newest state. -/
structure Everywhere
    (database : Database Store)
    (Fact : Store → Prop) : Prop where
  committed : Fact database.committed
  current : Fact database.current

theorem Everywhere.view
    {Fact : Store → Prop}
    (everywhere : database.Everywhere Fact)
    (session : Nat) : Fact (database.view session) :=
  of_eq_or_eq (database.view_eq_or session) everywhere.committed everywhere.current

theorem Everywhere.commit
    {Fact : Store → Prop}
    (everywhere : database.Everywhere Fact)
    (session : Nat) : (database.commit session).Everywhere Fact where
  committed := by
    have newest := everywhere.current
    unfold Database.commit
    split
    · exact everywhere.committed
    next busy =>
      rw [Database.current, busy] at newest
      split
      · exact newest
      · exact everywhere.committed
  current := by
    rw [current_commit]
    exact everywhere.current

theorem Everywhere.rollback
    {Fact : Store → Prop}
    (everywhere : database.Everywhere Fact)
    (session : Nat) : (database.rollback session).Everywhere Fact where
  committed := by
    rw [committed_rollback]
    exact everywhere.committed
  current := by
    unfold Database.rollback
    split
    · exact everywhere.current
    · split
      · exact everywhere.committed
      · exact everywhere.current

/-- A fact a session may rely on: it holds in what the session sees and in the
newest state. -/
structure Relies (database : Database Store) (session : Nat) (Fact : Store → Prop) : Prop where
  seen : Fact (database.view session)
  newest : Fact database.current

theorem Relies.commit
    {Fact : Store → Prop}
    (relies : database.Relies session Fact)
    (committer : Nat) : (database.commit committer).Relies session Fact where
  seen := of_eq_or_eq database.view_commit relies.seen relies.newest
  newest := by
    rw [current_commit]
    exact relies.newest

theorem Relies.rollback_other
    {other : Nat}
    {Fact : Store → Prop}
    (relies : database.Relies session Fact)
    (different : session ≠ other) :
    (database.rollback other).Relies session Fact := by
  obtain ⟨same, newest⟩ := database.rollback_other different
  exact ⟨by rw [same]; exact relies.seen, of_eq_or_eq newest relies.newest relies.seen⟩

end Database

/-- What a statement does: it reads, or it leaves a new store behind. -/
inductive Effect (Store Local : Type*)
  | reads (next : Local)
  | writes (store : Store) (next : Local)

/-- What a session does next. -/
inductive Choice (Answer : Type*)
  | statement (answer : Answer)
  | commit
  | rollback

/-- The statements of a session, the local states in which it may enter, and the
local state in which a rolled back session ends. -/
structure Client (Store Local Answer : Type*) where
  initial : Local → Bool
  statement : Store → Local → Answer → Option (Effect Store Local)
  stopped : Local

namespace Client

variable (client : Client Store Local Answer)

/-- Sessions over a database as threads. -/
def program : Program (Database Store) Local (Choice Answer) where
  initial := client.initial
  step index database thread
    | .statement answer =>
      match client.statement (database.view index) thread answer with
      | none => none
      | some (.reads next) => some (database, next)
      | some (.writes store next) =>
        (database.write index store).map fun written => (written, next)
    | .commit => some (database.commit index, thread)
    | .rollback => some (database.rollback index, client.stopped)

/-- What a statement of a session does to the database. -/
theorem step_statement_eq_some
    {index : Nat}
    {database database' : Database Store}
    {thread thread' : Local}
    {answer : Answer}
    (stepped : client.program.step index database thread (.statement answer) =
      some (database', thread')) :
    (client.statement (database.view index) thread answer =
        some (.reads thread') ∧ database' = database) ∨
      ∃ store, client.statement (database.view index) thread answer =
          some (.writes store thread') ∧
        database.write index store = some database' := by
  simp only [program] at stepped
  split at stepped
  · cases stepped
  next next read =>
    cases stepped
    exact Or.inl ⟨read, rfl⟩
  next store next wrote =>
    obtain ⟨written, lock, equal⟩ := Option.map_eq_some_iff.mp stepped
    cases equal
    exact Or.inr ⟨store, wrote, lock⟩

/-- A fact about every store, one for every session at its local state, carried
by a ghost value, and one for every pair of sessions. -/
def Assertion (Common : Store → Prop) (At : Local → Ghost → Store → Prop)
    (Both : Local → Local → Prop) :
    Config (Database Store) Local → Prop :=
  Program.Annotated (fun database => database.Everywhere Common)
    (fun database index thread => ∃ ghost, database.Relies index (At thread ghost)) Both

/-- Interference freedom at the level of stores.  It is enough to look at one
statement over the store it sees: a read must lead from what the session relies
on to what it relies on next, and a write must also keep what the other sessions
rely on. -/
theorem assertion_move
    {Common : Store → Prop}
    {At : Local → Ghost → Store → Prop}
    {Both : Local → Local → Prop}
    (permitted : Config (Database Store) Local → Move Local (Choice Answer) → Prop)
    (bothSymmetric : ∀ first second, Both first second → Both second first)
    (entered : ∀ thread, client.initial thread = true →
      (∃ ghost, ∀ store, At thread ghost store) ∧ ∀ other, Both thread other)
    (stopped : (∃ ghost, ∀ store, At client.stopped ghost store) ∧
      ∀ other, Both client.stopped other)
    (reads : ∀ (config : Config (Database Store) Local) index thread answer next ghost,
      permitted config (.act index (.statement answer)) → config.threads[index]? = some thread →
        client.statement (config.shared.view index) thread answer = some (.reads next) →
        config.shared.Relies index (At thread ghost) →
          (∃ later, config.shared.Relies index (At next later)) ∧
            ∀ other, Both thread other → Both next other)
    (writes : ∀ (config : Config (Database Store) Local) index thread answer store next ghost,
      permitted config (.act index (.statement answer)) → config.threads[index]? = some thread →
        config.shared.view index = config.shared.current →
        client.statement config.shared.current thread answer = some (.writes store next) →
        Common config.shared.current →
        At thread ghost config.shared.current → Common store ∧ (∃ later, At next later store) ∧
            ∀ (other : Nat) otherThread otherGhost, other ≠ index →
              config.threads[other]? = some otherThread →
              Both thread otherThread →
              At otherThread otherGhost config.shared.current →
                At otherThread otherGhost store ∧ Both next otherThread)
    (config : Config (Database Store) Local)
    (move : Move Local (Choice Answer))
    (next : Config (Database Store) Local)
    (holds : Assertion Common At Both config)
    (allowed : permitted config move)
    (moved : client.program.move config move = some next) :
    Assertion Common At Both next := by
  refine client.program.annotated_move_of_beside permitted bothSymmetric ?_ ?_ config move
    next holds allowed moved
  · intro thread initial
    obtain ⟨⟨ghost, fact⟩, apart⟩ := entered thread initial
    exact ⟨fun _ _ => ⟨ghost, fact _, fact _⟩, apart⟩
  · intro config index choice thread shared' thread' beside allowed present stepped
    obtain ⟨common, ⟨ghost, relies⟩, others⟩ := beside
    cases choice with
    | commit =>
      cases stepped
      refine ⟨common.commit index, ⟨ghost, relies.commit index⟩, ?_⟩
      intro other otherThread different otherPresent
      obtain ⟨⟨otherGhost, relies⟩, apart⟩ := others other otherThread different otherPresent
      exact ⟨⟨otherGhost, relies.commit index⟩, apart⟩
    | rollback =>
      cases stepped
      obtain ⟨⟨ghost, fact⟩, apart⟩ := stopped
      refine ⟨common.rollback index, ⟨ghost, fact _, fact _⟩, ?_⟩
      intro other otherThread different otherPresent
      obtain ⟨⟨otherGhost, relies⟩, _⟩ := others other otherThread different otherPresent
      exact ⟨⟨otherGhost, relies.rollback_other different⟩, apart otherThread⟩
    | statement answer =>
      rcases client.step_statement_eq_some stepped with ⟨read, rfl⟩ | ⟨store, wrote, lock⟩
      · obtain ⟨onward, apart⟩ :=
          reads config index thread answer thread' ghost allowed present read relies
        refine ⟨common, onward, ?_⟩
        intro other otherThread different otherPresent
        exact (others other otherThread different otherPresent).imp_right (apart otherThread)
      · obtain ⟨newest, rfl, unseen⟩ := Database.write_eq_some lock
        rw [newest] at wrote
        obtain ⟨kept, ⟨later, own⟩, stays⟩ :=
          writes config index thread answer store thread' ghost allowed present
            newest wrote common.current relies.newest
        refine ⟨⟨common.committed, kept⟩, ⟨later, ?_, own⟩, ?_⟩
        · simpa [Database.view] using own
        · intro other otherThread different otherPresent
          obtain ⟨⟨otherGhost, otherRelies⟩, apart⟩ :=
            others other otherThread different otherPresent
          obtain ⟨kept, apart⟩ := stays other otherThread otherGhost different
            otherPresent apart otherRelies.newest
          refine ⟨⟨otherGhost, ?_, kept⟩, apart⟩
          rw [unseen other different]
          exact otherRelies.seen

end Client
end Transaction
end Foundation
