import Sutradhara.Foundation.Transition

/-!
# Interleavings of threads over a shared state

A program gives one atomic step of a thread: it reads and rewrites the shared
state together with the thread's own local state.  A configuration holds any
number of threads.  New threads may enter at any moment, and a move names the
thread that runs next together with the answers its environment gives.  A
crashed thread is one that is never scheduled again.
-/

namespace Foundation
namespace Interleaving

open List

variable {Shared Local Choice : Type*}

/-- Atomic steps of one thread, and the local states in which a thread may
enter. -/
structure Program (Shared Local Choice : Type*) where
  initial : Local → Bool
  step : Nat → Shared → Local → Choice → Option (Shared × Local)

/-- A shared state with the local states of all threads that ever entered. -/
structure Config (Shared Local : Type*) where
  shared : Shared
  threads : List Local

/-- One scheduling decision. -/
inductive Move (Local Choice : Type*)
  | spawn (thread : Local)
  | act (index : Nat) (choice : Choice)

namespace Program

variable (program : Program Shared Local Choice)

/-- Carry out one scheduling decision. -/
def move (config : Config Shared Local) : Move Local Choice → Option (Config Shared Local)
  | .spawn thread =>
    if program.initial thread then some { config with threads := config.threads ++ [thread] }
    else none
  | .act index choice =>
    (config.threads[index]?).bind fun thread =>
      (program.step index config.shared thread choice).map fun result =>
        ⟨result.1, config.threads.set index result.2⟩

variable {config : Config Shared Local} {threads : List Local} {thread thread' found : Local}
  {index : Nat}

/-- What an entering thread does to a configuration. -/
theorem move_spawn_eq_some
    {next : Config Shared Local}
    (moved : program.move config (.spawn thread : Move Local Choice) = some next) :
    program.initial thread = true ∧ next = ⟨config.shared, config.threads ++ [thread]⟩ := by
  simp only [move] at moved
  split at moved
  next allowed =>
    refine ⟨allowed, ?_⟩
    cases moved
    rfl
  · cases moved

/-- What a running thread does to a configuration. -/
theorem move_act_eq_some
    {next : Config Shared Local}
    {choice : Choice}
    (moved : program.move config (.act index choice) = some next) :
    ∃ thread shared' thread', config.threads[index]? = some thread ∧
        program.step index config.shared thread choice = some (shared', thread') ∧
        next = ⟨shared', config.threads.set index thread'⟩ := by
  simp only [move, Option.bind_eq_some_iff, Option.map_eq_some_iff] at moved
  obtain ⟨thread, present, ⟨shared', thread'⟩, stepped, rfl⟩ := moved
  exact ⟨thread, shared', thread', present, stepped, rfl⟩

/-- A thread of the configuration after an entry was there before, or is the
entering thread. -/
theorem getElem?_append_singleton_eq_some (present : (threads ++ [thread])[index]? = some found) :
    threads[index]? = some found ∨ (index = threads.length ∧ found = thread) := by
  rcases Nat.lt_trichotomy index threads.length with before | equal | after
  · rw [getElem?_append_left before] at present
    exact Or.inl present
  · subst equal
    simp only [getElem?_concat_length, Option.some.injEq] at present
    exact Or.inr ⟨rfl, present.symm⟩
  · rw [getElem?_eq_none (by simp; omega)] at present
    cases present

/-- A thread of the configuration after a step is the stepping thread in its
new local state, or another thread in its old one. -/
theorem getElem?_set_eq_some
    {other : Nat}
    (present : (threads.set index thread')[other]? = some found) :
    (other = index ∧ found = thread') ∨ (other ≠ index ∧ threads[other]? = some found) := by
  by_cases equal : other = index
  · subst equal
    rw [getElem?_set] at present
    simp only [if_true] at present
    split at present
    · cases present
      exact Or.inl ⟨rfl, rfl⟩
    · cases present
  · rw [getElem?_set_ne (Ne.symm equal)] at present
    exact Or.inr ⟨equal, present⟩

/-- A thread in another local state than the stepping one stays. -/
theorem mem_set_of_ne
    (present : threads[index]? = some thread)
    (member : found ∈ threads)
    (other : found ≠ thread) : found ∈ threads.set index thread' := by
  obtain ⟨position, there⟩ := mem_iff_getElem?.mp member
  have different : index ≠ position := by
    rintro rfl
    exact other (Option.some.inj (there.symm.trans present))
  exact mem_of_getElem? ((getElem?_set_ne different).trans there)

/-- A number that every step moves together with its own thread counts the threads of
a class. -/
theorem counts_move
    {number : Shared → Nat}
    {counted : Local → Bool}
    {move : Move Local Choice}
    {next : Config Shared Local}
    (enters : ∀ thread, program.initial thread = true → counted thread = false)
    (balanced : ∀ {index shared thread choice shared' thread'},
      program.step index shared thread choice = some (shared', thread') →
      (counted thread = true → 0 < number shared) →
      number shared' + (if counted thread then 1 else 0) =
        number shared + (if counted thread' then 1 else 0))
    (counts : number config.shared = config.threads.countP counted)
    (moved : program.move config move = some next) :
    number next.shared = next.threads.countP counted := by
  cases move with
  | spawn thread =>
    obtain ⟨initial, rfl⟩ := program.move_spawn_eq_some moved
    simpa [enters thread initial] using counts
  | act index choice =>
    obtain ⟨thread, shared', thread', present, taken, rfl⟩ := program.move_act_eq_some moved
    have balance := balanced taken fun isCounted => by
      rw [counts, countP_pos_iff]
      exact ⟨thread, mem_of_getElem? present, isCounted⟩
    obtain ⟨bound, found⟩ := List.getElem?_eq_some_iff.mp present
    have atLeast : (if counted thread then 1 else 0) ≤ config.threads.countP counted := by
      split
      next isCounted =>
        rw [Nat.one_le_iff_ne_zero, ← Nat.pos_iff_ne_zero, countP_pos_iff]
        exact ⟨thread, mem_of_getElem? present, isCounted⟩
      · exact Nat.zero_le _
    dsimp only
    rw [countP_set bound, found]
    omega

/-- An assertion on the shared state, one for every thread at its own local
state, and one for every pair of distinct threads. -/
structure Annotated (Common : Shared → Prop) (At : Shared → Nat → Local → Prop)
    (Both : Local → Local → Prop) (config : Config Shared Local) : Prop where
  common : Common config.shared
  thread : ∀ index thread, config.threads[index]? = some thread → At config.shared index thread
  pair : ∀ (first second : Nat) firstThread secondThread, first ≠ second →
    config.threads[first]? = some firstThread →
    config.threads[second]? = some secondThread → Both firstThread secondThread

variable {Common : Shared → Prop} {At : Shared → Nat → Local → Prop} {Both : Local → Local → Prop}
  (permitted : Config Shared Local → Move Local Choice → Prop)

/-- Before any thread has entered only the common assertion counts. -/
theorem annotated_of_idle
    (At : Shared → Nat → Local → Prop)
    (Both : Local → Local → Prop)
    {shared : Shared}
    (common : Common shared) :
    Annotated Common At Both ⟨shared, []⟩ where
  common := common
  thread index thread present := by simp at present
  pair first second firstThread secondThread _ present := by simp at present

/-- Interference freedom.  If each step establishes the common assertion and its
own thread's next assertion, keeps the assertions of all other threads and keeps
every pair apart, then the annotation survives every permitted move. -/
theorem annotated_move
    (bothSymmetric : ∀ first second, Both first second → Both second first)
    (entered : ∀ (config : Config Shared Local) thread,
      Annotated Common At Both config → program.initial thread = true →
        permitted config (.spawn thread) → (∀ index, At config.shared index thread) ∧
            ∀ (index : Nat) other, config.threads[index]? = some other → Both thread other)
    (stepped : ∀ (config : Config Shared Local) index choice thread shared' thread',
      Annotated Common At Both config → permitted config (.act index choice) →
        config.threads[index]? = some thread →
        program.step index config.shared thread choice = some (shared', thread') →
          Common shared' ∧ At shared' index thread' ∧ ∀ other otherThread, other ≠ index →
              config.threads[other]? = some otherThread →
                At shared' other otherThread ∧ Both thread' otherThread)
    (config : Config Shared Local)
    (move : Move Local Choice)
    (next : Config Shared Local)
    (annotated : Annotated Common At Both config)
    (allowed : permitted config move)
    (moved : program.move config move = some next) : Annotated Common At Both next := by
  cases move with
  | spawn thread =>
    obtain ⟨initial, rfl⟩ := program.move_spawn_eq_some moved
    obtain ⟨atEntry, apart⟩ := entered config thread annotated initial allowed
    refine ⟨annotated.common, ?_, ?_⟩
    · intro index found present
      rcases getElem?_append_singleton_eq_some present with before | ⟨_, rfl⟩
      · exact annotated.thread index found before
      · exact atEntry index
    · intro first second firstThread secondThread different firstPresent secondPresent
      rcases getElem?_append_singleton_eq_some firstPresent with firstBefore | ⟨firstIndex, rfl⟩
      · rcases getElem?_append_singleton_eq_some secondPresent with
          secondBefore | ⟨_, rfl⟩
        · exact annotated.pair first second firstThread secondThread
            different firstBefore secondBefore
        · exact bothSymmetric _ _ (apart first firstThread firstBefore)
      · rcases getElem?_append_singleton_eq_some secondPresent with
          secondBefore | ⟨secondIndex, _⟩
        · exact apart second secondThread secondBefore
        · exact absurd (firstIndex.trans secondIndex.symm) different
  | act index choice =>
    obtain ⟨thread, shared', thread', present, taken, rfl⟩ := program.move_act_eq_some moved
    obtain ⟨common, own, others⟩ := stepped config index choice thread
      shared' thread' annotated allowed present taken
    refine ⟨common, ?_, ?_⟩
    · intro other found foundPresent
      rcases getElem?_set_eq_some foundPresent with ⟨rfl, rfl⟩ | ⟨different, before⟩
      · exact own
      · exact (others other found different before).1
    · intro first second firstThread secondThread different firstPresent secondPresent
      rcases getElem?_set_eq_some firstPresent with ⟨rfl, rfl⟩ | ⟨firstOther, firstBefore⟩
      · rcases getElem?_set_eq_some secondPresent with
          ⟨equal, _⟩ | ⟨secondOther, secondBefore⟩
        · exact absurd equal.symm different
        · exact (others second secondThread secondOther secondBefore).2
      · rcases getElem?_set_eq_some secondPresent with
          ⟨rfl, rfl⟩ | ⟨_, secondBefore⟩
        · exact bothSymmetric _ _ (others first firstThread firstOther firstBefore).2
        · exact annotated.pair first second firstThread secondThread
            different firstBefore secondBefore

/-- The annotation seen from one thread: the common assertion and the thread's own
one at a given shared and local state, and the other threads of a configuration
beside them. -/
structure Beside (Common : Shared → Prop) (At : Shared → Nat → Local → Prop)
    (Both : Local → Local → Prop) (config : Config Shared Local) (index : Nat) (shared : Shared)
    (thread : Local) : Prop where
  common : Common shared
  own : At shared index thread
  others : ∀ other otherThread, other ≠ index →
    config.threads[other]? = some otherThread →
      At shared other otherThread ∧ Both thread otherThread

theorem Annotated.beside
    (annotated : Annotated Common At Both config)
    (present : config.threads[index]? = some thread) :
    Beside Common At Both config index config.shared thread where
  common := annotated.common
  own := annotated.thread index thread present
  others other otherThread different otherPresent :=
    ⟨annotated.thread other otherThread otherPresent,
      annotated.pair index other thread otherThread different.symm present otherPresent⟩

/-- Interference freedom for threads that enter without relying on anything: every
step leads the annotation seen from its thread to itself. -/
theorem annotated_move_of_beside
    (bothSymmetric : ∀ first second, Both first second → Both second first)
    (entered : ∀ thread, program.initial thread = true →
      (∀ shared index, At shared index thread) ∧ ∀ other, Both thread other)
    (stepped : ∀ (config : Config Shared Local) index choice thread shared' thread',
      Beside Common At Both config index config.shared thread →
        permitted config (.act index choice) →
        config.threads[index]? = some thread →
        program.step index config.shared thread choice = some (shared', thread') →
          Beside Common At Both config index shared' thread')
    (config : Config Shared Local)
    (move : Move Local Choice)
    (next : Config Shared Local)
    (annotated : Annotated Common At Both config)
    (allowed : permitted config move)
    (moved : program.move config move = some next) : Annotated Common At Both next := by
  refine program.annotated_move permitted bothSymmetric ?_ ?_ config move next
    annotated allowed moved
  · intro config thread _ initial _
    obtain ⟨relies, apart⟩ := entered thread initial
    exact ⟨fun index => relies config.shared index, fun _ other _ => apart other⟩
  · intro config index choice thread shared' thread' annotated allowed present taken
    obtain ⟨common, own, others⟩ := stepped config index choice thread shared' thread'
      (annotated.beside present) allowed present taken
    exact ⟨common, own, others⟩

end Program
end Interleaving
end Foundation
