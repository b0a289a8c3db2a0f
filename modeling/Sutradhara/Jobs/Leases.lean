import Mathlib.Algebra.BigOperators.Group.List.Basic
import Mathlib.Algebra.GroupWithZero.Nat
import Mathlib.Algebra.Order.BigOperators.Group.List
import Mathlib.Data.List.Perm.Basic
import Sutradhara.Foundation.Transition

/-!
# The leases of a drain

A worker reserves the resources of the jobs it claims and releases them when the jobs
complete.  The tally of a pool is always the sum of what the claimed and the running
jobs hold, and every reservation is released at most once.  An exception, however, ends
the drain with the leases of all other running jobs still held.
-/

namespace Sutradhara
namespace Jobs

open Foundation List

/-! ## The lease manager -/

/-- Leased amounts, zero where the dictionary has no entry. -/
abbrev Tally := String → Nat

/-- What `normalize_required_resources` returns: each pool once. -/
structure Grant where
  counts : List (String × Nat)
  distinct : (counts.map Prod.fst).Nodup

/-- How much is asked of a pool. -/
def amount (counts : List (String × Nat)) (pool : String) : Nat :=
  (counts.map fun entry => if entry.1 = pool then entry.2 else 0).sum

/-- `fits`; what fits can also ever fit. -/
def fits (capacities leased : Tally) (required : Grant) : Bool :=
  required.counts.all fun entry => leased entry.1 + entry.2 ≤ capacities entry.1

/-- The loop of `reserve`. -/
def reserve (counts : List (String × Nat)) (leased : Tally) : Tally :=
  counts.foldl (fun tally entry => Function.update tally entry.1 (tally entry.1 + entry.2)) leased

/-- The loop of `release`, and whether it ends without an exception. -/
def release : List (String × Nat) → Tally → Tally × Bool
  | [], leased => (leased, true)
  | (pool, count) :: rest, leased =>
    if leased pool < count then (leased, false)
    else release rest (Function.update leased pool (leased pool - count))

variable {pool : String}

theorem amount_cons :
    amount (entry :: rest) pool = (if pool = entry.1 then entry.2 else 0) + amount rest pool := by
  simp [amount, eq_comm]

theorem reserve_apply : reserve counts leased pool = leased pool + amount counts pool := by
  induction counts generalizing leased with
  | nil => rfl
  | cons entry rest ih =>
    have later : reserve (entry :: rest) leased pool =
        reserve rest (Function.update leased entry.1 (leased entry.1 + entry.2)) pool := rfl
    rw [later, ih, amount_cons, Function.update_apply]
    split
    next same => rw [same, Nat.add_assoc]
    · rw [Nat.zero_add]

/-- What is held can be released. -/
theorem release_eq (held : ∀ pool, amount counts pool ≤ leased pool) :
    release counts leased = (fun pool => leased pool - amount counts pool, true) := by
  induction counts generalizing leased with
  | nil => rfl
  | cons entry rest ih =>
    have first := held entry.1
    simp only [amount_cons] at held first ⊢
    rw [if_pos trivial] at first
    rw [release, if_neg (by omega), ih]
    · congr 1
      funext pool
      rw [Function.update_apply]
      split
      next same => rw [same, Nat.sub_sub]
      · rw [Nat.zero_add]
    · intro pool
      rw [Function.update_apply]
      split
      next same =>
        rw [same]
        omega
      · have := held pool
        omega

theorem amount_eq_zero (absent : pool ∉ counts.map Prod.fst) : amount counts pool = 0 := by
  refine sum_eq_zero fun value member => ?_
  obtain ⟨entry, inside, rfl⟩ := mem_map.mp member
  refine if_neg fun same => absent ?_
  rw [← same]
  exact mem_map_of_mem inside

/-- The sum that is asked of a pool is one of the counts that are checked. -/
theorem amount_of_fits
    (bounded : ∀ pool, leased pool ≤ capacities pool)
    (isFit : fits capacities leased required = true) :
    leased pool + amount required.counts pool ≤ capacities pool := by
  obtain ⟨counts, distinct⟩ := required
  induction counts with
  | nil => exact bounded pool
  | cons entry rest ih =>
    obtain ⟨fresh, distinctRest⟩ := nodup_cons.mp distinct
    obtain ⟨first, others⟩ := Bool.and_eq_true_iff.mp isFit
    rw [amount_cons]
    split
    next same =>
      rw [same, amount_eq_zero fresh]
      exact of_decide_eq_true first
    · rw [Nat.zero_add]
      exact ih distinctRest others

/-! ## The drain -/

/-- A reservation, with its place in the order in which they are made. -/
structure Reservation where
  id : Nat
  grant : Grant

/-- Where the loop of `drain` is. -/
inductive Phase
  /-- In `_claim_available`. -/
  | claiming
  /-- Before `wait`. -/
  | waiting
  | returned
  | raised
  deriving DecidableEq

/-- The tallies of the lease manager.  How many reservations have been made and which
have been released is kept for the statements only. -/
structure Ledger where
  leased : Tally
  made : Nat
  released : List Nat

/-- `release` of one reservation, and whether it ends without an exception. -/
def Ledger.release (ledger : Ledger) (held : Reservation) : Ledger × Bool :=
  let freed := Jobs.release held.grant.counts ledger.leased
  ({ ledger with leased := freed.1, released := ledger.released ++ [held.id] }, freed.2)

/-- The releases after a failed claim. -/
def Ledger.releaseAll : List Reservation → Ledger → Ledger × Bool
  | [], ledger => (ledger, true)
  | held :: rest, ledger =>
    match ledger.release held with
    | (freed, true) => releaseAll rest freed
    | (freed, false) => (freed, false)

/-- A drain. -/
structure Drain where
  ledger : Ledger
  /-- What the claiming transaction has reserved. -/
  claimed : List Reservation
  futures : List Reservation
  phase : Phase

/-- A drain that begins with nothing leased. -/
def Drain.start : Drain := ⟨⟨fun _ => 0, 0, []⟩, [], [], .claiming⟩

section

variable (capacities : Tally) (workers : Nat) (drain : Drain)

/-- The end of a round: nothing is left to wait for, or the wait. -/
def Drain.await : Drain :=
  { drain with phase := if drain.futures.isEmpty then .returned else .waiting }

/-- The loop over the completed futures; a result that raises leaves it. -/
def Drain.collect : List (Nat × Bool) → Drain → Option Drain
  | [], drain => some { drain with phase := .claiming }
  | (index, raises) :: rest, drain =>
    drain.futures[index]?.bind fun held =>
      let freed := drain.ledger.release held
      let next := { drain with ledger := freed.1, futures := drain.futures.eraseIdx index }
      if raises || !freed.2 then some { next with phase := .raised } else collect rest next

/-- What happens next. -/
inductive Action
  /-- A pending job is claimed and its resources are reserved. -/
  | claim (required : Grant)
  /-- Claiming raises, with a lock error or with another one. -/
  | claimFails (locked : Bool)
  /-- The claims are committed and the jobs are submitted. -/
  | submit
  /-- `wait` returns; the futures are taken at these places, with whether they raise. -/
  | collect (done : List (Nat × Bool))

/-- One step of the drain of a worker. -/
def step : Action → Option Drain
  | .claim required =>
    if drain.phase = .claiming ∧ drain.futures.length + drain.claimed.length < workers ∧
        fits capacities drain.ledger.leased required = true then
      some { drain with
        ledger := { drain.ledger with
          leased := reserve required.counts drain.ledger.leased
          made := drain.ledger.made + 1 }
        claimed := drain.claimed ++ [⟨drain.ledger.made, required⟩] }
    else none
  | .claimFails locked =>
    if drain.phase = .claiming then
      let freed := drain.ledger.releaseAll drain.claimed
      let next := { drain with ledger := freed.1, claimed := [] }
      some (if locked && freed.2 then next.await else { next with phase := .raised })
    else none
  | .submit =>
    if drain.phase = .claiming then
      some { drain with
        futures := drain.futures ++ drain.claimed
        claimed := [] }.await
    else none
  | .collect done => if drain.phase = .waiting ∧ done ≠ [] then drain.collect done else none

/-- The accounting of a drain: tallies within the capacities, no reservation released
twice, and at the end everything released. -/
structure Accounted (capacities : Tally) (drain : Drain) : Prop where
  bounded : ∀ pool, drain.ledger.leased pool ≤ capacities pool
  once : drain.ledger.released.Nodup
  settled : drain.phase = .returned ∨ drain.phase = .raised →
    (∀ pool, drain.ledger.leased pool = 0) ∧
      drain.ledger.released.Perm (List.range drain.ledger.made)

/-- Every drain keeps its accounts. -/
def LeaseLaw : Prop :=
  ∀ capacities workers actions final,
    Transition.run (step capacities workers) Drain.start actions = some final →
    Accounted capacities final

/-- An exception leaves the drain only when no other job is running: claiming raises when
there are no futures, and the first result that raises is taken last. -/
def alone : Action → Bool
  | .claimFails locked => locked || drain.futures.isEmpty
  | .collect done => done.all (!·.2) || drain.futures.length ≤ done.findIdx (·.2) + 1
  | _ => true

end

/-! ## The balance -/

/-- The tallies are the sums of what is held, and what is not released is held. -/
structure Balanced (capacities : Tally) (ledger : Ledger) (held : List Reservation) : Prop where
  bounded : ∀ pool, ledger.leased pool ≤ capacities pool
  total : ∀ pool, ledger.leased pool = (held.map fun one => amount one.grant.counts pool).sum
  logged : (ledger.released ++ held.map Reservation.id).Perm (List.range ledger.made)

theorem Balanced.perm (balanced : Balanced capacities ledger held) (same : held.Perm other) :
    Balanced capacities ledger other where
  bounded := balanced.bounded
  total pool := (balanced.total pool).trans (same.map _).sum_eq
  logged := ((same.map _).symm.append_left _).trans balanced.logged

/-- A reservation that fits comes into the balance. -/
theorem Balanced.reserve
    (balanced : Balanced capacities ledger held)
    (isFit : fits capacities ledger.leased required = true) : Balanced capacities { ledger with
        leased := Jobs.reserve required.counts ledger.leased
        made := ledger.made + 1 }
      (⟨ledger.made, required⟩ :: held) := by
  refine ⟨fun pool => ?_, fun pool => ?_, ?_⟩
  · dsimp only
    rw [reserve_apply]
    exact amount_of_fits balanced.bounded isFit
  · dsimp only
    rw [reserve_apply, balanced.total, map_cons, sum_cons, Nat.add_comm]
  · rw [range_succ]
    exact perm_middle.trans ((balanced.logged.cons _).trans (perm_append_singleton _ _).symm)

/-- A release takes the reservation out of the balance. -/
theorem Balanced.release (balanced : Balanced capacities ledger (one :: held)) :
    ∃ freed, ledger.release one = (freed, true) ∧ Balanced capacities freed held := by
  have total (pool : String) := balanced.total pool
  simp only [map_cons, sum_cons] at total
  have enough (pool : String) : amount one.grant.counts pool ≤ ledger.leased pool := by
    rw [total]
    exact Nat.le_add_right _ _
  have logged := balanced.logged
  refine ⟨_, by rw [Ledger.release, release_eq enough], ?_, fun pool => ?_, by simpa using logged⟩
  · exact fun pool => (Nat.sub_le _ _).trans (balanced.bounded pool)
  · dsimp only
    rw [total, Nat.add_sub_cancel_left]

/-- Releasing all that has been claimed. -/
theorem Balanced.releaseAll (balanced : Balanced capacities ledger (claimed ++ held)) :
    ∃ freed, ledger.releaseAll claimed = (freed, true) ∧ Balanced capacities freed held := by
  induction claimed generalizing ledger with
  | nil => exact ⟨_, rfl, balanced⟩
  | cons one rest ih =>
    obtain ⟨freed, isFreed, later⟩ := balanced.release
    rw [Ledger.releaseAll, isFreed]
    exact ih later

variable {drain next : Drain}

/-- The results that have been taken are released; an exception leaves the rest. -/
theorem Balanced.collect
    (balanced : Balanced capacities drain.ledger drain.futures)
    (collected : drain.collect done = some next) :
    Balanced capacities next.ledger next.futures ∧ next.claimed = drain.claimed ∧
      (next.phase = .claiming ∨
        next.phase = .raised ∧ (alone drain (.collect done) = true → next.futures = [])) := by
  induction done generalizing drain with
  | nil =>
    cases collected
    exact ⟨balanced, rfl, .inl rfl⟩
  | cons one rest ih =>
    obtain ⟨index, raises⟩ := one
    obtain ⟨held, found, collected⟩ := Option.bind_eq_some_iff.mp collected
    obtain ⟨inside, rfl⟩ := List.getElem?_eq_some_iff.mp found
    obtain ⟨freed, isFreed, later⟩ :=
      (balanced.perm (getElem_cons_eraseIdx_perm inside).symm).release
    rw [isFreed] at collected
    have fewer := length_eraseIdx_of_lt inside
    cases raises with
    | true =>
      cases collected
      refine ⟨later, rfl, .inr ⟨rfl, fun isAlone => List.length_eq_zero_iff.mp ?_⟩⟩
      simp only [alone, all_cons, findIdx_cons, Bool.not_true, Bool.false_and, Bool.false_or,
        cond_true, decide_eq_true_eq] at isAlone
      change (drain.futures.eraseIdx index).length = 0
      omega
    | false =>
      let left : Drain := { drain with ledger := freed, futures := drain.futures.eraseIdx index }
      obtain ⟨balanced, same, ended⟩ := @ih left later collected
      refine ⟨balanced, same, ended.imp_right fun raised => ⟨raised.1, fun isAlone => ?_⟩⟩
      refine raised.2 ?_
      simp only [alone, all_cons, findIdx_cons, Bool.not_false, Bool.true_and, cond_false,
        Bool.or_eq_true, decide_eq_true_eq, left, fewer] at isAlone ⊢
      exact isAlone.imp_right Nat.sub_le_of_le_add

/-- The invariant of a drain that raises only alone. -/
structure Kept (capacities : Tally) (drain : Drain) : Prop where
  balanced : Balanced capacities drain.ledger (drain.claimed ++ drain.futures)
  claimed : drain.phase ≠ .claiming → drain.claimed = []
  futures : drain.phase = .returned ∨ drain.phase = .raised → drain.futures = []

theorem Kept.await
    (balanced : Balanced capacities drain.ledger drain.futures)
    (unclaimed : drain.claimed = []) : Kept capacities drain.await := by
  refine ⟨by simpa [Drain.await, unclaimed] using balanced, fun _ => unclaimed, ?_⟩
  cases empty : drain.futures.isEmpty with
  | true => exact fun _ => List.isEmpty_iff.mp empty
  | false => simp [Drain.await, empty]

theorem Kept.step
    (kept : Kept capacities drain)
    (isAlone : alone drain action = true)
    (taken : step capacities workers drain action = some next) : Kept capacities next := by
  have balanced := kept.balanced
  cases action with
  | claim required =>
    simp only [Jobs.step] at taken
    split at taken
    next guard =>
      cases taken
      obtain ⟨claiming, _, isFit⟩ := guard
      refine ⟨?_, fun stops => absurd claiming stops, fun stops => by simp [claiming] at stops⟩
      rw [append_assoc]
      exact (balanced.reserve isFit).perm perm_middle.symm
    · cases taken
  | claimFails locked =>
    simp only [Jobs.step] at taken
    split at taken
    · obtain ⟨freed, isFreed, later⟩ := balanced.releaseAll
      rw [isFreed] at taken
      cases locked with
      | true =>
        cases taken
        exact Kept.await later rfl
      | false =>
        cases taken
        exact ⟨later, fun _ => rfl, fun _ => List.isEmpty_iff.mp isAlone⟩
    · cases taken
  | submit =>
    simp only [Jobs.step] at taken
    split at taken
    · cases taken
      exact Kept.await (balanced.perm perm_append_comm) rfl
    · cases taken
  | collect done =>
    simp only [Jobs.step] at taken
    split at taken
    next guard =>
      have unclaimed := kept.claimed (by simp [guard.1])
      rw [unclaimed] at balanced
      obtain ⟨later, same, ended⟩ := balanced.collect taken
      refine ⟨by rw [same, unclaimed]; exact later, fun _ => same.trans unclaimed, ?_⟩
      intro stops
      rcases ended with claiming | ⟨-, empty⟩
      · simp [claiming] at stops
      · exact empty isAlone
    · cases taken

theorem Kept.accounted (kept : Kept capacities drain) : Accounted capacities drain := by
  have balanced := kept.balanced
  refine ⟨balanced.bounded, ?_, fun stops => ?_⟩
  · exact (nodup_append.mp (balanced.logged.nodup_iff.mpr nodup_range)).1
  · have nothing : drain.claimed ++ drain.futures = [] := by
      rw [kept.futures stops, kept.claimed (by rcases stops with stops | stops <;> simp [stops])]
      rfl
    rw [nothing] at balanced
    exact ⟨balanced.total, by simpa using balanced.logged⟩

/-- A drain that raises only when no other job is running keeps its accounts. -/
theorem accounted_of_alone
    (capacities : Tally)
    (workers : Nat)
    (actions : List Action)
    (final : Drain)
    (admitted : Transition.Admits (step capacities workers)
      (fun drain action => alone drain action = true) Drain.start actions)
    (ended : Transition.run (step capacities workers) Drain.start actions = some final) :
    Accounted capacities final := by
  have started : Kept capacities Drain.start := by
    refine ⟨⟨fun _ => Nat.zero_le _, fun _ => rfl, List.Perm.refl _⟩, fun _ => rfl, fun _ => rfl⟩
  exact (Transition.invariant_of_admits _ (Kept capacities)
    (fun _ _ _ kept isAlone taken => kept.step isAlone taken) started admitted ended).accounted

/-! ## Two jobs, one of which raises -/

/-- One tape drive is asked for. -/
def oneDrive : Grant := ⟨[("tape", 1)], by decide⟩

/-- Two jobs run, and the first one that completes raises. -/
def raisingDrain : List Action := [.claim oneDrive, .claim oneDrive, .submit, .collect [(0, true)]]

/-- The lease of the other job is never released. -/
theorem not_leaseLaw : ¬ LeaseLaw := by
  intro law
  have accounted := law (fun _ => 2) 2 raisingDrain _ rfl
  have zero := (accounted.settled (.inr rfl)).1 "tape"
  revert zero
  decide

/-- The second job raises when the first one has been collected. -/
def raisingLast : List Action :=
  [.claim oneDrive, .claim oneDrive, .submit, .collect [(1, false)], .submit, .collect [(0, true)]]

theorem accounted_of_alone_last : ∃ final,
    Transition.run (step (fun _ => 2) 2) Drain.start raisingLast = some final ∧
      final.phase = .raised ∧ Accounted (fun _ => 2) final :=
  ⟨_, rfl, rfl, accounted_of_alone _ 2 raisingLast _ (by decide) rfl⟩

end Jobs
end Sutradhara
