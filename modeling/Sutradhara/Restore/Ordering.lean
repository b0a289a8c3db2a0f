import Mathlib.Data.Finset.Max
import Sutradhara.Foundation.Table
import Sutradhara.Restore.Lease

/-!
# The release gate of ordered restores

The restore jobs of a volume are released in the order of its persisted read plan.
A planned slot waits for the earlier planned slots of its plan, a slot of the tail
waits for all planned ones.  A slot does not hold up the others once its item is
settled, or when it is queued and no live job is left to serve it.  An item in any
other state counts as being served, also when nobody serves it any more.

A restart or a failed lock rolls an attempt back with the states of its item.  An
exception that `serve_restore_item` passes on becomes a failed result in
`handle_restore`, and the attempt is committed with the item as the exception left it.
-/

namespace Sutradhara
namespace Restore
namespace Ordering

open Foundation List

/-! ## Rows -/

/-- `JobStatus`. -/
inductive JobStatus
  | pending
  | queued
  | running
  | succeeded
  | failed
  | cancelled
  deriving DecidableEq

/-- `RestoreReadPlanSlot`. -/
structure PlanSlot where
  requestId : Nat
  tapeUuid : Nat
  position : Int
  itemId : Nat
  planned : Bool
  deriving DecidableEq

/-- `RestoreRequestItem`, as far as the gate reads it. -/
structure Item where
  id : Nat
  state : ItemState

/-- `Job`.  The last field is the parameter `restore_request_item_id`, if it is an
integer. -/
structure Job where
  id : Nat
  kind : String
  status : JobStatus
  itemId : Option Nat

/-- The rows that the gate reads.  An item occupies at most one slot. -/
structure Catalog where
  slots : Table PlanSlot.itemId
  items : Table Item.id
  jobs : Table Job.id

/-! ## The gate -/

/-- `LIVE_JOB_STATUSES`. -/
def JobStatus.live : JobStatus → Bool
  | .pending => true
  | .running => true
  | .queued => true
  | _ => false

/-- `_SETTLED_ITEM_STATES`. -/
def settled : ItemState → Bool
  | .done => true
  | .denied => true
  | .failed => true
  | .sent => true
  | _ => false

/-- The states in which an item counts as being served. -/
def inService : ItemState → Bool
  | .wakingDisk => true
  | .streaming => true
  | .fellBackToTape => true
  | _ => false

section

variable (catalog : Catalog) (job : Job) (slot : PlanSlot) (requestId tapeUuid : Nat)

/-- The job is a restore job of the item. -/
def Job.restores (itemId : Nat) : Bool := job.kind = "restore" && job.itemId = some itemId

/-- `_slot_item_settled`. -/
def slotItemSettled : Bool :=
  match catalog.items.find? slot.itemId with
  | none => true
  | some item =>
    if settled item.state then true
    else if item.state = .queued then
      !catalog.jobs.rows.any fun job => job.restores slot.itemId && job.status.live
    else false

/-- The slots that a slot waits for. -/
def predecessors : List PlanSlot :=
  catalog.slots.rows.filter fun other =>
    other.requestId = slot.requestId && other.tapeUuid = slot.tapeUuid &&
      other.planned && (!slot.planned || other.position < slot.position)

/-- `restore_release_allowed`. -/
def restoreReleaseAllowed : Bool :=
  match job.itemId with
  | none => true
  | some itemId =>
    match catalog.slots.find? itemId with
    | none => true
    | some slot =>
      (predecessors catalog slot).all fun predecessor =>
        predecessor.itemId = itemId || slotItemSettled catalog predecessor

/-! ## Plans -/

/-- The slot belongs to the plan of the volume. -/
def PlanSlot.ofVolume : Prop := slot.requestId = requestId ∧ slot.tapeUuid = tapeUuid

/-- The job restores the item of the slot and has the given status. -/
structure Catalog.Has (catalog : Catalog) (status : JobStatus) (slot : PlanSlot)
    (job : Job) : Prop where
  stored : job ∈ catalog.jobs.rows
  restores : job.restores slot.itemId = true
  status : job.status = status

/-- No restore job of the volume's items is running. -/
def Catalog.Idle : Prop :=
  ∀ slot ∈ catalog.slots.rows, slot.ofVolume requestId tapeUuid →
    ∀ job, ¬ catalog.Has .running slot job

/-- Some item of the plan has a pending restore job that the gate allows. -/
def Catalog.Releases : Prop :=
  ∃ slot ∈ catalog.slots.rows, slot.ofVolume requestId tapeUuid ∧
    ∃ job, catalog.Has .pending slot job ∧ restoreReleaseAllowed catalog job = true

/-- A volume without running jobs releases one of its pending jobs. -/
def OrderingLaw : Prop :=
  ∀ (catalog : Catalog) (requestId tapeUuid : Nat),
    catalog.Idle requestId tapeUuid →
    (∃ slot ∈ catalog.slots.rows, slot.ofVolume requestId tapeUuid ∧
      ∃ job, catalog.Has .pending slot job) →
    catalog.Releases requestId tapeUuid

/-- The slot holds up its successors although nothing of it runs or is pending: its item
is left in a state of being served, or waits for a job with the reserved status. -/
def Catalog.Stranded : Prop :=
  ∃ item ∈ catalog.items.rows, item.id = slot.itemId ∧
    (inService item.state = true ∨ item.state = .queued ∧ ∃ job, catalog.Has .queued slot job)

/-- The planned slots of the plan that come before every planned one with a pending job:
what all the pending jobs of the volume wait for. -/
structure Catalog.Ahead : Prop where
  stored : slot ∈ catalog.slots.rows
  ofVolume : slot.ofVolume requestId tapeUuid
  planned : slot.planned = true
  before : ∀ other ∈ catalog.slots.rows, other.ofVolume requestId tapeUuid →
    other.planned = true → (∃ job, catalog.Has .pending other job) →
    slot.position < other.position

end

/-! ## The earliest pending slot -/

theorem settled_or_queued_or_inService (state : ItemState) :
    settled state = true ∧ inService state = false ∧ state ≠ .queued ∨ state = .queued ∨
      inService state = true ∧ settled state = false ∧ state ≠ .queued := by
  cases state <;> simp [settled, inService]

/-- A slot without running or pending jobs holds up the others exactly if it is stranded. -/
theorem slotItemSettled_iff
    (notRunning : ∀ job, ¬ catalog.Has .running slot job)
    (notPending : ∀ job, ¬ catalog.Has .pending slot job) :
    slotItemSettled catalog slot = true ↔ ¬ catalog.Stranded slot := by
  have isIts : ∀ {item}, catalog.items.find? slot.itemId = some item →
      ∀ other ∈ catalog.items.rows, other.id = slot.itemId → other = item := by
    intro item found other member same
    obtain ⟨stored, key⟩ := (Table.find?_eq_some_iff ..).mp found
    exact Table.eq_of_key_eq _ member stored (same.trans key.symm)
  unfold slotItemSettled
  cases found : catalog.items.find? slot.itemId with
  | none =>
    refine iff_of_true rfl ?_
    rintro ⟨item, member, same, -⟩
    exact (Table.find?_eq_none_iff ..).mp found item member same
  | some item =>
    obtain ⟨member, same⟩ := (Table.find?_eq_some_iff ..).mp found
    rcases settled_or_queued_or_inService item.state with
      ⟨isSettled, unserved, other⟩ | isQueued | ⟨serving, unsettled, other⟩
    · simp only [isSettled, if_true, true_iff]
      rintro ⟨row, stored, key, held⟩
      obtain rfl := isIts found row stored key
      rcases held with serving | ⟨isQueued, -⟩
      · rw [unserved] at serving
        cases serving
      · exact other isQueued
    · have live : (catalog.jobs.rows.any fun job =>
          job.restores slot.itemId && job.status.live) = true ↔
            ∃ job, catalog.Has .queued slot job := by
        simp only [any_eq_true, Bool.and_eq_true]
        constructor
        · rintro ⟨job, stored, restores, alive⟩
          refine ⟨job, stored, restores, ?_⟩
          cases status : job.status with
          | pending => exact absurd ⟨stored, restores, status⟩ (notPending job)
          | running => exact absurd ⟨stored, restores, status⟩ (notRunning job)
          | queued => rfl
          | _ =>
            rw [status] at alive
            cases alive
        · rintro ⟨job, stored, restores, status⟩
          exact ⟨job, stored, restores, by rw [status]; rfl⟩
      have gate : (if settled item.state then true
          else if item.state = .queued then
            !catalog.jobs.rows.any fun job => job.restores slot.itemId && job.status.live
          else false) = !catalog.jobs.rows.any fun job =>
            job.restores slot.itemId && job.status.live := by
        rw [isQueued]
        rfl
      simp only [gate, Bool.not_eq_true', ← Bool.not_eq_true, live]
      refine not_congr ⟨fun waiting => ⟨item, member, same, .inr ⟨isQueued, waiting⟩⟩, ?_⟩
      rintro ⟨row, stored, key, serving | ⟨-, waiting⟩⟩
      · rw [isIts found row stored key, isQueued] at serving
        cases serving
      · exact waiting
    · have held : catalog.Stranded slot := ⟨item, member, same, .inl serving⟩
      simp [unsettled, other, held]

theorem mem_predecessors :
    other ∈ predecessors catalog slot ↔
      other ∈ catalog.slots.rows ∧ other.ofVolume slot.requestId slot.tapeUuid ∧
        other.planned = true ∧ (slot.planned = true → other.position < slot.position) := by
  simp only [predecessors, mem_filter, PlanSlot.ofVolume, Bool.and_eq_true, and_assoc]
  cases slot.planned <;> simp

/-- Among the pending slots of a plan there is one that waits for what all of them wait
for: the first planned one, or any of the tail when no planned one is pending. -/
theorem exists_first
    (somePending : ∃ slot ∈ catalog.slots.rows, slot.ofVolume requestId tapeUuid ∧
      ∃ job, catalog.Has .pending slot job) :
    ∃ slot ∈ catalog.slots.rows, slot.ofVolume requestId tapeUuid ∧
      (∃ job, catalog.Has .pending slot job) ∧
      ∀ other ∈ predecessors catalog slot, catalog.Ahead other requestId tapeUuid := by
  classical
  let pendingPlanned := catalog.slots.rows.toFinset.filter fun slot =>
    slot.ofVolume requestId tapeUuid ∧ slot.planned = true ∧ ∃ job, catalog.Has .pending slot job
  have isPending : ∀ slot, slot ∈ pendingPlanned ↔ slot ∈ catalog.slots.rows ∧
      slot.ofVolume requestId tapeUuid ∧ slot.planned = true ∧
        ∃ job, catalog.Has .pending slot job := by
    simp [pendingPlanned]
  rcases pendingPlanned.eq_empty_or_nonempty with none | nonempty
  · obtain ⟨slot, member, ofVolume, pending⟩ := somePending
    refine ⟨slot, member, ofVolume, pending, fun other before => ?_⟩
    obtain ⟨otherMember, otherVolume, planned, -⟩ := mem_predecessors.mp before
    rw [ofVolume.1, ofVolume.2] at otherVolume
    refine ⟨otherMember, otherVolume, planned, fun third stored inVolume isPlanned waiting => ?_⟩
    have inside := (isPending third).mpr ⟨stored, inVolume, isPlanned, waiting⟩
    rw [none] at inside
    exact absurd inside (Finset.notMem_empty third)
  · obtain ⟨slot, inside, least⟩ :=
      pendingPlanned.exists_min_image PlanSlot.position nonempty
    obtain ⟨member, ofVolume, planned, pending⟩ := (isPending slot).mp inside
    refine ⟨slot, member, ofVolume, pending, fun other before => ?_⟩
    obtain ⟨otherMember, otherVolume, otherPlanned, earlier⟩ := mem_predecessors.mp before
    rw [ofVolume.1, ofVolume.2] at otherVolume
    refine ⟨otherMember, otherVolume, otherPlanned,
      fun third stored inVolume isPlanned waiting => ?_⟩
    exact (earlier planned).trans_le
      (least third ((isPending third).mpr ⟨stored, inVolume, isPlanned, waiting⟩))

/-- What comes before every pending slot has no pending job. -/
theorem not_pending_of_ahead
    {catalog : Catalog}
    (ahead : catalog.Ahead slot requestId tapeUuid) :
    ∀ job, ¬ catalog.Has .pending slot job := fun job pending =>
  lt_irrefl _ (ahead.before slot ahead.stored ahead.ofVolume ahead.planned ⟨job, pending⟩)

theorem restoreReleaseAllowed_iff
    (member : slot ∈ catalog.slots.rows)
    (restores : job.restores slot.itemId = true) :
    restoreReleaseAllowed catalog job = true ↔
      ∀ other ∈ predecessors catalog slot, other.itemId = slot.itemId ∨
        slotItemSettled catalog other = true := by
  simp only [Job.restores, Bool.and_eq_true, decide_eq_true_eq] at restores
  have found : catalog.slots.find? slot.itemId = some slot :=
    (Table.find?_eq_some_iff ..).mpr ⟨member, rfl⟩
  simp only [restoreReleaseAllowed, restores.2, found, all_eq_true, Bool.or_eq_true,
    decide_eq_true_eq]

/-- A volume without running jobs releases one of its pending jobs exactly if none of the
slots that all of them wait for is stranded. -/
theorem releases_iff_not_stranded
    (catalog : Catalog)
    (requestId tapeUuid : Nat)
    (idle : catalog.Idle requestId tapeUuid)
    (pending : ∃ slot ∈ catalog.slots.rows, slot.ofVolume requestId tapeUuid ∧
      ∃ job, catalog.Has .pending slot job) :
    catalog.Releases requestId tapeUuid ↔
      ∀ slot, catalog.Ahead slot requestId tapeUuid → ¬ catalog.Stranded slot := by
  have settled : ∀ slot, catalog.Ahead slot requestId tapeUuid →
      (slotItemSettled catalog slot = true ↔ ¬ catalog.Stranded slot) := fun slot ahead =>
    slotItemSettled_iff (idle slot ahead.stored ahead.ofVolume) (not_pending_of_ahead ahead)
  constructor
  · rintro ⟨slot, member, ofVolume, job, waiting, allowed⟩ other ahead
    have before : other ∈ predecessors catalog slot := by
      refine mem_predecessors.mpr ⟨ahead.stored, ?_, ahead.planned, fun planned => ?_⟩
      · rw [ofVolume.1, ofVolume.2]
        exact ahead.ofVolume
      · exact ahead.before slot member ofVolume planned ⟨job, waiting⟩
    rw [← settled other ahead]
    have settledOrSame :=
      (restoreReleaseAllowed_iff member waiting.restores).mp allowed other before
    refine settledOrSame.resolve_left fun same => ?_
    obtain rfl := Table.eq_of_key_eq _ ahead.stored member same
    exact not_pending_of_ahead ahead job waiting
  · intro notStranded
    obtain ⟨slot, member, ofVolume, ⟨job, waiting⟩, first⟩ := exists_first pending
    refine ⟨slot, member, ofVolume, job, waiting, ?_⟩
    refine (restoreReleaseAllowed_iff member waiting.restores).mpr fun other before => .inr ?_
    have ahead := first other before
    exact (settled other ahead).mpr (notStranded other ahead)

/-! ## An exception while an item is being streamed -/

/-- The rows after an exception that leaves the first item in service. -/
def strandedCatalog : Catalog where
  slots := ⟨[⟨1, 1, 0, 10, true⟩, ⟨1, 1, 1, 11, true⟩], by decide⟩
  items := ⟨[⟨10, .streaming⟩, ⟨11, .queued⟩], by decide⟩
  jobs := ⟨[⟨100, "restore", .failed, some 10⟩, ⟨101, "restore", .pending, some 11⟩], by decide⟩

/-- The second item is never released. -/
theorem not_orderingLaw : ¬ OrderingLaw := by
  intro law
  have idle : strandedCatalog.Idle 1 1 := by
    rintro slot - - job ⟨stored, -, running⟩
    simp only [strandedCatalog, mem_cons, not_mem_nil, or_false] at stored
    rcases stored with rfl | rfl
    · cases running
    · cases running
  have pending : ∃ slot ∈ strandedCatalog.slots.rows, slot.ofVolume 1 1 ∧
      ∃ job, strandedCatalog.Has .pending slot job :=
    ⟨⟨1, 1, 1, 11, true⟩, by simp [strandedCatalog], ⟨rfl, rfl⟩,
      ⟨101, "restore", .pending, some 11⟩, by simp [strandedCatalog], rfl, rfl⟩
  obtain ⟨slot, -, -, job, ⟨stored, -, isPending⟩, allowed⟩ :=
    law strandedCatalog 1 1 idle pending
  simp only [strandedCatalog, mem_cons, not_mem_nil, or_false] at stored
  rcases stored with rfl | rfl
  · cases isPending
  · revert allowed
    decide

/-- The first item is restored, the second one and one of the tail are waiting, and the
fourth one, behind them, is stranded. -/
def servedCatalog : Catalog where
  slots := ⟨[⟨1, 1, 0, 10, true⟩, ⟨1, 1, 1, 11, true⟩, ⟨1, 1, 3, 12, false⟩,
    ⟨1, 1, 2, 13, true⟩], by decide⟩
  items := ⟨[⟨10, .done⟩, ⟨11, .queued⟩, ⟨12, .queued⟩, ⟨13, .streaming⟩], by decide⟩
  jobs := ⟨[⟨100, "restore", .succeeded, some 10⟩, ⟨101, "restore", .pending, some 11⟩,
    ⟨102, "restore", .pending, some 12⟩], by decide⟩

/-- Nothing of the volume runs, and one of the two pending jobs is released. -/
theorem releases_iff_not_stranded_served : servedCatalog.Idle 1 1 ∧ servedCatalog.Releases 1 1 := by
  have statuses : ∀ job ∈ servedCatalog.jobs.rows,
      job.status = .succeeded ∨ job.status = .pending := by
    simp [servedCatalog]
  have idle : servedCatalog.Idle 1 1 := by
    rintro slot - - job ⟨stored, -, running⟩
    simpa [running] using statuses job stored
  have second : servedCatalog.Has .pending ⟨1, 1, 1, 11, true⟩
      ⟨101, "restore", .pending, some 11⟩ := ⟨by simp [servedCatalog], rfl, rfl⟩
  refine ⟨idle, (releases_iff_not_stranded servedCatalog 1 1 idle
    ⟨⟨1, 1, 1, 11, true⟩, by simp [servedCatalog], ⟨rfl, rfl⟩, _, second⟩).mpr ?_⟩
  rintro slot ahead ⟨item, stored, same, held⟩
  have early : slot.position < 1 :=
    ahead.before ⟨1, 1, 1, 11, true⟩ (by simp [servedCatalog]) ⟨rfl, rfl⟩ rfl ⟨_, second⟩
  have first : slot = ⟨1, 1, 0, 10, true⟩ := by
    have member := ahead.stored
    simp only [servedCatalog, mem_cons, not_mem_nil, or_false] at member
    rcases member with rfl | rfl | rfl | rfl
    · rfl
    all_goals exact absurd early (by decide)
  subst first
  simp only [servedCatalog, mem_cons, not_mem_nil, or_false] at stored
  rcases stored with rfl | rfl | rfl | rfl
  · rcases held with serving | ⟨isQueued, -⟩
    · cases serving
    · cases isQueued
  all_goals exact absurd same (by decide)

end Ordering
end Restore
end Sutradhara
