import Sutradhara.Backend.Batch

/-!
# Conservation of a batch

The error of a digest mismatch lists nothing for requeue, neither the object that
does not match nor the objects that are pending.  In a session without a mismatch
every append ends as a committed copy or on the requeue list, once.
-/

namespace Sutradhara
namespace Backend

open Foundation List
open Foundation.Raising

/-- The stream of an append matches the digest supplied for it. -/
def matching (_ : Batch) : BatchCall → Bool
  | .append _ _ contentSha256 answer => (mismatch contentSha256 answer).isNone
  | _ => true

/-! ## The invariant -/

/-- The numbers of the appends that an open writer has pending. -/
def BatchWriter.outstanding (writer : BatchWriter) : List Nat :=
  if writer.closed then [] else writer.pending.map PendingAppend.attempt

/-- Every append is returned, listed or pending, exactly one of these and once. -/
structure Accounted (batch : Batch) : Prop where
  account : ∀ attempt,
    batch.returns attempt + batch.lists attempt +
      batch.writer.outstanding.count attempt = if attempt < batch.attempts.length then 1 else 0
  known : batch.writer.closed = false → ∀ item ∈ batch.writer.pending,
    batch.attempts[item.attempt]? = some item.callerObjectId
  distinct : batch.writer.closed = false →
    (batch.writer.pending.map PendingAppend.callerObjectId).Nodup
  appended : ∀ copy ∈ batch.committed, batch.attempts[copy.attempt]? = some copy.callerObjectId

theorem Accounted.conserved (accounted : Accounted batch) : Conserved batch where
  atMostOnce attempt := by
    have account := accounted.account attempt
    split_ifs at account <;> omega
  ended isOver attempt below := by
    have account := accounted.account attempt
    rw [if_pos below] at account
    simpa [BatchWriter.outstanding, isOver] using account
  appended := accounted.appended

theorem accounted_opened : Accounted Batch.opened where
  account attempt := by simp [Batch.opened, Batch.returns, Batch.lists, BatchWriter.outstanding]
  known _ item member := by simp [Batch.opened] at member
  distinct _ := by simp [Batch.opened]
  appended copy member := by simp [Batch.opened] at member

/-! ## Commits -/

/-- The number and the id of a copy. -/
def CommittedCopy.name (copy : CommittedCopy) : Nat × String :=
  (copy.attempt, copy.callerObjectId)

/-- The number and the id of a pending append. -/
def PendingAppend.name (item : PendingAppend) : Nat × String :=
  (item.attempt, item.callerObjectId)

variable {writer next : BatchWriter}

theorem mem_of_committedItem (found : writer.committedItem legacy index object = some item) :
    item ∈ writer.pending := by
  unfold BatchWriter.committedItem at found
  split_ifs at found
  · exact mem_of_getElem? found
  · exact mem_of_find?_eq_some found

/-- The commits that are accepted belong to different pending appends. -/
theorem items_of_acceptEach
    (accepted : writer.acceptEach operation legacy index seen commits = .ok copies) :
    ∃ items : List PendingAppend, (∀ item ∈ items, item ∈ writer.pending) ∧
      copies.map CommittedCopy.name = items.map PendingAppend.name ∧
      (items.map PendingAppend.callerObjectId).Nodup ∧
      ∀ item ∈ items, item.callerObjectId ∉ seen := by
  induction commits generalizing index seen copies with
  | nil =>
    cases accepted
    exact ⟨[], by simp⟩
  | cons commit rest ih =>
    unfold BatchWriter.acceptEach at accepted
    split at accepted
    · cases accepted
    · rename_i item found
      obtain ⟨record, _, accepted⟩ := exists_of_bind_eq_ok accepted
      obtain ⟨_, unseen, accepted⟩ := exists_of_bind_eq_ok accepted
      obtain ⟨later, acceptedLater, done⟩ := exists_of_bind_eq_ok accepted
      cases done
      obtain ⟨items, pending, names, distinct, fresh⟩ := ih acceptedLater
      have isPending : item ∈ writer.pending := mem_of_committedItem found
      have new : item.callerObjectId ∉ items.map PendingAppend.callerObjectId := by
        intro member
        obtain ⟨other, isItem, same⟩ := mem_map.mp member
        exact fresh other isItem (by simp [same])
      refine ⟨item :: items, ?_, ?_, nodup_cons.mpr ⟨new, distinct⟩, ?_⟩
      · intro other member
        rcases mem_cons.mp member with rfl | isItem
        · exact isPending
        · exact pending other isItem
      · rw [map_cons, names]
        rfl
      · intro other member
        rcases mem_cons.mp member with rfl | isItem
        · simpa using eq_true_of_require unseen
        · exact fun old => fresh other isItem (mem_cons_of_mem _ old)

variable {session : WriteSession}

/-- The accepted copies are those of the pending appends, in some order. -/
theorem names_of_acceptedCopies
    (distinct : (writer.pending.map PendingAppend.callerObjectId).Nodup)
    (accepted : writer.acceptedCopies session operation response observer = .ok copies) :
    (copies.map CommittedCopy.name).Perm (writer.pending.map PendingAppend.name) := by
  obtain ⟨found, _, accepted⟩ := exists_of_bind_eq_ok accepted
  obtain ⟨commits, _, accepted⟩ := exists_of_bind_eq_ok accepted
  obtain ⟨committed, each, accepted⟩ := exists_of_bind_eq_ok accepted
  obtain ⟨_, complete, accepted⟩ := exists_of_bind_eq_ok accepted
  have same : committed = copies := by
    split at accepted
    · cases accepted
    · cases accepted
      rfl
  subst same
  obtain ⟨items, pending, names, distinctItems, _⟩ := items_of_acceptEach each
  have ids : committed.map (fun copy => copy.callerObjectId) =
      items.map PendingAppend.callerObjectId := by
    have seconds := congrArg (List.map Prod.snd) names
    rw [map_map, map_map] at seconds
    exact seconds
  have permuted : items.Perm writer.pending := by
    rw [perm_ext_iff_of_nodup distinctItems.of_map distinct.of_map]
    intro item
    refine ⟨pending item, fun isPending => ?_⟩
    -- the id of a pending append was seen, and it names no other pending append
    have seen : item.callerObjectId ∈ items.map PendingAppend.callerObjectId := by
      have nothing := eq_true_of_require complete
      rw [List.isEmpty_iff, filter_eq_nil_iff, ids] at nothing
      simpa using nothing item.callerObjectId (mem_map_of_mem isPending)
    obtain ⟨other, isItem, equal⟩ := mem_map.mp seen
    have identical := inj_on_of_nodup_map distinct (pending other isItem) isPending equal
    exact identical ▸ isItem
  rw [names]
  exact permuted.map PendingAppend.name

/-! ## Checkpoint and close -/

theorem outstanding_of_open (isOpen : writer.closed = false) :
    writer.outstanding = writer.pending.map PendingAppend.attempt := by
  simp [BatchWriter.outstanding, isOpen]

theorem outstanding_of_closed (isOver : writer.closed = true) : writer.outstanding = [] := by
  simp [BatchWriter.outstanding, isOver]

theorem attempts_requeueObjects : writer.requeueObjects.map RequeueObject.attempt =
      writer.pending.map PendingAppend.attempt := by
  rw [BatchWriter.requeueObjects, map_map]
  rfl

variable {batch : Batch}

/-- The account of a batch that returns all that was pending. -/
theorem Accounted.returned
    (accounted : Accounted batch)
    (isOpen : batch.writer.closed = false)
    (names : (copies.map CommittedCopy.name).Perm (batch.writer.pending.map PendingAppend.name))
    (nothing : writer.pending = []) : Accounted { batch with
      writer := writer
      committed := batch.committed ++ copies } where
  account attempt := by
    have account := accounted.account attempt
    have attempts : (copies.map CommittedCopy.attempt).count attempt =
        (batch.writer.pending.map PendingAppend.attempt).count attempt := by
      have firsts := (names.map Prod.fst).count_eq attempt
      rw [map_map, map_map] at firsts
      exact firsts
    have outstanding : writer.outstanding = [] := by simp [BatchWriter.outstanding, nothing]
    rw [outstanding_of_open isOpen] at account
    simp only [Batch.returns, Batch.lists, map_append, count_append,
      outstanding, count_nil] at account ⊢
    omega
  known _ item member := by
    rw [nothing] at member
    cases member
  distinct _ := by simp [nothing]
  appended copy member := by
    rcases mem_append.mp member with older | new
    · exact accounted.appended copy older
    · obtain ⟨item, isPending, same⟩ := mem_map.mp (names.subset (mem_map_of_mem new))
      obtain ⟨sameAttempt, sameId⟩ := Prod.mk.inj same
      rw [← sameAttempt, ← sameId]
      exact accounted.known isOpen item isPending

/-- The account of a batch that ends with a list of all that was pending. -/
theorem Accounted.listed
    (accounted : Accounted batch)
    (isOpen : batch.writer.closed = false)
    (isOver : writer.closed = true)
    (attempts : objects.map RequeueObject.attempt =
      batch.writer.pending.map PendingAppend.attempt) :
    Accounted { batch with
      writer := writer
      requeued := batch.requeued ++ objects } where
  account attempt := by
    have account := accounted.account attempt
    rw [outstanding_of_open isOpen] at account
    simp only [Batch.returns, Batch.lists, map_append, count_append,
      outstanding_of_closed isOver, count_nil, attempts] at account ⊢
    omega
  known isOpenAfter := by
    rw [isOver] at isOpenAfter
    cases isOpenAfter
  distinct isOpenAfter := by
    rw [isOver] at isOpenAfter
    cases isOpenAfter
  appended := accounted.appended

theorem Accounted.settled
    (accounted : Accounted batch)
    (isOpen : batch.writer.closed = false)
    (operation : String)
    (response : Except String SessionResponse)
    (observer : Option String) :
    Accounted (batch.settled (batch.writer.settle session operation response observer)) := by
  unfold BatchWriter.settle
  cases response with
  | error text => exact accounted.listed isOpen rfl (attempts_requeueObjects)
  | ok answer =>
    cases accepted : batch.writer.acceptedCopies session operation answer observer with
    | error fault =>
      simp only [accepted]
      exact accounted.listed isOpen rfl (attempts_requeueObjects)
    | ok copies =>
      simp only [accepted]
      exact accounted.returned isOpen
        (names_of_acceptedCopies (accounted.distinct isOpen) accepted) rfl

/-- A settled writer is closed or has nothing pending, so that closing it changes no
account. -/
theorem outstanding_settle :
    (writer.settle session operation response observer).1.outstanding = [] := by
  unfold BatchWriter.settle
  simp only
  split
  · simp [BatchWriter.outstanding]
  · simp [BatchWriter.outstanding, BatchWriter.fail]

theorem writer_settled :
    (batch.settled result).writer = result.1 := by
  obtain ⟨writer, _ | _⟩ := result <;> rfl

theorem Accounted.close (accounted : Accounted batch) (nothing : batch.writer.outstanding = []) :
    Accounted { batch with writer := { batch.writer with closed := true } } where
  account attempt := by
    have account := accounted.account attempt
    rw [nothing] at account
    exact account
  known isOpen := by cases isOpen
  distinct isOpen := by cases isOpen
  appended := accounted.appended

/-! ## Append -/

/-- An exchange leaves the writer as it was and fails, or makes the object pending. -/
theorem exchange_cases
    (exchanged : writer.exchange session attempt source callerObjectId contentSha256
      answer = (next, outcome)) :
    (next = writer ∧ ∃ fault, outcome = .error fault) ∨
      ∃ item : PendingAppend, item.name = (attempt, callerObjectId) ∧
        next.pending = writer.pending ++ [item] ∧ next.closed = writer.closed := by
  unfold BatchWriter.exchange at exchanged
  split at exchanged
  · cases exchanged
    exact .inl ⟨rfl, _, rfl⟩
  · split at exchanged
    · cases exchanged
      exact .inl ⟨rfl, _, rfl⟩
    · rename_i record _
      cases taken : writer.takeUp session attempt source callerObjectId record answer.observer with
      | mk after result =>
        rw [taken] at exchanged
        cases exchanged
        unfold BatchWriter.takeUp at taken
        split at taken
        · cases taken
          exact .inl ⟨rfl, _, rfl⟩
        · split at taken <;> cases taken
          · exact .inl ⟨rfl, _, rfl⟩
          · exact .inr ⟨_, rfl, rfl, rfl⟩

/-- An exchange whose stream matches its digest does not fail with a mismatch. -/
theorem other_of_exchange
    (matches_ : mismatch contentSha256 answer = none)
    (exchanged : writer.exchange session attempt source callerObjectId contentSha256
      answer = (next, .error fault)) :
    ∃ reason, fault = .other reason := by
  unfold BatchWriter.exchange at exchanged
  rw [matches_] at exchanged
  simp only at exchanged
  split at exchanged
  · cases exchanged
    exact ⟨_, rfl⟩
  · rename_i record _
    cases taken : writer.takeUp session attempt source callerObjectId record answer.observer with
    | mk after result =>
      rw [taken] at exchanged
      cases result with
      | error reason =>
        cases exchanged
        exact ⟨reason, rfl⟩
      | ok receipt => cases exchanged

theorem unused_of_checkAppend
    (checked : writer.checkAppend callerObjectId contentSha256 = .ok done) :
    writer.closed = false ∧ callerObjectId ∉ writer.pending.map PendingAppend.callerObjectId := by
  obtain ⟨_, isOpen, checked⟩ := exists_of_bind_eq_ok checked
  iterate 2 obtain ⟨_, _, checked⟩ := exists_of_bind_eq_ok checked
  have unused := eq_true_of_require checked
  refine ⟨by simpa using eq_true_of_require isOpen, ?_⟩
  intro member
  obtain ⟨item, isPending, same⟩ := mem_map.mp member
  exact of_decide_eq_true (all_eq_true.mp unused item isPending) same

/-- A failed append lists what was pending before it and its own object. -/
theorem attempts_requeueWith
    (unused : callerObjectId ∉ writer.pending.map PendingAppend.callerObjectId)
    (after : next = writer ∨ ∃ item : PendingAppend, item.name = (attempt, callerObjectId) ∧
        next.pending = writer.pending ++ [item]) :
    (next.requeueWith session attempt source callerObjectId).map RequeueObject.attempt =
      writer.pending.map PendingAppend.attempt ++ [attempt] := by
  unfold BatchWriter.requeueWith
  rcases after with rfl | ⟨item, name, pending⟩
  · rw [if_neg, map_append, attempts_requeueObjects]
    · rfl
    · intro listed
      obtain ⟨object, isListed, same⟩ := any_eq_true.mp listed
      obtain ⟨other, isPending, rfl⟩ := mem_map.mp isListed
      exact unused (mem_map.mpr ⟨other, isPending, of_decide_eq_true same⟩)
  · obtain ⟨sameAttempt, sameId⟩ := Prod.mk.inj name
    rw [if_pos, attempts_requeueObjects, pending]
    · simp [← sameAttempt]
    · simp [BatchWriter.requeueObjects, pending, sameId]

section

variable (accounted : Accounted batch)
include accounted

/-- The account of a batch whose append makes an object pending. -/
theorem Accounted.appendPending
    (isOpen : batch.writer.closed = false)
    (unused : callerObjectId ∉ batch.writer.pending.map PendingAppend.callerObjectId)
    (name : item.name = (batch.attempts.length, callerObjectId))
    (pending : writer.pending = batch.writer.pending ++ [item])
    (stillOpen : writer.closed = false) : Accounted { batch with
      writer := writer
      attempts := batch.attempts ++ [callerObjectId] } := by
  obtain ⟨sameAttempt, sameId⟩ := Prod.mk.inj name
  exact {
    account := by
      intro attempt
      have account := accounted.account attempt
      rw [outstanding_of_open isOpen] at account
      simp only [Batch.returns, Batch.lists, outstanding_of_open stillOpen, pending,
        map_append, count_append, map_cons, map_nil,
        count_singleton, length_append, length_singleton, beq_iff_eq] at account ⊢
      split_ifs at account ⊢ <;> omega
    known := by
      intro _ other member
      rw [pending] at member
      rcases mem_append.mp member with older | new
      · have known := accounted.known isOpen other older
        exact List.getElem?_append_left (List.getElem?_eq_some_iff.mp known).1 ▸ known
      · rw [mem_singleton.mp new, sameAttempt, sameId]
        exact getElem?_concat_length
    distinct := by
      intro _
      rw [pending, map_append, map_singleton, sameId]
      exact nodup_append.mpr ⟨accounted.distinct isOpen, by simp, by
        intro first isFirst second isSecond same
        rw [mem_singleton.mp isSecond] at same
        exact unused (same ▸ isFirst)⟩
    appended := by
      intro copy member
      have known := accounted.appended copy member
      exact List.getElem?_append_left (List.getElem?_eq_some_iff.mp known).1 ▸ known }

/-- The account of a batch whose append fails and lists its object, too. -/
theorem Accounted.appendListed
    (isOpen : batch.writer.closed = false)
    (isOver : writer.closed = true)
    (attempts : objects.map RequeueObject.attempt =
      batch.writer.pending.map PendingAppend.attempt ++ [batch.attempts.length]) :
    Accounted ⟨writer, batch.attempts ++ [callerObjectId], batch.committed,
      batch.requeued ++ objects⟩ where
  account attempt := by
    have account := accounted.account attempt
    rw [outstanding_of_open isOpen] at account
    simp only [Batch.returns, Batch.lists, outstanding_of_closed isOver,
      map_append, count_append, attempts, count_nil,
      count_singleton, length_append, length_singleton, beq_iff_eq] at account ⊢
    split_ifs at account ⊢ <;> omega
  known isOpenAfter := by
    rw [isOver] at isOpenAfter
    cases isOpenAfter
  distinct isOpenAfter := by
    rw [isOver] at isOpenAfter
    cases isOpenAfter
  appended copy member := by
    have known := accounted.appended copy member
    exact List.getElem?_append_left (List.getElem?_eq_some_iff.mp known).1 ▸ known

theorem Accounted.append
    (checked : batch.writer.checkAppend callerObjectId contentSha256 = .ok done)
    (matches_ : mismatch contentSha256 answer = none) : Accounted (batch.attempted callerObjectId
      (batch.writer.append session batch.attempts.length source callerObjectId
        contentSha256 answer)) := by
  obtain ⟨isOpen, unused⟩ := unused_of_checkAppend checked
  unfold BatchWriter.append
  cases exchanged : batch.writer.exchange session batch.attempts.length source
      callerObjectId contentSha256 answer with
  | mk next outcome =>
    have after := exchange_cases exchanged
    cases outcome with
    | ok receipt =>
      rcases after with ⟨_, _, impossible⟩ | ⟨item, name, pending, closed⟩
      · cases impossible
      · exact accounted.appendPending isOpen unused name pending (closed.trans isOpen)
    | error fault =>
      obtain ⟨reason, rfl⟩ := other_of_exchange matches_ exchanged
      apply accounted.appendListed isOpen rfl
      apply attempts_requeueWith unused
      rcases after with ⟨same, _⟩ | ⟨item, name, pending, _⟩
      · exact .inl same
      · exact .inr ⟨item, name, pending⟩

/-! ## Whole sessions -/

theorem Accounted.step
    {next : Batch}
    (permitted : matching batch call = true)
    (taken : batch.step session call = some next) : Accounted next := by
  cases call with
  | append source callerObjectId contentSha256 answer =>
    simp only [Batch.step] at taken
    split at taken
    · cases taken
      exact accounted
    · rename_i checked
      cases taken
      exact accounted.append checked (Option.isNone_iff_eq_none.mp permitted)
  | checkpoint response observer =>
    simp only [Batch.step] at taken
    split_ifs at taken with isOver
    · cases taken
      exact accounted
    · cases taken
      exact accounted.settled (by simpa using isOver) _ response observer
  | close response observer =>
    simp only [Batch.step] at taken
    split_ifs at taken with isOver
    · cases taken
      exact accounted
    · cases taken
      apply (accounted.settled (by simpa using isOver) _ response observer).close
      rw [writer_settled]
      exact outstanding_settle

end

/-- Every session in which all streams match the digests supplied for them conserves
its appends. -/
theorem conserved_of_matching
    (session : WriteSession)
    (calls : List BatchCall)
    (final : Batch)
    (permitted : Transition.Admits (Batch.step session)
      (fun batch call => matching batch call = true) Batch.opened calls)
    (ended : Transition.run (Batch.step session) Batch.opened calls = some final) :
    Conserved final :=
  (Transition.invariant_of_admits (Batch.step session) Accounted
    (fun _ _ _ accounted allowed taken => accounted.step allowed taken)
    accounted_opened permitted ended).conserved

/-- A session without texts. -/
def sampleSession : WriteSession := ⟨"", [], List.replicate 16 0, 1, id⟩

/-- The record of a written object, and the copy that a checkpoint commits for it. -/
def sampleRecord (callerObjectId : String) : ObjectRecord :=
  ⟨List.replicate 16 1, callerObjectId, List.replicate 32 2, 3, "rem-object-v1", [], [],
    some ⟨2, List.replicate 16 0, none, none, 0, none, none, none, none, none, 1, [], none⟩⟩

/-- The copy that a checkpoint commits for an object. -/
def sampleCopy : ObjectCopy := ⟨List.replicate 16 0, 1, 0, none, 1, "pool"⟩

/-- The daemon acknowledges an object. -/
def sampleAnswer (callerObjectId : String) : AppendAnswer :=
  ⟨none, .ok (sampleRecord callerObjectId), none⟩

/-- Two objects are committed in the other order; of the next two the second meets an
error of the daemon, which ends the session. -/
theorem conserved_of_matching_requeued :
    ∃ final, Transition.run (Batch.step sampleSession) Batch.opened
        [.append "/a" "a" none (sampleAnswer "a"), .append "/b" "b" none (sampleAnswer "b"),
         .checkpoint (.ok (.checkpoint [sampleRecord "b", sampleRecord "a"]
           [sampleCopy, sampleCopy])) none,
         .append "/c" "c" none (sampleAnswer "c"),
         .append "/d" "d" none ⟨none, .error "UNAVAILABLE", none⟩,
         .close (.error "unreachable") none] = some final ∧
      final.requeued.map RequeueObject.attempt = [2, 3] ∧
      Conserved final := by
  refine (Option.map_eq_some_iff.mp ?_).imp fun final seen =>
    ⟨seen.1, seen.2, conserved_of_matching sampleSession _ final (by decide) seen.1⟩
  decide

/-- After a digest mismatch neither the object nor the one pending before it is listed
for requeue. -/
theorem not_conservationLaw : ¬ ConservationLaw := by
  intro law
  have run : (Transition.run (Batch.step sampleSession) Batch.opened
      [.append "/a" "a" none (sampleAnswer "a"), .append "/b" "b" (some (List.replicate 32 0))
         ⟨some (List.replicate 32 1), .ok (sampleRecord "b"), none⟩]).map
        (fun final => (final.writer.closed, final.attempts.length,
          final.committed.map CommittedCopy.attempt, final.requeued.map RequeueObject.attempt)) =
      some (true, 2, [], []) := by decide
  obtain ⟨final, ended, seen⟩ := Option.map_eq_some_iff.mp run
  simp only [Prod.mk.injEq] at seen
  obtain ⟨isOver, attempts, committed, requeued⟩ := seen
  have once := (law sampleSession _ final ended).ended isOver 0 (by simp [attempts])
  simp [Batch.returns, Batch.lists, committed, requeued] at once

end Backend
end Sutradhara
