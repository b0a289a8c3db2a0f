import Sutradhara.Receive.Intent

/-!
# One live receive per card

A live intent should own the claim of its card.  `claim_start_intake` and
`store_device_receive_response` give the intent a new heartbeat and leave the
claim with its old one, so a claim can go stale under a live intent and be taken
over.  As long as no stale claim of a live intent is taken over or deleted, and
no response is stored for an intent that has lost its claim, each card has at
most one live intent, and that intent owns the claim of the card.
-/

namespace Sutradhara
namespace Receive

open Foundation List Option Table

section

variable (ttl now : Nat) (record : IdempotencyRecord)

/-- Authorized or started, with a heartbeat inside the time to live. -/
def Live : Prop := record.status.isActive = true ∧ isStale ttl record.lastHeartbeat now = false

instance (ttl now : Nat) (record : IdempotencyRecord) : Decidable (Live ttl now record) :=
  inferInstanceAs (Decidable (_ ∧ _))

/-- The claim of the card of an intent belongs to the intent. -/
def Owned (claims : Table SourceClaim.sourceId) (record : IdempotencyRecord) : Prop :=
  ∃ claim, claims.find? (cardLeaseSourceId record.cardIdentity) = some claim ∧
    claimOwnedByRecord claim record = true

instance (claims : Table SourceClaim.sourceId) (record : IdempotencyRecord) :
    Decidable (Owned claims record) :=
  decidable_of_iff
    ((claims.find? (cardLeaseSourceId record.cardIdentity)).any
      (claimOwnedByRecord · record) = true) (by
    rw [Option.any_eq_true]
    rfl)

/-- At most one intent of a card is live, and it owns the claim of the card. -/
def OneLiveReceive (store : Store) : Prop :=
  ∀ record ∈ store.records.rows, Live ttl now record →
    Owned store.claims record ∧
      ∀ other ∈ store.records.rows, Live ttl now other →
        other.cardIdentity = record.cardIdentity → other = record

/-- An intent names no lease but that of its card. -/
def Leased : Prop :=
  ∀ sourceId, record.leaseSourceId = some sourceId →
    sourceId = cardLeaseSourceId record.cardIdentity

end

/-- What the operations keep. -/
structure Exclusive (ttl now : Nat) (store : Store) : Prop where
  leased : ∀ record ∈ store.records.rows, Leased record
  owned : ∀ record ∈ store.records.rows, Live ttl now record → Owned store.claims record

theorem claimOwnedBy_iff :
    claimOwnedBy claim operatorUsername idempotencyKey = true ↔
      claim.operatorUsername = operatorUsername ∧ claim.idempotencyKey = idempotencyKey := by
  simp [claimOwnedBy]

/-- One claim has one owner. -/
theorem scope_eq_of_owned
    (firstOwns : claimOwnedByRecord claim first = true)
    (secondOwns : claimOwnedByRecord claim second = true) : first.scope = second.scope := by
  obtain ⟨firstOperator, firstKey⟩ := (claimOwnedBy_iff ..).mp firstOwns
  obtain ⟨secondOperator, secondKey⟩ := (claimOwnedBy_iff ..).mp secondOwns
  unfold IdempotencyRecord.scope
  rw [← firstOperator, ← firstKey, secondOperator, secondKey]

theorem Exclusive.oneLiveReceive (exclusive : Exclusive ttl now store) :
    OneLiveReceive ttl now store := by
  intro record member live
  refine ⟨exclusive.owned record member live, ?_⟩
  intro other otherMember otherLive sameCard
  obtain ⟨claim, found, owns⟩ := exclusive.owned record member live
  obtain ⟨otherClaim, otherFound, otherOwns⟩ := exclusive.owned other otherMember otherLive
  rw [sameCard, found] at otherFound
  cases otherFound
  exact store.records.eq_of_key_eq otherMember member (scope_eq_of_owned otherOwns owns)

theorem Live.earlier (order : now ≤ later) (live : Live ttl later record) :
    Live ttl now record := by
  refine ⟨live.1, ?_⟩
  have fresh := live.2
  simp only [isStale, decide_eq_false_iff_not] at fresh ⊢
  omega

/-- Time alone ends lives and takes no claim. -/
theorem Exclusive.later
    {later : Nat}
    (exclusive : Exclusive ttl now store)
    (order : now ≤ later) : Exclusive ttl later store where
  leased := exclusive.leased
  owned record member live := exclusive.owned record member (live.earlier order)

/-! ## Writes that keep exclusiveness -/

/-- Rewriting one intent keeps exclusiveness when the new row is leased and, if
live, owns its claim, and the claims of the other live intents survive. -/
theorem Exclusive.update
    (exclusive : Exclusive ttl now store)
    (changed : ∀ row ∈ store.records.rows, row.scope = scope →
      Leased (change.apply row) ∧ (Live ttl now (change.apply row) →
        Owned claims (change.apply row)))
    (others : ∀ row ∈ store.records.rows, row.scope ≠ scope →
      Live ttl now row → Owned store.claims row → Owned claims row) :
    Exclusive ttl now ⟨store.records.update scope change, claims⟩ := by
  constructor
  · intro row member
    rcases (mem_update ..).mp member with ⟨old, oldMember, carries, rfl⟩ | ⟨oldMember, _⟩
    · exact (changed old oldMember carries).1
    · exact exclusive.leased row oldMember
  · intro row member live
    rcases (mem_update ..).mp member with ⟨old, oldMember, carries, rfl⟩ | ⟨oldMember, different⟩
    · exact (changed old oldMember carries).2 live
    · exact others row oldMember different live (exclusive.owned row oldMember live)

/-- A release takes no claim from another intent. -/
theorem Owned.release (owned : Owned claims record) (different : record.scope ≠ released.scope) :
    Owned (releaseRecordLease claims released) record := by
  obtain ⟨claim, found, owns⟩ := owned
  unfold releaseRecordLease
  split
  · exact ⟨claim, found, owns⟩
  · refine ⟨claim, ?_, owns⟩
    rw [find?_delete, found, filter_some, if_pos]
    simp only [Bool.not_eq_true', Bool.and_eq_false_iff]
    right
    by_contra takes
    rw [Bool.not_eq_false] at takes
    exact different (scope_eq_of_owned owns takes)

/-- Terminalizing an intent and releasing its lease keeps exclusiveness. -/
theorem Exclusive.close
    (exclusive : Exclusive ttl now store)
    (ends : ∀ row, (change.apply row).status.isActive = false)
    (sameLease : ∀ row, Leased row → Leased (change.apply row)) :
    Exclusive ttl now (store.close record change) := by
  refine exclusive.update ?_ ?_
  · intro row member _
    refine ⟨sameLease row (exclusive.leased row member), ?_⟩
    intro live
    exact absurd live.1 (by simp [ends row])
  · intro row _ different _ owned
    exact owned.release different

/-- A stale claim may be taken or deleted: no live intent owns it. -/
def Abandoned (ttl now : Nat) (store : Store) (claim : SourceClaim) : Prop :=
  isStale ttl claim.lastHeartbeat now = true →
    ∀ record ∈ store.records.rows, claimOwnedByRecord claim record = true → ¬Live ttl now record

instance (ttl now : Nat) (store : Store) (claim : SourceClaim) :
    Decidable (Abandoned ttl now store claim) :=
  inferInstanceAs (Decidable (_ → _))

theorem claimSourceInSession_owned (claimed : claimSourceInSession ttl now claims sourceId
      operatorUsername idempotencyKey = some claims') :
    ∃ claim, claims'.find? sourceId = some claim ∧
      claimOwnedBy claim operatorUsername idempotencyKey = true := by
  unfold claimSourceInSession at claimed
  split at claimed
  next absent =>
    cases claimed
    exact ⟨_, find?_insert_self claims _ absent, (claimOwnedBy_iff ..).mpr ⟨rfl, rfl⟩⟩
  next claim found =>
    split at claimed
    next owns =>
      cases claimed
      exact ⟨claim, found, owns⟩
    · split at claimed
      · cases claimed
      · cases claimed
        rw [find?_update_self, found]
        exact ⟨_, rfl, (claimOwnedBy_iff ..).mpr ⟨rfl, rfl⟩⟩

/-- The owner of a claim may claim it again, and nothing changes. -/
theorem claimSourceInSession_of_owned
    (found : claims.find? sourceId = some claim)
    (owns : claimOwnedBy claim operatorUsername idempotencyKey = true) :
    claimSourceInSession ttl now claims sourceId operatorUsername idempotencyKey = some claims := by
  unfold claimSourceInSession
  split
  next absent =>
    rw [found] at absent
    cases absent
  next other otherFound =>
    rw [found] at otherFound
    cases otherFound
    rw [if_pos owns]

/-- Claiming a source takes a claim from another intent only when that claim is
stale. -/
theorem Owned.claimSource
    (owned : Owned claims record)
    (claimed : claimSourceInSession ttl now claims sourceId
      operatorUsername idempotencyKey = some claims')
    (fresh : ∀ claim, claims.find? sourceId = some claim →
      claimOwnedByRecord claim record = true → isStale ttl claim.lastHeartbeat now = false) :
    Owned claims' record := by
  obtain ⟨held, heldFound, owns⟩ := owned
  unfold claimSourceInSession at claimed
  split at claimed
  next absent =>
    cases claimed
    refine ⟨held, ?_, owns⟩
    rw [find?_insert_of_ne, heldFound]
    intro same
    rw [same] at heldFound
    exact absurd (heldFound.symm.trans absent) (by simp)
  next claim found =>
    split at claimed
    · cases claimed
      exact ⟨held, heldFound, owns⟩
    · split at claimed
      · cases claimed
      next stale =>
        cases claimed
        refine ⟨held, ?_, owns⟩
        rw [find?_update_of_ne, heldFound]
        intro same
        rw [same, found] at heldFound
        cases heldFound
        exact stale (by simp [fresh _ found owns])

/-- A rewrite of claims that leaves their owners alone. -/
def SameOwner (change : Rewrite SourceClaim.sourceId) : Prop :=
  ∀ claim, (change.apply claim).operatorUsername = claim.operatorUsername ∧
    (change.apply claim).idempotencyKey = claim.idempotencyKey

theorem sameOwner_linkClaim : SameOwner (linkClaim now idempotencyKey intakeId) := by
  intro claim
  dsimp only [linkClaim]
  split <;> exact ⟨rfl, rfl⟩

theorem sameOwner_relinkClaim : SameOwner (relinkClaim record) := by
  intro claim
  dsimp only [relinkClaim]
  split <;> exact ⟨rfl, rfl⟩

theorem sameOwner_beatClaim : SameOwner (beatClaim now) := fun _ => ⟨rfl, rfl⟩

theorem SameOwner.ownedByRecord
    (sameOwner : SameOwner change)
    (record : IdempotencyRecord) :
    claimOwnedByRecord (change.apply claim) record = claimOwnedByRecord claim record := by
  simp only [claimOwnedByRecord, claimOwnedBy]
  rw [(sameOwner claim).1, (sameOwner claim).2]

/-- Every claim after such a rewrite comes from one with the same owner. -/
theorem SameOwner.exists_before
    {claims : Table SourceClaim.sourceId}
    (sameOwner : SameOwner change)
    (found : (claims.update sourceId change).find? wanted = some claim') :
    ∃ claim, claims.find? wanted = some claim ∧ ∀ record, claimOwnedByRecord claim' record =
        claimOwnedByRecord claim record := by
  by_cases same : wanted = sourceId
  · subst same
    rw [find?_update_self, map_eq_some_iff] at found
    obtain ⟨claim, before, rfl⟩ := found
    exact ⟨claim, before, sameOwner.ownedByRecord⟩
  · rw [find?_update_of_ne _ _ same] at found
    exact ⟨claim', found, fun _ => rfl⟩

theorem Owned.update
    (owned : Owned claims record)
    (sourceId : String)
    (sameOwner : SameOwner change) : Owned (claims.update sourceId change) record := by
  obtain ⟨claim, found, owns⟩ := owned
  by_cases same : cardLeaseSourceId record.cardIdentity = sourceId
  · refine ⟨change.apply claim, ?_, (sameOwner.ownedByRecord record).trans owns⟩
    rw [← same, find?_update_self, found]
    rfl
  · exact ⟨claim, (find?_update_of_ne _ _ same).trans found, owns⟩

section Writes

variable (exclusive : Exclusive ttl now store)
include exclusive

theorem Exclusive.insert
    (inactive : record.status.isActive = false)
    (unleased : record.leaseSourceId = none) :
    Exclusive ttl now ⟨store.records.insert record absent, store.claims⟩ := by
  constructor
  · intro row member
    rcases (mem_insert _ _ absent _).mp member with old | rfl
    · exact exclusive.leased row old
    · intro sourceId named
      rw [unleased] at named
      cases named
  · intro row member live
    rcases (mem_insert _ _ absent _).mp member with old | rfl
    · exact exclusive.owned row old live
    · exact absurd live.1 (by simp [inactive])

/-- An authorization keeps exclusiveness when it takes no claim of a live
intent. -/
theorem authorizeRecordLease_exclusive
    (sameCard : ∀ row ∈ store.records.rows, row.scope = record.scope →
      row.cardIdentity = record.cardIdentity)
    (abandoned : ∀ claim,
      store.claims.find? (cardLeaseSourceId record.cardIdentity) = some claim →
        Abandoned ttl now store claim)
    (authorized : authorizeRecordLease ttl now store record = some store') :
    Exclusive ttl now store' := by
  simp only [authorizeRecordLease, map_eq_some_iff] at authorized
  obtain ⟨claims, claimed, rfl⟩ := authorized
  refine exclusive.update ?_ ?_
  · intro row member carries
    have card := sameCard row member carries
    refine ⟨?_, fun _ => ?_⟩
    · rintro sourceId ⟨⟩
      rw [← card]
    · obtain ⟨claim, found, owns⟩ := claimSourceInSession_owned claimed
      refine ⟨claim, ?_, ?_⟩
      · rw [← found, ← card]
      · obtain ⟨operator, key⟩ := Prod.mk.inj carries
        rw [← operator, ← key] at owns
        exact owns
  · intro row member _ live owned
    refine owned.claimSource claimed ?_
    intro claim found owns
    by_contra stale
    exact abandoned claim found (by simpa using stale) row member owns live

theorem beginNew_exclusive (abandoned : ∀ claim,
      store.claims.find? (cardLeaseSourceId request.cardIdentity) = some claim →
        Abandoned ttl now store claim) :
    Exclusive ttl now (beginNew ttl now store request absent).1 := by
  have inserted : Exclusive ttl now
      ⟨store.records.insert (newRecord now request) absent, store.claims⟩ :=
    exclusive.insert rfl rfl
  unfold beginNew
  split
  · exact exclusive
  · dsimp only
    split
    · refine inserted.update ?_ fun _ _ _ _ => id
      intro row member _
      exact ⟨inserted.leased row member, fun live => absurd live.1 (by simp
        [IntentStatus.isActive])⟩
    · split
      · exact exclusive
      next authorized =>
        refine authorizeRecordLease_exclusive inserted ?_ ?_ authorized
        · intro row member carries
          rcases (mem_insert _ _ absent _).mp member with old | rfl
          · exact absurd carries ((find?_eq_none_iff ..).mp absent row old)
          · rfl
        · intro claim found stale row member owns live
          rcases (mem_insert _ _ absent _).mp member with old | rfl
          · exact abandoned claim found stale row old owns live
          · cases live.1

theorem beginAgain_exclusive
    (member : record ∈ store.records.rows)
    (abandoned : ∀ claim,
      store.claims.find? (cardLeaseSourceId request.cardIdentity) = some claim →
        Abandoned ttl now store claim) :
    Exclusive ttl now (beginAgain ttl now store request record).1 := by
  unfold beginAgain
  split
  · exact exclusive
  · split
    · exact exclusive
    next sameTarget =>
      have sameCard : record.cardIdentity = request.cardIdentity := by
        by_contra different
        exact sameTarget (Or.inr different)
      split
      case h_4 | h_5 =>
        split
        · exact exclusive.close (fun _ => rfl) fun _ leased => leased
        · exact exclusive
      case h_6 =>
        split
        · exact exclusive
        · split
          · exact exclusive
          next authorized =>
            have kept := authorizeRecordLease_exclusive exclusive ?_ ?_ authorized
            · exact kept.update (fun row member _ => ⟨kept.leased row member,
                kept.owned row member⟩) fun _ _ _ _ => id
            · intro row rowMember carries
              rw [store.records.eq_of_key_eq rowMember member carries]
            · rw [sameCard]
              exact abandoned
      all_goals exact exclusive

variable {scope : Scope}

theorem Exclusive.lease_eq (member : record ∈ store.records.rows) :
    record.leaseSourceId.getD (cardLeaseSourceId record.cardIdentity) =
      cardLeaseSourceId record.cardIdentity := by
  cases named : record.leaseSourceId with
  | none => rfl
  | some sourceId => exact exclusive.leased record member sourceId named

variable {intakeId : String}

/-- A live authorized intent owns its claim already, so a start takes no claim
over. -/
theorem startAuthorized_exclusive
    (member : record ∈ store.records.rows)
    (live : Live ttl now record) :
    Exclusive ttl now (startAuthorized ttl now store record intakeId).1 := by
  have lease := exclusive.lease_eq member
  obtain ⟨claim, found, owns⟩ := exclusive.owned record member live
  unfold startAuthorized
  simp only [lease, claimSourceInSession_of_owned found owns]
  refine exclusive.update ?_ ?_
  · intro row rowMember carries
    rw [store.records.eq_of_key_eq rowMember member carries]
    refine ⟨?_, fun _ => ?_⟩
    · rintro sourceId ⟨⟩
      rfl
    · exact Owned.update ⟨claim, found, owns⟩ _ sameOwner_linkClaim
  · intro row _ _ _ rowOwned
    exact rowOwned.update _ sameOwner_linkClaim

variable {deviceId : String}

theorem claimStartIntake_exclusive :
    Exclusive ttl now (claimStartIntake ttl now store scope deviceId intakeId).1 := by
  unfold claimStartIntake
  split
  · exact exclusive
  next record found =>
    have member := ((find?_eq_some_iff ..).mp found).1
    split
    · exact exclusive
    · split
      · exact exclusive.close (fun _ => rfl) fun _ leased => leased
      next fresh =>
        split
        · exact exclusive
        next authorized =>
          have active : record.status.isActive = true := by
            rw [authorized]
            rfl
          refine startAuthorized_exclusive exclusive member ⟨active, ?_⟩
          by_contra stale
          exact fresh ⟨active, by simpa using stale⟩
        · exact exclusive

theorem storeDeviceReceiveResponse_exclusive
    (owned : ∀ record, store.records.find? scope = some record →
      record.status = .started → Owned store.claims record) :
    Exclusive ttl now (storeDeviceReceiveResponse now store scope deviceId intakeId
        responseJson).1 := by
  unfold storeDeviceReceiveResponse
  split
  · exact exclusive
  next record found =>
    split
    · exact exclusive
    next accepted =>
      refine exclusive.update ?_ fun _ _ _ _ => id
      intro row member carries
      refine ⟨exclusive.leased row member, fun live => ?_⟩
      have same := (find?_eq_some_iff ..).mpr ⟨member, carries⟩
      rw [found] at same
      cases same
      refine owned record found ?_
      rcases not_not.mp (not_or.mp (not_or.mp accepted).2).2 with started | committed
      · exact started
      · have active := live.1
        rw [committed] at active
        cases active

theorem transitionDeviceIntentTerminal_exclusive :
    Exclusive ttl now (transitionDeviceIntentTerminal now store intakeId terminalState).1 := by
  unfold transitionDeviceIntentTerminal
  split
  · exact exclusive
  · split
    · exact exclusive
    · split
      · refine exclusive.close ?_ fun _ leased => leased
        intro row
        cases terminalState <;> rfl
      · exact exclusive
  · exact exclusive

theorem failDeviceReceiveIntent_exclusive :
    Exclusive ttl now (failDeviceReceiveIntent now store scope deviceId).1 := by
  unfold failDeviceReceiveIntent
  split
  · exact exclusive
  · split
    · exact exclusive
    · exact exclusive.close (fun _ => rfl) fun _ leased => leased

theorem failIfUnstarted_exclusive :
    Exclusive ttl now (failDeviceReceiveIntentIfUnstarted now store scope deviceId
        liveIntake).1 := by
  unfold failDeviceReceiveIntentIfUnstarted
  split
  · exact exclusive
  · split
    · exact exclusive
    · split
      · exact exclusive
      · split
        · exact exclusive
        · exact exclusive.close (fun _ => rfl) fun _ leased => leased

/-- A renewal refreshes the claim together with the intent that owns it. -/
theorem renewDeviceIntakeLease_exclusive :
    Exclusive ttl now (renewDeviceIntakeLease now store intakeId floor).1 := by
  unfold renewDeviceIntakeLease
  split
  · exact exclusive
  next record filtered =>
    have member : record ∈ store.records.rows :=
      (mem_filter.mp (filtered ▸ mem_singleton_self record)).1
    split
    · exact exclusive
    next leaseSourceId named =>
      split
      · exact exclusive
      next claim found =>
        split
        · exact exclusive
        next owns =>
          split
          · exact exclusive
          · have lease := exclusive.leased record member _ named
            have held : claimOwnedByRecord claim record = true := by simpa using owns
            refine exclusive.update ?_ ?_
            · intro row rowMember carries
              refine ⟨exclusive.leased row rowMember, fun _ => ?_⟩
              rw [store.records.eq_of_key_eq rowMember member carries]
              exact Owned.update ⟨claim, lease ▸ found, held⟩ _ sameOwner_beatClaim
            · intro row _ _ _ rowOwned
              exact rowOwned.update _ sameOwner_beatClaim
  · exact exclusive

end Writes

/-! ## Reconciliation -/

/-- What holds before each round of a reconciliation: the pending deletions
concern no live intent, and the rows still to come are unchanged. -/
structure Reconciling (ttl now : Nat) (pass : Reconciliation)
    (remaining : List IdempotencyRecord) : Prop where
  exclusive : Exclusive ttl now pass.store
  pending : ∀ sourceId ∈ pass.deleted, ∀ claim,
    pass.store.claims.find? sourceId = some claim →
      ∀ record ∈ pass.store.records.rows,
        claimOwnedByRecord claim record = true → ¬Live ttl now record
  present : ∀ record ∈ remaining, record ∈ pass.store.records.rows
  distinct : (remaining.map IdempotencyRecord.scope).Nodup

variable {pass : Reconciliation}

theorem Reconciling.flush (reconciling : Reconciling ttl now pass remaining) :
    Reconciling ttl now pass.flush remaining where
  exclusive :=
    { leased := reconciling.exclusive.leased
      owned := by
        intro record member live
        obtain ⟨claim, found, owns⟩ := reconciling.exclusive.owned record member live
        refine ⟨claim, ?_, owns⟩
        simp only [Reconciliation.flush]
        rw [find?_delete, found, filter_some, if_pos]
        simp only [Bool.not_eq_true', contains_eq_mem, decide_eq_false_iff_not]
        intro doomed
        obtain ⟨_, carries⟩ := (find?_eq_some_iff ..).mp found
        exact reconciling.pending claim.sourceId doomed claim
          (by rw [carries, found]) record member owns live }
  pending := by
    intro sourceId doomed
    cases doomed
  present := reconciling.present
  distinct := reconciling.distinct

/-- The rows still to come are not the row of this round. -/
theorem Reconciling.others (reconciling : Reconciling ttl now pass (record :: remaining)) :
    ∀ row ∈ remaining, row ∈ pass.store.records.rows ∧ row.scope ≠ record.scope := by
  intro row member
  refine ⟨reconciling.present row (mem_cons_of_mem _ member), ?_⟩
  intro same
  have distinct := reconciling.distinct
  rw [map_cons, nodup_cons] at distinct
  exact distinct.1 (same ▸ mem_map_of_mem member)

theorem mem_leaseToDelete (doomed : sourceId ∈ leaseToDelete claims record) :
    ∃ claim, claims.find? sourceId = some claim ∧ claimOwnedByRecord claim record = true := by
  simp only [leaseToDelete, mem_filterMap, mem_toList, bind_eq_some_iff] at doomed
  obtain ⟨claim, ⟨named, _, found⟩, marked⟩ := doomed
  obtain ⟨_, carries⟩ := (find?_eq_some_iff ..).mp found
  split at marked
  next owns =>
    cases marked
    exact ⟨claim, by rw [carries, found], owns⟩
  · cases marked

/-- A stale row is failed, and its claim is marked for deletion. -/
theorem Reconciling.expire
    (reconciling : Reconciling ttl now pass (record :: remaining))
    (stale : isStale ttl record.lastHeartbeat now = true) :
    Reconciling ttl now (reconcileRecord ttl now pass record) remaining := by
  unfold reconcileRecord
  rw [if_pos stale]
  refine ⟨?_, ?_, ?_, (nodup_cons.mp reconciling.distinct).2⟩
  · refine reconciling.exclusive.update ?_ fun _ _ _ _ => id
    intro row member _
    exact ⟨reconciling.exclusive.leased row member, fun live => by cases live.1⟩
  · intro sourceId doomed claim found row member owns live
    simp only [mem_update] at member
    rcases member with ⟨_, _, _, rfl⟩ | ⟨old, different⟩
    · cases live.1
    · rcases mem_append.mp doomed with marked | before
      · obtain ⟨held, heldFound, heldOwns⟩ := mem_leaseToDelete marked
        rw [found] at heldFound
        cases heldFound
        exact different (scope_eq_of_owned owns heldOwns)
      · exact reconciling.pending sourceId before claim found row old owns live
  · intro row rowMember
    simp only [mem_update]
    exact Or.inr (reconciling.others row rowMember)

/-- A live row owns its claim already, so its round takes no claim over. -/
theorem Reconciling.rebuild
    (reconciling : Reconciling ttl now pass (record :: remaining))
    (live : Live ttl now record) :
    Reconciling ttl now (reconcileRecord ttl now pass record) remaining := by
  have member := reconciling.present record mem_cons_self
  have lease := reconciling.exclusive.lease_eq member
  obtain ⟨claim, found, owns⟩ := reconciling.exclusive.owned record member live
  unfold reconcileRecord
  simp only [live.2, Bool.false_eq_true, if_false, lease, claimSourceInSession_of_owned found owns]
  refine ⟨?_, ?_, ?_, (nodup_cons.mp reconciling.distinct).2⟩
  · refine reconciling.exclusive.update ?_ ?_
    · intro row rowMember carries
      rw [pass.store.records.eq_of_key_eq rowMember member carries]
      refine ⟨?_, fun _ => ?_⟩
      · rintro sourceId ⟨⟩
        rfl
      · exact Owned.update ⟨claim, found, owns⟩ _ sameOwner_relinkClaim
    · intro row _ _ _ rowOwned
      exact rowOwned.update _ sameOwner_relinkClaim
  · intro sourceId doomed held heldFound row rowMember heldOwns rowLive
    obtain ⟨before, beforeFound, sameOwners⟩ :=
      sameOwner_relinkClaim.exists_before heldFound
    have beforeOwns := (sameOwners row).symm.trans heldOwns
    simp only [mem_update] at rowMember
    rcases rowMember with ⟨old, oldMember, _, rfl⟩ | ⟨old, _⟩
    · exact reconciling.pending sourceId doomed before beforeFound old oldMember beforeOwns rowLive
    · exact reconciling.pending sourceId doomed before beforeFound row old beforeOwns rowLive
  · intro row rowMember
    simp only [mem_update]
    exact Or.inr (reconciling.others row rowMember)

theorem Reconciling.foldl
    (flushedBefore : List Scope)
    (active : ∀ record ∈ remaining, record.status.isActive = true)
    (reconciling : Reconciling ttl now pass remaining) :
    Reconciling ttl now (remaining.foldl (fun pass record =>
        reconcileRecord ttl now (if record.scope ∈ flushedBefore then pass.flush else pass) record)
        pass) [] := by
  induction remaining generalizing pass with
  | nil => exact reconciling
  | cons record rest ih =>
    apply ih fun row member => active row (mem_cons_of_mem _ member)
    have flushed : Reconciling ttl now
        (if record.scope ∈ flushedBefore then pass.flush else pass)
        (record :: rest) := by
      split
      · exact reconciling.flush
      · exact reconciling
    cases stale : isStale ttl record.lastHeartbeat now with
    | true => exact flushed.expire stale
    | false => exact flushed.rebuild ⟨active record mem_cons_self, stale⟩

/-- A reconciliation keeps exclusiveness, whenever its deletions are flushed. -/
theorem reconcileDeviceReceiveLeases_exclusive (exclusive : Exclusive ttl now store) :
    Exclusive ttl now (reconcileDeviceReceiveLeases ttl now store flushedBefore).store := by
  have started : Reconciling ttl now ⟨store, [], 0, 0⟩
      (store.records.rows.filter fun record => record.status.isActive) :=
    { exclusive := exclusive
      pending := nofun
      present := fun record member => (mem_filter.mp member).1
      distinct := store.records.unique.sublist (filter_sublist.map _) }
  exact (Reconciling.foldl flushedBefore
    (fun record member => (mem_filter.mp member).2) started).flush.exclusive

/-! ## Runs -/

/-- No step takes over or deletes a stale claim whose intent is still live, and
no response is stored for a started intent that has lost its claim. -/
def Careful (ttl : Nat) (system : System) : Nat × Operation → Prop
  | (now, .begin request) =>
    ∀ claim ∈ system.store.claims.find?
        (cardLeaseSourceId request.cardIdentity),
      Abandoned ttl now system.store claim
  | (now, .sourceBusyIds _) =>
    ∀ claim ∈ system.store.claims.rows, Abandoned ttl now system.store claim
  | (_, .storeResponse scope _ _ _) =>
    ∀ record ∈ system.store.records.find? scope,
      record.status = .started → Owned system.store.claims record
  | _ => True

instance (ttl : Nat) (system : System) :
    ∀ timed, Decidable (Careful ttl system timed)
  | (now, .begin request) => inferInstanceAs (Decidable
      (∀ claim ∈ system.store.claims.find? (cardLeaseSourceId request.cardIdentity),
        Abandoned ttl now system.store claim))
  | (now, .sourceBusyIds _) => inferInstanceAs (Decidable
      (∀ claim ∈ system.store.claims.rows, Abandoned ttl now system.store claim))
  | (_, .storeResponse scope _ _ _) => inferInstanceAs (Decidable
      (∀ record ∈ system.store.records.find? scope,
        record.status = .started → Owned system.store.claims record))
  | (_, .terminalizeStale ..) | (_, .startIntake ..)
  | (_, .transitionTerminal ..) | (_, .fail ..) | (_, .failIfUnstarted ..)
  | (_, .renew ..) | (_, .reconcile ..) => inferInstanceAs (Decidable True)

theorem sourceBusyIds_exclusive
    (exclusive : Exclusive ttl now store)
    (abandoned : ∀ claim ∈ store.claims.rows, Abandoned ttl now store claim) :
    Exclusive ttl now (sourceBusyIds ttl now store sourceIds).1 where
  leased := exclusive.leased
  owned record member live := by
    obtain ⟨claim, found, owns⟩ := exclusive.owned record member live
    refine ⟨claim, ?_, owns⟩
    simp only [sourceBusyIds]
    rw [find?_delete, found, filter_some]
    by_contra stale
    exact abandoned claim ((find?_eq_some_iff ..).mp found).1
      (by simpa using stale) record member owns live

/-- Every careful operation keeps exclusiveness. -/
theorem apply_exclusive
    (exclusive : Exclusive ttl now store)
    (careful : Careful ttl ⟨store, clock⟩ (now, operation)) :
    Exclusive ttl now (operation.apply ttl now store) := by
  cases operation with
  | begin request =>
    simp only [Operation.apply, beginDeviceReceiveIntent]
    split
    · exact beginNew_exclusive exclusive careful
    next found => exact beginAgain_exclusive exclusive ((find?_eq_some_iff ..).mp found).1 careful
  | terminalizeStale scope requestHash =>
    simp only [Operation.apply, terminalizeStaleDeviceReceiveIntent]
    split
    · exact exclusive
    · split
      · exact exclusive
      · exact exclusive.close (fun _ => rfl) fun _ leased => leased
  | startIntake scope deviceId intakeId => exact claimStartIntake_exclusive exclusive
  | storeResponse scope deviceId intakeId responseJson =>
    exact storeDeviceReceiveResponse_exclusive exclusive careful
  | transitionTerminal intakeId terminalState =>
    exact transitionDeviceIntentTerminal_exclusive exclusive
  | fail scope deviceId => exact failDeviceReceiveIntent_exclusive exclusive
  | failIfUnstarted scope deviceId liveIntake =>
    exact failIfUnstarted_exclusive exclusive
  | renew intakeId floor => exact renewDeviceIntakeLease_exclusive exclusive
  | reconcile flushedBefore =>
    exact reconcileDeviceReceiveLeases_exclusive exclusive
  | sourceBusyIds sourceIds => exact sourceBusyIds_exclusive exclusive careful

theorem step_exclusive
    (system : System)
    (timed : Nat × Operation)
    (next : System)
    (exclusive : Exclusive ttl system.clock system.store)
    (careful : Careful ttl system timed)
    (taken : step ttl system timed = some next) : Exclusive ttl next.clock next.store := by
  unfold step at taken
  split at taken
  · cases taken
  next order =>
    cases taken
    exact apply_exclusive (exclusive.later (Nat.le_of_not_lt order)) careful

/-- At every moment of every run each card has at most one live intent, which
owns the claim of the card. -/
def OneLiveReceiveLaw (ttl : Nat) : Prop :=
  ∀ operations final moment,
    Transition.run (step ttl) emptySystem operations = some final →
      final.clock ≤ moment → OneLiveReceive ttl moment final.store

/-- The default time to live, in seconds. -/
def defaultTtl : Nat := 30 * 60

/-- A request of one operator for the card with the identity `A`. -/
def cardRequest (operatorUsername : String) : BeginRequest :=
  ⟨operatorUsername, "reader", "A", operatorUsername ++ "-key", "hash", false, none⟩

/-- One operator starts the intake at the end of the time to live of the claim,
and another operator begins a second later. -/
def lateStart : List (Nat × Operation) :=
  [(0, .begin (cardRequest "asha")),
    (1800, .startIntake ("asha", "asha-key") "reader" "intake-1"),
    (1801, .begin (cardRequest "bela"))]

/-- The second operator is authorized for the card although the intent of the
first has a heartbeat of one second ago. -/
theorem not_oneLiveReceiveLaw : ¬ OneLiveReceiveLaw defaultTtl := by
  intro law
  have violated : (Transition.run (step defaultTtl) emptySystem lateStart).map
        (fun final => (final.clock, final.store.records.rows.map fun record =>
          (record.cardIdentity, decide (Live defaultTtl 1801 record)))) =
        some (1801, [("A", true), ("A", true)]) := by
    decide +kernel
  obtain ⟨final, reached, seen⟩ := map_eq_some_iff.mp violated
  obtain ⟨clock, rows⟩ := Prod.mk.inj seen
  have one := law lateStart final 1801 reached (Nat.le_of_eq clock)
  match listed : final.store.records.rows with
  | [first, second] =>
    rw [listed] at rows
    simp only [map_cons, map_nil, List.cons.injEq, Prod.mk.injEq,
      decide_eq_true_eq, and_true] at rows
    obtain ⟨⟨firstCard, firstLive⟩, secondCard, secondLive⟩ := rows
    have distinct := final.store.records.unique
    rw [listed] at distinct
    have same := (one first (by simp [listed]) firstLive).2 second
      (by simp [listed]) secondLive (secondCard.trans firstCard.symm)
    simp [same] at distinct
  | [] | [_] | _ :: _ :: _ :: _ =>
    rw [listed] at rows
    simp at rows

/-- In every run of careful operations each card has at most one live intent at
any moment, and that intent owns the claim of the card. -/
theorem oneLiveReceive_of_careful
    {ttl : Nat}
    {operations : List (Nat × Operation)}
    {final : System}
    (reached : Transition.run (step ttl) emptySystem operations = some final)
    (careful : Transition.Admits (step ttl) (Careful ttl) emptySystem operations)
    {moment : Nat}
    (later : final.clock ≤ moment) : OneLiveReceive ttl moment final.store := by
  have initially : Exclusive ttl emptySystem.clock emptySystem.store := by
    constructor <;> intro record member <;> simp [emptySystem] at member
  have exclusive := Transition.invariant_of_admits (step ttl)
    (fun system => Exclusive ttl system.clock system.store)
    step_exclusive initially careful reached
  exact (exclusive.later later).oneLiveReceive

/-- One operator starts, renews and stores a response while another is turned
away. -/
def renewedStart : List (Nat × Operation) :=
  [(0, .begin (cardRequest "asha")), (60, .startIntake ("asha", "asha-key") "reader" "intake-1"),
    (70, .renew "intake-1" 5),
    (80, .storeResponse ("asha", "asha-key") "reader" "intake-1" "received"),
    (1801, .begin (cardRequest "bela")), (1802, .reconcile []),
    (1803, .sourceBusyIds ["card-identity:A"])]

theorem oneLiveReceive_of_careful_renewed : ∃ final,
      Transition.run (step defaultTtl) emptySystem renewedStart = some final ∧
      (∃ record ∈ final.store.records.rows, Live defaultTtl 1803 record) ∧
      OneLiveReceive defaultTtl 1803 final.store := by
  have live : (Transition.run (step defaultTtl) emptySystem renewedStart).map
        (fun final => (final.clock, final.store.records.rows.map fun record =>
          decide (Live defaultTtl 1803 record))) = some (1803, [true]) := by
    decide +kernel
  obtain ⟨final, reached, seen⟩ := map_eq_some_iff.mp live
  obtain ⟨clock, rows⟩ := Prod.mk.inj seen
  refine ⟨final, reached, ?_, oneLiveReceive_of_careful reached
    (by decide +kernel) (Nat.le_of_eq clock)⟩
  have member : true ∈ final.store.records.rows.map fun record =>
      decide (Live defaultTtl 1803 record) := by
    simp [rows]
  obtain ⟨record, present, alive⟩ := mem_map.mp member
  exact ⟨record, present, of_decide_eq_true alive⟩

end Receive
end Sutradhara
