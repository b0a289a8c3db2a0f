import Sutradhara.Evidence.Writers
import Sutradhara.Foundation.Raising

/-!
# Evidence behind a healthy copy

A copy that is OK and whose measured digest equals its integrity hash is backed
by its most recent receipt: a measured receipt with the expected digest, reported
as successful by the backend and without a failure kind, and nothing has lowered
the health of the copy since.  Every writer keeps this, whatever executions are
replayed.
-/

namespace Sutradhara
namespace Evidence

open Foundation Foundation.Raising List

/-- The last entry about a copy is a receipt that confirms its integrity hash.  No
later entry about the copy exists, neither a receipt nor a lowered health. -/
def Backed (history : List HistoryEntry) (copy : Copy) : Prop :=
  ∃ earlier receipt later,
    history = earlier ++ .receipt receipt :: later ∧
      receipt.copyId = copy.id ∧
      receipt.expectedDigest = copy.integrityHash ∧
      receipt.measuredDigest = some receipt.expectedDigest ∧
      receipt.backendOk = true ∧
      receipt.failureKind = none ∧
      ∀ entry ∈ later, entry.copyId ≠ copy.id

/-- The projection of a copy claims a confirmed measurement. -/
def ClaimsMeasured (copy : Copy) : Prop :=
  copy.health = .ok ∧ copy.lastMeasuredDigest = some copy.integrityHash

instance (copy : Copy) : Decidable (ClaimsMeasured copy) :=
  inferInstanceAs (Decidable (_ ∧ _))

/-- Every claim of a confirmed measurement is backed. -/
def Evidenced (catalog : Catalog) : Prop :=
  ∀ copy ∈ catalog.copies.rows, ClaimsMeasured copy → Backed catalog.history copy

/-- Entries about other copies take nothing from a backed copy. -/
theorem Backed.append
    (backed : Backed history copy)
    (others : ∀ entry ∈ added, entry.copyId ≠ copy.id) : Backed (history ++ added) copy := by
  obtain ⟨earlier, receipt, later, split, about, expected, measured, ok, kind, quiet⟩ := backed
  refine ⟨earlier, receipt, later ++ added, ?_, about, expected, measured, ok, kind, ?_⟩
  · rw [split, append_assoc, cons_append]
  · intro entry member
    rcases mem_append.mp member with before | after
    · exact quiet entry before
    · exact others entry after

/-- Only the id and the integrity hash of a copy matter. -/
theorem Backed.congr
    (backed : Backed history copy)
    (sameId : copy'.id = copy.id)
    (sameHash : copy'.integrityHash = copy.integrityHash) : Backed history copy' := by
  unfold Backed
  rw [sameId, sameHash]
  exact backed

section

variable (evidenced : Evidenced catalog)
include evidenced

/-- A write to one copy, with new entries about that copy, keeps all evidence
when the written row is backed as far as it claims to be. -/
theorem Evidenced.write
    (about : ∀ entry ∈ added, entry.copyId = copyId)
    (written : ∀ copy ∈ catalog.copies.rows, copy.id = copyId →
      ClaimsMeasured (change.apply copy) → Backed (catalog.history ++ added) (change.apply copy))
    (jobs : List String) : Evidenced { catalog with
      copies := catalog.copies.update copyId change
      jobs := jobs
      history := catalog.history ++ added } := by
  intro copy member claims
  rcases (Table.mem_update ..).mp member with
    ⟨old, oldMember, carries, rfl⟩ | ⟨oldMember, different⟩
  · exact written old oldMember carries claims
  · refine (evidenced copy oldMember claims).append ?_
    intro entry entryMember
    rw [about entry entryMember]
    exact Ne.symm different

/-- A write without an entry may not make a copy claim anything new. -/
theorem Evidenced.rewrite
    (same : ∀ copy, (change.apply copy).integrityHash = copy.integrityHash)
    (claims : ∀ copy, ClaimsMeasured (change.apply copy) → ClaimsMeasured copy) :
    Evidenced { catalog with copies := catalog.copies.update copyId change } := by
  intro copy member claimed
  rcases (Table.mem_update ..).mp member with ⟨old, oldMember, _, rfl⟩ | ⟨oldMember, _⟩
  · exact (evidenced old oldMember (claims old claimed)).congr (change.keeps old) (same old)
  · exact evidenced copy oldMember claimed

theorem Evidenced.lower (copyId : Nat) (below : health ≠ .ok) :
    Evidenced (catalog.lower copyId health) := by
  refine evidenced.write ?_ ?_ catalog.jobs
  · intro entry member
    rw [mem_singleton.mp member]
    rfl
  · intro copy _ _ claims
    exact absurd claims.1 below

theorem Evidenced.suspect (copyId : Nat) : Evidenced (catalog.lower copyId .suspect) :=
  evidenced.lower copyId nofun

theorem Evidenced.touch (copyId now : Nat) : Evidenced (catalog.touch copyId now) :=
  evidenced.rewrite (fun _ => rfl) fun _ claims => claims

end

/-- A healthy outcome is a matching measurement that the backend confirms. -/
theorem measuredHealth_eq_ok (healthy : (measuredHealth copy measured ok).1 = .ok) :
    measured = copy.integrityHash ∧ ok = true ∧ (measuredHealth copy measured ok).2 = none := by
  unfold measuredHealth at healthy ⊢
  by_cases differs : measured ≠ copy.integrityHash
  · rw [if_pos differs] at healthy
    cases healthy
  · rw [if_neg differs] at healthy ⊢
    cases ok with
    | false => cases healthy
    | true =>
      simp only [Bool.not_true, Bool.false_eq_true, if_false] at healthy ⊢
      split at healthy
      · cases healthy
      next proven =>
        rw [if_neg proven]
        exact ⟨not_not.mp differs, trivial, rfl⟩

/-- A measurement backs what it claims, and a replay changes nothing. -/
theorem recordMeasured_evidenced
    (evidenced : Evidenced catalog)
    (member : copy ∈ catalog.copies.rows)
    (recorded : recordMeasured catalog copy result execution = .ok (catalog', receipt)) :
    Evidenced catalog' := by
  unfold recordMeasured at recorded
  split at recorded
  · cases recorded
  · split at recorded
    · cases recorded
    · split at recorded
      next measured _ _ =>
        split at recorded
        · cases recorded
        · split at recorded
          · cases recorded
            exact evidenced
          · cases recorded
            refine evidenced.write ?_ ?_ catalog.jobs
            · intro entry entryMember
              rw [mem_singleton.mp entryMember]
              rfl
            · intro row rowMember carries claims
              rw [catalog.copies.eq_of_key_eq rowMember member carries]
              obtain ⟨matching, ok, kind⟩ := measuredHealth_eq_ok claims.1
              exact ⟨catalog.history, _, [], rfl, rfl, rfl,
                congrArg some matching, ok, kind, forall_mem_nil _⟩
      · cases recorded

/-- A promotion without a measurement claims none. -/
theorem recordUnmeasuredPromotion_evidenced
    (evidenced : Evidenced catalog)
    (recorded : recordUnmeasuredPromotion catalog copy result execution =
      .ok (catalog', receipt)) :
    Evidenced catalog' := by
  unfold recordUnmeasuredPromotion at recorded
  split at recorded
  · cases recorded
  · split at recorded
    · cases recorded
    · split at recorded
      · cases recorded
      · split at recorded
        · split at recorded
          · cases recorded
            exact evidenced
          · cases recorded
        · cases recorded
          refine evidenced.write ?_ ?_ _
          · intro entry entryMember
            rw [mem_singleton.mp entryMember]
            rfl
          · intro row _ _ claims
            cases claims.2

/-! ## Writers -/

theorem insertCopy_evidenced (evidenced : Evidenced catalog) :
    Evidenced (catalog.insertCopy new).1 := by
  intro copy member claims
  rcases (Table.mem_insert _ _ (find?_nextId catalog.copies) _).mp member with old | rfl
  · exact evidenced copy old claims
  · cases claims.2

theorem mem_insertCopy (catalog : Catalog) :
    (catalog.insertCopy new).2 ∈ (catalog.insertCopy new).1.copies.rows :=
  (Table.mem_insert _ _ (find?_nextId catalog.copies) _).mpr (Or.inr rfl)

variable {catalog : Catalog}

theorem mem_of_copyAt (found : catalog.copyAt backendId nativeLocatorKey = some copy) :
    copy ∈ catalog.copies.rows :=
  mem_of_find?_eq_some found

section

variable (evidenced : Evidenced catalog)
include evidenced

/-- A registered copy claims no measurement, and the returned row is in the
table. -/
theorem addCopy_evidenced
    {added : Catalog}
    {new : NewCopy}
    {hash : Digest}
    (registered : addCopy catalog new hash = .ok (added, copy, created)) :
    Evidenced added ∧ copy ∈ added.copies.rows := by
  unfold addCopy at registered
  split at registered
  · cases registered
  · split at registered
    next found =>
      split at registered
      · cases registered
      · cases registered
        exact ⟨evidenced, mem_of_copyAt found⟩
    · cases registered
      exact ⟨insertCopy_evidenced evidenced, mem_insertCopy catalog⟩

@[inherit_doc addCopy_evidenced]
theorem addBundleCopy_evidenced
    {added : Catalog}
    (registered : addBundleCopy catalog new bundleId = .ok (added, copy, created)) :
    Evidenced added ∧ copy ∈ added.copies.rows := by
  unfold addBundleCopy at registered
  split at registered
  · cases registered
  · split at registered
    next found =>
      split at registered
      · cases registered
      · split at registered
        · cases registered
        · cases registered
          exact ⟨evidenced, mem_of_copyAt found⟩
    · cases registered
      exact ⟨insertCopy_evidenced evidenced, mem_insertCopy catalog⟩

theorem map_recordMeasured_evidenced
    (member : copy ∈ catalog.copies.rows)
    (recorded : (recordMeasured catalog copy result execution).map Prod.fst = .ok catalog') :
    Evidenced catalog' := by
  obtain ⟨⟨_, receipt⟩, measured, rfl⟩ := exists_of_map_eq_ok recorded
  exact recordMeasured_evidenced evidenced member measured

theorem map_recordUnmeasuredPromotion_evidenced
    (recorded : (recordUnmeasuredPromotion catalog copy result execution).map
      Prod.fst = .ok catalog') :
    Evidenced catalog' := by
  obtain ⟨⟨_, receipt⟩, promoted, rfl⟩ := exists_of_map_eq_ok recorded
  exact recordUnmeasuredPromotion_evidenced evidenced promoted

theorem handleVerify_evidenced
    (handled : handleVerify catalog copyId result execution = .ok catalog') :
    Evidenced catalog' := by
  unfold handleVerify at handled
  split at handled
  · cases handled
  next copy found =>
    split at handled
    · cases handled
    · split at handled
      · exact map_recordMeasured_evidenced evidenced
          ((Table.find?_eq_some_iff ..).mp found).1 handled
      · split at handled
        · exact map_recordUnmeasuredPromotion_evidenced evidenced handled
        · cases handled
          exact (evidenced.touch _ _).suspect _

theorem writeBundleCopyForPool_evidenced
    (written : writeBundleCopyForPool catalog new bundleId poolId verifyResult
      execution = .ok catalog') :
    Evidenced catalog' := by
  unfold writeBundleCopyForPool at written
  split at written
  · cases written
  next registered =>
    obtain ⟨kept, member⟩ := addBundleCopy_evidenced evidenced registered
    split at written
    · cases written
      exact kept.suspect _
    · dsimp only at written
      split at written
      · exact map_recordMeasured_evidenced kept member written
      · split at written
        · exact map_recordUnmeasuredPromotion_evidenced kept written
        · cases written
          exact kept.suspect _

theorem restoreCopy_evidenced
    (restored : restoreCopy catalog copyId storedDigest execution = .ok catalog') :
    Evidenced catalog' := by
  unfold restoreCopy at restored
  split at restored
  · cases restored
  next copy found =>
    exact map_recordMeasured_evidenced evidenced ((Table.find?_eq_some_iff ..).mp found).1 restored

/-! ## Scrub passes -/

theorem refreshHealth_evidenced
    (refreshed : refreshHealth catalog run existing record = .ok catalog') :
    Evidenced catalog' := by
  unfold refreshHealth at refreshed
  dsimp only at refreshed
  split at refreshed
  · cases refreshed
    exact evidenced.suspect _
  · split at refreshed
    · exact map_recordUnmeasuredPromotion_evidenced evidenced refreshed
    next notRediscovered =>
      split at refreshed
      next missing =>
        cases refreshed
        refine evidenced.lower _ ?_
        intro healthy
        exact notRediscovered ⟨missing, healthy⟩
      · split at refreshed
        · cases refreshed
          exact evidenced.suspect _
        · split at refreshed
          · exact map_recordUnmeasuredPromotion_evidenced evidenced refreshed
          · cases refreshed
            exact evidenced

end

variable {pass : ScrubPass}

section

variable (evidenced : Evidenced pass.catalog)
include evidenced

theorem updateExistingCopy_evidenced
    (updated : updateExistingCopy pass run existing record pool = .ok pass') :
    Evidenced pass'.catalog := by
  unfold updateExistingCopy at updated
  split at updated
  · cases updated
  · split at updated
    · cases updated
    next refreshed =>
      cases updated
      exact refreshHealth_evidenced (evidenced.touch _ _) refreshed

theorem ingestNew_evidenced
    (ingested : ingestNew pass run record pool representation = .ok pass') :
    Evidenced pass'.catalog := by
  have registered : Evidenced (addAsset pass record.logicalId).catalog := by
    unfold addAsset
    split <;> exact evidenced
  unfold ingestNew at ingested
  split at ingested
  · cases ingested
    exact evidenced
  · dsimp only at ingested
    split at ingested
    · cases ingested
    next added =>
      have kept := (addCopy_evidenced registered added).1
      split at ingested
      · cases ingested
        exact kept.touch _ _
      · cases ingested
        exact kept

theorem ingestRecord_evidenced
    (ingested : ingestRecord run pass record = .ok pass') : Evidenced pass'.catalog := by
  unfold ingestRecord at ingested
  split at ingested
  · cases ingested
  · split at ingested
    · cases ingested
    · split at ingested
      · refine updateExistingCopy_evidenced ?_ ingested
        exact evidenced
      · refine ingestNew_evidenced ?_ ingested
        exact evidenced

theorem foldlM_ingestRecord_evidenced
    {run : ScrubRun}
    {records : List CopyRecord}
    (ingested : records.foldlM (ingestRecord run) pass = .ok pass') :
    Evidenced pass'.catalog := by
  induction records generalizing pass with
  | nil =>
    cases ingested
    exact evidenced
  | cons record rest ih =>
    rw [foldlM_cons] at ingested
    cases first : ingestRecord run pass record with
    | error error =>
      rw [first] at ingested
      cases ingested
    | ok middle =>
      rw [first] at ingested
      exact ih (ingestRecord_evidenced evidenced first) ingested

end

/-! ## Runs -/

/-- Every transaction keeps the evidence. -/
theorem step_evidenced
    (catalog : Catalog)
    (operation : Operation)
    (next : Catalog)
    (evidenced : Evidenced catalog)
    (taken : step catalog operation = some next) :
    Evidenced next := by
  cases operation with
  | addBundle | addAsset | addPool =>
    cases taken
    exact evidenced
  | replicate new hash =>
    have replicated := eq_ok_of_toOption_eq_some taken
    unfold replicateTo at replicated
    split at replicated
    · cases replicated
    next registered =>
      have kept := (addCopy_evidenced evidenced registered).1
      split at replicated <;> cases replicated <;> exact kept
  | cloudBlob new bundleId =>
    obtain ⟨⟨_, copy, created⟩, registered, rfl⟩ :=
      exists_of_map_eq_ok (eq_ok_of_toOption_eq_some taken)
    exact (addBundleCopy_evidenced evidenced registered).1
  | fanout new bundleId poolId verifyResult execution =>
    exact writeBundleCopyForPool_evidenced evidenced (eq_ok_of_toOption_eq_some taken)
  | verify copyId result execution =>
    exact handleVerify_evidenced evidenced (eq_ok_of_toOption_eq_some taken)
  | restore copyId storedDigest execution =>
    exact restoreCopy_evidenced evidenced (eq_ok_of_toOption_eq_some taken)
  | markSuspect copyId =>
    cases taken
    exact evidenced.suspect copyId
  | scrub run records =>
    obtain ⟨pass, scrubbed, rfl⟩ := exists_of_map_eq_ok (eq_ok_of_toOption_eq_some taken)
    dsimp only [scrubBackend] at scrubbed
    split at scrubbed <;> cases scrubbed
    next ingested =>
      refine List.foldlRecOn (motive := fun pass : ScrubPass => Evidenced pass.catalog) _ _
        (foldlM_ingestRecord_evidenced evidenced ingested) fun pass kept copyId _ => ?_
      unfold markStranded
      split
      · exact kept
      · split
        · exact kept.lower _ nofun
        · exact kept
  | release copyId now =>
    cases taken
    exact evidenced.rewrite (fun _ => rfl) fun _ claims => claims

/-- After every sequence of transactions, a live copy that is OK and whose
measured digest equals its integrity hash is backed by its most recent
receipt. -/
theorem backed_of_run
    {operations : List Operation}
    {final : Catalog}
    (reached : Transition.run step emptyCatalog operations = some final) :
    ∀ copy ∈ final.copies.rows, copy.deletedAt = none →
      ClaimsMeasured copy → Backed final.history copy := by
  have initially : Evidenced emptyCatalog := by
    intro copy member
    simp [emptyCatalog] at member
  intro copy member _ claims
  exact Transition.invariant_of_run step Evidenced step_evidenced initially
    reached copy member claims

/-- An asset copy on the first backend. -/
def diskCopy (hash : Digest) : NewCopy :=
  ⟨.asset hash, 1, none, "disk:1", none, hash, .locallyComputed, .ok⟩

/-- A copy is replicated, found missing by a scrub pass, rediscovered by the next
one and measured by its verification job, whose execution is then replayed. -/
def rediscovery (hash : Digest) : List Operation :=
  let measured : VerifyResult := ⟨true, true, some hash, ""⟩
  let job : Execution := ⟨.verifyJob, "17", "host:1", none, 30⟩
  [.addAsset hash, .replicate (diskCopy hash) hash, .scrub ⟨1, "scrub-a", "host:1", 10⟩ [],
    .scrub ⟨1, "scrub-b", "host:1", 20⟩ [⟨hash, hash, "disk:1", none, none, false⟩],
    .verify 1 measured job, .verify 1 measured job]

theorem backed_of_run_rediscovery : ∃ final,
      Transition.run step emptyCatalog (rediscovery (List.replicate 32 7)) = some final ∧
      ∃ copy ∈ final.copies.rows, copy.deletedAt = none ∧
        ClaimsMeasured copy ∧ Backed final.history copy := by
  have healthy : (Transition.run step emptyCatalog
        (rediscovery (List.replicate 32 7))).map (fun final =>
          final.copies.rows.map fun copy =>
            decide (copy.deletedAt = none ∧ ClaimsMeasured copy)) =
        some [true] := by
    decide +kernel
  obtain ⟨final, reached, seen⟩ := Option.map_eq_some_iff.mp healthy
  have member : true ∈ final.copies.rows.map fun copy =>
      decide (copy.deletedAt = none ∧ ClaimsMeasured copy) := by
    rw [seen]
    exact mem_singleton_self true
  obtain ⟨copy, present, holds⟩ := mem_map.mp member
  obtain ⟨live, claims⟩ := of_decide_eq_true holds
  exact ⟨final, reached, copy, present, live, claims,
    backed_of_run reached copy present live claims⟩

end Evidence
end Sutradhara
