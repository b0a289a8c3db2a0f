import Sutradhara.Journal.Invariant

/-!
# Completeness of the published journal

Whatever rows are appended and wherever exports die, the published segments
carry for each table exactly the rows up to its cursor, in ascending order and
numbered from one.  The state that a later export reads from the last footer is
therefore the right place to go on.  An export that is not interrupted publishes
every row it finds.
-/

namespace Sutradhara
namespace Journal

open Foundation Foundation.Json Foundation.Raising List Transition

/-! ## Exports that are not interrupted -/

theorem Published.named
    {segment : Segment}
    (published : Published host root segments entries state)
    (member : segment ∈ segments) : segment.file.name = segmentName segment.start segment.stop ∧
      segment.stop ≤ entries.length := by
  induction published with
  | empty => cases member
  | publish published batch nonempty sequenced now ih =>
    rw [length_append]
    rcases mem_append.mp member with member | member
    · obtain ⟨name, stop⟩ := ih member
      exact ⟨name, Nat.le_trans stop (Nat.le_add_right _ _)⟩
    · rw [mem_singleton.mp member]
      refine ⟨rfl, Nat.le_of_eq ?_⟩
      rw [← published.globalSequence]
      rfl

/-- No file has the name of the next segment. -/
theorem Published.absent
    (published : Published host root segments entries state)
    (nonempty : batch ≠ [])
    (bounded : entries.length + batch.length < 10 ^ 20)
    (now : Instant) :
    ((segments.map Segment.file).any fun other =>
      other.day == (segmentFile host state batch now).day &&
        other.name == (segmentFile host state batch now).name) = false := by
  rw [any_eq_false]
  intro file member same
  obtain ⟨segment, segmentMember, rfl⟩ := mem_map.mp member
  obtain ⟨name, stop⟩ := published.named segmentMember
  have start := published.start_le segmentMember
  have positive := length_pos_iff.mpr nonempty
  have sameName := beq_iff_eq.mp (Bool.and_eq_true_iff.mp same).2
  have newName : (segmentFile host state batch now).name =
      segmentName (entries.length + 1) (entries.length + batch.length) := by
    rw [← published.globalSequence]
    rfl
  rw [name, newName] at sameName
  have range := congrArg (segmentRange host) sameName
  rw [segmentRange_segmentName (by omega) (by omega),
    segmentRange_segmentName (by omega) (by omega)] at range
  have sameStart := (Prod.mk.inj (Option.some.inj range)).1
  omega

section Progress

variable {host : Host} {root : String} {system : System}
variable {entries : List SourceEntry} {state : JournalState}

/-- The rows an export selects when nothing is appended meanwhile. -/
def pending (host : Host) (catalog : Catalog) (state : JournalState) : List SourceEntry :=
  Cursor.above SourceEntry.eventId (state.cursors .verifyReceipt)
      (catalog.entries host .verifyReceipt) ++
    Cursor.above SourceEntry.eventId (state.cursors .retentionEvent)
      (catalog.entries host .retentionEvent)

/-- What an export reads when it starts. -/
theorem startExport_eq
    (ordered : Ordered host system.catalog)
    (journalled : Journalled host root system.catalog system.files entries state)
    (idle : system.exporter = none)
    (permuted : listing.Perm system.files)
    (now : Instant)
    (hasDestination : Bool) :
    ∃ segments, startExport host root system now hasDestination listing = { system with
        exporter := some ⟨now, hasDestination, segments, state, .checkpoint⟩ } := by
  obtain ⟨segments, published, files⟩ := journalled.published
  rw [files] at permuted
  have listed := published.listed (journalled.length_lt ordered) permuted
  have notAhead : checkpointAheadIssue system.catalog state = none := by
    unfold checkpointAheadIssue
    split
    · rfl
    next checkpoint found => rw [if_pos (journalled.mirrored checkpoint found)]
  refine ⟨segments, ?_⟩
  simp only [startExport, idle, listed, published.latestState, notAhead]

theorem advance_publish
    (running : Running)
    (atStage : running.stage = .publish batch)
    (nonempty : batch ≠ []) :
    advance host root system running = publishSegment host root system running batch := by
  unfold advance
  rw [atStage]
  cases batch with
  | nil => exact absurd rfl nonempty
  | cons entry rest => rfl

section

variable (ordered : Ordered host system.catalog)
include ordered

section

variable (journalled : Journalled host root system.catalog system.files entries state)
include journalled

/-- The four statements up to the publication, without appends in between. -/
theorem run_selects
    (idle : system.exporter = none)
    (permuted : order.Perm (List.range system.files.length))
    (now : Instant)
    (hasDestination : Bool) :
    ∃ segments, run (step host root) system
        (.start now hasDestination order :: replicate 3 .advance) =
      some { system with
        catalog := writeCheckpoint system.catalog state
        exporter := some ⟨now, hasDestination, segments, state,
          .publish (pending host system.catalog state)⟩ } := by
  obtain ⟨segments, started⟩ := startExport_eq ordered journalled idle
    (perm_filterMap_getElem? system.files permuted) now hasDestination
  refine ⟨segments, ?_⟩
  simp only [replicate_succ, replicate_zero, run_cons, run_nil, step, if_pos permuted,
    started, Option.bind_some, Option.map_some, advance, System.proceed, newEntries,
    writeCheckpoint_entries]
  rw [← newEntries, ← newEntries, newEntries_eq ordered, newEntries_eq ordered]
  rfl

/-- The journal with all pending rows published. -/
theorem Journalled.publishPending
    (nonempty : pending host system.catalog state ≠ [])
    (now : Instant) :
    Journalled host root system.catalog (system.files ++
        [segmentFile host state (pending host system.catalog state) now])
      (entries ++ pending host system.catalog state)
      (stateAfter host root state (pending host system.catalog state) now) := by
  have receipts : Chosen host system.catalog state .verifyReceipt
      (Cursor.above SourceEntry.eventId (state.cursors .verifyReceipt)
        (system.catalog.entries host .verifyReceipt)) := prefix_refl _
  have events : Chosen host system.catalog state .retentionEvent
      (Cursor.above SourceEntry.eventId (state.cursors .retentionEvent)
        (system.catalog.entries host .retentionEvent)) := prefix_refl _
  exact journalled.publish ordered nonempty (sequenced_append ordered receipts events)
    (chosen_ofSource receipts events) now

/-- An export that is not interrupted publishes the pending rows. -/
theorem run_publish
    (idle : system.exporter = none)
    (nonempty : pending host system.catalog state ≠ [])
    (permuted : order.Perm (List.range system.files.length))
    (now : Instant)
    (hasDestination : Bool) :
    ∃ segments, run (step host root) system
        (.start now hasDestination order :: replicate 4 .advance) =
      some { system with
        catalog := writeCheckpoint system.catalog state
        files := system.files ++ [segmentFile host state (pending host system.catalog state) now]
        exporter := some ⟨now, hasDestination, segments,
          stateAfter host root state (pending host system.catalog state) now,
          .checkpointPublished⟩ } := by
  obtain ⟨segments, selected⟩ := run_selects ordered journalled idle permuted now hasDestination
  have bounded := (journalled.publishPending ordered nonempty now).length_lt ordered
  obtain ⟨known, published, files⟩ := journalled.published
  have absent := published.absent nonempty (by rwa [length_append] at bounded) now
  rw [← files] at absent
  let running : Running := ⟨now, hasDestination, segments, state,
    .publish (pending host system.catalog state)⟩
  let selecting : System := { system with
    catalog := writeCheckpoint system.catalog state
    exporter := some running }
  rw [replicate_succ', ← cons_append, run_append, selected]
  simp only [Option.bind_some, run_cons, run_nil, step, Option.map_some]
  rw [advance_publish running rfl nonempty,
    publishSegment_eq selecting running published.headHash nonempty absent]
  exact ⟨_, rfl⟩

end

end

/-! ### Shipping comes to an end -/

theorem writeCheckpoint_receipts (catalog : Catalog) (state : JournalState) :
    (writeCheckpoint catalog state).receipts = catalog.receipts := by
  unfold writeCheckpoint
  split <;> rfl

/-- A receipt is appended and exported, up to the second checkpoint. -/
def publishing (row : Row Evidence.VerifyReceipt) (now : Instant) (order : List Nat) :
    List Action :=
  .appendReceipt row :: .start now false order :: replicate 4 .advance

/-- A new receipt is published in a segment of its own, and the export returns. -/
theorem exists_publish
    (ended : run (step host root) System.initial actions = some system)
    (idle : system.exporter = none)
    (isFresh : fresh host system.catalog .verifyReceipt row.eventId = true)
    (permuted : order.Perm (List.range system.files.length))
    (now : Instant) :
    ∃ before running final,
      run (step host root) System.initial (actions ++ publishing row now order) = some before ∧
      before.exporter = some running ∧ running.stage = .checkpointPublished ∧
      running.hasDestination = false ∧
      step host root before .advance = some final ∧ final.exporter = none ∧
      final.catalog.receipts = system.catalog.receipts ++ [row] ∧
      final.files.length = system.files.length + 1 := by
  have consistent := invariant_of_run (step host root) (Consistent host root)
    (fun _ _ _ => step_consistent) (initial_consistent host root) ended
  obtain ⟨entries, state, journalled, _⟩ := consistent.journalled
  let grown : Catalog := { system.catalog with receipts := system.catalog.receipts ++ [row] }
  let entry : SourceEntry := ⟨.verifyReceipt, row.eventId, verifyReceiptPayload host row⟩
  have appended : ∀ other, grown.entries host other =
      if other = .verifyReceipt then system.catalog.entries host other ++ [entry]
      else system.catalog.entries host other := by
    intro other
    cases other <;> simp [grown, entry, Catalog.entries]
  let extended : System := { system with catalog := grown }
  have taken : step host root system (.appendReceipt row) = some extended := if_pos isFresh
  have idleExtended : extended.exporter = none := idle
  obtain ⟨grownJournal, beyond⟩ := journalled.append _ entry isFresh appended rfl
  have ordered := consistent.ordered.append _ entry isFresh appended
  have nonempty : pending host grown state ≠ [] := by
    apply append_ne_nil_of_left_ne_nil
    have chosen : entry ∈ Cursor.above SourceEntry.eventId (state.cursors .verifyReceipt)
        (grown.entries host .verifyReceipt) := by
      rw [appended, if_pos rfl]
      exact mem_filter.mpr ⟨mem_append_right _ (mem_singleton_self _), decide_eq_true beyond⟩
    exact ne_nil_of_mem chosen
  obtain ⟨segments, published⟩ := run_publish ordered grownJournal idleExtended
    nonempty permuted now false
  have reached : run (step host root) System.initial (actions ++ publishing row now order) =
      run (step host root) extended (.start now false order :: replicate 4 .advance) := by
    rw [run_append, ended, Option.bind_some, publishing, run_cons, taken]
    rfl
  exact ⟨_, _, _, reached.trans published, rfl, rfl, rfl, rfl, rfl,
    (writeCheckpoint_receipts _ _).trans (writeCheckpoint_receipts _ _), length_append⟩

end Progress

/-! ## Completeness -/

/-- The published segments, in whatever order the files are listed, carry for
each table exactly its rows up to the cursor of the last footer, in ascending
order of the identifiers and numbered from one. -/
def Complete (host : Host) (root : String) (system : System) : Prop :=
  ∀ listing : List SegmentFile, listing.Perm system.files →
    ∃ segments state,
      publishedSegments host root listing = .ok segments ∧
      latestState host root segments = .ok state ∧
      let carried := segments.flatMap fun segment => segment.file.entries
      (∀ source,
        ofSource source (carried.map NumberedEntry.entry) =
          (system.catalog.entries host source).filter fun row =>
            decide (row.eventId ≤ state.cursors source)) ∧
      (∀ source, ((system.catalog.entries host source).map SourceEntry.eventId).Pairwise (· < ·)) ∧
      carried.map NumberedEntry.sequence = List.range' 1 carried.length ∧
      carried.length = state.globalSequence

/-- A consistent journal is complete. -/
theorem Consistent.complete (consistent : Consistent host root system) :
    Complete host root system := by
  intro listing permuted
  obtain ⟨entries, state, journalled, _⟩ := consistent.journalled
  obtain ⟨segments, published, files⟩ := journalled.published
  rw [files] at permuted
  have length : (numberFrom 1 entries).length = entries.length := by
    rw [← length_map NumberedEntry.entry, map_entry_numberFrom]
  refine ⟨segments, state, published.listed
    (journalled.length_lt consistent.ordered) permuted, published.latestState, ?_⟩
  simp only [published.carried, map_entry_numberFrom, map_sequence_numberFrom, length]
  exact ⟨journalled.complete, consistent.ordered.ascending, trivial, published.globalSequence.symm⟩

/-- In every run of appended rows, exports and crashes, the published journal is
complete. -/
theorem complete_of_run
    (host : Host)
    (root : String)
    (actions : List Action)
    (final : System)
    (ended : run (step host root) System.initial actions = some final) :
    Complete host root final :=
  (invariant_of_run (step host root) (Consistent host root)
    (fun _ _ _ consistent taken => step_consistent consistent taken)
    (initial_consistent host root) ended).complete

/-- A receipt of a verification. -/
def sampleReceipt : Evidence.VerifyReceipt where
  copyId := 4
  backendId := 2
  expectedDigest := [171]
  measuredDigest := some [171]
  backendOk := true
  failureKind := none
  failureDetail := none
  source := .verifyJob
  executionId := "verify-1"
  producerProcess := "worker-1"
  actor := none
  at_ := 5

/-- The receipt is appended and exported. -/
def exportedRun : List Action := publishing ⟨1, sampleReceipt⟩ 7 [] ++ [.advance]

theorem exists_publish_initial : ∃ before running final,
    run (step lengthHost "journal") System.initial
      (publishing ⟨1, sampleReceipt⟩ 7 []) = some before ∧
    before.exporter = some running ∧ running.stage = .checkpointPublished ∧
    running.hasDestination = false ∧
    step lengthHost "journal" before .advance = some final ∧ final.exporter = none ∧
    final.catalog.receipts = [⟨1, sampleReceipt⟩] ∧ final.files.length = 1 :=
  exists_publish (run_nil ..) rfl (by decide) (.refl _) 7

/-- The receipt is exported to one file. -/
theorem exists_run_exported : ∃ final,
    run (step lengthHost "journal") System.initial exportedRun = some final ∧
    final.exporter = none ∧ final.catalog.receipts = [⟨1, sampleReceipt⟩] ∧
    final.files.length = 1 := by
  obtain ⟨before, _, final, reached, _, _, _, taken, rest⟩ := exists_publish_initial
  refine ⟨final, ?_, rest⟩
  rw [exportedRun, run_append, reached]
  exact run_of_step _ taken (run_nil ..)

theorem complete_of_run_exported :
    ∃ final, run (step lengthHost "journal") System.initial exportedRun = some final ∧
      final.files.length = 1 ∧ Complete lengthHost "journal" final := by
  obtain ⟨final, ended, _, _, one⟩ := exists_run_exported
  exact ⟨final, ended, one, complete_of_run lengthHost "journal" exportedRun final ended⟩

end Journal
end Sutradhara
