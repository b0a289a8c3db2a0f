import Mathlib.Data.List.Cycle
import Sutradhara.Journal.Published

/-!
# The invariant of the journal

The files are those of a published journal whose entries are, for each table, the
rows up to the cursor of the last footer.  A running export holds that state and,
between its selects and its publication, the first rows above the cursors.  Every
step of the journal and its surroundings keeps this.
-/

namespace Sutradhara
namespace Journal

open List hiding next after

open Foundation Foundation.Json Foundation.Raising

/-! ## The invariant -/

theorem source_of_mem_entries
    {host : Host}
    {catalog : Catalog}
    (member : entry ∈ catalog.entries host source) : entry.source = source := by
  cases source with
  | verifyReceipt =>
    obtain ⟨row, _, rfl⟩ := mem_map.mp member
    rfl
  | retentionEvent =>
    obtain ⟨row, _, rfl⟩ := mem_map.mp member
    rfl

/-- Rows of one table, taken as entries, are all of that table. -/
theorem ofSource_of_subset
    {host : Host}
    {catalog : Catalog}
    (taken : ∀ entry ∈ entries, entry ∈ catalog.entries host source)
    (wanted : Source) :
    ofSource wanted entries = if source = wanted then entries else [] := by
  unfold ofSource
  split
  next same =>
    rw [filter_eq_self]
    intro entry member
    simp [source_of_mem_entries (taken entry member), same]
  next different =>
    rw [filter_eq_nil_iff]
    intro entry member
    simp [source_of_mem_entries (taken entry member), different]

/-- Identifiers grow and have 63 bits. -/
structure Ordered (host : Host) (catalog : Catalog) : Prop where
  ascending : ∀ source, Cursor.Ascending SourceEntry.eventId (catalog.entries host source)
  bounded : ∀ source, ∀ entry ∈ catalog.entries host source, entry.eventId < 2 ^ 63

section

variable (host : Host) (catalog : Catalog) (state : JournalState)

/-- Entries an export has chosen from a table: the first rows above the
cursor. -/
def Chosen (source : Source) (chosen : List SourceEntry) : Prop :=
  chosen <+: Cursor.above SourceEntry.eventId (state.cursors source) (catalog.entries host source)

/-- Until it ships, an export holds the state of the journal; before it publishes
it also holds the first rows above the cursors. -/
def StageHolds (held : JournalState) : Stage → Prop
  | .checkpoint | .selectReceipts => held = state
  | .selectEvents receipts => held = state ∧ Chosen host catalog state .verifyReceipt receipts
  | .publish entries =>
    held = state ∧ ∃ receipts events, entries = receipts ++ events ∧
      Chosen host catalog state .verifyReceipt receipts ∧
      Chosen host catalog state .retentionEvent events
  | .checkpointPublished => held = state
  | .seekAnchor _ | .shipFile _ | .shipAnchor _ => True

/-- The published segments carry the rows up to the cursors. -/
structure Journalled (host : Host) (root : String) (catalog : Catalog) (files : List SegmentFile)
    (entries : List SourceEntry) (state : JournalState) : Prop where
  published : ∃ segments, Published host root segments entries state ∧
    files = segments.map Segment.file
  complete : ∀ source, ofSource source entries =
    Cursor.upTo SourceEntry.eventId (state.cursors source) (catalog.entries host source)
  reached : ∀ source bound, 0 < bound →
    (∀ entry ∈ catalog.entries host source, entry.eventId < bound) → state.cursors source < bound
  mirrored : ∀ checkpoint, catalog.checkpoint = some checkpoint →
    checkpoint.globalSequence ≤ state.globalSequence

/-- The invariant of the journal. -/
structure Consistent (host : Host) (root : String) (system : System) : Prop where
  ordered : Ordered host system.catalog
  journalled : ∃ entries state,
    Journalled host root system.catalog system.files entries state ∧
      ∀ running, system.exporter = some running →
        StageHolds host system.catalog state running.state running.stage

/-! ## Steps outside the exporter -/

/-- Rows are only added at the end. -/
def Grows (grown : Catalog) : Prop :=
  ∀ source, catalog.entries host source <+: grown.entries host source

end

/-- Rows that are appended do not touch the rows chosen. -/
theorem Chosen.grow
    (taken : Chosen host catalog state source chosen)
    (grows : Grows host catalog grown) : Chosen host grown state source chosen := by
  obtain ⟨added, extended⟩ := grows source
  unfold Chosen at taken ⊢
  rw [← extended, Cursor.above, filter_append]
  exact taken.trans (prefix_append _ _)

/-- Rows that are appended do not touch what a stage relies on. -/
theorem StageHolds.grow
    (holds : StageHolds host catalog state held stage)
    (grows : Grows host catalog grown) : StageHolds host grown state held stage := by
  cases stage with
  | checkpoint | selectReceipts => exact holds
  | selectEvents receipts => exact ⟨holds.1, holds.2.grow grows⟩
  | publish entries =>
    obtain ⟨same, receipts, events, parts, chosenReceipts, chosenEvents⟩ := holds
    exact ⟨same, receipts, events, parts, chosenReceipts.grow grows, chosenEvents.grow grows⟩
  | checkpointPublished => exact holds
  | seekAnchor | shipFile | shipAnchor => trivial

section

variable
  {host : Host}
  {catalog grown : Catalog}
  (source : Source)
  (entry : SourceEntry)
  (isFresh : fresh host catalog source entry.eventId = true)
  (appended : ∀ other, grown.entries host other =
    if other = source then catalog.entries host other ++ [entry]
    else catalog.entries host other)
include isFresh appended

/-- An appended row keeps the order of the identifiers. -/
theorem Ordered.append
    (ordered : Ordered host catalog) :
    Ordered host grown := by
  simp only [fresh, Bool.and_eq_true, all_eq_true, decide_eq_true_eq] at isFresh
  obtain ⟨⟨greatest, _⟩, short⟩ := isFresh
  refine ⟨?_, ?_⟩
  · intro other
    rw [appended]
    split
    next same =>
      subst same
      exact (ordered.ascending other).append_singleton greatest
    · exact ordered.ascending other
  · intro other row member
    rw [appended] at member
    split at member
    · rcases mem_append.mp member with member | member
      · exact ordered.bounded other row member
      · rw [mem_singleton.mp member]
        exact short
    · exact ordered.bounded other row member

/-- A new row is beyond every cursor. -/
theorem Journalled.append
    (sameCheckpoint : grown.checkpoint = catalog.checkpoint)
    (journalled : Journalled host root catalog files entries state) :
    Journalled host root grown files entries state ∧ state.cursors source < entry.eventId := by
  simp only [fresh, Bool.and_eq_true, all_eq_true, decide_eq_true_eq] at isFresh
  obtain ⟨⟨greatest, positive⟩, _⟩ := isFresh
  have beyond := journalled.reached source _ positive greatest
  refine ⟨⟨journalled.published, ?_, ?_, ?_⟩, beyond⟩
  · intro other
    rw [journalled.complete, appended]
    split
    next same =>
      subst same
      simp [Cursor.upTo, Nat.not_le_of_lt beyond]
    · rfl
  · intro other bound positiveBound less
    refine journalled.reached other bound positiveBound ?_
    intro row member
    refine less row ?_
    rw [appended]
    split
    · exact mem_append_left _ member
    · exact member
  · rw [sameCheckpoint]
    exact journalled.mirrored

end

/-- Appending a row keeps the invariant. -/
theorem Consistent.append
    (consistent : Consistent host root system)
    (source : Source)
    (entry : SourceEntry)
    (isFresh : fresh host system.catalog source entry.eventId = true)
    (appended : ∀ other, grown.entries host other =
      if other = source then system.catalog.entries host other ++ [entry]
      else system.catalog.entries host other)
    (sameCheckpoint : grown.checkpoint = system.catalog.checkpoint) :
    Consistent host root { system with catalog := grown } := by
  obtain ⟨entries, state, journalled, holds⟩ := consistent.journalled
  refine ⟨consistent.ordered.append source entry isFresh appended, entries, state,
    (journalled.append source entry isFresh appended sameCheckpoint).1, ?_⟩
  intro running isRunning
  refine (holds running isRunning).grow ?_
  intro other
  rw [appended]
  split
  · exact prefix_append _ _
  · exact prefix_refl _

/-- Reading the files in any order. -/
theorem perm_filterMap_getElem?
    {Item : Type}
    (items : List Item)
    {order : List Nat}
    (permuted : order.Perm (List.range items.length)) :
    (order.filterMap fun index => items[index]?).Perm items := by
  have all : (List.range items.length).filterMap (fun index => items[index]?) = items := by
    clear permuted
    induction items with
    | nil => rfl
    | cons item rest ih =>
      rw [length_cons, range_succ_eq_map, filterMap_cons_some getElem?_cons_zero, filterMap_map]
      exact congrArg (item :: ·) ih
  have read := permuted.filterMap fun index => items[index]?
  rwa [all] at read

/-- Fewer than 10²⁰ rows fit into the two tables. -/
theorem Journalled.length_lt
    (journalled : Journalled host root catalog files entries state)
    (ordered : Ordered host catalog) : entries.length < 10 ^ 20 := by
  have perSource (source : Source) : (ofSource source entries).length ≤ 2 ^ 63 := by
    rw [journalled.complete]
    exact Nat.le_trans (length_filter_le _ _)
      (Cursor.length_le_of_ascending (ordered.ascending source) (ordered.bounded source))
  have total : entries.length = (ofSource .verifyReceipt entries).length +
      (ofSource .retentionEvent entries).length := by
    rw [length_eq_length_filter_add
      fun entry : SourceEntry => decide (entry.source = .verifyReceipt)]
    congr 2
    refine filter_congr ?_
    intro entry _
    cases entry.source <;> rfl
  have first := perSource .verifyReceipt
  have second := perSource .retentionEvent
  omega

/-! ## Steps of the exporter -/

section Exporter

variable {host : Host} {root : String} {system : System} {running : Running}

theorem writeCheckpoint_entries (catalog : Catalog) (state : JournalState) (source : Source) :
    (writeCheckpoint catalog state).entries host source = catalog.entries host source := by
  unfold writeCheckpoint
  split
  · cases source <;> rfl
  · rfl

section

variable (consistent : Consistent host root system)
include consistent

/-- A step that leaves rows and files alone keeps the invariant if the checkpoint
does not run ahead and the export holds what its next stage needs. -/
theorem Consistent.quiet
    (sameRows : ∀ source, next.catalog.entries host source = system.catalog.entries host source)
    (sameFiles : next.files = system.files)
    (held : ∀ entries state, Journalled host root system.catalog system.files entries state →
      (∀ running, system.exporter = some running →
        StageHolds host system.catalog state running.state running.stage) →
      (∀ checkpoint, next.catalog.checkpoint = some checkpoint →
        checkpoint.globalSequence ≤ state.globalSequence) ∧
      ∀ running, next.exporter = some running →
        StageHolds host system.catalog state running.state running.stage) :
    Consistent host root next := by
  obtain ⟨entries, state, journalled, holds⟩ := consistent.journalled
  obtain ⟨mirrored, holdsNext⟩ := held entries state journalled holds
  refine ⟨⟨?_, ?_⟩, entries, state, ⟨?_, ?_, ?_, mirrored⟩, ?_⟩
  · intro source
    rw [sameRows]
    exact consistent.ordered.ascending source
  · intro source
    rw [sameRows]
    exact consistent.ordered.bounded source
  · rw [sameFiles]
    exact journalled.published
  · intro source
    rw [sameRows]
    exact journalled.complete source
  · intro source
    rw [sameRows]
    exact journalled.reached source
  · intro running isRunning
    refine (holdsNext running isRunning).grow ?_
    intro source
    rw [sameRows]

theorem Consistent.finish : Consistent host root system.finish :=
  consistent.quiet (fun _ => rfl) rfl fun _ _ journalled _ => ⟨journalled.mirrored, nofun⟩

/-- While shipping, an export needs nothing from what it has read. -/
theorem Consistent.ship
    (needless : ∀ state, StageHolds host system.catalog state running.state stage) :
    Consistent host root ({ system with offbox := offbox }.proceed running stage) := by
  refine consistent.quiet (fun _ => rfl) rfl ?_
  intro entries state journalled _
  refine ⟨journalled.mirrored, ?_⟩
  intro other isOther
  cases isOther
  exact needless state

/-- The checkpoint of the journal's own state does not run ahead. -/
theorem Consistent.checkpoint
    (isRunning : system.exporter = some running)
    (held : ∀ state, StageHolds host system.catalog state running.state running.stage →
      running.state = state ∧ ∀ other, exporter = some other →
        StageHolds host system.catalog state other.state other.stage) :
    Consistent host root { system with
      catalog := writeCheckpoint system.catalog running.state
      exporter := exporter } := by
  refine consistent.quiet (writeCheckpoint_entries _ _) rfl ?_
  intro entries state journalled holds
  obtain ⟨rfl, holdsNext⟩ := held state (holds running isRunning)
  refine ⟨?_, holdsNext⟩
  intro checkpoint written
  unfold writeCheckpoint at written
  split at written
  · cases written
    exact Nat.le_refl _
  · exact journalled.mirrored checkpoint written

theorem beginShipping_consistent : Consistent host root (beginShipping system running) := by
  unfold beginShipping
  split
  · exact consistent.ship fun _ => trivial
  · exact consistent.finish

theorem seekAnchor_consistent :
    Consistent host root (seekAnchor host root system running unread) := by
  unfold seekAnchor
  split
  · exact consistent.ship fun _ => trivial
  · split
    · exact consistent.finish
    · split
      · exact consistent.finish
      · split
        · exact consistent.ship fun _ => trivial
        · split
          · exact consistent.ship fun _ => trivial
          · exact consistent.finish

theorem shipObject_consistent
    (needless : ∀ state, StageHolds host system.catalog state running.state stage) :
    Consistent host root (shipObject host system running key content stage) := by
  unfold shipObject
  split
  · exact consistent.finish
  · exact consistent.ship needless

end

/-- The rows of a select are those above the cursor, in their order. -/
theorem newEntries_eq (ordered : Ordered host catalog) (source : Source) (cursor : Nat) :
    newEntries host catalog source cursor =
      Cursor.above SourceEntry.eventId cursor (catalog.entries host source) :=
  Cursor.mergeSort_eq_of_perm ((ordered.ascending source).above cursor) (List.Perm.refl _)

theorem Chosen.subset (taken : Chosen host catalog state source chosen) :
    ∀ entry ∈ chosen, entry ∈ catalog.entries host source :=
  fun _ member => mem_of_mem_filter (List.IsPrefix.subset taken member)

variable {catalog : Catalog} {state : JournalState}

/-- Rows chosen from the two tables, per table. -/
theorem chosen_ofSource
    (chosenReceipts : Chosen host catalog state .verifyReceipt receipts)
    (chosenEvents : Chosen host catalog state .retentionEvent events)
    (source : Source) :
    Chosen host catalog state source (ofSource source (receipts ++ events)) := by
  have parts : ofSource source (receipts ++ events) =
      ofSource source receipts ++ ofSource source events :=
    filter_append ..
  rw [parts, ofSource_of_subset chosenReceipts.subset, ofSource_of_subset chosenEvents.subset]
  cases source with
  | verifyReceipt => simpa using chosenReceipts
  | retentionEvent => simpa using chosenEvents

/-- The payload of a row names its identifier. -/
theorem named_of_mem_entries (member : entry ∈ catalog.entries host source) :
    Dict.get entry.payload "event_id" = .nat entry.eventId := by
  cases source with
  | verifyReceipt =>
    obtain ⟨row, _, rfl⟩ := mem_map.mp member
    simp [Dict.get_cons, verifyReceiptPayload]
  | retentionEvent =>
    obtain ⟨row, _, rfl⟩ := mem_map.mp member
    simp [Dict.get_cons, retentionEventPayload]

/-- The rows chosen continue the journal. -/
theorem Chosen.sequenced
    (taken : Chosen host catalog state source chosen)
    (ordered : Ordered host catalog) : Sequenced state.cursors chosen := by
  refine ⟨?_, ?_, ?_⟩
  · have ascending : Cursor.Ascending SourceEntry.eventId chosen :=
      List.Pairwise.sublist (List.IsPrefix.sublist taken |>.map _)
        ((ordered.ascending source).above _)
    refine (pairwise_map.mp ascending).imp_of_mem ?_
    intro first second firstMember secondMember less
    have firstSource := source_of_mem_entries (taken.subset first firstMember)
    have secondSource := source_of_mem_entries (taken.subset second secondMember)
    simp only [orderAtMost, SourceEntry.order, firstSource, secondSource,
      Nat.lt_irrefl, decide_false, beq_self_eq_true, Bool.true_and,
      Bool.false_or, decide_eq_false_iff_not]
    omega
  · intro entry member
    rw [source_of_mem_entries (taken.subset entry member)]
    have above := of_mem_filter (List.IsPrefix.subset taken member)
    simpa using above
  · intro entry member
    exact named_of_mem_entries (taken.subset entry member)

/-- Rows chosen from the two tables, one table after the other. -/
theorem sequenced_append
    (ordered : Ordered host catalog)
    (chosenReceipts : Chosen host catalog state .verifyReceipt receipts)
    (chosenEvents : Chosen host catalog state .retentionEvent events) :
    Sequenced state.cursors (receipts ++ events) := by
  have first := chosenReceipts.sequenced ordered
  have second := chosenEvents.sequenced ordered
  refine ⟨pairwise_append.mpr ⟨first.ordered, second.ordered, ?_⟩, ?_, ?_⟩
  · intro receipt receiptMember event eventMember
    have receiptSource := source_of_mem_entries (chosenReceipts.subset receipt receiptMember)
    have eventSource := source_of_mem_entries (chosenEvents.subset event eventMember)
    simp [orderAtMost, SourceEntry.order, receiptSource, eventSource, Source.rank]
  · intro entry member
    rcases mem_append.mp member with member | member
    · exact first.beyond entry member
    · exact second.beyond entry member
  · intro entry member
    rcases mem_append.mp member with member | member
    · exact first.named entry member
    · exact second.named entry member

/-- Publishing extends the journal by the chosen rows. -/
theorem Journalled.publish
    (journalled : Journalled host root catalog files entries state)
    (ordered : Ordered host catalog)
    (nonempty : batch ≠ [])
    (sequenced : Sequenced state.cursors batch)
    (chosen : ∀ source, Chosen host catalog state source (ofSource source batch))
    (now : Instant) :
    Journalled host root catalog (files ++ [segmentFile host state batch now]) (entries ++ batch)
      (stateAfter host root state batch now) := by
  have cursor (source : Source) : (stateAfter host root state batch now).cursors source =
        Cursor.advance SourceEntry.eventId (state.cursors source) (ofSource source batch) :=
    writeEntries_cursors host _ batch source
  refine ⟨?_, ?_, ?_, ?_⟩
  · obtain ⟨segments, published, rfl⟩ := journalled.published
    refine ⟨_, published.publish batch nonempty sequenced now, ?_⟩
    rw [map_append, map_singleton, newSegment]
  · intro source
    have parts : ofSource source (entries ++ batch) =
        ofSource source entries ++ ofSource source batch :=
      filter_append ..
    rw [parts, cursor, journalled.complete,
      Cursor.upTo_advance (ordered.ascending source) (chosen source)]
  · intro source bound positive less
    rw [cursor]
    refine Cursor.advance_lt (journalled.reached source bound positive less) ?_
    intro entry member
    exact less entry ((chosen source).subset entry member)
  · intro checkpoint isCheckpoint
    exact Nat.le_trans (journalled.mirrored checkpoint isCheckpoint) (Nat.le_add_right _ _)

/-- Publishing succeeds unless a file has the name of the new segment. -/
theorem publishSegment_eq
    (system : System)
    (running : Running)
    (digest : isSha256 running.state.headHash = true)
    (nonempty : batch ≠ [])
    (absent : (system.files.any fun other =>
      other.day == (segmentFile host running.state batch running.now).day && other.name ==
          (segmentFile host running.state batch running.now).name) = false) :
    publishSegment host root system running batch = { system with
        files := system.files ++ [segmentFile host running.state batch running.now] }.proceed
        { running with
          state := stateAfter host root running.state batch running.now
          segments := running.segments ++ [newSegment host running.state batch running.now] }
        .checkpointPublished := by
  have readState := stateFromFooter_segmentFooter host root running.now digest
    nonempty ((segmentFile host running.state batch running.now).path root)
  have readLines := readFooter_segmentFile host running.now digest nonempty
    ((segmentFile host running.state batch running.now).path root)
  simp only [publishSegment, absent, readState, readLines]
  rfl

variable (consistent : Consistent host root system)
include consistent

/-- The publication of a segment keeps the journal consistent. -/
theorem publishSegment_consistent
    (isRunning : system.exporter = some running)
    (atStage : running.stage = .publish batch)
    (nonempty : batch ≠ []) :
    Consistent host root (publishSegment host root system running batch) := by
  obtain ⟨entries, state, journalled, holds⟩ := consistent.journalled
  have held := holds running isRunning
  rw [atStage] at held
  obtain ⟨rfl, receipts, events, rfl, chosenReceipts, chosenEvents⟩ := held
  have extended := journalled.publish consistent.ordered nonempty
    (sequenced_append consistent.ordered chosenReceipts chosenEvents)
    (chosen_ofSource chosenReceipts chosenEvents) running.now
  obtain ⟨segments, published, _⟩ := journalled.published
  cases absent : system.files.any fun other =>
      other.day == (segmentFile host running.state (receipts ++ events) running.now).day &&
      other.name == (segmentFile host running.state (receipts ++ events) running.now).name with
  | true =>
    rw [publishSegment, if_pos absent]
    exact consistent.finish
  | false =>
    rw [publishSegment_eq system running published.headHash nonempty absent]
    refine ⟨consistent.ordered, _, _, extended, ?_⟩
    intro other isOther
    cases isOther
    rfl

/-- The start of an export keeps the journal consistent. -/
theorem startExport_consistent
    (permuted : listing.Perm system.files) :
    Consistent host root (startExport host root system now hasDestination listing) := by
  unfold startExport
  split
  · exact consistent
  · split
    · exact consistent
    next segments found =>
      split
      · exact consistent
      next state latest =>
        split
        · exact consistent
        · refine consistent.quiet (fun _ => rfl) rfl ?_
          intro entries current journalled _
          refine ⟨journalled.mirrored, ?_⟩
          intro other isOther
          cases isOther
          obtain ⟨known, published, files⟩ := journalled.published
          rw [files] at permuted
          have listed := published.listed (journalled.length_lt consistent.ordered) permuted
          rw [found] at listed
          cases listed
          rw [published.latestState] at latest
          exact (Except.ok.inj latest).symm

/-- Every statement of an export keeps the invariant. -/
theorem advance_consistent (isRunning : system.exporter = some running) :
    Consistent host root (advance host root system running) := by
  unfold advance
  split
  next atStage =>
    refine consistent.checkpoint isRunning ?_
    intro state held
    rw [atStage] at held
    refine ⟨held, ?_⟩
    intro other isOther
    cases isOther
    exact held
  next atStage =>
    refine consistent.quiet (fun _ => rfl) rfl fun entries state journalled holds => ?_
    have held := holds running isRunning
    rw [atStage] at held
    refine ⟨journalled.mirrored, ?_⟩
    rintro _ ⟨⟩
    refine ⟨held, ?_⟩
    rw [newEntries_eq consistent.ordered, held]
    exact prefix_refl _
  next receipts atStage =>
    refine consistent.quiet (fun _ => rfl) rfl fun entries state journalled holds => ?_
    have held := holds running isRunning
    rw [atStage] at held
    refine ⟨journalled.mirrored, ?_⟩
    rintro _ ⟨⟩
    refine ⟨held.1, receipts, _, rfl, held.2, ?_⟩
    rw [newEntries_eq consistent.ordered, held.1]
    exact prefix_refl _
  · exact beginShipping_consistent consistent
  next batch nonempty atStage =>
    exact publishSegment_consistent consistent isRunning atStage nonempty
  next atStage =>
    refine beginShipping_consistent (consistent.checkpoint isRunning ?_)
    intro state held
    have same := held
    rw [atStage] at same
    refine ⟨same, ?_⟩
    intro other isOther
    rw [isRunning] at isOther
    cases isOther
    exact held
  · exact seekAnchor_consistent consistent
  · exact consistent.finish
  · exact shipObject_consistent consistent fun _ => trivial
  · exact consistent.finish
  · split
    · exact consistent.finish
    · exact shipObject_consistent consistent fun _ => trivial

end Exporter

/-- Every step keeps the invariant. -/
theorem step_consistent
    (consistent : Consistent host root system)
    (taken : step host root system action = some next) : Consistent host root next := by
  cases action with
  | appendReceipt row =>
    simp only [step] at taken
    split at taken
    next isFresh =>
      cases taken
      refine consistent.append .verifyReceipt
        ⟨.verifyReceipt, row.eventId, verifyReceiptPayload host row⟩
        isFresh ?_ rfl
      intro other
      cases other with
      | verifyReceipt => simp [Catalog.entries]
      | retentionEvent => rfl
    · cases taken
  | appendEvent row =>
    simp only [step] at taken
    split at taken
    next isFresh =>
      cases taken
      refine consistent.append .retentionEvent
        ⟨.retentionEvent, row.eventId, retentionEventPayload host row⟩
        isFresh ?_ rfl
      intro other
      cases other with
      | verifyReceipt => rfl
      | retentionEvent => simp [Catalog.entries]
    · cases taken
  | start now hasDestination order =>
    simp only [step] at taken
    split at taken
    next permuted =>
      cases taken
      exact startExport_consistent consistent (perm_filterMap_getElem? system.files permuted)
    · cases taken
  | advance =>
    obtain ⟨running, isRunning, rfl⟩ := Option.map_eq_some_iff.mp taken
    exact advance_consistent consistent isRunning
  | crash =>
    cases taken
    exact consistent.finish

/-- The empty journal is consistent. -/
theorem initial_consistent (host : Host) (root : String) : Consistent host root System.initial := by
  refine ⟨⟨?_, ?_⟩, [], JournalState.initial host, ⟨⟨[], .empty, rfl⟩, ?_, ?_, nofun⟩, nofun⟩
  · intro source
    cases source <;> exact List.Pairwise.nil
  · intro source entry member
    cases source <;> cases member
  · intro source
    cases source <;> rfl
  · intro source bound positive _
    exact positive

end Journal
end Sutradhara
