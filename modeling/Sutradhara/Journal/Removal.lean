import Sutradhara.Journal.Recorded

/-!
# Removed segments

A journal from which segment files have disappeared is found out in one of four ways.
With no file left there is no footer.  With a gap inside, the ranges do not adjoin.
With a gap at the front, the first line has the wrong sequence number.  And with a gap
at the end, the checkpoint is ahead of the files.
-/

namespace Sutradhara
namespace Journal

open Foundation Foundation.Json Foundation.Raising List

/-- The issues of `check_journal`.  The comparison with the off-box copy, where there
are segments to compare, adds its own. -/
def journalIssues (host : Host) (root : String) (catalog : Catalog)
    (compareOffbox : List Segment → List String) (listing : List SegmentFile) :
    Except Failure (List String) := do
  let report ← walkJournal host root listing
  let segments := (publishedSegments host root listing).toOption.getD []
  let published ← latestState host root segments
  return report.issues ++ (if segments.isEmpty then [] else compareOffbox segments) ++
    (checkpointAheadIssue catalog published).toList

/-- The checkpoint is at the last published entry. -/
def UpToDate (host : Host) (root : String) (system : System) : Prop :=
  ∀ segments state, publishedSegments host root system.files = .ok segments →
    latestState host root segments = .ok state →
      ∃ checkpoint, system.catalog.checkpoint = some checkpoint ∧
        checkpoint.globalSequence = state.globalSequence

/-! ## Some of the segments -/

section Removal

variable {host : Host} {root : String} {segments remaining : List Segment}
variable {entries : List SourceEntry} {state : JournalState} {segment : Segment}

/-- Where a published segment comes from. -/
theorem Published.origin
    (published : Published host root segments entries state)
    (member : segment ∈ segments) :
    ∃ previous batch now, isSha256 previous.headHash = true ∧ batch ≠ [] ∧
      segment = newSegment host previous batch now := by
  induction published with
  | empty => cases member
  | publish published batch nonempty sequenced now ih =>
    rcases mem_append.mp member with member | member
    · exact ih member
    · exact ⟨_, batch, now, published.headHash, nonempty, mem_singleton.mp member⟩

/-- The first segments of a journal are a journal themselves, with fewer entries. -/
theorem Published.front
    (published : Published host root segments entries state)
    (front : remaining <+: segments)
    (fewer : remaining ≠ segments) :
    ∃ earlier before, Published host root remaining earlier before ∧
      earlier.length < entries.length := by
  induction published with
  | empty => exact absurd (prefix_nil.mp front) fewer
  | @publish previous written before published batch nonempty _ now ih =>
    have more : written.length < (written ++ batch).length := by
      have := length_pos_iff.mpr nonempty
      rw [length_append]
      omega
    rcases prefix_concat_iff.mp front with same | front
    · exact absurd same fewer
    · by_cases all : remaining = previous
      · exact ⟨written, before, all ▸ published, more⟩
      · obtain ⟨earlier, state, isPublished, shorter⟩ := ih front all
        exact ⟨earlier, state, isPublished, shorter.trans more⟩

theorem checkContiguous_cases : checkContiguous remaining = .ok () ∨
      ∃ message, checkContiguous remaining = .error (.journalError message) := by
  induction remaining with
  | nil => exact .inl rfl
  | cons first rest ih =>
    cases rest with
    | nil => exact .inl rfl
    | cons second others =>
      rw [checkContiguous]
      cases adjoins : second.start == first.stop + 1 with
      | false => exact .inr ⟨_, rfl⟩
      | true => exact ih

theorem adjoins_of_checkContiguous
    (contiguous : checkContiguous (first :: second :: rest) = .ok ()) :
    second.start = first.stop + 1 ∧ checkContiguous (second :: rest) = .ok () := by
  obtain ⟨_, adjoins, later⟩ := exists_of_bind_eq_ok contiguous
  exact ⟨by simpa using eq_true_of_require adjoins, later⟩

/-- Segments that adjoin, taken from segments that adjoin, are the first ones if they
follow the same segment. -/
theorem prefix_of_contiguous
    {first : Segment}
    (kept : remaining.Sublist segments)
    (ascending : Cursor.Ascending Segment.start segments)
    (adjoin : checkContiguous (first :: remaining) = .ok ())
    (contiguous : checkContiguous (first :: segments) = .ok ()) : remaining <+: segments := by
  induction segments generalizing first remaining with
  | nil => rw [sublist_nil.mp kept]
  | cons next others ih =>
    obtain ⟨least, ascendingOthers⟩ := pairwise_cons.mp ascending
    obtain ⟨nextStart, contiguousOthers⟩ := adjoins_of_checkContiguous contiguous
    cases remaining with
    | nil => exact nil_prefix
    | cons found rest =>
      obtain ⟨foundStart, adjoinRest⟩ := adjoins_of_checkContiguous adjoin
      -- A later segment would start later than the next one.
      have same : found = next := by
        rcases mem_cons.mp (kept.subset mem_cons_self) with same | further
        · exact same
        · have later := least _ (mem_map_of_mem further)
          omega
      subst same
      exact (prefix_cons_inj found).mpr (ih
        (cons_sublist_cons.mp kept) ascendingOthers adjoinRest contiguousOthers)

theorem prefix_of_start
    (published : Published host root segments entries state)
    (kept : (first :: rest).Sublist segments)
    (adjoin : checkContiguous (first :: rest) = .ok ())
    (start : first.start = 1) : first :: rest <+: segments := by
  cases segments with
  | nil => cases kept
  | cons earliest others =>
    obtain ⟨least, ascending⟩ := pairwise_cons.mp published.starts_ascending
    obtain ⟨previous, _, _, _, _, isNew⟩ := published.origin mem_cons_self
    have same : first = earliest := by
      rcases mem_cons.mp (kept.subset mem_cons_self) with same | further
      · exact same
      · have later := least _ (mem_map_of_mem further)
        have positive : earliest.start = previous.globalSequence + 1 := by
          rw [isNew]
          rfl
        omega
    subst same
    exact (prefix_cons_inj first).mpr (prefix_of_contiguous
      (cons_sublist_cons.mp kept) ascending adjoin published.contiguous)

/-- The walk stops at the first line of a segment that is not the first one. -/
theorem checkSegment_late
    {previous : JournalState}
    (late : previous.globalSequence ≠ 0)
    (nonempty : batch ≠ []) :
    ∃ message, checkSegment host (segmentFile host previous batch now) (Walk.initial host) =
      .error (.journalError message) := by
  obtain ⟨entry, rest, rfl⟩ := exists_cons_of_ne_nil nonempty
  have lines : ∃ others, (segmentFile host previous (entry :: rest) now).lines =
      Line.written (.obj (entryDocument host (previous.globalSequence + 1)
        previous.headHash entry)) :: others := by
    simp [segmentFile, writeEntries_lines, entryLines]
  obtain ⟨others, lines⟩ := lines
  have kind : equalsText (.str "entry") "footer" = false := by decide
  rw [checkSegment, lines]
  simp [checkLines, checkLine, Line.written, SegmentWalk.start, ensureLine, checkEntry,
    entryDocument, Dict.get_cons, Walk.initial, ensure, require, kind, late]

/-- The first segments fall behind the checkpoint; other ones do not pass the walk. -/
theorem walk_or_ahead
    (published : Published host root segments entries state)
    (kept : remaining.Sublist segments)
    (removed : remaining ≠ segments)
    (adjoin : checkContiguous remaining = .ok ())
    (some : remaining ≠ []) :
    ∃ report latest, walkSegments host root remaining (Walk.initial host)
        ⟨[], 0, JournalState.initial host⟩ = .ok report ∧
      latestState host root remaining = .ok latest ∧
      (report.issues ≠ [] ∨ latest.globalSequence < state.globalSequence) := by
  obtain ⟨first, rest, rfl⟩ := exists_cons_of_ne_nil some
  obtain ⟨previous, batch, now, _, nonempty, isNew⟩ :=
    published.origin (kept.subset mem_cons_self)
  by_cases late : previous.globalSequence = 0
  · have start : first.start = 1 := by rw [isNew, newSegment, late]
    obtain ⟨earlier, before, isPublished, fewer⟩ :=
      published.front (prefix_of_start published kept adjoin start) removed
    have walked := isPublished.walkSegments_append []
    rw [append_nil] at walked
    refine ⟨_, before, walked, isPublished.latestState, .inr ?_⟩
    rw [isPublished.globalSequence, published.globalSequence]
    exact fewer
  · obtain ⟨message, refused⟩ := checkSegment_late late nonempty
    obtain ⟨last, isLast⟩ : ∃ last, (first :: rest).getLast? = .some last :=
      ⟨_, getLast?_eq_some_getLast some⟩
    obtain ⟨_, _, lastNow, digest, lastNonempty, rfl⟩ :=
      published.origin (kept.subset (mem_of_getLast? isLast))
    have latest := stateFromFooter_segmentFooter host root lastNow digest lastNonempty
    have walked : walkSegments host root (first :: rest) (Walk.initial host)
        ⟨[], 0, JournalState.initial host⟩ =
        .ok ⟨[first.file.name ++ ": " ++ message], 0, JournalState.initial host⟩ := by
      rw [walkSegments, isNew, newSegment, refused]
      rfl
    rw [latestState, isLast]
    exact ⟨_, _, walked, latest _, .inl (cons_ne_nil _ _)⟩

end Removal

/-! ## Detection -/

/-- After files of an up-to-date journal have been removed, the checker reports an
issue. -/
theorem issues_of_removal
    (host : Host)
    (root : String)
    (actions : List Action)
    (final : System)
    (ended : Transition.run (step host root) System.initial actions = some final)
    (upToDate : UpToDate host root final)
    (files listing : List SegmentFile)
    (kept : files.Sublist final.files)
    (removed : files ≠ final.files)
    (permuted : listing.Perm files)
    (compareOffbox : List Segment → List String) :
    ∃ issues, journalIssues host root final.catalog compareOffbox listing = .ok issues ∧
      issues ≠ [] := by
  obtain ⟨consistent, _⟩ := recorded_of_run ended
  obtain ⟨entries, state, journalled, _⟩ := consistent.journalled
  have bounded := journalled.length_lt consistent.ordered
  obtain ⟨segments, published, isFiles⟩ := journalled.published
  obtain ⟨checkpoint, isCheckpoint, atState⟩ := upToDate segments state
    (published.listed bounded (List.Perm.of_eq isFiles)) published.latestState
  rw [isFiles] at kept removed
  obtain ⟨remaining, keptSegments, rfl⟩ := sublist_map_iff.mp kept
  have removedSegments : remaining ≠ segments := fun same => removed (congrArg _ same)
  have listed := published.listedSome bounded keptSegments permuted
  unfold journalIssues walkJournal
  rw [listed]
  rcases checkContiguous_cases with adjoin | ⟨message, apart⟩
  · rw [adjoin]
    cases remaining with
    | nil => exact ⟨_, rfl, by simp⟩
    | cons first rest =>
      obtain ⟨report, latest, walked, isLatest, found⟩ := walk_or_ahead published
        keptSegments removedSegments adjoin (cons_ne_nil _ _)
      simp only [Except.map, walked, Except.toOption, Option.getD_some, isLatest]
      refine ⟨_, rfl, ?_⟩
      rcases found with found | behind
      · simp [found]
      · simp [checkpointAheadIssue, isCheckpoint, atState, behind]
  · rw [apart]
    exact ⟨_, rfl, by simp⟩

/-- Two receipts are exported in two segments, and the first segment is deleted. -/
theorem issues_of_removal_exported : ∃ final,
    Transition.run (step lengthHost "journal") System.initial
        (exportedRun ++ publishing ⟨2, sampleReceipt⟩ 8 [0] ++ [.advance]) = some final ∧
      final.files.length = 2 ∧ ∃ issues,
        journalIssues lengthHost "journal" final.catalog (fun _ => []) (final.files.drop 1) =
            .ok issues ∧
          issues ≠ [] := by
  obtain ⟨system, exported, idle, receipts, one⟩ := exists_run_exported
  have listed : [0].Perm (range system.files.length) := by
    rw [one]
    decide
  let row : Row Evidence.VerifyReceipt := ⟨2, sampleReceipt⟩
  have isFresh : fresh lengthHost system.catalog .verifyReceipt row.eventId = true := by
    simp [fresh, Catalog.entries, receipts, row]
  obtain ⟨before, running, final, reached, isRunning, stage, _, taken, _, _, two⟩ :=
    exists_publish exported idle isFresh listed 8
  rw [one] at two
  have ended : Transition.run (step lengthHost "journal") System.initial
      (exportedRun ++ publishing ⟨2, sampleReceipt⟩ 8 [0] ++ [.advance]) = some final := by
    rw [Transition.run_append, reached]
    exact Transition.run_of_step _ taken (Transition.run_nil ..)
  have upToDate : UpToDate lengthHost "journal" final := by
    obtain ⟨segments, entries, state, published, isFiles, bounded, mirrors⟩ :=
      mirrored_of_export reached isRunning (by rw [stage]; rfl) taken
    intro found latest isFound isLatest
    rw [published.listed bounded (List.Perm.of_eq isFiles)] at isFound
    cases isFound
    rw [published.latestState] at isLatest
    cases isLatest
    cases published with
    | empty => simp [isFiles] at two
    | publish => exact ⟨_, mirrors _ _ rfl rfl, rfl⟩
  have removed : final.files.drop 1 ≠ final.files := by
    intro same
    have shorter := congrArg length same
    rw [length_drop, two] at shorter
    cases shorter
  exact ⟨final, ended, two, issues_of_removal lengthHost "journal" _ final ended upToDate _ _
    (drop_sublist 1 _) removed (List.Perm.refl _) _⟩

end Journal
end Sutradhara
