import Sutradhara.Journal.Complete

/-!
# The checkpoint of a completed export

The checker and the exporter compute the state of the journal separately.  An export
writes its checkpoint from the footer that it has read or written, before it goes on
to select or to ship, so that when it returns the checkpoint holds the sequence
number, the head and the cursors that the walk of the checker ends with.
-/

namespace Sutradhara
namespace Journal

open Foundation Foundation.Json Foundation.Raising

/-- The checkpoint holds the state of a published segment. -/
def Mirrors (catalog : Catalog) (state : JournalState) : Prop :=
  ∀ filename publishedAt, state.publishedFilename = some filename →
    state.publishedAt = some publishedAt →
      catalog.checkpoint = some ⟨state.globalSequence, state.headHash, state.cursors,
        filename, publishedAt⟩

/-- The checkpoint row mirrors the state it is written from. -/
theorem mirrors_writeCheckpoint : Mirrors (writeCheckpoint catalog state) state := by
  intro filename publishedAt isFilename isPublishedAt
  simp only [writeCheckpoint, isFilename, isPublishedAt]

/-- Statements that an export reaches only with its checkpoint written. -/
def Stage.recorded : Stage → Bool
  | .checkpoint | .checkpointPublished => false
  | _ => true

/-- Statements with which an export can return.  What goes wrong while shipping is
reported and ends the export too. -/
def Stage.returns : Stage → Bool
  | .publish entries => entries.isEmpty
  | .checkpointPublished | .seekAnchor _ | .shipFile _ | .shipAnchor _ => true
  | _ => false

/-- An export that has written its checkpoint finds it in the catalog. -/
def Recorded (host : Host) (root : String) (system : System) : Prop :=
  ∀ running, system.exporter = some running → running.stage.recorded = true →
    ∀ entries state, Journalled host root system.catalog system.files entries state →
      Mirrors system.catalog state

/-- The files determine the state of the journal. -/
theorem Journalled.state_eq
    (journalled : Journalled host root catalog files entries state)
    (other : Journalled host root otherCatalog files otherEntries otherState)
    (ordered : Ordered host catalog)
    (otherOrdered : Ordered host otherCatalog) :
    state = otherState := by
  obtain ⟨segments, published, isFiles⟩ := journalled.published
  obtain ⟨otherSegments, otherPublished, otherIsFiles⟩ := other.published
  have listed := published.listed (journalled.length_lt ordered) (List.Perm.of_eq isFiles)
  rw [otherPublished.listed (other.length_lt otherOrdered) (List.Perm.of_eq otherIsFiles)] at listed
  have latest := otherPublished.latestState
  rw [Except.ok.inj listed, published.latestState] at latest
  exact Except.ok.inj latest

/-! ## Steps -/

section Steps

variable {host : Host} {root : String} {system next : System} {running : Running}

theorem beginShipping_frame : (beginShipping system running).catalog = system.catalog ∧
    (beginShipping system running).files = system.files := by
  unfold beginShipping
  split <;> exact ⟨rfl, rfl⟩

theorem seekAnchor_frame :
    (seekAnchor host root system running unread).catalog = system.catalog ∧
      (seekAnchor host root system running unread).files = system.files := by
  unfold seekAnchor
  repeat' split
  all_goals exact ⟨rfl, rfl⟩

theorem shipObject_frame :
    (shipObject host system running key content stage).catalog = system.catalog ∧
      (shipObject host system running key content stage).files = system.files := by
  unfold shipObject
  split <;> exact ⟨rfl, rfl⟩

/-- With its checkpoint written an export changes neither the catalog nor the files,
unless it publishes. -/
theorem advance_frame
    (recorded : running.stage.recorded = true)
    (quiet : ∀ entry rest, running.stage ≠ .publish (entry :: rest)) :
    (advance host root system running).catalog = system.catalog ∧
      (advance host root system running).files = system.files := by
  obtain ⟨now, hasDestination, segments, state, stage⟩ := running
  cases stage with
  | checkpoint => cases recorded
  | selectReceipts => exact ⟨rfl, rfl⟩
  | selectEvents receipts => exact ⟨rfl, rfl⟩
  | publish entries =>
    cases entries with
    | nil => exact beginShipping_frame
    | cons entry rest => exact absurd rfl (quiet entry rest)
  | checkpointPublished => cases recorded
  | seekAnchor unread => exact seekAnchor_frame
  | shipFile remaining =>
    cases remaining with
    | nil => exact ⟨rfl, rfl⟩
    | cons segment rest => exact shipObject_frame
  | shipAnchor remaining =>
    cases remaining with
    | nil => exact ⟨rfl, rfl⟩
    | cons segment rest =>
      simp only [advance]
      split
      · exact ⟨rfl, rfl⟩
      · exact shipObject_frame

/-- The other statements write the checkpoint of the state that the export holds. -/
theorem advance_unrecorded (unrecorded : running.stage.recorded = false) :
    (advance host root system running).catalog = writeCheckpoint system.catalog running.state ∧
      (advance host root system running).files = system.files := by
  obtain ⟨now, hasDestination, segments, state, stage⟩ := running
  cases stage with
  | checkpoint => exact ⟨rfl, rfl⟩
  | checkpointPublished => exact beginShipping_frame
  | selectReceipts | selectEvents | publish | seekAnchor | shipFile | shipAnchor =>
    cases unrecorded

/-- A step that is none of a running export. -/
structure Aside (host : Host) (root : String) (system next : System) : Prop where
  sameCheckpoint : next.catalog.checkpoint = system.catalog.checkpoint
  sameFiles : next.files = system.files
  sameOffbox : next.offbox = system.offbox
  /-- The export is the same, or over, or it starts with what it has read. -/
  exporter : ∀ running, next.exporter = some running → system.exporter = some running ∨
    running.stage = .checkpoint ∧ ∃ listing, listing.Perm system.files ∧
      publishedSegments host root listing = .ok running.segments

/-- The start of an export changes nothing that is recorded. -/
theorem startExport_aside
    (permuted : listing.Perm system.files) :
    Aside host root system (startExport host root system now hasDestination listing) := by
  have unchanged : Aside host root system system := ⟨rfl, rfl, rfl, fun _ => .inl⟩
  unfold startExport
  split
  · exact unchanged
  · split
    · exact unchanged
    next segments listed =>
      split
      · exact unchanged
      · split
        · exact unchanged
        · refine ⟨rfl, rfl, rfl, ?_⟩
          rintro _ ⟨⟩
          exact .inr ⟨rfl, listing, permuted, listed⟩

/-- A step is one of the running export, or it leaves checkpoint, files and objects. -/
theorem step_cases (taken : step host root system action = some next) :
    Aside host root system next ∨
      ∃ running, system.exporter = some running ∧ next = advance host root system running := by
  cases action with
  | appendReceipt row | appendEvent row =>
    simp only [step] at taken
    split at taken
    · cases taken
      exact .inl ⟨rfl, rfl, rfl, fun _ => .inl⟩
    · cases taken
  | start now hasDestination order =>
    simp only [step] at taken
    split at taken
    next permuted =>
      cases taken
      exact .inl (startExport_aside (perm_filterMap_getElem? system.files permuted))
    · cases taken
  | advance =>
    obtain ⟨running, isRunning, rfl⟩ := Option.map_eq_some_iff.mp taken
    exact .inr ⟨running, isRunning, rfl⟩
  | crash =>
    cases taken
    exact .inl ⟨rfl, rfl, rfl, by rintro _ ⟨⟩⟩

/-- What a step does to the checkpoint and to the files. -/
inductive Changes (host : Host) (root : String) (system next : System) : Prop
  /-- Nothing, and no export has come to have its checkpoint written. -/
  | quiet
      (sameCheckpoint : next.catalog.checkpoint = system.catalog.checkpoint)
      (sameFiles : next.files = system.files)
      (recorded : ∀ later, next.exporter = some later → later.stage.recorded = true →
        ∃ running, system.exporter = some running ∧ running.stage.recorded = true)
  /-- An export writes its checkpoint. -/
  | checkpoint (running : Running)
      (isRunning : system.exporter = some running)
      (unrecorded : running.stage.recorded = false)
      (written : next.catalog = writeCheckpoint system.catalog running.state)
      (sameFiles : next.files = system.files)
  /-- An export publishes, or finds the name taken. -/
  | publish
      (sameCatalog : next.catalog = system.catalog)
      (grown : next.files = system.files ∨ next.files ≠ [])
      (unrecorded : ∀ later, next.exporter = some later → later.stage.recorded = false)

theorem advance_changes (isRunning : system.exporter = some running) :
    Changes host root system (advance host root system running) := by
  cases isRecorded : running.stage.recorded with
  | false =>
    obtain ⟨written, sameFiles⟩ := advance_unrecorded isRecorded
    exact .checkpoint running isRunning isRecorded written sameFiles
  | true =>
    by_cases publishes : ∃ entry rest, running.stage = .publish (entry :: rest)
    · obtain ⟨entry, rest, atStage⟩ := publishes
      rw [advance_publish running atStage (List.cons_ne_nil _ _)]
      unfold publishSegment
      dsimp only
      split
      · exact .publish rfl (.inl rfl) (by rintro _ ⟨⟩)
      · have grown (file : SegmentFile) : system.files ++ [file] ≠ [] := by simp
        split
        · exact .publish rfl (.inr (grown _)) (by rintro _ ⟨⟩)
        · exact .publish rfl (.inr (grown _)) (by rintro _ ⟨⟩; rfl)
    · obtain ⟨sameCatalog, sameFiles⟩ := advance_frame isRecorded
        fun entry rest atStage => publishes ⟨entry, rest, atStage⟩
      exact .quiet (congrArg Catalog.checkpoint sameCatalog) sameFiles
        fun _ _ _ => ⟨running, isRunning, isRecorded⟩

/-- What one action changes. -/
theorem step_changes (taken : step host root system action = some next) :
    Changes host root system next := by
  rcases step_cases taken with aside | ⟨running, isRunning, rfl⟩
  · refine .quiet aside.sameCheckpoint aside.sameFiles ?_
    intro later isLater recorded
    rcases aside.exporter later isLater with same | ⟨atStart, _⟩
    · exact ⟨later, same, recorded⟩
    · rw [atStart] at recorded
      cases recorded
  · exact advance_changes isRunning

/-! ## The checkpoint along a run -/

/-- Where an export has still to write its checkpoint, it holds the state of the
journal. -/
theorem StageHolds.state_eq
    (holds : StageHolds host catalog state held stage)
    (unrecorded : stage.recorded = false) : held = state := by
  cases stage with
  | checkpoint | checkpointPublished => exact holds
  | selectReceipts | selectEvents | publish | seekAnchor | shipFile | shipAnchor =>
    cases unrecorded

/-- The checkpoint that an export writes is that of the journal. -/
theorem mirrors_of_unrecorded
    (consistent : Consistent host root system)
    (nextConsistent : Consistent host root next)
    (isRunning : system.exporter = some running)
    (unrecorded : running.stage.recorded = false)
    (written : next.catalog = writeCheckpoint system.catalog running.state)
    (sameFiles : next.files = system.files)
    (journalled : Journalled host root next.catalog next.files entries state) :
    Mirrors next.catalog state := by
  obtain ⟨_, known, isKnown, holds⟩ := consistent.journalled
  have held := (holds running isRunning).state_eq unrecorded
  rw [sameFiles] at journalled
  rw [journalled.state_eq isKnown nextConsistent.ordered consistent.ordered, written, ← held]
  exact mirrors_writeCheckpoint

/-- The checkpoint stays the right one while it and the files stay. -/
theorem Mirrors.carry
    (consistent : Consistent host root system)
    (nextConsistent : Consistent host root next)
    (mirrors : ∀ entries state, Journalled host root system.catalog system.files entries state →
      Mirrors system.catalog state)
    (sameCheckpoint : next.catalog.checkpoint = system.catalog.checkpoint)
    (sameFiles : next.files = system.files)
    (journalled : Journalled host root next.catalog next.files entries state) :
    Mirrors next.catalog state := by
  obtain ⟨_, known, isKnown, _⟩ := consistent.journalled
  rw [sameFiles] at journalled
  rw [journalled.state_eq isKnown nextConsistent.ordered consistent.ordered]
  intro filename publishedAt isFilename isPublishedAt
  rw [sameCheckpoint]
  exact mirrors _ known isKnown filename publishedAt isFilename isPublishedAt

/-- One step keeps the checkpoint of a running export. -/
theorem Recorded.step
    (recorded : Recorded host root system)
    (consistent : Consistent host root system)
    (taken : step host root system action = some next) : Recorded host root next := by
  have nextConsistent := step_consistent consistent taken
  intro later isLater isRecorded entries state journalled
  cases step_changes taken with
  | quiet sameCheckpoint sameFiles earlier =>
    obtain ⟨running, isRunning, runningRecorded⟩ := earlier later isLater isRecorded
    exact Mirrors.carry consistent nextConsistent
      (recorded running isRunning runningRecorded) sameCheckpoint sameFiles journalled
  | checkpoint running isRunning unrecorded written sameFiles =>
    exact mirrors_of_unrecorded consistent nextConsistent isRunning unrecorded written
      sameFiles journalled
  | publish _ _ unrecorded =>
    rw [unrecorded later isLater] at isRecorded
    cases isRecorded

/-- Before the first publication no step writes a checkpoint. -/
theorem noCheckpoint_step
    (consistent : Consistent host root system)
    (kept : system.files = [] → system.catalog.checkpoint = none)
    (taken : step host root system action = some next)
    (noFiles : next.files = []) :
    next.catalog.checkpoint = none := by
  cases step_changes taken with
  | quiet sameCheckpoint sameFiles _ => exact sameCheckpoint.trans (kept (sameFiles ▸ noFiles))
  | checkpoint running isRunning unrecorded written sameFiles =>
    obtain ⟨_, known, isKnown, holds⟩ := consistent.journalled
    obtain ⟨segments, published, isFiles⟩ := isKnown.published
    rw [sameFiles] at noFiles
    rw [written, (holds running isRunning).state_eq unrecorded]
    cases published with
    | empty => exact kept noFiles
    | publish => simp [noFiles] at isFiles
  | publish sameCatalog grown _ =>
    rw [sameCatalog]
    rcases grown with sameFiles | grown
    · exact kept (sameFiles ▸ noFiles)
    · exact absurd noFiles grown

/-- When an export returns, the checkpoint is that of the journal. -/
theorem mirrors_of_returns
    (recorded : Recorded host root system)
    (consistent : Consistent host root system)
    (isRunning : system.exporter = some running)
    (returns : running.stage.returns = true)
    (journalled : Journalled host root (advance host root system running).catalog
      (advance host root system running).files entries state) :
    Mirrors (advance host root system running).catalog state := by
  have nextConsistent := advance_consistent consistent isRunning
  cases isRecorded : running.stage.recorded with
  | false =>
    obtain ⟨written, sameFiles⟩ := advance_unrecorded isRecorded
    exact mirrors_of_unrecorded consistent nextConsistent isRunning isRecorded written
      sameFiles journalled
  | true =>
    obtain ⟨sameCatalog, sameFiles⟩ := advance_frame isRecorded fun entry rest atStage => by
      rw [atStage] at returns
      cases returns
    exact Mirrors.carry consistent nextConsistent (recorded running isRunning isRecorded)
      (congrArg Catalog.checkpoint sameCatalog) sameFiles journalled

end Steps

/-! ## Completed exports -/

/-- The invariant of a run, with its checkpoint. -/
theorem recorded_of_run (ended : Transition.run (step host root) System.initial actions =
      some final) :
    Consistent host root final ∧ Recorded host root final ∧
      (final.files = [] → final.catalog.checkpoint = none) :=
  Transition.invariant_of_run (step host root)
    (fun system => Consistent host root system ∧ Recorded host root system ∧
      (system.files = [] → system.catalog.checkpoint = none))
    (fun _ _ _ kept taken => ⟨step_consistent kept.1 taken, kept.2.1.step kept.1 taken,
      noCheckpoint_step kept.1 kept.2.2 taken⟩)
    ⟨initial_consistent host root, by rintro _ ⟨⟩, fun _ => rfl⟩ ended

/-- Checkpoint and checker agree on the journal; without a segment there is neither a
walk nor a checkpoint. -/
def Agrees (catalog : Catalog) (listing : List SegmentFile) (report : WalkReport) : Prop :=
  if listing = [] then catalog.checkpoint = none
  else
    report.issues = [] ∧ ∃ checkpoint, catalog.checkpoint = some checkpoint ∧
      checkpoint.globalSequence = report.state.globalSequence ∧
      checkpoint.headHash = report.state.headHash ∧
      checkpoint.cursors = report.state.cursors

/-- A published journal agrees with the checkpoint of its state. -/
theorem Published.agrees
    (published : Published host root segments entries state)
    (bounded : entries.length < 10 ^ 20)
    (permuted : listing.Perm (segments.map Segment.file))
    (nonempty : listing ≠ [])
    (mirrors : Mirrors catalog state) :
    ∃ report, walkJournal host root listing = .ok report ∧ Agrees catalog listing report := by
  have some : segments ≠ [] := by
    rintro rfl
    exact nonempty (List.Perm.eq_nil permuted)
  refine ⟨_, published.accepted some bounded permuted, ?_⟩
  unfold Agrees
  rw [if_neg nonempty]
  refine ⟨rfl, ?_⟩
  cases published with
  | empty => exact absurd rfl some
  | publish => exact ⟨_, mirrors _ _ rfl rfl, rfl, rfl, rfl⟩

/-- After a statement with which an export returns, the checkpoint is that of the
published journal. -/
theorem mirrored_of_export
    {before : System}
    (reached : Transition.run (step host root) System.initial actions = some before)
    (isRunning : before.exporter = some running)
    (returns : running.stage.returns = true)
    (taken : step host root before .advance = some final) :
    ∃ segments entries state, Published host root segments entries state ∧
      final.files = segments.map Segment.file ∧ entries.length < 10 ^ 20 ∧
      Mirrors final.catalog state := by
  obtain ⟨consistent, recorded, _⟩ := recorded_of_run reached
  have nextConsistent := step_consistent consistent taken
  obtain ⟨entries, state, journalled, _⟩ := nextConsistent.journalled
  obtain ⟨segments, published, isFiles⟩ := journalled.published
  refine ⟨segments, entries, state, published, isFiles,
    journalled.length_lt nextConsistent.ordered, ?_⟩
  obtain ⟨_, isSame, rfl⟩ := Option.map_eq_some_iff.mp taken
  cases isRunning.symm.trans isSame
  exact mirrors_of_returns recorded consistent isRunning returns journalled

/-- However often exports have died before, after a statement with which one returns the
checker walks the journal without an issue and ends with what the checkpoint says. -/
theorem agrees_of_export
    (host : Host)
    (root : String)
    (actions : List Action)
    (before final : System)
    (running : Running)
    (reached : Transition.run (step host root) System.initial actions = some before)
    (isRunning : before.exporter = some running)
    (returns : running.stage.returns = true)
    (taken : step host root before .advance = some final)
    (listing : List SegmentFile)
    (permuted : listing.Perm final.files) : ∃ report, walkJournal host root listing = .ok report ∧
      Agrees final.catalog listing report := by
  by_cases empty : listing = []
  · rw [empty] at permuted ⊢
    have listed : publishedSegments host root [] = .ok [] :=
      Published.empty.listed (by decide) (List.Perm.refl _)
    obtain ⟨consistent, _, blank⟩ := recorded_of_run reached
    refine ⟨_, by rw [walkJournal, listed], ?_⟩
    exact noCheckpoint_step consistent blank taken permuted.symm.eq_nil
  · obtain ⟨segments, entries, state, published, isFiles, bounded, mirrors⟩ :=
      mirrored_of_export reached isRunning returns taken
    exact published.agrees bounded (isFiles ▸ permuted) empty mirrors

theorem agrees_of_export_exported : ∃ before final,
    step lengthHost "journal" before .advance = some final ∧ final.files.length = 1 ∧
      ∃ report, walkJournal lengthHost "journal" final.files = .ok report ∧
        Agrees final.catalog final.files report := by
  obtain ⟨before, running, final, reached, isRunning, stage, _, taken, _, _, one⟩ :=
    exists_publish_initial
  have returns : running.stage.returns = true := by rw [stage]; rfl
  exact ⟨before, final, taken, one, agrees_of_export lengthHost "journal" _ before final running
    reached isRunning returns taken final.files (List.Perm.refl _)⟩

end Journal
end Sutradhara
