import Sutradhara.Journal.Export

/-!
# Published journals

A journal that only the exporter has written is found and read back whatever the
order of its files, its last footer records its state, and the walk of the
checker accepts it.
-/

namespace Sutradhara
namespace Journal

open Foundation Foundation.Json Foundation.Raising List Line

/-! ## Names -/

theorem ofDigitChars_replicate_zero (count : Nat) :
    Nat.ofDigitChars 10 (List.replicate count '0' ++ digits) 0 = Nat.ofDigitChars 10 digits 0 := by
  induction count with
  | zero => rfl
  | succ count ih => exact ih

theorem length_padded (bounded : value < 10 ^ 20) : (padded value).length = 20 := by
  have short : (Nat.toDigits 10 value).length ≤ 20 := by
    exact (Nat.length_toDigits_le_iff (by decide) (by decide)).mpr bounded
  rw [padded, List.leftpad, length_append, length_replicate]
  omega

/-- A padded number is read back. -/
theorem readPadded_padded (bounded : value < 10 ^ 20) :
    readPadded host (padded value) = some value := by
  have digits : ∀ char ∈ padded value, host.digit char = some (char.toNat - '0'.toNat) := by
    simp only [padded, List.leftpad, mem_append]
    rintro char (zero | digit)
    · exact host.digit_of_isDigit char (by rw [eq_of_mem_replicate zero]; rfl)
    · exact host.digit_of_isDigit char (Nat.isDigit_of_mem_toDigits (by decide) (by decide) digit)
  have read : (padded value).foldl (fun value char => 10 * value + (host.digit char).getD 0) 0 =
      Nat.ofDigitChars 10 (padded value) 0 :=
    foldl_ext _ _ _ fun _ char member => by rw [digits char member]; rfl
  rw [readPadded, if_pos ⟨length_padded bounded, all_eq_true.mpr fun char member => by
    rw [digits char member]; rfl⟩, read, padded, List.leftpad, ofDigitChars_replicate_zero,
    Nat.ofDigitChars_ten_toDigits]

/-- The name of a segment is read back as its range. -/
theorem segmentRange_segmentName (startBounded : start < 10 ^ 20) (stopBounded : stop < 10 ^ 20) :
    segmentRange host (segmentName start stop) = some (start, stop) := by
  have stem : nameStem.length = 18 := by decide +kernel
  have startLength := length_padded startBounded
  have stopLength := length_padded stopBounded
  have first : (((nameStem ++ (padded start ++ '-' ::
      (padded stop ++ nameEnd))).drop 18).take 20) = padded start := by
    rw [← stem, drop_left, ← startLength, take_left]
  have second : (((nameStem ++ (padded start ++ '-' ::
      (padded stop ++ nameEnd))).drop 39).take 20) = padded stop := by
    have regroup : nameStem ++ (padded start ++ '-' :: (padded stop ++ nameEnd)) =
        (nameStem ++ padded start ++ ['-']) ++ (padded stop ++ nameEnd) := by
      simp
    have length : (nameStem ++ padded start ++ ['-']).length = 39 := by simp [stem, startLength]
    rw [regroup, ← length, drop_left, ← stopLength, take_left]
  simp only [segmentRange, segmentName, String.toList_ofList, first, second,
    readPadded_padded startBounded, readPadded_padded stopBounded]
  rfl

/-! ## Segment files -/

variable {sequence : Nat}

section

variable (host : Host) (prevHash : String)

theorem footer_kind : Dict.get (footerDocument host fields) "kind" = .str "footer" := by
  simp [footerDocument, footerMembers, Dict.get_cons]

theorem carried?_footerDocument :
    (written (.obj (footerDocument host fields))).carried? = none := by
  simp [carried?, written, entryOf?, equalsText, footerDocument, footerMembers, Dict.get_cons]

theorem isBlank_written_obj : (written (.obj members)).isBlank = false := by
  have starts : isSpace openBrace = false := by decide
  simp [isBlank, written, canonicalJson, Value.print, starts]

/-- The lines of the entries from a first sequence number. -/
def entryLines (host : Host) : Nat → String → List SourceEntry → List Line
  | _, _, [] => []
  | sequence, prevHash, entry :: rest =>
    written (.obj (entryDocument host sequence prevHash entry)) ::
      entryLines host (sequence + 1) (entryHash host sequence prevHash entry) rest

/-- The writer appends the lines of its entries. -/
theorem writeEntries_lines
    (sequence : Nat)
    (writer : Writer)
    (entries : List SourceEntry) : (writeEntries host sequence writer entries).lines =
      writer.lines ++ entryLines host sequence writer.headHash entries := by
  induction entries generalizing sequence writer with
  | nil => exact (append_nil _).symm
  | cons entry rest ih =>
    rw [writeEntries, ih, append_assoc]
    rfl

/-- The lines of entries carry these entries. -/
theorem entries_entryLines :
    (entryLines host sequence prevHash entries).filterMap carried? =
      numberFrom sequence entries := by
  induction entries generalizing sequence prevHash with
  | nil => rfl
  | cons entry rest ih =>
    have carried : (written (.obj (entryDocument host sequence prevHash entry))).carried? =
        some ⟨sequence, entry⟩ := by
      simp [carried?, written, entryOf?, entryDocument, Dict.get_cons, Except.toOption]
    rw [entryLines, filterMap_cons_some carried, ih, numberFrom]

/-- Writer and walk compute the same head and the same cursors. -/
theorem writeEntries_follow (host : Host) (sequence : Nat) (writer : Writer) :
    let walk := entries.foldl (Walk.follow host) ⟨sequence, writer.headHash, writer.cursors⟩
    (writeEntries host sequence writer entries).headHash = walk.expectedHash ∧
      (writeEntries host sequence writer entries).cursors = walk.cursors := by
  induction entries generalizing sequence writer with
  | nil => exact ⟨rfl, rfl⟩
  | cons entry rest ih => exact ih _ _

/-- The head of a writer stays a digest. -/
theorem writeEntries_isSha256
    (sequence : Nat)
    (writer : Writer)
    (digest : isSha256 writer.headHash = true) :
    isSha256 (writeEntries host sequence writer entries).headHash = true := by
  induction entries generalizing sequence writer with
  | nil => exact digest
  | cons entry rest ih => exact ih _ _ (host.sha256_isSha256 _)

/-- The entries of one table. -/
def ofSource (source : Source) (entries : List SourceEntry) : List SourceEntry :=
  entries.filter fun entry => decide (entry.source = source)

/-- The cursor of a table moves to the last of its rows. -/
theorem writeEntries_cursors (writer : Writer) (entries : List SourceEntry) (source : Source) :
    (writeEntries host sequence writer entries).cursors source =
      Cursor.advance SourceEntry.eventId (writer.cursors source) (ofSource source entries) := by
  unfold ofSource
  induction entries generalizing sequence writer with
  | nil => rfl
  | cons entry rest ih =>
    rw [writeEntries, ih]
    by_cases same : entry.source = source
    · rw [filter_cons_of_pos (by simpa using same), Cursor.advance]
      simp [same]
    · rw [filter_cons_of_neg (by simpa using same)]
      simp [Function.update_of_ne (Ne.symm same)]

end

section SegmentFile

variable (host : Host) (root : String) (previous : JournalState)
variable (entries : List SourceEntry) (now : Instant)

/-- The state an export records by publishing a segment. -/
def stateAfter : JournalState where
  globalSequence := previous.globalSequence + entries.length
  headHash := (segmentFooter host previous entries now).headHash
  cursors := (segmentFooter host previous entries now).cursors
  publishedFilename := some ((segmentFile host previous entries now).path root)
  publishedAt := some now

/-- The published segment that holds the new entries. -/
def newSegment : Segment where
  file := segmentFile host previous entries now
  footer := footerDocument host (segmentFooter host previous entries now)
  start := previous.globalSequence + 1
  stop := previous.globalSequence + entries.length

/-- A segment file carries the entries of its export, numbered. -/
theorem entries_segmentFile : (segmentFile host previous entries now).entries =
      numberFrom (previous.globalSequence + 1) entries := by
  simp [segmentFile, SegmentFile.entries, carried?_footerDocument,
    writeEntries_lines, entries_entryLines]

variable {previous entries}
variable (digest : isSha256 previous.headHash = true)
variable (nonempty : entries ≠ [])

include digest nonempty

/-- The footer of an export is valid. -/
theorem validateFooter_segmentFooter : validateFooter host
      (footerDocument host (segmentFooter host previous entries now)) =
      .ok () :=
  validateFooter_footerDocument host _ (writeEntries_isSha256 host _ _ digest)
    (fun zero => nonempty (length_eq_zero_iff.mp zero))

/-- The footer of an export is read back as the state after it. -/
theorem stateFromFooter_segmentFooter (path : String) : stateFromFooter host
      (footerDocument host (segmentFooter host previous entries now)) path =
      .ok { stateAfter host root previous entries now with publishedFilename := some path } :=
  stateFromFooter_footerDocument host _ path now (writeEntries_isSha256 host _ _ digest)
    (fun zero => nonempty (length_eq_zero_iff.mp zero)) rfl

/-- The footer of an export is found at the end of its file. -/
theorem readFooter_segmentFile (path : String) :
    readFooter host path (segmentFile host previous entries now) =
      .ok (footerDocument host (segmentFooter host previous entries now)) := by
  have valid := validateFooter_segmentFooter host now digest nonempty
  have last : ((segmentFile host previous entries now).lines.filter
      fun line => !line.isBlank).getLast? =
      some (written (.obj (footerDocument host (segmentFooter host previous entries now)))) := by
    simp [segmentFile, isBlank_written_obj]
  unfold readFooter
  rw [last]
  simp [written, footer_kind, valid]

/-- A new segment is found and read back. -/
theorem readSegment_segmentFile (bounded : previous.globalSequence + entries.length < 10 ^ 20) :
    readSegment host root (segmentFile host previous entries now) =
      .ok (some (newSegment host previous entries now)) := by
  have positive : 0 < entries.length := length_pos_iff.mpr nonempty
  have range : segmentRange host (segmentFile host previous entries now).name =
      some (previous.globalSequence + 1, previous.globalSequence + entries.length) :=
    segmentRange_segmentName (by omega) bounded
  have day : isDay (segmentFile host previous entries now).day = true := host.day_isDay now
  have start : (segmentFooter host previous entries now).segmentStartSequence =
      previous.globalSequence + 1 := rfl
  have stop : (segmentFooter host previous entries now).globalSequence =
      previous.globalSequence + entries.length := rfl
  have footerRead := readFooter_segmentFile host now digest nonempty
  simp [readSegment, range, day, footerRead, footerDocument, footerMembers, Dict.get_cons, start,
    stop, newSegment]

end SegmentFile

/-! ## Acceptance -/

/-- Entries that an export may publish after the given cursors: ordered by table
and identifier, beyond the cursors, with their identifiers in the payloads. -/
structure Sequenced (cursors : Cursors) (entries : List SourceEntry) : Prop where
  ordered : entries.Pairwise fun first second => orderAtMost second.order first.order = false
  beyond : ∀ entry ∈ entries, cursors entry.source < entry.eventId
  named : ∀ entry ∈ entries, Dict.get entry.payload "event_id" = .nat entry.eventId

/-- The rest of a sequence comes after its first entry. -/
theorem Sequenced.tail (sequenced : Sequenced cursors (entry :: rest)) :
    Sequenced (Function.update cursors entry.source entry.eventId) rest := by
  obtain ⟨first, ordered⟩ := pairwise_cons.mp sequenced.ordered
  refine ⟨ordered, ?_, fun other member => sequenced.named other (mem_cons_of_mem entry member)⟩
  intro other member
  by_cases same : other.source = entry.source
  · rw [same, Function.update_self]
    have later := first other member
    simp only [orderAtMost, SourceEntry.order, same, Nat.lt_irrefl, decide_false,
      beq_self_eq_true, Bool.true_and, Bool.false_or, decide_eq_false_iff_not] at later
    omega
  · rw [Function.update_of_ne same]
    exact sequenced.beyond other (mem_cons_of_mem entry member)

section

variable (host : Host) (lineNumber : Nat)

theorem knownSource_name : knownSource host lineNumber (.str source.name) = .ok source := by
  simp [knownSource]

/-- The checker follows an entry that continues the journal. -/
theorem checkEntry_entryDocument
    (later : (state.previousOrder.all fun previous =>
      !orderAtMost entry.order previous) = true)
    (beyond : state.walk.cursors entry.source < entry.eventId)
    (named : Dict.get entry.payload "event_id" = .nat entry.eventId) : checkEntry host lineNumber
      (entryDocument host state.walk.expectedSequence state.walk.expectedHash
        entry) state = .ok (state.follow host entry) := by
  have checksum := constantTimeEqual_hashJson host (.obj entry.payload)
  have linkHash := constantTimeEqual_hashJson host
    (linkDocument state.walk.expectedSequence state.walk.expectedHash (entry.linkItem host))
  rw [SourceEntry.linkItem] at linkHash
  rw [SourceEntry.order] at later
  simp [checkEntry, entryDocument, Dict.get_cons, ensureLine, knownSource_name, later, beyond,
    named, checksum, entryHash, SourceEntry.linkItem, linkHash]
  rfl

/-- The walk follows the lines of a sequence. -/
theorem checkLines_entryLines
    {state : SegmentWalk}
    (sequenced : Sequenced state.walk.cursors entries)
    (later : ∀ entry ∈ entries, (state.previousOrder.all fun previous =>
      !orderAtMost entry.order previous) = true)
    (open_ : state.footer = none) : checkLines host lineNumber
      (entryLines host state.walk.expectedSequence state.walk.expectedHash
        entries ++ remaining) state =
      checkLines host (lineNumber + entries.length) remaining
        (entries.foldl (SegmentWalk.follow host) state) := by
  induction entries generalizing lineNumber state with
  | nil => rfl
  | cons entry rest ih =>
    have line : checkLine host lineNumber
        (written (.obj (entryDocument host state.walk.expectedSequence
          state.walk.expectedHash entry))) state =
        .ok (state.follow host entry) := by
      have entryKind : equalsText (.str "entry") "footer" = false := by decide +kernel
      have kind : Dict.get (entryDocument host state.walk.expectedSequence
          state.walk.expectedHash entry) "kind" = .str "entry" := by
        simp [entryDocument, Dict.get_cons]
      simp [checkLine, written, ensureLine, open_, kind, entryKind,
        checkEntry_entryDocument host lineNumber (later entry mem_cons_self)
          (sequenced.beyond entry mem_cons_self) (sequenced.named entry mem_cons_self)]
    have ordered := (pairwise_cons.mp sequenced.ordered).1
    rw [entryLines, cons_append, checkLines, line, length_cons, Nat.add_comm rest.length,
      ← Nat.add_assoc]
    refine @ih (lineNumber + 1) (state.follow host entry) sequenced.tail ?_ open_
    intro other member
    simpa [SegmentWalk.follow] using ordered other member

end

section

variable (host : Host) (root : String) (previous : JournalState) (entries : List SourceEntry)
  (now : Instant)

theorem follow_segmentWalk (state : SegmentWalk) (entries : List SourceEntry) :
    (entries.foldl (SegmentWalk.follow host) state).walk =
        entries.foldl (Walk.follow host) state.walk ∧
      (entries.foldl (SegmentWalk.follow host) state).entryCount =
        state.entryCount + entries.length ∧
      (entries.foldl (SegmentWalk.follow host) state).footer = state.footer := by
  induction entries generalizing state with
  | nil => exact ⟨rfl, rfl, rfl⟩
  | cons entry rest ih =>
    obtain ⟨walk, count, footer⟩ := ih (state.follow host entry)
    have one : (state.follow host entry).entryCount = state.entryCount + 1 := rfl
    refine ⟨walk, ?_, footer⟩
    rw [foldl_cons, length_cons]
    omega

/-- The walk at the end of a published journal. -/
def JournalState.walk (state : JournalState) : Walk where
  expectedSequence := state.globalSequence + 1
  expectedHash := state.headHash
  cursors := state.cursors

theorem follow_walk : entries.foldl (Walk.follow host) previous.walk =
      (stateAfter host root previous entries now).walk := by
  obtain ⟨head, cursors⟩ := writeEntries_follow host
    (previous.globalSequence + 1) ⟨[], previous.headHash, previous.cursors⟩
  refine Walk.ext ?_ head.symm cursors.symm
  rw [follow_expectedSequence]
  exact Nat.add_right_comm _ 1 _

/-- The head after an export is the head of the chain over its entries. -/
theorem headHash_stateAfter : (stateAfter host root previous entries now).headHash =
      HashChain.head (hashJson host) linkDocument (previous.globalSequence + 1)
        previous.headHash (entries.map (SourceEntry.linkItem host)) := by
  have walked := congrArg Walk.expectedHash (follow_walk host root previous entries now)
  rw [follow_expectedHash] at walked
  exact walked.symm

theorem checkLines_footer
    (lineNumber : Nat)
    (fields : FooterFields)
    (open_ : state.footer = none) :
    checkLines host lineNumber [written (.obj (footerDocument host fields))] state =
      .ok { state with footer := some (footerDocument host fields) } := by
  simp [checkLines, checkLine, written, ensureLine, footer_kind, open_]

/-- The footer of a new segment agrees with the walk over its entries. -/
theorem footerMatches_segmentFooter
    (walked : state.walk = (stateAfter host root previous entries now).walk)
    (counted : state.entryCount = entries.length) :
    footerMatches host previous.walk.expectedSequence state
      (footerDocument host (segmentFooter host previous entries now))
      (cursorMembers (segmentFooter host previous entries now)) = true := by
  have start : (segmentFooter host previous entries now).segmentStartSequence =
      previous.walk.expectedSequence := rfl
  have count : (segmentFooter host previous entries now).entryCount =
      state.entryCount := counted.symm
  have sequence : ((state.walk.expectedSequence : Int) - 1) =
      ((segmentFooter host previous entries now).globalSequence : Nat) := by
    rw [walked]
    exact Int.add_sub_cancel (previous.globalSequence + entries.length : Nat) 1
  have head : (segmentFooter host previous entries now).headHash = state.walk.expectedHash := by
    rw [walked]
    rfl
  have cursors : (segmentFooter host previous entries now).cursors = state.walk.cursors := by
    rw [walked]
    rfl
  simp [footerMatches, footerDocument, footerMembers, Dict.get_cons, start, count, sequence, head,
    cursors]

end

/-- A segment whose lines and footer pass is accepted. -/
theorem checkSegment_of_checkLines
    (lines : checkLines host 1 file.lines (SegmentWalk.start walk) = .ok state)
    (found : state.footer = some footer)
    (valid : validateFooter host footer = .ok ())
    (listed : Dict.get footer "cursors" = .obj cursors)
    (matching : footerMatches host walk.expectedSequence state footer cursors = true) :
    checkSegment host file walk = .ok ⟨state.entryCount, state.walk, footer⟩ := by
  simp only [checkSegment, lines, ok_bind, walkedFooter, found, valid, listed, dict_obj, matching]
  rfl

section CheckSegment

variable (host : Host) (root : String) {previous : JournalState}
variable {entries : List SourceEntry} (now : Instant)
variable (digest : isSha256 previous.headHash = true)
variable (nonempty : entries ≠ [])
variable (sequenced : Sequenced previous.cursors entries)

include digest nonempty sequenced

/-- The walk accepts a segment that the exporter has written. -/
theorem checkSegment_segmentFile :
    checkSegment host (segmentFile host previous entries now) previous.walk =
      .ok { entryCount := entries.length
            walk := (stateAfter host root previous entries now).walk
            footer := footerDocument host (segmentFooter host previous entries now) } := by
  obtain ⟨walk, count, noFooter⟩ := follow_segmentWalk host
    (SegmentWalk.start previous.walk) entries
  have walked := walk.trans (follow_walk host root previous entries now)
  have counted := count.trans (Nat.zero_add entries.length)
  have written : (segmentFile host previous entries now).lines =
      entryLines host (SegmentWalk.start previous.walk).walk.expectedSequence
        (SegmentWalk.start previous.walk).walk.expectedHash entries ++
      [written (.obj (footerDocument host (segmentFooter host previous entries now)))] := by
    simp [segmentFile, writeEntries_lines, SegmentWalk.start, JournalState.walk]
  have lines := checkLines_footer host (1 + entries.length)
    (segmentFooter host previous entries now) noFooter
  rw [← checkLines_entryLines host 1 sequenced (fun _ _ => rfl) rfl, ← written] at lines
  rw [checkSegment_of_checkLines lines rfl (validateFooter_segmentFooter host now digest nonempty)
    (by simp [footerDocument, footerMembers, cursorMembers, Dict.get_cons])
    (footerMatches_segmentFooter host root previous entries now walked counted)]
  simp only [counted, walked]

end CheckSegment

/-! ## Published journals -/

/-- A journal grown from nothing by publishing segments: the segments, all
entries and the state of the last footer. -/
inductive Published (host : Host) (root : String) :
    List Segment → List SourceEntry → JournalState → Prop
  | empty : Published host root [] [] (JournalState.initial host)
  | publish
      {segments : List Segment}
      {entries : List SourceEntry}
      {state : JournalState}
      (published : Published host root segments entries state)
      (batch : List SourceEntry)
      (nonempty : batch ≠ [])
      (sequenced : Sequenced state.cursors batch)
      (now : Instant) :
      Published host root (segments ++ [newSegment host state batch now])
        (entries ++ batch) (stateAfter host root state batch now)

/-- A segment that adjoins the last one keeps the ranges contiguous. -/
theorem checkContiguous_concat
    {segment : Segment}
    (contiguous : checkContiguous segments = .ok ())
    (adjoins : ∀ last, segments.getLast? = some last → segment.start = last.stop + 1) :
    checkContiguous (segments ++ [segment]) = .ok () := by
  induction segments with
  | nil => rfl
  | cons first rest ih =>
    cases rest with
    | nil =>
      have adjoining := adjoins first rfl
      simp [checkContiguous, adjoining]
    | cons second others =>
      obtain ⟨_, adjoining, later⟩ := exists_of_bind_eq_ok contiguous
      have starts := eq_true_of_require adjoining
      have ended := ih later fun last isLast =>
        adjoins last (by rw [getLast?_cons_cons]; exact isLast)
      rw [cons_append, cons_append, checkContiguous, starts]
      exact ended

/-- The segment of a file that is read without an exception. -/
def foundSegment (host : Host) (root : String) (file : SegmentFile) : Option Segment :=
  (readSegment host root file).toOption.join

/-- Segments are read one by one where each file is one. -/
theorem readSegments_eq
    (readable : ∀ file ∈ listing, ∃ segment, readSegment host root file = .ok (some segment)) :
    readSegments host root listing = .ok (listing.filterMap (foundSegment host root)) := by
  induction listing with
  | nil => rfl
  | cons file rest ih =>
    obtain ⟨segment, read⟩ := readable file mem_cons_self
    have others := ih fun other member => readable other (mem_cons_of_mem file member)
    have found : foundSegment host root file = some segment := by
      rw [foundSegment, read]
      rfl
    simp [readSegments, read, others, found]

namespace Published

variable {host : Host} {root : String}
variable {segments : List Segment} {entries : List SourceEntry}
variable {state : JournalState}

section Reading

variable (published : Published host root segments entries state)
include published

/-- The state counts the entries. -/
theorem globalSequence : state.globalSequence = entries.length := by
  induction published with
  | empty => rfl
  | publish published batch nonempty sequenced now ih =>
    rw [length_append, ← ih]
    rfl

theorem headHash : isSha256 state.headHash = true := by
  induction published with
  | empty => exact host.sha256_isSha256 _
  | publish published batch nonempty sequenced now ih => exact writeEntries_isSha256 host _ _ ih

/-- The segments carry the entries, numbered from one. -/
theorem carried :
    segments.flatMap (fun segment => segment.file.entries) = numberFrom 1 entries := by
  induction published with
  | empty => rfl
  | publish published batch nonempty sequenced now ih =>
    rw [flatMap_append, ih, numberFrom_append, flatMap_singleton, newSegment, entries_segmentFile,
      published.globalSequence, Nat.add_comm 1]

/-- The last footer records the state. -/
theorem latestState : latestState host root segments = .ok state := by
  cases published with
  | empty => rfl
  | publish published batch nonempty sequenced now =>
    rw [Journal.latestState, getLast?_concat]
    exact stateFromFooter_segmentFooter host root now published.headHash nonempty _

/-- Every published file is read as its segment. -/
theorem readSegment
    {segment : Segment}
    (bounded : entries.length < 10 ^ 20)
    (member : segment ∈ segments) : readSegment host root segment.file = .ok (some segment) := by
  induction published with
  | empty => cases member
  | publish published batch nonempty sequenced now ih =>
    rw [length_append] at bounded
    rcases mem_append.mp member with member | member
    · exact ih (by omega) member
    · rw [mem_singleton.mp member]
      refine readSegment_segmentFile host root now published.headHash nonempty ?_
      rw [published.globalSequence]
      exact bounded

theorem start_le {segment : Segment} (member : segment ∈ segments) :
    segment.start ≤ entries.length := by
  induction published with
  | empty => cases member
  | publish published batch nonempty sequenced now ih =>
    rw [length_append]
    rcases mem_append.mp member with member | member
    · have := ih member
      omega
    · have positive := length_pos_iff.mpr nonempty
      rw [mem_singleton.mp member, newSegment, published.globalSequence]
      show _ + 1 ≤ _
      omega

theorem starts_ascending : Cursor.Ascending Segment.start segments := by
  induction published with
  | empty => exact List.Pairwise.nil
  | publish published batch nonempty sequenced now ih =>
    refine ih.append_singleton ?_
    intro segment member
    rw [newSegment, published.globalSequence]
    exact Nat.lt_succ_of_le (published.start_le member)

theorem stop_last (isLast : segments.getLast? = some last) : last.stop = state.globalSequence := by
  cases published with
  | empty => cases isLast
  | publish published batch nonempty sequenced now =>
    rw [getLast?_concat] at isLast
    cases isLast
    rfl

/-- The ranges of a published journal are contiguous. -/
theorem contiguous : checkContiguous segments = .ok () := by
  induction published with
  | empty => rfl
  | publish published batch nonempty sequenced now ih =>
    refine checkContiguous_concat ih ?_
    intro last isLast
    rw [published.stop_last isLast]
    rfl

/-- Every listing of some of the files leads back to their segments, unless these are
not contiguous. -/
theorem listedSome
    (bounded : entries.length < 10 ^ 20)
    (kept : remaining.Sublist segments)
    (permuted : listing.Perm (remaining.map Segment.file)) : publishedSegments host root listing =
      (checkContiguous remaining).map fun _ => remaining := by
  have read {segment : Segment} (member : segment ∈ remaining) :=
    published.readSegment bounded (kept.subset member)
  have readable : ∀ file ∈ listing, ∃ segment,
      Journal.readSegment host root file = .ok (some segment) := by
    intro file member
    obtain ⟨segment, segmentMember, rfl⟩ := mem_map.mp (permuted.mem_iff.mp member)
    exact ⟨segment, read segmentMember⟩
  have found : (listing.filterMap (foundSegment host root)).Perm remaining := by
    have all : (remaining.map Segment.file).filterMap (foundSegment host root) = remaining := by
      rw [filterMap_map]
      refine (filterMap_congr ?_).trans filterMap_some
      intro segment member
      rw [Function.comp_apply, foundSegment, read member]
      rfl
    rw [← all]
    exact permuted.filterMap _
  rw [publishedSegments, readSegments_eq readable, ok_bind]
  dsimp only
  rw [Cursor.mergeSort_eq_of_perm (published.starts_ascending.sublist (kept.map _)) found]
  cases checkContiguous remaining <;> rfl

/-- Every listing of the files leads back to the segments. -/
theorem listed
    (bounded : entries.length < 10 ^ 20)
    (permuted : listing.Perm (segments.map Segment.file)) :
    publishedSegments host root listing = .ok segments := by
  rw [published.listedSome bounded (List.Sublist.refl _) permuted, published.contiguous]
  rfl

/-- The head depends on the entries alone, not on their split into segments. -/
theorem head_eq : state.headHash = HashChain.head (hashJson host) linkDocument 1
      (genesisHash host) (entries.map (SourceEntry.linkItem host)) := by
  induction published with
  | empty => rfl
  | publish published batch nonempty sequenced now ih =>
    rw [map_append, HashChain.head_append, length_map,
      ← ih, Nat.add_comm 1, ← published.globalSequence]
    exact headHash_stateAfter host root _ batch now

/-- The walk accepts the published segments and goes on from their state. -/
theorem walkSegments_append (rest : List Segment) :
    walkSegments host root (segments ++ rest) (Walk.initial host)
      ⟨[], 0, JournalState.initial host⟩ =
      walkSegments host root rest state.walk ⟨[], entries.length, state⟩ := by
  induction published generalizing rest with
  | empty => rfl
  | publish published batch nonempty sequenced now ih =>
    rw [append_assoc, ih, singleton_append, length_append]
    simp only [walkSegments, newSegment,
      checkSegment_segmentFile host root now published.headHash nonempty sequenced,
      stateFromFooter_segmentFooter host root now published.headHash nonempty]
    rfl

/-- The checker's walk accepts the journal without an issue and ends in its
state. -/
theorem accepted
    (nonempty : segments ≠ [])
    (bounded : entries.length < 10 ^ 20)
    (permuted : listing.Perm (segments.map Segment.file)) :
    walkJournal host root listing = .ok ⟨[], entries.length, state⟩ := by
  have walked := published.walkSegments_append []
  rw [append_nil] at walked
  rw [walkJournal, published.listed bounded permuted]
  cases segments with
  | nil => exact absurd rfl nonempty
  | cons first others => exact walked

end Reading

end Published

end Journal
end Sutradhara
