import Sutradhara.Journal.Envelope

/-!
# Published segments and the walk over them

The export root holds one directory a day with segment files.  The exporter and
the checker find the published segments by their names, read the footers, sort
by the first sequence number and insist on contiguous ranges.  The checker then
walks every line and follows the links from the genesis hash.
-/

namespace Sutradhara
namespace Journal

open Foundation Foundation.Json Foundation.Raising List

/-! ## Files -/

/-- One line of a file and what `json.loads` answers on it. -/
structure Line where
  text : String
  loads : Except String Value

/-- The line the exporter writes for a document. -/
def Line.written (document : Value) : Line where
  text := canonicalJson document ++ "\n"
  loads := .ok document

/-- `str.isspace` on one character. -/
def isSpace (char : Char) : Bool :=
  let code := char.toNat
  (9 ≤ code && code ≤ 13) || (28 ≤ code && code ≤ 32) ||
    (8192 ≤ code && code ≤ 8202) ||
    [133, 160, 5760, 8232, 8233, 8239, 8287, 12288].contains code

/-- `not line.strip()`. -/
def Line.isBlank (line : Line) : Bool := line.text.toList.all isSpace

/-- A file in a directory below the export root. -/
structure SegmentFile where
  day : String
  name : String
  lines : List Line

section

variable (host : Host) (root : String)

/-- Path of a file. -/
def SegmentFile.path (file : SegmentFile) : String := root ++ "/" ++ file.day ++ "/" ++ file.name

/-- The two fixed parts of a segment's name. -/
def nameStem : List Char := "retention-journal-".toList

@[inherit_doc nameStem]
def nameEnd : List Char := ".jsonl".toList

/-- The format `020d`. -/
def padded (value : Nat) : List Char := (Nat.toDigits 10 value).leftpad 20 '0'

/-- Name of the segment that covers a range of sequence numbers. -/
def segmentName (start stop : Nat) : String :=
  String.ofList (nameStem ++ (padded start ++ '-' :: (padded stop ++ nameEnd)))

/-- A group `\d{20}` of `_SEGMENT_RE`, read by `int`. -/
def readPadded (digits : List Char) : Option Nat :=
  if digits.length = 20 ∧ digits.all (host.digit · |>.isSome) = true then
    some (digits.foldl (fun value char => 10 * value + (host.digit char).getD 0) 0)
  else none

/-- Match `_SEGMENT_RE` and read its two groups. -/
def segmentRange (name : String) : Option (Nat × Nat) :=
  let text := name.toList
  let first := (text.drop 18).take 20
  let second := (text.drop 39).take 20
  if text = nameStem ++ (first ++ '-' :: (second ++ nameEnd)) then
    (readPadded host first).bind fun start =>
      (readPadded host second).map fun stop => (start, stop)
  else none

/-! ## Footers -/

/-- `_read_footer`. -/
def readFooter (path : String) (file : SegmentFile) : Except Failure Dict :=
  match (file.lines.filter fun line => !line.isBlank).getLast? with
  | none => raise ("published journal segment is empty: " ++ path)
  | some last =>
    match last.loads with
    | .error detail =>
      raise ("published journal footer is invalid JSON: " ++ path ++ ": " ++ detail)
    | .ok value => do
        let footer ← dict value ("published journal footer is missing: " ++ path)
        ensure (equalsText (footer.get "kind") "footer")
          ("published journal footer is missing: " ++ path)
        validateFooter host footer
        return footer

/-- A published segment: its file, its footer and the range of the footer. -/
structure Segment where
  file : SegmentFile
  footer : Dict
  start : Nat
  stop : Nat

/-- One round of the loop of `_published_segments`; files with other names are
skipped. -/
def readSegment (file : SegmentFile) : Except Failure (Option Segment) :=
  if !isDay file.day then .ok none
  else
    match segmentRange host file.name with
    | none => .ok none
    | some (nameStart, nameStop) => do
        let path := file.path root
        let footer ← readFooter host path file
        let start ← integer (footer.get "segment_start_sequence") "segment_start_sequence"
        let stop ← integer (footer.get "global_sequence") "global_sequence"
        ensure (start == nameStart && stop == nameStop)
          ("segment filename/footer mismatch: " ++ path)
        return some ⟨file, footer, start, stop⟩

/-- The loop of `_published_segments`. -/
def readSegments (host : Host) (root : String) : List SegmentFile → Except Failure (List Segment)
  | [] => .ok []
  | file :: rest => do
      let found ← readSegment host root file
      let others ← readSegments host root rest
      return found.toList ++ others

/-- Every segment starts right after the one before it. -/
def checkContiguous : List Segment → Except Failure Unit
  | previous :: current :: rest => do
      ensure (current.start == previous.stop + 1)
        ("published segment range discontinuity: " ++ previous.file.name ++
          " -> " ++ current.file.name)
      checkContiguous (current :: rest)
  | _ => .ok ()

/-- `_published_segments` on the files in the order in which `glob` lists
them. -/
def publishedSegments (listing : List SegmentFile) : Except Failure (List Segment) := do
  let found ← readSegments host root listing
  let segments := found.mergeSort fun first second => decide (first.start ≤ second.start)
  checkContiguous segments
  return segments

/-- State of the last published segment, or the initial one. -/
def latestState (segments : List Segment) : Except Failure JournalState :=
  match segments.getLast? with
  | none => .ok (JournalState.initial host)
  | some last => stateFromFooter host last.footer (last.file.path root)

/-! ## Walk -/

/-- What the walk carries from one segment to the next. -/
@[ext] structure Walk where
  expectedSequence : Nat
  expectedHash : String
  cursors : Cursors

/-- The walk before the first segment. -/
def Walk.initial : Walk where
  expectedSequence := 1
  expectedHash := genesisHash host
  cursors := fun _ => 0

end

/-- The walk inside a segment. -/
structure SegmentWalk where
  walk : Walk
  entryCount : Nat
  previousOrder : Option (Nat × Nat)
  footer : Option Dict

/-- The walk at the first line of a segment. -/
def SegmentWalk.start (walk : Walk) : SegmentWalk where
  walk := walk
  entryCount := 0
  previousOrder := none
  footer := none

/-- `order <= previous_order` on pairs. -/
def orderAtMost (order previous : Nat × Nat) : Bool :=
  order.1 < previous.1 || (order.1 == previous.1 && order.2 ≤ previous.2)

section

variable (host : Host) (segmentStart lineNumber : Nat) (state : SegmentWalk) (footer cursors : Dict)

/-- Raise a `JournalError` about a line unless a condition holds. -/
def ensureLine (condition : Bool) (message : String) : Except Failure Unit :=
  ensure condition (s!"line {lineNumber}: " ++ message)

/-- Membership in `SOURCE_RANK`. -/
def knownSource (value : Value) : Except Failure Source :=
  match value with
  | .str name =>
    match Source.ofName? name with
    | some source => .ok source
    | none => raise (s!"line {lineNumber}: unknown source " ++ host.repr value)
  | _ => raise (s!"line {lineNumber}: unknown source " ++ host.repr value)

/-- The checks of one entry line. -/
def checkEntry (value : Dict) (state : SegmentWalk) : Except Failure SegmentWalk := do
  let line := ensureLine lineNumber
  let walk := state.walk
  line (equalsText (value.get "envelope_id") envelopeId) "envelope id mismatch"
  line (equalsText (value.get "hash_algorithm_id") hashAlgorithmId) "hash algorithm mismatch"
  let sequence ← integer (value.get "sequence") s!"line {lineNumber} sequence"
  line (sequence == walk.expectedSequence)
    (s!"sequence discontinuity, expected {walk.expectedSequence}, " ++ s!"got {sequence}")
  let source ← knownSource host lineNumber (value.get "source")
  let eventId ← integer (value.get "event_id") s!"line {lineNumber} event_id"
  let order := (source.rank, eventId)
  line (state.previousOrder.all fun previous => !orderAtMost order previous)
    "source-rank/event-id order violation"
  line (walk.cursors source < eventId) ("non-increasing " ++ source.name ++ " cursor")
  let payload ← dict (value.get "payload") s!"line {lineNumber}: payload is not an object"
  line (equalsNumber host (payload.get "event_id") eventId) "payload event_id differs from envelope"
  let checksum ← text (value.get "checksum") s!"line {lineNumber}: entry checksum mismatch"
  let sameChecksum ← constantTimeEqual checksum (hashJson host (.obj payload))
  line sameChecksum "entry checksum mismatch"
  line (equalsText (value.get "prev_hash") walk.expectedHash) "previous-hash link mismatch"
  let link := linkDocument sequence walk.expectedHash ⟨source, eventId, checksum⟩
  let entryHash ← text (value.get "entry_hash") s!"line {lineNumber}: entry hash mismatch"
  let sameHash ← constantTimeEqual entryHash (hashJson host link)
  line sameHash "entry hash mismatch"
  return {
    walk := {
      expectedSequence := walk.expectedSequence + 1
      expectedHash := entryHash
      cursors := Function.update walk.cursors source eventId }
    entryCount := state.entryCount + 1
    previousOrder := some order
    footer := state.footer }

/-- One round of the loop of `_check_segment`. -/
def checkLine (line : Line) (state : SegmentWalk) : Except Failure SegmentWalk :=
  match line.loads with
  | .error detail => raise (s!"line {lineNumber}: invalid JSON: " ++ detail)
  | .ok loaded => do
      let value ← dict loaded s!"line {lineNumber}: envelope must be an object"
      if equalsText (value.get "kind") "footer" then
        ensureLine lineNumber state.footer.isNone "duplicate footer"
        return { state with footer := some value }
      else
        ensureLine lineNumber state.footer.isNone "entry appears after footer"
        ensureLine lineNumber (equalsText (value.get "kind") "entry") "unknown envelope kind"
        checkEntry host lineNumber value state

/-- The loop of `_check_segment`. -/
def checkLines (host : Host) : Nat → List Line → SegmentWalk → Except Failure SegmentWalk
  | _, [], state => .ok state
  | lineNumber, line :: rest, state => do
      let next ← checkLine host lineNumber line state
      checkLines host (lineNumber + 1) rest next

/-- The footer of a walked segment. -/
def walkedFooter : Except Failure Dict :=
  match state.footer with
  | some footer => .ok footer
  | none => raise "footer is missing"

/-- `expected_footer` of `_check_segment`, in the order of its construction. -/
def expectedFooter : Dict :=
  [("segment_start_sequence", .nat segmentStart), ("entry_count", .nat state.entryCount),
   ("global_sequence", .nat (state.walk.expectedSequence - 1)),
   ("head_hash", .str state.walk.expectedHash),
   ("verify_receipt_cursor", .nat (state.walk.cursors .verifyReceipt)),
   ("retention_event_cursor", .nat (state.walk.cursors .retentionEvent))]

/-- `actual_footer` of `_check_segment`. -/
def actualFooter : Dict :=
  [("segment_start_sequence", footer.get "segment_start_sequence"),
   ("entry_count", footer.get "entry_count"), ("global_sequence", footer.get "global_sequence"),
   ("head_hash", footer.get "head_hash"), ("verify_receipt_cursor", cursors.get "verify_receipt"),
   ("retention_event_cursor", cursors.get "retention_event")]

/-- `actual_footer == expected_footer`, member by member. -/
def footerMatches : Bool :=
  equalsNumber host (footer.get "segment_start_sequence") segmentStart &&
  equalsNumber host (footer.get "entry_count") state.entryCount &&
  equalsNumber host (footer.get "global_sequence") ((state.walk.expectedSequence : Int) - 1) &&
  equalsText (footer.get "head_hash") state.walk.expectedHash &&
  Source.all.all fun source =>
    equalsNumber host (cursors.get source.name) (state.walk.cursors source)

end

/-- What `_check_segment` returns. -/
structure CheckedSegment where
  entryCount : Nat
  walk : Walk
  footer : Dict

section

variable (host : Host) (walk : Walk) (entry : SourceEntry) (entries : List SourceEntry)

/-- `_check_segment`. -/
def checkSegment (file : SegmentFile) (walk : Walk) : Except Failure CheckedSegment := do
  let state ← checkLines host 1 file.lines (SegmentWalk.start walk)
  let footer ← walkedFooter state
  validateFooter host footer
  let cursors ← dict (footer.get "cursors") "footer cursors must be an object"
  ensure (footerMatches host walk.expectedSequence state footer cursors)
    ("footer does not match walked segment: expected " ++
      host.repr (.obj (expectedFooter walk.expectedSequence state)) ++ ", got " ++
      host.repr (.obj (actualFooter footer cursors)))
  return {
    entryCount := state.entryCount
    walk := state.walk
    footer := footer }

/-- The part of `JournalCheckResult` that the walk fills. -/
structure WalkReport where
  issues : List String
  entryCount : Nat
  state : JournalState

/-- The loop of `check_journal` over the segments; the first issue ends it. -/
def walkSegments (host : Host) (root : String) :
    List Segment → Walk → WalkReport → Except Failure WalkReport
  | [], _, report => .ok report
  | segment :: rest, walk, report =>
    match checkSegment host segment.file walk with
    | .error (.journalError message) =>
      .ok { report with issues := report.issues ++ [segment.file.name ++ ": " ++ message] }
    | .error failure => .error failure
    | .ok checked => do
        let state ← stateFromFooter host checked.footer (segment.file.path root)
        walkSegments host root rest checked.walk
          { issues := report.issues
            entryCount := report.entryCount + checked.entryCount
            state := state }

/-- The segment walk of `check_journal`. -/
def walkJournal (root : String) (listing : List SegmentFile) : Except Failure WalkReport :=
  let report : WalkReport := { issues := [], entryCount := 0, state := JournalState.initial host }
  match publishedSegments host root listing with
  | .error (.journalError message) => .ok { report with issues := [message] }
  | .error failure => .error failure
  | .ok [] =>
    .ok { report with
      issues := ["no-published-files: retention journal has no " ++ "authoritative footer"] }
  | .ok segments => walkSegments host root segments (Walk.initial host) report

/-! ## Carried entries -/

/-- Position of an entry inside a segment. -/
def SourceEntry.order : Nat × Nat := (entry.source.rank, entry.eventId)

/-- The walk after an entry. -/
def Walk.follow : Walk where
  expectedSequence := walk.expectedSequence + 1
  expectedHash := entryHash host walk.expectedSequence walk.expectedHash entry
  cursors := Function.update walk.cursors entry.source entry.eventId

/-- The walk inside a segment after an entry. -/
def SegmentWalk.follow (host : Host) (state : SegmentWalk)
    (entry : SourceEntry) : SegmentWalk where
  walk := state.walk.follow host entry
  entryCount := state.entryCount + 1
  previousOrder := some entry.order
  footer := state.footer

theorem follow_expectedSequence : (entries.foldl (Walk.follow host) walk).expectedSequence =
      walk.expectedSequence + entries.length := by
  induction entries generalizing walk with
  | nil => rfl
  | cons entry rest ih =>
    have one : (walk.follow host entry).expectedSequence = walk.expectedSequence + 1 := rfl
    rw [foldl_cons, ih, length_cons]
    omega

/-- The hash of the walk is the head of the chain of the links. -/
theorem follow_expectedHash : (entries.foldl (Walk.follow host) walk).expectedHash =
      HashChain.head (hashJson host) linkDocument walk.expectedSequence
        walk.expectedHash (entries.map (SourceEntry.linkItem host)) := by
  induction entries generalizing walk with
  | nil => rfl
  | cons entry rest ih =>
    rw [foldl_cons, ih]
    rfl

end

/-- An entry and its sequence number. -/
structure NumberedEntry where
  sequence : Nat
  entry : SourceEntry

/-- Read the entry of an envelope. -/
def entryOf? (value : Dict) : Option NumberedEntry := do
  guard (equalsText (value.get "kind") "entry")
  let sequence ← (integer (value.get "sequence") "sequence").toOption
  let name ← (text (value.get "source") "source").toOption
  let source ← Source.ofName? name
  let eventId ← (integer (value.get "event_id") "event_id").toOption
  let payload ← (dict (value.get "payload") "payload").toOption
  return ⟨sequence, ⟨source, eventId, payload⟩⟩

/-- Read the entry of a line. -/
def Line.carried? (line : Line) : Option NumberedEntry :=
  match line.loads with
  | .ok (.obj value) => entryOf? value
  | _ => none

/-- The entries of a file in their order. -/
def SegmentFile.entries (file : SegmentFile) : List NumberedEntry :=
  file.lines.filterMap Line.carried?

/-- Number entries from a first sequence number. -/
def numberFrom : Nat → List SourceEntry → List NumberedEntry
  | _, [] => []
  | sequence, entry :: rest => ⟨sequence, entry⟩ :: numberFrom (sequence + 1) rest

variable (sequence : Nat) (entries : List SourceEntry)

/-- Numbering goes on behind a first list. -/
theorem numberFrom_append (first second : List SourceEntry) :
    numberFrom sequence (first ++ second) = numberFrom sequence first ++
        numberFrom (sequence + first.length) second := by
  induction first generalizing sequence with
  | nil => rfl
  | cons entry rest ih =>
    simp only [cons_append, numberFrom, ih, length_cons, Nat.add_assoc, Nat.add_comm 1]

/-- Numbering keeps the entries. -/
@[simp] theorem map_entry_numberFrom :
    (numberFrom sequence entries).map NumberedEntry.entry = entries := by
  induction entries generalizing sequence with
  | nil => rfl
  | cons entry rest ih => simp only [numberFrom, map_cons, ih]

@[simp] theorem map_sequence_numberFrom :
    (numberFrom sequence entries).map NumberedEntry.sequence =
      List.range' sequence entries.length := by
  induction entries generalizing sequence with
  | nil => rfl
  | cons entry rest ih => simp only [numberFrom, map_cons, ih, length_cons, range'_succ]

end Journal
end Sutradhara
