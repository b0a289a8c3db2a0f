import Sutradhara.Foundation.Cursor
import Sutradhara.Journal.Segments

/-!
# The journal exporter

One export at a time holds the process lock.  It reads the published segments,
refuses to run behind its own checkpoint, selects the new rows of the two
tables, publishes them as one segment by a rename, writes the checkpoint and
ships the segments off-box.  Between any two of these steps rows may be appended
to the tables, and the process may die.
-/

namespace Sutradhara
namespace Journal

open Foundation Foundation.Json Foundation.Raising

/-! ## Publishing -/

/-- Accumulators of the loop of `_publish_segment`. -/
structure Writer where
  lines : List Line
  headHash : String
  cursors : Cursors

/-- The loop of `_publish_segment`. -/
def writeEntries (host : Host) : Nat → Writer → List SourceEntry → Writer
  | _, writer, [] => writer
  | sequence, writer, entry :: rest =>
    writeEntries host (sequence + 1)
      { lines := writer.lines ++
          [Line.written (.obj (entryDocument host sequence writer.headHash entry))]
        headHash := entryHash host sequence writer.headHash entry
        cursors := Function.update writer.cursors entry.source entry.eventId }
      rest

section

variable (host : Host) (previous : JournalState) (entries : List SourceEntry) (now : Instant)

/-- What the footer of a new segment says. -/
def segmentFooter : FooterFields :=
  let writer := writeEntries host (previous.globalSequence + 1)
    ⟨[], previous.headHash, previous.cursors⟩ entries
  { segmentStartSequence := previous.globalSequence + 1
    entryCount := entries.length
    globalSequence := previous.globalSequence + entries.length
    headHash := writer.headHash
    cursors := writer.cursors
    publishedAt := host.isoformat now }

/-- The file `_publish_segment` writes. -/
def segmentFile : SegmentFile :=
  let writer := writeEntries host (previous.globalSequence + 1)
    ⟨[], previous.headHash, previous.cursors⟩ entries
  { day := host.day now
    name := segmentName (previous.globalSequence + 1) (previous.globalSequence + entries.length)
    lines := writer.lines ++
      [Line.written (.obj (footerDocument host (segmentFooter host previous entries now)))] }

end

/-! ## Catalog -/

/-- The mirror of the last published footer. -/
structure Checkpoint where
  globalSequence : Nat
  headHash : String
  cursors : Cursors
  publishedFilename : String
  publishedAt : Instant

/-- The tables the journal reads and writes. -/
structure Catalog where
  receipts : List (Row Evidence.VerifyReceipt)
  events : List (Row RetentionEvent)
  checkpoint : Option Checkpoint

section

variable (file : SegmentFile) (host : Host) (catalog : Catalog) (source : Source)
  (state : JournalState)

/-- Rows of a table as the exporter reads them. -/
def Catalog.entries : Source → List SourceEntry
  | .verifyReceipt => catalog.receipts.map fun row =>
    ⟨.verifyReceipt, row.eventId, verifyReceiptPayload host row⟩
  | .retentionEvent => catalog.events.map fun row =>
    ⟨.retentionEvent, row.eventId, retentionEventPayload host row⟩

/-- One of the two selects of `_new_source_entries`. -/
def newEntries (cursor : Nat) : List SourceEntry :=
  (Cursor.above SourceEntry.eventId cursor
    (catalog.entries host source)).mergeSort fun first second =>
      decide (first.eventId ≤ second.eventId)

/-- `_write_checkpoint`. -/
def writeCheckpoint : Catalog :=
  match state.publishedFilename, state.publishedAt with
  | some filename, some publishedAt =>
    { catalog with
      checkpoint := some {
        globalSequence := state.globalSequence
        headHash := state.headHash
        cursors := state.cursors
        publishedFilename := filename
        publishedAt := publishedAt } }
  | _, _ => catalog

/-- `_checkpoint_ahead_issue`. -/
def checkpointAheadIssue : Option String :=
  match catalog.checkpoint with
  | none => none
  | some checkpoint =>
    if checkpoint.globalSequence ≤ state.globalSequence then none
    else
      some ("checkpoint-ahead-of-files: catalog sequence " ++
        s!"{checkpoint.globalSequence} exceeds authoritative published " ++
        s!"sequence {state.globalSequence}")

/-- The table's greatest identifier is below a new one; SQLite identifiers are
positive and have 63 bits. -/
def fresh (eventId : Nat) : Bool :=
  ((catalog.entries host source).all fun entry => entry.eventId < eventId) &&
    0 < eventId && eventId < 2 ^ 63

/-! ## Off-box copies -/

/-- Objects of the append-only destination by their keys. -/
abbrev Offbox := List (String × String)

/-- `read_bytes`. -/
def Offbox.readBytes (offbox : Offbox) (key : String) : Option String := offbox.lookup key

/-- `publish_file` and `publish_bytes`: an object that exists is never replaced,
and other content under its key is a collision. -/
def Offbox.publish (offbox : Offbox) (key content : String) : Except Failure Offbox :=
  match offbox.readBytes key with
  | none => .ok (offbox ++ [(key, content)])
  | some existing =>
    if existing = content then .ok offbox
    else raise ("append-only DR collision for " ++ host.repr (.str key) ++
      "; existing bytes differ")

/-- Content of a file. -/
def SegmentFile.content : String := String.join (file.lines.map Line.text)

/-- `_segment_key`. -/
def segmentKey : String := file.day ++ "/" ++ file.name

/-- `_anchor_key`. -/
def anchorKey : String := segmentKey file ++ ".head.json"

/-- `_anchor_bytes`, its members in ascending order of the keys; the published
filename is reduced to its last part. -/
def anchorBytes (name : String) : String :=
  canonicalJson (.obj
    [("anchor_version", .nat 1),
     ("cursors", .obj
        [("retention_event", .nat (state.cursors .retentionEvent)),
         ("verify_receipt", .nat (state.cursors .verifyReceipt))]),
     ("envelope_id", .str envelopeId),
     ("global_sequence", .nat state.globalSequence),
     ("hash_algorithm_id", .str hashAlgorithmId),
     ("head_hash", .str state.headHash),
     ("kind", .str "offbox-head"),
     ("published_at", optionalText (state.publishedAt.map host.isoformat)),
     ("published_filename", .str name)]) ++ "\n"

/-- The anchor of a published segment. -/
def segmentAnchor (root : String) (segment : Segment) : Except Failure String := do
  let state ← stateFromFooter host segment.footer (segment.file.path root)
  return anchorBytes host state segment.file.name

end

/-! ## The exporter as a state machine -/

/-- The next statement of a running export, with what it has read so far. -/
inductive Stage
  /-- The first `_write_checkpoint`. -/
  | checkpoint
  /-- The select of the receipts. -/
  | selectReceipts
  /-- The select of the events. -/
  | selectEvents (receipts : List SourceEntry)
  /-- `_publish_segment`, or nothing without new entries. -/
  | publish (entries : List SourceEntry)
  /-- The second `_write_checkpoint`. -/
  | checkpointPublished
  /-- Reading the anchors from the newest segment down; the argument counts
  those not read yet. -/
  | seekAnchor (unread : Nat)
  /-- Publishing the segment file of the first remaining segment. -/
  | shipFile (remaining : List Segment)
  /-- Publishing the anchor of the first remaining segment. -/
  | shipAnchor (remaining : List Segment)

/-- A running export. -/
structure Running where
  now : Instant
  hasDestination : Bool
  segments : List Segment
  state : JournalState
  stage : Stage

/-- The journal with its surroundings. -/
structure System where
  catalog : Catalog
  files : List SegmentFile
  offbox : Offbox
  exporter : Option Running

/-- Empty tables and an empty export root. -/
def System.initial : System where
  catalog := ⟨[], [], none⟩
  files := []
  offbox := []
  exporter := none

/-- What happens next. -/
inductive Action
  | appendReceipt (row : Row Evidence.VerifyReceipt)
  | appendEvent (row : Row RetentionEvent)
  /-- `export_journal`; the order is the one in which `glob` lists the files. -/
  | start (now : Instant) (hasDestination : Bool) (order : List Nat)
  /-- The next statement of the running export. -/
  | advance
  /-- The process dies, or a statement raises without effect. -/
  | crash

section

variable (host : Host) (text root : String) (system : System) (running : Running)

/-- The export goes on with its next statement. -/
def System.proceed (stage : Stage) : System :=
  { system with exporter := some { running with stage := stage } }

/-- The export is over. -/
def System.finish : System := { system with exporter := none }

/-- The start of `_export_locked`: read the segments and their state, and compare
them with the checkpoint.  While the lock is held nothing happens. -/
def startExport (now : Instant) (hasDestination : Bool) (listing : List SegmentFile) : System :=
  match system.exporter with
  | some _ => system
  | none =>
    match publishedSegments host root listing with
    | .error _ => system
    | .ok segments =>
      match latestState host root segments with
      | .error _ => system
      | .ok state =>
        match checkpointAheadIssue system.catalog state with
        | some _ => system
        | none =>
          { system with
            exporter := some
              { now := now
                hasDestination := hasDestination
                segments := segments
                state := state
                stage := .checkpoint } }

/-- The start of shipping: nothing to do without segments or a destination. -/
def beginShipping : System :=
  if running.hasDestination && !running.segments.isEmpty then
    system.proceed running (.seekAnchor running.segments.length)
  else system.finish

/-- `_publish_segment` and the reading of the new footer. -/
def publishSegment (entries : List SourceEntry) : System :=
  let file := segmentFile host running.state entries running.now
  if system.files.any fun other =>
      other.day == file.day && other.name == file.name then
    system.finish
  else
    let published := { system with files := system.files ++ [file] }
    let fields := segmentFooter host running.state entries running.now
    let read := do
      let state ← stateFromFooter host (footerDocument host fields) (file.path root)
      let footer ← readFooter host (file.path root) file
      return (state, footer)
    match read with
    | .error _ => published.finish
    | .ok (state, footer) =>
      published.proceed
        { running with
          state := state
          segments := running.segments ++
            [⟨file, footer, fields.segmentStartSequence, fields.globalSequence⟩] }
        .checkpointPublished

/-- One read of the loop of `_ship_segments` that looks for the newest anchor. -/
def seekAnchor (host : Host) (root : String) (system : System) (running : Running)
    (unread : Nat) : System :=
  match unread with
  | 0 => system.proceed running (.shipFile running.segments)
  | index + 1 =>
    match running.segments[index]? with
    | none => system.finish
    | some segment =>
      match segmentAnchor host root segment with
      | .error _ => system.finish
      | .ok expected =>
        match system.offbox.readBytes (anchorKey segment.file) with
        | none => system.proceed running (.seekAnchor index)
        | some actual =>
          if actual = expected then
            system.proceed running (.shipFile (running.segments.drop (index + 1)))
          else system.finish

/-- One of the two publications of the loop of `_ship_segments`; a collision ends
the shipping. -/
def shipObject (key content : String) (next : Stage) : System :=
  match system.offbox.publish host key content with
  | .error _ => system.finish
  | .ok offbox => { system with offbox := offbox }.proceed running next

/-- The next statement of the running export. -/
def advance : System :=
  match running.stage with
  | .checkpoint =>
    { system with
      catalog := writeCheckpoint system.catalog running.state }.proceed running
      .selectReceipts
  | .selectReceipts =>
    system.proceed running (.selectEvents
      (newEntries host system.catalog .verifyReceipt (running.state.cursors .verifyReceipt)))
  | .selectEvents receipts =>
    system.proceed running (.publish (receipts ++
      newEntries host system.catalog .retentionEvent (running.state.cursors .retentionEvent)))
  | .publish [] => beginShipping system running
  | .publish entries => publishSegment host root system running entries
  | .checkpointPublished =>
    beginShipping { system with catalog := writeCheckpoint system.catalog running.state } running
  | .seekAnchor unread => seekAnchor host root system running unread
  | .shipFile [] => system.finish
  | .shipFile (segment :: rest) =>
    shipObject host system running (segmentKey segment.file)
      segment.file.content (.shipAnchor (segment :: rest))
  | .shipAnchor [] => system.finish
  | .shipAnchor (segment :: rest) =>
    match segmentAnchor host root segment with
    | .error _ => system.finish
    | .ok anchor =>
      shipObject host system running (anchorKey segment.file) anchor (.shipFile rest)

/-- One step of the journal with its surroundings. -/
def step : Action → Option System
  | .appendReceipt row =>
    if fresh host system.catalog .verifyReceipt row.eventId then
      some { system with
        catalog := { system.catalog with receipts := system.catalog.receipts ++ [row] } }
    else none
  | .appendEvent row =>
    if fresh host system.catalog .retentionEvent row.eventId then
      some { system with
        catalog := { system.catalog with events := system.catalog.events ++ [row] } }
    else none
  | .start now hasDestination order =>
    if order.Perm (List.range system.files.length) then
      some (startExport host root system now hasDestination
        (order.filterMap fun index => system.files[index]?))
    else none
  | .advance => system.exporter.map (advance host root system)
  | .crash => some system.finish

/-! ## A small host -/

/-- The length of a text as 64 hexadecimal digits, the least digit first. -/
def lengthDigest : String :=
  String.ofList ((List.range 64).map fun index =>
    Nat.digitChar (text.toList.length / 16 ^ index % 16))

/-- The digest of a length has the form of a SHA-256 digest. -/
theorem lengthDigest_isSha256 : isSha256 (lengthDigest text) = true := by
  have hexadecimal : ∀ digit < 16,
      "0123456789abcdef".toList.contains (Nat.digitChar digit) = true := by
    decide
  simp only [isSha256, lengthDigest, String.toList_ofList, List.length_map,
    List.length_range, beq_self_eq_true, Bool.true_and, List.all_map, List.all_eq_true]
  intro index _
  exact hexadecimal _ (Nat.mod_lt _ (by decide))

end

/-- A host whose functions can be evaluated: texts are digested to their
lengths. -/
def lengthHost : Host where
  sha256 := lengthDigest
  sha256_isSha256 := lengthDigest_isSha256
  isoformat now := String.ofList (Nat.toDigits 10 now)
  fromIsoformat text := some (Nat.ofDigitChars 10 text.toList 0)
  fromIsoformat_isoformat now := by rw [String.toList_ofList, Nat.ofDigitChars_ten_toDigits]
  day _ := "2026-07-01"
  day_isDay _ := by decide +kernel
  floatEquals _ _ := false
  repr _ := "value"
  digit char := if char.isDigit then some (char.toNat - '0'.toNat) else none
  digit_of_isDigit _ isDigit := if_pos isDigit

end Journal
end Sutradhara
