import Sutradhara.Evidence.Recorder
import Sutradhara.Foundation.HashChain
import Sutradhara.Foundation.Json
import Sutradhara.Foundation.Raising

/-!
# Envelopes of the retention journal

A published segment is a file of JSON lines: one entry for each exported row of
the two source tables and a footer.  An entry carries the row's payload and a
link to the entry before it; the footer repeats the chain head and the cursors
of the two tables and carries a checksum of itself.
-/

namespace Sutradhara
namespace Journal

open Foundation Foundation.Json Foundation.Raising List

/-- A moment of time in UTC. -/
abbrev Instant := Nat

/-- `ENVELOPE_ID`. -/
def envelopeId : String := "sutradhara.retention-journal/v1"

/-- `HASH_ALGORITHM_ID`. -/
def hashAlgorithmId : String := "sha256"

/-- The two journalled tables. -/
inductive Source
  | verifyReceipt
  | retentionEvent
  deriving DecidableEq

namespace Source

/-- Name of the table in the envelopes. -/
def name : Source → String
  | .verifyReceipt => "verify_receipt"
  | .retentionEvent => "retention_event"

/-- `SOURCE_RANK`. -/
def rank : Source → Nat
  | .verifyReceipt => 0
  | .retentionEvent => 1

/-- The tables in the order of their ranks. -/
def all : List Source := [.verifyReceipt, .retentionEvent]

/-- Look a name up in `SOURCE_RANK`. -/
def ofName? (name : String) : Option Source :=
  if name = Source.verifyReceipt.name then some .verifyReceipt
  else if name = Source.retentionEvent.name then some .retentionEvent
  else none

/-- A source is read back from its name. -/
@[simp] theorem ofName?_name (source : Source) : ofName? source.name = some source := by
  cases source <;> simp [ofName?, name]

theorem name_of_ofName? (found : ofName? text = some source) : source.name = text := by
  unfold ofName? at found
  split at found
  next named =>
    cases found
    exact named.symm
  · split at found
    next named =>
      cases found
      exact named.symm
    · cases found

theorem name_inj {second : Source} (equal : first.name = second.name) : first = second := by
  have found := ofName?_name first
  rw [equal, ofName?_name] at found
  exact (Option.some.inj found).symm

end Source

/-- `_is_sha256`. -/
def isSha256 (value : String) : Bool :=
  value.toList.length == 64 && value.toList.all fun char => "0123456789abcdef".toList.contains char

/-- The directory pattern `????-??-??`. -/
def isDay (name : String) : Bool :=
  name.toList.length == 10 && name.toList[4]? == some '-' && name.toList[7]? == some '-'

/-- What the journal takes from the language's library. -/
structure Host where
  /-- Hexadecimal digest of a text. -/
  sha256 : String → String
  sha256_isSha256 : ∀ text, isSha256 (sha256 text) = true
  /-- `_isoformat`. -/
  isoformat : Instant → String
  /-- `datetime.fromisoformat` followed by `_as_utc`. -/
  fromIsoformat : String → Option Instant
  fromIsoformat_isoformat : ∀ instant, fromIsoformat (isoformat instant) = some instant
  /-- `now.date().isoformat()`. -/
  day : Instant → String
  day_isDay : ∀ instant, isDay (day instant) = true
  /-- Equality of a float and an integer. -/
  floatEquals : FloatLiteral → Int → Bool
  /-- `repr` of a JSON value. -/
  repr : Value → String
  /-- The decimal digits of all scripts, which `\d` matches and `int` reads. -/
  digit : Char → Option Nat
  digit_of_isDigit : ∀ char, char.isDigit = true → digit char = some (char.toNat - '0'.toNat)

/-- An exception raised while a journal is read or written. -/
inductive Failure
  | journalError (message : String)
  | typeError (message : String)

/-- `raise JournalError(message)`. -/
def raise {Result : Type} (message : String) : Except Failure Result :=
  .error (.journalError message)

section

variable (host : Host) (value : Value)

/-- `_hash_json`. -/
def hashJson : String := host.sha256 (canonicalJson value)

/-- `GENESIS_HASH`. -/
def genesisHash : String := host.sha256 "sutradhara.retention-journal:genesis:v1"

/-- Raise a `JournalError` unless a condition holds. -/
def ensure (condition : Bool) (message : String) : Except Failure Unit :=
  require condition (.journalError message)

/-- Raise a `JournalError` unless a value is a text. -/
def text (value : Value) (message : String) : Except Failure String :=
  match value with
  | .str text => .ok text
  | _ => raise message

/-- Raise a `JournalError` unless a value is a dictionary. -/
def dict (message : String) : Except Failure Dict :=
  match value with
  | .obj members => .ok members
  | _ => raise message

/-- `_integer`. -/
def integer (value : Value) (field : String) : Except Failure Nat :=
  match value with
  | .scalar (.int (.ofNat value)) => .ok value
  | _ => raise s!"{field} must be a non-negative integer"

/-- `value == expected` for a text. -/
def equalsText (expected : String) : Bool :=
  match value with
  | .str text => text == expected
  | _ => false

/-- `value == expected` for an integer: booleans and floats compare as
numbers. -/
def equalsNumber (expected : Int) : Bool :=
  match value with
  | .scalar (.int value) => value == expected
  | .scalar (.bool value) => (if value then 1 else 0) == expected
  | .scalar (.float literal) => host.floatEquals literal expected
  | _ => false

/-- `_constant_time_equal`: `hmac.compare_digest` takes ASCII texts only. -/
def constantTimeEqual (left right : String) : Except Failure Bool :=
  if (left.toList ++ right.toList).all fun char => char.toNat < 128 then .ok (left == right)
  else .error (.typeError "comparing strings with non-ASCII characters is not supported")

/-! ## Source rows -/

/-- One row of a journalled table. -/
structure Row (Columns : Type) where
  eventId : Nat
  columns : Columns

/-- `bytes.hex`. -/
def hexText (bytes : List UInt8) : String :=
  String.ofList (bytes.flatMap fun byte =>
    [Nat.digitChar (byte.toNat / 16), Nat.digitChar (byte.toNat % 16)])

/-- A nullable text column. -/
def optionalText (text : Option String) : Value :=
  match text with
  | none => .null
  | some text => .str text

/-- Text of `failure_kind`. -/
def failureKindText : Evidence.FailureKind → String
  | .digestMismatch => "digest-mismatch"
  | .backendFailure => "backend-failure"
  | .identityUnproven => "identity-unproven"
  | .measurementInvalidated => "measurement-invalidated"

/-- Text of a receipt's `source`. -/
def receiptSourceText : Evidence.ReceiptSource → String
  | .fanout => "fanout"
  | .verifyJob => "verify-job"
  | .restore => "restore"
  | .scrub => "scrub"

/-- `_verify_receipt_payload`, its members in ascending order of the keys. -/
def verifyReceiptPayload (row : Row Evidence.VerifyReceipt) : Dict :=
  [("actor", optionalText row.columns.actor), ("at", .str (host.isoformat row.columns.at_)),
   ("backend_id", .nat row.columns.backendId),
   ("backend_ok", .scalar (.bool row.columns.backendOk)), ("copy_id", .nat row.columns.copyId),
   ("event_id", .nat row.eventId), ("execution_id", .str row.columns.executionId),
   ("expected_digest", .str (hexText row.columns.expectedDigest)),
   ("failure_detail", optionalText row.columns.failureDetail),
   ("failure_kind", optionalText (row.columns.failureKind.map failureKindText)),
   ("measured_digest", optionalText (row.columns.measuredDigest.map hexText)),
   ("producer_process", .str row.columns.producerProcess),
   ("source", .str (receiptSourceText row.columns.source))]

/-- What a retention event is about. -/
inductive SubjectType
  | intake
  | media
  | batch
  | receipt

/-- Text of `subject_type`. -/
def SubjectType.text : SubjectType → String
  | .intake => "intake"
  | .media => "media"
  | .batch => "batch"
  | .receipt => "receipt"

/-- What a retention event records. -/
inductive RetentionAction
  | released
  | cloudBlobDeleted
  | stagingDeleted
  | releaseAttempted
  | purgeAttempted
  | stagingTombstoned
  | stagingPurgeHeld
  | batchInvoked
  | batchRefused
  | graceOverridden
  | abandoned
  | correctionRecorded
  | offsiteConfirmed

/-- Text of `action`. -/
def RetentionAction.text : RetentionAction → String
  | .released => "released"
  | .cloudBlobDeleted => "cloud_blob_deleted"
  | .stagingDeleted => "staging_deleted"
  | .releaseAttempted => "release_attempted"
  | .purgeAttempted => "purge_attempted"
  | .stagingTombstoned => "staging_tombstoned"
  | .stagingPurgeHeld => "staging_purge_held"
  | .batchInvoked => "batch_invoked"
  | .batchRefused => "batch_refused"
  | .graceOverridden => "grace_overridden"
  | .abandoned => "abandoned"
  | .correctionRecorded => "correction_recorded"
  | .offsiteConfirmed => "offsite_confirmed"

/-- Columns of `retention_event`. -/
structure RetentionEvent where
  intakeId : Option String
  subjectType : SubjectType
  subjectId : String
  action : RetentionAction
  operationId : String
  actor : String
  at_ : Instant
  detail : Value
  supersedesSource : Option Source
  supersedesEventId : Option Nat

/-- `_retention_event_payload`, its members in ascending order of the keys. -/
def retentionEventPayload (row : Row RetentionEvent) : Dict :=
  [("action", .str row.columns.action.text), ("actor", .str row.columns.actor),
   ("at", .str (host.isoformat row.columns.at_)), ("detail", row.columns.detail),
   ("event_id", .nat row.eventId), ("intake_id", optionalText row.columns.intakeId),
   ("operation_id", .str row.columns.operationId), ("subject_id", .str row.columns.subjectId),
   ("subject_type", .str row.columns.subjectType.text),
   ("supersedes_event_id", (row.columns.supersedesEventId.map Value.nat).getD .null),
   ("supersedes_source", optionalText (row.columns.supersedesSource.map Source.name))]

end

/-- `_SourceEntry`. -/
structure SourceEntry where
  source : Source
  eventId : Nat
  payload : Dict

variable {host : Host}

/-! ## Entries -/

/-- What a link says about its entry. -/
structure LinkItem where
  source : Source
  eventId : Nat
  checksum : String

/-- The hashed link of an entry, its members in ascending order of the keys. -/
def linkDocument (sequence : Nat) (prevHash : String) (item : LinkItem) : Value :=
  .obj
    [("checksum", .str item.checksum), ("envelope_id", .str envelopeId),
     ("event_id", .nat item.eventId), ("hash_algorithm_id", .str hashAlgorithmId),
     ("prev_hash", .str prevHash), ("sequence", .nat sequence), ("source", .str item.source.name)]

/-- A link determines what it is made of. -/
theorem linkDocument_injective : HashChain.LinkInjective linkDocument := by
  intro sequence prevHash item otherSequence otherPrevHash otherItem equal
  simp only [linkDocument, Value.nat, Value.obj.injEq, cons.injEq,
    Prod.mk.injEq, Value.str.injEq, Value.scalar.injEq, Scalar.int.injEq,
    true_and, and_true, Int.natCast_inj] at equal
  obtain ⟨sameChecksum, sameEvent, samePrevious, sameSequence, sameName⟩ := equal
  refine ⟨sameSequence, samePrevious, ?_⟩
  cases item
  cases otherItem
  simp only [LinkItem.mk.injEq]
  exact ⟨Source.name_inj sameName, sameEvent, sameChecksum⟩

/-- What the link of an entry says. -/
def SourceEntry.linkItem (host : Host) (entry : SourceEntry) : LinkItem where
  source := entry.source
  eventId := entry.eventId
  checksum := hashJson host (.obj entry.payload)

/-- `entry_hash`. -/
def entryHash (host : Host) (sequence : Nat) (prevHash : String) (entry : SourceEntry) : String :=
  hashJson host (linkDocument sequence prevHash (entry.linkItem host))

/-- One entry line, its members in ascending order of the keys. -/
def entryDocument (host : Host) (sequence : Nat) (prevHash : String)
    (entry : SourceEntry) : Dict :=
  [("checksum", .str (hashJson host (.obj entry.payload))),
   ("entry_hash", .str (entryHash host sequence prevHash entry)),
   ("envelope_id", .str envelopeId), ("event_id", .nat entry.eventId),
   ("hash_algorithm_id", .str hashAlgorithmId), ("kind", .str "entry"),
   ("payload", .obj entry.payload), ("prev_hash", .str prevHash), ("sequence", .nat sequence),
   ("source", .str entry.source.name)]

/-! ## Footers -/

/-- Inclusive cursors of the two tables. -/
abbrev Cursors := Source → Nat

/-- What a footer says. -/
structure FooterFields where
  segmentStartSequence : Nat
  entryCount : Nat
  globalSequence : Nat
  headHash : String
  cursors : Cursors
  publishedAt : String

/-- Members of a footer in ascending order of the keys; the checksum stands
between `envelope_id` and `footer_version`. -/
def footerMembers (fields : FooterFields) (checksum : Dict) : Dict :=
  [("cursors", .obj
      [("retention_event", .nat (fields.cursors .retentionEvent)),
       ("verify_receipt", .nat (fields.cursors .verifyReceipt))]),
   ("entry_count", .nat fields.entryCount),
   ("envelope_id", .str envelopeId)] ++ checksum ++
  [("footer_version", .nat 1), ("global_sequence", .nat fields.globalSequence),
   ("hash_algorithm_id", .str hashAlgorithmId), ("head_hash", .str fields.headHash),
   ("kind", .str "footer"), ("published_at", .str fields.publishedAt),
   ("segment_start_sequence", .nat fields.segmentStartSequence)]

/-- The footer with the checksum of the rest. -/
def footerDocument (host : Host) (fields : FooterFields) : Dict :=
  footerMembers fields [("footer_checksum", .str (hashJson host (.obj (footerMembers fields []))))]

/-- `set(cursors) != set(SOURCE_RANK)`. -/
def namesBothSources (cursors : Dict) : Bool :=
  let keys := cursors.map Prod.fst
  (keys.all fun key => (Source.ofName? key).isSome) &&
    Source.all.all fun source => keys.contains source.name

/-- `_validate_footer`. -/
def validateFooter (host : Host) (footer : Dict) : Except Failure Unit := do
  let version := footer.get "footer_version"
  ensure (equalsNumber host version 1) ("unsupported footer version " ++ host.repr version)
  let envelope := footer.get "envelope_id"
  ensure (equalsText envelope envelopeId) ("unsupported envelope id " ++ host.repr envelope)
  let algorithm := footer.get "hash_algorithm_id"
  ensure (equalsText algorithm hashAlgorithmId)
    ("unsupported hash algorithm " ++ host.repr algorithm)
  let checksum ← text (footer.get "footer_checksum") "footer checksum is missing"
  let matches_ ← constantTimeEqual checksum
    (hashJson host (.obj (Dict.without "footer_checksum" footer)))
  ensure matches_ "footer checksum mismatch"
  let _ ← integer (footer.get "global_sequence") "global_sequence"
  let _ ← integer (footer.get "segment_start_sequence") "segment_start_sequence"
  let entryCount ← integer (footer.get "entry_count") "entry_count"
  let head ← text (footer.get "head_hash") "footer head_hash is not a SHA-256 digest"
  ensure (isSha256 head) "footer head_hash is not a SHA-256 digest"
  let cursors ← dict (footer.get "cursors") "footer cursors must name both source tables exactly"
  ensure (namesBothSources cursors) "footer cursors must name both source tables exactly"
  Source.all.forM fun source => do
    let _ ← integer (Dict.get cursors source.name) ("cursor " ++ source.name)
  ensure (entryCount != 0) "published segment footer cannot have zero entries"

/-- `JournalState`. -/
structure JournalState where
  globalSequence : Nat
  headHash : String
  cursors : Cursors
  publishedFilename : Option String
  publishedAt : Option Instant

/-- The state of a journal without published segments. -/
def JournalState.initial (host : Host) : JournalState where
  globalSequence := 0
  headHash := genesisHash host
  cursors := fun _ => 0
  publishedFilename := none
  publishedAt := none

/-- Parse `published_at`. -/
def instant (host : Host) (publishedAt : String) : Except Failure Instant :=
  match host.fromIsoformat publishedAt with
  | some parsed => .ok parsed
  | none => raise ("footer published_at is invalid: " ++ host.repr (.str publishedAt))

/-- `_state_from_footer`. -/
def stateFromFooter (host : Host) (footer : Dict)
    (path : String) : Except Failure JournalState := do
  validateFooter host footer
  let cursors ← dict (footer.get "cursors") "footer cursors must be an object"
  let publishedAt ← text (footer.get "published_at") "footer published_at is missing"
  let parsedAt ← instant host publishedAt
  let head ← text (footer.get "head_hash") "footer head_hash must be a string"
  let globalSequence ← integer (footer.get "global_sequence") "global_sequence"
  let verifyReceipt ← integer (Dict.get cursors "verify_receipt") "verify_receipt cursor"
  let retentionEvent ← integer (Dict.get cursors "retention_event") "retention_event cursor"
  return {
    globalSequence := globalSequence
    headHash := head
    cursors := fun source =>
      match source with
      | .verifyReceipt => verifyReceipt
      | .retentionEvent => retentionEvent
    publishedFilename := some path
    publishedAt := some parsedAt }

/-- Hexadecimal digests are ASCII, so they may be compared in constant time. -/
theorem isAscii_of_isSha256 {text : String} (digest : isSha256 text = true) :
    (text.toList.all fun char => char.toNat < 128) = true := by
  have small : ("0123456789abcdef".toList.all fun char =>
      char.toNat < 128) = true := by
    decide +kernel
  rw [isSha256, Bool.and_eq_true] at digest
  rw [all_eq_true] at digest small ⊢
  intro char member
  have hexadecimal := digest.2 char member
  rw [contains_eq_mem, decide_eq_true_eq] at hexadecimal
  exact small char hexadecimal

/-- A digest equals itself. -/
theorem constantTimeEqual_hashJson (host : Host) (value : Value) :
    constantTimeEqual (hashJson host value) (hashJson host value) = .ok true := by
  have ascii := isAscii_of_isSha256 (host.sha256_isSha256 (canonicalJson value))
  simp only [constantTimeEqual, hashJson, all_append, ascii, Bool.and_self,
    if_true, beq_self_eq_true]

/-- The comparison in constant time is equality. -/
theorem eq_of_constantTimeEqual (equal : constantTimeEqual left right = .ok true) :
    left = right := by
  unfold constantTimeEqual at equal
  split at equal
  · simpa using equal
  · cases equal

variable {message : String}

@[simp] theorem ensure_true : ensure true message = .ok () := rfl

@[simp] theorem text_str : text (.str value) message = .ok value := rfl

@[simp] theorem dict_obj (members : Dict) : dict (.obj members) message = .ok members := rfl

/-- What passes for a text is one. -/
theorem eq_str_of_text
    {value : Value}
    {message read : String}
    (isText : text value message = .ok read) : value = .str read := by
  unfold text at isText
  split at isText
  · cases isText
    rfl
  · cases isText

/-- What passes for an object is one. -/
theorem eq_obj_of_dict (isDict : dict value message = .ok members) : value = .obj members := by
  unfold dict at isDict
  split at isDict
  · cases isDict
    rfl
  · cases isDict

theorem eq_str_of_equalsText (equal : equalsText value expected = true) :
    value = .str expected := by
  unfold equalsText at equal
  split at equal
  · rw [beq_iff_eq.mp equal]
  · cases equal

@[simp] theorem equalsText_str (text : String) :
    equalsText (.str text) text = true := beq_self_eq_true text

@[simp] theorem equalsNumber_nat : equalsNumber host (.nat value) value = true :=
  beq_self_eq_true (value : Int)

@[simp] theorem integer_nat : integer (.nat value) field = .ok value := rfl

/-- What passes for an integer is one, and not negative. -/
theorem eq_nat_of_integer (read : integer value field = .ok natural) : value = .nat natural := by
  unfold integer at read
  split at read
  · cases read
    rfl
  · cases read


section FooterDocument

variable (host : Host) (fields : FooterFields)

/-- The checksum is the last member of a footer. -/
theorem without_footerDocument : Dict.without "footer_checksum" (footerDocument host fields) =
      footerMembers fields [] := by
  simp [footerDocument, footerMembers, Dict.without]

/-- The cursors of a footer as its dictionary. -/
def cursorMembers : Dict :=
  [("retention_event", .nat (fields.cursors .retentionEvent)),
   ("verify_receipt", .nat (fields.cursors .verifyReceipt))]

/-- The cursor of a source is found under its name. -/
@[simp] theorem get_cursorMembers (source : Source) :
    Dict.get (cursorMembers fields) source.name = .nat (fields.cursors source) := by
  cases source <;> simp [cursorMembers, Source.name, Dict.get_cons]

/-- The cursors of a footer name both sources. -/
theorem namesBothSources_cursorMembers : namesBothSources (cursorMembers fields) = true := by
  have first := Source.ofName?_name .retentionEvent
  have second := Source.ofName?_name .verifyReceipt
  simp only [Source.name] at first second
  simp [namesBothSources, cursorMembers, first, second, Source.all, Source.name]

/-- A footer is valid as soon as its head is a digest and it counts an entry. -/
theorem validateFooter_footerDocument
    (digest : isSha256 fields.headHash = true)
    (counted : fields.entryCount ≠ 0) :
    validateFooter host (footerDocument host fields) = .ok () := by
  have version : equalsNumber host (.nat 1) 1 = true := equalsNumber_nat
  have positive : (fields.entryCount != 0) = true := bne_iff_ne.mpr counted
  have named := namesBothSources_cursorMembers fields
  rw [cursorMembers] at named
  rw [validateFooter, without_footerDocument]
  simp [footerDocument, footerMembers, Dict.get_cons, version, constantTimeEqual_hashJson, digest,
    named, positive, Source.all, Source.name]

/-- The state a valid footer records. -/
theorem stateFromFooter_footerDocument
    (path : String)
    (now : Instant)
    (digest : isSha256 fields.headHash = true)
    (counted : fields.entryCount ≠ 0)
    (stamped : fields.publishedAt = host.isoformat now) :
    stateFromFooter host (footerDocument host fields) path =
      .ok { globalSequence := fields.globalSequence
            headHash := fields.headHash
            cursors := fields.cursors
            publishedFilename := some path
            publishedAt := some now } := by
  have cursors : (fun source : Source =>
      match source with
      | .verifyReceipt => fields.cursors .verifyReceipt
      | .retentionEvent => fields.cursors .retentionEvent) = fields.cursors := by
    funext source
    cases source <;> rfl
  rw [stateFromFooter, validateFooter_footerDocument host fields digest counted]
  simp [footerDocument, footerMembers, Dict.get_cons, stamped, instant,
    host.fromIsoformat_isoformat, cursors]

end FooterDocument

end Journal
end Sutradhara
