import Mathlib.Data.List.Cycle
import Sutradhara.Journal.Published

/-!
# What the head of an accepted journal commits to

An accepted walk follows the chain of entries from the genesis hash, so under a
hash without collisions on the documents it hashes, its head determines the
source, the identifier and the payload of every entry and their order.  The
footers are not part of the chain: the head does not determine how the entries
are split into segments.
-/

namespace Sutradhara
namespace Journal

open Foundation Foundation.Json Foundation.Raising
open List hiding count next head iterate

/-! ## One line -/

theorem eq_true_of_ensureLine (passed : ensureLine lineNumber condition message = .ok done) :
    condition = true :=
  eq_true_of_require passed

theorem eq_name_of_knownSource (known : knownSource host lineNumber value = .ok source) :
    value = .str source.name := by
  unfold knownSource at known
  split at known
  next name =>
    split at known
    next found =>
      cases known
      rw [Source.name_of_ofName? found]
    · cases known
  · cases known

/-- An accepted entry line carries the next entry of the chain. -/
theorem checkEntry_spec
    (isEntry : equalsText (value.get "kind") "entry" = true)
    (checked : checkEntry host lineNumber value state = .ok next) :
    ∃ entry, entryOf? value = some ⟨state.walk.expectedSequence, entry⟩ ∧
      next = state.follow host entry := by
  unfold checkEntry at checked
  iterate 2 obtain ⟨_, _, checked⟩ := exists_of_bind_eq_ok checked
  obtain ⟨sequence, readSequence, checked⟩ := exists_of_bind_eq_ok checked
  obtain ⟨_, expected, checked⟩ := exists_of_bind_eq_ok checked
  obtain ⟨source, known, checked⟩ := exists_of_bind_eq_ok checked
  obtain ⟨eventId, readEvent, checked⟩ := exists_of_bind_eq_ok checked
  iterate 2 obtain ⟨_, _, checked⟩ := exists_of_bind_eq_ok checked
  obtain ⟨payload, readPayload, checked⟩ := exists_of_bind_eq_ok checked
  obtain ⟨_, _, checked⟩ := exists_of_bind_eq_ok checked
  obtain ⟨checksum, _, checked⟩ := exists_of_bind_eq_ok checked
  obtain ⟨_, compared, checked⟩ := exists_of_bind_eq_ok checked
  obtain ⟨_, sameChecksum, checked⟩ := exists_of_bind_eq_ok checked
  obtain ⟨_, _, checked⟩ := exists_of_bind_eq_ok checked
  obtain ⟨hash, _, checked⟩ := exists_of_bind_eq_ok checked
  obtain ⟨_, comparedHash, checked⟩ := exists_of_bind_eq_ok checked
  obtain ⟨_, sameHash, checked⟩ := exists_of_bind_eq_ok checked
  have ended := Except.ok.inj checked
  have sequenceEq := beq_iff_eq.mp (eq_true_of_ensureLine expected)
  rw [eq_true_of_ensureLine sameChecksum] at compared
  rw [eq_true_of_ensureLine sameHash] at comparedHash
  have checksumEq := eq_of_constantTimeEqual compared
  have hashEq := eq_of_constantTimeEqual comparedHash
  subst sequenceEq checksumEq hashEq
  refine ⟨⟨source, eventId, payload⟩, ?_, ?_⟩
  · have sequenceValue := eq_nat_of_integer readSequence
    have eventValue := eq_nat_of_integer readEvent
    have sourceValue := eq_name_of_knownSource known
    have payloadValue := eq_obj_of_dict readPayload
    simp [entryOf?, isEntry, sequenceValue, eventValue, sourceValue, payloadValue, Except.toOption]
  · exact ended.symm

/-! ## Whole segments -/

/-- Lines the walk accepts carry the next entries of the chain. -/
theorem checkLines_spec (checked : checkLines host lineNumber lines state = .ok next) :
    ∃ entries, lines.filterMap Line.carried? = numberFrom state.walk.expectedSequence entries ∧
      next.walk = entries.foldl (Walk.follow host) state.walk ∧
      next.entryCount = state.entryCount + entries.length := by
  induction lines generalizing lineNumber state with
  | nil =>
    cases checked
    exact ⟨[], rfl, rfl, rfl⟩
  | cons line rest ih =>
    obtain ⟨middle, first, later⟩ := exists_of_bind_eq_ok checked
    obtain ⟨entries, carried, walked, counted⟩ := ih later
    unfold checkLine at first
    split at first
    · cases first
    next loaded loads =>
      obtain ⟨value, isDict, first⟩ := exists_of_bind_eq_ok first
      have lineEntry : line.carried? = entryOf? value := by
        rw [Line.carried?, loads, eq_obj_of_dict isDict]
      split at first
      next isFooter =>
        obtain ⟨_, _, first⟩ := exists_of_bind_eq_ok first
        cases first
        have noEntry : line.carried? = none := by
          rw [lineEntry, entryOf?, eq_str_of_equalsText isFooter]
          simp [equalsText]
        refine ⟨entries, ?_, walked, counted⟩
        rw [filterMap_cons, noEntry, carried]
      · obtain ⟨_, _, first⟩ := exists_of_bind_eq_ok first
        obtain ⟨_, isEntry, first⟩ := exists_of_bind_eq_ok first
        obtain ⟨entry, read, rfl⟩ := checkEntry_spec (eq_true_of_ensureLine isEntry) first
        refine ⟨entry :: entries, ?_, walked, ?_⟩
        · rw [filterMap_cons, lineEntry, read, carried]
          rfl
        · have one : (state.follow host entry).entryCount = state.entryCount + 1 := rfl
          rw [length_cons]
          omega

/-- A valid footer counts its entries, and there are some. -/
theorem exists_count_of_validateFooter (valid : validateFooter host footer = .ok done) :
    ∃ count, footer.get "entry_count" = .nat count ∧ count ≠ 0 := by
  unfold validateFooter at valid
  iterate 8 obtain ⟨_, _, valid⟩ := exists_of_bind_eq_ok valid
  obtain ⟨count, readCount, valid⟩ := exists_of_bind_eq_ok valid
  iterate 4 obtain ⟨_, _, valid⟩ := exists_of_bind_eq_ok valid
  obtain ⟨_, _, positive⟩ := exists_of_bind_eq_ok valid
  exact ⟨count, eq_nat_of_integer readCount, bne_iff_ne.mp (eq_true_of_require positive)⟩

/-- The head of a state is the head hash of its footer. -/
theorem head_of_stateFromFooter (read : stateFromFooter host footer path = .ok state) :
    footer.get "head_hash" = .str state.headHash := by
  unfold stateFromFooter at read
  iterate 4 obtain ⟨_, _, read⟩ := exists_of_bind_eq_ok read
  obtain ⟨head, isText, read⟩ := exists_of_bind_eq_ok read
  iterate 3 obtain ⟨_, _, read⟩ := exists_of_bind_eq_ok read
  cases read
  exact eq_str_of_text isText

/-- An accepted segment carries at least one entry, and its footer repeats the
head of the walk. -/
theorem checkSegment_spec (accepted : checkSegment host file walk = .ok checked) :
    ∃ entries, entries ≠ [] ∧ file.entries = numberFrom walk.expectedSequence entries ∧
      checked.walk = entries.foldl (Walk.follow host) walk ∧
      Dict.get checked.footer "head_hash" = .str checked.walk.expectedHash := by
  obtain ⟨state, lines, accepted⟩ := exists_of_bind_eq_ok accepted
  obtain ⟨footer, _, accepted⟩ := exists_of_bind_eq_ok accepted
  obtain ⟨_, valid, accepted⟩ := exists_of_bind_eq_ok accepted
  obtain ⟨cursors, _, accepted⟩ := exists_of_bind_eq_ok accepted
  obtain ⟨_, matching, accepted⟩ := exists_of_bind_eq_ok accepted
  have matched := eq_true_of_require matching
  simp only [footerMatches, Bool.and_eq_true] at matched
  obtain ⟨count, countValue, positive⟩ := exists_count_of_validateFooter valid
  obtain ⟨entries, carried, walked, counted⟩ := checkLines_spec lines
  cases accepted
  refine ⟨entries, ?_, carried, walked, eq_str_of_equalsText matched.1.2⟩
  rintro rfl
  have sameCount := matched.1.1.1.2
  rw [countValue, counted] at sameCount
  exact positive (Int.ofNat.inj (beq_iff_eq.mp sameCount))

/-! ## Whole journals -/

/-- A walk without issues ends with the head of the chain of all entries. -/
theorem walkSegments_spec
    (atHead : report.state.headHash = walk.expectedHash)
    (walked : walkSegments host root segments walk report = .ok final)
    (accepted : final.issues = []) :
    ∃ entries, segments.flatMap (fun segment => segment.file.entries) =
        numberFrom walk.expectedSequence entries ∧
      final.state.headHash = (entries.foldl (Walk.follow host) walk).expectedHash ∧
      (segments ≠ [] → entries ≠ []) := by
  induction segments generalizing walk report with
  | nil =>
    cases walked
    exact ⟨[], rfl, atHead, fun nonempty => absurd rfl nonempty⟩
  | cons segment rest ih =>
    unfold walkSegments at walked
    split at walked
    · cases walked
      simp at accepted
    · cases walked
    next checked segmentAccepted =>
      obtain ⟨state, read, later⟩ := exists_of_bind_eq_ok walked
      obtain ⟨first, nonempty, carriedFirst, walkedFirst, footerHead⟩ :=
        checkSegment_spec segmentAccepted
      have sameHead : state.headHash = checked.walk.expectedHash := by
        have head := head_of_stateFromFooter read
        rw [footerHead] at head
        exact (Value.str.inj head).symm
      obtain ⟨others, carried, head, _⟩ := ih sameHead later
      refine ⟨first ++ others, ?_, ?_, ?_⟩
      · rw [flatMap_cons, carriedFirst, carried, walkedFirst,
          numberFrom_append, follow_expectedSequence]
      · rw [head, walkedFirst, List.foldl_append]
      · intro _ empty
        exact nonempty (append_eq_nil_iff.mp empty).1

section

variable (host : Host) (root : String) (listing : List SegmentFile)

/-- The entries of each segment in the order of the walk. -/
def carriedSegments : List (List SourceEntry) :=
  match publishedSegments host root listing with
  | .error _ => []
  | .ok segments => segments.map fun segment => segment.file.entries.map NumberedEntry.entry

/-- All entries in the order of the walk. -/
def carriedEntries : List SourceEntry := (carriedSegments host root listing).flatten

/-- The documents whose hashes the walk compares: payloads, links and
footers. -/
def hashedDocuments : List Value :=
  let entries := carriedEntries host root listing
  let footers :=
    match publishedSegments host root listing with
    | .error _ => []
    | .ok segments => segments.map fun segment =>
      Value.obj (Dict.without "footer_checksum" segment.footer)
  entries.map (fun entry => .obj entry.payload) ++
    HashChain.links (hashJson host) linkDocument 1 (genesisHash host)
      (entries.map (SourceEntry.linkItem host)) ++ footers

/-- The segment walk accepts a directory without an issue and ends with a
head. -/
def Accepted (head : String) : Prop :=
  ∃ report, walkJournal host root listing = .ok report ∧
    report.issues = [] ∧ report.state.headHash = head

/-- The hash is injective on the canonical texts of two directories. -/
def InjectiveOn (firstRoot secondRoot : String) (first second : List SegmentFile) : Prop :=
  HashChain.CollisionFree host.sha256
    ((hashedDocuments host firstRoot first ++
      hashedDocuments host secondRoot second).map canonicalJson)

end

/-- An accepted directory carries entries, and its head is that of their
chain. -/
theorem Accepted.chain (accepted : Accepted host root listing head) :
    carriedEntries host root listing ≠ [] ∧
      head = HashChain.head (hashJson host) linkDocument 1 (genesisHash host)
        ((carriedEntries host root listing).map (SourceEntry.linkItem host)) := by
  obtain ⟨report, walked, noIssue, rfl⟩ := accepted
  unfold walkJournal at walked
  split at walked
  · cases walked
    cases noIssue
  · cases walked
  · cases walked
    cases noIssue
  next segments nonempty found =>
    obtain ⟨entries, carried, atHead, hasEntries⟩ := walkSegments_spec rfl walked noIssue
    have same : carriedEntries host root listing = entries := by
      rw [carriedEntries, carriedSegments, found, ← flatMap_def,
        ← map_entry_numberFrom (Walk.initial host).expectedSequence entries,
        ← carried, map_flatMap]
    rw [same, atHead, follow_expectedHash]
    exact ⟨hasEntries nonempty, rfl⟩

/-- Links without collisions determine their entries. -/
theorem eq_of_map_linkItem_eq
    {second : List SourceEntry}
    (free : HashChain.CollisionFree (hashJson host)
      ((first ++ second).map fun entry => .obj entry.payload))
    (same : first.map (SourceEntry.linkItem host) = second.map (SourceEntry.linkItem host)) :
    first = second := by
  induction first generalizing second with
  | nil => exact (map_eq_nil_iff.mp same.symm).symm
  | cons entry rest ih =>
    cases second with
    | nil => cases same
    | cons other others =>
      obtain ⟨sameItem, sameRest⟩ := List.cons.inj same
      have sameEntry : entry = other := by
        cases entry
        cases other
        simp only [SourceEntry.linkItem, LinkItem.mk.injEq] at sameItem
        obtain ⟨sameSource, sameEvent, sameHash⟩ := sameItem
        have samePayload := free _ (by simp) _ (by simp) sameHash
        rw [sameSource, sameEvent, Value.obj.inj samePayload]
      rw [sameEntry, ih (free.mono ?_) sameRest]
      intro document member
      simp only [map_append, map_cons, mem_append, mem_cons] at member ⊢
      tauto

/-- The head of an accepted directory determines the source, the identifier and
the payload of every entry and their order. -/
theorem carriedEntries_eq_of_sameHead
    (host : Host)
    (firstRoot secondRoot : String)
    (first second : List SegmentFile)
    (head : String)
    (injective : InjectiveOn host firstRoot secondRoot first second)
    (firstAccepted : Accepted host firstRoot first head)
    (secondAccepted : Accepted host secondRoot second head) :
    carriedEntries host firstRoot first = carriedEntries host secondRoot second := by
  have free : HashChain.CollisionFree (hashJson host) (hashedDocuments host firstRoot first ++
        hashedDocuments host secondRoot second) :=
    HashChain.CollisionFree.of_map canonicalJson_injective injective
  obtain ⟨firstNonempty, firstHead⟩ := firstAccepted.chain
  obtain ⟨secondNonempty, secondHead⟩ := secondAccepted.chain
  have sameItems := HashChain.eq_of_head_eq linkDocument_injective
    (fun empty => firstNonempty (map_eq_nil_iff.mp empty))
    (fun empty => secondNonempty (map_eq_nil_iff.mp empty))
    (free.mono fun document member => by
      simp only [hashedDocuments, mem_append] at member ⊢
      tauto)
    (firstHead.symm.trans secondHead)
  refine eq_of_map_linkItem_eq (free.mono ?_) sameItems
  intro document member
  simp only [hashedDocuments, map_append, mem_append] at member ⊢
  tauto

/-! ## The split into segments -/

/-- The head of an accepted directory determines how its entries are split into
segments. -/
def HeadDeterminesSplit : Prop :=
  ∀ (host : Host) (firstRoot secondRoot : String)
    (first second : List SegmentFile) (head : String),
    InjectiveOn host firstRoot secondRoot first second →
    Accepted host firstRoot first head →
    Accepted host secondRoot second head →
    carriedSegments host firstRoot first = carriedSegments host secondRoot second

section Lengths

/-- Length of a text inside its quotes. -/
def escapedLength (text : String) : Nat := (text.toList.flatMap escapeChar).length

theorem escapedLength_lengthDigest (text : String) : escapedLength (lengthDigest text) = 64 := by
  have plain : ∀ digit < 16, escapeChar (Nat.digitChar digit) = [Nat.digitChar digit] := by decide
  have single (index : Nat) : (escapeChar (Nat.digitChar
      (text.toList.length / 16 ^ index % 16))).length = 1 := by
    rw [plain _ (Nat.mod_lt _ (by decide))]
    rfl
  simp [escapedLength, lengthDigest, length_flatMap, Function.comp_def, single]

theorem length_printString (text : String) :
    (printString text).length = escapedLength text + 2 := by
  simp [printString, escapedLength]

/-- The digest of a short text tells its length. -/
theorem length_eq_of_lengthDigest_eq
    (firstShort : first.toList.length < 4096)
    (secondShort : second.toList.length < 4096)
    (same : lengthDigest first = lengthDigest second) :
    first.toList.length = second.toList.length := by
  have digits := map_inj_left.mp (String.ofList_injective same)
  have digitInj : ∀ left < 16, ∀ right < 16,
      Nat.digitChar left = Nat.digitChar right → left = right := by
    decide
  have digit (index : Nat) (small : index < 64) : first.toList.length / 16 ^ index % 16 =
        second.toList.length / 16 ^ index % 16 :=
    digitInj _ (Nat.mod_lt _ (by decide)) _ (Nat.mod_lt _ (by decide))
      (digits index (mem_range.mpr small))
  have ones := digit 0 (by decide)
  have sixteens := digit 1 (by decide)
  have rest := digit 2 (by decide)
  omega

/-- Documents of distinct lengths do not collide. -/
theorem collisionFree_of_lengths
    {documents : List Value}
    (distinct : (documents.map fun document => document.print.length).Nodup)
    (short : ∀ document ∈ documents, document.print.length < 4096) :
    HashChain.CollisionFree lengthHost.sha256 (documents.map canonicalJson) := by
  intro first firstMember second secondMember same
  obtain ⟨left, leftMember, rfl⟩ := mem_map.mp firstMember
  obtain ⟨right, rightMember, rfl⟩ := mem_map.mp secondMember
  have lengths := length_eq_of_lengthDigest_eq
    (by simpa [canonicalJson] using short left leftMember)
    (by simpa [canonicalJson] using short right rightMember) same
  rw [canonicalJson, canonicalJson, String.toList_ofList, String.toList_ofList] at lengths
  rw [inj_on_of_nodup_map distinct leftMember rightMember lengths]

end Lengths

section Published

variable {host : Host} {root : String} {segments : List Segment}
variable {entries : List SourceEntry} {state : JournalState}

/-- The published entries are found in the files. -/
theorem Published.carriedEntries_eq
    (published : Published host root segments entries state)
    (bounded : entries.length < 10 ^ 20) :
    carriedEntries host root (segments.map Segment.file) = entries := by
  rw [carriedEntries, carriedSegments, published.listed bounded (List.Perm.refl _), ← flatMap_def]
  have carried := congrArg (List.map NumberedEntry.entry) published.carried
  rwa [map_entry_numberFrom, map_flatMap] at carried

/-- The checker accepts the files under the head of the state. -/
theorem Published.head_accepted
    (published : Published host root segments entries state)
    (nonempty : segments ≠ [])
    (bounded : entries.length < 10 ^ 20) :
    Accepted host root (segments.map Segment.file) state.headHash :=
  ⟨_, published.accepted nonempty bounded (List.Perm.refl _), rfl, rfl⟩

end Published

section Split

/-- A receipt. -/
def earlyEntry : SourceEntry := ⟨.verifyReceipt, 1, [("event_id", .nat 1)]⟩

/-- An event. -/
def lateEntry : SourceEntry := ⟨.retentionEvent, 10, [("event_id", .nat 10)]⟩

/-- The state before the first export. -/
def initialState : JournalState := JournalState.initial lengthHost

/-- The state after an export of the receipt alone. -/
def receiptState : JournalState := stateAfter lengthHost "journal" initialState [earlyEntry] 777

/-- One export of both entries. -/
def jointExport : List Segment := [newSegment lengthHost initialState [earlyEntry, lateEntry] 7]

/-- Two exports of one entry each. -/
def splitExports : List Segment :=
  [newSegment lengthHost initialState [earlyEntry] 777,
   newSegment lengthHost receiptState [lateEntry] 7777]

theorem published_jointExport : Published lengthHost "journal" jointExport [earlyEntry, lateEntry]
      (stateAfter lengthHost "journal" initialState [earlyEntry, lateEntry] 7) := by
  refine Published.empty.publish _ (cons_ne_nil _ _) ⟨?_, ?_, ?_⟩ 7
  · decide
  · simp [earlyEntry, lateEntry, JournalState.initial]
  · simp [earlyEntry, lateEntry, Dict.get]

theorem published_splitExports : Published lengthHost "journal" splitExports [earlyEntry, lateEntry]
      (stateAfter lengthHost "journal" receiptState [lateEntry] 7777) := by
  refine Published.publish (Published.empty.publish _ (cons_ne_nil _ _)
    ⟨?_, ?_, ?_⟩ 777) _ (cons_ne_nil _ _) ⟨?_, ?_, ?_⟩ 7777
  · decide
  · simp [earlyEntry, JournalState.initial]
  · simp [earlyEntry, Dict.get]
  · decide
  · simp [lateEntry]
    decide
  · simp [lateEntry, Dict.get]

/-- Both ways end with the same head. -/
theorem headHash_jointExport :
    (stateAfter lengthHost "journal" initialState [earlyEntry, lateEntry] 7).headHash =
      (stateAfter lengthHost "journal" receiptState [lateEntry] 7777).headHash :=
  published_jointExport.head_eq.trans published_splitExports.head_eq.symm

/-- The payloads and links of the two entries. -/
def chainDocuments : List Value :=
  let earlyLink := linkDocument 1 (genesisHash lengthHost) (earlyEntry.linkItem lengthHost)
  [.obj earlyEntry.payload, .obj lateEntry.payload, earlyLink,
   linkDocument 2 (hashJson lengthHost earlyLink) (lateEntry.linkItem lengthHost)]

/-- The footers of the three segments. -/
def jointFooter : Value :=
  .obj (footerMembers (segmentFooter lengthHost initialState [earlyEntry, lateEntry] 7) [])

@[inherit_doc jointFooter]
def earlyFooter : Value :=
  .obj (footerMembers (segmentFooter lengthHost initialState [earlyEntry] 777) [])

@[inherit_doc jointFooter]
def lateFooter : Value :=
  .obj (footerMembers (segmentFooter lengthHost receiptState [lateEntry] 7777) [])

/-- What the walk over the joint export hashes. -/
theorem hashedDocuments_jointExport :
    hashedDocuments lengthHost "journal" (jointExport.map Segment.file) =
      chainDocuments ++ [jointFooter] := by
  rw [hashedDocuments, published_jointExport.carriedEntries_eq (by decide),
    published_jointExport.listed (by decide) (List.Perm.refl _)]
  simp only [jointExport, newSegment, map_cons, map_nil, without_footerDocument]
  rfl

/-- What the walk over the split exports hashes. -/
theorem hashedDocuments_splitExports :
    hashedDocuments lengthHost "journal" (splitExports.map Segment.file) =
      chainDocuments ++ [earlyFooter, lateFooter] := by
  rw [hashedDocuments, published_splitExports.carriedEntries_eq (by decide),
    published_splitExports.listed (by decide) (List.Perm.refl _)]
  simp only [splitExports, newSegment, map_cons, map_nil, without_footerDocument]
  rfl

/-- Hashes do not change the length of a link or a footer, so the lengths can be
evaluated without them. -/
theorem documentLengths : ((chainDocuments ++ [jointFooter, earlyFooter, lateFooter]).map
      fun document => document.print.length) =
      [14, 15, 287, 289, 326, 327, 329] := by
  have empty : escapedLength "" = 0 := rfl
  have link (sequence eventId : Nat) (source : Source) (first second : String) :
      (linkDocument sequence (lengthDigest first)
        ⟨source, eventId, lengthDigest second⟩).print.length =
      (linkDocument sequence "" ⟨source, eventId, ""⟩).print.length + 128 := by
    simp only [linkDocument, Value.print, printMembers, length_cons, length_append,
      length_printString, empty, escapedLength_lengthDigest]
    omega
  have footer (fields : FooterFields) (text : String)
      (hashed : fields.headHash = lengthDigest text) :
      (Value.obj (footerMembers fields [])).print.length =
      (Value.obj (footerMembers { fields with headHash := "" } [])).print.length + 64 := by
    simp only [footerMembers, cons_append, nil_append, Value.print, printMembers, length_cons,
      length_append, length_printString, empty, hashed, escapedLength_lengthDigest]
    omega
  have documents : (chainDocuments ++ [jointFooter, earlyFooter, lateFooter]).map
        (fun document => document.print.length) =
      [(Value.obj earlyEntry.payload).print.length, (Value.obj lateEntry.payload).print.length,
       (linkDocument 1 "" ⟨.verifyReceipt, 1, ""⟩).print.length + 128,
       (linkDocument 2 "" ⟨.retentionEvent, 10, ""⟩).print.length + 128] ++
      [segmentFooter lengthHost initialState [earlyEntry, lateEntry] 7,
       segmentFooter lengthHost initialState [earlyEntry] 777,
       segmentFooter lengthHost receiptState [lateEntry] 7777].map fun fields =>
        (Value.obj (footerMembers { fields with headHash := "" } [])).print.length + 64 := by
    simp only [chainDocuments, jointFooter, earlyFooter, lateFooter,
      cons_append, nil_append, map_cons, map_nil]
    rw [← link 1 1 .verifyReceipt, ← link 2 10 .retentionEvent,
      ← footer (segmentFooter lengthHost initialState [earlyEntry, lateEntry] 7) _ rfl,
      ← footer (segmentFooter lengthHost initialState [earlyEntry] 777) _ rfl,
      ← footer (segmentFooter lengthHost receiptState [lateEntry] 7777) _ rfl]
    rfl
  rw [documents]
  decide +kernel

theorem injectiveOn_joint_split :
    InjectiveOn lengthHost "journal" "journal" (jointExport.map Segment.file)
      (splitExports.map Segment.file) := by
  have free : HashChain.CollisionFree lengthHost.sha256
      ((chainDocuments ++ [jointFooter, earlyFooter, lateFooter]).map canonicalJson) := by
    refine collisionFree_of_lengths ?_ ?_
    · rw [documentLengths]
      decide
    · intro document member
      have listed : document.print.length ∈
          (chainDocuments ++ [jointFooter, earlyFooter, lateFooter]).map
            fun document => document.print.length :=
        mem_map_of_mem member
      rw [documentLengths] at listed
      generalize document.print.length = length at listed ⊢
      revert length
      decide
  refine free.mono ?_
  intro text member
  rw [hashedDocuments_jointExport, hashedDocuments_splitExports] at member
  obtain ⟨document, documentMember, rfl⟩ := mem_map.mp member
  refine mem_map_of_mem ?_
  simp only [mem_append, mem_cons] at documentMember ⊢
  rcases documentMember with (chain | isTogether) | (chain | others)
  · exact Or.inl chain
  · exact Or.inr (isTogether.imp_right nofun)
  · exact Or.inl chain
  · exact Or.inr (Or.inr others)

/-- The joint export is accepted. -/
theorem accepted_jointExport : Accepted lengthHost "journal" (jointExport.map Segment.file)
      (stateAfter lengthHost "journal" initialState [earlyEntry, lateEntry] 7).headHash :=
  published_jointExport.head_accepted (cons_ne_nil _ _) (by decide)

/-- The split exports are accepted under the head of the joint one. -/
theorem accepted_splitExports : Accepted lengthHost "journal" (splitExports.map Segment.file)
      (stateAfter lengthHost "journal" initialState [earlyEntry, lateEntry] 7).headHash := by
  rw [headHash_jointExport]
  exact published_splitExports.head_accepted (cons_ne_nil _ _) (by decide)

/-- Two exports of one entry each end with the head of one export of both. -/
theorem not_headDeterminesSplit : ¬ HeadDeterminesSplit := by
  intro determines
  have same := determines lengthHost "journal" "journal"
    (jointExport.map Segment.file) (splitExports.map Segment.file) _
    injectiveOn_joint_split accepted_jointExport accepted_splitExports
  rw [carriedSegments, carriedSegments, published_jointExport.listed (by decide) (List.Perm.refl _),
    published_splitExports.listed (by decide) (List.Perm.refl _)] at same
  have lengths := congrArg List.length same
  simp [jointExport, splitExports] at lengths

theorem carriedEntries_eq_of_sameHead_split :
    carriedEntries lengthHost "journal" (jointExport.map Segment.file) =
      carriedEntries lengthHost "journal" (splitExports.map Segment.file) :=
  carriedEntries_eq_of_sameHead lengthHost "journal" "journal"
    (jointExport.map Segment.file) (splitExports.map Segment.file) _
    injectiveOn_joint_split accepted_jointExport accepted_splitExports

end Split

end Journal
end Sutradhara
