import Sutradhara.Receive.Bag

/-!
# What a valid bag covers

Validation compares payload and manifest under paths that it canonicalises once
more: the file `x` and the file `data/x` of a payload are compared under the one key
`x`.  Of the files and of the lines that fall together only one counts, the one with
the greatest path.  A valid bag covers its payload exactly where no file with bytes
is hidden in this way and the manifest has a line of its own for every file, under
the path of the file and with the digest that counts.
-/

namespace Sutradhara
namespace Receive

open Foundation
open Foundation.Raising OrderedMap
open List hiding map after

section

variable (platform : Platform) (bag : Bag) (entries : List PayloadEntry)

/-- The regular files below the payload root. -/
def payloadFiles : List (List FileName × Bytes) :=
  entries.filterMap fun entry =>
    match entry.kind with
    | .file content => some (entry.path, content)
    | _ => none

/-- Every file has its own manifest line, with its path and its digest. -/
def Covered : Prop :=
  ∃ lines, manifestLines platform bag = .ok lines ∧
    ∃ owner : Fin (payloadFiles entries).length → Fin lines.length,
      Function.Injective owner ∧ ∀ index,
        canonicalizeFilesystemPath platform.toUnicode
            ((payloadFiles entries).get index).1 =
          .ok (lines.get (owner index)).1 ∧
        platform.sha256 ((payloadFiles entries).get index).2 = (lines.get (owner index)).2

/-- Changing the bytes of one file makes the bag invalid. -/
def TamperEvident : Prop :=
  ∀ before after path content changed,
    entries = before ++ ⟨path, .file content⟩ :: after →
    platform.sha256 changed ≠ platform.sha256 content →
    (validateBag platform
      { bag with payload := some (before ++ ⟨path, .file changed⟩ :: after) }).valid = false

end

/-- A valid bag covers its payload. -/
def CoverageLaw : Prop :=
  ∀ platform bag entries,
    bag.payload = some entries →
    (validateBag platform bag).valid = true →
    Covered platform bag entries ∧ TamperEvident platform bag entries

/-! ## What counts -/

/-- The canonical path of a payload file. -/
def payloadPath (platform : Platform) (file : List FileName × Bytes) : Text :=
  (canonicalizeFilesystemPath platform.toUnicode file.1).toOption.getD []

/-- The path at an index is the one that counts among the paths with its canonical
form: no other is greater, and none that is the same comes later. -/
def Prevails (unicode : Unicode) (paths : List Text) (index : Nat) : Prop :=
  ∃ path, paths[index]? = some path ∧
    ∀ (other : Nat) (rival : Text), paths[other]? = some rival →
      canonicalizeManifestPath unicode rival = canonicalizeManifestPath unicode path →
      rival < path ∨ rival = path ∧ other ≤ index

/-- `bag-info.txt` is read and declares something, so the size of the payload is
checked. -/
def Described (platform : Platform) (bag : Bag) : Prop :=
  ∃ metadata, (readToString bag "bag-info.txt".toList).bind
    (readBagInfo platform.toUnicode) = .ok metadata ∧ metadata ≠ []

section

variable (platform : Platform) (bag : Bag) (entries : List PayloadEntry)

/-- The file at an index is the one that counts among those that fall together. -/
def Shown (index : Nat) : Prop :=
  Prevails platform.toUnicode ((payloadFiles entries).map (payloadPath platform)) index

/-- No file with bytes is hidden behind another one, and every file has a line of its
own under its path.  No digest of a file that counts is read here: its line has to
agree with the line that counts. -/
structure Attested (lines : List (Text × Text)) : Prop where
  shown : ∀ index : Fin (payloadFiles entries).length,
    Shown platform entries index ∨
      ((payloadFiles entries).get index).2 = [] ∧ Described platform bag
  listed : ∃ owner : Fin (payloadFiles entries).length → Fin lines.length,
    Function.Injective owner ∧ ∀ index,
      payloadPath platform ((payloadFiles entries).get index) = (lines.get (owner index)).1 ∧
      (Shown platform entries index → ∀ line : Fin lines.length,
        Prevails platform.toUnicode (lines.map Prod.fst) line →
        canonicalizeManifestPath platform.toUnicode (lines.get line).1 =
          canonicalizeManifestPath platform.toUnicode (lines.get (owner index)).1 →
        (lines.get (owner index)).2 = (lines.get line).2) ∧
      (¬ Shown platform entries index → (lines.get (owner index)).2 = platform.sha256 [])

/-- Bytes can be changed so that the digest is another one, and those of a file that
has any without changing their number. -/
def Varied : Prop :=
  ∀ content, ∃ changed,
    platform.sha256 changed ≠ platform.sha256 content ∧
      (content ≠ [] → changed.length = content.length)

end

variable {platform : Platform}

/-! ## The comparison under canonical paths -/

/-- The receipts are those of the files, in the order of the traversal. -/
theorem map_payloadFiles_eq_map_records
    (collected : collectPayloadHashes platform rejectNativePackages entries = .ok records) :
    (payloadFiles entries).map (fun file =>
        (canonicalizeFilesystemPath platform.toUnicode file.1,
          platform.sha256 file.2, file.2.length)) =
      records.map fun record => (.ok record.relpath, record.sha256Hex, record.sizeBytes) := by
  induction entries generalizing records with
  | nil =>
    cases collected
    rfl
  | cons entry rest ih =>
    obtain ⟨receipt, hashed, later⟩ := exists_of_bind_eq_ok collected
    obtain ⟨others, collectedRest, rfl⟩ := exists_of_map_eq_ok later
    rw [map_append, ← ih collectedRest]
    unfold payloadHash at hashed
    split at hashed
    · cases hashed
    next relpath canonical =>
      split at hashed
      · cases hashed
      next directory =>
        split_ifs at hashed
        cases hashed
        simp [payloadFiles, directory]
      next content file =>
        cases hashed
        simp [payloadFiles, file, canonical]
      · cases hashed

/-- The canonical entries of a map come from its entries. -/
theorem mem_canonicalEntries_iff
    (read : canonicalEntries unicode map = .ok canonical)
    (key value : Text) :
    (key, value) ∈ canonical ↔ ∃ entry ∈ map, canonicalizeManifestPath unicode entry.1 = .ok key ∧
        value = asciiLowercase entry.2 := by
  induction map generalizing canonical with
  | nil =>
    cases read
    simp
  | cons entry rest ih =>
    obtain ⟨path, canonicalPath, later⟩ := exists_of_bind_eq_ok read
    obtain ⟨others, readRest, rfl⟩ := exists_of_map_eq_ok later
    rw [mem_cons, ih readRest]
    simp [canonicalPath, eq_comm]

/-- Of the entries of a map that fall together the one with the greatest path counts. -/
theorem lookup_canonicalEntries_iff
    {map canonical : List (Text × Text)}
    {key digest : Text}
    (ordered : map.Pairwise fun first second => first.1 < second.1)
    (read : canonicalEntries unicode map = .ok canonical) :
    (collect canonical).lookup key = some digest ↔
      ∃ entry ∈ map, canonicalizeManifestPath unicode entry.1 = .ok key ∧
        digest = asciiLowercase entry.2 ∧
        ∀ other ∈ map, canonicalizeManifestPath unicode other.1 = .ok key → other.1 ≤ entry.1 := by
  rw [lookup_collect]
  induction map generalizing canonical with
  | nil =>
    cases read
    simp
  | cons entry rest ih =>
    obtain ⟨path, canonicalPath, later⟩ := exists_of_bind_eq_ok read
    obtain ⟨others, readRest, rfl⟩ := exists_of_map_eq_ok later
    obtain ⟨above, orderedRest⟩ := pairwise_cons.mp ordered
    rw [lookup_reverse_cons, Option.or_eq_some_iff, ih orderedRest readRest]
    constructor
    · rintro (⟨found, member, isKey, isDigest, greatest⟩ | ⟨absent, isHead⟩)
      · exact ⟨found, mem_cons_of_mem entry member, isKey, isDigest,
          forall_mem_cons.mpr ⟨fun _ => (above found member).le, greatest⟩⟩
      · split_ifs at isHead with same
        subst same
        refine ⟨entry, mem_cons_self, canonicalPath, (Option.some.inj isHead).symm,
          forall_mem_cons.mpr ⟨fun _ => le_rfl, fun other member isKey => ?_⟩⟩
        have inRest := (mem_canonicalEntries_iff readRest key _).mpr ⟨other, member, isKey, rfl⟩
        have differs := lookup_eq_none_iff.mp absent _ (mem_reverse.mpr inRest)
        simp at differs
    · rintro ⟨found, member, isKey, isDigest, greatest⟩
      obtain ⟨-, greatestRest⟩ := forall_mem_cons.mp greatest
      rcases mem_cons.mp member with rfl | inRest
      · refine .inr ⟨?_, ?_⟩
        · refine lookup_eq_none_iff.mpr fun other otherMember => bne_iff_ne.mpr ?_
          rintro rfl
          obtain ⟨rival, rivalMember, isRival, -⟩ :=
            (mem_canonicalEntries_iff readRest other.1 other.2).mp (mem_reverse.mp otherMember)
          exact absurd (greatestRest rival rivalMember isRival)
            (not_le.mpr (above rival rivalMember))
        · rw [if_pos (Except.ok.inj (isKey.symm.trans canonicalPath)), isDigest]
      · exact .inl ⟨found, inRest, isKey, isDigest, greatestRest⟩

/-- The digest under a canonical path is the one of the item that counts. -/
theorem lookup_canonical_iff
    {items canonical : List (Text × Text)}
    {key digest : Text}
    (read : canonicalEntries unicode (collect items) = .ok canonical) :
    (collect canonical).lookup key = some digest ↔
      ∃ (index : Nat) (item : Text × Text), items[index]? = some item ∧
        Prevails unicode (items.map Prod.fst) index ∧
        canonicalizeManifestPath unicode item.1 = .ok key ∧
        digest = asciiLowercase item.2 := by
  rw [lookup_canonicalEntries_iff (pairwise_collect items) read]
  constructor
  · rintro ⟨entry, member, isKey, isDigest, greatest⟩
    rw [mem_collect_iff, lookup_collect, lookup_reverse_eq_some_iff] at member
    obtain ⟨index, found, latest⟩ := member
    refine ⟨index, entry, found, ⟨entry.1, by simp [found], ?_⟩, isKey, isDigest⟩
    intro other rival listed same
    rw [getElem?_map] at listed
    obtain ⟨item, isItem, rfl⟩ := Option.map_eq_some_iff.mp listed
    obtain ⟨value, kept⟩ := exists_lookup_collect (mem_of_getElem? isItem)
    rcases (greatest _ (mem_of_lookup kept) (same.trans isKey)).lt_or_eq with below | equal
    · exact .inl below
    · refine .inr ⟨equal, latest other item.2 ?_⟩
      rw [isItem, ← show item.1 = entry.1 from equal]
  · rintro ⟨index, item, found, ⟨path, isPath, prevails⟩, isKey, isDigest⟩
    rw [getElem?_map, found] at isPath
    obtain rfl := Option.some.inj isPath
    refine ⟨item, ?_, isKey, isDigest, fun other member sameKey => ?_⟩
    · rw [mem_collect_iff, lookup_collect, lookup_reverse_eq_some_iff]
      refine ⟨index, found, fun later value present => ?_⟩
      rcases prevails later item.1 (by simp [present]) rfl with below | ⟨-, earlier⟩
      · exact absurd below (lt_irrefl _)
      · exact earlier
    · obtain ⟨position, present⟩ := mem_iff_getElem?.mp (mem_of_mem_collect member)
      rcases prevails position other.1 (by simp [present]) (sameKey.trans isKey.symm) with
        below | ⟨equal, -⟩
      · exact below.le
      · exact equal.le

/-- Every path of a map that is read has a canonical form. -/
theorem exists_canonicalEntries_iff {map : List (Text × Text)} :
    (∃ canonical, canonicalEntries unicode map = .ok canonical) ↔
      ∀ entry ∈ map, ∃ key, canonicalizeManifestPath unicode entry.1 = .ok key := by
  induction map with
  | nil => simp [canonicalEntries]
  | cons entry rest ih =>
    rw [forall_mem_cons, ← ih]
    constructor
    · rintro ⟨canonical, read⟩
      obtain ⟨path, isPath, later⟩ := exists_of_bind_eq_ok read
      obtain ⟨others, readRest, -⟩ := exists_of_map_eq_ok later
      exact ⟨⟨path, isPath⟩, others, readRest⟩
    · rintro ⟨⟨path, isPath⟩, others, readRest⟩
      refine ⟨(path, asciiLowercase entry.2) :: others, ?_⟩
      rw [canonicalEntries, isPath, readRest]
      rfl

theorem toLower_toLower_of_isAsciiHexdigit (digit : isAsciiHexdigit char = true) :
    char.toLower.toLower = char.toLower := by
  have all : "0123456789abcdefABCDEF".toList.all
      (fun char => char.toLower.toLower == char.toLower) = true := by decide
  exact beq_iff_eq.mp (all_eq_true.mp all char (contains_iff_mem.mp digit))

/-- A digest is read in lower case. -/
theorem asciiLowercase_of_mem_readChecksumLines
    (read : readChecksumLines unicode payloadManifest number texts = .ok lines)
    (member : line ∈ lines) : asciiLowercase line.2 = line.2 := by
  induction texts generalizing number lines with
  | nil =>
    cases read
    cases member
  | cons text rest ih =>
    rw [readChecksumLines] at read
    split_ifs at read with blank
    · exact ih read member
    · obtain ⟨entry, readLine, later⟩ := exists_of_bind_eq_ok read
      obtain ⟨others, readRest, rfl⟩ := exists_of_map_eq_ok later
      rcases mem_cons.mp member with rfl | further
      · unfold readChecksumLine at readLine
        dsimp only at readLine
        split_ifs at readLine with short digits
        obtain ⟨relpath, -, rfl⟩ := exists_of_map_eq_ok readLine
        simp only [Bool.not_eq_true, Bool.not_eq_false'] at digits
        rw [asciiLowercase, asciiLowercase, map_map]
        refine map_congr_left fun char char_mem => ?_
        exact toLower_toLower_of_isAsciiHexdigit (all_eq_true.mp digits char char_mem)
      · exact ih readRest further

/-! ## A valid bag, stage by stage -/

/-- The records in the order of their paths. -/
def sortedRecords (records : List HashReceipt) : List HashReceipt :=
  records.insertionSort fun first second => first.relpath ≤ second.relpath

/-- What the stages of a valid bag have given. -/
structure Stages (platform : Platform) (bag : Bag) (entries : List PayloadEntry)
    (records : List HashReceipt) (lines metadata : List (Text × Text)) : Prop where
  collected : collectPayloadHashes platform true entries = .ok records
  read : manifestLines platform bag = .ok lines
  labelled : (readToString bag "bag-info.txt".toList).bind
    (readBagInfo platform.toUnicode) = .ok metadata
  indexRead : packageIndexErrors platform bag = []
  agrees : manifestMismatch platform.toUnicode (actualDigests (sortedRecords records))
    (collect lines) = .ok ⟨[], [], []⟩
  fits : metadataErrors metadata (sortedRecords records)
    (bag.root "package-index.json".toList ≠ .missing) = []
  tags : verifyTagmanifest platform bag
    (if decide (bag.root "package-index.json".toList ≠ .missing) then
      ["package-index.json".toList] else []) = []

theorem eq_ok_of_orReport
    {Error Value : Type}
    {default : Value}
    {report : Error → BagError}
    {attempt : Except Error Value}
    (silent : (orReport default report attempt).2 = []) :
    attempt = .ok (orReport default report attempt).1 := by
  cases attempt with
  | error error => cases silent
  | ok value => rfl

/-- A payload whose hashing reports nothing has been hashed. -/
theorem hashPayloadTree_of_noErrors
    {bag : Bag}
    {entries : List PayloadEntry}
    (payload : bag.payload = some entries)
    (noData : (payloadRecords platform bag).2 = []) :
    hashPayloadTreeWithPolicy platform entries true = .ok (payloadRecords platform bag).1 := by
  simp only [payloadRecords, payload] at noData ⊢
  exact eq_ok_of_orReport noData

theorem actualRecords_validateBag (bag : Bag) :
    (validateBag platform bag).actualRecords = (payloadRecords platform bag).1 := rfl

/-- The records of a valid bag have the digests and the sizes of its files. -/
theorem perm_contents_of_valid
    (payload : bag.payload = some entries)
    (valid : (validateBag platform bag).valid = true) :
    ((validateBag platform bag).actualRecords.map fun record =>
        (record.sha256Hex, record.sizeBytes)).Perm
      ((payloadFiles entries).map fun file => (platform.sha256 file.2, file.2.length)) := by
  simp only [BagValidationResult.valid, Bool.and_eq_true, List.isEmpty_iff] at valid
  have noErrors := valid.2
  simp only [validateBag, append_eq_nil_iff] at noErrors
  obtain ⟨⟨⟨⟨⟨noData, -⟩, -⟩, -⟩, -⟩, -⟩ := noErrors
  obtain ⟨records, collected, sorted⟩ :=
    exists_of_map_eq_ok (hashPayloadTree_of_noErrors payload noData)
  have contents := congrArg (List.map Prod.snd) (map_payloadFiles_eq_map_records collected)
  simp only [map_map, Function.comp_def] at contents
  rw [contents, actualRecords_validateBag, ← sorted]
  exact (perm_insertionSort _ _).map _

/-- A bag is valid exactly when every stage has succeeded. -/
theorem valid_iff_stages
    {bag : Bag}
    {entries : List PayloadEntry}
    (payload : bag.payload = some entries) :
    (validateBag platform bag).valid = true ↔
      ∃ records lines metadata, Stages platform bag entries records lines metadata := by
  constructor
  · intro valid
    simp only [BagValidationResult.valid, BagValidationResult.complete,
      Bool.and_eq_true, List.isEmpty_iff] at valid
    obtain ⟨⟨⟨⟨⟨noMissing, noExtra⟩, -⟩, noMismatch⟩, tags⟩, noErrors⟩ := valid
    simp only [validateBag, append_eq_nil_iff] at noMissing noExtra noMismatch tags noErrors
    obtain ⟨⟨⟨⟨⟨noData, noManifest⟩, noInfo⟩, indexRead⟩, noPath⟩, fits⟩ := noErrors
    obtain ⟨records, collected, sorted⟩ :=
      exists_of_map_eq_ok (hashPayloadTree_of_noErrors payload noData)
    obtain ⟨lines, read, collectedLines⟩ := exists_of_map_eq_ok (eq_ok_of_orReport noManifest)
    refine ⟨records, lines, _, collected, read, eq_ok_of_orReport noInfo, indexRead, ?_, ?_, ?_⟩
    · rw [sortedRecords, sorted, collectedLines]
      exact (eq_ok_of_orReport noPath).trans
        (congrArg Except.ok (MismatchReport.ext noMissing noExtra noMismatch))
    · rw [sortedRecords, sorted]
      exact fits
    · exact tags
  · rintro ⟨records, lines, metadata, stages⟩
    refine @valid_of_stages _ _ _ (sortedRecords records) _ _ rfl ?_ ?_ stages.labelled
      stages.indexRead stages.agrees stages.fits stages.tags
    · rw [payloadRecords, payload]
      dsimp only
      rw [hashPayloadTreeWithPolicy, stages.collected]
      rfl
    · rw [readManifestSha256, stages.read]
      rfl

/-- The sizes of a bag that declares something have been compared. -/
theorem lookup_payloadOxum_of_fits
    (fits : metadataErrors metadata records indexed = [])
    (nonempty : metadata ≠ []) :
    metadata.lookup "Payload-Oxum".toList = some (payloadOxum records) := by
  unfold metadataErrors at fits
  dsimp only at fits
  rw [if_neg nonempty] at fits
  simp only [append_eq_nil_iff] at fits
  by_contra differs
  rw [if_neg differs] at fits
  exact absurd fits.1.1.1.1 (cons_ne_nil _ _)

/-- The checks of `bag-info.txt` look at the records only through their counts. -/
theorem metadataErrors_congr (same : metadata ≠ [] → payloadOxum first = payloadOxum second) :
    metadataErrors metadata first indexed = metadataErrors metadata second indexed := by
  by_cases empty : metadata = []
  · simp only [metadataErrors, if_pos empty]
  · simp only [metadataErrors, same empty]

/-! ## The files behind the records -/

/-- The paths and digests of the payload files. -/
def payloadItems (platform : Platform) (entries : List PayloadEntry) : List (Text × Text) :=
  (payloadFiles entries).map fun file => (payloadPath platform file, platform.sha256 file.2)

theorem map_fst_payloadItems :
    (payloadItems platform entries).map Prod.fst =
      (payloadFiles entries).map (payloadPath platform) := by
  rw [payloadItems, map_map]
  rfl

section

variable (collected : collectPayloadHashes platform rejectNativePackages entries = .ok records)
include collected

theorem canonicalizeFilesystemPath_of_collected
    (member : file ∈ payloadFiles entries) :
    canonicalizeFilesystemPath platform.toUnicode file.1 = .ok (payloadPath platform file) := by
  have listed := mem_map_of_mem (f := fun file : List FileName × Bytes =>
    (canonicalizeFilesystemPath platform.toUnicode file.1,
      platform.sha256 file.2, file.2.length)) member
  rw [map_payloadFiles_eq_map_records collected] at listed
  obtain ⟨record, -, same⟩ := mem_map.mp listed
  have path : .ok record.relpath = canonicalizeFilesystemPath platform.toUnicode file.1 :=
    congrArg Prod.fst same
  rw [payloadPath, ← path]
  rfl

theorem map_records_eq_payloadItems :
    records.map (fun record => (record.relpath, record.sha256Hex)) =
      payloadItems platform entries := by
  have triples := congrArg (List.map fun triple : Except PathError Text × Text × Nat =>
    (triple.1.toOption.getD [], triple.2.1)) (map_payloadFiles_eq_map_records collected)
  rw [map_map, map_map] at triples
  exact triples.symm

theorem actualDigests_sortedRecords :
    actualDigests (sortedRecords records) = collect (payloadItems platform entries) := by
  rw [← map_records_eq_payloadItems collected, ← collect_insertionSort (le_refl : ∀ path : Text, _),
    actualDigests, sortedRecords]
  refine congrArg collect (map_insertionSort _ _ _ _ fun first _ second _ => Iff.rfl)

/-- The declared counts are those of the files. -/
theorem payloadOxum_sortedRecords :
    payloadOxum (sortedRecords records) =
      decimal ((payloadFiles entries).map fun file => file.2.length).sum ++
        '.' :: decimal (payloadFiles entries).length := by
  have order : (sortedRecords records).Perm records := perm_insertionSort _ _
  have sizes := congrArg (List.map fun triple : Except PathError Text × Text × Nat =>
    triple.2.2) (map_payloadFiles_eq_map_records collected)
  rw [map_map, map_map] at sizes
  have number := congrArg List.length sizes
  rw [length_map, length_map] at number
  rw [payloadOxum, order.length_eq, (order.map HashReceipt.sizeBytes).sum_nat, number]
  exact congrArg (fun sizes : List Nat => decimal sizes.sum ++ _) sizes.symm

end

theorem decimal_inj {first second : Nat} (equal : decimal first = decimal second) :
    first = second := by
  rw [← @Nat.ofDigitChars_ten_toDigits first, ← @Nat.ofDigitChars_ten_toDigits second]
  exact congrArg _ equal

theorem dot_notMem_decimal (number : Nat) : '.' ∉ decimal number := by
  intro member
  have digit := Nat.isDigit_of_mem_toDigits (by decide) (by decide) member
  revert digit
  decide

/-! ## Files and lines that count -/

/-- The comparison finds nothing where both sides give every canonical path the same
digest. -/
theorem manifestMismatch_eq_nil_iff :
    manifestMismatch unicode actual expected = .ok ⟨[], [], []⟩ ↔
      ∃ actualCanonical expectedCanonical,
        canonicalEntries unicode actual = .ok actualCanonical ∧
        canonicalEntries unicode expected = .ok expectedCanonical ∧
        ∀ key, (collect actualCanonical).lookup key = (collect expectedCanonical).lookup key := by
  have distinct (items : List (Text × Text)) : ((collect items).map Prod.fst).Nodup :=
    pairwise_map.mpr ((pairwise_collect items).imp ne_of_lt)
  constructor
  · intro agrees
    obtain ⟨actualCanonical, readActual, later⟩ := exists_of_bind_eq_ok agrees
    obtain ⟨expectedCanonical, readExpected, clean⟩ := exists_of_map_eq_ok later
    exact ⟨actualCanonical, expectedCanonical, readActual, readExpected,
      (compareCanonical_eq_nil_iff (distinct _)).mp clean⟩
  · rintro ⟨actualCanonical, expectedCanonical, readActual, readExpected, alike⟩
    rw [manifestMismatch, readActual, readExpected]
    exact congrArg Except.ok ((compareCanonical_eq_nil_iff (distinct _)).mpr alike)

section

variable {bag : Bag} {entries : List PayloadEntry} {records : List HashReceipt}
  {lines metadata : List (Text × Text)}
variable (stages : Stages platform bag entries records lines metadata)
include stages

/-- Some line has the digest of a file that counts, and so has every line that counts
under the same canonical path. -/
theorem Stages.digest_of_shown
    {index : Nat}
    (found : (payloadFiles entries)[index]? = some file)
    (shown : Shown platform entries index) :
    (∃ (position : Nat) (line : Text × Text), lines[position]? = some line ∧
      Prevails platform.toUnicode (lines.map Prod.fst) position ∧
      canonicalizeManifestPath platform.toUnicode line.1 =
        canonicalizeManifestPath platform.toUnicode (payloadPath platform file)) ∧
    ∀ (position : Nat) (line : Text × Text), lines[position]? = some line →
      Prevails platform.toUnicode (lines.map Prod.fst) position →
      canonicalizeManifestPath platform.toUnicode line.1 =
        canonicalizeManifestPath platform.toUnicode (payloadPath platform file) →
      line.2 = platform.sha256 file.2 := by
  have agrees := stages.agrees
  rw [actualDigests_sortedRecords stages.collected, manifestMismatch_eq_nil_iff] at agrees
  obtain ⟨actual, expected, readActual, readExpected, alike⟩ := agrees
  have item : (payloadItems platform entries)[index]? =
      some (payloadPath platform file, platform.sha256 file.2) := by
    rw [payloadItems, getElem?_map, found]
    rfl
  obtain ⟨value, kept⟩ := exists_lookup_collect (mem_of_getElem? item)
  obtain ⟨key, isKey⟩ := exists_canonicalEntries_iff.mp ⟨actual, readActual⟩ _ (mem_of_lookup kept)
  have answer : (collect expected).lookup key = some (platform.sha256 file.2) := by
    rw [← alike, lookup_canonical_iff readActual]
    refine ⟨index, _, item, ?_, isKey, (platform.sha256_lowercase _).symm⟩
    rw [map_fst_payloadItems]
    exact shown
  constructor
  · obtain ⟨position, line, listed, prevails, sameKey, -⟩ :=
      (lookup_canonical_iff readExpected).mp answer
    exact ⟨position, line, listed, prevails, sameKey.trans isKey.symm⟩
  · intro position line listed prevails sameKey
    have other := (lookup_canonical_iff readExpected).mpr
      ⟨position, line, listed, prevails, sameKey.trans isKey, rfl⟩
    obtain ⟨text, -, read⟩ := exists_of_bind_eq_ok stages.read
    rw [asciiLowercase_of_mem_readChecksumLines read (mem_of_getElem? listed), answer] at other
    exact (Option.some.inj other).symm

theorem Stages.covered (attested : Attested platform bag entries lines) :
    Covered platform bag entries := by
  obtain ⟨owner, injective, owns⟩ := attested.listed
  refine ⟨lines, stages.read, owner, injective, fun index => ?_⟩
  obtain ⟨path, counted, hidden⟩ := owns index
  refine ⟨?_, ?_⟩
  · rw [← path]
    exact canonicalizeFilesystemPath_of_collected stages.collected (get_mem _ index)
  · by_cases shown : Shown platform entries index
    · obtain ⟨⟨position, line, listed, prevails, sameKey⟩, digest⟩ :=
        stages.digest_of_shown (getElem?_eq_getElem index.isLt) shown
      obtain ⟨inside, isLine⟩ := List.getElem?_eq_some_iff.mp listed
      have agree := counted shown ⟨position, inside⟩ prevails (by
        rw [get_eq_getElem, isLine, ← path]
        exact sameKey)
      rw [agree]
      exact (digest position line listed prevails sameKey).symm.trans
        (congrArg Prod.snd isLine.symm)
    · obtain ⟨empty, -⟩ := (attested.shown index).resolve_left shown
      rw [hidden shown, empty]

end

/-! ## Changed bytes -/

theorem payloadFiles_insert_file
    (before after : List PayloadEntry)
    (path : List FileName)
    (content : Bytes) : payloadFiles (before ++ ⟨path, .file content⟩ :: after) =
      payloadFiles before ++ (path, content) :: payloadFiles after := by
  simp [payloadFiles]

/-- Which file counts is a matter of the paths. -/
theorem shown_change :
    Shown platform (before ++ ⟨path, .file content⟩ :: after) index ↔
      Shown platform (before ++ ⟨path, .file changed⟩ :: after) index := by
  simp [Shown, payloadFiles_insert_file, payloadPath]

theorem Stages.tamperEvident
    {bag : Bag}
    (stages : Stages platform bag entries records lines metadata)
    (attested : Attested platform bag entries lines) :
    TamperEvident platform bag entries := by
  rintro before after path content changed rfl differs
  by_contra alteredValid
  rw [Bool.not_eq_false] at alteredValid
  obtain ⟨records', lines', metadata', stages'⟩ := (valid_iff_stages rfl).mp alteredValid
  obtain rfl : lines = lines' := Except.ok.inj (stages.read.symm.trans stages'.read)
  obtain rfl : metadata = metadata' := Except.ok.inj (stages.labelled.symm.trans stages'.labelled)
  have found (content : Bytes) : (payloadFiles (before ++ ⟨path, .file content⟩ :: after))[
      (payloadFiles before).length]? = some (path, content) := by
    simp [payloadFiles_insert_file]
  obtain ⟨inside, isFile⟩ := List.getElem?_eq_some_iff.mp (found content)
  rcases attested.shown ⟨_, inside⟩ with shown | ⟨empty, described⟩
  · obtain ⟨⟨position, line, listed, prevails, sameKey⟩, digest⟩ :=
      stages.digest_of_shown (found content) shown
    obtain ⟨-, digest'⟩ := stages'.digest_of_shown (found changed) (shown_change.mp shown)
    exact differs ((digest' position line listed prevails sameKey).symm.trans
      (digest position line listed prevails sameKey))
  · rw [get_eq_getElem, isFile] at empty
    obtain rfl : content = [] := empty
    obtain ⟨declared, isDeclared, nonempty⟩ := described
    obtain rfl : metadata = declared := Except.ok.inj (stages.labelled.symm.trans isDeclared)
    have oxum := (lookup_payloadOxum_of_fits stages.fits nonempty).symm.trans
      (lookup_payloadOxum_of_fits stages'.fits nonempty)
    rw [payloadOxum_sortedRecords stages.collected, payloadOxum_sortedRecords stages'.collected,
      Option.some.injEq, append_cons_inj_of_notMem (dot_notMem_decimal _) (dot_notMem_decimal _)]
      at oxum
    have sizes := decimal_inj oxum.1
    simp only [payloadFiles_insert_file, map_append, map_cons, sum_append, sum_cons,
      length_nil] at sizes
    have none : changed.length = 0 := by omega
    rw [length_eq_zero_iff.mp none] at differs
    exact differs rfl

/-- A payload file stands at its place among the entries. -/
theorem exists_split_of_payloadFiles
    {index : Nat}
    (found : (payloadFiles entries)[index]? = some (path, content)) :
    ∃ before after, entries = before ++ ⟨path, .file content⟩ :: after ∧
      (payloadFiles before).length = index := by
  induction entries generalizing index with
  | nil => cases found
  | cons entry rest ih =>
    obtain ⟨entryPath, kind⟩ := entry
    cases kind with
    | file bytes =>
      cases index with
      | zero =>
        obtain ⟨rfl, rfl⟩ := Prod.mk.inj (Option.some.inj found)
        exact ⟨[], rest, rfl, rfl⟩
      | succ index =>
        obtain ⟨before, after, rfl, place⟩ := ih found
        exact ⟨⟨entryPath, .file bytes⟩ :: before, after, rfl, congrArg Nat.succ place⟩
    | directory =>
      obtain ⟨before, after, rfl, place⟩ := ih found
      exact ⟨⟨entryPath, .directory⟩ :: before, after, rfl, place⟩
    | symlink =>
      obtain ⟨before, after, rfl, place⟩ := ih found
      exact ⟨⟨entryPath, .symlink⟩ :: before, after, rfl, place⟩
    | special =>
      obtain ⟨before, after, rfl, place⟩ := ih found
      exact ⟨⟨entryPath, .special⟩ :: before, after, rfl, place⟩

/-- Whether a payload is hashed does not depend on the bytes of its files. -/
theorem exists_collectPayloadHashes_change
    (changed : Bytes)
    (collected : collectPayloadHashes platform rejectNativePackages
      (before ++ ⟨path, .file content⟩ :: after) = .ok records) :
    ∃ records', collectPayloadHashes platform rejectNativePackages
      (before ++ ⟨path, .file changed⟩ :: after) = .ok records' := by
  induction before generalizing records with
  | nil =>
    obtain ⟨receipt, hashed, later⟩ := exists_of_bind_eq_ok collected
    obtain ⟨others, collectedRest, -⟩ := exists_of_map_eq_ok later
    rw [nil_append, collectPayloadHashes, collectedRest]
    unfold payloadHash at hashed ⊢
    cases canonical : canonicalizeFilesystemPath platform.toUnicode path with
    | error error =>
      rw [canonical] at hashed
      cases hashed
    | ok relpath => exact ⟨_, rfl⟩
  | cons entry rest ih =>
    obtain ⟨receipt, hashed, later⟩ := exists_of_bind_eq_ok collected
    obtain ⟨others, collectedRest, -⟩ := exists_of_map_eq_ok later
    obtain ⟨records', changedRest⟩ := ih collectedRest
    refine ⟨receipt.toList ++ records', ?_⟩
    rw [cons_append, collectPayloadHashes, hashed, changedRest]
    rfl

/-- A change of a file that does not count, and of which the declared size takes no
notice, is not found. -/
theorem Stages.valid_of_hidden
    {bag : Bag}
    (stages : Stages platform bag (before ++ ⟨path, .file content⟩ :: after) records lines metadata)
    (hidden : ¬ Shown platform (before ++ ⟨path, .file content⟩ :: after)
      (payloadFiles before).length)
    (unnoticed : metadata ≠ [] → changed.length = content.length) :
    (validateBag platform
      { bag with payload := some (before ++ ⟨path, .file changed⟩ :: after) }).valid = true := by
  obtain ⟨records', collected'⟩ := exists_collectPayloadHashes_change changed stages.collected
  refine (valid_iff_stages rfl).mpr ⟨records', lines, metadata, collected', stages.read,
    stages.labelled, stages.indexRead, ?_, ?_, stages.tags⟩
  · have agrees := stages.agrees
    rw [actualDigests_sortedRecords stages.collected, manifestMismatch_eq_nil_iff] at agrees
    rw [actualDigests_sortedRecords collected', manifestMismatch_eq_nil_iff]
    obtain ⟨actual, expected, readActual, readExpected, alike⟩ := agrees
    have paths : (payloadItems platform (before ++ ⟨path, .file changed⟩ :: after)).map Prod.fst =
        (payloadItems platform (before ++ ⟨path, .file content⟩ :: after)).map Prod.fst := by
      simp [payloadItems, payloadFiles_insert_file, payloadPath]
    -- The two lists of items differ at the place of the file only.
    have others (index : Nat) (elsewhere : index ≠ (payloadFiles before).length) :
        (payloadItems platform (before ++ ⟨path, .file changed⟩ :: after))[index]? =
          (payloadItems platform (before ++ ⟨path, .file content⟩ :: after))[index]? := by
      simp only [payloadItems, payloadFiles_insert_file, map_append, map_cons, getElem?_append,
        getElem?_cons, length_map]
      split_ifs with earlier here
      · rfl
      · omega
      · rfl
    have readChanged : ∃ canonical, canonicalEntries platform.toUnicode
        (collect (payloadItems platform (before ++ ⟨path, .file changed⟩ :: after))) =
          .ok canonical := by
      refine exists_canonicalEntries_iff.mpr fun entry member => ?_
      have listed := mem_map_of_mem (f := Prod.fst) (mem_of_mem_collect member)
      rw [paths] at listed
      obtain ⟨item, itemMember, same⟩ := mem_map.mp listed
      obtain ⟨value, kept⟩ := exists_lookup_collect itemMember
      rw [← same]
      exact exists_canonicalEntries_iff.mp ⟨actual, readActual⟩ (item.1, value) (mem_of_lookup kept)
    obtain ⟨canonical, readChanged⟩ := readChanged
    refine ⟨canonical, expected, readChanged, readExpected, fun key => ?_⟩
    rw [← alike]
    refine Option.ext fun digest => ?_
    rw [lookup_canonical_iff readChanged, lookup_canonical_iff readActual, paths]
    refine exists_congr fun index => exists_congr fun item => ?_
    by_cases here : index = (payloadFiles before).length
    · have absent : ¬ Prevails platform.toUnicode
          ((payloadItems platform (before ++ ⟨path, .file content⟩ :: after)).map Prod.fst)
          index := by
        rw [map_fst_payloadItems, here]
        exact hidden
      simp [absent]
    · rw [others index here]
  · rw [← stages.fits]
    refine metadataErrors_congr fun nonempty => ?_
    rw [payloadOxum_sortedRecords collected', payloadOxum_sortedRecords stages.collected]
    simp [payloadFiles_insert_file, unnoticed nonempty]

/-- Where changes are found no file with bytes is hidden. -/
theorem Stages.shown_of_tamperEvident
    {bag : Bag}
    (stages : Stages platform bag entries records lines metadata)
    (varied : Varied platform)
    (evident : TamperEvident platform bag entries)
    (index : Fin (payloadFiles entries).length) :
    Shown platform entries index ∨
      ((payloadFiles entries).get index).2 = [] ∧ Described platform bag := by
  by_contra neither
  obtain ⟨hidden, noticed⟩ := not_or.mp neither
  rcases isFile : (payloadFiles entries).get index with ⟨path, content⟩
  rw [isFile] at noticed
  obtain ⟨before, after, rfl, place⟩ := exists_split_of_payloadFiles
    ((getElem?_eq_getElem index.isLt).trans (congrArg some isFile))
  obtain ⟨changed, differs, sameLength⟩ := varied content
  rw [← place] at hidden
  have valid := stages.valid_of_hidden hidden fun nonempty =>
    sameLength fun empty => noticed ⟨empty, metadata, stages.labelled, nonempty⟩
  rw [evident before after path content changed rfl differs] at valid
  cases valid

/-- A stand-in for SHA-256: the number of bytes and the first of them. -/
def countingDigest (content : Bytes) : Text :=
  let first := (content.headD 0).toNat
  List.replicate 60 '0' ++
    [Nat.digitChar (content.length / 16 % 16), Nat.digitChar (content.length % 16),
      Nat.digitChar (first / 16 % 16), Nat.digitChar (first % 16)]

theorem isDigest_countingDigest (content : Bytes) : IsDigest (countingDigest content) := by
  refine ⟨by simp [countingDigest], ?_⟩
  have digit (number : Nat) : Nat.digitChar (number % 16) ∈ lowerHexDigits :=
    digitChar_mem_lowerHexDigits (Nat.mod_lt _ (by decide))
  intro char member
  simp only [countingDigest, mem_append, mem_cons, not_mem_nil, or_false] at member
  rcases member with zero | rfl | rfl | rfl | rfl
  · rw [eq_of_mem_replicate zero]
    decide
  all_goals exact digit _

def plainPlatform : Platform where
  toUnicode := plainUnicode
  sha256 := countingDigest
  packageIndexRead _ := true
  sha256_lowercase content := (isDigest_countingDigest content).asciiLowercase_eq

theorem varied_plainPlatform : Varied plainPlatform := by
  rintro (- | ⟨byte, rest⟩)
  · exact ⟨[0], by decide +kernel, fun nonempty => absurd rfl nonempty⟩
  · obtain ⟨other, differs⟩ : ∃ other : UInt8, other ≠ byte := by
      by_cases zero : byte = 0
      · exact ⟨1, by rw [zero]; decide⟩
      · exact ⟨0, Ne.symm zero⟩
    refine ⟨other :: rest, fun same => ?_, fun _ => rfl⟩
    have digits : ∀ first < 16, ∀ second < 16,
        Nat.digitChar first = Nat.digitChar second → first = second := by decide
    simp only [plainPlatform, countingDigest, append_cancel_left_eq, cons.injEq, headD_cons,
      and_true] at same
    have high := digits _ (Nat.mod_lt _ (by decide)) _ (Nat.mod_lt _ (by decide)) same.2.2.1
    have low := digits _ (Nat.mod_lt _ (by decide)) _ (Nat.mod_lt _ (by decide)) same.2.2.2
    have := byte.toNat_lt
    have := other.toNat_lt
    exact differs (UInt8.toNat_inj.mp (by omega))

/-- A manifest with the one line `data/x`. -/
def sampleManifest : Text := joinLines [checksumLine (countingDigest [2, 3]) "data/x".toList]

def sampleInfo (oxum : Text) : Text :=
  joinLines ["Payload-Oxum: ".toList ++ oxum, "Receive-Package: sutradhara-receive/0.1.0".toList,
    "Canonicalization-Version: receive-bagit-path-v2".toList]

/-- The digest line of a tag file. -/
def tagLine (file : Text × Text) : Text :=
  checksumLine (countingDigest (encodeUtf8 file.2)) file.1

/-- The tag files beside the tag manifest. -/
def sampleTagFiles (oxum : Text) : List (Text × Text) :=
  [("bag-info.txt".toList, sampleInfo oxum), ("bagit.txt".toList, "BagIt-Version: 1.0\n".toList),
    ("manifest-sha256.txt".toList, sampleManifest)]

/-- A bag with that manifest and tag files that fit. -/
def sampleBag (payload : List PayloadEntry) (oxum : Text) : Bag where
  payload := some payload
  root name :=
    match (("tagmanifest-sha256.txt".toList,
        joinLines ((sampleTagFiles oxum).map tagLine)) :: sampleTagFiles oxum).lookup name with
    | some text => .file (encodeUtf8 text)
    | none => .missing

/-- The payload `x` and `data/x`. -/
def nestedPayload : List PayloadEntry :=
  [⟨[nameData], .directory⟩, ⟨[nameData, nameX], .file [1]⟩, ⟨[nameX], .file [2, 3]⟩]

theorem canonicalComponent_nameX : canonicalComponentFromBytes plainUnicode nameX.bytes = ['x'] :=
  @canonicalComponentFromBytes_encodeUtf8 plainUnicode _ (by decide)

theorem canonicalComponent_nameData :
    canonicalComponentFromBytes plainUnicode nameData.bytes = "data".toList :=
  @canonicalComponentFromBytes_encodeUtf8 plainUnicode _ (by decide)

theorem canonicalPart_x : CanonicalPart plainUnicode ['x'] := by
  rw [← canonicalComponent_nameX]
  exact canonicalPart_canonicalComponentFromBytes plainUnicode nameX

theorem canonicalPart_data : CanonicalPart plainUnicode "data".toList := by
  rw [← canonicalComponent_nameData]
  exact canonicalPart_canonicalComponentFromBytes plainUnicode nameData

theorem canonicalizeManifestPath_x : canonicalizeManifestPath plainUnicode ['x'] = .ok ['x'] :=
  @canonicalizeManifestPath_join plainUnicode [['x']] (by simpa using canonicalPart_x) (by simp)

theorem canonicalizeManifestPath_data_x :
    canonicalizeManifestPath plainUnicode "data/x".toList = .ok ['x'] :=
  @canonicalizeManifestPath_join plainUnicode ["data".toList, ['x']]
    (by simpa using ⟨canonicalPart_data, canonicalPart_x⟩) (by simp)

theorem canonicalizeFilesystemPath_data :
    canonicalizeFilesystemPath plainUnicode [nameData] = .ok "data".toList := by
  rw [canonicalizeFilesystemPath, map_singleton, canonicalComponent_nameData]
  rfl

theorem canonicalizeFilesystemPath_data_x :
    canonicalizeFilesystemPath plainUnicode [nameData, nameX] = .ok "data/x".toList := by
  rw [canonicalizeFilesystemPath, map_cons, map_singleton,
    canonicalComponent_nameData, canonicalComponent_nameX]
  rfl

theorem canonicalizeFilesystemPath_x :
    canonicalizeFilesystemPath plainUnicode [nameX] = .ok ['x'] := by
  rw [canonicalizeFilesystemPath, map_singleton, canonicalComponent_nameX]
  rfl

variable {payload : List PayloadEntry} {oxum : Text}

theorem root_sampleBag : (sampleBag payload oxum).root "manifest-sha256.txt".toList =
        .file (encodeUtf8 sampleManifest) ∧
      (sampleBag payload oxum).root "bag-info.txt".toList = .file (encodeUtf8 (sampleInfo oxum)) ∧
      (sampleBag payload oxum).root "bagit.txt".toList =
        .file (encodeUtf8 "BagIt-Version: 1.0\n".toList) ∧
      (sampleBag payload oxum).root "tagmanifest-sha256.txt".toList =
        .file (encodeUtf8 (joinLines ((sampleTagFiles oxum).map tagLine))) ∧
      (sampleBag payload oxum).root "package-index.json".toList = .missing :=
  ⟨rfl, rfl, rfl, rfl, rfl⟩

theorem manifestLines_sampleBag : manifestLines plainPlatform (sampleBag payload oxum) =
      .ok [(['x'], countingDigest [2, 3])] := by
  rw [manifestLines, readToString_of_root (root_sampleBag).1]
  exact @checksumEntries_joinLines plainUnicode Unit true [()]
    (fun _ => countingDigest [2, 3]) (fun _ => "data/x".toList) (fun _ => ['x'])
    (fun _ _ => isDigest_countingDigest _)
    (fun _ _ => encodeBagitPath_payload)
    (fun _ _ => @checksumPath_payload plainUnicode [['x']]
      (by simpa using canonicalPart_x) (by simp))

theorem payloadRecords_nested : payloadRecords plainPlatform (sampleBag nestedPayload oxum) =
      ([⟨"data/x".toList, countingDigest [1], 1⟩, ⟨['x'], countingDigest [2, 3], 2⟩], []) := by
  have plain : isPackageBoundary plainUnicode "data".toList = false := by decide
  change orReport [] .cannotHash ((collectPayloadHashes plainPlatform true nestedPayload).map _) = _
  have collected : collectPayloadHashes plainPlatform true nestedPayload =
      .ok [⟨"data/x".toList, countingDigest [1], 1⟩, ⟨['x'], countingDigest [2, 3], 2⟩] := by
    simp only [nestedPayload, collectPayloadHashes, payloadHash, plainPlatform,
      canonicalizeFilesystemPath_data, canonicalizeFilesystemPath_data_x,
      canonicalizeFilesystemPath_x, plain]
    rfl
  rw [collected]
  rfl

/-- The tag files of a sample bag are listed as they are. -/
theorem verifyTagmanifest_sampleBag :
    verifyTagmanifest plainPlatform (sampleBag payload oxum) [] = [] := by
  obtain ⟨manifest, info, bagit, tags, -⟩ := root_sampleBag
  refine @verifyTagmanifest_eq_nil plainPlatform _ []
    ((sampleTagFiles oxum).map fun file => (file.1, encodeUtf8 file.2))
    ?_ ?_ ?_ ?_ ?_
  · rw [readToString_of_root tags, map_map]
    rfl
  · exact fun _ _ => isDigest_countingDigest _
  · simp only [sampleTagFiles, map_cons, map_nil, forall_mem_cons]
    refine ⟨⟨by decide, rfl, by decide⟩, ⟨by decide, rfl, by decide⟩,
      ⟨by decide, rfl, by decide⟩, ?_⟩
    rintro file ⟨⟩
  · simp only [sampleTagFiles, map_cons, map_nil, forall_mem_cons]
    refine ⟨info, bagit, manifest, ?_⟩
    rintro file ⟨⟩
  · simp [bagTagFiles, sampleTagFiles]

/-- A sample bag is valid when its payload agrees with the manifest and the
counts. -/
theorem valid_sampleBag
    (hashed : payloadRecords plainPlatform (sampleBag payload oxum) = (records, []))
    (labelled : readBagInfo plainUnicode (sampleInfo oxum) = .ok metadata)
    (fits : metadataErrors metadata records false = [])
    (agrees : manifestMismatch plainUnicode (actualDigests records)
      [(['x'], countingDigest [2, 3])] = .ok ⟨[], [], []⟩) :
    (validateBag plainPlatform (sampleBag payload oxum)).valid = true := by
  obtain ⟨-, info, -, -, index⟩ := root_sampleBag
  refine valid_of_stages (decide_eq_false (not_not.mpr index)) hashed ?_ ?_ ?_ agrees
    fits (verifyTagmanifest_sampleBag)
  · rw [readManifestSha256, manifestLines_sampleBag]
    rfl
  · rw [readToString_of_root info]
    exact labelled
  · rw [packageIndexErrors, index]

/-- The bag with `x` and `data/x` and one manifest line is valid. -/
theorem valid_nested : (validateBag plainPlatform (sampleBag nestedPayload "3.2".toList)).valid =
      true := by
  refine valid_sampleBag (payloadRecords_nested) rfl (by decide +kernel) ?_
  have digest := fun content => (isDigest_countingDigest content).asciiLowercase_eq
  have actual : canonicalEntries plainUnicode
      (actualDigests [⟨"data/x".toList, countingDigest [1], 1⟩,
        ⟨['x'], countingDigest [2, 3], 2⟩]) =
        .ok [(['x'], countingDigest [1]), (['x'], countingDigest [2, 3])] := by
    change canonicalEntries plainUnicode
      [("data/x".toList, countingDigest [1]), (['x'], countingDigest [2, 3])] = _
    simp only [canonicalEntries, canonicalizeManifestPath_data_x,
      canonicalizeManifestPath_x, digest]
    rfl
  have expected : canonicalEntries plainUnicode
      [(['x'], countingDigest [2, 3])] = .ok [(['x'], countingDigest [2, 3])] := by
    simp only [canonicalEntries, canonicalizeManifestPath_x, digest]
    rfl
  rw [manifestMismatch, actual, expected]
  rfl

/-- The payload `x`. -/
def singlePayload : List PayloadEntry := [⟨[nameX], .file [2, 3]⟩]

end Receive
end Sutradhara
