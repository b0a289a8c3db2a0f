import Mathlib.Data.List.Infix
import Sutradhara.Receive.Source
import Sutradhara.Receive.Coverage

/-!
# Bags that are written from their units

Where the path of a unit has clean components and does not lie below `data`, its
canonical path, the text under which it is stored, its manifest line and the path
that validation finds are one text.  A bag that is written from such units is valid.
-/

namespace Sutradhara
namespace Receive

open Foundation List
open Foundation.Raising OrderedMap

/-! ## Names and their text -/

section Names

variable {unicode : Unicode}

/-- The canonical path of names below a root. -/
def canonicalPath (unicode : Unicode) (names : List FileName) : Text :=
  ['/'].intercalate (names.map fun name => canonicalComponentFromBytes unicode name.bytes)

theorem canonicalizeFilesystemPath_eq (some : names ≠ []) :
    canonicalizeFilesystemPath unicode names = .ok (canonicalPath unicode names) :=
  if_neg (by simpa using some)

/-- Names that are the bytes of text. -/
def Spells (names : List FileName) (parts : List Text) : Prop :=
  names.map FileName.bytes = parts.map encodeUtf8

theorem spells_of_payloadNames (named : payloadNames parts = some names) :
    Spells names parts := by
  induction parts generalizing names with
  | nil =>
    cases named
    rfl
  | cons part rest ih =>
    obtain ⟨name, isName, later⟩ := Option.bind_eq_some_iff.mp named
    obtain ⟨others, namedRest, rfl⟩ := Option.map_eq_some_iff.mp later
    unfold toFileName at isName
    split_ifs at isName
    cases isName
    exact congrArg (encodeUtf8 part :: ·) (ih namedRest)

theorem Spells.canonicalPath_eq (spells : Spells names parts) :
    canonicalPath unicode names = ['/'].intercalate (parts.map (canonicalText unicode)) := by
  have same := congrArg (List.map (canonicalComponentFromBytes unicode)) spells
  rw [map_map, map_map] at same
  exact congrArg ['/'].intercalate same

theorem Spells.take (spells : Spells names parts) (count : Nat) :
    Spells (names.take count) (parts.take count) := by
  rw [Spells, map_take, map_take, spells]

theorem Spells.length_eq (spells : Spells names parts) : names.length = parts.length := by
  simpa using congrArg List.length spells

theorem Spells.text_unique
    (spellsFirst : Spells names first)
    (spellsSecond : Spells names second) : first = second :=
  encodeUtf8_injective.list_map (spellsFirst.symm.trans spellsSecond)

theorem mem_parents_iff : parent ∈ parents path ↔ parent <+: path.dropLast ∧ parent ≠ [] := by
  simp [parents]

theorem length_lt_of_mem_parents (member : parent ∈ parents path) :
    parent.length < path.length := by
  obtain ⟨inside, some⟩ := mem_parents_iff.mp member
  have bound := inside.length_le
  have positive := length_pos_iff.mpr some
  rw [length_dropLast] at bound
  omega

end Names

/-! ## Paths that are stored as they are -/

section Stored

/-- A relative path with clean components: what is needed to store it, to list it
and to find it again. -/
structure StoredPath (unicode : Unicode) (relpath : Text) (parts : List Text) : Prop where
  join : relpath = ['/'].intercalate parts
  some : parts ≠ []
  proper : ∀ part ∈ parts, ProperText part
  clean : ∀ part ∈ parts, part.all isClean = true
  notData : withoutData parts = parts
  stillNotData : withoutData (parts.map (canonicalText unicode)) = parts.map (canonicalText unicode)
  above : ∀ count, count < parts.length → 0 < count →
    isPackageBoundary unicode
      (['/'].intercalate ((parts.take count).map (canonicalText unicode))) = false

/-- A path that does not begin with `data/` keeps its first component. -/
theorem withoutData_of_isPrefixOf_false
    (notBelow : "data/".toList.isPrefixOf (['/'].intercalate parts) = false) :
    withoutData parts = parts := by
  unfold withoutData
  split
  next second rest => exact absurd notBelow (by simp)
  · rfl

theorem withoutData_singleton (part : Text) : withoutData [part] = [part] := by
  unfold withoutData
  split
  next same => cases same
  · rfl

end Stored

/-! ## Placing the units -/

section Placing

/-- Where a unit is stored. -/
def destination (unit : SourceEntry) : List FileName :=
  (payloadNames (unit.relpath.splitOn '/')).getD []

theorem destination_of_named
    {unit : SourceEntry}
    (named : payloadNames (unit.relpath.splitOn '/') = some path) : destination unit = path := by
  rw [destination, named]
  rfl

variable {entries : List PayloadEntry}

theorem mem_payloadFiles_iff :
    (path, content) ∈ payloadFiles entries ↔ ⟨path, .file content⟩ ∈ entries := by
  rw [payloadFiles, mem_filterMap]
  constructor
  · rintro ⟨⟨entryPath, kind⟩, member, found⟩
    cases kind with
    | file bytes =>
      cases found
      exact member
    | directory => cases found
    | symlink => cases found
    | special => cases found
  · intro member
    exact ⟨_, member, rfl⟩

theorem paths_payloadFiles_sublist :
    ((payloadFiles entries).map Prod.fst).Sublist (entries.map PayloadEntry.path) := by
  induction entries with
  | nil => exact List.Sublist.refl _
  | cons entry rest ih =>
    obtain ⟨path, kind⟩ := entry
    cases kind with
    | file content => exact ih.cons_cons path
    | directory => exact ih.cons path
    | symlink => exact ih.cons path
    | special => exact ih.cons path

theorem payloadFiles_directories {directories : List (List FileName)} :
    payloadFiles (directories.map (⟨·, .directory⟩)) = [] := by
  rw [payloadFiles, filterMap_map]
  exact filterMap_eq_nil_iff.mpr fun _ _ => rfl

/-- A file put at a path in the place of what was there keeps the paths apart. -/
theorem nodup_paths_placed (distinct : ((payloadFiles entries).map Prod.fst).Nodup) :
    (((path, content) :: payloadFiles (entries.filter fun entry => entry.path ≠ path)).map
      Prod.fst).Nodup := by
  rw [map_cons, nodup_cons]
  constructor
  · intro member
    obtain ⟨entry, inside, same⟩ := mem_map.mp (paths_payloadFiles_sublist.subset member)
    exact of_decide_eq_true (mem_filter.mp inside).2 same
  · exact distinct.sublist ((filter_sublist.filterMap _).map Prod.fst)

end Placing

/-! ## The bag, file by file -/

section Written

variable {receiver : Receiver} {units : List SourceEntry} {unit : SourceEntry}

/-- What a completed receive has established of a unit. -/
structure Received (receiver : Receiver) (unit : SourceEntry) : Prop where
  named : payloadNames (unit.relpath.splitOn '/') = some (destination unit)
  path : ∃ parts, StoredPath receiver.toUnicode unit.relpath parts ∧
    unit.relpath = ['/'].intercalate (parts.map (canonicalText receiver.toUnicode))

theorem StoredPath.canonicalPart (stored : StoredPath unicode relpath parts) :
    ∀ part ∈ parts.map (canonicalText unicode), CanonicalPart unicode part := by
  intro part member
  obtain ⟨text, inside, rfl⟩ := mem_map.mp member
  exact canonicalPart_canonicalText (stored.proper text inside)

section

variable (received : Received receiver unit)
include received

/-- The names of a stored unit spell its components. -/
theorem Received.spells (stored : StoredPath receiver.toUnicode unit.relpath parts) :
    Spells (destination unit) parts := by
  have named := received.named
  rw [stored.join, splitOn_join stored.proper stored.some] at named
  exact spells_of_payloadNames named

theorem Received.destination_ne_nil : destination unit ≠ [] := by
  obtain ⟨parts, stored, -⟩ := received.path
  intro empty
  have length := (received.spells stored).length_eq
  rw [empty] at length
  exact stored.some (length_eq_zero_iff.mp length.symm)

/-- A directory on the way to a unit is not a package. -/
theorem Received.isPackageBoundary_parent (member : parent ∈ parents (destination unit)) :
    isPackageBoundary receiver.toUnicode (canonicalPath receiver.toUnicode parent) = false := by
  obtain ⟨parts, stored, -⟩ := received.path
  have spells := received.spells stored
  obtain ⟨inside, some⟩ := mem_parents_iff.mp member
  have taken : parent = (destination unit).take parent.length :=
    prefix_iff_eq_take.mp (inside.trans ( dropLast_prefix _))
  have shorter := length_lt_of_mem_parents member
  rw [spells.length_eq] at shorter
  rw [taken, (spells.take parent.length).canonicalPath_eq]
  exact stored.above parent.length shorter (length_pos_iff.mpr some)

/-- The manifest lists a unit under its own path. -/
theorem Received.canonicalizeManifestPath_relpath :
    canonicalizeManifestPath receiver.toUnicode unit.relpath = .ok unit.relpath := by
  obtain ⟨parts, stored, own⟩ := received.path
  have canonical := @canonicalizeManifestPath_of_isClean receiver.toUnicode _ stored.proper
    stored.some stored.clean stored.notData
  rwa [← own, ← stored.join] at canonical

end

/-- Units with different paths are stored at different places. -/
theorem nodup_destination
    (received : ∀ unit ∈ units, Received receiver unit)
    (distinct : (units.map SourceEntry.relpath).Nodup) : (units.map destination).Nodup := by
  refine List.Nodup.map_on ?_ (List.Nodup.of_map SourceEntry.relpath distinct)
  intro first firstMember second secondMember same
  obtain ⟨parts, stored, -⟩ := (received first firstMember).path
  obtain ⟨parts', stored', -⟩ := (received second secondMember).path
  have spells := (received first firstMember).spells stored
  rw [same] at spells
  have sameParts := spells.text_unique ((received second secondMember).spells stored')
  refine inj_on_of_nodup_map distinct firstMember secondMember ?_
  rw [stored.join, stored'.join, sameParts]

/-! ### Payload -/

/-- The record of a stored unit. -/
def unitRecord (receiver : Receiver) (unit : SourceEntry) : HashReceipt :=
  ⟨unit.relpath, receiver.sha256 unit.content, unit.content.length⟩

/-- The record of a file. -/
def fileRecord (platform : Platform) (file : List FileName × Bytes) : HashReceipt :=
  ⟨canonicalPath platform.toUnicode file.1, platform.sha256 file.2, file.2.length⟩

theorem collectPayloadHashes_eq
    {platform : Platform}
    {entries : List PayloadEntry}
    (regular : ∀ entry ∈ entries, entry.path ≠ [] ∧ ((∃ content, entry.kind = .file content) ∨
        entry.kind = .directory ∧ isPackageBoundary platform.toUnicode
          (canonicalPath platform.toUnicode entry.path) = false)) :
    collectPayloadHashes platform true entries =
      .ok ((payloadFiles entries).map (fileRecord platform)) := by
  induction entries with
  | nil => rfl
  | cons entry rest ih =>
    obtain ⟨rooted, isRegular⟩ := regular entry mem_cons_self
    have later := ih fun entry member => regular entry (mem_cons_of_mem _ member)
    rw [collectPayloadHashes, later, payloadHash, canonicalizeFilesystemPath_eq rooted]
    rcases isRegular with ⟨content, file⟩ | ⟨directory, notPackage⟩
    · simp [file, payloadFiles, fileRecord, Except.bind, Except.map]
    · simp [directory, notPackage, payloadFiles, Except.bind, Except.map]

/-- Validation hashes the files of a regular payload that are those of its units. -/
theorem exists_payloadRecords_of_files
    {entries : List PayloadEntry}
    {bag : Bag}
    (payload : bag.payload = some (receiver.visit entries))
    (received : ∀ unit ∈ units, Received receiver unit)
    (regular : ∀ entry ∈ entries, entry.path ≠ [] ∧ ((∃ content, entry.kind = .file content) ∨
        entry.kind = .directory ∧ isPackageBoundary receiver.toUnicode
          (canonicalPath receiver.toUnicode entry.path) = false))
    (files : (payloadFiles entries).Perm (units.map fun unit => (destination unit, unit.content))) :
    ∃ records, payloadRecords receiver.toPlatform bag = (records, []) ∧
      records.Perm (units.map (unitRecord receiver)) := by
  have visited := receiver.visit_perm entries
  have hashed := @collectPayloadHashes_eq receiver.toPlatform _ fun entry member =>
    regular entry (visited.mem_iff.mp member)
  have records : (units.map fun unit =>
      (destination unit, unit.content)).map
        (fileRecord receiver.toPlatform) = units.map (unitRecord receiver) := by
    rw [map_map]
    refine map_congr_left fun unit isUnit => ?_
    obtain ⟨parts, stored, own⟩ := (received unit isUnit).path
    rw [Function.comp_apply, fileRecord, ((received unit isUnit).spells stored).canonicalPath_eq,
      ← own]
    rfl
  refine ⟨((payloadFiles (receiver.visit entries)).map
    (fileRecord receiver.toPlatform)).insertionSort
      (fun first second => first.relpath ≤ second.relpath), ?_, ?_⟩
  · simp only [payloadRecords, payload, hashPayloadTreeWithPolicy, hashed]
    rfl
  · exact (perm_insertionSort _ _).trans (records ▸ ((visited.filterMap _).trans files).map _)

/-! ### Manifest -/

/-- The path and the digest of a unit. -/
def unitEntry (receiver : Receiver) (unit : SourceEntry) : Text × Text :=
  (unit.relpath, receiver.sha256 unit.content)

/-- The path of a manifest line. -/
def listedPath (unicode : Unicode) (relpath : Text) : Text :=
  (canonicalizeManifestPath unicode relpath).toOption.getD []

theorem eq_of_bagitManifestLines (written : bagitManifestLines unicode entries = .ok lines) :
    lines = (entries.map fun entry => checksumLine (asciiLowercase entry.2)
        ("data/".toList ++ listedPath unicode entry.1)) ∧
      ∀ entry ∈ entries, canonicalizeManifestPath unicode entry.1 =
        .ok (listedPath unicode entry.1) := by
  induction entries generalizing lines with
  | nil =>
    cases written
    exact ⟨rfl, by rintro entry ⟨⟩⟩
  | cons entry rest ih =>
    obtain ⟨relpath, digest⟩ := entry
    rw [bagitManifestLines] at written
    split_ifs at written
    cases canonical : canonicalizeManifestPath unicode relpath with
    | error error =>
      rw [canonical] at written
      cases written
    | ok path =>
      rw [canonical] at written
      obtain ⟨others, writtenRest, rfl⟩ := exists_of_map_eq_ok written
      obtain ⟨rfl, all⟩ := ih writtenRest
      have listed : listedPath unicode relpath = path := by
        rw [listedPath, canonical]
        rfl
      refine ⟨by rw [map_cons, listed], ?_⟩
      intro entry member
      rcases mem_cons.mp member with rfl | further
      · rw [listed, canonical]
      · exact all entry further

theorem Received.listedPath_relpath (received : Received receiver unit) :
    listedPath receiver.toUnicode unit.relpath = unit.relpath := by
  rw [listedPath, received.canonicalizeManifestPath_relpath]
  rfl

/-- The lines of the manifest are read back, one for every unit. -/
theorem exists_manifestLines
    (found : bag.root "manifest-sha256.txt".toList = .file (encodeUtf8 manifest))
    (written : bagitManifestText receiver.toUnicode
      (collect (units.map (unitEntry receiver))) = .ok manifest)
    (received : ∀ unit ∈ units, Received receiver unit)
    (distinct : (units.map SourceEntry.relpath).Nodup) :
    ∃ lines, manifestLines receiver.toPlatform bag = .ok lines ∧
      lines.Perm (units.map (unitEntry receiver)) := by
  have keys : ((units.map (unitEntry receiver)).map Prod.fst).Nodup := by
    rw [map_map]
    exact distinct
  have table := perm_collect_of_nodup keys
  obtain ⟨texts, writtenLines, rfl⟩ := exists_of_map_eq_ok written
  obtain ⟨rfl, -⟩ := eq_of_bagitManifestLines writtenLines
  have rows : ∀ entry ∈ collect (units.map (unitEntry receiver)),
      ∃ unit ∈ units, entry = unitEntry receiver unit := by
    intro entry member
    obtain ⟨unit, isUnit, rfl⟩ := mem_map.mp (table.mem_iff.mp member)
    exact ⟨unit, isUnit, rfl⟩
  refine ⟨(collect (units.map (unitEntry receiver))).map fun entry =>
    (listedPath receiver.toUnicode entry.1, asciiLowercase entry.2), ?_, ?_⟩
  · rw [manifestLines, readToString_of_root found]
    refine checksumEntries_joinLines receiver.toUnicode true ?_
      (fun entry _ => encodeBagitPath_payload) ?_
    · intro entry member
      obtain ⟨unit, -, rfl⟩ := rows entry member
      rw [unitEntry, receiver.sha256_lowercase]
      exact receiver.isDigest _
    · intro entry member
      obtain ⟨unit, isUnit, rfl⟩ := rows entry member
      rw [unitEntry, (received unit isUnit).listedPath_relpath]
      obtain ⟨parts, stored, own⟩ := (received unit isUnit).path
      rw [own]
      exact checksumPath_payload receiver.toUnicode stored.canonicalPart (by simp [stored.some])
  · refine (table.map _).trans (List.Perm.of_eq ?_)
    rw [map_map]
    refine map_congr_left fun unit isUnit => ?_
    rw [Function.comp_apply, unitEntry, (received unit isUnit).listedPath_relpath,
      receiver.sha256_lowercase]

/-- Payload and manifest agree. -/
theorem manifestMismatch_received
    (received : ∀ unit ∈ units, Received receiver unit)
    (distinct : (units.map SourceEntry.relpath).Nodup)
    (hashed : records.Perm (units.map (unitRecord receiver)))
    (listed : lines.Perm (units.map (unitEntry receiver))) :
    manifestMismatch receiver.toUnicode (actualDigests records)
      (collect lines) = .ok ⟨[], [], []⟩ := by
  have keys : ((units.map (unitEntry receiver)).map Prod.fst).Nodup := by
    rw [map_map]
    exact distinct
  have digests : (records.map fun record => (record.relpath, record.sha256Hex)).Perm
      (units.map (unitEntry receiver)) := by
    have mapped := hashed.map fun record => (record.relpath, record.sha256Hex)
    rw [map_map] at mapped
    exact mapped
  have collectedDigests := perm_collect_of_nodup ((digests.map Prod.fst).nodup_iff.mpr keys)
  have collectedLines := perm_collect_of_nodup ((listed.map Prod.fst).nodup_iff.mpr keys)
  refine manifestMismatch_of_perm (collectedDigests.trans digests)
    (collectedLines.trans listed) keys ?_
  intro entry member
  obtain ⟨unit, isUnit, rfl⟩ := mem_map.mp member
  obtain ⟨parts, stored, own⟩ := (received unit isUnit).path
  refine ⟨?_, receiver.sha256_lowercase _⟩
  rw [unitEntry, own, canonicalizeManifestPath_join stored.canonicalPart (by simp [stored.some]),
    stored.stillNotData]

/-! ### Labels -/

theorem isSolid_decimal : (decimal number).all isSolid = true := by
  refine all_eq_true.mpr fun char member => ?_
  have digit := Nat.isDigit_of_mem_toDigits (by decide) (by decide) member
  simp only [Char.isDigit, Bool.and_eq_true, decide_eq_true_eq] at digit
  have low : 48 ≤ char.toNat := digit.1
  have high : char.toNat ≤ 57 := digit.2
  simp only [isSolid, Bool.and_eq_true, decide_eq_true_eq]
  omega

theorem bagInfoValue_of_isSolid (solid : value.all isSolid = true) :
    bagInfoValue value = value := by
  refine (map_congr_left fun char member => ?_).trans (map_id value)
  have isSolidChar := all_eq_true.mp solid char member
  refine if_neg ?_
  rintro (rfl | rfl)
  · exact absurd isSolidChar (by decide)
  · exact absurd isSolidChar (by decide)

theorem newline_notMem_bagInfoValue : '\n' ∉ bagInfoValue value ∧ '\r' ∉ bagInfoValue value := by
  have blanked : ∀ wanted : Char, wanted = '\r' ∨ wanted = '\n' → wanted ∉ bagInfoValue value := by
    intro wanted isBreak member
    obtain ⟨char, -, same⟩ := mem_map.mp member
    split_ifs at same with broken
    · rw [← same] at isBreak
      exact absurd isBreak (by decide)
    · exact broken (same ▸ isBreak)
  exact ⟨blanked _ (.inr rfl), blanked _ (.inl rfl)⟩

theorem isLabel_of_mem_bagInfoOrder (member : label ∈ bagInfoOrder) : IsLabel label := by
  have all : bagInfoOrder.all (fun label => decide (IsLabel label)) = true := by decide
  exact of_decide_eq_true (all_eq_true.mp all label member)

/-- The labels that a receive writes are read back, and a value without blanks as it
was. -/
theorem exists_readBagInfo
    (unicode : Unicode)
    (options : ReceiveOptions)
    (fileCount totalBytes skippedCount : Nat) : ∃ metadata, readBagInfo unicode (bagInfoText
        (bagInfoMetadata options fileCount totalBytes skippedCount)) = .ok metadata ∧
      ∀ field ∈ bagInfoMetadata options fileCount totalBytes skippedCount,
        field.2.all isSolid = true → metadata.lookup field.1 = some field.2 := by
  let fields := bagInfoMetadata options fileCount totalBytes skippedCount
  let written := fields.map fun field => (field.1, bagInfoValue field.2)
  have labels : ∀ field ∈ written, IsLabel field.1 := by
    intro field member
    obtain ⟨source, inside, rfl⟩ := mem_map.mp member
    exact isLabel_of_mem_bagInfoOrder (mem_map_of_mem (f := Prod.fst) inside)
  have single : ∀ field ∈ written, '\n' ∉ field.2 ∧ '\r' ∉ field.2 := by
    intro field member
    obtain ⟨source, -, rfl⟩ := mem_map.mp member
    exact newline_notMem_bagInfoValue
  have text : bagInfoText fields = joinLines (written.map labelLine) := by rfl
  refine ⟨_, (congrArg (readBagInfo unicode) text).trans
    (readBagInfo_joinLines unicode labels single), ?_⟩
  intro field member solid
  have distinct : ((written.map fun field =>
      (field.1, trim unicode field.2)).map Prod.fst).Nodup := by
    have keys : (written.map fun field => (field.1, trim unicode field.2)).map
        Prod.fst = bagInfoOrder := rfl
    rw [keys]
    decide
  have entry : (field.1, field.2) ∈ written.map fun field => (field.1, trim unicode field.2) := by
    refine mem_map.mpr ⟨_, mem_map_of_mem member, ?_⟩
    rw [bagInfoValue_of_isSolid solid, trim_of_isSolid unicode solid]
  exact lookup_collect_of_nodup distinct entry

/-- The labels of a receive fit its payload. -/
theorem exists_metadata
    {records : List HashReceipt}
    (unicode : Unicode)
    (options : ReceiveOptions)
    (skippedCount : Nat)
    (indexed : Bool) :
    ∃ metadata, readBagInfo unicode (bagInfoText (bagInfoMetadata options
        records.length (records.map HashReceipt.sizeBytes).sum skippedCount)) = .ok metadata ∧
      metadataErrors metadata records indexed = [] := by
  obtain ⟨metadata, read, labels⟩ := exists_readBagInfo unicode options
    records.length (records.map HashReceipt.sizeBytes).sum skippedCount
  have oxum : metadata.lookup "Payload-Oxum".toList = some (payloadOxum records) := by
    refine labels ("Payload-Oxum".toList, payloadOxum records) ?_ ?_
    · exact mem_cons_of_mem _ mem_cons_self
    · simp only [payloadOxum, all_append, all_cons, isSolid_decimal]
      decide
  have package : metadata.lookup "Receive-Package".toList = some receivePackage :=
    labels (_, receivePackage) (mem_of_getElem? (i := 3) rfl) (by decide)
  have canonicalization : metadata.lookup "Canonicalization-Version".toList =
      some canonicalizationVersion :=
    labels (_, canonicalizationVersion) (mem_of_getElem? (i := 10) rfl) (by decide)
  have version : metadata.lookup "Package-Profile-Version".toList = some packageProfileVersion :=
    labels (_, packageProfileVersion) (mem_of_getElem? (i := 11) rfl) (by decide)
  have hash : metadata.lookup "Package-Profile-Hash".toList = some packageProfileHash :=
    labels (_, packageProfileHash) (mem_of_getElem? (i := 12) rfl) (by decide)
  refine ⟨metadata, read, ?_⟩
  simp only [metadataErrors, version, hash, packageLabelAccepted, decide_true, Bool.true_or]
  split_ifs <;> rfl

/-! ### Tag files -/

variable {bag : Bag} {bagInfo manifest : Text} {index : Option Bytes}

theorem tagName_received :
    TagName unicode "bagit.txt".toList ∧ TagName unicode "bag-info.txt".toList ∧
      TagName unicode "manifest-sha256.txt".toList ∧
      TagName unicode "package-index.json".toList :=
  ⟨⟨by decide, rfl, by decide⟩, ⟨by decide, rfl, by decide⟩,
    ⟨by decide, rfl, by decide⟩, ⟨by decide, rfl, by decide⟩⟩

/-- The files that the tag manifest of a receive lists. -/
theorem tagName_of_mem_tagFiles
    (member : file ∈ tagFiles bagInfo manifest (packageIndexFiles index)) :
    TagName receiver.toUnicode file.1 ∧
      foundIn (withTagmanifest receiver (tagFiles bagInfo manifest
        (packageIndexFiles index))) file.1 = .file file.2 := by
  simp only [tagFiles, mem_append, mem_cons, not_mem_nil, or_false] at member
  obtain ⟨bagit, info, lines, name⟩ := tagName_received
  rcases member with (rfl | rfl | rfl) | extra
  · exact ⟨bagit, rfl⟩
  · exact ⟨info, rfl⟩
  · exact ⟨lines, rfl⟩
  · cases index with
    | none => cases extra
    | some content =>
      obtain rfl := mem_singleton.mp extra
      exact ⟨name, rfl⟩

/-- The tag manifest of a receive lists its tag files as they are. -/
theorem verifyTagmanifest_received
    (root : bag.root = foundIn (withTagmanifest receiver (tagFiles bagInfo manifest
      (packageIndexFiles index))))
    (isIndexed : indexed = true → index ≠ none) : verifyTagmanifest receiver.toPlatform bag
      (if indexed then ["package-index.json".toList] else []) = [] := by
  let files := tagFiles bagInfo manifest (packageIndexFiles index)
  have order : (files.insertionSort fun first second => first.1 ≤ second.1).Perm
      files := perm_insertionSort _ _
  have tags : bag.root "tagmanifest-sha256.txt".toList =
      .file (encodeUtf8 (tagmanifestText receiver files)) := by
    rw [root]
    rfl
  refine verifyTagmanifest_eq_nil (readToString_of_root tags)
    (fun file _ => receiver.isDigest _) ?_ ?_ ?_
  · intro file member
    exact (tagName_of_mem_tagFiles (order.mem_iff.mp member)).1
  · intro file member
    rw [root]
    exact (tagName_of_mem_tagFiles (order.mem_iff.mp member)).2
  · intro name member
    have listed : ∃ file ∈ files, file.1 = name := by
      rcases mem_append.mp member with basic | extra
      · simp only [bagTagFiles, mem_cons, not_mem_nil, or_false] at basic
        rcases basic with rfl | rfl | rfl
        · exact ⟨_, mem_of_getElem? (i := 0) rfl, rfl⟩
        · exact ⟨_, mem_of_getElem? (i := 1) rfl, rfl⟩
        · exact ⟨_, mem_of_getElem? (i := 2) rfl, rfl⟩
      · split_ifs at extra with isTrue
        · obtain rfl := mem_singleton.mp extra
          obtain ⟨content, rfl⟩ := Option.ne_none_iff_exists'.mp (isIndexed isTrue)
          exact ⟨(_, content), mem_append_right _ (mem_singleton_self _), rfl⟩
        · cases extra
    obtain ⟨file, inside, same⟩ := listed
    exact ⟨file, order.mem_iff.mpr inside, same⟩

/-- The bag of received units whose manifest, labels and tag files are written from
them is valid and lists every unit. -/
theorem valid_of_written
    {options : ReceiveOptions}
    {skippedCount : Nat}
    {records : List HashReceipt}
    (received : ∀ unit ∈ units, Received receiver unit)
    (distinct : (units.map SourceEntry.relpath).Nodup)
    (hashed : payloadRecords receiver.toPlatform bag = (records, []))
    (recordOrder : records.Perm (units.map (unitRecord receiver)))
    (written : bagitManifestText receiver.toUnicode
      (collect (units.map (unitEntry receiver))) = .ok manifest)
    (root : bag.root = foundIn (withTagmanifest receiver (tagFiles
      (bagInfoText (bagInfoMetadata options units.length
        (units.map fun unit => unit.content.length).sum skippedCount))
      manifest (packageIndexFiles index))))
    (readable : ∀ content ∈ index, receiver.packageIndexRead content = true) :
    (validateBag receiver.toPlatform bag).valid = true ∧
      ∃ lines, manifestLines receiver.toPlatform bag = .ok lines ∧
        lines.Perm (units.map (unitEntry receiver)) := by
  have manifestFile : bag.root "manifest-sha256.txt".toList = .file (encodeUtf8 manifest) := by
    rw [root]
    rfl
  obtain ⟨lines, read, lineOrder⟩ := exists_manifestLines manifestFile written received distinct
  have isIndex : bag.root "package-index.json".toList = index.elim .missing .file := by
    rw [root]
    cases index <;> rfl
  have noIndexErrors : packageIndexErrors receiver.toPlatform bag = [] := by
    rw [packageIndexErrors, isIndex]
    cases index with
    | none => rfl
    | some content => exact if_pos (readable content rfl)
  obtain ⟨metadata, labelled, fits⟩ := @exists_metadata records receiver.toUnicode
    options skippedCount (decide (bag.root "package-index.json".toList ≠ .missing))
  have count : records.length = units.length := by rw [recordOrder.length_eq, length_map]
  have bytes : (records.map HashReceipt.sizeBytes).sum =
      (units.map fun unit => unit.content.length).sum := by
    rw [(recordOrder.map HashReceipt.sizeBytes).sum_nat, map_map]
    rfl
  have info : bag.root "bag-info.txt".toList = .file (encodeUtf8 (bagInfoText
      (bagInfoMetadata options records.length
        (records.map HashReceipt.sizeBytes).sum skippedCount))) := by
    rw [root, count, bytes]
    rfl
  refine ⟨valid_of_stages rfl hashed ?_ ?_ noIndexErrors
    (manifestMismatch_received received distinct recordOrder lineOrder) fits
    (verifyTagmanifest_received root ?_), lines, read, lineOrder⟩
  · rw [readManifestSha256, read]
    rfl
  · rw [readToString_of_root info]
    exact labelled
  · rintro present rfl
    exact of_decide_eq_true present isIndex

end Written

/-! ## A receiver -/

/-- A receiver whose stand-ins read plain text only. -/
def plainReceiver : Receiver where
  toPlatform := plainPlatform
  visit := id
  isDigest := isDigest_countingDigest
  visit_perm _ := List.Perm.refl _

def sampleOptions : ReceiveOptions where
  intakeId := "intake".toList
  baggingDate := "2026-01-01".toList
  sourceKind := "folder".toList
  operator := "operator".toList
  sourceRef := none
  artifactclass := "video".toList
  label := none
  verify := .staged

/-- The manifest line of one file whose path can be listed. -/
theorem bagitManifestLines_single
    {relpath canonical : Text}
    {content : Bytes}
    (listed : canonicalizeManifestPath plainUnicode relpath = .ok canonical) :
    bagitManifestLines plainUnicode [(relpath, countingDigest content)] =
      .ok [checksumLine (asciiLowercase (countingDigest content))
        ("data/".toList ++ canonical)] := by
  have digest : isSha256Hex (asciiLowercase (countingDigest content)) = true := by
    rw [(isDigest_countingDigest content).asciiLowercase_eq, isSha256Hex,
      (isDigest_countingDigest content).all_isAsciiHexdigit]
    rfl
  simp only [bagitManifestLines, digest, listed]
  rfl

end Receive
end Sutradhara
