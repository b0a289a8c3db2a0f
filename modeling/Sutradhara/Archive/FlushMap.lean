import Mathlib.Data.List.Dedup
import Mathlib.Data.List.Infix
import Sutradhara.Archive.Fanout
import Sutradhara.Foundation.OrderedMap
import Sutradhara.Foundation.Splitting

/-!
# What a flush checks and renders around its build

The identity gate compares every submission member that a row links with the row, the
map lists the members for the builder, one on each line, and what the builder reports is
compared with the members again.  The gate keeps one row for each submission member, so
of two rows that link it only the later is compared.  The map joins names without
quoting, so a tab or a newline in a name shifts the fields or the lines.  The last
comparison forgets how often a name was reported.
-/

namespace Sutradhara
namespace Archive

open Foundation List

/-! ## The identity gate -/

/-- `SubmissionMember`, as far as the gate reads it. -/
structure SubmissionMember where
  id : Int
  sha256 : String
  sizeBytes : Nat
  ingestItemId : Option Nat

/-- What the gate complains about. -/
inductive IdentityFault
  | missing (memberPath : String) (memberId : Int)
  | logicalHash (memberPath hash : String) (memberId : Int) (recorded : String)
  | stagedDigest (memberPath digest : String) (memberId : Int) (recorded : String)
  | size (memberPath : String) (size : Nat) (memberId : Int) (recorded : Nat)
  | noIngestItem (memberId : Int) (memberPath : String)

/-- The submission members that a row links. -/
def BundleMember.links (row : BundleMember) : List Int :=
  (submissionLinks (row.sourceMetadata.getD [])).map Prod.snd

section

variable (records : Table SubmissionMember.id) (rows : List BundleMember)

/-- The check of one linked submission member. -/
def identityFault (entry : Int × BundleMember) : Option IdentityFault :=
  let (memberId, row) := entry
  match records.find? memberId with
  | none => some (.missing row.memberPath memberId)
  | some record =>
    if row.logicalAssetHash ≠ record.sha256 then
      some (.logicalHash row.memberPath row.logicalAssetHash memberId record.sha256)
    else if row.fileSha256 ≠ record.sha256 then
      some (.stagedDigest row.memberPath row.fileSha256 memberId record.sha256)
    else if row.sizeBytes ≠ record.sizeBytes then
      some (.size row.memberPath row.sizeBytes memberId record.sizeBytes)
    else if record.ingestItemId = none then some (.noIngestItem memberId row.memberPath)
    else none

/-- Every link with its row, in the order in which the dictionary is filled. -/
def linkedRows : List (Int × BundleMember) :=
  rows.flatMap fun row => row.links.map fun memberId => (memberId, row)

/-- `validate_submission_member_identity`, in the order of the submission members. -/
def validateSubmissionMemberIdentity : Option IdentityFault :=
  ((OrderedMap.collect (linkedRows rows)).insertionSort fun first second =>
    first.1 ≤ second.1).findSome? (identityFault records)

/-- The submission member exists, has an ingest item and agrees with the row. -/
def Agrees (memberId : Int) (row : BundleMember) : Prop :=
  ∃ record, records.find? memberId = some record ∧ record.ingestItemId ≠ none ∧
    row.logicalAssetHash = record.sha256 ∧ row.fileSha256 = record.sha256 ∧
    row.sizeBytes = record.sizeBytes

/-- Accepted rows agree with everything that they link. -/
def IdentityLaw : Prop :=
  ∀ records rows, validateSubmissionMemberIdentity records rows = none →
    ∀ row ∈ rows, ∀ memberId ∈ row.links, Agrees records memberId row

/-- A row of one byte that links the submission member 1. -/
def linkingRow (id : Nat) (hash : String) : BundleMember :=
  ⟨id, "b", hash, "c", "m", none, 1, hash, some [(submissionLinksKey, .arr [linkValue ("s", 1)])]⟩

def submissionRecords : Table SubmissionMember.id := ⟨[⟨1, "y", 1, some 1⟩], by decide⟩

/-- The row that is compared hides the one before it. -/
theorem not_identityLaw : ¬ IdentityLaw := by
  intro law
  obtain ⟨record, found, -, same, -⟩ := law submissionRecords
    [linkingRow 1 "x", linkingRow 2 "y"] rfl (linkingRow 1 "x") mem_cons_self 1 (by decide)
  cases found
  exact absurd same (by decide)

variable {records rows}

theorem agrees_of_identityFault_eq_none (passed : identityFault records (memberId, row) = none) :
    Agrees records memberId row := by
  unfold identityFault at passed
  cases found : records.find? memberId with
  | none => simp [found] at passed
  | some record =>
    simp only [found] at passed
    split_ifs at passed with logical staged size ingest
    exact ⟨record, found, ingest, not_not.mp logical, not_not.mp staged, not_not.mp size⟩

/-- The check of a submission member passes exactly where it agrees with the row. -/
theorem identityFault_eq_none_iff :
    identityFault records (memberId, row) = none ↔ Agrees records memberId row := by
  constructor
  · exact agrees_of_identityFault_eq_none
  · rintro ⟨record, found, ingest, logical, staged, size⟩
    simp [identityFault, found, ingest, logical, staged, size]

/-- The last row that links a submission member. -/
def lastLinking (rows : List BundleMember) (memberId : Int) : Option BundleMember :=
  rows.reverse.find? fun row => memberId ∈ row.links

/-- The row that the dictionary keeps is the last one that links the submission member. -/
theorem lookup_collect_linkedRows (memberId : Int) :
    (OrderedMap.collect (linkedRows rows)).lookup memberId = lastLinking rows memberId := by
  rw [OrderedMap.lookup_collect, linkedRows, reverse_flatMap, lastLinking]
  induction rows.reverse with
  | nil => rfl
  | cons row rest ih =>
    rw [flatMap_cons, lookup_append, ih, Function.comp_apply, ← map_reverse,
      OrderedMap.lookup_map_const, find?_cons]
    by_cases linked : memberId ∈ row.links <;> simp [linked]

/-- The gate accepts exactly the rows of which each last one agrees. -/
theorem validateSubmissionMemberIdentity_eq_none_iff :
    validateSubmissionMemberIdentity records rows = none ↔
      ∀ memberId last, lastLinking rows memberId = some last → Agrees records memberId last := by
  rw [validateSubmissionMemberIdentity, findSome?_eq_none_iff]
  constructor
  · intro passed memberId last isLast
    rw [← lookup_collect_linkedRows] at isLast
    exact identityFault_eq_none_iff.mp
      (passed _ ((mem_insertionSort _).mpr (OrderedMap.mem_of_lookup isLast)))
  · rintro agree ⟨memberId, row⟩ member
    have kept := OrderedMap.mem_collect_iff.mp ((mem_insertionSort _).mp member)
    exact identityFault_eq_none_iff.mpr
      (agree memberId row ((lookup_collect_linkedRows memberId).symm.trans kept))

/-- What the gate compares is the same in two rows. -/
structure BundleMember.Alike (first second : BundleMember) : Prop where
  logical : first.logicalAssetHash = second.logicalAssetHash
  staged : first.fileSha256 = second.fileSha256
  size : first.sizeBytes = second.sizeBytes

theorem Agrees.of_alike
    (agrees : Agrees records memberId last)
    (alike : row.Alike last) : Agrees records memberId row := by
  obtain ⟨record, found, ingest, logical, staged, size⟩ := agrees
  exact ⟨record, found, ingest, alike.logical.trans logical, alike.staged.trans staged,
    alike.size.trans size⟩

theorem Agrees.alike
    (agrees : Agrees records memberId row)
    (last : Agrees records memberId other) : row.Alike other := by
  obtain ⟨record, found, -, logical, staged, size⟩ := agrees
  obtain ⟨same, foundSame, -, logical', staged', size'⟩ := last
  cases found.symm.trans foundSame
  exact ⟨logical.trans logical'.symm, staged.trans staged'.symm, size.trans size'.symm⟩

/-- Acceptance means agreement exactly where the last row of some submission member does
not agree, or all rows that link a submission member are like the last one. -/
theorem agrees_iff_last
    (records : Table SubmissionMember.id)
    (rows : List BundleMember) :
    (validateSubmissionMemberIdentity records rows = none →
      ∀ row ∈ rows, ∀ memberId ∈ row.links, Agrees records memberId row) ↔
    (∃ memberId last, lastLinking rows memberId = some last ∧ ¬ Agrees records memberId last) ∨
      ∀ row ∈ rows, ∀ memberId ∈ row.links, ∀ last, lastLinking rows memberId = some last →
        row.Alike last := by
  rw [validateSubmissionMemberIdentity_eq_none_iff]
  constructor
  · intro sound
    by_cases agree : ∀ memberId last, lastLinking rows memberId = some last →
        Agrees records memberId last
    · exact .inr fun row member memberId linked last isLast =>
        (sound agree row member memberId linked).alike (agree memberId last isLast)
    · push Not at agree
      exact .inl agree
  · rintro (⟨other, last, isLast, differs⟩ | alike) agree row member memberId linked
    · exact absurd (agree other last isLast) differs
    · obtain ⟨last, isLast⟩ : ∃ last, lastLinking rows memberId = some last := by
        rw [← Option.isSome_iff_exists, lastLinking, find?_isSome]
        exact ⟨row, mem_reverse.mpr member, decide_eq_true linked⟩
      exact (agree memberId last isLast).of_alike (alike row member memberId linked last isLast)

end

/-! ## The map -/

/-- A Python string by its code points.  A surrogate stands for a byte of a name that
is not UTF-8. -/
abbrev CodePoints := List Nat

/-- The code points of plain text. -/
def codes (text : List Char) : CodePoints := text.map Char.toNat

/-- `MemberInput`, as far as the map shows it. -/
structure MappedMember where
  memberPath : CodePoints
  sourcePath : CodePoints
  fileSha256 : List UInt8
  sizeBytes : Int
  ingestItemId : Option Int

/-- The path that a member is refused for. -/
inductive PathLabel
  | sourcePath
  | memberPath

/-- `_reject_unmappable_member`. -/
def rejectUnmappableMember (member : MappedMember) : Option PathLabel :=
  if ¬ ∀ code ∈ member.sourcePath, code.isValidChar then some .sourcePath
  else if ¬ ∀ code ∈ member.memberPath, code.isValidChar then some .memberPath
  else none

/-- `bytes.hex`. -/
def hexText (digest : List UInt8) : List Char :=
  digest.flatMap fun byte => [Nat.digitChar (byte.toNat / 16), Nat.digitChar (byte.toNat % 16)]

/-- `SOURCE_MAP_COLUMNS`. -/
def sourceMapColumns : List CodePoints :=
  ["archive_path", "source_path", "sha256", "size", "ingest_item_id"].map
    fun column => codes column.toList

section

variable (joined : CodePoints → List UInt8 → Option Int) (members : List MappedMember)

/-- The fields of a member, with the lineage that the join of its path and digest gives
if it has none of its own. -/
def mapFields (member : MappedMember) : List CodePoints :=
  [member.memberPath, member.sourcePath, codes (hexText member.fileSha256),
    codes (Json.intText member.sizeBytes),
    match member.ingestItemId.or (joined member.memberPath member.fileSha256) with
    | none => []
    | some lineage => codes (Json.intText lineage)]

/-- `render_source_map`. -/
def renderSourceMap (rows : List (List CodePoints)) : CodePoints :=
  [10].intercalate ((sourceMapColumns :: rows).map ([9].intercalate ·)) ++ [10]

/-- `_render_flush_map`.  A refusal names the row of the member. -/
def renderFlushMap : Except (Nat × PathLabel) CodePoints :=
  match members.zipIdx.findSome? fun (member, index) =>
      (rejectUnmappableMember member).map (index, ·) with
  | some refusal => .error refusal
  | none => .ok (renderSourceMap (members.map (mapFields joined)))

/-- The map has the header and one row for each member, and a failure that names a line
is attributed to the member on that line. -/
structure Unambiguous (map : CodePoints) : Prop where
  rows : (map.splitOn 10).dropLast.map (splitOn 9) =
    sourceMapColumns :: members.map (mapFields joined)
  attributed : ∀ (surroundings : Fanout.Surroundings) message line rows row,
    rows.length = members.length → surroundings.mapLine message = some line →
    (Fanout.identifyMemberFailure surroundings message rows = some row ↔
      ∃ (index : Nat) (member : MappedMember), line = index + 2 ∧ rows[index]? = some row ∧
        members[index]? = some member ∧
        ((map.splitOn 10)[line - 1]?).map (splitOn 9) = some (mapFields joined member))

end

/-- Every map that is rendered is unambiguous. -/
def MapLaw : Prop :=
  ∀ joined members map, renderFlushMap joined members = .ok map → Unambiguous joined members map

/-- A member with a tab in its path, which is not rejected. -/
def tabbedMember : MappedMember := ⟨[9], [], [], 0, none⟩

/-- A tab in a path adds a field. -/
theorem not_mapLaw : ¬ MapLaw := by
  intro law
  have rows := (law (fun _ _ => none) [tabbedMember] _ rfl).rows
  exact absurd rows (by decide +kernel)

/-- No tab and no newline. -/
abbrev Flat (field : CodePoints) : Prop := 9 ∉ field ∧ 10 ∉ field

theorem flat_codes (large : ∀ char ∈ text, 10 < char.toNat) : Flat (codes text) := by
  constructor <;> intro member <;> obtain ⟨char, inside, same⟩ := mem_map.mp member
  · exact absurd (large char inside) (by omega)
  · exact absurd (large char inside) (by omega)

theorem flat_intText (number : Int) : Flat (codes (Json.intText number)) := by
  refine flat_codes fun char member => ?_
  have integral := all_eq_true.mp (Json.intText_isIntegral number) char member
  rw [Json.isIntegral, Bool.or_eq_true, beq_iff_eq] at integral
  rcases integral with digit | rfl
  · have lower : 48 ≤ char.toNat := (Char.isDigit_iff_toNat.mp digit).1
    omega
  · decide

theorem flat_hexText (digest : List UInt8) : Flat (codes (hexText digest)) := by
  have large : ∀ digit < 16, 10 < (Nat.digitChar digit).toNat := by decide
  refine flat_codes fun char member => ?_
  obtain ⟨byte, -, inside⟩ := mem_flatMap.mp member
  have bound := byte.toNat_lt
  rcases mem_cons.mp inside with rfl | second
  · exact large _ (by omega)
  · rw [mem_singleton.mp second]
    exact large _ (Nat.mod_lt _ (by decide))

theorem flat_mapFields (path : Flat member.memberPath) (source : Flat member.sourcePath) :
    ∀ field ∈ mapFields joined member, Flat field := by
  simp only [mapFields, forall_mem_cons, not_mem_nil, false_implies, implies_true, and_true]
  refine ⟨path, source, flat_hexText _, flat_intText _, ?_⟩
  split
  · exact ⟨not_mem_nil, not_mem_nil⟩
  · exact flat_intText _

theorem newline_notMem_intercalate (flat : ∀ field ∈ row, Flat field) :
    10 ∉ [9].intercalate row := by
  induction row with
  | nil => exact not_mem_nil
  | cons first rest ih =>
    obtain ⟨here, later⟩ := forall_mem_cons.mp flat
    cases rest with
    | nil => rw [intercalate_singleton]; exact here.2
    | cons next others =>
      rw [intercalate_cons_cons, mem_append, mem_append]
      exact not_or.mpr ⟨not_or.mpr ⟨here.2, by decide⟩, ih later⟩

/-- Flat rows are read back from the map. -/
theorem splitOn_renderSourceMap (flat : ∀ row ∈ rows, row ≠ [] ∧ ∀ field ∈ row, Flat field) :
    ((renderSourceMap rows).splitOn 10).map (splitOn 9) = sourceMapColumns :: rows ++ [[[]]] := by
  have all : ∀ row ∈ sourceMapColumns :: rows, row ≠ [] ∧ ∀ field ∈ row, Flat field :=
    forall_mem_cons.mpr ⟨⟨by decide, by decide⟩, flat⟩
  have lines : ((sourceMapColumns :: rows).map ([9].intercalate ·)).map (splitOn 9) =
      sourceMapColumns :: rows := by
    rw [map_map]
    refine (map_congr_left fun row member => ?_).trans (map_id _)
    exact splitOn_intercalate 9 (fun field inside => ((all row member).2 field inside).1)
      (all row member).1
  rw [renderSourceMap, splitOn_append_cons_self, splitOn_intercalate 10 ?_ (by simp),
    map_append, lines]
  · rfl
  · intro line member
    obtain ⟨row, inside, rfl⟩ := mem_map.mp member
    exact newline_notMem_intercalate (all row inside).2

/-- A map of flat paths is unambiguous. -/
theorem unambiguous_of_flat
    (flat : ∀ member ∈ members, Flat member.memberPath ∧ Flat member.sourcePath) :
    Unambiguous joined members (renderSourceMap (members.map (mapFields joined))) := by
  have read := @splitOn_renderSourceMap (members.map (mapFields joined))
    (forall_mem_map.mpr fun member inside =>
      ⟨cons_ne_nil _ _, flat_mapFields (flat member inside).1 (flat member inside).2⟩)
  refine ⟨?_, fun surroundings message line rows row same named => ⟨fun failed => ?_, ?_⟩⟩
  · rw [map_dropLast, read, dropLast_concat]
  · simp only [Fanout.identifyMemberFailure, named] at failed
    split_ifs at failed with large
    obtain ⟨bound, -⟩ := List.getElem?_eq_some_iff.mp failed
    have found : members[line - 2]? = some members[line - 2] := getElem?_eq_getElem (same ▸ bound)
    refine ⟨line - 2, _, by omega, failed, found, ?_⟩
    rw [← getElem?_map, read, show line - 1 = line - 2 + 1 by omega, cons_append,
      getElem?_cons_succ, getElem?_append_left (by simpa using same ▸ bound), getElem?_map, found]
    rfl
  · rintro ⟨index, member, rfl, found, -⟩
    simp [Fanout.identifyMemberFailure, named, found]

/-- What is read from a map is flat, so the fields of an unambiguous one are. -/
theorem Unambiguous.flat
    {map : CodePoints}
    (unambiguous : Unambiguous joined members map)
    (inside : member ∈ members) : ∀ field ∈ mapFields joined member, Flat field := by
  have listed : mapFields joined member ∈ (map.splitOn 10).dropLast.map (splitOn 9) := by
    rw [unambiguous.rows]
    exact mem_cons_of_mem _ (mem_map_of_mem inside)
  obtain ⟨line, isLine, same⟩ := mem_map.mp listed
  rw [← same]
  intro field isField
  refine ⟨Splitting.notMem_of_mem_splitOn isField, fun newline => ?_⟩
  exact Splitting.notMem_of_mem_splitOn (mem_of_mem_dropLast isLine)
    (Splitting.mem_of_mem_splitOn isField newline)

/-- A map is unambiguous exactly if no path has a tab or a newline. -/
theorem unambiguous_iff_flat
    (joined : CodePoints → List UInt8 → Option Int)
    (members : List MappedMember)
    (map : CodePoints)
    (rendered : renderFlushMap joined members = .ok map) :
    Unambiguous joined members map ↔
      ∀ member ∈ members, Flat member.memberPath ∧ Flat member.sourcePath := by
  constructor
  · intro unambiguous member inside
    have flat := unambiguous.flat inside
    simp only [mapFields, forall_mem_cons] at flat
    exact ⟨flat.1, flat.2.1⟩
  · intro flat
    unfold renderFlushMap at rendered
    split at rendered
    · cases rendered
    · cases rendered
      exact unambiguous_of_flat flat

theorem unambiguous_iff_flat_single :
    ∃ map, renderFlushMap (fun _ _ => none) [⟨[97], [98], [], 0, none⟩] = .ok map ∧
      Unambiguous (fun _ _ => none) [⟨[97], [98], [], 0, none⟩] map :=
  ⟨_, rfl, (unambiguous_iff_flat _ _ _ rfl).mpr (by decide)⟩

/-! ## The built members -/

section

open Fanout

variable (target : PoolTarget) (artifact : BuildArtifact) (members : List MemberInput)

/-- The built member is the requested one and names no other lineage. -/
structure Matches (built : BuiltMember) (member : MemberInput) : Prop where
  path : built.memberPath = member.memberPath
  logical : built.logicalAssetHash = member.logicalAssetHash
  sha256 : built.fileSha256 = member.fileSha256
  size : built.sizeBytes = member.sizeBytes
  lineage : ∀ expected ∈ member.ingestItemId,
    built.ingestItemId = none ∨ built.ingestItemId = some (toString expected)

/-- The report is a permutation of the request, with each built member paired with the
requested one. -/
def Reported : Prop :=
  ∃ pairs : List (BuiltMember × MemberInput), pairs.map Prod.fst = artifact.members ∧
    (pairs.map Prod.snd).Perm members ∧ ∀ pair ∈ pairs, Matches pair.1 pair.2

/-- The validation accepts exactly the permutations of the request. -/
def ValidationLaw : Prop :=
  ∀ target artifact members, (members.map MemberInput.memberPath).Nodup →
    (validateBuiltMembers target artifact members = none ↔ Reported artifact members)

def requestedMember : MemberInput := ⟨"m", "h", "h", 1, none⟩

def builtTwice : BuildArtifact := ⟨replicate 2 ⟨"m", "h", "h", 1, none⟩, [], [], none⟩

/-- A member that is reported twice is accepted. -/
theorem not_validationLaw : ¬ ValidationLaw := by
  intro law
  obtain ⟨pairs, reported, requested, -⟩ := (law ⟨"p", 1, "b", .rawBytes, none⟩ builtTwice
    [requestedMember] (by decide)).mp (by decide)
  have two := congrArg length reported
  have one := requested.length_eq
  rw [length_map] at two one
  exact absurd (two.symm.trans one) (by decide)

variable {target artifact members}
variable (distinct : (members.map MemberInput.memberPath).Nodup)
include distinct

theorem builtMemberFault_eq_none_iff :
    builtMemberFault target members built = none ↔ ∃ member ∈ members, Matches built member := by
  let expected : Table MemberInput.memberPath :=
    ⟨members.reverse, by rwa [map_reverse, nodup_reverse]⟩
  unfold builtMemberFault
  cases found : expected.find? built.memberPath with
  | none =>
    have absent := (expected.find?_eq_none_iff _).mp found
    rw [show members.reverse.find? _ = none from found]
    constructor
    · nofun
    · rintro ⟨member, requested, same⟩
      exact absurd same.path.symm (absent member (mem_reverse.mpr requested))
  | some member =>
    obtain ⟨requested, path⟩ := (expected.find?_eq_some_iff ..).mp found
    have only : (∃ member ∈ members, Matches built member) ↔ Matches built member := by
      constructor
      · rintro ⟨other, inside, same⟩
        rwa [expected.eq_of_key_eq requested (mem_reverse.mpr inside) (path.trans same.path)]
      · exact fun same => ⟨member, mem_reverse.mp requested, same⟩
    rw [only, show members.reverse.find? _ = some member from found]
    constructor
    · intro passed
      dsimp only at passed
      split_ifs at passed with logical sha256 size
      refine ⟨path.symm, not_not.mp logical, not_not.mp sha256, not_not.mp size, ?_⟩
      intro lineage isLineage
      rw [Option.mem_def.mp isLineage] at passed
      dsimp only at passed
      split_ifs at passed with agrees
      exact agrees
    · intro same
      simp only [same.logical, same.sha256, same.size, ne_eq, not_true_eq_false, if_false]
      cases isLineage : member.ingestItemId with
      | none => rfl
      | some lineage => exact if_pos (same.lineage lineage isLineage)

theorem validateBuiltMembers_eq_none_iff :
    validateBuiltMembers target artifact members = none ↔
      (∀ built ∈ artifact.members, ∃ member ∈ members, Matches built member) ∧
      ∀ member ∈ members, member.memberPath ∈ artifact.members.map BuiltMember.memberPath := by
  have omitted : omittedPaths artifact members = [] ↔ ∀ member ∈ members,
      member.memberPath ∈ artifact.members.map BuiltMember.memberPath := by
    rw [omittedPaths, ← length_eq_zero_iff, length_insertionSort, length_eq_zero_iff,
      filter_eq_nil_iff]
    simp
  have known : artifact.members.findSome? (builtMemberFault target members) = none ↔
      ∀ built ∈ artifact.members, ∃ member ∈ members, Matches built member := by
    rw [findSome?_eq_none_iff]
    exact forall₂_congr fun built _ => builtMemberFault_eq_none_iff distinct
  rw [← omitted, ← known]
  unfold validateBuiltMembers
  split
  next failed => simp [failed]
  next passed =>
    split
    next none => simp [passed, none]
    next some => exact ⟨nofun, fun both => absurd both.2 some⟩

/-- A report is a permutation of the request exactly if it names no path twice, each of its
members matches the requested one, and no requested path is missing. -/
theorem reported_iff :
    Reported artifact members ↔ (artifact.members.map BuiltMember.memberPath).Nodup ∧
      (∀ built ∈ artifact.members, ∃ member ∈ members, Matches built member) ∧
      ∀ member ∈ members, member.memberPath ∈ artifact.members.map BuiltMember.memberPath := by
  constructor
  · rintro ⟨pairs, reported, requested, same⟩
    have paths : pairs.map (MemberInput.memberPath ∘ Prod.snd) =
        artifact.members.map BuiltMember.memberPath := by
      rw [← reported, map_map]
      exact map_congr_left fun pair isPair => (same pair isPair).path.symm
    rw [← paths, ← map_map]
    refine ⟨(requested.map _).nodup_iff.mpr distinct, ?_, fun member inside => ?_⟩
    · rw [← reported]
      refine forall_mem_map.mpr fun pair isPair => ?_
      exact ⟨pair.2, requested.subset (mem_map_of_mem isPair), same pair isPair⟩
    · exact mem_map_of_mem (requested.symm.subset inside)
  · rintro ⟨single, known, complete⟩
    have : Nonempty MemberInput := ⟨requestedMember⟩
    choose! pick requested same using known
    refine ⟨artifact.members.map fun built => (built, pick built), ?_, ?_, by simpa using same⟩
    · rw [map_map]
      exact map_id _
    · have paths : (artifact.members.map pick).map MemberInput.memberPath =
          artifact.members.map BuiltMember.memberPath := by
        rw [map_map]
        exact map_congr_left fun built inside => (same built inside).path.symm
      have picked : ∀ member ∈ artifact.members.map pick, member ∈ members := by
        simpa using requested
      rw [map_map]
      refine (perm_ext_iff_of_nodup (.of_map _ (paths ▸ single)) (.of_map _ distinct)).mpr
        fun member => ⟨picked member, fun inside => ?_⟩
      obtain ⟨other, isPicked, path⟩ := mem_map.mp (paths ▸ complete member inside)
      exact inj_on_of_nodup_map distinct (picked other isPicked) inside path ▸ isPicked

/-- The validation is exact unless a report of matching members that misses none names a
path twice. -/
theorem validateBuiltMembers_exact_iff (target : PoolTarget) :
    (validateBuiltMembers target artifact members = none ↔ Reported artifact members) ↔
      (artifact.members.map BuiltMember.memberPath).Nodup ∨
      (∃ built ∈ artifact.members, ∀ member ∈ members, ¬ Matches built member) ∨
      ∃ member ∈ members, member.memberPath ∉ artifact.members.map BuiltMember.memberPath := by
  rw [validateBuiltMembers_eq_none_iff distinct, reported_iff distinct, iff_and_self,
    imp_iff_not_or, not_and_or, or_comm]
  push Not
  rfl

omit distinct in
theorem validateBuiltMembers_exact_iff_single :
    (validateBuiltMembers ⟨"p", 1, "b", .rawBytes, none⟩ ⟨[⟨"m", "h", "h", 1, none⟩], [], [], none⟩
      [requestedMember] = none ↔ Reported ⟨[⟨"m", "h", "h", 1, none⟩], [], [], none⟩
        [requestedMember]) :=
  (validateBuiltMembers_exact_iff (by decide) _).mpr (.inl (by decide))

end

end Archive
end Sutradhara
