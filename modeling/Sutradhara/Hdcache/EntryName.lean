import Mathlib.Data.List.Nodup
import Mathlib.Tactic.Ring
import Mathlib.Tactic.IntervalCases

/-!
# The file names of cache entries

An entry is stored under the hexadecimal digits of its content hash, followed for a
sealed entry by its representation and its key epoch.  A rebuild reads the names back.
Python reads hexadecimal digits of either case and passes over white space between
two bytes.
-/

namespace Sutradhara
namespace Hdcache
namespace EntryName

open List

/-- A file name or a part of one. -/
abbrev Text := List Char

/-- `RAW_REPRESENTATION`. -/
def rawRepresentation : Text := "raw-bytes".toList

/-- `AEAD_REPRESENTATION`. -/
def aeadRepresentation : Text := "rem-encrypt-v1".toList

/-- What a file name says about its entry. -/
structure Entry where
  contentSha256 : List UInt8
  representation : Text
  keyEpoch : Option Text
  deriving DecidableEq

/-- The texts of `StoreError`. -/
inductive StoreError
  | contentLength
  | rawKeyEpoch
  | keyEpochRequired
  | keyEpochInvalid
  | unsupported (representation : Text)

/-- The lower-case digits of `bytes.hex`. -/
def lowerDigits : Text := (range 16).map Nat.digitChar

/-- `bytes.hex`. -/
def hex (bytes : List UInt8) : Text :=
  bytes.flatMap fun byte => [Nat.digitChar (byte.toNat / 16), Nat.digitChar (byte.toNat % 16)]

/-- The value of a hexadecimal digit of either case. -/
def digitValue (char : Char) : Option Nat :=
  (lowerDigits.idxOf? char).or ("0123456789ABCDEF".toList.idxOf? char)

/-- The white space that `bytes.fromhex` passes over. -/
def isSpace (char : Char) : Bool := [' ', '\t', '\n', '\x0b', '\x0c', '\r'].contains char

/-- `bytes.fromhex`. -/
def fromHex : Text → Option (List UInt8)
  | [] => some []
  | [char] => if isSpace char then some [] else none
  | high :: low :: rest =>
    if isSpace high then fromHex (low :: rest)
    else
      (digitValue high).bind fun upper =>
        (digitValue low).bind fun lower =>
          (fromHex rest).map (UInt8.ofNat (16 * upper + lower) :: ·)

/-- `_is_valid_key_epoch`. -/
def isValidKeyEpoch (epoch : Text) : Bool :=
  1 ≤ epoch.length && epoch.length ≤ 128 &&
    epoch.all fun char => char.isAlphanum || char = '_' || char = '-'

/-- `_entry_filename`. -/
def entryFilename (entry : Entry) : Except StoreError Text :=
  if entry.representation = rawRepresentation then
    if entry.keyEpoch.isSome then .error .rawKeyEpoch else .ok (hex entry.contentSha256)
  else if entry.representation = aeadRepresentation then
    let epoch := entry.keyEpoch.getD []
    if epoch = [] then .error .keyEpochRequired
    else if isValidKeyEpoch epoch then
      .ok (['.'].intercalate [hex entry.contentSha256, aeadRepresentation, epoch])
    else .error .keyEpochInvalid
  else .error (.unsupported entry.representation)

/-- `entry_path` below the root of the layout. -/
def entryPath (entry : Entry) : Except StoreError Text :=
  if entry.contentSha256.length ≠ 32 then .error .contentLength
  else (entryFilename entry).map ((hex entry.contentSha256).take 2 ++ '/' :: ·)

/-- `_parse_entry_filename`. -/
def parseEntryFilename (name : Text) : Option Entry :=
  match name.splitOn '.' with
  | [] => none
  | first :: others =>
    if first.length ≠ 64 then none
    else
      (fromHex first).bind fun contentSha256 =>
        match others with
        | [] => some ⟨contentSha256, rawRepresentation, none⟩
        | [representation, epoch] =>
          if representation = aeadRepresentation ∧ isValidKeyEpoch epoch then
            some ⟨contentSha256, aeadRepresentation, some epoch⟩
          else none
        | _ => none

/-- The entry of a regular file in a directory of the layout, with its path. -/
def enumerateEntry (file : Text × Text) : Option (Entry × Text) :=
  if file.1.length ≠ 2 then none
  else
    (parseEntryFilename file.2).bind fun entry =>
      if (hex entry.contentSha256).take 2 ≠ file.1 then none
      else some (entry, file.1 ++ '/' :: file.2)

/-- `enumerate_entries`. -/
def enumerateEntries : List (Text × Text) → List (Entry × Text) := filterMap enumerateEntry

/-- What becomes of an entry that a rebuild observes. -/
inductive Check
  | registered
  | refused
  | deadline

/-- The loop of `rebuild_hdcache` over `_rebuild_observed_entry`: the entries registered,
with the paths in their rows. -/
def rebuild (check : Entry × Text → Check) : List (Entry × Text) → List (Entry × Text)
  | [] => []
  | observed :: rest =>
    match check observed with
    | .registered => observed :: rebuild check rest
    | .refused => rebuild check rest
    | .deadline => []

/-- The entry that is read from a name is stored under that name. -/
def Returns (name : Text) : Prop :=
  ∀ entry, parseEntryFilename name = some entry →
    entryPath entry = .ok ((hex entry.contentSha256).take 2 ++ '/' :: name)

/-- The name under which an entry is stored is read as that entry. -/
def Entry.Returns (entry : Entry) : Prop :=
  ∀ path, entryPath entry = .ok path → ∃ name,
    path = (hex entry.contentSha256).take 2 ++ '/' :: name ∧ parseEntryFilename name = some entry

/-- A rebuild registers every entry under its own path and no entry twice. -/
def RebuildsOwn (files : List (Text × Text)) : Prop :=
  ∀ check, let registered := rebuild check (enumerateEntries files)
    (∀ row ∈ registered, entryPath row.1 = .ok row.2) ∧ (registered.map Prod.fst).Nodup

/-- Names and entries correspond. -/
def EntryLaw : Prop :=
  (∀ name, Returns name) ∧ (∀ entry : Entry, entry.Returns) ∧
    ∀ files, files.Nodup → RebuildsOwn files

/-- Upper-case digits are read, and the entry is stored under the lower-case ones. -/
theorem not_entryLaw : ¬ EntryLaw := by
  intro law
  have stored := law.1 (replicate 64 'A') ⟨replicate 32 0xAA, rawRepresentation, none⟩
    (by decide +kernel)
  exact absurd (Except.ok.inj stored) (by decide +kernel)

/-- The hash is spelled in lower-case digits. -/
def Spelled (name : Text) : Prop := ∀ char ∈ (name.splitOn '.').headD [], char ∈ lowerDigits

theorem isSpace_digitChar : ∀ digit < 16, isSpace (Nat.digitChar digit) = false := by
  decide

theorem digitValue_digitChar : ∀ digit < 16, digitValue (Nat.digitChar digit) = some digit := by
  decide +kernel

theorem hex_cons : hex (byte :: rest) =
    Nat.digitChar (byte.toNat / 16) :: Nat.digitChar (byte.toNat % 16) :: hex rest := rfl

theorem fromHex_hex (bytes : List UInt8) : fromHex (hex bytes) = some bytes := by
  induction bytes with
  | nil => rfl
  | cons byte rest ih =>
    have bound := byte.toNat_lt
    rw [hex_cons, fromHex, isSpace_digitChar _ (by omega), digitValue_digitChar _ (by omega),
      digitValue_digitChar _ (by omega), ih]
    simp [-UInt8.ofNat_add, Nat.div_add_mod]

/-- Lower-case digits hold no white space, so each pair of them is read as a byte. -/
theorem hex_of_fromHex
    (lower : ∀ char ∈ text, char ∈ lowerDigits)
    (read : fromHex text = some bytes) : hex bytes = text := by
  have digit (char : Char) (member : char ∈ text) : ∃ digit < 16, Nat.digitChar digit = char := by
    simpa [lowerDigits] using lower char member
  clear lower
  induction text using fromHex.induct generalizing bytes with
  | case1 =>
    cases read
    rfl
  | case2 char space | case4 char _ _ space =>
    obtain ⟨value, bound, rfl⟩ := digit char mem_cons_self
    simp [isSpace_digitChar value bound] at space
  | case3 char solid => simp [fromHex, solid] at read
  | case5 high low rest solid ih =>
    obtain ⟨upper, upperBound, rfl⟩ := digit high mem_cons_self
    obtain ⟨lower, lowerBound, rfl⟩ := digit low (mem_cons_of_mem _ mem_cons_self)
    rw [fromHex, if_neg solid, digitValue_digitChar upper upperBound,
      digitValue_digitChar lower lowerBound] at read
    obtain ⟨others, readRest, rfl⟩ := Option.map_eq_some_iff.mp read
    have byte : (UInt8.ofNat (16 * upper + lower)).toNat = 16 * upper + lower :=
      UInt8.toNat_ofNat_of_lt' (by change _ < 256; omega)
    rw [hex_cons, byte, ih readRest fun char member => digit char (by simp [member]),
      show (16 * upper + lower) / 16 = upper by omega,
      show (16 * upper + lower) % 16 = lower by omega]

theorem length_hex (bytes : List UInt8) : (hex bytes).length = 2 * bytes.length := by
  simp [hex, length_flatMap, mul_comm]

theorem mem_lowerDigits_of_mem_hex (member : char ∈ hex bytes) : char ∈ lowerDigits := by
  obtain ⟨byte, -, digit⟩ := mem_flatMap.mp member
  have bound := byte.toNat_lt
  rcases mem_pair.mp digit with rfl | rfl <;>
    exact mem_map_of_mem (mem_range.mpr (by omega))

/-- The parts of a name and the entry that is read from it. -/
inductive Reads : List Text → Entry → Prop
  | raw : fromHex first = some sha → first.length = 64 →
    Reads [first] ⟨sha, rawRepresentation, none⟩
  | sealed : fromHex first = some sha → first.length = 64 → isValidKeyEpoch epoch →
    Reads [first, aeadRepresentation, epoch] ⟨sha, aeadRepresentation, some epoch⟩

theorem parseEntryFilename_eq_some :
    parseEntryFilename name = some entry ↔ Reads (name.splitOn '.') entry := by
  unfold parseEntryFilename
  constructor
  · intro read
    split at read
    · cases read
    next first others parts =>
      rw [parts]
      split_ifs at read with length
      obtain ⟨sha, isSha, read⟩ := Option.bind_eq_some_iff.mp read
      split at read
      · cases read
        exact .raw isSha (not_not.mp length)
      next representation epoch =>
        split_ifs at read with valid
        cases read
        obtain ⟨rfl, valid⟩ := valid
        exact .sealed isSha (not_not.mp length) valid
      · cases read
  · intro reads
    generalize name.splitOn '.' = parts at reads
    cases reads with
    | raw isSha length => simp [isSha, length]
    | sealed isSha length valid => simp [isSha, length, valid]

theorem entryPath_of_reads
    (spelled : ∀ char ∈ parts.headD [], char ∈ lowerDigits)
    (reads : Reads parts entry) : entryPath entry =
      .ok ((hex entry.contentSha256).take 2 ++ '/' :: ['.'].intercalate parts) := by
  have differs : aeadRepresentation ≠ rawRepresentation := by decide +kernel
  cases reads with
  | @raw first sha isSha length =>
    obtain rfl := hex_of_fromHex spelled isSha
    rw [length_hex] at length
    simp [entryPath, entryFilename, Except.map, show sha.length = 32 by omega]
  | @sealed first sha epoch isSha length valid =>
    obtain rfl := hex_of_fromHex spelled isSha
    rw [length_hex] at length
    have nonempty : epoch ≠ [] := by
      rintro rfl
      cases valid
    simp [entryPath, entryFilename, Except.map, show sha.length = 32 by omega, differs, valid,
      nonempty]

theorem reads_of_entryPath (stored : entryPath entry = .ok path) :
    ∃ others, Reads (hex entry.contentSha256 :: others) entry ∧ ∀ part ∈ others, '.' ∉ part := by
  obtain ⟨sha, representation, keyEpoch⟩ := entry
  unfold entryPath at stored
  split_ifs at stored with length
  replace length : (hex sha).length = 64 := by
    rw [length_hex]
    exact congrArg (2 * ·) (not_not.mp length)
  dsimp only [entryFilename] at stored
  split_ifs at stored with raw absent sealed missing valid <;> try cases stored
  · obtain rfl : representation = _ := raw
    obtain rfl : keyEpoch = none := by simpa using absent
    exact ⟨[], .raw (fromHex_hex sha) length, nofun⟩
  · obtain rfl : representation = _ := sealed
    obtain _ | epoch := keyEpoch
    · exact absurd rfl missing
    · refine ⟨_, .sealed (fromHex_hex sha) length valid, ?_⟩
      have plain : '.' ∉ aeadRepresentation := by decide +kernel
      refine forall_mem_cons.mpr ⟨plain, forall_mem_singleton.mpr fun dotted => ?_⟩
      have allowed := all_eq_true.mp (Bool.and_eq_true_iff.mp valid).2 _ dotted
      exact absurd allowed (by decide)

/-- A name has the form of an entry's name: 64 characters that `bytes.fromhex` takes, and
for a sealed entry its representation and a valid key epoch. -/
def Formed (name : Text) : Prop := ∃ entry, Reads (name.splitOn '.') entry

/-- A file has the name of an entry and is in the directory of its first two digits. -/
def Placed (file : Text × Text) : Prop :=
  file.1.length = 2 ∧
    ∃ entry, Reads (file.2.splitOn '.') entry ∧ (hex entry.contentSha256).take 2 = file.1

theorem enumerateEntry_eq_some_iff :
    enumerateEntry file = some row ↔ file.1.length = 2 ∧ parseEntryFilename file.2 = some row.1 ∧
      (hex row.1.contentSha256).take 2 = file.1 ∧ row.2 = file.1 ++ '/' :: file.2 := by
  unfold enumerateEntry
  constructor
  · intro read
    split_ifs at read with length
    obtain ⟨entry, isEntry, read⟩ := Option.bind_eq_some_iff.mp read
    split_ifs at read with directory
    cases read
    exact ⟨not_not.mp length, isEntry, not_not.mp directory, rfl⟩
  · rintro ⟨length, isEntry, directory, path⟩
    simp [length, isEntry, directory, ← path]

theorem rebuild_sublist : rebuild check rows <+ rows := by
  fun_induction rebuild check rows with
  | case1 => exact .slnil
  | case2 row rest _ ih => exact ih.cons_cons row
  | case3 row rest _ ih => exact ih.cons row
  | case4 => exact nil_sublist _

/-- Everything that is observed is registered when every check says so. -/
theorem rebuild_registered : rebuild (fun _ => .registered) rows = rows := by
  induction rows with
  | nil => rfl
  | cons row rest ih => rw [rebuild, ih]

/-- An entry is stored under a name that is spelled in lower-case digits. -/
theorem exists_spelled_of_entryPath (stored : entryPath entry = .ok path) :
    ∃ name, Spelled name ∧ path = (hex entry.contentSha256).take 2 ++ '/' :: name ∧
      parseEntryFilename name = some entry := by
  obtain ⟨others, reads, plain⟩ := reads_of_entryPath stored
  have lower : ∀ char ∈ hex entry.contentSha256, char ∈ lowerDigits :=
    fun _ => mem_lowerDigits_of_mem_hex
  have parts : (['.'].intercalate (hex entry.contentSha256 :: others)).splitOn '.' =
      hex entry.contentSha256 :: others :=
    splitOn_intercalate _ (forall_mem_cons.mpr
      ⟨fun dotted => absurd (lower _ dotted) (by decide), plain⟩) (cons_ne_nil _ _)
  refine ⟨['.'].intercalate (hex entry.contentSha256 :: others), ?_, ?_, ?_⟩
  · rwa [Spelled, parts]
  · exact Except.ok.inj (stored.symm.trans (entryPath_of_reads lower reads))
  · rwa [parseEntryFilename_eq_some, parts]

theorem spelled_of_entryPath
    (stored : entryPath entry = .ok ((hex entry.contentSha256).take 2 ++ '/' :: name)) :
    Spelled name := by
  obtain ⟨other, spelled, path, -⟩ := exists_spelled_of_entryPath stored
  rw [append_cancel_left_eq] at path
  exact (cons.inj path).2 ▸ spelled

theorem entryPath_of_spelled
    (spelled : Spelled name)
    (read : parseEntryFilename name = some entry) :
    entryPath entry = .ok ((hex entry.contentSha256).take 2 ++ '/' :: name) := by
  rw [entryPath_of_reads spelled (parseEntryFilename_eq_some.mp read), intercalate_splitOn]

/-- A name returns exactly if it is spelled in lower-case digits or has not the form of an
entry's name. -/
theorem returns_iff : Returns name ↔ (Formed name → Spelled name) := by
  constructor
  · rintro returns ⟨entry, reads⟩
    exact spelled_of_entryPath (returns entry (parseEntryFilename_eq_some.mpr reads))
  · intro spelled entry read
    exact entryPath_of_spelled (spelled ⟨entry, parseEntryFilename_eq_some.mp read⟩) read

/-- A rebuild registers entries under their own paths exactly if every file in its place is
spelled in lower-case digits. -/
theorem rebuildsOwn_iff (distinct : files.Nodup) :
    RebuildsOwn files ↔ ∀ file ∈ files, Placed file → Spelled file.2 := by
  constructor
  · rintro own file isFile ⟨length, entry, reads, directory⟩
    have observed : enumerateEntry file = some (entry, file.1 ++ '/' :: file.2) :=
      enumerateEntry_eq_some_iff.mpr ⟨length, parseEntryFilename_eq_some.mpr reads, directory, rfl⟩
    have stored := (own fun _ => .registered).1 (entry, file.1 ++ '/' :: file.2) (by
      rw [rebuild_registered]
      exact mem_filterMap.mpr ⟨file, isFile, observed⟩)
    rw [← directory] at stored
    exact spelled_of_entryPath stored
  · intro spelled check
    have own (row : Entry × Text) (member : row ∈ rebuild check (enumerateEntries files)) :
        entryPath row.1 = .ok row.2 := by
      obtain ⟨file, isFile, read⟩ := mem_filterMap.mp (rebuild_sublist.subset member)
      obtain ⟨length, isEntry, directory, isPath⟩ := enumerateEntry_eq_some_iff.mp read
      have lower := spelled file isFile
        ⟨length, row.1, parseEntryFilename_eq_some.mp isEntry, directory⟩
      rw [entryPath_of_spelled lower isEntry, isPath, directory]
    have rows : (enumerateEntries files).Nodup := by
      refine distinct.filterMap fun first second row isFirst isSecond => ?_
      obtain ⟨-, -, directory, isPath⟩ := enumerateEntry_eq_some_iff.mp isFirst
      obtain ⟨-, -, directory', isPath'⟩ := enumerateEntry_eq_some_iff.mp isSecond
      have same := directory.symm.trans directory'
      rw [isPath, same, append_cancel_left_eq] at isPath'
      exact Prod.ext same (cons.inj isPath').2
    refine ⟨own, (rows.sublist rebuild_sublist).map_on fun first isFirst second isSecond same => ?_⟩
    have paths := own first isFirst
    rw [same, own second isSecond] at paths
    exact Prod.ext same (Except.ok.inj paths).symm

/-- Names return exactly if they are spelled in lower-case digits or have not the form of an
entry's name, entries always do, and a rebuild is right exactly if the files in their places
are spelled so. -/
theorem corresponds_iff_spelled
    (name : Text)
    (entry : Entry)
    (files : List (Text × Text)) :
    (Returns name ↔ (Formed name → Spelled name)) ∧ entry.Returns ∧
      (files.Nodup → (RebuildsOwn files ↔ ∀ file ∈ files, Placed file → Spelled file.2)) := by
  refine ⟨returns_iff, fun path stored => ?_, rebuildsOwn_iff⟩
  obtain ⟨other, -, isPath, read⟩ := exists_spelled_of_entryPath stored
  exact ⟨other, isPath, read⟩

end EntryName
end Hdcache
end Sutradhara
