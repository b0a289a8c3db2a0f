import Sutradhara.Foundation.OrderedMap
import Sutradhara.Receive.Canonical

/-!
# The tag files of a bag

`manifest-sha256.txt` and `tagmanifest-sha256.txt` list a digest and a path on
each line, `bag-info.txt` lists labels and values.  Reading any of them ends in a
map, so of two lines with one key the later stays.
-/

namespace Sutradhara
namespace Receive

open Foundation List

/-- Drop one trailing carriage return. -/
def stripCarriageReturn (line : Text) : Text :=
  if line.getLast? = some '\r' then line.dropLast else line

/-- `str::lines`. -/
def textLines (text : Text) : List Text :=
  let pieces := text.splitOn '\n'
  (if pieces.getLast? = some [] then pieces.dropLast else pieces).map stripCarriageReturn

/-- `to_ascii_lowercase`. -/
def asciiLowercase (text : Text) : Text := text.map Char.toLower

/-- `u8::is_ascii_hexdigit`. -/
def isAsciiHexdigit (char : Char) : Bool := "0123456789abcdefABCDEF".toList.contains char

/-- A blank of a checksum line. -/
def isBlank (char : Char) : Bool := char = ' ' || char = '\t'

/-- Why a tag file is not read. -/
inductive TagFileError
  | unreadable
  | invalidLine (number : Nat)
  | invalidSha256 (number : Nat)
  | invalidSeparator (number : Nat)
  | missingPath (number : Nat)
  | truncatedEscape (path : Text)
  | unsupportedEscape (token path : Text)
  | path (error : PathError)
  | invalidBagInfoLine (number : Nat) (line : Text)
  | emptyLabel (number : Nat)

/-- `decode_bagit_path` from a position on. -/
def decodeBagitFrom (path : Text) : Text → Except TagFileError Text
  | [] => .ok []
  | '%' :: first :: second :: rest =>
    match [first.toUpper, second.toUpper] with
    | ['2', '5'] => (decodeBagitFrom path rest).map ('%' :: ·)
    | ['0', 'D'] => (decodeBagitFrom path rest).map ('\r' :: ·)
    | ['0', 'A'] => (decodeBagitFrom path rest).map ('\n' :: ·)
    | _ => .error (.unsupportedEscape [first, second] path)
  | '%' :: _ => .error (.truncatedEscape path)
  | char :: rest => (decodeBagitFrom path rest).map (char :: ·)

/-- `decode_bagit_path`. -/
def decodeBagitPath (path : Text) : Except TagFileError Text := decodeBagitFrom path path

/-- `encode_bagit_path`. -/
def encodeBagitPath (path : Text) : Text :=
  path.flatMap fun char =>
    if char = '%' then ['%', '2', '5']
    else if char = '\r' then ['%', '0', 'D']
    else if char = '\n' then ['%', '0', 'A']
    else [char]

/-- `normalize_posix_path`. -/
def normalizePosixPath (path : Text) : Text :=
  let normalized := ['/'].intercalate
    ((path.splitOn '/').filter fun part => part ≠ [] ∧ part ≠ ['.'])
  if path.head? = some '/' then '/' :: normalized
  else if normalized = [] then ['.'] else normalized

/-- `is_safe_bag_relative_path`. -/
def isSafeBagRelativePath (relpath : Text) : Bool :=
  relpath ≠ [] && relpath.head? ≠ some '/' &&
    (relpath.splitOn '/').all fun part => part ≠ [] && part ≠ ['.'] && part ≠ ['.', '.']

variable (unicode : Unicode)

section

variable (payloadManifest : Bool) (digest text : Text)

/-- The path of a checksum line, after its blanks. -/
def checksumPath (encodedPath : Text) : Except TagFileError Text :=
  (decodeBagitPath encodedPath).bind fun decodedPath =>
    if payloadManifest then (canonicalizePayloadManifestPath unicode decodedPath).mapError .path
    else .ok (normalizePosixPath decodedPath)

/-- One line of `read_checksum_manifest` that is not empty: its path and its
digest. -/
def readChecksumLine (number : Nat) (line : Text) : Except TagFileError (Text × Text) :=
  if (encodeUtf8 line).length < 66 then .error (.invalidLine number)
  else if !(line.take 64).all isAsciiHexdigit then .error (.invalidSha256 number)
  else if !((line.drop 64).head?.any isBlank) then .error (.invalidSeparator number)
  else
    let encodedPath := (line.drop 64).dropWhile isBlank
    if encodedPath = [] then .error (.missingPath number)
    else
      (checksumPath unicode payloadManifest encodedPath).map fun relpath =>
        (relpath, asciiLowercase (line.take 64))

/-- The entries of `read_checksum_manifest` from a line on. -/
def readChecksumLines (payloadManifest : Bool) (number : Nat) :
    List Text → Except TagFileError (List (Text × Text))
  | [] => .ok []
  | line :: rest =>
    if line = [] then readChecksumLines payloadManifest (number + 1) rest
    else
      (readChecksumLine unicode payloadManifest number line).bind fun entry =>
        (readChecksumLines payloadManifest (number + 1) rest).map (entry :: ·)

/-- The entries of a checksum manifest, line by line. -/
def checksumEntries : Except TagFileError (List (Text × Text)) :=
  readChecksumLines unicode payloadManifest 1 (textLines text)

/-- `read_checksum_manifest`. -/
def readChecksumManifest : Except TagFileError (List (Text × Text)) :=
  (checksumEntries unicode payloadManifest text).map OrderedMap.collect

/-- `str::trim`. -/
def trim : Text :=
  ((text.dropWhile unicode.isWhitespace).reverse.dropWhile unicode.isWhitespace).reverse

/-- `read_bag_info` from a line on, with the label of the last line and what has
been read. -/
def readBagInfoLines (number : Nat) (currentKey : Option Text) (result : List (Text × Text)) :
    List Text → Except TagFileError (List (Text × Text))
  | [] => .ok result
  | line :: rest =>
    if line = [] then readBagInfoLines (number + 1) currentKey result rest
    else
      match currentKey, line.head?.any unicode.isWhitespace with
      | some key, true =>
        readBagInfoLines (number + 1) (some key)
          (OrderedMap.insert key ((result.lookup key).getD [] ++ '\n' :: trim unicode line) result)
          rest
      | _, _ =>
        if ':' ∈ line then
          let key := trim unicode (line.takeWhile (· ≠ ':'))
          if key = [] then .error (.emptyLabel number)
          else
            readBagInfoLines (number + 1) (some key)
              (OrderedMap.insert key (trim unicode ((line.dropWhile (· ≠ ':')).drop 1)) result)
              rest
        else .error (.invalidBagInfoLine number line)

/-- `read_bag_info`. -/
def readBagInfo : Except TagFileError (List (Text × Text)) :=
  readBagInfoLines unicode 1 none [] (textLines text)

/-! ## Writing and reading a manifest -/

/-- `join_lines`. -/
def joinLines (lines : List Text) : Text :=
  if lines = [] then [] else ['\n'].intercalate lines ++ ['\n']

/-- One line of a checksum manifest. -/
def checksumLine (path : Text) : Text := digest ++ ' ' :: ' ' :: encodeBagitPath path

/-- A SHA-256 in lower case hexadecimal digits. -/
def IsDigest : Prop := digest.length = 64 ∧ ∀ char ∈ digest, char ∈ lowerHexDigits

end

omit unicode in
theorem IsDigest.all_isAsciiHexdigit (isDigest : IsDigest digest) :
    digest.all isAsciiHexdigit = true := by
  have all : lowerHexDigits.all isAsciiHexdigit = true := by decide
  exact all_eq_true.mpr fun char member => all_eq_true.mp all char (isDigest.2 char member)

theorem IsDigest.asciiLowercase_eq (isDigest : IsDigest digest) :
    asciiLowercase digest = digest := by
  have all : lowerHexDigits.all (fun char => char.toLower == char) = true := by decide
  refine (map_congr_left fun char member => ?_).trans (map_id digest)
  exact beq_iff_eq.mp (all_eq_true.mp all char (isDigest.2 char member))

variable {path : Text}

/-- An encoded path is decoded to itself. -/
theorem decodeBagitFrom_encodeBagitPath :
    decodeBagitFrom path (encodeBagitPath text) = .ok text := by
  induction text with
  | nil => rfl
  | cons char rest ih =>
    rw [encodeBagitPath, flatMap_cons]
    change decodeBagitFrom path (_ ++ encodeBagitPath rest) = _
    split_ifs with percent carriage newline
    · subst percent
      simp [decodeBagitFrom, ih, Except.map]
    · subst carriage
      simp [decodeBagitFrom, ih, Except.map]
    · subst newline
      simp [decodeBagitFrom, ih, Except.map]
    · simp [decodeBagitFrom, percent, ih, Except.map]

/-- An encoded path stays on its line. -/
theorem newline_notMem_encodeBagitPath :
    '\n' ∉ encodeBagitPath path ∧ '\r' ∉ encodeBagitPath path := by
  simp only [encodeBagitPath, mem_flatMap, not_exists, not_and]
  rw [← forall₂_and]
  intro char member
  split_ifs with percent carriage newline
  · decide
  · decide
  · decide
  · exact ⟨by simpa [eq_comm] using newline, by simpa [eq_comm] using carriage⟩

theorem joinLines_eq_intercalate : joinLines lines = ['\n'].intercalate (lines ++ [[]]) := by
  induction lines with
  | nil => rfl
  | cons line rest ih =>
    cases rest with
    | nil => simp [joinLines]
    | cons next others =>
      simp only [joinLines, reduceCtorEq, if_false] at ih ⊢
      rw [cons_append, cons_append, intercalate_cons_cons,
        intercalate_cons_cons, append_assoc, append_assoc, ih, ← append_assoc]
      rfl

/-- Joined lines are read back. -/
theorem textLines_joinLines (single : ∀ line ∈ lines, '\n' ∉ line ∧ '\r' ∉ line) :
    textLines (joinLines lines) = lines := by
  have split : (joinLines lines).splitOn '\n' = lines ++ [[]] := by
    rw [joinLines_eq_intercalate]
    refine splitOn_intercalate '\n' ?_ (by simp)
    intro line member
    rcases mem_append.mp member with inside | last
    · exact (single line inside).1
    · simp [mem_singleton.mp last]
  have stripped : ∀ line ∈ lines, stripCarriageReturn line = line := by
    intro line member
    refine if_neg fun last => (single line member).2 ?_
    exact mem_of_getLast? last
  simp only [textLines, split, getLast?_append, dropLast_concat]
  exact (map_congr_left stripped).trans (map_id lines)

omit unicode in
theorem length_le_length_encodeUtf8 (text : Text) : text.length ≤ (encodeUtf8 text).length := by
  induction text with
  | nil => exact Nat.le_refl _
  | cons char rest ih =>
    have positive := char.utf8Size_pos
    rw [encodeUtf8, flatMap_cons, length_append, String.length_utf8EncodeChar, length_cons]
    rw [encodeUtf8] at ih
    omega

/-- The checks of a line that a manifest writer has written. -/
theorem readChecksumLine_checksumLine
    (isDigest : IsDigest digest)
    (some : encodeBagitPath path ≠ [])
    (solid : (encodeBagitPath path).head?.any isBlank = false) :
    readChecksumLine unicode payloadManifest number (checksumLine digest path) =
      (checksumPath unicode payloadManifest (encodeBagitPath path)).map
        fun relpath => (relpath, digest) := by
  have length := isDigest.1
  have first : (checksumLine digest path).take 64 = digest := by
    rw [← length]
    exact take_left
  have rest : (checksumLine digest path).drop 64 = ' ' :: ' ' :: encodeBagitPath path := by
    rw [← length]
    exact drop_left
  have encoded : (' ' :: ' ' :: encodeBagitPath path).dropWhile isBlank =
      encodeBagitPath path := by
    obtain ⟨char, others, same⟩ := exists_cons_of_ne_nil some
    rw [same] at solid ⊢
    have blank : isBlank char = false := by simpa using solid
    simp [blank, show isBlank ' ' = true by decide]
  have long : ¬ (encodeUtf8 (checksumLine digest path)).length < 66 := by
    have bound := length_le_length_encodeUtf8 (checksumLine digest path)
    have total : 66 ≤ (checksumLine digest path).length := by
      rw [checksumLine, length_append, length_cons, length_cons]
      omega
    omega
  rw [readChecksumLine, if_neg long, first, rest, encoded,
    isDigest.all_isAsciiHexdigit, isDigest.asciiLowercase_eq]
  simp [some, isBlank]

section Written

variable {Row : Type*} (payloadManifest : Bool) {rows : List Row}
  {digest path relpath : Row → Text} (isDigest : ∀ row ∈ rows, IsDigest (digest row))
  (encoded : ∀ row ∈ rows, encodeBagitPath (path row) ≠ [] ∧
    (encodeBagitPath (path row)).head?.any isBlank = false)
  (accepted : ∀ row ∈ rows, checksumPath unicode payloadManifest (encodeBagitPath (path row)) =
      .ok (relpath row))

include isDigest encoded accepted

/-- The lines of a manifest that a writer has written are read back one by one. -/
theorem readChecksumLines_map_checksumLine (number : Nat) :
    readChecksumLines unicode payloadManifest number
        (rows.map fun row => checksumLine (digest row) (path row)) =
      .ok (rows.map fun row => (relpath row, digest row)) := by
  induction rows generalizing number with
  | nil => rfl
  | cons row rest ih =>
    have here := mem_cons_self (a := row) (l := rest)
    have some : checksumLine (digest row) (path row) ≠ [] := by simp [checksumLine]
    rw [map_cons, readChecksumLines, if_neg some,
      readChecksumLine_checksumLine unicode
        (isDigest row here) (encoded row here).1 (encoded row here).2,
      accepted row here,
      ih (fun row member => isDigest row (mem_cons_of_mem _ member))
        (fun row member => encoded row (mem_cons_of_mem _ member))
        (fun row member => accepted row (mem_cons_of_mem _ member))]
    rfl

/-- The text of a manifest that a writer has written is read back. -/
theorem checksumEntries_joinLines :
    checksumEntries unicode payloadManifest
        (joinLines (rows.map fun row => checksumLine (digest row) (path row))) =
      .ok (rows.map fun row => (relpath row, digest row)) := by
  have single : ∀ line ∈ rows.map fun row => checksumLine (digest row) (path row),
      '\n' ∉ line ∧ '\r' ∉ line := by
    intro line member
    obtain ⟨row, rowMember, rfl⟩ := mem_map.mp member
    have noNewline : '\n' ∉ lowerHexDigits := by decide
    have noCarriage : '\r' ∉ lowerHexDigits := by decide
    obtain ⟨newline, carriage⟩ := newline_notMem_encodeBagitPath
    simp only [checksumLine, mem_append, mem_cons, not_or]
    refine ⟨⟨fun member => ?_, by decide, by decide, newline⟩,
      fun member => ?_, by decide, by decide, carriage⟩
    · exact noNewline ((isDigest row rowMember).2 _ member)
    · exact noCarriage ((isDigest row rowMember).2 _ member)
  rw [checksumEntries, textLines_joinLines single]
  exact readChecksumLines_map_checksumLine unicode payloadManifest isDigest encoded accepted 1

end Written

/-- A payload path of canonical components passes through a manifest line. -/
theorem checksumPath_payload
    {parts : List Text}
    (canonical : ∀ part ∈ parts, CanonicalPart unicode part)
    (some : parts ≠ []) :
    checksumPath unicode true (encodeBagitPath ("data/".toList ++ ['/'].intercalate parts)) =
      .ok (['/'].intercalate parts) := by
  rw [checksumPath, decodeBagitPath, decodeBagitFrom_encodeBagitPath]
  change (canonicalizePayloadManifestPath unicode _).mapError _ = _
  rw [canonicalizePayloadManifestPath_join canonical some]
  rfl

theorem encodeBagitPath_payload : encodeBagitPath ("data/".toList ++ path) ≠ [] ∧
      (encodeBagitPath ("data/".toList ++ path)).head?.any isBlank = false :=
  ⟨cons_ne_nil _ _, rfl⟩

/-! ## Writing and reading labels -/

/-- A printable ASCII character that is not a blank. -/
def isSolid (char : Char) : Bool := 0x21 ≤ char.toNat && char.toNat < 0x7F

theorem isWhitespace_of_isSolid (solid : isSolid char = true) :
    unicode.isWhitespace char = false := by
  simp only [isSolid, Bool.and_eq_true, decide_eq_true_eq] at solid
  have notBlank : char ≠ ' ' := by
    rintro rfl
    exact absurd solid.1 (by decide)
  rw [unicode.whitespace_ascii char (by omega) solid.2, decide_eq_false notBlank]

theorem dropWhile_of_isSolid {text : Text} (solid : text.all isSolid = true) :
    text.dropWhile unicode.isWhitespace = text := by
  cases text with
  | nil => rfl
  | cons char rest =>
    rw [all_cons, Bool.and_eq_true] at solid
    exact dropWhile_cons_of_neg (by
      simp [isWhitespace_of_isSolid unicode solid.1])

/-- Solid text has nothing to trim. -/
theorem trim_of_isSolid {text : Text} (solid : text.all isSolid = true) :
    trim unicode text = text := by
  rw [trim, dropWhile_of_isSolid unicode solid,
    dropWhile_of_isSolid unicode (by rwa [all_reverse]), reverse_reverse]

/-- The blank before a value is trimmed. -/
theorem trim_blank_cons : trim unicode (' ' :: text) = trim unicode text := by
  have blank : unicode.isWhitespace ' ' = true := by
    rw [unicode.whitespace_ascii ' ' (by decide) (by decide)]
    decide
  rw [trim, dropWhile_cons_of_pos blank, trim]

/-- Text that can be the label of a line. -/
def IsLabel (label : Text) : Prop := label ≠ [] ∧ label.all isSolid = true ∧ ':' ∉ label

instance : DecidablePred IsLabel := fun _ => inferInstanceAs (Decidable (_ ∧ _))

/-- A line of `bag-info.txt`. -/
def labelLine (field : Text × Text) : Text := field.1 ++ ':' :: ' ' :: field.2

/-- Lines with labels are read one by one, each into its label. -/
theorem readBagInfoLines_map_labelLine
    {fields : List (Text × Text)}
    (labels : ∀ field ∈ fields, IsLabel field.1) :
    readBagInfoLines unicode number currentKey result (fields.map labelLine) =
      .ok ((fields.map fun field => (field.1, trim unicode field.2)).foldl
        (fun map entry => OrderedMap.insert entry.1 entry.2 map) result) := by
  induction fields generalizing number currentKey result with
  | nil => rfl
  | cons field rest ih =>
    obtain ⟨some, solid, noColon⟩ := labels field mem_cons_self
    have isLine : labelLine field ≠ [] := by simp [labelLine]
    have colon : ':' ∈ labelLine field := by simp [labelLine]
    have noBlank : (labelLine field).head?.any unicode.isWhitespace = false := by
      obtain ⟨char, others, same⟩ := exists_cons_of_ne_nil some
      rw [same, all_cons, Bool.and_eq_true] at solid
      simp [labelLine, same, isWhitespace_of_isSolid unicode solid.1]
    have before : ∀ char ∈ field.1, decide (char ≠ ':') = true := fun char member =>
      decide_eq_true fun same => noColon (same ▸ member)
    have label : (labelLine field).takeWhile (· ≠ ':') = field.1 := by
      rw [labelLine, takeWhile_append_of_pos before]
      simp
    have value : ((labelLine field).dropWhile (· ≠ ':')).drop 1 = ' ' :: field.2 := by
      rw [labelLine, dropWhile_append_of_pos before]
      simp
    rw [map_cons, readBagInfoLines.eq_def]
    dsimp only
    rw [if_neg isLine, noBlank]
    cases currentKey <;>
    · dsimp only
      rw [if_pos colon, label, value, trim_of_isSolid unicode solid, if_neg some,
        trim_blank_cons, ih fun field member => labels field (mem_cons_of_mem _ member)]
      rfl

/-- The labels of a `bag-info.txt` that a writer has written are read back. -/
theorem readBagInfo_joinLines
    {fields : List (Text × Text)}
    (labels : ∀ field ∈ fields, IsLabel field.1)
    (single : ∀ field ∈ fields, '\n' ∉ field.2 ∧ '\r' ∉ field.2) :
    readBagInfo unicode (joinLines (fields.map labelLine)) = .ok (OrderedMap.collect
        (fields.map fun field => (field.1, trim unicode field.2))) := by
  have lines : ∀ line ∈ fields.map labelLine, '\n' ∉ line ∧ '\r' ∉ line := by
    intro line member
    obtain ⟨field, fieldMember, rfl⟩ := mem_map.mp member
    obtain ⟨-, solid, -⟩ := labels field fieldMember
    obtain ⟨newline, carriage⟩ := single field fieldMember
    have outside : ∀ char, isSolid char = false → char ∉ field.1 :=
      fun char notSolid inside => by
        rw [all_eq_true.mp solid char inside] at notSolid
        cases notSolid
    simp only [labelLine, mem_append, mem_cons, not_or]
    exact ⟨⟨outside _ (by decide), by decide, by decide, newline⟩,
      outside _ (by decide), by decide, by decide, carriage⟩
  rw [readBagInfo, textLines_joinLines lines]
  exact readBagInfoLines_map_labelLine unicode labels

end Receive
end Sutradhara
