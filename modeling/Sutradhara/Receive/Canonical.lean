import Sutradhara.Foundation.Raising
import Sutradhara.Receive.MemberName

/-!
# Canonical member paths

A path below a payload root is canonicalised component by component: a name that
is UTF-8 is brought to NFC and escaped, any other name is escaped byte by byte.
A manifest path is split at its slashes, each component is unescaped and the same
canonical form is taken, after one leading `data/` has been dropped.
-/

namespace Sutradhara
namespace Receive

open Foundation.Raising List

/-- Text, character by character. -/
abbrev Text := List Char

/-- `str.encode("utf-8")`. -/
def encodeUtf8 (text : Text) : Bytes := text.flatMap String.utf8EncodeChar

/-- Text that can be one component of a path. -/
def ProperText (text : Text) : Prop := text ≠ [] ∧ text ≠ ['.'] ∧ text ≠ ['.', '.'] ∧ '/' ∉ text

instance : DecidablePred ProperText := fun _ => inferInstanceAs (Decidable (_ ∧ _))

/-- Bytes that can name a directory entry: neither empty nor `.` nor `..`, without
a slash. -/
def ProperBytes (raw : Bytes) : Prop := raw ≠ [] ∧ raw ≠ [0x2E] ∧ raw ≠ [0x2E, 0x2E] ∧ 0x2F ∉ raw

instance : DecidablePred ProperBytes := fun _ => inferInstanceAs (Decidable (_ ∧ _))

/-- The name of a directory entry. -/
structure FileName where
  bytes : Bytes
  proper : ProperBytes bytes
  deriving DecidableEq

/-- The Unicode tables that the receive package reads. -/
structure Unicode where
  /-- Normalization form C. -/
  nfc : Text → Text
  /-- `str::to_lowercase`. -/
  lowercase : Text → Text
  /-- `char::is_whitespace`. -/
  isWhitespace : Char → Bool
  nfc_nfc : ∀ text, nfc (nfc text) = nfc text
  proper_nfc : ∀ text, ProperText text → ProperText (nfc text)
  whitespace_ascii : ∀ char, 0x20 ≤ char.toNat → char.toNat < 0x7F →
    isWhitespace char = decide (char = ' ')

variable (unicode : Unicode)

/-- `canonical_component_from_bytes`. -/
def canonicalComponentFromBytes (raw : Bytes) : Text :=
  match decodeUtf8 raw with
  | some text => escapeMemberName (encodeUtf8 (unicode.nfc text))
  | none => escapeMemberName raw

/-- Why a path has no canonical form. -/
inductive PathError
  | empty
  | parent
  | invalidEscape (component : Text)
  | absolute (path : Text)
  | notPayload (path : Text)
  deriving DecidableEq

/-- `join_canonical_parts`. -/
def joinCanonicalParts (parts : List Text) : Except PathError Text :=
  if parts = [] then .error .empty else .ok (['/'].intercalate parts)

/-- `canonicalize_filesystem_path`, for a path given by its names below the
root. -/
def canonicalizeFilesystemPath (names : List FileName) : Except PathError Text :=
  joinCanonicalParts (names.map fun name => canonicalComponentFromBytes unicode name.bytes)

/-- The loop of `canonicalize_manifest_components`. -/
def canonicalManifestParts : List Text → Except PathError (List Text)
  | [] => .ok []
  | component :: rest =>
    if component = [] ∨ component = ['.'] then canonicalManifestParts rest
    else if component = ['.', '.'] then .error .parent
    else
      match unescapeMemberName component with
      | .error _ => .error (.invalidEscape component)
      | .ok raw =>
        (canonicalManifestParts rest).map (canonicalComponentFromBytes unicode raw :: ·)

/-- `canonicalize_manifest_components`. -/
def canonicalizeManifestComponents (components : List Text) :
    Except PathError Text :=
  (canonicalManifestParts unicode components).bind joinCanonicalParts

/-- Drop every leading `./`. -/
def stripDotSlash : Text → Text
  | '.' :: '/' :: rest => stripDotSlash rest
  | text => text

/-- Drop one leading `data/`. -/
def stripData : Text → Text
  | 'd' :: 'a' :: 't' :: 'a' :: '/' :: rest => rest
  | text => text

/-- `canonicalize_manifest_path`. -/
def canonicalizeManifestPath (raw : Text) : Except PathError Text :=
  canonicalizeManifestComponents unicode
    ((stripData ((stripDotSlash raw).dropWhile (· = '/'))).splitOn '/')

/-- `canonicalize_payload_manifest_path`. -/
def canonicalizePayloadManifestPath (decodedPath : Text) : Except PathError Text :=
  let value := stripDotSlash decodedPath
  if value.head? = some '/' then .error (.absolute decodedPath)
  else if "data/".toList.isPrefixOf value then canonicalizeManifestPath unicode value
  else .error (.notPayload decodedPath)

/-! ## Names in UTF-8 -/

omit unicode in
/-- Encoded text decodes to itself. -/
theorem decodeUtf8_encodeUtf8 (text : Text) : decodeUtf8 (encodeUtf8 text) = some text := by
  have bytes : (encodeUtf8 text).toByteArray = (String.ofList text).toByteArray := by
    rw [String.toByteArray_ofList]
    rfl
  unfold decodeUtf8 String.fromUTF8?
  rw [bytes, dif_pos (String.ofList text).isValidUTF8, Option.map_some]
  exact congrArg some String.toList_ofList

theorem encodeUtf8_injective : Function.Injective encodeUtf8 := by
  intro first second same
  have decoded := decodeUtf8_encodeUtf8 first
  rw [same, decodeUtf8_encodeUtf8, Option.some.injEq] at decoded
  exact decoded.symm

/-- A slash among the bytes of a character is that character. -/
theorem eq_slash_of_mem_utf8EncodeChar (member : 0x2F ∈ String.utf8EncodeChar char) :
    char = '/' := by
  have value : char.val.toNat = char.toNat := rfl
  simp only [String.utf8EncodeChar] at member
  split_ifs at member with one two three
  all_goals
    simp only [mem_cons, not_mem_nil, or_false, ← UInt8.toNat_inj, UInt8.toNat_ofNat'] at member
  · apply Char.toNat_inj.mp
    have slash : ('/' : Char).toNat = 47 := rfl
    have byte : (0x2F : UInt8).toNat = 47 := rfl
    omega
  all_goals
    have byte : (0x2F : UInt8).toNat = 47 := rfl
    omega

theorem slash_mem_encodeUtf8_iff : 0x2F ∈ encodeUtf8 text ↔ '/' ∈ text := by
  rw [encodeUtf8, mem_flatMap]
  constructor
  · rintro ⟨char, member, byte⟩
    rwa [← eq_slash_of_mem_utf8EncodeChar byte]
  · intro member
    exact ⟨'/', member, by decide⟩

theorem properBytes_encodeUtf8_iff (text : Text) :
    ProperBytes (encodeUtf8 text) ↔ ProperText text := by
  have empty : encodeUtf8 text = [] ↔ text = [] := encodeUtf8_injective.eq_iff' rfl
  have dot : encodeUtf8 text = [0x2E] ↔ text = ['.'] := encodeUtf8_injective.eq_iff' (by decide)
  have dots : encodeUtf8 text = [0x2E, 0x2E] ↔ text = ['.', '.'] :=
    encodeUtf8_injective.eq_iff' (by decide)
  rw [ProperBytes, ProperText, Ne, empty, Ne, dot, Ne, dots, slash_mem_encodeUtf8_iff]

theorem encodeUtf8_of_decodeUtf8 (decoded : decodeUtf8 raw = some text) : encodeUtf8 text = raw :=
  flatMap_utf8EncodeChar_of_decodeUtf8 decoded

/-! ## Escaped components -/

theorem slash_mem_of_token (isToken : Token token bytes) (member : '/' ∈ token) : 0x2F ∈ bytes := by
  cases isToken with
  | doubled => simp at member
  | hex byte =>
    have bound : byte.toNat < 256 := byte.toNat_lt
    have notDigit : ∀ digit < 16, '/' ≠ Nat.digitChar digit := by decide
    simp only [hexEscape, mem_cons, not_mem_nil, or_false] at member
    rcases member with bad | bad | bad | bad
    · cases bad
    · cases bad
    · exact absurd bad (notDigit _ (by omega))
    · exact absurd bad (notDigit _ (by omega))
  | plain char notBackslash notControl =>
    rw [mem_singleton] at member
    rw [← member]
    decide

/-- Escaping a proper name gives a proper component. -/
theorem properText_escapeMemberName (proper : ProperBytes raw) :
    ProperText (escapeMemberName raw) := by
  have read := unescapeFrom_escapeMemberName 0 raw
  obtain ⟨notEmpty, notDot, notDots, noSlash⟩ := proper
  refine ⟨fun same => ?_, fun same => ?_, fun same => ?_, fun member => ?_⟩
  · rw [same] at read
    exact notEmpty (Except.ok.inj read).symm
  · rw [same] at read
    exact notDot (Except.ok.inj read).symm
  · rw [same] at read
    exact notDots (Except.ok.inj read).symm
  · obtain ⟨token, bytes, isToken, inside, within⟩ := exists_token_of_mem_escapeMemberName member
    exact noSlash (within (slash_mem_of_token isToken inside))

/-- A printable ASCII character other than the backslash. -/
def isPlain (char : Char) : Bool := 0x20 ≤ char.toNat && char.toNat < 0x7F && char != '\\'

theorem escapeRound_of_isPlain (plain : isPlain char = true) :
    String.utf8EncodeChar char = [UInt8.ofNat char.toNat] ∧
      escapeRound (UInt8.ofNat char.toNat) rest = ([char], rest) := by
  simp only [isPlain, Bool.and_eq_true, decide_eq_true_eq, bne_iff_ne] at plain
  obtain ⟨⟨low, high⟩, notBackslash⟩ := plain
  have value : char.val.toNat = char.toNat := rfl
  have byte : (UInt8.ofNat char.toNat).toNat = char.toNat := by
    rw [UInt8.toNat_ofNat']
    omega
  have single : utf8SequenceLen (UInt8.ofNat char.toNat) = 1 := by
    rw [utf8SequenceLen, if_pos (by omega)]
  have other : UInt8.ofNat char.toNat ≠ 0x5C := by
    intro same
    have number : char.toNat = ('\\' : Char).toNat := by
      rw [← byte, same]
      rfl
    exact notBackslash (Char.toNat_inj.mp number)
  have free : mustEscapeByte (UInt8.ofNat char.toNat) = false := by
    simp only [mustEscapeByte, Bool.or_eq_false_iff, decide_eq_false_iff_not]
    omega
  constructor
  · rw [String.utf8EncodeChar, value, if_pos (by omega)]
  · simp [escapeRound, other, free, single, byte]

/-- A component in canonical form: the escaped text of a proper name that has this
text as its own canonical form. -/
def CanonicalPart (part : Text) : Prop :=
  ∃ raw, ProperBytes raw ∧ part = escapeMemberName raw ∧
    canonicalComponentFromBytes unicode raw = part

theorem canonicalPart_canonicalComponentFromBytes (name : FileName) :
    CanonicalPart unicode (canonicalComponentFromBytes unicode name.bytes) := by
  cases decoded : decodeUtf8 name.bytes with
  | none =>
    refine ⟨name.bytes, name.proper, ?_, rfl⟩
    simp only [canonicalComponentFromBytes, decoded]
  | some text =>
    have proper : ProperText text := by
      rw [← properBytes_encodeUtf8_iff, encodeUtf8_of_decodeUtf8 decoded]
      exact name.proper
    refine ⟨encodeUtf8 (unicode.nfc text), ?_, ?_, ?_⟩
    · rw [properBytes_encodeUtf8_iff]
      exact unicode.proper_nfc text proper
    · simp only [canonicalComponentFromBytes, decoded]
    · simp only [canonicalComponentFromBytes, decoded, decodeUtf8_encodeUtf8, unicode.nfc_nfc]

variable {unicode}

theorem CanonicalPart.properText (canonical : CanonicalPart unicode part) : ProperText part := by
  obtain ⟨raw, proper, rfl, same⟩ := canonical
  exact properText_escapeMemberName proper

/-- Components that are proper and can be read are replaced one by one. -/
theorem canonicalManifestParts_eq
    (proper : ∀ part ∈ parts, ProperText part)
    (read : ∀ part ∈ parts, ∃ raw, unescapeMemberName part = .ok raw ∧
      canonicalComponentFromBytes unicode raw = form part) :
    canonicalManifestParts unicode parts = .ok (parts.map form) := by
  induction parts with
  | nil => rfl
  | cons part rest ih =>
    obtain ⟨notEmpty, notDot, notDots, -⟩ := proper part mem_cons_self
    obtain ⟨raw, isRaw, same⟩ := read part mem_cons_self
    rw [canonicalManifestParts, if_neg (by simp [notEmpty, notDot]), if_neg notDots, isRaw]
    dsimp only
    rw [ih (fun part member => proper part (mem_cons_of_mem _ member))
      (fun part member => read part (mem_cons_of_mem _ member)), same]
    rfl

/-- Canonical components stay as they are. -/
theorem canonicalManifestParts_of_canonical
    (canonical : ∀ part ∈ parts, CanonicalPart unicode part) :
    canonicalManifestParts unicode parts = .ok parts := by
  refine (canonicalManifestParts_eq (fun part member => (canonical part member).properText)
    fun part member => ?_).trans (by rw [map_id])
  obtain ⟨raw, -, rfl, same⟩ := canonical part member
  exact ⟨raw, unescapeFrom_escapeMemberName 0 raw, same⟩

/-! ## Paths of canonical components -/

/-- Drop the first of several components when it is `data`. -/
def withoutData : List Text → List Text
  | ['d', 'a', 't', 'a'] :: second :: rest => second :: rest
  | parts => parts

variable {parts : List Text}

section

variable (proper : ∀ part ∈ parts, ProperText part)
include proper

theorem splitOn_join (some : parts ≠ []) : (['/'].intercalate parts).splitOn '/' = parts :=
  splitOn_intercalate '/' (fun part member => (proper part member).2.2.2) some

/-- Text whose first component is known begins with it and a slash, or is it. -/
theorem head_eq_of_join
    (some : parts ≠ [])
    {first rest : Text}
    (noSlash : '/' ∉ first)
    (same : ['/'].intercalate parts = first ++ '/' :: rest) :
    parts = first :: rest.splitOn '/' := by
  rw [← splitOn_join proper some, same, splitOn_append_cons_self_of_not_mem noSlash]

/-- A path of proper components does not begin with `./`. -/
theorem stripDotSlash_join (some : parts ≠ []) :
    stripDotSlash (['/'].intercalate parts) = ['/'].intercalate parts := by
  unfold stripDotSlash
  split
  next rest same =>
    have dot := @head_eq_of_join parts proper some ['.'] rest (by decide) same
    exact absurd rfl (proper ['.'] (by rw [dot]; exact mem_cons_self)).2.1
  · rfl

/-- A path of proper components does not begin with a slash. -/
theorem head?_join_ne_slash (some : parts ≠ []) :
    (['/'].intercalate parts).head? ≠ Option.some '/' := by
  intro slash
  obtain ⟨rest, same⟩ := head?_eq_some_iff.mp slash
  have empty := @head_eq_of_join parts proper some [] rest (by decide) same
  exact absurd rfl (proper [] (by rw [empty]; exact mem_cons_self)).1

end

variable {text : Text}

theorem dropWhile_slash_of_head?_ne (noSlash : text.head? ≠ some '/') :
    text.dropWhile (· = '/') = text := by
  cases text with
  | nil => rfl
  | cons char rest =>
    have other : char ≠ '/' := fun same => noSlash (by rw [same]; rfl)
    rw [dropWhile_cons_of_neg (by simp [other])]

theorem withoutData_subset : withoutData parts ⊆ parts := by
  unfold withoutData
  split
  · exact subset_cons_self _ _
  · exact List.Subset.refl _

theorem withoutData_ne_nil (some : parts ≠ []) : withoutData parts ≠ [] := by
  unfold withoutData
  split
  · exact cons_ne_nil _ _
  · exact some

/-- One leading `data` is dropped from a path of proper components. -/
theorem stripData_join (proper : ∀ part ∈ parts, ProperText part) (some : parts ≠ []) :
    stripData (['/'].intercalate parts) = ['/'].intercalate (withoutData parts) := by
  unfold stripData
  split
  next rest same =>
    have data := @head_eq_of_join parts proper some ['d', 'a', 't', 'a'] rest (by decide) same
    obtain ⟨second, more, tail⟩ := exists_cons_of_ne_nil (splitOn_ne_nil '/' rest)
    rw [data, tail, withoutData, ← tail, intercalate_splitOn]
  next other =>
    have kept : withoutData parts = parts := by
      unfold withoutData
      split
      next second rest =>
        refine absurd ?_ (other (['/'].intercalate (second :: rest)))
        rfl
      · rfl
    rw [kept]

/-- A path of proper components is read component by component. -/
theorem canonicalizeManifestPath_eq
    (proper : ∀ part ∈ parts, ProperText part)
    (some : parts ≠ []) : canonicalizeManifestPath unicode (['/'].intercalate parts) =
      canonicalizeManifestComponents unicode (withoutData parts) := by
  rw [canonicalizeManifestPath, stripDotSlash_join proper some,
    dropWhile_slash_of_head?_ne (head?_join_ne_slash proper some), stripData_join proper some,
    splitOn_join (fun part member => proper part (withoutData_subset member))
      (withoutData_ne_nil some)]

/-- A path of canonical components only loses a leading `data`. -/
theorem canonicalizeManifestPath_join
    (canonical : ∀ part ∈ parts, CanonicalPart unicode part)
    (some : parts ≠ []) : canonicalizeManifestPath unicode (['/'].intercalate parts) =
      .ok (['/'].intercalate (withoutData parts)) := by
  rw [canonicalizeManifestPath_eq (fun part member => (canonical part member).properText) some,
    canonicalizeManifestComponents, canonicalManifestParts_of_canonical fun part member =>
      canonical part (withoutData_subset member)]
  exact if_neg (withoutData_ne_nil some)

/-- A payload path of canonical components is read back below `data/`. -/
theorem canonicalizePayloadManifestPath_join
    (canonical : ∀ part ∈ parts, CanonicalPart unicode part)
    (some : parts ≠ []) :
    canonicalizePayloadManifestPath unicode
        ("data/".toList ++ ['/'].intercalate parts) =
      .ok (['/'].intercalate parts) := by
  have proper : ∀ part ∈ parts, ProperText part :=
    fun part member => (canonical part member).properText
  have path : canonicalizePayloadManifestPath unicode
      ("data/".toList ++ ['/'].intercalate parts) =
        canonicalizeManifestComponents unicode ((['/'].intercalate parts).splitOn '/') := rfl
  rw [path, splitOn_join proper some, canonicalizeManifestComponents,
    canonicalManifestParts_of_canonical canonical]
  exact if_neg some

/-! ## Plain components -/

/-- A character that needs no escape. -/
def isClean (char : Char) : Bool := char != '\\' && !isControl char

theorem escapeRound_of_isClean
    (clean : isClean char = true)
    (encoded : String.utf8EncodeChar char = first :: rest)
    (tail : Bytes) :
    escapeRound first (rest ++ tail) = ([char], tail) := by
  simp only [isClean, Bool.and_eq_true, bne_iff_ne, Bool.not_eq_true', isControl,
    Bool.or_eq_false_iff, decide_eq_false_iff_not] at clean
  obtain ⟨notBackslash, low, notDelete⟩ := clean
  have length := utf8SequenceLen_of_encoded encoded
  by_cases ascii : char.toNat < 0x80
  · have plain : isPlain char = true := by
      simp only [isPlain, Bool.and_eq_true, decide_eq_true_eq, bne_iff_ne]
      exact ⟨⟨by omega, by omega⟩, notBackslash⟩
    obtain ⟨single, round⟩ := escapeRound_of_isPlain plain
    rw [single] at encoded
    injection encoded with head more
    rw [← head, ← more]
    exact round
  · have size : 1 < (String.utf8EncodeChar char).length := by
      have value : char.val.toNat = char.toNat := rfl
      simp only [String.utf8EncodeChar]
      split_ifs
      · omega
      all_goals simp
    rw [encoded, length_cons] at size
    have wide : 0x80 ≤ first.toNat := by
      by_contra small
      rw [utf8SequenceLen, if_pos (by omega)] at length
      omega
    have other : first ≠ 0x5C := by
      rintro rfl
      exact absurd wide (by decide)
    have free : mustEscapeByte first = false := by
      simp only [mustEscapeByte, Bool.or_eq_false_iff, decide_eq_false_iff_not]
      omega
    have decoded : decodeUtf8 (first :: rest) = some [char] := by
      rw [← encoded, ← append_nil (String.utf8EncodeChar char)]
      exact decodeUtf8_encodeUtf8 [char]
    have taken : (first :: (rest ++ tail)).take (rest.length + 1) = first :: rest := by
      rw [take_succ_cons, take_left]
    have left : (first :: (rest ++ tail)).drop (rest.length + 1) = tail := by
      rw [drop_succ_cons, drop_left]
    have several : rest.length + 1 ≠ 1 := by omega
    have some : rest.length + 1 ≠ 0 := by omega
    simp only [escapeRound, other, free, length, taken, left, decoded, several, some,
      length_cons, if_true, if_false, Bool.false_eq_true]

theorem escapeMemberName_utf8EncodeChar_append (clean : isClean char = true) (tail : Bytes) :
    escapeMemberName (String.utf8EncodeChar char ++ tail) = char :: escapeMemberName tail := by
  obtain ⟨first, more, encoded⟩ := utf8EncodeChar_eq_cons char
  rw [encoded, cons_append, escapeMemberName, escapeRound_of_isClean clean encoded]
  rfl

/-- Text without a backslash and without control characters is escaped to
itself. -/
theorem escapeMemberName_of_isClean (clean : text.all isClean = true) :
    escapeMemberName (encodeUtf8 text) = text := by
  induction text with
  | nil => rw [encodeUtf8, flatMap_nil, escapeMemberName]
  | cons char rest ih =>
    rw [all_cons, Bool.and_eq_true] at clean
    rw [encodeUtf8, flatMap_cons, escapeMemberName_utf8EncodeChar_append clean.1]
    exact congrArg (char :: ·) (ih clean.2)

/-- The canonical form of a name whose normal form is clean text. -/
theorem canonicalComponentFromBytes_encodeUtf8 (clean : (unicode.nfc text).all isClean = true) :
    canonicalComponentFromBytes unicode (encodeUtf8 text) = unicode.nfc text := by
  simp only [canonicalComponentFromBytes, decodeUtf8_encodeUtf8]
  exact escapeMemberName_of_isClean clean

/-- Clean text is read as its own bytes. -/
theorem unescapeFrom_of_isClean (clean : text.all isClean = true) (index : Nat) :
    unescapeFrom index text = .ok (encodeUtf8 text) := by
  have read := unescapeFrom_escapeMemberName index (encodeUtf8 text)
  rwa [escapeMemberName_of_isClean clean] at read

/-- Text without a backslash that is read at all is clean. -/
theorem isClean_of_unescapeFrom
    {index : Nat}
    {raw : Bytes}
    (noBackslash : '\\' ∉ text)
    (read : unescapeFrom index text = .ok raw) : text.all isClean = true := by
  fun_induction unescapeFrom index text generalizing raw
  case case1 => rfl
  case case7 => cases read
  case case8 char rest other control ih =>
    obtain ⟨tail, isTail, rfl⟩ := exists_of_map_eq_ok read
    rw [all_cons, ih (fun member => noBackslash (mem_cons_of_mem _ member)) isTail]
    simp [isClean, other, control]
  all_goals exact absurd mem_cons_self noBackslash

/-- The canonical form of a name that is given as text. -/
def canonicalText (unicode : Unicode) (part : Text) : Text :=
  canonicalComponentFromBytes unicode (encodeUtf8 part)

theorem canonicalPart_canonicalText (proper : ProperText part) :
    CanonicalPart unicode (canonicalText unicode part) :=
  canonicalPart_canonicalComponentFromBytes unicode
    ⟨encodeUtf8 part, (properBytes_encodeUtf8_iff part).mpr proper⟩

/-- A canonical component without a backslash is clean. -/
theorem CanonicalPart.isClean
    (canonical : CanonicalPart unicode part)
    (noBackslash : '\\' ∉ part) : part.all isClean = true := by
  obtain ⟨raw, -, escaped, -⟩ := canonical
  refine @isClean_of_unescapeFrom part 0 raw noBackslash ?_
  rw [escaped]
  exact unescapeFrom_escapeMemberName 0 raw

/-- A clean canonical component is the canonical form of its own text. -/
theorem CanonicalPart.canonicalText_eq
    (canonical : CanonicalPart unicode part)
    (clean : part.all Receive.isClean = true) : canonicalText unicode part = part := by
  obtain ⟨raw, -, escaped, same⟩ := canonical
  have read := unescapeFrom_escapeMemberName 0 raw
  rw [← escaped, unescapeFrom_of_isClean clean 0] at read
  rw [canonicalText, Except.ok.inj read, same]

/-- The canonical form of a path of clean components that is not below `data`. -/
theorem canonicalizeManifestPath_of_isClean
    (proper : ∀ part ∈ parts, ProperText part)
    (some : parts ≠ [])
    (clean : ∀ part ∈ parts, part.all isClean = true)
    (notData : withoutData parts = parts) :
    canonicalizeManifestPath unicode (['/'].intercalate parts) =
      .ok (['/'].intercalate (parts.map (canonicalText unicode))) := by
  rw [canonicalizeManifestPath_eq proper some, notData, canonicalizeManifestComponents,
    canonicalManifestParts_eq proper fun part member =>
      ⟨_, unescapeFrom_of_isClean (clean part member) 0, rfl⟩]
  exact if_neg (by simp [some])

/-! ## What the decoder accepts -/

/-- The decoder accepts the texts that the encoder writes, and no others. -/
def UnescapeLaw : Prop :=
  ∀ text, ((∃ raw, unescapeMemberName text = .ok raw) ↔ ∃ raw, text = escapeMemberName raw) ∧
    ∀ raw, unescapeMemberName text = .ok raw → escapeMemberName raw = text

/-- The escape of a byte that needs none is read. -/
theorem not_unescapeLaw : ¬ UnescapeLaw := by
  intro law
  have read : unescapeMemberName "\\x41".toList = .ok [0x41] := by decide
  have same := (law _).2 _ read
  rw [escapeMemberName] at same
  exact absurd same (by decide)

/-- A digit is the character of its value. -/
theorem digitChar_of_lowerHexValue (read : lowerHexValue char = some value) :
    value < 16 ∧ Nat.digitChar value = char := by
  have member : char ∈ lowerHexDigits := by
    by_contra absent
    rw [lowerHexValue, idxOf?_eq_none_iff.mpr absent] at read
    cases read
  have digits : lowerHexDigits = (range 16).map Nat.digitChar := by decide
  rw [digits, mem_map] at member
  obtain ⟨digit, small, rfl⟩ := member
  rw [mem_range] at small
  rw [lowerHexValue_digitChar small, Option.some.injEq] at read
  exact ⟨read ▸ small, by rw [read]⟩

/-- A pair of digits is the escape of its byte. -/
theorem hexEscape_of_lowerHexPair (read : lowerHexPair high low = some byte) :
    hexEscape byte = ['\\', 'x', high, low] := by
  simp only [lowerHexPair, Option.bind_eq_some_iff, Option.map_eq_some_iff] at read
  obtain ⟨first, isFirst, second, isSecond, rfl⟩ := read
  obtain ⟨small, rfl⟩ := digitChar_of_lowerHexValue isFirst
  obtain ⟨small', rfl⟩ := digitChar_of_lowerHexValue isSecond
  rw [hexEscape, UInt8.toNat_ofNat', Nat.mod_eq_of_lt (by omega),
    Nat.mul_add_div (by decide), Nat.div_eq_of_lt small', Nat.mul_add_mod, Nat.mod_eq_of_lt small']
  rfl

/-- A text spells bytes with one token after another. -/
inductive Tokenized : Text → Bytes → Prop
  | nil : Tokenized [] []
  | cons
      {token rest : Text}
      {bytes raw : Bytes}
      (isToken : Token token bytes)
      (spells : Tokenized rest raw) :
      Tokenized (token ++ rest) (bytes ++ raw)

/-- An escape is needed for a control byte, and where no encoded character begins. -/
def Needed (byte : UInt8) (rest : Bytes) : Prop :=
  mustEscapeByte byte = true ∨ ∀ char, ¬ String.utf8EncodeChar char <+: byte :: rest

/-- Every `\xhh` of a text that spells bytes is needed before what it is followed by. -/
def EscapesNeeded (text : Text) : Prop :=
  ∀ before byte after first rest, text = before ++ (hexEscape byte ++ after) →
    Tokenized before first → Tokenized after rest → Needed byte rest

theorem Tokenized.unescapeFrom
    (spells : Tokenized text raw)
    (index : Nat) : unescapeFrom index text = .ok raw := by
  induction spells generalizing index with
  | nil => rw [Receive.unescapeFrom]
  | cons isToken _ ih => rw [isToken.unescapeFrom_append, ih, Except.map]

/-- What is read is spelled. -/
theorem tokenized_of_unescapeFrom (read : unescapeFrom index text = .ok raw) :
    Tokenized text raw := by
  fun_induction unescapeFrom index text generalizing raw
  case case1 =>
    cases read
    exact .nil
  case case3 rest ih =>
    obtain ⟨tail, isTail, rfl⟩ := exists_of_map_eq_ok read
    exact .cons .doubled (ih isTail)
  case case4 marker other high low rest byte pair ih =>
    obtain ⟨tail, isTail, rfl⟩ := exists_of_map_eq_ok read
    split_ifs at pair with isMarker
    subst isMarker
    have spells := (ih isTail).cons (.hex byte)
    rwa [hexEscape_of_lowerHexPair pair] at spells
  case case8 char rest other control ih =>
    obtain ⟨tail, isTail, rfl⟩ := exists_of_map_eq_ok read
    exact .cons (.plain char other (by simpa using control)) (ih isTail)
  all_goals cases read

theorem Tokenized.append
    (spells : Tokenized text raw)
    (after : Tokenized more rest) : Tokenized (text ++ more) (raw ++ rest) := by
  induction spells with
  | nil => exact after
  | cons isToken _ ih =>
    rw [append_assoc, append_assoc]
    exact .cons isToken ih

/-- Text begins with one token only. -/
theorem Token.eq_of_append_eq
    (isToken : Token token bytes)
    (isOther : Token other others)
    (same : token ++ text = other ++ more) : token = other ∧ text = more := by
  cases isToken <;> cases isOther <;> simp_all [hexEscape] <;> grind

/-- A character that needs no escape begins with a byte that needs none. -/
theorem isClean_of_encoded
    (encoded : String.utf8EncodeChar char = first :: rest)
    (notBackslash : char ≠ '\\')
    (free : mustEscapeByte first = false) : isClean char = true := by
  have value : char.val.toNat = char.toNat := rfl
  simp only [isClean, isControl, Bool.and_eq_true, bne_iff_ne, Bool.not_eq_true']
  refine ⟨notBackslash, ?_⟩
  by_cases ascii : char.toNat ≤ 0x7F
  · rw [String.utf8EncodeChar, value, if_pos ascii] at encoded
    obtain ⟨rfl, -⟩ := cons.inj encoded
    rwa [mustEscapeByte, UInt8.toNat_ofNat', Nat.mod_eq_of_lt (by omega)] at free
  · simp only [Bool.or_eq_false_iff, decide_eq_false_iff_not]
    omega

/-- Where an escape is not needed, the encoder writes none. -/
theorem needed_of_escapeRound (escaped : (escapeRound byte rest).1 = hexEscape byte) :
    Needed byte rest := by
  by_contra unneeded
  rw [Needed, not_or, not_forall] at unneeded
  obtain ⟨free, char, begins⟩ := unneeded
  obtain ⟨tail, split⟩ := not_not.mp begins
  obtain ⟨first, more, encoded⟩ := utf8EncodeChar_eq_cons char
  rw [encoded, cons_append] at split
  obtain ⟨rfl, rfl⟩ := cons.inj split
  by_cases backslash : char = '\\'
  · subst backslash
    obtain ⟨rfl, -⟩ := cons.inj encoded
    rw [escapeRound, if_pos (by decide)] at escaped
    cases escaped
  · rw [escapeRound_of_isClean (isClean_of_encoded encoded backslash (by simpa using free))
      encoded] at escaped
    cases escaped

/-- Where an escape is needed, the encoder writes it. -/
theorem escapeRound_of_needed (needed : Needed byte rest) :
    escapeRound byte rest = (hexEscape byte, rest) := by
  by_cases control : mustEscapeByte byte = true
  · have other : byte ≠ 0x5C := by
      rintro rfl
      cases control
    rw [escapeRound, if_neg other, if_pos control]
  have none := needed.resolve_left control
  obtain ⟨taken, split, token⟩ := token_escapeRound byte rest
  generalize escapeRound byte rest = round at split token ⊢
  obtain ⟨written, left⟩ := round
  cases token with
  | doubled => exact absurd ⟨left, split.symm⟩ (none '\\')
  | hex =>
    cases split
    rfl
  | plain char => exact absurd ⟨left, split.symm⟩ (none char)

/-- Text whose escapes are needed is the escaped form of what it spells. -/
theorem Tokenized.escapeMemberName_eq
    (spells : Tokenized text raw)
    (needed : EscapesNeeded text) : escapeMemberName raw = text := by
  induction spells with
  | nil => rw [escapeMemberName]
  | @cons token text bytes raw isToken spells ih =>
    have later := ih fun before byte after first rest split isBefore =>
      needed (token ++ before) byte after (bytes ++ first) rest
        (by rw [split, append_assoc]) (.cons isToken isBefore)
    cases isToken with
    | doubled =>
      rw [singleton_append, escapeMemberName, escapeRound, if_pos rfl, later]
    | hex byte =>
      have round := escapeRound_of_needed (needed [] byte text [] raw rfl .nil spells)
      rw [singleton_append, escapeMemberName, round, later]
    | plain char notBackslash notControl =>
      rw [escapeMemberName_utf8EncodeChar_append (by simp [isClean, notBackslash, notControl]),
        later]
      rfl

/-- The escapes of an escaped name are needed. -/
theorem needed_of_escapeMemberName
    {after : Text}
    (spells : Tokenized before first)
    (follows : Tokenized after rest)
    (escaped : escapeMemberName (first ++ byte :: rest) = before ++ (hexEscape byte ++ after)) :
    Needed byte rest := by
  induction spells with
  | nil =>
    obtain ⟨taken, -, token⟩ := token_escapeRound byte rest
    rw [nil_append, escapeMemberName] at escaped
    exact needed_of_escapeRound (token.eq_of_append_eq (.hex byte) escaped).1
  | @cons token text bytes raw isToken spells ih =>
    obtain ⟨head, tail, isCons⟩ := exists_cons_of_ne_nil
      (show bytes ++ raw ++ byte :: rest ≠ [] by simp)
    obtain ⟨taken, -, isRound⟩ := token_escapeRound head tail
    rw [isCons, escapeMemberName, append_assoc] at escaped
    have later := (isRound.eq_of_append_eq isToken escaped).2
    -- both sides are read as the bytes after the token
    have read := unescapeFrom_escapeMemberName 0 (escapeRound head tail).2
    rw [later, (spells.append (follows.cons (.hex byte))).unescapeFrom 0] at read
    rw [← Except.ok.inj read] at later
    exact ih later

/-- A text is accepted exactly if it is an escaped form, exactly where all its escapes are
needed. -/
theorem unescapeMemberName_exact_iff (text : Text) :
    (((∃ raw, unescapeMemberName text = .ok raw) ↔ ∃ raw, text = escapeMemberName raw) ∧
      ∀ raw, unescapeMemberName text = .ok raw → escapeMemberName raw = text) ↔
    EscapesNeeded text := by
  constructor
  · rintro ⟨-, back⟩ before byte after first rest rfl isBefore isAfter
    have spells := isBefore.append (isAfter.cons (.hex byte))
    exact needed_of_escapeMemberName isBefore isAfter (back _ (spells.unescapeFrom 0))
  · intro needed
    have back : ∀ raw, unescapeMemberName text = .ok raw → escapeMemberName raw = text :=
      fun raw read => (tokenized_of_unescapeFrom read).escapeMemberName_eq needed
    refine ⟨⟨fun ⟨raw, read⟩ => ⟨raw, (back raw read).symm⟩, ?_⟩, back⟩
    rintro ⟨raw, rfl⟩
    exact ⟨raw, unescapeFrom_escapeMemberName 0 raw⟩

/-! ## Components that name files -/

/-- No component that is kept is the escape of a name that no file can have. -/
def ProperEscapes (components : List Text) : Prop :=
  ∀ component ∈ components, component ≠ [] → component ≠ ['.'] → component ≠ ['.', '.'] →
    ∀ raw ∈ (unescapeMemberName component).toOption, ProperBytes raw

theorem CanonicalPart.of_canonicalManifestParts
    (proper : ProperEscapes components)
    (read : canonicalManifestParts unicode components = .ok parts)
    (member : part ∈ parts) :
    CanonicalPart unicode part := by
  induction components generalizing parts with
  | nil =>
    cases read
    cases member
  | cons component rest ih =>
    obtain ⟨here, later⟩ := forall_mem_cons.mp proper
    rw [canonicalManifestParts] at read
    split_ifs at read with skipped parent
    · exact ih later read member
    · rw [not_or] at skipped
      split at read
      · cases read
      next raw isRaw =>
        obtain ⟨others, isOthers, rfl⟩ := exists_of_map_eq_ok read
        rcases mem_cons.mp member with rfl | member
        · exact canonicalPart_canonicalComponentFromBytes unicode
            ⟨raw, here skipped.1 skipped.2 parent raw (by rw [isRaw]; rfl)⟩
        · exact ih later isOthers member

/-! ## Tables and names for small cases -/

/-- Tables for text that is in normal form and in lower case. -/
def plainUnicode : Unicode where
  nfc := id
  lowercase := id
  isWhitespace := Char.isWhitespace
  nfc_nfc _ := rfl
  proper_nfc _ proper := proper
  whitespace_ascii char low high := by
    have others : char ≠ '\t' ∧ char ≠ '\r' ∧ char ≠ '\n' := by
      refine ⟨?_, ?_, ?_⟩ <;>
      · rintro rfl
        exact absurd low (by decide)
    simp [Char.isWhitespace, others]

def nameX : FileName := ⟨encodeUtf8 ['x'], by decide⟩

def nameData : FileName := ⟨encodeUtf8 "data".toList, by decide⟩

end Receive
end Sutradhara
