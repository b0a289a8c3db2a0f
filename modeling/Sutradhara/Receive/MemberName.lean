import Mathlib.Tactic.IntervalCases

/-!
# Escaped member names

A member name is a string of bytes, and the catalog keeps it as text.  Characters
in UTF-8 pass through, a backslash is doubled, and every other byte is written as
`\xhh`.  The encoder looks at one byte or one encoded character at a time; each
such token is read back by the decoder, whatever stands after it.
-/

namespace Sutradhara
namespace Receive

open List

/-- Bytes of a name. -/
abbrev Bytes := List UInt8

section

variable (char : Char) (byte first : UInt8) (rest : Bytes)

/-- `_must_escape_byte`. -/
def mustEscapeByte : Bool := byte.toNat < 0x20 || byte.toNat = 0x7F

/-- `_hex_escape`. -/
def hexEscape : List Char :=
  ['\\', 'x', Nat.digitChar (byte.toNat / 16), Nat.digitChar (byte.toNat % 16)]

/-- `_utf8_sequence_len`. -/
def utf8SequenceLen : Nat :=
  if first.toNat < 0x80 then 1
  else if 0xC2 ≤ first.toNat ∧ first.toNat ≤ 0xDF then 2
  else if 0xE0 ≤ first.toNat ∧ first.toNat ≤ 0xEF then 3
  else if 0xF0 ≤ first.toNat ∧ first.toNat ≤ 0xF4 then 4
  else 0

/-- `bytes.decode("utf-8")`, with `none` for ill-formed bytes. -/
def decodeUtf8 (raw : Bytes) : Option (List Char) :=
  (String.fromUTF8? raw.toByteArray).map String.toList

/-- One round of the loop of `escape_member_name`: the text it appends and the
bytes it leaves. -/
def escapeRound : List Char × Bytes :=
  if first = 0x5C then (['\\', '\\'], rest)
  else if mustEscapeByte first then (hexEscape first, rest)
  else
    let sequenceLen := utf8SequenceLen first
    if sequenceLen = 0 then (hexEscape first, rest)
    else if sequenceLen = 1 then ([Char.ofNat first.toNat], rest)
    else
      let candidate := (first :: rest).take sequenceLen
      if candidate.length = sequenceLen then
        match decodeUtf8 candidate with
        | some text => (text, (first :: rest).drop sequenceLen)
        | none => (hexEscape first, rest)
      else (hexEscape first, rest)

theorem length_escapeRound_le : (escapeRound first rest).2.length ≤ rest.length := by
  simp only [escapeRound]
  split_ifs
  any_goals exact Nat.le_refl _
  split
  · simp only [length_drop, length_cons]
    omega
  · exact Nat.le_refl _

/-- `escape_member_name`. -/
def escapeMemberName : Bytes → List Char
  | [] => []
  | first :: rest => (escapeRound first rest).1 ++ escapeMemberName (escapeRound first rest).2
termination_by raw => raw.length
decreasing_by
  exact Nat.lt_succ_of_le (length_escapeRound_le first rest)

/-- The digits of `_is_lower_hex_pair`. -/
def lowerHexDigits : List Char := "0123456789abcdef".toList

/-- The value of a lower case hexadecimal digit. -/
def lowerHexValue : Option Nat := lowerHexDigits.idxOf? char

/-- The byte of a lower case hexadecimal pair. -/
def lowerHexPair (high low : Char) : Option UInt8 :=
  (lowerHexValue high).bind fun first =>
    (lowerHexValue low).map fun second => UInt8.ofNat (16 * first + second)

/-- An ASCII control character. -/
def isControl : Bool := char.toNat < 0x20 || char.toNat = 0x7F

/-- `unescape_member_name` from a position on. -/
def unescapeFrom (index : Nat) : List Char → Except String Bytes
  | [] => .ok []
  | char :: rest =>
    if char = '\\' then
      match rest with
      | [] => .error "member name ends with a bare backslash"
      | marker :: rest =>
        if marker = '\\' then (unescapeFrom (index + 2) rest).map (0x5C :: ·)
        else
          match rest with
          | high :: low :: rest =>
            match if marker = 'x' then lowerHexPair high low else none with
            | some byte => (unescapeFrom (index + 4) rest).map (byte :: ·)
            | none => .error s!"invalid escape at character {index}"
          | _ => .error s!"invalid escape at character {index}"
    else if isControl char then .error "member name contains an unescaped control character"
    else (unescapeFrom (index + 1) rest).map (String.utf8EncodeChar char ++ ·)

/-- `unescape_member_name`. -/
def unescapeMemberName (text : List Char) : Except String Bytes := unescapeFrom 0 text

/-! ## Tokens -/

/-- A piece of escaped text and the bytes it stands for. -/
inductive Token : List Char → Bytes → Prop
  | doubled : Token ['\\', '\\'] [0x5C]
  | hex (byte : UInt8) : Token (hexEscape byte) [byte]
  | plain
      (char : Char)
      (notBackslash : char ≠ '\\')
      (notControl : isControl char = false) :
      Token [char] (String.utf8EncodeChar char)

/-- Text in which every backslash belongs to a doubled backslash or to a `\xhh`
escape. -/
inductive Escaped : List Char → Prop
  | nil : Escaped []
  | plain
      {char : Char}
      {rest : List Char}
      (notBackslash : char ≠ '\\')
      (escaped : Escaped rest) :
      Escaped (char :: rest)
  | doubled {rest : List Char} (escaped : Escaped rest) : Escaped ('\\' :: '\\' :: rest)
  | hex
      {high low : Char}
      {rest : List Char}
      (highDigit : high ∈ lowerHexDigits)
      (lowDigit : low ∈ lowerHexDigits)
      (escaped : Escaped rest) :
      Escaped ('\\' :: 'x' :: high :: low :: rest)

theorem lowerHexValue_digitChar (bound : digit < 16) :
    lowerHexValue (Nat.digitChar digit) = some digit := by
  revert digit
  decide

theorem digitChar_mem_lowerHexDigits (bound : digit < 16) :
    Nat.digitChar digit ∈ lowerHexDigits := by
  revert digit
  decide

theorem isControl_digitChar (bound : digit < 16) : isControl (Nat.digitChar digit) = false := by
  revert digit
  decide

theorem lowerHexPair_digitChar : lowerHexPair (Nat.digitChar (byte.toNat / 16))
      (Nat.digitChar (byte.toNat % 16)) = some byte := by
  have bound : byte.toNat < 256 := byte.toNat_lt
  have high : byte.toNat / 16 < 16 := by omega
  have low : byte.toNat % 16 < 16 := by omega
  simp only [lowerHexPair, lowerHexValue_digitChar high,
    lowerHexValue_digitChar low, Option.bind_some, Option.map_some]
  rw [Nat.div_add_mod, UInt8.ofNat_toNat]

end

/-- The decoder reads a token back, whatever stands after it. -/
theorem Token.unescapeFrom_append (isToken : Token token bytes) :
    unescapeFrom index (token ++ text) =
      (unescapeFrom (index + token.length) text).map (bytes ++ ·) := by
  cases isToken with
  | doubled =>
    rw [unescapeFrom.eq_def]
    simp
  | hex byte =>
    rw [unescapeFrom.eq_def]
    simp [hexEscape, lowerHexPair_digitChar]
  | plain char notBackslash notControl =>
    rw [unescapeFrom.eq_def]
    simp [notBackslash, notControl]

theorem Token.escaped_append (isToken : Token token bytes) (escaped : Escaped text) :
    Escaped (token ++ text) := by
  cases isToken with
  | doubled => exact .doubled escaped
  | hex byte =>
    have bound : byte.toNat < 256 := byte.toNat_lt
    exact .hex (digitChar_mem_lowerHexDigits (by omega))
      (digitChar_mem_lowerHexDigits (by omega)) escaped
  | plain char notBackslash notControl => exact .plain notBackslash escaped

theorem Token.isControl_eq_false (isToken : Token token bytes) (member : char ∈ token) :
    isControl char = false := by
  cases isToken with
  | doubled =>
    simp only [mem_cons, not_mem_nil, or_false, or_self] at member
    subst member
    decide
  | hex byte =>
    have bound : byte.toNat < 256 := byte.toNat_lt
    simp only [hexEscape, mem_cons, not_mem_nil, or_false] at member
    rcases member with rfl | rfl | rfl | rfl
    · decide
    · decide
    · exact isControl_digitChar (by omega)
    · exact isControl_digitChar (by omega)
  | plain other notBackslash notControl =>
    rw [mem_singleton] at member
    rw [member]
    exact notControl

/-! ## Characters in UTF-8 -/

theorem utf8EncodeChar_eq_cons (char : Char) :
    ∃ first more, String.utf8EncodeChar char = first :: more :=
  exists_cons_of_length_pos (by
    rw [String.length_utf8EncodeChar]
    exact char.utf8Size_pos)

/-- The text of well-formed bytes encodes to them. -/
theorem flatMap_utf8EncodeChar_of_decodeUtf8 (decoded : decodeUtf8 raw = some text) :
    text.flatMap String.utf8EncodeChar = raw := by
  obtain ⟨string, found, rfl⟩ := Option.map_eq_some_iff.mp decoded
  unfold String.fromUTF8? at found
  split at found
  next valid =>
    cases found
    have same : (String.fromUTF8 raw.toByteArray valid).toList.utf8Encode = raw.toByteArray := by
      rw [← String.toByteArray_ofList, String.ofList_toList]
      rfl
    exact toByteArray_inj.mp same
  · cases found

/-- The first byte of a character tells how many bytes it has. -/
theorem utf8SequenceLen_of_encoded (encoded : String.utf8EncodeChar char = first :: rest) :
    utf8SequenceLen first = rest.length + 1 := by
  have value : char.val.toNat = char.toNat := rfl
  have scalar : char.toNat < 0x110000 := by
    have valid : char.toNat < 0xD800 ∨ 0xDFFF < char.toNat ∧ char.toNat < 0x110000 := char.valid
    omega
  simp only [String.utf8EncodeChar] at encoded
  unfold utf8SequenceLen
  split_ifs at encoded with one two three
  all_goals
    injection encoded with head tail
    subst head tail
    simp only [UInt8.toNat_ofNat']
  all_goals split_ifs <;> first | rfl | omega

/-- A character of several bytes is not ASCII. -/
theorem nonAscii_of_encoded
    (encoded : String.utf8EncodeChar char = first :: rest)
    (long : 1 < utf8SequenceLen first) : 0x80 ≤ char.toNat := by
  have length := utf8SequenceLen_of_encoded encoded
  have value : char.val.toNat = char.toNat := rfl
  by_contra ascii
  rw [String.utf8EncodeChar, if_pos (by omega)] at encoded
  injection encoded with head tail
  rw [← tail, length_nil] at length
  omega

/-- Bytes that are one character after their first byte's account decode to that
character alone. -/
theorem exists_char_of_decodeUtf8
    (whole : rest.length + 1 = utf8SequenceLen first)
    (long : 1 < utf8SequenceLen first)
    (decoded : decodeUtf8 (first :: rest) = some text) :
    ∃ char, text = [char] ∧ String.utf8EncodeChar char = first :: rest ∧ 0x80 ≤ char.toNat := by
  have bytes := flatMap_utf8EncodeChar_of_decodeUtf8 decoded
  cases text with
  | nil => cases bytes
  | cons char more =>
    rw [flatMap_cons] at bytes
    obtain ⟨lead, tail, encoded⟩ := utf8EncodeChar_eq_cons char
    rw [encoded, cons_append, List.cons.injEq] at bytes
    obtain ⟨rfl, remaining⟩ := bytes
    have length := utf8SequenceLen_of_encoded encoded
    have lengths := congrArg List.length remaining
    rw [length_append] at lengths
    have noMore : more = [] := by
      cases more with
      | nil => rfl
      | cons next others =>
        have positive := next.utf8Size_pos
        rw [flatMap_cons, length_append, String.length_utf8EncodeChar] at lengths
        omega
    subst noMore
    rw [flatMap_nil, append_nil] at remaining
    exact ⟨char, rfl, by rw [encoded, remaining], nonAscii_of_encoded encoded long⟩

theorem token_of_nonAscii (nonAscii : 0x80 ≤ char.toNat) :
    Token [char] (String.utf8EncodeChar char) := by
  refine .plain char ?_ ?_
  · rintro rfl
    exact absurd nonAscii (by decide)
  · simp only [isControl, Bool.or_eq_false_iff, decide_eq_false_iff_not]
    omega

theorem token_of_ascii
    (notBackslash : byte ≠ 0x5C)
    (notControl : mustEscapeByte byte = false)
    (ascii : byte.toNat < 0x80) : Token [Char.ofNat byte.toNat] [byte] := by
  have value : (Char.ofNat byte.toNat).toNat = byte.toNat := by
    have valid : byte.toNat.isValidChar := Or.inl (by omega)
    rw [Char.ofNat, dif_pos valid]
    rfl
  have encoded : String.utf8EncodeChar (Char.ofNat byte.toNat) = [byte] := by
    have small : (Char.ofNat byte.toNat).val.toNat = byte.toNat := value
    rw [String.utf8EncodeChar, small, if_pos (by omega), UInt8.ofNat_toNat]
  rw [← encoded]
  refine .plain _ ?_ ?_
  · intro same
    apply notBackslash
    rw [← UInt8.toNat_inj, ← value, same]
    rfl
  · rw [isControl, value]
    exact notControl

/-! ## The round trip -/

/-- Every round of the encoder writes the token of the bytes it takes. -/
theorem token_escapeRound (first : UInt8) (rest : Bytes) :
    ∃ taken, first :: rest = taken ++ (escapeRound first rest).2 ∧
      Token (escapeRound first rest).1 taken := by
  have hex : ∃ taken, first :: rest = taken ++ rest ∧
      Token (hexEscape first) taken := ⟨[first], rfl, .hex first⟩
  simp only [escapeRound]
  split_ifs with backslash control invalid ascii whole
  · subst backslash
    exact ⟨[0x5C], rfl, .doubled⟩
  · exact hex
  · exact hex
  · have small : first.toNat < 0x80 := by
      by_contra large
      simp only [utf8SequenceLen] at ascii
      split_ifs at ascii <;> cases ascii
    exact ⟨[first], rfl, token_of_ascii backslash (Bool.eq_false_iff.mpr control) small⟩
  · split
    next text decoded =>
      obtain ⟨length, equal⟩ : ∃ length, utf8SequenceLen first = length + 1 :=
        Nat.exists_eq_succ_of_ne_zero invalid
      rw [equal] at decoded whole
      obtain ⟨char, rfl, encoded, nonAscii⟩ :=
        exists_char_of_decodeUtf8 (whole.trans equal.symm) (by omega) decoded
      refine ⟨first :: rest.take length, ?_, ?_⟩
      · rw [equal, drop_succ_cons, cons_append, take_append_drop]
      · rw [← encoded]
        exact token_of_nonAscii nonAscii
    · exact hex
  · exact hex

/-- Escaped text read back from any position gives the bytes. -/
theorem unescapeFrom_escapeMemberName (index : Nat) (raw : Bytes) :
    unescapeFrom index (escapeMemberName raw) = .ok raw := by
  induction raw using escapeMemberName.induct generalizing index with
  | case1 => rw [escapeMemberName, unescapeFrom]
  | case2 first rest ih =>
    obtain ⟨taken, split, token⟩ := token_escapeRound first rest
    rw [escapeMemberName, token.unescapeFrom_append, ih, Except.map, ← split]

theorem escaped_escapeMemberName : Escaped (escapeMemberName raw) := by
  induction raw using escapeMemberName.induct with
  | case1 =>
    rw [escapeMemberName]
    exact .nil
  | case2 first rest ih =>
    obtain ⟨taken, split, token⟩ := token_escapeRound first rest
    rw [escapeMemberName]
    exact token.escaped_append ih

/-- Every character of an escaped name stems from a token for some of its bytes. -/
theorem exists_token_of_mem_escapeMemberName (member : char ∈ escapeMemberName raw) :
    ∃ token bytes, Token token bytes ∧ char ∈ token ∧ bytes ⊆ raw := by
  induction raw using escapeMemberName.induct with
  | case1 =>
    rw [escapeMemberName] at member
    cases member
  | case2 first rest ih =>
    obtain ⟨taken, split, token⟩ := token_escapeRound first rest
    rw [escapeMemberName, mem_append] at member
    rw [split]
    rcases member with here | later
    · exact ⟨_, taken, token, here, subset_append_left _ _⟩
    · obtain ⟨token, bytes, isToken, inside, within⟩ := ih later
      exact ⟨token, bytes, isToken, inside, subset_append_of_subset_right _ within⟩

/-- Escaping is lossless: the text has no control characters and no stray
backslash, it is read back to the bytes, and different bytes never share a
text. -/
theorem escapeMemberName_lossless : (∀ raw : Bytes,
      (∀ char ∈ escapeMemberName raw, isControl char = false) ∧ Escaped (escapeMemberName raw) ∧
        unescapeMemberName (escapeMemberName raw) = .ok raw) ∧
      Function.Injective escapeMemberName := by
  refine ⟨fun raw => ⟨fun char member => ?_,
    escaped_escapeMemberName, unescapeFrom_escapeMemberName 0 raw⟩, ?_⟩
  · obtain ⟨token, bytes, isToken, inside, -⟩ := exists_token_of_mem_escapeMemberName member
    exact isToken.isControl_eq_false inside
  intro first second same
  have read : (.ok first : Except String Bytes) = .ok second := by
    rw [← unescapeFrom_escapeMemberName 0 first, same, unescapeFrom_escapeMemberName]
  exact Except.ok.inj read

end Receive
end Sutradhara
