import Mathlib.Data.List.Basic
import Mathlib.Data.Nat.Digits.Defs

/-!
# Canonical JSON

JSON values and the text that `json.dumps` gives them without spaces and without
escaping beyond the control characters.  An object lists its members in ascending
order of their keys, so this text is the canonical one.  The text determines the
value: no two values share a text, and no text is a proper beginning of another
one that is followed by a delimiter.
-/

namespace Foundation
namespace Json

open List

/-- Delimiters of the text, by their code. -/
def quote : Char := '\x22'

@[inherit_doc quote]
def backslash : Char := '\x5c'

@[inherit_doc quote]
def openBrace : Char := '\x7b'

@[inherit_doc quote]
def closeBrace : Char := '\x7d'

/-- A character that may stand in a number or in a literal name. -/
def isBare (char : Char) : Bool := !([',', '[', ']', quote, openBrace, closeBrace].contains char)

/-- A character of an integer. -/
def isIntegral (char : Char) : Bool := char.isDigit || char == '-'

/-- The text of a floating-point number.  It starts like a number, `NaN` or
`Infinity`, and it is not the text of an integer. -/
structure FloatLiteral where
  text : List Char
  bare : text.all isBare = true
  fractional : text.all isIntegral = false
  starts : ∃ first ∈ text.head?, (isIntegral first || first == 'N' || first == 'I') = true

/-- Values without parts, apart from strings. -/
inductive Scalar
  | null
  | bool (value : Bool)
  | int (value : Int)
  | float (literal : FloatLiteral)

/-- Decimal text of an integer. -/
def intText : Int → List Char
  | .ofNat value => Nat.toDigits 10 value
  | .negSucc value => '-' :: Nat.toDigits 10 (value + 1)

/-- Text of a scalar. -/
def Scalar.text : Scalar → List Char
  | .null => ['n', 'u', 'l', 'l']
  | .bool true => ['t', 'r', 'u', 'e']
  | .bool false => ['f', 'a', 'l', 's', 'e']
  | .int value => intText value
  | .float literal => literal.text

/-- Text of one character inside a string. -/
def escapeChar (char : Char) : List Char :=
  if char = quote then [backslash, quote]
  else if char = backslash then [backslash, backslash]
  else if char = '\n' then [backslash, 'n']
  else if char = '\r' then [backslash, 'r']
  else if char = '\t' then [backslash, 't']
  else if char = '\x08' then [backslash, 'b']
  else if char = '\x0c' then [backslash, 'f']
  else if char.toNat < 32 then
    [backslash, 'u', '0', '0', Nat.digitChar (char.toNat / 16), Nat.digitChar (char.toNat % 16)]
  else [char]

/-- Text of a string with its quotes. -/
def printString (text : String) : List Char :=
  quote :: (text.toList.flatMap escapeChar ++ [quote])

/-- A JSON value. -/
inductive Value
  | scalar (scalar : Scalar)
  | str (text : String)
  | arr (items : List Value)
  | obj (members : List (String × Value))

/-- The comma before every part but the first. -/
def separator (first : Bool) : List Char := if first then [] else [',']

mutual

/-- Text of a value. -/
def Value.print : Value → List Char
  | .scalar scalar => scalar.text
  | .str text => printString text
  | .arr items => '[' :: printItems true items
  | .obj members => openBrace :: printMembers true members

/-- Text of the items that are left, up to the closing bracket. -/
def printItems : Bool → List Value → List Char
  | _, [] => [']']
  | first, item :: rest => separator first ++ (item.print ++ printItems false rest)

/-- Text of the members that are left, up to the closing brace. -/
def printMembers : Bool → List (String × Value) → List Char
  | _, [] => [closeBrace]
  | first, (key, value) :: rest =>
    separator first ++ (printString key ++ ':' :: (value.print ++ printMembers false rest))

end

/-- The canonical text of a value. -/
def canonicalJson (value : Value) : String := String.ofList value.print

/-- A dictionary with text keys. -/
abbrev Dict := List (String × Value)

/-- `None`. -/
def Value.null : Value := .scalar .null

/-- A natural number as a value. -/
def Value.nat (value : Nat) : Value := .scalar (.int value)

/-- `dict.get`: a missing member reads as `None`. -/
def Dict.get (members : Dict) (key : String) : Value := (members.lookup key).getD Value.null

/-- The first member under the key decides, and the members before it are passed over. -/
theorem Dict.get_cons :
    Dict.get ((name, value) :: rest) key = if key = name then value else Dict.get rest key := by
  by_cases same : key = name
  · simp [Dict.get, same]
  · simp [Dict.get, lookup_cons, beq_false_of_ne same, same]

/-- The members under the other keys. -/
def Dict.without (key : String) : Dict → Dict
  | [] => []
  | (name, value) :: rest =>
    if name = key then Dict.without key rest
    else (name, value) :: Dict.without key rest

/-! ## Scalars -/

theorem isBare_of_isDigit {char : Char} (digit : char.isDigit = true) : isBare char = true := by
  simp only [isBare, contains_eq_mem, Bool.not_eq_true', decide_eq_false_iff_not]
  intro member
  simp only [mem_cons, not_mem_nil, or_false] at member
  rcases member with rfl | rfl | rfl | rfl | rfl | rfl <;>
    exact absurd digit (by decide)

section

variable (char : Char) (value : Int) (scalar : Scalar)

theorem intText_isIntegral : (intText value).all isIntegral = true := by
  have digits (natural : Nat) : (Nat.toDigits 10 natural).all isIntegral = true := by
    rw [all_eq_true]
    intro char member
    simp [isIntegral, Nat.isDigit_of_mem_toDigits (by decide) (by decide) member]
  cases value with
  | ofNat natural => exact digits natural
  | negSucc natural =>
    rw [intText, all_cons, digits]
    rfl

theorem toDigits_inj
    {first second : Nat}
    (equal : Nat.toDigits 10 first = Nat.toDigits 10 second) : first = second := by
  rw [← @Nat.ofDigitChars_ten_toDigits first, equal, Nat.ofDigitChars_ten_toDigits]

theorem minus_notMem_toDigits (natural : Nat) : '-' ∉ Nat.toDigits 10 natural := by
  intro member
  have digit := Nat.isDigit_of_mem_toDigits (by decide) (by decide) member
  revert digit
  decide

theorem intText_inj {first second : Int} (equal : intText first = intText second) :
    first = second := by
  cases first with
  | ofNat firstNatural =>
    cases second with
    | ofNat secondNatural => exact congrArg Int.ofNat (toDigits_inj equal)
    | negSucc secondNatural =>
      refine absurd ?_ (minus_notMem_toDigits firstNatural)
      simp only [intText] at equal
      rw [equal]
      exact mem_cons_self
  | negSucc firstNatural =>
    cases second with
    | ofNat secondNatural =>
      refine absurd ?_ (minus_notMem_toDigits secondNatural)
      simp only [intText] at equal
      rw [← equal]
      exact mem_cons_self
    | negSucc secondNatural =>
      simp only [intText, List.cons.injEq, true_and] at equal
      rw [Nat.succ.inj (toDigits_inj equal)]

theorem isBare_of_isIntegral {char : Char} (integral : isIntegral char = true) :
    isBare char = true := by
  rcases Bool.or_eq_true_iff.mp integral with digit | minus
  · exact isBare_of_isDigit digit
  · rw [beq_iff_eq.mp minus]
    decide

theorem Scalar.text_isBare : scalar.text.all isBare = true := by
  cases scalar with
  | null => decide
  | bool value => cases value <;> decide
  | int value =>
    have integral := all_eq_true.mp (intText_isIntegral value)
    exact all_eq_true.mpr fun char member => isBare_of_isIntegral (integral char member)
  | float literal => exact literal.bare

theorem intText_ne_nil : intText value ≠ [] := by
  cases value with
  | ofNat natural => exact Nat.toDigits_ne_nil
  | negSucc natural => exact cons_ne_nil _ _

theorem Scalar.text_ne_nil : scalar.text ≠ [] := by
  cases scalar with
  | null => exact cons_ne_nil _ _
  | bool value => cases value <;> exact cons_ne_nil _ _
  | int value => exact intText_ne_nil value
  | float literal =>
    obtain ⟨first, member, _⟩ := literal.starts
    intro empty
    rw [Scalar.text] at empty
    rw [empty] at member
    cases member

/-- Which of the four kinds of scalar a text belongs to: integers by all their
characters, the others by the first. -/
def Scalar.kind (text : List Char) : Nat :=
  if text.all isIntegral then 0
  else match text.head? with
    | some 'n' => 1
    | some 't' | some 'f' => 2
    | _ => 3

theorem Scalar.kind_text : Scalar.kind scalar.text =
      match scalar with
      | .int _ => 0
      | .null => 1
      | .bool _ => 2
      | .float _ => 3 := by
  cases scalar with
  | null => decide
  | bool value => cases value <;> decide
  | int value => simp [Scalar.kind, Scalar.text, intText_isIntegral]
  | float literal =>
    obtain ⟨first, member, starts⟩ := literal.starts
    simp only [Scalar.kind, Scalar.text, literal.fractional, Bool.false_eq_true, if_false]
    split
    case h_4 => rfl
    all_goals
      rename_i found
      cases found.symm.trans member
      exact absurd starts (by decide)

theorem Scalar.text_inj {first second : Scalar} (equal : first.text = second.text) :
    first = second := by
  have kinds := Scalar.kind_text first
  rw [equal, Scalar.kind_text second] at kinds
  cases first with
  | null => cases second <;> first | rfl | cases kinds
  | bool firstValue =>
    cases second with
    | bool secondValue =>
      cases firstValue <;> cases secondValue <;>
        first | rfl | exact absurd equal (by decide)
    | null | int | float => cases kinds
  | int firstValue =>
    cases second with
    | int secondValue => exact congrArg Scalar.int (intText_inj equal)
    | null | bool | float => cases kinds
  | float firstLiteral =>
    cases second with
    | float secondLiteral =>
      cases firstLiteral
      cases secondLiteral
      cases equal
      rfl
    | null | bool | int => cases kinds

/-! ## Strings -/

/-- The value of a hexadecimal digit. -/
def hexValue : Nat := if char.isDigit then char.toNat - 48 else char.toNat - 87

/-- Read one character of a string back. -/
def unescape : List Char → Option (Char × List Char)
  | [] => none
  | first :: rest =>
    if first = quote then none
    else if first = backslash then
      match rest with
      | 'n' :: rest => some ('\n', rest)
      | 'r' :: rest => some ('\r', rest)
      | 't' :: rest => some ('\t', rest)
      | 'b' :: rest => some ('\x08', rest)
      | 'f' :: rest => some ('\x0c', rest)
      | 'u' :: _ :: _ :: high :: low :: rest =>
        some (Char.ofNat (16 * hexValue high + hexValue low), rest)
      | char :: rest => some (char, rest)
      | [] => none
    else some (first, rest)

theorem hexValue_digitChar {digit : Nat} (bound : digit < 16) :
    hexValue (Nat.digitChar digit) = digit := by
  revert digit
  decide

theorem unescape_escapeChar : unescape (escapeChar char ++ rest) = some (char, rest) := by
  unfold escapeChar
  split
  next same => rw [same]; rfl
  next notQuote =>
    split
    next same => rw [same]; rfl
    next notBackslash =>
      iterate 5
        refine dite _ (fun same => by rw [if_pos same, same]; rfl) fun other => ?_
        rw [if_neg other]
      split
      next control =>
        have high : char.toNat / 16 < 16 := by omega
        have low : char.toNat % 16 < 16 := by omega
        simp only [cons_append, nil_append, unescape]
        rw [if_neg (by decide), if_pos trivial, hexValue_digitChar high,
          hexValue_digitChar low, Nat.div_add_mod, Char.ofNat_toNat]
      · simp only [cons_append, nil_append, unescape]
        rw [if_neg notQuote, if_neg notBackslash]

/-- The closing quote ends the text of a string. -/
theorem flatMap_escapeChar_inj
    {first second firstRest secondRest : List Char}
    (equal : first.flatMap escapeChar ++ quote :: firstRest =
      second.flatMap escapeChar ++ quote :: secondRest) :
    first = second ∧ firstRest = secondRest := by
  induction first generalizing second with
  | nil =>
    cases second with
    | nil => exact ⟨rfl, (List.cons.inj equal).2⟩
    | cons char rest =>
      have read := congrArg unescape equal
      rw [flatMap_cons, append_assoc, unescape_escapeChar] at read
      cases read
  | cons char rest ih =>
    cases second with
    | nil =>
      have read := congrArg unescape equal
      rw [flatMap_cons, append_assoc, unescape_escapeChar] at read
      cases read
    | cons other otherRest =>
      have read := congrArg unescape equal
      rw [flatMap_cons, flatMap_cons, append_assoc,
        append_assoc, unescape_escapeChar, unescape_escapeChar] at read
      obtain ⟨sameChar, sameRest⟩ := Prod.mk.inj (Option.some.inj read)
      obtain ⟨sameText, sameTail⟩ := ih sameRest
      exact ⟨by rw [sameChar, sameText], sameTail⟩

theorem printString_inj
    {first second : String}
    {firstRest secondRest : List Char}
    (equal : printString first ++ firstRest = printString second ++ secondRest) :
    first = second ∧ firstRest = secondRest := by
  simp only [printString, cons_append, append_assoc, List.cons.injEq, true_and] at equal
  obtain ⟨sameText, sameRest⟩ := flatMap_escapeChar_inj equal
  exact ⟨String.toList_injective sameText, sameRest⟩

/-! ## Values -/

/-- The text that follows a value cannot continue a number. -/
def Boundary (rest : List Char) : Prop := ∀ next ∈ rest.head?, isBare next = false

/-- Bare texts before a boundary are read to their ends. -/
theorem bare_append_inj
    {first second firstRest secondRest : List Char}
    (firstBare : first.all isBare = true)
    (secondBare : second.all isBare = true)
    (firstBoundary : Boundary firstRest)
    (secondBoundary : Boundary secondRest)
    (equal : first ++ firstRest = second ++ secondRest) :
    first = second ∧ firstRest = secondRest := by
  induction first generalizing second with
  | nil =>
    cases second with
    | nil => exact ⟨rfl, equal⟩
    | cons char rest =>
      rw [nil_append] at equal
      rw [equal] at firstBoundary
      have bare := (all_cons ▸ secondBare : (isBare char && rest.all isBare) = true)
      rw [firstBoundary char rfl] at bare
      cases bare
  | cons char rest ih =>
    rw [all_cons, Bool.and_eq_true] at firstBare
    cases second with
    | nil =>
      rw [nil_append] at equal
      rw [← equal] at secondBoundary
      rw [secondBoundary char rfl] at firstBare
      cases firstBare.1
    | cons other otherRest =>
      rw [all_cons, Bool.and_eq_true] at secondBare
      obtain ⟨sameChar, sameRest⟩ := List.cons.inj equal
      obtain ⟨sameText, sameTail⟩ := ih firstBare.2 secondBare.2 sameRest
      exact ⟨by rw [sameChar, sameText], sameTail⟩

theorem boundary_printItems : Boundary (printItems false items ++ rest) := by
  cases items with
  | nil =>
    rintro _ ⟨⟩
    decide
  | cons item others =>
    rintro _ ⟨⟩
    decide

theorem boundary_printMembers : Boundary (printMembers false members ++ rest) := by
  cases members with
  | nil =>
    rintro _ ⟨⟩
    decide
  | cons member others =>
    rintro _ ⟨⟩
    decide

/-- The first character of a scalar is bare; the other values start with their
own delimiter. -/
theorem Scalar.exists_text_eq_cons :
    ∃ first rest, scalar.text = first :: rest ∧ isBare first = true := by
  cases shape : scalar.text with
  | nil => exact absurd shape scalar.text_ne_nil
  | cons first rest =>
    have bare := scalar.text_isBare
    rw [shape, all_cons, Bool.and_eq_true] at bare
    exact ⟨first, rest, rfl, bare.1⟩

theorem Scalar.text_append_ne
    {delimiter : Char}
    (notBare : isBare delimiter = false) :
    scalar.text ++ rest ≠ delimiter :: otherRest := by
  obtain ⟨first, others, shape, bare⟩ := scalar.exists_text_eq_cons
  rw [shape]
  intro equal
  rw [(List.cons.inj equal).1, notBare] at bare
  cases bare

end

/-- No value starts with a closing bracket. -/
theorem Value.print_append_ne (value : Value) : value.print ++ rest ≠ ']' :: otherRest := by
  cases value with
  | scalar scalar => exact scalar.text_append_ne (by decide)
  | str | arr | obj =>
    intro equal
    exact absurd (List.cons.inj equal).1 (by decide)

mutual

/-- A value is determined by its text, whatever follows it. -/
theorem print_append_inj
    (first second : Value)
    (firstRest secondRest : List Char)
    (firstBoundary : Boundary firstRest)
    (secondBoundary : Boundary secondRest)
    (equal : first.print ++ firstRest = second.print ++ secondRest) :
    first = second ∧ firstRest = secondRest := by
  match first, second with
  | .scalar left, .scalar right =>
    obtain ⟨sameText, sameRest⟩ := bare_append_inj left.text_isBare
      right.text_isBare firstBoundary secondBoundary equal
    exact ⟨congrArg Value.scalar (Scalar.text_inj sameText), sameRest⟩
  | .scalar left, .str _ | .scalar left, .arr _ | .scalar left, .obj _ =>
    exact absurd equal (left.text_append_ne (by decide))
  | .str _, .scalar right | .arr _, .scalar right | .obj _, .scalar right =>
    exact absurd equal.symm (right.text_append_ne (by decide))
  | .str left, .str right =>
    obtain ⟨sameText, sameRest⟩ := printString_inj equal
    exact ⟨congrArg Value.str sameText, sameRest⟩
  | .arr left, .arr right =>
    obtain ⟨sameItems, sameRest⟩ := printItems_append_inj true left right
      firstRest secondRest (List.cons.inj equal).2
    exact ⟨congrArg Value.arr sameItems, sameRest⟩
  | .obj left, .obj right =>
    obtain ⟨sameMembers, sameRest⟩ := printMembers_append_inj true left right
      firstRest secondRest (List.cons.inj equal).2
    exact ⟨congrArg Value.obj sameMembers, sameRest⟩
  | .str _, .arr _ | .str _, .obj _ | .arr _, .str _ | .arr _, .obj _
  | .obj _, .str _ | .obj _, .arr _ => exact absurd (List.cons.inj equal).1 (by decide)

theorem printItems_append_inj
    (isFirst : Bool)
    (first second : List Value)
    (firstRest secondRest : List Char)
    (equal : printItems isFirst first ++ firstRest = printItems isFirst second ++ secondRest) :
    first = second ∧ firstRest = secondRest := by
  match first, second with
  | [], [] => exact ⟨rfl, (List.cons.inj equal).2⟩
  | [], item :: others =>
    cases isFirst with
    | true =>
      rw [printItems, printItems, separator, if_pos rfl, nil_append, append_assoc] at equal
      exact absurd equal.symm item.print_append_ne
    | false => exact absurd (List.cons.inj equal).1 (by decide)
  | item :: others, [] =>
    cases isFirst with
    | true =>
      rw [printItems, printItems, separator, if_pos rfl, nil_append, append_assoc] at equal
      exact absurd equal item.print_append_ne
    | false => exact absurd (List.cons.inj equal).1 (by decide)
  | left :: leftOthers, right :: rightOthers =>
    simp only [printItems, append_assoc] at equal
    have tails := append_cancel_left equal
    obtain ⟨sameItem, sameTail⟩ := print_append_inj left right _ _
      boundary_printItems
      boundary_printItems tails
    obtain ⟨sameOthers, sameRest⟩ := printItems_append_inj false leftOthers
      rightOthers firstRest secondRest sameTail
    exact ⟨by rw [sameItem, sameOthers], sameRest⟩

theorem printMembers_append_inj
    (isFirst : Bool)
    (first second : List (String × Value))
    (firstRest secondRest : List Char)
    (equal : printMembers isFirst first ++ firstRest = printMembers isFirst second ++ secondRest) :
    first = second ∧ firstRest = secondRest := by
  match first, second with
  | [], [] => exact ⟨rfl, (List.cons.inj equal).2⟩
  | [], (key, value) :: others =>
    cases isFirst <;> exact absurd (List.cons.inj equal).1 (by decide)
  | (key, value) :: others, [] =>
    cases isFirst <;> exact absurd (List.cons.inj equal).1 (by decide)
  | (leftKey, left) :: leftOthers, (rightKey, right) :: rightOthers =>
    simp only [printMembers, append_assoc, cons_append] at equal
    have tails := append_cancel_left equal
    obtain ⟨sameKey, afterKey⟩ := printString_inj tails
    have values := (List.cons.inj afterKey).2
    obtain ⟨sameValue, sameTail⟩ := print_append_inj left right _ _
      boundary_printMembers
      boundary_printMembers values
    obtain ⟨sameOthers, sameRest⟩ := printMembers_append_inj false leftOthers
      rightOthers firstRest secondRest sameTail
    exact ⟨by rw [sameKey, sameValue, sameOthers], sameRest⟩

end

/-- The canonical text determines the value. -/
theorem canonicalJson_injective : Function.Injective canonicalJson := by
  intro first second equal
  have texts := String.ofList_injective equal
  refine (print_append_inj first second [] [] nofun nofun ?_).1
  rw [texts]

end Json
end Foundation
