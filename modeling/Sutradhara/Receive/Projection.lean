import Sutradhara.Foundation.Splitting
import Sutradhara.Receive.Canonical

/-!
# Canonicalization as a projection

The canonical form of a manifest path should name a file, and be its own
canonical form.  The package canonicalizes in Rust, and in Python where the
extension is missing; the fallback reads and writes its paths with
`PurePosixPath`.  Both drop one leading `data/` and look for `..` before they
un-escape a component.  The last theorem says for which paths they are
projections all the same.
-/

namespace Sutradhara
namespace Receive

open Foundation.Raising Foundation.Splitting List

/-! ## The two cores -/

/-- The root that `PurePosixPath` reads in a segment. -/
def posixRoot : Text → Text
  | '/' :: '/' :: '/' :: _ => ['/']
  | '/' :: '/' :: _ => ['/', '/']
  | '/' :: _ => ['/']
  | _ => []

/-- The components that `PurePosixPath` reads in a segment. -/
def posixTail (segment : Text) : List Text :=
  (segment.splitOn '/').filter fun component => component ≠ [] && component ≠ ['.']

/-- `PurePosixPath(*segments)`, as its root and its components.  An absolute
segment discards what is before it. -/
def posixPath : List Text → Text × List Text
  | [] => ([], [])
  | segment :: rest =>
    if (posixPath rest).1 = [] then (posixRoot segment, posixTail segment ++ (posixPath rest).2)
    else posixPath rest

/-- `PurePosixPath(text).parts`. -/
def posixParts (text : Text) : List Text :=
  if posixRoot text = [] then posixTail text else posixRoot text :: posixTail text

/-- `PurePosixPath(*segments).as_posix()`. -/
def asPosix (segments : List Text) : Text :=
  if posixPath segments = ([], []) then ['.']
  else (posixPath segments).1 ++ ['/'].intercalate (posixPath segments).2

/-- A manifest path without what is dropped in front of it. -/
def strippedPath (raw : Text) : Text := stripData ((stripDotSlash raw).dropWhile (· = '/'))

/-- The implementations of the package. -/
inductive Core
  | rust
  | python

namespace Core

variable (core : Core) (unicode : Unicode)

/-- The components that a core reads in a manifest path. -/
def components (raw : Text) : List Text :=
  match core with
  | .rust => (strippedPath raw).splitOn '/'
  | .python => posixParts (strippedPath raw)

/-- How a core writes a path of canonical components. -/
def join (parts : List Text) : Except PathError Text :=
  match core with
  | .rust => joinCanonicalParts parts
  | .python => if parts = [] then .error .empty else .ok (asPosix parts)

/-- `canonicalize_manifest_path`. -/
def manifestPath (raw : Text) : Except PathError Text :=
  (canonicalManifestParts unicode (core.components raw)).bind core.join

/-- `canonicalize_filesystem_path`. -/
def filesystemPath (names : List FileName) : Except PathError Text :=
  core.join (names.map fun name => canonicalComponentFromBytes unicode name.bytes)

end Core

/-! ## The law -/

/-- Every component of the path is the escape of a proper name; so the path is
relative. -/
def SafePath (path : Text) : Prop :=
  ∀ component ∈ path.splitOn '/', ∃ raw, unescapeMemberName component = .ok raw ∧ ProperBytes raw

section

variable (core : Core) (unicode : Unicode)

/-- The canonical form of a manifest path is safe and its own canonical form. -/
def Projects (text : Text) : Prop :=
  ∀ path, core.manifestPath unicode text = .ok path →
    SafePath path ∧ core.manifestPath unicode path = .ok path

/-- The path of a file is its own canonical form. -/
def Stays (names : List FileName) : Prop :=
  ∀ path, core.filesystemPath unicode names = .ok path → core.manifestPath unicode path = .ok path

/-- Canonicalization is a projection onto safe paths, and leaves the paths of a
file system alone. -/
def ProjectionLaw : Prop := (∀ text, Projects core unicode text) ∧ ∀ names, Stays core unicode names

end

/-- An escaped dot is written as a dot, a second `data` is dropped by a second
canonicalization, and `PurePosixPath` keeps a slash behind `data/`. -/
theorem not_projectionLaw : (∀ core, ¬ ProjectionLaw core plainUnicode) ∧
    (∀ core : Core, core.manifestPath plainUnicode "\\x2e\\x2e/x".toList = .ok "../x".toList) ∧
    (∀ core : Core, core.manifestPath plainUnicode "data/data/x".toList = .ok "data/x".toList) ∧
    Core.python.manifestPath plainUnicode "data//x".toList = .ok "/x".toList := by
  refine ⟨fun core law => ?_, fun core => ?_, fun core => ?_, by decide +kernel⟩
  · have again := law.2 [nameData, nameX] "data/x".toList (by cases core <;> decide +kernel)
    revert again
    cases core <;> decide +kernel
  · cases core <;> decide +kernel
  · cases core <;> decide +kernel

/-! ## When it holds -/

/-- The names that a core reads in components: what they spell, un-escaped. -/
def namesOf : List Text → Except PathError (List Bytes)
  | [] => .ok []
  | component :: rest =>
    if component = [] ∨ component = ['.'] then namesOf rest
    else if component = ['.', '.'] then .error .parent
    else
      match unescapeMemberName component with
      | .error _ => .error (.invalidEscape component)
      | .ok raw => (namesOf rest).map (raw :: ·)

/-- A name in normalization form C, if it is UTF-8. -/
def normalBytes (unicode : Unicode) (raw : Bytes) : Bytes :=
  match decodeUtf8 raw with
  | some text => encodeUtf8 (unicode.nfc text)
  | none => raw

/-- The pieces between the slashes of a name, as far as a core writes them. -/
def Core.pieces (core : Core) (raw : Bytes) : List Bytes :=
  match core with
  | .rust => raw.splitOn 0x2F
  | .python => (raw.splitOn 0x2F).filter fun piece => piece ≠ [] && piece ≠ [0x2E]

/-- Names, un-escaped and normalized, whose path is safe and stays.  A name without
a slash is its only piece. -/
structure Fits (core : Core) (unicode : Unicode) (names : List Bytes) : Prop where
  relative : core = .python → ∀ name ∈ names, name.head? ≠ some 0x2F
  some : names.flatMap core.pieces ≠ []
  proper : ∀ piece ∈ names.flatMap core.pieces, ProperBytes piece
  normal : ∀ piece ∈ names.flatMap core.pieces, normalBytes unicode piece = piece
  noData : ∀ second rest, names.flatMap core.pieces ≠ encodeUtf8 "data".toList :: second :: rest

/-! ## Escapes, cut at their slashes -/

theorem escapeMemberName_injective : Function.Injective escapeMemberName := by
  intro first second same
  have read := unescapeFrom_escapeMemberName 0 first
  rw [same, unescapeFrom_escapeMemberName] at read
  exact (Except.ok.inj read).symm

theorem slash_notMem_escapeMemberName (free : 0x2F ∉ raw) : '/' ∉ escapeMemberName raw := by
  intro member
  obtain ⟨token, bytes, isToken, inside, within⟩ := exists_token_of_mem_escapeMemberName member
  exact free (within (slash_mem_of_token isToken inside))

/-- A round of the encoder does not look past a slash. -/
theorem escapeRound_slash (first : UInt8) (rest after : Bytes) :
    escapeRound first (rest ++ 0x2F :: after) =
      ((escapeRound first rest).1, (escapeRound first rest).2 ++ 0x2F :: after) := by
  obtain ⟨taken, split, token⟩ := token_escapeRound first rest
  have escaped := @needed_of_escapeRound first rest
  generalize escapeRound first rest = round at split token escaped ⊢
  obtain ⟨written, left⟩ := round
  cases token with
  | doubled =>
    obtain ⟨rfl, rfl⟩ := cons.inj split
    rfl
  | hex =>
    obtain ⟨rfl, rfl⟩ := cons.inj split
    refine escapeRound_of_needed ((escaped rfl).imp_right fun none char begins => none char ?_)
    rw [← cons_append] at begins
    rcases prefix_or_prefix_of_prefix begins (prefix_append _ _) with within | ⟨reached, whole⟩
    · exact within
    · rw [← whole, prefix_append_right_inj] at begins
      cases reached with
      | nil => exact ⟨[], by rw [← whole, append_nil, append_nil]⟩
      | cons byte reached =>
        -- a character that reaches the slash is the slash
        obtain rfl := (cons_prefix_cons.mp begins).1
        obtain rfl := @eq_slash_of_mem_utf8EncodeChar char (by rw [← whole]; simp)
        rw [show String.utf8EncodeChar '/' = [0x2F] by decide] at whole
        simp at whole
  | plain char notBackslash notControl =>
    obtain ⟨byte, more, encoded⟩ := utf8EncodeChar_eq_cons char
    rw [encoded, cons_append] at split
    obtain ⟨rfl, rfl⟩ := cons.inj split
    rw [append_assoc]
    exact escapeRound_of_isClean (by simp [isClean, notBackslash, notControl]) encoded _

theorem escapeMemberName_slash (before after : Bytes) :
    escapeMemberName (before ++ 0x2F :: after) =
      escapeMemberName before ++ '/' :: escapeMemberName after := by
  fun_induction escapeMemberName before with
  | case1 =>
    rw [nil_append, escapeMemberName]
    rfl
  | case2 first rest ih =>
    rw [cons_append, escapeMemberName, escapeRound_slash, ih, append_assoc]

/-- The escape of a name begins with a slash if the name does. -/
theorem head?_escapeMemberName : (escapeMemberName raw).head? = some '/' ↔
    raw.head? = some 0x2F := by
  constructor
  · intro begins
    obtain ⟨rest, split⟩ := head?_eq_some_iff.mp begins
    have read := unescapeFrom_escapeMemberName 0 raw
    rw [split, ← singleton_append,
      (Token.plain '/' (by decide) (by decide)).unescapeFrom_append] at read
    obtain ⟨tail, -, rfl⟩ := exists_of_map_eq_ok read
    rfl
  · intro begins
    obtain ⟨rest, rfl⟩ := head?_eq_some_iff.mp begins
    rw [← nil_append (0x2F :: rest), escapeMemberName_slash, escapeMemberName]
    rfl

theorem canonicalComponentFromBytes_eq (unicode : Unicode) (raw : Bytes) :
    canonicalComponentFromBytes unicode raw = escapeMemberName (normalBytes unicode raw) := by
  cases decoded : decodeUtf8 raw <;> simp only [canonicalComponentFromBytes, normalBytes, decoded]

/-- The components that a core writes for text between its own separators. -/
def Core.cut (core : Core) (text : Text) : List Text :=
  match core with
  | .rust => text.splitOn '/'
  | .python => posixTail text

theorem cut_escapeMemberName (core : Core) (raw : Bytes) :
    core.cut (escapeMemberName raw) = (core.pieces raw).map escapeMemberName := by
  have parts : (escapeMemberName raw).splitOn '/' = (raw.splitOn 0x2F).map escapeMemberName :=
    splitOn_of_separates escapeMemberName_slash (fun _ => slash_notMem_escapeMemberName) raw
  cases core with
  | rust => exact parts
  | python =>
    have form : ∀ text : Text, text.all isClean = true → ∀ piece,
        (escapeMemberName piece = text ↔ piece = encodeUtf8 text) := by
      intro text clean piece
      nth_rewrite 1 [← escapeMemberName_of_isClean clean]
      exact escapeMemberName_injective.eq_iff
    rw [Core.cut, posixTail, parts, filter_map, Core.pieces]
    simp only [Function.comp_def, ne_eq, form [] rfl, form ['.'] rfl]
    rfl

theorem slash_notMem_of_pieces (member : piece ∈ Core.pieces core raw) : 0x2F ∉ piece := by
  cases core with
  | rust => exact notMem_of_mem_splitOn member
  | python => exact notMem_of_mem_splitOn (mem_filter.mp member).1

/-! ## Paths that the cores write -/

section

variable {segment : Text} {segments : List Text}

theorem posixRoot_of_relative (relative : segment.head? ≠ some '/') : posixRoot segment = [] := by
  unfold posixRoot
  split <;> simp_all

theorem posixPath_of_relative (relative : ∀ segment ∈ segments, segment.head? ≠ some '/') :
    posixPath segments = ([], segments.flatMap posixTail) := by
  induction segments with
  | nil => rfl
  | cons segment rest ih =>
    obtain ⟨here, later⟩ := forall_mem_cons.mp relative
    rw [posixPath, ih later, if_pos rfl, posixRoot_of_relative here, flatMap_cons]

/-- A path of segments is absolute unless all of them are relative. -/
theorem head?_posixPath (absolute : ¬ ∀ segment ∈ segments, segment.head? ≠ some '/') :
    (posixPath segments).1.head? = some '/' := by
  induction segments with
  | nil => simp at absolute
  | cons segment rest ih =>
    by_cases later : ∀ segment ∈ rest, segment.head? ≠ some '/'
    · have here : segment.head? = some '/' := by
        by_contra relative
        exact absolute (forall_mem_cons.mpr ⟨relative, later⟩)
      obtain ⟨tail, rfl⟩ := head?_eq_some_iff.mp here
      rw [posixPath, posixPath_of_relative later, if_pos rfl]
      unfold posixRoot
      split <;> simp_all
    · have root := ih later
      rw [posixPath, if_neg (fun empty => by rw [empty] at root; cases root)]
      exact root

end

section

variable (core : Core) {parts : List Text}

/-- A path that a core writes, as its components. -/
theorem join_eq
    (some : parts ≠ [])
    (relative : core = .python → ∀ part ∈ parts, part.head? ≠ Option.some '/') :
    core.join parts = .ok (if parts.flatMap core.cut = [] then ['.']
      else ['/'].intercalate (parts.flatMap core.cut)) := by
  cases core with
  | rust =>
    have whole := @splitOn_intercalate_eq_flatMap Char _ _ '/' _ some
    have filled : parts.flatMap (Core.cut .rust) ≠ [] := by
      rw [show Core.cut .rust = splitOn '/' from rfl, ← whole]
      exact splitOn_ne_nil _ _
    rw [if_neg filled, show Core.cut .rust = splitOn '/' from rfl, ← whole, intercalate_splitOn]
    exact if_neg some
  | python =>
    have path := posixPath_of_relative (relative rfl)
    rw [Core.join, if_neg some, asPosix, path]
    simp [Prod.ext_iff, Core.cut]
    rfl

section

variable (proper : ∀ part ∈ parts, ProperText part)
include proper

theorem flatMap_cut_of_proper : parts.flatMap core.cut = parts := by
  refine (flatMap_congr fun part member => ?_).trans (flatMap_singleton' parts)
  obtain ⟨notEmpty, notDot, -, noSlash⟩ := proper part member
  cases core with
  | rust => exact splitOn_eq_singleton noSlash
  | python => simp [Core.cut, posixTail, splitOn_eq_singleton noSlash, notEmpty, notDot]

variable (some : parts ≠ [])
include some

/-- Both cores write a path of proper components alike. -/
theorem join_of_proper : core.join parts = .ok (['/'].intercalate parts) := by
  rw [join_eq core some fun _ part member begins =>
    (proper part member).2.2.2 (mem_of_mem_head? begins), flatMap_cut_of_proper core proper,
    if_neg some]

/-- Both cores read a path of proper components alike. -/
theorem components_intercalate : core.components (['/'].intercalate parts) = withoutData parts := by
  have kept : ∀ part ∈ withoutData parts, ProperText part :=
    fun part member => proper part (withoutData_subset member)
  have filled := withoutData_ne_nil some
  have stripped : strippedPath (['/'].intercalate parts) =
      ['/'].intercalate (withoutData parts) := by
    rw [strippedPath, stripDotSlash_join proper some,
      dropWhile_slash_of_head?_ne (head?_join_ne_slash proper some), stripData_join proper some]
  cases core with
  | rust => rw [Core.components, stripped, splitOn_join kept filled]
  | python =>
    rw [Core.components, stripped, posixParts,
      if_pos (posixRoot_of_relative (head?_join_ne_slash kept filled)), posixTail,
      splitOn_join kept filled, filter_eq_self]
    intro part member
    simp [(kept part member).1, (kept part member).2.1]

end

end

/-! ## The exact condition -/

section

variable (core : Core) (unicode : Unicode)

theorem canonicalManifestParts_eq_map (components : List Text) :
    canonicalManifestParts unicode components = (namesOf components).map fun names =>
      (names.map (normalBytes unicode)).map escapeMemberName := by
  simp only [map_map, Function.comp_def, ← canonicalComponentFromBytes_eq]
  fun_induction namesOf components with
  | case1 => rfl
  | case2 component rest skipped ih => rw [canonicalManifestParts, if_pos skipped, ih]
  | case3 rest skipped =>
    rw [canonicalManifestParts, if_neg skipped, if_pos rfl]
    rfl
  | case4 component rest skipped parent error failed =>
    rw [canonicalManifestParts, if_neg skipped, if_neg parent, failed]
    rfl
  | case5 component rest skipped parent raw read ih =>
    rw [canonicalManifestParts, if_neg skipped, if_neg parent, read]
    dsimp only
    rw [ih]
    cases namesOf rest <;> rfl

/-- The escapes of proper names are read as these names. -/
theorem namesOf_escapeMemberName
    {names : List Bytes}
    (proper : ∀ name ∈ names, ProperBytes name) :
    namesOf (names.map escapeMemberName) = .ok names := by
  induction names with
  | nil => rfl
  | cons name rest ih =>
    obtain ⟨here, later⟩ := forall_mem_cons.mp proper
    obtain ⟨notEmpty, notDot, notDots, -⟩ := properText_escapeMemberName here
    have read : unescapeMemberName (escapeMemberName name) = .ok name :=
      unescapeFrom_escapeMemberName 0 name
    rw [map_cons, namesOf, if_neg (by simp [notEmpty, notDot]), if_neg notDots, read]
    dsimp only
    rw [ih later]
    rfl

theorem properText_map_escapeMemberName
    {names : List Bytes}
    (proper : ∀ name ∈ names, ProperBytes name) :
    ∀ part ∈ names.map escapeMemberName, ProperText part :=
  forall_mem_map.mpr fun name member => properText_escapeMemberName (proper name member)

/-- Normalization keeps a name proper. -/
theorem properBytes_normalBytes (proper : ProperBytes raw) :
    ProperBytes (normalBytes unicode raw) := by
  cases decoded : decodeUtf8 raw with
  | none => simpa only [normalBytes, decoded] using proper
  | some text =>
    rw [← encodeUtf8_of_decodeUtf8 decoded, properBytes_encodeUtf8_iff] at proper
    simpa only [normalBytes, decoded, properBytes_encodeUtf8_iff] using
      unicode.proper_nfc text proper

theorem normalBytes_normalBytes (raw : Bytes) :
    normalBytes unicode (normalBytes unicode raw) = normalBytes unicode raw := by
  cases decoded : decodeUtf8 raw <;>
    simp only [normalBytes, decoded, decodeUtf8_encodeUtf8, unicode.nfc_nfc]

/-- The components of a path of names without a leading `data`. -/
theorem withoutData_map_escapeMemberName (names : List Bytes) :
    ∃ kept, withoutData (names.map escapeMemberName) = kept.map escapeMemberName ∧
      (kept = names ∧ (∀ second rest, names ≠ encodeUtf8 "data".toList :: second :: rest) ∨
        ∃ second rest, names = encodeUtf8 "data".toList :: second :: rest ∧
          kept = second :: rest) := by
  have data : escapeMemberName (encodeUtf8 "data".toList) = ['d', 'a', 't', 'a'] :=
    escapeMemberName_of_isClean (by decide)
  by_cases begins : ∃ second rest, names = encodeUtf8 "data".toList :: second :: rest
  · obtain ⟨second, rest, rfl⟩ := begins
    exact ⟨second :: rest, by rw [map_cons, data]; rfl, .inr ⟨second, rest, rfl, rfl⟩⟩
  · push Not at begins
    refine ⟨names, ?_, .inl ⟨rfl, begins⟩⟩
    unfold withoutData
    split
    next split =>
      simp only [map_eq_cons_iff] at split
      obtain ⟨first, _, rfl, isData, second, rest, rfl, -, -⟩ := split
      rw [← data, escapeMemberName_injective.eq_iff] at isData
      exact absurd (by rw [isData]) (begins second rest)
    · rfl

/-- The path of proper names is read back as it is if they are in normal form and do
not begin with `data` before others. -/
theorem manifestPath_eq_self_iff
    {names : List Bytes}
    (some : names ≠ [])
    (proper : ∀ name ∈ names, ProperBytes name) :
    let path := ['/'].intercalate (names.map escapeMemberName)
    core.manifestPath unicode path = .ok path ↔ (∀ name ∈ names, normalBytes unicode name = name) ∧
      ∀ second rest, names ≠ encodeUtf8 "data".toList :: second :: rest := by
  intro path
  have parts := properText_map_escapeMemberName proper
  have filled : names.map escapeMemberName ≠ [] := by simpa using some
  obtain ⟨kept, dropped, whole⟩ := withoutData_map_escapeMemberName names
  have among : kept ⊆ names := by
    rcases whole with ⟨rfl, -⟩ | ⟨second, rest, rfl, rfl⟩
    · exact Subset.refl _
    · exact subset_cons_self _ _
  have written : ∀ part ∈ (kept.map (normalBytes unicode)).map escapeMemberName, ProperText part :=
    properText_map_escapeMemberName <| forall_mem_map.mpr fun name member =>
      properBytes_normalBytes unicode (proper name (among member))
  have nonempty : (kept.map (normalBytes unicode)).map escapeMemberName ≠ [] := by
    have left := withoutData_ne_nil filled
    rw [dropped] at left
    simpa using left
  have result : core.manifestPath unicode path =
      .ok (['/'].intercalate ((kept.map (normalBytes unicode)).map escapeMemberName)) := by
    rw [Core.manifestPath, components_intercalate core parts filled, dropped,
      canonicalManifestParts_eq_map,
      namesOf_escapeMemberName fun name member => proper name (among member)]
    exact join_of_proper core written nonempty
  have same : core.manifestPath unicode path = .ok path ↔
      kept.map (normalBytes unicode) = names := by
    rw [result, Except.ok.injEq, ← escapeMemberName_injective.list_map.eq_iff]
    refine ⟨fun equal => ?_, fun equal => by rw [equal]⟩
    rw [← splitOn_join written nonempty, equal, splitOn_join parts filled]
  rw [same]
  rcases whole with ⟨rfl, noData⟩ | ⟨second, rest, rfl, rfl⟩
  · rw [and_iff_left noData]
    exact ⟨fun equal name member => map_inj_left.mp (equal.trans (map_id _).symm) name member,
      fun normal => (map_congr_left normal).trans (map_id _)⟩
  · -- one component less is written
    exact iff_of_false (fun equal => by simpa using congrArg length equal)
      fun ⟨_, noData⟩ => noData second rest rfl

end

section

variable (core : Core) (unicode : Unicode)

theorem not_safePath_of_slash (slash : path.head? = some '/') : ¬ SafePath path := by
  intro safe
  obtain ⟨rest, rfl⟩ := head?_eq_some_iff.mp slash
  obtain ⟨raw, read, proper⟩ := safe [] (by simp [splitOn_cons_eq_if_modifyHead])
  rw [unescapeMemberName, unescapeFrom] at read
  exact proper.1 (Except.ok.inj read).symm

theorem safePath_intercalate_iff
    {names : List Bytes}
    (some : names ≠ [])
    (free : ∀ name ∈ names, 0x2F ∉ name) :
    SafePath (['/'].intercalate (names.map escapeMemberName)) ↔
      ∀ name ∈ names, ProperBytes name := by
  have parts : ∀ part ∈ names.map escapeMemberName, '/' ∉ part :=
    forall_mem_map.mpr fun name member => slash_notMem_escapeMemberName (free name member)
  rw [SafePath, splitOn_intercalate '/' parts (by simpa using some), forall_mem_map]
  refine forall₂_congr fun name _ => ?_
  rw [unescapeMemberName, unescapeFrom_escapeMemberName]
  simp

/-- What a core writes for names is safe and stays exactly if the names fit. -/
theorem join_projects_iff {names : List Bytes} (some : names ≠ []) :
    (∀ path, core.join (names.map escapeMemberName) = .ok path →
      SafePath path ∧ core.manifestPath unicode path = .ok path) ↔ Fits core unicode names := by
  have filled : names.map escapeMemberName ≠ [] := by simpa using some
  by_cases relative : core = .python → ∀ name ∈ names, name.head? ≠ Option.some 0x2F
  · have cut : (names.map escapeMemberName).flatMap core.cut =
        (names.flatMap core.pieces).map escapeMemberName := by
      simp [flatMap_map, map_flatMap, cut_escapeMemberName]
    rw [join_eq core filled (by simpa [head?_escapeMemberName] using relative), cut]
    simp only [Except.ok.injEq, forall_eq', map_eq_nil_iff]
    by_cases empty : names.flatMap core.pieces = []
    · refine iff_of_false (fun ⟨safe, _⟩ => ?_) fun fits => fits.some empty
      rw [if_pos empty] at safe
      obtain ⟨raw, isRaw, proper⟩ := safe ['.'] (by decide)
      exact proper.2.1 (Except.ok.inj (isRaw.symm.trans (by decide)))
    · rw [if_neg empty, safePath_intercalate_iff empty fun piece member =>
        (mem_flatMap.mp member).elim fun _ inside => slash_notMem_of_pieces inside.2]
      constructor
      · rintro ⟨proper, stays⟩
        obtain ⟨normal, noData⟩ := (manifestPath_eq_self_iff core unicode empty proper).mp stays
        exact ⟨relative, empty, proper, normal, noData⟩
      · intro fits
        exact ⟨fits.proper, (manifestPath_eq_self_iff core unicode empty fits.proper).mpr
          ⟨fits.normal, fits.noData⟩⟩
  · -- an absolute component makes the path absolute
    refine iff_of_false (fun projects => ?_) fun fits => relative fits.relative
    push Not at relative
    obtain ⟨rfl, name, member, slash⟩ := relative
    have root := @head?_posixPath (names.map escapeMemberName) fun all =>
      all _ (mem_map_of_mem member) (head?_escapeMemberName.mpr slash)
    refine not_safePath_of_slash ?_ (projects _ (if_neg filled)).1
    obtain ⟨rest, isRoot⟩ := head?_eq_some_iff.mp root
    simp [asPosix, Prod.ext_iff, isRoot]

theorem projects_iff (text : Text) : Projects core unicode text ↔
    ∀ raws, namesOf (core.components text) = .ok raws → raws ≠ [] →
      Fits core unicode (raws.map (normalBytes unicode)) := by
  unfold Projects
  rw [Core.manifestPath, canonicalManifestParts_eq_map]
  cases namesOf (core.components text) with
  | error => exact iff_of_true nofun nofun
  | ok raws =>
    simp only [Except.ok.injEq, forall_eq']
    by_cases nothing : raws = []
    · subst nothing
      exact iff_of_true (by cases core <;> exact nofun) (absurd rfl)
    · rw [imp_iff_right nothing]
      exact join_projects_iff core unicode (by simpa using nothing)

theorem stays_iff (names : List FileName) : Stays core unicode names ↔
    ∀ second rest, names.map (normalBytes unicode ·.bytes) ≠
      encodeUtf8 "data".toList :: second :: rest := by
  by_cases nothing : names = []
  · subst nothing
    exact iff_of_true (by cases core <;> exact nofun) (by simp)
  have proper : ∀ name ∈ names.map (normalBytes unicode ·.bytes), ProperBytes name :=
    forall_mem_map.mpr fun name _ => properBytes_normalBytes unicode name.proper
  have filled : names.map (normalBytes unicode ·.bytes) ≠ [] := by simpa using nothing
  have normal : ∀ name ∈ names.map (normalBytes unicode ·.bytes), normalBytes unicode name = name :=
    forall_mem_map.mpr fun name _ => normalBytes_normalBytes unicode name.bytes
  have written : names.map (fun name => canonicalComponentFromBytes unicode name.bytes) =
      (names.map (normalBytes unicode ·.bytes)).map escapeMemberName := by
    simp [canonicalComponentFromBytes_eq]
  rw [Stays, Core.filesystemPath, written,
    join_of_proper core (properText_map_escapeMemberName proper) (by simpa using nothing)]
  simp only [Except.ok.injEq, forall_eq']
  exact (manifestPath_eq_self_iff core unicode filled proper).trans (and_iff_right normal)

/-- Both cores are projections exactly on the manifest paths whose names fit, and
leave the path of a file alone exactly if it is not below a directory `data`. -/
theorem projection_exact (text : Text) (names : List FileName) :
    (Projects core unicode text ↔ ∀ raws, namesOf (core.components text) = .ok raws →
      raws ≠ [] → Fits core unicode (raws.map (normalBytes unicode))) ∧
    (Stays core unicode names ↔ ∀ second rest, names.map (normalBytes unicode ·.bytes) ≠
      encodeUtf8 "data".toList :: second :: rest) :=
  ⟨projects_iff core unicode text, stays_iff core unicode names⟩

end

end Receive
end Sutradhara
