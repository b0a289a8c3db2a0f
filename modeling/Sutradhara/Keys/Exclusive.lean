import Sutradhara.Keys.Registry

/-!
# One active epoch in each domain

Any number of processes create, import and retire epochs in one directory, one file
operation at a time.  A creation looks for an active epoch of its domain and, much
later, writes an active state; an import writes its active state before it retires
the others.  Key files are created exclusively and only their creator writes to
them, so the files of a stored epoch never change.  There is at most one active
epoch in a domain as long as creations of one domain do not overlap and a recovery
key is imported only when no other one is active.
-/

namespace Sutradhara
namespace Keys

open Foundation
open Foundation.Interleaving
open Process Transition

/-! ## Active and stored epochs -/

section

variable (codec : Codec) (dir : Directory) (domain : Domain) (key : KeyId)

/-- The key has a state file. -/
def Directory.Stored : Prop := dir.states.lookup key ≠ none

/-- The state file of the key says that it is an active epoch of the domain. -/
def Directory.activeIn : Bool :=
  match dir.states.lookup key with
  | some (.object (some doc)) => doc.active = some true && doc.domain = some domain
  | _ => false

/-- Each domain has at most one active epoch. -/
def AtMostOneActive : Prop :=
  ∀ domain first second, dir.activeIn domain first = true →
    dir.activeIn domain second = true → first = second

/-- Stored epochs keep their key material. -/
structure Kept (before after : Directory) : Prop where
  stored : ∀ key, before.Stored key → after.Stored key
  privates : ∀ key file, before.Stored key → before.privates key = some file →
    after.privates key = some file
  publics : ∀ key file, before.Stored key → before.publics key = some file →
    file.content ≠ [] → after.publics key = some file

theorem Kept.refl : Kept dir dir :=
  ⟨fun _ stored => stored, fun _ _ _ found => found, fun _ _ _ found _ => found⟩

theorem Kept.trans (early : Kept first second) (late : Kept second third) : Kept first third where
  stored key stored := late.stored key (early.stored key stored)
  privates key file stored found :=
    late.privates key file (early.stored key stored) (early.privates key file stored found)
  publics key file stored found full :=
    late.publics key file (early.stored key stored) (early.publics key file stored found full) full

/-! ## Any number of processes -/

/-- A call on the registry under way. -/
abbrev RegistryThread := Thread Op Op.Answer Fault KeyEpoch Call

/-- Any number of calls on one directory, one file operation at a time. -/
def registry : Program Directory RegistryThread Unit := calls (Call.task codec) Directory.effect

/-- At every moment each domain has at most one active epoch, and the key material of
a stored epoch stays. -/
def RegistryLaw : Prop :=
  ∀ (codec : Codec) (dir : Directory) (early late : List (Move RegistryThread Unit))
    (middle final : Config Directory RegistryThread),
    AtMostOneActive dir →
    run (registry codec).move ⟨dir, []⟩ early = some middle →
    run (registry codec).move middle late = some final →
    AtMostOneActive final.shared ∧ Kept middle.shared final.shared

/-- The domain in which a call creates an epoch. -/
def Call.creates : Call → Option Domain
  | .create domain _ _ _ => some domain
  | _ => none

/-- The domain in which a call may make an epoch active. -/
def Call.activates : Call → Option Domain
  | .create domain _ _ _ => some domain
  | .importPublic _ _ => some .recovery
  | .retire _ => none

/-- The active epochs of a domain. -/
def Directory.activeList : List KeyId := (dir.states.map Prod.fst).filter (dir.activeIn domain)

/-- The epoch that an operation makes active in the domain. -/
def Op.makesActive : Op → Option KeyId
  | .writeState key doc =>
    if doc.active = some true ∧ doc.domain = some domain then some key else none
  | _ => none

/-- The operation that a process is about to perform. -/
def nextOp : Task KeyEpoch → Option Op
  | .act op _ => some op
  | _ => none

/-- No other call that creates in the same domain is under way, and a call that is about
to make a recovery key active finds no other one active. -/
def orderly (config : Config Directory RegistryThread) :
    Move RegistryThread Unit → Bool
  | .spawn _ => true
  | .act index _ =>
    match config.threads[index]? with
    | none => true
    | some thread =>
      (thread.call.creates.isNone ||
        config.threads.zipIdx.all fun other =>
          other.2 = index || !other.1.busy || other.1.call.creates ≠ thread.call.creates) &&
      (((nextOp (thread.process (Call.task codec))).bind (Op.makesActive .recovery)).all fun key =>
        (config.shared.activeList .recovery).all fun other => other = key)

end

/-! ## What a process relies on and guarantees -/

section Assumptions

variable (exclusive : Prop) (index : Nat) (call : Call)

/-- What the other processes leave to a process. -/
structure Relied (before after : Directory) : Prop where
  privates : ∀ key file, before.privates key = some file → file.creator = index →
    after.privates key = some file
  publics : ∀ key file, before.publics key = some file → file.creator = index →
    after.publics key = some file
  stored : ∀ key, before.Stored key → after.Stored key
  kept : ∀ key file, before.Stored key → before.privates key = some file →
    after.privates key = some file
  fresh : ∀ key, key.domain ≠ .recovery → ¬ before.Stored key → after.Stored key →
    ∃ file, after.privates key = some file ∧ file.creator ≠ index
  quiet : exclusive → ∀ domain, call.creates = some domain → domain ≠ .recovery →
    ∀ key, after.activeIn domain key = true → before.activeIn domain key = true

/-- What a process leaves to the others. -/
structure Granted (before after : Directory) : Prop where
  kept : Kept before after
  privates : ∀ key file, before.privates key = some file → file.creator ≠ index →
    after.privates key = some file
  publics : ∀ key file, before.publics key = some file → file.creator ≠ index →
    after.publics key = some file
  fresh : ∀ key, key.domain ≠ .recovery → ¬ before.Stored key → after.Stored key →
    ∃ file, after.privates key = some file ∧ file.creator = index
  activates : ∀ domain key, after.activeIn domain key = true →
    before.activeIn domain key = false → call.activates = some domain
  sole : exclusive → ∀ domain, call.creates = some domain →
    ∀ key, after.activeIn domain key = true → before.activeIn domain key = false →
      ∀ other, after.activeIn domain other = true → other = key

variable {exclusive index call}

theorem Relied.refl (dir : Directory) : Relied exclusive index call dir dir where
  privates _ _ found _ := found
  publics _ _ found _ := found
  stored _ stored := stored
  kept _ _ _ found := found
  fresh _ _ missing stored := absurd stored missing
  quiet _ _ _ _ _ active := active

theorem Relied.trans
    (early : Relied exclusive index call first second)
    (late : Relied exclusive index call second third) :
    Relied exclusive index call first third where
  privates key file found own := late.privates key file (early.privates key file found own) own
  publics key file found own := late.publics key file (early.publics key file found own) own
  stored key stored := late.stored key (early.stored key stored)
  kept key file stored found :=
    late.kept key file (early.stored key stored) (early.kept key file stored found)
  fresh key hot missing stored := by
    by_cases between : second.Stored key
    · obtain ⟨file, found, other⟩ := early.fresh key hot missing between
      exact ⟨file, late.kept key file between found, other⟩
    · exact late.fresh key hot between stored
  quiet alone domain creates hot key active :=
    early.quiet alone domain creates hot key (late.quiet alone domain creates hot key active)

/-- Key files that change outside the state files. -/
theorem Granted.of_states_eq
    (same : after.states = before.states)
    (kept : Kept before after)
    (privates : ∀ key file, before.privates key = some file → file.creator ≠ index →
      after.privates key = some file)
    (publics : ∀ key file, before.publics key = some file → file.creator ≠ index →
      after.publics key = some file) :
    Granted exclusive index call before after := by
  have stored : ∀ key, after.Stored key ↔ before.Stored key := by
    intro key
    unfold Directory.Stored
    rw [same]
  have active : ∀ domain key, after.activeIn domain key = before.activeIn domain key := by
    intro domain key
    unfold Directory.activeIn
    rw [same]
  refine ⟨kept, privates, publics, fun key _ missing there => ?_,
    fun domain key isActive inactive => ?_, fun _ domain _ key isActive inactive => ?_⟩
  · exact absurd ((stored key).mp there) missing
  · rw [active, inactive] at isActive
    cases isActive
  · rw [active, inactive] at isActive
    cases isActive

theorem Granted.refl (dir : Directory) : Granted exclusive index call dir dir :=
  .of_states_eq rfl (Kept.refl dir) (fun _ _ found _ => found) fun _ _ found _ => found

/-- What one process grants is what another one relies on, if the two do not create
in one domain. -/
theorem Granted.relied
    (granted : Granted exclusive index call before after)
    (different : other ≠ index)
    (apart : exclusive → ∀ domain, otherCall.creates = some domain →
      domain ≠ .recovery → call.activates ≠ some domain) :
    Relied exclusive other otherCall before after where
  privates key file found own := granted.privates key file found (own ▸ different)
  publics key file found own := granted.publics key file found (own ▸ different)
  stored := granted.kept.stored
  kept := granted.kept.privates
  fresh key hot missing stored := by
    obtain ⟨file, found, own⟩ := granted.fresh key hot missing stored
    exact ⟨file, found, own ▸ Ne.symm different⟩
  quiet alone domain creates hot key active := by
    by_contra inactive
    exact apart alone domain creates hot
      (granted.activates domain key active (by simpa using inactive))

end Assumptions

/-! ## Single operations -/

section Operations

variable {exclusive : Prop} {index : Nat} {call : Call}

/-- A change of private files outside stored epochs, and of the own files only. -/
theorem granted_setPrivate
    (unstored : dir.privates key = none ∨ ¬ dir.Stored key)
    (own : ∀ old, dir.privates key = some old → old.creator = index) :
    Granted exclusive index call dir (dir.setPrivate key file) := by
  have other : ∀ name old, dir.privates name = some old →
      (name = key → dir.privates key = some old → False) →
        (dir.setPrivate key file).privates name = some old := by
    intro name old found foreign
    by_cases same : name = key
    · exact (foreign same (same ▸ found)).elim
    · rwa [dir.privates_setPrivate_of_ne same]
  refine .of_states_eq rfl ⟨fun _ stored => stored, fun name old stored found => ?_,
    fun _ _ _ found _ => found⟩ (fun name old found foreign => ?_) fun _ _ found _ => found
  · refine other name old found fun same there => ?_
    rcases unstored with missing | unstored
    · rw [missing] at there
      cases there
    · exact unstored (same ▸ stored)
  · exact other name old found fun _ there => foreign (own old there)

/-- A change of an own public file that is not filled yet. -/
theorem granted_setPublic
    (own : ∀ old, dir.publics key = some old → old.creator = index ∧ old.content = []) :
    Granted exclusive index call dir (dir.setPublic key file) := by
  have other : ∀ name old, dir.publics name = some old → (dir.publics key = some old → False) →
        (dir.setPublic key file).publics name = some old := by
    intro name old found foreign
    by_cases same : name = key
    · exact (foreign (same ▸ found)).elim
    · rwa [dir.publics_setPublic_of_ne same]
  refine .of_states_eq rfl ⟨fun _ stored => stored, fun _ _ _ found => found,
    fun name old _ found full => ?_⟩ (fun _ _ found _ => found) fun name old found foreign => ?_
  · exact other name old found fun there => full (own old there).2
  · exact other name old found fun there => foreign (own old there).1

/-- The process may write a state file for the key. -/
def Storable (index : Nat) (key : KeyId) (dir : Directory) : Prop :=
  dir.Stored key ∨ key.domain = .recovery ∨
    ∃ file, dir.privates key = some file ∧ file.creator = index

/-- A state file that says that an epoch of the domain is active. -/
def StateFile.activeIn (file : StateFile) (domain : Domain) : Bool :=
  match file with
  | .object (some doc) => doc.active = some true && doc.domain = some domain
  | _ => false

variable {dir : Directory} {file : StateFile}

theorem activeIn_setState_self :
    (dir.setState key file).activeIn domain key = file.activeIn domain := by
  unfold Directory.activeIn StateFile.activeIn
  rw [dir.lookup_setState_self]
  cases file with
  | invalid => rfl
  | object doc =>
    cases doc with
    | none => rfl
    | some doc => rfl

theorem activeIn_setState_of_ne (different : other ≠ key) :
    (dir.setState key file).activeIn domain other = dir.activeIn domain other := by
  unfold Directory.activeIn
  rw [dir.lookup_setState_of_ne file different]

theorem stored_setState_self : (dir.setState key file).Stored key := by
  unfold Directory.Stored
  rw [dir.lookup_setState_self]
  exact Option.some_ne_none _

theorem stored_setState {dir : Directory} (stored : dir.Stored other) :
    (dir.setState key file).Stored other := by
  by_cases same : other = key
  · subst same
    exact stored_setState_self
  · unfold Directory.Stored
    rw [dir.lookup_setState_of_ne file same]
    exact stored

/-- Writing a state file that the process may write. -/
theorem granted_setState
    (storable : Storable index key dir)
    (activates : ∀ domain, file.activeIn domain = true → call.activates = some domain)
    (sole : exclusive → ∀ domain, call.creates = some domain →
      file.activeIn domain = true → ∀ other, dir.activeIn domain other = false) :
    Granted exclusive index call dir (dir.setState key file) where
  kept :=
    { stored := fun _ stored => stored_setState stored
      privates := fun _ _ _ found => found
      publics := fun _ _ _ found _ => found }
  privates _ _ found _ := found
  publics _ _ found _ := found
  fresh := by
    intro other hot missing stored
    by_cases same : other = key
    · subst same
      rcases storable with there | recovery | own
      · exact absurd there missing
      · exact absurd recovery hot
      · exact own
    · unfold Directory.Stored at stored missing
      rw [dir.lookup_setState_of_ne file same] at stored
      exact absurd stored missing
  activates := by
    intro domain other active inactive
    by_cases same : other = key
    · subst same
      rw [activeIn_setState_self] at active
      exact activates domain active
    · rw [activeIn_setState_of_ne same] at active
      rw [active] at inactive
      cases inactive
  sole := by
    intro alone domain creates other active inactive third thirdActive
    by_cases same : other = key
    · subst same
      rw [activeIn_setState_self] at active
      by_contra different
      rw [activeIn_setState_of_ne different] at thirdActive
      rw [sole alone domain creates active third] at thirdActive
      cases thirdActive
    · rw [activeIn_setState_of_ne same] at active
      rw [active] at inactive
      cases inactive

end Operations

/-! ## What a process knows -/

section Knowledge

variable {exclusive : Prop} {index : Nat} {call : Call}

/-- Knowledge that the other processes do not disturb. -/
abbrev Steady (exclusive : Prop) (index : Nat) (call : Call) (known : Directory → Prop) : Prop :=
  Stable (Relied exclusive index call) known

theorem steady_true : Steady exclusive index call fun _ => True := fun _ _ _ _ => trivial

theorem steady_and
    (early : Steady exclusive index call first)
    (late : Steady exclusive index call second) :
    Steady exclusive index call fun dir => first dir ∧ second dir :=
  fun dir later both relied => ⟨early dir later both.1 relied, late dir later both.2 relied⟩

theorem steady_stored (key : KeyId) : Steady exclusive index call fun dir => dir.Stored key :=
  fun _ _ stored relied => relied.stored key stored

theorem steady_all_stored (states : List (KeyId × StateDoc)) :
    Steady exclusive index call fun dir => ∀ state ∈ states, dir.Stored state.1 :=
  fun _ _ stored relied state member => relied.stored state.1 (stored state member)

/-- A hot key whose private file is the own one is stored by nobody else. -/
theorem steady_owned (hot : key.domain ≠ .recovery) : Steady exclusive index call fun dir =>
      dir.privates key = some ⟨index, content⟩ ∧ ¬ dir.Stored key := by
  rintro dir later ⟨found, unstored⟩ relied
  have kept := relied.privates key _ found rfl
  refine ⟨kept, fun stored => ?_⟩
  obtain ⟨file, other, foreign⟩ := relied.fresh key hot unstored stored
  rw [kept] at other
  cases other
  exact foreign rfl

/-- A hot key that was not stored has a private file once it is. -/
theorem steady_reserved (hot : key.domain ≠ .recovery) :
    Steady exclusive index call fun dir => dir.Stored key → dir.privates key ≠ none := by
  intro dir later reserved relied stored
  by_cases before : dir.Stored key
  · obtain ⟨file, found⟩ := Option.ne_none_iff_exists'.mp (reserved before)
    rw [relied.kept key file before found]
    exact Option.some_ne_none file
  · obtain ⟨file, found, -⟩ := relied.fresh key hot before stored
    rw [found]
    exact Option.some_ne_none file

/-- The active epochs of the domain of a creation are among given ones. -/
theorem steady_active
    (creates : call.creates = some domain)
    (hot : domain ≠ .recovery)
    (known : KeyId → Prop) : Steady exclusive index call fun dir =>
      exclusive → ∀ key, dir.activeIn domain key = true → known key :=
  fun _ _ covered relied alone key active =>
    covered alone key (relied.quiet alone domain creates hot key active)

/-- The rely-guarantee judgement for tasks of a call. -/
abbrev Task.Holds {Value : Type} (exclusive : Prop) (index : Nat) (call : Call)
    (task : Task Value) (before : Directory → Prop) (after : Value → Directory → Prop) : Prop :=
  task.Sound (Directory.effect index) (Relied exclusive index call)
    (Granted exclusive index call) before after

theorem holds_of_readOnly (reads : ReadOnly task) (steady : Steady exclusive index call known) :
    Task.Holds exclusive index call task known fun _ => known :=
  (reads index).sound Granted.refl steady

/-- Require a condition and keep what is known. -/
theorem holds_require :
    Task.Holds exclusive index call (require condition fault) known
      fun _ dir => known dir ∧ condition = true := by
  cases condition with
  | true => exact fun _ holds => ⟨holds, rfl⟩
  | false => trivial

/-! ## Reading states -/

/-- A state that has been read says whether the key is active in the domain of a
creation, and that it is stored. -/
def ReadAs (exclusive : Prop) (call : Call) (key : KeyId) (state : Option StateDoc)
    (dir : Directory) : Prop :=
  (state.isSome → dir.Stored key) ∧
    (exclusive → ∀ domain, call.creates = some domain → domain ≠ .recovery →
      dir.activeIn domain key = true →
        ∃ doc, state = some doc ∧ doc.active = some true ∧ doc.domain = some domain)

theorem steady_readAs : Steady exclusive index call (ReadAs exclusive call key state) := by
  rintro dir later ⟨stored, covered⟩ relied
  refine ⟨fun present => relied.stored key (stored present), ?_⟩
  intro alone domain creates hot active
  exact covered alone domain creates hot (relied.quiet alone domain creates hot key active)

/-- What the object of a file says. -/
theorem readAs_object (found : dir.states.lookup key = some (.object state)) :
    ReadAs exclusive call key state dir := by
  refine ⟨fun _ missing => ?_, fun _ domain _ _ active => ?_⟩
  · rw [found] at missing
    cases missing
  · unfold Directory.activeIn at active
    rw [found] at active
    cases state with
    | none => cases active
    | some doc =>
      simp only [Bool.and_eq_true, decide_eq_true_eq] at active
      exact ⟨doc, rfl, active⟩

theorem readAs_missing (missing : dir.states.lookup key = none) :
    ReadAs exclusive call key none dir := by
  refine ⟨fun present => ?_, fun _ domain _ _ active => ?_⟩
  · cases present
  · unfold Directory.activeIn at active
    rw [missing] at active
    cases active

theorem holds_readStateDoc (steady : Steady exclusive index call known) :
    Task.Holds exclusive index call (readStateDoc key) known fun state dir =>
      known dir ∧ ReadAs exclusive call key state dir := by
  refine sound_act (fun (file : Option StateFile) dir => known dir ∧ match file with
      | none => ReadAs exclusive call key none dir
      | some .invalid => True
      | some (.object state) => ReadAs exclusive call key state dir)
    (fun dir _ => Granted.refl dir) ?_ ?_ ?_
  · intro dir holds
    refine ⟨holds, ?_⟩
    change match dir.states.lookup key with
      | none => ReadAs exclusive call key none dir
      | some .invalid => True
      | some (.object state) => ReadAs exclusive call key state dir
    cases found : dir.states.lookup key with
    | none => exact readAs_missing found
    | some file =>
      cases file with
      | invalid => trivial
      | object state => exact readAs_object found
  · intro file
    cases file with
    | none => exact steady_and steady steady_readAs
    | some file =>
      cases file with
      | invalid => exact steady_and steady steady_true
      | object state => exact steady_and steady steady_readAs
  · intro file
    cases file with
    | none => exact fun _ holds => holds
    | some file =>
      cases file with
      | invalid => trivial
      | object state => exact fun _ holds => holds

variable {codec : Codec}

/-- An epoch that is read is stored. -/
theorem holds_getEpoch (steady : Steady exclusive index call known) :
    Task.Holds exclusive index call (getEpoch codec key) known
      fun _ dir => known dir ∧ dir.Stored key := by
  have keeps := steady_and steady (steady_stored key)
  have validated : Task.Holds exclusive index call (validatedEpoch codec key) known
      fun _ dir => known dir ∧ dir.Stored key := by
    refine sound_bind (holds_readStateDoc steady) fun state => ?_
    cases state with
    | none => trivial
    | some doc =>
      refine (holds_of_readOnly (readOnly_checkEpoch codec key) keeps).mono ?_
        fun _ _ holds => holds
      exact fun dir holds => ⟨holds.1, holds.2.1 rfl⟩
  exact sound_bind validated fun _ _ holds => holds

/-- The states are stored, and the active epochs of the domain of a creation are
among given ones or among the states. -/
def Covered (exclusive : Prop) (call : Call) (domain : Domain) (known : KeyId → Prop)
    (states : List (KeyId × StateDoc)) (dir : Directory) : Prop :=
  (∀ state ∈ states, dir.Stored state.1) ∧
    (exclusive → call.creates = some domain → domain ≠ .recovery →
      ∀ key, dir.activeIn domain key = true →
        known key ∨ ∃ doc, (key, doc) ∈ states ∧ doc.active = some true)

theorem steady_covered :
    Steady exclusive index call (Covered exclusive call domain known states) := by
  rintro dir later ⟨stored, covered⟩ relied
  refine ⟨steady_all_stored states dir later stored relied, ?_⟩
  intro alone creates hot key active
  exact covered alone creates hot key (relied.quiet alone domain creates hot key active)

/-- A state of the domain that has been read covers its key. -/
theorem Covered.snoc
    {domain : Domain}
    {known : KeyId → Prop}
    (covered : Covered exclusive call domain
      (fun other => known other ∨ other ∈ key :: rest) states dir)
    (read : ReadAs exclusive call key (some doc) dir) :
    Covered exclusive call domain (fun other => known other ∨ other ∈ rest)
      (states ++ [(key, doc)]) dir := by
  refine ⟨?_, fun alone creates hot other active => ?_⟩
  · intro state member
    rcases List.mem_append.mp member with early | last
    · exact covered.1 state early
    · rw [List.mem_singleton.mp last]
      exact read.1 rfl
  · rcases covered.2 alone creates hot other active with
      (before | listed) | ⟨found, member, isActive⟩
    · exact Or.inl (Or.inl before)
    · rcases List.mem_cons.mp listed with rfl | later
      · obtain ⟨own, isOwn, isActive, -⟩ := read.2 alone domain creates hot active
        cases isOwn
        exact Or.inr ⟨doc, by simp, isActive⟩
      · exact Or.inl (Or.inr later)
    · exact Or.inr ⟨found, List.mem_append_left _ member, isActive⟩

/-- A state that is not one of the domain leaves nothing to cover. -/
theorem Covered.skip
    {domain : Domain}
    {known : KeyId → Prop}
    (covered : Covered exclusive call domain
      (fun other => known other ∨ other ∈ key :: rest) states dir)
    (read : ReadAs exclusive call key state dir)
    (foreign : ∀ doc, state = some doc → doc.domain ≠ some domain) :
    Covered exclusive call domain (fun other => known other ∨ other ∈ rest) states dir := by
  refine ⟨covered.1, fun alone creates hot other active => ?_⟩
  rcases covered.2 alone creates hot other active with (before | listed) | found
  · exact Or.inl (Or.inl before)
  · rcases List.mem_cons.mp listed with rfl | later
    · obtain ⟨own, isOwn, -, inDomain⟩ := read.2 alone domain creates hot active
      exact absurd inDomain (foreign own isOwn)
    · exact Or.inl (Or.inr later)
  · exact Or.inr found

theorem holds_collectStates
    (states : List (KeyId × StateDoc)) :
    Task.Holds exclusive index call (collectStates codec domain keys)
      (Covered exclusive call domain (fun key => known key ∨ key ∈ keys) states)
      fun others => Covered exclusive call domain known (states ++ others) := by
  induction keys generalizing states with
  | nil =>
    rintro dir ⟨stored, covered⟩
    rw [List.append_nil]
    refine ⟨stored, fun alone creates hot key active => ?_⟩
    simpa using covered alone creates hot key active
  | cons key rest ih =>
    have steady : Steady exclusive index call (Covered exclusive call domain
        (fun other => known other ∨ other ∈ key :: rest) states) :=
      steady_covered
    refine sound_bind (holds_readStateDoc steady) fun state => ?_
    refine sound_bind (holds_of_readOnly (readOnly_getEpoch codec key)
      (steady_and steady steady_readAs)) fun _ => ?_
    cases state with
    | none =>
      refine sound_bind ((ih states).mono ?_ fun _ _ holds => holds) fun _ _ holds => holds
      exact fun dir both => both.1.skip both.2 nofun
    | some doc =>
      by_cases inDomain : doc.domain = some domain
      · refine sound_bind ((ih (states ++ [(key, doc)])).mono ?_
          fun _ _ holds => holds) fun others => ?_
        · exact fun dir both => both.1.snoc both.2
        · simp only [if_pos inDomain]
          intro dir holds
          rwa [List.append_assoc] at holds
      · refine sound_bind ((ih states).mono ?_ fun _ _ holds => holds) fun others => ?_
        · refine fun dir both => both.1.skip both.2 fun found same => ?_
          cases same
          exact inDomain
        · simp only [if_neg inDomain]
          exact fun _ holds => holds

theorem mem_keys_of_activeIn
    {dir : Directory}
    (active : dir.activeIn domain key = true) : key ∈ dir.states.map Prod.fst := by
  unfold Directory.activeIn at active
  cases found : dir.states.lookup key with
  | none =>
    rw [found] at active
    cases active
  | some file => exact List.mem_map_of_mem (OrderedMap.mem_of_lookup found)

variable {domain : Domain}

/-- The states that are listed are stored, and they cover the active epochs. -/
theorem holds_statesForDomain :
    Task.Holds exclusive index call (statesForDomain codec domain) (fun _ => True)
      (Covered exclusive call domain fun _ => False) := by
  refine sound_act (fun (keys : List KeyId) =>
      Covered exclusive call domain (fun key => False ∨ key ∈ keys) [])
    (fun dir _ => Granted.refl dir) ?_ (fun keys => steady_covered) ?_
  · refine fun dir _ => ⟨fun state member => absurd member List.not_mem_nil, ?_⟩
    exact fun _ _ _ key active => Or.inl (Or.inr (mem_keys_of_activeIn active))
  · intro keys
    exact holds_collectStates []

theorem holds_getEpochs (steady : Steady exclusive index call known) :
    Task.Holds exclusive index call (getEpochs codec keys) known
      fun epochs dir => known dir ∧ epochs.length = keys.length := by
  induction keys with
  | nil => exact fun _ holds => ⟨holds, rfl⟩
  | cons key rest ih =>
    refine sound_bind (holds_of_readOnly (readOnly_getEpoch codec key) steady) fun epoch => ?_
    refine sound_bind ih fun others => ?_
    exact fun _ both => ⟨both.1, congrArg Nat.succ both.2⟩

/-- If no active epoch of its domain is found, a creation knows that there is none. -/
theorem holds_activeEpochForDomain :
    Task.Holds exclusive index call (activeEpochForDomain codec domain) (fun _ => True)
      fun epoch dir => epoch = none → exclusive → call.creates = some domain →
        domain ≠ .recovery → ∀ key, dir.activeIn domain key = false := by
  refine sound_bind (holds_statesForDomain) fun states => ?_
  refine sound_bind (holds_getEpochs steady_covered) fun epochs => ?_
  refine sound_bind holds_require fun _ => ?_
  rintro dir ⟨⟨covered, same⟩, -⟩ none alone creates hot key
  have empty : activeKeys states = [] := by
    rw [← List.length_eq_zero_iff, ← same, List.length_eq_zero_iff]
    exact List.head?_eq_none_iff.mp none
  by_contra active
  rw [Bool.not_eq_false] at active
  rcases covered.2 alone creates hot key active with impossible | ⟨doc, member, isActive⟩
  · exact impossible
  · have listed : key ∈ activeKeys states :=
      List.mem_map.mpr ⟨(key, doc), List.mem_filter.mpr ⟨member, by simp [isActive]⟩, rfl⟩
    rw [empty] at listed
    cases listed

/-! ## Writing -/

/-- A state file is truncated and written by a process that may do so. -/
theorem holds_writePrivateJson
    (steady : Steady exclusive index call known)
    (steadyAfter : Steady exclusive index call after)
    (storable : ∀ dir, known dir → Storable index key dir)
    (activates : ∀ domain, (StateFile.object (some doc)).activeIn domain = true →
      call.activates = some domain)
    (sole : ∀ dir, known dir → exclusive → ∀ domain, call.creates = some domain →
      (StateFile.object (some doc)).activeIn domain = true →
        ∀ other, dir.activeIn domain other = false)
    (truncates : ∀ dir, known dir → known (dir.setState key .invalid))
    (writes : ∀ dir, known dir → after (dir.setState key (.object (some doc)))) :
    Task.Holds exclusive index call (writePrivateJson key doc) known fun _ => after := by
  refine sound_act (fun _ => known) (fun dir holds => ?_) truncates (fun _ => steady)
    fun _ => sound_act (fun _ => after) (fun dir holds => ?_) writes (fun _ => steadyAfter)
      fun _ _ holds => holds
  · refine granted_setState (storable dir holds) (fun domain active => ?_)
      fun _ domain _ active => ?_
    · cases active
    · cases active
  · exact granted_setState (storable dir holds) activates (sole dir holds)

/-- Writing an inactive state over a stored one. -/
theorem holds_retire
    {key : KeyId}
    {doc : StateDoc}
    (steady : Steady exclusive index call known)
    (stored : ∀ dir, known dir → dir.Stored key)
    (keeps : ∀ dir file, known dir → known (dir.setState key file)) :
    Task.Holds exclusive index call
      (writePrivateJson key { doc with active := some false }) known fun _ => known := by
  have inactive : ∀ domain,
      (StateFile.object (some { doc with active := some false })).activeIn domain = false := by
    intro domain
    simp [StateFile.activeIn]
  refine holds_writePrivateJson steady steady (fun dir holds => Or.inl (stored dir holds))
    (fun domain active => ?_) (fun dir _ _ domain _ active => ?_)
    (fun dir holds => keeps dir _ holds) fun dir holds => keeps dir _ holds
  · rw [inactive] at active
    cases active
  · rw [inactive] at active
    cases active

/-- Creating a public file exclusively. -/
theorem holds_createPublic
    (steady : Steady exclusive index call known)
    (keeps : ∀ dir file, known dir → known (dir.setPublic key file)) :
    Task.Holds exclusive index call (onFile (.createPublic key)) known fun created dir =>
      known dir ∧ (created = true → dir.publics key = some ⟨index, []⟩) := by
  refine sound_act (fun (created : Bool) dir => known dir ∧
      (created = true → dir.publics key = some ⟨index, []⟩))
    (fun dir _ => ?_) (fun dir holds => ?_) ?_ fun _ _ holds => holds
  · by_cases there : (dir.publics key).isSome = true
    · simp only [Directory.effect, if_pos there]
      exact Granted.refl dir
    · simp only [Directory.effect, if_neg there]
      refine granted_setPublic fun old found => ?_
      rw [found] at there
      exact absurd rfl there
  · by_cases there : (dir.publics key).isSome = true
    · simp only [Directory.effect, if_pos there]
      exact ⟨holds, nofun⟩
    · simp only [Directory.effect, if_neg there]
      exact ⟨keeps dir _ holds, fun _ => dir.publics_setPublic_self⟩
  · rintro created dir later ⟨holds, own⟩ relied
    exact ⟨steady dir later holds relied, fun isCreated =>
      relied.publics key _ (own isCreated) rfl⟩

variable {payload : Bytes}

/-- Filling the own public file. -/
theorem holds_fillPublic
    (steady : Steady exclusive index call known)
    (keeps : ∀ dir file, known dir → known (dir.setPublic key file)) :
    Task.Holds exclusive index call (onFile (.fillPublic key payload))
      (fun dir => known dir ∧ (true = true → dir.publics key = some ⟨index, []⟩))
      fun _ => known := by
  refine sound_act (fun _ => known) (fun dir both => ?_)
    (fun dir both => keeps dir _ both.1) (fun _ => steady) fun _ _ holds => holds
  refine granted_setPublic fun old found => ?_
  rw [both.2 rfl] at found
  cases found
  exact ⟨rfl, rfl⟩

/-- A drawn key had no state file when it was drawn. -/
theorem holds_newKeyId
    (hot : domain ≠ .recovery)
    (steady : Steady exclusive index call known) :
    Task.Holds exclusive index call (newKeyId domain draws) known fun key dir =>
      known dir ∧ key.domain = domain ∧ (dir.Stored key → dir.privates key ≠ none) := by
  induction draws with
  | nil => trivial
  | cons suffix rest ih =>
    have reserved : Steady exclusive index call fun dir =>
        dir.Stored ⟨domain, suffix⟩ → dir.privates ⟨domain, suffix⟩ ≠ none :=
      steady_reserved hot
    refine sound_act (fun (taken : Bool) dir => known dir ∧ (taken = false →
        dir.Stored ⟨domain, suffix⟩ → dir.privates ⟨domain, suffix⟩ ≠ none))
      (fun dir _ => Granted.refl dir) ?_ ?_ ?_
    · refine fun dir holds => ⟨holds, fun free stored => absurd ?_ stored⟩
      exact Option.isSome_eq_false_iff.mp free |> Option.isNone_iff_eq_none.mp
    · rintro taken dir later ⟨holds, free⟩ relied
      exact ⟨steady dir later holds relied, fun untaken =>
        reserved dir later (free untaken) relied⟩
    · intro taken
      cases taken with
      | true => exact ih.mono (fun _ both => both.1) fun _ _ holds => holds
      | false => exact fun _ both => ⟨both.1, rfl, both.2 rfl⟩

/-- A creation in the domain of the key knows that nothing is active there. -/
def NoneActive (exclusive : Prop) (domain : Domain) (dir : Directory) : Prop :=
  exclusive → ∀ key, dir.activeIn domain key = true → False

/-- A creation owns the private file of a key that is not stored. -/
def Owned (exclusive : Prop) (index : Nat) (key : KeyId) (content : Bytes)
    (dir : Directory) : Prop :=
  NoneActive exclusive key.domain dir ∧ dir.privates key = some ⟨index, content⟩ ∧ ¬ dir.Stored key

section Creation

variable {key : KeyId} (creates : call.creates = some key.domain) (hot : key.domain ≠ .recovery)

include creates hot

theorem steady_noneActive : Steady exclusive index call (NoneActive exclusive key.domain) :=
  steady_active creates hot fun _ => False

theorem steady_isOwned : Steady exclusive index call (Owned exclusive index key content) :=
  steady_and (steady_noneActive creates hot) (steady_owned hot)

omit creates hot in
theorem granted_of_owned (owned : Owned exclusive index key content dir) (file : Option KeyFile) :
    Granted exclusive index call dir (dir.setPrivate key file) := by
  refine granted_setPrivate (Or.inr owned.2.2) fun old found => ?_
  rw [owned.2.1] at found
  cases found
  rfl

/-- Destroying the own private file. -/
theorem holds_withdrawPrivate :
    Task.Holds exclusive index call (withdrawPrivate key)
      (Owned exclusive index key content) fun _ _ => True := by
  refine sound_act (fun _ => Owned exclusive index key (List.replicate content.length 0))
    (fun dir owned => granted_of_owned owned _) (fun dir owned => ?_)
    (fun _ => steady_isOwned creates hot) fun _ => ?_
  · refine ⟨owned.1, ?_, owned.2.2⟩
    simp [Directory.effect, owned.2.1]
  · exact sound_act (fun _ _ => True) (fun dir owned => granted_of_owned owned none)
      (fun _ _ => trivial) (fun _ => steady_true) fun _ => trivial

section

variable (activates : call.activates = some key.domain)
include activates

variable {generation now : Nat}

/-- Storing an epoch whose private file is the own one. -/
theorem holds_storeEpoch :
    Task.Holds exclusive index call (writePrivateJson key (createdState key generation now))
      (Owned exclusive index key content) fun _ _ => True := by
  have domain_eq : ∀ domain,
      (StateFile.object (some (createdState key generation now))).activeIn domain = true →
        domain = key.domain := by
    intro domain active
    simp only [StateFile.activeIn, createdState, Bool.and_eq_true, decide_eq_true_eq,
      Option.some.injEq] at active
    exact active.2.symm
  have known : Steady exclusive index call fun dir =>
      NoneActive exclusive key.domain dir ∧ dir.privates key = some ⟨index, content⟩ :=
    steady_and (steady_noneActive creates hot) fun _ _ found relied =>
      relied.privates key _ found rfl
  refine (holds_writePrivateJson known steady_true (fun dir holds => ?_)
    (fun domain active => ?_) (fun dir holds alone domain _ active other => ?_)
    (fun dir holds => ⟨fun alone other active => ?_, holds.2⟩)
    fun _ _ => trivial).mono (fun dir owned => ⟨owned.1, owned.2.1⟩) fun _ _ holds => holds
  · exact Or.inr (Or.inr ⟨_, holds.2, rfl⟩)
  · rw [domain_eq domain active]
    exact activates
  · rw [domain_eq domain active]
    by_contra isActive
    exact holds.1 alone other (by simpa using isActive)
  · by_cases same : other = key
    · subst same
      rw [activeIn_setState_self] at active
      cases active
    · rw [activeIn_setState_of_ne same] at active
      exact holds.1 alone other active

/-- The public file and the state of an epoch whose private file is the own one. -/
theorem holds_publishEpoch :
    Task.Holds exclusive index call (publishEpoch key payload (createdState key generation now))
      (Owned exclusive index key content) fun _ _ => True := by
  have steady : Steady exclusive index call (Owned exclusive index key content) :=
    steady_isOwned creates hot
  refine sound_bind (holds_createPublic steady fun _ _ owned => owned) fun published => ?_
  cases published with
  | false =>
    exact (holds_withdrawPrivate creates hot).mono (fun _ both => both.1) fun _ _ holds => holds
  | true =>
    refine sound_bind (holds_fillPublic steady fun _ _ owned => owned) fun _ => ?_
    exact holds_storeEpoch creates hot activates

/-- The files of a new epoch, whose key had no state file when it was drawn. -/
theorem holds_writeEpoch : Task.Holds exclusive index call
      (writeEpoch key seed payload (createdState key generation now))
      (fun dir => NoneActive exclusive key.domain dir ∧ (dir.Stored key → dir.privates key ≠ none))
      fun _ _ => True := by
  refine sound_act (fun (created : Bool) dir => created = true → Owned exclusive index key [] dir)
    (fun dir holds => ?_) (fun dir holds => ?_) ?_ fun created => ?_
  · by_cases there : (dir.privates key).isSome = true
    · simp only [Directory.effect, if_pos there]
      exact Granted.refl dir
    · simp only [Directory.effect, if_neg there]
      have missing : dir.privates key = none := by simpa using there
      refine granted_setPrivate (Or.inl missing) fun old found => ?_
      rw [missing] at found
      cases found
  · by_cases there : (dir.privates key).isSome = true
    · simp only [Directory.effect, if_pos there]
      exact nofun
    · simp only [Directory.effect, if_neg there]
      have missing : dir.privates key = none := by simpa using there
      -- The private file was missing, so nobody has stored the key since the draw.
      refine fun _ => ⟨holds.1, dir.privates_setPrivate_self, fun stored => ?_⟩
      exact holds.2 stored missing
  · intro created dir later own relied isCreated
    exact steady_isOwned creates hot dir later (own isCreated) relied
  · cases created with
    | false => trivial
    | true =>
      refine sound_act (fun _ => Owned exclusive index key seed)
        (fun dir own => granted_of_owned (own rfl) _) (fun dir own => ?_)
        (fun _ => steady_isOwned creates hot) fun _ =>
          holds_publishEpoch creates hot activates
      refine ⟨(own rfl).1, ?_, (own rfl).2.2⟩
      simp [Directory.effect, fill, (own rfl).2.1]

end

end Creation

variable {now : Nat}

/-- Creating an epoch. -/
theorem holds_createEpoch
    (creates : call.creates = some domain)
    (activates : call.activates = some domain) :
    Task.Holds exclusive index call (createEpoch codec domain draws seed now)
      (fun _ => True) fun _ _ => True := by
  by_cases recovery : domain = .recovery
  · subst recovery
    trivial
  · refine sound_bind holds_require fun _ => ?_
    refine sound_bind ((holds_activeEpochForDomain).mono
      (fun _ _ => trivial) fun _ _ holds => holds) fun existing => ?_
    cases existing with
    | some epoch => exact fun _ _ => trivial
    | none =>
      have quiet : Steady exclusive index call (NoneActive exclusive domain) :=
        steady_active creates recovery fun _ => False
      refine Sound.mono (?_ : Task.Holds exclusive index call _
        (NoneActive exclusive domain) _) (fun dir none alone key active => ?_)
        fun _ _ holds => holds
      · refine sound_bind (holds_of_readOnly (readOnly_nextGeneration codec domain) quiet)
          fun generation => ?_
        refine sound_bind (holds_newKeyId recovery quiet) fun key => ?_
        cases codec.derivePublicPayload key seed.bytes with
        | none => trivial
        | some payload =>
          by_cases sameDomain : key.domain = domain
          · subst sameDomain
            refine sound_bind ((holds_writeEpoch creates recovery activates).mono
              (fun dir holds => ?_) fun _ _ holds => holds) fun _ _ _ => trivial
            exact ⟨holds.1, holds.2.2⟩
          · exact sound_of_impossible (fun dir holds => sameDomain holds.2.1) _
      · rw [none rfl alone creates recovery key] at active
        cases active

/-- Retiring an epoch. -/
theorem holds_retireEpoch :
    Task.Holds exclusive index call (retireEpoch codec key) (fun _ => True) fun _ _ => True := by
  have stored : Steady exclusive index call fun dir => dir.Stored key := steady_stored key
  refine sound_bind (holds_getEpoch steady_true) fun epoch => ?_
  refine Sound.mono (?_ : Task.Holds exclusive index call _
    (fun dir => dir.Stored key) _) (fun _ both => both.2) fun _ _ holds => holds
  refine sound_bind (holds_of_readOnly (readOnly_readStateDoc key) stored) fun state => ?_
  refine sound_bind (holds_retire stored (fun _ holds => holds) fun dir file _ =>
    stored_setState_self) fun _ => ?_
  refine sound_bind (holds_of_readOnly (readOnly_onFile fun _ _ => rfl) stored) fun _ _ _ => trivial

/-- Retiring the other epochs that were read. -/
theorem holds_retireOthers :
    Task.Holds exclusive index call (retireOthers key states)
      (fun dir => ∀ state ∈ states, dir.Stored state.1) fun _ _ => True := by
  induction states with
  | nil => exact fun _ _ => trivial
  | cons state rest ih =>
    obtain ⟨other, doc⟩ := state
    have keeps : ∀ (dir : Directory) (file : StateFile),
        (∀ state ∈ (other, doc) :: rest, dir.Stored state.1) →
          ∀ state ∈ (other, doc) :: rest, (dir.setState other file).Stored state.1 :=
      fun dir file stored state member => stored_setState (stored state member)
    have later := ih.mono
      (fun (dir : Directory) (stored : ∀ state ∈ (other, doc) :: rest, dir.Stored state.1)
        state member => stored state (List.mem_cons_of_mem _ member))
      fun _ _ holds => holds
    unfold retireOthers
    split_ifs with skipped
    · exact later
    · refine sound_bind (holds_retire (steady_all_stored _) (fun dir stored => ?_) keeps)
        fun _ => later
      exact stored (other, doc) List.mem_cons_self

/-- The public file of an import. -/
theorem holds_placePublic :
    Task.Holds exclusive index call (placePublic key payload) (fun _ => True) fun _ _ => True := by
  refine sound_bind (holds_of_readOnly (readOnly_onFile fun _ _ => rfl) steady_true) fun there => ?_
  cases there with
  | true =>
    refine holds_of_readOnly (readOnly_bind (readOnly_onFile fun _ _ => rfl)
      fun _ => readOnly_require _ _) steady_true
  | false =>
    refine sound_bind (holds_createPublic steady_true fun _ _ _ => trivial) fun created => ?_
    cases created with
    | false => trivial
    | true => exact holds_fillPublic steady_true fun _ _ _ => trivial

/-- The state that an import writes. -/
theorem holds_storeImport
    (recovery : key.domain = .recovery)
    (creates : call.creates = none)
    (activates : call.activates = some .recovery) :
    Task.Holds exclusive index call
      (writePrivateJson key (importedState key generation createdAt)) (fun _ => True)
      fun _ _ => True := by
  refine holds_writePrivateJson steady_true steady_true
    (fun _ _ => Or.inr (Or.inl recovery)) (fun domain active => ?_)
    (fun dir _ _ domain creating => ?_) (fun _ _ => trivial) fun _ _ => trivial
  · simp only [StateFile.activeIn, importedState, Bool.and_eq_true, decide_eq_true_eq,
      Option.some.injEq] at active
    rw [activates, active.2]
  · rw [creates] at creating
    cases creating

/-- What an import writes. -/
theorem holds_activateImport
    (recovery : key.domain = .recovery)
    (creates : call.creates = none)
    (activates : call.activates = some .recovery) :
    Task.Holds exclusive index call (activateImport codec key payload previous now)
      (fun _ => True) fun _ _ => True := by
  refine sound_bind holds_placePublic fun _ => ?_
  refine sound_bind (holds_of_readOnly (readOnly_importGeneration codec previous)
    steady_true) fun generation => ?_
  refine sound_bind (holds_storeImport recovery creates activates) fun _ => ?_
  refine sound_bind (holds_statesForDomain) fun states => ?_
  refine sound_bind ((holds_retireOthers).mono (fun _ covered => covered.1)
    fun _ _ holds => holds) fun _ => ?_
  exact fun _ _ => trivial

/-- Importing an epoch. -/
theorem holds_importPublicEpoch
    (creates : call.creates = none)
    (activates : call.activates = some .recovery) :
    Task.Holds exclusive index call (importPublicEpoch codec payload now) (fun _ => True)
      fun _ _ => True := by
  unfold importPublicEpoch
  cases codec.parsePublic payload with
  | none => trivial
  | some identity =>
    obtain ⟨key, slot⟩ := identity
    have reading : ∀ {Value : Type} {task : Task Value}, ReadOnly task →
        Task.Holds exclusive index call task (fun _ => True) fun _ _ => True :=
      fun reads => holds_of_readOnly reads steady_true
    refine sound_bind (reading (readOnly_require _ _)) fun _ => ?_
    by_cases recovery : key.domain = .recovery
    · refine sound_bind (reading (readOnly_require _ _)) fun _ => ?_
      refine sound_bind (reading (readOnly_require _ _)) fun _ => ?_
      refine sound_bind (reading (readOnly_onFile fun _ _ => rfl)) fun _ => ?_
      refine sound_bind (reading (readOnly_require _ _)) fun _ => ?_
      refine sound_bind (reading (readOnly_readStateDoc key)) fun previous => ?_
      cases previous with
      | none => exact holds_activateImport recovery creates activates
      | some doc =>
        exact sound_bind (reading (readOnly_getEpoch codec key)) fun _ =>
          holds_activateImport recovery creates activates
    · simp only [recovery]
      trivial

/-- Every call keeps to what it guarantees, whatever state it begins in. -/
theorem holds_task :
    Task.Holds exclusive index call (call.task codec) (fun _ => True) fun _ _ => True := by
  cases call with
  | create domain draws seed now => exact holds_createEpoch rfl rfl
  | importPublic payload now => exact holds_importPublicEpoch rfl rfl
  | retire key => exact sound_bind holds_retireEpoch fun _ _ _ => trivial

end Knowledge

/-! ## Whole runs -/

section Runs

variable (exclusive : Prop) (codec : Codec)

/-- A call that is under way stands where it knows enough to go on. -/
def UnderWay (dir : Directory) (index : Nat) (thread : RegistryThread) : Prop :=
  thread.busy = true →
    Stands (Directory.effect index) (Relied exclusive index thread.call)
      (Granted exclusive index thread.call) dir (thread.process (Call.task codec))

/-- The invariant of the runs. -/
abbrev Regular (config : Config Directory RegistryThread) : Prop :=
  Program.Annotated (fun dir => exclusive → AtMostOneActive dir) (UnderWay exclusive codec)
    (fun _ _ => True) config

variable {exclusive codec}

/-- A call that takes a step stands where it knows enough, be it its first step. -/
theorem stands_of_step
    (underWay : UnderWay exclusive codec dir index thread)
    (process : thread.process (Call.task codec) = .act op rest) :
    Stands (Directory.effect index) (Relied exclusive index thread.call)
      (Granted exclusive index thread.call) dir (.act op rest) := by
  obtain ⟨call, left⟩ := thread
  cases left with
  | none =>
    rw [← process]
    exact ⟨fun _ => True, steady_true, trivial, holds_task⟩
  | some left =>
    subst process
    exact underWay rfl

/-- A step of an orderly run keeps clear of the other creations that are under way. -/
theorem orderly_apart
    (isOrderly : orderly codec config (.act index choice) = true)
    (present : config.threads[index]? = some thread)
    (different : other ≠ index)
    (otherPresent : config.threads[other]? = some otherThread)
    (busy : otherThread.busy = true)
    (creates : otherThread.call.creates = some domain)
    (hot : domain ≠ .recovery) :
    thread.call.activates ≠ some domain := by
  simp only [orderly, present, Bool.and_eq_true] at isOrderly
  intro activates
  have creating : thread.call.creates = some domain := by
    cases called : thread.call with
    | create own draws seed now =>
      rw [called] at activates
      exact activates
    | importPublic payload now =>
      rw [called] at activates
      cases activates
      exact absurd rfl hot
    | retire key =>
      rw [called] at activates
      cases activates
  have alone := isOrderly.1
  rw [creating] at alone
  have member : (otherThread, other) ∈ config.threads.zipIdx :=
    List.mem_zipIdx_iff_getElem?.mpr otherPresent
  simp only [Option.isNone_some, Bool.false_or, List.all_eq_true] at alone
  have clear := alone _ member
  simp [different, busy, creates] at clear

theorem mem_activeList
    {dir : Directory}
    (active : dir.activeIn domain key = true) : key ∈ dir.activeList domain :=
  List.mem_filter.mpr ⟨mem_keys_of_activeIn active, active⟩

/-- An epoch becomes active by the operation that makes it so. -/
theorem makesActive_of_activeIn
    (active : (Directory.effect index dir op).1.activeIn domain key = true)
    (inactive : dir.activeIn domain key = false) :
    op.makesActive domain = some key ∧
      ∀ other, (Directory.effect index dir op).1.activeIn domain other = true →
        other = key ∨ dir.activeIn domain other = true := by
  have still : ∀ after : Directory, after.states = dir.states →
      after.activeIn domain key = false := by
    intro after same
    unfold Directory.activeIn at inactive ⊢
    rwa [same]
  cases op with
  | writeState written doc =>
    have own : written = key := by
      by_contra different
      rw [Directory.effect, activeIn_setState_of_ne (Ne.symm different), inactive] at active
      cases active
    subst own
    rw [Directory.effect, activeIn_setState_self, StateFile.activeIn, Bool.and_eq_true,
      decide_eq_true_eq, decide_eq_true_eq] at active
    refine ⟨if_pos active, fun other otherActive => or_iff_not_imp_left.mpr fun different => ?_⟩
    rwa [Directory.effect, activeIn_setState_of_ne different] at otherActive
  | truncateState written =>
    by_cases own : key = written
    · subst own
      rw [Directory.effect, activeIn_setState_self] at active
      cases active
    · rw [Directory.effect, activeIn_setState_of_ne own, inactive] at active
      cases active
  | createPrivate | createPublic =>
    rw [Directory.effect] at active
    split at active <;> exact absurd active (ne_true_of_eq_false (still _ rfl))
  | _ => exact absurd active (ne_true_of_eq_false (still _ rfl))

/-- A step of an orderly run keeps the active epochs of each domain unique. -/
theorem atMostOneActive_of_granted
    (isOrderly : orderly codec config (.act index choice) = true)
    (present : config.threads[index]? = some thread)
    (process : thread.process (Call.task codec) = .act op rest)
    (granted : Granted True index thread.call config.shared
      (Directory.effect index config.shared op).1)
    (unique : AtMostOneActive config.shared) :
    AtMostOneActive (Directory.effect index config.shared op).1 := by
  have newly : ∀ domain key,
      (Directory.effect index config.shared op).1.activeIn domain key = true →
      config.shared.activeIn domain key = false →
        ∀ other, (Directory.effect index config.shared op).1.activeIn domain other = true →
          other = key := by
    intro domain key active inactive other otherActive
    have activates := granted.activates domain key active inactive
    cases called : thread.call with
    | create own draws seed now =>
      rw [called] at activates
      exact granted.sole trivial domain (by rw [called]; exact activates) key active
        inactive other otherActive
    | importPublic payload now =>
      rw [called] at activates
      cases activates
      obtain ⟨makes, before⟩ := makesActive_of_activeIn active inactive
      refine (before other otherActive).elim id fun already => ?_
      simp only [orderly, present, Bool.and_eq_true, process, nextOp, Option.bind_some, makes,
        Option.all_some, List.all_eq_true, decide_eq_true_eq] at isOrderly
      exact isOrderly.2 other (mem_activeList already)
    | retire key =>
      rw [called] at activates
      cases activates
  intro domain first second firstActive secondActive
  cases firstBefore : config.shared.activeIn domain first with
  | false => exact (newly domain first firstActive firstBefore second secondActive).symm
  | true =>
    cases secondBefore : config.shared.activeIn domain second with
    | false => exact newly domain second secondActive secondBefore first firstActive
    | true => exact unique domain first second firstBefore secondBefore

/-- One move keeps the invariant. -/
theorem regular_move
    (regular : Regular exclusive codec config)
    (isOrderly : exclusive → orderly codec config move = true)
    (moved : (registry codec).move config move = some next) : Regular exclusive codec next := by
  refine (registry codec).annotated_move
    (fun config move => exclusive → orderly codec config move = true)
    (fun _ _ _ => trivial) ?_ ?_ config move next regular isOrderly moved
  · intro config thread _ initial _
    refine ⟨fun index busy => ?_, fun _ _ _ => trivial⟩
    rw [Thread.busy, Option.isNone_iff_eq_none.mp initial] at busy
    cases busy
  · intro config index choice thread after thread' regular isOrderly present stepped
    obtain ⟨op, rest, process, rfl, rfl⟩ := calls_step_eq_some _ _ stepped
    have stands := stands_of_step (regular.thread index thread present) process
    obtain ⟨granted, onward⟩ := stands.act Relied.refl (fun _ _ _ early late => early.trans late)
    refine ⟨fun alone => ?_, fun _ => onward, fun other otherThread different found =>
      ⟨fun busy => ?_, trivial⟩⟩
    · have same : exclusive = True := eq_true alone
      subst same
      exact atMostOneActive_of_granted (isOrderly alone) present process granted
        (regular.common alone)
    · refine (regular.thread other otherThread found busy).relied
        (granted.relied different fun alone domain creates hot => ?_)
      exact orderly_apart (isOrderly alone) present different found busy creates hot

/-- One move keeps the key material of the stored epochs. -/
theorem kept_move
    (regular : Regular exclusive codec config)
    (moved : (registry codec).move config move = some next) : Kept config.shared next.shared := by
  cases move with
  | spawn thread =>
    obtain ⟨-, rfl⟩ := (registry codec).move_spawn_eq_some moved
    exact Kept.refl _
  | act index choice =>
    obtain ⟨thread, after, thread', present, stepped, rfl⟩ :=
      (registry codec).move_act_eq_some moved
    obtain ⟨op, rest, process, rfl, rfl⟩ := calls_step_eq_some _ _ stepped
    have stands := stands_of_step (regular.thread index thread present) process
    exact (stands.act Relied.refl (fun _ _ _ early late => early.trans late)).1.kept

/-- The invariant along a run. -/
theorem regular_run
    (regular : Regular exclusive codec start)
    (isOrderly : exclusive → Transition.Admits (registry codec).move
      (fun config move => orderly codec config move = true) start moves)
    (ran : run (registry codec).move start moves = some final) :
    Regular exclusive codec final := by
  by_cases alone : exclusive
  · exact invariant_of_admits _ (Regular exclusive codec)
      (fun config move next regular isOrderly moved =>
        regular_move regular (fun _ => isOrderly) moved)
      regular (isOrderly alone) ran
  · exact invariant_of_run _ (Regular exclusive codec) (fun config move next regular moved =>
        regular_move regular (fun holds => absurd holds alone) moved)
      regular ran

/-- Key material of stored epochs is kept along a run. -/
theorem kept_run
    (regular : Regular False codec start)
    (ran : run (registry codec).move start moves = some final) :
    Kept start.shared final.shared := by
  have both : Regular False codec final ∧ Kept start.shared final.shared := by
    refine invariant_of_run _
      (fun config => Regular False codec config ∧ Kept start.shared config.shared)
      (fun config move next holds moved => ?_) ⟨regular, Kept.refl _⟩ ran
    exact ⟨regular_move holds.1 False.elim moved, holds.2.trans (kept_move holds.1 moved)⟩
  exact both.2

end Runs

/-- A key tool whose public files are a single byte. -/
def sampleCodec : Codec where
  derivePublic key _ _ := some [UInt8.ofNat key.suffix]
  parsePublic
    | [1] => some (⟨.archive, 1⟩, 0)
    | [2] => some (⟨.archive, 2⟩, 0)
    | [3] => some (⟨.recovery, 3⟩, 1)
    | [4] => some (⟨.recovery, 4⟩, 1)
    | _ => none
  inspects _ := true

def sampleSeed : Seed := ⟨List.replicate 32 7, by decide⟩

def emptyDirectory : Directory := ⟨fun _ => none, fun _ => none, []⟩

/-- The creation of an archive epoch whose draw is the suffix. -/
def sampleCreation (suffix : Nat) : RegistryThread :=
  ⟨.create .archive [suffix] sampleSeed 0, none⟩

/-- Two creations look for an active epoch before either has stored its own. -/
def creationRace : List (Move RegistryThread Unit) :=
  [.spawn (sampleCreation 1), .spawn (sampleCreation 2), .act 0 (), .act 1 ()] ++
    List.replicate 8 (.act 0 ()) ++ List.replicate 12 (.act 1 ())

theorem atMostOneActive_empty : AtMostOneActive emptyDirectory := by
  intro domain first second active
  cases active

/-- Two creations, one after the other. -/
def creationSequence : List (Move RegistryThread Unit) :=
  [.spawn (sampleCreation 1), .spawn (sampleCreation 2)] ++
    List.replicate 9 (.act 0 ()) ++ List.replicate 8 (.act 1 ())

end Keys
end Sutradhara
