import Sutradhara.Grpc.Tokens

/-!
# One-time tokens

A release clears the use of a token without a look at the tokens that were issued
since, and two signings may read a token before either of them marks it.  Where
signings with one token do not overlap, and no issue overlaps another session of its
operator and device, every token is used for one enrollment at most and gives way to
a newer one.
-/

namespace Sutradhara
namespace Grpc

open Foundation
open Foundation.Raising
open Foundation.Interleaving Table

/-! ## Sessions in flight -/

/-- The grant of a signing that has read its token and is not over. -/
def Signing.grant : Signing → Option EnrollTokenGrant
  | .consuming grant _ => some grant
  | .signing grant => some grant
  | .recording grant _ => some grant
  | .writing grant _ _ => some grant
  | .releasing grant => some grant
  | .clearing grant _ => some grant
  | _ => none

/-- The token of a signing that is in flight. -/
def TokenSession.signs : TokenSession → Option String
  | .sign request place => place.grant.map fun _ => request.token
  | .issue _ _ => none

/-- The operator and device of an issue that is in flight. -/
def TokenSession.issues : TokenSession → Option (String × String)
  | .issue request (.writing _ _ _ _) => some (request.operator, request.deviceId)
  | _ => none

/-- The operator and device of the token of a signing that is in flight. -/
def TokenSession.signsFor : TokenSession → Option (String × String)
  | .sign _ place => place.grant.map fun grant => (grant.operator, grant.deviceId)
  | .issue _ _ => none

/-- A signing begins while no other signing has its token and nobody issues a token
to the same operator and device; an issue begins while no issue and no signing for
the same operator and device is in flight. -/
def separate (config : Config Desk TokenSession) : Move TokenSession TokenChoice → Bool
  | .act index (.reads _) =>
    match config.threads[index]? with
    | some (.sign request .start) =>
      match config.shared.tokens.find? request.token with
      | some row => (config.threads.eraseIdx index).all fun other =>
        other.signs ≠ some request.token && other.issues ≠ some (row.operator, row.deviceId)
      | none => true
    | some (.issue request .start) =>
      (config.threads.eraseIdx index).all fun other =>
        other.issues ≠ some (request.operator, request.deviceId) &&
          other.signsFor ≠ some (request.operator, request.deviceId)
    | _ => true
  | _ => true

/-! ## Assertions -/

/-- The token led to no enrollment, and no newer token was issued. -/
structure Clean (history : List TokenEvent) (token : String) : Prop where
  unrecorded : .recorded token ∉ history
  newest : ∀ newer superseded, .issued newer superseded ∈ history → token ∉ superseded

/-- The rules hold, unused tokens are clean, and only tokens of the table were
recorded or superseded. -/
structure Sound (desk : Desk) : Prop where
  oneTime : OneTime desk.history
  unused : ∀ row ∈ desk.tokens.rows, row.usedAt = none → Clean desk.history row.token
  unknown : ∀ token, desk.tokens.find? token = none → Clean desk.history token

/-- The signing has marked its token used. -/
def Signing.consumed : Signing → Bool
  | .signing _ => true
  | .recording _ _ => true
  | .writing _ _ _ => true
  | _ => false

/-- A token that a signing in flight works with. -/
structure Carries (desk : Desk) (token : String) (grant : EnrollTokenGrant)
    (consumed : Bool) : Prop where
  clean : Clean desk.history token
  row : ∃ row, desk.tokens.find? token = some row ∧
    row.operator = grant.operator ∧ row.deviceId = grant.deviceId ∧
    (consumed = true → row.usedAt ≠ none)

/-- An issue in flight has loaded all unused tokens of its operator and device. -/
structure Loaded (desk : Desk) (operator deviceId : String)
    (prior : List EnrollToken) : Prop where
  unused : ∀ loaded ∈ prior, loaded.usedAt = none
  complete : ∀ row ∈ desk.tokens.rows, row.operator = operator →
    row.deviceId = deviceId → row.usedAt = none → ∃ loaded ∈ prior, loaded.token = row.token

/-- What a session may rely on. -/
def Relied (desk : Desk) (_ : Nat) : TokenSession → Prop
  | .sign request place =>
    ∀ grant, place.grant = some grant → Carries desk request.token grant place.consumed
  | .issue request (.writing _ _ prior _) => Loaded desk request.operator request.deviceId prior
  | .issue _ _ => True

/-- Two sessions in flight have different tokens, and an issue has an operator and
device of its own. -/
structure Separate (first second : TokenSession) : Prop where
  tokens : ∀ token, first.signs = some token → second.signs ≠ some token
  issues : ∀ owner, first.issues = some owner → second.issues ≠ some owner
  leaves : ∀ owner, first.issues = some owner → second.signsFor ≠ some owner
  enters : ∀ owner, second.issues = some owner → first.signsFor ≠ some owner

theorem Separate.symm (apart : Separate first second) : Separate second first where
  tokens token signs other := apart.tokens token other signs
  issues owner issues other := apart.issues owner other issues
  leaves := apart.enters
  enters := apart.leaves

/-- A session that is not in flight. -/
def TokenSession.idle (session : TokenSession) : Prop :=
  session.signs = none ∧ session.issues = none ∧ session.signsFor = none

theorem separate_of_idle
    (idle : session.idle)
    (other : TokenSession) : Separate session other where
  tokens token signs := by
    rw [idle.1] at signs
    cases signs
  issues owner issues := by
    rw [idle.2.1] at issues
    cases issues
  leaves owner issues := by
    rw [idle.2.1] at issues
    cases issues
  enters owner _ signsFor := by
    rw [idle.2.2] at signsFor
    cases signsFor

theorem Separate.mono
    (apart : Separate session other)
    (signs : ∀ token, next.signs = some token → session.signs = some token)
    (issues : ∀ owner, next.issues = some owner → session.issues = some owner)
    (signsFor : ∀ owner, next.signsFor = some owner → session.signsFor = some owner) :
    Separate next other where
  tokens token found := apart.tokens token (signs token found)
  issues owner found := apart.issues owner (issues owner found)
  leaves owner found := apart.leaves owner (issues owner found)
  enters owner found same := apart.enters owner found (signsFor owner same)

/-! ## Histories -/

theorem Clean.cons
    (clean : Clean history token)
    (unrecorded : event ≠ .recorded token)
    (newest : ∀ newer superseded, event = .issued newer superseded → token ∉ superseded) :
    Clean (event :: history) token where
  unrecorded found := by
    rcases List.mem_cons.mp found with same | older
    · exact unrecorded same.symm
    · exact clean.unrecorded older
  newest newer superseded found := by
    rcases List.mem_cons.mp found with same | older
    · exact newest newer superseded same.symm
    · exact clean.newest newer superseded older

theorem OneTime.cons
    (oneTime : OneTime history)
    (once : ∀ token, event = .recorded token → .recorded token ∉ history)
    (retired : ∀ token, event = .accepted token →
      ∀ newer superseded, .issued newer superseded ∈ history → token ∉ superseded) :
    OneTime (event :: history) where
  once token earlier found := by
    rcases List.suffix_cons_iff.mp found with same | older
    · cases same
      exact once token rfl
    · exact oneTime.once token earlier older
  retired token earlier found := by
    rcases List.suffix_cons_iff.mp found with same | older
    · cases same
      exact retired token rfl
    · exact oneTime.retired token earlier older

/-! ## Steps of a signing -/

/-- What `consume_enroll_token` has checked. -/
theorem checkToken_eq_ok (checked : checkToken tokens request now = .ok grant) :
    ∃ row, tokens.find? request.token = some row ∧ row.usedAt = none ∧
      row.operator = grant.operator ∧ row.deviceId = grant.deviceId := by
  unfold checkToken at checked
  split at checked
  · cases checked
  next row found =>
    obtain ⟨_, unused, checked⟩ := exists_of_bind_eq_ok checked
    iterate 2 obtain ⟨_, _, checked⟩ := exists_of_bind_eq_ok checked
    obtain ⟨scopes, _, checked⟩ := exists_of_bind_eq_ok checked
    cases checked
    exact ⟨row, found, by simpa using eq_true_of_require unused, rfl, rfl⟩

/-- The rules, what the session that steps relies on, and what the others rely on
beside it. -/
abbrev Holding := Program.Beside Sound Relied Separate

section Signings

variable {config : Config Desk TokenSession} {index : Nat}
variable {request : SignRequest} {place : Signing}

/-- A session ends. -/
theorem Holding.finishes
    (running : Holding config index config.shared session)
    (idle : next.idle)
    (own : Relied config.shared index next) : Holding config index config.shared next where
  common := running.common
  own := own
  others other otherSession different present :=
    ⟨(running.others other otherSession different present).1, separate_of_idle idle otherSession⟩

theorem relied_finished : Relied desk index (.sign request .finished) := by
  intro grant inFlight
  cases inFlight

/-- A signing that goes on with its token stays apart from the others. -/
theorem separate_of_grant
    (apart : Separate (.sign request place) other)
    (inFlight : place.grant = some grant)
    (same : next.grant = some grant) :
    Separate (.sign request next) other := by
  refine apart.mono ?_ ?_ ?_
  · intro token signs
    simpa [TokenSession.signs, inFlight, same] using signs
  · intro owner issues
    cases issues
  · intro owner signsFor
    simpa [TokenSession.signsFor, inFlight, same] using signsFor

/-- A signing goes on without writing. -/
theorem Holding.goes
    (running : Holding config index config.shared (.sign request place))
    (inFlight : place.grant = some grant)
    (same : next.grant = some grant)
    (consumed : next.consumed = true → place.consumed = true) :
    Holding config index config.shared (.sign request next) where
  common := running.common
  own := by
    intro other found
    rw [same] at found
    cases found
    obtain ⟨clean, row, found, operator, device, used⟩ := running.own grant inFlight
    exact ⟨clean, row, found, operator, device, fun late => used (consumed late)⟩
  others other otherSession different present := by
    obtain ⟨relies, apart⟩ := running.others other otherSession different present
    exact ⟨relies, separate_of_grant apart inFlight same⟩

/-- The tokens of two signings in flight differ. -/
theorem token_ne_of_separate
    (apart : Separate (.sign request place) (.sign other otherPlace))
    (inFlight : place.grant = some grant)
    (otherInFlight : otherPlace.grant = some otherGrant) :
    other.token ≠ request.token := by
  intro same
  refine apart.tokens request.token ?_ ?_
  · simp [TokenSession.signs, inFlight]
  · simp [TokenSession.signs, otherInFlight, same]

/-- The use of one token is assigned: what the table then holds. -/
theorem mem_assignUsed
    {desk : Desk}
    (member : row ∈ (desk.tokens.update token (assignUsed loaded assigned)).rows) :
    (∃ old, desk.tokens.find? token = some old ∧ row = (assignUsed loaded assigned).apply old) ∨
      (row ∈ desk.tokens.rows ∧ row.token ≠ token) := by
  rcases (mem_update ..).mp member with ⟨old, oldMember, carries, rfl⟩ | kept
  · exact Or.inl ⟨old, (find?_eq_some_iff ..).mpr ⟨oldMember, carries⟩, rfl⟩
  · exact Or.inr kept

theorem find?_assignUsed_eq_none
    {desk : Desk}
    (absent : (desk.tokens.update token (assignUsed loaded assigned)).find? other = none) :
    desk.tokens.find? other = none := by
  by_cases same : other = token
  · subst same
    rwa [find?_update_self, Option.map_eq_none_iff] at absent
  · rwa [find?_update_of_ne _ _ same] at absent

/-- The table with another use of a token, and one more event. -/
def Desk.assign (desk : Desk) (token : String) (loaded assigned : Option Int)
    (history : List TokenEvent) : Desk :=
  { desk with
    tokens := desk.tokens.update token (assignUsed loaded assigned)
    history := history }

/-- Another session keeps what it relies on when a signing assigns the use of its
token: a signing has another token, and an issue has loaded the tokens of another
operator or device. -/
theorem Relied.assign
    {desk : Desk}
    (relies : Relied desk other session)
    (carries : Carries desk request.token grant place.consumed)
    (inFlight : place.grant = some grant)
    (apart : Separate (.sign request place) session)
    (loaded assigned : Option Int)
    (kept : ∀ token, Clean desk.history token → Clean history token) :
    Relied (desk.assign request.token loaded assigned history) other session := by
  cases session with
  | sign otherRequest otherPlace =>
    intro otherGrant otherInFlight
    obtain ⟨clean, row, found, facts⟩ := relies otherGrant otherInFlight
    have different := token_ne_of_separate apart inFlight otherInFlight
    refine ⟨kept _ clean, row, ?_, facts⟩
    exact (find?_update_of_ne _ _ different).trans found
  | issue otherRequest otherPlace =>
    cases otherPlace with
    | start => trivial
    | finished => trivial
    | writing scopes fingerprint prior now =>
      refine ⟨relies.unused, ?_⟩
      intro row member operator device unused
      rcases mem_assignUsed member with ⟨old, found, rfl⟩ | ⟨oldMember, _⟩
      · obtain ⟨_, held, foundHeld, heldOperator, heldDevice, _⟩ := carries
        rw [found, Option.some.injEq] at foundHeld
        subst foundHeld
        have owner : (TokenSession.sign request place).signsFor =
            some (otherRequest.operator, otherRequest.deviceId) := by
          simp only [TokenSession.signsFor, inFlight, Option.map_some]
          rw [← heldOperator, ← heldDevice]
          exact congrArg some (Prod.ext operator device)
        exact absurd owner (apart.enters _ rfl)
      · exact relies.complete row oldMember operator device unused

/-- The token is marked used and accepted. -/
theorem Holding.consumes
    {grant : EnrollTokenGrant}
    (running : Holding config index config.shared (.sign request (.consuming grant now))) :
    Holding config index (config.shared.assign request.token none (some now)
        (.accepted request.token :: config.shared.history))
      (.sign request (.signing grant)) := by
  have carries := running.own grant rfl
  have kept : ∀ token, Clean config.shared.history token →
      Clean (.accepted request.token :: config.shared.history) token :=
    fun token clean => clean.cons (by simp) (by simp)
  refine ⟨⟨?_, ?_, ?_⟩, ?_, ?_⟩
  · refine running.common.oneTime.cons (by simp) ?_
    intro token same
    cases same
    exact carries.clean.newest
  · intro row member unused
    rcases mem_assignUsed member with ⟨old, _, rfl⟩ | ⟨oldMember, _⟩
    · simp [assignUsed, flushed] at unused
    · exact kept _ (running.common.unused row oldMember unused)
  · intro token absent
    exact kept _ (running.common.unknown token (find?_assignUsed_eq_none absent))
  · intro other same
    cases same
    obtain ⟨clean, row, found, operator, device, _⟩ := carries
    refine ⟨kept _ clean, (assignUsed none (some now)).apply row, ?_, operator, device, ?_⟩
    · exact (find?_update_self ..).trans (by rw [found]; rfl)
    · intro _
      simp [assignUsed, flushed]
  · intro other otherSession different present
    obtain ⟨relies, apart⟩ := running.others other otherSession different present
    exact ⟨relies.assign carries rfl apart none (some now) kept, separate_of_grant apart rfl rfl⟩

/-- The use of the token is cleared. -/
theorem Holding.clears
    {grant : EnrollTokenGrant}
    (running : Holding config index config.shared (.sign request (.clearing grant loaded))) :
    Holding config index (config.shared.assign request.token loaded none config.shared.history)
      (.sign request .finished) := by
  have carries := running.own grant rfl
  refine ⟨⟨running.common.oneTime, ?_, ?_⟩, relied_finished, ?_⟩
  · intro row member unused
    rcases mem_assignUsed member with ⟨old, found, rfl⟩ | ⟨oldMember, _⟩
    · have token : old.token = request.token :=
        ((find?_eq_some_iff ..).mp found).2
      show Clean config.shared.history old.token
      rw [token]
      exact carries.clean
    · exact running.common.unused row oldMember unused
  · intro token absent
    exact running.common.unknown token (find?_assignUsed_eq_none absent)
  · intro other otherSession different present
    obtain ⟨relies, apart⟩ := running.others other otherSession different present
    exact ⟨relies.assign carries rfl apart loaded none (fun _ clean => clean),
      separate_of_idle ⟨rfl, rfl, rfl⟩ otherSession⟩

/-- The enrollment is recorded. -/
theorem Holding.records
    (running : Holding config index config.shared
      (.sign request (.writing grant fingerprint checked)))
    (store : Store) : Holding config index { config.shared with
        store := store
        history := .recorded request.token :: config.shared.history }
      (.sign request .finished) := by
  obtain ⟨clean, row, found, _, _, used⟩ := running.own grant rfl
  have kept : ∀ token, token ≠ request.token → Clean config.shared.history token →
      Clean (.recorded request.token :: config.shared.history) token :=
    fun token different clean =>
      clean.cons (fun same => different (TokenEvent.recorded.inj same).symm) (by simp)
  refine ⟨⟨?_, ?_, ?_⟩, relied_finished, ?_⟩
  · refine running.common.oneTime.cons ?_ (by simp)
    intro token same
    cases same
    exact clean.unrecorded
  · intro other member unused
    refine kept other.token ?_ (running.common.unused other member unused)
    intro same
    have held := (find?_eq_some_iff ..).mpr ⟨member, same⟩
    rw [found, Option.some.injEq] at held
    subst held
    exact used rfl unused
  · intro token absent
    refine kept token ?_ (running.common.unknown token absent)
    intro same
    subst same
    rw [found] at absent
    cases absent
  · intro other otherSession different present
    obtain ⟨relies, apart⟩ := running.others other otherSession different present
    refine ⟨?_, separate_of_idle ⟨rfl, rfl, rfl⟩ otherSession⟩
    cases otherSession with
    | sign otherRequest otherPlace =>
      intro otherGrant otherInFlight
      obtain ⟨otherClean, facts⟩ := relies otherGrant otherInFlight
      have tokens := token_ne_of_separate apart rfl otherInFlight
      exact ⟨kept _ tokens otherClean, facts⟩
    | issue otherRequest otherPlace =>
      cases otherPlace with
      | start => trivial
      | finished => trivial
      | writing scopes fingerprint prior now => exact ⟨relies.unused, relies.complete⟩

/-- A signing reads a token that nobody else works with. -/
theorem Holding.begins
    (running : Holding config index config.shared (.sign request .start))
    (checked : checkToken config.shared.tokens request now = .ok grant)
    (alone : ∀ row, config.shared.tokens.find? request.token = some row →
      ∀ other otherSession, other ≠ index → config.threads[other]? = some otherSession →
          otherSession.signs ≠ some request.token ∧
            otherSession.issues ≠ some (row.operator, row.deviceId)) :
    Holding config index config.shared (.sign request (.consuming grant now)) := by
  obtain ⟨row, found, unused, operator, device⟩ := checkToken_eq_ok checked
  obtain ⟨member, carries⟩ := (find?_eq_some_iff ..).mp found
  refine ⟨running.common, ?_, ?_⟩
  · intro other same
    cases same
    refine ⟨?_, row, found, operator, device, nofun⟩
    rw [← carries]
    exact running.common.unused row member unused
  · intro other otherSession different present
    obtain ⟨tokens, issues⟩ := alone row found other otherSession different present
    refine ⟨(running.others other otherSession different present).1, ?_⟩
    refine ⟨?_, ?_, ?_, ?_⟩
    · intro token signs
      cases signs
      exact tokens
    · intro owner issuing
      cases issuing
    · intro owner issuing
      cases issuing
    · intro owner issuing signsFor
      cases signsFor
      dsimp only at issuing
      rw [← operator, ← device] at issuing
      exact issues issuing

end Signings

/-! ## Steps of an issue -/

section Issues

variable {config : Config Desk TokenSession} {index : Nat}
variable {request : IssueRequest}

/-- Marking tokens used unmarks none, and keeps whose tokens they are. -/
theorem markUsed_apply :
    ((markUsed prior now).apply row).operator = row.operator ∧
      ((markUsed prior now).apply row).deviceId = row.deviceId ∧
      (((markUsed prior now).apply row).usedAt = none → row.usedAt = none) := by
  unfold markUsed
  dsimp only
  split
  · refine ⟨rfl, rfl, ?_⟩
    unfold flushed
    split
    · exact id
    · intro used
      cases used
  · exact ⟨rfl, rfl, id⟩

theorem mem_tokensOf {desk : Desk} : token ∈ desk.tokensOf operator deviceId ↔
      ∃ row, desk.tokens.find? token = some row ∧ row.operator = operator ∧
        row.deviceId = deviceId := by
  simp only [Desk.tokensOf, List.mem_map, List.mem_filter, EnrollToken.isFor,
    Bool.and_eq_true, decide_eq_true_eq]
  constructor
  · rintro ⟨row, ⟨member, operator, device⟩, carries⟩
    exact ⟨row, (find?_eq_some_iff ..).mpr ⟨member, carries⟩, operator, device⟩
  · rintro ⟨row, found, operator, device⟩
    obtain ⟨member, carries⟩ := (find?_eq_some_iff ..).mp found
    exact ⟨row, ⟨member, operator, device⟩, carries⟩

/-- An issue reads the unused tokens while no other session works with tokens of its
operator and device. -/
theorem Holding.loads
    (running : Holding config index config.shared (.issue request .start))
    (alone : ∀ other otherSession, other ≠ index → config.threads[other]? = some otherSession →
        otherSession.issues ≠ some (request.operator, request.deviceId) ∧
          otherSession.signsFor ≠ some (request.operator, request.deviceId))
    (scopes : List DeviceScope)
    (fingerprint : Option String)
    (now : Int) :
    Holding config index config.shared (.issue request (.writing scopes fingerprint
      (config.shared.priorTokens request.operator request.deviceId) now)) := by
  refine ⟨running.common, ⟨?_, ?_⟩, ?_⟩
  · intro loaded listed
    have selected := (List.mem_filter.mp listed).2
    rw [Bool.and_eq_true] at selected
    exact of_decide_eq_true selected.2
  · intro row member operator device unused
    refine ⟨row, ?_, rfl⟩
    simp [Desk.priorTokens, EnrollToken.isFor, member, operator, device, unused]
  · intro other otherSession different present
    obtain ⟨issues, signsFor⟩ := alone other otherSession different present
    refine ⟨(running.others other otherSession different present).1, ?_⟩
    refine ⟨?_, ?_, ?_, ?_⟩
    · intro token signs
      cases signs
    · intro owner issuing
      cases issuing
      exact issues
    · intro owner issuing
      cases issuing
      exact signsFor
    · intro owner _ signing
      cases signing

section Commits

variable {scopes : List DeviceScope} {fingerprint : Option String}
variable {prior : List EnrollToken} {now : Int}

/-- The table with the new token, and the event of its issue. -/
def Desk.issue (desk : Desk) (request : IssueRequest) (row : EnrollToken)
    (prior : List EnrollToken) (now : Int)
    (absent : (desk.tokens.rewrite (markUsed prior now)).find? row.token = none) :
    Desk :=
  ⟨(desk.tokens.rewrite (markUsed prior now)).insert row absent, desk.store,
    .issued row.token (desk.tokensOf request.operator request.deviceId) :: desk.history⟩

variable {row : EnrollToken}
variable {absent : (config.shared.tokens.rewrite (markUsed prior now)).find? row.token = none}

/-- A row of the table after an issue is the new one, or an old one that may have
been marked. -/
theorem mem_issue (member : found ∈
      (config.shared.issue request row prior now absent).tokens.rows) :
    found = row ∨ ∃ old ∈ config.shared.tokens.rows, (markUsed prior now).apply old = found := by
  rcases (mem_insert _ row absent found).mp member with marked | same
  · exact Or.inr ((mem_rewrite ..).mp marked)
  · exact Or.inl same

theorem find?_row_eq_none (absent :
      (config.shared.tokens.rewrite (markUsed prior now)).find? row.token = none) :
    config.shared.tokens.find? row.token = none := by
  rwa [find?_rewrite, Option.map_eq_none_iff] at absent

/-- A token that the operator and device of an issue did not have stays clean. -/
theorem Clean.issue
    {desk : Desk}
    (clean : Clean desk.history token)
    (foreign : token ∉ desk.tokensOf request.operator request.deviceId)
    (newer : String) :
    Clean (.issued newer (desk.tokensOf request.operator request.deviceId) :: desk.history) token :=
  clean.cons (by simp) (fun _ _ same => by cases same; exact foreign)

/-- The rules after an issue: all older tokens of its operator and device are used,
and the new one is unknown to the history. -/
theorem Sound.issue
    (sound : Sound config.shared)
    (loaded : Loaded config.shared request.operator request.deviceId prior) :
    Sound (config.shared.issue request row prior now absent) where
  oneTime := sound.oneTime.cons (by simp) (by simp)
  unused found member unused := by
    rcases mem_issue member with rfl | ⟨old, oldMember, rfl⟩
    · have unknown := find?_row_eq_none absent
      refine (sound.unknown _ unknown).issue ?_ _
      intro listed
      obtain ⟨_, present, _⟩ := mem_tokensOf.mp listed
      rw [unknown] at present
      cases present
    · obtain ⟨operator, device, before⟩ := markUsed_apply
      have token : ((markUsed prior now).apply old).token = old.token :=
        (markUsed prior now).keeps old
      rw [token]
      refine (sound.unused old oldMember (before unused)).issue ?_ _
      intro listed
      obtain ⟨held, present, heldOperator, heldDevice⟩ := mem_tokensOf.mp listed
      rw [(find?_eq_some_iff ..).mpr ⟨oldMember, rfl⟩, Option.some.injEq] at present
      subst present
      obtain ⟨other, otherListed, same⟩ := loaded.complete old oldMember heldOperator
        heldDevice (before unused)
      dsimp only [markUsed] at unused
      split at unused
      next found isFound =>
        have unusedBefore := loaded.unused found (List.mem_of_find?_eq_some isFound)
        simp [flushed, unusedBefore] at unused
      next missing =>
        have absent := List.find?_eq_none.mp missing other otherListed
        simp [same] at absent
  unknown token missing := by
    have different : token ≠ row.token := by
      intro same
      subst same
      have found := find?_insert_self _ row absent
      rw [show (config.shared.issue request row prior now absent).tokens.find?
        row.token = some row from found] at missing
      cases missing
    have before : config.shared.tokens.find? token = none := by
      have old := (find?_insert_of_ne _ row absent different).symm.trans missing
      rwa [find?_rewrite, Option.map_eq_none_iff] at old
    refine (sound.unknown token before).issue ?_ _
    intro listed
    obtain ⟨_, present, _⟩ := mem_tokensOf.mp listed
    rw [before] at present
    cases present

/-- Another session keeps what it relies on when an issue commits: its tokens belong
to another operator or device. -/
theorem Relied.issue
    {other : Nat}
    (relies : Relied config.shared other session)
    (apart : Separate (.issue request (.writing scopes fingerprint prior now)) session)
    (operator : row.operator = request.operator)
    (device : row.deviceId = request.deviceId) :
    Relied (config.shared.issue request row prior now absent) other session := by
  cases session with
  | sign otherRequest otherPlace =>
    intro grant inFlight
    obtain ⟨clean, held, found, heldOperator, heldDevice, used⟩ := relies grant inFlight
    have foreign : otherRequest.token ∉
        config.shared.tokensOf request.operator request.deviceId := by
      intro listed
      obtain ⟨same, present, sameOperator, sameDevice⟩ := mem_tokensOf.mp listed
      rw [found, Option.some.injEq] at present
      subst present
      refine apart.leaves _ rfl ?_
      simp only [TokenSession.signsFor, inFlight, Option.map_some]
      rw [← heldOperator, ← heldDevice, sameOperator, sameDevice]
    have different : otherRequest.token ≠ row.token := by
      intro same
      rw [same, find?_row_eq_none absent] at found
      cases found
    obtain ⟨markedOperator, markedDevice, before⟩ := markUsed_apply
    refine ⟨clean.issue foreign _, (markUsed prior now).apply held, ?_, ?_, ?_, ?_⟩
    · refine (find?_insert_of_ne _ row absent different).trans ?_
      rw [find?_rewrite, found]
      rfl
    · exact markedOperator.trans heldOperator
    · exact markedDevice.trans heldDevice
    · exact fun consumed unused => used consumed (before unused)
  | issue otherRequest otherPlace =>
    cases otherPlace with
    | start => trivial
    | finished => trivial
    | writing otherScopes otherFingerprint otherPrior otherNow =>
      refine ⟨relies.unused, ?_⟩
      intro found member foundOperator foundDevice unused
      rcases mem_issue member with rfl | ⟨old, oldMember, rfl⟩
      · refine absurd ?_ (apart.issues _ rfl)
        simp only [TokenSession.issues]
        rw [← foundOperator, ← foundDevice, operator, device]
      · obtain ⟨oldOperator, oldDevice, before⟩ := markUsed_apply
        obtain ⟨loaded, listed, same⟩ := relies.complete old oldMember
          (oldOperator.symm.trans foundOperator)
          (oldDevice.symm.trans foundDevice) (before unused)
        exact ⟨loaded, listed, same.trans ((markUsed prior now).keeps old).symm⟩

/-- An issue commits. -/
theorem Holding.issues
    (running : Holding config index config.shared
      (.issue request (.writing scopes fingerprint prior now)))
    (operator : row.operator = request.operator)
    (device : row.deviceId = request.deviceId) :
    Holding config index (config.shared.issue request row prior now absent)
      (.issue request .finished) where
  common := running.common.issue running.own
  own := trivial
  others other otherSession different present := by
    obtain ⟨relies, apart⟩ := running.others other otherSession different present
    exact ⟨relies.issue apart operator device, separate_of_idle ⟨rfl, rfl, rfl⟩ otherSession⟩

end Commits

end Issues

/-! ## Runs -/

section Runs

variable {upper : List Char → List Char}
variable {config : Config Desk TokenSession} {index : Nat}

/-- The condition speaks of every other session. -/
theorem of_all_eraseIdx
    (all : (config.threads.eraseIdx index).all allowed = true)
    (different : other ≠ index)
    (present : config.threads[other]? = some session) :
    allowed session = true :=
  List.all_eq_true.mp all session (List.mem_eraseIdx_iff_getElem?.mpr ⟨other, different, present⟩)

/-- Every step of an issue. -/
theorem Holding.issueStep
    (running : Holding config index config.shared (.issue request place))
    (present : config.threads[index]? = some (.issue request place))
    (alone : separate config (.act index choice) = true)
    (stepped : issueStep upper config.shared request place choice = some (desk, next)) :
    Holding config index desk (.issue request next) := by
  have finishes : Holding config index config.shared (.issue request .finished) :=
    running.finishes ⟨rfl, rfl, rfl⟩ trivial
  unfold Grpc.issueStep at stepped
  split at stepped
  next now =>
    split at stepped
    next scopes fingerprint checked =>
      cases stepped
      refine running.loads ?_ scopes fingerprint now
      simp only [separate, present] at alone
      intro other session different otherPresent
      simpa using of_all_eraseIdx alone different otherPresent
    · cases stepped
      exact finishes
  next scopes fingerprint prior now token _ =>
    dsimp only at stepped
    split at stepped
    · cases stepped
      exact running.issues rfl rfl
    · cases stepped
      exact finishes
  · cases stepped
    exact finishes
  · cases stepped

/-- Every step of a signing. -/
theorem Holding.signStep
    (running : Holding config index config.shared (.sign request place))
    (present : config.threads[index]? = some (.sign request place))
    (alone : separate config (.act index choice) = true)
    (stepped : signStep upper config.shared request place choice = some (desk, next)) :
    Holding config index desk (.sign request next) := by
  have finishes : Holding config index config.shared (.sign request .finished) :=
    running.finishes ⟨rfl, rfl, rfl⟩ relied_finished
  unfold Grpc.signStep at stepped
  split at stepped
  next now =>
    split at stepped
    next grant checked =>
      cases stepped
      refine running.begins checked ?_
      intro row found other session different otherPresent
      simp only [separate, present, found] at alone
      simpa using of_all_eraseIdx alone different otherPresent
    · cases stepped
      exact finishes
  · cases stepped
    exact running.consumes
  · cases stepped
    exact running.goes rfl rfl (fun _ => rfl)
  · cases stepped
    exact running.goes rfl rfl nofun
  · split at stepped
    · cases stepped
      exact running.goes rfl rfl (fun _ => rfl)
    · cases stepped
      exact running.goes rfl rfl nofun
    · cases stepped
      exact running.goes rfl rfl nofun
    · cases stepped
      exact finishes
  · cases stepped
    exact running.records _
  · split at stepped
    · cases stepped
      exact finishes
    · cases stepped
      exact running.goes rfl rfl nofun
  · cases stepped
    exact running.clears
  · cases stepped
    exact finishes
  · cases stepped

theorem annotated_move_of_separate
    (config : Config Desk TokenSession)
    (move : Move TokenSession TokenChoice)
    (next : Config Desk TokenSession)
    (annotated : Program.Annotated Sound Relied Separate config)
    (alone : separate config move = true)
    (moved : (tokenProgram upper).move config move = some next) :
    Program.Annotated Sound Relied Separate next := by
  refine (tokenProgram upper).annotated_move_of_beside
    (fun config move => separate config move = true) (fun _ _ apart => apart.symm)
    ?_ ?_ config move next annotated alone moved
  · intro session entering
    cases session with
    | issue request place =>
      obtain rfl : place = .start := of_decide_eq_true entering
      exact ⟨fun _ _ => trivial, separate_of_idle ⟨rfl, rfl, rfl⟩⟩
    | sign request place =>
      obtain rfl : place = .start := of_decide_eq_true entering
      refine ⟨?_, separate_of_idle ⟨rfl, rfl, rfl⟩⟩
      intro desk index grant inFlight
      cases inFlight
  · intro config index choice session desk session' running alone present stepped
    cases session with
    | issue request place =>
      obtain ⟨result, taken, same⟩ := Option.map_eq_some_iff.mp stepped
      cases same
      exact Holding.issueStep running present alone taken
    | sign request place =>
      obtain ⟨result, taken, same⟩ := Option.map_eq_some_iff.mp stepped
      cases same
      exact Holding.signStep running present alone taken

end Runs

theorem sound_openDesk : Sound ⟨tokens, store, []⟩ where
  oneTime := ⟨fun _ _ found => by simp at found, fun _ _ found => by simp at found⟩
  unused _ _ _ := ⟨by simp, by simp⟩
  unknown _ _ := ⟨by simp, by simp⟩

/-- Where signings with one token do not overlap, and issues overlap no session of
their operator and device, tokens are one-time. -/
theorem oneTime_of_separate
    (upper : List Char → List Char)
    (tokens : Table EnrollToken.token)
    (store : Store)
    (moves : List (Move TokenSession TokenChoice))
    (final : Config Desk TokenSession)
    (admitted : Transition.Admits (tokenProgram upper).move
      (fun config move => separate config move = true) (openDesk tokens store) moves)
    (ended : Transition.run (tokenProgram upper).move (openDesk tokens store) moves = some final) :
    OneTime final.shared.history :=
  (Transition.invariant_of_admits (tokenProgram upper).move
    (Program.Annotated Sound Relied Separate) annotated_move_of_separate
    (Program.annotated_of_idle Relied Separate sound_openDesk) admitted ended).common.oneTime

/-! ## A token that comes back -/

/-- An issue to one operator and device. -/
def issues : Move TokenSession TokenChoice :=
  .spawn (.issue ⟨"o", "d", ["ingest"], 10, none, none⟩ .start)

/-- The first token is consumed, a second one is issued, signing with the first one
fails and releases it, and another signing is accepted with it. -/
def comesBack : List (Move TokenSession TokenChoice) :=
  [issues, .act 0 (.reads 0), .act 0 (.commits "s" 0),
    .spawn (.sign ⟨"d", "s"⟩ .start), .act 1 (.reads 1), .act 1 (.commits "" 1),
    issues, .act 2 (.reads 2), .act 2 (.commits "t" 2),
    .act 1 .fails, .act 1 (.reads 3), .act 1 (.commits "" 3),
    .spawn (.sign ⟨"d", "s"⟩ .start), .act 3 (.reads 4), .act 3 (.commits "" 4)]

theorem not_oneTimeLaw : ¬OneTimeLaw := by
  intro law
  have ended : (Transition.run (tokenProgram id).move
      (openDesk empty Store.empty) comesBack).map (fun final => final.shared.history) =
      some [.accepted "s", .issued "t" ["s"], .accepted "s", .issued "s" []] := by
    decide
  obtain ⟨final, run, history⟩ := Option.map_eq_some_iff.mp ended
  have oneTime := law id empty Store.empty comesBack final run
  rw [history] at oneTime
  exact oneTime.retired "s" _ (List.suffix_refl _) "t" ["s"] (by simp) (by simp)

/-- A signing fails and releases its token, and another signing with it records the
enrollment; then a new token is issued. -/
def reissued : List (Move TokenSession TokenChoice) :=
  [issues, .act 0 (.reads 0), .act 0 (.commits "s" 0),
    .spawn (.sign ⟨"d", "s"⟩ .start), .act 1 (.reads 1), .act 1 (.commits "" 1),
    .act 1 .fails, .act 1 (.reads 2), .act 1 (.commits "" 2),
    .spawn (.sign ⟨"d", "s"⟩ .start), .act 2 (.reads 3), .act 2 (.commits "" 3),
    .act 2 (.signs (String.ofList (List.replicate 64 'A'))), .act 2 (.reads 4),
    .act 2 (.commits "" 4), issues, .act 3 (.reads 5), .act 3 (.commits "t" 5)]

theorem oneTime_of_separate_reissued : ∃ final, Transition.run (tokenProgram id).move
        (openDesk empty Store.empty) reissued = some final ∧
      OneTime final.shared.history ∧
      final.shared.history =
        [.issued "t" ["s"], .recorded "s", .accepted "s", .accepted "s", .issued "s" []] := by
  have ended : (Transition.run (tokenProgram id).move
      (openDesk empty Store.empty) reissued).map (fun final => final.shared.history) =
      some [.issued "t" ["s"], .recorded "s", .accepted "s", .accepted "s", .issued "s" []] := by
    decide +kernel
  obtain ⟨final, run, history⟩ := Option.map_eq_some_iff.mp ended
  exact ⟨final, run, oneTime_of_separate id empty Store.empty reissued final
    (by decide +kernel) run, history⟩

end Grpc
end Sutradhara
