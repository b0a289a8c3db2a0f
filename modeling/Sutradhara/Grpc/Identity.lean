import Sutradhara.Grpc.Enrollment

/-!
# Exclusive device identities

What the enrollment rows mean is a map from devices to their active fingerprint and
its owner.  An enrollment that is recorded and a revocation are single updates of
that map, and the check of owner and rotation authority is the permission to put a
fingerprint in the place of the current one.
-/

namespace Sutradhara
namespace Grpc

open Foundation
open Foundation.Raising Table

/-! ## Identities -/

/-- The operator of a row, unless it is revoked. -/
def DeviceEnrollment.holder (row : DeviceEnrollment) : Option String :=
  if row.revoked then none else some row.operator

/-- The operator under which a fingerprint of a device is active. -/
def Store.holder? (store : Store) (deviceId fingerprint : String) : Option String :=
  (store.enrollments.find? (deviceId, fingerprint)).bind DeviceEnrollment.holder

/-- For each device its active fingerprint and the owner. -/
def Identities := String → Option (String × String)

namespace Identities

/-- No device is enrolled. -/
def none : Identities := fun _ => Option.none

section

variable (identities : Identities) (deviceId : String) (identity : Option (String × String))

/-- The operator under which a fingerprint of a device is active. -/
def holder? (fingerprint : String) : Option String :=
  (identities deviceId).bind fun identity =>
    if identity.1 = fingerprint then some identity.2 else Option.none

/-- The identity of a device. -/
def set : Identities := fun other => if other = deviceId then identity else identities other

@[simp] theorem set_self : identities.set deviceId identity deviceId = identity := by simp [set]

end

theorem set_of_ne (identities : Identities) (different : other ≠ deviceId) :
    identities.set deviceId identity other = identities other := by
  simp [set, different]

/-- An operator may put a fingerprint in the place of the current identity of a
device: there is none, or it is the operator's own and either stays or gives way to
the administrator or to a proof that names it. -/
def Permits (identities : Identities) (deviceId fingerprint operator : String)
    (authority : Option RotationAuthority) (proof : Option String) : Prop :=
  ∀ current owner, identities deviceId = some (current, owner) →
    owner = operator ∧
      (current = fingerprint ∨ authority = some .admin ∨
        (authority = some .self ∧ proof = some current))

end Identities

/-- The active rows are the identities. -/
def Represents (store : Store) (identities : Identities) : Prop :=
  ∀ deviceId fingerprint,
    store.holder? deviceId fingerprint = identities.holder? deviceId fingerprint

/-! ## The rows after a write -/

theorem holder?_eq_some_iff {store : Store} : store.holder? deviceId fingerprint = some operator ↔
      ∃ row ∈ store.enrollments.rows, row.deviceId = deviceId ∧
        row.certFingerprint = fingerprint ∧ row.revoked = false ∧
        row.operator = operator := by
  rw [Store.holder?, Option.bind_eq_some_iff]
  constructor
  · rintro ⟨row, found, holds⟩
    obtain ⟨member, carries⟩ := (find?_eq_some_iff ..).mp found
    cases carries
    unfold DeviceEnrollment.holder at holds
    split at holds
    · cases holds
    next active =>
      cases holds
      exact ⟨row, member, rfl, rfl, by simpa using active, rfl⟩
  · rintro ⟨row, member, rfl, rfl, active, rfl⟩
    refine ⟨row, (find?_eq_some_iff ..).mpr ⟨member, rfl⟩, ?_⟩
    simp [DeviceEnrollment.holder, active]

/-- The loaded active rows of a device. -/
def Store.activeRows (store : Store) (deviceId : String) : List DeviceEnrollment :=
  store.enrollments.rows.filter fun row => row.deviceId = deviceId && !row.revoked

theorem mem_activeRows {store : Store} :
    row ∈ store.activeRows deviceId ↔ row ∈ store.enrollments.rows ∧ row.deviceId = deviceId ∧
        row.revoked = false := by
  simp [Store.activeRows]

/-- What a check that passed has found. -/
structure Passes (upper : List Char → List Char) (store : Store) (request : EnrollmentRequest)
    (checked : CheckedEnrollment) (proof : Option String) : Prop where
  normalized : normalizeFingerprint upper request.certFingerprint = .ok checked.normalized
  named : normalizeOptional upper request.rotationFingerprint = .ok proof
  active : checked.active = store.activeRows request.deviceId
  owned : ∀ row ∈ checked.active, row.operator = request.operator
  authorized : checked.superseded = [] ∨
    rotationAuthorized checked.superseded request.rotationAuthority proof = true

theorem passes_of_checkEnrollment (passed : checkEnrollment upper store request = .ok checked) :
    ∃ proof, Passes upper store request checked proof := by
  obtain ⟨scopes, _, passed⟩ := exists_of_bind_eq_ok passed
  obtain ⟨normalized, isNormalized, passed⟩ := exists_of_bind_eq_ok passed
  obtain ⟨proof, isProof, passed⟩ := exists_of_bind_eq_ok passed
  obtain ⟨_, owned, passed⟩ := exists_of_bind_eq_ok passed
  obtain ⟨_, authorized, passed⟩ := exists_of_bind_eq_ok passed
  cases passed
  refine ⟨proof, isNormalized, isProof, rfl, ?_, ?_⟩
  · intro row listed
    simpa using List.all_eq_true.mp (eq_true_of_require owned) row listed
  · simpa using eq_true_of_require authorized

section Writing

variable {store : Store} {request : EnrollmentRequest} {checked : CheckedEnrollment}

theorem mem_superseded
    (active : checked.active = store.activeRows request.deviceId)
    {row : DeviceEnrollment} :
    row ∈ checked.superseded ↔ row ∈ store.enrollments.rows ∧ row.deviceId = request.deviceId ∧
        row.revoked = false ∧ row.certFingerprint ≠ checked.normalized := by
  simp [CheckedEnrollment.superseded, active, mem_activeRows, and_assoc]

/-- A row under the key of a stored row that a list of stored rows holds is that
row. -/
theorem find?_key_eq
    {rows : List DeviceEnrollment}
    (stored : ∀ row ∈ rows, row ∈ store.enrollments.rows)
    (member : old ∈ store.enrollments.rows) :
    (rows.find? fun row => row.key = old.key) = if old ∈ rows then some old else none := by
  split
  next listed =>
    cases found : rows.find? fun row => row.key = old.key with
    | none =>
      have missing := List.find?_eq_none.mp found old listed
      simp at missing
    | some row =>
      have same : row.key = old.key := by simpa using List.find?_some found
      have listedRow := List.mem_of_find?_eq_some found
      rw [store.enrollments.eq_of_key_eq (stored row listedRow) member same]
  next unlisted =>
    rw [List.find?_eq_none]
    intro row listed
    have different : row.key ≠ old.key := by
      intro same
      rw [store.enrollments.eq_of_key_eq (stored row listed) member same] at listed
      exact unlisted listed
    simpa using different

section

variable (active : checked.active = store.activeRows request.deviceId)
include active

variable {now : Int}

/-- The active rows of the device under other fingerprints are revoked, the others
stay. -/
theorem supersede_apply {old : DeviceEnrollment} (member : old ∈ store.enrollments.rows) :
    (supersede checked.superseded now).apply old = if old ∈ checked.superseded then
        { old with revoked := true, revokedAt := some now }
      else old := by
  have stored : ∀ row ∈ checked.superseded, row ∈ store.enrollments.rows :=
    fun row listed => ((mem_superseded active).mp listed).1
  simp only [supersede, find?_key_eq stored member]
  by_cases listed : old ∈ checked.superseded
  · simp [listed, DeviceEnrollment.update]
  · simp [listed]

/-- The holder of a row that is not superseded stays, and a superseded row has
none. -/
theorem holder_supersede
    (member : old ∈ store.enrollments.rows)
    (other : old.key ≠ (request.deviceId, checked.normalized)) :
    ((supersede checked.superseded now).apply old).holder =
      if old.deviceId = request.deviceId then none else old.holder := by
  rw [supersede_apply active member]
  by_cases device : old.deviceId = request.deviceId
  · have different : old.certFingerprint ≠ checked.normalized := by
      intro same
      exact other (Prod.ext device same)
    rw [if_pos device]
    cases revoked : old.revoked with
    | false =>
      have listed := (mem_superseded active).mpr ⟨member, device, revoked, different⟩
      rw [if_pos listed]
      rfl
    | true =>
      have unlisted : old ∉ checked.superseded := by
        intro listed
        have := ((mem_superseded active).mp listed).2.2.1
        rw [revoked] at this
        cases this
      rw [if_neg unlisted]
      simp [DeviceEnrollment.holder, revoked]
  · have unlisted : old ∉ checked.superseded :=
      fun listed => device ((mem_superseded active).mp listed).2.1
    rw [if_neg device, if_neg unlisted]

theorem holder_putEnrollment : ((writeEnrollment store request checked now).enrollments.find?
      (request.deviceId, checked.normalized)).bind DeviceEnrollment.holder =
        some request.operator := by
  rw [← key_newEnrollment request checked.normalized now]
  simp only [writeEnrollment, putEnrollment]
  split
  · rw [find?_insert_self]
    rfl
  next present =>
    rw [find?_update_self, find?_rewrite]
    rw [find?_rewrite, Option.map_eq_none_iff] at present
    obtain ⟨old, found⟩ := Option.ne_none_iff_exists'.mp present
    obtain ⟨member, key⟩ := (find?_eq_some_iff ..).mp found
    rw [found, Option.map_some, supersede_apply active member, if_neg fun listed =>
        ((mem_superseded active).mp listed).2.2.2 (congrArg Prod.snd key), Option.map_some]
    -- Nobody writes between the parts, so the row made active again is the one loaded.
    have stored : ∀ row ∈ checked.active, row ∈ store.enrollments.rows := by
      intro row listed
      rw [active] at listed
      exact (mem_activeRows.mp listed).1
    have loaded : (checked.active.find? fun row => row.key = old.key).getD old = old := by
      rw [find?_key_eq stored member]
      split <;> rfl
    simp [reactivate, loaded, DeviceEnrollment.update]
    rfl

/-- An enrollment takes the place of what the device had. -/
theorem holder?_writeEnrollment :
    (writeEnrollment store request checked now).holder? deviceId fingerprint =
      if deviceId = request.deviceId then
        if fingerprint = checked.normalized then some request.operator else none
      else store.holder? deviceId fingerprint := by
  by_cases key : (deviceId, fingerprint) = (request.deviceId, checked.normalized)
  · cases key
    rw [if_pos rfl, if_pos rfl]
    exact holder_putEnrollment active
  · have kept : (writeEnrollment store request checked now).enrollments.find?
        (deviceId, fingerprint) = (store.enrollments.find? (deviceId, fingerprint)).map
            (supersede checked.superseded now).apply := by
      rw [← key_newEnrollment request checked.normalized now] at key
      simp only [writeEnrollment, putEnrollment]
      split
      · rw [find?_insert_of_ne _ _ _ key, find?_rewrite]
      · rw [find?_update_of_ne _ _ key, find?_rewrite]
    rw [Store.holder?, kept, Store.holder?]
    cases found : store.enrollments.find? (deviceId, fingerprint) with
    | none =>
      split
      · split
        next device same => exact absurd (Prod.ext device same) key
        · rfl
      · rfl
    | some old =>
      obtain ⟨member, carries⟩ := (find?_eq_some_iff ..).mp found
      have other : old.key ≠ (request.deviceId, checked.normalized) := by
        rw [carries]
        exact key
      have device : old.deviceId = deviceId := congrArg Prod.fst carries
      rw [Option.map_some, Option.bind_some, holder_supersede active member other, device]
      split
      next same =>
        rw [if_neg]
        intro equal
        exact key (Prod.ext same equal)
      · rfl

end

end Writing

theorem holder?_revokeDevice :
    (revokeDevice store deviceId now).holder? other fingerprint =
      if other = deviceId then none else store.holder? other fingerprint := by
  rw [Store.holder?, Store.holder?, revokeDevice, find?_rewrite]
  cases found : store.enrollments.find? (other, fingerprint) with
  | none => simp
  | some old =>
    obtain ⟨_, carries⟩ := (find?_eq_some_iff ..).mp found
    have device : old.deviceId = other := congrArg Prod.fst carries
    rw [Option.map_some]
    dsimp only
    rw [device]
    split
    · rfl
    · rfl

/-! ## Operations -/

/-- An enrollment, which may rotate the certificate of a device, or a revocation. -/
inductive Operation
  | enroll (request : EnrollmentRequest) (now : Int)
  | revoke (deviceId : String) (now : Int)

/-- One call in a transaction of its own.  A call that raises leaves no trace. -/
def Store.apply (upper : List Char → List Char) (store : Store) : Operation → Store
  | .enroll request now =>
    match recordDeviceEnrollment upper store request now with
    | .ok next => next
    | .error _ => store
  | .revoke deviceId now => revokeDevice store deviceId now

/-- Calls one after the other on a new database. -/
def afterOperations (upper : List Char → List Char) (operations : List Operation) : Store :=
  operations.foldl (Store.apply upper) Store.empty

namespace Represents

variable {store : Store} {identities : Identities}

section

variable (represents : Represents store identities)
include represents

/-- The active rows of a device carry its identity. -/
theorem eq_some_of_holder? (holds : store.holder? deviceId fingerprint = some operator) :
    identities deviceId = some (fingerprint, operator) := by
  rw [represents, Identities.holder?, Option.bind_eq_some_iff] at holds
  obtain ⟨identity, found, same⟩ := holds
  split at same
  next fingerprints =>
    cases same
    rw [found, ← fingerprints]
  · cases same

theorem holder?_of_eq_some (found : identities deviceId = some (fingerprint, operator)) :
    store.holder? deviceId fingerprint = some operator := by
  rw [represents, Identities.holder?, found]
  simp

/-- A check that passed permits the enrollment. -/
theorem permits
    {upper : List Char → List Char}
    (passes : Passes upper store request checked proof) :
    identities.Permits request.deviceId checked.normalized request.operator
      request.rotationAuthority proof := by
  intro current owner found
  obtain ⟨row, member, device, rfl, active, rfl⟩ :=
    holder?_eq_some_iff.mp (represents.holder?_of_eq_some found)
  have listed : row ∈ checked.active := by
    rw [passes.active]
    exact mem_activeRows.mpr ⟨member, device, active⟩
  refine ⟨passes.owned row listed, ?_⟩
  by_cases same : row.certFingerprint = checked.normalized
  · exact Or.inl same
  · have superseded : row ∈ checked.superseded :=
      (mem_superseded passes.active).mpr ⟨member, device, active, same⟩
    rcases passes.authorized with none | authorized
    · rw [none] at superseded
      cases superseded
    · simp only [rotationAuthorized, Bool.or_eq_true, decide_eq_true_eq,
        Bool.and_eq_true, Option.any_eq_true, List.any_eq_true] at authorized
      rcases authorized with admin | ⟨self, named, isNamed, other, otherListed, equal⟩
      · exact Or.inr (Or.inl admin)
      · -- The row that the proof names is active on the device, so it is this one.
        obtain ⟨otherMember, otherDevice, otherActive, _⟩ :=
          (mem_superseded passes.active).mp otherListed
        have holds : store.holder? request.deviceId other.certFingerprint = some other.operator :=
          holder?_eq_some_iff.mpr ⟨other, otherMember, otherDevice, rfl, otherActive, rfl⟩
        have identity := represents.eq_some_of_holder? holds
        rw [found, Option.some.injEq, Prod.mk.injEq] at identity
        refine Or.inr (Or.inr ⟨self, ?_⟩)
        rw [isNamed, ← equal, identity.1]

/-- A recorded enrollment becomes the identity of its device. -/
theorem writeEnrollment
    (active : checked.active = store.activeRows request.deviceId)
    (now : Int) :
    Represents (writeEnrollment store request checked now) (identities.set request.deviceId
        (some (checked.normalized, request.operator))) := by
  intro deviceId fingerprint
  rw [holder?_writeEnrollment active, Identities.holder?]
  by_cases device : deviceId = request.deviceId
  · subst device
    simp [eq_comm]
  · rw [if_neg device, Identities.set_of_ne _ device, represents]
    rfl

/-- A revocation leaves its device without an identity. -/
theorem revokeDevice (deviceId : String) (now : Int) :
    Represents (revokeDevice store deviceId now) (identities.set deviceId none) := by
  intro other fingerprint
  rw [holder?_revokeDevice, Identities.holder?]
  by_cases device : other = deviceId
  · subst device
    simp
  · rw [if_neg device, Identities.set_of_ne _ device, represents]
    rfl

end

end Represents

/-- What one call does to the identities: nothing, a permitted enrollment, or a
revocation. -/
inductive Updates (upper : List Char → List Char) (identities : Identities) :
    Operation → Identities → Prop
  | refused (operation : Operation) : Updates upper identities operation identities
  | enrolled
      {request : EnrollmentRequest}
      {now : Int}
      {normalized : String}
      {proof : Option String}
      (named : normalizeOptional upper request.rotationFingerprint = .ok proof)
      (permits : identities.Permits request.deviceId normalized request.operator
        request.rotationAuthority proof) :
      Updates upper identities (.enroll request now)
        (identities.set request.deviceId (some (normalized, request.operator)))
  | revoked (deviceId : String) (now : Int) :
      Updates upper identities (.revoke deviceId now) (identities.set deviceId none)

/-- The code refines the updates of identities. -/
theorem Represents.apply
    (represents : Represents store identities)
    (upper : List Char → List Char)
    (operation : Operation) :
    ∃ next, Updates upper identities operation next ∧
      Represents (store.apply upper operation) next := by
  cases operation with
  | revoke deviceId now => exact ⟨_, .revoked deviceId now, represents.revokeDevice deviceId now⟩
  | enroll request now =>
    simp only [Store.apply]
    split
    next next recorded =>
      obtain ⟨checked, passed, written⟩ := exists_of_bind_eq_ok recorded
      cases written
      obtain ⟨proof, passes⟩ := passes_of_checkEnrollment passed
      exact ⟨_, .enrolled passes.named (represents.permits passes),
        represents.writeEnrollment passes.active now⟩
    · exact ⟨identities, .refused _, represents⟩

theorem represents_empty : Represents Store.empty Identities.none := by
  intro deviceId fingerprint
  rfl

variable {upper : List Char → List Char} {operations : List Operation}

/-- After any calls the active rows are identities. -/
theorem exists_represents :
    ∃ identities, Represents (afterOperations upper operations) identities := by
  refine List.foldlRecOn (motive := fun store => ∃ identities, Represents store identities) _ _
    ⟨_, represents_empty⟩ fun store represented operation _ => ?_
  obtain ⟨identities, represents⟩ := represented
  obtain ⟨next, _, nextRepresents⟩ := represents.apply upper operation
  exact ⟨next, nextRepresents⟩

/-! ## Exclusive identities -/

/-- A fingerprint of a device is active. -/
def Store.Active (store : Store) (deviceId fingerprint : String) : Prop :=
  ∃ operator, store.holder? deviceId fingerprint = some operator

/-- The operator under which a device has an active fingerprint. -/
def Store.Owner (store : Store) (deviceId operator : String) : Prop :=
  ∃ fingerprint, store.holder? deviceId fingerprint = some operator

theorem Updates.owner
    {identities : Identities}
    (updates : Updates upper identities operation next)
    {later owner : String}
    (before : identities deviceId = some (fingerprint, owner))
    (after : next deviceId = some (later, successor)) : owner = successor := by
  cases updates with
  | refused =>
    rw [before] at after
    cases after
    rfl
  | revoked revokedId now =>
    by_cases device : deviceId = revokedId
    · subst device
      simp at after
    · rw [Identities.set_of_ne _ device, before] at after
      cases after
      rfl
  | @enrolled request now normalized proof named permits =>
    by_cases device : deviceId = request.deviceId
    · subst device
      have kept := (permits fingerprint owner before).1
      simp only [Identities.set_self, Option.some.injEq, Prod.mk.injEq] at after
      rw [kept]
      exact after.2
    · rw [Identities.set_of_ne _ device, before] at after
      cases after
      rfl

/-- One call takes a fingerprint out of use only by revoking its device, or by an
enrollment with the authority to rotate it. -/
theorem Updates.superseded
    {identities : Identities}
    (updates : Updates upper identities operation next)
    {owner : String}
    (before : identities deviceId = some (fingerprint, owner))
    (changed : ∀ successor, next deviceId ≠ some (fingerprint, successor)) :
    (∃ now, operation = .revoke deviceId now) ∨ ∃ request now, operation = .enroll request now ∧
        request.deviceId = deviceId ∧
        (request.rotationAuthority = some .admin ∨ (request.rotationAuthority = some .self ∧
            normalizeOptional upper request.rotationFingerprint = .ok (some fingerprint))) := by
  cases updates with
  | refused => exact absurd before (changed owner)
  | revoked revokedId now =>
    by_cases device : deviceId = revokedId
    · subst device
      exact Or.inl ⟨now, rfl⟩
    · rw [Identities.set_of_ne _ device] at changed
      exact absurd before (changed owner)
  | @enrolled request now normalized proof named permits =>
    by_cases device : deviceId = request.deviceId
    · subst device
      refine Or.inr ⟨request, now, rfl, rfl, ?_⟩
      rcases (permits fingerprint owner before).2 with same | admin | ⟨self, proves⟩
      · have stays := changed request.operator
        rw [Identities.set_self, same] at stays
        exact absurd rfl stays
      · exact Or.inl admin
      · rw [proves] at named
        exact Or.inr ⟨self, named⟩
    · rw [Identities.set_of_ne _ device] at changed
      exact absurd before (changed owner)

theorem resolveDevice_eq_ok_iff : resolveDevice upper store deviceId presented = .ok identity ↔
      ∃ fingerprint, normalizeFingerprint upper presented = .ok fingerprint ∧
        store.holder? deviceId fingerprint = some identity.operator ∧
        identity = ⟨identity.operator, deviceId, fingerprint⟩ := by
  constructor
  · intro resolved
    obtain ⟨normalized, isNormalized, resolved⟩ := exists_of_bind_eq_ok resolved
    refine ⟨normalized, isNormalized, ?_⟩
    split at resolved
    next row found =>
      obtain ⟨_, active, resolved⟩ := exists_of_bind_eq_ok resolved
      cases resolved
      have unrevoked : row.revoked = false := by simpa using eq_true_of_require active
      obtain ⟨_, carries⟩ := (find?_eq_some_iff ..).mp found
      cases carries
      refine ⟨?_, rfl⟩
      rw [Store.holder?, found]
      simp [DeviceEnrollment.holder, unrevoked]
    · cases resolved
  · rintro ⟨fingerprint, isNormalized, holds, shape⟩
    rw [Store.holder?, Option.bind_eq_some_iff] at holds
    obtain ⟨row, found, holder⟩ := holds
    obtain ⟨_, carries⟩ := (find?_eq_some_iff ..).mp found
    have device : row.deviceId = deviceId := congrArg Prod.fst carries
    unfold DeviceEnrollment.holder at holder
    split at holder
    · cases holder
    next unrevoked =>
      rw [Option.some.injEq] at holder
      have active : row.revoked = false := by simpa using unrevoked
      rw [shape]
      simp only [resolveDevice, isNormalized, ok_bind, found, active, holder, device]
      rfl

/-- The owner of a device changes over a run of calls only through a state in which
the device has none. -/
theorem exists_unowned_of_ne
    (represents : Represents store identities)
    (before : store.Owner deviceId owner)
    (after : (operations.foldl (Store.apply upper) store).Owner deviceId successor)
    (changed : owner ≠ successor) : ∃ middle rest, operations = middle ++ rest ∧
      ∀ operator, ¬(middle.foldl (Store.apply upper) store).Owner deviceId operator := by
  induction operations generalizing store identities with
  | nil =>
    obtain ⟨_, first⟩ := before
    obtain ⟨_, second⟩ := after
    have same := (represents.eq_some_of_holder? first).symm.trans
      (represents.eq_some_of_holder? second)
    cases same
    exact absurd rfl changed
  | cons operation rest ih =>
    obtain ⟨next, updates, nextRepresents⟩ := represents.apply upper operation
    by_cases owned : ∃ operator, (store.apply upper operation).Owner deviceId operator
    · obtain ⟨operator, fingerprint, holds⟩ := owned
      obtain ⟨_, first⟩ := before
      have same := updates.owner (represents.eq_some_of_holder? first)
        (nextRepresents.eq_some_of_holder? holds)
      subst same
      obtain ⟨middle, tail, split, unowned⟩ := ih nextRepresents ⟨fingerprint, holds⟩ after
      exact ⟨operation :: middle, tail, by rw [split]; rfl, unowned⟩
    · exact ⟨[operation], rest, rfl, fun operator owns => owned ⟨operator, owns⟩⟩

/-- Device identities after some calls: at most one fingerprint is active, a later
owner comes after a state without one, an active fingerprint gives way to another
only with the authority to rotate it, and exactly the active fingerprints resolve. -/
structure ExclusiveIdentity (upper : List Char → List Char)
    (operations : List Operation) : Prop where
  unique : ∀ deviceId first second,
    (afterOperations upper operations).Active deviceId first →
    (afterOperations upper operations).Active deviceId second → first = second
  owner : ∀ later deviceId operator successor,
    (afterOperations upper operations).Owner deviceId operator →
    (afterOperations upper (operations ++ later)).Owner deviceId successor →
    operator ≠ successor →
    ∃ middle rest, later = middle ++ rest ∧
      ∀ other, ¬(afterOperations upper (operations ++ middle)).Owner deviceId other
  superseded : ∀ operation deviceId fingerprint,
    (afterOperations upper operations).Active deviceId fingerprint →
    ¬(afterOperations upper (operations ++ [operation])).Active deviceId fingerprint →
    (∃ now, operation = .revoke deviceId now) ∨
      ∃ request now, operation = .enroll request now ∧
        request.deviceId = deviceId ∧
        (request.rotationAuthority = some .admin ∨
          (request.rotationAuthority = some .self ∧
            ∃ proof, normalizeOptional upper request.rotationFingerprint = .ok (some proof) ∧
              (afterOperations upper operations).Active deviceId proof))
  resolves : ∀ deviceId presented,
    (∃ identity, resolveDevice upper (afterOperations upper operations) deviceId
      presented = .ok identity) ↔
      ∃ fingerprint, normalizeFingerprint upper presented = .ok fingerprint ∧
        (afterOperations upper operations).Active deviceId fingerprint

/-- Device identities are exclusive over every sequence of calls. -/
theorem exclusiveIdentity (upper : List Char → List Char) (operations : List Operation) :
    ExclusiveIdentity upper operations := by
  obtain ⟨identities, represents⟩ := exists_represents
  refine ⟨?_, ?_, ?_, ?_⟩
  · rintro deviceId first second ⟨_, firstHolds⟩ ⟨_, secondHolds⟩
    have same := (represents.eq_some_of_holder? firstHolds).symm.trans
      (represents.eq_some_of_holder? secondHolds)
    cases same
    rfl
  · intro later deviceId operator successor before after changed
    simp only [afterOperations, List.foldl_append] at after ⊢
    exact exists_unowned_of_ne represents before after changed
  · rintro operation deviceId fingerprint ⟨owner, holds⟩ inactive
    obtain ⟨next, updates, nextRepresents⟩ := represents.apply upper operation
    rw [afterOperations, List.foldl_append] at inactive
    rcases updates.superseded (represents.eq_some_of_holder? holds) (fun successor found =>
          inactive ⟨successor, nextRepresents.holder?_of_eq_some found⟩) with
      revoked | ⟨request, now, enrolls, device, authority⟩
    · exact Or.inl revoked
    · refine Or.inr ⟨request, now, enrolls, device, ?_⟩
      rcases authority with admin | ⟨self, named⟩
      · exact Or.inl admin
      · exact Or.inr ⟨self, fingerprint, named, owner, holds⟩
  · intro deviceId presented
    constructor
    · rintro ⟨identity, resolved⟩
      obtain ⟨fingerprint, isNormalized, holds, _⟩ := resolveDevice_eq_ok_iff.mp resolved
      exact ⟨fingerprint, isNormalized, identity.operator, holds⟩
    · rintro ⟨fingerprint, isNormalized, operator, holds⟩
      exact ⟨⟨operator, deviceId, fingerprint⟩, resolveDevice_eq_ok_iff.mpr
        ⟨fingerprint, isNormalized, holds, rfl⟩⟩

end Grpc
end Sutradhara
