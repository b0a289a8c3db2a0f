import Sutradhara.Foundation.Raising
import Sutradhara.Foundation.Table

/-!
# Device enrollments

An enrollment gives a device one active certificate fingerprint under one operator.
Recording it reads the active rows of the device first, checks owner and rotation
authority against them, and then writes; the two parts are kept apart here, since
another session may write between them.
-/

namespace Sutradhara
namespace Grpc

open Foundation
open Foundation.Raising

/-- What the store raises. -/
inductive StoreError
  | value (message : String)
  /-- `bytes.fromhex` on a text that is not hexadecimal. -/
  | notHexadecimal
  | ownership (message : String)
  | rotationProof (message : String)
  | permission (message : String)

/-! ## Fingerprints and scopes -/

/-- A pair of hexadecimal digits, with ASCII white space before it, again and again:
what `bytes.fromhex` accepts. -/
def isHexText : List Char → Bool
  | [] => true
  | char :: rest =>
    if char ∈ [' ', '\t', '\n', '\x0b', '\x0c', '\r'] then isHexText rest
    else
      match rest with
      | [] => false
      | second :: tail =>
        let digit := fun digit : Char =>
          digit.isDigit || ('a' ≤ digit && digit ≤ 'f') ||
            ('A' ≤ digit && digit ≤ 'F')
        digit char && digit second && isHexText tail

/-- The text in pieces of two characters. -/
def pairs : List Char → List (List Char)
  | [] => []
  | [char] => [[char]]
  | first :: second :: rest => [first, second] :: pairs rest

/-- `normalize_fingerprint`, with `str.upper`. -/
def normalizeFingerprint (upper : List Char → List Char) (value : String) :
    Except StoreError String := do
  let compact := upper (value.toList.filter fun char => char ≠ ':' && char ≠ ' ')
  require (compact.length = 64) (.value "certificate fingerprint must be a SHA-256 hex digest")
  require (isHexText compact) .notHexadecimal
  return String.ofList ([':'].intercalate (pairs compact))

/-- `DeviceScope`. -/
inductive DeviceScope
  | ingest
  | restore
  deriving DecidableEq

/-- The text of a scope. -/
def DeviceScope.text : DeviceScope → String
  | .ingest => "ingest"
  | .restore => "restore"

/-- `validate_device_scopes`. -/
def validateDeviceScopes (scopes : List String) : Except StoreError (List DeviceScope) := do
  require (scopes ≠ []) (.value "enrollment scopes must be a non-empty list")
  require (scopes.all fun scope => scope = "ingest" || scope = "restore")
    (.value "enrollment scopes must contain only ingest and restore")
  require scopes.Nodup (.value "enrollment scopes must not contain duplicates")
  return [DeviceScope.ingest, .restore].filter fun scope => scope.text ∈ scopes

/-! ## Rows -/

/-- `RotationAuthority`. -/
inductive RotationAuthority
  | self
  | admin
  deriving DecidableEq

/-- A `GrpcLogicalDevice` row. -/
structure LogicalDevice where
  deviceId : String
  scopes : List DeviceScope
  createdAt : Int
  updatedAt : Int

/-- A `GrpcDeviceEnrollment` row. -/
structure DeviceEnrollment where
  deviceId : String
  certFingerprint : String
  operator : String
  revoked : Bool
  createdAt : Int
  revokedAt : Option Int
  deriving DecidableEq

/-- The columns of `uq_grpc_device_fingerprint`. -/
def DeviceEnrollment.key (row : DeviceEnrollment) : String × String :=
  (row.deviceId, row.certFingerprint)

/-- The enrollment tables. -/
structure Store where
  devices : Table LogicalDevice.deviceId
  enrollments : Table DeviceEnrollment.key

/-- The tables of a new database. -/
def Store.empty : Store := ⟨.empty, .empty⟩

/-! ## Recording an enrollment -/

/-- The arguments of `record_device_enrollment`. -/
structure EnrollmentRequest where
  deviceId : String
  certFingerprint : String
  operator : String
  scopes : List String
  rotationAuthority : Option RotationAuthority
  rotationFingerprint : Option String

/-- What the first part of a recording has found: the checked arguments, and the
active rows of the device as they were loaded. -/
structure CheckedEnrollment where
  scopes : List DeviceScope
  normalized : String
  active : List DeviceEnrollment
  deriving DecidableEq

/-- The active rows that carry another fingerprint. -/
def CheckedEnrollment.superseded (checked : CheckedEnrollment) : List DeviceEnrollment :=
  checked.active.filter fun row => row.certFingerprint ≠ checked.normalized

variable (superseded : List DeviceEnrollment) (upper : List Char → List Char) (store : Store)
  (request : EnrollmentRequest) (checked : CheckedEnrollment) (normalized : String) (now : Int)

/-- `_require_rotation_authority`. -/
def rotationAuthorized (authority : Option RotationAuthority)
    (fingerprint : Option String) : Bool :=
  authority = some .admin ||
    (authority = some .self &&
      fingerprint.any fun proof => superseded.any fun row => row.certFingerprint = proof)

/-- An optional fingerprint in normal form. -/
def normalizeOptional :
    Option String → Except StoreError (Option String)
  | none => .ok none
  | some value => (normalizeFingerprint upper value).map some

/-- `record_device_enrollment` up to its first write. -/
def checkEnrollment : Except StoreError CheckedEnrollment := do
  let scopes ← validateDeviceScopes request.scopes
  let normalized ← normalizeFingerprint upper request.certFingerprint
  let proof ← normalizeOptional upper request.rotationFingerprint
  let checked : CheckedEnrollment := ⟨scopes, normalized,
    store.enrollments.rows.filter fun row => row.deviceId = request.deviceId && !row.revoked⟩
  require (checked.active.all fun row => row.operator = request.operator)
    (.ownership "device belongs to a different operator")
  require (checked.superseded.isEmpty ||
      rotationAuthorized checked.superseded request.rotationAuthority proof)
    (.rotationProof "active device certificate rotation requires old-key proof")
  return checked

/-- The update of a row writes only the columns that differ from the loaded row. -/
def DeviceEnrollment.update (loaded assigned stored : DeviceEnrollment) : DeviceEnrollment :=
  { stored with
    operator := flushed loaded.operator assigned.operator stored.operator
    revoked := flushed loaded.revoked assigned.revoked stored.revoked
    revokedAt := flushed loaded.revokedAt assigned.revokedAt stored.revokedAt }

/-- The superseded rows are revoked as they were loaded. -/
def supersede : Rewrite DeviceEnrollment.key where
  apply stored :=
    match superseded.find? fun row => row.key = stored.key with
    | some loaded => loaded.update { loaded with revoked := true, revokedAt := some now } stored
    | none => stored
  keeps stored := by split <;> rfl

/-- An enrollment that is there already becomes active again. -/
def reactivate (active : List DeviceEnrollment) (operator : String) :
    Rewrite DeviceEnrollment.key where
  apply stored :=
    let loaded := (active.find? fun row => row.key = stored.key).getD stored
    loaded.update { loaded with operator := operator, revoked := false, revokedAt := none } stored
  keeps _ := rfl

/-- The row of a first enrollment. -/
def newEnrollment : DeviceEnrollment where
  deviceId := request.deviceId
  certFingerprint := normalized
  operator := request.operator
  revoked := false
  createdAt := now
  revokedAt := none

theorem key_newEnrollment :
    (newEnrollment request normalized now).key = (request.deviceId, normalized) := rfl

/-- `_get_or_create_logical_device`, and the scopes that replace the old ones. -/
def putLogicalDevice (devices : Table LogicalDevice.deviceId) (deviceId : String)
    (scopes : List DeviceScope) (now : Int) : Table LogicalDevice.deviceId :=
  if absent : devices.find? deviceId = none then
    devices.insert ⟨deviceId, scopes, now, now⟩ absent
  else
    devices.update deviceId
      ⟨fun row => { row with scopes := scopes, updatedAt := now }, fun _ => rfl⟩

/-- The enrollment of a request, added or made active again. -/
def putEnrollment (enrollments : Table DeviceEnrollment.key) (request : EnrollmentRequest)
    (checked : CheckedEnrollment) (now : Int) : Table DeviceEnrollment.key :=
  let row := newEnrollment request checked.normalized now
  if absent : enrollments.find? row.key = none then enrollments.insert row absent
  else enrollments.update row.key (reactivate checked.active request.operator)

/-- `record_device_enrollment` from its first write to the commit. -/
def writeEnrollment : Store where
  devices := putLogicalDevice store.devices request.deviceId checked.scopes now
  enrollments := putEnrollment
    (store.enrollments.rewrite (supersede checked.superseded now)) request checked now

/-- `record_device_enrollment` with nothing in between. -/
def recordDeviceEnrollment : Except StoreError Store := do
  let checked ← checkEnrollment upper store request
  return writeEnrollment store request checked now

/-- `revoke_device`. -/
def revokeDevice (deviceId : String) (now : Int) : Store where
  devices := store.devices
  enrollments := store.enrollments.rewrite
    { apply := fun row =>
        if row.deviceId = deviceId then { row with revoked := true, revokedAt := some now }
        else row
      keeps := fun row => by split <;> rfl }

/-- `DeviceIdentity`. -/
structure DeviceIdentity where
  operator : String
  deviceId : String
  fingerprint : String

/-- `resolve_device`. -/
def resolveDevice (deviceId certFingerprint : String) : Except StoreError DeviceIdentity := do
  let normalized ← normalizeFingerprint upper certFingerprint
  match store.enrollments.find? (deviceId, normalized) with
  | some row =>
    require (!row.revoked) (.permission "device certificate is not enrolled")
    return ⟨row.operator, row.deviceId, normalized⟩
  | none => throw (.permission "device certificate is not enrolled")

end Grpc
end Sutradhara
