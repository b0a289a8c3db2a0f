import Sutradhara.Foundation.Interleaving
import Sutradhara.Grpc.Enrollment

/-!
# Enrollment tokens

A token is issued to an operator for a device; the earlier unused tokens of the two
are marked used with it.  Signing a request consumes its token, signs, and records
the enrollment; a failure in between releases the token in a transaction of its own.
Each transaction reads first, and its statements and the commit follow as one step,
so that another session may run between the two.
-/

namespace Sutradhara
namespace Grpc

open Foundation
open Foundation.Raising
open Foundation.Interleaving

/-- A `GrpcEnrollToken` row. -/
structure EnrollToken where
  token : String
  createdAt : Int
  expiresAt : Int
  operator : String
  deviceId : String
  scopes : List String
  rotationAuthority : Option RotationAuthority
  rotationFingerprint : Option String
  usedAt : Option Int
  deriving DecidableEq

/-- `EnrollTokenGrant`. -/
structure EnrollTokenGrant where
  operator : String
  deviceId : String
  scopes : List DeviceScope
  rotationAuthority : Option RotationAuthority
  rotationFingerprint : Option String
  deriving DecidableEq

/-- What became of the tokens.  An issue lists the tokens that its operator and
device had before. -/
inductive TokenEvent
  | issued (token : String) (earlier : List String)
  | accepted (token : String)
  | recorded (token : String)
  deriving DecidableEq

/-- The committed tables and all events, the newest first. -/
structure Desk where
  tokens : Table EnrollToken.token
  store : Store
  history : List TokenEvent

/-! ## Issuing -/

/-- The arguments of `issue_enroll_token`. -/
structure IssueRequest where
  operator : String
  deviceId : String
  scopes : List String
  ttl : Int
  rotationAuthority : Option RotationAuthority
  rotationFingerprint : Option String

/-- `issue_enroll_token` up to its query: the scopes and the fingerprint in normal
form. -/
def checkIssue (upper : List Char → List Char) (request : IssueRequest) :
    Except StoreError (List DeviceScope × Option String) := do
  let scopes ← validateDeviceScopes request.scopes
  require (request.rotationAuthority ≠ none || request.rotationFingerprint = none)
    (.value "rotation_fingerprint requires rotation_authority")
  require (request.rotationAuthority ≠ some .self ||
      (request.rotationFingerprint.any fun value => value ≠ ""))
    (.value "self rotation requires old certificate fingerprint proof")
  let fingerprint ← normalizeOptional upper request.rotationFingerprint
  return (scopes, fingerprint)

/-- The token belongs to an operator and a device. -/
def EnrollToken.isFor (row : EnrollToken) (operator deviceId : String) : Bool :=
  row.operator = operator && row.deviceId = deviceId

section

variable (desk : Desk) (operator deviceId : String)

/-- The unused tokens of an operator and a device. -/
def Desk.priorTokens : List EnrollToken :=
  desk.tokens.rows.filter fun row => row.isFor operator deviceId && row.usedAt = none

/-- The tokens of an operator and a device, used or not. -/
def Desk.tokensOf : List String :=
  (desk.tokens.rows.filter fun row => row.isFor operator deviceId).map EnrollToken.token

end

/-- The loaded tokens are marked used. -/
def markUsed (prior : List EnrollToken) (now : Int) : Rewrite EnrollToken.token where
  apply stored :=
    match prior.find? fun row => row.token = stored.token with
    | some loaded => { stored with usedAt := flushed loaded.usedAt (some now) stored.usedAt }
    | none => stored
  keeps stored := by split <;> rfl

/-- The row of a new token. -/
def newToken (request : IssueRequest) (scopes : List DeviceScope) (fingerprint : Option String)
    (token : String) (now : Int) : EnrollToken where
  token := token
  createdAt := now
  expiresAt := now + request.ttl
  operator := request.operator
  deviceId := request.deviceId
  scopes := scopes.map DeviceScope.text
  rotationAuthority := request.rotationAuthority
  rotationFingerprint := fingerprint
  usedAt := none

/-- Where an issue stands. -/
inductive Issuing
  | start
  | writing (scopes : List DeviceScope) (fingerprint : Option String)
      (prior : List EnrollToken) (now : Int)
  | finished
  deriving DecidableEq

/-! ## Signing -/

/-- The arguments of `sign_device_csr`: the common name of the request and the
token. -/
structure SignRequest where
  deviceId : String
  token : String

/-- `consume_enroll_token` up to its statement. -/
def checkToken (tokens : Table EnrollToken.token) (request : SignRequest)
    (now : Int) : Except StoreError EnrollTokenGrant :=
  match tokens.find? request.token with
  | none => .error (.value "enrollment token is unknown")
  | some row => do
      require (row.usedAt = none) (.value "enrollment token was already used")
      require (now ≤ row.expiresAt) (.value "enrollment token has expired")
      require (row.deviceId = request.deviceId)
        (.value "CSR common name does not match enrollment token device_id")
      let scopes ← validateDeviceScopes row.scopes
      return ⟨row.operator, row.deviceId, scopes, row.rotationAuthority, row.rotationFingerprint⟩

/-- Assign the time of use of a token. -/
def assignUsed (loaded assigned : Option Int) : Rewrite EnrollToken.token where
  apply stored := { stored with usedAt := flushed loaded assigned stored.usedAt }
  keeps _ := rfl

/-- Where a signing stands. -/
inductive Signing
  | start
  | consuming (grant : EnrollTokenGrant) (now : Int)
  | signing (grant : EnrollTokenGrant)
  | recording (grant : EnrollTokenGrant) (fingerprint : String)
  | writing (grant : EnrollTokenGrant) (fingerprint : String) (checked : CheckedEnrollment)
  | releasing (grant : EnrollTokenGrant)
  | clearing (grant : EnrollTokenGrant) (loaded : Option Int)
  | finished
  deriving DecidableEq

/-- The recording that a signing asks for. -/
def EnrollTokenGrant.request (grant : EnrollTokenGrant)
    (deviceId fingerprint : String) : EnrollmentRequest where
  deviceId := deviceId
  certFingerprint := fingerprint
  operator := grant.operator
  scopes := grant.scopes.map DeviceScope.text
  rotationAuthority := grant.rotationAuthority
  rotationFingerprint := grant.rotationFingerprint

/-! ## Sessions -/

/-- What a session runs. -/
inductive TokenSession
  | issue (request : IssueRequest) (place : Issuing)
  | sign (request : SignRequest) (place : Signing)

/-- What the environment decides in a step. -/
inductive TokenChoice
  /-- The session reads, at some time. -/
  | reads (now : Int)
  /-- The session writes and commits, at some time; an issue draws a token. -/
  | commits (token : String) (now : Int)
  /-- The certificate is signed and has a fingerprint. -/
  | signs (fingerprint : String)
  /-- Signing raises. -/
  | fails
  /-- The process stops, or an exception leaves the session. -/
  | stop

variable (upper : List Char → List Char)

/-- `issue_enroll_token`, one step. -/
def issueStep (desk : Desk) (request : IssueRequest) :
    Issuing → TokenChoice → Option (Desk × Issuing)
  | .start, .reads now =>
    match checkIssue upper request with
    | .ok (scopes, fingerprint) => some (desk, .writing scopes fingerprint
        (desk.priorTokens request.operator request.deviceId) now)
    | .error _ => some (desk, .finished)
  | .writing scopes fingerprint prior now, .commits token _ =>
    let row := newToken request scopes fingerprint token now
    let marked := desk.tokens.rewrite (markUsed prior now)
    if absent : marked.find? row.token = none then
      some (⟨marked.insert row absent, desk.store,
        .issued token (desk.tokensOf request.operator request.deviceId) :: desk.history⟩, .finished)
    else some (desk, .finished)
  | _, .stop => some (desk, .finished)
  | _, _ => none

/-- `sign_device_csr`, one step. -/
def signStep (desk : Desk) (request : SignRequest) :
    Signing → TokenChoice → Option (Desk × Signing)
  | .start, .reads now =>
    match checkToken desk.tokens request now with
    | .ok grant => some (desk, .consuming grant now)
    | .error _ => some (desk, .finished)
  | .consuming grant now, .commits _ _ =>
    some ({ desk with
      tokens := desk.tokens.update request.token (assignUsed none (some now))
      history := .accepted request.token :: desk.history }, .signing grant)
  | .signing grant, .signs fingerprint => some (desk, .recording grant fingerprint)
  | .signing grant, .fails => some (desk, .releasing grant)
  | .recording grant fingerprint, .reads _ =>
    match checkEnrollment upper desk.store (grant.request request.deviceId fingerprint) with
    | .ok checked => some (desk, .writing grant fingerprint checked)
    | .error (.ownership _) => some (desk, .releasing grant)
    | .error (.rotationProof _) => some (desk, .releasing grant)
    | .error _ => some (desk, .finished)
  | .writing grant fingerprint checked, .commits _ now =>
    some ({ desk with
      store := writeEnrollment desk.store (grant.request request.deviceId fingerprint) checked now
      history := .recorded request.token :: desk.history }, .finished)
  | .releasing grant, .reads _ =>
    match (desk.tokens.find? request.token).bind EnrollToken.usedAt with
    | none => some (desk, .finished)
    | some used => some (desk, .clearing grant (some used))
  | .clearing _ loaded, .commits _ _ =>
    some ({ desk with
      tokens := desk.tokens.update request.token (assignUsed loaded none) },
      .finished)
  | _, .stop => some (desk, .finished)
  | _, _ => none

/-- One step of a session. -/
def tokenStep (desk : Desk) : TokenSession → TokenChoice → Option (Desk × TokenSession)
  | .issue request place, choice =>
    (issueStep upper desk request place choice).map fun next => (next.1, .issue request next.2)
  | .sign request place, choice =>
    (signStep upper desk request place choice).map fun next => (next.1, .sign request next.2)

/-- A session that has not begun. -/
def TokenSession.entering : TokenSession → Bool
  | .issue _ place => place = .start
  | .sign _ place => place = .start

/-- Issues and signings for any operators and devices in any interleaving. -/
def tokenProgram : Program Desk TokenSession TokenChoice where
  initial := TokenSession.entering
  step _ := tokenStep upper

/-- Any tables, before the first session. -/
def openDesk (tokens : Table EnrollToken.token) (store : Store) : Config Desk TokenSession :=
  ⟨⟨tokens, store, []⟩, []⟩

/-! ## What one-time tokens ask for -/

/-- A token leads to one recorded enrollment at most, and is not accepted after a
newer token was issued to its operator and device. -/
structure OneTime (history : List TokenEvent) : Prop where
  once : ∀ token earlier, .recorded token :: earlier <:+ history → .recorded token ∉ earlier
  retired : ∀ token earlier, .accepted token :: earlier <:+ history →
    ∀ newer superseded, .issued newer superseded ∈ earlier → token ∉ superseded

/-- Enrollment tokens are one-time in every run. -/
def OneTimeLaw : Prop :=
  ∀ (upper : List Char → List Char) (tokens : Table EnrollToken.token)
    (store : Store) (moves : List (Move TokenSession TokenChoice))
    (final : Config Desk TokenSession),
    Transition.run (tokenProgram upper).move (openDesk tokens store) moves =
      some final →
      OneTime final.shared.history

end Grpc
end Sutradhara
