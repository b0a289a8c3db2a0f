import Sutradhara.Foundation.Table
import Sutradhara.Foundation.Transition

/-!
# Receive intents and source claims

The receive API keeps one intent row per operator and idempotency key, and one
claim row per source.  The intent and its claim carry heartbeats of their own.
Every operation below is one transaction over both tables.  Only rows of the
device endpoint are kept here; such a row is always inserted with a device and a
card.
-/

namespace Sutradhara
namespace Receive

open Foundation

/-- Status of an intent row. -/
inductive IntentStatus
  | inProgress
  | completed
  | warned
  | authorized
  | started
  | committed
  | aborted
  | quarantined
  | failed
  deriving DecidableEq

/-- An intent that holds or awaits a receive. -/
def IntentStatus.isActive : IntentStatus → Bool
  | .authorized | .started => true
  | _ => false

/-- The states into which an intake may terminalize its intent. -/
inductive TerminalState
  | committed
  | aborted
  | quarantined
  | failed

def TerminalState.status : TerminalState → IntentStatus
  | .committed => .committed
  | .aborted => .aborted
  | .quarantined => .quarantined
  | .failed => .failed

/-- The estimate of what a card listing adds to the catalog. -/
structure Estimate where
  allKnownEstimate : Bool
  body : String

/-- The stored answer to a listing without news. -/
structure DuplicateWarning where
  error : String
  detail : String
  retryable : Bool
  estimate : Estimate

/-- One durable intent of the device endpoint. -/
structure IdempotencyRecord where
  operatorUsername : String
  idempotencyKey : String
  requestHash : String
  status : IntentStatus
  intakeId : Option String
  responseJson : Option String
  deviceId : String
  cardIdentity : String
  duplicateWarning : Option DuplicateWarning
  duplicateAcknowledged : Bool
  leaseSourceId : Option String
  warnedAt : Option Nat
  authorizedAt : Option Nat
  startedAt : Option Nat
  terminalAt : Option Nat
  createdAt : Nat
  updatedAt : Nat
  lastHeartbeat : Nat

/-- Operator and key of a request. -/
abbrev Scope := String × String

/-- The unique scope of an intent. -/
def IdempotencyRecord.scope (record : IdempotencyRecord) : Scope :=
  (record.operatorUsername, record.idempotencyKey)

/-- One durable lease of a source. -/
structure SourceClaim where
  sourceId : String
  operatorUsername : String
  idempotencyKey : String
  intakeId : Option String
  createdAt : Nat
  updatedAt : Nat
  lastHeartbeat : Nat
  deriving DecidableEq

/-- Both tables. -/
structure Store where
  records : Table IdempotencyRecord.scope
  claims : Table SourceClaim.sourceId

/-- `card_lease_source_id`. -/
def cardLeaseSourceId (cardIdentity : String) : String := "card-identity:" ++ cardIdentity

section

variable (claim : SourceClaim) (status : IntentStatus) (ttl now : Nat) (store : Store)
  (claims : Table SourceClaim.sourceId) (sourceId operatorUsername idempotencyKey : String)
  (record : IdempotencyRecord)

/-- `_is_stale`, and the guard `last_heartbeat < now - ttl` of the updates. -/
def isStale (value now : Nat) : Bool := value + ttl < now

/-- `_claim_owned_by`. -/
def claimOwnedBy : Bool :=
  claim.operatorUsername == operatorUsername && claim.idempotencyKey == idempotencyKey

/-- `_claim_owned_by_record`. -/
def claimOwnedByRecord : Bool := claimOwnedBy claim record.operatorUsername record.idempotencyKey

/-- `_claim_source_in_session`: an absent source is claimed, a claim of one's own
is kept as it is, and a stale claim is taken over. -/
def claimSourceInSession : Option (Table SourceClaim.sourceId) :=
  match found : claims.find? sourceId with
  | none =>
    some (claims.insert ⟨sourceId, operatorUsername, idempotencyKey, none, now, now, now⟩ found)
  | some claim =>
    if claimOwnedBy claim operatorUsername idempotencyKey then some claims
    else if !isStale ttl claim.lastHeartbeat now then none
    else
      some (claims.update sourceId ⟨fun row =>
        { row with
          operatorUsername := operatorUsername
          idempotencyKey := idempotencyKey
          intakeId := none
          createdAt := now
          updatedAt := now
          lastHeartbeat := now }, fun _ => rfl⟩)

/-- `_source_claim_is_busy`. -/
def sourceClaimIsBusy : Bool :=
  match claims.find? sourceId with
  | none => false
  | some claim =>
    if claimOwnedBy claim operatorUsername idempotencyKey then false
    else !isStale ttl claim.lastHeartbeat now

/-- `_release_record_lease`. -/
def releaseRecordLease : Table SourceClaim.sourceId :=
  match record.leaseSourceId with
  | none => claims
  | some sourceId =>
    claims.delete fun claim => claim.sourceId == sourceId && claimOwnedByRecord claim record

/-- Terminalize an intent and keep its heartbeat. -/
def terminalize : Rewrite IdempotencyRecord.scope where
  apply record := { record with status := status, terminalAt := some now, updatedAt := now }
  keeps _ := rfl

/-- Terminalize an intent with a last heartbeat. -/
def terminalizeBeating : Rewrite IdempotencyRecord.scope where
  apply record :=
    { record with
      status := status
      terminalAt := some now
      updatedAt := now
      lastHeartbeat := now }
  keeps _ := rfl

/-- Rewrite one intent and release the lease it names. -/
def Store.close (change : Rewrite IdempotencyRecord.scope) : Store where
  records := store.records.update record.scope change
  claims := releaseRecordLease store.claims record

/-- `_authorize_record_lease`. -/
def authorizeRecordLease : Option Store :=
  let leaseSourceId := cardLeaseSourceId record.cardIdentity
  (claimSourceInSession ttl now store.claims leaseSourceId
    record.operatorUsername record.idempotencyKey).map fun claims =>
      ⟨store.records.update record.scope ⟨fun row =>
        { row with
          status := .authorized
          leaseSourceId := some leaseSourceId
          authorizedAt := some now
          updatedAt := now
          lastHeartbeat := now }, fun _ => rfl⟩, claims⟩

end

/-- The body of a device receive request, with the estimate made from its
listing when it has one. -/
structure BeginRequest where
  operatorUsername : String
  deviceId : String
  cardIdentity : String
  idempotencyKey : String
  requestHash : String
  acknowledgeDuplicate : Bool
  estimate : Option Estimate

/-- Result of beginning a device receive intent. -/
inductive DeviceIntentDecision
  | warned (warning : Option DuplicateWarning)
  | authorized
  | completed (responseJson : String)
  | conflict
  | inProgress
  | busy
  | terminal (state : IntentStatus)

section

variable (ttl now : Nat) (store : Store) (request : BeginRequest)

/-- The row a new request inserts. -/
def newRecord : IdempotencyRecord where
  operatorUsername := request.operatorUsername
  idempotencyKey := request.idempotencyKey
  requestHash := request.requestHash
  status := .inProgress
  intakeId := none
  responseJson := none
  deviceId := request.deviceId
  cardIdentity := request.cardIdentity
  duplicateWarning := none
  duplicateAcknowledged := false
  leaseSourceId := none
  warnedAt := none
  authorizedAt := none
  startedAt := none
  terminalAt := none
  createdAt := now
  updatedAt := now
  lastHeartbeat := now

/-- The warning for a listing whose entries are all known. -/
def nothingNew : Option DuplicateWarning :=
  (request.estimate.filter Estimate.allKnownEstimate).map fun estimate =>
    ⟨"nothing_new", "nothing new detected on this card", true, estimate⟩

/-- `_begin_device_receive_intent_once` for a key without a row. -/
def beginNew (absent : store.records.find? (newRecord now request).scope = none) :
    Store × DeviceIntentDecision :=
  if sourceClaimIsBusy ttl now store.claims
      (cardLeaseSourceId request.cardIdentity)
      request.operatorUsername request.idempotencyKey then
    (store, .busy)
  else
    let record := newRecord now request
    let inserted : Store := ⟨store.records.insert record absent, store.claims⟩
    match nothingNew request with
    | some warning =>
      ({ inserted with
        records := inserted.records.update record.scope ⟨fun row =>
          { row with
            status := .warned
            duplicateWarning := some warning
            warnedAt := some now }, fun _ => rfl⟩ },
        .warned (some warning))
    | none =>
      match authorizeRecordLease ttl now inserted record with
      | none => (store, .busy)
      | some authorized => (authorized, .authorized)

/-- `_begin_device_receive_intent_once` for a key with a row.  Inside one
transaction the guarded update of a stale row always finds the row just read. -/
def beginAgain (record : IdempotencyRecord) : Store × DeviceIntentDecision :=
  if record.requestHash ≠ request.requestHash then (store, .conflict)
  else if record.deviceId ≠ request.deviceId ∨ record.cardIdentity ≠ request.cardIdentity then
    (store, .conflict)
  else
    match record.status, record.responseJson with
    | .authorized, some response | .started, some response
    | .committed, some response => (store, .completed response)
    | .authorized, none | .started, none =>
      if isStale ttl record.lastHeartbeat now then
        (store.close record (terminalizeBeating .failed now), .terminal .failed)
      else (store, .inProgress)
    | .warned, _ =>
      if !request.acknowledgeDuplicate then (store, .warned record.duplicateWarning)
      else
        match authorizeRecordLease ttl now store record with
        | none => (store, .busy)
        | some authorized =>
          ({ authorized with
            records := authorized.records.update record.scope ⟨fun row =>
              { row with duplicateAcknowledged := true }, fun _ => rfl⟩ },
            .authorized)
    | .committed, none => (store, .terminal .committed)
    | .aborted, _ => (store, .terminal .aborted)
    | .quarantined, _ => (store, .terminal .quarantined)
    | .failed, _ => (store, .terminal .failed)
    | .inProgress, _ | .completed, _ => (store, .conflict)

/-- `begin_device_receive_intent`. -/
def beginDeviceReceiveIntent : Store × DeviceIntentDecision :=
  match found : store.records.find? (newRecord now request).scope with
  | none => beginNew ttl now store request found
  | some record => beginAgain ttl now store request record

/-- `terminalize_stale_device_receive_intent`. -/
def terminalizeStaleDeviceReceiveIntent (scope : Scope)
    (requestHash : String) : Store × Option DeviceIntentDecision :=
  match store.records.find? scope with
  | none => (store, none)
  | some record =>
    if record.requestHash ≠ requestHash ∨ record.status.isActive = false ∨
        record.responseJson.isSome ∨
        isStale ttl record.lastHeartbeat now = false then
      (store, none)
    else (store.close record (terminalizeBeating .failed now), some (.terminal .failed))

end

/-- Result of linking a started intake to its intent. -/
inductive StartIntentDecision
  | claimed (intakeId : String)
  | resume (intakeId : String)
  | missing

section

variable (ttl now : Nat) (store : Store) (scope : Scope) (deviceId intakeId : String)

/-- Link a claim to the intake that a key has started. -/
def linkClaim (idempotencyKey intakeId : String) : Rewrite SourceClaim.sourceId where
  apply claim :=
    if claim.idempotencyKey = idempotencyKey then
      { claim with intakeId := some intakeId, updatedAt := now }
    else claim
  keeps claim := by split <;> rfl

/-- `claim_start_intake` for an authorized intent.  The intent gets a new
heartbeat; the claim does not. -/
def startAuthorized (record : IdempotencyRecord)
    (intakeId : String) : Store × StartIntentDecision :=
  let leaseSourceId := record.leaseSourceId.getD (cardLeaseSourceId record.cardIdentity)
  match claimSourceInSession ttl now store.claims leaseSourceId
      record.operatorUsername record.idempotencyKey with
  | none => (store, .missing)
  | some claims =>
    (⟨store.records.update record.scope ⟨fun row =>
        { row with
          status := .started
          intakeId := some intakeId
          leaseSourceId := some leaseSourceId
          startedAt := some now
          updatedAt := now
          lastHeartbeat := now }, fun _ => rfl⟩,
      claims.update leaseSourceId (linkClaim now record.idempotencyKey intakeId)⟩,
      .claimed intakeId)

/-- `claim_start_intake`. -/
def claimStartIntake : Store × StartIntentDecision :=
  match store.records.find? scope with
  | none => (store, .missing)
  | some record =>
    if record.deviceId ≠ deviceId then (store, .missing)
    else if record.status.isActive = true ∧ isStale ttl record.lastHeartbeat now = true then
      (store.close record (terminalize .failed now), .missing)
    else
      match record.status, record.intakeId.filter (· ≠ "") with
      | .started, some resumed => (store, .resume resumed)
      | .authorized, _ => startAuthorized ttl now store record intakeId
      | _, _ => (store, .missing)

/-- `store_device_receive_response`.  The intent gets a new heartbeat whether or
not it still owns a claim. -/
def storeDeviceReceiveResponse (responseJson : String) : Store × Bool :=
  match store.records.find? scope with
  | none => (store, false)
  | some record =>
    if record.deviceId ≠ deviceId ∨ record.intakeId ≠ some intakeId ∨
        ¬(record.status = .started ∨ record.status = .committed) then
      (store, false)
    else
      (⟨store.records.update scope ⟨fun row =>
          { row with
            responseJson := some responseJson
            updatedAt := now
            lastHeartbeat := now }, fun _ => rfl⟩,
        store.claims⟩, true)

/-- `transition_device_intent_terminal`.  Two intents of one intake make the
lookup raise. -/
def transitionDeviceIntentTerminal (terminalState : TerminalState) : Store × Option Bool :=
  match store.records.rows.filter fun record => record.intakeId == some intakeId with
  | [] => (store, some false)
  | [record] =>
    if record.status = terminalState.status then (store, some true)
    else if record.status = .started ∨ record.status = .committed then
      (store.close record (terminalizeBeating terminalState.status now), some true)
    else (store, some false)
  | _ => (store, none)

/-- `fail_device_receive_intent`. -/
def failDeviceReceiveIntent : Store × Bool :=
  match store.records.find? scope with
  | none => (store, false)
  | some record =>
    if record.deviceId ≠ deviceId ∨ record.status.isActive = false then (store, false)
    else (store.close record (terminalizeBeating .failed now), true)

/-- Result of failing an intent that waits for its acknowledgement. -/
inductive AckFailureState
  | failed
  | inProgress
  | unchanged

/-- `fail_device_receive_intent_if_unstarted`.  `liveIntake` tells whether a
streaming, committing or committed intake of the request exists. -/
def failDeviceReceiveIntentIfUnstarted (liveIntake : Bool) : Store × AckFailureState :=
  match store.records.find? scope with
  | none => (store, .unchanged)
  | some record =>
    if record.deviceId ≠ deviceId then (store, .unchanged)
    else if record.status = .started ∨ liveIntake then (store, .inProgress)
    else if record.status ≠ .authorized then (store, .unchanged)
    else (store.close record (terminalizeBeating .failed now), .failed)

/-- Result of a lease renewal. -/
inductive LeaseRenewalState
  | renewed
  | throttled
  | lost
  | raised

/-- Give an intent a new heartbeat. -/
def beatRecord : Rewrite IdempotencyRecord.scope where
  apply record := { record with updatedAt := now, lastHeartbeat := now }
  keeps _ := rfl

/-- Give a claim a new heartbeat. -/
def beatClaim : Rewrite SourceClaim.sourceId where
  apply claim := { claim with updatedAt := now, lastHeartbeat := now }
  keeps _ := rfl

/-- `renew_device_intake_lease`.  Intent and claim are refreshed together. -/
def renewDeviceIntakeLease (floor : Nat) : Store × LeaseRenewalState :=
  match store.records.rows.filter fun record =>
      record.intakeId == some intakeId && record.status == .started with
  | [] => (store, .lost)
  | [record] =>
    match record.leaseSourceId with
    | none => (store, .lost)
    | some leaseSourceId =>
      match store.claims.find? leaseSourceId with
      | none => (store, .lost)
      | some claim =>
        if claimOwnedByRecord claim record = false then (store, .lost)
        else if now < record.lastHeartbeat + floor then (store, .throttled)
        else
          (⟨store.records.update record.scope (beatRecord now),
            store.claims.update leaseSourceId (beatClaim now)⟩, .renewed)
  | _ => (store, .raised)

end

/-- A reconciliation in progress.  `deleted` holds the claims whose deletion the
session has not flushed yet; they still answer lookups. -/
structure Reconciliation where
  store : Store
  deleted : List String
  rebuilt : Nat
  expired : Nat

section

variable (ttl now : Nat) (pass : Reconciliation) (record : IdempotencyRecord) (store : Store)

/-- Flush the pending deletions. -/
def Reconciliation.flush : Reconciliation :=
  { pass with
    store := ⟨pass.store.records, pass.store.claims.delete fun claim =>
      pass.deleted.contains claim.sourceId⟩
    deleted := [] }

/-- The claim that the release of a lease marks for deletion. -/
def leaseToDelete (claims : Table SourceClaim.sourceId)
    (record : IdempotencyRecord) : List String :=
  (record.leaseSourceId.bind claims.find?).toList.filterMap fun claim =>
    if claimOwnedByRecord claim record then some claim.sourceId else none

/-- Link a rebuilt claim to the intake of its intent. -/
def relinkClaim : Rewrite SourceClaim.sourceId where
  apply claim :=
    if claimOwnedByRecord claim record then { claim with intakeId := record.intakeId }
    else claim
  keeps claim := by split <;> rfl

/-- One round of the loop of `reconcile_device_receive_leases`. -/
def reconcileRecord : Reconciliation :=
  if isStale ttl record.lastHeartbeat now then
    { pass with
      store := ⟨pass.store.records.update record.scope (terminalize .failed now), pass.store.claims⟩
      deleted := leaseToDelete pass.store.claims record ++ pass.deleted
      expired := pass.expired + 1 }
  else
    let leaseSourceId := record.leaseSourceId.getD (cardLeaseSourceId record.cardIdentity)
    match claimSourceInSession ttl now pass.store.claims leaseSourceId
        record.operatorUsername record.idempotencyKey with
    | some claims =>
      { pass with
        store := ⟨pass.store.records.update record.scope ⟨fun row =>
            { row with leaseSourceId := some leaseSourceId }, fun _ => rfl⟩,
          claims.update leaseSourceId (relinkClaim record)⟩
        rebuilt := pass.rebuilt + 1 }
    | none =>
      { pass with
        store := ⟨pass.store.records.update record.scope
          (terminalize .failed now), pass.store.claims⟩
        expired := pass.expired + 1 }

/-- `reconcile_device_receive_leases`, over the active rows in their order of
creation.  A lookup or an update may flush the pending deletions before it runs;
`flushedBefore` names the rows before which this happens. -/
def reconcileDeviceReceiveLeases (flushedBefore : List Scope) : Reconciliation :=
  ((store.records.rows.filter fun record => record.status.isActive).foldl (fun pass record =>
      reconcileRecord ttl now (if record.scope ∈ flushedBefore then pass.flush else pass) record)
    ⟨store, [], 0, 0⟩).flush

/-- `source_busy_ids`, which deletes every stale claim first. -/
def sourceBusyIds (sourceIds : List String) : Store × List String :=
  let claims := store.claims.delete fun claim => isStale ttl claim.lastHeartbeat now
  (⟨store.records, claims⟩, (claims.rows.map SourceClaim.sourceId).filter (sourceIds.contains ·))

/-- The operations on receive intents. -/
inductive Operation
  | begin (request : BeginRequest)
  | terminalizeStale (scope : Scope) (requestHash : String)
  | startIntake (scope : Scope) (deviceId intakeId : String)
  | storeResponse (scope : Scope) (deviceId intakeId responseJson : String)
  | transitionTerminal (intakeId : String) (terminalState : TerminalState)
  | fail (scope : Scope) (deviceId : String)
  | failIfUnstarted (scope : Scope) (deviceId : String) (liveIntake : Bool)
  | renew (intakeId : String) (floor : Nat)
  | reconcile (flushedBefore : List Scope)
  | sourceBusyIds (sourceIds : List String)

/-- The tables after one operation. -/
def Operation.apply : Operation → Store
  | .begin request => (beginDeviceReceiveIntent ttl now store request).1
  | .terminalizeStale scope requestHash =>
    (terminalizeStaleDeviceReceiveIntent ttl now store scope requestHash).1
  | .startIntake scope deviceId intakeId =>
    (claimStartIntake ttl now store scope deviceId intakeId).1
  | .storeResponse scope deviceId intakeId responseJson =>
    (storeDeviceReceiveResponse now store scope deviceId intakeId responseJson).1
  | .transitionTerminal intakeId terminalState =>
    (transitionDeviceIntentTerminal now store intakeId terminalState).1
  | .fail scope deviceId => (failDeviceReceiveIntent now store scope deviceId).1
  | .failIfUnstarted scope deviceId liveIntake =>
    (failDeviceReceiveIntentIfUnstarted now store scope deviceId liveIntake).1
  | .renew intakeId floor => (renewDeviceIntakeLease now store intakeId floor).1
  | .reconcile flushedBefore => (reconcileDeviceReceiveLeases ttl now store flushedBefore).store
  | .sourceBusyIds sourceIds => (Receive.sourceBusyIds ttl now store sourceIds).1

end

/-- The tables with the time of the last operation. -/
structure System where
  store : Store
  clock : Nat

/-- One operation as one transaction at a time that is not in the past. -/
def step (ttl : Nat) (system : System) (timed : Nat × Operation) : Option System :=
  if timed.1 < system.clock then none
  else some ⟨timed.2.apply ttl timed.1 system.store, timed.1⟩

/-- Empty tables. -/
def emptySystem : System := ⟨⟨Table.empty, Table.empty⟩, 0⟩

end Receive
end Sutradhara
