import Sutradhara.Foundation.Interleaving
import Sutradhara.Foundation.Table

/-!
# Idempotency records of the receive endpoint

A receive request claims the record of its key, heartbeats it while it receives,
and completes or abandons it in the end.  Each of these calls reads the record and
then, in the same session, flushes one statement and commits.  The read takes no
lock, so another request may write between the two; the statement and its commit
are one step.  All requests here carry one operator, endpoint and key.
-/

namespace Sutradhara
namespace Api

open Foundation
open Foundation.Interleaving

/-- `idempotency_record.status`. -/
inductive RecordStatus
  | inProgress
  | completed
  | warned
  | authorized
  | started
  | committed
  | aborted
  | quarantined
  | failed
  deriving DecidableEq

/-- The stored answer of `post_receive`. -/
abbrev Response := List (String × String)

/-- The `IdempotencyRecord` row of the key. -/
structure IdempotencyRecord where
  id : Nat
  requestHash : String
  status : RecordStatus
  intakeId : Option String
  responseJson : Option Response
  createdAt : Int
  updatedAt : Int
  lastHeartbeat : Int
  deriving DecidableEq

/-- The update of a row writes only the columns that differ from the loaded row. -/
def IdempotencyRecord.update
    (loaded assigned stored : IdempotencyRecord) : IdempotencyRecord where
  id := stored.id
  requestHash := flushed loaded.requestHash assigned.requestHash stored.requestHash
  status := flushed loaded.status assigned.status stored.status
  intakeId := flushed loaded.intakeId assigned.intakeId stored.intakeId
  responseJson := flushed loaded.responseJson assigned.responseJson stored.responseJson
  createdAt := flushed loaded.createdAt assigned.createdAt stored.createdAt
  updatedAt := flushed loaded.updatedAt assigned.updatedAt stored.updatedAt
  lastHeartbeat := flushed loaded.lastHeartbeat assigned.lastHeartbeat stored.lastHeartbeat

/-- `IdempotencyDecision`. -/
inductive IdempotencyDecision
  | claimed
  | completed (responseJson : Option Response)
  | conflict
  | inProgress
  deriving DecidableEq

/-- `_is_stale`. -/
def isStale (value ttl now : Int) : Bool := value + ttl < now

/-! ## The rows that the calls assign -/

/-- The row that a first `begin_idempotency` adds. -/
def freshRecord (id : Nat) (requestHash : String) (now : Int) : IdempotencyRecord where
  id := id
  requestHash := requestHash
  status := .inProgress
  intakeId := none
  responseJson := none
  createdAt := now
  updatedAt := now
  lastHeartbeat := now

namespace IdempotencyRecord

variable (record : IdempotencyRecord) (now : Int)

/-- What `begin_idempotency` assigns to a stale record. -/
def reclaimed : IdempotencyRecord :=
  { record with
    status := .inProgress
    intakeId := none
    responseJson := none
    createdAt := now
    updatedAt := now
    lastHeartbeat := now }

/-- What `refresh_idempotency` assigns. -/
def refreshed : IdempotencyRecord := { record with updatedAt := now, lastHeartbeat := now }

/-- What `complete_idempotency` assigns. -/
def completedWith (intakeId : String) (response : Response) (now : Int) : IdempotencyRecord :=
  { record with
    status := .completed
    intakeId := some intakeId
    responseJson := some response
    updatedAt := now
    lastHeartbeat := now }

/-- A record that nobody else has written takes what was assigned to it. -/
theorem update_self (loaded assigned : IdempotencyRecord) (same : assigned.id = loaded.id) :
    loaded.update assigned loaded = assigned := by
  cases assigned
  simp only [update, flushed_self]
  exact congrArg (IdempotencyRecord.mk · _ _ _ _ _ _ _) same.symm

end IdempotencyRecord

/-- What `_begin_idempotency_once` makes of the record that it reads: it answers at
once, adds a row, or takes a stale record over. -/
inductive Reading
  | answer (decision : IdempotencyDecision)
  | insert
  | reclaim (loaded : IdempotencyRecord)

/-- `_begin_idempotency_once` up to its statement. -/
def beginIdempotency (record : Option IdempotencyRecord) (requestHash : String)
    (ttl now : Int) : Reading :=
  match record with
  | none => .insert
  | some row =>
    if row.requestHash ≠ requestHash then .answer .conflict
    else if row.status = .completed then .answer (.completed row.responseJson)
    else if !isStale row.lastHeartbeat ttl now then .answer .inProgress
    else .reclaim row

theorem beginIdempotency_eq_insert
    (read : beginIdempotency record requestHash ttl now = .insert) : record = none := by
  cases record with
  | none => rfl
  | some row =>
    simp only [beginIdempotency] at read
    split at read
    · cases read
    · split at read
      · cases read
      · split at read <;> cases read

/-- Only a record that is not completed is taken over. -/
theorem beginIdempotency_eq_reclaim
    (read : beginIdempotency record requestHash ttl now = .reclaim loaded) :
    record = some loaded ∧ loaded.status ≠ .completed := by
  cases record with
  | none => cases read
  | some row =>
    simp only [beginIdempotency] at read
    split at read
    · cases read
    · split at read
      · cases read
      next unfinished =>
        split at read
        · cases read
        · cases read
          exact ⟨rfl, unfinished⟩

/-- A record that answers at once carries another hash, is completed with the
response that is replayed, or is not completed. -/
theorem beginIdempotency_eq_answer
    (read : beginIdempotency record requestHash ttl now = .answer decision) :
    ∃ row, record = some row ∧ ((row.requestHash ≠ requestHash ∧ decision = .conflict) ∨
        (row.requestHash = requestHash ∧ row.status = .completed ∧
          decision = .completed row.responseJson) ∨
        (row.status ≠ .completed ∧ decision = .inProgress)) := by
  cases record with
  | none => cases read
  | some row =>
    refine ⟨row, rfl, ?_⟩
    simp only [beginIdempotency] at read
    split at read
    next conflicts =>
      cases read
      exact Or.inl ⟨conflicts, rfl⟩
    next matching =>
      split at read
      next completed =>
        cases read
        exact Or.inr (Or.inl ⟨not_not.mp matching, completed, rfl⟩)
      next unfinished =>
        split at read
        · cases read
          exact Or.inr (Or.inr ⟨unfinished, rfl⟩)
        · cases read

/-! ## Requests -/

/-- What happened to the record, and what the callers of `begin_idempotency` were
told.  `began` is how many events lay before the read of that call. -/
inductive Event
  | returned (caller : Nat) (requestHash : String) (began : Nat) (decision : IdempotencyDecision)
  | completed (caller : Nat)
  | abandoned (caller : Nat)
  deriving DecidableEq

/-- The committed record and all events, the newest first. -/
structure Ledger where
  record : Option IdempotencyRecord
  history : List Event

/-- Where `post_receive` stands. -/
inductive Place
  | begin
  | inserting (began : Nat) (now : Int)
  | reclaiming (began : Nat) (loaded : IdempotencyRecord) (now : Int)
  | claimed
  | receiving (heartbeat : Bool)
  | refreshing (loaded : IdempotencyRecord) (now : Int)
  | completing (loaded : IdempotencyRecord) (intakeId : String) (response : Response) (now : Int)
  | abandoning (loaded : IdempotencyRecord)
  | finished
  deriving DecidableEq

/-- One call of `post_receive`. -/
structure Request where
  requestHash : String
  ttl : Int
  place : Place

/-- What the environment decides in a step. -/
inductive Choice
  /-- `_utcnow` at the beginning of a begin or of a heartbeat. -/
  | clock (now : Int)
  /-- The statement runs and is committed; an insert is given an id. -/
  | write (id : Nat)
  /-- `claim_source`. -/
  | source (free : Bool)
  /-- The receive returns. -/
  | received (intakeId : String) (response : Response) (now : Int)
  /-- The receive raises an error that `post_receive` turns into a bad request. -/
  | invalid
  /-- A heartbeat fails and is not tried again. -/
  | silence
  /-- The process stops, the wait is over, or an exception leaves the request. -/
  | stop

namespace Request

variable (request : Request) (caller began : Nat) (ledger : Ledger) (now : Int)

/-- The request at another place. -/
def goto (place : Place) : Request := { request with place := place }

/-- A claim was taken. -/
def claim (row : IdempotencyRecord) (history : List Event) : Ledger × Request :=
  (⟨some row, .returned caller request.requestHash began .claimed :: history⟩,
    request.goto .claimed)

/-- `begin_idempotency` returns without a claim.  A request that is told to wait
begins again. -/
def told (decision : IdempotencyDecision) : Ledger × Request :=
  ({ ledger with
      history := .returned caller request.requestHash began decision :: ledger.history },
    request.goto (if decision = .inProgress then .begin else .finished))

/-- `begin_idempotency` up to its statement. -/
def beginStep : Ledger × Request :=
  match beginIdempotency ledger.record request.requestHash request.ttl now with
  | .answer decision => request.told caller ledger.history.length ledger decision
  | .insert => (ledger, request.goto (.inserting ledger.history.length now))
  | .reclaim loaded => (ledger, request.goto (.reclaiming ledger.history.length loaded now))

/-- `abandon_idempotency` up to its statement. -/
def abandonStep : Ledger × Request :=
  match ledger.record with
  | some row =>
    if row.status = .inProgress then (ledger, request.goto (.abandoning row))
    else (ledger, request.goto .finished)
  | none => (ledger, request.goto .finished)

/-- `refresh_idempotency` up to its statement. -/
def refreshStep : Ledger × Request :=
  match ledger.record with
  | some row =>
    if row.status = .inProgress then (ledger, request.goto (.refreshing row now))
    else (ledger, request)
  | none => (ledger, request)

/-- `complete_idempotency` up to its statement. -/
def completeStep (intakeId : String) (response : Response) (now : Int) : Ledger × Request :=
  match ledger.record with
  | some row => (ledger, request.goto (.completing row intakeId response now))
  | none => (ledger, request.goto .finished)

/-- The statement of a call, with its commit.  An update that finds no row of the
loaded id raises. -/
def writeStep (id : Nat) : Option (Ledger × Request) :=
  match request.place with
  | .inserting began now =>
    match ledger.record with
    | none => some (request.claim caller began
        (freshRecord id request.requestHash now) ledger.history)
    | some _ => some (request.told caller began ledger .inProgress)
  | .reclaiming began loaded now =>
    match ledger.record.filter fun row => row.id = loaded.id with
    | some row => some (request.claim caller began
        (loaded.update (loaded.reclaimed now) row) ledger.history)
    | none => some (ledger, request.goto .finished)
  | .refreshing loaded now =>
    match ledger.record.filter fun row => row.id = loaded.id with
    | some row => some ({ ledger with
          record := some (loaded.update (loaded.refreshed now) row) },
        request.goto (.receiving true))
    | none => some (ledger, request.goto (.receiving false))
  | .completing loaded intakeId response now =>
    match ledger.record.filter fun row => row.id = loaded.id with
    | some row => some (⟨some (loaded.update (loaded.completedWith intakeId response now) row),
          .completed caller :: ledger.history⟩, request.goto .finished)
    | none => some (ledger, request.goto .finished)
  | .abandoning loaded =>
    match ledger.record.filter fun row => row.id = loaded.id with
    | some _ => some (⟨none, .abandoned caller :: ledger.history⟩, request.goto .finished)
    | none => some (ledger, request.goto .finished)
  | _ => none

/-- `post_receive`, one step. -/
def step (request : Request) : Choice → Option (Ledger × Request)
  | .stop => some (ledger, request.goto .finished)
  | .write id => request.writeStep caller ledger id
  | .clock now =>
    match request.place with
    | .begin => some (request.beginStep caller ledger now)
    | .receiving true => some (request.refreshStep ledger now)
    | _ => none
  | .source free =>
    match request.place with
    | .claimed =>
      if free then some (ledger, request.goto (.receiving true))
      else some (request.abandonStep ledger)
    | _ => none
  | .received intakeId response now =>
    match request.place with
    | .receiving _ => some (request.completeStep ledger intakeId response now)
    | _ => none
  | .invalid =>
    match request.place with
    | .receiving _ => some (request.abandonStep ledger)
    | _ => none
  | .silence =>
    match request.place with
    | .refreshing _ _ => some (ledger, request.goto (.receiving false))
    | _ => none

end Request

/-- Requests for one key in any interleaving. -/
def program : Program Ledger Request Choice where
  initial request := request.place = .begin
  step := Request.step

/-- Any record, before the first request. -/
def begun (record : Option IdempotencyRecord) : Config Ledger Request := ⟨⟨record, []⟩, []⟩

/-! ## What replay asks for -/

/-- The caller that was given a claim last. -/
def latestClaim : List Event → Option Nat
  | [] => none
  | .returned caller _ _ .claimed :: _ => some caller
  | _ :: earlier => latestClaim earlier

/-- A response that was replayed is replayed to every begin after it, and only the
caller with the latest claim completes or abandons the record. -/
structure Replays (history : List Event) : Prop where
  stable : ∀ caller requestHash began decision earlier other otherBegan response
      before,
    .returned caller requestHash began decision :: earlier <:+ history →
    .returned other requestHash otherBegan (.completed response) :: before <:+ earlier →
    before.length < began → decision = .completed response
  completes : ∀ caller earlier, .completed caller :: earlier <:+ history →
    latestClaim earlier = some caller
  abandons : ∀ caller earlier, .abandoned caller :: earlier <:+ history →
    latestClaim earlier = some caller

/-- Replay is stable and owned in every run. -/
def ReplayLaw : Prop :=
  ∀ (record : Option IdempotencyRecord) (moves : List (Move Request Choice))
    (final : Config Ledger Request),
    Transition.run program.move (begun record) moves = some final → Replays final.shared.history

end Api
end Sutradhara
