import Mathlib.Data.List.Dedup
import Sutradhara.Foundation.OrderedMap
import Sutradhara.Foundation.Transition

/-!
# The registry of connected devices

Every stream of a device has an entry object.  The registry maps a device to its
current entry; entries that were replaced or removed live on in the hands of their
streams.  A stream calls the registry with its device and its generation, and the
generation is counted on from the current entry of the device, if there is one.
Entries are numbered here in the order of their creation, so that an effect of a call
can be traced to the stream whose handle made it.

Every call holds the lock of the registry, except that `next_command` waits on the
queue between two sections under the lock.
-/

namespace Sutradhara
namespace Grpc

open Foundation

/-- The errors of the registry. -/
inductive RegistryFault
  | deviceOffline
  | deviceOwnerMismatch
  | cardUnavailable
  | streamClosed (message : String)

/-- A command or a listing, with the id that was drawn for it. -/
inductive Item
  | command (commandId : String)
  | listing (requestId : String)
  deriving DecidableEq

/-- `PendingCommand` and `PendingListing`. -/
structure Pending where
  item : Item
  operator : String
  deviceId : String
  cardId : String
  generation : Nat
  createdAt : Int

/-- `Card`. -/
structure Card where
  cardId : String
  label : String
  kind : String
  sizeBytes : Nat
  status : String

/-- `_DeviceEntry`.  The two maps of pending commands and listings are one list; a
`none` in the queue tells the stream that it was closed. -/
structure DeviceEntry where
  operator : String
  deviceId : String
  fingerprint : String
  generation : Nat
  queue : List (Option Pending)
  pending : List Pending
  cards : List (String × Card)
  capabilities : List String
  lastSeen : Int
  closed : Bool

/-- The entry takes a new item. -/
def DeviceEntry.enqueue (pending : Pending) (entry : DeviceEntry) : DeviceEntry :=
  { entry with
    pending := entry.pending ++ [pending]
    queue := entry.queue ++ [some pending] }

/-- The entry drops its items and marks the end of its queue. -/
def DeviceEntry.close (entry : DeviceEntry) : DeviceEntry :=
  { entry with
    closed := true
    pending := []
    queue := entry.queue ++ [none] }

/-- `RegisteredDeviceStream`, with the number of the entry it was made for. -/
structure RegisteredDeviceStream where
  stream : Nat
  deviceId : String
  generation : Nat

/-- How the future of an item ends. -/
inductive Outcome
  | result
  | failure (reason : String)
  deriving DecidableEq

/-- What happened to the streams.  An effect of a call names the stream whose handle
made it, if there is one, and the stream that it met. -/
inductive StreamEvent
  | queued (stream : Nat) (item : Item)
  | cards (handle target : Nat)
  | took (handle target : Nat) (item : Item)
  | delivered (handle target : Nat) (item : Item)
  | resolved (handle : Option Nat) (target : Nat) (item : Item) (outcome : Outcome)
  | closed (handle : Option Nat) (target : Nat)
  deriving DecidableEq

/-- A `next_command` that is under way: its handle, the entry whose queue it has
found, and what it took from there. -/
structure Poll where
  handle : RegisteredDeviceStream
  target : Nat
  taken : Option Pending

/-- The entries that were ever made, the current entry of each device, the handles
that are no longer in use, the polls under way and all events, the newest first. -/
structure Registry where
  streams : List DeviceEntry
  entries : String → Option Nat
  retired : List Nat
  polls : List Poll
  history : List StreamEvent

namespace Registry

/-- A registry without devices. -/
def empty : Registry := ⟨[], fun _ => none, [], [], []⟩

variable (registry : Registry)

/-- Rewrite an entry. -/
def modify (stream : Nat) (change : DeviceEntry → DeviceEntry) : Registry :=
  { registry with streams := registry.streams.modify stream change }

/-- Add an event. -/
def log (event : StreamEvent) : Registry := { registry with history := event :: registry.history }

variable (index stream : Nat) (operator deviceId fingerprint : String)
  (handle : RegisteredDeviceStream) (now : Int)

/-- Change the current entry of a device. -/
def setEntry (stream : Option Nat) : Registry :=
  { registry with entries := fun other =>
      if other = deviceId then stream else registry.entries other }

/-- The handle of a stream, as long as it is in use. -/
def handleOf : Option RegisteredDeviceStream :=
  if stream ∈ registry.retired then none
  else (registry.streams[stream]?).map fun entry => ⟨stream, entry.deviceId, entry.generation⟩

/-- The current entry of a device. -/
def entryOf : Option (Nat × DeviceEntry) :=
  (registry.entries deviceId).bind fun stream =>
    (registry.streams[stream]?).map fun entry => (stream, entry)

/-- `_current_entry_locked`. -/
def currentEntry : Except RegistryFault (Nat × DeviceEntry) :=
  match registry.entryOf handle.deviceId with
  | none => .error (.streamClosed "device stream is not current")
  | some (stream, entry) =>
    if entry.closed || entry.generation ≠ handle.generation then
      .error (.streamClosed "device stream is not current")
    else .ok (stream, entry)

/-- `_entry_for_operator_locked`. -/
def entryForOperator : Except RegistryFault (Nat × DeviceEntry) :=
  match registry.entryOf deviceId with
  | none => .error .deviceOffline
  | some (stream, entry) =>
    if entry.closed then .error .deviceOffline
    else if entry.operator ≠ operator then .error .deviceOwnerMismatch
    else .ok (stream, entry)

/-- `_close_entry_locked`. -/
def closeEntry (handle : Option Nat) (stream : Nat) (reason : String) : Registry :=
  match registry.streams[stream]? with
  | some entry =>
    if entry.closed then registry
    else
      { registry.modify stream .close with
        history := .closed handle stream :: ((entry.pending.map fun pending =>
            StreamEvent.resolved handle stream pending.item (.failure reason)).reverse ++
            registry.history) }
  | none => registry

/-- A new entry becomes the current one of its device. -/
def enter (generation : Nat) (now : Int) : Registry :=
  { registry.setEntry deviceId (some registry.streams.length) with
    streams := registry.streams ++
      [⟨operator, deviceId, fingerprint, generation, [], [], [], [], now, false⟩] }

/-- `register`. -/
def register : Registry :=
  match registry.entryOf deviceId with
  | some (stream, old) =>
    (registry.closeEntry none stream "device stream was superseded").enter
      operator deviceId fingerprint (old.generation + 1) now
  | none => registry.enter operator deviceId fingerprint 1 now

/-- `update_cards`. -/
def updateCards (cards : List Card)
    (capabilities : List String) (now : Int) : Except RegistryFault Registry := do
  let (stream, _) ← registry.currentEntry handle
  return (registry.modify stream fun entry => { entry with
    cards := OrderedMap.collect (cards.map fun card => (card.cardId, card))
    capabilities := capabilities.dedup.mergeSort
    lastSeen := now }).log (.cards handle.stream stream)

/-- `heartbeat`. -/
def heartbeat : Except RegistryFault Registry := do
  let (stream, _) ← registry.currentEntry handle
  return registry.modify stream fun entry => { entry with lastSeen := now }

/-- `send_start_receive` and `request_directory_listing`, with the id that was drawn
for the item. -/
def send (cardId : String) (item : Item) (now : Int) :
    Except RegistryFault Registry := do
  let (stream, entry) ← registry.entryForOperator operator deviceId
  if entry.cards.any fun card => card.1 = cardId then
    let pending : Pending := ⟨item, operator, deviceId, cardId, entry.generation, now⟩
    return (registry.modify stream (.enqueue pending)).log (.queued stream item)
  else .error .cardUnavailable

/-- `next_command` up to its wait: the queue of the current entry. -/
def poll : Except RegistryFault Registry := do
  let (stream, _) ← registry.currentEntry handle
  return { registry with polls := registry.polls ++ [⟨handle, stream, none⟩] }

/-- The wait of a `next_command` ends with the head of the queue, or with nothing.
The mark of a closed stream ends the call, too. -/
def take : Option Registry :=
  match registry.polls[index]? with
  | some ⟨handle, stream, none⟩ =>
    match (registry.streams[stream]?).bind fun entry => entry.queue.head? with
    | some (some pending) =>
      some { (registry.modify stream fun entry =>
          { entry with queue := entry.queue.tail }).log
            (.took handle.stream stream pending.item) with
        polls := registry.polls.set index ⟨handle, stream, some pending⟩ }
    | some none =>
      some { registry.modify stream fun entry =>
          { entry with queue := entry.queue.tail } with
        polls := registry.polls.eraseIdx index }
    | none => some { registry with polls := registry.polls.eraseIdx index }
  | _ => none

/-- The second section of `next_command`: the stream to which a taken item still
belongs. -/
def claimed (pending : Pending) : Except RegistryFault (Option Nat) := do
  let (stream, entry) ← registry.currentEntry handle
  if pending.generation ≠ handle.generation then
    .error (.streamClosed "device stream was superseded")
  else if entry.pending.any fun other => other.item = pending.item then return some stream
  else return none

/-- The end of a `next_command` that took an item. -/
def deliver : Option Registry :=
  match registry.polls[index]? with
  | some ⟨handle, _, some pending⟩ =>
    let finished : Registry := { registry with polls := registry.polls.eraseIdx index }
    match registry.claimed handle pending with
    | .ok (some stream) => some (finished.log (.delivered handle.stream stream pending.item))
    | _ => some finished
  | _ => none

/-- `ack_command`, `complete_directory_listing`, `fail_command` and `fail_listing`:
the item is removed and its future ends.  A result is a sign of life of the stream.
The caller is the stream of the handle, or a request that gives up on its listing. -/
def resolve (caller : Option Nat) (handle : RegisteredDeviceStream) (item : Item)
    (outcome : Outcome) (now : Int) : Registry :=
  match registry.currentEntry handle with
  | .ok (stream, entry) =>
    if entry.pending.any fun pending => pending.item = item then
      (registry.modify stream fun entry => { entry with
        pending := entry.pending.filter fun pending => pending.item ≠ item
        lastSeen := if outcome = .result then now else entry.lastSeen }).log
          (.resolved caller stream item outcome)
    else registry
  | .error _ => registry

/-- Remove the current entry of a device and close it. -/
def remove (handle : Option Nat) (deviceId reason : String) : Registry :=
  match registry.entryOf deviceId with
  | some (stream, _) => (registry.setEntry deviceId none).closeEntry handle stream reason
  | none => registry

/-- `evict`. -/
def evict (reason : Option String) : Registry :=
  registry.remove none deviceId (reason.getD "device evicted")

/-- The devices whose current entry was not seen for longer than a while, in the
order of their entries. -/
def staleDevices (ttl now : Int) : List String :=
  (List.range registry.streams.length).filterMap fun stream =>
    (registry.streams[stream]?).bind fun entry =>
      if registry.entries entry.deviceId = some stream ∧ entry.lastSeen + ttl < now then
        some entry.deviceId
      else none

/-- `evict_stale`. -/
def evictStale (ttl now : Int) : Registry :=
  (registry.staleDevices ttl now).foldl
    (fun current deviceId => current.remove none deviceId "device heartbeat expired")
    registry

/-- `close_stream`. -/
def closeStream (reason : Option String) : Registry :=
  match registry.entryOf handle.deviceId with
  | some (_, entry) =>
    if entry.generation ≠ handle.generation then registry
    else registry.remove (some handle.stream) handle.deviceId (reason.getD "device stream closed")
  | none => registry

/-- The owner of a handle is done with it.  It has no poll under way. -/
def retire : Option Registry :=
  if registry.polls.any fun poll => poll.handle.stream = stream then none
  else some { registry with retired := stream :: registry.retired }

/-- The registry after a call that may raise. -/
def after (attempt : Except RegistryFault Registry) : Registry :=
  match attempt with
  | .ok next => next
  | .error _ => registry

/-- An item with this id was queued before. -/
def drawn (item : Item) : Bool :=
  registry.history.any fun event =>
    match event with
    | .queued _ other => other = item
    | _ => false

end Registry

/-! ## Calls -/

/-- A call of the registry; a call through a handle names the stream of the handle. -/
inductive RegistryCall
  | register (operator deviceId fingerprint : String) (now : Int)
  | updateCards (stream : Nat) (cards : List Card) (capabilities : List String) (now : Int)
  | heartbeat (stream : Nat) (now : Int)
  | send (operator deviceId cardId : String) (item : Item) (now : Int)
  | poll (stream : Nat)
  | take (index : Nat)
  | deliver (index : Nat)
  | resolve (stream : Nat) (item : Item) (outcome : Outcome) (now : Int)
  | giveUp (stream : Nat) (requestId reason : String) (now : Int)
  | evict (deviceId : String) (reason : Option String)
  | evictStale (ttl now : Int)
  | closeStream (stream : Nat) (reason : Option String)
  | retire (stream : Nat)

/-- Carry out a call.  No id is drawn twice, and nobody calls with a handle that does
not exist or is no longer in use. -/
def Registry.step (registry : Registry) : RegistryCall → Option Registry
  | .register operator deviceId fingerprint now =>
    some (registry.register operator deviceId fingerprint now)
  | .updateCards stream cards capabilities now =>
    (registry.handleOf stream).map fun handle =>
      registry.after (registry.updateCards handle cards capabilities now)
  | .heartbeat stream now =>
    (registry.handleOf stream).map fun handle => registry.after (registry.heartbeat handle now)
  | .send operator deviceId cardId item now =>
    if registry.drawn item then none
    else some (registry.after (registry.send operator deviceId cardId item now))
  | .poll stream =>
    (registry.handleOf stream).map fun handle => registry.after (registry.poll handle)
  | .take index => registry.take index
  | .deliver index => registry.deliver index
  | .resolve stream item outcome now =>
    (registry.handleOf stream).map fun handle =>
      registry.resolve (some stream) handle item outcome now
  | .giveUp stream requestId reason now =>
    -- the request holds the listing, and with it the device and the generation
    if .queued stream (.listing requestId) ∈ registry.history then
      (registry.streams[stream]?).map fun entry =>
        registry.resolve none ⟨stream, entry.deviceId, entry.generation⟩
          (.listing requestId) (.failure reason) now
    else none
  | .evict deviceId reason => some (registry.evict deviceId reason)
  | .evictStale ttl now => some (registry.evictStale ttl now)
  | .closeStream stream reason =>
    (registry.handleOf stream).map fun handle => registry.closeStream handle reason
  | .retire stream => registry.retire stream

/-! ## What streams may do -/

/-- The stream whose handle changed the cards, took or was given an item, ended an
item or closed a stream, and the stream that it met. -/
def StreamEvent.effect : StreamEvent → Option (Nat × Nat)
  | .queued _ _ => none
  | .cards handle target => some (handle, target)
  | .took handle target _ => some (handle, target)
  | .delivered handle target _ => some (handle, target)
  | .resolved handle target _ _ => handle.map fun handle => (handle, target)
  | .closed handle target => handle.map fun handle => (handle, target)

/-- The event ends the future of the item. -/
def StreamEvent.resolves (item : Item) : StreamEvent → Bool
  | .resolved _ _ other _ => other = item
  | _ => false

/-- How often the future of an item was ended. -/
def Registry.resolutions (registry : Registry) (item : Item) : Nat :=
  registry.history.countP (StreamEvent.resolves item)

/-- No handle has an effect on a stream other than its own, no item is resolved
twice, and every item of a stream that has ended is resolved. -/
structure Confined (registry : Registry) : Prop where
  powerless : ∀ event ∈ registry.history, ∀ handle target,
    event.effect = some (handle, target) → target = handle
  once : ∀ item, registry.resolutions item ≤ 1
  ended : ∀ stream item entry, .queued stream item ∈ registry.history →
    registry.streams[stream]? = some entry →
    registry.entries entry.deviceId ≠ some stream →
    registry.resolutions item = 1

/-- Streams are confined after every sequence of calls. -/
def ConfinedLaw : Prop :=
  ∀ (calls : List RegistryCall) (final : Registry),
    Transition.run Registry.step Registry.empty calls = some final → Confined final

end Grpc
end Sutradhara
