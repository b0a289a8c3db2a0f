import Sutradhara.Grpc.Registry
import Sutradhara.Foundation.Raising

/-!
# Streams keep to themselves

The generation of a device starts again when its entry is removed, so the handle of a
removed stream may be taken for the handle of a later one.  Where a device that has no
entry is registered only after the owners of its earlier handles are done with them,
every handle reaches its own stream alone.  Every item is resolved once, and not later
than its stream ends.
-/

namespace Sutradhara
namespace Grpc

open Foundation List
open Foundation.Raising

/-- A device without an entry is registered only when no handle of the device is in
use. -/
def released (registry : Registry) : RegistryCall → Bool
  | .register _ deviceId _ _ =>
    (registry.entries deviceId).isSome ||
      (List.range registry.streams.length).all fun stream =>
        match registry.handleOf stream with
        | some handle => handle.deviceId ≠ deviceId
        | none => true
  | _ => true

/-! ## Invariants -/

/-- How often an item is pending in an entry. -/
def DeviceEntry.owes (entry : DeviceEntry) (item : Item) : Nat :=
  entry.pending.countP fun pending => pending.item = item

/-- A current entry is open and belongs to its device, and no handle in use has its
generation but its own. -/
structure Current (registry : Registry) : Prop where
  found : ∀ deviceId stream, registry.entries deviceId = some stream →
    ∃ entry, registry.streams[stream]? = some entry ∧
      entry.deviceId = deviceId ∧ entry.closed = false
  latest : ∀ deviceId stream entry, registry.entries deviceId = some stream →
    registry.streams[stream]? = some entry →
    ∀ handle, registry.handleOf handle.stream = some handle →
      handle.deviceId = deviceId →
        handle.generation ≤ entry.generation ∧
          (handle.generation = entry.generation → stream = handle.stream)
  polls : ∀ poll ∈ registry.polls,
    poll.target = poll.handle.stream ∧ registry.handleOf poll.handle.stream = some poll.handle

/-- Every queued item is either pending in its entry or resolved, and an entry that
is not current has nothing pending. -/
structure Accounted (registry : Registry) : Prop where
  account : ∀ stream entry item, registry.streams[stream]? = some entry →
    .queued stream item ∈ registry.history → registry.resolutions item + entry.owes item = 1
  owned : ∀ stream entry pending, registry.streams[stream]? = some entry →
    pending ∈ entry.pending → .queued stream pending.item ∈ registry.history
  sole : ∀ first second item, .queued first item ∈ registry.history →
    .queued second item ∈ registry.history → first = second
  known : ∀ stream item, .queued stream item ∈ registry.history → stream < registry.streams.length
  unsent : ∀ item, (∀ stream, .queued stream item ∉ registry.history) →
    registry.resolutions item = 0
  ended : ∀ stream entry, registry.streams[stream]? = some entry →
    registry.entries entry.deviceId ≠ some stream → entry.pending = []

/-- What every call keeps. -/
structure Kept (registry : Registry) : Prop where
  powerless : ∀ event ∈ registry.history, ∀ handle target,
    event.effect = some (handle, target) → target = handle
  current : Current registry
  accounted : Accounted registry

theorem Kept.confined (kept : Kept registry) : Confined registry where
  powerless := kept.powerless
  once item := by
    by_cases sent : ∃ stream, .queued stream item ∈ registry.history
    · obtain ⟨stream, queued⟩ := sent
      have below := kept.accounted.known stream item queued
      have account := kept.accounted.account stream _ item (getElem?_eq_getElem below) queued
      omega
    · have none := kept.accounted.unsent item fun stream queued =>
        sent ⟨stream, queued⟩
      omega
  ended stream item entry queued found isOver := by
    have account := kept.accounted.account stream entry item found queued
    have nothing := kept.accounted.ended stream entry found isOver
    simpa [DeviceEntry.owes, nothing] using account

theorem kept_empty : Kept Registry.empty where
  powerless := by simp [Registry.empty]
  current := {
    found := by simp [Registry.empty]
    latest := by simp [Registry.empty]
    polls := by simp [Registry.empty] }
  accounted := {
    account := by simp [Registry.empty]
    owned := by simp [Registry.empty]
    sole := by simp [Registry.empty]
    known := by simp [Registry.empty]
    unsent := by simp [Registry.empty, Registry.resolutions]
    ended := by simp [Registry.empty] }

/-! ## What a call finds -/

variable {registry next : Registry} {deviceId operator fingerprint : String}
  {stream target generation : Nat} {entry : DeviceEntry} {handle : RegisteredDeviceStream}
  {change : DeviceEntry → DeviceEntry} {event : StreamEvent} {item : Item} {now : Int}
  {caller : Option Nat} {outcome : Outcome}

theorem entryOf_eq_some :
    registry.entryOf deviceId = some (stream, entry) ↔ registry.entries deviceId = some stream ∧
        registry.streams[stream]? = some entry := by
  simp only [Registry.entryOf, Option.bind_eq_some_iff, Option.map_eq_some_iff, Prod.mk.injEq]
  constructor
  · rintro ⟨_, current, _, found, rfl, rfl⟩
    exact ⟨current, found⟩
  · rintro ⟨current, found⟩
    exact ⟨stream, current, entry, found, rfl, rfl⟩

theorem entryOf_of_currentEntry (met : registry.currentEntry handle = .ok (stream, entry)) :
    registry.entryOf handle.deviceId = some (stream, entry) ∧
      entry.generation = handle.generation := by
  unfold Registry.currentEntry at met
  split at met
  · cases met
  · rename_i found
    split_ifs at met with stale
    cases met
    simp only [Bool.or_eq_true, decide_eq_true_eq, not_or, not_not] at stale
    exact ⟨found, stale.2⟩

theorem entryOf_of_entryForOperator
    (met : registry.entryForOperator operator deviceId = .ok (stream, entry)) :
    registry.entryOf deviceId = some (stream, entry) := by
  unfold Registry.entryForOperator at met
  split at met
  · cases met
  · rename_i found
    split_ifs at met
    cases met
    exact found

theorem stream_of_handleOf (used : registry.handleOf stream = some handle) :
    handle.stream = stream ∧ stream ∉ registry.retired ∧
      ∃ entry, registry.streams[stream]? = some entry ∧
        handle.deviceId = entry.deviceId ∧ handle.generation = entry.generation := by
  unfold Registry.handleOf at used
  split_ifs at used with retired
  obtain ⟨entry, found, rfl⟩ := Option.map_eq_some_iff.mp used
  exact ⟨rfl, retired, entry, found, rfl, rfl⟩

theorem handleOf_stream (used : registry.handleOf stream = some handle) :
    registry.handleOf handle.stream = some handle := by
  rw [(stream_of_handleOf used).1]
  exact used

/-- A handle in use meets its own stream. -/
theorem Current.meets
    (current : Current registry)
    (used : registry.handleOf handle.stream = some handle)
    (found : registry.entryOf handle.deviceId = some (stream, entry))
    (same : entry.generation = handle.generation) : stream = handle.stream := by
  obtain ⟨isCurrent, entryFound⟩ := entryOf_eq_some.mp found
  exact (current.latest handle.deviceId stream entry isCurrent entryFound handle
    used rfl).2 same.symm

/-! ## Changes of an entry -/

theorem getElem?_modify_eq_some {streams : List DeviceEntry} :
    (streams.modify target change)[stream]? = some entry ↔
      ∃ before, streams[stream]? = some before ∧
        entry = if target = stream then change before else before := by
  rw [getElem?_modify, Option.map_eq_map, Option.map_eq_some_iff]
  constructor
  · rintro ⟨before, found, rfl⟩
    exact ⟨before, found, rfl⟩
  · rintro ⟨before, found, rfl⟩
    exact ⟨before, found, rfl⟩

/-- The change leaves the device and the generation of every entry alone. -/
structure Names (change : DeviceEntry → DeviceEntry) : Prop where
  deviceId : ∀ entry, (change entry).deviceId = entry.deviceId
  generation : ∀ entry, (change entry).generation = entry.generation

theorem handleOf_modify (names : Names change) (registry : Registry) (target stream : Nat) :
    (registry.modify target change).handleOf stream = registry.handleOf stream := by
  unfold Registry.handleOf Registry.modify
  split_ifs
  · rfl
  · rw [getElem?_modify]
    cases registry.streams[stream]? with
    | none => rfl
    | some entry =>
      by_cases same : target = stream
      · simp [same, names.deviceId, names.generation]
      · simp [same]

theorem Current.modify
    (current : Current registry)
    (names : Names change)
    (stays : ∀ entry, (change entry).closed = entry.closed) :
    Current (registry.modify target change) where
  found deviceId stream isCurrent := by
    obtain ⟨entry, found, device, isOpen⟩ := current.found deviceId stream isCurrent
    refine ⟨_, getElem?_modify_eq_some.mpr ⟨entry, found, rfl⟩, ?_⟩
    split_ifs
    · exact ⟨(names.deviceId entry).trans device, (stays entry).trans isOpen⟩
    · exact ⟨device, isOpen⟩
  latest deviceId stream entry isCurrent found handle used same := by
    obtain ⟨before, foundBefore, rfl⟩ := getElem?_modify_eq_some.mp found
    rw [handleOf_modify names] at used
    have latest := current.latest deviceId stream before isCurrent foundBefore handle used same
    split_ifs
    · rw [names.generation]
      exact latest
    · exact latest
  polls poll member := by
    rw [handleOf_modify names]
    exact current.polls poll member

theorem Current.log
    (current : Current registry)
    (event : StreamEvent) : Current (registry.log event) :=
  ⟨current.found, current.latest, current.polls⟩

/-! ## Changes that leave the account alone -/

theorem Accounted.modify
    (accounted : Accounted registry)
    (names : Names change)
    (same : ∀ entry, (change entry).pending = entry.pending) :
    Accounted (registry.modify target change) := by
  have pendingOf (stream : Nat) (before : DeviceEntry) :
      (if target = stream then change before else before).pending = before.pending := by
    split_ifs
    · exact same before
    · rfl
  exact {
    account := by
      intro stream entry item found queued
      obtain ⟨before, foundBefore, rfl⟩ := getElem?_modify_eq_some.mp found
      rw [DeviceEntry.owes, pendingOf]
      exact accounted.account stream before item foundBefore queued
    owned := by
      intro stream entry pending found member
      obtain ⟨before, foundBefore, rfl⟩ := getElem?_modify_eq_some.mp found
      rw [pendingOf] at member
      exact accounted.owned stream before pending foundBefore member
    sole := accounted.sole
    known := by
      intro stream item queued
      simpa [Registry.modify] using accounted.known stream item queued
    unsent := accounted.unsent
    ended := by
      intro stream entry found isOver
      obtain ⟨before, foundBefore, rfl⟩ := getElem?_modify_eq_some.mp found
      rw [pendingOf]
      apply accounted.ended stream before foundBefore
      intro isCurrent
      apply isOver
      split_ifs
      · rw [names.deviceId]
        exact isCurrent
      · exact isCurrent }

/-- An event that neither queues nor resolves an item. -/
def StreamEvent.quiet : StreamEvent → Bool
  | .queued _ _ => false
  | .resolved _ _ _ _ => false
  | _ => true

theorem queued_mem_log (quiet : event.quiet = true) :
    .queued stream item ∈ (registry.log event).history ↔
      .queued stream item ∈ registry.history := by
  constructor
  · intro member
    rcases mem_cons.mp member with rfl | older
    · cases quiet
    · exact older
  · exact mem_cons_of_mem event

theorem resolutions_log (quiet : event.quiet = true) :
    (registry.log event).resolutions item = registry.resolutions item := by
  cases event with
  | queued | resolved => cases quiet
  | cards | took | delivered | closed => rfl

theorem Accounted.log (accounted : Accounted registry) (quiet : event.quiet = true) :
    Accounted (registry.log event) where
  account stream entry item found queued := by
    rw [resolutions_log quiet]
    exact accounted.account stream entry item found ((queued_mem_log quiet).mp queued)
  owned stream entry pending found member :=
    (queued_mem_log quiet).mpr (accounted.owned stream entry pending found member)
  sole first second item one other :=
    accounted.sole first second item ((queued_mem_log quiet).mp one)
      ((queued_mem_log quiet).mp other)
  known stream item queued := accounted.known stream item ((queued_mem_log quiet).mp queued)
  unsent item never := by
    rw [resolutions_log quiet]
    exact accounted.unsent item fun stream queued =>
      never stream ((queued_mem_log quiet).mpr queued)
  ended := accounted.ended

/-- The account does not read the polls and the retired handles. -/
theorem Accounted.of_eq
    (accounted : Accounted registry)
    (streams : other.streams = registry.streams)
    (entries : other.entries = registry.entries)
    (history : other.history = registry.history) : Accounted other := by
  obtain ⟨_, _, _, _, _⟩ := other
  cases streams
  cases entries
  cases history
  exact ⟨accounted.account, accounted.owned, accounted.sole, accounted.known,
    accounted.unsent, accounted.ended⟩

/-! ## Calls through a handle -/

theorem Kept.modify
    (kept : Kept registry)
    (names : Names change)
    (stays : ∀ entry, (change entry).closed = entry.closed)
    (same : ∀ entry, (change entry).pending = entry.pending) :
    Kept (registry.modify target change) where
  powerless := kept.powerless
  current := kept.current.modify names stays
  accounted := kept.accounted.modify names same

theorem powerless_cons
    {history : List StreamEvent}
    (before : ∀ event ∈ history, ∀ handle target,
      event.effect = some (handle, target) → target = handle)
    (own : ∀ handle target, event.effect = some (handle, target) → target = handle) :
    ∀ other ∈ event :: history, ∀ handle target,
      other.effect = some (handle, target) → target = handle := by
  intro other member
  rcases mem_cons.mp member with rfl | older
  · exact own
  · exact before other older

section

variable (kept : Kept registry)
include kept

theorem Kept.log
    (quiet : event.quiet = true)
    (own : ∀ handle target, event.effect = some (handle, target) → target = handle) :
    Kept (registry.log event) where
  powerless := powerless_cons kept.powerless own
  current := kept.current.log event
  accounted := kept.accounted.log quiet

/-- Polls come and go. -/
theorem Kept.withPolls (sound : ∀ poll ∈ polls, poll.target = poll.handle.stream ∧
      registry.handleOf poll.handle.stream = some poll.handle) :
    Kept { registry with polls := polls } where
  powerless := kept.powerless
  current := ⟨kept.current.found, kept.current.latest, sound⟩
  accounted := kept.accounted.of_eq rfl rfl rfl

theorem Kept.erasePoll : Kept { registry with polls := registry.polls.eraseIdx index } :=
  kept.withPolls fun poll member => kept.current.polls poll (mem_of_mem_eraseIdx member)

theorem Kept.after (succeeds : ∀ next, attempt = .ok next → Kept next) :
    Kept (registry.after attempt) := by
  cases attempt with
  | error fault => exact kept
  | ok next => exact succeeds next rfl

/-- The stream that a call through a handle in use meets. -/
theorem Kept.own
    (used : registry.handleOf handle.stream = some handle)
    (met : registry.currentEntry handle = .ok (stream, entry)) : stream = handle.stream := by
  obtain ⟨found, same⟩ := entryOf_of_currentEntry met
  exact kept.current.meets used found same

theorem Kept.updateCards
    (used : registry.handleOf handle.stream = some handle)
    (updated : registry.updateCards handle cards capabilities now = .ok next) : Kept next := by
  obtain ⟨⟨stream, entry⟩, met, rest⟩ := exists_of_bind_eq_ok updated
  cases rest
  have own := kept.own used met
  apply Kept.log
  · exact kept.modify ⟨fun _ => rfl, fun _ => rfl⟩ (fun _ => rfl) fun _ => rfl
  · rfl
  · intro source target effect
    cases effect
    exact own

theorem Kept.heartbeat (beaten : registry.heartbeat handle now = .ok next) : Kept next := by
  obtain ⟨⟨stream, entry⟩, met, rest⟩ := exists_of_bind_eq_ok beaten
  cases rest
  exact kept.modify ⟨fun _ => rfl, fun _ => rfl⟩ (fun _ => rfl) fun _ => rfl

theorem Kept.poll
    (used : registry.handleOf handle.stream = some handle)
    (polled : registry.poll handle = .ok next) : Kept next := by
  obtain ⟨⟨stream, entry⟩, met, rest⟩ := exists_of_bind_eq_ok polled
  cases rest
  apply kept.withPolls
  intro poll member
  rcases mem_append.mp member with older | new
  · exact kept.current.polls poll older
  · rw [mem_singleton] at new
    subst new
    exact ⟨kept.own used met, used⟩

/-- The change of a queue by a poll. -/
theorem Kept.dequeue : Kept (registry.modify target fun entry =>
      { entry with queue := entry.queue.tail }) :=
  kept.modify ⟨fun _ => rfl, fun _ => rfl⟩ (fun _ => rfl) fun _ => rfl

theorem Kept.take (taken : registry.take index = some next) : Kept next := by
  unfold Registry.take at taken
  split at taken
  · rename_i handle stream poll
    have sound := kept.current.polls _ (mem_of_getElem? poll)
    split at taken
    · rename_i pending _
      cases taken
      -- the poll remembers the item that it took from its own queue
      have dequeued : Kept ((registry.modify stream fun entry =>
          { entry with queue := entry.queue.tail }).log
            (.took handle.stream stream pending.item)) := by
        refine kept.dequeue.log rfl ?_
        intro source target effect
        cases effect
        exact sound.1
      apply dequeued.withPolls
      intro other member
      rcases mem_or_eq_of_mem_set member with older | rfl
      · exact dequeued.current.polls other older
      · exact dequeued.current.polls ⟨handle, stream, none⟩ (mem_of_getElem? poll)
    · cases taken
      exact kept.dequeue.erasePoll
    · cases taken
      exact kept.erasePoll
  · cases taken

end

theorem Kept.deliver
    (kept : Kept registry)
    {index : Nat}
    (delivered : registry.deliver index = some next) : Kept next := by
  unfold Registry.deliver at delivered
  split at delivered
  · rename_i handle target pending poll
    have sound := kept.current.polls _ (mem_of_getElem? poll)
    split at delivered
    · rename_i stream claimed
      cases delivered
      obtain ⟨⟨current, entry⟩, met, rest⟩ := exists_of_bind_eq_ok claimed
      obtain rfl : current = stream := by
        simp only at rest
        split_ifs at rest <;> cases rest
        rfl
      refine kept.erasePoll.log rfl ?_
      intro source target effect
      cases effect
      exact kept.own sound.2 met
    · cases delivered
      exact kept.erasePoll
  · cases delivered

theorem Kept.retire (kept : Kept registry) (done : registry.retire stream = some next) :
    Kept next := by
  unfold Registry.retire at done
  split_ifs at done with polling
  cases done
  refine ⟨kept.powerless, ⟨kept.current.found, ?_, ?_⟩, kept.accounted.of_eq rfl rfl rfl⟩
  · intro deviceId current entry isCurrent found handle used same
    refine kept.current.latest deviceId current entry isCurrent found handle ?_ same
    unfold Registry.handleOf at used ⊢
    split_ifs at used with isOver
    rwa [if_neg fun earlier => isOver (mem_cons_of_mem _ earlier)]
  · intro poll member
    obtain ⟨own, used⟩ := kept.current.polls poll member
    refine ⟨own, ?_⟩
    have other : poll.handle.stream ≠ stream := by
      simp only [any_eq_true, decide_eq_true_eq, not_exists, not_and] at polling
      exact polling poll member
    have unretired := (stream_of_handleOf used).2.1
    unfold Registry.handleOf at used ⊢
    rw [if_neg unretired] at used
    rw [if_neg (by simp [other, unretired])]
    exact used

/-! ## Items come and go -/

theorem not_drawn (fresh : ¬ registry.drawn item = true) (stream : Nat) :
    .queued stream item ∉ registry.history := by
  intro queued
  apply fresh
  exact any_eq_true.mpr ⟨_, queued, decide_eq_true rfl⟩

/-- The current stream of a device is an open stream of that device. -/
theorem Current.open_of_current
    (current : Current registry)
    (isCurrent : registry.entries deviceId = some stream)
    (found : registry.streams[stream]? = some entry) :
    entry.deviceId = deviceId ∧ entry.closed = false := by
  obtain ⟨same, foundSame, facts⟩ := current.found deviceId stream isCurrent
  rwa [Option.some.inj (found.symm.trans foundSame)]

/-- What was never queued on a stream is not owed there. -/
theorem Accounted.owes_eq_zero
    (accounted : Accounted registry)
    (found : registry.streams[stream]? = some entry)
    (never : .queued stream item ∉ registry.history) : entry.owes item = 0 := by
  rw [DeviceEntry.owes, countP_eq_zero]
  intro owed member same
  rw [decide_eq_true_eq] at same
  exact never (same ▸ accounted.owned stream entry owed found member)

theorem Accounted.enqueue
    (accounted : Accounted registry)
    {pending : Pending}
    (device : entry.deviceId = deviceId)
    (current : registry.entries deviceId = some stream)
    (found : registry.streams[stream]? = some entry)
    (fresh : ∀ other, .queued other pending.item ∉ registry.history) :
    Accounted ((registry.modify stream (.enqueue pending)).log (.queued stream pending.item)) := by
  have queuedIff (other : Nat) (item : Item) :
      .queued other item ∈ StreamEvent.queued stream pending.item :: registry.history ↔
          (other = stream ∧ item = pending.item) ∨ .queued other item ∈ registry.history := by
    rw [mem_cons, StreamEvent.queued.injEq]
  have owesEnqueue (before : DeviceEntry) (item : Item) : (before.enqueue pending).owes item =
        before.owes item + if pending.item = item then 1 else 0 := by
    simp [DeviceEntry.owes, DeviceEntry.enqueue]
  exact {
    account := by
      intro other after item foundAfter queued
      obtain ⟨before, foundBefore, rfl⟩ := getElem?_modify_eq_some.mp foundAfter
      change registry.resolutions item + _ = 1
      rcases (queuedIff other item).mp queued with ⟨rfl, rfl⟩ | older
      · -- nothing was pending or resolved under the new id
        rw [if_pos rfl, owesEnqueue, if_pos rfl,
          accounted.owes_eq_zero foundBefore (fresh other), accounted.unsent pending.item fresh]
      · have account := accounted.account other before item foundBefore older
        have different : pending.item ≠ item := by
          rintro rfl
          exact fresh other older
        split_ifs
        · rw [owesEnqueue, if_neg different]
          exact account
        · exact account
    owned := by
      intro other after owed foundAfter member
      obtain ⟨before, foundBefore, rfl⟩ := getElem?_modify_eq_some.mp foundAfter
      apply (queuedIff other owed.item).mpr
      split_ifs at member with same
      · rcases mem_append.mp member with older | new
        · exact .inr (accounted.owned other before owed foundBefore older)
        · rw [mem_singleton] at new
          exact .inl ⟨same.symm, congrArg Pending.item new⟩
      · exact .inr (accounted.owned other before owed foundBefore member)
    sole := by
      intro first second item one two
      rcases (queuedIff first item).mp one with ⟨rfl, rfl⟩ | older
      · rcases (queuedIff second pending.item).mp two with ⟨rfl, _⟩ | impossible
        · rfl
        · exact absurd impossible (fresh second)
      · rcases (queuedIff second item).mp two with ⟨rfl, rfl⟩ | other
        · exact absurd older (fresh first)
        · exact accounted.sole first second item older other
    known := by
      intro other item queued
      rw [Registry.log, Registry.modify, length_modify]
      rcases (queuedIff other item).mp queued with ⟨rfl, rfl⟩ | older
      · exact (List.getElem?_eq_some_iff.mp found).1
      · exact accounted.known other item older
    unsent := by
      intro item never
      apply accounted.unsent item
      intro other queued
      exact never other (mem_cons_of_mem _ queued)
    ended := by
      intro other after foundAfter isOver
      obtain ⟨before, foundBefore, rfl⟩ := getElem?_modify_eq_some.mp foundAfter
      by_cases same : stream = other
      · subst same
        rw [found] at foundBefore
        cases foundBefore
        rw [if_pos rfl] at isOver
        exact absurd (by
          change registry.entries entry.deviceId = some stream
          rw [device, current]) isOver
      · rw [if_neg same] at isOver ⊢
        exact accounted.ended other before foundBefore isOver }

theorem Kept.send
    (kept : Kept registry)
    {cardId : String}
    (fresh : ¬ registry.drawn item = true)
    (sent : registry.send operator deviceId cardId item now = .ok next) : Kept next := by
  obtain ⟨⟨stream, entry⟩, met, rest⟩ := exists_of_bind_eq_ok sent
  simp only at rest
  split_ifs at rest
  cases rest
  obtain ⟨current, found⟩ := entryOf_eq_some.mp (entryOf_of_entryForOperator met)
  obtain ⟨device, _⟩ := kept.current.open_of_current current found
  exact {
    powerless := powerless_cons kept.powerless nofun
    current := by
      apply Current.log
      exact kept.current.modify ⟨fun _ => rfl, fun _ => rfl⟩ fun _ => rfl
    accounted := @Accounted.enqueue registry deviceId stream entry kept.accounted
      ⟨item, operator, deviceId, cardId, entry.generation, now⟩ device current found
      (not_drawn fresh) }

theorem owes_filter : ({ entry with
        pending := entry.pending.filter fun pending => pending.item ≠ item
        lastSeen := lastSeen } : DeviceEntry).owes other =
      if item = other then 0 else entry.owes other := by
  simp only [DeviceEntry.owes, countP_filter]
  split_ifs with same
  · rw [countP_eq_zero]
    intro pending _ both
    simp [same] at both
  · congr 1
    funext pending
    by_cases wanted : pending.item = other
    · simp [wanted, Ne.symm same]
    · simp [wanted]

theorem resolutions_resolved :
    (registry.log (.resolved caller target item outcome)).resolutions other =
      registry.resolutions other + if item = other then 1 else 0 := by
  simp [Registry.resolutions, Registry.log, StreamEvent.resolves, countP_cons]

theorem queued_mem_resolved
    {resolved : Item}
    (queued : .queued stream item ∈
      StreamEvent.resolved caller target resolved outcome :: registry.history) :
    .queued stream item ∈ registry.history := by
  rcases mem_cons.mp queued with impossible | older
  · cases impossible
  · exact older

theorem Accounted.resolve
    (accounted : Accounted registry)
    {seen : DeviceEntry → Int}
    (found : registry.streams[stream]? = some entry)
    (pending : ∃ owed ∈ entry.pending, owed.item = item) :
    Accounted ((registry.modify stream fun entry => { entry with
      pending := entry.pending.filter fun pending => pending.item ≠ item
      lastSeen := seen entry }).log (.resolved caller stream item outcome)) := by
  obtain ⟨owed, member, same⟩ := pending
  have own : .queued stream item ∈ registry.history :=
    same ▸ accounted.owned stream entry owed found member
  -- the item was owed once and not yet resolved
  have once : registry.resolutions item = 0 ∧ entry.owes item = 1 := by
    have account := accounted.account stream entry item found own
    have positive : 0 < entry.owes item := countP_pos_iff.mpr ⟨owed, member, decide_eq_true same⟩
    omega
  exact {
    account := by
      intro other after wanted foundAfter queued
      obtain ⟨before, foundBefore, rfl⟩ := getElem?_modify_eq_some.mp foundAfter
      have older := queued_mem_resolved queued
      have account := accounted.account other before wanted foundBefore older
      rw [resolutions_resolved]
      change registry.resolutions wanted + _ + _ = 1
      by_cases wants : item = wanted
      · subst wants
        have here := accounted.sole stream other item own older
        subst here
        rw [if_pos rfl, if_pos rfl, owes_filter, if_pos rfl, once.1]
      · rw [if_neg wants]
        split_ifs
        · rw [owes_filter, if_neg wants]
          exact account
        · exact account
    owned := by
      intro other after left foundAfter isLeft
      obtain ⟨before, foundBefore, rfl⟩ := getElem?_modify_eq_some.mp foundAfter
      apply mem_cons_of_mem
      apply accounted.owned other before left foundBefore
      split_ifs at isLeft
      · exact (mem_filter.mp isLeft).1
      · exact isLeft
    sole := by
      intro first second wanted one two
      exact accounted.sole first second wanted (queued_mem_resolved one) (queued_mem_resolved two)
    known := by
      intro other wanted queued
      rw [Registry.log, Registry.modify, length_modify]
      exact accounted.known other wanted (queued_mem_resolved queued)
    unsent := by
      intro wanted never
      rw [resolutions_resolved, if_neg]
      · apply accounted.unsent wanted
        intro other queued
        exact never other (mem_cons_of_mem _ queued)
      · rintro rfl
        exact never stream (mem_cons_of_mem _ own)
    ended := by
      intro other after foundAfter isOver
      obtain ⟨before, foundBefore, rfl⟩ := getElem?_modify_eq_some.mp foundAfter
      split_ifs at isOver ⊢
      · have nothing := accounted.ended other before foundBefore isOver
        simp [nothing]
      · exact accounted.ended other before foundBefore isOver }

theorem Kept.resolve
    (kept : Kept registry)
    (own : ∀ stream entry, registry.currentEntry handle = .ok (stream, entry) →
      ∀ source, caller = some source → stream = source) :
    Kept (registry.resolve caller handle item outcome now) := by
  unfold Registry.resolve
  split
  · rename_i stream entry met
    by_cases pending : (entry.pending.any fun pending => pending.item = item) = true
    · rw [if_pos pending]
      obtain ⟨owed, member, same⟩ := any_eq_true.mp pending
      obtain ⟨_, found⟩ := entryOf_eq_some.mp (entryOf_of_currentEntry met).1
      refine ⟨powerless_cons kept.powerless ?_, ?_,
        kept.accounted.resolve found ⟨owed, member, of_decide_eq_true same⟩⟩
      · intro source target effect
        obtain ⟨_, isCaller, both⟩ := Option.map_eq_some_iff.mp effect
        cases both
        exact own stream entry met source isCaller
      · apply Current.log
        exact kept.current.modify ⟨fun _ => rfl, fun _ => rfl⟩ fun _ => rfl
    · rw [if_neg pending]
      exact kept
  · exact kept

/-! ## Streams come and go -/

/-- The registry after an open entry was removed. -/
def Registry.removed (registry : Registry) (caller : Option Nat)
    (deviceId reason : String) (stream : Nat) (entry : DeviceEntry) : Registry :=
  { (registry.setEntry deviceId none).modify stream .close with
    history := .closed caller stream :: ((entry.pending.map fun pending =>
        StreamEvent.resolved caller stream pending.item (.failure reason)).reverse ++
        registry.history) }

variable {reason : String}

theorem Current.remove_eq
    (current : Current registry)
    (met : registry.entryOf deviceId = some (stream, entry)) :
    registry.remove caller deviceId reason =
      registry.removed caller deviceId reason stream entry := by
  obtain ⟨isCurrent, found⟩ := entryOf_eq_some.mp met
  obtain ⟨_, isOpen⟩ := current.open_of_current isCurrent found
  have foundAfter : (registry.setEntry deviceId none).streams[stream]? = some entry := found
  simp only [Registry.remove, met, Registry.closeEntry, foundAfter, isOpen]
  rfl

theorem Current.removed
    (current : Current registry)
    (met : registry.entryOf deviceId = some (stream, entry))
    (caller : Option Nat)
    (reason : String) :
    Current (registry.removed caller deviceId reason stream entry) := by
  obtain ⟨isCurrent, found⟩ := entryOf_eq_some.mp met
  have device := (current.open_of_current isCurrent found).1
  -- the current entries of the other devices are other entries
  have elsewhere : ∀ other target, (registry.setEntry deviceId none).entries other =
      some target → registry.entries other = some target ∧ stream ≠ target := by
    intro other target isTarget
    simp only [Registry.setEntry] at isTarget
    split_ifs at isTarget with same
    refine ⟨isTarget, ?_⟩
    rintro rfl
    exact same ((current.open_of_current isTarget found).1.symm.trans device)
  have handles (target : Nat) :
      (registry.removed caller deviceId reason stream entry).handleOf target =
        registry.handleOf target :=
    @handleOf_modify .close ⟨fun _ => rfl, fun _ => rfl⟩ registry stream target
  exact {
    found := by
      intro other target isTarget
      obtain ⟨before, different⟩ := elsewhere other target isTarget
      obtain ⟨kept, foundKept, rest⟩ := current.found other target before
      refine ⟨kept, getElem?_modify_eq_some.mpr ⟨kept, foundKept, ?_⟩, rest⟩
      rw [if_neg different]
    latest := by
      intro other target after isTarget foundAfter handle used same
      obtain ⟨before, different⟩ := elsewhere other target isTarget
      obtain ⟨kept, foundKept, rfl⟩ := getElem?_modify_eq_some.mp foundAfter
      rw [if_neg different]
      rw [handles] at used
      exact current.latest other target kept before foundKept handle used same
    polls := by
      intro poll member
      rw [handles]
      exact current.polls poll member }

theorem resolutions_removed :
    (registry.removed caller deviceId reason stream entry).resolutions item =
      registry.resolutions item + entry.owes item := by
  simp only [Registry.resolutions, Registry.removed, countP_cons,
    countP_append, countP_reverse, countP_map]
  simp [StreamEvent.resolves, DeviceEntry.owes, Nat.add_comm, Function.comp_def]

theorem queued_mem_removed {reason : String} :
    .queued stream item ∈ (registry.removed caller deviceId reason target entry).history ↔
      .queued stream item ∈ registry.history := by
  simp [Registry.removed]

theorem setEntry_self
    (stream : Option Nat) : (registry.setEntry deviceId stream).entries deviceId = stream :=
  if_pos rfl

theorem setEntry_other (different : other ≠ deviceId) (stream : Option Nat) :
    (registry.setEntry deviceId stream).entries other = registry.entries other :=
  if_neg different

theorem Accounted.removed
    (accounted : Accounted registry)
    (met : registry.entryOf deviceId = some (stream, entry))
    (caller : Option Nat)
    (reason : String) :
    Accounted (registry.removed caller deviceId reason stream entry) := by
  obtain ⟨isCurrent, found⟩ := entryOf_eq_some.mp met
  have owesClose (before : DeviceEntry) (item : Item) : before.close.owes item = 0 := rfl
  exact {
    account := by
      intro other after item foundAfter queued
      obtain ⟨before, foundBefore, rfl⟩ := getElem?_modify_eq_some.mp foundAfter
      have older := queued_mem_removed.mp queued
      have account := accounted.account other before item foundBefore older
      rw [resolutions_removed]
      by_cases same : stream = other
      · subst same
        have : before = entry := Option.some.inj (foundBefore.symm.trans found)
        subst this
        rw [if_pos rfl]
        exact account
      · -- what the closed entry owed was not queued elsewhere
        have unowed := accounted.owes_eq_zero found fun own =>
          same (accounted.sole stream other item own older)
        rw [if_neg same, unowed]
        exact account
    owned := by
      intro other after owed foundAfter member
      obtain ⟨before, foundBefore, rfl⟩ := getElem?_modify_eq_some.mp foundAfter
      apply queued_mem_removed.mpr
      split_ifs at member
      · cases member
      · exact accounted.owned other before owed foundBefore member
    sole := by
      intro first second item one two
      exact accounted.sole first second item (queued_mem_removed.mp one) (queued_mem_removed.mp two)
    known := by
      intro other item queued
      rw [Registry.removed, Registry.modify, length_modify]
      exact accounted.known other item (queued_mem_removed.mp queued)
    unsent := by
      intro item never
      have unsent := accounted.unsent item fun other queued =>
        never other (queued_mem_removed.mpr queued)
      have unowed := accounted.owes_eq_zero found fun own =>
        never stream (queued_mem_removed.mpr own)
      rw [resolutions_removed, unsent, unowed]
    ended := by
      intro other after foundAfter isOver
      obtain ⟨before, foundBefore, rfl⟩ := getElem?_modify_eq_some.mp foundAfter
      split_ifs at isOver ⊢ with same
      · rfl
      · apply accounted.ended other before foundBefore
        intro stillCurrent
        by_cases device : before.deviceId = deviceId
        · rw [device, isCurrent] at stillCurrent
          exact same (Option.some.inj stillCurrent)
        · apply isOver
          exact (setEntry_other device none).trans stillCurrent }

/-- A stream is removed by nobody's handle, or by its own. -/
theorem Kept.remove
    (kept : Kept registry)
    (own : ∀ stream entry, registry.entryOf deviceId = some (stream, entry) →
      ∀ source, caller = some source → stream = source)
    (reason : String) : Kept (registry.remove caller deviceId reason) := by
  cases met : registry.entryOf deviceId with
  | none =>
    simp only [Registry.remove, met]
    exact kept
  | some found =>
    obtain ⟨stream, entry⟩ := found
    rw [kept.current.remove_eq met]
    refine ⟨?_, kept.current.removed met caller reason, kept.accounted.removed met caller reason⟩
    have effects : ∀ source target,
        caller.map (fun source => (source, stream)) = some (source, target) → target = source := by
      intro source target effect
      obtain ⟨_, isCaller, both⟩ := Option.map_eq_some_iff.mp effect
      cases both
      exact own stream entry met source isCaller
    refine @powerless_cons (.closed caller stream) _ ?_ effects
    intro event member
    rcases mem_append.mp member with resolved | older
    · obtain ⟨pending, _, rfl⟩ := mem_map.mp (mem_reverse.mp resolved)
      exact effects
    · exact kept.powerless event older

theorem Kept.evictStale (kept : Kept registry) (ttl now : Int) :
    Kept (registry.evictStale ttl now) := by
  unfold Registry.evictStale
  generalize registry.staleDevices ttl now = devices
  induction devices generalizing registry with
  | nil => exact kept
  | cons deviceId rest ih =>
    exact ih (kept.remove (fun _ _ _ _ impossible => by cases impossible) _)

theorem Kept.closeStream
    (kept : Kept registry)
    (used : registry.handleOf handle.stream = some handle)
    (reason : Option String) :
    Kept (registry.closeStream handle reason) := by
  unfold Registry.closeStream
  split
  · rename_i stream entry met
    split_ifs with stale
    · exact kept
    · apply kept.remove
      intro target found foundTarget source isSource
      rw [met] at foundTarget
      cases foundTarget
      cases isSource
      exact kept.current.meets used met (not_not.mp stale)
  · exact kept

/-! ## Registration -/

/-- An entry after a registration is the new one, or was there before. -/
theorem getElem?_enter :
    (registry.enter operator deviceId fingerprint generation now).streams[stream]? = some entry ↔
      registry.streams[stream]? = some entry ∨ (stream = registry.streams.length ∧
          entry = ⟨operator, deviceId, fingerprint, generation, [], [], [], [], now, false⟩) := by
  rw [Registry.enter]
  rcases Nat.lt_trichotomy stream registry.streams.length with below | rfl | above
  · rw [getElem?_append_left below]
    simp [Nat.ne_of_lt below]
  · simp [eq_comm]
  · have beyond := Nat.le_of_lt above
    rw [getElem?_append_right beyond, getElem?_eq_none beyond]
    simp [Nat.ne_of_gt above, Nat.sub_ne_zero_of_lt above]

theorem handleOf_enter
    (used : (registry.enter operator deviceId fingerprint generation now).handleOf
      stream = some handle) :
    registry.handleOf stream = some handle ∨
      (stream = registry.streams.length ∧ handle.deviceId = deviceId ∧
        handle.generation = generation) := by
  obtain ⟨rfl, unretired, entry, found, device, same⟩ := stream_of_handleOf used
  rcases getElem?_enter.mp found with older | ⟨new, rfl⟩
  · left
    have before : handle.stream ∉ registry.retired := unretired
    rw [Registry.handleOf, if_neg before, older]
    simp [← device, ← same]
  · exact .inr ⟨new, device, same⟩

theorem Current.enter
    (current : Current registry)
    (newer : ∀ handle, registry.handleOf handle.stream = some handle →
      handle.deviceId = deviceId → handle.generation < generation) :
    Current (registry.enter operator deviceId fingerprint generation now) where
  found other stream isCurrent := by
    by_cases same : other = deviceId
    · subst same
      have new : some registry.streams.length = some stream :=
        (setEntry_self _).symm.trans isCurrent
      cases new
      exact ⟨_, getElem?_enter.mpr (.inr ⟨rfl, rfl⟩), rfl, rfl⟩
    · have before := (setEntry_other same _).symm.trans isCurrent
      obtain ⟨entry, found, rest⟩ := current.found other stream before
      exact ⟨entry, getElem?_enter.mpr (.inl found), rest⟩
  latest other stream entry isCurrent found handle used device := by
    by_cases same : other = deviceId
    · subst same
      have new : some registry.streams.length = some stream :=
        (setEntry_self _).symm.trans isCurrent
      cases new
      rcases getElem?_enter.mp found with older | ⟨_, rfl⟩
      · rw [getElem?_eq_none (Nat.le_refl _)] at older
        cases older
      · rcases handleOf_enter used with older | ⟨own, _, equal⟩
        · have smaller := newer handle older device
          exact ⟨Nat.le_of_lt smaller, fun equal => absurd equal (Nat.ne_of_lt smaller)⟩
        · exact ⟨Nat.le_of_eq equal, fun _ => own.symm⟩
    · have before := (setEntry_other same _).symm.trans isCurrent
      rcases getElem?_enter.mp found with older | ⟨rfl, _⟩
      · rcases handleOf_enter used with usedBefore | ⟨_, otherDevice, _⟩
        · exact current.latest other stream entry before older handle usedBefore device
        · exact absurd (device.symm.trans otherDevice) same
      · obtain ⟨known, foundKnown, _⟩ := current.found other _ before
        rw [getElem?_eq_none (Nat.le_refl _)] at foundKnown
        cases foundKnown
  polls poll member := by
    obtain ⟨own, used⟩ := current.polls poll member
    obtain ⟨-, unretired, entry, found, -⟩ := stream_of_handleOf used
    refine ⟨own, ?_⟩
    rw [Registry.handleOf, getElem?_enter.mpr (.inl found)]
    simp only [Registry.handleOf, found] at used
    exact used

theorem Accounted.enter
    (accounted : Accounted registry)
    (absent : registry.entries deviceId = none) :
    Accounted (registry.enter operator deviceId fingerprint generation now) where
  account stream entry item found queued := by
    rcases getElem?_enter.mp found with older | ⟨rfl, rfl⟩
    · exact accounted.account stream entry item older queued
    · exact absurd (accounted.known _ item queued) (Nat.lt_irrefl _)
  owned stream entry pending found member := by
    rcases getElem?_enter.mp found with older | ⟨_, rfl⟩
    · exact accounted.owned stream entry pending older member
    · cases member
  sole := accounted.sole
  known stream item queued := by
    have below := accounted.known stream item queued
    simp only [Registry.enter, length_append]
    exact Nat.lt_add_right 1 below
  unsent := accounted.unsent
  ended stream entry found isOver := by
    rcases getElem?_enter.mp found with older | ⟨_, rfl⟩
    · apply accounted.ended stream entry older
      intro isCurrent
      apply isOver
      have different : entry.deviceId ≠ deviceId := by
        intro same
        rw [same, absent] at isCurrent
        cases isCurrent
      exact (setEntry_other different _).trans isCurrent
    · rfl

theorem Kept.enter
    (kept : Kept registry)
    (absent : registry.entries deviceId = none)
    (newer : ∀ handle, registry.handleOf handle.stream = some handle →
      handle.deviceId = deviceId → handle.generation < generation) :
    Kept (registry.enter operator deviceId fingerprint generation now) :=
  ⟨kept.powerless, kept.current.enter newer, kept.accounted.enter absent⟩

/-- A stream that is superseded might as well have been removed. -/
theorem enter_closeEntry
    {reason : String}
    (met : registry.entryOf deviceId = some (stream, entry)) :
    (registry.closeEntry none stream reason).enter operator deviceId fingerprint generation now =
      (registry.remove none deviceId reason).enter operator deviceId fingerprint
        generation now := by
  obtain ⟨_, found⟩ := entryOf_eq_some.mp met
  have foundAfter : (registry.setEntry deviceId none).streams[stream]? = some entry := found
  have overwritten (streams : Option Nat) : (fun other => if other = deviceId then streams else
        if other = deviceId then none else registry.entries other) =
      fun other => if other = deviceId then streams else registry.entries other := by
    funext other
    split_ifs <;> rfl
  simp only [Registry.remove, met, Registry.closeEntry, found, foundAfter]
  split_ifs <;> simp only [Registry.enter, Registry.setEntry, Registry.modify, overwritten]

theorem Kept.register
    (kept : Kept registry)
    (permitted : released registry (.register operator deviceId fingerprint now) = true) :
    Kept (registry.register operator deviceId fingerprint now) := by
  unfold Registry.register
  split
  · rename_i stream old met
    rw [enter_closeEntry met]
    obtain ⟨isCurrent, found⟩ := entryOf_eq_some.mp met
    have removed := @Kept.remove registry deviceId none kept
      nofun "device stream was superseded"
    apply removed.enter
    · rw [kept.current.remove_eq met]
      exact setEntry_self none
    · intro handle used device
      rw [kept.current.remove_eq met] at used
      have before : registry.handleOf handle.stream = some handle :=
        (@handleOf_modify .close ⟨fun _ => rfl, fun _ => rfl⟩ registry stream
          handle.stream).symm.trans used
      have latest := (kept.current.latest deviceId stream old isCurrent found handle
        before device).1
      omega
  · rename_i missing
    have absent : registry.entries deviceId = none := by
      cases current : registry.entries deviceId with
      | none => rfl
      | some stream =>
        obtain ⟨entry, found, _⟩ := kept.current.found deviceId stream current
        rw [entryOf_eq_some.mpr ⟨current, found⟩] at missing
        cases missing
    apply kept.enter absent
    intro handle used device
    simp only [released, absent, Option.isSome_none, Bool.false_or, all_eq_true,
      mem_range] at permitted
    obtain ⟨_, _, entry, found, _⟩ := stream_of_handleOf used
    have here := permitted handle.stream (List.getElem?_eq_some_iff.mp found).1
    rw [used] at here
    exact absurd device (of_decide_eq_true here)

/-! ## Whole runs -/

theorem Kept.step
    (kept : Kept registry)
    (permitted : released registry call = true)
    (taken : registry.step call = some next) : Kept next := by
  cases call with
  | register operator deviceId fingerprint now =>
    cases taken
    exact kept.register permitted
  | updateCards stream cards capabilities now =>
    obtain ⟨handle, used, rfl⟩ := Option.map_eq_some_iff.mp taken
    exact kept.after fun _ updated => kept.updateCards (handleOf_stream used) updated
  | heartbeat stream now =>
    obtain ⟨handle, used, rfl⟩ := Option.map_eq_some_iff.mp taken
    exact kept.after fun _ beaten => kept.heartbeat beaten
  | send operator deviceId cardId item now =>
    simp only [Registry.step] at taken
    split_ifs at taken with drawn
    cases taken
    exact kept.after fun _ sent => kept.send drawn sent
  | poll stream =>
    obtain ⟨handle, used, rfl⟩ := Option.map_eq_some_iff.mp taken
    exact kept.after fun _ polled => kept.poll (handleOf_stream used) polled
  | take index => exact kept.take taken
  | deliver index => exact kept.deliver taken
  | resolve stream item outcome now =>
    obtain ⟨handle, used, rfl⟩ := Option.map_eq_some_iff.mp taken
    apply kept.resolve
    intro target entry met source isSource
    cases isSource
    rw [kept.own (handleOf_stream used) met]
    exact (stream_of_handleOf used).1
  | giveUp stream requestId reason now =>
    simp only [Registry.step] at taken
    split_ifs at taken
    obtain ⟨entry, _, rfl⟩ := Option.map_eq_some_iff.mp taken
    exact kept.resolve nofun
  | evict deviceId reason =>
    cases taken
    exact kept.remove (fun _ _ _ _ impossible => by cases impossible) _
  | evictStale ttl now =>
    cases taken
    exact kept.evictStale ttl now
  | closeStream stream reason =>
    obtain ⟨handle, used, rfl⟩ := Option.map_eq_some_iff.mp taken
    exact kept.closeStream (handleOf_stream used) reason
  | retire stream => exact kept.retire taken

/-- Streams are confined in every run in which a device without an entry is
registered only when no handle of the device is in use. -/
theorem confined_of_released
    (calls : List RegistryCall)
    (final : Registry)
    (permitted : Transition.Admits Registry.step
      (fun registry call => released registry call = true) Registry.empty calls)
    (ended : Transition.run Registry.step Registry.empty calls = some final) : Confined final :=
  (Transition.invariant_of_admits Registry.step Kept
    (fun _ _ _ kept allowed taken => kept.step allowed taken) kept_empty permitted ended).confined

/-- A stream is superseded while a listing waits on it; its owner closes it and is
done, and so is the owner of the second stream before the device comes back. -/
theorem confined_of_released_reconnected : ∃ final, Transition.run Registry.step Registry.empty
        [.register "op" "cam" "f1" 0,
         .updateCards 0 [⟨"volume:1", "card", "sd", 1, "ready"⟩] [] 1,
         .send "op" "cam" "volume:1" (.command "c1") 2, .poll 0, .take 0, .deliver 0,
         .send "op" "cam" "volume:1" (.listing "l1") 3, .resolve 0 (.command "c1") .result 4,
         .register "op" "cam" "f1" 5, .closeStream 0 none, .retire 0,
         .closeStream 1 none, .retire 1, .register "op" "cam" "f1" 6] = some final ∧
      Confined final := by
  refine (Option.isSome_iff_exists.mp ?_).imp fun final ended =>
    ⟨ended, confined_of_released _ final (by decide) ended⟩
  decide

/-- The owner of an evicted stream closes the stream of the reconnected device. -/
theorem not_confinedLaw : ¬ ConfinedLaw := by
  intro law
  have run : (Transition.run Registry.step Registry.empty
      [.register "op" "cam" "f1" 0, .evictStale 30 60,
       .register "op" "cam" "f1" 61, .closeStream 0 none]).map (fun final => final.history) =
      some [.closed (some 0) 1, .closed none 0] := by decide
  obtain ⟨final, ended, history⟩ := Option.map_eq_some_iff.mp run
  have confined := law _ final ended
  have own := confined.powerless (.closed (some 0) 1) (by simp [history]) 0 1 rfl
  exact absurd own (by decide)

end Grpc
end Sutradhara
