import Sutradhara.Api.Idempotency

/-!
# Stable and owned replay

A claim that has gone stale is taken over while its first owner may still run, and
neither `complete_idempotency` nor `abandon_idempotency` asks whose claim the record
carries.  A late owner then overwrites a response that was already replayed.  When a
stale claim is taken over only after every other claim has come to its end, at most
one request holds a claim, and replay is stable.
-/

namespace Sutradhara
namespace Api

open Foundation
open Foundation.Interleaving

/-! ## Claims that are held -/

/-- The request has taken a claim, or is about to take a stale one, and may still
write to the record. -/
def Place.holds : Place → Bool
  | .reclaiming _ _ _ => true
  | .claimed => true
  | .receiving _ => true
  | .refreshing _ _ => true
  | .completing _ _ _ _ => true
  | .abandoning _ => true
  | _ => false

/-- The others let a request take a stale claim over: none of them holds one. -/
def exclusive (config : Config Ledger Request) : Move Request Choice → Bool
  | .act index (.clock now) =>
    match config.threads[index]? with
    | some request =>
      match request.place, beginIdempotency config.shared.record
          request.requestHash request.ttl now with
      | .begin, .reclaim _ => (config.threads.eraseIdx index).all fun other => !other.place.holds
      | _, _ => true
    | none => true
  | _ => true

/-! ## Histories -/

/-- The event tells a caller that it has a claim. -/
def Event.claims : Event → Bool
  | .returned _ _ _ .claimed => true
  | _ => false

theorem latestClaim_cons (unclaimed : event.claims = false) :
    latestClaim (event :: history) = latestClaim history := by
  cases event with
  | returned caller requestHash began decision =>
    cases decision with
    | claimed => cases unclaimed
    | completed response => rfl
    | conflict => rfl
    | inProgress => rfl
  | completed caller => rfl
  | abandoned caller => rfl

/-- No response was replayed for a hash before a begin. -/
def Unanswered (history : List Event) (requestHash : String) (began : Nat) : Prop :=
  ∀ other otherBegan response before,
    .returned other requestHash otherBegan (.completed response) :: before <:+
      history → began ≤ before.length

theorem Unanswered.cons
    (unanswered : Unanswered history requestHash began)
    (past : began ≤ history.length)
    (event : Event) :
    Unanswered (event :: history) requestHash began := by
  intro other otherBegan response before found
  rcases List.suffix_cons_iff.mp found with same | earlier
  · cases same
    exact past
  · exact unanswered other otherBegan response before earlier

/-- A history goes on with an event that keeps the rules. -/
theorem Replays.cons
    (replays : Replays history)
    (event : Event)
    (stable : ∀ caller requestHash began decision,
      event = .returned caller requestHash began decision → ∀ other otherBegan response before,
          .returned other requestHash otherBegan (.completed response) :: before <:+
            history → before.length < began → decision = .completed response)
    (owned : ∀ caller, event = .completed caller ∨ event = .abandoned caller →
      latestClaim history = some caller) :
    Replays (event :: history) where
  stable caller requestHash began decision earlier other otherBegan response before
      found answered late := by
    rcases List.suffix_cons_iff.mp found with same | older
    · cases same
      exact stable caller requestHash began decision rfl other otherBegan response
        before answered late
    · exact replays.stable caller requestHash began decision earlier other otherBegan
        response before older answered late
  completes caller earlier found := by
    rcases List.suffix_cons_iff.mp found with same | older
    · cases same
      exact owned caller (Or.inl rfl)
    · exact replays.completes caller earlier older
  abandons caller earlier found := by
    rcases List.suffix_cons_iff.mp found with same | older
    · cases same
      exact owned caller (Or.inr rfl)
    · exact replays.abandons caller earlier older

theorem replays_nil : Replays [] where
  stable caller requestHash began decision earlier other otherBegan response before
      found := by simp at found
  completes caller earlier found := by simp at found
  abandons caller earlier found := by simp at found

/-! ## The assertions -/

/-- The history keeps the rules, and the record is completed with every response
that was replayed. -/
structure Agrees (ledger : Ledger) : Prop where
  replays : Replays ledger.history
  replayed : ∀ caller requestHash began response earlier,
    .returned caller requestHash began (.completed response) :: earlier <:+ ledger.history →
    ∃ row, ledger.record = some row ∧ row.status = .completed ∧
      row.requestHash = requestHash ∧ row.responseJson = response

/-- Nothing was replayed as long as the record is not completed. -/
theorem Agrees.unanswered
    (agrees : Agrees ledger)
    (open_ : ∀ row, ledger.record = some row → row.status ≠ .completed)
    (found : .returned caller requestHash began (.completed response) :: earlier <:+
      ledger.history) :
    False := by
  obtain ⟨row, present, completed, _, _⟩ :=
    agrees.replayed caller requestHash began response earlier found
  exact open_ row present completed

/-- Where the begin of an insertion stood in the history. -/
def Place.inserts : Place → Option Nat
  | .inserting began _ => some began
  | _ => none

/-- The record that a call has read and is about to write. -/
def Place.loaded : Place → Option IdempotencyRecord
  | .reclaiming _ loaded _ => some loaded
  | .refreshing loaded _ => some loaded
  | .completing loaded _ _ _ => some loaded
  | .abandoning loaded => some loaded
  | _ => none

/-- The request was told that it has a claim. -/
def Place.owns : Place → Bool
  | .reclaiming _ _ _ => false
  | place => place.holds

theorem holds_of_owns {place : Place} (owns : place.owns = true) : place.holds = true := by
  cases place <;> first | rfl | cases owns

theorem holds_of_loaded {place : Place} (reads : place.loaded = some loaded) :
    place.holds = true := by
  cases place <;> first | rfl | cases reads

/-- What a request may rely on.  A holder finds an open record as it has read it,
and no claim after its own. -/
structure At (ledger : Ledger) (caller : Nat) (request : Request) : Prop where
  inserts : ∀ began, request.place.inserts = some began →
    began ≤ ledger.history.length ∧ Unanswered ledger.history request.requestHash began
  open_ : request.place.holds = true → ∃ row, ledger.record = some row ∧ row.status ≠ .completed
  loaded : ∀ loaded, request.place.loaded = some loaded → ledger.record = some loaded
  owned : request.place.owns = true → latestClaim ledger.history = some caller

/-- At most one of two requests holds a claim. -/
def Apart (first second : Request) : Prop :=
  ¬(first.place.holds = true ∧ second.place.holds = true)

theorem Apart.symm (apart : Apart first second) : Apart second first :=
  fun both => apart ⟨both.2, both.1⟩

/-- A request that neither inserts nor holds a claim relies on nothing. -/
theorem at_of_idle
    {request : Request}
    (outside : request.place.inserts = none)
    (free : request.place.holds = false) :
    At ledger caller request where
  inserts began inserting := by
    rw [outside] at inserting
    cases inserting
  open_ holds := by
    rw [free] at holds
    cases holds
  loaded loaded reads := by
    rw [holds_of_loaded reads] at free
    cases free
  owned owns := by
    rw [holds_of_owns owns] at free
    cases free

/-- A request without a claim does not rely on the record. -/
theorem At.of_record
    {ledger : Ledger}
    (relies : At ledger caller request)
    (free : request.place.holds = false) :
    At ⟨record, ledger.history⟩ caller request where
  inserts := relies.inserts
  open_ holds := by
    rw [free] at holds
    cases holds
  loaded loaded reads := by
    rw [holds_of_loaded reads] at free
    cases free
  owned := relies.owned

/-- An event takes nothing from a request, unless it gives away the claim that the
request holds. -/
theorem At.cons
    (relies : At ledger caller request)
    (kept : event.claims = false ∨ request.place.holds = false) :
    At { ledger with history := event :: ledger.history } caller request where
  inserts began inserting := by
    obtain ⟨past, unanswered⟩ := relies.inserts began inserting
    exact ⟨Nat.le_succ_of_le past, unanswered.cons past event⟩
  open_ := relies.open_
  loaded := relies.loaded
  owned owns := by
    rcases kept with unclaimed | free
    · rw [latestClaim_cons unclaimed]
      exact relies.owned owns
    · rw [holds_of_owns owns] at free
      cases free

/-! ## Steps -/

/-- The rules, what the request that steps relies on, and what the others rely on
beside it.  A step leads from this assertion to the same one about the next ledger
and request. -/
abbrev Keeps := Program.Beside Agrees At Apart

section Steps

variable {config : Config Ledger Request} {index : Nat} {request : Request}
  (running : Keeps config index config.shared request)
include running

/-- While a request holds a claim nothing was replayed. -/
theorem Keeps.unanswered
    (holds : request.place.holds = true)
    (found : .returned caller requestHash began (.completed response) :: earlier <:+
      config.shared.history) :
    False := by
  obtain ⟨row, present, unfinished⟩ := running.own.open_ holds
  refine running.common.unanswered ?_ found
  intro other otherPresent
  rw [present] at otherPresent
  cases otherPresent
  exact unfinished

/-- The others hold no claim beside a request that does. -/
theorem Keeps.free
    (holds : request.place.holds = true)
    (different : other ≠ index)
    (present : config.threads[other]? = some otherRequest) :
    otherRequest.place.holds = false := by
  have apart := (running.others other otherRequest different present).2
  cases otherHolds : otherRequest.place.holds with
  | false => rfl
  | true => exact absurd ⟨holds, otherHolds⟩ apart

/-- A step that leaves the ledger alone and takes no claim. -/
theorem Keeps.stays
    (own : At config.shared index next)
    (holds : next.place.holds = true → request.place.holds = true) :
    Keeps config index config.shared next where
  common := running.common
  own := own
  others other otherRequest different present := by
    obtain ⟨relies, apart⟩ := running.others other otherRequest different present
    exact ⟨relies, fun both => apart ⟨holds both.1, both.2⟩⟩

/-- A request ends. -/
theorem Keeps.finishes : Keeps config index config.shared (request.goto .finished) :=
  running.stays (at_of_idle rfl rfl) nofun

/-- A begin that takes no claim answers its caller. -/
theorem Keeps.told
    (unclaimed : decision ≠ .claimed)
    (stable : ∀ other otherBegan response before,
      .returned other request.requestHash otherBegan (.completed response) ::
        before <:+ config.shared.history →
      before.length < began → decision = .completed response)
    (replayed : ∀ response, decision = .completed response →
      ∃ row, config.shared.record = some row ∧ row.status = .completed ∧
        row.requestHash = request.requestHash ∧ row.responseJson = response) :
    Keeps config index (request.told index began config.shared decision).1
      (request.told index began config.shared decision).2 := by
  have silent : (Event.returned index request.requestHash began decision).claims = false := by
    cases decision with
    | claimed => exact absurd rfl unclaimed
    | completed response => rfl
    | conflict => rfl
    | inProgress => rfl
  have free : (if decision = .inProgress then Place.begin
      else .finished).holds = false := by
    split <;> rfl
  have outside : (if decision = .inProgress then Place.begin
      else .finished).inserts = none := by
    split <;> rfl
  refine ⟨⟨?_, ?_⟩, at_of_idle outside free, ?_⟩
  · refine running.common.replays.cons _ ?_ ?_
    · intro caller requestHash _ _ same
      cases same
      exact stable
    · rintro caller (same | same) <;> cases same
  · intro caller requestHash _ response earlier found
    rcases List.suffix_cons_iff.mp found with same | older
    · cases same
      exact replayed response rfl
    · exact running.common.replayed caller requestHash _ response earlier older
  · intro other otherRequest different present
    obtain ⟨relies, _⟩ := running.others other otherRequest different present
    refine ⟨relies.cons (Or.inl silent), fun both => ?_⟩
    rw [show (request.told index began config.shared decision).2.place.holds = false
      from free] at both
    cases both.1

/-- A claim is given while nobody else holds one and nothing was replayed. -/
theorem Keeps.claims
    (free : ∀ other otherRequest, other ≠ index → config.threads[other]? = some otherRequest →
        otherRequest.place.holds = false)
    (open_ : ∀ row, config.shared.record = some row → row.status ≠ .completed)
    (began : Nat)
    (inProgress : row.status = .inProgress) :
    Keeps config index (request.claim index began row config.shared.history).1
      (request.claim index began row config.shared.history).2 := by
  refine ⟨⟨?_, ?_⟩, ⟨?_, ?_, ?_, ?_⟩, ?_⟩
  · refine running.common.replays.cons _ ?_ ?_
    · intro caller requestHash _ _ same other otherBegan response before answered
      cases same
      exact (running.common.unanswered open_ answered).elim
    · rintro caller (same | same) <;> cases same
  · intro caller requestHash _ response earlier found
    rcases List.suffix_cons_iff.mp found with same | older
    · cases same
    · exact (running.common.unanswered open_ older).elim
  · intro _ inserting
    cases inserting
  · intro _
    refine ⟨row, rfl, ?_⟩
    rw [inProgress]
    decide
  · intro _ reads
    cases reads
  · intro _
    rfl
  · intro other otherRequest different present
    have relies := (running.others other otherRequest different present).1
    have otherFree := free other otherRequest different present
    refine ⟨(relies.of_record otherFree).cons (Or.inr otherFree), ?_⟩
    intro both
    rw [otherFree] at both
    cases both.2

/-- The holder of the latest claim completes or abandons the record. -/
theorem Keeps.ends
    (owns : request.place.owns = true)
    (record : Option IdempotencyRecord)
    (ending : event = .completed index ∨ event = .abandoned index) :
    Keeps config index ⟨record, event :: config.shared.history⟩ (request.goto .finished) := by
  have holds := holds_of_owns owns
  refine ⟨⟨?_, ?_⟩, at_of_idle rfl rfl, ?_⟩
  · refine running.common.replays.cons _ ?_ ?_
    · intro caller requestHash began decision same
      rcases ending with rfl | rfl <;> cases same
    · intro caller same
      have same : caller = index := by
        rcases ending with rfl | rfl
        · rcases same with same | same <;> cases same
          rfl
        · rcases same with same | same <;> cases same
          rfl
      rw [same]
      exact running.own.owned owns
  · intro caller requestHash began response earlier found
    rcases List.suffix_cons_iff.mp found with same | older
    · rcases ending with rfl | rfl <;> cases same
    · exact (running.unanswered holds older).elim
  · intro other otherRequest different present
    have relies := (running.others other otherRequest different present).1
    have otherFree := running.free holds different present
    refine ⟨(relies.of_record otherFree).cons (Or.inr otherFree), ?_⟩
    intro both
    cases both.1

/-- The holder of the latest claim refreshes the record. -/
theorem Keeps.refreshes
    (owns : request.place.owns = true)
    (unfinished : row.status ≠ .completed) :
    Keeps config index { config.shared with record := some row }
      (request.goto (.receiving true)) := by
  have holds := holds_of_owns owns
  refine ⟨⟨running.common.replays, ?_⟩, ⟨?_, ?_, ?_, ?_⟩, ?_⟩
  · intro caller requestHash began response earlier found
    exact (running.unanswered holds found).elim
  · intro _ inserting
    cases inserting
  · intro _
    exact ⟨row, rfl, unfinished⟩
  · intro _ reads
    cases reads
  · intro _
    exact running.own.owned owns
  · intro other otherRequest different present
    have relies := (running.others other otherRequest different present).1
    have otherFree := running.free holds different present
    refine ⟨relies.of_record otherFree, ?_⟩
    intro both
    rw [otherFree] at both
    cases both.2

/-- A holder goes on to another place at which it has read the record as it is. -/
theorem Keeps.goes
    (owns : request.place.owns = true)
    (outside : place.inserts = none)
    (reads : ∀ loaded, place.loaded = some loaded → config.shared.record = some loaded) :
    Keeps config index config.shared (request.goto place) := by
  have holds := holds_of_owns owns
  refine running.stays ⟨?_, ?_, reads, ?_⟩ (fun _ => holds)
  · intro began inserting
    rw [show (request.goto place).place.inserts = none from outside] at inserting
    cases inserting
  · intro _
    exact running.own.open_ holds
  · intro _
    exact running.own.owned owns

/-- A begin that answers at once replays what the record carries. -/
theorem Keeps.answers
    (read : beginIdempotency config.shared.record request.requestHash request.ttl
      now = .answer decision) :
    Keeps config index (request.told index began config.shared decision).1
      (request.told index began config.shared decision).2 := by
  obtain ⟨row, present, answer⟩ := beginIdempotency_eq_answer read
  -- A response replayed before is the one that the row carries now.
  have carries : ∀ {other otherBegan response before},
      .returned other request.requestHash otherBegan (.completed response) ::
        before <:+ config.shared.history →
      row.status = .completed ∧ row.requestHash = request.requestHash ∧
        row.responseJson = response := by
    intro other otherBegan response before answered
    obtain ⟨found, isFound, facts⟩ := running.common.replayed _ _ _ _ _ answered
    rw [present, Option.some.injEq] at isFound
    rw [isFound]
    exact facts
  rcases answer with ⟨conflicts, rfl⟩ | ⟨matching, completed, rfl⟩ | ⟨unfinished, rfl⟩
  · refine running.told (by decide) ?_ (by simp)
    intro other otherBegan response before answered _
    exact absurd (carries answered).2.1 conflicts
  · refine running.told (by simp) ?_ ?_
    · intro other otherBegan response before answered _
      rw [(carries answered).2.2]
    · intro response same
      cases same
      exact ⟨row, present, completed, matching, rfl⟩
  · refine running.told (by decide) ?_ (by simp)
    intro other otherBegan response before answered _
    exact absurd (carries answered).1 unfinished

/-- A begin that finds no record goes on to insert one. -/
theorem Keeps.inserts (absent : config.shared.record = none) (now : Int) :
    Keeps config index config.shared
      (request.goto (.inserting config.shared.history.length now)) := by
  refine running.stays ⟨?_, ?_, ?_, ?_⟩ nofun
  · intro began inserting
    cases inserting
    refine ⟨Nat.le_refl _, ?_⟩
    intro other otherBegan response before answered
    refine (running.common.unanswered ?_ answered).elim
    intro row found
    rw [absent] at found
    cases found
  · intro holds
    cases holds
  · intro _ reads
    cases reads
  · intro owns
    cases owns

/-- `begin_idempotency` up to its statement. -/
theorem Keeps.beginStep
    (now : Int)
    (free : ∀ loaded, beginIdempotency config.shared.record request.requestHash
        request.ttl now = .reclaim loaded →
      ∀ other otherRequest, other ≠ index → config.threads[other]? = some otherRequest →
          otherRequest.place.holds = false) :
    Keeps config index (request.beginStep index config.shared now).1
      (request.beginStep index config.shared now).2 := by
  unfold Request.beginStep
  split
  next decision read => exact running.answers read
  next read => exact running.inserts (beginIdempotency_eq_insert read) now
  next loaded read =>
    obtain ⟨present, unfinished⟩ := beginIdempotency_eq_reclaim read
    refine ⟨running.common, ⟨nofun, fun _ => ⟨loaded, present, unfinished⟩, ?_, nofun⟩, ?_⟩
    · rintro _ ⟨⟩
      exact present
    · intro other otherRequest different otherPresent
      refine ⟨(running.others other otherRequest different otherPresent).1, fun both => ?_⟩
      rw [free loaded read other otherRequest different otherPresent] at both
      cases both.2

/-- `abandon_idempotency` up to its statement. -/
theorem Keeps.abandonStep (owns : request.place.owns = true) :
    Keeps config index (request.abandonStep config.shared).1
      (request.abandonStep config.shared).2 := by
  unfold Request.abandonStep
  split
  next row present =>
    split
    · refine running.goes owns rfl ?_
      intro loaded reads
      cases reads
      exact present
    · exact running.finishes
  · exact running.finishes

/-- `refresh_idempotency` up to its statement. -/
theorem Keeps.refreshStep (owns : request.place.owns = true) (now : Int) :
    Keeps config index (request.refreshStep config.shared now).1
      (request.refreshStep config.shared now).2 := by
  unfold Request.refreshStep
  split
  next row present =>
    split
    · refine running.goes owns rfl ?_
      intro loaded reads
      cases reads
      exact present
    · exact running
  · exact running

/-- `complete_idempotency` up to its statement. -/
theorem Keeps.completeStep
    (owns : request.place.owns = true)
    (intakeId : String)
    (response : Response)
    (now : Int) :
    Keeps config index (request.completeStep config.shared intakeId response now).1
      (request.completeStep config.shared intakeId response now).2 := by
  unfold Request.completeStep
  split
  next row present =>
    refine running.goes owns rfl ?_
    intro loaded reads
    cases reads
    exact present
  · exact running.finishes

/-- The record that a call has read is the one that its statement meets. -/
theorem Keeps.filter_loaded
    (reads : request.place.loaded = some loaded)
    (met : config.shared.record.filter (fun row => row.id = loaded.id) = some row) :
    row = loaded := by
  rw [running.own.loaded loaded reads, Option.filter_eq_some_iff] at met
  exact (Option.some.inj met.1).symm

/-- The statement of a call. -/
theorem Keeps.writeStep
    {id : Nat}
    (stepped : request.writeStep index config.shared id = some (ledger, next)) :
    Keeps config index ledger next := by
  unfold Request.writeStep at stepped
  split at stepped
  next began now place =>
    obtain ⟨past, unanswered⟩ := running.own.inserts began (by rw [place]; rfl)
    split at stepped
    next absent =>
      cases stepped
      refine running.claims ?_ ?_ began rfl
      · intro other otherRequest different present
        have relies := (running.others other otherRequest different present).1
        cases holds : otherRequest.place.holds with
        | false => rfl
        | true =>
          obtain ⟨row, found, _⟩ := relies.open_ holds
          rw [absent] at found
          cases found
      · intro row found
        rw [absent] at found
        cases found
    · cases stepped
      refine running.told (by decide) ?_ (by simp)
      intro other otherBegan response before answered late
      have := unanswered other otherBegan response before answered
      omega
  next began loaded now place =>
    have holds : request.place.holds = true := by rw [place]; rfl
    split at stepped
    next row met =>
      have same := running.filter_loaded (by rw [place]; rfl) met
      subst same
      cases stepped
      refine running.claims (fun _ _ => running.free holds) ?_ began ?_
      · intro found isFound
        obtain ⟨open_, isOpen, unfinished⟩ := running.own.open_ holds
        rw [isFound, Option.some.injEq] at isOpen
        rw [isOpen]
        exact unfinished
      · rw [IdempotencyRecord.update_self row (row.reclaimed now) rfl]
        rfl
    · cases stepped
      exact running.finishes
  next loaded now place =>
    have owns : request.place.owns = true := by rw [place]; rfl
    split at stepped
    next row met =>
      have same := running.filter_loaded (by rw [place]; rfl) met
      subst same
      cases stepped
      refine running.refreshes owns ?_
      obtain ⟨open_, isOpen, unfinished⟩ := running.own.open_ (holds_of_owns owns)
      rw [running.own.loaded row (by rw [place]; rfl), Option.some.injEq] at isOpen
      rw [IdempotencyRecord.update_self row (row.refreshed now) rfl]
      rw [← isOpen] at unfinished
      exact unfinished
    · cases stepped
      refine running.goes owns rfl ?_
      intro _ reads
      cases reads
  next loaded intakeId response now place =>
    split at stepped
    · cases stepped
      exact running.ends (by rw [place]; rfl) _ (Or.inl rfl)
    · cases stepped
      exact running.finishes
  next loaded place =>
    split at stepped
    · cases stepped
      exact running.ends (by rw [place]; rfl) _ (Or.inr rfl)
    · cases stepped
      exact running.finishes
  · cases stepped

omit running in
theorem Keeps.of_eq
    (kept : Keeps config index result.1 result.2)
    (equal : some result = some (ledger, next)) : Keeps config index ledger next := by
  cases equal
  exact kept

/-- Every step of a request that leaves no other claim behind. -/
theorem Keeps.step
    (present : config.threads[index]? = some request)
    (alone : exclusive config (.act index choice) = true)
    (stepped : request.step index config.shared choice = some (ledger, next)) :
    Keeps config index ledger next := by
  cases choice with
  | stop =>
    cases stepped
    exact running.finishes
  | write id => exact running.writeStep stepped
  | clock now =>
    simp only [Request.step] at stepped
    split at stepped
    next place =>
      refine (running.beginStep now ?_).of_eq stepped
      intro loaded read other otherRequest different otherPresent
      simp only [exclusive, present, place, read] at alone
      have member : otherRequest ∈ config.threads.eraseIdx index :=
        List.mem_eraseIdx_iff_getElem?.mpr ⟨other, different, otherPresent⟩
      simpa using List.all_eq_true.mp alone otherRequest member
    next place => exact (running.refreshStep (by rw [place]; rfl) now).of_eq stepped
    · cases stepped
  | source free =>
    simp only [Request.step] at stepped
    split at stepped
    next place =>
      have owns : request.place.owns = true := by rw [place]; rfl
      split at stepped
      · cases stepped
        refine running.goes owns rfl ?_
        intro _ reads
        cases reads
      · exact (running.abandonStep owns).of_eq stepped
    · cases stepped
  | received intakeId response now =>
    simp only [Request.step] at stepped
    split at stepped
    next place =>
      exact (running.completeStep (by rw [place]; rfl) intakeId response now).of_eq stepped
    · cases stepped
  | invalid =>
    simp only [Request.step] at stepped
    split at stepped
    next place => exact (running.abandonStep (by rw [place]; rfl)).of_eq stepped
    · cases stepped
  | silence =>
    simp only [Request.step] at stepped
    split at stepped
    next place =>
      cases stepped
      refine running.goes (by rw [place]; rfl) rfl ?_
      intro _ reads
      cases reads
    · cases stepped

end Steps

/-! ## Runs -/

theorem annotated_move_of_exclusive
    (config : Config Ledger Request)
    (move : Move Request Choice)
    (next : Config Ledger Request)
    (annotated : Program.Annotated Agrees At Apart config)
    (alone : exclusive config move = true)
    (moved : program.move config move = some next) :
    Program.Annotated Agrees At Apart next := by
  refine program.annotated_move_of_beside
    (fun config move => exclusive config move = true) (fun _ _ apart => apart.symm)
    ?_ ?_ config move next annotated alone moved
  · intro request entering
    have place : request.place = .begin := by simpa [program] using entering
    refine ⟨fun ledger index => ?_, fun other both => ?_⟩
    · exact at_of_idle (by rw [place]; rfl) (by rw [place]; rfl)
    · rw [place] at both
      cases both.1
  · intro config index choice request ledger request' running alone present stepped
    exact Keeps.step running present alone stepped

/-- When stale claims are taken over only after all other claims have ended, replay
is stable and owned. -/
theorem replays_of_exclusive
    (record : Option IdempotencyRecord)
    (moves : List (Move Request Choice))
    (final : Config Ledger Request)
    (admitted : Transition.Admits program.move
      (fun config move => exclusive config move = true) (begun record) moves)
    (ended : Transition.run program.move (begun record) moves = some final) :
    Replays final.shared.history := by
  have start : Program.Annotated Agrees At Apart (begun record) :=
    Program.annotated_of_idle At Apart ⟨replays_nil, fun _ _ _ _ _ found => by simp at found⟩
  exact (Transition.invariant_of_admits program.move
    (Program.Annotated Agrees At Apart) annotated_move_of_exclusive start admitted
    ended).common.replays

/-! ## A claim that is taken over -/

/-- A request that enters. -/
def enters : Move Request Choice := .spawn ⟨"h", 5, .begin⟩

/-- The first claim is taken, goes stale and is taken over.  Its owner completes the
record all the same, the response is replayed, and the second owner overwrites it. -/
def takenOver : List (Move Request Choice) :=
  [enters, .act 0 (.clock 0), .act 0 (.write 1), .act 0 (.source true),
    enters, .act 1 (.clock 10), .act 1 (.write 0), .act 1 (.source true),
    .act 0 (.received "i" [("intakeId", "i")] 11), .act 0 (.write 0), enters, .act 2 (.clock 12),
    .act 1 (.received "j" [("intakeId", "j")] 13), .act 1 (.write 0), enters, .act 3 (.clock 14)]

/-- The history of that run. -/
def takenOverHistory : List Event :=
  [.returned 3 "h" 5 (.completed (some [("intakeId", "j")])), .completed 1,
    .returned 2 "h" 3 (.completed (some [("intakeId", "i")])), .completed 0,
    .returned 1 "h" 1 .claimed, .returned 0 "h" 0 .claimed]

theorem not_replayLaw : ¬ReplayLaw := by
  intro law
  have ended : (Transition.run program.move (begun none) takenOver).map
      (fun final => final.shared.history) = some takenOverHistory := by
    decide
  obtain ⟨final, run, history⟩ := Option.map_eq_some_iff.mp ended
  have replays := law none takenOver final run
  rw [history] at replays
  have equal := replays.stable 3 "h" 5 (.completed (some [("intakeId", "j")]))
    takenOverHistory.tail 2 3 (some [("intakeId", "i")]) (takenOverHistory.drop 3)
    (List.suffix_refl _) ⟨[.completed 1], rfl⟩ (by decide)
  revert equal
  decide

/-- A request that crashed holds its claim no longer; the one that takes it over
completes the record. -/
def crashed : List (Move Request Choice) :=
  [enters, .act 0 (.clock 0), .act 0 (.write 1), .act 0 .stop,
    enters, .act 1 (.clock 10), .act 1 (.write 0), .act 1 (.source true),
    .act 1 (.clock 11), .act 1 (.write 0),
    .act 1 (.received "j" [("intakeId", "j")] 13), .act 1 (.write 0), enters, .act 2 (.clock 14)]

theorem replays_of_exclusive_crashed :
    ∃ final, Transition.run program.move (begun none) crashed = some final ∧
      Replays final.shared.history ∧
      final.shared.history =
        [.returned 2 "h" 3 (.completed (some [("intakeId", "j")])), .completed 1,
          .returned 1 "h" 1 .claimed, .returned 0 "h" 0 .claimed] := by
  refine (Option.map_eq_some_iff.mp ?_).imp fun final seen =>
    ⟨seen.1, replays_of_exclusive none crashed final (by decide) seen.1, seen.2⟩
  decide

end Api
end Sutradhara
