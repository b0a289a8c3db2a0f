import Mathlib.Data.List.Cycle
import Sutradhara.Archive.Claims

/-!
# Owners of flush claims

A reaper reads the tokens of all stuck bundles, probes them one after the other,
and then reopens a bundle as long as it is still being flushed.  The update does
not ask for the token it has read, so it may end a claim that was taken since.
A seal asks for the token of its claim, but a token is only a host name and a
process id, which a later claim may carry again.

Every statement takes effect at once here; a transaction that is rolled back is
one whose statements are not in the run.  A ledger beside the catalog numbers the
claims and remembers what each reap and each seal met.
-/

namespace Sutradhara
namespace Archive

open List hiding next after

open Foundation
open Foundation.Interleaving
open Foundation.Transaction

/-! ## The ledger -/

/-- A claim that was taken. -/
structure Claim where
  number : Nat
  bundleId : String
  token : String
  deriving DecidableEq

/-- A reap that met a row: the claim whose token the pass had read, and the claim
that it ended. -/
structure Reaped where
  bundleId : String
  examined : Option Claim
  ended : Option Claim
  deriving DecidableEq

/-- A seal that met a row: the claim of the flush that sealed, and the claim that
was taken last. -/
structure Sealed where
  bundleId : String
  holder : Option Claim
  latest : Option Claim
  deriving DecidableEq

/-- All claims, the newest first, and all reaps and seals. -/
structure Ledger where
  claims : List Claim
  reaps : List Reaped
  seals : List Sealed

/-- The claim of a bundle that was taken last.  A claim from before the run has
no number. -/
def Ledger.latest (ledger : Ledger) (bundleId : String) : Option Claim :=
  ledger.claims.find? fun claim => claim.bundleId = bundleId

/-- The catalog and its ledger. -/
structure Owned where
  store : Store
  ledger : Ledger

/-- A session, the claim it has taken, and the bundles of a reaper pass that it
has not treated yet, with the claims whose tokens it has read. -/
structure Watched where
  session : Session
  claim : Option Claim
  listed : List (String × Option Claim)

/-- What a statement that leads to the next place adds to the ledger and to the
memory of its session. -/
def account (owned : Owned) (watched : Watched) (next : Session) : Ledger × Watched :=
  match watched.session, next with
  | .flush request (.claim _), .flush _ place =>
    if place.claimed then
      let claim := ⟨owned.ledger.claims.length, request.bundleId, request.token⟩
      ({ owned.ledger with claims := claim :: owned.ledger.claims },
        { watched with session := next, claim := some claim })
    else (owned.ledger, { watched with session := next })
  | .flush request (.close _), .flush _ .returned =>
    ({ owned.ledger with
        seals := owned.ledger.seals ++ [⟨request.bundleId, watched.claim,
          owned.ledger.latest request.bundleId⟩] },
      { watched with session := next })
  | .reap .select, .reap (.examine stuck) =>
    (owned.ledger, { watched with
      session := next
      listed := stuck.map fun entry => (entry.1, owned.ledger.latest entry.1) })
  | .reap (.examine _), .reap (.examine _) =>
    (owned.ledger, { watched with session := next, listed := watched.listed.tail })
  | .reap (.reap bundleId _), _ =>
    (if (owned.store.reapStuckFlushing bundleId).isSome then
      { owned.ledger with
        reaps := owned.ledger.reaps ++ [⟨bundleId,
          watched.listed.head?.bind Prod.snd,
          owned.ledger.latest bundleId⟩] }
    else
      owned.ledger,
      { watched with session := next, listed := watched.listed.tail })
  | _, _ => (owned.ledger, { watched with session := next })

/-- The sessions with their ledger, one statement at a time. -/
def ownedProgram (sha256Hex : String → String) : Program Owned Watched Answer where
  initial watched := entering watched.session && watched.claim.isNone && watched.listed.isEmpty
  step _ owned watched answer :=
    (statement sha256Hex owned.store watched.session answer).map fun
      | .reads next =>
        (⟨owned.store, (account owned watched next).1⟩, (account owned watched next).2)
      | .writes store next =>
        (⟨store, (account owned watched next).1⟩, (account owned watched next).2)

/-- A catalog whose ledger begins. -/
def begun (store : Store) : Config Owned Watched := ⟨⟨store, [], [], []⟩, []⟩

/-- Every reap ended the claim that its pass had examined, and every seal was
made by the holder of the latest claim. -/
structure OneOwner (ledger : Ledger) : Prop where
  reaps : ∀ reap ∈ ledger.reaps, reap.ended = reap.examined
  seals : ∀ sealing ∈ ledger.seals, sealing.latest.isSome = true ∧ sealing.latest = sealing.holder

/-- Flush claims have one owner in every run. -/
def OneOwnerLaw : Prop :=
  ∀ (sha256Hex : String → String) (store : Store)
    (steps : List (Move Watched Answer)) (final : Config Owned Watched),
    Transition.run (ownedProgram sha256Hex).move (begun store) steps =
      some final →
      OneOwner final.shared.ledger

/-! ## Tokens in the catalog -/

/-- The token of a bundle that is being flushed. -/
def Store.tokenOf (store : Store) (bundleId : String) : Option (Option String) :=
  (store.bundles.find? bundleId).bind fun bundle =>
    if bundle.status = .flushing then some bundle.claimedBy else none

/-- No bundle has come under a token that it did not have. -/
def NoNewToken (store next : Store) : Prop :=
  ∀ bundleId token, next.tokenOf bundleId = some token → store.tokenOf bundleId = some token

theorem NoNewToken.refl (store : Store) : NoNewToken store store := fun _ _ found => found

theorem noNewToken_of_bundles (same : next.bundles = store.bundles) : NoNewToken store next := by
  intro bundleId token found
  rwa [Store.tokenOf, same] at found

variable {store : Store} {change : Rewrite Bundle.id}

theorem tokenOf_updateBundle_self :
    (store.updateBundle bundleId change).tokenOf bundleId =
      ((store.bundles.find? bundleId).map change.apply).bind fun bundle =>
        if bundle.status = .flushing then some bundle.claimedBy else none := by
  rw [Store.tokenOf, Store.updateBundle, Table.find?_update_self]

theorem tokenOf_updateBundle_of_ne (different : other ≠ bundleId) :
    (store.updateBundle bundleId change).tokenOf other = store.tokenOf other := by
  rw [Store.tokenOf, Store.updateBundle, Table.find?_update_of_ne _ _ different, Store.tokenOf]

/-- An update that begins no flush and rewrites no token gives none. -/
theorem noNewToken_updateBundle
    (kept : ∀ bundle, (change.apply bundle).status = .flushing → bundle.status = .flushing ∧
        (change.apply bundle).claimedBy = bundle.claimedBy) :
    NoNewToken store (store.updateBundle bundleId change) := by
  intro other token found
  by_cases same : other = bundleId
  · subst same
    rw [tokenOf_updateBundle_self, Option.bind_eq_some_iff] at found
    obtain ⟨changed, isChanged, claimed⟩ := found
    obtain ⟨bundle, present, rfl⟩ := Option.map_eq_some_iff.mp isChanged
    split at claimed
    next flushing =>
      obtain ⟨before, sameToken⟩ := kept bundle flushing
      rw [Store.tokenOf, present, Option.bind_some, if_pos before, ← sameToken]
      exact claimed
    · cases claimed
  · rwa [tokenOf_updateBundle_of_ne same] at found

theorem updateBundleWhere_eq_some
    {store next : Store}
    {guard : Bundle → Bool}
    (updated : store.updateBundleWhere bundleId guard change = some next) :
    ∃ bundle, store.bundles.find? bundleId = some bundle ∧
      guard bundle = true ∧ next = store.updateBundle bundleId change := by
  unfold Store.updateBundleWhere at updated
  split at updated
  · cases updated
  next bundle present =>
    split at updated
    next passed =>
      cases updated
      exact ⟨bundle, present, passed, rfl⟩
    · cases updated

theorem noNewToken_updateBundleWhere
    {guard : Bundle → Bool}
    (kept : ∀ bundle, (change.apply bundle).status = .flushing → bundle.status = .flushing ∧
        (change.apply bundle).claimedBy = bundle.claimedBy)
    (updated : store.updateBundleWhere bundleId guard change = some next) :
    NoNewToken store next := by
  obtain ⟨_, _, _, rfl⟩ := updateBundleWhere_eq_some updated
  exact noNewToken_updateBundle kept

theorem noNewToken_insertBundle
    (idle : bundle.status ≠ .flushing)
    (inserted : store.insertBundle bundle = some next) : NoNewToken store next := by
  intro other token found
  unfold Store.insertBundle at inserted
  split at inserted
  next absent =>
    cases inserted
    by_cases same : other = bundle.id
    · subst same
      simp [Store.tokenOf, Table.find?_insert_self, idle] at found
    · simpa only [Store.tokenOf, Table.find?_insert_of_ne _ _ absent same] using found
  · cases inserted

/-! ## Tokens after a statement -/

theorem addBundleMember_noNewToken
    (wrote : addBundleMember sha256Hex request store place answer = some (.writes next place')) :
    NoNewToken store next := by
  unfold addBundleMember at wrote
  split at wrote
  · split at wrote <;> cases wrote
  · split at wrote <;> cases wrote
  · cases wrote
  · split at wrote
    · cases wrote
    · split at wrote <;> cases wrote
  · split at wrote
    · cases wrote
    · cases wrote
      exact noNewToken_of_bundles rfl
  · simp only at wrote
    split at wrote
    · obtain ⟨inserted, found, equal⟩ := Option.map_eq_some_iff.mp wrote
      cases equal
      unfold Store.insertMember at found
      split at found
      · split at found
        · cases found
        · cases found
          exact noNewToken_of_bundles rfl
      · cases found
    · split at wrote
      · cases wrote
        exact .refl store
      · cases wrote
        exact .refl store
  · cases wrote
    exact noNewToken_updateBundle fun _ flushing => ⟨flushing, rfl⟩
  · cases wrote

theorem reapStuckFlushing_noNewToken
    (wrote : reapStuckFlushing store place answer = some (.writes next place')) :
    NoNewToken store next := by
  unfold reapStuckFlushing at wrote
  split at wrote
  · cases wrote
  · cases wrote
  · split at wrote <;> cases wrote
  · rcases guarded_eq_writes wrote with ⟨reaped, _⟩ | ⟨rfl, _⟩
    · exact noNewToken_updateBundleWhere (fun _ flushing => by cases flushing) reaped
    · exact .refl _
  · cases wrote

theorem voidSealOrphans_noNewToken
    (wrote : voidSealOrphans store place answer = some (.writes next place')) :
    NoNewToken store next := by
  unfold voidSealOrphans at wrote
  split at wrote
  · cases wrote
  · cases wrote
  · rcases guarded_eq_writes wrote with ⟨voided, _⟩ | ⟨rfl, _⟩
    · exact noNewToken_updateBundleWhere (fun _ flushing => by cases flushing) voided
    · exact .refl _
  · cases wrote

/-- A claim puts its own token on its own bundle. -/
structure TakesClaim (request : Flush) (store next : Store) : Prop where
  token : next.tokenOf request.bundleId = some (some request.token)
  others : ∀ bundleId, bundleId ≠ request.bundleId →
    next.tokenOf bundleId = store.tokenOf bundleId

theorem takesClaim_of_claimBundleForFlush
    (claimed : store.claimBundleForFlush request.bundleId request.token now = some next) :
    TakesClaim request store next := by
  obtain ⟨bundle, present, _, rfl⟩ := updateBundleWhere_eq_some claimed
  refine ⟨?_, fun bundleId different => tokenOf_updateBundle_of_ne different⟩
  rw [tokenOf_updateBundle_self, present]
  rfl

/-- A flush takes a new token only by its claim. -/
theorem flushBundle_noNewToken
    (wrote : flushBundle request store place answer = some (.writes next place')) :
    NoNewToken store next ∨ ∃ bundle, place = .claim bundle ∧ place'.claimed = true ∧
        TakesClaim request store next := by
  unfold flushBundle at wrote
  split at wrote
  · obtain ⟨bundle, _, equal⟩ := Option.map_eq_some_iff.mp wrote
    split at equal
    · cases equal
    · split at equal <;> cases equal
  · cases wrote
  next bundle now =>
    rcases guarded_eq_writes wrote with ⟨claimed, rfl⟩ | ⟨rfl, rfl⟩
    · refine Or.inr ⟨bundle, rfl, ?_, takesClaim_of_claimBundleForFlush claimed⟩
      split <;> rfl
    · exact Or.inl (.refl _)
  · cases wrote
    exact Or.inl (noNewToken_updateBundle fun _ flushing => ⟨flushing, rfl⟩)
  · simp only at wrote
    split at wrote <;> cases wrote
  · cases wrote
  · obtain ⟨member, _, equal⟩ := Option.map_eq_some_iff.mp wrote
    cases equal
  · cases wrote
  next bundle rounds member id now =>
    obtain ⟨minted, inserted, equal⟩ := Option.map_eq_some_iff.mp wrote
    cases equal
    exact Or.inl (noNewToken_insertBundle (by simp [quarantineBundle]) inserted)
  · split at wrote
    · cases wrote
      exact Or.inl (noNewToken_of_bundles rfl)
    · cases wrote
      exact Or.inl (.refl _)
  · cases wrote
    exact Or.inl (noNewToken_updateBundle fun _ flushing => ⟨flushing, rfl⟩)
  · cases wrote
    exact Or.inl (noNewToken_updateBundle fun _ flushing => ⟨flushing, rfl⟩)
  · rcases guarded_eq_writes wrote with ⟨closed, rfl⟩ | ⟨rfl, rfl⟩
    · obtain ⟨updated, found, rfl⟩ := Option.map_eq_some_iff.mp closed
      refine Or.inl fun bundleId token present => ?_
      exact noNewToken_updateBundleWhere (fun _ flushing => by cases flushing)
        found bundleId token present
    · exact Or.inl (.refl _)
  · cases wrote

/-- Only the claim of a flush puts a new token on a bundle. -/
theorem statement_noNewToken
    (wrote : statement sha256Hex store session answer = some (.writes store' next)) :
    NoNewToken store store' ∨ ∃ request bundle place, session = .flush request (.claim bundle) ∧
        next = .flush request place ∧ place.claimed = true ∧
        TakesClaim request store store' := by
  cases session with
  | append request place =>
    obtain ⟨place', appended, rfl⟩ := within_eq_writes wrote
    exact Or.inl (addBundleMember_noNewToken appended)
  | flush request place =>
    obtain ⟨place', flushed, rfl⟩ := within_eq_writes wrote
    rcases flushBundle_noNewToken flushed with kept | ⟨bundle, rfl, claimed, takes⟩
    · exact Or.inl kept
    · exact Or.inr ⟨request, bundle, place', rfl, rfl, claimed, takes⟩
  | reap place =>
    obtain ⟨place', reaped, rfl⟩ := within_eq_writes wrote
    exact Or.inl (reapStuckFlushing_noNewToken reaped)
  | void place =>
    obtain ⟨place', voided, rfl⟩ := within_eq_writes wrote
    exact Or.inl (voidSealOrphans_noNewToken voided)
  | stopped => cases wrote

/-! ## What the sessions remember -/

/-- The bundles that a reaper pass has not treated yet. -/
def Session.pending : Session → List String
  | .reap (.examine stuck) => stuck.map Prod.fst
  | .reap (.reap bundleId stuck) => bundleId :: stuck.map Prod.fst
  | _ => []

/-- The ledger has one owner per claim, and a bundle that is being flushed
carries the token of its latest claim. -/
structure Accounts (owned : Owned) : Prop where
  owner : OneOwner owned.ledger
  tokens : ∀ bundleId claim token,
    owned.ledger.latest bundleId = some claim →
    owned.store.tokenOf bundleId = some token → token = some claim.token

/-- What a session remembers is still so: the bundles it lists are under the
claims it has read, and its own claim is in the ledger. -/
structure Remembers (owned : Owned) (watched : Watched) : Prop where
  pending : watched.listed.map Prod.fst = watched.session.pending
  listed : ∀ entry ∈ watched.listed, owned.ledger.latest entry.1 = entry.2
  claim : ∀ request place, watched.session = .flush request place →
    place.claimed = true →
      ∃ claim ∈ owned.ledger.claims, watched.claim = some claim ∧ claim.bundleId = request.bundleId

theorem latest_isSome_of_mem {ledger : Ledger} (taken : claim ∈ ledger.claims) :
    (ledger.latest claim.bundleId).isSome = true := by
  rw [Ledger.latest, find?_isSome]
  exact ⟨claim, taken, by simp⟩

variable {next : Session}

@[simp] theorem session_account :
    (account owned watched next).2.session = next := by
  unfold account
  split
  · split_ifs <;> rfl
  all_goals rfl

/-- The ledger gains at most the claim of a flush. -/
theorem claims_account :
    (account owned watched next).1.claims = owned.ledger.claims ∨
      ∃ request bundle, watched.session = .flush request (.claim bundle) ∧
        (∃ request' place, next = .flush request' place ∧ place.claimed = true) ∧
        (account owned watched next).1.claims =
          ⟨owned.ledger.claims.length, request.bundleId, request.token⟩ :: owned.ledger.claims := by
  unfold account
  split
  next request bundle request' place session =>
    split_ifs with claimed
    · exact Or.inr ⟨request, bundle, session, ⟨request', place, rfl, claimed⟩, rfl⟩
    · exact Or.inl rfl
  · exact Or.inl rfl
  · exact Or.inl rfl
  · exact Or.inl rfl
  · split_ifs <;> exact Or.inl rfl
  · exact Or.inl rfl

theorem mem_claims_account (taken : claim ∈ owned.ledger.claims) :
    claim ∈ (account owned watched next).1.claims := by
  rcases claims_account with same | ⟨_, _, _, _, grown⟩
  · rw [same]
    exact taken
  · rw [grown]
    exact mem_cons_of_mem _ taken

/-- The latest claim of a bundle changes only when the bundle is claimed. -/
theorem latest_account
    (elsewhere : ∀ request bundle, watched.session = .flush request (.claim bundle) →
        request.bundleId ≠ bundleId) :
    (account owned watched next).1.latest bundleId = owned.ledger.latest bundleId := by
  rcases claims_account with same | ⟨request, bundle, session, _, grown⟩
  · rw [Ledger.latest, same, Ledger.latest]
  · rw [Ledger.latest, grown, find?_cons_of_neg
      (by simpa using elsewhere request bundle session), Ledger.latest]

/-- What a session remembers survives a step of another that claims none of the
bundles it lists. -/
theorem Remembers.account
    (remembers : Remembers owned other)
    (elsewhere : ∀ request bundle, watched.session = .flush request (.claim bundle) →
        ∀ entry ∈ other.listed, entry.1 ≠ request.bundleId)
    (next : Session) : Remembers ⟨store, (account owned watched next).1⟩ other where
  pending := remembers.pending
  listed entry member := by
    rw [latest_account fun request bundle session same =>
      elsewhere request bundle session entry member same.symm]
    exact remembers.listed entry member
  claim request place session claimed := by
    obtain ⟨claim, taken, own⟩ := remembers.claim request place session claimed
    exact ⟨claim, mem_claims_account taken, own⟩

/-! ## Steps -/

/-- A claim is taken only when no reaper pass still lists the bundle, and a seal
is not tried under a token that a later claim of the bundle carries again. -/
def singular (config : Config Owned Watched) : Move Watched Answer → Bool
  | .act index _ =>
    match config.threads[index]? with
    | some ⟨.flush request (.claim _), _, _⟩ =>
      config.threads.all fun other => other.listed.all fun entry => entry.1 ≠ request.bundleId
    | some ⟨.flush request (.close _), own, _⟩ =>
      (config.shared.ledger.latest request.bundleId).all fun latest =>
        some latest = own || latest.token ≠ request.token
    | _ => true
  | _ => true

/-- A seal that meets a row meets the token of its flush. -/
theorem tokenOf_of_seal
    {sha256Hex : String → String}
    (issued : statement sha256Hex store (.flush request (.close rows)) answer = some effect)
    (returned : effect = .reads (.flush request' .returned) ∨
      ∃ next, effect = .writes next (.flush request' .returned)) :
    store.tokenOf request.bundleId = some (some request.token) := by
  rcases returned with rfl | ⟨next, rfl⟩
  · obtain ⟨place, flushed, _⟩ := within_eq_reads issued
    cases answer with
    | clock now => exact absurd flushed guarded_ne_reads
    | _ => cases flushed
  · obtain ⟨place, flushed, equal⟩ := within_eq_writes issued
    cases equal
    cases answer with
    | clock now =>
      rcases guarded_eq_writes flushed with ⟨closed, _⟩ | ⟨_, impossible⟩
      · obtain ⟨updated, found, _⟩ := Option.map_eq_some_iff.mp closed
        obtain ⟨bundle, present, passed, _⟩ := updateBundleWhere_eq_some found
        rw [decide_eq_true_eq] at passed
        rw [Store.tokenOf, present, Option.bind_some, if_pos passed.1, passed.2]
      · cases impossible
    | _ => cases flushed

/-- The place that an effect leads to. -/
def nextOf : Effect Store Session → Session
  | .reads next => next
  | .writes _ next => next

theorem oneOwner_account
    {effect : Effect Store Session}
    (accounts : Accounts owned)
    (remembers : Remembers owned watched)
    (issued : statement sha256Hex owned.store watched.session answer = some effect)
    (careful : ∀ request rows, watched.session = .flush request (.close rows) →
        ∀ latest, owned.ledger.latest request.bundleId = some latest →
          some latest = watched.claim ∨ latest.token ≠ request.token) :
    OneOwner (account owned watched (nextOf effect)).1 := by
  unfold account
  split
  · split_ifs
    · exact ⟨accounts.owner.reaps, accounts.owner.seals⟩
    · exact accounts.owner
  next request rows request' session returned =>
    refine ⟨accounts.owner.reaps, ?_⟩
    intro sealing member
    rcases mem_append.mp member with before | here
    · exact accounts.owner.seals sealing before
    · rw [mem_singleton] at here
      subst here
      obtain ⟨claim, taken, own, bundle⟩ := remembers.claim request (.close rows) session rfl
      have known := latest_isSome_of_mem taken
      rw [bundle] at known
      obtain ⟨latest, found⟩ := Option.isSome_iff_exists.mp known
      refine ⟨known, ?_⟩
      rw [found]
      rcases careful request rows session latest found with same | other
      · exact same
      · rw [session] at issued
        have token := tokenOf_of_seal issued (by
          cases effect with
          | reads next => exact Or.inl (congrArg _ returned)
          | writes store next => exact Or.inr ⟨store, congrArg _ returned⟩)
        have equal := accounts.tokens _ latest _ found token
        exact absurd (Option.some.inj equal).symm other
  · exact accounts.owner
  · exact accounts.owner
  next bundleId stuck session =>
    split_ifs
    · refine ⟨?_, accounts.owner.seals⟩
      intro reap member
      rcases mem_append.mp member with before | here
      · exact accounts.owner.reaps reap before
      · rw [mem_singleton] at here
        subst here
        have pending := remembers.pending
        rw [session] at pending
        obtain ⟨entry, rest, listed, first, _⟩ := map_eq_cons_iff.mp pending
        have known := remembers.listed entry (by rw [listed]; simp)
        rw [first] at known
        simp only [listed]
        exact known
    · exact accounts.owner
  · exact accounts.owner

/-- A claim that succeeds writes its token. -/
theorem takesClaim_of_claimed
    (issued : statement sha256Hex store (.flush request (.claim bundle)) answer = some effect)
    (goes : nextOf effect = .flush request' place)
    (claimed : place.claimed = true) :
    ∃ next, effect = .writes next (.flush request' place) ∧ TakesClaim request store next := by
  cases effect with
  | reads next =>
    obtain ⟨place', flushed, _⟩ := within_eq_reads issued
    cases answer with
    | clock now => exact absurd flushed guarded_ne_reads
    | _ => cases flushed
  | writes next session =>
    cases goes
    refine ⟨next, rfl, ?_⟩
    obtain ⟨place', flushed, equal⟩ := within_eq_writes issued
    cases equal
    cases answer with
    | clock now =>
      rcases guarded_eq_writes flushed with ⟨taken, _⟩ | ⟨_, rfl⟩
      · exact takesClaim_of_claimBundleForFlush taken
      · cases claimed
    | _ => cases flushed

/-- The catalog after an effect. -/
def storeOf (store : Store) : Effect Store Session → Store
  | .reads _ => store
  | .writes next _ => next

/-- Every statement leaves the tokens of the catalog with the latest claims of
the ledger. -/
theorem tokens_account
    (accounts : Accounts owned)
    (issued : statement sha256Hex owned.store watched.session answer = some effect)
    (latest : (account owned watched (nextOf effect)).1.latest bundleId = some claim)
    (flushing : (storeOf owned.store effect).tokenOf bundleId = some token) :
    token = some claim.token := by
  rcases claims_account with
    same | ⟨request, bundle, session, ⟨request', place, goes, claimed⟩, grown⟩
  · have known : owned.ledger.latest bundleId = some claim := by
      rw [Ledger.latest, same] at latest
      exact latest
    cases effect with
    | reads next => exact accounts.tokens _ _ _ known flushing
    | writes store next =>
      rcases statement_noNewToken issued with
        kept | ⟨request, bundle, place, session, rfl, claimed, _⟩
      · exact accounts.tokens _ _ _ known (kept _ _ flushing)
      · simp [account, nextOf, session, claimed] at same
  · rw [session] at issued
    obtain ⟨next, rfl, takes⟩ := takesClaim_of_claimed issued goes claimed
    rw [Ledger.latest, grown] at latest
    by_cases own : request.bundleId = bundleId
    · rw [find?_cons_of_pos (by simpa using own)] at latest
      cases latest
      rw [storeOf, ← own, takes.token] at flushing
      exact (Option.some.inj flushing).symm
    · rw [find?_cons_of_neg (by simpa using own)] at latest
      rw [storeOf, takes.others bundleId (Ne.symm own)] at flushing
      exact accounts.tokens _ _ _ latest flushing

/-- A flush has its claim only from its claim statement on. -/
theorem claimed_of_flushBundle
    (flushed : flushBundle request store place answer = some (.reads place') ∨
      ∃ next, flushBundle request store place answer = some (.writes next place'))
    (claimed : place'.claimed = true) :
    place.claimed = true ∨ ∃ bundle, place = .claim bundle := by
  cases place with
  | read =>
    -- the first read goes on to the claim or raises
    exfalso
    rcases flushed with read | ⟨next, wrote⟩
    · cases answer with
      | nothing =>
        obtain ⟨bundle, _, equal⟩ := Option.map_eq_some_iff.mp read
        split_ifs at equal <;> cases equal <;> cases claimed
      | failed =>
        cases read
        cases claimed
      | _ => cases read
    · cases answer with
      | nothing =>
        obtain ⟨bundle, _, equal⟩ := Option.map_eq_some_iff.mp wrote
        split_ifs at equal
      | _ => cases wrote
  | claim bundle => exact Or.inr ⟨bundle, rfl⟩
  | returned | raised failure =>
    exfalso
    rcases flushed with read | ⟨next, wrote⟩
    · cases answer <;> cases read
    · cases answer <;> cases wrote
  | _ => exact Or.inl rfl

/-- The effect of a flush statement, without its session. -/
theorem flushBundle_of_statement
    (issued : statement sha256Hex store (.flush request place) answer = some effect) :
    ∃ place', nextOf effect = .flush request place' ∧
      (flushBundle request store place answer = some (.reads place') ∨
        ∃ next, flushBundle request store place answer = some (.writes next place')) := by
  cases effect with
  | reads next =>
    obtain ⟨place', flushed, rfl⟩ := within_eq_reads issued
    exact ⟨place', rfl, Or.inl flushed⟩
  | writes store' next =>
    obtain ⟨place', flushed, rfl⟩ := within_eq_writes issued
    exact ⟨place', rfl, Or.inr ⟨store', flushed⟩⟩

/-- A flush goes on with its claim. -/
theorem remembers_flush
    (remembers : Remembers owned watched)
    (session : watched.session = .flush request place)
    (issued : statement sha256Hex owned.store watched.session answer = some effect) :
    Remembers ⟨storeOf owned.store effect, (account owned watched (nextOf effect)).1⟩
      (account owned watched (nextOf effect)).2 := by
  have unlisted : watched.listed = [] := by
    have pending := remembers.pending
    rw [session] at pending
    exact map_eq_nil_iff.mp pending
  rw [session] at issued
  obtain ⟨place', goes, flushed⟩ := flushBundle_of_statement issued
  have still : (account owned watched (nextOf effect)).2.listed = [] := by
    rw [goes]
    unfold account
    rw [session]
    split
    · split_ifs <;> exact unlisted
    all_goals first | exact unlisted | (next impossible => cases impossible)
  refine ⟨?_, ?_, ?_⟩
  · rw [still, session_account, goes]
    rfl
  · intro entry member
    rw [still] at member
    cases member
  · intro request' later equal claimed
    rw [session_account, goes] at equal
    cases equal
    rcases claimed_of_flushBundle flushed claimed with already | ⟨bundle, rfl⟩
    · obtain ⟨claim, taken, own, bundle⟩ :=
        remembers.claim request place session already
      refine ⟨claim, mem_claims_account taken, ?_, bundle⟩
      unfold account
      rw [session]
      split
      next impossible _ =>
        cases impossible
        cases already
      all_goals exact own
    · refine ⟨⟨owned.ledger.claims.length, request.bundleId, request.token⟩, ?_, ?_, rfl⟩
      · simp [account, session, goes, claimed]
      · simp [account, session, goes, claimed]

/-- The places that a reaper statement leads to. -/
theorem reaping_of_statement
    (issued : statement sha256Hex store (.reap place) answer = some effect) :
    (place = .select ∧ ∃ stuck, nextOf effect = .reap (.examine stuck)) ∨
      (place = .examine [] ∧ nextOf effect = .reap .returned) ∨
      (∃ bundleId token stuck, place = .examine ((bundleId, token) :: stuck) ∧
        (nextOf effect = .reap (.examine stuck) ∨ nextOf effect = .reap (.reap bundleId stuck))) ∨
      ∃ bundleId stuck, place = .reap bundleId stuck ∧ nextOf effect = .reap (.examine stuck) := by
  obtain ⟨reaping, found, rfl⟩ := Option.map_eq_some_iff.mp issued
  unfold reapStuckFlushing at found
  split at found
  · cases found
    exact Or.inl ⟨rfl, _, rfl⟩
  · cases found
    exact Or.inr (Or.inl ⟨rfl, rfl⟩)
  next bundleId token stuck alive =>
    refine Or.inr (Or.inr (Or.inl ⟨bundleId, token, stuck, rfl, ?_⟩))
    split at found
    · cases found
      exact Or.inl rfl
    · cases found
      exact Or.inr rfl
  next bundleId stuck =>
    refine Or.inr (Or.inr (Or.inr ⟨bundleId, stuck, rfl, ?_⟩))
    unfold guarded at found
    split at found <;> cases found <;> rfl
  · cases found

/-- A reaper pass remembers the claims it has read until it has treated their
bundles. -/
theorem remembers_reap
    (remembers : Remembers owned watched)
    (session : watched.session = .reap place)
    (issued : statement sha256Hex owned.store watched.session answer = some effect) :
    Remembers ⟨storeOf owned.store effect, (account owned watched (nextOf effect)).1⟩
      (account owned watched (nextOf effect)).2 := by
  have unchanged : ∀ bundleId, (account owned watched (nextOf effect)).1.latest bundleId =
        owned.ledger.latest bundleId := by
    intro bundleId
    apply latest_account
    intro request bundle flushing
    rw [session] at flushing
    cases flushing
  have pending := remembers.pending
  rw [session] at pending issued
  suffices memory : (account owned watched (nextOf effect)).2.listed.map Prod.fst =
        (nextOf effect).pending ∧
      ∀ entry ∈ (account owned watched (nextOf effect)).2.listed,
        owned.ledger.latest entry.1 = entry.2 by
    refine ⟨by rw [memory.1, session_account], ?_, ?_⟩
    · intro entry member
      exact (unchanged entry.1).trans (memory.2 entry member)
    · intro request later equal _
      rw [session_account] at equal
      rcases reaping_of_statement issued with ⟨_, _, goes⟩ | ⟨_, goes⟩ |
        ⟨_, _, _, _, goes | goes⟩ | ⟨_, _, _, goes⟩ <;>
        · rw [goes] at equal
          cases equal
  have others : ∀ entry ∈ watched.listed.tail, owned.ledger.latest entry.1 = entry.2 :=
    fun entry member => remembers.listed entry (mem_of_mem_tail member)
  rcases reaping_of_statement issued with ⟨rfl, stuck, goes⟩ | ⟨rfl, goes⟩ |
    ⟨bundleId, token, stuck, rfl, goes | goes⟩ | ⟨bundleId, stuck, rfl, goes⟩
  · simp only [account, session, goes]
    refine ⟨by simp [Session.pending], ?_⟩
    intro entry member
    obtain ⟨found, _, rfl⟩ := mem_map.mp member
    rfl
  · have none : watched.listed = [] := map_eq_nil_iff.mp pending
    simp [account, session, goes, Session.pending, none]
  · simp only [account, session, goes]
    exact ⟨by rw [map_tail, pending]; rfl, others⟩
  · simp only [account, session, goes]
    exact ⟨pending, remembers.listed⟩
  · simp only [account, session, goes]
    exact ⟨by rw [map_tail, pending]; rfl, others⟩

/-- A session that neither flushes nor reaps remembers nothing. -/
theorem remembers_other
    (remembers : Remembers owned watched)
    (idle : watched.session.pending = [])
    (calm : (account owned watched next) = (owned.ledger, { watched with session := next }))
    (idleNext : next.pending = [])
    (unclaimed : ∀ request place, next ≠ .flush request place) :
    Remembers ⟨store, (account owned watched next).1⟩ (account owned watched next).2 := by
  have none : watched.listed = [] := map_eq_nil_iff.mp (remembers.pending.trans idle)
  rw [calm]
  refine ⟨by rw [none, idleNext]; rfl, ?_, ?_⟩
  · intro entry member
    rw [none] at member
    cases member
  · intro request place session
    exact absurd session (unclaimed request place)

theorem remembers_step
    (remembers : Remembers owned watched)
    (issued : statement sha256Hex owned.store watched.session answer = some effect) :
    Remembers ⟨storeOf owned.store effect, (account owned watched (nextOf effect)).1⟩
      (account owned watched (nextOf effect)).2 := by
  cases session : watched.session with
  | flush request place => exact remembers_flush remembers session issued
  | reap place => exact remembers_reap remembers session issued
  | append request place =>
    rw [session] at issued
    obtain ⟨appending, found, goes⟩ := Option.map_eq_some_iff.mp issued
    have next : ∃ place', nextOf effect = .append request place' := by
      cases appending <;> cases goes <;> exact ⟨_, rfl⟩
    obtain ⟨place', equal⟩ := next
    rw [equal]
    exact remembers_other remembers (by rw [session]; rfl)
      (by simp [account, session]) rfl fun _ _ equal => by cases equal
  | void place =>
    rw [session] at issued
    obtain ⟨voiding, found, goes⟩ := Option.map_eq_some_iff.mp issued
    have next : ∃ place', nextOf effect = .void place' := by
      cases voiding <;> cases goes <;> exact ⟨_, rfl⟩
    obtain ⟨place', equal⟩ := next
    rw [equal]
    exact remembers_other remembers (by rw [session]; rfl)
      (by simp [account, session]) rfl fun _ _ equal => by cases equal
  | stopped =>
    rw [session] at issued
    cases issued

/-! ## Runs -/

/-- The accounts and the memories survive every singular move. -/
theorem annotated_move_of_singular
    (config : Config Owned Watched)
    (move : Move Watched Answer)
    (next : Config Owned Watched)
    (annotated : Program.Annotated Accounts (fun owned _ => Remembers owned)
      (fun _ _ => True) config)
    (allowed : singular config move = true)
    (moved : (ownedProgram sha256Hex).move config move = some next) :
    Program.Annotated Accounts (fun owned _ => Remembers owned) (fun _ _ => True) next := by
  refine Program.annotated_move _ (fun config move => singular config move = true)
    (fun _ _ _ => trivial) ?_ ?_ config move next annotated allowed moved
  · intro config watched _ initial _
    refine ⟨fun _ => ?_, fun _ _ _ => trivial⟩
    simp only [ownedProgram, Bool.and_eq_true, List.isEmpty_iff] at initial
    obtain ⟨⟨enters, _⟩, unlisted⟩ := initial
    refine ⟨?_, ?_, ?_⟩
    · rw [unlisted]
      cases session : watched.session with
      | reap place =>
        rw [session] at enters
        cases place <;> first | rfl | cases enters
      | _ => rfl
    · intro entry member
      rw [unlisted] at member
      cases member
    · intro request place session claimed
      rw [session] at enters
      cases place <;> first | (cases claimed; done) | cases enters
  · intro config index answer watched owned' watched' annotated allowed present stepped
    obtain ⟨effect, issued, equal⟩ := Option.map_eq_some_iff.mp stepped
    obtain ⟨rfl, rfl⟩ : owned' = ⟨storeOf config.shared.store effect,
        (account config.shared watched (nextOf effect)).1⟩ ∧
        watched' = (account config.shared watched (nextOf effect)).2 := by
      cases effect <;> cases equal <;> exact ⟨rfl, rfl⟩
    have own := annotated.thread index watched present
    simp only [singular, present] at allowed
    refine ⟨⟨?_, ?_⟩, remembers_step own issued, ?_⟩
    · refine oneOwner_account annotated.common own issued ?_
      intro request rows session latest found
      obtain ⟨_, claim, listed⟩ := watched
      cases session
      simpa [found] using allowed
    · intro bundleId claim token latest flushing
      exact tokens_account annotated.common issued latest flushing
    · intro other otherWatched different otherPresent
      refine ⟨(annotated.thread other otherWatched otherPresent).account ?_ _, trivial⟩
      intro request bundle session entry member
      obtain ⟨_, claim, listed⟩ := watched
      cases session
      simp only [all_eq_true, decide_eq_true_eq] at allowed
      exact allowed otherWatched (mem_of_getElem? otherPresent) entry member

theorem accounts_begun : Accounts ⟨store, [], [], []⟩ where
  owner := ⟨fun _ member => absurd member not_mem_nil, fun _ member => absurd member not_mem_nil⟩
  tokens bundleId claim token latest := by cases latest

/-- Flush claims have one owner in every run whose moves are all singular. -/
theorem oneOwner_of_singular
    (sha256Hex : String → String)
    (store : Store)
    (steps : List (Move Watched Answer))
    (final : Config Owned Watched)
    (careful : Transition.Admits (ownedProgram sha256Hex).move
      (fun config move => singular config move = true) (begun store) steps)
    (ended : Transition.run (ownedProgram sha256Hex).move (begun store) steps = some final) :
    OneOwner final.shared.ledger := by
  have annotated := Transition.invariant_of_admits _
    (Program.Annotated Accounts (fun owned _ => Remembers owned) (fun _ _ => True))
    annotated_move_of_singular
    (Program.annotated_of_idle _ _ (accounts_begun)) careful ended
  exact annotated.common.owner

/-! ## A claim reaped by mistake -/

/-- A bundle with one member that a dead process has left behind. -/
def abandonedStore : Store where
  bundles := ⟨[⟨"b1", "group", .flushing, 5, 1, 100, 0, some "archive-b1",
    some "host:1", 0, some 0, none, none⟩], by decide⟩
  members := ⟨[⟨1, "b1", "aa", "photos", "b.tif", none, 5, "aa", none⟩], by decide⟩
  assets := ["aa"]
  seals := []
  admissions := []

/-- A session that enters. -/
def enters (session : Session) : Move Watched Answer := .spawn ⟨session, none, []⟩

/-- The statements of a session, in order. -/
def issues (index : Nat) (answers : List Answer) : List (Move Watched Answer) :=
  answers.map fun answer => .act index answer

/-- Two passes find the dead claim; one reaps it, a live process claims the
bundle, and the other pass reaps that claim. -/
def twiceReaped : List (Move Watched Answer) :=
  [enters (.reap .select), enters (.reap .select), enters (.flush ⟨"b1", "host:2"⟩ .read)] ++
  issues 0 [.nothing, .live false] ++
  issues 1 [.nothing, .live false] ++
  issues 0 [.nothing] ++
  issues 2 [.nothing, .clock 1] ++
  issues 1 [.nothing]

theorem not_oneOwnerLaw : ¬OneOwnerLaw := by
  intro law
  have seen : (Transition.run (ownedProgram id).move (begun abandonedStore)
      twiceReaped).map (fun final => final.shared.ledger.reaps) = some [⟨"b1", none, none⟩,
          ⟨"b1", none, some ⟨0, "b1", "host:2"⟩⟩] := by
    decide +kernel
  obtain ⟨final, ended, reaps⟩ := Option.map_eq_some_iff.mp seen
  have owner := law id abandonedStore twiceReaped final ended
  have equal := owner.reaps ⟨"b1", none, some ⟨0, "b1", "host:2"⟩⟩ (by rw [reaps]; simp)
  cases equal

/-- A pass reaps the dead claim, a live process claims the bundle, a second pass
finds it alive, and the process seals. -/
def takenOver : List (Move Watched Answer) :=
  [enters (.reap .select), enters (.flush ⟨"b1", "host:2"⟩ .read), enters (.reap .select)] ++
  issues 0 [.nothing, .live false, .nothing, .nothing] ++
  issues 1 [.nothing, .clock 1] ++
  issues 2 [.nothing, .live true, .nothing] ++
  issues 1 [.nothing, .built, .clock 2]

theorem oneOwner_of_singular_takenOver :
    ∃ final, Transition.run (ownedProgram id).move (begun abandonedStore) takenOver = some final ∧
      final.shared.ledger.reaps = [⟨"b1", none, none⟩] ∧
      final.shared.ledger.seals = [⟨"b1", some ⟨0, "b1", "host:2"⟩, some ⟨0, "b1", "host:2"⟩⟩] ∧
      OneOwner final.shared.ledger := by
  have seen : (Transition.run (ownedProgram id).move (begun abandonedStore)
      takenOver).map (fun final => (final.shared.ledger.reaps, final.shared.ledger.seals)) =
        some ([⟨"b1", none, none⟩], [⟨"b1", some ⟨0, "b1", "host:2"⟩,
          some ⟨0, "b1", "host:2"⟩⟩]) := by
    decide +kernel
  obtain ⟨final, ended, facts⟩ := Option.map_eq_some_iff.mp seen
  obtain ⟨reaps, seals⟩ := Prod.mk.inj facts
  exact ⟨final, ended, reaps, seals,
    oneOwner_of_singular id abandonedStore takenOver final (by decide +kernel) ended⟩

end Archive
end Sutradhara
