import RustEnrich.Enrichment.SharedLookups

/-!
# Identical misses are fetched once

The put of the first owner of a key comes before its publication and its
publication before the removal of its flight, so a caller that registers later
owns a flight whose recheck hits, whatever it had read before.
-/

namespace RustEnrich.Enrichment

open Transitions Storage

/-- A fetch for a key begins. -/
def LookupEvent.startsFetch (key : FlightKey) : LookupEvent → Bool
  | .performed _ own .fetchStarted => own = key
  | _ => false

/-- What a fetch for a key yields. -/
def LookupEvent.yields (key : FlightKey) : LookupEvent → Option Outcome
  | .performed _ own (.fetched outcome) => if own = key then some outcome else none
  | _ => none

/-- How many fetches of a key start. -/
def fetchStarts (key : FlightKey) (trace : List LookupEvent) : Nat :=
  trace.countP (LookupEvent.startsFetch key)

/-- What the fetches of a key yield. -/
def fetchedOutcomes (key : FlightKey) (trace : List LookupEvent) : List Outcome :=
  trace.filterMap (LookupEvent.yields key)

/-- The starts of two traces. -/
@[simp] theorem fetchStarts_append (key : FlightKey) (front back : List LookupEvent) :
    fetchStarts key (front ++ back) = fetchStarts key front + fetchStarts key back :=
  List.countP_append

/-- The yields of two traces, one after the other. -/
@[simp] theorem fetchedOutcomes_append (key : FlightKey) (front back : List LookupEvent) :
    fetchedOutcomes key (front ++ back) =
      fetchedOutcomes key front ++ fetchedOutcomes key back :=
  List.filterMap_append

/-! ### What the stored entry says about the flights of its key -/

/-- The work has passed its recheck and not ended. -/
def Work.Fetches : Work → Prop
  | .fetching | .storing _ => True
  | _ => False

/-- The work of an owner of the key, as far as the stored entry explains it. -/
def Work.Explained (stored : Option CachedOutcome) : Work → Prop
  | .rechecking => True
  | .fetching => stored = none
  | .storing outcome => ∀ cached, stored = some cached → outcome = cached.outcome
  | .completed result | .published result | .finished result =>
      ∃ cached, stored = some cached ∧ result.outcome = cached.outcome

/-- The one fetch of a key, before, during and after. -/
inductive FetchState (key : FlightKey) (shared : SharedLookups) : Nat → List Outcome → Prop
  | unfetched
      (idle : ∀ id owner, shared.lookups.owners id = some owner → owner.key = key →
        ¬ owner.work.Fetches) :
      FetchState key shared 0 []
  | fetching {id : OwnerId} {channel : Option LookupResult}
      (spawned : shared.lookups.owners id = some { key, work := .fetching, channel }) :
      FetchState key shared 1 []
  | fetched {id : OwnerId} {outcome : Outcome} {channel : Option LookupResult}
      (spawned : shared.lookups.owners id = some { key, work := .storing outcome, channel }) :
      FetchState key shared 1 [outcome]
  | stored {cached : CachedOutcome} (present : shared.stored = some cached) :
      FetchState key shared 1 [cached.outcome]

/-- The key a caller is about. -/
def CallerPhase.key : CallerPhase → Option FlightKey
  | .reading key | .missed key | .waiting key _ _ => some key
  | _ => none

/-- The entry of the key explains what its flights and callers are told. -/
structure SharedInvariant (config : LookupConfig) (key : FlightKey)
    (first : Option CachedOutcome) (seen : List LookupEvent) (shared : SharedLookups) : Prop where
  flights : FlightsInvariant config shared.lookups
  running : shared.lookups.cancelled = false
  asked : ∀ id caller, shared.lookups.callers id = some caller →
    ∀ own, caller.phase.key = some own → flightKey config caller.request = .ok own
  returned : ∀ id caller, shared.lookups.callers id = some caller → ∀ result,
    caller.phase = .returned result → flightKey config caller.request = .ok key →
    ∃ cached, shared.stored = some cached ∧ result.outcome = cached.outcome
  explained : ∀ id owner, shared.lookups.owners id = some owner → owner.key = key →
    owner.work.Explained shared.stored
  fetch : FetchState key shared (fetchStarts key seen) (fetchedOutcomes key seen)
  putStored : ∀ id ∈ shared.puts, shared.stored ≠ none
  /-- An entry that was there from the start stays, and nothing is fetched. -/
  kept : ∀ cached, first = some cached → shared.stored = some cached ∧ fetchStarts key seen = 0

/-! ### Each step keeps the explanation -/

variable {config : LookupConfig} {key : FlightKey} {first : Option CachedOutcome}
  {seen events trace : List LookupEvent} {shared next : SharedLookups} {after : Lookups}
  {starts : Nat} {outcomes : List Outcome} {id : OwnerId} {owner : Owner}

/-- What the fetches of a key have done depends on the owners alone. -/
theorem FetchState.of_owners (state : FetchState key shared starts outcomes)
    (same : after.owners = shared.lookups.owners) :
    FetchState key { shared with lookups := after } starts outcomes := by
  cases state with
  | unfetched idle => exact .unfetched (by rw [same]; exact idle)
  | fetching spawned => exact .fetching (by rw [same]; exact spawned)
  | fetched spawned => exact .fetched (by rw [same]; exact spawned)
  | stored present => exact .stored present

/-- An owner that is not the one fetching moves. -/
theorem FetchState.setOwner (state : FetchState key shared starts outcomes)
    (same : after.owners = Function.update shared.lookups.owners id (some owner))
    (before : ∀ old, shared.lookups.owners id = some old → old.key = key → ¬ old.work.Fetches)
    (still : owner.key = key → ¬ owner.work.Fetches) :
    FetchState key { shared with lookups := after } starts outcomes := by
  have others : ∀ {other work channel}, shared.lookups.owners other = some { key, work, channel } →
      work.Fetches → after.owners other = some { key, work, channel } := by
    intro other work channel spawned fetches
    have distinct : other ≠ id := by
      rintro rfl
      exact before _ spawned rfl fetches
    rw [same, Function.update_of_ne distinct]
    exact spawned
  cases state with
  | unfetched idle =>
      refine .unfetched ?_
      intro other found spawned own
      change after.owners other = some found at spawned
      rw [same] at spawned
      by_cases moved : other = id
      · subst moved
        rw [Function.update_self, Option.some.injEq] at spawned
        exact spawned ▸ still (spawned ▸ own)
      · rw [Function.update_of_ne moved] at spawned
        exact idle other found spawned own
  | fetching spawned => exact .fetching (others spawned trivial)
  | fetched spawned => exact .fetched (others spawned trivial)
  | stored present => exact .stored present

namespace SharedInvariant

/-- A caller moves. -/
theorem setCaller (invariant : SharedInvariant config key first seen shared) {caller : CallerId}
    {request : LookupRequest} {phase : CallerPhase}
    (flights : FlightsInvariant config (shared.lookups.setCaller caller request phase))
    (unstarted : fetchStarts key events = 0) (unyielded : fetchedOutcomes key events = [])
    (asks : ∀ own, phase.key = some own → flightKey config request = .ok own)
    (returns : ∀ result, phase = .returned result → flightKey config request = .ok key →
      ∃ cached, shared.stored = some cached ∧ result.outcome = cached.outcome) :
    SharedInvariant config key first (seen ++ events)
      { shared with lookups := shared.lookups.setCaller caller request phase } where
  flights := flights
  running := invariant.running
  asked := Lookups.forall_setCaller invariant.asked asks
  returned := Lookups.forall_setCaller invariant.returned returns
  explained := invariant.explained
  fetch := by
    rw [fetchStarts_append, fetchedOutcomes_append, unstarted, unyielded, Nat.add_zero,
      List.append_nil]
    exact invariant.fetch.of_owners rfl
  putStored := invariant.putStored
  kept := by
    rw [fetchStarts_append, unstarted, Nat.add_zero]
    exact invariant.kept

/-- An owner moves. -/
theorem advance (invariant : SharedInvariant config key first seen shared)
    (flights : FlightsInvariant config after)
    (owners : after.owners = Function.update shared.lookups.owners id (some owner))
    (callers : after.callers = shared.lookups.callers)
    (running : after.cancelled = shared.lookups.cancelled)
    (explains : owner.key = key → owner.work.Explained shared.stored)
    (fetch : FetchState key { shared with lookups := after } (fetchStarts key (seen ++ events))
      (fetchedOutcomes key (seen ++ events)))
    (kept : ∀ cached, first = some cached →
      shared.stored = some cached ∧ fetchStarts key (seen ++ events) = 0) :
    SharedInvariant config key first (seen ++ events) { shared with lookups := after } where
  flights := flights
  running := running.trans invariant.running
  asked := by
    change ∀ id caller, after.callers id = some caller → _
    rw [callers]
    exact invariant.asked
  returned := by
    change ∀ id caller, after.callers id = some caller → _
    rw [callers]
    exact invariant.returned
  explained := by
    intro other found spawned
    change after.owners other = some found at spawned
    rw [owners] at spawned
    by_cases moved : other = id
    · subst moved
      rw [Function.update_self, Option.some.injEq] at spawned
      exact spawned ▸ explains
    · rw [Function.update_of_ne moved] at spawned
      exact invariant.explained other found spawned
  fetch := fetch
  putStored := invariant.putStored
  kept := kept

/-- An owner other than the one fetching moves. -/
theorem setOwner (invariant : SharedInvariant config key first seen shared)
    (flights : FlightsInvariant config after)
    (owners : after.owners = Function.update shared.lookups.owners id (some owner))
    (callers : after.callers = shared.lookups.callers)
    (running : after.cancelled = shared.lookups.cancelled)
    (unstarted : fetchStarts key events = 0) (unyielded : fetchedOutcomes key events = [])
    (before : ∀ old, shared.lookups.owners id = some old → old.key = key → ¬ old.work.Fetches)
    (still : owner.key = key → ¬ owner.work.Fetches)
    (explains : owner.key = key → owner.work.Explained shared.stored) :
    SharedInvariant config key first (seen ++ events) { shared with lookups := after } := by
  refine invariant.advance flights owners callers running explains ?_ ?_
  · rw [fetchStarts_append, fetchedOutcomes_append, unstarted, unyielded, Nat.add_zero,
      List.append_nil]
    exact invariant.fetch.setOwner owners before still
  · rw [fetchStarts_append, unstarted, Nat.add_zero]
    exact invariant.kept

/-- Only one owner of a key is yet to finish. -/
theorem sole (invariant : SharedInvariant config key first seen shared) {other : OwnerId}
    {work otherWork : Work} {channel otherChannel : Option LookupResult}
    (spawned : shared.lookups.owners id = some { key, work, channel })
    (unfinished : work.Unfinished)
    (held : shared.lookups.owners other = some { key, work := otherWork, channel := otherChannel })
    (alive : otherWork.Unfinished) : otherWork = work := by
  cases invariant.flights.live_unique ⟨_, spawned, rfl, unfinished⟩ ⟨_, held, rfl, alive⟩
  cases spawned.symm.trans held
  rfl

end SharedInvariant

/-- The work on another key starts no fetch of this one. -/
theorem fetchStarts_other {own : FlightKey} (distinct : own ≠ key) (id : OwnerId)
    (events : List PerformEvent) :
    fetchStarts key (events.map (.performed id own)) = 0 := by
  induction events with
  | nil => rfl
  | cons event rest ih =>
      rw [List.map_cons, fetchStarts, List.countP_cons, ← fetchStarts, ih]
      cases event <;> simp [LookupEvent.startsFetch, distinct]

/-- The work on another key yields nothing for this one. -/
theorem fetchedOutcomes_other {own : FlightKey} (distinct : own ≠ key) (id : OwnerId)
    (events : List PerformEvent) :
    fetchedOutcomes key (events.map (.performed id own)) = [] := by
  apply List.filterMap_eq_nil_iff.mpr
  intro event member
  obtain ⟨inner, _, rfl⟩ := List.mem_map.mp member
  cases inner <;> simp [LookupEvent.yields, distinct]

namespace SharedInvariant

variable {work nextWork : Work} {performed : List PerformEvent} {answer : CacheAnswer}
  {outcome : Outcome}

/-- A recheck that misses starts the fetch, and no other has started. -/
theorem startsFetch (invariant : SharedInvariant config key first seen shared)
    (spawned : shared.lookups.owners id = some { key, work := .rechecking, channel := none })
    (flights : FlightsInvariant config
      (shared.lookups.setOwner id { key, work := .fetching, channel := none }))
    (missing : shared.stored = none) :
    SharedInvariant config key first
      (seen ++ [.performed id key (.rechecked answer), .performed id key .fetchStarted])
      { shared with
        lookups := shared.lookups.setOwner id { key, work := .fetching, channel := none } } := by
  have unkept : first = none := by
    cases present : first with
    | none => rfl
    | some cached => exact absurd (missing.symm.trans (invariant.kept cached present).1) nofun
  have begun : ∀ {starts outcomes}, FetchState key shared starts outcomes →
      starts = 0 ∧ outcomes = [] := by
    intro starts outcomes state
    cases state with
    | unfetched idle => exact ⟨rfl, rfl⟩
    | fetching held => cases invariant.sole spawned trivial held trivial
    | fetched held => cases invariant.sole spawned trivial held trivial
    | stored present => exact absurd (missing.symm.trans present) nofun
  obtain ⟨none_, nothing⟩ := begun invariant.fetch
  refine invariant.advance flights rfl rfl rfl (fun _ => missing) ?_ ?_
  · rw [fetchStarts_append, fetchedOutcomes_append, none_, nothing]
    simp only [fetchStarts, fetchedOutcomes, List.countP_cons, List.countP_nil,
      LookupEvent.startsFetch, List.filterMap_cons, List.filterMap_nil, LookupEvent.yields]
    exact .fetching (Function.update_self ..)
  · intro cached present
    rw [unkept] at present
    cases present

/-- A fetch that ends yields the outcome to be stored. -/
theorem yields (invariant : SharedInvariant config key first seen shared)
    (spawned : shared.lookups.owners id = some { key, work := .fetching, channel := none })
    (flights : FlightsInvariant config
      (shared.lookups.setOwner id { key, work := .storing outcome, channel := none })) :
    SharedInvariant config key first (seen ++ [.performed id key (.fetched outcome)])
      { shared with
        lookups := shared.lookups.setOwner id
          { key, work := .storing outcome, channel := none } } := by
  have missing : shared.stored = none := invariant.explained id _ spawned rfl
  have begun : ∀ {starts outcomes}, FetchState key shared starts outcomes →
      starts = 1 ∧ outcomes = [] := by
    intro starts outcomes state
    cases state with
    | unfetched idle => exact absurd trivial (idle id _ spawned rfl)
    | fetching held => exact ⟨rfl, rfl⟩
    | fetched held => cases invariant.sole spawned trivial held trivial
    | stored present => exact absurd (missing.symm.trans present) nofun
  obtain ⟨one, nothing⟩ := begun invariant.fetch
  refine invariant.advance flights rfl rfl rfl ?_ ?_ ?_
  · intro _ cached present
    exact absurd (missing.symm.trans present) nofun
  · rw [fetchStarts_append, fetchedOutcomes_append, one, nothing]
    simp only [fetchStarts, fetchedOutcomes, List.countP_cons, List.countP_nil,
      LookupEvent.startsFetch, List.filterMap_cons, List.filterMap_nil, LookupEvent.yields]
    exact .fetched (Function.update_self ..)
  · intro cached present
    exact absurd (missing.symm.trans (invariant.kept cached present).1) nofun

/-- While an owner stores, its fetch is the only one, and its outcome the only
one fetched. -/
theorem only_of_storing (invariant : SharedInvariant config key first seen shared)
    {channel : Option LookupResult}
    (spawned : shared.lookups.owners id = some { key, work := .storing outcome, channel }) :
    fetchStarts key seen = 1 ∧ fetchedOutcomes key seen = [outcome] := by
  have same : ∀ cached, shared.stored = some cached → outcome = cached.outcome :=
    invariant.explained id _ spawned rfl
  have state := invariant.fetch
  generalize fetchStarts key seen = starts at state ⊢
  generalize fetchedOutcomes key seen = outcomes at state ⊢
  cases state with
  | unfetched idle => exact absurd trivial (idle id _ spawned rfl)
  | fetching held => cases invariant.sole spawned trivial held trivial
  | fetched held =>
      cases invariant.sole spawned trivial held trivial
      exact ⟨rfl, rfl⟩
  | stored holds => exact ⟨rfl, by rw [same _ holds]⟩

/-- A put that answers confirms the entry. -/
theorem confirms (invariant : SharedInvariant config key first seen shared)
    {cached : CachedOutcome} {expiry : Option DateTime}
    (spawned : shared.lookups.owners id = some { key, work := .storing outcome, channel := none })
    (flights : FlightsInvariant config (shared.lookups.setOwner id
      { key, work := .completed { LookupResult.uncached outcome with expiresAt := expiry },
        channel := none }))
    (present : shared.stored = some cached) {answered : Except StorageError (Option DateTime)} :
    SharedInvariant config key first (seen ++ [.performed id key (.putReturned answered)])
      { shared with
        lookups := shared.lookups.setOwner id
          { key, work := .completed { LookupResult.uncached outcome with expiresAt := expiry },
            channel := none } } := by
  have same : outcome = cached.outcome := invariant.explained id _ spawned rfl cached present
  obtain ⟨one, only⟩ := invariant.only_of_storing spawned
  refine invariant.advance flights rfl rfl rfl (fun _ => ⟨cached, present, same⟩) ?_ ?_
  · rw [fetchStarts_append, fetchedOutcomes_append, one, only, same]
    exact .stored present
  · intro old before
    exact absurd (one.symm.trans (invariant.kept old before).2) nofun

/-- The put of the owner takes effect. -/
theorem stores (invariant : SharedInvariant config key first seen shared)
    {channel : Option LookupResult} (expiresAt : DateTime)
    (spawned : shared.lookups.owners id = some { key, work := .storing outcome, channel }) :
    SharedInvariant config key first seen
      { shared with stored := some { outcome, expiresAt }, puts := id :: shared.puts } := by
  have same : ∀ cached, shared.stored = some cached → outcome = cached.outcome :=
    invariant.explained id _ spawned rfl
  obtain ⟨one, only⟩ := invariant.only_of_storing spawned
  refine ⟨invariant.flights, invariant.running, invariant.asked, ?_, ?_, ?_, fun _ _ => nofun, ?_⟩
  · intro caller there phase result returned own
    obtain ⟨cached, present, equal⟩ := invariant.returned caller there phase result returned own
    exact ⟨_, rfl, equal.trans (same cached present).symm⟩
  · intro other found held own
    have explained := invariant.explained other found held own
    obtain ⟨_, work, _⟩ := found
    cases own
    cases work with
    | rechecking => trivial
    | fetching => cases invariant.sole spawned trivial held trivial
    | storing =>
        cases invariant.sole spawned trivial held trivial
        intro cached present
        cases present
        rfl
    | completed result | published result | finished result =>
        obtain ⟨cached, present, equal⟩ := explained
        exact ⟨_, rfl, equal.trans (same cached present).symm⟩
  · rw [one, only]
    exact @FetchState.stored key { shared with
      stored := some { outcome, expiresAt }, puts := id :: shared.puts } _ rfl
  · intro old before
    exact absurd (one.symm.trans (invariant.kept old before).2) nofun

/-- A step of `perform`, for the key or for another. -/
theorem perform (invariant : SharedInvariant config key first seen shared) {own : FlightKey}
    (spawned : shared.lookups.owners id = some { key := own, work, channel := none })
    (performs : Perform work performed nextWork)
    (agrees : ∀ event ∈ performed.map (.performed id own), Agrees key shared.stored event)
    (flights : FlightsInvariant config
      (shared.lookups.setOwner id { key := own, work := nextWork, channel := none })) :
    SharedInvariant config key first (seen ++ performed.map (.performed id own))
      { shared with
        lookups := shared.lookups.setOwner id
          { key := own, work := nextWork, channel := none } } := by
  by_cases mine : own = key
  · subst mine
    cases performs with
    | recheckHit cached =>
        have equal := agrees _ (List.mem_singleton.mpr rfl) rfl
        refine invariant.setOwner flights rfl rfl rfl rfl rfl ?_ (fun _ => not_false)
          fun _ => ⟨cached, (Except.ok.inj equal).symm, rfl⟩
        intro old held _
        cases spawned.symm.trans held
        exact not_false
    | recheckMissed missed =>
        have equal := agrees _ (List.mem_cons_self ..) rfl
        apply invariant.startsFetch spawned flights
        cases present : shared.stored with
        | none => rfl
        | some cached => exact absurd (equal.trans (by rw [present])) (missed cached)
    | fetchedReport cacheable => exact invariant.yields spawned flights
    | fetchedFailure uncacheable =>
        have cacheable := agrees _ (List.mem_singleton.mpr rfl) rfl
        rw [uncacheable] at cacheable
        cases cacheable
    | putConfirmed expiry =>
        obtain ⟨cached, present, _⟩ := agrees _ (List.mem_singleton.mpr rfl) rfl
        exact invariant.confirms spawned flights present
    | putFailed error =>
        obtain ⟨_, _, impossible⟩ := agrees _ (List.mem_singleton.mpr rfl) rfl
        cases impossible
    | panicked performing => exact absurd rfl (agrees _ (List.mem_singleton.mpr rfl))
  · refine invariant.setOwner flights rfl rfl rfl (fetchStarts_other mine id _)
      (fetchedOutcomes_other mine id _) ?_ (fun same => absurd same mine)
      (fun same => absurd same mine)
    intro old held same
    cases spawned.symm.trans held
    exact absurd same mine

/-- A channel of the key carries what is stored. -/
theorem carried (invariant : SharedInvariant config key first seen shared)
    {result : LookupResult} (spawned : shared.lookups.owners id = some owner)
    (own : owner.key = key) (sent : owner.channel = some result) :
    ∃ cached, shared.stored = some cached ∧ result.outcome = cached.outcome := by
  have explained := invariant.explained id owner spawned own
  have consistent := invariant.flights.consistent id owner spawned
  obtain ⟨_, work, channel⟩ := owner
  cases sent
  cases work with
  | published other | finished other =>
      cases consistent
      exact explained
  | _ => cases consistent

/-- A step of the lookups that the cache agrees with. -/
theorem looks (invariant : SharedInvariant config key first seen shared)
    (taken : LookupStep config shared.lookups events after)
    (agrees : ∀ event ∈ events, Agrees key shared.stored event) :
    SharedInvariant config key first (seen ++ events) { shared with lookups := after } := by
  have flights := invariant.flights.step taken
  cases taken with
  | answered caller fresh refuses =>
      apply invariant.setCaller flights rfl rfl (fun _ => nofun)
      intro result _ accepts
      cases refuses.symm.trans accepts
  | started caller fresh accepts =>
      refine invariant.setCaller flights rfl rfl ?_ (fun _ => nofun)
      intro own asked
      cases asked
      exact accepts
  | @cacheHit caller request own cached reading =>
      apply invariant.setCaller flights rfl rfl (fun _ => nofun)
      intro result returned accepts
      cases returned
      cases (invariant.asked caller _ reading own rfl).symm.trans accepts
      have equal := agrees _ (List.mem_singleton.mpr rfl) rfl
      exact ⟨cached, (Except.ok.inj equal).symm, rfl⟩
  | @cacheMissed caller request own answer missed reading =>
      refine invariant.setCaller flights rfl rfl ?_ (fun _ => nofun)
      intro _ asked
      cases asked
      exact invariant.asked caller _ reading own rfl
  | @joined caller request own owner unlocked missed flying =>
      refine invariant.setCaller flights rfl rfl ?_ (fun _ => nofun)
      intro _ asked
      cases asked
      exact invariant.asked caller _ missed own rfl
  | @busy caller request own unlocked missed absent full =>
      apply invariant.setCaller flights rfl rfl (fun _ => nofun)
      intro _ _ accepts
      cases (invariant.asked caller _ missed own rfl).symm.trans accepts
      exact absurd rfl (agrees _ (List.mem_singleton.mpr rfl) rfl)
  | unavailable unlocked missed absent room fired =>
      cases invariant.running.symm.trans fired
  | @registered caller request own owner unlocked missed absent room running fresh =>
      have registers := invariant.flights.register absent room fresh
      have spawning := @setOwner _ _ _ _ [] _ _ _ _ invariant registers rfl rfl rfl rfl rfl
        (fun _ held => absurd (fresh.symm.trans held) nofun) (fun _ => not_false)
        (fun _ => trivial)
      rw [List.append_nil] at spawning
      refine spawning.setCaller flights rfl rfl ?_ (fun _ => nofun)
      intro _ asked
      cases asked
      exact invariant.asked caller _ missed own rfl
  | @received caller request own owner joined flight result waiting spawned sent =>
      apply invariant.setCaller flights rfl rfl (fun _ => nofun)
      intro _ returned accepts
      cases returned
      cases (invariant.asked caller _ waiting own rfl).symm.trans accepts
      obtain ⟨found, held, mine⟩ := invariant.flights.waiting caller _ waiting _ _ _ rfl
      cases spawned.symm.trans held
      obtain ⟨cached, present, equal⟩ := invariant.carried spawned mine sent
      refine ⟨cached, present, ?_⟩
      cases joined <;> exact equal
  | @channelClosed caller request own owner joined flight result waiting spawned gone silent =>
      have consistent := invariant.flights.consistent owner flight spawned
      unfold Owner.Consistent at consistent
      rw [gone, silent] at consistent
      cases consistent
  | timedOut there awaiting =>
      exact invariant.setCaller flights rfl rfl (fun _ => nofun) (fun _ => nofun)
  | dropped there awaiting =>
      exact invariant.setCaller flights rfl rfl (fun _ => nofun) (fun _ => nofun)
  | performed spawned performs => exact invariant.perform spawned performs agrees flights
  | cancelled spawned performing fired => cases invariant.running.symm.trans fired
  -- What is sent or removed is what the owner already had.
  | @published owner own result channel unlocked spawned
  | @removed owner own result channel locked spawned =>
      refine invariant.setOwner flights rfl rfl rfl rfl rfl ?_ (fun _ => not_false) ?_
      · intro old held _
        cases spawned.symm.trans held
        exact not_false
      · intro mine
        have explained := invariant.explained owner _ spawned mine
        exact explained
  | cancelFired => exact (agrees _ (List.mem_singleton.mpr rfl)).elim

/-- Every step keeps the explanation. -/
theorem step (invariant : SharedInvariant config key first seen shared)
    (taken : SharedStep config key shared events next) :
    SharedInvariant config key first (seen ++ events) next := by
  cases taken with
  | looked taken agrees => exact invariant.looks taken agrees
  | stored expiresAt spawned once =>
      rw [List.append_nil]
      exact invariant.stores expiresAt spawned

/-- It holds at the start. -/
theorem initial (config : LookupConfig) (key : FlightKey) (first : Option CachedOutcome) :
    SharedInvariant config key first [] (.start first) where
  flights := .initial config
  running := rfl
  asked := by
    intro id caller there
    cases there
  returned := by
    intro id caller there
    cases there
  explained := by
    intro id owner spawned
    cases spawned
  fetch := by
    refine .unfetched ?_
    intro id owner spawned
    cases spawned
  putStored := fun _ none_ => absurd none_ List.not_mem_nil
  kept := fun _ present => ⟨present, rfl⟩

/-- It holds after every run. -/
theorem run (reached : Run (SharedStep config key) (.start first) trace shared) :
    SharedInvariant config key first trace shared :=
  reached.invariant (SharedInvariant config key first) (initial config key first)
    fun _ _ _ _ _ invariant taken => invariant.step taken

end SharedInvariant

/-! ### No caller is left behind -/

/-- A caller that has returned what is stored, timed out or been dropped. -/
def Served (caller : CallerId) (request : LookupRequest) (shared : SharedLookups) : Prop :=
  (∃ result cached, shared.lookups.callers caller = some { request, phase := .returned result } ∧
    shared.stored = some cached ∧ result.outcome = cached.outcome) ∨
  shared.lookups.callers caller = some { request, phase := .timedOut } ∨
  shared.lookups.callers caller = some { request, phase := .dropped }

namespace SharedInvariant

/-- An owner that has not finished, or whoever holds its lock, has a step. -/
theorem owner_moves (invariant : SharedInvariant config key first seen shared) {own : FlightKey}
    {work : Work} {channel : Option LookupResult}
    (spawned : shared.lookups.owners id = some { key := own, work, channel })
    (unfinished : work.Unfinished) : ∃ events next, QuietStep config key shared events next := by
  have consistent := invariant.flights.consistent id _ spawned
  have unlocks : shared.lookups.lock ≠ none →
      ∃ events next, QuietStep config key shared events next := by
    intro locked
    obtain ⟨other, after, removed, _⟩ := invariant.flights.releases locked
    exact ⟨_, _, .looked removed (List.forall_mem_singleton.mpr trivial), by simp⟩
  have puts : ∀ expiry, (own = key → ∃ cached, shared.stored = some cached ∧
        Except.ok expiry = (.ok (some cached.expiresAt) : Except StorageError _)) →
      ∀ {outcome}, work = .storing outcome → channel = none →
      ∃ events next, QuietStep config key shared events next := by
    rintro expiry agrees outcome rfl rfl
    exact ⟨_, _, .looked (.performed spawned (.putConfirmed expiry))
      (List.forall_mem_singleton.mpr agrees), by simp⟩
  cases work with
  | rechecking =>
      cases consistent
      cases present : shared.stored with
      | some cached =>
          refine ⟨_, _, .looked (.performed spawned (.recheckHit cached))
            (List.forall_mem_singleton.mpr ?_), by simp⟩
          exact fun _ => by rw [present]
      | none =>
          refine ⟨_, _, .looked (.performed spawned (@Perform.recheckMissed (.ok none) (by simp)))
            ?_, by simp⟩
          simp only [List.map_cons, List.map_nil, List.forall_mem_cons, List.not_mem_nil]
          exact ⟨fun _ => by rw [present], trivial, fun _ => nofun⟩
  | fetching =>
      cases consistent
      exact ⟨_, _, .looked (.performed spawned (@Perform.fetchedReport (.empty .ok) rfl))
        (List.forall_mem_singleton.mpr fun _ => rfl), by simp⟩
  | storing outcome =>
      cases present : shared.stored with
      | some cached =>
          exact puts (some cached.expiresAt) (fun _ => ⟨cached, present, rfl⟩) rfl consistent
      | none =>
          by_cases mine : own = key
          · subst mine
            have unput : id ∉ shared.puts := fun put => invariant.putStored id put present
            exact ⟨_, _, .stored .epoch spawned unput, by simp⟩
          · exact puts none (fun same => absurd same mine) rfl consistent
  | completed result =>
      by_cases unlocked : shared.lookups.lock = none
      · exact ⟨_, _, .looked (.published unlocked spawned)
          (List.forall_mem_singleton.mpr trivial), by simp⟩
      · exact unlocks unlocked
  | published result =>
      apply unlocks
      rw [(invariant.flights.locked id).mpr ⟨own, result, channel, spawned⟩]
      exact nofun
  | finished result => exact unfinished.elim

/-- A caller that has not settled has a step, or some owner has. -/
theorem caller_moves (invariant : SharedInvariant config key first seen shared)
    (room : 0 < config.maxSharedLookups) {caller : CallerId} {request : LookupRequest}
    {phase : CallerPhase} (there : shared.lookups.callers caller = some { request, phase })
    (unsettled : ¬ phase.Settled) : ∃ events next, QuietStep config key shared events next := by
  cases phase with
  | reading own =>
      cases present : shared.stored with
      | some cached =>
          refine ⟨_, _, .looked (.cacheHit cached there)
            (List.forall_mem_singleton.mpr ?_), by simp⟩
          exact fun _ => by rw [present]
      | none =>
          refine ⟨_, _, .looked (@LookupStep.cacheMissed _ _ _ _ _ (.ok none) (by simp) there)
            (List.forall_mem_singleton.mpr ?_), by simp⟩
          exact fun _ => by rw [present]
  | missed own =>
      by_cases unlocked : shared.lookups.lock = none
      · cases flying : shared.lookups.flights.lookup own with
        | some owner =>
            exact ⟨_, _, .looked (.joined unlocked there flying)
              (List.forall_mem_singleton.mpr trivial), by simp⟩
        | none =>
            by_cases full : config.maxSharedLookups ≤ shared.lookups.flights.keys.length
            · -- A full table has owners, and those have steps.
              obtain ⟨other, listed⟩ := List.exists_mem_of_length_pos (room.trans_le full)
              obtain ⟨owner, entry⟩ := Option.isSome_iff_exists.mp (AList.lookup_isSome.mpr listed)
              obtain ⟨⟨_, _, _⟩, spawned, _, unfinished⟩ :=
                (invariant.flights.entries other owner).mp entry
              exact invariant.owner_moves spawned unfinished
            · obtain ⟨bound, unused⟩ := invariant.flights.spare
              exact ⟨_, _, .looked (.registered bound unlocked there flying (not_le.mp full)
                invariant.running (unused bound (le_refl _)))
                (List.forall_mem_singleton.mpr trivial), by simp⟩
      · obtain ⟨other, after, removed, _⟩ := invariant.flights.releases unlocked
        exact ⟨_, _, .looked removed (List.forall_mem_singleton.mpr trivial), by simp⟩
  | waiting own owner joined =>
      obtain ⟨⟨flight, work, channel⟩, spawned, _⟩ :=
        invariant.flights.waiting caller _ there _ _ _ rfl
      cases channel with
      | some result =>
          exact ⟨_, _, .looked (.received there spawned rfl)
            (List.forall_mem_singleton.mpr trivial), by simp⟩
      | none =>
          apply invariant.owner_moves spawned
          have consistent := invariant.flights.consistent owner _ spawned
          cases work with
          | finished result => cases consistent
          | _ => trivial
  | returned | timedOut | dropped => exact absurd trivial unsettled

/-- A caller that has not settled can be moved on, and one of the key that
settles is served. -/
theorem served_of_settled (invariant : SharedInvariant config key first seen shared)
    {caller : CallerId} {request : LookupRequest} {phase : CallerPhase}
    (there : shared.lookups.callers caller = some { request, phase }) (settled : phase.Settled)
    (asks : flightKey config request = .ok key) : Served caller request shared := by
  cases phase with
  | returned result =>
      obtain ⟨cached, present, equal⟩ := invariant.returned caller _ there result rfl asks
      exact Or.inl ⟨result, cached, there, present, equal⟩
  | timedOut => exact Or.inr (Or.inl there)
  | dropped => exact Or.inr (Or.inr there)
  | reading | missed | waiting => exact settled.elim

/-- Once no more callers come, every caller of the key is served. -/
theorem serves (invariant : SharedInvariant config key first seen shared) {total : Nat}
    (budget : Budget shared total) (room : 0 < config.maxSharedLookups) {caller : CallerId}
    {request : LookupRequest} (there : ∃ phase,
      shared.lookups.callers caller = some { request, phase })
    (asks : flightKey config request = .ok key) :
    Inevitable (QuietStep config key) (Served caller request) shared := by
  apply @Inevitable.of_budget _ _ _ _ _ Budget
    (fun shared => (∃ seen, SharedInvariant config key first seen shared) ∧
      ∃ phase, shared.lookups.callers caller = some { request, phase })
  · rintro before events after total budget ⟨taken, quiet⟩
    exact taken.spends quiet budget
  · rintro before events after ⟨⟨seen, invariant⟩, there⟩ ⟨taken, _⟩
    exact ⟨⟨_, invariant.step taken⟩, taken.keeps_caller there⟩
  · rintro shared ⟨⟨seen, invariant⟩, phase, there⟩ unmet
    apply invariant.caller_moves room there
    exact fun settled => unmet (invariant.served_of_settled there settled asks)
  · exact budget
  · exact ⟨⟨_, invariant⟩, there⟩

end SharedInvariant

/-! ### Where a cache hit comes from -/

/-- The result of completed work. -/
def Work.result : Work → Option LookupResult
  | .completed result | .published result | .finished result => some result
  | _ => none

/-- A result reported as a cache hit was found by the recheck of its owner. -/
def RecheckHit (seen : List LookupEvent) (id : OwnerId) (key : FlightKey) : Prop :=
  ∃ cached, .performed id key (.rechecked (.ok (some cached))) ∈ seen

/-- A caller that read the entry itself, or registered an owner whose recheck
hit. -/
def HitBy (seen : List LookupEvent) (caller : CallerId) : Prop :=
  (∃ key cached, .cacheRead caller key (.ok (some cached)) ∈ seen) ∨
    ∃ id key, .registered caller id ∈ seen ∧ RecheckHit seen id key

/-- Every cache hit in the lookups comes from a read of the entry. -/
structure HitsTraced (seen : List LookupEvent) (lookups : Lookups) : Prop where
  owners : ∀ id owner, lookups.owners id = some owner → ∀ result,
    owner.work.result = some result ∨ owner.channel = some result →
    result.cacheHit = true → RecheckHit seen id owner.key
  waiting : ∀ id caller, lookups.callers id = some caller → ∀ key owner,
    caller.phase = .waiting key owner false → .registered id owner ∈ seen
  returned : ∀ id caller, lookups.callers id = some caller → ∀ result,
    caller.phase = .returned result → result.cacheHit = true → HitBy seen id

/-- A refused request is no cache hit. -/
theorem flightKey_error {request : LookupRequest} {result : LookupResult}
    (refuses : flightKey config request = .error result) : result.cacheHit = false := by
  unfold flightKey at refuses
  split at refuses
  · cases refuses
    rfl
  · split at refuses
    · cases refuses
      rfl
    · split at refuses <;> cases refuses
      rfl

/-- A `perform` that completes with a cache hit has found it. -/
theorem Perform.hit {work done : Work} {performed : List PerformEvent} {result : LookupResult}
    (performs : Perform work performed done) (completed : done.result = some result)
    (hit : result.cacheHit = true) : ∃ cached, .rechecked (.ok (some cached)) ∈ performed := by
  cases performs with
  | recheckHit cached => exact ⟨cached, List.mem_singleton.mpr rfl⟩
  | recheckMissed | fetchedReport => cases completed
  | _ =>
      cases completed
      cases hit

namespace HitsTraced

variable {lookups : Lookups} {caller : CallerId} {request : LookupRequest} {phase : CallerPhase}

/-- Hits stay traced as the trace goes on. -/
theorem mono (traced : HitsTraced seen lookups) (events : List LookupEvent) :
    HitsTraced (seen ++ events) lookups where
  owners := by
    intro id owner spawned result carries hit
    obtain ⟨cached, member⟩ := traced.owners id owner spawned result carries hit
    exact ⟨cached, List.mem_append_left _ member⟩
  waiting := fun id caller there key owner phase =>
    List.mem_append_left _ (traced.waiting id caller there key owner phase)
  returned := by
    intro id caller there result phase hit
    rcases traced.returned id caller there result phase hit with
      ⟨key, cached, read⟩ | ⟨owner, key, own, cached, found⟩
    · exact Or.inl ⟨key, cached, List.mem_append_left _ read⟩
    · exact Or.inr ⟨owner, key, List.mem_append_left _ own, cached, List.mem_append_left _ found⟩

/-- A caller may return a hit it has traced. -/
theorem setCaller (traced : HitsTraced seen lookups)
    (registers : ∀ key owner, phase = .waiting key owner false → .registered caller owner ∈ seen)
    (hits : ∀ result, phase = .returned result → result.cacheHit = true → HitBy seen caller) :
    HitsTraced seen (lookups.setCaller caller request phase) where
  owners := traced.owners
  waiting := Lookups.forall_setCaller traced.waiting registers
  returned := Lookups.forall_setCaller traced.returned hits

/-- An owner may hold a hit it has found. -/
theorem setOwner (traced : HitsTraced seen lookups) (owners : after.owners =
      Function.update lookups.owners id (some owner))
    (callers : after.callers = lookups.callers)
    (found : ∀ result, owner.work.result = some result ∨ owner.channel = some result →
      result.cacheHit = true → RecheckHit seen id owner.key) : HitsTraced seen after where
  owners := by
    rw [owners]
    exact Lookups.forall_setOwner traced.owners found
  waiting := by
    rw [callers]
    exact traced.waiting
  returned := by
    rw [callers]
    exact traced.returned

/-- Every step keeps the hits traced. -/
theorem step (traced : HitsTraced seen lookups)
    (taken : LookupStep config lookups events after) : HitsTraced (seen ++ events) after := by
  have grown := traced.mono events
  cases taken with
  | answered caller fresh refuses =>
      refine grown.setCaller (fun _ _ => nofun) ?_
      intro result returned hit
      cases returned
      cases (flightKey_error refuses).symm.trans hit
  | @cacheHit caller request key cached reading =>
      refine grown.setCaller (fun _ _ => nofun) ?_
      intro result returned hit
      exact Or.inl ⟨key, cached, List.mem_append_right _ (List.mem_singleton.mpr rfl)⟩
  | @registered caller request key owner unlocked missed absent room running fresh =>
      have spawned : HitsTraced (seen ++ [.registered caller owner])
          ({ lookups with flights := lookups.flights.insert key owner }.setOwner owner
            { key, work := .rechecking, channel := none }) := by
        refine grown.setOwner rfl rfl ?_
        rintro result (completed | sent)
        · cases completed
        · cases sent
      refine spawned.setCaller ?_ (fun _ => nofun)
      intro _ _ waiting
      cases waiting
      exact List.mem_append_right _ (List.mem_singleton.mpr rfl)
  | @received caller request key owner joined flight result waiting spawned carried =>
      refine grown.setCaller (fun _ _ => nofun) ?_
      intro _ returned hit
      cases returned
      cases joined with
      | true => cases hit
      | false =>
          exact Or.inr ⟨owner, flight.key, grown.waiting caller _ waiting key owner rfl,
            grown.owners owner flight spawned result (Or.inr carried) hit⟩
  | @performed owner key work next performed spawned performs =>
      refine grown.setOwner rfl rfl ?_
      rintro result (completed | sent) hit
      · obtain ⟨cached, member⟩ := performs.hit completed hit
        exact ⟨cached, List.mem_append_right _ (List.mem_map_of_mem member)⟩
      · cases sent
  | cancelled spawned performing fired =>
      refine grown.setOwner rfl rfl ?_
      rintro result (completed | sent) hit
      · cases completed
        cases hit
      · cases sent
  | @published owner key result channel unlocked spawned =>
      have found := grown.owners owner _ spawned result (Or.inl rfl)
      refine grown.setOwner rfl rfl ?_
      rintro other (completed | sent) hit
      · cases completed
        exact found hit
      · cases sent
        exact found hit
  | @removed owner key result channel locked spawned =>
      have found := grown.owners owner _ spawned
      refine grown.setOwner rfl rfl ?_
      rintro other (completed | sent) hit
      · exact found other (Or.inl completed) hit
      · exact found other (Or.inr sent) hit
  | cancelFired => exact ⟨grown.owners, grown.waiting, grown.returned⟩
  | busy | unavailable | channelClosed =>
      refine grown.setCaller (fun _ _ => nofun) ?_
      intro result returned hit
      cases returned
      cases hit
  | _ => exact grown.setCaller (fun _ _ => nofun) (fun _ => nofun)

/-- There are no hits at the start. -/
theorem initial : HitsTraced [] .initial where
  owners := by
    intro id owner spawned
    cases spawned
  waiting := by
    intro id caller there
    cases there
  returned := by
    intro id caller there
    cases there

/-- The hits are traced after every run. -/
theorem run (reached : Run (SharedStep config key) (.start first) trace shared) :
    HitsTraced trace shared.lookups := by
  apply reached.invariant (fun seen shared => HitsTraced seen shared.lookups) initial
  intro seen before events after _ traced taken
  cases taken with
  | looked taken agrees => exact traced.step taken
  | stored expiresAt spawned => exact traced.mono []

end HitsTraced

/-- At most one fetch starts. -/
theorem FetchState.starts_le (state : FetchState key shared starts outcomes) : starts ≤ 1 := by
  cases state <;> decide

/-- The outcome that was stored first or fetched is the one every caller of the
key returns. -/
theorem SharedInvariant.agreed (invariant : SharedInvariant config key first seen shared) :
    ∃ outcome, (∀ fetched ∈ fetchedOutcomes key seen, fetched = outcome) ∧
      (∀ cached, first = some cached ∨ shared.stored = some cached → cached.outcome = outcome) ∧
      ∀ id request result,
        shared.lookups.callers id = some { request, phase := .returned result } →
        flightKey config request = .ok key → result.outcome = outcome := by
  have only : ∀ {starts outcomes}, FetchState key shared starts outcomes →
      ∃ outcome, (∀ fetched ∈ outcomes, fetched = outcome) ∧
        ∀ cached, shared.stored = some cached → cached.outcome = outcome := by
    intro starts outcomes state
    cases state with
    | unfetched | fetching =>
        cases present : shared.stored with
        | none => exact ⟨.empty .ok, by simp, by simp⟩
        | some cached => exact ⟨cached.outcome, by simp, by simp⟩
    | @fetched id outcome channel spawned =>
        have same := invariant.explained id _ spawned rfl
        exact ⟨outcome, by simp, fun cached present => (same cached present).symm⟩
    | @stored cached present =>
        refine ⟨cached.outcome, by simp, ?_⟩
        intro other holds
        cases present.symm.trans holds
        rfl
  obtain ⟨outcome, fetched, stored⟩ := only invariant.fetch
  refine ⟨outcome, fetched, ?_, ?_⟩
  · rintro cached (before | present)
    · exact stored cached (invariant.kept cached before).1
    · exact stored cached present
  · intro id request result there accepts
    obtain ⟨cached, present, equal⟩ := invariant.returned id _ there result rfl accepts
    exact equal.trans (stored cached present)

/-- **Identical misses are fetched once.** However the callers of one key and
its owners interleave, the fetch starts at most once, and what it yielded, or
what was stored before it could, is what is stored and what the callers of the
key return. Each of them returns it, unless it times out or is dropped: once no
more callers come, every run that goes on for as long as it can serves them. A
cache hit was read by the caller itself or found by the recheck of the owner it
registered. -/
theorem fetched_once (run : Run (SharedStep config key) (.start first) trace shared) :
    fetchStarts key trace ≤ 1 ∧
    (∃ outcome, (∀ fetched ∈ fetchedOutcomes key trace, fetched = outcome) ∧
      (∀ cached, first = some cached ∨ shared.stored = some cached → cached.outcome = outcome) ∧
      ∀ caller request result,
        shared.lookups.callers caller = some { request, phase := .returned result } →
        flightKey config request = .ok key → result.outcome = outcome) ∧
    (∀ caller request phase, shared.lookups.callers caller = some { request, phase } →
      flightKey config request = .ok key → 0 < config.maxSharedLookups →
      Inevitable (QuietStep config key) (Served caller request) shared) ∧
    ∀ caller request result,
      shared.lookups.callers caller = some { request, phase := .returned result } →
      result.cacheHit = true → HitBy trace caller := by
  have invariant := SharedInvariant.run run
  obtain ⟨total, budget⟩ := budget_run run
  refine ⟨invariant.fetch.starts_le, invariant.agreed, ?_, ?_⟩
  · intro caller request phase there asks room
    exact invariant.serves budget room ⟨phase, there⟩ asks
  · intro caller request result there
    exact (HitsTraced.run run).returned caller _ there result rfl

/-- Three callers on an empty cache, that all miss. One fetches, one joins it, and one
comes to the lock when the flight is gone and finds what was stored. -/
theorem firstFetch_run :
    ∃ trace shared, Run (SharedStep oneFlight sampleKey) (.start none) trace shared ∧
      fetchStarts sampleKey trace = 1 ∧ ∀ caller < 3, ∃ result, shared.lookups.callers caller =
        some { request := sampleRequest, phase := .returned result } := by
  have silent : ∀ {stored event}, Agrees sampleKey stored event →
      ∀ other ∈ [event], Agrees sampleKey stored other := List.forall_mem_singleton.mpr
  have run := Run.single (@SharedStep.looked oneFlight sampleKey (.start none) _ _
    (@LookupStep.started oneFlight .initial sampleRequest sampleKey 0 rfl rfl) (silent trivial))
  have run := run.snoc (.looked (@LookupStep.started _ _ sampleRequest sampleKey 1 rfl rfl)
    (silent trivial))
  have run := run.snoc (.looked (@LookupStep.started _ _ sampleRequest sampleKey 2 rfl rfl)
    (silent trivial))
  have run := run.snoc (.looked (@LookupStep.cacheMissed _ _ 0 sampleRequest sampleKey (.ok none)
    (by simp) rfl) (silent fun _ => rfl))
  have run := run.snoc (.looked (@LookupStep.cacheMissed _ _ 1 sampleRequest sampleKey (.ok none)
    (by simp) rfl) (silent fun _ => rfl))
  have run := run.snoc (.looked (@LookupStep.cacheMissed _ _ 2 sampleRequest sampleKey (.ok none)
    (by simp) rfl) (silent fun _ => rfl))
  have run := run.snoc (.looked (@LookupStep.registered _ _ 0 sampleRequest sampleKey 0 rfl rfl rfl
    (by decide) rfl rfl) (silent trivial))
  have run := run.snoc (.looked (@LookupStep.joined _ _ 1 sampleRequest sampleKey 0 rfl rfl rfl)
    (silent trivial))
  have run := run.snoc (.looked (@LookupStep.performed _ _ 0 sampleKey _ _ _ rfl
    (@Perform.recheckMissed (.ok none) (by simp)))
    (by simp only [List.map_cons, List.map_nil, List.forall_mem_cons]
        exact ⟨fun _ => rfl, trivial, by simp⟩))
  have run := run.snoc (.looked (@LookupStep.performed _ _ 0 sampleKey _ _ _ rfl
    (@Perform.fetchedReport (.empty .ok) rfl)) (silent fun _ => rfl))
  have run := run.snoc (@SharedStep.stored _ _ _ 0 _ _ .epoch rfl List.not_mem_nil)
  have run := run.snoc (.looked (@LookupStep.performed _ _ 0 sampleKey _ _ _ rfl
    (.putConfirmed (some .epoch))) (silent fun _ => ⟨_, rfl, rfl⟩))
  have run := run.snoc (.looked (@LookupStep.published _ _ 0 sampleKey _ _ rfl rfl)
    (silent trivial))
  have run := run.snoc (.looked (@LookupStep.removed _ _ 0 sampleKey _ _ rfl rfl)
    (silent trivial))
  have run := run.snoc (.looked (@LookupStep.received _ _ 0 sampleRequest sampleKey 0 false _ _ rfl
    rfl rfl) (silent trivial))
  have run := run.snoc (.looked (@LookupStep.received _ _ 1 sampleRequest sampleKey 0 true _ _ rfl
    rfl rfl) (silent trivial))
  have run := run.snoc (.looked (@LookupStep.registered _ _ 2 sampleRequest sampleKey 1 rfl rfl rfl
    (by decide) rfl rfl) (silent trivial))
  have run := run.snoc (.looked (@LookupStep.performed _ _ 1 sampleKey _ _ _ rfl
    (.recheckHit { outcome := .empty .ok, expiresAt := .epoch })) (silent fun _ => rfl))
  have run := run.snoc (.looked (@LookupStep.published _ _ 1 sampleKey _ _ rfl rfl)
    (silent trivial))
  have run := run.snoc (.looked (@LookupStep.received _ _ 2 sampleRequest sampleKey 1 false _ _ rfl
    rfl rfl) (silent trivial))
  refine ⟨_, _, run, rfl, fun caller below => ?_⟩
  match caller, below with
  | 0, _ | 1, _ | 2, _ => exact ⟨_, rfl⟩

/-- All three return what was fetched once. -/
theorem fetched_once_first :
    ∃ (trace : List LookupEvent) (shared : SharedLookups) (outcome : Outcome),
      fetchStarts sampleKey trace = 1 ∧
      (∀ caller < 3, ∃ result, shared.lookups.callers caller =
        some { request := sampleRequest, phase := .returned result } ∧ result.outcome = outcome) ∧
      ∀ cached, shared.stored = some cached → cached.outcome = outcome := by
  obtain ⟨trace, shared, run, fetched, served⟩ := firstFetch_run
  obtain ⟨_, ⟨outcome, _, stored, returned⟩, _⟩ := fetched_once run
  refine ⟨trace, shared, outcome, fetched, fun caller below => ?_,
    fun cached present => stored cached (Or.inr present)⟩
  obtain ⟨result, there⟩ := served caller below
  exact ⟨result, there, returned _ _ _ there rfl⟩

end RustEnrich.Enrichment
