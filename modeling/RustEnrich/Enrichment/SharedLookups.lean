import RustEnrich.Enrichment.Flights
import RustEnrich.Transitions.Inevitable
import RustEnrich.Collections.FiniteTotal

/-!
# Lookups over a cache that serves

The lookups of one key, over a cache that serves it: reads of the key answer
with the stored entry, a put is confirmed once its entry is stored, and the
entry stays. Every step of a caller or an owner is one of the few it has left,
so once no more callers come, each of them is served, unless it is dropped or
times out.
-/

namespace RustEnrich.Enrichment

open Transitions Storage FiniteTotal

/-- The lookups, the stored entry of the key and the owners that put it. -/
structure SharedLookups where
  lookups : Lookups
  stored : Option CachedOutcome
  puts : List OwnerId

/-- No caller yet, and an entry that may be there from the start. -/
def SharedLookups.start (first : Option CachedOutcome) : SharedLookups where
  lookups := .initial
  stored := first
  puts := []

/-- The cache answers for the key as it is stored, a fetch of the key yields a
cacheable outcome, no caller of the key finds the table full, and nothing is
cancelled. -/
def Agrees (key : FlightKey) (stored : Option CachedOutcome) : LookupEvent → Prop
  | .cacheRead _ read answer => read = key → answer = .ok stored
  | .performed _ own (.rechecked answer) => own = key → answer = .ok stored
  | .performed _ own (.fetched outcome) => own = key → outcome.isCacheable = true
  | .performed _ own (.putReturned answer) =>
      own = key → ∃ cached, stored = some cached ∧ answer = .ok (some cached.expiresAt)
  | .performed _ own .panicked => own ≠ key
  | .turnedAway _ asked code => asked = key → code ≠ .providerBusy
  | .cancelFired => False
  | _ => True

/-- What can happen to lookups that share their entry. -/
inductive SharedStep (config : LookupConfig) (key : FlightKey) :
    SharedLookups → List LookupEvent → SharedLookups → Prop
  | looked {shared : SharedLookups} {after : Lookups} {events : List LookupEvent}
      (taken : LookupStep config shared.lookups events after)
      (agrees : ∀ event ∈ events, Agrees key shared.stored event) :
      SharedStep config key shared events { shared with lookups := after }
  /-- The put of an owner takes effect. -/
  | stored {shared : SharedLookups} {owner : OwnerId} {outcome : Outcome}
      {channel : Option LookupResult} (expiresAt : DateTime)
      (spawned : shared.lookups.owners owner = some { key, work := .storing outcome, channel })
      (once : owner ∉ shared.puts) :
      SharedStep config key shared []
        { shared with stored := some { outcome, expiresAt }, puts := owner :: shared.puts }

/-! ### The steps that are left -/

/-- A step that starts no caller. -/
def QuietStep (config : LookupConfig) (key : FlightKey) : Relation SharedLookups LookupEvent :=
  fun before events after =>
    SharedStep config key before events after ∧ ∀ caller, .started caller ∉ events

/-- No caller moves on from here. -/
def CallerPhase.Settled : CallerPhase → Prop
  | .returned _ | .timedOut | .dropped => True
  | _ => False

/-- More than the steps a caller has left, its owner's included. -/
def CallerPhase.weight : CallerPhase → Nat
  | .reading _ => 10
  | .missed _ => 9
  | .waiting .. => 1
  | _ => 0

/-- The steps an owner has left, with those of its put. -/
def Work.weight (put : Nat) : Work → Nat
  | .rechecking => put + 5
  | .fetching => put + 4
  | .storing _ => put + 3
  | .completed _ => 2
  | .published _ => 1
  | .finished _ => 0

/-- The steps a caller has left. -/
def callerWeight (lookups : Lookups) (id : CallerId) : Nat :=
  ((lookups.callers id).map fun caller => caller.phase.weight).getD 0

/-- The steps an owner has left. -/
def ownerWeight (shared : SharedLookups) (id : OwnerId) : Nat :=
  ((shared.lookups.owners id).map fun owner =>
    owner.work.weight (if id ∈ shared.puts then 0 else 1)).getD 0

/-- The steps that callers and owners have left. -/
def Budget (shared : SharedLookups) (total : Nat) : Prop :=
  ∃ callers owners, Totals (callerWeight shared.lookups) callers ∧
    Totals (ownerWeight shared) owners ∧ callers + owners = total

variable {config : LookupConfig} {key : FlightKey} {shared next : SharedLookups}
  {after : Lookups} {events : List LookupEvent} {caller : CallerId} {request : LookupRequest}
  {phase moved : CallerPhase} {id : OwnerId} {owner : Owner} {total : Nat}

/-- A caller moves. -/
theorem Budget.setCaller (budget : Budget shared total) (caller : CallerId)
    (request : LookupRequest) (moved : CallerPhase) :
    ∃ rest, Budget { shared with lookups := shared.lookups.setCaller caller request moved } rest ∧
      rest + callerWeight shared.lookups caller = total + moved.weight := by
  obtain ⟨callers, owners, waiting, working, rfl⟩ := budget
  obtain ⟨left, still, change⟩ := @Totals.change _ _
    (callerWeight (shared.lookups.setCaller caller request moved)) _ _ waiting caller (by
      intro other distinct
      simp [callerWeight, Lookups.setCaller, Function.update_of_ne distinct])
  have now : callerWeight (shared.lookups.setCaller caller request moved) caller =
      moved.weight := by
    simp [callerWeight, Lookups.setCaller]
  rw [now] at change
  exact ⟨left + owners, ⟨left, owners, still, working, rfl⟩, by omega⟩

/-- An owner moves, or its put takes effect. -/
theorem Budget.setOwner (budget : Budget shared total)
    (updated : next.lookups.owners = Function.update shared.lookups.owners id (some owner))
    (callers : next.lookups.callers = shared.lookups.callers)
    (puts : ∀ other, other ≠ id → (other ∈ next.puts ↔ other ∈ shared.puts)) :
    ∃ rest, Budget next rest ∧ rest + ownerWeight shared id =
      total + owner.work.weight (if id ∈ next.puts then 0 else 1) := by
  obtain ⟨waits, owners, waiting, working, rfl⟩ := budget
  obtain ⟨left, still, change⟩ := @Totals.change _ _ (ownerWeight next) _ _ working id (by
    intro other distinct
    simp [ownerWeight, updated, Function.update_of_ne distinct, puts other distinct])
  have now : ownerWeight next id = owner.work.weight (if id ∈ next.puts then 0 else 1) := by
    simp [ownerWeight, updated]
  have same : callerWeight next.lookups = callerWeight shared.lookups := by
    funext other
    rw [callerWeight, callerWeight, callers]
  rw [now] at change
  exact ⟨waits + left, ⟨waits, left, same ▸ waiting, still, rfl⟩, by omega⟩

/-- A caller that awaits has steps left. -/
theorem CallerPhase.Awaiting.weight (awaiting : phase.Awaiting) : 0 < phase.weight := by
  cases phase with
  | reading | waiting => simp [CallerPhase.weight]
  | missed | returned | timedOut | dropped => exact awaiting.elim

/-- Work that is performed has more than two steps left. -/
theorem Work.Performing.weight {work : Work} (performing : work.Performing) (put : Nat) :
    2 < work.weight put := by
  cases work with
  | rechecking | fetching | storing =>
      simp only [Work.weight]
      omega
  | completed | published | finished => exact performing.elim

/-- A step of `perform` is one of those its owner has left. -/
theorem Perform.weight_lt {work done : Work} {performed : List PerformEvent}
    (performs : Perform work performed done) (put : Nat) : done.weight put < work.weight put := by
  cases performs with
  | panicked performing => exact performing.weight put
  | _ =>
      simp only [Work.weight]
      omega

/-- A caller takes one of its steps. -/
theorem Budget.callerSpends (budget : Budget shared total)
    (there : shared.lookups.callers caller = some { request, phase })
    (less : moved.weight < phase.weight) :
    ∃ rest < total,
      Budget { shared with lookups := shared.lookups.setCaller caller request moved } rest := by
  obtain ⟨rest, left, change⟩ := budget.setCaller caller request moved
  have held : callerWeight shared.lookups caller = phase.weight := by
    simp [callerWeight, there]
  exact ⟨rest, by omega, left⟩

/-- An owner takes one of its steps. -/
theorem Budget.ownerSpends (budget : Budget shared total) {spent : Owner}
    (spawned : shared.lookups.owners id = some owner)
    (updated : after.owners = Function.update shared.lookups.owners id (some spent))
    (callers : after.callers = shared.lookups.callers)
    (less : ∀ put, spent.work.weight put < owner.work.weight put) :
    ∃ rest < total, Budget { shared with lookups := after } rest := by
  obtain ⟨rest, left, change⟩ := @Budget.setOwner shared { shared with lookups := after } id spent
    total budget updated callers (fun _ _ => Iff.rfl)
  have held : ownerWeight shared id = owner.work.weight (if id ∈ shared.puts then 0 else 1) := by
    simp [ownerWeight, spawned]
  have spends := less (if id ∈ shared.puts then 0 else 1)
  rw [held] at change
  change rest + owner.work.weight (if id ∈ shared.puts then 0 else 1) =
    total + spent.work.weight (if id ∈ shared.puts then 0 else 1) at change
  exact ⟨rest, by omega, left⟩

/-- Every step that starts no caller takes one of the steps that are left. A
caller that registers an owner has those of the owner among its own. -/
theorem SharedStep.spends (taken : SharedStep config key shared events next)
    (quiet : ∀ caller, .started caller ∉ events) (budget : Budget shared total) :
    ∃ rest < total, Budget next rest := by
  cases taken with
  | @stored owner outcome channel expiresAt spawned once =>
      obtain ⟨rest, left, change⟩ := @Budget.setOwner shared
        { shared with stored := some { outcome, expiresAt }, puts := owner :: shared.puts } owner
        _ total budget (Function.update_eq_self_iff.mpr spawned.symm).symm rfl (by
          intro other distinct
          simp [distinct])
      refine ⟨rest, ?_, left⟩
      simp only [ownerWeight, spawned, Option.map_some, Option.getD_some, once, ↓reduceIte,
        List.mem_cons, true_or, Work.weight] at change
      omega
  | looked taken agrees =>
    cases taken with
    | answered caller fresh refuses => exact absurd (List.mem_singleton.mpr rfl) (quiet caller)
    | started caller fresh accepts => exact absurd (List.mem_singleton.mpr rfl) (quiet caller)
    | cacheHit cached reading => exact budget.callerSpends reading (by simp [CallerPhase.weight])
    | cacheMissed missed reading =>
        exact budget.callerSpends reading (by simp [CallerPhase.weight])
    | joined unlocked missed flying =>
        exact budget.callerSpends missed (by simp [CallerPhase.weight])
    | busy unlocked missed absent full =>
        exact budget.callerSpends missed (by simp [CallerPhase.weight])
    | unavailable unlocked missed absent room fired =>
        exact budget.callerSpends missed (by simp [CallerPhase.weight])
    | @registered caller request own owner unlocked missed absent room running fresh =>
        obtain ⟨spawning, began, change⟩ := @Budget.setOwner shared
          { shared with
            lookups := { shared.lookups with
              flights := shared.lookups.flights.insert own owner }.setOwner owner
                { key := own, work := .rechecking, channel := none } }
          owner _ total budget rfl rfl (fun _ _ => Iff.rfl)
        obtain ⟨rest, left, spent⟩ := began.setCaller caller request (.waiting own owner false)
        refine ⟨rest, ?_, left⟩
        simp only [ownerWeight, fresh, Option.map_none, Option.getD_none, Work.weight] at change
        simp only [callerWeight, Lookups.setOwner_callers, missed, Option.map_some,
          Option.getD_some, CallerPhase.weight] at spent
        split at change <;> omega
    | received waiting spawned carried =>
        exact budget.callerSpends waiting (by simp [CallerPhase.weight])
    | channelClosed waiting spawned gone silent =>
        exact budget.callerSpends waiting (by simp [CallerPhase.weight])
    | timedOut there awaiting => exact budget.callerSpends there awaiting.weight
    | dropped there awaiting => exact budget.callerSpends there awaiting.weight
    | performed spawned performs => exact budget.ownerSpends spawned rfl rfl performs.weight_lt
    | cancelled spawned performing fired =>
        exact budget.ownerSpends spawned rfl rfl performing.weight
    | published unlocked spawned =>
        exact budget.ownerSpends spawned rfl rfl (fun _ => by simp [Work.weight])
    | removed locked spawned =>
        exact budget.ownerSpends spawned rfl rfl (fun _ => by simp [Work.weight])
    | cancelFired => exact (agrees _ (List.mem_singleton.mpr rfl)).elim

/-- In every reachable state only so many steps are left. -/
theorem budget_run {first : Option CachedOutcome} {trace : List LookupEvent}
    (run : Run (SharedStep config key) (.start first) trace shared) :
    ∃ total, Budget shared total := by
  refine run.stateInvariant (fun shared => ∃ total, Budget shared total) ?_ ?_
  · exact ⟨0, 0, 0, totals_zero, totals_zero, rfl⟩
  · rintro before events next ⟨total, budget⟩ taken
    by_cases quiet : ∀ caller, .started caller ∉ events
    · obtain ⟨rest, _, left⟩ := taken.spends quiet budget
      exact ⟨rest, left⟩
    · cases taken with
      | stored => exact absurd (fun _ => List.not_mem_nil) quiet
      | looked taken agrees =>
          cases taken with
          | answered caller fresh refuses =>
              obtain ⟨rest, left, _⟩ := budget.setCaller caller _ (.returned _)
              exact ⟨rest, left⟩
          | started caller fresh accepts =>
              obtain ⟨rest, left, _⟩ := budget.setCaller caller _ (.reading _)
              exact ⟨rest, left⟩
          | _ => exact absurd (by simp) quiet

/-- No step forgets a caller or what it asked for. -/
theorem SharedStep.keeps_caller (taken : SharedStep config key shared events next)
    (there : ∃ phase, shared.lookups.callers caller = some { request, phase }) :
    ∃ phase, next.lookups.callers caller = some { request, phase } := by
  obtain ⟨phase, there⟩ := there
  have updated : ∀ {other : CallerId} {asked : LookupRequest} {moved : CallerPhase},
      (∀ found, shared.lookups.callers other = some found → found.request = asked) →
      ∃ phase, Function.update shared.lookups.callers other
        (some { request := asked, phase := moved }) caller = some { request, phase } := by
    intro other asked moved same
    by_cases own : caller = other
    · subst own
      obtain rfl := same _ there
      exact ⟨moved, Function.update_self ..⟩
    · exact ⟨phase, (Function.update_of_ne own ..).trans there⟩
  have moves : ∀ {other : CallerId} {asked : LookupRequest} {old moved : CallerPhase},
      shared.lookups.callers other = some { request := asked, phase := old } →
      ∃ phase, Function.update shared.lookups.callers other
        (some { request := asked, phase := moved }) caller = some { request, phase } := by
    intro other asked old moved held
    apply updated
    intro found same
    cases held.symm.trans same
    rfl
  cases taken with
  | stored expiresAt spawned once => exact ⟨phase, there⟩
  | looked taken agrees =>
      cases taken with
      | answered other fresh refuses =>
          exact updated fun _ held => absurd (fresh.symm.trans held) nofun
      | started other fresh accepts =>
          exact updated fun _ held => absurd (fresh.symm.trans held) nofun
      | cacheHit cached reading => exact moves reading
      | cacheMissed missed reading => exact moves reading
      | joined unlocked missed flying => exact moves missed
      | busy unlocked missed absent full => exact moves missed
      | unavailable unlocked missed absent room fired => exact moves missed
      | registered owner unlocked missed absent room running fresh => exact moves missed
      | received waiting spawned carried => exact moves waiting
      | channelClosed waiting spawned gone silent => exact moves waiting
      | timedOut held awaiting => exact moves held
      | dropped held awaiting => exact moves held
      | _ => exact ⟨phase, there⟩

end RustEnrich.Enrichment
