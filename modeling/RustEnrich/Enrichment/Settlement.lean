import RustEnrich.Enrichment.SharedLookups

/-!
# Every lookup settles

Whatever the storage and the providers answer, and whichever tasks panic or are
cancelled: once no more callers come every step uses up one of those that are left,
and as long as somebody is not through, somebody has a step to take that needs
neither a clock nor a caller that gives up. So every caller gets its answer, every
task ends, and the table is empty in the end.
-/

namespace RustEnrich.Enrichment

open Transitions Storage FiniteTotal

/-- What may happen once no more callers come and none gives up. -/
def LookupEvent.Inner (lookups : Lookups) : LookupEvent → Prop
  | .started _ | .timedOut _ | .dropped _ => False
  | .cancelFired => lookups.cancelled = false
  | _ => True

/-- A step of the lookups themselves. -/
def InnerStep (config : LookupConfig) : Relation Lookups LookupEvent :=
  fun before events after =>
    LookupStep config before events after ∧ ∀ event ∈ events, event.Inner before

/-- Nobody is left to take a step. -/
structure AtRest (lookups : Lookups) : Prop where
  callers : ∀ id caller, lookups.callers id = some caller → caller.phase.Settled
  owners : ∀ id owner, lookups.owners id = some owner → ∃ result, owner.work = .finished result
  table : ∀ key, key ∉ lookups.flights
  lock : lookups.lock = none

/-- A caller that timed out or was dropped. -/
def CallerPhase.Gone : CallerPhase → Prop
  | .timedOut | .dropped => True
  | _ => False

/-- Every caller of one state that had not given up is answered in another. -/
def AllAnswered (before after : Lookups) : Prop :=
  ∀ id request phase, before.callers id = some { request, phase } → ¬ phase.Gone →
    ∃ result, after.callers id = some { request, phase := .returned result }

variable {config : LookupConfig} {lookups after : Lookups} {events trace : List LookupEvent}
  {id : OwnerId} {caller : CallerId} {request : LookupRequest} {phase : CallerPhase}
  {key : FlightKey} {work : Work} {channel : Option LookupResult} {total : Nat}

/-! ### The steps that are left -/

/-- The lookups with a store that nobody writes. -/
def Lookups.unshared (lookups : Lookups) : SharedLookups where
  lookups
  stored := none
  puts := []

/-- A step is one of lookups over any cache for a key that it does not speak of. -/
theorem LookupStep.shared (taken : LookupStep config lookups events after)
    (unfired : .cancelFired ∉ events) :
    ∃ key, SharedStep config key lookups.unshared events after.unshared := by
  have other : ∀ own : FlightKey, ∃ key, own ≠ key := by
    intro own
    cases provider : own.provider with
    | abuseipdb =>
        refine ⟨{ own with provider := .virustotal }, fun same => ?_⟩
        rw [same] at provider
        cases provider
    | virustotal =>
        refine ⟨{ own with provider := .abuseipdb }, fun same => ?_⟩
        rw [same] at provider
        cases provider
  have agrees : ∃ key, ∀ event ∈ events, Agrees key none event := by
    cases taken with
    | @cacheHit caller request own cached reading =>
        obtain ⟨key, distinct⟩ := other own
        exact ⟨key, List.forall_mem_singleton.mpr fun same => absurd same distinct⟩
    | @cacheMissed caller request own answer missed reading =>
        obtain ⟨key, distinct⟩ := other own
        exact ⟨key, List.forall_mem_singleton.mpr fun same => absurd same distinct⟩
    | @busy caller request own unlocked missed absent full =>
        obtain ⟨key, distinct⟩ := other own
        exact ⟨key, List.forall_mem_singleton.mpr fun same => absurd same distinct⟩
    | @unavailable caller request own unlocked missed absent room fired =>
        obtain ⟨key, distinct⟩ := other own
        exact ⟨key, List.forall_mem_singleton.mpr fun same => absurd same distinct⟩
    | @performed owner own work next performed spawned performs =>
        obtain ⟨key, distinct⟩ := other own
        refine ⟨key, fun event member => ?_⟩
        obtain ⟨inner, _, rfl⟩ := List.mem_map.mp member
        cases inner with
        | fetchStarted => trivial
        | panicked => exact distinct
        | _ => exact fun same => absurd same distinct
    | cancelFired => exact absurd List.mem_cons_self unfired
    | _ => exact ⟨⟨.abuseipdb, ""⟩, List.forall_mem_singleton.mpr trivial⟩
  obtain ⟨key, agrees⟩ := agrees
  exact ⟨key, .looked taken agrees⟩

/-- The steps that are left, and the one of the cancel token. -/
def Remaining (lookups : Lookups) (total : Nat) : Prop :=
  ∃ rest, Budget lookups.unshared rest ∧ rest + (!lookups.cancelled).toNat = total

/-- Only a fired cancellation cancels. -/
theorem LookupStep.cancelled_of_unfired (taken : LookupStep config lookups events after)
    (unfired : .cancelFired ∉ events) : after.cancelled = lookups.cancelled := by
  cases taken with
  | cancelFired => exact absurd List.mem_cons_self unfired
  | _ => rfl

/-- A step of the lookups themselves leaves fewer of them. -/
theorem InnerStep.spends (taken : InnerStep config lookups events after)
    (remaining : Remaining lookups total) : ∃ rest < total, Remaining after rest := by
  obtain ⟨taken, inner⟩ := taken
  obtain ⟨left, budget, rfl⟩ := remaining
  by_cases fired : LookupEvent.cancelFired ∈ events
  · have running : lookups.cancelled = false := inner _ fired
    cases taken with
    | cancelFired =>
        refine ⟨left, ?_, left, budget, Nat.add_zero left⟩
        rw [running]
        exact Nat.lt_succ_self left
    | _ => simp at fired
  · obtain ⟨key, shared⟩ := taken.shared fired
    obtain ⟨rest, less, still⟩ := shared.spends (fun caller started => inner _ started) budget
    refine ⟨rest + (!after.cancelled).toNat, ?_, rest, still, rfl⟩
    rw [taken.cancelled_of_unfired fired]
    omega

/-- Only so many steps are left in any state. -/
theorem remaining_run (run : Run (LookupStep config) .initial trace lookups) :
    ∃ total, Remaining lookups total := by
  refine run.stateInvariant (fun lookups => ∃ total, Remaining lookups total) ?_ ?_
  · exact ⟨_, 0, ⟨0, 0, totals_zero, totals_zero, rfl⟩, rfl⟩
  · rintro before events after ⟨_, left, budget, _⟩ taken
    by_cases fired : LookupEvent.cancelFired ∈ events
    · cases taken with
      | cancelFired => exact ⟨_, left, budget, rfl⟩
      | _ => simp at fired
    · by_cases quiet : ∀ caller, .started caller ∉ events
      · obtain ⟨key, shared⟩ := taken.shared fired
        obtain ⟨rest, _, still⟩ := shared.spends quiet budget
        exact ⟨_, rest, still, rfl⟩
      · cases taken with
        | answered caller fresh refuses =>
            obtain ⟨rest, still, _⟩ := budget.setCaller caller _ (.returned _)
            exact ⟨_, rest, still, rfl⟩
        | started caller fresh accepts =>
            obtain ⟨rest, still, _⟩ := budget.setCaller caller _ (.reading _)
            exact ⟨_, rest, still, rfl⟩
        | _ => exact absurd (by simp) quiet

/-! ### Somebody has a step to take -/

namespace FlightsInvariant

/-- A lock is given back. -/
theorem unlocks (invariant : FlightsInvariant config lookups) (locked : lookups.lock ≠ none) :
    ∃ events after, InnerStep config lookups events after := by
  obtain ⟨other, after, removed, _⟩ := invariant.releases locked
  exact ⟨_, after, removed, List.forall_mem_singleton.mpr trivial⟩

/-- An owner that is not finished can get on. -/
theorem owner_moves (invariant : FlightsInvariant config lookups)
    (spawned : lookups.owners id = some { key, work, channel }) (unfinished : work.Unfinished) :
    ∃ events after, InnerStep config lookups events after := by
  have consistent := invariant.consistent id _ spawned
  cases work with
  | rechecking =>
      cases consistent
      refine ⟨_, _, .performed spawned (@Perform.recheckMissed (.ok none) (by simp)), ?_⟩
      exact List.forall_mem_cons.mpr ⟨trivial, List.forall_mem_singleton.mpr trivial⟩
  | fetching =>
      cases consistent
      exact ⟨_, _, .performed spawned
        (.fetchedFailure (Outcome.failure_isCacheable .providerTimeout)),
        List.forall_mem_singleton.mpr trivial⟩
  | storing outcome =>
      cases consistent
      exact ⟨_, _, .performed spawned (.putFailed .timeout), List.forall_mem_singleton.mpr trivial⟩
  | completed result =>
      by_cases unlocked : lookups.lock = none
      · exact ⟨_, _, .published unlocked spawned, List.forall_mem_singleton.mpr trivial⟩
      · exact invariant.unlocks unlocked
  | published result =>
      apply invariant.unlocks
      rw [(invariant.locked id).mpr ⟨key, result, channel, spawned⟩]
      exact nofun
  | finished result => exact unfinished.elim

/-- A caller that is not settled can get on. -/
theorem caller_moves (invariant : FlightsInvariant config lookups)
    (there : lookups.callers caller = some { request, phase }) (unsettled : ¬ phase.Settled) :
    ∃ events after, InnerStep config lookups events after := by
  cases phase with
  | reading own =>
      exact ⟨_, _, @LookupStep.cacheMissed _ _ _ _ _ (.ok none) (by simp) there,
        List.forall_mem_singleton.mpr trivial⟩
  | missed own =>
      by_cases unlocked : lookups.lock = none
      · cases flying : lookups.flights.lookup own with
        | some owner =>
            exact ⟨_, _, .joined unlocked there flying, List.forall_mem_singleton.mpr trivial⟩
        | none =>
            by_cases full : config.maxSharedLookups ≤ lookups.flights.keys.length
            · exact ⟨_, _, .busy unlocked there flying full, List.forall_mem_singleton.mpr trivial⟩
            · cases token : lookups.cancelled with
              | true =>
                  exact ⟨_, _, .unavailable unlocked there flying (not_le.mp full) token,
                    List.forall_mem_singleton.mpr trivial⟩
              | false =>
                  obtain ⟨bound, unused⟩ := invariant.spare
                  exact ⟨_, _, .registered bound unlocked there flying (not_le.mp full) token
                    (unused bound (le_refl _)), List.forall_mem_singleton.mpr trivial⟩
      · exact invariant.unlocks unlocked
  | waiting own owner joined =>
      obtain ⟨⟨flight, work, channel⟩, spawned, _⟩ := invariant.waiting caller _ there _ _ _ rfl
      cases channel with
      | some result =>
          exact ⟨_, _, .received there spawned rfl, List.forall_mem_singleton.mpr trivial⟩
      | none =>
          apply invariant.owner_moves spawned
          have consistent := invariant.consistent owner _ spawned
          cases work with
          | finished result => cases consistent
          | _ => trivial
  | returned | timedOut | dropped => exact absurd trivial unsettled

/-- Where nobody has a step to take, nobody is left. -/
theorem atRest (invariant : FlightsInvariant config lookups)
    (stuck : ¬ ∃ events after, InnerStep config lookups events after) : AtRest lookups := by
  have finished : ∀ id owner, lookups.owners id = some owner →
      ∃ result, owner.work = .finished result := by
    rintro id ⟨key, work, channel⟩ spawned
    cases work with
    | finished result => exact ⟨result, rfl⟩
    | _ => exact absurd (invariant.owner_moves spawned trivial) stuck
  refine ⟨?_, finished, ?_, ?_⟩
  · intro id caller there
    by_contra unsettled
    exact stuck (invariant.caller_moves there unsettled)
  · intro key listed
    obtain ⟨id, entry⟩ := Option.isSome_iff_exists.mp (AList.lookup_isSome.mpr listed)
    obtain ⟨owner, spawned, _, unfinished⟩ := (invariant.entries key id).mp entry
    obtain ⟨result, done⟩ := finished id owner spawned
    rw [done] at unfinished
    exact unfinished
  · by_contra locked
    exact stuck (invariant.unlocks locked)

end FlightsInvariant

/-! ### Nobody gives up -/

/-- A caller that gave up had done so before. -/
theorem InnerStep.gone (taken : InnerStep config lookups events after) :
    ∀ id caller, after.callers id = some caller → caller.phase.Gone →
      lookups.callers id = some caller := by
  obtain ⟨taken, inner⟩ := taken
  have unmoved : ∀ id caller, lookups.callers id = some caller → caller.phase.Gone →
      lookups.callers id = some caller := fun _ _ there _ => there
  cases taken with
  | timedOut | dropped | answered | started => exact (inner _ List.mem_cons_self).elim
  | cacheHit | cacheMissed | joined | busy | unavailable | received | channelClosed =>
      exact Lookups.forall_setCaller unmoved nofun
  | registered => exact Lookups.forall_setCaller unmoved nofun
  | _ => exact unmoved

/-- Callers are not forgotten, and none of them gives up. -/
theorem InnerStep.keeps (taken : InnerStep config lookups events after)
    (there : ∃ phase, lookups.callers caller = some { request, phase } ∧ ¬ phase.Gone) :
    ∃ phase, after.callers caller = some { request, phase } ∧ ¬ phase.Gone := by
  obtain ⟨phase, there, waits⟩ := there
  have stayed : ∃ phase, after.callers caller = some { request, phase } := by
    by_cases fired : LookupEvent.cancelFired ∈ events
    · cases taken.1 with
      | cancelFired => exact ⟨phase, there⟩
      | _ => simp at fired
    · obtain ⟨key, shared⟩ := taken.1.shared fired
      exact shared.keeps_caller ⟨phase, there⟩
  obtain ⟨next, here⟩ := stayed
  refine ⟨next, here, fun gone => ?_⟩
  have before := taken.gone caller _ here gone
  cases there.symm.trans before
  exact waits gone

/-- **Every lookup settles.** From every reachable state of the lookups, once no more
callers come and none gives up, whatever else happens: every caller that has not given
up comes to its answer, every task ends, the flight lock is free and the table is
empty. -/
theorem lookups_settle (run : Run (LookupStep config) .initial trace lookups) :
    Inevitable (InnerStep config) (fun after => AtRest after ∧ AllAnswered lookups after)
      lookups := by
  obtain ⟨total, remaining⟩ := remaining_run run
  refine @Inevitable.of_budget _ _ _ _ _ Remaining
    (fun state => FlightsInvariant config state ∧ ∀ id request,
      (∃ phase, lookups.callers id = some { request, phase } ∧ ¬ phase.Gone) →
        ∃ phase, state.callers id = some { request, phase } ∧ ¬ phase.Gone)
    ?_ ?_ ?_ total remaining ⟨FlightsInvariant.run run, fun _ _ => id⟩
  · exact fun remaining taken => taken.spends remaining
  · rintro before events after ⟨invariant, kept⟩ taken
    exact ⟨invariant.step taken.1, fun id request there => taken.keeps (kept id request there)⟩
  · rintro state ⟨invariant, kept⟩ unmet
    by_contra stuck
    have rest := invariant.atRest stuck
    refine unmet ⟨rest, fun id request phase there waits => ?_⟩
    obtain ⟨next, here, still⟩ := kept id request ⟨phase, there, waits⟩
    have settled := rest.callers id _ here
    cases next with
    | returned result => exact ⟨result, here⟩
    | timedOut | dropped => exact absurd trivial still
    | reading | missed | waiting => exact settled.elim

/-- A caller whose flight is under way is answered. -/
theorem lookups_settle_registered :
    ∃ trace lookups, Run (LookupStep oneFlight) .initial trace lookups ∧
      lookups.callers 0 = some { request := sampleRequest, phase := .waiting sampleKey 0 false } ∧
      Inevitable (InnerStep oneFlight)
        (fun after => AtRest after ∧ AllAnswered lookups after) lookups := by
  obtain ⟨trace, lookups, run, there, _⟩ := registeredRun
  exact ⟨trace, lookups, run, there, lookups_settle run⟩

end RustEnrich.Enrichment
