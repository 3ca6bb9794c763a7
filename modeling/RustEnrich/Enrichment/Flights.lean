import RustEnrich.Enrichment.Lookup

/-!
# The flight table

Whatever callers, panics and the cancel token do, the flight table holds exactly
the keys of the live owners, one owner for each key, and a subscriber is never
left with a channel that stays silent: an owner publishes before it removes its
entry, both under the flight lock.
-/

namespace RustEnrich.Enrichment

open Transitions Storage

namespace Work

variable {work next : Work} {events : List PerformEvent}

/-- The entry of the flight is yet to be removed. -/
def Unfinished : Work → Prop
  | .finished _ => False
  | _ => True

/-- Yet to publish. -/
def Unpublished : Work → Prop
  | .published _ | .finished _ => False
  | _ => True

/-- What is not published is not finished. -/
theorem Unpublished.unfinished (unpublished : work.Unpublished) : work.Unfinished := by
  cases work with
  | finished result => exact unpublished
  | _ => trivial

/-- What is being performed is not published. -/
theorem Performing.unpublished (performing : work.Performing) : work.Unpublished := by
  cases work with
  | rechecking | fetching | storing => trivial
  | completed | published | finished => exact performing.elim

end Work

/-- Work that gets on is being performed. -/
theorem Perform.performing {work next : Work} {events : List PerformEvent}
    (performs : Perform work events next) : work.Performing := by
  cases performs with
  | panicked performing => exact performing
  | _ => trivial

/-- Work that gets on is not published. -/
theorem Perform.unpublished {work next : Work} {events : List PerformEvent}
    (performs : Perform work events next) : next.Unpublished := by
  cases performs <;> trivial

/-- An owner carries its result on its channel from the moment it publishes. -/
def Owner.Consistent (owner : Owner) : Prop :=
  match owner.work with
  | .published result | .finished result => owner.channel = some result
  | _ => owner.channel = none

namespace Lookups

/-- A task that has registered a flight and has not removed it. -/
def Live (lookups : Lookups) (key : FlightKey) (id : OwnerId) : Prop :=
  ∃ owner, lookups.owners id = some owner ∧ owner.key = key ∧ owner.work.Unfinished

/-- What the channel of a flight carries. -/
def carried (lookups : Lookups) (id : OwnerId) : Option LookupResult :=
  (lookups.owners id).bind Owner.channel

variable {lookups : Lookups} {key : FlightKey} {id other : OwnerId} {owner : Owner}

/-- A caller that gets on leaves the flights alive. -/
@[simp] theorem live_setCaller (caller : CallerId) (request : LookupRequest)
    (phase : CallerPhase) :
    (lookups.setCaller caller request phase).Live key id ↔ lookups.Live key id :=
  Iff.rfl

/-- An owner that gets on lives while it is not finished. -/
theorem live_setOwner_self :
    (lookups.setOwner id owner).Live key id ↔ owner.key = key ∧ owner.work.Unfinished := by
  unfold Live setOwner
  simp only [Function.update_self, Option.some.injEq]
  constructor
  · rintro ⟨_, rfl, same, unfinished⟩
    exact ⟨same, unfinished⟩
  · rintro ⟨same, unfinished⟩
    exact ⟨owner, rfl, same, unfinished⟩

/-- An owner that gets on leaves the others alive. -/
theorem live_setOwner_of_ne (distinct : other ≠ id) :
    (lookups.setOwner id owner).Live key other ↔ lookups.Live key other := by
  unfold Live setOwner
  simp only [Function.update_of_ne distinct]

end Lookups

/-- The table, the lock and the channels agree with the owners. -/
structure FlightsInvariant (config : LookupConfig) (lookups : Lookups) : Prop where
  entries : ∀ key id, lookups.flights.lookup key = some id ↔ lookups.Live key id
  size : lookups.flights.keys.length ≤ config.maxSharedLookups
  consistent : ∀ id owner, lookups.owners id = some owner → owner.Consistent
  /-- The owner between its publication and its removal is the one that holds
  the lock. -/
  locked : ∀ id, lookups.lock = some id ↔
    ∃ key result channel, lookups.owners id = some { key, work := .published result, channel }
  waiting : ∀ id caller, lookups.callers id = some caller → ∀ key owner joined,
    caller.phase = .waiting key owner joined →
    ∃ flight, lookups.owners owner = some flight ∧ flight.key = key
  /-- Tasks can always be spawned. -/
  spare : ∃ bound : Nat, ∀ id : Nat, bound ≤ id → lookups.owners id = none

namespace FlightsInvariant

variable {config : LookupConfig} {lookups after : Lookups} {events trace : List LookupEvent}
  {caller : CallerId} {request : LookupRequest} {phase : CallerPhase} {key : FlightKey}
  {id : OwnerId}

/-- At the start there are no flights. -/
theorem initial (config : LookupConfig) : FlightsInvariant config .initial where
  entries := by
    intro key id
    constructor
    · intro found
      cases found
    · rintro ⟨_, spawned, _⟩
      cases spawned
  size := Nat.zero_le _
  consistent := by
    intro id owner spawned
    cases spawned
  locked := by
    intro id
    constructor
    · intro locked
      cases locked
    · rintro ⟨_, _, _, spawned⟩
      cases spawned
  waiting := by
    intro id caller there
    cases there
  spare := ⟨0, fun _ _ => rfl⟩

/-- A caller moves. Only one that starts to wait has to know its flight. -/
theorem setCaller (invariant : FlightsInvariant config lookups)
    (knows : ∀ key id joined, phase = .waiting key id joined →
      ∃ owner, lookups.owners id = some owner ∧ owner.key = key) :
    FlightsInvariant config (lookups.setCaller caller request phase) where
  entries := invariant.entries
  size := invariant.size
  consistent := invariant.consistent
  locked := invariant.locked
  waiting := Lookups.forall_setCaller invariant.waiting knows
  spare := invariant.spare

/-- There is always a number for another owner. -/
theorem spare_setOwner (invariant : FlightsInvariant config lookups) (id : OwnerId)
    (owner : Owner) :
    ∃ bound : Nat, ∀ other : Nat, bound ≤ other →
      (lookups.setOwner id owner).owners other = none := by
  obtain ⟨bound, unused⟩ := invariant.spare
  refine ⟨max bound (id + 1), ?_⟩
  intro other past
  have distinct : other ≠ id := by
    rintro rfl
    exact absurd ((le_max_right _ _).trans past) (Nat.not_succ_le_self _)
  exact (Function.update_of_ne distinct ..).trans (unused other ((le_max_left _ _).trans past))

/-- The owners that callers wait for keep their keys. -/
theorem waiting_setOwner (invariant : FlightsInvariant config lookups) {owner : Owner}
    (kept : ∀ old, lookups.owners id = some old → old.key = owner.key) :
    ∀ asked caller, lookups.callers asked = some caller → ∀ key other joined,
      caller.phase = .waiting key other joined →
      ∃ found, (lookups.setOwner id owner).owners other = some found ∧ found.key = key := by
  intro asked caller there key other joined phase
  obtain ⟨found, spawned, own⟩ := invariant.waiting asked caller there key other joined phase
  unfold Lookups.setOwner
  by_cases same : other = id
  · subst same
    exact ⟨owner, Function.update_self .., (kept found spawned).symm.trans own⟩
  · exact ⟨found, (Function.update_of_ne same ..).trans spawned, own⟩

/-- An owner at work, before and after a step of it. -/
theorem setOwner (invariant : FlightsInvariant config lookups) {work next : Work}
    {channel : Option LookupResult}
    (spawned : lookups.owners id = some { key, work, channel })
    (before : work.Unpublished) (after : next.Unpublished) :
    FlightsInvariant config (lookups.setOwner id { key, work := next, channel := none }) where
  entries := by
    intro asked other
    rw [Lookups.setOwner_flights, invariant.entries]
    by_cases same : other = id
    · subst same
      rw [Lookups.live_setOwner_self]
      constructor
      · rintro ⟨_, found, own, _⟩
        cases spawned.symm.trans found
        exact ⟨own, after.unfinished⟩
      · rintro ⟨own, _⟩
        exact ⟨_, spawned, own, before.unfinished⟩
    · rw [Lookups.live_setOwner_of_ne same]
  size := invariant.size
  consistent := by
    apply Lookups.forall_setOwner invariant.consistent
    cases next with
    | published result | finished result => exact after.elim
    | _ => rfl
  locked := by
    intro other
    rw [Lookups.setOwner_lock, invariant.locked]
    unfold Lookups.setOwner
    by_cases same : other = id
    · subst same
      rw [spawned]
      simp only [Function.update_self, Option.some.injEq, Owner.mk.injEq]
      constructor
      · rintro ⟨_, result, _, _, rfl, _⟩
        exact before.elim
      · rintro ⟨_, result, _, _, rfl, _⟩
        exact after.elim
    · simp only [Function.update_of_ne same]
  waiting := by
    apply invariant.waiting_setOwner
    intro old found
    cases spawned.symm.trans found
    rfl
  spare := invariant.spare_setOwner id _

/-- A registration under the lock. -/
theorem register (invariant : FlightsInvariant config lookups)
    (absent : lookups.flights.lookup key = none)
    (room : lookups.flights.keys.length < config.maxSharedLookups)
    (fresh : lookups.owners id = none) :
    FlightsInvariant config
      ({ lookups with flights := lookups.flights.insert key id }.setOwner id
        { key, work := .rechecking, channel := none }) where
  entries := by
    intro asked other
    rw [Lookups.setOwner_flights]
    by_cases same : other = id
    · subst same
      rw [Lookups.live_setOwner_self]
      by_cases own : asked = key
      · subst own
        simp [Work.Unfinished]
      · rw [AList.lookup_insert_ne own, invariant.entries]
        constructor
        · rintro ⟨_, spawned, _⟩
          cases fresh.symm.trans spawned
        · rintro ⟨same, _⟩
          exact absurd same.symm own
    · rw [Lookups.live_setOwner_of_ne same]
      change _ ↔ lookups.Live asked other
      rw [← invariant.entries]
      by_cases own : asked = key
      · subst own
        rw [AList.lookup_insert, absent]
        simp [Ne.symm same]
      · rw [AList.lookup_insert_ne own]
  size := by
    rw [Lookups.setOwner_flights, AList.keys_insert, List.length_cons]
    exact (List.length_erase_le ..).trans_lt room
  consistent := Lookups.forall_setOwner invariant.consistent rfl
  locked := by
    intro other
    change lookups.lock = some other ↔ _
    rw [invariant.locked]
    unfold Lookups.setOwner
    by_cases same : other = id
    · subst same
      simp [fresh]
    · simp only [Function.update_of_ne same]
  waiting := by
    apply invariant.waiting_setOwner
    intro old spawned
    cases fresh.symm.trans spawned
  spare := invariant.spare_setOwner id _

/-- A publication takes the lock. -/
theorem publish (invariant : FlightsInvariant config lookups) {result : LookupResult}
    {channel : Option LookupResult} (unlocked : lookups.lock = none)
    (spawned : lookups.owners id = some { key, work := .completed result, channel }) :
    FlightsInvariant config ({ lookups with lock := some id }.setOwner id
      { key, work := .published result, channel := some result }) where
  entries := by
    intro asked other
    change lookups.flights.lookup asked = some other ↔ _
    rw [invariant.entries]
    by_cases same : other = id
    · subst same
      rw [Lookups.live_setOwner_self]
      constructor
      · rintro ⟨_, found, own, _⟩
        cases spawned.symm.trans found
        exact ⟨own, trivial⟩
      · rintro ⟨own, _⟩
        exact ⟨_, spawned, own, trivial⟩
    · rw [Lookups.live_setOwner_of_ne same]
      rfl
  size := invariant.size
  consistent := Lookups.forall_setOwner invariant.consistent rfl
  locked := by
    intro other
    change some id = some other ↔ _
    unfold Lookups.setOwner
    by_cases same : other = id
    · subst same
      simp
    · have others := invariant.locked other
      rw [unlocked] at others
      simp only [Function.update_of_ne same, Option.some.injEq, Ne.symm same, false_iff]
      intro held
      cases others.mpr held
  waiting := by
    apply invariant.waiting_setOwner
    intro old found
    cases spawned.symm.trans found
    rfl
  spare := invariant.spare_setOwner id _

/-- A removal takes out the entry of its own flight and frees the lock. -/
theorem remove (invariant : FlightsInvariant config lookups) {result : LookupResult}
    {channel : Option LookupResult} (locked : lookups.lock = some id)
    (spawned : lookups.owners id = some { key, work := .published result, channel }) :
    FlightsInvariant config
      ({ lookups with lock := none, flights := lookups.flights.erase key }.setOwner id
        { key, work := .finished result, channel }) where
  entries := by
    intro asked other
    rw [Lookups.setOwner_flights]
    have held : lookups.flights.lookup key = some id :=
      (invariant.entries key id).mpr ⟨_, spawned, rfl, trivial⟩
    by_cases same : other = id
    · subst same
      rw [Lookups.live_setOwner_self]
      by_cases own : asked = key
      · subst own
        simp [Work.Unfinished]
      · rw [AList.lookup_erase_ne own, invariant.entries]
        constructor
        · rintro ⟨_, found, same, _⟩
          cases spawned.symm.trans found
          exact absurd same.symm own
        · rintro ⟨_, finished⟩
          exact finished.elim
    · rw [Lookups.live_setOwner_of_ne same]
      change _ ↔ lookups.Live asked other
      rw [← invariant.entries]
      by_cases own : asked = key
      · subst own
        rw [AList.lookup_erase, held]
        simp [Ne.symm same]
      · rw [AList.lookup_erase_ne own]
  size := by
    rw [Lookups.setOwner_flights, AList.keys_erase]
    exact (List.length_erase_le ..).trans invariant.size
  consistent := by
    have carried : channel = some result := invariant.consistent id _ spawned
    exact Lookups.forall_setOwner invariant.consistent carried
  locked := by
    intro other
    unfold Lookups.setOwner
    by_cases same : other = id
    · subst same
      simp
    · have others := invariant.locked other
      rw [locked] at others
      simp only [Function.update_of_ne same]
      rw [← others]
      simp [Ne.symm same]
  waiting := by
    apply invariant.waiting_setOwner
    intro old found
    cases spawned.symm.trans found
    rfl
  spare := invariant.spare_setOwner id _

/-- Every step keeps the invariant of the flights. -/
theorem step (invariant : FlightsInvariant config lookups)
    (taken : LookupStep config lookups events after) : FlightsInvariant config after := by
  cases taken with
  | joined unlocked missed flying =>
      apply invariant.setCaller
      intro key id joined equal
      cases equal
      obtain ⟨owner, spawned, own, _⟩ := (invariant.entries _ _).mp flying
      exact ⟨owner, spawned, own⟩
  | registered owner unlocked missed absent room running fresh =>
      apply (invariant.register absent room fresh).setCaller
      intro key id joined equal
      cases equal
      exact ⟨_, Function.update_self .., rfl⟩
  | performed spawned performs =>
      exact invariant.setOwner spawned performs.performing.unpublished performs.unpublished
  | cancelled spawned performing fired =>
      exact invariant.setOwner spawned performing.unpublished trivial
  | published unlocked spawned => exact invariant.publish unlocked spawned
  | removed locked spawned => exact invariant.remove locked spawned
  | cancelFired =>
      exact ⟨invariant.entries, invariant.size, invariant.consistent, invariant.locked,
        invariant.waiting, invariant.spare⟩
  | _ => exact invariant.setCaller nofun

/-- The invariant holds after every run. -/
theorem run (reached : Run (LookupStep config) .initial trace lookups) :
    FlightsInvariant config lookups :=
  reached.stateInvariant (FlightsInvariant config) (initial config)
    fun _ _ _ invariant taken => invariant.step taken

end FlightsInvariant

variable {config : LookupConfig} {lookups after final : Lookups}
  {events trace later : List LookupEvent} {key : FlightKey} {id : OwnerId} {owner : Owner}

/-! ### Owners outlive their callers -/

/-- No step forgets an owner or moves it to another key. -/
theorem LookupStep.keeps_owner (taken : LookupStep config lookups events after)
    (spawned : lookups.owners id = some owner) :
    ∃ next, after.owners id = some next ∧ next.key = owner.key := by
  have updated : ∀ {other : OwnerId} {old next : Owner},
      lookups.owners other = some old → next.key = old.key →
      ∃ found, Function.update lookups.owners other (some next) id = some found ∧
        found.key = owner.key := by
    intro other old next held same
    by_cases own : id = other
    · subst own
      cases spawned.symm.trans held
      exact ⟨next, Function.update_self .., same⟩
    · exact ⟨owner, (Function.update_of_ne own ..).trans spawned, rfl⟩
  cases taken with
  | registered other unlocked missed absent room running fresh =>
      have distinct : id ≠ other := by
        rintro rfl
        cases fresh.symm.trans spawned
      exact ⟨owner, (Function.update_of_ne distinct ..).trans spawned, rfl⟩
  | performed held performs => exact updated held rfl
  | cancelled held performing fired => exact updated held rfl
  | published unlocked held => exact updated held rfl
  | removed locked held => exact updated held rfl
  | _ => exact ⟨owner, spawned, rfl⟩

/-- An owner keeps its key. -/
theorem keeps_owner_run (run : Run (LookupStep config) lookups later final)
    (spawned : lookups.owners id = some owner) :
    ∃ next, final.owners id = some next ∧ next.key = owner.key := by
  induction run with
  | refl => exact ⟨owner, spawned, rfl⟩
  | snoc _ taken ih =>
      obtain ⟨next, held, own⟩ := ih
      obtain ⟨still, kept, same⟩ := taken.keeps_owner held
      exact ⟨still, kept, same.trans own⟩

/-- A caller that is dropped or times out takes only itself away. -/
theorem LookupStep.abandons (taken : LookupStep config lookups events after) {caller : CallerId}
    (gone : .dropped caller ∈ events ∨ .timedOut caller ∈ events) :
    after.owners = lookups.owners ∧ after.flights = lookups.flights ∧
      after.lock = lookups.lock := by
  cases taken with
  | timedOut there awaiting => exact ⟨rfl, rfl, rfl⟩
  | dropped there awaiting => exact ⟨rfl, rfl, rfl⟩
  | _ => simp at gone

namespace FlightsInvariant

/-- A key has one live owner. -/
theorem live_unique (invariant : FlightsInvariant config lookups) {left right : OwnerId}
    (first : lookups.Live key left) (second : lookups.Live key right) : left = right := by
  have one := (invariant.entries key left).mpr first
  have other := (invariant.entries key right).mpr second
  exact Option.some.inj (one.symm.trans other)

/-- An owner without an entry has published. -/
theorem carried_of_removed (invariant : FlightsInvariant config lookups)
    (spawned : lookups.owners id = some owner)
    (removed : lookups.flights.lookup owner.key ≠ some id) :
    ∃ result, lookups.carried id = some result := by
  have dead : ¬ lookups.Live owner.key id :=
    fun live => removed ((invariant.entries owner.key id).mpr live)
  obtain ⟨key, work, channel⟩ := owner
  cases work with
  | finished result =>
      have carried : channel = some result := invariant.consistent id _ spawned
      exact ⟨result, by rw [Lookups.carried, spawned, ← carried]; rfl⟩
  | _ => exact absurd ⟨_, spawned, rfl, trivial⟩ dead

/-! ### A live owner can always publish -/

/-- The work of an owner can end whatever the others do. -/
theorem completes (config : LookupConfig) {work : Work}
    (spawned : lookups.owners id = some { key, work, channel := none })
    (performing : work.Performing) :
    ∃ later result, Run (LookupStep config) lookups later
      (lookups.setOwner id { key, work := .completed result, channel := none }) := by
  cases work with
  | rechecking =>
      have run := Run.single (@LookupStep.performed config _ _ _ _ _ _ spawned
        (@Perform.recheckMissed (.ok none) (by simp)))
      have run := run.snoc (.performed (Function.update_self ..)
        (.fetchedFailure (Outcome.failure_isCacheable .providerTimeout)))
      simp only [Lookups.setOwner, Function.update_idem] at run
      exact ⟨_, _, run⟩
  | fetching =>
      exact ⟨_, _, .single (.performed spawned (.fetchedFailure (Outcome.failure_isCacheable
        .providerTimeout)))⟩
  | storing outcome => exact ⟨_, _, .single (.performed spawned (.putFailed .timeout))⟩
  | completed result | published result | finished result => exact performing.elim

/-- Whoever holds the lock can give it back, and leaves the owners that have
completed as they are. -/
theorem releases (invariant : FlightsInvariant config lookups) (locked : lookups.lock ≠ none) :
    ∃ other after, LookupStep config lookups [.removed other] after ∧ after.lock = none ∧
      ∀ key id result channel,
        lookups.owners id = some { key, work := .completed result, channel } →
        after.owners id = lookups.owners id := by
  obtain ⟨other, held⟩ := Option.ne_none_iff_exists'.mp locked
  obtain ⟨own, published, sent, spawned⟩ := (invariant.locked other).mp held
  refine ⟨other, _, .removed held spawned, rfl, ?_⟩
  intro key id result channel completed
  have distinct : id ≠ other := by
    rintro rfl
    cases spawned.symm.trans completed
  exact Function.update_of_ne distinct ..

/-- An owner that has completed publishes as soon as it has the lock. -/
theorem publishesCompleted (invariant : FlightsInvariant config lookups) {result : LookupResult}
    {channel : Option LookupResult}
    (spawned : lookups.owners id = some { key, work := .completed result, channel }) :
    ∃ later final, Run (LookupStep config) lookups later final ∧
      final.flights.lookup key = some id ∧ ∃ result, final.carried id = some result := by
  have publishing : ∀ {before : Lookups}, FlightsInvariant config before → before.lock = none →
      before.owners id = some { key, work := .completed result, channel } →
      ∃ after, LookupStep config before [.published id] after ∧
        after.flights.lookup key = some id ∧ ∃ result, after.carried id = some result := by
    intro before invariant unlocked completed
    refine ⟨_, .published unlocked completed, ?_, result, ?_⟩
    · exact (invariant.entries key id).mpr ⟨_, completed, rfl, trivial⟩
    · simp [Lookups.carried, Lookups.setOwner]
  by_cases unlocked : lookups.lock = none
  · obtain ⟨after, taken, published⟩ := publishing invariant unlocked spawned
    exact ⟨_, after, .single taken, published⟩
  · obtain ⟨other, after, removed, free, kept⟩ := invariant.releases unlocked
    have still := (kept key id result channel spawned).trans spawned
    obtain ⟨final, taken, published⟩ := publishing (invariant.step removed) free still
    exact ⟨_, final, (Run.single removed).snoc taken, published⟩

/-- From any state, a live owner can come to publish before its entry is gone. -/
theorem publishes (invariant : FlightsInvariant config lookups) (live : lookups.Live key id) :
    ∃ later final, Run (LookupStep config) lookups later final ∧
      final.flights.lookup key = some id ∧ ∃ result, final.carried id = some result := by
  have entry := (invariant.entries key id).mpr live
  obtain ⟨⟨own, work, channel⟩, spawned, rfl, unfinished⟩ := live
  have consistent := invariant.consistent id _ spawned
  cases work with
  | completed result => exact invariant.publishesCompleted spawned
  | published result =>
      have carried : channel = some result := consistent
      exact ⟨[], lookups, .refl, entry, result, by rw [Lookups.carried, spawned, ← carried]; rfl⟩
  | finished result => exact unfinished.elim
  | _ =>
      have silent : channel = none := consistent
      subst silent
      obtain ⟨later, result, run⟩ := completes config spawned trivial
      have still := run.stateInvariant (FlightsInvariant config) invariant
        fun _ _ _ before taken => before.step taken
      obtain ⟨more, final, rest, published⟩ :=
        still.publishesCompleted (Function.update_self ..)
      exact ⟨later ++ more, final, run.append rest, published⟩

end FlightsInvariant

/-- **Single flight.** In every reachable state each key has at most one live
owner, the table holds exactly the keys of the live owners and stays within its
cap, and a subscriber that waits either finds a result on its channel or has a
live owner that can publish, and never loses its entry unpublished. A caller
that goes away leaves owners and table alone. -/
theorem single_flight (run : Run (LookupStep config) .initial trace lookups) :
    (∀ key left right, lookups.Live key left → lookups.Live key right → left = right) ∧
    (∀ key, key ∈ lookups.flights ↔ ∃ id, lookups.Live key id) ∧
    lookups.flights.keys.length ≤ config.maxSharedLookups ∧
    (∀ caller request key id joined,
      lookups.callers caller = some { request, phase := .waiting key id joined } →
      (∃ result, lookups.carried id = some result) ∨
      (lookups.Live key id ∧
        (∃ later final, Run (LookupStep config) lookups later final ∧
          final.flights.lookup key = some id ∧ ∃ result, final.carried id = some result) ∧
        ∀ later final, Run (LookupStep config) lookups later final →
          final.flights.lookup key ≠ some id → ∃ result, final.carried id = some result)) ∧
    ∀ events after caller, LookupStep config lookups events after →
      .dropped caller ∈ events ∨ .timedOut caller ∈ events →
      after.owners = lookups.owners ∧ after.flights = lookups.flights ∧
        after.lock = lookups.lock := by
  have invariant := FlightsInvariant.run run
  refine ⟨fun key left right => invariant.live_unique, ?_, invariant.size, ?_, ?_⟩
  · intro key
    rw [← AList.lookup_isSome, Option.isSome_iff_exists]
    exact exists_congr fun id => invariant.entries key id
  · intro caller request key id joined there
    obtain ⟨owner, spawned, rfl⟩ := invariant.waiting caller _ there key id joined rfl
    by_cases live : lookups.Live owner.key id
    · refine Or.inr ⟨live, invariant.publishes live, ?_⟩
      intro later final rest removed
      obtain ⟨next, held, own⟩ := keeps_owner_run rest spawned
      rw [← own] at removed
      exact (FlightsInvariant.run (run.append rest)).carried_of_removed held removed
    · left
      apply invariant.carried_of_removed spawned
      intro entry
      exact live ((invariant.entries owner.key id).mp entry)
  · intro events after caller taken gone
    exact taken.abandons gone

/-- One flight at a time, of either provider. -/
def oneFlight : LookupConfig where
  maxSharedLookups := 1
  enabled := fun _ => true

/-- A lookup of an address. -/
def sampleRequest : LookupRequest where
  provider := .abuseipdb
  kind := .ip
  cacheKey := some "8.8.8.8"

/-- Its key. -/
def sampleKey : FlightKey where
  provider := .abuseipdb
  cacheKey := "8.8.8.8"

/-- A caller that registers a flight and waits. -/
theorem registeredRun :
    ∃ trace lookups, Run (LookupStep oneFlight) .initial trace lookups ∧
      lookups.callers 0 = some { request := sampleRequest, phase := .waiting sampleKey 0 false } ∧
      lookups.flights.lookup sampleKey = some 0 ∧ lookups.lock = none ∧
      lookups.owners 0 = some { key := sampleKey, work := .rechecking, channel := none } := by
  have run := Run.single (@LookupStep.started oneFlight .initial sampleRequest sampleKey 0 rfl rfl)
  have run := run.snoc (@LookupStep.cacheMissed _ _ 0 sampleRequest sampleKey (.ok none) (by simp)
    rfl)
  have run := run.snoc (@LookupStep.registered _ _ 0 sampleRequest sampleKey 0 rfl rfl rfl
    (by decide) rfl rfl)
  exact ⟨_, _, run, rfl, rfl, rfl, rfl⟩

/-- An abandoned caller leaves its flight to its owner. -/
theorem single_flight_abandoned :
    ∃ lookups : Lookups, lookups.flights.keys.length ≤ 1 ∧ ∃ id, lookups.Live sampleKey id := by
  obtain ⟨trace, lookups, run, there, flying, _⟩ := registeredRun
  have taken : LookupStep oneFlight lookups [.dropped 0]
      (lookups.setCaller 0 sampleRequest .dropped) := .dropped there trivial
  obtain ⟨_, _, _, _, abandons⟩ := single_flight run
  obtain ⟨owners, flights, _⟩ := abandons _ _ 0 taken (Or.inl (List.mem_singleton.mpr rfl))
  obtain ⟨_, entries, size, _⟩ := single_flight (run.snoc taken)
  refine ⟨_, size, (entries sampleKey).mp ?_⟩
  rw [flights, ← AList.lookup_isSome, flying]
  rfl

end RustEnrich.Enrichment
