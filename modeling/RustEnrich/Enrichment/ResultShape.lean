import RustEnrich.Enrichment.Pipeline
import RustEnrich.Serialization.Rereading

/-!
# The shape of results

Every result a lookup returns has the fields its status promises and no others,
whichever way it came about: refused, read from the cache, fetched, joined,
given up or lost with its owner. A fetch ends in one of three kinds of outcomes,
only the first two of them are stored, and what is read back is of the same
kind.
-/

namespace RustEnrich.Enrichment

open Transitions Storage Serialization

/-! ### Outcomes -/

/-- The outcomes of a fetch: a report of the provider, an explicit absence, or a
failure with some delay. -/
inductive Produced (provider : ProviderId) : Outcome → Prop
  | report {summary : Summary} {raw : Value} (fetchedAt : DateTime)
      (providerUpdatedAt : Option DateTime) (own : summary.provider = provider)
      (notNull : raw ≠ .null) :
      Produced provider {
        status := .ok
        summary := some summary
        fetchedAt := some fetchedAt
        providerUpdatedAt
        error := none
        raw := some raw }
  | absence (fetchedAt : DateTime) : Produced provider (.notFound fetchedAt)
  | failure (code : ErrorCode) (delay : Option Nat) :
      Produced provider { Outcome.empty code.status with
        error := some { PublicError.new code with retryAfterSeconds := delay } }

namespace Produced

variable {provider : ProviderId} {outcome decoded : Outcome}

/-- A failure is produced by the service itself. -/
theorem ofFailure (provider : ProviderId) (code : ErrorCode) :
    Produced provider (.failure code) :=
  .failure code (PublicError.new code).retryAfterSeconds

/-- The completion time is replaced where there is one. -/
theorem stamped (produced : Produced provider outcome) (fetchedAt : DateTime) :
    Produced provider (match outcome.status with
      | .ok | .notFound => { outcome with fetchedAt := some fetchedAt }
      | _ => outcome) := by
  cases produced with
  | report _ providerUpdatedAt own notNull => exact .report fetchedAt providerUpdatedAt own notNull
  | absence _ => exact .absence fetchedAt
  | failure code delay => cases code <;> exact .failure _ delay

/-- The delay is replaced where there is an error. -/
theorem delayed (produced : Produced provider outcome) (delay : Option Nat) :
    Produced provider { outcome with
      error := outcome.error.map fun error => { error with retryAfterSeconds := delay } } := by
  cases produced with
  | report fetchedAt providerUpdatedAt own notNull =>
      exact .report fetchedAt providerUpdatedAt own notNull
  | absence fetchedAt => exact .absence fetchedAt
  | failure code _ => exact .failure code delay

/-- What `send` makes of a decoded outcome. -/
theorem finished (produced : Produced provider outcome) (fetchedAt : DateTime) (limited : Prop)
    [Decidable limited] (delay : Option Nat) :
    let stamped :=
      match outcome.status with
      | .ok | .notFound => { outcome with fetchedAt := some fetchedAt }
      | _ => outcome
    Produced provider <|
      if limited then
        { stamped with
          error := stamped.error.map fun error => { error with retryAfterSeconds := delay } }
      else
        stamped := by
  have stamped := produced.stamped fetchedAt
  dsimp only
  split
  · exact stamped.delayed delay
  · exact stamped

/-- What is stored is read back as an outcome of its kind. -/
theorem reread {serializer : Serializer} {deserializer : Deserializer}
    (produced : Produced provider outcome) (error : outcome.error = none)
    (timestamps : TimestampsRoundTrip serializer deserializer)
    (reads : ReadsAlike serializer deserializer outcome)
    (decodes : (payloadCodec serializer deserializer).fromSlice
      ((payloadCodec serializer deserializer).toVec outcome) = some decoded) :
    Produced provider decoded ∧ decoded.isCacheable = true := by
  cases produced with
  | report fetchedAt providerUpdatedAt own notNull =>
      obtain ⟨kept, rfl, present, keptNotNull⟩ :=
        outcome_rereads timestamps rfl (by rintro _ ⟨⟩; exact notNull) reads decodes
      cases kept with
      | none => cases present.mp rfl
      | some value =>
          exact ⟨.report fetchedAt providerUpdatedAt own (keptNotNull <| congrArg some ·), rfl⟩
  | absence fetchedAt =>
      obtain ⟨kept, rfl, absent, _⟩ :=
        outcome_rereads timestamps rfl (fun _ same => by cases same) reads decodes
      cases absent.mpr rfl
      exact ⟨.absence fetchedAt, rfl⟩
  | failure code delay => cases error

end Produced

/-! ### Fetches -/

/-- The adapters of the service decode the answers of their providers. -/
def Decodes (serializer : Serializer) (deserializer : Deserializer) (service : Service) : Prop :=
  ∀ provider, (service.adapter provider).decode = decode serializer deserializer provider

/-- Once a fetch has returned, its outcome is one of its provider. -/
def Fetch.Yields (fetch : Fetch) : Prop :=
  ∀ outcome, fetch.phase = .returned outcome → Produced fetch.request.provider outcome

section Fetches

variable {serializer : Serializer} {deserializer : Deserializer} {service : Service}
  {provider : ProviderId} {attempt : Attempt}

/-- A body that breaks off is a network error. -/
theorem readBody_returned {limit : Nat} {body : List UInt8} {chunks : List Chunk}
    (returned : readBody limit body chunks = .error (.ok attempt)) :
    attempt.outcome = .failure .networkError := by
  induction chunks generalizing body with
  | nil => cases returned
  | cons chunk rest ih =>
      cases chunk with
      | failed error =>
          rw [readBody] at returned
          split at returned
          · cases returned
            rfl
          · cases returned
      | data bytes =>
          rw [readBody] at returned
          split at returned
          · cases returned
          · exact ih returned

/-- What a provider's answer is decoded to is produced. -/
theorem decode_produced {status : UInt16} {body : List UInt8} {indicator : ValidatedIndicator}
    {now : DateTime} {outcome : Outcome}
    (decoded : decode serializer deserializer provider status body indicator now = .ok outcome) :
    Produced provider outcome := by
  rcases decode_ok decoded with rfl | ⟨summary, updated, document, rfl, own, notNull, _⟩
  · exact .absence now
  · exact .report now updated own notNull

/-- What a sent request comes to is produced. -/
theorem send_produced (decodes : Decodes serializer deserializer service)
    {indicator : ValidatedIndicator} {exchange : Exchange}
    (sent : send service provider indicator exchange = .ok attempt) :
    Produced provider attempt.outcome := by
  cases exchange with
  | failed error =>
      cases sent
      exact .ofFailure provider _
  | responded response now decodedAt fetchedAt delay =>
      rw [send] at sent
      split at sent
      · rename_i returned early
        subst sent
        rw [readBody_returned early]
        exact .ofFailure provider _
      · rename_i body received
        rw [decodes provider] at sent
        cases decoding : decode serializer deserializer provider response.status body indicator
          decodedAt with
        | ok outcome =>
            rw [decoding] at sent
            dsimp only at sent
            split at sent
            · cases sent
            · cases sent
              exact (decode_produced decoding).finished fetchedAt _ _
        | error code =>
            rw [decoding] at sent
            cases sent
            exact (Produced.ofFailure provider code).finished fetchedAt _ _

/-- A result that counts is the one that came. -/
theorem collect_ok {attemptDeadline collected : Instant} {result : Except ErrorCode Attempt}
    (counts : collect attemptDeadline result collected = .ok attempt) : result = .ok attempt := by
  unfold collect at counts
  split at counts
  · exact counts
  · cases counts

/-- An attempt that is concluded returns what it produced. -/
theorem conclude_produced {deadline now : Instant} {index : Nat}
    {result : Except ErrorCode Attempt} {outcome : Outcome}
    (made : ∀ attempt, result = .ok attempt → Produced provider attempt.outcome)
    (returned : conclude service deadline index result now = .returned outcome) :
    Produced provider outcome := by
  unfold conclude at returned
  split at returned
  · cases returned
    exact .ofFailure provider _
  · split at returned
    · cases returned
    · cases returned
      exact made _ rfl

/-- A fetch returns what it produced. -/
theorem Progress.produced (decodes : Decodes serializer deserializer service)
    {request : FetchRequest} {phase next : FetchPhase} {actions : List FetchAction}
    (progress : Progress service request phase actions next) {outcome : Outcome}
    (returned : next = .returned outcome) : Produced request.provider outcome := by
  cases progress with
  | limited wall delay now =>
      refine conclude_produced ?_ returned
      rintro _ ⟨⟩
      exact .failure .quotaExhausted delay
  | answered exchange collected now =>
      refine conclude_produced ?_ returned
      intro attempt counts
      exact send_produced decodes (collect_ok counts)
  | unsent =>
      refine conclude_produced ?_ returned
      intro attempt counts
      cases collect_ok counts
  | providerRefused | globalRefused | unavailable | failed | late | timedOut =>
      refine conclude_produced ?_ returned
      rintro _ ⟨⟩
  | exhausted =>
      cases returned
      exact .ofFailure _ _
  | _ => cases returned

/-- Every step keeps fetches to what they produce. -/
theorem FetchStep.yields (decodes : Decodes serializer deserializer service) {codec : PayloadCodec}
    {before after : Fetching} {events : List FetchEvent}
    (taken : FetchStep codec service before events after)
    (yields : ∀ fetch ∈ before.fetches, fetch.Yields) :
    ∀ fetch ∈ after.fetches, fetch.Yields := by
  cases taken with
  | started request running =>
      intro fetch member
      rcases List.mem_append.mp member with earlier | new
      · exact yields fetch earlier
      · cases List.mem_singleton.mp new
        intro outcome returned
        cases returned
  | progressed there progress permits follows =>
      intro fetch member
      rcases List.mem_or_eq_of_mem_set member with earlier | rfl
      · exact yields fetch earlier
      · intro outcome returned
        exact progress.produced decodes returned
  | storage taken unawaited open_ => exact yields
  | ended taken =>
      intro fetch member
      obtain ⟨earlier, inside, rfl⟩ := List.mem_map.mp member
      intro outcome returned
      apply yields earlier inside
      cases phase : earlier.phase with
      | returned result => simpa [phase, FetchPhase.lost] using returned
      | _ => simp [phase, FetchPhase.lost] at returned

end Fetches

/-! ### Results -/

/-- A failure is reported as one. -/
theorem status_failed (code : ErrorCode) :
    code.status ≠ .ok ∧ code.status ≠ .notFound ∧ code.status ≠ .disabled ∧
      code.status ≠ .unsupported := by
  cases code <;> decide

/-- The fields of a result, by its status. -/
structure LookupResult.Shaped (provider : ProviderId) (result : LookupResult) : Prop where
  ok : result.outcome.status = .ok ↔
    result.outcome.summary.isSome ∧ result.outcome.raw.isSome ∧ result.outcome.fetchedAt.isSome ∧
      result.outcome.error = none
  variant : result.outcome.status = .ok →
    ∀ summary, result.outcome.summary = some summary → summary.provider = provider
  notFound : result.outcome.status = .notFound →
    result.outcome.fetchedAt.isSome ∧ result.outcome.summary = none ∧ result.outcome.raw = none ∧
      result.outcome.providerUpdatedAt = none ∧ result.outcome.error = none
  refused : result.outcome.status = .disabled ∨ result.outcome.status = .unsupported →
    result = .uncached (.empty result.outcome.status)
  failed : result.outcome.status ∉ [.ok, .notFound, .disabled, .unsupported] →
    (∃ error, result.outcome.error = some error ∧ error.code.status = result.outcome.status) ∧
      result.outcome.summary = none ∧ result.outcome.raw = none ∧
      result.outcome.fetchedAt = none ∧ result.outcome.providerUpdatedAt = none
  expires : result.expiresAt.isSome →
    result.outcome.status = .ok ∨ result.outcome.status = .notFound
  hit : result.cacheHit = true → result.expiresAt.isSome

/-- How a result comes about: before the first await, or with the outcome of a
fetch, and an expiry where it has been stored. -/
inductive Assembled (provider : ProviderId) : LookupResult → Prop
  | refused {status : Status} (early : status = .disabled ∨ status = .unsupported) :
      Assembled provider (.uncached (.empty status))
  | produced {outcome : Outcome} {cacheHit : Bool} {expiresAt : Option DateTime}
      (produced : Produced provider outcome)
      (expires : expiresAt.isSome → outcome.isCacheable = true)
      (hit : cacheHit = true → expiresAt.isSome) :
      Assembled provider { outcome, cacheHit, expiresAt }

namespace Assembled

variable {provider : ProviderId} {result : LookupResult} {outcome : Outcome}

/-- What is produced is a result that is not from the cache. -/
theorem uncached (produced : Produced provider outcome) :
    Assembled provider (.uncached outcome) :=
  .produced produced nofun nofun

/-- A failure is a result. -/
theorem failure (provider : ProviderId) (code : ErrorCode) :
    Assembled provider (.failure code) :=
  .uncached (.ofFailure provider code)

/-- What is produced and cacheable is a result from the cache. -/
theorem hit {cached : CachedOutcome} (produced : Produced provider cached.outcome)
    (cacheable : cached.outcome.isCacheable = true) : Assembled provider (.hit cached) :=
  .produced produced (fun _ => cacheable) fun _ => rfl

/-- A joined result only loses the mark of its hit. -/
theorem received (assembled : Assembled provider result) (joined : Bool) :
    Assembled provider (receivedResult joined result) := by
  cases joined with
  | false => exact assembled
  | true =>
      cases assembled with
      | refused early => exact .refused early
      | produced produced expires _ => exact .produced produced expires nofun

/-- Every result is in shape. -/
theorem shaped (assembled : Assembled provider result) : result.Shaped provider := by
  cases assembled with
  | @refused status early =>
      rcases early with rfl | rfl <;> constructor <;> simp [LookupResult.uncached, Outcome.empty]
  | produced produced expires hit =>
      cases produced with
      | report fetchedAt providerUpdatedAt own notNull =>
          exact {
            ok := by simp
            variant := fun _ _ same => Option.some.inj same ▸ own
            notFound := by simp
            refused := by simp
            failed := by simp
            expires := fun _ => Or.inl rfl
            hit }
      | absence fetchedAt =>
          exact {
            ok := by simp [Outcome.notFound, Outcome.empty]
            variant := by simp [Outcome.notFound, Outcome.empty]
            notFound := fun _ => ⟨rfl, rfl, rfl, rfl, rfl⟩
            refused := by simp [Outcome.notFound, Outcome.empty]
            failed := by simp [Outcome.notFound, Outcome.empty]
            expires := fun _ => Or.inr rfl
            hit }
      | failure code delay =>
          obtain ⟨notOk, missing, enabled, supported⟩ := status_failed code
          exact {
            ok := by simp [Outcome.empty, notOk]
            variant := fun ok => absurd ok notOk
            notFound := fun absent => absurd absent missing
            refused := fun early => (early.elim enabled supported).elim
            failed := fun _ => ⟨⟨_, rfl, rfl⟩, rfl, rfl, rfl, rfl⟩
            expires := fun stored =>
              absurd ((Outcome.failure_isCacheable code).symm.trans (expires stored))
                Bool.false_ne_true
            hit }

end Assembled

/-! ### Owners and callers -/

/-- What an owner has in hand is of its provider. -/
def Work.Yields (provider : ProviderId) : Work → Prop
  | .rechecking | .fetching => True
  | .storing outcome => Produced provider outcome ∧ outcome.isCacheable = true
  | .completed result | .published result | .finished result => Assembled provider result

/-- The work of an owner, and what it tells, is of its provider. -/
def Owner.Yields (owner : Owner) : Prop :=
  owner.work.Yields owner.key.provider ∧
    ∀ result, owner.channel = some result → Assembled owner.key.provider result

/-- An owner that has told nothing yields what its work does. -/
theorem Owner.yields_silent {key : FlightKey} {work : Work} (yields : work.Yields key.provider) :
    Owner.Yields { key, work, channel := none } := by
  refine ⟨yields, ?_⟩
  intro result carried
  cases carried

/-- A caller stays with the provider it has asked for. -/
def Caller.Yields (caller : Caller) : Prop :=
  match caller.phase with
  | .reading key | .missed key | .waiting key _ _ => key.provider = caller.request.provider
  | .returned result => Assembled caller.request.provider result
  | .timedOut | .dropped => True

/-- All owners and callers yield results of their providers. -/
structure Lookups.Yields (lookups : Lookups) : Prop where
  owners : ∀ id owner, lookups.owners id = some owner → owner.Yields
  callers : ∀ id caller, lookups.callers id = some caller → caller.Yields

/-- At the start there are none. -/
theorem Lookups.Yields.initial : Lookups.initial.Yields where
  owners := by
    intro id owner spawned
    cases spawned
  callers := by
    intro id caller there
    cases there

/-- What the lookups of a pipeline can be told. -/
structure Pipeline.Tells (pipeline : Pipeline) : Prop where
  answered : ∀ key cached, pipeline.Answered key cached →
    Produced key.provider cached.outcome ∧ cached.outcome.isCacheable = true
  returned : ∀ provider outcome, pipeline.Returned provider outcome → Produced provider outcome

section Lookups

variable {config : LookupConfig} {pipeline : Pipeline} {lookups : Lookups}

/-- A refused request has a result. -/
theorem flightKey_assembled {request : LookupRequest} {result : LookupResult}
    (refuses : flightKey config request = .error result) :
    Assembled request.provider result := by
  unfold flightKey at refuses
  split at refuses
  · cases refuses
    exact .refused (Or.inl rfl)
  split at refuses
  · cases refuses
    exact .refused (Or.inr rfl)
  split at refuses
  · cases refuses
    exact .failure _ _
  · cases refuses

/-- A key is of the provider that is asked. -/
theorem flightKey_provider {request : LookupRequest} {key : FlightKey}
    (accepts : flightKey config request = .ok key) : key.provider = request.provider := by
  unfold flightKey at accepts
  split at accepts
  · cases accepts
  split at accepts
  · cases accepts
  split at accepts
  · cases accepts
  · cases accepts
    rfl

/-- Work goes on to a result of its provider. -/
theorem Perform.yields {id : OwnerId} {key : FlightKey} {work next : Work}
    {events : List PerformEvent} (performs : Perform work events next) (tells : pipeline.Tells)
    (backed : ∀ event ∈ events, pipeline.Backed (.performed id key event))
    (yields : work.Yields key.provider) : next.Yields key.provider := by
  have fetched : ∀ outcome, pipeline.Backed (.performed id key (.fetched outcome)) →
      Produced key.provider outcome := by
    intro outcome told
    rcases told with rfl | returned
    · exact .ofFailure _ _
    · exact tells.returned _ _ returned
  cases performs with
  | recheckHit cached =>
      obtain ⟨produced, cacheable⟩ := tells.answered key cached (backed _ List.mem_cons_self)
      exact .hit produced cacheable
  | recheckMissed missed => trivial
  | fetchedReport cacheable => exact ⟨fetched _ (backed _ List.mem_cons_self), cacheable⟩
  | fetchedFailure uncacheable => exact .uncached (fetched _ (backed _ List.mem_cons_self))
  | putConfirmed expiry =>
      obtain ⟨produced, cacheable⟩ := yields
      exact .produced produced (fun _ => cacheable) nofun
  | putFailed error => exact .uncached yields.1
  | panicked performing => exact .failure _ _

/-- A step keeps owners to their providers. -/
theorem LookupStep.yields_owners {events : List LookupEvent}
    (taken : LookupStep config pipeline.lookups events lookups) (tells : pipeline.Tells)
    (backed : ∀ event ∈ events, pipeline.Backed event) (yields : pipeline.lookups.Yields) :
    ∀ id owner, lookups.owners id = some owner → owner.Yields := by
  cases taken with
  | registered owner unlocked missed absent room running fresh =>
      exact Lookups.forall_setOwner yields.owners (Owner.yields_silent trivial)
  | @performed owner key _ _ emitted spawned performs =>
      have told : ∀ event ∈ emitted, pipeline.Backed (.performed owner key event) :=
        fun event member => backed _ (List.mem_map_of_mem member)
      have next := performs.yields tells told (yields.owners _ _ spawned).1
      exact Lookups.forall_setOwner yields.owners (Owner.yields_silent next)
  | cancelled spawned performing fired =>
      exact Lookups.forall_setOwner yields.owners (Owner.yields_silent (.failure _ _))
  | published unlocked spawned =>
      have completed := (yields.owners _ _ spawned).1
      refine Lookups.forall_setOwner yields.owners ⟨completed, ?_⟩
      rintro _ ⟨⟩
      exact completed
  | removed locked spawned =>
      have published := yields.owners _ _ spawned
      exact Lookups.forall_setOwner yields.owners published
  | _ => exact yields.owners

/-- A step keeps callers to their providers. -/
theorem LookupStep.yields_callers {events : List LookupEvent}
    (taken : LookupStep config pipeline.lookups events lookups) (tells : pipeline.Tells)
    (backed : ∀ event ∈ events, pipeline.Backed event) (yields : pipeline.lookups.Yields)
    (flights : FlightsInvariant config pipeline.lookups) :
    ∀ id caller, lookups.callers id = some caller → caller.Yields := by
  cases taken with
  | answered caller fresh refuses =>
      exact Lookups.forall_setCaller yields.callers (flightKey_assembled refuses)
  | started caller fresh accepts =>
      exact Lookups.forall_setCaller yields.callers (flightKey_provider accepts)
  | cacheHit cached reading =>
      have same : _ = _ := yields.callers _ _ reading
      obtain ⟨produced, cacheable⟩ := tells.answered _ cached (backed _ List.mem_cons_self)
      rw [same] at produced
      exact Lookups.forall_setCaller yields.callers (.hit produced cacheable)
  | cacheMissed _ earlier | joined _ earlier =>
      have same : _ = _ := yields.callers _ _ earlier
      exact Lookups.forall_setCaller yields.callers same
  | busy | unavailable | channelClosed =>
      exact Lookups.forall_setCaller yields.callers (.failure _ _)
  | registered owner unlocked missed absent room running fresh =>
      have same : _ = _ := yields.callers _ _ missed
      exact Lookups.forall_setCaller yields.callers same
  | @received _ request key owner joined flight result waiting spawned carried =>
      have same : key.provider = request.provider := yields.callers _ _ waiting
      obtain ⟨found, held, rfl⟩ := flights.waiting _ _ waiting key owner joined rfl
      cases spawned.symm.trans held
      have assembled := (yields.owners owner flight spawned).2 result carried
      rw [same] at assembled
      exact Lookups.forall_setCaller yields.callers (assembled.received joined)
  | timedOut | dropped => exact Lookups.forall_setCaller yields.callers trivial
  | _ => exact yields.callers

end Lookups

/-! ### Runs -/

/-- Whatever a pipeline keeps is of the provider it is kept for. -/
structure Pipeline.Yields (pipeline : Pipeline) : Prop where
  puts : ∀ call put, Event.callStarted call (.cachePut put) ∈ pipeline.history →
    Produced put.provider put.outcome
  fetches : ∀ fetch ∈ pipeline.fetching.fetches, fetch.Yields
  lookups : pipeline.lookups.Yields

/-- What a caller has returned with, if it has. -/
def CallerPhase.result : CallerPhase → Option LookupResult
  | .returned result => some result
  | .timedOut => some (.failure .requestDeadlineExceeded)
  | _ => none

section Runs

variable {config : LookupConfig} {service : Service} {serializer : Serializer}
  {deserializer : Deserializer} {pipeline : Pipeline} {trace : List PipelineEvent}

/-- A cached answer is the outcome of a fetch for its key, read back. -/
theorem Pipeline.Yields.tells (yields : pipeline.Yields)
    (timestamps : TimestampsRoundTrip serializer deserializer)
    (run : Run (Step (payloadCodec serializer deserializer)) (.closed none) pipeline.history
      pipeline.fetching.storage)
    (reads : ∀ put, Event.putCommitted put ∈ pipeline.history →
      ReadsAlike serializer deserializer put.outcome) :
    pipeline.Tells where
  answered := by
    intro key cached answered
    obtain ⟨call, kind, wall, now, returned⟩ := answered
    obtain ⟨put, committed, primary, decodes⟩ := hits_committed run returned
    obtain ⟨_, asked, started, makes⟩ := (puts_asked run).2 put committed
    have own : asked.provider = key.provider :=
      congrArg Prod.fst (makes.primaryKey.symm.trans primary)
    have produced := yields.puts _ asked started
    rw [own, ← makes.outcome] at produced
    exact produced.reread makes.error timestamps (reads put committed) decodes
  returned := by
    rintro provider outcome ⟨fetch, member, rfl, returned⟩
    exact yields.fetches fetch member outcome returned

/-- Every step keeps the whole to what is produced. -/
theorem Pipeline.Yields.step (yields : pipeline.Yields) {codec : PayloadCodec}
    {events : List PipelineEvent} {after : Pipeline}
    (decodes : Decodes serializer deserializer service) (tells : pipeline.Tells)
    (flights : FlightsInvariant config pipeline.lookups)
    (taken : PipelineStep config codec service pipeline events after) : after.Yields := by
  cases taken with
  | looked taken backed =>
      exact {
        puts := yields.puts
        fetches := yields.fetches
        lookups := {
          owners := taken.yields_owners tells backed yields.lookups
          callers := taken.yields_callers tells backed yields.lookups flights } }
  | fetched taken asked open_ =>
      refine ⟨?_, taken.yields decodes yields.fetches, yields.lookups⟩
      intro call put started
      rcases List.mem_append.mp started with earlier | now
      · exact yields.puts call put earlier
      · obtain ⟨id, owner, spawned, key, storing⟩ := asked _ now
        have produced := (yields.lookups.owners id owner spawned).1
        rw [storing, key] at produced
        exact produced.1
  | ended taken =>
      refine ⟨?_, taken.yields decodes yields.fetches, .initial⟩
      intro call put started
      rcases List.mem_append.mp started with earlier | now
      · exact yields.puts call put earlier
      · cases List.mem_singleton.mp now

/-- After a run all results are of their providers. -/
theorem Pipeline.yields (timestamps : TimestampsRoundTrip serializer deserializer)
    (decodes : Decodes serializer deserializer service)
    (run : Run (PipelineStep config (payloadCodec serializer deserializer) service) .initial trace
      pipeline)
    (reads : ∀ put, Event.putCommitted put ∈ pipeline.history →
      ReadsAlike serializer deserializer put.outcome) :
    pipeline.Yields := by
  induction run with
  | refl =>
      refine ⟨?_, ?_, .initial⟩
      · intro call put started
        cases started
      · intro fetch member
        cases member
  | @snoc seen events before after previous taken ih =>
      have known : ∀ put, Event.putCommitted put ∈ before.history →
          ReadsAlike serializer deserializer put.outcome := by
        intro put committed
        exact reads put (taken.history_mono committed)
      have yields := ih known
      have tells := yields.tells timestamps (Pipeline.storage_run previous) known
      exact yields.step decodes tells (Pipeline.flightsInvariant previous) taken

/-- **Every result has the shape of its status.** Whatever a lookup returns in
any run of the service, the fields of its result are those its status promises:
a report of the provider that was asked exactly for `ok`, an error of the same
status for every failure, nothing where nothing was asked, and an expiry only of
what can be stored. Every row of the cache is one that a put has committed. -/
theorem result_shape (timestamps : TimestampsRoundTrip serializer deserializer)
    (decodes : Decodes serializer deserializer service)
    (run : Run (PipelineStep config (payloadCodec serializer deserializer) service) .initial trace
      pipeline)
    (reads : ∀ put, Event.putCommitted put ∈ pipeline.history →
      ReadsAlike serializer deserializer put.outcome)
    {id : CallerId} {caller : Caller} {result : LookupResult}
    (there : pipeline.lookups.callers id = some caller)
    (returned : caller.phase.result = some result) :
    result.Shaped caller.request.provider := by
  have yields := (Pipeline.yields timestamps decodes run reads).lookups.callers id caller there
  obtain ⟨request, phase⟩ := caller
  cases phase with
  | returned result =>
      cases returned
      exact yields.shaped
  | timedOut =>
      cases returned
      exact (Assembled.failure request.provider .requestDeadlineExceeded).shaped
  | _ => cases returned

end Runs

/-- A service that decodes the answers of both providers. -/
noncomputable def decodingService : Service :=
  { singleService with
    adapter := fun provider => {
      request := fun _ => .ok ()
      decode := decode printedSerializer printedDeserializer provider }
    serializedLength := fun raw => (printedSerializer.toVec raw).length }

/-- The fetches and the storage go on by themselves where nothing is put or ends. -/
theorem Pipeline.fetches_run {codec : PayloadCodec} {service : Service}
    {fetching after : Fetching} {events : List FetchEvent}
    (run : Run (FetchStep codec service) fetching events after) (config : LookupConfig)
    (lookups : Lookups) (past : List Event)
    (quiet : ∀ event ∈ stored events, event ≠ .closed ∧
      ∀ call put, event ≠ .callStarted call (.cachePut put)) :
    Run (PipelineStep config codec service) { lookups, fetching, history := past }
      (events.map .fetched) { lookups, fetching := after, history := past ++ stored events } := by
  induction run with
  | refl =>
      rw [stored, List.filterMap_nil, List.append_nil]
      exact .refl
  | @snoc front last before next _ taken ih =>
      rw [stored, List.filterMap_append] at quiet ⊢
      obtain ⟨earlier, now⟩ := List.forall_mem_append.mp quiet
      have asked : ∀ event ∈ stored last, Pipeline.Asked
          { lookups, fetching := before, history := past ++ stored front } event := by
        intro event member
        unfold Pipeline.Asked
        split
        · exact absurd rfl ((now _ member).2 _ _)
        · trivial
      have step : PipelineStep config codec service
          { lookups, fetching := before, history := past ++ stored front } (last.map .fetched)
          { lookups, fetching := next, history := past ++ stored front ++ stored last } :=
        .fetched taken asked fun closed => (now _ closed).1 rfl
      rw [List.map_append, ← List.append_assoc]
      exact (ih earlier).snoc step

/-- A step of the storage that answers no fetch. -/
theorem Pipeline.stores {codec : PayloadCodec} {pipeline : Pipeline} {emitted : List Event}
    {storage : World} (config : LookupConfig) (service : Service)
    (taken : Step codec pipeline.fetching.storage emitted storage)
    (quiet : ∀ event ∈ emitted, answeredCall event = none ∧ event ≠ .closed)
    (asked : ∀ event ∈ emitted, pipeline.Asked event) :
    PipelineStep config codec service pipeline ((emitted.map .storage).map .fetched)
      { pipeline with
        fetching := { pipeline.fetching with storage }
        history := pipeline.history ++ emitted } := by
  have told : stored (emitted.map .storage) = emitted := by
    rw [stored, List.filterMap_map]
    exact List.filterMap_some
  have step := @PipelineStep.fetched config codec service pipeline _ _ (.quiet taken quiet)
  rw [told] at step
  exact step asked fun closed => (quiet _ closed).2 rfl

/-! ### A report that is stored and read again -/

/-- A lookup of the address of the report. -/
def probeRequest : LookupRequest where
  provider := .abuseipdb
  kind := .ip
  cacheKey := some "203.0.113.7"

/-- Its flight. -/
def probeKey : FlightKey where
  provider := .abuseipdb
  cacheKey := "203.0.113.7"

/-- Its fetch. -/
def probeFetch : FetchRequest := { sampleFetch with indicator := askedFor }

/-- How the provider answers it. -/
noncomputable def probeExchange : Exchange :=
  .responded
    { status := 200
      feedback := {
        cooldownUntil := none, unknownReset := false, remaining := none, resetAt := none }
      retryAfter := none
      chunks := [.data (printedSerializer.toVec (deepReport 0))] }
    .epoch .epoch .epoch (.ok none)

/-- What becomes of the answer. -/
theorem probe_sent : send decodingService .abuseipdb askedFor probeExchange =
    .ok { outcome := deepOutcome 0, retry := false, retryAfter := none } := by
  have short : (printedSerializer.toVec (deepReport 0)).length ≤ 4096 := by decide +kernel
  have body : readBody decodingService.maxProviderBytes []
      [.data (printedSerializer.toVec (deepReport 0))] =
        .ok (printedSerializer.toVec (deepReport 0)) := by
    exact if_neg (Nat.not_lt.mpr short)
  have decoded : (decodingService.adapter .abuseipdb).decode 200
      (printedSerializer.toVec (deepReport 0)) askedFor .epoch = .ok (deepOutcome 0) :=
    deep_decoded (by decide)
  have small : ¬ ((deepOutcome 0).raw.map decodingService.serializedLength).getD 0 >
      decodingService.maxProviderBytes := Nat.not_lt.mpr short
  unfold send probeExchange
  dsimp only
  rw [body]
  dsimp only
  rw [decoded]
  dsimp only
  rw [if_neg small]
  rfl

/-- The fetch returns the report. -/
theorem probe_returned (storage : World) {limit : Instant} (within : machineStart < limit) :
    ∃ event, FetchEvent.stored event = none ∧ FetchStep printedCodec decodingService
      { storage, fetches := [{ request := probeFetch, phase := .sending 0 limit }] } [event]
      { storage, fetches := [{ request := probeFetch, phase := .returned (deepOutcome 0) }] } := by
  have concluded : conclude decodingService probeFetch.deadline 0
      (collect limit (send decodingService .abuseipdb askedFor probeExchange) machineStart)
        machineStart = .returned (deepOutcome 0) := by
    rw [probe_sent, collect, if_pos within]
    rfl
  have progress := @Progress.answered decodingService probeFetch 0 limit probeExchange
    machineStart machineStart
  rw [show conclude decodingService probeFetch.deadline 0 (collect limit (send decodingService
    probeFetch.provider probeFetch.indicator probeExchange) machineStart) machineStart = _
      from concluded] at progress
  have step := @FetchStep.progressed printedCodec decodingService
    { storage, fetches := [{ request := probeFetch, phase := .sending 0 limit }] } 0 _ _ _ storage
    rfl progress (.of_released rfl rfl) rfl
  exact ⟨_, rfl, step⟩

/-- It is sent under the only reservation of the day, on a storage that is otherwise left
as it was. -/
theorem probe_fetched :
    ∃ granted events, Run (FetchStep printedCodec decodingService)
        { storage := .idle (.create .epoch) 0 .empty, fetches := [] } events
        { storage := .idle granted 1 .empty
          fetches := [{ request := probeFetch, phase := .returned (deepOutcome 0) }] } ∧
      stored events = [.callStarted 0 (.reserve .abuseipdb),
        .reservationCommitted 0 .abuseipdbCheck 0,
        .reserveReturned 0 .abuseipdb .epoch (.ok ())] := by
  obtain ⟨granted, reserves, idle⟩ : ∃ granted, reserveTransaction (.create .epoch) .abuseipdbCheck
      (Settings.single.limits .abuseipdb) .epoch 0 none =
        .ok (granted, { blocked := false, retryAfter := none }) ∧
      World.running granted (afterReserve (.fresh .single 0) .epoch) = .idle granted 1 .empty :=
    ⟨_, rfl, rfl⟩
  have fetch := Run.single (@FetchStep.started printedCodec decodingService
    { storage := .idle (.create .epoch) 0 .empty, fetches := [] } _ _ probeFetch rfl)
  obtain ⟨sending, _, asked, dispatched⟩ := @uninterrupted_dispatch printedCodec decodingService
    probeFetch (.create .epoch) granted (.fresh .single 0) _ _ 0 .epoch machineStart Nat.one_pos
    Nat.one_pos rfl rfl rfl rfl (by decide) reserves rfl (by decide) rfl
  have fetch := fetch.append dispatched
  rw [idle] at fetch
  have within : machineStart < min probeFetch.deadline ⟨5000000000, by decide⟩ := by decide
  obtain ⟨attempted, silent, returned⟩ := probe_returned (.idle granted 1 .empty) within
  refine ⟨granted, _, fetch.snoc returned, ?_⟩
  rw [stored, List.filterMap_append, List.filterMap_append, List.filterMap_cons_none silent]
  exact congrArg (fun events => events ++ []) asked

/-- A lookup misses the cache and registers a flight, which misses it too. -/
theorem probe_registered :
    ∃ trace lookups, Run (PipelineStep oneFlight printedCodec decodingService) .initial trace
        { lookups
          fetching := { storage := .idle (.create .epoch) 0 .empty, fetches := [] }
          history := [.opened .single .epoch 0] } ∧
      lookups.callers 0 = some { request := probeRequest, phase := .waiting probeKey 0 false } ∧
      lookups.callers 1 = none ∧ lookups.lock = none ∧
      lookups.owners 0 = some { key := probeKey, work := .fetching, channel := none } := by
  have looks {before : Pipeline} {events : List LookupEvent} {lookups : Lookups} :=
    @PipelineStep.looked oneFlight printedCodec decodingService before events lookups
  have run := Run.single (@Pipeline.stores printedCodec .initial _ _ oneFlight decodingService
    World.idle_opened (by simp [answeredCall]) (by simp [Pipeline.Asked]))
  have run := run.snoc (looks (@LookupStep.started _ _ probeRequest probeKey 0 rfl rfl)
    (List.forall_mem_singleton.mpr trivial))
  have run := run.snoc (looks
    (@LookupStep.cacheMissed _ _ 0 probeRequest probeKey (.ok none) (by simp) rfl)
    (List.forall_mem_singleton.mpr trivial))
  have run := run.snoc (looks
    (@LookupStep.registered _ _ 0 probeRequest probeKey 0 rfl rfl rfl (by decide) rfl rfl)
    (List.forall_mem_singleton.mpr trivial))
  have run := run.snoc (looks
    (@LookupStep.performed _ _ 0 _ _ _ _ rfl (@Perform.recheckMissed (.ok none) (by simp)))
    (by simp [Pipeline.Backed]))
  exact ⟨_, _, run, rfl, rfl, rfl, rfl⟩

/-- What the report is put under. -/
theorem probe_cacheable : (deepPut 0).Cacheable printedCodec .single .epoch hourAfter :=
  deep_cacheable (by decide +kernel)

/-- It is read back as it was. -/
theorem probe_reads :
    printedCodec.fromSlice (printedCodec.toVec (deepOutcome 0)) = some (deepOutcome 0) := by
  have room : (deepOutcome 0).rawLevels < maxLevels := by
    rw [show (deepOutcome 0).rawLevels = 3 from deepReport_levels 0]
    decide
  exact (payload_roundTrips_iff instants_roundTrip printed_reads rfl).mpr
    ⟨room, deep_rereads (by decide)⟩

/-- Its payload is read as the document that was written. -/
theorem probe_readsAlike :
    ReadsAlike printedSerializer printedDeserializer (deepOutcome 0) := by
  intro document read
  have room : (deepOutcome 0).rawLevels < maxLevels := by
    rw [show (deepOutcome 0).rawLevels = 3 from deepReport_levels 0]
    decide
  have raw := (@deep_trips 0 (by decide)).document printed_reads
  rw [printed_reads.outcome, if_pos room, raw, Option.map_some] at read
  cases read
  exact .refl _

/-- What the storage has done when the report is stored and read. -/
noncomputable def probeHistory : List Event :=
  [.opened .single .epoch 0, .callStarted 0 (.reserve .abuseipdb),
    .reservationCommitted 0 .abuseipdbCheck 0, .reserveReturned 0 .abuseipdb .epoch (.ok ()),
    .callStarted 1 (.cachePut (deepPut 0)), .putCommitted ((deepPut 0).firstPut printedCodec),
    .putReturned 1 (some hourAfter), .callStarted 2 (.cacheGet .abuseipdb "203.0.113.7" .ip),
    .cacheRead 2 .abuseipdb "203.0.113.7" .ip .epoch 0 (.hit (deepOutcome 0) hourAfter)]

/-- A lookup fetches the report and stores it, and a second one reads it. -/
theorem probe_run :
    ∃ trace pipeline, Run (PipelineStep oneFlight printedCodec decodingService) .initial trace
        pipeline ∧
      pipeline.history = probeHistory ∧
      pipeline.lookups.callers 0 = some {
        request := probeRequest
        phase := .returned { LookupResult.uncached (deepOutcome 0) with
          expiresAt := some hourAfter } } ∧
      pipeline.lookups.callers 1 = some {
        request := probeRequest
        phase := .returned (.hit { outcome := deepOutcome 0, expiresAt := hourAfter }) } := by
  have looks {before : Pipeline} {events : List LookupEvent} {lookups : Lookups} :=
    @PipelineStep.looked oneFlight printedCodec decodingService before events lookups
  obtain ⟨_, lookups, run, waits, absent, unlocked, fetches⟩ := probe_registered
  obtain ⟨granted, events, fetch, asked⟩ := probe_fetched
  have run := run.append (Pipeline.fetches_run fetch oneFlight lookups _ (by simp [asked]))
  rw [asked] at run
  -- The owner of the flight stores the report and publishes it.
  have run := run.snoc (looks (@LookupStep.performed _ _ 0 _ _ _ _ fetches
    (@Perform.fetchedReport (deepOutcome 0) rfl))
    (List.forall_mem_singleton.mpr (Or.inr ⟨_, List.mem_singleton.mpr rfl, rfl, rfl⟩)))
  have run := run.snoc (Pipeline.stores oneFlight decodingService
    (World.idle_asked ⟨_, probe_cacheable.preparePut⟩) (by simp [answeredCall])
    (List.forall_mem_singleton.mpr ⟨0, _, rfl, rfl, rfl⟩))
  have run := run.snoc (Pipeline.stores oneFlight decodingService
    (World.asked_put (probe_cacheable.first le_rfl le_rfl (by decide))) (by simp [answeredCall])
    (by simp [Pipeline.Asked]))
  have run := run.snoc (looks (@LookupStep.performed _ _ 0 _ _ _ _ rfl
    (.putConfirmed (some hourAfter))) (List.forall_mem_singleton.mpr trivial))
  have run := run.snoc (looks (@LookupStep.published _ _ 0 _ _ _ unlocked rfl)
    (List.forall_mem_singleton.mpr trivial))
  have run := run.snoc (looks (@LookupStep.received _ _ 0 _ _ 0 false _ _ waits rfl rfl)
    (List.forall_mem_singleton.mpr trivial))
  -- The second lookup is answered with the row.
  have run := run.snoc (looks (@LookupStep.started _ _ probeRequest probeKey 1 absent rfl)
    (List.forall_mem_singleton.mpr trivial))
  have run := run.snoc (Pipeline.stores oneFlight decodingService
    (@World.idle_ask _ _ _ _ .abuseipdb "203.0.113.7" .ip) (by simp [answeredCall])
    (by simp [Pipeline.Asked]))
  have run := run.snoc (Pipeline.stores oneFlight decodingService
    (World.asked_read (probe_cacheable.cacheGet probe_reads rfl rfl rfl le_rfl (by decide)
      (List.mem_singleton.mpr rfl))) (by simp [answeredCall]) (by simp [Pipeline.Asked]))
  have run := run.snoc (looks (@LookupStep.cacheHit _ _ 1 probeRequest probeKey
    { outcome := deepOutcome 0, expiresAt := hourAfter } rfl)
    (List.forall_mem_singleton.mpr
      ⟨2, .ip, .epoch, 0, List.mem_append_right _ (List.mem_singleton.mpr rfl)⟩))
  exact ⟨_, _, run, rfl, rfl, rfl⟩

/-- Both return the report in the shape of its status, and the row that the second one
reads was stored by the first. -/
theorem result_shape_reread :
    LookupResult.Shaped .abuseipdb { LookupResult.uncached (deepOutcome 0) with
        expiresAt := some hourAfter } ∧
      LookupResult.Shaped .abuseipdb
        (.hit { outcome := deepOutcome 0, expiresAt := hourAfter }) := by
  obtain ⟨trace, pipeline, run, past, first, second⟩ := probe_run
  have reads : ∀ put, Event.putCommitted put ∈ pipeline.history →
      ReadsAlike printedSerializer printedDeserializer put.outcome := by
    intro put committed
    rw [past] at committed
    simp only [probeHistory, List.mem_cons, reduceCtorEq, Event.putCommitted.injEq,
      List.not_mem_nil, or_false, false_or] at committed
    rw [committed]
    exact probe_readsAlike
  exact ⟨result_shape instants_roundTrip (fun _ => rfl) run reads first rfl,
    result_shape instants_roundTrip (fun _ => rfl) run reads second rfl⟩

end RustEnrich.Enrichment
