import RustEnrich.Concurrency.Deadline
import RustEnrich.Instant
import RustEnrich.Storage.Reservations

/-!
# Bounded operations and the availability of the storage

Every operation of the storage runs under the smaller of its caller's deadline
and the storage's own timeout, and leaves in one flag whether it came to a result
in time. The flag does not tell which of the two bounds ran out, so a caller in a
hurry makes a storage unavailable that would have answered. Where that happens
is told by the start, both bounds, the end of the work and the reading after it.
-/

namespace RustEnrich.Storage

open Transitions Concurrency

/-- An open storage, with the flag of `is_available` and the bound of an operation. -/
structure OpenStorage where
  database : Database
  session : Session
  available : Bool
  timeout : Duration

namespace OpenStorage

/-- The open storage as a world. -/
def world (storage : OpenStorage) : World := .running storage.database storage.session

/-- The source's `Storage::is_healthy`. -/
def isAvailable (storage : OpenStorage) : Bool := storage.available

/-- The storage with a call that waits for the gate. -/
def queued (storage : OpenStorage) (request : Request) : World :=
  .running storage.database { storage.session with
    nextCall := storage.session.nextCall + 1
    waiting := storage.session.waiting ++ [(storage.session.nextCall, request)] }

end OpenStorage

/-- The operations that run through `bounded`. -/
inductive BoundedOperation
  | reserve (provider : ProviderId)
  | retryAfter (provider : ProviderId)
  | feedback (provider : ProviderId) (feedback : QuotaFeedback)
  | cacheGet (provider : ProviderId) (key : String) (kind : IndicatorKind)
  | cachePut (put : PutRequest)
  | cleanup
  | health

/-- The readings of the monotonic clock: by `cache_put` before it prepares its
row, by `bounded` for its bound and before it polls, where its timer is noticed,
and by `bounded` once more after its wait. -/
structure Readings where
  entered : Instant
  started : Instant
  checked : Instant
  woken : Instant
  ended : Instant
  entered_le : entered ≤ started
  started_le : started ≤ checked

/-- The last reading after a wait for work: at `ended`, and no sooner than the end
of the wait. -/
def Readings.last (readings : Readings) (waited : Instant) : Instant := max waited readings.ended

namespace BoundedOperation

/-- The call that an operation queues. -/
def request : BoundedOperation → Request
  | .reserve provider => .reserve provider
  | .retryAfter provider => .retryAfter provider
  | .feedback provider .. => .feedback provider
  | .cacheGet provider key kind => .cacheGet provider key kind
  | .cachePut put => .cachePut put
  | .cleanup => .cleanup
  | .health => .health

/-- What an operation does before `bounded`: feedback is retained. -/
def enter (operation : BoundedOperation) (storage : OpenStorage) : OpenStorage :=
  match operation with
  | .feedback provider reported =>
      { storage with
        session := { storage.session with
          runtime := storage.session.runtime.retain (quotaGroup provider) reported } }
  | _ => storage

/-- A put that has nothing to store returns before `bounded`. -/
def reaches (codec : PayloadCodec) (settings : Settings) : BoundedOperation → Bool
  | .cachePut put =>
      match preparePut codec settings put with
      | .ok (some _) => true
      | _ => false
  | _ => true

/-- When an operation starts. -/
def start (readings : Readings) : BoundedOperation → Instant
  | .cachePut _ => readings.entered
  | _ => readings.started

/-- The deadline an operation gives `bounded`; a put clips it first. -/
def deadline (storage : OpenStorage) (deadline : Instant) (readings : Readings) :
    BoundedOperation → Option Instant
  | .cachePut _ => (readings.entered.checkedAdd storage.timeout).map (min deadline)
  | _ => some deadline

end BoundedOperation

/-- The work of an operation: when it is finished if left alone and with what,
no sooner than it is polled, and what the storage has come to when it is left. -/
structure Underlying (codec : PayloadCodec) (storage : OpenStorage) (request : Request)
    (polled : Instant) (Answer : Type) where
  work : Work Instant (Except StorageError Answer)
  polled_le : ∀ finished, work.finished = some finished → polled ≤ finished
  left : Instant → Database × Session
  runs : ∀ instant, ∃ trace,
    Run (Step codec) (storage.queued request) trace (.running (left instant).1 (left instant).2)

variable {codec : PayloadCodec} {storage : OpenStorage} {operation : BoundedOperation}
  {request : Request} {readings : Readings} {caller : Instant} {Answer : Type}

/-- `bounded`, which panics where its bound is past the last instant. -/
def OpenStorage.bounded (storage : OpenStorage) (deadline : Instant) (readings : Readings)
    (operation : Underlying codec storage request readings.checked Answer) :
    Option (Except StorageError Answer × OpenStorage) :=
  match readings.started.checkedAdd storage.timeout with
  | none => none
  | some limit =>
      let deadline := min deadline limit
      if deadline ≤ readings.checked then
        some (.error .timeout, { storage with available := false })
      else
        let waited := operation.work.timeoutAt deadline readings.woken
        let result :=
          if deadline ≤ readings.last waited.time then .error .timeout
          else waited.result.getD (.error .timeout)
        let (database, session) := operation.left waited.time
        some (result, { storage with database, session, available := result.isOk })

/-- The storage after a call of an operation. -/
def BoundedOperation.call (codec : PayloadCodec) (operation : BoundedOperation)
    (storage : OpenStorage) (caller : Instant) (readings : Readings)
    (underlying : Underlying codec (operation.enter storage) operation.request readings.checked
      Answer) : OpenStorage :=
  if operation.reaches codec storage.session.settings then
    match operation.deadline storage caller readings with
    | none => operation.enter storage
    | some deadline =>
        match (operation.enter storage).bounded deadline readings underlying with
        | none => operation.enter storage
        | some (_, after) => after
  else
    operation.enter storage

/-! ### The flag and the state an operation leaves -/

variable {deadline limit : Instant} {answer : Except StorageError Answer} {after : OpenStorage}
  {underlying : Underlying codec storage request readings.checked Answer}

/-- The bounds of the source as one: the flag says whether a result was there in
time for both. -/
theorem OpenStorage.bounded_available_iff
    (limited : readings.started.checkedAdd storage.timeout = some limit)
    (returns : storage.bounded deadline readings underlying = some (answer, after)) :
    after.available = true ↔ ∃ finished value, underlying.work.finished = some finished ∧
      underlying.work.result = .ok value ∧ readings.last finished < deadline ∧
      readings.last finished < limit := by
  have inTime : ∀ waited : Waited Instant (Except StorageError Answer),
      (if min deadline limit ≤ readings.last waited.time then Except.error StorageError.timeout
        else waited.result.getD (.error .timeout)).isOk = true ↔
      ∃ value, (if min deadline limit ≤ readings.last waited.time then none else waited.result) =
        some (.ok value) := by
    rintro ⟨result, time⟩
    split
    · simp [Except.isOk, Except.toBool]
    · cases result with
      | none => simp [Except.isOk, Except.toBool]
      | some result => cases result <;> simp [Except.isOk, Except.toBool]
  simp only [bounded, limited] at returns
  split at returns
  · rename_i unpolled
    cases returns
    refine iff_of_false nofun ?_
    rintro ⟨finished, value, ends, _, early, also⟩
    have polled : readings.checked ≤ readings.last finished :=
      (underlying.polled_le finished ends).trans (le_max_left _ _)
    exact absurd (lt_min early also) (unpolled.trans polled).not_gt
  · cases returns
    rw [inTime]
    change (∃ value, underlying.work.inTime (min deadline limit) readings.woken readings.ended =
      some (.ok value)) ↔ _
    simp only [Work.inTime_eq_some_iff]
    change (∃ value finished, underlying.work.finished = some finished ∧
      readings.last finished < min deadline limit ∧ underlying.work.result = .ok value) ↔ _
    simp only [lt_min_iff (b := deadline)]
    constructor
    · rintro ⟨value, finished, ends, ⟨early, also⟩, same⟩
      exact ⟨finished, value, ends, same, early, also⟩
    · rintro ⟨finished, value, ends, same, early, also⟩
      exact ⟨value, finished, ends, ⟨early, also⟩, same⟩

/-- A call under a deadline that can be represented is answered. -/
theorem OpenStorage.bounded_isSome (storage : OpenStorage) (deadline : Instant)
    (underlying : Underlying codec storage request readings.checked Answer)
    (limited : readings.started.checkedAdd storage.timeout = some limit) :
    ∃ answer after, storage.bounded deadline readings underlying = some (answer, after) := by
  simp only [bounded, limited]
  split
  · exact ⟨_, _, rfl⟩
  · exact ⟨_, _, rfl⟩

/-- Past its deadline nothing is polled: only the flag is written. -/
theorem OpenStorage.bounded_expired (expired : deadline ≤ readings.started)
    (returns : storage.bounded deadline readings underlying = some (answer, after)) :
    after = { storage with available := false } := by
  unfold bounded at returns
  split at returns
  · cases returns
  · rename_i limit _
    have unpolled : min deadline limit ≤ readings.checked :=
      (min_le_left _ _).trans (expired.trans readings.started_le)
    rw [if_pos unpolled] at returns
    cases returns
    rfl

/-! ### What a caller's deadline does to the flag -/

namespace BoundedOperation

/-- Entering leaves the flag. -/
@[simp] theorem enter_available (operation : BoundedOperation) (storage : OpenStorage) :
    (operation.enter storage).available = storage.available := by
  cases operation <;> rfl

/-- Entering leaves the timeout. -/
@[simp] theorem enter_timeout (operation : BoundedOperation) (storage : OpenStorage) :
    (operation.enter storage).timeout = storage.timeout := by
  cases operation <;> rfl

/-- An operation starts no later than its timer. -/
theorem start_le (operation : BoundedOperation) (readings : Readings) :
    operation.start readings ≤ readings.started := by
  cases operation <;> first | exact le_refl _ | exact readings.entered_le

end BoundedOperation

/-- Left alone, the work comes to a result within the timeout of the storage. -/
def Underlying.Succeeds (underlying : Underlying codec storage request readings.checked Answer)
    (start finished : Instant) : Prop :=
  underlying.work.finished = some finished ∧
    (∃ value, underlying.work.result = .ok value) ∧
    finished.nanos < start.nanos + storage.timeout.nanos

/-- Work that is finished at a time is found in time for both bounds by the
reading after the wait. -/
def BoundedOperation.InTime (operation : BoundedOperation) (storage : OpenStorage)
    (caller : Instant) (readings : Readings) (finished : Instant) : Prop :=
  readings.last finished < caller ∧
    (readings.last finished).nanos < (operation.start readings).nanos + storage.timeout.nanos

section Call

variable {underlying : Underlying codec (operation.enter storage) operation.request
  readings.checked Answer}

/-- An operation that does not get to its timer does nothing but enter. -/
theorem BoundedOperation.call_unbounded
    (unbounded : operation.reaches codec storage.session.settings = false ∨
      readings.started.checkedAdd storage.timeout = none) :
    operation.call codec storage caller readings underlying = operation.enter storage := by
  unfold call
  split
  · rename_i reached
    have unlimited := unbounded.resolve_left (by rw [reached]; nofun)
    split
    · rfl
    · simp only [OpenStorage.bounded, enter_timeout, unlimited]
  · rfl

/-- The deadline an operation runs under, which bounds its work as the caller's
deadline and the timeout from its start do. -/
theorem BoundedOperation.deadline_spec (caller : Instant)
    (limited : readings.started.checkedAdd storage.timeout = some limit) :
    ∃ deadline, operation.deadline storage caller readings = some deadline ∧
      deadline ≤ caller ∧ ∀ finished, finished < deadline ∧ finished < limit ↔
        finished < caller ∧
          finished.nanos < (operation.start readings).nanos + storage.timeout.nanos := by
  have bound := Instant.nanos_of_checkedAdd limited
  cases operation with
  | cachePut put =>
      obtain ⟨earlier, clipped, below⟩ := Instant.checkedAdd_of_le readings.entered_le limited
      have sum := Instant.nanos_of_checkedAdd clipped
      refine ⟨min caller earlier, by simp only [deadline, clipped, Option.map_some],
        min_le_left _ _, fun finished => ?_⟩
      change _ ↔ finished < caller ∧ finished.nanos < readings.entered.nanos + storage.timeout.nanos
      rw [lt_min_iff, ← sum, ← Instant.lt_iff_nanos]
      constructor
      · rintro ⟨both, _⟩
        exact both
      · rintro ⟨early, also⟩
        exact ⟨⟨early, also⟩, also.trans_le below⟩
  | _ =>
      refine ⟨caller, rfl, le_refl caller, fun finished => and_congr_right fun _ => ?_⟩
      rw [Instant.lt_iff_nanos, bound]
      rfl

/-- The flag stands after an operation exactly where its work succeeded in time. -/
theorem BoundedOperation.call_available_iff
    (reached : operation.reaches codec storage.session.settings = true)
    (limited : readings.started.checkedAdd storage.timeout = some limit) :
    (operation.call codec storage caller readings underlying).isAvailable = true ↔
      ∃ finished, underlying.Succeeds (operation.start readings) finished ∧
        operation.InTime storage caller readings finished := by
  obtain ⟨deadline, clipped, _, spec⟩ := operation.deadline_spec caller limited
  have bounded := (operation.enter storage).bounded_isSome deadline underlying
    ((congrArg _ (operation.enter_timeout storage)).trans limited)
  obtain ⟨answer, after, returns⟩ := bounded
  have flag := OpenStorage.bounded_available_iff
    ((congrArg _ (operation.enter_timeout storage)).trans limited) returns
  simp only [call, reached, clipped, returns, if_true]
  refine flag.trans ?_
  unfold Underlying.Succeeds
  rw [enter_timeout]
  constructor
  · rintro ⟨finished, value, ends, same, inTime⟩
    obtain ⟨early, within⟩ := (spec (readings.last finished)).mp inTime
    have sooner : finished.nanos ≤ (readings.last finished).nanos :=
      (le_max_left finished readings.ended : finished ≤ readings.last finished)
    exact ⟨finished, ⟨ends, ⟨value, same⟩, sooner.trans_lt within⟩, early, within⟩
  · rintro ⟨finished, ⟨ends, ⟨value, same⟩, _⟩, inTime⟩
    exact ⟨finished, value, ends, same, (spec (readings.last finished)).mpr inTime⟩

/-- Past its caller's deadline an operation is not polled: it writes the flag. -/
theorem BoundedOperation.call_expired
    (reached : operation.reaches codec storage.session.settings = true)
    (limited : readings.started.checkedAdd storage.timeout = some limit)
    (expired : caller ≤ operation.start readings) :
    operation.call codec storage caller readings underlying =
      { operation.enter storage with available := false } := by
  obtain ⟨deadline, clipped, below, _⟩ := operation.deadline_spec caller limited
  obtain ⟨answer, after, returns⟩ := (operation.enter storage).bounded_isSome deadline underlying
    ((congrArg _ (operation.enter_timeout storage)).trans limited)
  have past := below.trans (expired.trans (operation.start_le readings))
  simp only [call, reached, clipped, returns, if_true]
  exact OpenStorage.bounded_expired past returns

/-- An operation that is polled is a call of the storage that starts. -/
theorem BoundedOperation.polls (reached : operation.reaches codec storage.session.settings = true) :
    ∃ emitted, Step codec storage.world emitted
      ((operation.enter storage).queued operation.request) := by
  cases operation with
  | feedback provider reported => exact ⟨_, .retained provider reported⟩
  | cachePut put =>
      refine ⟨_, .started (.cachePut put) (fun _ => nofun) ?_⟩
      simp only [reaches] at reached
      split at reached
      · exact ⟨_, ‹_›⟩
      · cases reached
  | reserve provider => exact ⟨_, .started (.reserve provider) (fun _ => nofun) trivial⟩
  | retryAfter provider => exact ⟨_, .started (.retryAfter provider) (fun _ => nofun) trivial⟩
  | cacheGet provider key kind =>
      exact ⟨_, .started (.cacheGet provider key kind) (fun _ => nofun) trivial⟩
  | cleanup => exact ⟨_, .started .cleanup (fun _ => nofun) trivial⟩
  | health => exact ⟨_, .started .health (fun _ => nofun) trivial⟩

/-- An operation that is polled does to the storage what a run does: its call is
started, and left where the wait for it ends. -/
theorem BoundedOperation.call_run
    (reached : operation.reaches codec storage.session.settings = true)
    (limited : readings.started.checkedAdd storage.timeout = some limit)
    (polled : ∀ deadline, operation.deadline storage caller readings = some deadline →
      readings.checked < min deadline limit) :
    ∃ trace, Run (Step codec) storage.world trace
      (operation.call codec storage caller readings underlying).world := by
  obtain ⟨deadline, clipped, _⟩ := operation.deadline_spec caller limited
  obtain ⟨emitted, starts⟩ := BoundedOperation.polls reached
  have early : ¬ min deadline limit ≤ readings.checked := (polled deadline clipped).not_ge
  have bound : readings.started.checkedAdd (operation.enter storage).timeout = some limit :=
    (congrArg _ (operation.enter_timeout storage)).trans limited
  obtain ⟨rest, run⟩ := underlying.runs
    (underlying.work.timeoutAt (min deadline limit) readings.woken).time
  simp only [call, reached, if_true, clipped, OpenStorage.bounded, bound, if_neg early]
  exact ⟨_, Run.cons starts run⟩

/-- What a caller's deadline has to leave alone. -/
structure BoundedOperation.Undisturbed (operation : BoundedOperation) (storage : OpenStorage)
    (caller : Instant) (readings : Readings)
    (underlying : Underlying codec (operation.enter storage) operation.request readings.checked
      Answer) : Prop where
  /-- Work that would succeed within the timeout of the storage takes nothing from
  its availability. -/
  ready : ∀ finished, underlying.Succeeds (operation.start readings) finished →
    storage.isAvailable = true →
      (operation.call codec storage caller readings underlying).isAvailable = true
  /-- A deadline that has passed at the start leaves everything, except that
  feedback is retained. -/
  expired : caller ≤ operation.start readings →
    operation.call codec storage caller readings underlying = operation.enter storage

/-- A deadline and a last reading that no availability is lost to. -/
def BoundedOperation.Spared (operation : BoundedOperation) (storage : OpenStorage)
    (caller : Instant) (readings : Readings)
    (underlying : Underlying codec (operation.enter storage) operation.request readings.checked
      Answer) : Prop :=
  storage.isAvailable = false ∨ operation.reaches codec storage.session.settings = false ∨
    readings.started.checkedAdd storage.timeout = none ∨
      operation.start readings < caller ∧
        ∀ finished, underlying.Succeeds (operation.start readings) finished →
          operation.InTime storage caller readings finished

/-- A call that is not bounded writes no flag. -/
theorem BoundedOperation.Undisturbed.of_unbounded
    (unbounded : operation.reaches codec storage.session.settings = false ∨
      readings.started.checkedAdd storage.timeout = none) :
    operation.Undisturbed storage caller readings underlying := by
  refine ⟨fun _ _ available => ?_, fun _ => call_unbounded unbounded⟩
  rw [call_unbounded unbounded]
  exact (operation.enter_available storage).trans available

/-- A flag that is down is not taken down. -/
theorem BoundedOperation.Undisturbed.of_unavailable (unavailable : storage.isAvailable = false) :
    operation.Undisturbed storage caller readings underlying := by
  refine ⟨fun _ _ available => ?_, fun expired => ?_⟩
  · rw [unavailable] at available
    cases available
  · cases reached : operation.reaches codec storage.session.settings with
    | false => exact call_unbounded (Or.inl reached)
    | true =>
        cases limited : readings.started.checkedAdd storage.timeout with
        | none => exact call_unbounded (Or.inr limited)
        | some limit =>
            have flag : (operation.enter storage).available = false :=
              (operation.enter_available storage).trans unavailable
            rw [call_expired reached limited expired, ← flag]

/-- Work that is in time disturbs nothing. -/
theorem BoundedOperation.Undisturbed.of_early (early : operation.start readings < caller)
    (each : ∀ finished, underlying.Succeeds (operation.start readings) finished →
      operation.InTime storage caller readings finished) :
    operation.Undisturbed storage caller readings underlying := by
  cases reached : operation.reaches codec storage.session.settings with
  | false => exact .of_unbounded (Or.inl reached)
  | true =>
      cases limited : readings.started.checkedAdd storage.timeout with
      | none => exact .of_unbounded (Or.inr limited)
      | some limit =>
          refine ⟨fun finished succeeds _ => ?_, fun expired => absurd early expired.not_gt⟩
          exact (call_available_iff reached limited).mpr
            ⟨finished, succeeds, each finished succeeds⟩

/-- The flag of a storage that an operation finds available is kept by no late
deadline, and by no bound that the reading after the work misses. -/
theorem BoundedOperation.Undisturbed.inTime
    (undisturbed : operation.Undisturbed storage caller readings underlying)
    (available : storage.isAvailable = true)
    (reached : operation.reaches codec storage.session.settings = true)
    (limited : readings.started.checkedAdd storage.timeout = some limit) :
    operation.start readings < caller ∧
      ∀ finished, underlying.Succeeds (operation.start readings) finished →
        operation.InTime storage caller readings finished := by
  constructor
  · by_contra late
    have same := undisturbed.expired (not_lt.mp late)
    rw [call_expired reached limited (not_lt.mp late)] at same
    have flag : false = storage.available :=
      (congrArg OpenStorage.available same).trans (operation.enter_available storage)
    exact absurd (flag.trans available) nofun
  · intro finished succeeds
    obtain ⟨again, ⟨ends, _⟩, early⟩ :=
      (call_available_iff reached limited).mp (undisturbed.ready finished succeeds available)
    cases ends.symm.trans succeeds.1
    exact early

/-- **Only storage trouble makes the service unready, where deadlines are kept.**
For every operation, start, deadline of the caller, timeout of the storage, end
of the work and reading after it, the deadline costs no availability if and only
if the flag was down already, the call is not bounded, or the deadline lies after
the start and, for work that would succeed within the timeout, the reading after
it lies before the deadline and within the timeout. -/
theorem BoundedOperation.undisturbed_iff :
    operation.Undisturbed storage caller readings underlying ↔
      operation.Spared storage caller readings underlying := by
  constructor
  · intro undisturbed
    cases available : storage.isAvailable with
    | false => exact Or.inl available
    | true =>
        cases reached : operation.reaches codec storage.session.settings with
        | false => exact Or.inr (Or.inl reached)
        | true =>
            cases limited : readings.started.checkedAdd storage.timeout with
            | none => exact Or.inr (Or.inr (Or.inl limited))
            | some limit =>
                exact Or.inr (Or.inr (Or.inr (undisturbed.inTime available reached limited)))
  · rintro (unavailable | unreached | unlimited | ⟨early, each⟩)
    · exact .of_unavailable unavailable
    · exact .of_unbounded (Or.inl unreached)
    · exact .of_unbounded (Or.inr unlimited)
    · exact .of_early early each

end Call

/-! ### A caller in a hurry -/

/-- An open storage that has just been found available. -/
def OpenStorage.sample : OpenStorage where
  database := .create .epoch
  session := .fresh .single 0
  available := true
  timeout := .fromMillis 1000

/-- Readings that take no time. -/
def Readings.at (instant : Instant) : Readings where
  entered := instant
  started := instant
  checked := instant
  woken := instant
  ended := instant
  entered_le := le_refl instant
  started_le := le_refl instant

/-- The start of the machine. -/
def bootTime : Instant := ⟨0, Instant.inRange_zero⟩

/-- The deadline of a caller in a hurry. -/
def tenMillisLater : Instant := ⟨10000000, by decide⟩

/-- When the work is done. -/
def twentyMillisLater : Instant := ⟨20000000, by decide⟩

/-- When the answer is read. -/
def twentyFiveMillisLater : Instant := ⟨25000000, by decide⟩

/-- Readings that take no time but for the last one, a millisecond after that. -/
def Readings.lateLook : Readings :=
  { Readings.at bootTime with ended := ⟨26000000, by decide⟩ }

/-- A read of the cache. -/
def sampleRead : BoundedOperation := .cacheGet .abuseipdb "v1:ip:192.0.2.1" .ip

/-- A session whose only call has been dropped while it waited. -/
def Session.dropped : Session := { Session.fresh .single 0 with nextCall := 1 }

/-- A session whose only call has read the wall clock. -/
def Session.served : Session :=
  { Session.dropped with runtime := Session.dropped.runtime.observe .epoch }

/-- A read that finds nothing, after twenty milliseconds. -/
def twentyMillisRead :
    Underlying .blank (sampleRead.enter .sample) sampleRead.request (Readings.at bootTime).checked
      CacheRead where
  work := { finished := some twentyMillisLater, result := .ok .absent }
  polled_le := by
    rintro finished ⟨⟩
    exact Nat.zero_le _
  left instant :=
    (.create .epoch, if instant < twentyMillisLater then .dropped else .served)
  runs := by
    intro instant
    have performed := @Step.performed .blank (.create .epoch)
      { Session.dropped with waiting := [(0, sampleRead.request)] } [] [] 0 sampleRead.request _
      .epoch rfl rfl rfl
    split
    · exact ⟨_, .single (@Step.abandoned _ _ _ [] [] 0 sampleRead.request rfl)⟩
    · exact ⟨_, .single performed⟩

/-- A read that takes twenty milliseconds of the second it has makes the storage
unavailable where its caller's deadline comes before its end, or before the
reading after it, or has passed. -/
theorem unready_in_a_hurry :
    ¬ sampleRead.Undisturbed .sample tenMillisLater (.at bootTime) twentyMillisRead ∧
      ¬ @BoundedOperation.Undisturbed .blank _ sampleRead .sample twentyFiveMillisLater .lateLook
        twentyMillisRead ∧
      ¬ sampleRead.Undisturbed .sample bootTime (.at bootTime) twentyMillisRead := by
  have limited : ∃ limit, bootTime.checkedAdd OpenStorage.sample.timeout = some limit :=
    ⟨_, rfl⟩
  obtain ⟨limit, limited⟩ := limited
  refine ⟨?_, ?_, ?_⟩
  · intro undisturbed
    have early := ((undisturbed.inTime rfl rfl limited).2 twentyMillisLater
      ⟨rfl, ⟨.absent, rfl⟩, by decide⟩).1
    exact absurd early (by decide)
  · intro undisturbed
    have early := ((undisturbed.inTime rfl rfl limited).2 twentyMillisLater
      ⟨rfl, ⟨.absent, rfl⟩, by decide⟩).1
    exact absurd early (by decide)
  · intro undisturbed
    exact absurd (undisturbed.inTime rfl rfl limited).1 (by decide)

end RustEnrich.Storage
