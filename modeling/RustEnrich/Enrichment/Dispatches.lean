import RustEnrich.Enrichment.Fetch
import RustEnrich.Transitions.History
import Mathlib.Data.List.NodupEquivFin

/-!
# Every dispatch has its own committed reservation

A request is sent in the step that learns of its reservation, so the requests
sent are among the granted reservations, which are among the committed ones. What
each fetch has done is told by its own history, and where it is bounds what its
history can hold.
-/

namespace RustEnrich.Enrichment

open Transitions Storage

/-! ### What a trace holds -/

/-- The request that an action sends. -/
def FetchAction.dispatch : FetchAction → Option Dispatch
  | .dispatched dispatch => some dispatch
  | _ => none

/-- The request that an event sends. -/
def FetchEvent.dispatch : FetchEvent → Option Dispatch
  | .progressed _ action => action.dispatch
  | _ => none

/-- The requests a fetch sent. -/
def dispatches (history : List FetchAction) : List Dispatch :=
  history.filterMap FetchAction.dispatch

/-- The requests of a group, over all fetches. -/
def sent (group : QuotaGroup) (trace : List FetchEvent) : List Dispatch :=
  (trace.filterMap FetchEvent.dispatch).filter (fun dispatch => dispatch.reservation.group = group)

/-- What the storage did in a trace. -/
def stored (trace : List FetchEvent) : List Event := trace.filterMap FetchEvent.stored

/-- The reservations of a group that were committed. -/
def reserved (group : QuotaGroup) (trace : List FetchEvent) : List Reservation :=
  (committed (stored trace)).filter (fun reservation => reservation.group = group)

/-- What one fetch did in a trace. -/
def history (id : FetchId) (trace : List FetchEvent) : List FetchAction :=
  trace.filterMap (FetchEvent.action id)

/-- An answer of `reserve` other than `Ok`. -/
def FetchAction.FailsReserve : FetchAction → Prop
  | .storage (.reserveReturned _ _ _ (.error _)) | .storage (.callFailed _) => True
  | _ => False

/-- The first attempt ended retryable, with the time for the pause and a whole
second attempt. -/
def Retried (service : Service) (deadline : Instant) (history : List FetchAction) : Prop :=
  ∃ result now, .attempted 0 (.ok result) now ∈ history ∧ result.retry = true ∧
    max (result.retryAfter.getD .zero).nanos backoff.nanos + service.providerTimeout.nanos ≤
      deadline.nanos - now.nanos

/-- What each request a fetch sends comes after. -/
structure Warranted (service : Service) (request : FetchRequest) (front : List FetchAction)
    (dispatch : Dispatch) : Prop where
  /-- The deadline was checked, with nothing awaited since. -/
  inTime : dispatch.checked < request.deadline
  /-- The reservation of the attempt was granted, and nothing happened since. -/
  granted : ∃ earlier wall,
    front = earlier ++
      [.storage (.reserveReturned dispatch.reservation.call request.provider wall (.ok ()))] ∧
    dispatch.reservation.group = quotaGroup request.provider ∧
    dispatch.reservation.now = wall.timestampMillis
  unfailed : ∀ action ∈ front, ¬ action.FailsReserve
  /-- One attempt sends at most one request. -/
  attempt : dispatch.attempt = (dispatches front).length
  retried : dispatches front ≠ [] → Retried service request.deadline front

/-- What the history of a fetch keeps to. -/
structure Disciplined (service : Service) (request : FetchRequest) (history : List FetchAction) :
    Prop where
  atMostTwo : (dispatches history).length ≤ 2
  warranted : ∀ front dispatch back, history = front ++ .dispatched dispatch :: back →
    Warranted service request front dispatch
  /-- The return after the loop is not reached. -/
  unexhausted : .exhausted ∉ history

section Append

variable (id : FetchId) (front back : List FetchEvent) (earlier later : List FetchAction)

/-- The requests of two histories, one after the other. -/
@[simp] theorem dispatches_append :
    dispatches (earlier ++ later) = dispatches earlier ++ dispatches later :=
  List.filterMap_append

/-- What the storage sees of two traces, one after the other. -/
@[simp] theorem stored_append : stored (front ++ back) = stored front ++ stored back :=
  List.filterMap_append

/-- The history of a fetch over two traces, one after the other. -/
@[simp] theorem history_append :
    history id (front ++ back) = history id front ++ history id back :=
  List.filterMap_append

end Append

variable {codec : PayloadCodec} {service : Service} {request : FetchRequest}
  {phase next : FetchPhase} {earlier actions : List FetchAction} {id : FetchId}
  {before after start reached : Fetching} {events trace : List FetchEvent}

/-- The storage sees its own part of the actions of a fetch. -/
theorem stored_progressed (id : FetchId) (actions : List FetchAction) :
    stored (actions.map (.progressed id)) = actions.filterMap FetchAction.stored :=
  List.filterMap_map

/-- The storage sees all of its steps. -/
theorem stored_storage (emitted : List Event) : stored (emitted.map .storage) = emitted := by
  unfold stored
  rw [List.filterMap_map]
  exact List.filterMap_some

/-- A fetch has its own actions in its history. -/
theorem history_progressed (id : FetchId) (actions : List FetchAction) :
    history id (actions.map (.progressed id)) = actions := by
  unfold history
  rw [List.filterMap_map]
  have own : FetchEvent.action id ∘ FetchEvent.progressed id = some := by
    funext action
    exact if_pos rfl
  rw [own]
  exact List.filterMap_some

/-- A fetch has no action of another in its history. -/
theorem history_progressed_of_ne {other : FetchId} (distinct : other ≠ id)
    (actions : List FetchAction) : history id (actions.map (.progressed other)) = [] := by
  apply List.filterMap_eq_nil_iff.mpr
  intro event member
  obtain ⟨action, _, rfl⟩ := List.mem_map.mp member
  exact if_neg distinct

/-- A fetch has no step of the storage in its history. -/
theorem history_storage (id : FetchId) (emitted : List Event) :
    history id (emitted.map .storage) = [] := by
  apply List.filterMap_eq_nil_iff.mpr
  intro event member
  obtain ⟨_, _, rfl⟩ := List.mem_map.mp member
  rfl

/-! ### Requests and reservations -/

/-- The storage takes its own run below the fetches. -/
theorem FetchStep.storage_run (taken : FetchStep codec service before events after) :
    Run (Step codec) before.storage (stored events) after.storage := by
  cases taken with
  | started request running => exact .refl
  | progressed there progress permits follows =>
      rw [stored_progressed]
      cases kinds : List.filterMap FetchAction.stored _ with
      | nil =>
          rw [kinds] at follows
          cases follows
          exact .refl
      | cons event rest =>
          rw [kinds] at follows
          exact .single follows
  | storage taken unawaited open_ =>
      rw [stored_storage]
      exact .single taken
  | ended taken => exact .single taken

/-- Behind the fetches the storage makes a run. -/
theorem storage_run (run : Run (FetchStep codec service) start trace reached) :
    Run (Step codec) start.storage (stored trace) reached.storage := by
  induction run with
  | refl => exact .refl
  | snoc _ taken ih =>
      rw [stored_append]
      exact ih.append taken.storage_run

/-- A request is sent in the step in which its reservation is granted. -/
theorem Progress.granted (progress : Progress service request phase actions next) :
    ((dispatches actions).map Dispatch.reservation).Sublist
      (granted (actions.filterMap FetchAction.stored)) := by
  cases progress with
  | dispatched wall checked started inTime limited built => exact .refl _
  | _ => exact List.nil_sublist _

/-- A step sends only under reservations granted in it. -/
theorem FetchStep.granted (taken : FetchStep codec service before events after) :
    ((events.filterMap FetchEvent.dispatch).map Dispatch.reservation).Sublist
      (granted (stored events)) := by
  cases taken with
  | started request running => exact List.nil_sublist _
  | @progressed id _ actions _ _ there progress permits follows =>
      have own : (actions.map (FetchEvent.progressed id)).filterMap FetchEvent.dispatch =
          dispatches actions := List.filterMap_map
      rw [own, stored_progressed]
      exact progress.granted
  | @storage emitted _ taken unawaited open_ =>
      have silent : (emitted.map FetchEvent.storage).filterMap FetchEvent.dispatch = [] := by
        rw [List.filterMap_map]
        exact List.filterMap_eq_nil_iff.mpr (fun _ _ => rfl)
      rw [silent]
      exact List.nil_sublist _
  | ended taken => exact List.nil_sublist _

/-- Over a run every request was granted its reservation, in order. -/
theorem dispatched_granted (run : Run (FetchStep codec service) start trace reached) :
    ((trace.filterMap FetchEvent.dispatch).map Dispatch.reservation).Sublist
      (granted (stored trace)) := by
  induction run with
  | refl => exact List.nil_sublist _
  | snoc _ taken ih =>
      rw [List.filterMap_append, List.map_append, stored_append, granted_append]
      exact ih.append taken.granted

/-- The reservations of the requests of a group. -/
theorem map_sent (group : QuotaGroup) (trace : List FetchEvent) :
    (sent group trace).map Dispatch.reservation =
      ((trace.filterMap FetchEvent.dispatch).map Dispatch.reservation).filter
        (fun reservation => reservation.group = group) := by
  rw [List.filter_map]
  rfl

/-- The requests of a group, in order, are among its committed reservations. -/
theorem sent_sublist_reserved {file : Option Database}
    (run : Run (FetchStep codec service) (.initial file) trace reached) (group : QuotaGroup) :
    ((sent group trace).map Dispatch.reservation).Sublist (reserved group trace) := by
  have answered := granted_sublist_committed (storage_run run)
  have among := (dispatched_granted run).trans ((List.sublist_append_left _ _).trans answered)
  rw [map_sent]
  exact among.filter (fun reservation => reservation.group = group)

/-! ### The history of one fetch -/

/-- What the history of a fetch holds by the phase the fetch is in. -/
def Course (service : Service) (request : FetchRequest) (earlier : List FetchAction) :
    FetchPhase → Prop
  | .acquiringProvider attempt | .acquiringGlobal attempt | .reserving attempt _ =>
      attempt ≤ lastAttempt ∧ (dispatches earlier).length = attempt ∧
      (∀ action ∈ earlier, ¬ action.FailsReserve) ∧
      (0 < attempt → Retried service request.deadline earlier)
  | .sending attempt _ =>
      attempt ≤ lastAttempt ∧ (dispatches earlier).length = attempt + 1 ∧
      ∀ action ∈ earlier, ¬ action.FailsReserve
  | .sleeping attempt _ =>
      attempt < lastAttempt ∧ (dispatches earlier).length = attempt + 1 ∧
      (∀ action ∈ earlier, ¬ action.FailsReserve) ∧ Retried service request.deadline earlier
  | .returned _ | .panicked | .dropped => (dispatches earlier).length ≤ 2

/-- A repetition stays justified as the history goes on. -/
theorem Retried.append {deadline : Instant} (retried : Retried service deadline earlier)
    (later : List FetchAction) : Retried service deadline (earlier ++ later) := by
  obtain ⟨result, now, member, rest⟩ := retried
  exact ⟨result, now, List.mem_append_left later member, rest⟩

/-- What holds where an action stands in a history. -/
def Keeps (service : Service) (request : FetchRequest) (front : List FetchAction) :
    FetchAction → Prop
  | .dispatched dispatch => Warranted service request front dispatch
  | .exhausted => False
  | _ => True

/-- Actions that send nothing add no request. -/
theorem dispatches_silent (silent : ∀ action ∈ actions, action.dispatch = none) :
    dispatches (earlier ++ actions) = dispatches earlier := by
  rw [dispatches_append]
  have none_sent : dispatches actions = [] := List.filterMap_eq_nil_iff.mpr silent
  rw [none_sent, List.append_nil]

/-- An attempt that asks for no other one ends the fetch. -/
theorem conclude_returns {deadline : Instant} {attempt : Nat} {result : Except ErrorCode Attempt}
    {now : Instant} (final : ∀ answer, result = .ok answer → answer.retry = false) :
    ∃ outcome, conclude service deadline attempt result now = .returned outcome := by
  cases result with
  | error code => exact ⟨_, rfl⟩
  | ok answer =>
      refine ⟨answer.outcome, if_neg ?_⟩
      simp [retries, final answer rfl]

/-- An attempt that fails before its request is sent ends the fetch. -/
theorem Course.refused {attempt : Nat} {result : Except ErrorCode Attempt} {now : Instant}
    (inRange : attempt ≤ lastAttempt) (count : (dispatches earlier).length = attempt)
    (silent : ∀ action ∈ actions, action.dispatch = none)
    (final : ∀ answer, result = .ok answer → answer.retry = false) :
    Course service request (earlier ++ actions)
      (conclude service request.deadline attempt result now) := by
  obtain ⟨outcome, returns⟩ := @conclude_returns service request.deadline attempt result now final
  rw [returns]
  change (dispatches (earlier ++ actions)).length ≤ 2
  rw [dispatches_silent silent, count]
  exact inRange.trans (by decide)

/-- The pause before a second attempt. -/
theorem Attempt.nanos_delay (answer : Attempt) :
    answer.delay.nanos = max (answer.retryAfter.getD .zero).nanos backoff.nanos := by
  unfold Attempt.delay
  rw [Duration.nanos_max]
  cases answer.retryAfter with
  | none => exact (max_self backoff.nanos).trans (max_eq_right (Nat.zero_le _)).symm
  | some delay => rfl

/-- Only a retryable first attempt with enough time left is followed by a pause. -/
theorem Course.settled {attempt : Nat} {result : Except ErrorCode Attempt} {now : Instant}
    (inRange : attempt ≤ lastAttempt) (count : (dispatches earlier).length = attempt + 1)
    (unfailed : ∀ action ∈ earlier, ¬ action.FailsReserve) :
    Course service request (earlier ++ [.attempted attempt result now])
      (conclude service request.deadline attempt result now) := by
  have same : (dispatches (earlier ++ [.attempted attempt result now])).length = attempt + 1 := by
    rw [dispatches_silent (List.forall_mem_singleton.mpr rfl), count]
  have atMostTwo := same.trans_le (Nat.succ_le_succ inRange)
  cases result with
  | error code => exact atMostTwo
  | ok answer =>
      simp only [conclude]
      split
      · rename_i again
        simp only [retries, decide_eq_true_eq, Instant.saturatingAdd_le_since_iff,
          Attempt.nanos_delay] at again
        obtain ⟨rfl, retry, time⟩ := again
        refine ⟨by decide, same, ?_, answer, now, by simp, retry, time⟩
        exact List.forall_mem_append.mpr ⟨unfailed, List.forall_mem_singleton.mpr not_false⟩
      · exact atMostTwo

/-- One step of a fetch, case by case over its phases. -/
theorem Course.step (course : Course service request earlier phase)
    (progress : Progress service request phase actions next) :
    Course service request (earlier ++ actions) next := by
  cases progress with
  | providerPermit attempt => rwa [List.append_nil]
  | providerRefused attempt now | globalRefused attempt now =>
      obtain ⟨inRange, count, _⟩ := course
      exact .refused inRange count (List.forall_mem_singleton.mpr rfl) (by simp)
  | globalPermit attempt call =>
      obtain ⟨inRange, count, unfailed, retried⟩ := course
      refine ⟨inRange, ?_, ?_, fun second => (retried second).append _⟩
      · rwa [dispatches_silent (List.forall_mem_singleton.mpr rfl)]
      · exact List.forall_mem_append.mpr ⟨unfailed, List.forall_mem_singleton.mpr not_false⟩
  | limited wall delay now =>
      obtain ⟨inRange, count, _⟩ := course
      apply Course.refused inRange count (by simp [FetchAction.dispatch])
      rintro answer ⟨rfl⟩
      rfl
  | unavailable wall error now | failed now | late wall checked now late =>
      obtain ⟨inRange, count, _⟩ := course
      exact .refused inRange count (by simp [FetchAction.dispatch]) (by simp)
  | overflowed wall checked started inTime overflows | droppedReserving attempt call =>
      obtain ⟨inRange, count, _⟩ := course
      change (dispatches (earlier ++ [_])).length ≤ 2
      rw [dispatches_silent (List.forall_mem_singleton.mpr rfl), count]
      exact inRange.trans (by decide)
  | unsent wall checked started collected now inTime limited unbuilt =>
      obtain ⟨inRange, count, _⟩ := course
      apply Course.refused inRange count (by simp [FetchAction.dispatch])
      intro answer collects
      unfold collect at collects
      split at collects <;> cases collects
  | dispatched wall checked started inTime limited built =>
      obtain ⟨inRange, count, unfailed, _⟩ := course
      refine ⟨inRange, ?_, ?_⟩
      · rw [dispatches_append, List.length_append, count]
        rfl
      · apply List.forall_mem_append.mpr ⟨unfailed, ?_⟩
        simp [FetchAction.FailsReserve]
  | answered exchange collected now =>
      obtain ⟨inRange, count, unfailed⟩ := course
      exact .settled inRange count unfailed
  | timedOut now =>
      obtain ⟨inRange, count, unfailed⟩ := course
      exact .settled inRange count unfailed
  | woken more =>
      obtain ⟨_, count, unfailed, retried⟩ := course
      rw [List.append_nil]
      exact ⟨more, count, unfailed, fun _ => retried⟩
  | exhausted last =>
      obtain ⟨more, _⟩ := course
      exact absurd more last
  | droppedAcquiringProvider attempt | droppedAcquiringGlobal attempt =>
      obtain ⟨inRange, count, _⟩ := course
      rw [List.append_nil]
      exact (count.trans_le inRange).trans (by decide)
  | droppedSending attempt attemptDeadline =>
      obtain ⟨inRange, count, _⟩ := course
      rw [List.append_nil]
      exact count.trans_le (Nat.succ_le_succ inRange)
  | droppedSleeping attempt delay =>
      obtain ⟨more, count, _⟩ := course
      rw [List.append_nil]
      exact count.trans_le (Nat.succ_le_succ more.le)

/-- What a step adds to the history of a fetch is warranted there. -/
theorem Course.keeps (course : Course service request earlier phase)
    (progress : Progress service request phase actions next) :
    Throughout (fun front => Keeps service request (earlier ++ front)) actions := by
  cases progress with
  | @dispatched attempt call limit wall checked started inTime limited built =>
      obtain ⟨_, count, unfailed, retried⟩ := course
      refine throughout_cons.mpr ⟨trivial, throughout_cons.mpr ⟨?_, throughout_nil⟩⟩
      have silent : dispatches (earlier ++ [.storage (.reserveReturned call request.provider wall
          (.ok ()))]) = dispatches earlier :=
        dispatches_silent (List.forall_mem_singleton.mpr rfl)
      exact {
        inTime := not_le.mp inTime
        granted := ⟨earlier, wall, rfl, rfl, rfl⟩
        unfailed := List.forall_mem_append.mpr ⟨unfailed, List.forall_mem_singleton.mpr not_false⟩
        attempt := by rw [silent, count]
        retried := by
          intro again
          rw [silent] at again
          refine (retried ?_).append _
          rw [← count]
          exact List.length_pos_iff.mpr again }
  | exhausted last =>
      obtain ⟨more, _⟩ := course
      exact absurd more last
  | _ => simp [Keeps]

/-- A fetch has sent at most twice. -/
theorem Course.atMostTwo (course : Course service request earlier phase) :
    (dispatches earlier).length ≤ 2 := by
  cases phase with
  | returned outcome => exact course
  | panicked => exact course
  | dropped => exact course
  | sending attempt attemptDeadline =>
      exact course.2.1.trans_le (Nat.succ_le_succ course.1)
  | sleeping attempt delay => exact course.2.1.trans_le (Nat.succ_le_succ course.1.le)
  | _ => exact (course.2.1.trans_le course.1).trans (by decide)

/-- What a fetch has done, and that it was warranted. -/
def Fetch.Sound (service : Service) (fetch : Fetch) (earlier : List FetchAction) : Prop :=
  Course service fetch.request earlier fetch.phase ∧
    Throughout (Keeps service fetch.request) earlier

/-- A fetch goes on with a sound history. -/
theorem Fetch.Sound.progress {fetch : Fetch} (sound : fetch.Sound service earlier)
    (progress : Progress service fetch.request fetch.phase actions next) :
    { fetch with phase := next }.Sound service (earlier ++ actions) :=
  ⟨sound.1.step progress, throughout_append.mpr ⟨sound.2, sound.1.keeps progress⟩⟩

/-- The end of the process ends a fetch wherever it is. -/
theorem Fetch.Sound.lost {fetch : Fetch} (sound : fetch.Sound service earlier) :
    { fetch with phase := fetch.phase.lost }.Sound service earlier := by
  obtain ⟨request, phase⟩ := fetch
  obtain ⟨course, kept⟩ := sound
  refine ⟨?_, kept⟩
  cases phase with
  | returned outcome => exact course
  | panicked => exact course
  | _ => exact course.atMostTwo

/-- Every fetch is sound, and those to come have no history. -/
def Fetching.Sound (service : Service) (fetching : Fetching) (trace : List FetchEvent) : Prop :=
  (∀ id (fetch : Fetch), fetching.fetches[id]? = some fetch →
    fetch.Sound service (history id trace)) ∧
    ∀ id, fetching.fetches.length ≤ id → history id trace = []

/-- Every step leaves sound histories. -/
theorem FetchStep.sound (taken : FetchStep codec service before events after)
    (sound : before.Sound service trace) : after.Sound service (trace ++ events) := by
  obtain ⟨each, fresh⟩ := sound
  cases taken with
  | started request running =>
      have unchanged : ∀ id, history id (trace ++ [.started before.fetches.length request]) =
          history id trace := fun id => by rw [history_append]; exact List.append_nil _
      refine ⟨fun id fetch there => ?_, fun id outside => ?_⟩
      · rw [unchanged]
        rcases Nat.lt_or_ge id before.fetches.length with old | new
        · rw [List.getElem?_append_left old] at there
          exact each id fetch there
        · have first : fetch = { request, phase := .acquiringProvider 0 } := by
            rw [List.getElem?_append_right new] at there
            exact List.mem_singleton.mp (List.mem_of_getElem? there)
          subst first
          rw [fresh id new]
          exact ⟨⟨by decide, rfl, by simp, by simp⟩, throughout_nil⟩
      · rw [unchanged]
        rw [List.length_append] at outside
        exact fresh id (le_trans (Nat.le_add_right _ _) outside)
  | @progressed id fetch actions next storage there progress permits follows =>
      refine ⟨fun other moved found => ?_, fun other outside => ?_⟩
      · rw [history_append]
        rcases eq_or_ne id other with rfl | distinct
        · rw [List.getElem?_set_self (List.getElem?_eq_some_iff.mp there).1] at found
          cases found
          rw [history_progressed]
          exact (each id fetch there).progress progress
        · rw [List.getElem?_set_ne distinct] at found
          rw [history_progressed_of_ne distinct, List.append_nil]
          exact each other moved found
      · rw [List.length_set] at outside
        have distinct : id ≠ other := by
          have inside := (List.getElem?_eq_some_iff.mp there).1
          exact (inside.trans_le outside).ne
        rw [history_append, history_progressed_of_ne distinct, fresh other outside]
        rfl
  | @storage emitted storage taken unawaited open_ =>
      refine ⟨fun id fetch there => ?_, fun id outside => ?_⟩
      · rw [history_append, history_storage, List.append_nil]
        exact each id fetch there
      · rw [history_append, history_storage, List.append_nil]
        exact fresh id outside
  | @ended storage taken =>
      have unchanged : ∀ id, history id (trace ++ [.storage .closed]) = history id trace :=
        fun id => by rw [history_append]; exact List.append_nil _
      refine ⟨fun id fetch there => ?_, fun id outside => ?_⟩
      · rw [List.getElem?_map, Option.map_eq_some_iff] at there
        obtain ⟨old, found, rfl⟩ := there
        rw [unchanged]
        exact (each id old found).lost
      · rw [List.length_map] at outside
        rw [unchanged]
        exact fresh id outside

/-- After a run every fetch has a sound history. -/
theorem sound_run {file : Option Database}
    (run : Run (FetchStep codec service) (.initial file) trace reached) :
    reached.Sound service trace := by
  refine run.invariant (fun seen fetching => fetching.Sound service seen) ?_ ?_
  · exact ⟨fun id fetch there => absurd there (by simp [Fetching.initial]), fun _ _ => rfl⟩
  · intro seen before events after _ sound taken
    exact taken.sound sound

/-- A sound history is one of a disciplined fetch. -/
theorem Fetch.Sound.disciplined {fetch : Fetch} (sound : fetch.Sound service earlier) :
    Disciplined service fetch.request earlier where
  atMostTwo := sound.1.atMostTwo
  warranted front dispatch back split := sound.2 front (.dispatched dispatch) back split
  unexhausted := by
    intro member
    obtain ⟨front, back, split⟩ := List.append_of_mem member
    exact sound.2 front .exhausted back split

/-- **A reservation for every dispatch.** Over any number of fetches and any
results of their reserves and exchanges, the requests sent to a group map one to
one into its committed reservations, each to its own. A fetch sends at most two,
each right after the grant of its attempt and before its deadline, none after a
failed reserve, and the second only after a retryable first attempt that left
time for the pause and a whole attempt; its loop never runs out. -/
theorem dispatch_reserved {file : Option Database}
    (run : Run (FetchStep codec service) (.initial file) trace reached) :
    (∀ group, ∃ reservation : Fin (sent group trace).length ↪ Fin (reserved group trace).length,
      ∀ index, (reserved group trace).get (reservation index) =
        ((sent group trace).get index).reservation) ∧
    ∀ id fetch, reached.fetches[id]? = some fetch →
      Disciplined service fetch.request (history id trace) := by
  refine ⟨fun group => ?_, fun id fetch there => ((sound_run run).1 id fetch there).disciplined⟩
  obtain ⟨place, same⟩ :=
    List.sublist_iff_exists_fin_orderEmbedding_get_eq.mp (sent_sublist_reserved run group)
  have length : ((sent group trace).map Dispatch.reservation).length =
      (sent group trace).length := List.length_map _
  refine ⟨(finCongr length.symm).toEmbedding.trans place.toEmbedding, fun index => ?_⟩
  have image := same (Fin.cast length.symm index)
  rw [List.get_eq_getElem, List.getElem_map] at image
  exact image.symm

/-! ### A fetch that sends twice -/

/-- A service with one permit of each kind. -/
def singleService : Service where
  providerTimeout := .fromMillis 5000
  maxProviderBytes := 4096
  maxOutboundRequests := 1
  maxConcurrency := fun _ => 1
  adapter := fun _ => { request := fun _ => .ok (), decode := fun _ _ _ now => .ok (.notFound now) }
  serializedLength := fun _ => 0

/-- A fetch with twelve seconds. -/
def sampleFetch : FetchRequest where
  provider := .abuseipdb
  indicator := {
    input := { kind := .ip, value := "192.0.2.1" }
    lookupValue := "192.0.2.1"
    hashAlgorithm := none }
  deadline := ⟨12 * secondNanos, by decide⟩

/-- The start of the machine. -/
def machineStart : Instant := ⟨0, by decide⟩

/-- A connection that the provider resets. -/
def connectionReset : TransportError where
  tls := false
  timeout := false
  connect := false
  reset := true

/-- A step of the storage that answers nobody. -/
theorem FetchStep.quiet {fetching : Fetching} {emitted : List Event} {storage : World}
    (taken : Step codec fetching.storage emitted storage)
    (quiet : ∀ event ∈ emitted, answeredCall event = none ∧ event ≠ .closed) :
    FetchStep codec service fetching (emitted.map .storage) { fetching with storage } := by
  refine .storage taken ?_ (fun closed => (quiet _ closed).2 rfl)
  rintro event member ⟨_, _, _, _, _, answered⟩
  rw [(quiet event member).1] at answered
  cases answered

/-- The commit of a reserve answers nobody and ends no process. -/
theorem quiet_commit (group : QuotaGroup) (pending : Option PendingFeedback) (now : Int)
    (call : CallId) (decision : QuotaDecision) :
    ∀ event ∈ appliedFeedback group pending now ++ grantedReservation call group now decision,
      answeredCall event = none ∧ event ≠ .closed := by
  intro event member
  rcases List.mem_append.mp member with applied | granted
  · obtain ⟨_, _, rfl⟩ := mem_appliedFeedback.mp applied
    exact ⟨rfl, nofun⟩
  · obtain ⟨_, rfl⟩ := mem_grantedReservation.mp granted
    exact ⟨rfl, nofun⟩

/-- A fetch in a phase without permits takes none. -/
theorem Fetching.Permits.of_released {fetching : Fetching} {fetch : Fetch}
    (provider : next.holdsProvider = false) (global : next.holdsGlobal = false) :
    fetching.Permits service fetch next := by
  constructor
  · intro _ acquires
    rw [provider] at acquires
    cases acquires
  · intro _ acquires
    rw [global] at acquires
    cases acquires

/-- The storage once a reserve has come and gone. -/
def afterReserve (session : Session) (wall : DateTime) : Session :=
  { session with
    runtime := session.runtime.observe wall
    nextCall := session.nextCall + 1
    waiting := []
    gate := .free }

/-- A lone fetch that nothing interrupts sends its request. Of the storage it asks for
nothing but a reservation. -/
theorem uninterrupted_dispatch {database granted : Database} {session : Session}
    {decision : QuotaDecision} {limit : Instant} (attempt : Nat) (wall : DateTime)
    (checked : Instant) (provider : 0 < service.maxConcurrency request.provider)
    (global : 0 < service.maxOutboundRequests)
    (built : (service.adapter request.provider).request request.indicator = .ok ())
    (free : session.gate = .free) (idle : session.waiting = [])
    (saved : session.runtime.pending (quotaGroup request.provider) = none)
    (caughtUp : ¬ wall.timestampMillis < (session.runtime.observe wall).highWater)
    (reserves : reserveTransaction database (quotaGroup request.provider)
      (session.settings.limits request.provider) wall wall.timestampMillis none =
        .ok (granted, decision))
    (permitted : decision.blocked = false) (inTime : ¬ request.deadline ≤ checked)
    (limited : checked.checkedAdd service.providerTimeout = some limit) :
    ∃ events, (events.filterMap FetchEvent.dispatch).map Dispatch.reservation =
        [{ call := session.nextCall, group := quotaGroup request.provider,
           now := wall.timestampMillis }] ∧
      stored events = [.callStarted session.nextCall (.reserve request.provider),
        .reservationCommitted session.nextCall (quotaGroup request.provider)
          wall.timestampMillis,
        .reserveReturned session.nextCall request.provider wall (.ok ())] ∧
      Run (FetchStep codec service)
        { storage := .running database session
          fetches := [{ request, phase := .acquiringProvider attempt }] } events
        { storage := .running granted (afterReserve session wall)
          fetches := [{ request, phase := .sending attempt (min request.deadline limit) }] } := by
  have run := Run.single (@FetchStep.progressed codec service
    { storage := .running database session
      fetches := [{ request, phase := .acquiringProvider attempt }] }
    0 _ _ _ _ rfl (.providerPermit attempt)
    ⟨by simpa [Fetching.active, FetchPhase.holdsProvider] using provider,
      by simp [FetchPhase.holdsGlobal]⟩ rfl)
  have run := run.snoc (@FetchStep.progressed _ _ _ 0 _ _ _ _ rfl
    (.globalPermit attempt session.nextCall)
    ⟨by simp [FetchPhase.holdsProvider],
      by simpa [Fetching.outbound, FetchPhase.holdsGlobal] using global⟩
    (.started (.reserve request.provider) (fun _ => nofun) trivial))
  have run := run.snoc (.quiet
    (@Step.reserveSnapshot _ _ _ [] [] _ _ wall free (by rw [idle]) caughtUp) (by simp))
  rw [saved] at run
  have run := run.snoc (.quiet (.reserveCommitted rfl reserves) (quiet_commit _ _ _ _ _))
  have run := run.snoc (.quiet (.reserveCleared rfl) (by simp))
  have run := run.snoc (@FetchStep.progressed _ _ _ 0 _ _ _ _ rfl
    (.dispatched wall checked checked inTime limited built)
    ⟨by simp [FetchPhase.holdsProvider], by simp [FetchPhase.holdsGlobal]⟩
    (@Step.grants _ _ _ _ _ { wall, pending := none } decision rfl (by exact saved) permitted))
  simp only [appliedFeedback, grantedReservation, permitted] at run
  exact ⟨_, rfl, rfl, run⟩

/-- The two reservations it sends under. -/
def pairReservations : List Reservation :=
  [{ call := 0, group := .abuseipdbCheck, now := 0 },
    { call := 1, group := .abuseipdbCheck, now := 0 }]

/-- The budget grants both. -/
theorem pair_reserves :
    ∃ first second, reserveTransaction (.create .epoch) .abuseipdbCheck
        (twoAttemptSettings.limits .abuseipdb) .epoch 0 none =
          .ok (first, { blocked := false, retryAfter := none }) ∧
      reserveTransaction first .abuseipdbCheck (twoAttemptSettings.limits .abuseipdb) .epoch 0
        none = .ok (second, { blocked := false, retryAfter := none }) :=
  ⟨_, _, rfl, rfl⟩

/-- The first connection of a fetch is reset, and its second request is sent. -/
theorem pair_run :
    ∃ trace reached, Run (FetchStep .blank singleService) (.initial none) trace reached ∧
      (trace.filterMap FetchEvent.dispatch).map Dispatch.reservation = pairReservations := by
  obtain ⟨granted, twice, reservesFirst, reservesSecond⟩ := pair_reserves
  have run := Run.single (@FetchStep.quiet .blank singleService (.initial none) _ _
    (@Step.opened .blank none twoAttemptSettings .epoch .epoch _ _ rfl) (by simp [answeredCall]))
  have run := run.snoc (.started sampleFetch rfl)
  obtain ⟨first, sentFirst, _, dispatched⟩ := @uninterrupted_dispatch .blank singleService
    sampleFetch (.create .epoch) _ (.fresh twoAttemptSettings 0) _ _ 0 .epoch machineStart
    Nat.one_pos Nat.one_pos rfl rfl rfl rfl (by decide) reservesFirst rfl (by decide) rfl
  have run := run.append dispatched
  have run := run.snoc (@FetchStep.progressed _ _ _ 0 _ _ _ _ rfl
    (.answered (.failed connectionReset) machineStart machineStart)
    (.of_released rfl rfl) rfl)
  have run := run.snoc (@FetchStep.progressed _ _ _ 0 _ _ _ _ rfl (.woken (by decide))
    (.of_released rfl rfl) rfl)
  obtain ⟨second, sentSecond, _, dispatched⟩ := @uninterrupted_dispatch .blank singleService
    sampleFetch granted _ (afterReserve (.fresh twoAttemptSettings 0) .epoch) _ _ 1 .epoch
    machineStart Nat.one_pos Nat.one_pos rfl rfl rfl rfl (by decide) reservesSecond rfl
    (by decide) rfl
  have run := run.append dispatched
  refine ⟨_, _, run, ?_⟩
  simp only [List.filterMap_append, List.map_append, sentFirst, sentSecond]
  rfl

/-- A fetch that sends twice has two reservations. -/
theorem dispatch_reserved_pair :
    ∃ (trace : List FetchEvent) (reached : Fetching),
      (sent .abuseipdbCheck trace).map Dispatch.reservation = pairReservations ∧
      (∀ group, ∃ reservation :
        Fin (sent group trace).length ↪ Fin (reserved group trace).length,
        ∀ index, (reserved group trace).get (reservation index) =
          ((sent group trace).get index).reservation) ∧
      ∀ id (fetch : Fetch), reached.fetches[id]? = some fetch →
        Disciplined singleService fetch.request (history id trace) := by
  obtain ⟨trace, reached, run, requests⟩ := pair_run
  refine ⟨trace, reached, ?_, dispatch_reserved run⟩
  rw [map_sent, requests]
  rfl

end RustEnrich.Enrichment
