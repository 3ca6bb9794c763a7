import RustEnrich.Storage.Atomic

/-!
# Every run is one of calls in one piece

What the holder of the gate has done is kept apart from what happened outside
since it entered. When it lets go, its own work goes first, in one piece, and the
rest follows. A call that started after an event of any call keeps its place
behind that event, so the order is one that the callers could have seen.
-/

namespace RustEnrich.Storage

open Transitions

/-! ### The number of a call -/

/-- Every call of a session has a number of its own. -/
structure Session.Numbered (session : Session) : Prop where
  queued : ∀ waiting ∈ session.waiting, waiting.1 < session.nextCall
  distinct : (session.waiting.map Prod.fst).Nodup
  holder : ∀ call, session.gate.holder = some call →
    call < session.nextCall ∧ ∀ waiting ∈ session.waiting, waiting.1 ≠ call

/-- The calls of an open storage have numbers of their own. -/
def World.Numbered : World → Prop
  | .closed _ => True
  | .running _ session => session.Numbered

namespace Session.Numbered

variable {session following : Session} {front back : List (CallId × Request)}
  {own : CallId × Request}

/-- A fresh session has no calls yet. -/
theorem fresh (settings : Settings) (highWater : Int) :
    (Session.fresh settings highWater).Numbered where
  queued := by
    intro entry member
    cases member
  distinct := List.nodup_nil
  holder := by
    intro call holds
    cases holds

/-- A call joins the queue under the next number. -/
theorem join (numbered : session.Numbered) {request : Request}
    (waiting : following.waiting = session.waiting ++ [(session.nextCall, request)])
    (next : following.nextCall = session.nextCall + 1) (gate : following.gate = session.gate) :
    following.Numbered where
  queued := by
    intro entry member
    rw [waiting, List.mem_append, List.mem_singleton] at member
    rw [next]
    rcases member with earlier | rfl
    · exact (numbered.queued entry earlier).trans (Nat.lt_succ_self _)
    · exact Nat.lt_succ_self _
  distinct := by
    rw [waiting, List.map_append]
    refine List.nodup_append.mpr ⟨numbered.distinct, List.nodup_singleton _, ?_⟩
    intro one member two last same
    obtain ⟨entry, inside, rfl⟩ := List.mem_map.mp member
    have below := numbered.queued entry inside
    rw [same, List.mem_singleton.mp last] at below
    exact absurd below (Nat.lt_irrefl _)
  holder := by
    intro call holds
    rw [gate] at holds
    obtain ⟨below, apart⟩ := numbered.holder call holds
    rw [next, waiting]
    refine ⟨below.trans (Nat.lt_succ_self _), ?_⟩
    intro entry member
    rcases List.mem_append.mp member with earlier | last
    · exact apart entry earlier
    · rw [List.mem_singleton.mp last]
      exact (Nat.ne_of_lt below).symm

/-- A call leaves the queue, and may take the gate. -/
theorem leave (numbered : session.Numbered) (queued : session.waiting = front ++ own :: back)
    (waiting : following.waiting = front ++ back) (next : following.nextCall = session.nextCall)
    (gate : ∀ call, following.gate.holder = some call →
      session.gate.holder = some call ∨ call = own.1) : following.Numbered where
  queued := by
    intro entry member
    rw [waiting] at member
    rw [next]
    exact numbered.queued entry (queued ▸ mem_of_remaining member)
  distinct := by
    have distinct := numbered.distinct
    rw [queued, List.map_append, List.map_cons, List.nodup_middle] at distinct
    rw [waiting, List.map_append]
    exact (List.nodup_cons.mp distinct).2
  holder := by
    intro call holds
    rw [next, waiting]
    rcases gate call holds with before | rfl
    · obtain ⟨below, apart⟩ := numbered.holder call before
      exact ⟨below, fun entry member => apart entry (queued ▸ mem_of_remaining member)⟩
    · have distinct := numbered.distinct
      rw [queued, List.map_append, List.map_cons, List.nodup_middle] at distinct
      refine ⟨numbered.queued own (queued ▸ List.mem_append_right _ List.mem_cons_self), ?_⟩
      intro entry member same
      have inside := List.mem_map_of_mem (f := Prod.fst) member
      rw [List.map_append, same] at inside
      exact (List.nodup_cons.mp distinct).1 inside

/-- A session that keeps its calls keeps their numbers. -/
theorem stay (numbered : session.Numbered) (waiting : following.waiting = session.waiting)
    (next : following.nextCall = session.nextCall)
    (gate : ∀ call, following.gate.holder = some call → session.gate.holder = some call) :
    following.Numbered where
  queued := by
    rw [waiting, next]
    exact numbered.queued
  distinct := waiting ▸ numbered.distinct
  holder := by
    intro call holds
    rw [waiting, next]
    exact numbered.holder call (gate call holds)

end Session.Numbered

variable {codec : PayloadCodec} {before after : World} {emitted : List Event}

/-- Every step keeps the numbers apart. -/
theorem Step.numbered (taken : Step codec before emitted after) (numbered : before.Numbered) :
    after.Numbered := by
  cases taken with
  | migrated | openTimedOut | closed => trivial
  | opened reconciled => exact .fresh _ _
  | started request unretained queues => exact numbered.join rfl rfl rfl
  | retained provider feedback => exact numbered.join rfl rfl rfl
  | abandoned queued => exact numbered.leave queued rfl rfl fun _ holds => Or.inl holds
  | performed wall free queued performs | unreported wall free queued performs
  | unperformed wall free queued performs | reserveBehind wall free queued behind
  | feedbackSaved wall free queued saved =>
      exact numbered.leave queued rfl rfl fun _ holds => Or.inl holds
  | reserveSnapshot wall free queued caughtUp | feedbackSnapshot wall free queued unsaved =>
      exact numbered.leave queued rfl rfl fun _ holds => Or.inr (Option.some.inj holds).symm
  | reserveCommitted held | reserveCleared held | feedbackCommitted held =>
      refine numbered.stay rfl rfl fun _ holds => ?_
      rw [held]
      exact holds
  | reserveReturned held | feedbackCleared held | released held =>
      exact numbered.stay rfl rfl fun _ => nofun

/-! ### What the holder has done -/

/-- What was retained for a group while the gate is held, under a generation that
the snapshot does not have. -/
def Apart (group : QuotaGroup) (saved : Option PendingFeedback) (seen : List Event)
    (calm : Session) : Prop :=
  (∀ feedback, Event.feedbackRetained group feedback ∉ seen) ∨
    ∃ entry, calm.runtime.pending group = some entry ∧
      ∀ old, saved = some old → entry.generation ≠ old.generation

/-- The events of the holder since it entered from `session`, with what they made
of the database and of the session it entered to. Beside it, `seen` led from there
to `calm`. -/
inductive Piece (base : Database) (session : Session) (call : CallId) (seen : List Event)
    (calm : Session) : Gate → List Event → Database → Session → Prop
  | reserving {front back : List (CallId × Request)} {provider : ProviderId} (wall : DateTime)
      (enters : Enters session call (.reserve provider) front back)
      (caughtUp : ¬ wall.timestampMillis < (session.runtime.observe wall).highWater)
      (apart : Apart (quotaGroup provider) (session.runtime.pending (quotaGroup provider)) seen
        calm) :
      Piece base session call seen calm (.reserving call provider (session.snapshot provider wall))
        [] base (session.enter wall front back)
  | reserved {next : Database} {front back : List (CallId × Request)} {provider : ProviderId}
      {decision : QuotaDecision} (wall : DateTime)
      (enters : Enters session call (.reserve provider) front back)
      (caughtUp : ¬ wall.timestampMillis < (session.runtime.observe wall).highWater)
      (reserves : reserveTransaction base (quotaGroup provider)
        (session.settings.limits provider) wall wall.timestampMillis
          (session.runtime.pending (quotaGroup provider)) = .ok (next, decision))
      (apart : Apart (quotaGroup provider) (session.runtime.pending (quotaGroup provider)) seen
        calm) :
      Piece base session call seen calm
        (.reserved call provider (session.snapshot provider wall) decision)
        (reserveEvents call provider (session.snapshot provider wall) decision) next
        (session.enter wall front back)
  /-- Feedback that came in between is not cleared. -/
  | checking {next : Database} {entered : Session} {front back : List (CallId × Request)}
      {provider : ProviderId} {decision : QuotaDecision} (wall : DateTime)
      (enters : Enters session call (.reserve provider) front back)
      (caughtUp : ¬ wall.timestampMillis < (session.runtime.observe wall).highWater)
      (reserves : reserveTransaction base (quotaGroup provider)
        (session.settings.limits provider) wall wall.timestampMillis
          (session.runtime.pending (quotaGroup provider)) = .ok (next, decision))
      (saved : entered = session.enter wall front back ∨
        entered = (session.enter wall front back).clear (quotaGroup provider)
          (session.runtime.pending (quotaGroup provider)))
      (cleared : (calm.runtime.pending (quotaGroup provider)).isSome = true ∨
        (entered = (session.enter wall front back).clear (quotaGroup provider)
          (session.runtime.pending (quotaGroup provider)) ∧
          ∀ feedback, Event.feedbackRetained (quotaGroup provider) feedback ∉ seen)) :
      Piece base session call seen calm
        (.checking call provider (session.snapshot provider wall) decision)
        (reserveEvents call provider (session.snapshot provider wall) decision) next entered
  | applying {front back : List (CallId × Request)} {provider : ProviderId}
      {pending : PendingFeedback} (wall : DateTime)
      (enters : Enters session call (.feedback provider) front back)
      (unsaved : session.runtime.pending (quotaGroup provider) = some pending)
      (apart : Apart (quotaGroup provider) (some pending) seen calm) :
      Piece base session call seen calm
        (.applying call provider (session.runtime.observe wall).highWater pending) [] base
        (session.enter wall front back)
  | applied {next : Database} {front back : List (CallId × Request)} {provider : ProviderId}
      {pending : PendingFeedback} (wall : DateTime)
      (enters : Enters session call (.feedback provider) front back)
      (unsaved : session.runtime.pending (quotaGroup provider) = some pending)
      (applies : feedbackTransaction base (quotaGroup provider)
        (session.settings.limits provider) (session.runtime.observe wall).highWater pending =
          .ok next)
      (apart : Apart (quotaGroup provider) (some pending) seen calm) :
      Piece base session call seen calm (.applied call provider pending)
        (appliedFeedback (quotaGroup provider) (some pending)
          (session.runtime.observe wall).highWater) next (session.enter wall front back)

variable {base database : Database} {session entered calm following : Session} {call : CallId}
  {seen done report : List Event} {gate : Gate} {group : QuotaGroup}
  {saved : Option PendingFeedback}

/-- A retention after the snapshot has a generation of its own. -/
theorem Apart.outside (apart : Apart group saved seen calm)
    (taken : Outside codec calm emitted following)
    (fresh : ∀ feedback old, Event.feedbackRetained group feedback ∈ emitted → saved = some old →
      calm.runtime.nextGeneration + 1 ≠ old.generation) :
    Apart group saved (seen ++ emitted) following := by
  by_cases quiet : ∀ feedback, Event.feedbackRetained group feedback ∉ emitted
  · unfold Apart
    rw [taken.pending_eq quiet]
    refine apart.imp_left fun before feedback member => ?_
    rcases List.mem_append.mp member with earlier | here
    · exact before feedback earlier
    · exact quiet feedback here
  · obtain ⟨feedback, member⟩ := not_forall_not.mp quiet
    right
    cases taken with
    | started request unretained queues => simp at member
    | abandoned queued => simp at member
    | retained provider reported =>
        have same : group = quotaGroup provider ∧ feedback = reported := by simpa using member
        obtain ⟨rfl, rfl⟩ := same
        obtain ⟨merged, present, _⟩ := calm.runtime.retain_pending (quotaGroup provider) feedback
        exact ⟨_, present, fun old own => fresh feedback old member own⟩

/-- A committed reserve is saving what it found retained. -/
theorem Gate.saving_reserved {call : CallId} {provider : ProviderId} {snapshot : ReserveSnapshot}
    {decision : QuotaDecision} {entry : PendingFeedback}
    (present : snapshot.pending = some entry) :
    (Gate.reserved call provider snapshot decision).saving =
      some (quotaGroup provider, entry) := by
  rw [Gate.saving, present, Option.map_some]

/-- What is retained while another entry is being saved gets a generation of its own.
-/
theorem generation_fresh {next : QuotaGroup} {own : Option PendingFeedback}
    (fresh : GenerationFresh (.running database { calm with gate }) emitted)
    (saving : ∀ old, own = some old → gate.saving = some (next, old)) :
    ∀ feedback old, Event.feedbackRetained next feedback ∈ emitted → own = some old →
      calm.runtime.nextGeneration + 1 ≠ old.generation :=
  fun feedback old member same => fresh next feedback old member (saving old same)

namespace Piece

variable {codec : PayloadCodec} {base database : Database}
  {session entered calm following : Session} {call : CallId} {seen done report emitted : List Event}
  {gate : Gate}

/-- The call of a piece holds the gate. -/
theorem holder (piece : Piece base session call seen calm gate done database entered) :
    gate.holder = some call := by
  cases piece <;> rfl

/-- The session a call entered to has its gate free. -/
theorem free (piece : Piece base session call seen calm gate done database entered) :
    entered.gate = .free := by
  cases piece with
  | checking wall enters caughtUp reserves saved cleared =>
      rcases saved with rfl | rfl <;> exact enters.free
  | reserving wall enters | reserved wall enters | applying wall enters | applied wall enters =>
      exact enters.free

/-- A piece leaves the settings. -/
theorem settings (piece : Piece base session call seen calm gate done database entered) :
    entered.settings = session.settings := by
  cases piece with
  | checking wall enters caughtUp reserves saved cleared =>
      rcases saved with rfl | rfl <;> rfl
  | _ => rfl

/-- What the holder has done tells of its own call. -/
theorem ofHolder (piece : Piece base session call seen calm gate done database entered)
    {event : Event} (member : event ∈ done) :
    event.OfHolder ∧ ∀ other, event.call = some other → other = call := by
  cases piece with
  | reserving | applying => cases member
  | reserved | checking => exact reserveEvents_ofHolder member
  | applied =>
      rw [List.mem_singleton.mp member]
      exact ⟨trivial, nofun⟩

/-- What happens outside leaves the piece as it is. -/
theorem outside (piece : Piece base session call seen calm gate done database entered)
    (taken : Outside codec calm emitted following)
    (fresh : GenerationFresh (.running database { calm with gate }) emitted) :
    Piece base session call (seen ++ emitted) following gate done database entered := by
  cases piece with
  | reserving wall enters caughtUp apart =>
      exact .reserving wall enters caughtUp (apart.outside taken (generation_fresh fresh
        fun old own => Gate.saving_reserving.mpr ⟨rfl, own⟩))
  | reserved wall enters caughtUp reserves apart =>
      exact .reserved wall enters caughtUp reserves (apart.outside taken (generation_fresh fresh
        fun old own => Gate.saving_reserved own))
  | @checking _ _ _ _ provider decision wall enters caughtUp reserves saved cleared =>
      refine .checking wall enters caughtUp reserves saved ?_
      rcases cleared with present | ⟨same, quiet⟩
      · exact Or.inl (taken.pending_isSome present)
      · by_cases still : ∀ feedback,
            Event.feedbackRetained (quotaGroup provider) feedback ∉ emitted
        · refine Or.inr ⟨same, fun feedback member => ?_⟩
          rcases List.mem_append.mp member with earlier | here
          · exact quiet feedback earlier
          · exact still feedback here
        · have apart : Apart (quotaGroup provider) none seen calm := Or.inl quiet
          rcases apart.outside taken (fun _ _ _ => nofun) with silent | ⟨entry, present, _⟩
          · exact absurd (fun feedback member => silent feedback
              (List.mem_append_right _ member)) still
          · exact Or.inl (Option.isSome_iff_exists.mpr ⟨entry, present⟩)
  | applying wall enters unsaved apart =>
      exact .applying wall enters unsaved (apart.outside taken (generation_fresh fresh
        fun old own => Gate.saving_applying.mpr ⟨rfl, Option.some.inj own⟩))
  | applied wall enters unsaved applies apart =>
      exact .applied wall enters unsaved applies (apart.outside taken (generation_fresh fresh
        fun old own => congrArg (Option.map (Prod.mk _)) own))

/-- A holder may let go of the gate at any point, its work done in one piece. -/
theorem drop (piece : Piece base session call seen calm gate done database entered)
    (unanswered : Unanswered call report) (codec : PayloadCodec) :
    AtomicStep codec (.running base session) (done ++ report) (.running database entered) := by
  cases piece with
  | reserving wall enters caughtUp apart =>
      exact .reserveUncommitted wall enters caughtUp unanswered
  | reserved wall enters caughtUp reserves apart =>
      exact .reserveUnanswered wall enters caughtUp reserves (Or.inl rfl) (Or.inl unanswered)
  | checking wall enters caughtUp reserves saved cleared =>
      exact .reserveUnanswered wall enters caughtUp reserves saved (Or.inl unanswered)
  | applying wall enters unsaved apart => exact .feedbackUncommitted wall enters unanswered
  | applied wall enters unsaved applies apart =>
      exact .feedbackCommitted wall enters unsaved applies (Or.inl rfl) unanswered

end Piece

/-! ### A run so far -/

/-- A run up to now as one of calls in one piece, the work of the holder of the
gate before what happened since it entered. -/
inductive Serial (codec : PayloadCodec) (file : Option Database) (trace : List Event) :
    World → Prop
  | free {order : List Event} {world : World}
      (run : Run (AtomicStep codec) (.closed file) order world) (free : world.Free)
      (reordered : Reordered Overtakes trace order) : Serial codec file trace world
  | held {order done seen : List Event} {base database : Database}
      {session entered calm : Session} {call : CallId} {gate : Gate}
      (run : Run (AtomicStep codec) (.closed file) order (.running base session))
      (piece : Piece base session call seen calm gate done database entered)
      (outside : Run (Outside codec) entered seen calm)
      (apart : ∀ event ∈ seen, event.call ≠ some call)
      (reordered : Reordered Overtakes trace (order ++ (done ++ seen))) :
      Serial codec file trace (.running database { calm with gate })

/-- What came between clears nothing, or is not there. -/
theorem Apart.cleared (apart : Apart group saved seen calm) :
    (∀ feedback, Event.feedbackRetained group feedback ∉ seen) ∨
      ((calm.runtime.pending group).isSome = true ∧
        calm.runtime.clearPending group saved = calm.runtime) := by
  refine apart.imp_right ?_
  rintro ⟨entry, present, newer⟩
  refine ⟨Option.isSome_iff_exists.mpr ⟨entry, present⟩, ?_⟩
  unfold RuntimeState.clearPending
  cases saved with
  | none => rfl
  | some old =>
      have other : ¬ (calm.runtime.pending group).any
          (fun pending => pending.generation = old.generation) = true := by
        rw [present, Option.any_some, decide_eq_true_eq]
        exact newer old rfl
      exact if_neg other

/-- With feedback retained, a reserve is turned down. -/
theorem reserveAnswer_of_pending {runtime : RuntimeState} {decision : QuotaDecision}
    (present : (runtime.pending group).isSome = true) :
    reserveAnswer runtime group decision = .error (.storage .unavailable) := by
  rw [reserveAnswer, if_pos present]

/-- The final check reads nothing but what is retained for its group. -/
theorem reserveAnswer_congr {runtime other : RuntimeState} {decision : QuotaDecision}
    (same : runtime.pending group = other.pending group) :
    reserveAnswer runtime group decision = reserveAnswer other group decision := by
  rw [reserveAnswer, reserveAnswer, same]

/-- A session with a free gate, freed. -/
theorem Session.withGate_free {session : Session} (free : session.gate = .free) :
    { session with gate := .free } = session := by
  cases session
  cases free
  rfl

namespace Outside

variable {codec : PayloadCodec} (run : Run (Outside codec) entered seen calm)

include run

/-- All that is seen comes from outside of the holder. -/
theorem fromOutside_run {event : Event} (member : event ∈ seen) : event.FromOutside := by
  induction run with
  | refl => cases member
  | snoc _ taken ih =>
      rcases List.mem_append.mp member with earlier | here
      · exact ih earlier
      · exact taken.fromOutside here

/-- Without a report, what is retained stays as it is. -/
theorem pending_run (quiet : ∀ feedback, Event.feedbackRetained group feedback ∉ seen) :
    calm.runtime.pending group = entered.runtime.pending group := by
  induction run with
  | refl => rfl
  | snoc _ taken ih =>
      have earlier := ih fun feedback member => quiet feedback (List.mem_append_left _ member)
      exact (taken.pending_eq fun feedback member =>
        quiet feedback (List.mem_append_right _ member)).trans earlier

end Outside

variable {file : Option Database} {trace order : List Event}

/-- The next events of the holder go before what happened outside. -/
theorem gathered {events : List Event}
    (reordered : Reordered Overtakes trace (order ++ (done ++ seen)))
    (outside : Run (Outside codec) entered seen calm)
    (apart : ∀ event ∈ seen, event.call ≠ some call)
    (holder : ∀ event ∈ events, event.OfHolder ∧ ∀ other, event.call = some other → other = call) :
    Reordered Overtakes (trace ++ events) (order ++ ((done ++ events) ++ seen)) := by
  have passes : ∀ later ∈ events, ∀ earlier ∈ seen, Overtakes later earlier := by
    intro later own earlier other
    refine ⟨(holder later own).1, Outside.fromOutside_run outside other, ?_⟩
    intro number started holds
    exact apart earlier other ((holder later own).2 number holds ▸ started)
  have moved := ((Reordered.overtake passes).append_left done).append_left order
  have before := reordered.append_right events
  simp only [List.append_assoc] at before moved ⊢
  exact before.trans moved

/-- The holder lets go: its piece is performed first, and the rest follows. -/
theorem finished (run : Run (AtomicStep codec) (.closed file) order (.running base session))
    (step : AtomicStep codec (.running base session) (done ++ report) (.running database entered))
    (outside : Run (Outside codec) entered seen calm) (free : entered.gate = .free)
    (apart : ∀ event ∈ seen, event.call ≠ some call)
    (holder : ∀ event ∈ report, event.OfHolder ∧ ∀ other, event.call = some other → other = call)
    (reordered : Reordered Overtakes trace (order ++ (done ++ seen))) :
    ∃ order, Run (AtomicStep codec) (.closed file) order (.running database calm) ∧
      Reordered Overtakes (trace ++ report) order := by
  refine ⟨_, (run.snoc step).append (Outside.atomic_run outside free database), ?_⟩
  rw [List.append_assoc]
  exact gathered reordered outside apart holder

/-- The report of an unanswered call tells of that call. -/
theorem Unanswered.ofHolder (unanswered : Unanswered call report) :
    ∀ event ∈ report, event.OfHolder ∧ ∀ other, event.call = some other → other = call := by
  intro event member
  cases unanswered with
  | lost => cases member
  | failed =>
      rw [List.mem_singleton.mp member]
      exact ⟨trivial, fun _ same => (Option.some.inj same).symm⟩

/-- The final check finds what came in between, or what it would have found in one
piece. -/
theorem Piece.returns {provider : ProviderId} {snapshot : ReserveSnapshot}
    {decision : QuotaDecision}
    (piece : Piece base session call seen calm (.checking call provider snapshot decision) done
      database entered) (outside : Run (Outside codec) entered seen calm) :
    AtomicStep codec (.running base session)
      (done ++ [.reserveReturned call provider snapshot.wall
        (reserveAnswer calm.runtime (quotaGroup provider) decision)])
      (.running database entered) := by
  cases piece with
  | checking wall enters caughtUp reserves saved cleared =>
      rcases cleared with present | ⟨rfl, quiet⟩
      · rw [reserveAnswer_of_pending present]
        exact .reserveUnanswered wall enters caughtUp reserves saved (Or.inr rfl)
      · rw [reserveAnswer_congr (Outside.pending_run outside quiet)]
        exact .reserveAnswered wall enters caughtUp reserves rfl

/-- A call that has just entered. -/
theorem Serial.enter (run : Run (AtomicStep codec) (.closed file) order (.running base session))
    (piece : Piece base session call [] calm gate [] base calm)
    (reordered : Reordered Overtakes trace order) :
    Serial codec file (trace ++ []) (.running base { calm with gate }) :=
  .held run piece .refl (fun _ none => absurd none List.not_mem_nil) (reordered.append_right [])

/-- A step while nobody holds the gate. -/
theorem Serial.step_free (run : Run (AtomicStep codec) (.closed file) order before)
    (free : before.Free) (reordered : Reordered Overtakes trace order)
    (taken : Step codec before emitted after) : Serial codec file (trace ++ emitted) after := by
  have still : after.Free → Serial codec file (trace ++ emitted) after := fun still =>
    .free (run.snoc (.outside taken free still)) still (reordered.append_right emitted)
  cases taken with
  | migrated | opened | openTimedOut | closed => exact still (by trivial)
  | started | retained | abandoned => exact still free
  | performed wall free | unreported wall free | unperformed wall free | reserveBehind wall free
  | feedbackSaved wall free => exact still free
  | reserveCommitted held | reserveCleared held | feedbackCommitted held =>
      cases free.symm.trans held
  | reserveReturned | feedbackCleared | released => exact still rfl
  | reserveSnapshot wall free queued caughtUp =>
      exact Serial.enter run
        (.reserving wall ⟨free, queued⟩ caughtUp (Or.inl fun _ => List.not_mem_nil)) reordered
  | feedbackSnapshot wall free queued unsaved =>
      exact Serial.enter run
        (.applying wall ⟨free, queued⟩ unsaved (Or.inl fun _ => List.not_mem_nil)) reordered

/-- A step outside while the gate is held. -/
theorem Serial.step_outside (run : Run (AtomicStep codec) (.closed file) order
      (.running base session))
    (piece : Piece base session call seen calm gate done database entered)
    (outside : Run (Outside codec) entered seen calm)
    (apart : ∀ event ∈ seen, event.call ≠ some call)
    (reordered : Reordered Overtakes trace (order ++ (done ++ seen)))
    (taken : Outside codec calm emitted following)
    (fresh : GenerationFresh (.running database { calm with gate }) emitted)
    (others : ∀ event ∈ emitted, event.call ≠ some call) :
    Serial codec file (trace ++ emitted) (.running database { following with gate }) := by
  refine .held run (piece.outside taken fresh) (outside.snoc taken) ?_ ?_
  · intro event member
    rcases List.mem_append.mp member with earlier | here
    · exact apart event earlier
    · exact others event here
  · have more := reordered.append_right emitted
    simp only [List.append_assoc] at more ⊢
    exact more

/-- A step while the gate is held. -/
theorem Serial.step_held (run : Run (AtomicStep codec) (.closed file) order
      (.running base session))
    (piece : Piece base session call seen calm gate done database entered)
    (outside : Run (Outside codec) entered seen calm)
    (apart : ∀ event ∈ seen, event.call ≠ some call)
    (reordered : Reordered Overtakes trace (order ++ (done ++ seen)))
    (numbered : Session.Numbered { calm with gate })
    (taken : FreshStep codec (.running database { calm with gate }) emitted after) :
    Serial codec file (trace ++ emitted) after := by
  obtain ⟨taken, fresh⟩ := taken
  have calmFree : calm.gate = .free := (Outside.gate_run outside).trans piece.free
  have limits : calm.settings = session.settings :=
    (Outside.settings_run outside).trans piece.settings
  have occupied : gate ≠ .free := by
    rintro rfl
    cases piece
  have mine := numbered.holder call piece.holder
  cases taken with
  | closed =>
      obtain ⟨whole, run, order⟩ := finished run (piece.drop .lost codec) outside piece.free apart
        Unanswered.lost.ofHolder reordered
      rw [List.append_nil] at order
      exact .free (run.snoc (.outside .closed calmFree trivial)) trivial
        (order.append_right [.closed])
  | started request unretained queues =>
      refine Serial.step_outside run piece outside apart reordered
        (.started request unretained queues) fresh fun event member own => ?_
      rw [List.mem_singleton.mp member] at own
      exact (Nat.ne_of_lt mine.1) (Option.some.inj own).symm
  | retained provider feedback =>
      refine Serial.step_outside run piece outside apart reordered (.retained provider feedback)
        fresh fun event member own => ?_
      rcases List.mem_cons.mp member with rfl | second
      · exact (Nat.ne_of_lt mine.1) (Option.some.inj own).symm
      · rw [List.mem_singleton.mp second] at own
        cases own
  | @abandoned _ _ front back other request queued =>
      refine Serial.step_outside run piece outside apart reordered (.abandoned queued) fresh
        fun event member own => ?_
      rw [List.mem_singleton.mp member] at own
      have waits : (other, request) ∈ calm.waiting :=
        queued ▸ List.mem_append_right front List.mem_cons_self
      exact mine.2 (other, request) waits (Option.some.inj own)
  | performed wall free | unreported wall free | unperformed wall free | reserveBehind wall free
  | reserveSnapshot wall free | feedbackSaved wall free | feedbackSnapshot wall free =>
      exact absurd free occupied
  | @reserveCommitted _ _ _ other provider snapshot decision held reserves =>
      cases held
      cases piece with
      | reserving wall enters caughtUp apart' =>
          change reserveTransaction _ _ (calm.settings.limits _) _ _ _ = _ at reserves
          rw [limits] at reserves
          have own :
              ∀ event ∈ reserveEvents call provider (session.snapshot provider wall) decision,
              event.OfHolder ∧ ∀ other, event.call = some other → other = call :=
            fun _ => reserveEvents_ofHolder
          have later := gathered reordered outside apart own
          have committed := Serial.held run (.reserved wall enters caughtUp reserves apart') outside
            apart later
          exact committed
  | reserveCleared held =>
      cases held
      cases piece with
      | reserved wall enters caughtUp reserves apart' =>
          rw [List.append_nil]
          rcases apart'.cleared with quiet | ⟨present, unchanged⟩
          · exact .held run (.checking wall enters caughtUp reserves (Or.inr rfl)
              (Or.inr ⟨rfl, quiet⟩)) (Outside.clear_run outside quiet _) apart reordered
          · have same := Serial.held run (.checking wall enters caughtUp reserves (Or.inl rfl)
              (Or.inl present)) outside apart reordered
            rw [← unchanged] at same
            exact same
  | reserveReturned held =>
      cases held
      cases Option.some.inj piece.holder
      obtain ⟨whole, run, order⟩ := finished run (piece.returns outside) outside piece.free apart
        (fun event member => by
          rw [List.mem_singleton.mp member]
          exact ⟨trivial, fun _ same => (Option.some.inj same).symm⟩) reordered
      rw [← Session.withGate_free calmFree] at run
      exact .free run rfl order
  | feedbackCommitted held applies =>
      cases held
      cases piece with
      | applying wall enters unsaved apart' =>
          change feedbackTransaction _ _ (calm.settings.limits _) _ _ = _ at applies
          rw [limits] at applies
          have committed := Serial.held run (.applied wall enters unsaved applies apart') outside
            apart (gathered reordered outside apart fun event member => by
              rw [List.mem_singleton.mp member]
              exact ⟨trivial, nofun⟩)
          exact committed
  | feedbackCleared held =>
      cases held
      cases piece with
      | applied wall enters unsaved applies apart' =>
          rcases apart'.cleared with quiet | ⟨present, unchanged⟩
          · obtain ⟨whole, run, order⟩ := finished run
              (.feedbackCommitted wall enters unsaved applies (Or.inr rfl) .lost)
              (Outside.clear_run outside quiet _) enters.free apart Unanswered.lost.ofHolder
              reordered
            rw [← @Session.withGate_free (calm.clear _ _) calmFree] at run
            exact .free run rfl order
          · obtain ⟨whole, run, order⟩ := finished run
              (.feedbackCommitted wall enters unsaved applies (Or.inl rfl) .lost) outside
              enters.free apart Unanswered.lost.ofHolder reordered
            rw [← Session.withGate_free calmFree] at run
            rw [unchanged]
            exact .free run rfl order
  | released held =>
      cases Option.some.inj (held.symm.trans piece.holder)
      obtain ⟨whole, run, order⟩ := finished run (piece.drop .failed codec) outside piece.free
        apart Unanswered.failed.ofHolder reordered
      rw [← Session.withGate_free calmFree] at run
      exact .free run rfl order

/-- A run whose generations are fresh has an order of pieces. -/
theorem serial (run : Run (FreshStep codec) (.closed file) trace after) :
    after.Numbered ∧ Serial codec file trace after := by
  refine run.invariant (fun seen world => world.Numbered ∧ Serial codec file seen world) ?_ ?_
  · exact ⟨trivial, .free .refl trivial .refl⟩
  · rintro seen before emitted after _ ⟨numbered, serial⟩ taken
    refine ⟨taken.1.numbered numbered, ?_⟩
    cases serial with
    | free run free reordered => exact .step_free run free reordered taken.1
    | held run piece outside apart reordered =>
        exact .step_held run piece outside apart reordered numbered taken

/-! ### The answers -/

/-- The request a call queues with. -/
def Operation.request : Operation → Option Request
  | .reserve provider => some (.reserve provider)
  | .retryAfter provider => some (.retryAfter provider)
  | .feedback provider _ => some (.feedback provider)
  | .cacheGet provider key kind => some (.cacheGet provider key kind)
  | .cachePut put => some (.cachePut put)
  | .cleanup => some .cleanup
  | .health => some .health
  | .reopen _ => none

/-- The answer in an event is the one of a call that waits, were it performed
alone. -/
def AnsweredAlone (codec : PayloadCodec) (before : World) (event : Event) (answer : Answer) :
    Prop :=
  ∃ (operation : Operation) (wall : DateTime) (call : CallId) (request : Request),
    event.call = some call ∧
    operation.request = some request ∧ (call, request) ∈ before.waiting ∧
    (operation.alone codec wall before).answer = answer

/-- The number of a call makes no difference to its answer. -/
theorem Request.perform_answer {request : Request} {wall : DateTime} {now : Int}
    {pending : QuotaGroup → Option PendingFeedback} {settings : Settings} {done : Performed}
    (performs : request.perform codec settings database pending call wall now = some (.ok done))
    (other : CallId) :
    ∃ next, request.perform codec settings database pending other wall now = some (.ok next) ∧
      next.returned.findSome? Event.answer = done.returned.findSome? Event.answer := by
  cases Request.performs performs with
  | advised advises =>
      rw [Request.perform, advises]
      exact ⟨_, rfl, rfl⟩
  | read reads =>
      rw [Request.perform, reads]
      exact ⟨_, rfl, rfl⟩
  | skipped skips =>
      rw [Request.perform, skips]
      exact ⟨_, rfl, rfl⟩
  | stored stores =>
      rw [Request.perform, stores]
      exact ⟨_, rfl, rfl⟩
  | cleaned | checked => exact ⟨_, rfl, rfl⟩

/-- A call that works in one go answers as it does alone. -/
theorem alonePerformed_answer {request : Request} {wall : DateTime} {done : Performed}
    (performs : request.perform codec session.settings database session.runtime.pending call
      wall (session.runtime.observe wall).highWater = some (.ok done)) {answer : Answer}
    (answers : done.returned.findSome? Event.answer = some answer) :
    (alonePerformed codec wall database session request).answer = answer := by
  obtain ⟨next, again, same⟩ := Request.perform_answer performs session.nextCall
  unfold alonePerformed
  dsimp only
  rw [again]
  dsimp only
  rw [same, answers, Option.getD_some]

/-- A put performed alone has the answer of its work. -/
theorem alonePut_answer {put : PutRequest} {wall : DateTime} {done : Performed}
    (performs : (Request.cachePut put).perform codec session.settings database
      session.runtime.pending call wall (session.runtime.observe wall).highWater =
        some (.ok done)) {answer : Answer}
    (answers : done.returned.findSome? Event.answer = some answer) :
    (alonePut codec wall database session put).answer = answer := by
  cases prepares : preparePut codec session.settings put with
  | error error =>
      rw [Request.perform, cachePut, prepares] at performs
      cases performs
  | ok prepared =>
      unfold alonePut
      rw [prepares]
      cases prepared with
      | none =>
          rw [Request.perform, cachePut, prepares] at performs
          cases performs
          exact Option.some.inj answers
      | some entry => exact alonePerformed_answer performs answers

/-- What a call that works in one go returns. -/
theorem Request.perform_returned {request : Request} {wall : DateTime} {now : Int}
    {pending : QuotaGroup → Option PendingFeedback} {settings : Settings} {done : Performed}
    (performs : request.perform codec settings database pending call wall now = some (.ok done))
    {event : Event} (member : event ∈ done.returned) :
    event.call = some call ∧ done.returned.findSome? Event.answer = event.answer := by
  cases Request.performs performs with
  | advised | read | skipped | stored =>
      rw [List.mem_singleton.mp member]
      exact ⟨rfl, rfl⟩
  | cleaned | checked => cases member

/-- A call in one go is answered as it is alone. -/
theorem performed_answeredAlone {front back : List (CallId × Request)} {request : Request}
    {wall : DateTime} {done : Performed}
    (queued : session.waiting = front ++ (call, request) :: back)
    (performs : request.perform codec session.settings database session.runtime.pending call
      wall (session.runtime.observe wall).highWater = some (.ok done))
    {event : Event} (member : event ∈ done.returned) {answer : Answer}
    (answers : event.answer = some answer) :
    AnsweredAlone codec (.running database session) event answer := by
  obtain ⟨own, found⟩ := Request.perform_returned performs member
  rw [answers] at found
  have waits : (call, request) ∈ session.waiting :=
    queued ▸ List.mem_append_right front List.mem_cons_self
  cases request with
  | reserve provider | feedback provider => cases performs
  | retryAfter provider =>
      exact ⟨.retryAfter provider, wall, call, _, own, rfl, waits,
        alonePerformed_answer performs found⟩
  | cacheGet provider key kind =>
      exact ⟨.cacheGet provider key kind, wall, call, _, own, rfl, waits,
        alonePerformed_answer performs found⟩
  | cachePut put =>
      exact ⟨.cachePut put, wall, call, _, own, rfl, waits, alonePut_answer performs found⟩
  | cleanup =>
      exact ⟨.cleanup, wall, call, _, own, rfl, waits, alonePerformed_answer performs found⟩
  | health =>
      exact ⟨.health, wall, call, _, own, rfl, waits, alonePerformed_answer performs found⟩

/-- A commit answers nobody. -/
theorem Request.perform_committed {request : Request} {wall : DateTime} {now : Int}
    {pending : QuotaGroup → Option PendingFeedback} {settings : Settings} {done : Performed}
    (performs : request.perform codec settings database pending call wall now = some (.ok done))
    {event : Event} (member : event ∈ done.committed) : event.answer = none := by
  cases Request.performs performs with
  | stored =>
      rw [List.mem_singleton.mp member]
      rfl
  | _ => cases member

/-- The commits of a reserve answer nobody. -/
theorem reserveEvents_answer {provider : ProviderId} {snapshot : ReserveSnapshot}
    {decision : QuotaDecision} {event : Event}
    (member : event ∈ reserveEvents call provider snapshot decision) : event.answer = none := by
  rcases List.mem_append.mp member with applied | granted
  · obtain ⟨_, _, rfl⟩ := mem_appliedFeedback.mp applied
    rfl
  · rw [(mem_grantedReservation.mp granted).2]
    rfl

/-- The report of an unanswered call answers nobody. -/
theorem Unanswered.answer (unanswered : Unanswered call report) {event : Event}
    (member : event ∈ report) : event.answer = none := by
  cases unanswered with
  | lost => cases member
  | failed =>
      rw [List.mem_singleton.mp member]
      rfl

/-- The answer of a reserve that is told to try again, because feedback came while it
committed. No call performed alone is given it for that reason. -/
def turnedDownAnswer : Answer := .reserved (.error (.storage .unavailable))

/-- Every other answer is the one of the call performed alone. -/
theorem Step.answeredAlone (taken : Step codec before emitted after) (free : before.Free)
    {event : Event} (member : event ∈ emitted) {answer : Answer}
    (answers : event.answer = some answer) : AnsweredAlone codec before event answer := by
  have silent : ∀ {other : Event}, event = other → other.answer = none → False := by
    rintro other rfl nothing
    cases answers.symm.trans nothing
  cases taken with
  | migrated | openTimedOut | reserveSnapshot | feedbackSaved | feedbackSnapshot => cases member
  | opened | closed | started | abandoned | unperformed =>
      exact (silent (List.mem_singleton.mp member) rfl).elim
  | retained =>
      rcases List.mem_cons.mp member with first | second
      · exact (silent first rfl).elim
      · exact (silent (List.mem_singleton.mp second) rfl).elim
  | performed wall free queued performs =>
      rcases List.mem_append.mp member with commits | returns
      · exact (silent rfl (Request.perform_committed performs commits)).elim
      · exact performed_answeredAlone queued performs returns answers
  | unreported wall free queued performs =>
      rcases List.mem_append.mp member with commits | fails
      · exact (silent rfl (Request.perform_committed performs commits)).elim
      · exact (silent (List.mem_singleton.mp fails) rfl).elim
  | @reserveBehind database session front back call provider wall free queued behind =>
      cases List.mem_singleton.mp member
      cases answers
      have waits : (call, Request.reserve provider) ∈ session.waiting :=
        queued ▸ List.mem_append_right front List.mem_cons_self
      refine ⟨.reserve provider, wall, call, _, rfl, rfl, waits, ?_⟩
      rw [Operation.alone, aloneReserve]
      dsimp only
      rw [if_pos behind]
  | reserveCommitted held | reserveCleared held | feedbackCommitted held | reserveReturned held
  | feedbackCleared held =>
      cases free.symm.trans held
  | released held => exact (silent (List.mem_singleton.mp member) rfl).elim

/-- A call in a piece of its own is answered as it is alone, unless it is turned down.
-/
theorem AtomicStep.answeredAlone (taken : AtomicStep codec before emitted after) {event : Event}
    (member : event ∈ emitted) {answer : Answer} (answers : event.answer = some answer)
    (settled : answer ≠ turnedDownAnswer) : AnsweredAlone codec before event answer := by
  have silent : event.answer = none → False := fun nothing => by
    cases answers.symm.trans nothing
  cases taken with
  | outside taken free still => exact taken.answeredAlone free member answers
  | reserveUncommitted wall enters caughtUp unanswered =>
      exact (silent (unanswered.answer member)).elim
  | feedbackUncommitted wall enters unanswered => exact (silent (unanswered.answer member)).elim
  | feedbackCommitted wall enters unsaved applies saved unanswered =>
      rcases List.mem_append.mp member with applied | reported
      · rw [List.mem_singleton.mp applied] at answers
        cases answers
      · exact (silent (unanswered.answer reported)).elim
  | reserveUnanswered wall enters caughtUp reserves saved unanswered =>
      rcases List.mem_append.mp member with committed | reported
      · exact (silent (reserveEvents_answer committed)).elim
      · rcases unanswered with unanswered | rfl
        · exact (silent (unanswered.answer reported)).elim
        · rw [List.mem_singleton.mp reported] at answers
          exact absurd (Option.some.inj answers).symm settled
  | @reserveAnswered database next session after front back call provider decision wall enters
      caughtUp reserves cleared =>
      rcases List.mem_append.mp member with committed | returned
      · exact (silent (reserveEvents_answer committed)).elim
      · cases List.mem_singleton.mp returned
        cases answers
        have waits : (call, Request.reserve provider) ∈ session.waiting :=
          enters.queued ▸ List.mem_append_right front List.mem_cons_self
        refine ⟨.reserve provider, wall, call, _, rfl, rfl, waits, ?_⟩
        rw [Operation.alone, aloneReserve]
        dsimp only
        rw [if_neg caughtUp, reserves]
        dsimp only
        rw [cleared]
        rfl

/-! ### One order for all callers -/

instance : DecidablePred Event.FromOutside := fun event => by
  unfold Event.FromOutside
  split <;> infer_instance

/-- An order of the events of a run in which every call is performed in one piece. -/
structure Linearizes (codec : PayloadCodec) (file : Option Database) (trace : List Event)
    (world : World) (order : List Event) : Prop where
  run : Run (AtomicStep codec) (.closed file) order world
  perm : order.Perm trace
  calls : ∀ call, order.filter (fun event => decide (event.call = some call)) =
    trace.filter (fun event => decide (event.call = some call))
  /-- Commits and answers, and the starts and ends of sessions, keep their order. -/
  commits : order.filter (fun event => decide (¬ event.FromOutside)) =
    trace.filter (fun event => decide (¬ event.FromOutside))
  /-- A call that starts later takes effect later. -/
  realTime : ∀ event call request, [event, .callStarted call request].Sublist trace →
    [event, .callStarted call request].Sublist order
  /-- An answer is the one of the call performed alone, after its start, but for the one
  that tells a reserve to try again. -/
  answers : ∀ event ∈ order, ∀ answer, event.answer = some answer → answer ≠ turnedDownAnswer →
    ∃ past before emitted after rest, order = past ++ (emitted ++ rest) ∧ event ∈ emitted ∧
      Run (AtomicStep codec) (.closed file) past before ∧ AtomicStep codec before emitted after ∧
      ∃ (operation : Operation) (wall : DateTime) (call : CallId) (request : Request),
        event.call = some call ∧ operation.request = some request ∧
        Event.callStarted call request ∈ past ∧ (operation.alone codec wall before).answer = answer

/-- A call that waits has waited or starts. -/
theorem AtomicStep.waits (taken : AtomicStep codec before emitted after) {call : CallId}
    {request : Request} (waiting : (call, request) ∈ after.waiting) :
    (call, request) ∈ before.waiting ∨ Event.callStarted call request ∈ emitted := by
  cases taken with
  | outside taken free still => exact taken.waits waiting
  | reserveUncommitted wall enters | feedbackUncommitted wall enters =>
      left
      rw [World.waiting, enters.queued]
      exact mem_of_remaining waiting
  | reserveUnanswered wall enters caughtUp reserves saved =>
      left
      rw [World.waiting, enters.queued]
      rcases saved with rfl | rfl <;> exact mem_of_remaining waiting
  | reserveAnswered wall enters caughtUp reserves cleared =>
      left
      rw [World.waiting, enters.queued]
      subst cleared
      exact mem_of_remaining waiting
  | feedbackCommitted wall enters unsaved applies saved =>
      left
      rw [World.waiting, enters.queued]
      rcases saved with rfl | rfl <;> exact mem_of_remaining waiting

/-- A call that waits was started. -/
theorem waiting_started (run : Run (AtomicStep codec) (.closed file) order after) :
    ∀ call request, (call, request) ∈ after.waiting → Event.callStarted call request ∈ order := by
  refine run.invariant (fun seen world => ∀ call request, (call, request) ∈ world.waiting →
    Event.callStarted call request ∈ seen) (fun _ _ => nofun) ?_
  intro seen before emitted after _ started taken call request waiting
  rcases taken.waits waiting with earlier | now
  · exact List.mem_append_left _ (started call request earlier)
  · exact List.mem_append_right _ now

/-- **The calls can be told apart.** Of a run that ends with nobody at the gate, and in
which no retention repeats the generation of a snapshot in flight, the events can be put
in an order that respects real time and in which the calls are performed one after the
other, each in one piece. They reach the same state, and every caller gets the answer of
its call performed alone, except a reserve that is told to try again. -/
theorem linearizable (run : Run (FreshStep codec) (.closed file) trace after)
    (free : after.Free) : ∃ order, Linearizes codec file trace after order := by
  have atomic : ∃ order, Run (AtomicStep codec) (.closed file) order after ∧
      Reordered Overtakes trace order := by
    cases (serial run).2 with
    | free run _ reordered => exact ⟨_, run, reordered⟩
    | @held _ _ _ _ _ _ _ _ _ gate _ piece =>
        have unheld : gate = .free := free
        have holder := piece.holder
        rw [unheld] at holder
        cases holder
  obtain ⟨order, run, reordered⟩ := atomic
  refine ⟨order, run, reordered.perm, ?_, ?_, ?_, ?_⟩
  · intro call
    refine reordered.filter_eq _ fun later earlier passes both => ?_
    simp only [decide_eq_true_eq] at both
    exact passes.apart call both.2 both.1
  · refine reordered.filter_eq _ fun later earlier passes both => ?_
    simp only [decide_eq_true_eq] at both
    exact both.2 passes.outside
  · exact fun event call request => reordered.precedes fun passes => passes.holder
  · intro event member answer answers settled
    obtain ⟨past, before, emitted, next, rest, split, inside, earlier, taken, _⟩ :=
      run.step_of_mem member
    obtain ⟨operation, wall, call, request, own, asks, waits, same⟩ :=
      taken.answeredAlone inside answers settled
    exact ⟨past, before, emitted, next, rest, split, inside, earlier, taken, operation, wall, call,
      request, own, asks, waiting_started earlier call request waits, same⟩

/-- Feedback for one provider is retained while a reserve for the other commits. -/
def overlapping : List Event :=
  [.opened .single .epoch 0, .callStarted 0 (.reserve .abuseipdb),
    .callStarted 1 (.feedback .virustotal),
    .feedbackRetained (quotaGroup .virustotal) (.cooldown none),
    .reservationCommitted 0 (quotaGroup .abuseipdb) 0,
    .reserveReturned 0 .abuseipdb .epoch (.ok ())]

/-- The overlapping calls are a run. -/
theorem overlapping_run (codec : PayloadCodec) :
    ∃ world, Run (FreshStep codec) (.closed none) overlapping world ∧ world.Free := by
  have run : Run (FreshStep codec) (.closed none) [.opened .single .epoch 0] .first :=
    .single ⟨first_opened codec, trivial⟩
  have run := run.snoc ⟨.started (.reserve .abuseipdb) (fun _ => nofun) trivial, fun _ _ _ => nofun⟩
  have run := run.snoc ⟨@Step.reserveSnapshot _ _ _ [] [] _ _ .epoch rfl rfl (by decide),
    fun _ _ _ => nofun⟩
  have run := run.snoc ⟨.retained .virustotal (.cooldown none), fun _ _ _ _ => nofun⟩
  have run := run.snoc ⟨.reserveCommitted rfl rfl, fun _ _ _ => nofun⟩
  have run := run.snoc ⟨.reserveCleared rfl, fun _ _ _ => nofun⟩
  have run := run.snoc ⟨.reserveReturned rfl, fun _ _ _ => nofun⟩
  exact ⟨_, run, rfl⟩

/-- Overlapping calls have an order in which each is performed alone. -/
theorem linearizable_overlapping :
    ∃ world order, Linearizes .blank none overlapping world order := by
  obtain ⟨world, run, free⟩ := overlapping_run .blank
  exact ⟨world, linearizable run free⟩

end RustEnrich.Storage
