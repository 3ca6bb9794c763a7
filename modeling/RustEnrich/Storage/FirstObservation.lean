import RustEnrich.Storage.Allowance
import RustEnrich.Storage.Moves

/-!
# The first observed allowance

Until a report of a window is in the row, the row knows no allowance; the first
report that reaches it leaves room for the attempts that may be outstanding.
From then on the row only loses allowance. An open storage is in one of two
phases for a group, `Unrecorded` and `Recorded`, and a step that retains nothing
for the group moves at most from the first to the second.
-/

namespace RustEnrich.Storage

namespace QuotaState

variable {state next : QuotaState} {feedback : QuotaFeedback} {now target : Int} {limit : Nat}

/-- Expiry records nothing. -/
theorem unrecorded_expireFeedback (unrecorded : state.providerRemaining = none) (now : Int) :
    (state.expireFeedback now).providerRemaining = none := by
  unfold expireFeedback expireCooldown expireReset
  split <;> split <;> simp [unrecorded]

/-- A new day records nothing. -/
theorem unrecorded_advanceDay {wall : DateTime} (advanced : state.advanceDay wall = .ok next)
    (unrecorded : state.providerRemaining = none) : next.providerRemaining = none := by
  obtain ⟨_, _, ⟨_, rfl⟩ | ⟨_, rfl⟩⟩ := advanceDay_ok advanced
  · exact unrecorded_expireFeedback unrecorded _
  · apply unrecorded_expireFeedback
    simp [startDay, unrecorded]

/-- A first report is recorded less the attempts it may not have seen. -/
theorem applyAllowance_first {unobservedAttempts : Nat}
    (announces : Announces feedback (limit + unobservedAttempts) target)
    (unrecorded : state.providerRemaining = none) :
    AllowedUntil (state.applyAllowance feedback unobservedAttempts) limit target := by
  obtain ⟨_, stored, _, _, latest, after⟩ :=
    applyAllowance_allowed announces state unobservedAttempts
  obtain ⟨remaining, _, fewest, within, _⟩ := announces
  refine ⟨remaining - unobservedAttempts, stored, ?_, by omega, latest, after⟩
  unfold applyAllowance
  rw [fewest, unrecorded]

/-- The first report of a window leaves room for the unobserved attempts. -/
theorem applyFeedback_first {unobservedAttempts : Nat}
    (applied : state.applyFeedback feedback now unobservedAttempts = .ok next)
    (announces : Announces feedback (limit + unobservedAttempts) target)
    (unrecorded : state.providerRemaining = none) (before : now < target) :
    AllowedUntil next limit target := by
  rw [applyFeedback_announced applied announces before]
  apply allowedUntil_ensureUnknownCooldown
  apply applyAllowance_first announces
  rw [applyCooldown_providerRemaining]
  exact unrecorded_expireFeedback unrecorded now

end QuotaState

/-- What a reserve makes of the first report, which its snapshot holds. -/
theorem reserveTransaction_first {database next : Database} {group : QuotaGroup}
    {limits : QuotaLimits} {snapshot : ReserveSnapshot} {decision : QuotaDecision}
    {entry : PendingFeedback} {limit : Nat} {target : Int}
    (reserved : reserveTransaction database group limits snapshot.wall snapshot.now
      snapshot.pending = .ok (next, decision))
    (unrecorded : (database.quotaState group).providerRemaining = none)
    (present : snapshot.pending = some entry)
    (announces : Announces entry.feedback (limit + limits.unobservedAttempts) target)
    (before : snapshot.now < target) :
    ∃ left, AllowedUntil (next.quotaState group) left target ∧
      left + (if decision.blocked then 0 else 1) ≤ limit := by
  obtain ⟨advanced, state, stored, left, advancing, applying, deciding, settling, rfl⟩ :=
    reserveTransaction_ok reserved
  rw [present] at applying
  have allowed := QuotaState.applyFeedback_first applying announces
    (QuotaState.unrecorded_advanceDay advancing unrecorded) before
  simp only [Function.update_self]
  exact settle_allowed deciding settling allowed

/-- A reserve without a snapshot records nothing. -/
theorem reserveTransaction_unrecorded {database next : Database} {group : QuotaGroup}
    {limits : QuotaLimits} {snapshot : ReserveSnapshot} {decision : QuotaDecision}
    (reserved : reserveTransaction database group limits snapshot.wall snapshot.now
      snapshot.pending = .ok (next, decision))
    (unrecorded : (database.quotaState group).providerRemaining = none)
    (absent : snapshot.pending = none) : (next.quotaState group).providerRemaining = none := by
  obtain ⟨advanced, state, stored, left, advancing, applying, deciding, settling, rfl⟩ :=
    reserveTransaction_ok reserved
  rw [absent] at applying
  cases applying
  have kept := QuotaState.unrecorded_advanceDay advancing unrecorded
  simp only [Function.update_self]
  rcases settle_ok settling with ⟨_, rfl, _⟩ | ⟨_, consuming, _⟩
  · exact kept
  · obtain ⟨_, _, spent, _⟩ := QuotaState.consume_ok consuming
    rw [spent, kept, Option.map_none]

/-- A first committed report is recorded less the attempts it may not have seen. -/
theorem feedbackTransaction_first {database next : Database} {group : QuotaGroup}
    {limits : QuotaLimits} {now : Int} {pending : PendingFeedback} {limit : Nat} {target : Int}
    (applied : feedbackTransaction database group limits now pending = .ok next)
    (unrecorded : (database.quotaState group).providerRemaining = none)
    (announces : Announces pending.feedback (limit + limits.unobservedAttempts) target)
    (before : now < target) : AllowedUntil (next.quotaState group) limit target := by
  obtain ⟨stored, applying, rfl⟩ := feedbackTransaction_ok applied
  simp only [Function.update_self]
  exact QuotaState.applyFeedback_first applying announces unrecorded before

/-- The reservations of a group. -/
def countGroup (group : QuotaGroup) (reservations : List Reservation) : Nat :=
  reservations.countP (fun reservation => reservation.group = group)

/-- Nothing counts nothing. -/
@[simp] theorem countGroup_nil (group : QuotaGroup) : countGroup group [] = 0 := rfl

/-- The reservations of two lists. -/
@[simp] theorem countGroup_append (group : QuotaGroup) (front back : List Reservation) :
    countGroup group (front ++ back) = countGroup group front + countGroup group back :=
  List.countP_append

/-- A decision reserves at most once. -/
theorem countGroup_granted_le (group other : QuotaGroup) (call : CallId) (now : Int)
    (decision : QuotaDecision) :
    countGroup group (committed (grantedReservation call other now decision)) ≤
      if decision.blocked then 0 else 1 := by
  rw [committed_grantedReservation]
  split
  · exact le_refl _
  · exact List.countP_le_length

/-- A decision of another group does not count. -/
theorem countGroup_granted_of_ne {group other : QuotaGroup} (distinct : other ≠ group)
    (call : CallId) (now : Int) (decision : QuotaDecision) :
    countGroup group (committed (grantedReservation call other now decision)) = 0 := by
  rw [committed_grantedReservation]
  split <;> simp [countGroup, distinct]

/-! ### The two phases of a window -/

/-- The row permits attempts until `target`, and with those it decided on and
has not answered they are at most `limit`. -/
def Recorded (group : QuotaGroup) (target : Int) (limit : Nat) (database : Database)
    (session : Session) : Prop :=
  ∃ left, AllowedUntil (database.quotaState group) left target ∧
    left + countGroup group session.gate.unanswered ≤ limit

/-- The row knows no allowance, and what is retained will leave it one of at
most `limit`. -/
structure Unrecorded (group : QuotaGroup) (target : Int) (limit unobservedAttempts : Nat)
    (database : Database) (session : Session) : Prop where
  row : (database.quotaState group).providerRemaining = none
  pending : ∀ entry, session.runtime.pending group = some entry →
    Announces entry.feedback (limit + unobservedAttempts) target
  saving : ∀ entry, session.gate.saving = some (group, entry) →
    session.runtime.pending group ≠ none ∧
      Announces entry.feedback (limit + unobservedAttempts) target
  unsaved : ∀ entry, session.gate.saved ≠ some (group, entry)

variable {codec : PayloadCodec} {group : QuotaGroup} {provider : ProviderId} {target : Int}
  {limit wider unobservedAttempts : Nat} {emitted : List Event} {database next : Database}
  {session following : Session}

/-- A report that announces a limit announces a wider one. -/
theorem Announces.mono {feedback : QuotaFeedback} (announces : Announces feedback limit target)
    (within : limit ≤ wider) : Announces feedback wider target := by
  obtain ⟨remaining, reset, fewest, least, window⟩ := announces
  exact ⟨remaining, reset, fewest, least.trans within, window⟩

/-- What is recorded under a limit is so under a wider one. -/
theorem Recorded.mono (recorded : Recorded group target limit database session)
    (within : limit ≤ wider) : Recorded group target wider database session := by
  obtain ⟨left, row, bounded⟩ := recorded
  exact ⟨left, row, bounded.trans within⟩

/-- What is announced under a limit is so under a wider one. -/
theorem Unrecorded.mono
    (unrecorded : Unrecorded group target limit unobservedAttempts database session)
    (within : limit ≤ wider) :
    Unrecorded group target wider unobservedAttempts database session where
  row := unrecorded.row
  pending := fun entry present => (unrecorded.pending entry present).mono (by omega)
  saving := fun entry inFlight =>
    ⟨(unrecorded.saving entry inFlight).1, (unrecorded.saving entry inFlight).2.mono (by omega)⟩
  unsaved := unrecorded.unsaved

/-- With nothing retained there is nothing to bound. -/
theorem Unrecorded.of_silent
    (unrecorded : Unrecorded group target limit unobservedAttempts database session)
    (silent : session.runtime.pending group = none) (other : Nat) :
    Unrecorded group target other unobservedAttempts database session where
  row := unrecorded.row
  pending := fun _ present => absurd (silent.symm.trans present) nofun
  saving := fun _ inFlight => absurd silent (unrecorded.saving _ inFlight).1
  unsaved := unrecorded.unsaved

/-- A step takes from the row what it commits. -/
theorem Step.allowed
    (taken : Step codec (.running database session) emitted (.running next following))
    (clocked : (World.running database session).Clocked)
    (before : session.runtime.highWater < target)
    (row : AllowedUntil (database.quotaState group) limit target) :
    ∃ left, AllowedUntil (next.quotaState group) left target ∧
      left + countGroup group (committed emitted) ≤ limit := by
  rcases taken.accounts with ⟨quiet, stored, present, same, _⟩ |
    ⟨_, _, _, call, provider, snapshot, decision, holds, held, reserves, rfl, reached⟩ |
    ⟨_, _, _, call, provider, now, pending, holds, held, applies, rfl, reached⟩
  · cases present
    rw [quiet, (same database rfl).quotaState]
    exact ⟨limit, row, le_refl _⟩
  · cases holds
    cases reached
    obtain ⟨_, time⟩ := clocked
    rw [held] at time
    rw [committed_append, committed_appliedFeedback, List.nil_append]
    by_cases same : quotaGroup provider = group
    · subst same
      obtain ⟨left, kept, spent⟩ := reserveTransaction_allowed reserves (Or.inl row)
        (time.2 ▸ before)
      have one := countGroup_granted_le (quotaGroup provider) (quotaGroup provider) call
        snapshot.now decision
      exact ⟨left, kept, by omega⟩
    · rw [countGroup_granted_of_ne same]
      rw [reserveTransaction_of_ne (Ne.symm same) reserves]
      exact ⟨limit, row, le_refl _⟩
  · cases holds
    cases reached
    obtain ⟨_, time⟩ := clocked
    rw [held] at time
    rw [committed_appliedFeedback]
    by_cases same : quotaGroup provider = group
    · subst same
      exact ⟨limit, feedbackTransaction_allowed applies (Or.inl row) (time.2 ▸ before), le_refl _⟩
    · rw [feedbackTransaction_of_ne (Ne.symm same) applies]
      exact ⟨limit, row, le_refl _⟩

/-- An answered reservation leaves the recorded allowance for the provider to
lose. -/
theorem Recorded.step (recorded : Recorded group target limit database session)
    (taken : Step codec (.running database session) emitted (.running next following))
    (clocked : (World.running database session).Clocked)
    (before : session.runtime.highWater < target) :
    ∃ rest, Recorded group target rest next following ∧
      rest + countGroup group (granted emitted) ≤ limit := by
  obtain ⟨left, row, bounded⟩ := recorded
  obtain ⟨rest, kept, spent⟩ := taken.allowed clocked before row
  have answered :=
    taken.granted_sublist.countP_le (p := fun reservation => reservation.group = group)
  rw [List.countP_append, List.countP_append] at answered
  refine ⟨rest + countGroup group following.gate.unanswered, ⟨rest, kept, le_refl _⟩, ?_⟩
  change countGroup group _ + countGroup group following.gate.unanswered ≤
    countGroup group session.gate.unanswered + countGroup group _ at answered
  omega

/-- A retention of the group while nothing is recorded. The first one must
itself be a report. -/
theorem Unrecorded.retain
    (unrecorded : Unrecorded (quotaGroup provider) target limit unobservedAttempts database session)
    {feedback : QuotaFeedback}
    (first : session.runtime.pending (quotaGroup provider) = none →
      Announces feedback (limit + unobservedAttempts) target)
    (runtime : following.runtime = session.runtime.retain (quotaGroup provider) feedback)
    (gate : following.gate = session.gate) :
    Unrecorded (quotaGroup provider) target limit unobservedAttempts database following ∧
      following.runtime.pending (quotaGroup provider) ≠ none := by
  have present : ∃ entry, following.runtime.pending (quotaGroup provider) = some entry ∧
      Announces entry.feedback (limit + unobservedAttempts) target := by
    rw [runtime, RuntimeState.retain]
    simp only [Function.update_self]
    cases old : session.runtime.pending (quotaGroup provider) with
    | none => exact ⟨_, rfl, first old⟩
    | some entry => exact ⟨_, rfl, (unrecorded.pending entry old).merge_left feedback⟩
  obtain ⟨entry, retained, announces⟩ := present
  refine ⟨⟨unrecorded.row, ?_, ?_, by rw [gate]; exact unrecorded.unsaved⟩, by simp [retained]⟩
  · intro other holds
    rw [retained] at holds
    cases holds
    exact announces
  · intro other inFlight
    rw [gate] at inFlight
    exact ⟨by simp [retained], (unrecorded.saving other inFlight).2⟩

/-- The row, the retained entry and the snapshot in flight are all a phase
depends on. -/
theorem Unrecorded.frame
    (unrecorded : Unrecorded group target limit unobservedAttempts database session)
    (row : (next.quotaState group).providerRemaining = none)
    (pending : following.runtime.pending group = session.runtime.pending group)
    (saving : ∀ entry, following.gate.saving = some (group, entry) →
      session.gate.saving = some (group, entry) ∨ session.runtime.pending group = some entry)
    (unsaved : ∀ entry, following.gate.saved ≠ some (group, entry)) :
    Unrecorded group target limit unobservedAttempts next following where
  row := row
  pending := by
    rw [pending]
    exact unrecorded.pending
  saving := by
    intro entry inFlight
    rw [pending]
    rcases saving entry inFlight with earlier | retained
    · exact unrecorded.saving entry earlier
    · exact ⟨by simp [retained], unrecorded.pending entry retained⟩
  unsaved := unsaved

/-- Nothing is recorded while the row has nothing and no report comes. -/
theorem Unrecorded.within
    (unrecorded : Unrecorded group target limit unobservedAttempts database session)
    (row : (next.quotaState group).providerRemaining = none)
    (pending : following.runtime.pending group = session.runtime.pending group)
    (within : following.gate.Within session.gate) :
    Unrecorded group target limit unobservedAttempts next following :=
  unrecorded.frame row pending (fun _ inFlight => Or.inl (within.saving _ inFlight))
    fun entry saved => unrecorded.unsaved entry (within.saved _ saved)

/-- A snapshot takes what is retained. -/
theorem Unrecorded.snapshot
    (unrecorded : Unrecorded group target limit unobservedAttempts database session)
    (pending : following.runtime.pending = session.runtime.pending)
    (taken : ∀ entry, following.gate.saving = some (group, entry) →
      session.runtime.pending group = some entry)
    (unsaved : following.gate.saved = none) :
    Unrecorded group target limit unobservedAttempts database following :=
  unrecorded.frame unrecorded.row (by rw [pending])
    (fun entry inFlight => Or.inr (taken entry inFlight))
    fun _ saved => absurd (unsaved.symm.trans saved) nofun

/-- Applied feedback commits nothing for another group. -/
theorem applied_ne {group other : QuotaGroup} (distinct : other ≠ group)
    (pending : Option PendingFeedback) (applied : Int) (feedback : QuotaFeedback) (now : Int) :
    Event.feedbackCommitted group feedback now ∉ appliedFeedback other pending applied := by
  cases pending with
  | none => exact List.not_mem_nil
  | some entry => simp [appliedFeedback, Ne.symm distinct]

/-- A reservation commits no feedback. -/
theorem applied_not_granted (group other : QuotaGroup) (call : CallId) (reserved : Int)
    (decision : QuotaDecision) (feedback : QuotaFeedback) (now : Int) :
    Event.feedbackCommitted group feedback now ∉
      grantedReservation call other reserved decision := by
  intro member
  cases (mem_grantedReservation.mp member).2

/-- The commit of a reserve records its snapshot, if it has one. -/
theorem Unrecorded.reserveCommitted
    (unrecorded : Unrecorded (quotaGroup provider) target limit unobservedAttempts database session)
    {call : CallId} {asked : ProviderId} {snapshot : ReserveSnapshot} {decision : QuotaDecision}
    (held : session.gate = .reserving call asked snapshot)
    (reserves : reserveTransaction database (quotaGroup asked) (session.settings.limits asked)
      snapshot.wall snapshot.now snapshot.pending = .ok (next, decision))
    (runtime : following.runtime = session.runtime)
    (gate : following.gate = .reserved call asked snapshot decision)
    (limits : (session.settings.limits provider).unobservedAttempts = unobservedAttempts)
    (before : snapshot.now < target) :
    (Unrecorded (quotaGroup provider) target limit unobservedAttempts next following ∧
        ∀ feedback now, Event.feedbackCommitted (quotaGroup provider) feedback now ∉
          appliedFeedback (quotaGroup asked) snapshot.pending snapshot.now ++
            grantedReservation call (quotaGroup asked) snapshot.now decision) ∨
      session.runtime.pending (quotaGroup provider) ≠ none ∧
        Recorded (quotaGroup provider) target limit next following := by
  have pending : following.runtime.pending (quotaGroup provider) =
      session.runtime.pending (quotaGroup provider) := by rw [runtime]
  have unapplied : ∀ feedback now,
      Event.feedbackCommitted (quotaGroup provider) feedback now ∉
        appliedFeedback (quotaGroup asked) snapshot.pending snapshot.now →
      Event.feedbackCommitted (quotaGroup provider) feedback now ∉
        appliedFeedback (quotaGroup asked) snapshot.pending snapshot.now ++
          grantedReservation call (quotaGroup asked) snapshot.now decision := by
    intro feedback now absent member
    rcases List.mem_append.mp member with first | second
    · exact absent first
    · exact applied_not_granted _ _ _ _ _ _ _ second
  by_cases same : quotaGroup asked = quotaGroup provider
  · cases quotaGroup_injective same
    cases present : snapshot.pending with
    | none =>
        left
        rw [present] at unapplied
        refine ⟨unrecorded.frame (reserveTransaction_unrecorded reserves unrecorded.row present)
          pending ?_ ?_, fun feedback now => unapplied feedback now List.not_mem_nil⟩
        · intro entry inFlight
          simp [gate, Gate.saving, present] at inFlight
        · intro entry
          simp [gate, Gate.saved, present]
    | some entry =>
        right
        obtain ⟨retained, announces⟩ :=
          unrecorded.saving entry (by simp [held, Gate.saving, present])
        rw [← limits] at announces
        obtain ⟨left, row, spent⟩ :=
          reserveTransaction_first reserves unrecorded.row present announces before
        have one := countGroup_granted_le (quotaGroup provider) (quotaGroup provider) call
          snapshot.now decision
        rw [committed_grantedReservation] at one
        refine ⟨retained, left, row, ?_⟩
        rw [gate]
        change left + countGroup _ (if decision.blocked then [] else _) ≤ limit
        omega
  · left
    refine ⟨unrecorded.frame ?_ pending ?_ ?_, fun feedback now =>
      unapplied feedback now (applied_ne same _ _ _ _)⟩
    · rw [reserveTransaction_of_ne (Ne.symm same) reserves]
      exact unrecorded.row
    · intro entry inFlight
      left
      rw [held]
      rwa [gate] at inFlight
    · intro entry inFlight
      rw [gate] at inFlight
      simp only [Gate.saved, Option.map_eq_some_iff, Prod.mk.injEq] at inFlight
      obtain ⟨_, _, other, _⟩ := inFlight
      exact same other

/-- The commit of a feedback of the group records it. -/
theorem Unrecorded.feedbackCommitted
    (unrecorded : Unrecorded (quotaGroup provider) target limit unobservedAttempts database session)
    {call : CallId} {asked : ProviderId} {now : Int} {entry : PendingFeedback}
    (held : session.gate = .applying call asked now entry)
    (applies : feedbackTransaction database (quotaGroup asked) (session.settings.limits asked) now
      entry = .ok next)
    (runtime : following.runtime = session.runtime)
    (gate : following.gate = .applied call asked entry)
    (limits : (session.settings.limits provider).unobservedAttempts = unobservedAttempts)
    (before : now < target) :
    (Unrecorded (quotaGroup provider) target limit unobservedAttempts next following ∧
        ∀ feedback other, Event.feedbackCommitted (quotaGroup provider) feedback other ∉
          appliedFeedback (quotaGroup asked) (some entry) now) ∨
      session.runtime.pending (quotaGroup provider) ≠ none ∧
        Recorded (quotaGroup provider) target limit next following := by
  by_cases same : quotaGroup asked = quotaGroup provider
  · cases quotaGroup_injective same
    right
    obtain ⟨retained, announces⟩ := unrecorded.saving entry (by rw [held]; rfl)
    rw [← limits] at announces
    refine ⟨retained, limit, feedbackTransaction_first applies unrecorded.row announces before, ?_⟩
    rw [gate]
    exact le_refl _
  · left
    refine ⟨unrecorded.frame ?_ (by rw [runtime]) ?_ ?_,
      fun feedback other => applied_ne same _ _ _ _⟩
    · rw [feedbackTransaction_of_ne (Ne.symm same) applies]
      exact unrecorded.row
    · intro other inFlight
      left
      rw [held]
      rwa [gate] at inFlight
    · intro other inFlight
      rw [gate] at inFlight
      simp only [Gate.saved, Option.some.injEq, Prod.mk.injEq] at inFlight
      exact same inFlight.1

/-- A transaction that has saved nothing of the group clears nothing of it. -/
theorem Unrecorded.clear
    (unrecorded : Unrecorded (quotaGroup provider) target limit unobservedAttempts database session)
    {asked : ProviderId} {saved : Option PendingFeedback}
    (own : session.gate.saved = saved.map (fun entry => (quotaGroup asked, entry)))
    (runtime : following.runtime = session.runtime.clearPending (quotaGroup asked) saved)
    (cleared : following.gate.saving = none) :
    Unrecorded (quotaGroup provider) target limit unobservedAttempts database following ∧
      following.runtime.pending (quotaGroup provider) =
        session.runtime.pending (quotaGroup provider) := by
  have pending : following.runtime.pending (quotaGroup provider) =
      session.runtime.pending (quotaGroup provider) := by
    by_contra changed
    rw [runtime] at changed
    obtain ⟨same, old, _, rfl, _⟩ := RuntimeState.of_clearPending_ne changed
    exact unrecorded.unsaved old (by rw [own, same]; rfl)
  refine ⟨unrecorded.frame unrecorded.row pending ?_ ?_, pending⟩
  · intro entry inFlight
    rw [cleared] at inFlight
    cases inFlight
  · intro entry inFlight
    have both := Gate.saving_of_saved inFlight
    rw [cleared] at both
    cases both

/-- A move that retains nothing for the group either leaves its phase alone or
records the first allowance. -/
theorem Unrecorded.step
    (unrecorded : Unrecorded (quotaGroup provider) target limit unobservedAttempts database session)
    (move : Move database session emitted next following)
    (silent : ∀ feedback, Event.feedbackRetained (quotaGroup provider) feedback ∉ emitted)
    (limits : (session.settings.limits provider).unobservedAttempts = unobservedAttempts)
    (clocked : (World.running database session).Clocked)
    (before : session.runtime.highWater < target) :
    (Unrecorded (quotaGroup provider) target limit unobservedAttempts next following ∧
        following.runtime.pending (quotaGroup provider) =
          session.runtime.pending (quotaGroup provider) ∧
        ∀ feedback now, Event.feedbackCommitted (quotaGroup provider) feedback now ∉ emitted) ∨
      session.runtime.pending (quotaGroup provider) ≠ none ∧
        Recorded (quotaGroup provider) target limit next following := by
  obtain ⟨_, time⟩ := clocked
  cases move with
  | idle idle =>
      have pending : following.runtime.pending (quotaGroup provider) =
          session.runtime.pending (quotaGroup provider) := by rw [idle.pending]
      refine Or.inl ⟨unrecorded.within ?_ pending idle.within, pending, idle.unapplied _⟩
      rw [idle.accounts.quotaState]
      exact unrecorded.row
  | retained call other feedback runtime gate =>
      have distinct : quotaGroup provider ≠ quotaGroup other := by
        intro same
        exact silent feedback (by simp [same])
      have pending : following.runtime.pending (quotaGroup provider) =
          session.runtime.pending (quotaGroup provider) := by
        rw [runtime]
        exact RuntimeState.retain_of_ne distinct feedback
      exact Or.inl ⟨unrecorded.within unrecorded.row pending (gate ▸ .refl _), pending, by simp⟩
  | reserveSnapshot call other wall free runtime gate =>
      have pending : following.runtime.pending = session.runtime.pending := by rw [runtime]; rfl
      refine Or.inl ⟨unrecorded.snapshot pending ?_ (by rw [gate]; rfl), by rw [pending], by simp⟩
      intro entry inFlight
      obtain ⟨same, present⟩ := Gate.saving_reserving.mp (gate ▸ inFlight)
      exact same ▸ present
  | feedbackSnapshot call other wall entry free runtime unsaved gate =>
      have pending : following.runtime.pending = session.runtime.pending := by rw [runtime]; rfl
      refine Or.inl ⟨unrecorded.snapshot pending ?_ (by rw [gate]; rfl), by rw [pending], by simp⟩
      intro taken inFlight
      obtain ⟨same, rfl⟩ := Gate.saving_applying.mp (gate ▸ inFlight)
      exact same ▸ unsaved
  | reserveCommitted call other snapshot decision held reserves runtime gate =>
      rw [held] at time
      rcases unrecorded.reserveCommitted held reserves runtime gate limits (time.2 ▸ before) with
        ⟨still, quiet⟩ | recorded
      · exact Or.inl ⟨still, by rw [runtime], quiet⟩
      · exact Or.inr recorded
  | feedbackCommitted call other now entry held applies runtime gate =>
      rw [held] at time
      rcases unrecorded.feedbackCommitted held applies runtime gate limits (time.2 ▸ before) with
        ⟨still, quiet⟩ | recorded
      · exact Or.inl ⟨still, by rw [runtime], quiet⟩
      · exact Or.inr recorded
  | reserveCleared call other snapshot decision held runtime gate =>
      obtain ⟨still, pending⟩ := unrecorded.clear (by rw [held]; rfl) runtime (by rw [gate]; rfl)
      exact Or.inl ⟨still, pending, by simp⟩
  | feedbackCleared call other entry held runtime gate =>
      have own : session.gate.saved = (some entry).map (fun old => (quotaGroup other, old)) := by
        rw [held]
        rfl
      obtain ⟨still, pending⟩ := unrecorded.clear own runtime (by rw [gate]; rfl)
      exact Or.inl ⟨still, pending, by simp⟩

end RustEnrich.Storage
