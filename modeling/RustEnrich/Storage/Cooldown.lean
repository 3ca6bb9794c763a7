import RustEnrich.Storage.Moves

/-!
# Received cooldowns

Within one process no reservation is granted before a cooldown that was
reported to it. From the moment it is retained, a cooldown is either over, or
held by the stored row, or still pending; the pending entry is dropped only
once its own snapshot is in the row, and an answer is given only where nothing
is pending.
-/

namespace RustEnrich.Storage

open Transitions

/-- A cooldown that lasts at least until a time. -/
def HeldUntil (cooldown : Option Int) (target : Int) : Prop :=
  ∃ stored, cooldown = some stored ∧ target ≤ stored

/-- The cooldown target as storage compares it. -/
def QuotaFeedback.cooldownMillis (feedback : QuotaFeedback) : Option Int :=
  feedback.cooldownUntil.map DateTime.timestampMillis

/-- Of two reported cooldowns the later one is kept. -/
theorem mergeFeedback_cooldownUntil (old new : QuotaFeedback) :
    (mergeFeedback old new).cooldownUntil = laterOf old.cooldownUntil new.cooldownUntil := by
  unfold mergeFeedback laterOf
  cases old.cooldownUntil with
  | none => cases new.cooldownUntil <;> rfl
  | some left =>
      cases new.cooldownUntil with
      | none => rfl
      | some right =>
          dsimp only
          by_cases later : left > right
          · rw [if_pos later, max_eq_left later.le]
          · rw [if_neg later, max_eq_right (not_lt.mp later)]
            by_cases same : left = right
            · rw [if_pos same, same]
            · rw [if_neg same]

/-- Merging keeps a target of the older report. -/
theorem HeldUntil.merge_left {old : QuotaFeedback} {target : Int}
    (held : HeldUntil old.cooldownMillis target) (new : QuotaFeedback) :
    HeldUntil (mergeFeedback old new).cooldownMillis target := by
  obtain ⟨_, reported, before⟩ := held
  obtain ⟨stored, there, rfl⟩ := Option.map_eq_some_iff.mp reported
  obtain ⟨later, merged, ahead⟩ := le_laterOf_left there new.cooldownUntil
  refine ⟨later.timestampMillis, ?_, before.trans (DateTime.timestampMillis_mono ahead)⟩
  unfold QuotaFeedback.cooldownMillis
  rw [mergeFeedback_cooldownUntil, merged, Option.map_some]

/-- Merging keeps a target of the newer report. -/
theorem HeldUntil.merge_right {new : QuotaFeedback} {target : Int}
    (held : HeldUntil new.cooldownMillis target) (old : QuotaFeedback) :
    HeldUntil (mergeFeedback old new).cooldownMillis target := by
  obtain ⟨_, reported, before⟩ := held
  obtain ⟨stored, there, rfl⟩ := Option.map_eq_some_iff.mp reported
  obtain ⟨later, merged, ahead⟩ := le_laterOf_right there old.cooldownUntil
  refine ⟨later.timestampMillis, ?_, before.trans (DateTime.timestampMillis_mono ahead)⟩
  unfold QuotaFeedback.cooldownMillis
  rw [mergeFeedback_cooldownUntil, merged, Option.map_some]

/-! ### The stored row keeps a cooldown until it is over -/

namespace QuotaState

variable {state next : QuotaState} {feedback : QuotaFeedback} {now target : Int}

/-- Expiry keeps a target that is ahead. -/
theorem heldUntil_expireFeedback (held : HeldUntil state.cooldownUntil target) :
    target ≤ now ∨ HeldUntil (state.expireFeedback now).cooldownUntil target := by
  unfold expireFeedback expireCooldown
  rw [expireReset_cooldownUntil]
  obtain ⟨stored, cooldown, before⟩ := held
  rw [cooldown]
  by_cases passed : stored ≤ now
  · exact Or.inl (before.trans passed)
  · right
    simp only [Option.any_some, passed, decide_false, Bool.false_eq_true, ↓reduceIte]
    rw [expireReset_cooldownUntil]
    exact ⟨stored, cooldown, before⟩

/-- A report keeps the target of the row. -/
theorem heldUntil_applyCooldown (held : HeldUntil state.cooldownUntil target) :
    HeldUntil (state.applyCooldown feedback now).cooldownUntil target := by
  obtain ⟨stored, cooldown, before⟩ := held
  unfold applyCooldown
  split
  · exact ⟨stored, cooldown, before⟩
  · rename_i reported _
    split
    · rename_i later
      rw [cooldown, Option.all_some, decide_eq_true_eq] at later
      exact ⟨reported, rfl, before.trans later.le⟩
    · split <;> exact ⟨stored, cooldown, before⟩

/-- A reported cooldown that is not over is held by the row it is applied to. -/
theorem applyCooldown_holds (reported : HeldUntil feedback.cooldownMillis target) :
    target ≤ now ∨ HeldUntil (state.applyCooldown feedback now).cooldownUntil target := by
  obtain ⟨until_, cooldown, before⟩ := reported
  unfold QuotaFeedback.cooldownMillis at cooldown
  unfold applyCooldown
  rw [cooldown]
  by_cases ahead : now < until_
  · right
    simp only [Option.filter_some, ahead, decide_true, ↓reduceIte]
    split
    · exact ⟨until_, rfl, before⟩
    · rename_i covered
      cases stored : state.cooldownUntil with
      | none => rw [stored] at covered; exact absurd rfl covered
      | some old =>
          rw [stored, Option.all_some, decide_eq_true_eq] at covered
          split
          · exact ⟨old, rfl, before.trans (not_lt.mp covered)⟩
          · exact ⟨old, stored, before.trans (not_lt.mp covered)⟩
  · exact Or.inl (before.trans (not_lt.mp ahead))

/-- The fallback keeps the target of the row. -/
theorem heldUntil_ensureUnknownCooldown (held : HeldUntil state.cooldownUntil target) :
    HeldUntil (state.ensureUnknownCooldown now).cooldownUntil target := by
  unfold ensureUnknownCooldown
  split
  · rename_i unknown
    obtain ⟨stored, cooldown, _⟩ := held
    rw [unknown.2.2] at cooldown
    cases cooldown
  · exact held

/-- A report keeps a target that is ahead. -/
theorem heldUntil_applyFeedback {unobservedAttempts : Nat}
    (applied : state.applyFeedback feedback now unobservedAttempts = .ok next)
    (held : HeldUntil state.cooldownUntil target) :
    target ≤ now ∨ HeldUntil next.cooldownUntil target := by
  rcases heldUntil_expireFeedback held with passed | kept
  · exact Or.inl passed
  · right
    rcases applyFeedback_ok applied with ⟨_, rfl⟩ | ⟨_, rfl⟩
    · exact heldUntil_applyCooldown kept
    · exact heldUntil_ensureUnknownCooldown (heldUntil_applyCooldown kept)

/-- A reported target that is ahead is held. -/
theorem applyFeedback_holds {unobservedAttempts : Nat}
    (applied : state.applyFeedback feedback now unobservedAttempts = .ok next)
    (reported : HeldUntil feedback.cooldownMillis target) :
    target ≤ now ∨ HeldUntil next.cooldownUntil target := by
  have cooled : target ≤ now ∨
      HeldUntil ((state.expireFeedback now).applyCooldown feedback now).cooldownUntil target :=
    applyCooldown_holds reported
  rcases cooled with passed | kept
  · exact Or.inl passed
  · right
    rcases applyFeedback_ok applied with ⟨_, rfl⟩ | ⟨_, rfl⟩
    · exact kept
    · exact heldUntil_ensureUnknownCooldown kept

/-- A new day keeps a target that is ahead. -/
theorem heldUntil_advanceDay {wall : DateTime} (advanced : state.advanceDay wall = .ok next)
    (held : HeldUntil state.cooldownUntil target) :
    target ≤ wall.timestampMillis ∨ HeldUntil next.cooldownUntil target := by
  obtain ⟨_, _, ⟨_, rfl⟩ | ⟨_, rfl⟩⟩ := advanceDay_ok advanced
  · exact heldUntil_expireFeedback held
  · exact heldUntil_expireFeedback held

/-- A reservation keeps the target. -/
theorem heldUntil_consume (consumed : state.consume now = .ok next)
    (held : HeldUntil state.cooldownUntil target) : HeldUntil next.cooldownUntil target := by
  unfold consume at consumed
  split at consumed
  · cases consumed
  · cases consumed
    exact heldUntil_ensureUnknownCooldown held

end QuotaState

/-- The cooldown of a retained entry, which a snapshot may lack. -/
def pendingCooldown (pending : Option PendingFeedback) : Option Int :=
  pending.bind (fun entry => entry.feedback.cooldownMillis)

/-- What is retained keeps a target that is ahead, and brings its own. -/
theorem heldUntil_applyPending {state next : QuotaState} {pending : Option PendingFeedback}
    {now target : Int} {unobservedAttempts : Nat}
    (applied : applyPending state pending now unobservedAttempts = .ok next)
    (held : HeldUntil state.cooldownUntil target ∨ HeldUntil (pendingCooldown pending) target) :
    target ≤ now ∨ HeldUntil next.cooldownUntil target := by
  cases pending with
  | none =>
      cases applied
      rcases held with stored | ⟨_, missing, _⟩
      · exact Or.inr stored
      · cases missing
  | some entry =>
      rcases held with stored | reported
      · exact QuotaState.heldUntil_applyFeedback applied stored
      · exact QuotaState.applyFeedback_holds applied reported

/-- A decision on a cooldown that is not over keeps it, and grants only where it
is. -/
theorem settle_paused {state stored : QuotaState} {before attempts left : List QuotaAttempt}
    {group : QuotaGroup} {limits : QuotaLimits} {now target : Int} {decision : QuotaDecision}
    (deciding : quotaDecision before group limits state now now = .ok decision)
    (settling : settle state attempts group limits now decision = .ok (stored, left))
    (kept : target ≤ now ∨ HeldUntil state.cooldownUntil target) :
    (target ≤ now ∨ HeldUntil stored.cooldownUntil target) ∧
      (decision.blocked = false → target ≤ now) := by
  rcases kept with passed | ⟨until_, cooldown, before⟩
  · exact ⟨Or.inl passed, fun _ => passed⟩
  · constructor
    · right
      rcases settle_ok settling with ⟨_, rfl, _⟩ | ⟨_, consuming, _⟩
      · exact ⟨until_, cooldown, before⟩
      · exact QuotaState.heldUntil_consume consuming ⟨until_, cooldown, before⟩
    · intro permitted
      exact before.trans ((permits_of_granted deciding permitted).cooldown until_ cooldown)

/-- A committed reserve keeps every cooldown of the row and of its snapshot
that is not over, and grants only where all of them are. -/
theorem reserveTransaction_cooldown {database next : Database} {group : QuotaGroup}
    {limits : QuotaLimits} {snapshot : ReserveSnapshot} {decision : QuotaDecision} {target : Int}
    (reserved : reserveTransaction database group limits snapshot.wall snapshot.now
      snapshot.pending = .ok (next, decision))
    (held : HeldUntil (database.quotaState group).cooldownUntil target ∨
      HeldUntil (pendingCooldown snapshot.pending) target) :
    (target ≤ snapshot.now ∨ HeldUntil (next.quotaState group).cooldownUntil target) ∧
      (decision.blocked = false → target ≤ snapshot.now) := by
  obtain ⟨advanced, state, stored, left, advancing, applying, deciding, settling, rfl⟩ :=
    reserveTransaction_ok reserved
  have kept : target ≤ snapshot.now ∨ HeldUntil state.cooldownUntil target := by
    rcases held with row | entry
    · rcases QuotaState.heldUntil_advanceDay advancing row with passed | row
      · exact Or.inl passed
      · exact heldUntil_applyPending applying (Or.inl row)
    · exact heldUntil_applyPending applying (Or.inr entry)
  simp only [Function.update_self]
  exact settle_paused deciding settling kept

/-- A committed report leaves its target, and the one it found, in the row. -/
theorem feedbackTransaction_cooldown {database next : Database} {group : QuotaGroup}
    {limits : QuotaLimits} {now : Int} {pending : PendingFeedback} {target : Int}
    (applied : feedbackTransaction database group limits now pending = .ok next)
    (held : HeldUntil (database.quotaState group).cooldownUntil target ∨
      HeldUntil pending.feedback.cooldownMillis target) :
    target ≤ now ∨ HeldUntil (next.quotaState group).cooldownUntil target := by
  obtain ⟨stored, applying, rfl⟩ := feedbackTransaction_ok applied
  simp only [Function.update_self]
  rcases held with row | entry
  · exact QuotaState.heldUntil_applyFeedback applying row
  · exact QuotaState.applyFeedback_holds applying entry

/-! ### The pending entry is dropped only once it is saved -/

/-- What is retained is merged under a new generation. -/
theorem RuntimeState.retain_pending (runtime : RuntimeState) (group : QuotaGroup)
    (feedback : QuotaFeedback) :
    ∃ merged, (runtime.retain group feedback).pending group =
        some { generation := runtime.nextGeneration + 1, feedback := merged } ∧
      (∀ target, HeldUntil feedback.cooldownMillis target →
        HeldUntil merged.cooldownMillis target) ∧
      (∀ target, HeldUntil (pendingCooldown (runtime.pending group)) target →
        HeldUntil merged.cooldownMillis target) := by
  unfold retain
  simp only [Function.update_self]
  cases present : runtime.pending group with
  | none =>
      refine ⟨feedback, rfl, fun _ held => held, ?_⟩
      rintro target ⟨_, missing, _⟩
      cases missing
  | some old =>
      exact ⟨mergeFeedback old.feedback feedback, rfl, fun _ held => held.merge_right _,
        fun _ held => held.merge_left _⟩

/-- No retention reuses the generation of a snapshot in flight. Generations
are 64-bit and wrap, so this fails only where as many retentions fall between
a snapshot and its clear. -/
def GenerationFresh : World → List Event → Prop
  | .closed _, _ => True
  | .running _ session, emitted =>
      ∀ group feedback pending, Event.feedbackRetained group feedback ∈ emitted →
        session.gate.saving = some (group, pending) →
        session.runtime.nextGeneration + 1 ≠ pending.generation

/-- A step that wraps no generation onto one that is being saved. -/
def FreshStep (codec : PayloadCodec) : Relation World Event := fun before emitted after =>
  Step codec before emitted after ∧ GenerationFresh before emitted

/-- A cooldown reported to the process. -/
def Reported (group : QuotaGroup) (seen : List Event) (target : Int) : Prop :=
  ∃ feedback, Event.feedbackRetained group feedback ∈ seen ∧
    feedback.cooldownMillis = some target

/-- Where a reported cooldown is at any moment of a session. -/
structure CooldownsKept (group : QuotaGroup) (seen : List Event) (database : Database)
    (session : Session) : Prop where
  kept : ∀ target, Reported group seen target → target ≤ session.runtime.highWater ∨
    HeldUntil (database.quotaState group).cooldownUntil target ∨
    HeldUntil (pendingCooldown (session.runtime.pending group)) target
  /-- A generation identifies the snapshot in flight. -/
  own : ∀ old entry, session.gate.saving = some (group, old) →
    session.runtime.pending group = some entry → entry.generation = old.generation → entry = old
  saved : ∀ old, session.gate.saved = some (group, old) →
    ∀ target, HeldUntil old.feedback.cooldownMillis target →
      target ≤ session.runtime.highWater ∨
      HeldUntil (database.quotaState group).cooldownUntil target
  /-- Past a granting decision only what was retained since can be ahead. -/
  past : ∀ call provider snapshot decision,
    session.gate.decided call provider snapshot decision → quotaGroup provider = group →
    decision.blocked = false → ∀ target, Reported group seen target →
      target ≤ snapshot.now ∨ ∃ entry, session.runtime.pending group = some entry ∧
        HeldUntil entry.feedback.cooldownMillis target ∧
        ∀ old, session.gate.saving = some (group, old) → entry.generation ≠ old.generation

/-- Without a report, what was reported was reported before. -/
theorem reported_append_of_quiet {group : QuotaGroup} {seen emitted : List Event} {target : Int}
    (quiet : ∀ feedback, Event.feedbackRetained group feedback ∉ emitted)
    (reported : Reported group (seen ++ emitted) target) : Reported group seen target := by
  obtain ⟨feedback, member, cooldown⟩ := reported
  rcases List.mem_append.mp member with earlier | here
  · exact ⟨feedback, earlier, cooldown⟩
  · exact absurd here (quiet feedback)

namespace CooldownsKept

variable {codec : PayloadCodec} {group : QuotaGroup} {seen emitted : List Event}
  {database next : Database} {session following : Session}

/-- Nothing is reported at the start of a session. -/
theorem fresh (group : QuotaGroup) (database : Database) (settings : Settings)
    (highWater : Int) : CooldownsKept group [] database (.fresh settings highWater) where
  kept := by
    rintro target ⟨_, member, _⟩
    cases member
  own := by
    intro old entry saving
    cases saving
  saved := by
    intro old saved
    cases saved
  past := by
    rintro call provider snapshot decision (held | held) <;> cases held

/-- What is reported, the row, the pending entry and the gate are all that a
cooldown depends on. -/
theorem frame (before : CooldownsKept group seen database session)
    (quiet : ∀ feedback, Event.feedbackRetained group feedback ∉ emitted)
    (row : next.quotaState group = database.quotaState group)
    (pending : following.runtime.pending group = session.runtime.pending group)
    (clock : session.runtime.highWater ≤ following.runtime.highWater)
    (within : following.gate.Within session.gate) :
    CooldownsKept group (seen ++ emitted) next following := by
  refine ⟨?_, ?_, ?_, ?_⟩
  · intro target reported
    rw [pending, row]
    rcases before.kept target (reported_append_of_quiet quiet reported) with passed | held
    · exact Or.inl (passed.trans clock)
    · exact Or.inr held
  · intro old entry saving
    rw [pending]
    exact before.own old entry (within.saving _ saving)
  · intro old saved target held
    rw [row]
    rcases before.saved old (within.saved _ saved) target held with passed | stored
    · exact Or.inl (passed.trans clock)
    · exact Or.inr stored
  · intro call provider snapshot decision decided own permitted target reported
    rw [pending]
    rcases before.past call provider snapshot decision (within.decided _ _ _ _ decided) own
      permitted target (reported_append_of_quiet quiet reported) with
      passed | ⟨entry, present, held, ahead⟩
    · exact Or.inl passed
    · exact Or.inr ⟨entry, present, held, fun old saving => ahead old (within.saving _ saving)⟩

/-- A retention adds its cooldown to the pending entry, under a generation that
no snapshot in flight has. -/
theorem retain (before : CooldownsKept group seen database session) {call : CallId}
    {provider : ProviderId} {feedback : QuotaFeedback}
    (fresh : ∀ old, session.gate.saving = some (quotaGroup provider, old) →
      session.runtime.nextGeneration + 1 ≠ old.generation)
    (runtime : following.runtime = session.runtime.retain (quotaGroup provider) feedback)
    (gate : following.gate = session.gate) :
    CooldownsKept group (seen ++ [.callStarted call (.feedback provider),
      .feedbackRetained (quotaGroup provider) feedback]) database following := by
  by_cases same : quotaGroup provider = group
  · subst same
    obtain ⟨merged, present, fromNew, fromOld⟩ :=
      session.runtime.retain_pending (quotaGroup provider) feedback
    have split : ∀ target, Reported (quotaGroup provider) (seen ++
        [.callStarted call (.feedback provider), .feedbackRetained (quotaGroup provider) feedback])
          target → Reported (quotaGroup provider) seen target ∨
            HeldUntil merged.cooldownMillis target := by
      rintro target ⟨reported, member, cooldown⟩
      simp only [List.mem_append, List.mem_cons, reduceCtorEq, Event.feedbackRetained.injEq,
        true_and, List.not_mem_nil, or_false, false_or] at member
      rcases member with earlier | rfl
      · exact Or.inl ⟨reported, earlier, cooldown⟩
      · exact Or.inr (fromNew target ⟨target, cooldown, le_refl _⟩)
    refine ⟨?_, ?_, ?_, ?_⟩
    · intro target reported
      rw [runtime, present]
      rcases split target reported with earlier | held
      · rcases before.kept target earlier with passed | row | pending
        · exact Or.inl passed
        · exact Or.inr (Or.inl row)
        · exact Or.inr (Or.inr (fromOld target pending))
      · exact Or.inr (Or.inr held)
    · intro old entry saving holds equal
      rw [gate] at saving
      rw [runtime, present] at holds
      cases holds
      exact absurd equal (fresh old saving)
    · intro old saved target held
      rw [gate] at saved
      rw [runtime]
      exact before.saved old saved target held
    · intro asked other snapshot decision decided own permitted target reported
      rw [gate] at decided ⊢
      rw [runtime, present]
      rcases split target reported with earlier | held
      · rcases before.past asked other snapshot decision decided own permitted target earlier with
          passed | ⟨entry, pending, held, _⟩
        · exact Or.inl passed
        · refine Or.inr ⟨_, rfl, fromOld target ?_, fresh⟩
          rw [pending]
          exact held
      · exact Or.inr ⟨_, rfl, held, fresh⟩
  · have others : following.runtime.pending group = session.runtime.pending group := by
      rw [runtime]
      exact RuntimeState.retain_of_ne (Ne.symm same) feedback
    have quiet : ∀ reported, Event.feedbackRetained group reported ∉
        [.callStarted call (.feedback provider),
          .feedbackRetained (quotaGroup provider) feedback] := by
      intro reported member
      simp only [List.mem_cons, reduceCtorEq, Event.feedbackRetained.injEq, List.not_mem_nil,
        or_false, false_or] at member
      exact same member.1.symm
    exact before.frame quiet rfl others (by rw [runtime]; rfl) (gate ▸ .refl _)

/-- Taking a snapshot of what is pending. -/
theorem snapshot (before : CooldownsKept group seen database session)
    (pending : following.runtime.pending = session.runtime.pending)
    (clock : session.runtime.highWater ≤ following.runtime.highWater)
    (taken : ∀ old, following.gate.saving = some (group, old) →
      session.runtime.pending group = some old)
    (unsaved : following.gate.saved = none)
    (undecided : ∀ call provider snapshot decision,
      ¬ following.gate.decided call provider snapshot decision) :
    CooldownsKept group (seen ++ []) database following := by
  rw [List.append_nil]
  refine ⟨?_, ?_, ?_, ?_⟩
  · intro target reported
    rw [pending]
    rcases before.kept target reported with passed | held
    · exact Or.inl (passed.trans clock)
    · exact Or.inr held
  · intro old entry saving present _
    rw [pending, taken old saving] at present
    exact (Option.some.inj present).symm
  · intro old saved
    rw [unsaved] at saved
    cases saved
  · intro call provider snapshot decision decided
    exact absurd decided (undecided call provider snapshot decision)

/-- A commit of the group moves the snapshot of the gate into the row. -/
theorem commit (before : CooldownsKept group seen database session)
    (quiet : ∀ feedback, Event.feedbackRetained group feedback ∉ emitted)
    (runtime : following.runtime = session.runtime)
    (saving : following.gate.saving = session.gate.saving)
    (row : ∀ target, HeldUntil (database.quotaState group).cooldownUntil target →
      target ≤ session.runtime.highWater ∨ HeldUntil (next.quotaState group).cooldownUntil target)
    (moved : ∀ old, session.gate.saving = some (group, old) →
      ∀ target, HeldUntil old.feedback.cooldownMillis target →
        target ≤ session.runtime.highWater ∨
        HeldUntil (next.quotaState group).cooldownUntil target)
    (past : ∀ call provider snapshot decision,
      following.gate.decided call provider snapshot decision → quotaGroup provider = group →
      decision.blocked = false → session.runtime.highWater = snapshot.now ∧
        ∀ target, HeldUntil (database.quotaState group).cooldownUntil target ∨
          HeldUntil (pendingCooldown snapshot.pending) target → target ≤ snapshot.now)
    (snapped : ∀ call provider snapshot decision,
      following.gate.decided call provider snapshot decision → quotaGroup provider = group →
      ∀ old, session.gate.saving = some (group, old) → snapshot.pending = some old) :
    CooldownsKept group (seen ++ emitted) next following := by
  refine ⟨?_, ?_, ?_, ?_⟩
  · intro target reported
    rw [runtime]
    rcases before.kept target (reported_append_of_quiet quiet reported) with passed | stored | held
    · exact Or.inl passed
    · rcases row target stored with passed | stored
      · exact Or.inl passed
      · exact Or.inr (Or.inl stored)
    · exact Or.inr (Or.inr held)
  · rw [runtime, saving]
    exact before.own
  · intro old saved target held
    rw [runtime]
    refine moved old ?_ target held
    rw [← saving]
    exact Gate.saving_of_saved saved
  · intro call provider snapshot decision decided own permitted target reported
    obtain ⟨clock, granted⟩ := past call provider snapshot decision decided own permitted
    rw [runtime, saving]
    rcases before.kept target (reported_append_of_quiet quiet reported) with passed | stored | held
    · exact Or.inl (passed.trans clock.le)
    · exact Or.inl (granted target (Or.inl stored))
    · obtain ⟨until_, inside, later⟩ := held
      cases present : session.runtime.pending group with
      | none => rw [present] at inside; cases inside
      | some entry =>
          rw [present] at inside
          by_cases mine : ∃ old, session.gate.saving = some (group, old) ∧
              entry.generation = old.generation
          · -- the snapshot itself is what is pending, and the decision has seen it
            obtain ⟨old, inFlight, equal⟩ := mine
            have same := before.own old entry inFlight present equal
            subst same
            left
            refine granted target (Or.inr ⟨until_, ?_, later⟩)
            rw [snapped call provider snapshot decision decided own entry inFlight]
            exact inside
          · exact Or.inr ⟨entry, rfl, ⟨until_, inside, later⟩,
              fun old inFlight equal => mine ⟨old, inFlight, equal⟩⟩

/-- A reserve commits the cooldowns it found retained. -/
theorem reserveCommitted (before : CooldownsKept group seen database session) {call : CallId}
    {provider : ProviderId} {snapshot : ReserveSnapshot} {decision : QuotaDecision}
    (held : session.gate = .reserving call provider snapshot)
    (time : session.runtime.highWater = snapshot.now)
    (reserves : reserveTransaction database (quotaGroup provider)
      (session.settings.limits provider) snapshot.wall snapshot.now snapshot.pending =
        .ok (next, decision))
    (runtime : following.runtime = session.runtime)
    (gate : following.gate = .reserved call provider snapshot decision) :
    CooldownsKept group
      (seen ++ (appliedFeedback (quotaGroup provider) snapshot.pending snapshot.now ++
        grantedReservation call (quotaGroup provider) snapshot.now decision)) next following := by
  refine before.commit ?_ runtime (by rw [gate, held]; rfl) ?_ ?_ ?_ ?_
  · exact reservation_unretained _ _ _ _ _ _
  · intro target stored
    by_cases same : quotaGroup provider = group
    · subst same
      rw [time]
      exact (reserveTransaction_cooldown reserves (Or.inl stored)).1
    · rw [reserveTransaction_of_ne (Ne.symm same) reserves]
      exact Or.inr stored
  · intro old saving target reported
    obtain ⟨rfl, present⟩ := Gate.saving_reserving.mp (held ▸ saving)
    rw [time]
    refine (reserveTransaction_cooldown reserves (Or.inr ?_)).1
    rw [present]
    exact reported
  · rw [gate]
    rintro asked other taken settled (same | same) own permitted <;> cases same
    subst own
    exact ⟨time, fun target stored => (reserveTransaction_cooldown reserves stored).2 permitted⟩
  · rw [gate]
    rintro asked other taken settled (same | same) own old saving <;> cases same
    exact (Gate.saving_reserving.mp (held ▸ saving)).2

/-- A committed report leaves its cooldowns in the row. -/
theorem feedbackCommitted (before : CooldownsKept group seen database session) {call : CallId}
    {provider : ProviderId} {now : Int} {pending : PendingFeedback}
    (held : session.gate = .applying call provider now pending)
    (time : session.runtime.highWater = now)
    (applies : feedbackTransaction database (quotaGroup provider)
      (session.settings.limits provider) now pending = .ok next)
    (runtime : following.runtime = session.runtime)
    (gate : following.gate = .applied call provider pending) :
    CooldownsKept group (seen ++ appliedFeedback (quotaGroup provider) (some pending) now) next
      following := by
  refine before.commit ?_ runtime (by rw [gate, held]; rfl) ?_ ?_ ?_ ?_
  · exact appliedFeedback_unretained _ _ _ _
  · intro target stored
    by_cases same : quotaGroup provider = group
    · subst same
      rw [time]
      exact feedbackTransaction_cooldown applies (Or.inl stored)
    · rw [feedbackTransaction_of_ne (Ne.symm same) applies]
      exact Or.inr stored
  · intro old saving target reported
    obtain ⟨rfl, rfl⟩ := Gate.saving_applying.mp (held ▸ saving)
    rw [time]
    exact feedbackTransaction_cooldown applies (Or.inr reported)
  · rw [gate]
    rintro asked other taken settled (same | same) <;> cases same
  · rw [gate]
    rintro asked other taken settled (same | same) <;> cases same

/-- Clearing drops at most the entry the row now holds. -/
theorem clear (before : CooldownsKept group seen database session) {provider : ProviderId}
    {saved : Option PendingFeedback}
    (own : session.gate.saved = saved.map (fun old => (quotaGroup provider, old)))
    (clock : following.runtime = session.runtime.clearPending (quotaGroup provider) saved)
    (cleared : following.gate.saving = none)
    (decided : ∀ call asked snapshot decision,
      following.gate.decided call asked snapshot decision →
      session.gate.decided call asked snapshot decision) :
    CooldownsKept group (seen ++ []) database following := by
  have within : following.gate.Within session.gate := .of_cleared cleared decided
  have same : following.runtime.highWater = session.runtime.highWater := by
    rw [clock, RuntimeState.clearPending_highWater]
  by_cases kept : following.runtime.pending group = session.runtime.pending group
  · exact before.frame (fun _ => List.not_mem_nil) rfl kept same.ge within
  · -- the entry is dropped: it is the snapshot itself, which the row holds
    rw [clock] at kept
    obtain ⟨rfl, old, entry, rfl, present, equal⟩ := RuntimeState.of_clearPending_ne kept
    have committed := own.trans (Option.map_some ..)
    have inFlight := Gate.saving_of_saved committed
    have mine := before.own old entry inFlight present equal
    subst mine
    rw [List.append_nil]
    refine ⟨?_, ?_, ?_, ?_⟩
    · intro target reported
      rw [same]
      rcases before.kept target reported with passed | row | ⟨until_, inside, later⟩
      · exact Or.inl passed
      · exact Or.inr (Or.inl row)
      · rw [present] at inside
        rcases before.saved entry committed target ⟨until_, inside, later⟩ with passed | row
        · exact Or.inl passed
        · exact Or.inr (Or.inl row)
    · intro old other saving
      rw [cleared] at saving
      cases saving
    · intro old saved
      exact absurd (cleared.symm.trans (Gate.saving_of_saved saved)) nofun
    · intro call asked snapshot decision after mine permitted target reported
      rcases before.past call asked snapshot decision (decided _ _ _ _ after) mine permitted
        target reported with passed | ⟨other, holds, _, ahead⟩
      · exact Or.inl passed
      · rw [present] at holds
        cases holds
        exact absurd rfl (ahead entry inFlight)

end CooldownsKept

section Run

variable {codec : PayloadCodec} {group : QuotaGroup} {seen emitted trace : List Event}
  {database current : Database} {session following : Session} {start after : World}

/-- Every step keeps the reported cooldowns. -/
theorem CooldownsKept.step (before : CooldownsKept group seen database session)
    (clocked : (World.running database session).Clocked)
    (taken : FreshStep codec (.running database session) emitted after)
    (open_ : Event.closed ∉ emitted) :
    ∃ next following, after = .running next following ∧
      CooldownsKept group (seen ++ emitted) next following := by
  obtain ⟨taken, fresh⟩ := taken
  obtain ⟨rfl, _⟩ | ⟨next, following, rfl, _, move⟩ := taken.move
  · exact absurd (List.mem_singleton.mpr rfl) open_
  refine ⟨next, following, rfl, ?_⟩
  cases move with
  | idle idle =>
      exact before.frame (idle.unretained group) (by rw [idle.accounts.quotaState])
        (by rw [idle.pending]) idle.clock idle.within
  | retained call provider feedback runtime gate =>
      refine before.retain ?_ runtime gate
      intro old saving
      exact fresh _ feedback old (by simp) saving
  | reserveSnapshot call provider wall free runtime gate =>
      refine before.snapshot (by rw [runtime]; rfl)
        (by rw [runtime]; exact session.runtime.highWater_le_observe wall) ?_ (by rw [gate]; rfl) ?_
      · intro old saving
        obtain ⟨rfl, present⟩ := Gate.saving_reserving.mp (gate ▸ saving)
        exact present
      · rw [gate]
        rintro call other snapshot decision (held | held) <;> cases held
  | feedbackSnapshot call provider wall pending free runtime unsaved gate =>
      refine before.snapshot (by rw [runtime]; rfl)
        (by rw [runtime]; exact session.runtime.highWater_le_observe wall) ?_ (by rw [gate]; rfl) ?_
      · intro old saving
        obtain ⟨rfl, rfl⟩ := Gate.saving_applying.mp (gate ▸ saving)
        exact unsaved
      · rw [gate]
        rintro call other snapshot decision (held | held) <;> cases held
  | reserveCommitted call provider snapshot decision held reserves runtime gate =>
      obtain ⟨_, time⟩ := clocked
      rw [held] at time
      exact before.reserveCommitted held time.2 reserves runtime gate
  | feedbackCommitted call provider now pending held applies runtime gate =>
      obtain ⟨_, time⟩ := clocked
      rw [held] at time
      exact before.feedbackCommitted held time.2 applies runtime gate
  | reserveCleared call provider snapshot decision held runtime gate =>
      apply before.clear (by rw [held]; rfl) runtime (by rw [gate]; rfl)
      rw [gate]
      rintro asked other taken settled (same | same) <;> cases same
      exact Or.inl held
  | feedbackCleared call provider pending held runtime gate =>
      have own : session.gate.saved =
          (some pending).map (fun old => (quotaGroup provider, old)) := by
        rw [held]
        rfl
      apply before.clear own runtime (by rw [gate]; rfl)
      rw [gate]
      rintro asked other taken settled (same | same) <;> cases same

/-- A session keeps every cooldown that is reported in it. -/
theorem cooldownsKept {settings : Settings} {highWater : Int}
    (run : Run (FreshStep codec) (.running database (.fresh settings highWater)) trace
      (.running current session))
    (clocked : (World.running database (.fresh settings highWater)).Clocked)
    (oneProcess : Event.closed ∉ trace) (group : QuotaGroup) :
    CooldownsKept group trace current session := by
  have always := run.invariant (fun seen world => Event.closed ∉ seen →
    ∃ reached following, world = .running reached following ∧
      CooldownsKept group seen reached following) ?_ ?_
  · obtain ⟨_, _, same, kept⟩ := always oneProcess
    cases same
    exact kept
  · exact fun _ => ⟨_, _, rfl, .fresh group database settings highWater⟩
  · intro seen before emitted after previous kept taken oneProcess
    rw [List.mem_append, not_or] at oneProcess
    obtain ⟨_, _, rfl, still⟩ := kept oneProcess.1
    have ahead := clocked_run (previous.mono fun _ _ _ step => step.1) clocked
    exact still.step ahead taken oneProcess.2

/-- **No reservation past a received cooldown.** Unless a retention reuses the
generation of a snapshot in flight, a granted reservation leaves nothing
pending and lies at or after every cooldown target reported to the process. -/
theorem granted_cooldown {file : Option Database} {settings : Settings}
    {opening wall : DateTime} {effective : Int} {call : CallId} {provider : ProviderId}
    (opened : Step codec (.closed file) [.opened settings opening effective] start)
    (run : Run (FreshStep codec) start trace (.running current session))
    (oneProcess : Event.closed ∉ trace)
    (taken : Step codec (.running current session) emitted after)
    (answered : Event.reserveReturned call provider wall (.ok ()) ∈ emitted) :
    session.runtime.pending (quotaGroup provider) = none ∧
      ∀ feedback, Event.feedbackRetained (quotaGroup provider) feedback ∈ trace →
        ∀ target, feedback.cooldownUntil = some target →
          target.timestampMillis ≤ wall.timestampMillis := by
  have clocked := opened.clocked trivial
  cases opened with
  | opened reconciled =>
      have kept := cooldownsKept run clocked oneProcess (quotaGroup provider)
      obtain ⟨_, _, snapshot, decision, same, held, rfl, permitted, saved, _⟩ :=
        taken.of_grant answered
      cases same
      refine ⟨saved, ?_⟩
      intro feedback retained target cooldown
      have reported : Reported (quotaGroup provider) trace target.timestampMillis :=
        ⟨feedback, retained, by rw [QuotaFeedback.cooldownMillis, cooldown, Option.map_some]⟩
      rcases kept.past call provider snapshot decision (Or.inr held) rfl permitted _ reported with
        passed | ⟨entry, pending, _⟩
      · exact passed
      · rw [saved] at pending
        cases pending

/-- With nothing being saved, a step wraps onto nothing. -/
theorem Step.fresh (taken : Step codec (.running database session) emitted after)
    (idle : session.gate.saving = none) :
    FreshStep codec (.running database session) emitted after :=
  ⟨taken, fun _ _ _ _ saving => absurd (idle.symm.trans saving) nofun⟩

/-- Without a report, a step wraps onto nothing. -/
theorem Step.fresh_of_unretained
    (taken : Step codec (.running database session) emitted after)
    (quiet : ∀ group feedback, Event.feedbackRetained group feedback ∉ emitted) :
    FreshStep codec (.running database session) emitted after :=
  ⟨taken, fun _ _ _ retained _ => absurd retained (quiet _ _)⟩

/-- A report of a cooldown alone. -/
def QuotaFeedback.cooldown (target : Option DateTime) : QuotaFeedback where
  cooldownUntil := target
  unknownReset := false
  remaining := none
  resetAt := none

/-- A cooldown that ends where a reservation starts. -/
def endedCooldown : List Event :=
  [.callStarted 0 (.feedback .abuseipdb),
    .feedbackRetained .abuseipdbCheck (.cooldown (some .epoch)),
    .callStarted 1 (.reserve .abuseipdb),
    .feedbackCommitted .abuseipdbCheck (.cooldown (some .epoch)) 0,
    .reservationCommitted 1 .abuseipdbCheck 0]

/-- After an ended cooldown there is nothing left to wait for. -/
theorem granted_cooldown_ended :
    ∃ session : Session, session.runtime.pending .abuseipdbCheck = none ∧
      ∀ feedback, Event.feedbackRetained .abuseipdbCheck feedback ∈ endedCooldown →
        ∀ target, feedback.cooldownUntil = some target →
          target.timestampMillis ≤ DateTime.epoch.timestampMillis := by
  have run : Run (FreshStep .blank) .first [] .first := .refl
  have run := run.snoc (Step.fresh (.retained .abuseipdb (.cooldown (some .epoch))) rfl)
  have run := run.snoc (Step.fresh (.started (.reserve .abuseipdb) (fun _ => nofun) trivial) rfl)
  have run := run.snoc (Step.fresh (@Step.reserveSnapshot _ _ _ [_] [] _ _ .epoch rfl rfl
    (by decide)) rfl)
  have run := run.snoc (Step.fresh_of_unretained (.reserveCommitted rfl rfl)
    fun group => reservation_unretained _ group _ _ _ _)
  have run := run.snoc (Step.fresh_of_unretained (.reserveCleared rfl)
    fun _ _ => List.not_mem_nil)
  have run : Run (FreshStep .blank) .first endedCooldown _ := run
  have granted := granted_cooldown (first_opened .blank) run (by simp [endedCooldown])
    (Step.grants rfl rfl rfl) (List.mem_singleton.mpr rfl)
  exact ⟨_, granted⟩

/-- Any number of retentions, each under the next generation. -/
theorem retentions (database : Database) (session : Session) (provider : ProviderId)
    (feedback : QuotaFeedback) (count : Nat) :
    ∃ trace following,
      Run (Step codec) (.running database session) trace (.running database following) ∧
      Event.closed ∉ trace ∧ following.settings = session.settings ∧
      following.gate = session.gate ∧
      following.runtime.nextGeneration = session.runtime.nextGeneration + UInt64.ofNat count ∧
      (0 < count → Event.feedbackRetained (quotaGroup provider) feedback ∈ trace ∧
        ∃ merged, following.runtime.pending (quotaGroup provider) =
          some { generation := following.runtime.nextGeneration, feedback := merged }) := by
  induction count with
  | zero => exact ⟨[], session, .refl, by simp, rfl, rfl, by simp, by simp⟩
  | succ count ih =>
      obtain ⟨trace, following, run, open_, settings, gate, generation, _⟩ := ih
      obtain ⟨merged, present, _⟩ :=
        following.runtime.retain_pending (quotaGroup provider) feedback
      refine ⟨_, _, run.snoc (.retained provider feedback), ?_, settings, gate, ?_, ?_⟩
      · simp [open_]
      · change following.runtime.nextGeneration + 1 = _
        rw [generation, UInt64.ofNat_add, UInt64.add_assoc]
        rfl
      · intro _
        exact ⟨by simp, merged, present⟩

/-- A reserve that found a report of nothing. -/
def emptySnapshot : ReserveSnapshot where
  wall := .epoch
  pending := some { generation := 1, feedback := .cooldown none }

/-- A reserve holds a snapshot without a cooldown. -/
theorem emptySnapshot_run (codec : PayloadCodec) :
    ∃ trace session, Run (Step codec) .first trace (.running (.create .epoch) session) ∧
      Event.closed ∉ trace ∧ session.gate = .reserving 1 .abuseipdb emptySnapshot ∧
      session.settings = .single ∧ session.runtime.nextGeneration = 1 := by
  have run : Run (Step codec) .first [] .first := .refl
  have run := run.snoc (.retained .abuseipdb (.cooldown none))
  have run := run.snoc (.started (.reserve .abuseipdb) (fun _ => nofun) trivial)
  have run := run.snoc (@Step.reserveSnapshot _ _ _ [_] [] _ _ .epoch rfl rfl (by decide))
  exact ⟨_, _, run, by simp, rfl, rfl, rfl⟩

/-- It is granted. -/
theorem emptySnapshot_granted :
    ∃ next, reserveTransaction (.create .epoch) (quotaGroup .abuseipdb)
      (Settings.single.limits .abuseipdb) emptySnapshot.wall emptySnapshot.now
      emptySnapshot.pending = .ok (next, { blocked := false, retryAfter := none }) :=
  ⟨_, rfl⟩

/-- The generations of 2 ^ 64 retentions come back to the one a reserve has
taken its snapshot at. Its clear then drops a cooldown no row holds, and it
answers `Ok` an hour before the cooldown ends. -/
theorem granted_cooldown_generations_wrap :
    ¬ ∀ (codec : PayloadCodec) (file : Option Database) (settings : Settings)
        (opening wall : DateTime) (effective : Int) (start after : World) (current : Database)
        (session : Session) (trace emitted : List Event) (call : CallId) (provider : ProviderId),
      Step codec (.closed file) [.opened settings opening effective] start →
      Run (Step codec) start trace (.running current session) →
      Event.closed ∉ trace →
      Step codec (.running current session) emitted after →
      Event.reserveReturned call provider wall (.ok ()) ∈ emitted →
      session.runtime.pending (quotaGroup provider) = none ∧
        ∀ feedback, Event.feedbackRetained (quotaGroup provider) feedback ∈ trace →
          ∀ target, feedback.cooldownUntil = some target →
            target.timestampMillis ≤ wall.timestampMillis := by
  intro claim
  obtain ⟨front, early, first, frontOpen, held, single, one⟩ := emptySnapshot_run .blank
  obtain ⟨back, session, late, backOpen, settings, gate, generation, retained⟩ :=
    retentions (.create .epoch) early .abuseipdb (.cooldown (some hourAfter)) (2 ^ 64)
  obtain ⟨reported, merged, present⟩ := retained (by decide)
  have wraps : (1 : UInt64) + UInt64.ofNat (2 ^ 64) = 1 := by decide
  rw [one, wraps] at generation
  rw [generation] at present
  obtain ⟨next, granting⟩ := emptySnapshot_granted
  have run := first.append late
  rw [← single, ← settings] at granting
  have run := run.snoc (.reserveCommitted (gate.trans held) granting)
  have run := run.snoc (.reserveCleared rfl)
  have cleared : (session.runtime.clearPending (quotaGroup .abuseipdb)
      emptySnapshot.pending).pending (quotaGroup .abuseipdb) = none := by
    simp [RuntimeState.clearPending, emptySnapshot, present]
  have respected := (claim .blank none .single .epoch .epoch 0 .first _ _ _ _ _ 1 .abuseipdb
    (first_opened .blank) run
    (by simp [frontOpen, backOpen, emptySnapshot, appliedFeedback, grantedReservation])
    (Step.grants rfl cleared rfl) (List.mem_singleton.mpr rfl)).2 (.cooldown (some hourAfter))
    (by simp [reported]) hourAfter rfl
  exact absurd respected (by decide)

end Run

end RustEnrich.Storage
