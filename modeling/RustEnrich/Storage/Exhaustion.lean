import RustEnrich.Storage.Reservations

/-!
# Exhausted allowances end

A row never holds an exhausted allowance without a time at which it is looked at
again: the reset of the provider's window, or a cooldown.
-/

namespace RustEnrich.Storage

open Transitions

namespace QuotaState

/-- An exhausted allowance comes with a reset or a cooldown. -/
def Ends (state : QuotaState) : Prop :=
  state.providerRemaining = some 0 → state.providerResetAt ≠ none ∨ state.cooldownUntil ≠ none

variable {state next : QuotaState} {feedback : QuotaFeedback} {now : Int}

/-- With something left nothing has to end. -/
theorem ends_of_left (left : state.providerRemaining ≠ some 0) : state.Ends :=
  fun exhausted => absurd exhausted left

/-- A fresh row has nothing to end. -/
theorem ends_fresh (today : Int) : (fresh today).Ends :=
  ends_of_left nofun

/-- An expired reset takes the exhaustion with it. -/
theorem ends_expireReset (ends : state.Ends) (now : Int) : (state.expireReset now).Ends := by
  unfold expireReset
  split
  · exact ends_of_left nofun
  · exact ends

/-- An expired cooldown takes the exhaustion with it. -/
theorem ends_expireCooldown (ends : state.Ends) (now : Int) : (state.expireCooldown now).Ends := by
  unfold expireCooldown
  split
  · intro exhausted
    left
    cases window : state.providerResetAt with
    | some reset => exact nofun
    | none =>
        -- without a window the end of the cooldown forgets an exhaustion
        simp only [window, Option.isNone_none, true_and] at exhausted
        split at exhausted
        · cases exhausted
        · exact absurd exhausted ‹_›
  · exact ends

/-- Expiry leaves no exhaustion without an end. -/
theorem ends_expireFeedback (ends : state.Ends) (now : Int) : (state.expireFeedback now).Ends :=
  ends_expireCooldown (ends_expireReset ends now) now

/-- A new day leaves no exhaustion without an end. -/
theorem ends_startDay (ends : state.Ends) (today : Int) : (state.startDay today).Ends := by
  intro exhausted
  unfold startDay at exhausted ⊢
  dsimp only at exhausted ⊢
  split at exhausted
  · cases exhausted
  · exact ends exhausted

/-- A reported cooldown leaves no exhaustion without an end. -/
theorem ends_applyCooldown (ends : state.Ends) (feedback : QuotaFeedback) (now : Int) :
    (state.applyCooldown feedback now).Ends := by
  intro exhausted
  rw [applyCooldown_providerRemaining] at exhausted
  rw [applyCooldown_providerResetAt]
  refine (ends exhausted).imp_right fun held => ?_
  unfold applyCooldown
  split
  · exact held
  · split
    · exact nofun
    · split <;> exact held

/-- The fallback gives an exhausted allowance its end. -/
theorem ends_ensureUnknownCooldown (state : QuotaState) (now : Int) :
    (state.ensureUnknownCooldown now).Ends := by
  unfold ensureUnknownCooldown
  split
  · exact fun _ => Or.inr nofun
  · rename_i bounded
    intro exhausted
    by_contra endless
    rw [not_or, not_not, not_not] at endless
    exact bounded ⟨exhausted, endless.1, endless.2⟩

/-- A row that advances has no exhaustion without an end. -/
theorem ends_advanceDay {wall : DateTime} (ends : state.Ends)
    (advanced : state.advanceDay wall = .ok next) : next.Ends := by
  obtain ⟨_, _, ⟨_, rfl⟩ | ⟨_, rfl⟩⟩ := advanceDay_ok advanced
  · exact ends_expireFeedback ends _
  · exact ends_expireFeedback (ends_startDay ends _) _

/-- A report leaves no exhaustion without an end. -/
theorem ends_applyFeedback {unobservedAttempts : Nat} (ends : state.Ends)
    (applied : state.applyFeedback feedback now unobservedAttempts = .ok next) : next.Ends := by
  rcases applyFeedback_ok applied with ⟨_, rfl⟩ | ⟨_, rfl⟩
  · exact ends_applyCooldown (ends_expireFeedback ends now) feedback now
  · exact ends_ensureUnknownCooldown _ now

/-- A reservation leaves no exhaustion without an end. -/
theorem ends_consume (consumed : state.consume now = .ok next) : next.Ends := by
  unfold consume at consumed
  split at consumed
  · cases consumed
  · cases consumed
    exact ends_ensureUnknownCooldown _ now

end QuotaState

/-- A committed reserve leaves no exhaustion without an end. -/
theorem reserveTransaction_ends {database next : Database} {group : QuotaGroup}
    {limits : QuotaLimits} {wall : DateTime} {now : Int} {pending : Option PendingFeedback}
    {decision : QuotaDecision} (ends : (database.quotaState group).Ends)
    (reserved : reserveTransaction database group limits wall now pending =
      .ok (next, decision)) : (next.quotaState group).Ends := by
  obtain ⟨advanced, state, stored, left, advancing, applying, _, settling, rfl⟩ :=
    reserveTransaction_ok reserved
  simp only [Function.update_self]
  have fresh := QuotaState.ends_advanceDay ends advancing
  have kept : state.Ends := by
    cases pending with
    | none =>
        cases applying
        exact fresh
    | some entry => exact QuotaState.ends_applyFeedback fresh applying
  rcases settle_ok settling with ⟨_, rfl, _⟩ | ⟨_, consuming, _⟩
  · exact kept
  · exact QuotaState.ends_consume consuming

/-- An end of every exhaustion is an invariant of the accounts. -/
theorem exhaustion_invariant (codec : PayloadCodec) (start : World) :
    AccountsInvariant codec start (fun _ database => ∀ group, (database.quotaState group).Ends)
    where
  kept := by
    intro _ _ database next ends same _
    rw [same.quotaState]
    exact ends
  reserved := by
    intro _ database next session call provider snapshot decision _ _ reserves ends other
    by_cases same : other = quotaGroup provider
    · subst same
      exact reserveTransaction_ends (ends _) reserves
    · rw [reserveTransaction_of_ne same reserves]
      exact ends other
  applied := by
    intro _ database next session provider now pending _ _ applies ends other
    by_cases same : other = quotaGroup provider
    · subst same
      obtain ⟨stored, applying, rfl⟩ := feedbackTransaction_ok applies
      simp only [Function.update_self]
      exact QuotaState.ends_applyFeedback (ends _) applying
    · rw [feedbackTransaction_of_ne same applies]
      exact ends other

/-- In every reachable database an exhausted allowance has an end. -/
theorem exhaustion_ends {codec : PayloadCodec} {trace : List Event} {world : World}
    (run : Run (Step codec) (.closed none) trace world) {database : Database}
    (stored : world.database = some database) (group : QuotaGroup) :
    (database.quotaState group).Ends :=
  (exhaustion_invariant codec (.closed none)).run run trivial
    (fun _ _ _ => QuotaState.ends_fresh _) (fun _ => nofun) stored group

end RustEnrich.Storage
