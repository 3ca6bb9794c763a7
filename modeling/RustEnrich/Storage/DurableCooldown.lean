import RustEnrich.Storage.Cooldown
import RustEnrich.Storage.Allowance

/-!
# Committed cooldowns

A cooldown that is in the row outlives the process that stored it. Until it is
over no transaction of any session reserves an attempt of the group, and the
durable clock keeps a later session from going back behind it.
-/

namespace RustEnrich.Storage

open Transitions

variable {codec : PayloadCodec} {start before after world : World}
  {trace later emitted : List Event} {group : QuotaGroup} {target : Int}

/-- Nothing of the group was reserved before a time, and nothing can be. -/
structure Paused (group : QuotaGroup) (target : Int) (reservations : List Reservation)
    (database : Database) : Prop where
  past : ∀ reservation ∈ reservations, reservation.group = group → target ≤ reservation.now
  row : target ≤ database.clockHighWater ∨
    HeldUntil (database.quotaState group).cooldownUntil target

/-- A granted reservation lies past a time its decision respected. -/
theorem past_grantedReservation {other : QuotaGroup} {now : Int} {call : CallId}
    {decision : QuotaDecision}
    (respected : other = group → decision.blocked = false → target ≤ now) :
    ∀ reservation ∈ committed (grantedReservation call other now decision),
      reservation.group = group → target ≤ reservation.now := by
  intro reservation member same
  rw [committed_grantedReservation] at member
  split at member
  · cases member
  · rename_i permitted
    obtain rfl := List.mem_singleton.mp member
    exact respected same (Bool.eq_false_of_not_eq_true permitted)

/-- A committed pause is an invariant of the accounts. -/
theorem paused_invariant (codec : PayloadCodec) (start : World) (group : QuotaGroup)
    (target : Int) :
    AccountsInvariant codec start (fun seen database =>
      Paused group target (start.unanswered ++ committed seen) database) where
  kept := by
    intro seen emitted database next paused same quiet
    rw [committed_append, quiet, List.append_nil]
    refine ⟨paused.past, ?_⟩
    rw [same.quotaState, same.clockHighWater]
    exact paused.row
  reserved := by
    intro seen database next session call provider snapshot decision _ ahead reserves paused
    rw [committed_append, committed_append, committed_appliedFeedback, List.nil_append,
      ← List.append_assoc]
    have durable := (reserveTransaction_clockHighWater reserves).trans (max_eq_right ahead)
    constructor
    · intro reservation member same
      rcases List.mem_append.mp member with earlier | here
      · exact paused.past reservation earlier same
      · refine past_grantedReservation ?_ reservation here same
        rintro rfl permitted
        rcases paused.row with ended | held
        · exact ended.trans ahead
        · exact (reserveTransaction_cooldown reserves (Or.inl held)).2 permitted
    · rw [durable]
      rcases paused.row with ended | held
      · exact Or.inl (ended.trans ahead)
      · by_cases own : quotaGroup provider = group
        · subst own
          exact (reserveTransaction_cooldown reserves (Or.inl held)).1
        · rw [reserveTransaction_of_ne (Ne.symm own) reserves]
          exact Or.inr held
  applied := by
    intro seen database next session provider now pending _ ahead applies paused
    rw [committed_append, committed_appliedFeedback, List.append_nil]
    have durable := (feedbackTransaction_clockHighWater applies).trans (max_eq_right ahead)
    refine ⟨paused.past, ?_⟩
    rw [durable]
    rcases paused.row with ended | held
    · exact Or.inl (ended.trans ahead)
    · by_cases own : quotaGroup provider = group
      · subst own
        exact feedbackTransaction_cooldown applies (Or.inl held)
      · rw [feedbackTransaction_of_ne (Ne.symm own) applies]
        exact Or.inr held

/-- What a part holds the whole does. -/
theorem PartOf.heldUntil {feedback merged : QuotaFeedback} (part : PartOf feedback merged)
    (cooldown : HeldUntil feedback.cooldownMillis target) :
    HeldUntil merged.cooldownMillis target := by
  induction part with
  | refl => exact cooldown
  | left _ ih => exact ih.merge_left _
  | right _ ih => exact ih.merge_right _

/-- The commit of a cooldown pauses the group. -/
theorem paused_of_commit {merged : QuotaFeedback} {now : Int} (clocked : before.Clocked)
    (taken : Step codec before emitted after)
    (saved : Event.feedbackCommitted group merged now ∈ emitted)
    (cooldown : HeldUntil merged.cooldownMillis target) :
    ∃ database session, after = .running database session ∧
      Paused group target after.unanswered database := by
  rcases taken.of_feedbackCommitted saved with
    ⟨_, next, session, call, provider, snapshot, decision, entry, rfl, held, reserves, rfl,
      present, rfl, rfl, rfl⟩ |
    ⟨_, next, session, call, provider, pending, rfl, held, applies, rfl, rfl, rfl⟩
  · obtain ⟨_, gate⟩ := clocked
    rw [held] at gate
    have reported : HeldUntil (pendingCooldown snapshot.pending) target := by
      rw [present]
      exact cooldown
    obtain ⟨row, respected⟩ := reserveTransaction_cooldown reserves (Or.inr reported)
    refine ⟨_, _, rfl, ?_, ?_⟩
    · rw [unanswered_reserved]
      exact past_grantedReservation fun _ => respected
    · rw [reserveTransaction_clockHighWater reserves]
      exact row.imp_left fun passed => passed.trans (le_max_right _ _)
  · have row := feedbackTransaction_cooldown applies (Or.inr cooldown)
    refine ⟨_, _, rfl, ?_, ?_⟩
    · intro reservation member
      cases member
    · rw [feedbackTransaction_clockHighWater applies]
      exact row.imp_left fun passed => passed.trans (le_max_right _ _)

/-- The rule for reservations that a property of the accounts bounds. -/
theorem granted_of_accounts {predicate : List Event → List Reservation → Database → Prop}
    {database : Database} {session : Session}
    (invariant : AccountsInvariant codec (.running database session) (fun seen current =>
      predicate seen ((World.running database session).unanswered ++ committed seen) current))
    (clocked : (World.running database session).Clocked)
    (initial : predicate [] (World.running database session).unanswered database)
    (run : Run (Step codec) (.running database session) later world) :
    ∃ reservations current, (granted later).Sublist reservations ∧
      predicate later reservations current := by
  obtain ⟨current, stored⟩ := database_present run rfl
  refine ⟨_, current, (List.sublist_append_left _ _).trans (granted_sublist_committed run), ?_⟩
  apply invariant.run run clocked nofun _ stored
  intro first holds
  cases holds
  simpa using initial

/-- **A committed cooldown holds over every later run**: whatever other calls,
sessions and restarts follow, no reservation of the group is granted before it
ends. -/
theorem granted_after_cooldown {file : Option Database} {feedback merged : QuotaFeedback}
    {now : Int}
    (reachable : Run (Step codec) (.closed file) trace before)
    (taken : Step codec before emitted after)
    (saved : Event.feedbackCommitted group merged now ∈ emitted) (part : PartOf feedback merged)
    (cooldown : HeldUntil feedback.cooldownMillis target)
    (run : Run (Step codec) after later world) :
    ∀ reservation ∈ granted later, reservation.group = group → target ≤ reservation.now := by
  have kept := part.heldUntil cooldown
  have clocked := clocked_run reachable trivial
  obtain ⟨database, session, rfl, initial⟩ := paused_of_commit clocked taken saved kept
  obtain ⟨reservations, current, inside, paused⟩ := @granted_of_accounts _ _ _
    (fun _ => Paused group target) _ _ (paused_invariant codec _ group target)
    (taken.clocked clocked) initial run
  intro reservation member
  exact paused.past reservation (inside.subset member)

end RustEnrich.Storage
