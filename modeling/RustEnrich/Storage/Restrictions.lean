import RustEnrich.Storage.Database
import RustEnrich.Collections.OrderStatistic

/-!
# What restricts a group

A decision about an attempt weighs a list of restrictions, each with the time it
ends or with no known end. It denies while there is one, and advises the longest
of the waits until their ends, if all of these are known.
-/

namespace RustEnrich.Storage

/-- The longest wait until the ends of some restrictions, all of them known. -/
structure LongestWait (actualNow : Int) (ends : List (Option Int)) (delay : Nat) : Prop where
  known : none ∉ ends
  covers : ∀ target, some target ∈ ends → delaySeconds target actualNow ≤ delay
  attained : ∃ target, some target ∈ ends ∧ delaySeconds target actualNow = delay

/-- There is one longest wait. -/
theorem LongestWait.unique {actualNow : Int} {ends : List (Option Int)} {delay other : Nat}
    (left : LongestWait actualNow ends delay) (right : LongestWait actualNow ends other) :
    delay = other := by
  obtain ⟨target, inside, rfl⟩ := left.attained
  obtain ⟨last, within, rfl⟩ := right.attained
  exact le_antisymm (right.covers target inside) (left.covers last within)

/-- A wait for what is ahead is positive. -/
theorem delaySeconds_pos {target now : Int} (ahead : now < target) :
    0 < delaySeconds target now := by
  unfold delaySeconds saturatingSub i64Min i64Max
  omega

/-- The midnight that follows a time. -/
def midnightAfter (now : Int) : Int := (now / dayMillis + 1) * dayMillis

/-- Midnight is ahead. -/
theorem lt_midnightAfter (now : Int) : now < midnightAfter now := by
  unfold midnightAfter dayMillis
  omega

/-! ### The restrictions in force -/

/-- The wall clock behind the effective one. -/
def clockRestrictions (now actualNow : Int) : List (Option Int) :=
  if actualNow < now then [some now] else []

namespace QuotaState

/-- The cooldown while it lasts, its end unknown for the fallback. -/
def cooldownRestrictions (state : QuotaState) (now : Int) : List (Option Int) :=
  match state.cooldownUntil.filter (fun target => now < target) with
  | some target => [if state.cooldownUnknown then none else some target]
  | none => []

/-- A full day, until midnight. -/
def dayRestrictions (state : QuotaState) (limits : QuotaLimits) (now : Int) :
    List (Option Int) :=
  if limits.day ≤ state.dailyConsumed then [some (midnightAfter now)] else []

/-- An exhausted allowance whose window has no end ahead is of unknown length. -/
def remainingRestrictions (state : QuotaState) (now : Int) : List (Option Int) :=
  if state.providerRemaining = some 0 then
    [state.providerResetAt.filter (fun reset => now < reset)]
  else
    []

end QuotaState

/-- A full minute ends when enough of its reservations have aged out. -/
def minuteRestrictions (attempts : List QuotaAttempt) (group : QuotaGroup)
    (limits : QuotaLimits) (now : Int) : List (Option Int) :=
  let recent := Verdict.recentAttempts attempts group (saturatingSub now 60000)
  if 0 < limits.minute ∧ limits.minute ≤ recent.length then
    [recent[recent.length - limits.minute]?.map (fun clearsAt => saturatingAdd clearsAt 60000)]
  else
    []

/-- All that is in force at a reading. -/
def restrictions (attempts : List QuotaAttempt) (group : QuotaGroup) (limits : QuotaLimits)
    (state : QuotaState) (now actualNow : Int) : List (Option Int) :=
  clockRestrictions now actualNow ++ state.cooldownRestrictions now ++
    state.dayRestrictions limits now ++ state.remainingRestrictions now ++
    minuteRestrictions attempts group limits now

/-! ### Every end is ahead -/

/-- The recent attempts are those of the group after the horizon. -/
theorem Verdict.mem_recentAttempts {attempts : List QuotaAttempt} {group : QuotaGroup}
    {after time : Int} : time ∈ recentAttempts attempts group after ↔
      ∃ row, (row ∈ attempts ∧ row.quotaGroup = group ∧ after < row.reservedAt) ∧
        row.reservedAt = time := by
  unfold recentAttempts
  rw [List.mem_insertionSort, List.mem_map]
  simp only [List.mem_filter, decide_eq_true_eq]

/-- A recent attempt is after the horizon. -/
theorem Verdict.lt_of_mem_recentAttempts {attempts : List QuotaAttempt} {group : QuotaGroup}
    {after time : Int} (member : time ∈ recentAttempts attempts group after) : after < time := by
  obtain ⟨row, inside, rfl⟩ := mem_recentAttempts.mp member
  exact inside.2.2

/-- A reservation of the last minute leaves it later than now. -/
theorem lt_saturatingAdd_window {instant : DateTime} {time : Int}
    (recent : saturatingSub instant.timestampMillis 60000 < time) :
    instant.timestampMillis < saturatingAdd time 60000 := by
  rw [saturatingSub_window] at recent
  exact (lt_saturatingAdd_iff time).mpr recent

/-- Where a known end comes from. -/
theorem of_mem_restrictions {attempts : List QuotaAttempt} {group : QuotaGroup}
    {limits : QuotaLimits} {state : QuotaState} {now actualNow target : Int}
    (member : some target ∈ restrictions attempts group limits state now actualNow) :
    (actualNow < now ∧ target = now) ∨
      (state.cooldownUntil = some target ∧ now < target) ∨
      (limits.day ≤ state.dailyConsumed ∧ target = midnightAfter now) ∨
      (state.providerResetAt = some target ∧ now < target) ∨
      ∃ time ∈ Verdict.recentAttempts attempts group (saturatingSub now 60000),
        target = saturatingAdd time 60000 := by
  simp only [restrictions, List.mem_append] at member
  rcases member with (((clock | cooldown) | day) | remaining) | minute
  · unfold clockRestrictions at clock
    split at clock
    · rename_i behind
      exact Or.inl ⟨behind, Option.some.inj (List.mem_singleton.mp clock)⟩
    · cases clock
  · unfold QuotaState.cooldownRestrictions at cooldown
    cases ahead : state.cooldownUntil.filter (fun target => now < target) with
    | none => rw [ahead] at cooldown; cases cooldown
    | some last =>
        rw [ahead] at cooldown
        obtain ⟨held, later⟩ := Option.filter_eq_some_iff.mp ahead
        cases unknown : state.cooldownUnknown with
        | true => simp [unknown] at cooldown
        | false =>
            simp only [unknown, Bool.false_eq_true, ↓reduceIte, List.mem_singleton,
              Option.some.injEq] at cooldown
            subst cooldown
            exact Or.inr (Or.inl ⟨held, of_decide_eq_true later⟩)
  · unfold QuotaState.dayRestrictions at day
    split at day
    · rename_i exhausted
      exact Or.inr (Or.inr (Or.inl ⟨exhausted, Option.some.inj (List.mem_singleton.mp day)⟩))
    · cases day
  · unfold QuotaState.remainingRestrictions at remaining
    split at remaining
    · obtain ⟨window, later⟩ :=
        Option.filter_eq_some_iff.mp (List.mem_singleton.mp remaining).symm
      exact Or.inr (Or.inr (Or.inr (Or.inl ⟨window, of_decide_eq_true later⟩)))
    · cases remaining
  · unfold minuteRestrictions at minute
    dsimp only at minute
    split at minute
    · obtain ⟨time, there, same⟩ := Option.map_eq_some_iff.mp (List.mem_singleton.mp minute).symm
      exact Or.inr (Or.inr (Or.inr (Or.inr ⟨time, List.mem_of_getElem? there, same.symm⟩)))
    · cases minute

/-- Every known end is ahead. -/
theorem lt_of_mem_restrictions {attempts : List QuotaAttempt} {group : QuotaGroup}
    {limits : QuotaLimits} {state : QuotaState} {effective : DateTime} {actualNow target : Int}
    (behind : actualNow ≤ effective.timestampMillis)
    (member : some target ∈
      restrictions attempts group limits state effective.timestampMillis actualNow) :
    actualNow < target := by
  rcases of_mem_restrictions member with ⟨ahead, rfl⟩ | ⟨_, later⟩ | ⟨_, rfl⟩ | ⟨_, later⟩ |
    ⟨time, recent, rfl⟩
  · exact ahead
  · exact behind.trans_lt later
  · exact behind.trans_lt (lt_midnightAfter _)
  · exact behind.trans_lt later
  · exact behind.trans_lt (lt_saturatingAdd_window (Verdict.lt_of_mem_recentAttempts recent))

/-! ### What a verdict knows of them -/

namespace Verdict

/-- The verdict over the restrictions weighed so far. -/
structure Weighs (verdict : Verdict) (actualNow : Int) (ends : List (Option Int)) : Prop where
  blocked : verdict.blocked = true ↔ ends ≠ []
  unknown : verdict.unknown = true ↔ none ∈ ends
  covers : none ∉ ends → ∀ target, some target ∈ ends →
    delaySeconds target actualNow ≤ verdict.delay
  attained : none ∉ ends → verdict.delay = 0 ∨
    ∃ target, some target ∈ ends ∧ delaySeconds target actualNow = verdict.delay

namespace Weighs

variable {verdict next : Verdict} {actualNow now target : Int} {ends : List (Option Int)}
  {limits : QuotaLimits} {state : QuotaState}

/-- A denial weighs its target. -/
theorem denyUntil (weighs : verdict.Weighs actualNow ends) (target : Int) :
    (verdict.denyUntil target actualNow).Weighs actualNow (ends ++ [some target]) where
  blocked := by simp [Verdict.denyUntil]
  unknown := by simpa [Verdict.denyUntil] using weighs.unknown
  covers := by
    intro known other inside
    change _ ≤ max verdict.delay (delaySeconds target actualNow)
    rcases List.mem_append.mp inside with earlier | here
    · refine (weighs.covers ?_ other earlier).trans (le_max_left _ _)
      exact fun missing => known (List.mem_append_left _ missing)
    · obtain rfl := Option.some.inj (List.mem_singleton.mp here)
      exact le_max_right _ _
  attained := by
    intro known
    have earlier := weighs.attained fun missing => known (List.mem_append_left _ missing)
    change max verdict.delay (delaySeconds target actualNow) = 0 ∨ ∃ other, _ ∧
      _ = max verdict.delay (delaySeconds target actualNow)
    rcases le_total verdict.delay (delaySeconds target actualNow) with shorter | longer
    · exact Or.inr ⟨target, by simp, (max_eq_right shorter).symm⟩
    · rw [max_eq_left longer]
      rcases earlier with none_ | ⟨other, inside, equal⟩
      · exact Or.inl none_
      · exact Or.inr ⟨other, List.mem_append_left _ inside, equal⟩

/-- Once an end is unknown the delay no longer matters. -/
theorem of_unknown (blocked : verdict.blocked = true) (unknown : verdict.unknown = true)
    (missing : none ∈ ends) : verdict.Weighs actualNow ends where
  blocked := ⟨fun _ => List.ne_nil_of_mem missing, fun _ => blocked⟩
  unknown := ⟨fun _ => missing, fun _ => unknown⟩
  covers := fun known => absurd missing known
  attained := fun known => absurd missing known

/-- At first the clock alone is weighed. -/
theorem initial (now actualNow : Int) :
    Weighs { blocked := decide (actualNow < now), delay := delaySeconds now actualNow,
             unknown := false } actualNow (clockRestrictions now actualNow) := by
  unfold clockRestrictions
  by_cases behind : actualNow < now
  · rw [if_pos behind]
    exact ⟨by simp [behind], by simp, by simp, fun _ => Or.inr ⟨now, by simp, rfl⟩⟩
  · rw [if_neg behind]
    refine ⟨by simp [behind], by simp, by simp, fun _ => Or.inl ?_⟩
    unfold delaySeconds saturatingSub i64Min i64Max
    dsimp only
    omega

/-- Then the cooldown. -/
theorem checkCooldown (weighs : verdict.Weighs actualNow ends) (known : verdict.unknown = false)
    (state : QuotaState) (now : Int) :
    (verdict.checkCooldown state now actualNow).Weighs actualNow
      (ends ++ state.cooldownRestrictions now) := by
  unfold Verdict.checkCooldown QuotaState.cooldownRestrictions
  cases state.cooldownUntil.filter (fun target => now < target) with
  | none => rwa [List.append_nil]
  | some target =>
      cases unknown : state.cooldownUnknown with
      | true => exact of_unknown rfl rfl (by simp)
      | false =>
          have denied := weighs.denyUntil target
          have same : ({ verdict.denyUntil target actualNow with unknown := false } : Verdict) =
              verdict.denyUntil target actualNow := by
            rw [← known]
            rfl
          rw [← same] at denied
          exact denied

/-- Then what the provider has left. -/
theorem checkRemaining (weighs : verdict.Weighs actualNow ends) (state : QuotaState) (now : Int) :
    (verdict.checkRemaining state now actualNow).Weighs actualNow
      (ends ++ state.remainingRestrictions now) := by
  unfold Verdict.checkRemaining QuotaState.remainingRestrictions
  split
  · cases state.providerResetAt.filter (fun reset => now < reset) with
    | some reset => exact weighs.denyUntil reset
    | none => exact of_unknown rfl rfl (by simp)
  · rwa [List.append_nil]

/-- The end of the day is found wherever the next day is one. -/
theorem checkDay (weighs : verdict.Weighs actualNow ends) (effective : DateTime)
    (tomorrow : limits.day ≤ state.dailyConsumed → effective.dateNaive + 1 ≤ NaiveDate.max) :
    ∃ next, verdict.checkDay limits state effective.timestampMillis actualNow = .ok next ∧
      next.Weighs actualNow (ends ++ state.dayRestrictions limits effective.timestampMillis) := by
  unfold Verdict.checkDay QuotaState.dayRestrictions
  by_cases exhausted : limits.day ≤ state.dailyConsumed
  · obtain ⟨instant, converted, same⟩ := effective.fromTimestampMillis_self
    have today := DateTime.dateNaive_congr same
    have midnight : nextDayMillis instant = .ok (midnightAfter effective.timestampMillis) := by
      unfold nextDayMillis midnightAfter
      rw [today, if_pos (tomorrow exhausted), DateTime.dateNaive_eq]
    rw [if_pos exhausted, if_pos exhausted, converted]
    simp only [midnight]
    exact ⟨_, rfl, weighs.denyUntil _⟩
  · rw [if_neg exhausted, if_neg exhausted, List.append_nil]
    exact ⟨verdict, rfl, weighs⟩

/-- Then the minute. -/
theorem checkMinute (weighs : verdict.Weighs actualNow ends) (attempts : List QuotaAttempt)
    (group : QuotaGroup) (limits : QuotaLimits) (now : Int) :
    ∃ next, verdict.checkMinute attempts group limits now actualNow = .ok next ∧
      next.Weighs actualNow (ends ++ minuteRestrictions attempts group limits now) := by
  unfold Verdict.checkMinute minuteRestrictions
  dsimp only
  split
  · rename_i full
    -- the offset counts back from the end by a positive cap, so there is a row at it
    have inside : (recentAttempts attempts group (saturatingSub now 60000)).length - limits.minute <
        (recentAttempts attempts group (saturatingSub now 60000)).length := by omega
    rw [List.getElem?_eq_getElem inside]
    exact ⟨_, rfl, weighs.denyUntil _⟩
  · rw [List.append_nil]
    exact ⟨verdict, rfl, weighs⟩

/-- The reported delay, once everything is weighed. -/
theorem advice (weighs : verdict.Weighs actualNow ends)
    (ahead : ∀ target, some target ∈ ends → actualNow < target) (delay : Nat) :
    (if verdict.blocked = true ∧ verdict.unknown = false then some (max verdict.delay 1)
      else none) = some delay ↔ LongestWait actualNow ends delay := by
  by_cases missing : none ∈ ends
  · have silent : ¬ (verdict.blocked = true ∧ verdict.unknown = false) := by
      simp [weighs.unknown.mpr missing]
    rw [if_neg silent]
    exact ⟨nofun, fun longest => absurd missing longest.known⟩
  · have known : verdict.unknown = false :=
      Bool.eq_false_of_not_eq_true fun unknown => missing (weighs.unknown.mp unknown)
    cases present : ends with
    | nil =>
        have open_ : ¬ (verdict.blocked = true ∧ verdict.unknown = false) := by
          rw [weighs.blocked, present]
          simp
        rw [if_neg open_]
        refine ⟨nofun, fun longest => ?_⟩
        obtain ⟨_, inside, _⟩ := longest.attained
        cases inside
    | cons first rest =>
        rw [← present]
        have denied : verdict.blocked = true := by
          rw [weighs.blocked, present]
          exact List.cons_ne_nil _ _
        cases first with
        | none => exact absurd (by simp [present]) missing
        | some target =>
            have inside : some target ∈ ends := by simp [present]
            have positive : 0 < verdict.delay :=
              (delaySeconds_pos (ahead target inside)).trans_le
                (weighs.covers missing target inside)
            have longest : LongestWait actualNow ends verdict.delay :=
              ⟨missing, weighs.covers missing,
                (weighs.attained missing).resolve_left (by omega)⟩
            rw [if_pos ⟨denied, known⟩, max_eq_left (by omega), Option.some.injEq]
            constructor
            · rintro rfl
              exact longest
            · exact longest.unique

end Weighs

end Verdict

/-- **What a decision says.** It is made wherever the day has a next one, denies
exactly while something restricts the group, and advises the longest of the
waits, as long as all of them are known. -/
theorem quotaDecision_spec (attempts : List QuotaAttempt) (group : QuotaGroup)
    (limits : QuotaLimits) (state : QuotaState) (effective : DateTime) {actualNow : Int}
    (behind : actualNow ≤ effective.timestampMillis)
    (tomorrow : limits.day ≤ state.dailyConsumed → effective.dateNaive + 1 ≤ NaiveDate.max) :
    ∃ decision,
      quotaDecision attempts group limits state effective.timestampMillis actualNow =
        .ok decision ∧
      (decision.blocked = true ↔
        restrictions attempts group limits state effective.timestampMillis actualNow ≠ []) ∧
      ∀ delay, decision.retryAfter = some delay ↔
        LongestWait actualNow
          (restrictions attempts group limits state effective.timestampMillis actualNow) delay := by
  have weighs := (Verdict.Weighs.initial effective.timestampMillis actualNow).checkCooldown rfl
    state effective.timestampMillis
  obtain ⟨afterDay, dayChecked, weighs⟩ := weighs.checkDay effective tomorrow
  replace weighs := weighs.checkRemaining state effective.timestampMillis
  obtain ⟨afterMinute, minuteChecked, weighs⟩ := weighs.checkMinute attempts group limits
    effective.timestampMillis
  unfold quotaDecision
  simp only [bind, Except.bind, pure, Except.pure, dayChecked, minuteChecked]
  refine ⟨_, rfl, weighs.blocked, ?_⟩
  exact weighs.advice fun target member => lt_of_mem_restrictions behind member

end RustEnrich.Storage
