import RustEnrich.Collections.Gathering
import RustEnrich.Enrichment.Headers
import RustEnrich.Storage.Cooldown
import Mathlib.Order.Bounds.Basic
import Mathlib.Order.Lattice.Nat
import Mathlib.Order.WithBot

/-!
# Retained feedback in any order

Feedback that waits to be saved stands for all that was reported: the greatest
cooldown, unknown where one of the reports of it is, the least allowance and the
latest reset. An absent cooldown or reset is the least of its kind, an absent
allowance the greatest. The reports may come in any order and more than once.
-/

namespace RustEnrich.Enrichment

open Storage

/-- An unknown reset comes with a cooldown. -/
def Flagged (report : QuotaFeedback) : Prop :=
  report.unknownReset = true → report.cooldownUntil ≠ none

/-- The cooldown of a report, with none before all. -/
def cooldown (report : QuotaFeedback) : WithBot DateTime := report.cooldownUntil
/-- What a report says is left, with nothing said above all. -/
def allowance (report : QuotaFeedback) : WithTop Nat := report.remaining
/-- The reset of a report, with none before all. -/
def window (report : QuotaFeedback) : WithBot DateTime := report.resetAt

/-- What a set of reports comes to. -/
structure Gathers (reports : Set QuotaFeedback) (merged : QuotaFeedback) : Prop where
  cooled : IsGreatest (cooldown '' reports) (cooldown merged)
  unknown : merged.unknownReset = true ↔
    ∃ report ∈ reports, cooldown report = cooldown merged ∧ report.unknownReset = true
  allowed : IsLeast (allowance '' reports) (allowance merged)
  windowed : IsGreatest (window '' reports) (window merged)

variable {first second : QuotaFeedback} {left right : Set QuotaFeedback}

/-! ### The fields of a merge -/

/-- The later of two instants is their maximum. -/
theorem laterOf_eq_max (left right : Option DateTime) :
    @Eq (WithBot DateTime) (laterOf left right) (@max (WithBot DateTime) _ left right) := by
  cases left with
  | none => exact (max_eq_right (bot_le : (⊥ : WithBot DateTime) ≤ right)).symm
  | some left =>
      cases right with
      | none => exact (max_eq_left (bot_le : (⊥ : WithBot DateTime) ≤ left)).symm
      | some right => exact WithBot.coe_max left right

/-- The cooldown of a merge is the later one. -/
theorem cooldown_mergeFeedback :
    cooldown (mergeFeedback first second) = max (cooldown first) (cooldown second) := by
  unfold cooldown
  rw [mergeFeedback_cooldownUntil]
  exact laterOf_eq_max _ _

/-- The reset of a merge is the later one. -/
theorem window_mergeFeedback :
    window (mergeFeedback first second) = max (window first) (window second) :=
  laterOf_eq_max _ _

/-- What a merge says is left is the lesser. -/
theorem allowance_mergeFeedback :
    allowance (mergeFeedback first second) = min (allowance first) (allowance second) := by
  unfold allowance mergeFeedback
  dsimp only
  cases first.remaining with
  | none =>
      exact (min_eq_right (le_top : _ ≤ (⊤ : WithTop Nat))).symm
  | some one =>
      cases second.remaining with
      | none => exact (min_eq_left (le_top : _ ≤ (⊤ : WithTop Nat))).symm
      | some two => exact WithTop.coe_min one two

/-- Without a cooldown there is no flag. -/
theorem Flagged.clear {report : QuotaFeedback} (flagged : Flagged report)
    (absent : report.cooldownUntil = none) : report.unknownReset = false := by
  by_contra unknown
  exact flagged (Bool.not_eq_false _ ▸ unknown) absent

/-- The flag is that of the greater cooldown, and of either where they tie. -/
theorem unknownReset_mergeFeedback (one : Flagged first) (two : Flagged second) :
    (mergeFeedback first second).unknownReset = true ↔
      (cooldown second ≤ cooldown first ∧ first.unknownReset = true) ∨
        (cooldown first ≤ cooldown second ∧ second.unknownReset = true) := by
  unfold mergeFeedback cooldown
  cases early : first.cooldownUntil with
  | none =>
      have clear := one.clear early
      cases late : second.cooldownUntil with
      | none =>
          have silent := two.clear late
          simp [clear, silent]
      | some later =>
          have below : (⊥ : WithBot DateTime) ≤ later := bot_le
          simp only [clear, Bool.false_eq_true, and_false, false_or]
          exact (and_iff_right below).symm
  | some earlier =>
      cases late : second.cooldownUntil with
      | none =>
          have silent := two.clear late
          have below : (⊥ : WithBot DateTime) ≤ earlier := bot_le
          simp only [silent, Bool.false_eq_true, and_false, or_false]
          exact (and_iff_right below).symm
      | some later =>
          have order : ∀ a b : DateTime, @LE.le (WithBot DateTime) _ (some a) (some b) ↔ a ≤ b :=
            fun _ _ => WithBot.coe_le_coe
          rw [order, order]
          rcases lt_trichotomy earlier later with before | rfl | after
          · simp [before.not_gt, before.ne, before.le, before.not_ge]
          · simp
          · simp [after, after.le, after.not_ge]

/-- Merging keeps flags to cooldowns. -/
theorem flagged_mergeFeedback (one : Flagged first) (two : Flagged second) :
    Flagged (mergeFeedback first second) := by
  intro unknown absent
  have nothing : max (cooldown first) (cooldown second) = ⊥ :=
    cooldown_mergeFeedback.symm.trans absent
  obtain ⟨early, late⟩ := max_eq_bot.mp nothing
  rcases (unknownReset_mergeFeedback one two).mp unknown with ⟨_, set⟩ | ⟨_, set⟩
  · exact one set early
  · exact two set late

/-! ### Merging gathers -/

/-- A report gathers itself. -/
theorem Gathers.single (report : QuotaFeedback) : Gathers {report} report where
  cooled := by
    rw [Set.image_singleton]
    exact isGreatest_singleton
  unknown := by simp
  allowed := by
    rw [Set.image_singleton]
    exact isLeast_singleton
  windowed := by
    rw [Set.image_singleton]
    exact isGreatest_singleton

/-- A report of a set is below the cooldown the set comes to. -/
theorem Gathers.cooldown_le (gathered : Gathers left first) {report : QuotaFeedback}
    (member : report ∈ left) : cooldown report ≤ cooldown first :=
  gathered.cooled.2 (Set.mem_image_of_mem cooldown member)

/-- A merge gathers what its parts do. -/
theorem Gathers.union (one : Flagged first) (two : Flagged second) (early : Gathers left first)
    (late : Gathers right second) : Gathers (left ∪ right) (mergeFeedback first second) where
  cooled := by
    rw [Set.image_union, cooldown_mergeFeedback]
    exact early.cooled.union late.cooled
  allowed := by
    rw [Set.image_union, allowance_mergeFeedback]
    exact early.allowed.union late.allowed
  windowed := by
    rw [Set.image_union, window_mergeFeedback]
    exact early.windowed.union late.windowed
  unknown := by
    rw [unknownReset_mergeFeedback one two, cooldown_mergeFeedback, early.unknown, late.unknown]
    constructor
    · rintro (⟨after, report, member, same, set⟩ | ⟨before, report, member, same, set⟩)
      · exact ⟨report, Or.inl member, same.trans (max_eq_left after).symm, set⟩
      · exact ⟨report, Or.inr member, same.trans (max_eq_right before).symm, set⟩
    · rintro ⟨report, member | member, same, set⟩
      · have after : cooldown second ≤ cooldown first :=
          (le_max_right _ _).trans (same.symm.trans_le (early.cooldown_le member))
        exact Or.inl ⟨after, report, member, same.trans (max_eq_left after), set⟩
      · have before : cooldown first ≤ cooldown second :=
          (le_max_left _ _).trans (same.symm.trans_le (late.cooldown_le member))
        exact Or.inr ⟨before, report, member, same.trans (max_eq_right before), set⟩

/-- What gathers the same reports is the same. -/
theorem Gathers.unique (one : Gathers left first) (two : Gathers left second) :
    first = second := by
  have cooled := one.cooled.unique two.cooled
  have unknown : first.unknownReset = second.unknownReset := by
    rw [Bool.eq_iff_iff, one.unknown, two.unknown, cooled]
  obtain ⟨_, _, _, _⟩ := first
  obtain ⟨_, _, _, _⟩ := second
  cases cooled
  cases one.allowed.unique two.allowed
  cases one.windowed.unique two.windowed
  cases unknown
  rfl

/-- Merging is a gathering. -/
theorem mergeFeedback_gathering : Gathering Flagged mergeFeedback Gathers where
  single := Gathers.single
  union := Gathers.union
  closed := flagged_mergeFeedback
  unique := Gathers.unique

/-! ### The pending entry -/

section Retention

variable {group : QuotaGroup}

/-- The feedback retained for a group. -/
def retained (runtime : RuntimeState) (group : QuotaGroup) : Option QuotaFeedback :=
  (runtime.pending group).map PendingFeedback.feedback

/-- Reports that arrive one after the other, with nothing saved in between. -/
def retainAll (runtime : RuntimeState) (group : QuotaGroup) (reports : List QuotaFeedback) :
    RuntimeState :=
  reports.foldl (fun runtime report => runtime.retain group report) runtime

/-- A report is merged into what is retained. -/
theorem retained_retain (runtime : RuntimeState) (report : QuotaFeedback) :
    retained (runtime.retain group report) group =
      some (match retained runtime group with
        | some old => mergeFeedback old report
        | none => report) := by
  unfold retained RuntimeState.retain
  simp only [Function.update_self, Option.map_some]
  cases runtime.pending group <;> rfl

/-- Reports are merged one after the other. -/
theorem retained_retainAll {runtime : RuntimeState} {old : QuotaFeedback}
    (pending : retained runtime group = some old) (reports : List QuotaFeedback) :
    retained (retainAll runtime group reports) group = some (reports.foldl mergeFeedback old) := by
  induction reports generalizing runtime old with
  | nil => exact pending
  | cons report rest ih =>
      apply ih
      rw [retained_retain, pending]

/-- What is pending after reports arrived gathers them and what was pending. -/
theorem gathers_retainAll {runtime : RuntimeState} {reports : List QuotaFeedback}
    (some_ : reports ≠ [])
    (flagged : ∀ report ∈ (retained runtime group).toList ++ reports, Flagged report) :
    ∃ merged, retained (retainAll runtime group reports) group = some merged ∧
      Gathers {report | report ∈ (retained runtime group).toList ++ reports} merged := by
  cases pending : retained runtime group with
  | none =>
      cases reports with
      | nil => exact absurd rfl some_
      | cons first rest =>
          rw [pending] at flagged
          have started : retained (runtime.retain group first) group = some first := by
            rw [retained_retain, pending]
          exact ⟨_, retained_retainAll started rest, mergeFeedback_gathering.foldl_cons flagged⟩
  | some old =>
      rw [pending] at flagged
      exact ⟨_, retained_retainAll pending reports, mergeFeedback_gathering.foldl_cons flagged⟩

end Retention

/-- Inside chrono's range the flag of a response comes with a cooldown. -/
theorem flagged_feedbackFromHeaders (parseHttpDate : String → Option DateTime) (id : ProviderId)
    (status : UInt16) (headers : HeaderMap) {now : DateTime}
    (inRange : (now.checkedAddSigned (60 * 1000000000)).isSome) :
    Flagged (feedbackFromHeaders parseHttpDate id status headers now) := by
  rw [feedbackFromHeaders_eq]
  intro unknown absent
  simp only [decide_eq_true_eq] at unknown
  dsimp only at absent
  rw [if_pos unknown.1, unknown.2, Option.none_or] at absent
  rw [absent] at inRange
  cases inRange

/-- **Retained feedback does not depend on the order of arrival.** Where an
unknown reset comes with a cooldown, merging is associative, commutative and
idempotent, and what is retained of reports depends on which there are: the
greatest cooldown, unknown where a report of it is, the least allowance and the
latest reset. -/
theorem retained_unordered :
    (∀ first second third : QuotaFeedback, Flagged first → Flagged second → Flagged third →
      mergeFeedback (mergeFeedback first second) third =
          mergeFeedback first (mergeFeedback second third) ∧
        mergeFeedback first second = mergeFeedback second first ∧
        mergeFeedback first first = first) ∧
    ∀ (runtime : RuntimeState) (group : QuotaGroup) (reports others : List QuotaFeedback),
      (∀ report ∈ (retained runtime group).toList ++ reports, Flagged report) →
      (∀ report, report ∈ others ↔ report ∈ reports) →
      retained (retainAll runtime group others) group =
          retained (retainAll runtime group reports) group ∧
        (reports ≠ [] →
          ∃ merged, retained (retainAll runtime group reports) group = some merged ∧
            Gathers {report | report ∈ (retained runtime group).toList ++ reports} merged) := by
  constructor
  · intro first second third one two three
    exact ⟨mergeFeedback_gathering.assoc one two three, mergeFeedback_gathering.comm one two,
      mergeFeedback_gathering.idem one⟩
  · intro runtime group reports others flagged same
    refine ⟨?_, fun some_ => gathers_retainAll some_ flagged⟩
    by_cases none_ : reports = []
    · have nothing : others = [] := by
        apply List.eq_nil_iff_forall_not_mem.mpr
        intro report member
        rw [same, none_] at member
        cases member
      rw [nothing, none_]
    have shared : {report | report ∈ (retained runtime group).toList ++ others} =
        {report | report ∈ (retained runtime group).toList ++ reports} := by
      ext report
      simp only [Set.mem_ofPred_eq, List.mem_append, same]
    have any : others ≠ [] := by
      rintro rfl
      obtain ⟨report, member⟩ := List.exists_mem_of_ne_nil reports none_
      cases (same report).mpr member
    obtain ⟨merged, kept, gathered⟩ := gathers_retainAll none_ flagged
    obtain ⟨other, also, together⟩ := gathers_retainAll any
      fun report member => flagged report (shared.subset member)
    rw [shared] at together
    rw [kept, also, gathered.unique together]

/-- A throttled response without a reset, at a time. -/
def throttled (now : DateTime) : QuotaFeedback :=
  feedbackFromHeaders (fun _ => none) .virustotal 429 (fun _ => none) now

/-- A report that comes twice counts once. -/
theorem retained_unordered_twice :
    retained (retainAll (.fresh 0) .virustotal
        [throttled hourAfter, throttled .epoch, throttled hourAfter]) .virustotal =
      retained (retainAll (.fresh 0) .virustotal [throttled .epoch, throttled hourAfter])
        .virustotal := by
  refine (retained_unordered.2 (.fresh 0) .virustotal [throttled .epoch, throttled hourAfter]
    [throttled hourAfter, throttled .epoch, throttled hourAfter] ?_ ?_).1
  · intro report member
    have listed : report ∈ [throttled .epoch, throttled hourAfter] := member
    simp only [List.mem_cons, List.not_mem_nil, or_false] at listed
    rcases listed with rfl | rfl
    · exact flagged_feedbackFromHeaders _ _ _ _ (by decide)
    · exact flagged_feedbackFromHeaders _ _ _ _ (by decide)
  · intro report
    simp only [List.mem_cons, List.not_mem_nil, or_false]
    tauto

end RustEnrich.Enrichment
