import RustEnrich.Storage.Cooldown

/-!
# Every report is saved

Feedback is retained in memory when it arrives, merged with what is retained
already, and saved by whoever holds the gate next. A report that comes while an
earlier one is being saved is merged with it and keeps both in memory, so the earlier
one may be saved again as a part of the merge. What is dropped from memory has been
committed in a merge with its neighbours: no report is lost between two calls, and
nothing is saved that was not reported.
-/

namespace RustEnrich.Storage

open Transitions

/-- What reports come to when they are merged one after the other. -/
def mergeAll : List QuotaFeedback → Option QuotaFeedback
  | [] => none
  | first :: rest => some (rest.foldl mergeFeedback first)

/-- The report an event retains for a group. -/
def Event.report (group : QuotaGroup) : Event → Option QuotaFeedback
  | .feedbackRetained retained feedback => if retained = group then some feedback else none
  | _ => none

/-- The report an event commits for a group. -/
def Event.saving (group : QuotaGroup) : Event → Option QuotaFeedback
  | .feedbackCommitted saved feedback _ => if saved = group then some feedback else none
  | _ => none

/-- The reports of a group, in the order of their arrival. -/
def reports (group : QuotaGroup) (trace : List Event) : List QuotaFeedback :=
  trace.filterMap (Event.report group)

/-- What was committed for a group. -/
def savings (group : QuotaGroup) (trace : List Event) : List QuotaFeedback :=
  trace.filterMap (Event.saving group)

/-- A batch that was merged and committed. -/
def Saved (group : QuotaGroup) (trace : List Event) (batch : List QuotaFeedback) : Prop :=
  ∃ merged ∈ savings group trace, mergeAll batch = some merged

/-- The report at a place is in a batch of its neighbours that was committed. -/
def Covered (group : QuotaGroup) (trace : List Event) (place : Nat) : Prop :=
  ∃ before batch after, reports group trace = before ++ batch ++ after ∧
    before.length ≤ place ∧ place < before.length + batch.length ∧ Saved group trace batch

section Lists

variable {group : QuotaGroup} {seen emitted : List Event} {batch : List QuotaFeedback}
  {report merged : QuotaFeedback} {place : Nat}

/-- Only an empty batch merges to nothing. -/
theorem mergeAll_eq_none : mergeAll batch = none ↔ batch = [] := by
  cases batch with
  | nil => exact iff_of_true rfl rfl
  | cons first rest => exact iff_of_false nofun nofun

/-- A report is merged behind the batch. -/
theorem mergeAll_snoc : mergeAll (batch ++ [report]) = some (match mergeAll batch with
    | some old => mergeFeedback old report
    | none => report) := by
  cases batch with
  | nil => rfl
  | cons first rest =>
      rw [List.cons_append, mergeAll, List.foldl_append]
      rfl

/-- The reports of two traces, one after the other. -/
@[simp] theorem reports_append :
    reports group (seen ++ emitted) = reports group seen ++ reports group emitted :=
  List.filterMap_append

/-- The commits of two traces, one after the other. -/
@[simp] theorem savings_append :
    savings group (seen ++ emitted) = savings group seen ++ savings group emitted :=
  List.filterMap_append

/-- A trace without reports has none. -/
theorem reports_eq_nil
    (unretained : ∀ feedback, Event.feedbackRetained group feedback ∉ emitted) :
    reports group emitted = [] := by
  apply List.filterMap_eq_nil_iff.mpr
  intro event member
  cases event with
  | feedbackRetained retained feedback =>
      refine if_neg ?_
      rintro rfl
      exact unretained feedback member
  | _ => rfl

/-- A trace without commits has none. -/
theorem savings_eq_nil
    (unapplied : ∀ feedback now, Event.feedbackCommitted group feedback now ∉ emitted) :
    savings group emitted = [] := by
  apply List.filterMap_eq_nil_iff.mpr
  intro event member
  cases event with
  | feedbackCommitted saved feedback now =>
      refine if_neg ?_
      rintro rfl
      exact unapplied feedback now member
  | _ => rfl

/-- Applied feedback commits what was retained. -/
theorem mem_savings_appliedFeedback {saved : QuotaGroup} {pending : Option PendingFeedback}
    {now : Int} : merged ∈ savings group (appliedFeedback saved pending now) ↔
      saved = group ∧ ∃ entry, pending = some entry ∧ entry.feedback = merged := by
  cases pending with
  | none => simp [appliedFeedback, savings]
  | some entry =>
      by_cases own : saved = group
      · simp [appliedFeedback, savings, Event.saving, own, eq_comm]
      · simp [appliedFeedback, savings, Event.saving, own]

/-- A reservation commits no report. -/
theorem savings_grantedReservation {granted : QuotaGroup} {call : CallId} {now : Int}
    {decision : QuotaDecision} :
    savings group (grantedReservation call granted now decision) = [] := by
  unfold grantedReservation
  split <;> rfl

/-- A saved batch stays saved. -/
theorem Saved.append (saved : Saved group seen batch) (emitted : List Event) :
    Saved group (seen ++ emitted) batch := by
  obtain ⟨merged, member, same⟩ := saved
  exact ⟨merged, by rw [savings_append]; exact List.mem_append_left _ member, same⟩

/-- A covered report stays covered. -/
theorem Covered.append (covered : Covered group seen place) (emitted : List Event) :
    Covered group (seen ++ emitted) place := by
  obtain ⟨before, batch, after, split, low, high, saved⟩ := covered
  refine ⟨before, batch, after ++ reports group emitted, ?_, low, high, saved.append emitted⟩
  rw [reports_append, split, List.append_assoc (before ++ batch)]

/-- A place before the end of consecutive batches is in one of them. -/
theorem exists_batch {batches : List (List QuotaFeedback)}
    (inside : place < batches.flatten.length) :
    ∃ before batch after, batches.flatten = before ++ batch ++ after ∧ batch ∈ batches ∧
      before.length ≤ place ∧ place < before.length + batch.length := by
  induction batches generalizing place with
  | nil => exact absurd inside (Nat.not_lt_zero place)
  | cons first rest ih =>
      rw [List.flatten_cons, List.length_append] at inside
      by_cases early : place < first.length
      · refine ⟨[], first, rest.flatten, rfl, List.mem_cons_self, Nat.zero_le _, ?_⟩
        rwa [List.length_nil, Nat.zero_add]
      · obtain ⟨before, batch, after, split, member, low, high⟩ :=
          @ih (place - first.length) (by omega)
        refine ⟨first ++ before, batch, after, ?_, List.mem_cons_of_mem _ member, ?_, ?_⟩
        · rw [List.flatten_cons, split]
          simp only [List.append_assoc]
        · rw [List.length_append]
          omega
        · rw [List.length_append]
          omega

end Lists

/-! ### The batches of a session -/

/-- How the reports of a session divide into the batches that were dropped from memory
and those that are pending. -/
structure Batched (group : QuotaGroup) (seen : List Event) (session : Session)
    (batches : List (List QuotaFeedback)) (unsaved : List QuotaFeedback) : Prop where
  split : reports group seen = batches.flatten ++ unsaved
  saved : ∀ batch ∈ batches, Saved group seen batch
  pending : (session.runtime.pending group).map PendingFeedback.feedback = mergeAll unsaved
  /-- A snapshot in flight is of the first of what is pending, of all of it as long as
  its generation is that of the entry. -/
  copied : ∀ entry, session.gate.saving = some (group, entry) →
    ∃ copy later, unsaved = copy ++ later ∧ mergeAll copy = some entry.feedback ∧
      ∀ present, session.runtime.pending group = some present →
        present.generation = entry.generation → later = []
  committed : ∀ entry, session.gate.saved = some (group, entry) →
    entry.feedback ∈ savings group seen
  /-- Nothing is committed that was not reported. -/
  sections : ∀ merged ∈ savings group seen, ∃ batch, batch <:+: reports group seen ∧
    mergeAll batch = some merged

namespace Batched

variable {codec : PayloadCodec} {group : QuotaGroup} {seen emitted : List Event}
  {session following : Session} {batches : List (List QuotaFeedback)}
  {unsaved : List QuotaFeedback} {place : Nat}

/-- A fresh session has no reports. -/
theorem fresh (group : QuotaGroup) (settings : Settings) (highWater : Int) :
    Batched group [] (.fresh settings highWater) [] [] where
  split := rfl
  saved := fun _ none => absurd none List.not_mem_nil
  pending := rfl
  copied := fun _ => nofun
  committed := fun _ => nofun
  sections := fun _ none => absurd none List.not_mem_nil

/-- Where nothing is pending every report was committed. -/
theorem covered (batched : Batched group seen session batches unsaved)
    (inside : place < batches.flatten.length) : Covered group seen place := by
  obtain ⟨before, batch, after, split, member, low, high⟩ := exists_batch inside
  refine ⟨before, batch, after ++ unsaved, ?_, low, high, batched.saved batch member⟩
  rw [batched.split, split, List.append_assoc (before ++ batch)]

/-- Where nothing is retained, nothing is unsaved. -/
theorem unsaved_eq_nil (batched : Batched group seen session batches unsaved)
    (idle : session.runtime.pending group = none) : unsaved = [] := by
  have none_ := batched.pending
  rw [idle] at none_
  exact mergeAll_eq_none.mp none_.symm

/-- A move that touches neither the reports nor the commits of the group. -/
theorem frame (batched : Batched group seen session batches unsaved)
    (unretained : ∀ feedback, Event.feedbackRetained group feedback ∉ emitted)
    (unapplied : ∀ feedback now, Event.feedbackCommitted group feedback now ∉ emitted)
    (pending : following.runtime.pending group = session.runtime.pending group)
    (within : following.gate.Within session.gate) :
    Batched group (seen ++ emitted) following batches unsaved where
  split := by rw [reports_append, reports_eq_nil unretained, List.append_nil, batched.split]
  saved := fun batch member => (batched.saved batch member).append emitted
  pending := by rw [pending, batched.pending]
  copied := by
    intro entry saving
    rw [pending]
    exact batched.copied entry (within.saving _ saving)
  committed := by
    intro entry saved
    rw [savings_append]
    exact List.mem_append_left _ (batched.committed entry (within.saved _ saved))
  sections := by
    rw [savings_append, savings_eq_nil unapplied, List.append_nil, reports_append,
      reports_eq_nil unretained, List.append_nil]
    exact batched.sections

/-- A report joins what is pending. -/
theorem retain (batched : Batched group seen session batches unsaved) {call : CallId}
    {provider : ProviderId} {report : QuotaFeedback} (own : quotaGroup provider = group)
    (fresh : ∀ old, session.gate.saving = some (group, old) →
      session.runtime.nextGeneration + 1 ≠ old.generation)
    (runtime : following.runtime = session.runtime.retain group report)
    (gate : following.gate = session.gate) :
    Batched group (seen ++ [.callStarted call (.feedback provider),
      .feedbackRetained (quotaGroup provider) report]) following batches
        (unsaved ++ [report]) := by
  subst own
  have arrived : reports (quotaGroup provider) [.callStarted call (.feedback provider),
      .feedbackRetained (quotaGroup provider) report] = [report] := by
    simp [reports, Event.report, List.filterMap_cons]
  refine ⟨?_, fun batch member => (batched.saved batch member).append _, ?_, ?_, ?_, ?_⟩
  · rw [reports_append, arrived, batched.split, List.append_assoc]
  · rw [mergeAll_snoc, ← batched.pending, runtime, RuntimeState.retain]
    simp only [Function.update_self, Option.map_some]
    cases session.runtime.pending (quotaGroup provider) <;> rfl
  · intro entry saving
    rw [gate] at saving
    obtain ⟨copy, later, rfl, same, _⟩ := batched.copied entry saving
    refine ⟨copy, later ++ [report], List.append_assoc .., same, ?_⟩
    intro present here equal
    rw [runtime, RuntimeState.retain] at here
    simp only [Function.update_self, Option.some.injEq] at here
    rw [← here] at equal
    exact absurd equal (fresh entry saving)
  · intro entry saved
    rw [gate] at saved
    rw [savings_append]
    exact List.mem_append_left _ (batched.committed entry saved)
  · intro merged member
    have earlier : merged ∈ savings (quotaGroup provider) seen := by
      rw [savings_append] at member
      rcases List.mem_append.mp member with earlier | here
      · exact earlier
      · exact absurd here List.not_mem_nil
    obtain ⟨batch, inside, same⟩ := batched.sections merged earlier
    rw [reports_append]
    exact ⟨batch, inside.trans (List.prefix_append _ _).isInfix, same⟩

/-- A snapshot copies all of what is pending. -/
theorem snapshot (batched : Batched group seen session batches unsaved)
    (pending : following.runtime.pending = session.runtime.pending)
    (taken : ∀ old, following.gate.saving = some (group, old) →
      session.runtime.pending group = some old)
    (uncommitted : following.gate.saved = none) :
    Batched group (seen ++ []) following batches unsaved := by
  rw [List.append_nil]
  refine ⟨batched.split, batched.saved, by rw [pending, batched.pending], ?_, ?_,
    batched.sections⟩
  · intro entry saving
    refine ⟨unsaved, [], (List.append_nil _).symm, ?_, fun _ _ _ => rfl⟩
    rw [← batched.pending, taken entry saving]
    rfl
  · intro entry saved
    rw [uncommitted] at saved
    cases saved

/-- A commit saves the snapshot of the gate, and nothing else. -/
theorem commit (batched : Batched group seen session batches unsaved)
    (unretained : ∀ feedback, Event.feedbackRetained group feedback ∉ emitted)
    (runtime : following.runtime = session.runtime)
    (saving : following.gate.saving = session.gate.saving)
    (applied : ∀ merged, merged ∈ savings group emitted ↔
      ∃ entry, session.gate.saving = some (group, entry) ∧ entry.feedback = merged) :
    Batched group (seen ++ emitted) following batches unsaved := by
  refine ⟨?_, fun batch member => (batched.saved batch member).append _, ?_, ?_, ?_, ?_⟩
  · rw [reports_append, reports_eq_nil unretained, List.append_nil, batched.split]
  · rw [runtime, batched.pending]
  · rw [runtime, saving]
    exact batched.copied
  · intro entry saved
    have inFlight := Gate.saving_of_saved saved
    rw [saving] at inFlight
    rw [savings_append]
    exact List.mem_append_right _ ((applied entry.feedback).mpr ⟨entry, inFlight, rfl⟩)
  · intro merged member
    rw [savings_append] at member
    rw [reports_append, reports_eq_nil unretained, List.append_nil]
    rcases List.mem_append.mp member with earlier | here
    · exact batched.sections merged earlier
    · obtain ⟨entry, inFlight, rfl⟩ := (applied merged).mp here
      obtain ⟨copy, later, split, same, _⟩ := batched.copied entry inFlight
      refine ⟨copy, ⟨batches.flatten, later, ?_⟩, same⟩
      rw [batched.split, split, List.append_assoc]

/-- Clearing drops a batch that was committed, or nothing. -/
theorem clear (batched : Batched group seen session batches unsaved) {provider : ProviderId}
    {saved : Option PendingFeedback}
    (own : session.gate.saved = saved.map (fun old => (quotaGroup provider, old)))
    (runtime : following.runtime = session.runtime.clearPending (quotaGroup provider) saved)
    (cleared : following.gate.saving = none)
    (decided : ∀ call asked snapshot decision,
      following.gate.decided call asked snapshot decision →
      session.gate.decided call asked snapshot decision) :
    ∃ batches unsaved, Batched group (seen ++ []) following batches unsaved := by
  have within : following.gate.Within session.gate := .of_cleared cleared decided
  by_cases kept : following.runtime.pending group = session.runtime.pending group
  · exact ⟨batches, unsaved, batched.frame (fun _ => List.not_mem_nil)
      (fun _ _ => List.not_mem_nil) kept within⟩
  -- the entry is dropped: all of what is pending is the snapshot, which was committed
  rw [runtime] at kept
  obtain ⟨rfl, old, entry, rfl, present, equal⟩ := RuntimeState.of_clearPending_ne kept
  have committed := own.trans (Option.map_some ..)
  obtain ⟨copy, later, rfl, same, whole⟩ := batched.copied old (Gate.saving_of_saved committed)
  obtain rfl := whole entry present equal
  rw [List.append_nil] at batched ⊢
  refine ⟨batches ++ [copy], [], ?_, ?_, ?_, ?_, ?_, batched.sections⟩
  · rw [batched.split, List.flatten_append, List.flatten_singleton, List.append_nil]
  · intro batch member
    rcases List.mem_append.mp member with earlier | here
    · exact batched.saved batch earlier
    · rw [List.mem_singleton.mp here]
      exact ⟨old.feedback, batched.committed old committed, same⟩
  · rw [runtime, RuntimeState.clearPending, present, Option.any_some,
      if_pos (decide_eq_true equal)]
    simp only [Function.update_self]
    rfl
  · intro other saving
    rw [cleared] at saving
    cases saving
  · intro other saved
    rw [Gate.saving_of_saved saved] at cleared
    cases cleared

/-- Every step keeps the reports in batches. -/
theorem step (batched : Batched group seen session batches unsaved) {after : World}
    {database : Database} (taken : FreshStep codec (.running database session) emitted after)
    (open_ : Event.closed ∉ emitted) :
    ∃ next following batches unsaved, after = .running next following ∧
      Batched group (seen ++ emitted) following batches unsaved := by
  obtain ⟨taken, fresh⟩ := taken
  obtain ⟨rfl, _⟩ | ⟨next, following, rfl, _, move⟩ := taken.move
  · exact absurd (List.mem_singleton.mpr rfl) open_
  cases move with
  | idle idle =>
      exact ⟨next, following, batches, unsaved, rfl, batched.frame (idle.unretained group)
        (idle.unapplied group) (by rw [idle.pending]) idle.within⟩
  | retained call provider feedback runtime gate =>
      by_cases own : quotaGroup provider = group
      · refine ⟨_, following, batches, unsaved ++ [feedback], rfl,
          batched.retain own ?_ (own ▸ runtime) gate⟩
        intro old saving
        exact fresh _ feedback old (by simp) (own ▸ saving)
      · refine ⟨_, following, batches, unsaved, rfl, batched.frame ?_ (by simp) ?_
          (gate ▸ .refl _)⟩
        · intro reported member
          simp only [List.mem_cons, reduceCtorEq, Event.feedbackRetained.injEq, List.not_mem_nil,
            or_false, false_or] at member
          exact own member.1.symm
        · rw [runtime]
          exact RuntimeState.retain_of_ne (Ne.symm own) feedback
  | reserveSnapshot call provider wall free runtime gate =>
      refine ⟨_, following, batches, unsaved, rfl,
        batched.snapshot (by rw [runtime]; rfl) ?_ (by rw [gate]; rfl)⟩
      intro old saving
      obtain ⟨rfl, present⟩ := Gate.saving_reserving.mp (gate ▸ saving)
      exact present
  | feedbackSnapshot call provider wall pending free runtime unsaved gate =>
      refine ⟨_, following, batches, _, rfl,
        batched.snapshot (by rw [runtime]; rfl) ?_ (by rw [gate]; rfl)⟩
      intro old saving
      obtain ⟨rfl, rfl⟩ := Gate.saving_applying.mp (gate ▸ saving)
      exact unsaved
  | reserveCommitted call provider snapshot decision held reserves runtime gate =>
      refine ⟨_, following, batches, unsaved, rfl, batched.commit ?_ runtime
        (by rw [gate, held]; rfl) ?_⟩
      · exact reservation_unretained _ _ _ _ _ _
      · intro merged
        rw [savings_append, savings_grantedReservation, List.append_nil,
          mem_savings_appliedFeedback, held]
        simp only [Gate.saving_reserving]
        tauto
  | feedbackCommitted call provider now pending held applies runtime gate =>
      refine ⟨_, following, batches, unsaved, rfl, batched.commit ?_ runtime
        (by rw [gate, held]; rfl) ?_⟩
      · exact appliedFeedback_unretained _ _ _ _
      · intro merged
        rw [mem_savings_appliedFeedback, held]
        simp only [Gate.saving_applying, Option.some.injEq]
        tauto
  | reserveCleared call provider snapshot decision held runtime gate =>
      obtain ⟨batches, unsaved, cleared⟩ := batched.clear (by rw [held]; rfl) runtime
        (by rw [gate]; rfl) (by
          rw [gate]
          rintro asked other taken settled (same | same) <;> cases same
          exact Or.inl held)
      exact ⟨_, following, batches, unsaved, rfl, cleared⟩
  | feedbackCleared call provider pending held runtime gate =>
      have own : session.gate.saved =
          (some pending).map (fun old => (quotaGroup provider, old)) := by
        rw [held]
        rfl
      obtain ⟨batches, unsaved, cleared⟩ := batched.clear own runtime (by rw [gate]; rfl) (by
        rw [gate]
        rintro asked other taken settled (same | same) <;> cases same)
      exact ⟨_, following, batches, unsaved, rfl, cleared⟩

end Batched

/-! ### The report of one call -/

/-- Where the report of a call of `feedback` is. -/
inductive Tracked (group : QuotaGroup) (call : CallId) (provider : ProviderId) (place : Nat)
    (seen : List Event) (session : Session) : Prop
  | failed (member : .callFailed call ∈ seen)
  | waits (queued : (call, .feedback provider) ∈ session.waiting)
  /-- It is in the snapshot of the call itself. -/
  | applying {now : Int} {entry : PendingFeedback} {before batch after : List QuotaFeedback}
      (held : session.gate = .applying call provider now entry)
      (split : reports group seen = before ++ batch ++ after) (low : before.length ≤ place)
      (high : place < before.length + batch.length) (copied : mergeAll batch = some entry.feedback)
  | covered (covered : Covered group seen place)

namespace Tracked

variable {codec : PayloadCodec} {group : QuotaGroup} {call : CallId} {provider : ProviderId}
  {place : Nat} {seen emitted : List Event} {database next : Database}
  {session following : Session} {batches : List (List QuotaFeedback)}
  {unsaved : List QuotaFeedback}

/-- A call that still waits keeps its report in the same place. -/
theorem stay {front back : List (CallId × Request)} {other : CallId × Request}
    (queued : (call, .feedback provider) ∈ session.waiting)
    (split : session.waiting = front ++ other :: back)
    (remaining : following.waiting = front ++ back)
    (distinct : other ≠ (call, .feedback provider)) :
    Tracked group call provider place seen following := by
  refine .waits ?_
  rw [split] at queued
  rw [remaining]
  rcases List.mem_append.mp queued with before | rest
  · exact List.mem_append_left _ before
  · rcases List.mem_cons.mp rest with rfl | behind
    · exact absurd rfl distinct
    · exact List.mem_append_right _ behind

/-- A report that waits is committed, or copied by its own call, when the call enters. -/
theorem step_waits (batched : Batched group seen session batches unsaved)
    (inside : place < (reports group seen).length) (own : quotaGroup provider = group)
    (queued : (call, .feedback provider) ∈ session.waiting)
    (taken : Step codec (.running database session) emitted (.running next following)) :
    Tracked group call provider place (seen ++ emitted) following := by
  cases taken with
  | started | retained => exact .waits (List.mem_append_left _ queued)
  | @abandoned _ _ front back other request split =>
      by_cases same : (other, request) = (call, .feedback provider)
      · cases same
        exact .failed (List.mem_append_right _ List.mem_cons_self)
      · exact stay queued split rfl same
  | performed wall free split performs | unreported wall free split performs
  | unperformed wall free split performs =>
      refine stay queued split rfl ?_
      rintro ⟨⟩
      cases performs
  | reserveBehind wall free split | reserveSnapshot wall free split =>
      exact stay queued split rfl nofun
  | @feedbackSaved _ _ front back other asked wall free split saved =>
      by_cases same : (other, Request.feedback asked) = (call, .feedback provider)
      · cases same
        rw [own] at saved
        obtain rfl := batched.unsaved_eq_nil saved
        rw [batched.split, List.append_nil] at inside
        exact .covered ((batched.covered inside).append _)
      · exact stay queued split rfl same
  | @feedbackSnapshot _ _ front back other asked pending wall free split waits =>
      by_cases same : (other, Request.feedback asked) = (call, .feedback provider)
      · cases same
        rw [List.append_nil]
        by_cases early : place < batches.flatten.length
        · exact .covered (batched.covered early)
        have merged := batched.pending
        rw [← own, waits] at merged
        rw [batched.split, List.length_append] at inside
        refine .applying rfl (batched.split.trans (List.append_nil _).symm) (by omega) inside
          merged.symm
      · exact stay queued split rfl same
  | _ => exact .waits queued

/-- Every step keeps track of the report of a call. -/
theorem step (tracked : Tracked group call provider place seen session)
    (batched : Batched group seen session batches unsaved)
    (inside : place < (reports group seen).length) (own : quotaGroup provider = group)
    (taken : Step codec (.running database session) emitted (.running next following)) :
    Tracked group call provider place (seen ++ emitted) following := by
  cases tracked with
  | failed member => exact .failed (List.mem_append_left _ member)
  | covered covered => exact .covered (covered.append emitted)
  | waits queued => exact step_waits batched inside own queued taken
  | @applying now entry before batch after held split low high copied =>
      have wider : reports group (seen ++ emitted) =
          before ++ batch ++ (after ++ reports group emitted) := by
        rw [reports_append, split, List.append_assoc (before ++ batch)]
      have more : ∀ {following : Session}, following.gate = session.gate →
          Tracked group call provider place (seen ++ emitted) following :=
        fun gate => .applying (gate.trans held) wider low high copied
      cases taken with
      | started | retained | abandoned => exact more rfl
      | performed wall free | unreported wall free | unperformed wall free
      | reserveBehind wall free | reserveSnapshot wall free | feedbackSaved wall free
      | feedbackSnapshot wall free => cases held.symm.trans free
      | reserveCommitted busy | reserveCleared busy | reserveReturned busy
      | feedbackCleared busy => cases held.symm.trans busy
      | feedbackCommitted busy applies =>
          cases held.symm.trans busy
          refine .covered ⟨before, batch, _, wider, low, high, entry.feedback, ?_, copied⟩
          rw [savings_append]
          exact List.mem_append_right _ (mem_savings_appliedFeedback.mpr ⟨own, entry, rfl, rfl⟩)
      | released busy =>
          rw [held] at busy
          cases busy
          exact .failed (List.mem_append_right _ List.mem_cons_self)

end Tracked

/-! ### A whole session -/

section Run

variable {codec : PayloadCodec} {group : QuotaGroup} {seen trace : List Event} {start : World}
  {database current : Database} {session reached : Session}
  {batches : List (List QuotaFeedback)} {unsaved : List QuotaFeedback}

/-- A session keeps the reports in batches. -/
theorem Batched.run (batched : Batched group seen session batches unsaved)
    (run : Run (FreshStep codec) (.running database session) trace (.running current reached))
    (oneProcess : Event.closed ∉ trace) :
    ∃ batches unsaved, Batched group (seen ++ trace) reached batches unsaved := by
  have always := run.invariant (fun more world => Event.closed ∉ more →
    ∃ next following batches unsaved, world = .running next following ∧
      Batched group (seen ++ more) following batches unsaved) ?_ ?_
  · obtain ⟨_, _, batches, unsaved, same, kept⟩ := always oneProcess
    cases same
    exact ⟨batches, unsaved, kept⟩
  · exact fun _ => ⟨_, _, batches, unsaved, rfl, by rwa [List.append_nil]⟩
  · intro more before events after _ kept taken open_
    rw [List.mem_append, not_or] at open_
    obtain ⟨_, _, _, _, rfl, still⟩ := kept open_.1
    rw [← List.append_assoc]
    exact still.step taken open_.2

/-- A session keeps track of the report of a call. -/
theorem Tracked.run {call : CallId} {provider : ProviderId} {place : Nat}
    (tracked : Tracked group call provider place seen session)
    (batched : Batched group seen session batches unsaved)
    (inside : place < (reports group seen).length) (own : quotaGroup provider = group)
    (run : Run (FreshStep codec) (.running database session) trace (.running current reached))
    (oneProcess : Event.closed ∉ trace) :
    Tracked group call provider place (seen ++ trace) reached := by
  have always := run.invariant (fun more world => Event.closed ∉ more →
    ∃ next following batches unsaved, world = .running next following ∧
      Batched group (seen ++ more) following batches unsaved ∧
      Tracked group call provider place (seen ++ more) following) ?_ ?_
  · obtain ⟨_, _, _, _, same, _, kept⟩ := always oneProcess
    cases same
    exact kept
  · intro _
    rw [List.append_nil]
    exact ⟨_, _, batches, unsaved, rfl, batched, tracked⟩
  · intro more before events after _ kept taken open_
    rw [List.mem_append, not_or] at open_
    obtain ⟨_, _, _, _, rfl, still, here⟩ := kept open_.1
    rw [← List.append_assoc]
    obtain ⟨_, _, _, _, rfl, next⟩ := still.step taken open_.2
    refine ⟨_, _, _, _, rfl, next, here.step still ?_ own taken.1⟩
    rw [reports_append, List.length_append]
    omega

/-- Only the step that retains a report starts a call of `feedback`. -/
theorem Step.of_feedbackStarted {before after : World} {emitted : List Event} {call : CallId}
    {provider : ProviderId} (taken : Step codec before emitted after)
    (started : Event.callStarted call (.feedback provider) ∈ emitted) :
    ∃ database session report following, before = .running database session ∧
      emitted = [.callStarted call (.feedback provider),
        .feedbackRetained (quotaGroup provider) report] ∧
      after = .running database following ∧ (call, .feedback provider) ∈ following.waiting := by
  cases taken with
  | started request unretained queues =>
      cases List.mem_singleton.mp started
      exact absurd rfl (unretained provider)
  | retained asked feedback =>
      rcases List.mem_cons.mp started with same | rest
      · cases same
        exact ⟨_, _, feedback, _, rfl, rfl, rfl, List.mem_append_right _ List.mem_cons_self⟩
      · cases List.mem_singleton.mp rest
  | @performed _ _ _ _ _ request done wall free queued performs =>
      obtain ⟨_, commits, returns⟩ := request.perform_ok performs
      rcases List.mem_append.mp started with first | second
      · exact (commits _ first).elim
      · exact (returns _ second).elim
  | @unreported _ _ _ _ _ request done wall free queued performs =>
      obtain ⟨_, commits, _⟩ := request.perform_ok performs
      rcases List.mem_append.mp started with first | second
      · exact (commits _ first).elim
      · cases List.mem_singleton.mp second
  | @reserveCommitted _ _ _ _ _ snapshot decision held reserves =>
      rcases List.mem_append.mp started with first | second
      · cases pending : snapshot.pending <;> rw [pending] at first <;>
          simp [appliedFeedback] at first
      · unfold grantedReservation at second
        split at second <;> simp at second
  | _ =>
      simp [appliedFeedback] at started

/-- What a session has done with the reports of a group. -/
structure ReportsKept (codec : PayloadCodec) (group : QuotaGroup) (trace : List Event)
    (database : Database) (session : Session) : Prop where
  /-- They divide into batches, the merge of each of which was committed, and the rest,
  the merge of which is what is pending. -/
  divided : ∃ (batches : List (List QuotaFeedback)) (unsaved : List QuotaFeedback),
    reports group trace = batches.flatten ++ unsaved ∧
    (∀ batch ∈ batches, Saved group trace batch) ∧
    (session.runtime.pending group).map PendingFeedback.feedback = mergeAll unsaved
  /-- Nothing is committed but neighbouring reports, merged in their order. Two of these
  may share a report. -/
  genuine : ∀ merged ∈ savings group trace, ∃ batch, batch <:+: reports group trace ∧
    mergeAll batch = some merged
  /-- The report of a call that is over and did not fail is committed. -/
  acknowledged : ∀ call provider, quotaGroup provider = group →
    Event.callStarted call (.feedback provider) ∈ trace → Event.callFailed call ∉ trace →
    (call, .feedback provider) ∉ session.waiting → session.gate.holder ≠ some call →
    ∃ front report back, trace = front ++ [.callStarted call (.feedback provider),
      .feedbackRetained group report] ++ back ∧ Covered group trace (reports group front).length
  /-- Where a reserve is granted every report is committed. -/
  granted : ∀ emitted after call provider wall, quotaGroup provider = group →
    Step codec (.running database session) emitted after →
    Event.reserveReturned call provider wall (.ok ()) ∈ emitted →
    ∀ place < (reports group trace).length, Covered group trace place

/-- **No report is lost.** In every session, whatever is cancelled, fails or times out
and however its calls interleave, as long as no retention repeats the generation of a
snapshot in flight: the reports of a group divide, in the order of their arrival, into
batches whose merges were committed and a rest whose merge is exactly what is pending,
and all that is ever committed are merges of neighbours. When a call of `feedback` is
over without a failure its report is in one of them, and a reserve is granted only where
all reports are. -/
theorem reports_kept {file : Option Database} {settings : Settings} {opening : DateTime}
    {effective : Int}
    (opened : Step codec (.closed file) [.opened settings opening effective] start)
    (run : Run (FreshStep codec) start trace (.running current reached))
    (oneProcess : Event.closed ∉ trace) (group : QuotaGroup) :
    ReportsKept codec group trace current reached := by
  cases opened with
  | opened reconciled =>
      obtain ⟨batches, unsaved, batched⟩ :=
        (Batched.fresh group settings effective).run run oneProcess
      rw [List.nil_append] at batched
      refine ⟨⟨batches, unsaved, batched.split, batched.saved, batched.pending⟩,
        batched.sections, ?_, ?_⟩
      · intro call provider own started unfailed gone ended
        obtain ⟨past, _, _, _, rest, rfl, inside, front, taken, back⟩ := run.step_of_mem started
        obtain ⟨_, session, report, following, rfl, rfl, rfl, queued⟩ :=
          taken.1.of_feedbackStarted inside
        have open_ : Event.closed ∉ past ∧ Event.closed ∉ rest := by
          simp only [List.mem_append, not_or] at oneProcess
          exact ⟨oneProcess.1, oneProcess.2.2⟩
        obtain ⟨_, _, earlier⟩ :=
          (Batched.fresh group settings effective).run front open_.1
        rw [List.nil_append] at earlier
        obtain ⟨_, _, _, _, same, arrived⟩ := earlier.step taken (by simp)
        cases same
        have place : (reports group past).length < (reports group (past ++
            [.callStarted call (.feedback provider),
              .feedbackRetained (quotaGroup provider) report])).length := by
          simp [reports, Event.report, List.filterMap_cons, own]
        have tracked := (Tracked.waits queued).run arrived place own back open_.2
        rw [List.append_assoc] at tracked
        rw [own] at tracked ⊢
        refine ⟨past, report, rest, (List.append_assoc ..).symm, ?_⟩
        cases tracked with
        | failed member =>
            rw [own] at unfailed
            exact absurd member unfailed
        | waits queued => exact absurd queued gone
        | applying held =>
            rw [held] at ended
            exact absurd rfl ended
        | covered covered => exact covered
      · intro emitted after call provider wall own taken answered place inside
        obtain ⟨_, _, _, _, same, _, _, _, saved, _⟩ := taken.of_grant answered
        cases same
        rw [own] at saved
        obtain rfl := batched.unsaved_eq_nil saved
        rw [batched.split, List.append_nil] at inside
        exact batched.covered inside

/-- A report comes while another is saved: both stay, and what is saved next is their
merge, although the first is committed. -/
def overtaken : List Event :=
  [.callStarted 0 (.feedback .abuseipdb), .feedbackRetained .abuseipdbCheck (.cooldown none),
    .callStarted 1 (.feedback .abuseipdb),
    .feedbackRetained .abuseipdbCheck (.cooldown (some .epoch)),
    .feedbackCommitted .abuseipdbCheck (.cooldown none) 0]

/-- A report that a later one overtakes, with its call still waiting. -/
theorem reports_kept_overtaken :
    ∃ database session, Run (FreshStep .blank) .first overtaken (.running database session) ∧
      session.waiting = [(1, .feedback .abuseipdb)] ∧
      ReportsKept .blank .abuseipdbCheck overtaken database session := by
  have run : Run (FreshStep .blank) .first [] .first := .refl
  have run := run.snoc (Step.fresh (.retained .abuseipdb (.cooldown none)) rfl)
  have run := run.snoc (Step.fresh_of_unretained (@Step.feedbackSnapshot _ _ _ [] [] _ _ _ .epoch
    rfl rfl rfl) fun _ _ => List.not_mem_nil)
  have run := run.snoc ⟨.retained .abuseipdb (.cooldown (some .epoch)), by
    rintro group feedback pending member ⟨⟩
    exact (by decide : (0 : UInt64) + 1 + 1 ≠ 0 + 1)⟩
  have run := run.snoc (Step.fresh_of_unretained (.feedbackCommitted rfl rfl)
    fun group => appliedFeedback_unretained _ group _ _)
  have run := run.snoc (Step.fresh_of_unretained (.feedbackCleared rfl)
    fun _ _ => List.not_mem_nil)
  have run : Run (FreshStep .blank) .first overtaken _ := run
  exact ⟨_, _, run, rfl, reports_kept (first_opened .blank) run (by simp [overtaken]) _⟩

end Run

end RustEnrich.Storage
