import RustEnrich.Enrichment.Fetch
import RustEnrich.Storage.QuotaSoundness

/-!
# What response headers report

The quota feedback read off the headers of a response. Its allowance fits a
signed column, so feedback from responses never makes quota state invalid: over
every run, no transaction finds invalid data and every database opens again.
-/

namespace RustEnrich.Enrichment

open Transitions Storage

/-- A header map as it is read here: the first value of a name, if its text is
visible ASCII. -/
abbrev HeaderMap := String → Option String

/-- A text of digits, and not empty. -/
def isDigits (text : String) : Bool :=
  !text.isEmpty && text.toList.all Char.isDigit

/-- `str::parse::<u64>` of decimal digits. -/
def parseU64 (digits : String) : Option UInt64 :=
  let value := digits.toList.foldl (fun value digit => value * 10 + (digit.toNat - 48)) 0
  if value ≤ u64Max then some (.ofNat value) else none

/-- `parse_retry_after`, where `parseHttpDate` is that of the `httpdate` crate. -/
def parseRetryAfter (parseHttpDate : String → Option DateTime) (value : Option String)
    (now : DateTime) : Option Duration :=
  match value with
  | none => none
  | some value =>
      if isDigits value then
        (parseU64 value).map .fromSecs
      else
        (parseHttpDate value).map fun date => .fromSecs (.ofNat (secondsUntil date now))

/-- The closure `number` of `feedback_from_headers`. -/
def number (headers : HeaderMap) (name : String) : Option Nat :=
  ((((headers name).filter isDigits).bind parseU64).map UInt64.toNat).filter
    fun value => (value : Int) ≤ i64Max

/-- `chrono::Duration::from_std`, in nanoseconds. -/
def fromStd (duration : Duration) : Option Int :=
  if (duration.nanos : Int) ≤ i64Max * milliNanos then some duration.nanos else none

/-- The source's `feedback_from_headers`. -/
def feedbackFromHeaders (parseHttpDate : String → Option DateTime) (id : ProviderId)
    (status : UInt16) (headers : HeaderMap) (now : DateTime) : QuotaFeedback :=
  let retry := parseRetryAfter parseHttpDate (headers "retry-after") now
  let (remaining, resetAt) : Option Nat × Option DateTime :=
    match id with
    | .abuseipdb =>
        (number headers "x-ratelimit-remaining",
          (number headers "x-ratelimit-reset").bind fun seconds => DateTime.fromTimestamp seconds)
    | .virustotal => (none, none)
  let retryUntil := (retry.bind fromStd).bind now.checkedAddSigned
  let known := laterOf retryUntil (if status = 429 ∨ remaining = some 0 then resetAt else none)
  { cooldownUntil :=
      if status = 429 then known.or (now.checkedAddSigned (60 * 1000000000)) else known
    unknownReset := status = 429 ∧ known = none
    remaining
    resetAt }

section Rounding

variable {now date target : DateTime}

/-- A checked sum is the sum, where it is an instant. -/
theorem checkedAddSigned_eq_some {nanos : Int} :
    now.checkedAddSigned nanos = some target ↔ target.nanos = now.nanos + nanos := by
  unfold DateTime.checkedAddSigned DateTime.ofNanos
  constructor
  · intro reached
    split at reached
    · cases reached
      rfl
    · cases reached
  · intro reached
    have inside := And.intro target.lower target.upper
    rw [reached] at inside
    rw [dif_pos inside]
    exact congrArg some (DateTime.nanos_injective reached.symm)

/-- The rounded wait is the least count that covers the whole milliseconds. -/
theorem secondsUntil_le_iff (count : Nat) :
    secondsUntil date now ≤ count ↔ date.nanos - now.nanos < (count * 1000 + 1) * milliNanos := by
  unfold secondsUntil milliNanos
  rcases le_or_gt 0 (date.nanos - now.nanos) with ahead | past
  · rw [Int.tdiv_eq_ediv_of_nonneg ahead]
    omega
  · have opposite : 0 ≤ (-(date.nanos - now.nanos)).tdiv 1000000 :=
      Int.tdiv_nonneg (by omega) (by decide)
    rw [Int.neg_tdiv] at opposite
    omega

/-- Whole seconds are converted where they are not too many. -/
theorem fromStd_fromSecs {seconds : UInt64} {nanos : Int} :
    fromStd (.fromSecs seconds) = some nanos ↔
      ((seconds.toNat * secondNanos : Nat) : Int) ≤ i64Max * milliNanos ∧
        nanos = (seconds.toNat * secondNanos : Nat) := by
  unfold fromStd Duration.fromSecs
  split
  · rename_i finite
    simp only [Option.some.injEq, finite, true_and, eq_comm]
  · rename_i infinite
    simp only [reduceCtorEq, infinite, false_and]

/-- The seconds between two instants are converted. -/
theorem fromStd_secondsUntil :
    fromStd (.fromSecs (.ofNat (secondsUntil date now))) =
      some ((secondsUntil date now * secondNanos : Nat) : Int) := by
  have lower := now.lower
  have upper := date.upper
  have bound : secondsUntil date now ≤ 20000000000000 := by
    rw [secondsUntil_le_iff]
    simp only [minMillis, maxMillis, NaiveDate.min, NaiveDate.max, dayMillis, milliNanos] at *
    omega
  have fits : (UInt64.ofNat (secondsUntil date now)).toNat = secondsUntil date now := by
    apply UInt64.toNat_ofNat_of_lt'
    exact bound.trans_lt (by decide)
  rw [fromStd_fromSecs, fits]
  refine ⟨?_, rfl⟩
  simp only [secondNanos, i64Max, milliNanos]
  omega

end Rounding

/-- The window a response reports, read from AbuseIPDB only. -/
def reportedReset (headers : HeaderMap) : ProviderId → Option DateTime
  | .abuseipdb =>
      (number headers "x-ratelimit-reset").bind fun seconds => DateTime.fromTimestamp seconds
  | .virustotal => none

/-- What the headers say is left. -/
def reportedRemaining (headers : HeaderMap) : ProviderId → Option Nat
  | .abuseipdb => number headers "x-ratelimit-remaining"
  | .virustotal => none

/-- The latest time a response asks to wait until. -/
def askedUntil (parseHttpDate : String → Option DateTime) (id : ProviderId) (status : UInt16)
    (headers : HeaderMap) (now : DateTime) : Option DateTime :=
  laterOf
    (((parseRetryAfter parseHttpDate (headers "retry-after") now).bind fromStd).bind
      now.checkedAddSigned)
    (if status = 429 ∨ reportedRemaining headers id = some 0 then reportedReset headers id
      else none)

/-- The feedback, field by field. -/
theorem feedbackFromHeaders_eq (parseHttpDate : String → Option DateTime) (id : ProviderId)
    (status : UInt16) (headers : HeaderMap) (now : DateTime) :
    feedbackFromHeaders parseHttpDate id status headers now =
      { cooldownUntil :=
          if status = 429 then
            (askedUntil parseHttpDate id status headers now).or
              (now.checkedAddSigned (60 * 1000000000))
          else askedUntil parseHttpDate id status headers now
        unknownReset := status = 429 ∧ askedUntil parseHttpDate id status headers now = none
        remaining := reportedRemaining headers id
        resetAt := reportedReset headers id } := by
  cases id <;> rfl

/-- A number of a header fits its column. -/
theorem number_le {headers : HeaderMap} {name : String} {value : Nat}
    (read : number headers name = some value) : (value : Int) ≤ i64Max := by
  unfold number at read
  simpa using (Option.filter_eq_some_iff.mp read).2

variable {parseHttpDate : String → Option DateTime} {id : ProviderId} {status : UInt16}
  {headers : HeaderMap} {now : DateTime}

/-- The feedback of headers fits its columns. -/
theorem feedbackFromHeaders_representable :
    (feedbackFromHeaders parseHttpDate id status headers now).Representable := by
  intro remaining reported
  cases id with
  | abuseipdb => exact number_le reported
  | virustotal => cases reported

/-! ### Quota state over every run -/

/-- The feedback of a trace was read off responses. -/
def FromHeaders (parseHttpDate : String → Option DateTime) (trace : List Event) : Prop :=
  ∀ group feedback, Event.feedbackRetained group feedback ∈ trace →
    ∃ provider status headers now, group = quotaGroup provider ∧
      feedback = feedbackFromHeaders parseHttpDate provider status headers now

/-- The years 1970 to 9998. -/
def InYears (reading : DateTime) : Prop :=
  0 ≤ reading.timestampMillis ∧ reading.timestampMillis < firstMillisOf9999

/-- What a world of a run leaves to its transactions and to the next start. -/
structure QuotaValid (world : World) : Prop where
  day : ∀ database, world.database = some database → ∀ group, ∃ saved,
    (database.quotaState group).day = .ofDate saved ∧ saved ≤ database.clockHighWater / dayMillis
  attempts : ∀ database, world.database = some database →
    ∀ row ∈ database.quotaAttempts, row.reservedAt ≤ database.clockHighWater
  reserve : ∀ database session call provider snapshot, world = .running database session →
    session.gate = .reserving call provider snapshot →
      ∃ next decision, reserveTransaction database (quotaGroup provider)
        (session.settings.limits provider) snapshot.wall snapshot.now snapshot.pending =
          .ok (next, decision)
  feedback : ∀ database session call provider now pending, world = .running database session →
    session.gate = .applying call provider now pending →
      ∃ next, feedbackTransaction database (quotaGroup provider)
        (session.settings.limits provider) now pending = .ok next
  retryAfter : ∀ database session, world = .running database session →
    ∀ provider wall, InYears wall →
      ∃ delay, retryAfterTransaction database (quotaGroup provider)
        (session.settings.limits provider) wall (session.runtime.observe wall).highWater
          (session.runtime.pending (quotaGroup provider)) = .ok delay
  opens : ∀ database, world.database = some database → ∀ settings wall,
    ∃ next effective, reconcile settings wall database = .ok (next, effective)

/-- A sound world before the year 9999 is valid. -/
theorem quotaValid_of_sound {world : World} (sound : world.Sound)
    (representable : world.Representable)
    (before : ∀ clock ∈ world.clocks, clock < firstMillisOf9999) : QuotaValid world where
  day := fun database stored group => ((sound.database database stored).state group).day
  attempts := fun database stored => (sound.database database stored).attempts
  reserve := by
    rintro database session call provider snapshot rfl held
    obtain ⟨_, gate⟩ := sound.clocked
    rw [held] at gate
    have early : snapshot.now < firstMillisOf9999 :=
      gate.2 ▸ before session.runtime.highWater (by simp [World.clocks])
    refine (sound.database database rfl).reserve_total gate.1 ?_ (tomorrow_of_before early) _ _
    intro entry present
    exact representable.saving (quotaGroup provider) entry
      (held ▸ Gate.saving_reserving.mpr ⟨rfl, present⟩)
  feedback := by
    rintro database session call provider now pending rfl held
    obtain ⟨_, gate⟩ := sound.clocked
    obtain ⟨instant, effective⟩ := sound.onClock
    rw [held] at gate
    obtain rfl := gate.2.symm.trans effective
    refine (sound.database database rfl).feedback_total gate.1 ?_ _ _
    exact representable.saving (quotaGroup provider) pending
      (held ▸ Gate.saving_applying.mpr ⟨rfl, rfl⟩)
  retryAfter := by
    rintro database session rfl provider wall years
    obtain ⟨instant, effective⟩ := sound.onClock.observe wall
    have early : instant.timestampMillis < firstMillisOf9999 :=
      effective ▸ max_lt (before session.runtime.highWater (by simp [World.clocks])) years.2
    have ahead := sound.clocked.1.trans (session.runtime.highWater_le_observe wall)
    have behind : wall.timestampMillis ≤ (session.runtime.observe wall).highWater :=
      le_max_right _ _
    rw [effective] at ahead behind ⊢
    exact (sound.database database rfl).retryAfter_total ahead behind
      (representable.pending (quotaGroup provider)) (tomorrow_of_before early) _ _
  opens := by
    intro database stored settings wall
    refine (sound.database database stored).reconcile_total (before _ ?_) settings wall
    cases world with
    | closed file =>
        obtain rfl := stored
        simp [World.clocks]
    | running other session =>
        cases stored
        simp [World.clocks]

/-- **Quota state never becomes invalid and always re-opens.** Over every run
from a new file, with any readings in the years 1970 to 9998 and any feedback of
responses, no transaction finds invalid data, every start accepts the database
left behind, and the durable clock never goes back. -/
theorem quota_valid {codec : PayloadCodec} {trace : List Event} {world : World}
    (run : Run (ReadingStep codec InYears) (.closed none) trace world)
    (reported : FromHeaders parseHttpDate trace) :
    QuotaValid world ∧
      ∀ more later, Run (Step codec) world more later → ∀ database next,
        world.database = some database → later.database = some next →
          database.clockHighWater ≤ next.clockHighWater := by
  have taken : Run (Step codec) (.closed none) trace world :=
    run.mono fun _ _ _ step => step.taken
  refine ⟨quotaValid_of_sound (Storage.sound_run taken World.sound_closed)
    (representable_run taken ?_ trivial) ?_, ?_⟩
  · intro group feedback member
    obtain ⟨_, _, _, _, _, rfl⟩ := reported group feedback member
    exact feedbackFromHeaders_representable
  · exact readings_run run (fun _ reading => reading.2) (by simp [World.clocks])
  · intro more later rest database next stored left
    exact clockHighWater_le_run rest stored left

/-- A report of the last request of the day. -/
def lastRequest : HeaderMap := fun name =>
  if name = "x-ratelimit-remaining" then some "0"
  else if name = "x-ratelimit-reset" then some "86400"
  else none

/-- Its feedback, with a given status. -/
def lastRequestFeedback (status : UInt16) : QuotaFeedback :=
  feedbackFromHeaders (fun _ => none) .abuseipdb status lastRequest .epoch

/-- Noon of the first day. -/
def noon : DateTime := ⟨43200000000000, by decide, by decide⟩

/-- A first start on a new file, in the years. -/
theorem ReadingStep.first :
    ReadingStep .blank InYears (.closed none) [.opened .single .epoch 0] .first := by
  refine ⟨first_opened .blank, fun clock kept => Or.inr ⟨.epoch, ⟨by decide, by decide⟩, ?_⟩⟩
  simp only [World.first, World.clocks, List.mem_cons, List.not_mem_nil, or_false] at kept
  rcases kept with rfl | rfl <;> rfl

/-- Two reports of a new file are merged and committed at noon; a third one is
retained, and a reserve has read it and not yet committed. -/
theorem lastRequest_run :
    ∃ trace database session,
      Run (ReadingStep .blank InYears) (.closed none) trace (.running database session) ∧
      FromHeaders (fun _ => none) trace ∧
      Event.feedbackCommitted .abuseipdbCheck
        (mergeFeedback (lastRequestFeedback 200) (lastRequestFeedback 429)) 43200000 ∈ trace ∧
      session.gate = .reserving 3 .abuseipdb
        { wall := noon,
          pending := some { generation := 3, feedback := lastRequestFeedback 200 } } := by
  have observed : ∀ clock : Int, clock ∈ [0, 43200000] → clock ∈ [0, 0] ∨
      ∃ reading, InYears reading ∧ clock = reading.timestampMillis := by
    intro clock kept
    simp only [List.mem_cons, List.not_mem_nil, or_false] at kept
    rcases kept with rfl | rfl
    · exact Or.inl List.mem_cons_self
    · exact Or.inr ⟨noon, ⟨by decide, by decide⟩, rfl⟩
  have committed : ∀ clock : Int, clock ∈ [43200000, 43200000] → clock ∈ [0, 43200000] := by
    intro clock kept
    simp only [List.mem_cons, List.not_mem_nil, or_false, or_self] at kept
    exact kept ▸ List.mem_cons_of_mem _ List.mem_cons_self
  have run := Run.single ReadingStep.first
  have run := run.snoc ⟨.retained .abuseipdb (lastRequestFeedback 200), fun _ kept => Or.inl kept⟩
  have run := run.snoc ⟨.retained .abuseipdb (lastRequestFeedback 429), fun _ kept => Or.inl kept⟩
  have run := run.snoc ⟨@Step.feedbackSnapshot .blank _ _ [] _ 0 .abuseipdb _ noon rfl rfl rfl,
    observed⟩
  have run := run.snoc ⟨.feedbackCommitted rfl rfl, fun _ kept => Or.inl (committed _ kept)⟩
  have run := run.snoc ⟨.feedbackCleared rfl, fun _ kept => Or.inl kept⟩
  have run := run.snoc ⟨.retained .abuseipdb (lastRequestFeedback 200), fun _ kept => Or.inl kept⟩
  have run := run.snoc ⟨.started (.reserve .abuseipdb) (fun _ => nofun) trivial,
    fun _ kept => Or.inl kept⟩
  have run := run.snoc ⟨@Step.reserveSnapshot .blank _ _ [(1, .feedback .abuseipdb),
    (2, .feedback .abuseipdb)] _ 3 .abuseipdb noon rfl rfl (by decide), fun _ kept => Or.inl kept⟩
  refine ⟨_, _, _, run, ?_, ?_, rfl⟩
  · intro group feedback member
    simp only [List.cons_append, List.nil_append, List.mem_cons, reduceCtorEq,
      appliedFeedback, Event.feedbackRetained.injEq, List.not_mem_nil, or_false, false_or] at member
    obtain ⟨rfl, rfl⟩ | ⟨rfl, rfl⟩ | ⟨rfl, rfl⟩ := member
    · exact ⟨.abuseipdb, 200, lastRequest, .epoch, rfl, rfl⟩
    · exact ⟨.abuseipdb, 429, lastRequest, .epoch, rfl, rfl⟩
    · exact ⟨.abuseipdb, 200, lastRequest, .epoch, rfl, rfl⟩
  · exact List.mem_append_left _ (List.mem_append_left _ (List.mem_append_left _
      (List.mem_append_left _ (List.mem_append_right _ List.mem_cons_self))))

/-- The reserve under way over the committed reports commits too. -/
theorem quota_valid_lastRequest :
    ∃ trace database session,
      Run (ReadingStep .blank InYears) (.closed none) trace (.running database session) ∧
      Event.feedbackCommitted .abuseipdbCheck
        (mergeFeedback (lastRequestFeedback 200) (lastRequestFeedback 429)) 43200000 ∈ trace ∧
      session.gate = .reserving 3 .abuseipdb
        { wall := noon,
          pending := some { generation := 3, feedback := lastRequestFeedback 200 } } ∧
      QuotaValid (.running database session) := by
  obtain ⟨trace, database, session, run, reported, committed, held⟩ := lastRequest_run
  exact ⟨trace, database, session, run, committed, held, (quota_valid run reported).1⟩

end RustEnrich.Enrichment
