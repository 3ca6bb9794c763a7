import RustEnrich.Enrichment.Headers
import RustEnrich.Storage.DurableCooldown
import RustEnrich.Storage.Sequential

/-!
# Retry-After dates

The wait until an HTTP date is cut to milliseconds before it is rounded up to
seconds and added to the reading it was taken at. The sum falls short of the
date only where the milliseconds already fill their seconds and the cut part
carries the date into the next millisecond.
-/

namespace RustEnrich.Enrichment

open Transitions Storage

/-- The wait fills its seconds, and what is cut off makes the date later than
the wait. -/
def RoundsShort (date now : DateTime) : Prop :=
  1000 ∣ (date.nanos - now.nanos) / milliNanos ∧
    date.timestampMillis ≠ now.timestampMillis + (date.nanos - now.nanos) / milliNanos

instance (date now : DateTime) : Decidable (RoundsShort date now) :=
  inferInstanceAs (Decidable (_ ∧ _))

/-- A date at a whole second is missed from the last millisecond of a second. -/
theorem roundsShort_of_wholeSecond {date now : DateTime} (whole : 1000000000 ∣ date.nanos) :
    RoundsShort date now ↔ 999000000 < now.nanos % 1000000000 := by
  unfold RoundsShort DateTime.timestampMillis milliNanos
  constructor
  · rintro ⟨seconds, short⟩
    omega
  · intro last
    constructor <;> omega

section Rounding

variable {date now : DateTime}

/-- The rounded wait reaches the millisecond of the date, and stays within a
second of it. -/
theorem reaches_of_not_roundsShort (exact_ : ¬ RoundsShort date now) :
    date.timestampMillis ≤ now.timestampMillis + secondsUntil date now * 1000 := by
  have covers := (@secondsUntil_le_iff now date _).mp (le_refl _)
  unfold RoundsShort DateTime.timestampMillis milliNanos at *
  omega

/-- The rounded wait ends less than a second after the date. -/
theorem secondsUntil_le (ahead : now < date) :
    now.nanos + secondsUntil date now * 1000000000 ≤ date.nanos + 1000000000 := by
  have before : now.nanos < date.nanos := ahead
  by_contra beyond
  have fewer : secondsUntil date now ≤ secondsUntil date now - 1 := by
    rw [secondsUntil_le_iff]
    unfold milliNanos
    omega
  omega

end Rounding

variable {parseHttpDate : String → Option DateTime} {provider : ProviderId} {status : UInt16}
  {headers : HeaderMap} {now date : DateTime} {text : String}

/-- A wait that Retry-After asks for is part of the cooldown. -/
theorem feedbackFromHeaders_retry {retry : Duration} {nanos : Int} {target : DateTime}
    (asked : parseRetryAfter parseHttpDate (headers "retry-after") now = some retry)
    (converted : fromStd retry = some nanos) (reached : now.checkedAddSigned nanos = some target) :
    HeldUntil (feedbackFromHeaders parseHttpDate provider status headers now).cooldownMillis
      target.timestampMillis := by
  obtain ⟨until_, later, after⟩ : ∃ until_,
      askedUntil parseHttpDate provider status headers now = some until_ ∧ target ≤ until_ := by
    unfold askedUntil
    rw [asked, Option.bind_some, converted, Option.bind_some, reached]
    split
    · cases reportedReset headers provider with
      | none => exact ⟨target, rfl, le_refl _⟩
      | some other => exact ⟨max target other, rfl, le_max_left _ _⟩
    · exact ⟨target, rfl, le_refl _⟩
  refine ⟨until_.timestampMillis, ?_, DateTime.timestampMillis_mono after⟩
  rw [feedbackFromHeaders_eq]
  simp only [QuotaFeedback.cooldownMillis, later, Option.some_or, ite_self, Option.map_some]

/-- The cooldown of a date ahead of the reading, where chrono represents the
second after it. -/
theorem feedbackFromHeaders_date (header : headers "retry-after" = some text)
    (notDelta : isDigits text = false) (parsed : parseHttpDate text = some date)
    (ahead : now < date) (inRange : (date.checkedAddSigned 1000000000).isSome) :
    HeldUntil (feedbackFromHeaders parseHttpDate provider status headers now).cooldownMillis
      (now.timestampMillis + secondsUntil date now * 1000) := by
  have upper : date.nanos + 1000000000 < (maxMillis + 1) * milliNanos := by
    unfold DateTime.checkedAddSigned DateTime.ofNanos at inRange
    split at inRange
    · rename_i inside
      exact inside.2
    · cases inRange
  have inside : minMillis * milliNanos ≤ now.nanos + (secondsUntil date now * secondNanos : Nat) ∧
      now.nanos + (secondsUntil date now * secondNanos : Nat) < (maxMillis + 1) * milliNanos := by
    have bound := secondsUntil_le ahead
    have lower := now.lower
    unfold secondNanos
    omega
  have asked : parseRetryAfter parseHttpDate (headers "retry-after") now =
      some (.fromSecs (.ofNat (secondsUntil date now))) := by
    simp only [parseRetryAfter, header, notDelta, Bool.false_eq_true, ↓reduceIte, parsed,
      Option.map_some]
  have held := @feedbackFromHeaders_retry _ provider status _ _ _ _ _ asked fromStd_secondsUntil
    (dif_pos inside)
  have same : (⟨now.nanos + (secondsUntil date now * secondNanos : Nat), inside.1, inside.2⟩ :
      DateTime).timestampMillis = now.timestampMillis + secondsUntil date now * 1000 := by
    unfold DateTime.timestampMillis milliNanos secondNanos
    simp only
    omega
  rwa [same] at held

/-- **A known date is not undercut.** Once the feedback of a response with an
HTTP date ahead of its reading is committed, alone or merged with others, no
reservation of the group is granted at an earlier millisecond, in this session
or a later one, unless the wait rounds short of the date. -/
theorem retryDate_respected {codec : PayloadCodec} {file : Option Database}
    {trace emitted later : List Event} {before after world : World} {merged : QuotaFeedback}
    {effective : Int}
    (header : headers "retry-after" = some text) (notDelta : isDigits text = false)
    (parsed : parseHttpDate text = some date) (ahead : now < date)
    (inRange : (date.checkedAddSigned 1000000000).isSome) (exact_ : ¬ RoundsShort date now)
    (reachable : Run (Step codec) (.closed file) trace before)
    (taken : Step codec before emitted after)
    (saved : Event.feedbackCommitted (quotaGroup provider) merged effective ∈ emitted)
    (part : PartOf (feedbackFromHeaders parseHttpDate provider status headers now) merged)
    (run : Run (Step codec) after later world) :
    ∀ call asked wall, quotaGroup asked = quotaGroup provider →
      Event.reserveReturned call asked wall (.ok ()) ∈ later →
        date.timestampMillis ≤ wall.timestampMillis := by
  intro call asked wall same answered
  have held := @feedbackFromHeaders_date _ provider status _ _ _ _ header notDelta parsed ahead
    inRange
  have respected := granted_after_cooldown reachable taken saved part held run
    { call, group := quotaGroup asked, now := wall.timestampMillis }
    (List.mem_filterMap.mpr ⟨_, answered, rfl⟩) same
  exact (reaches_of_not_roundsShort exact_).trans respected

/-- The date of the header below. -/
def twoSeconds : DateTime := ⟨2000000000, by decide, by decide⟩

/-- The header's text, in the fixed form of an HTTP date. -/
def dateText : String := "Thu, 01 Jan 1970 00:00:02 GMT"

/-- A parser of that one date. -/
def parseTwoSeconds (text : String) : Option DateTime :=
  if text = dateText then some twoSeconds else none

/-- Headers with a Retry-After date alone. -/
def dateHeaders : HeaderMap := fun name => if name = "retry-after" then some dateText else none

/-- The feedback of the date, read at some time. -/
def dateFeedback (now : DateTime) : QuotaFeedback :=
  feedbackFromHeaders parseTwoSeconds .virustotal 503 dateHeaders now

/-- A first report of VirusTotal in a new file, and a reserve after it. -/
theorem reserved_after_report {feedback : QuotaFeedback} {now wall : DateTime} {next : Database}
    (applies : feedbackTransaction (.create .epoch) .virustotal .single
      (max 0 now.timestampMillis) { generation := 1, feedback } = .ok next)
    (granted : Event.reserveReturned 1 .virustotal wall (.ok ()) ∈
      ((Operation.reserve .virustotal).alone .blank wall
        (aloneFeedback now (.create .epoch) (.fresh .single 0) .virustotal
          feedback).world).events) :
    ∃ before after later world trace,
      Run (Step .blank) (.closed none) trace before ∧
      Step .blank before [.feedbackCommitted .virustotal feedback (max 0 now.timestampMillis)]
        after ∧
      Run (Step .blank) after later world ∧
      Event.reserveReturned 1 .virustotal wall (.ok ()) ∈ later := by
  obtain ⟨during, after, earlier, taken, _, rest⟩ :=
    @aloneFeedback_commit (.create .epoch) (.fresh .single 0) .blank now next .virustotal feedback
      rfl rfl applies
  have free : (aloneFeedback now (.create .epoch) (.fresh .single 0) .virustotal
      feedback).world.Free := (@aloneFeedback_runs _ _ .blank now rfl .virustotal feedback).free
  have later := ((Operation.reserve .virustotal).alone_runs .blank wall free).run
  exact ⟨_, after, _, _, _, (Run.single (first_opened .blank)).append earlier, taken,
    rest.append later, List.mem_append_right _ granted⟩

/-- A second after the date. -/
def threeSeconds : DateTime := ⟨3000000000, by decide, by decide⟩

/-- A reserve a second after a committed date is granted, and every reserve
granted in that run is answered at the date or after it. -/
theorem retryDate_respected_twoSeconds :
    ∃ before after later world trace,
      Run (Step .blank) (.closed none) trace before ∧
      Step .blank before [.feedbackCommitted .virustotal (dateFeedback .epoch) 0] after ∧
      Run (Step .blank) after later world ∧
      Event.reserveReturned 1 .virustotal threeSeconds (.ok ()) ∈ later ∧
      ∀ call asked wall, quotaGroup asked = .virustotal →
        Event.reserveReturned call asked wall (.ok ()) ∈ later →
          twoSeconds.timestampMillis ≤ wall.timestampMillis := by
  obtain ⟨before, after, later, world, trace, reachable, taken, run, answered⟩ :=
    @reserved_after_report (dateFeedback .epoch) .epoch threeSeconds _ rfl
      (List.mem_cons_of_mem _ (List.mem_cons_of_mem _ List.mem_cons_self))
  refine ⟨before, after, later, world, trace, reachable, taken, run, answered, ?_⟩
  exact @retryDate_respected parseTwoSeconds .virustotal 503 dateHeaders .epoch twoSeconds dateText
    .blank none trace _ later before after world _ _ rfl rfl rfl (by decide) (by decide)
    (by decide) reachable taken (List.mem_singleton.mpr rfl) .refl run

/-- Half a millisecond before a whole second. -/
def lateInSecond : DateTime := ⟨999500000, by decide, by decide⟩

/-- A millisecond before the date. -/
def tooEarly : DateTime := ⟨1999000000, by decide, by decide⟩

/-- From half a millisecond before a second to the next one is 1000 whole
milliseconds, so the cooldown ends in the last millisecond before the date, and
a reserve there is granted. -/
theorem retryDate_undercut :
    ¬ ∀ (codec : PayloadCodec) (parseHttpDate : String → Option DateTime) (headers : HeaderMap)
        (text : String) (provider : ProviderId) (status : UInt16) (now date : DateTime)
        (file : Option Database) (trace emitted later : List Event) (before after world : World)
        (call : CallId) (wall : DateTime),
      headers "retry-after" = some text → isDigits text = false →
      parseHttpDate text = some date → now < date →
      Run (Step codec) (.closed file) trace before →
      Step codec before emitted after →
      Event.feedbackCommitted (quotaGroup provider)
        (feedbackFromHeaders parseHttpDate provider status headers now) now.timestampMillis ∈
          emitted →
      Run (Step codec) after later world →
      Event.reserveReturned call provider wall (.ok ()) ∈ later →
        date.timestampMillis ≤ wall.timestampMillis := by
  intro claim
  obtain ⟨before, after, later, world, trace, reachable, taken, run, answered⟩ :=
    @reserved_after_report (dateFeedback lateInSecond) lateInSecond tooEarly _ rfl
      (List.mem_cons_of_mem _ (List.mem_cons_of_mem _ List.mem_cons_self))
  have respected := claim .blank parseTwoSeconds dateHeaders dateText .virustotal 503 lateInSecond
    twoSeconds none trace _ later before after world 1 tooEarly rfl rfl rfl (by decide) reachable
    taken (List.mem_singleton.mpr rfl) run answered
  exact absurd respected (by decide)

end RustEnrich.Enrichment
