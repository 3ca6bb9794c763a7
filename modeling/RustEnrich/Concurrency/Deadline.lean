import Mathlib.Order.MinMax

/-!
# Work under a deadline

Work left to itself is finished at some time, or never. Who waits for it with a
timer stops when it is finished or when the timer is noticed, which is never
before the deadline. Where the time is read once more after the wait, and a late
result is given up, the result is had exactly where the work is finished and the
time is read before the deadline, whenever the timer is noticed.
-/

namespace Concurrency

/-- When work is done, if it ever is, and its result. -/
structure Work (Time Result : Type*) where
  finished : Option Time
  result : Result

/-- What a wait ends with, and when. -/
structure Waited (Time Result : Type*) where
  result : Option Result
  time : Time

namespace Work

variable {Time Result : Type*} [LinearOrder Time]

/-- A wait whose timer is noticed at `woken`, or at the deadline where that is later. -/
def timeoutAt (work : Work Time Result) (deadline woken : Time) : Waited Time Result :=
  let alarm := max deadline woken
  match work.finished with
  | some finished =>
      if finished ≤ alarm then { result := some work.result, time := finished }
      else { result := none, time := alarm }
  | none => { result := none, time := alarm }

/-- A result that is there before the deadline by a reading after the wait: at
`ended`, or at the end of the wait where that is later. -/
def inTime (work : Work Time Result) (deadline woken ended : Time) : Option Result :=
  let waited := work.timeoutAt deadline woken
  if deadline ≤ max waited.time ended then none else waited.result

variable {work : Work Time Result} {deadline woken ended finished : Time} {result : Result}

/-- Work that is finished and looked at before the deadline is had. -/
theorem inTime_of_lt (ends : work.finished = some finished)
    (early : max finished ended < deadline) :
    work.inTime deadline woken ended = some work.result := by
  have before : finished < deadline := (le_max_left finished ended).trans_lt early
  have noticed : finished ≤ max deadline woken := before.le.trans (le_max_left deadline woken)
  simp only [inTime, timeoutAt, ends, if_pos noticed, if_neg early.not_ge]

/-- And nothing else is. -/
theorem inTime_eq_some_iff :
    work.inTime deadline woken ended = some result ↔
      ∃ finished, work.finished = some finished ∧ max finished ended < deadline ∧
        work.result = result := by
  constructor
  · intro had
    have alarm : deadline ≤ max (max deadline woken) ended :=
      (le_max_left deadline woken).trans (le_max_left _ ended)
    cases ends : work.finished with
    | none =>
        simp only [inTime, timeoutAt, ends, if_pos alarm] at had
        cases had
    | some finished =>
        rcases lt_or_ge (max finished ended) deadline with early | late
        · rw [inTime_of_lt ends early] at had
          exact ⟨finished, rfl, early, Option.some.inj had⟩
        · by_cases noticed : finished ≤ max deadline woken
          · simp only [inTime, timeoutAt, ends, if_pos noticed, if_pos late] at had
            cases had
          · simp only [inTime, timeoutAt, ends, if_neg noticed, if_pos alarm] at had
            cases had
  · rintro ⟨finished, ends, early, rfl⟩
    exact inTime_of_lt ends early

end Work

end Concurrency
