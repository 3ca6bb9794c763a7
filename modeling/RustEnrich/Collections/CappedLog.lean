import Mathlib.Data.List.Basic

/-!
# Logs with a limit

A log that takes no more entries once it is full has the first entries of all
that were offered to it.
-/

namespace CappedLog

variable {α β σ : Type*} {limit : Nat}

/-- An entry is added while there is room. -/
def push (limit : Nat) (log : List α) (entry : α) : List α :=
  if log.length < limit then log ++ [entry] else log

/-- A capped log is the front of all entries. -/
theorem push_take (all : List α) (entry : α) :
    push limit (all.take limit) entry = (all ++ [entry]).take limit := by
  unfold push
  rw [List.length_take, List.take_append]
  by_cases room : all.length < limit
  · obtain ⟨left, split⟩ := Nat.exists_eq_add_of_lt room
    have one : limit - all.length = left + 1 := by omega
    rw [if_pos (by omega), one, List.take_of_length_le (by omega), List.take_succ_cons,
      List.take_nil]
  · have full : limit - all.length = 0 := by omega
    rw [if_neg (by omega), full, List.take_zero, List.append_nil]

/-- A pass whose steps offer what their elements report. -/
theorem foldl_take {step : σ → β → σ} {log : σ → List α} {reports : β → List α} {list : List β}
    (each : ∀ element ∈ list, ∀ state all, log state = all.take limit →
      log (step state element) = (all ++ reports element).take limit)
    {state : σ} {all : List α} (held : log state = all.take limit) :
    log (list.foldl step state) = (all ++ list.flatMap reports).take limit := by
  induction list generalizing state all with
  | nil => rw [List.flatMap_nil, List.append_nil, List.foldl_nil, held]
  | cons element rest ih =>
      rw [List.foldl_cons, List.flatMap_cons, ← List.append_assoc]
      apply ih
      · intro other member
        exact each other (List.mem_cons_of_mem _ member)
      · exact each element List.mem_cons_self state all held

end CappedLog
