import Mathlib.Data.List.Count
import Mathlib.Order.Lattice

/-!
# Pruned logs

A log of times that forgets its oldest entries still answers every question
about the recent past: past a horizon, it counts at least what the full history
counts.
-/

namespace PrunedLog

variable {Time : Type*} [LinearOrder Time]

/-- The entries of a log after a time. -/
def countAfter (time : Time) (log : List Time) : Nat := log.countP (fun entry => time < entry)

/-- The entries of two logs. -/
@[simp] theorem countAfter_append (time : Time) (front back : List Time) :
    countAfter time (front ++ back) = countAfter time front + countAfter time back :=
  List.countP_append

/-- One entry counts at most once. -/
theorem countAfter_singleton_le (time entry : Time) : countAfter time [entry] ≤ 1 :=
  List.countP_le_length

/-- Past the horizon, the log misses nothing of the history. -/
def Covers (horizon : Time) (history log : List Time) : Prop :=
  ∀ time, horizon ≤ time → countAfter time history ≤ countAfter time log

/-- Discard the entries up to a time. -/
def prune (upTo : Time) (log : List Time) : List Time := log.filter (fun entry => upTo < entry)

/-- Pruning takes no entry away that is after a later time. -/
theorem countAfter_prune {upTo time : Time} (later : upTo ≤ time) (log : List Time) :
    countAfter time (prune upTo log) = countAfter time log := by
  unfold countAfter prune
  rw [List.countP_filter]
  apply List.countP_congr
  intro entry _
  simp only [Bool.and_eq_true, decide_eq_true_eq, and_iff_left_iff_imp]
  exact later.trans_lt

namespace Covers

variable {horizon : Time} {history log : List Time}

/-- A log covers what has not happened. -/
theorem nil (horizon : Time) (log : List Time) : Covers horizon [] log :=
  fun _ _ => Nat.zero_le _

/-- What is covered is covered from a later horizon on. -/
theorem later (covers : Covers horizon history log) {next : Time} (advanced : horizon ≤ next) :
    Covers next history log :=
  fun time ahead => covers time (advanced.trans ahead)

/-- A pruned log covers from where it is pruned on. -/
theorem prune (covers : Covers horizon history log) {upTo : Time} (advanced : horizon ≤ upTo) :
    Covers upTo history (prune upTo log) := by
  intro time ahead
  rw [countAfter_prune ahead]
  exact covers time (advanced.trans ahead)

/-- Entries that are added to both stay covered. -/
theorem append (covers : Covers horizon history log) (entries : List Time) :
    Covers horizon (history ++ entries) (log ++ entries) := by
  intro time ahead
  rw [countAfter_append, countAfter_append]
  exact Nat.add_le_add_right (covers time ahead) _

end Covers

end PrunedLog
