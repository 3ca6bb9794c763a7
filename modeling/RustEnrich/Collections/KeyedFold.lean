import Mathlib.Data.List.Nodup

/-!
# Folds over keyed members

A pass over members with distinct keys, where a field of the state is written
under one key only, ends with what that member wrote; and a log that each member
leaves alone or adds to is empty at the end exactly if no member added to it.
-/

namespace KeyedFold

variable {σ κ α β : Type*} {step : σ → κ × α → σ} {members : List (κ × α)}

/-- A key has one value. -/
theorem eq_of_mem {key : κ} {value other : α} (distinct : (members.map Prod.fst).Nodup)
    (one : (key, value) ∈ members) (two : (key, other) ∈ members) : value = other :=
  congrArg Prod.snd (List.inj_on_of_nodup_map distinct one two rfl)

/-- A field that the members of other keys leave alone. -/
theorem field_of_absent (field : σ → β) {own : κ}
    (keeps : ∀ state member, member.1 ≠ own → field (step state member) = field state)
    (absent : own ∉ members.map Prod.fst) (state : σ) :
    field (members.foldl step state) = field state := by
  induction members generalizing state with
  | nil => rfl
  | cons member rest ih =>
      rw [List.map_cons, List.mem_cons, not_or] at absent
      rw [List.foldl_cons, ih absent.2, keeps state member (Ne.symm absent.1)]

/-- The member of a key writes over what was there at the start. -/
theorem field_of_mem (field : σ → β) {own : κ} {value : α}
    (keeps : ∀ state member, member.1 ≠ own → field (step state member) = field state)
    (distinct : (members.map Prod.fst).Nodup) (there : (own, value) ∈ members) (state : σ) :
    ∃ before, field before = field state ∧
      field (members.foldl step state) = field (step before (own, value)) := by
  obtain ⟨front, back, rfl⟩ := List.append_of_mem there
  rw [List.map_append, List.map_cons, List.nodup_append] at distinct
  obtain ⟨_, tail, apart⟩ := distinct
  have fresh : own ∉ front.map Prod.fst := fun member =>
    apart own member own List.mem_cons_self rfl
  refine ⟨front.foldl step state, field_of_absent field keeps fresh state, ?_⟩
  rw [List.foldl_append, List.foldl_cons]
  exact field_of_absent field keeps (List.nodup_cons.mp tail).1 _

/-- A flag that the members of one key raise. -/
theorem flag_iff [DecidableEq κ] (flag : σ → Bool) {own : κ}
    (raises : ∀ state member,
      flag (step state member) = if member.1 = own then true else flag state)
    {state : σ} (down : flag state = false) :
    flag (members.foldl step state) = true ↔ own ∈ members.map Prod.fst := by
  have up : ∀ (members : List (κ × α)) (state : σ), flag state = true →
      flag (members.foldl step state) = true := by
    intro members
    induction members with
    | nil => exact fun _ raised => raised
    | cons member rest ih =>
        intro state raised
        apply ih
        rw [raises, raised, ite_self]
  induction members generalizing state with
  | nil => simp [down]
  | cons member rest ih =>
      have head := raises state member
      rw [List.foldl_cons, List.map_cons, List.mem_cons]
      by_cases here : member.1 = own
      · rw [if_pos here] at head
        exact iff_of_true (up rest _ head) (Or.inl here.symm)
      · rw [if_neg here] at head
        exact (ih (head.trans down)).trans (or_iff_right (Ne.symm here)).symm

/-- Nothing is logged where nothing was and all members are clean. -/
theorem log_eq_nil_iff {log : σ → List β} {clean : κ × α → Prop}
    (each : ∀ member ∈ members, ∀ state,
      log (step state member) = [] ↔ log state = [] ∧ clean member) (state : σ) :
    log (members.foldl step state) = [] ↔ log state = [] ∧ ∀ member ∈ members, clean member := by
  induction members generalizing state with
  | nil => simp
  | cons member rest ih =>
      obtain ⟨head, tail⟩ := List.forall_mem_cons.mp each
      rw [List.foldl_cons, ih tail, head, List.forall_mem_cons, and_assoc]

end KeyedFold
