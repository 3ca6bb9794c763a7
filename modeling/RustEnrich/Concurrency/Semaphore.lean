import Mathlib.Data.List.Nodup

/-!
# Semaphores

Permits, and who waits for one. A semaphore never hands out a permit it does not
have, and with one left it serves somebody who waits. The parties of a semaphore
are the elements of a list, each of which waits, holds a permit or has nothing
to do with it. As every permit is either left or held, a semaphore keeps its
capacity, and where somebody waits then somebody is served or holds a permit.
-/

namespace Concurrency

/-- Whom a semaphore serves, by its permits and those that wait in the order
they asked. -/
structure Policy where
  serves : Nat → List Nat → Nat → Prop
  available : ∀ {permits waiters id}, serves permits waiters id → 0 < permits
  conserving : ∀ {permits waiters}, 0 < permits → waiters ≠ [] → ∃ id, serves permits waiters id
  among : ∀ {permits waiters id}, serves permits waiters id → id ∈ waiters

/-- First come, first served: a permit belongs to the first that waits, and of
several that have theirs each may be the first to take it. -/
def Policy.fair : Policy where
  serves permits waiters id := id ∈ waiters.take permits
  available := by
    intro permits waiters id served
    cases permits with
    | zero => simp at served
    | succ permits => exact Nat.succ_pos permits
  conserving := by
    intro permits waiters some_ waited
    obtain ⟨first, rest, rfl⟩ := List.exists_cons_of_ne_nil waited
    obtain ⟨permits, rfl⟩ := Nat.exists_eq_add_of_lt some_
    exact ⟨first, by simp⟩
  among := List.mem_of_mem_take

/-- A counting semaphore with those that wait. -/
structure Semaphore where
  permits : Nat
  waiters : List Nat
  closed : Bool

namespace Semaphore

/-- All permits are there. -/
def new (permits : Nat) : Semaphore where
  permits
  waiters := []
  closed := false

/-- A party asks for a permit. -/
def ask (semaphore : Semaphore) (id : Nat) : Semaphore :=
  { semaphore with waiters := semaphore.waiters ++ [id] }

/-- A party that waits takes a permit. -/
def take (semaphore : Semaphore) (id : Nat) : Semaphore :=
  { semaphore with
    permits := semaphore.permits - 1
    waiters := semaphore.waiters.erase id }

/-- A party waits no longer, and gives back the permit it holds. -/
def leave (semaphore : Semaphore) (id : Nat) (held : Bool) : Semaphore :=
  { semaphore with
    permits := semaphore.permits + if held then 1 else 0
    waiters := semaphore.waiters.erase id }

end Semaphore

/-- What a party has to do with a semaphore. -/
inductive Stage
  | out
  | waiting
  | holding
  deriving DecidableEq

/-- A semaphore shared by parties. -/
structure Shared {Party : Type*} (capacity : Nat) (stage : Party → Stage) (parties : List Party)
    (semaphore : Semaphore) : Prop where
  total : semaphore.permits + parties.countP (fun party => stage party = .holding) = capacity
  waiting : ∀ id, id ∈ semaphore.waiters ↔
    ∃ party, parties[id]? = some party ∧ stage party = .waiting
  nodup : semaphore.waiters.Nodup
  unclosed : semaphore.closed = false

namespace Shared

variable {Party : Type*} {capacity : Nat} {stage : Party → Stage} {parties : List Party}
  {semaphore : Semaphore} {id : Nat} {party moved : Party}

/-- With nobody in, a new semaphore is shared. -/
theorem new (capacity : Nat) (idle : ∀ party ∈ parties, stage party = .out) :
    Shared capacity stage parties (.new capacity) where
  total := by
    have none_ : parties.countP (fun party => stage party = .holding) = 0 := by
      rw [List.countP_eq_zero]
      intro party member
      simp [idle party member]
    rw [none_]
    rfl
  waiting := by
    intro id
    refine iff_of_false List.not_mem_nil ?_
    rintro ⟨party, there, waits⟩
    rw [idle party (List.mem_of_getElem? there)] at waits
    cases waits
  nodup := List.nodup_nil
  unclosed := rfl

/-- No more permits are held than there are. -/
theorem held_le (shared : Shared capacity stage parties semaphore) :
    parties.countP (fun party => stage party = .holding) ≤ capacity := by
  have total := shared.total
  omega

/-- Where somebody is served, not every permit is held. -/
theorem held_lt {policy : Policy} (shared : Shared capacity stage parties semaphore)
    (served : policy.serves semaphore.permits semaphore.waiters id) :
    parties.countP (fun party => stage party = .holding) < capacity := by
  have total := shared.total
  have left := policy.available served
  omega

/-- Who waits once a party has moved. -/
theorem waits_set (there : parties[id]? = some party) (moved : Party) (other : Nat) :
    (∃ found, (parties.set id moved)[other]? = some found ∧ stage found = .waiting) ↔
      (other ≠ id ∧ ∃ found, parties[other]? = some found ∧ stage found = .waiting) ∨
        (other = id ∧ stage moved = .waiting) := by
  have inside : id < parties.length := (List.getElem?_eq_some_iff.mp there).1
  by_cases same : other = id
  · subst same
    simp [List.getElem?_set_self inside]
  · simp [List.getElem?_set_ne (Ne.symm same), same]

/-- How many hold a permit once a party has moved. -/
theorem held_set (there : parties[id]? = some party) (moved : Party) :
    (parties.set id moved).countP (fun party => stage party = .holding) +
        (if stage party = .holding then 1 else 0) =
      parties.countP (fun party => stage party = .holding) +
        if stage moved = .holding then 1 else 0 := by
  obtain ⟨inside, rfl⟩ := List.getElem?_eq_some_iff.mp there
  rw [List.countP_set inside]
  have some_ : stage parties[id] = .holding →
      0 < parties.countP (fun party => stage party = .holding) := by
    intro held
    exact List.countP_pos_iff.mpr ⟨_, List.getElem_mem inside, decide_eq_true held⟩
  simp only [decide_eq_true_eq]
  split
  · have one := some_ ‹_›
    split <;> omega
  · split <;> omega

/-- A party that stays in its stage changes nothing. -/
theorem keep (shared : Shared capacity stage parties semaphore)
    (there : parties[id]? = some party) (same : stage moved = stage party) :
    Shared capacity stage (parties.set id moved) semaphore where
  total := by
    have held := @held_set _ stage _ _ _ there moved
    rw [same] at held
    have total := shared.total
    omega
  waiting := by
    intro other
    rw [shared.waiting, waits_set there]
    constructor
    · rintro ⟨found, present, waits⟩
      by_cases own : other = id
      · subst own
        cases there.symm.trans present
        exact Or.inr ⟨rfl, same.trans waits⟩
      · exact Or.inl ⟨own, found, present, waits⟩
    · rintro (⟨_, waits⟩ | ⟨rfl, waits⟩)
      · exact waits
      · exact ⟨party, there, same.symm.trans waits⟩
  nodup := shared.nodup
  unclosed := shared.unclosed

/-- A party that asks waits. -/
theorem ask (shared : Shared capacity stage parties semaphore)
    (there : parties[id]? = some party) (outside : stage party = .out)
    (waits : stage moved = .waiting) :
    Shared capacity stage (parties.set id moved) (semaphore.ask id) where
  total := by
    have held := @held_set _ stage _ _ _ there moved
    rw [outside, waits, if_neg (by decide), if_neg (by decide)] at held
    have total := shared.total
    change semaphore.permits + _ = _
    omega
  waiting := by
    intro other
    rw [waits_set there]
    simp only [Semaphore.ask, List.mem_append, List.mem_singleton, shared.waiting]
    constructor
    · rintro (⟨found, present, waited⟩ | rfl)
      · refine Or.inl ⟨?_, found, present, waited⟩
        rintro rfl
        cases there.symm.trans present
        rw [outside] at waited
        cases waited
      · exact Or.inr ⟨rfl, waits⟩
    · rintro (⟨_, waited⟩ | ⟨rfl, _⟩)
      · exact Or.inl waited
      · exact Or.inr rfl
  nodup := by
    refine shared.nodup.append (List.nodup_singleton id) ?_
    rw [List.disjoint_singleton]
    intro member
    obtain ⟨found, present, waited⟩ := (shared.waiting id).mp member
    cases there.symm.trans present
    rw [outside] at waited
    cases waited
  unclosed := shared.unclosed

/-- Those that wait beside one that does no longer. -/
theorem waits_erase (shared : Shared capacity stage parties semaphore)
    (there : parties[id]? = some party) (settled : stage moved ≠ .waiting) (other : Nat) :
    other ∈ semaphore.waiters.erase id ↔
      ∃ found, (parties.set id moved)[other]? = some found ∧ stage found = .waiting := by
  rw [shared.nodup.mem_erase_iff, shared.waiting, waits_set there]
  exact ⟨Or.inl, fun either => either.elim (fun apart => apart) fun own => absurd own.2 settled⟩

/-- A party that is served holds. -/
theorem take {policy : Policy} (shared : Shared capacity stage parties semaphore)
    (there : parties[id]? = some party) (waits : stage party = .waiting)
    (served : policy.serves semaphore.permits semaphore.waiters id)
    (holds : stage moved = .holding) :
    Shared capacity stage (parties.set id moved) (semaphore.take id) where
  total := by
    have held := @held_set _ stage _ _ _ there moved
    rw [waits, holds, if_neg (by decide), if_pos rfl] at held
    have total := shared.total
    have left := policy.available served
    change semaphore.permits - 1 + _ = _
    omega
  waiting := shared.waits_erase there (by rw [holds]; decide)
  nodup := shared.nodup.erase id
  unclosed := shared.unclosed

/-- A party that leaves gives back what it held. -/
theorem leave (shared : Shared capacity stage parties semaphore)
    (there : parties[id]? = some party) {held : Bool}
    (own : held = true ↔ stage party = .holding) (outside : stage moved = .out) :
    Shared capacity stage (parties.set id moved) (semaphore.leave id held) where
  total := by
    have counted := @held_set _ stage _ _ _ there moved
    simp only [outside, reduceCtorEq, ↓reduceIte, Nat.add_zero, ← own] at counted
    have total := shared.total
    change semaphore.permits + _ + _ = _
    omega
  waiting := shared.waits_erase there (by rw [outside]; decide)
  nodup := shared.nodup.erase id
  unclosed := shared.unclosed

/-- A party comes in and asks for a permit. -/
theorem enter (shared : Shared capacity stage parties semaphore) (waits : stage moved = .waiting) :
    Shared capacity stage (parties ++ [moved]) (semaphore.ask parties.length) where
  total := by
    have total := shared.total
    change semaphore.permits + _ = _
    simpa [List.countP_append, List.countP_singleton, waits] using total
  waiting := by
    intro other
    simp only [Semaphore.ask, List.mem_append, List.mem_singleton, shared.waiting]
    rcases Nat.lt_trichotomy other parties.length with before | rfl | after
    · rw [List.getElem?_append_left before]
      exact or_iff_left (Nat.ne_of_lt before)
    · simp [waits]
    · have outside : (parties ++ [moved])[other]? = none :=
        List.getElem?_eq_none (by simpa using Nat.succ_le_of_lt after)
      have absent : parties[other]? = none := List.getElem?_eq_none (Nat.le_of_lt after)
      simp [outside, absent, Nat.ne_of_gt after]
  nodup := by
    refine shared.nodup.append (List.nodup_singleton _) ?_
    rw [List.disjoint_singleton]
    intro member
    obtain ⟨found, present, _⟩ := (shared.waiting _).mp member
    simp at present
  unclosed := shared.unclosed

/-- A party comes in that has nothing to do with the semaphore. -/
theorem append (shared : Shared capacity stage parties semaphore) (outside : stage moved = .out) :
    Shared capacity stage (parties ++ [moved]) semaphore where
  total := by
    have total := shared.total
    simpa [List.countP_append, List.countP_singleton, outside] using total
  waiting := by
    intro other
    rw [shared.waiting]
    rcases Nat.lt_trichotomy other parties.length with before | rfl | after
    · rw [List.getElem?_append_left before]
    · simp [outside]
    · have beyond : (parties ++ [moved])[other]? = none :=
        List.getElem?_eq_none (by simpa using Nat.succ_le_of_lt after)
      rw [beyond, List.getElem?_eq_none (Nat.le_of_lt after)]
  nodup := shared.nodup
  unclosed := shared.unclosed

/-- Where somebody waits, somebody can take a permit or holds one. -/
theorem served_or_held (shared : Shared capacity stage parties semaphore) (policy : Policy)
    (some_ : 0 < capacity) (there : parties[id]? = some party) (waits : stage party = .waiting) :
    (∃ other waiter, parties[other]? = some waiter ∧ stage waiter = .waiting ∧
      policy.serves semaphore.permits semaphore.waiters other) ∨
    ∃ (other : Nat) (holder : Party), parties[other]? = some holder ∧
      stage holder = .holding := by
  by_cases left : 0 < semaphore.permits
  · have waited : semaphore.waiters ≠ [] :=
      List.ne_nil_of_mem ((shared.waiting id).mpr ⟨party, there, waits⟩)
    obtain ⟨other, served⟩ := policy.conserving left waited
    obtain ⟨waiter, present, also⟩ := (shared.waiting other).mp (policy.among served)
    exact Or.inl ⟨other, waiter, present, also, served⟩
  · have held : 0 < parties.countP (fun party => stage party = .holding) := by
      have total := shared.total
      omega
    obtain ⟨holder, member, holds⟩ := List.countP_pos_iff.mp held
    obtain ⟨other, present⟩ := List.mem_iff_getElem?.mp member
    exact Or.inr ⟨other, holder, present, of_decide_eq_true holds⟩

end Shared

end Concurrency
