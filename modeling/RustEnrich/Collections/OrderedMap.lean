import Mathlib.Data.List.Pairwise
import Mathlib.Order.Lattice

/-!
# Ordered association lists

A map as the list of its entries with increasing keys. An insertion puts an
entry in its place and replaces what was there under its key.
-/

namespace OrderedMap

variable {κ β : Type*} [LinearOrder κ]

/-- A value is put under its key, in order. -/
def insert (key : κ) (value : β) : List (κ × β) → List (κ × β)
  | [] => [(key, value)]
  | (other, old) :: rest =>
      if key < other then (key, value) :: (other, old) :: rest
      else if key = other then (key, value) :: rest
      else (other, old) :: insert key value rest

/-- The keys increase. -/
def Ordered (entries : List (κ × β)) : Prop := entries.Pairwise fun left right => left.1 < right.1

/-- After an insertion there is the entry, and what was there. -/
theorem mem_insert {key : κ} {value : β} {entries : List (κ × β)} {entry : κ × β}
    (member : entry ∈ insert key value entries) : entry = (key, value) ∨ entry ∈ entries := by
  induction entries with
  | nil => exact Or.inl (List.mem_singleton.mp member)
  | cons head rest ih =>
      obtain ⟨other, old⟩ := head
      unfold insert at member
      split at member
      · exact List.mem_cons.mp member
      split at member
      · exact (List.mem_cons.mp member).imp_right (List.mem_cons_of_mem _)
      · rcases List.mem_cons.mp member with same | later
        · exact Or.inr (same ▸ List.mem_cons_self)
        · exact (ih later).imp_right (List.mem_cons_of_mem _)

/-- An insertion keeps the order. -/
theorem Ordered.insert {entries : List (κ × β)} (ordered : Ordered entries) (key : κ) (value : β) :
    Ordered (insert key value entries) := by
  induction entries with
  | nil => exact List.pairwise_singleton _ _
  | cons head rest ih =>
      obtain ⟨other, old⟩ := head
      obtain ⟨least, tail⟩ := List.pairwise_cons.mp ordered
      unfold OrderedMap.insert
      split
      · rename_i below
        refine List.pairwise_cons.mpr ⟨?_, ordered⟩
        intro entry member
        rcases List.mem_cons.mp member with rfl | later
        · exact below
        · exact lt_trans below (least entry later)
      split
      · rename_i same
        subst same
        exact List.pairwise_cons.mpr ⟨least, tail⟩
      · rename_i notBelow different
        refine List.pairwise_cons.mpr ⟨?_, ih tail⟩
        intro entry member
        rcases mem_insert member with rfl | later
        · exact lt_of_le_of_ne (not_lt.mp notBelow) (Ne.symm different)
        · exact least entry later

/-- An entry above all others goes to the end. -/
theorem insert_last {key : κ} {value : β} {entries : List (κ × β)}
    (above : ∀ entry ∈ entries, entry.1 < key) :
    insert key value entries = entries ++ [(key, value)] := by
  induction entries with
  | nil => rfl
  | cons head rest ih =>
      obtain ⟨below, later⟩ := List.forall_mem_cons.mp above
      obtain ⟨other, old⟩ := head
      rw [insert, if_neg (not_lt.mpr below.le), if_neg (ne_of_gt below), ih later,
        List.cons_append]

/-- Entries in their order, inserted one after another, are themselves. -/
theorem foldl_insert {front back : List (κ × β)} (ordered : Ordered (front ++ back)) :
    back.foldl (fun map entry => insert entry.1 entry.2 map) front = front ++ back := by
  induction back generalizing front with
  | nil => exact (List.append_nil front).symm
  | cons entry rest ih =>
      have above : ∀ earlier ∈ front, earlier.1 < entry.1 := fun earlier member =>
        (List.pairwise_append.mp ordered).2.2 earlier member entry List.mem_cons_self
      rw [List.append_cons] at ordered ⊢
      rw [List.foldl_cons, insert_last above, ih ordered]

end OrderedMap
