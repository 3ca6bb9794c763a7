import RustEnrich.Domain
import Mathlib.Data.List.Perm.Basic

/-!
# Documents

A document is a tree with the members of its objects in their order, repeated
keys included. What holds of it at any depth is proved by induction over its
nodes.
-/

namespace RustEnrich.Value

/-- Induction over the nodes of a document. -/
@[elab_as_elim] theorem induction {motive : Value → Prop} (null : motive .null)
    (bool : ∀ value, motive (.bool value)) (number : ∀ value, motive (.number value))
    (string : ∀ value, motive (.string value))
    (array : ∀ values, (∀ value ∈ values, motive value) → motive (.array values))
    (object : ∀ members, (∀ member ∈ members, motive member.2) → motive (.object members))
    (value : Value) : motive value :=
  @Value.rec motive (fun values => ∀ value ∈ values, motive value)
    (fun members => ∀ member ∈ members, motive member.2) (fun member => motive member.2)
    null bool number string array object
    (fun _ member => absurd member List.not_mem_nil)
    (fun _ _ head tail => List.forall_mem_cons.mpr ⟨head, tail⟩)
    (fun _ member => absurd member List.not_mem_nil)
    (fun _ _ head tail => List.forall_mem_cons.mpr ⟨head, tail⟩)
    (fun _ _ inner => inner) value

/-- The names of the members. -/
def keys (members : List (String × Value)) : List String := members.map Prod.fst

/-- Some object of the document has a key twice. -/
inductive RepeatsKey : Value → Prop
  | here {members : List (String × Value)} (repeated : ¬ (keys members).Nodup) :
      RepeatsKey (.object members)
  | member {members : List (String × Value)} {key : String} {value : Value}
      (inside : (key, value) ∈ members) (deep : RepeatsKey value) : RepeatsKey (.object members)
  | element {values : List Value} {value : Value} (inside : value ∈ values)
      (deep : RepeatsKey value) : RepeatsKey (.array values)

/-- The members of one object, at any depth, in another order. -/
inductive Reordered : Value → Value → Prop
  | here {members others : List (String × Value)} (permuted : members.Perm others) :
      Reordered (.object members) (.object others)
  | member {front back : List (String × Value)} {key : String} {value other : Value}
      (deep : Reordered value other) :
      Reordered (.object (front ++ (key, value) :: back)) (.object (front ++ (key, other) :: back))
  | element {front back : List Value} {value other : Value} (deep : Reordered value other) :
      Reordered (.array (front ++ value :: back)) (.array (front ++ other :: back))

/-- A document is reordered back. -/
theorem Reordered.symm {value other : Value} (reordered : Reordered value other) :
    Reordered other value := by
  induction reordered with
  | here permuted => exact .here permuted.symm
  | member _ ih => exact .member ih
  | element _ ih => exact .element ih

instance : Std.Symm Reordered := ⟨fun _ _ => Reordered.symm⟩

end RustEnrich.Value
