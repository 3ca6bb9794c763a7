import RustEnrich.Serialization.Document
import RustEnrich.Collections.OrderedMap
import Mathlib.Data.String.Basic

/-!
# Deserialization

What derived implementations read from a document. A struct comes from an object
with its fields in any order, or from an array with all of them in theirs; an
absent field is read like null, if it is optional; and `serde_json::Value` keeps
the members of an object in the order of their keys, the last of each key.
-/

namespace RustEnrich

/-! ### Trees -/

namespace Value

mutual

/-- `Value::deserialize`. -/
def deserialize : Value → Value
  | .null => .null
  | .bool value => .bool value
  | .number value => .number value
  | .string value => .string value
  | .array values => .array (deserializeValues values)
  | .object members => .object (deserializeMembers [] members)

/-- The values of an array. -/
def deserializeValues : List Value → List Value
  | [] => []
  | value :: rest => deserialize value :: deserializeValues rest

/-- The members of an object, the last of a name kept. -/
def deserializeMembers (map : List (String × Value)) :
    List (String × Value) → List (String × Value)
  | [] => map
  | (key, value) :: rest =>
      deserializeMembers (OrderedMap.insert key (deserialize value) map) rest

end

/-- Each value of an array is read. -/
theorem deserializeValues_eq (values : List Value) :
    deserializeValues values = values.map deserialize := by
  induction values with
  | nil => rfl
  | cons value rest ih => rw [deserializeValues, ih, List.map_cons]

/-- Each member of an object is put into the map. -/
theorem deserializeMembers_eq (map members : List (String × Value)) :
    deserializeMembers map members =
      members.foldl (fun map member => OrderedMap.insert member.1 (deserialize member.2) map)
        map := by
  induction members generalizing map with
  | nil => rfl
  | cons member rest ih => rw [deserializeMembers, ih, List.foldl_cons]

/-- The members that are kept are in order. -/
theorem deserializeMembers_ordered {map : List (String × Value)} (ordered : OrderedMap.Ordered map)
    (members : List (String × Value)) :
    OrderedMap.Ordered (deserializeMembers map members) := by
  induction members generalizing map with
  | nil => exact ordered
  | cons member rest ih => exact ih (ordered.insert _ _)

/-- A member that is kept was there. -/
theorem mem_deserializeMembers {map members : List (String × Value)} {member : String × Value}
    (inside : member ∈ deserializeMembers map members) :
    member ∈ map ∨ ∃ original ∈ members, member.2 = deserialize original.2 := by
  induction members generalizing map with
  | nil => exact Or.inl inside
  | cons head rest ih =>
      rcases ih inside with inserted | ⟨original, there, same⟩
      · rcases OrderedMap.mem_insert inserted with rfl | before
        · exact Or.inr ⟨head, List.mem_cons_self, rfl⟩
        · exact Or.inl before
      · exact Or.inr ⟨original, List.mem_cons_of_mem _ there, same⟩

/-- A tree is read back as itself. -/
theorem deserialize_deserialize (document : Value) :
    document.deserialize.deserialize = document.deserialize := by
  induction document using Value.induction with
  | array values ih =>
      simp only [deserialize, deserializeValues_eq, List.map_map]
      exact congrArg Value.array (List.map_congr_left ih)
  | object members ih =>
      have fixed : ∀ member ∈ deserializeMembers [] members, deserialize member.2 = member.2 := by
        intro member inside
        rcases mem_deserializeMembers inside with none_ | ⟨original, there, same⟩
        · cases none_
        · rw [same, ih original there]
      have ordered : OrderedMap.Ordered (deserializeMembers [] members) :=
        deserializeMembers_ordered List.Pairwise.nil members
      rw [deserialize, deserialize, deserializeMembers_eq []]
      calc
        _ = Value.object ((deserializeMembers [] members).foldl
              (fun map member => OrderedMap.insert member.1 member.2 map) []) := by
          refine congrArg Value.object (List.foldl_ext _ _ _ ?_)
          intro map member inside
          rw [fixed member inside]
        _ = _ := congrArg Value.object (OrderedMap.foldl_insert ordered)
  | _ => rfl

end Value

/-! ### Derived implementations -/

namespace Serialization

/-- The fields of a struct, each present or absent. `none` where the document is
neither an object without a repeated field, nor an array of all fields; with
`deny_unknown_fields`, where it has any other member. -/
def structFields (deny : Bool) (names : List String) : Value → Option (String → Option Value)
  | .object members =>
      if ∃ name ∈ names, 1 < (Value.keys members).count name then none
      else if deny ∧ ∃ key ∈ Value.keys members, key ∉ names then none
      else some fun name => members.lookup name
  | .array values =>
      if values.length = names.length then some fun name => (names.zip values).lookup name
      else none
  | _ => none

variable {α : Type}

/-- A field that must be there. -/
def requiredField (read : Value → Option α) (field : Option Value) : Option α := field.bind read

/-- A field that may be absent or null. -/
def optionalField (read : Value → Option α) : Option Value → Option (Option α)
  | none => some none
  | some .null => some none
  | some value => (read value).map some

/-- The reader of a flag. -/
def asBool : Value → Option Bool
  | .bool value => some value
  | _ => none

/-- The reader of a text. -/
def asString : Value → Option String
  | .string value => some value
  | _ => none

/-- The reader of an unsigned number. -/
def asU64 : Value → Option UInt64
  | .number (.posInt value) => some value
  | .number (.negInt value) => if 0 ≤ value then some value.toUInt64 else none
  | _ => none

/-- The reader of a signed number. -/
def asI64 : Value → Option Int64
  | .number (.posInt value) => if value ≤ 9223372036854775807 then some value.toInt64 else none
  | .number (.negInt value) => some value
  | _ => none

/-- An enum of unit variants, by name or as an object of one null. -/
def unitVariant (parse : String → Option α) : Value → Option α
  | .string name => parse name
  | .object [(name, .null)] => parse name
  | _ => none

/-- The members of exactly the fields are the fields. -/
theorem structFields_exact {deny : Bool} {names : List String} {members : List (String × Value)}
    (named : Value.keys members = names) (distinct : names.Nodup) :
    structFields deny names (.object members) = some fun name => members.lookup name := by
  subst named
  have once : ¬ ∃ name ∈ Value.keys members, 1 < (Value.keys members).count name := by
    rintro ⟨name, _, twice⟩
    exact not_lt.mpr (List.nodup_iff_count.mp distinct name) twice
  rw [structFields, if_neg once, if_neg]
  rintro ⟨_, key, inside, outside⟩
  exact outside inside

/-- A name that is not known is denied. -/
theorem structFields_denied {names : List String} {members : List (String × Value)} {key : String}
    (inside : key ∈ Value.keys members) (unknown : key ∉ names) :
    structFields true names (.object members) = none := by
  rw [structFields]
  split
  · rfl
  · rw [if_pos ⟨rfl, key, inside, unknown⟩]

end Serialization

end RustEnrich
