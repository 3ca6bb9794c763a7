import RustEnrich.Serialization.Fields
import RustEnrich.Serialization.Nesting

/-!
# A reader of printed texts

A text has one document with integers for its numbers, so that whatever a printer
without fractions has made can be read as that document. The reader of it, within
the levels of `serde_json`, reads objects member by member.
-/

namespace RustEnrich

open Serialization

namespace Value

mutual

/-- The document that is told by a text in which each float is a zero. -/
def plain : Value → Value
  | .null => .null
  | .bool value => .bool value
  | .number (.posInt value) => .number (.posInt value)
  | .number (.negInt value) => serializeI64 value
  | .number (.float _) => .number (.posInt 0)
  | .string value => .string value
  | .array values => .array (plainValues values)
  | .object members => .object (plainMembers members)

/-- The elements of an array, each as it is told. -/
def plainValues : List Value → List Value
  | [] => []
  | value :: rest => plain value :: plainValues rest

/-- The members of an object, each as it is told. -/
def plainMembers : List (String × Value) → List (String × Value)
  | [] => []
  | (key, value) :: rest => (key, plain value) :: plainMembers rest

end

/-- The text of every float. -/
def zeroText (_bits : UInt64) : String := "0"

/-- An element of the elements as told is an element as told. -/
theorem mem_plainValues {values : List Value} {value : Value}
    (inside : value ∈ plainValues values) :
    ∃ original ∈ values, value = original.plain := by
  induction values with
  | nil => cases inside
  | cons first rest ih =>
      rcases List.mem_cons.mp inside with rfl | later
      · exact ⟨first, List.mem_cons_self, rfl⟩
      · obtain ⟨original, there, same⟩ := ih later
        exact ⟨original, List.mem_cons_of_mem _ there, same⟩

/-- A member of the members as told is a member as told. -/
theorem mem_plainMembers {members : List (String × Value)} {member : String × Value}
    (inside : member ∈ plainMembers members) :
    ∃ original ∈ members, member.2 = original.2.plain := by
  induction members with
  | nil => cases inside
  | cons first rest ih =>
      rcases List.mem_cons.mp inside with rfl | later
      · exact ⟨first, List.mem_cons_self, rfl⟩
      · obtain ⟨original, there, same⟩ := ih later
        exact ⟨original, List.mem_cons_of_mem _ there, same⟩

/-- Whatever is told has integers for its numbers. -/
theorem integral_plain (value : Value) : Integral value.plain := by
  induction value using Value.induction with
  | null => exact .null
  | bool value => exact .bool value
  | string value => exact .string value
  | number number =>
      cases number with
      | posInt value => exact .number value
      | float bits => exact .number 0
      | negInt value =>
          change Integral (serializeI64 value)
          unfold serializeI64
          split
          · rename_i below
            exact .negative below
          · exact .number _
  | array values ih =>
      apply Integral.array
      intro value inside
      obtain ⟨original, there, rfl⟩ := mem_plainValues inside
      exact ih original there
  | object members ih =>
      apply Integral.object
      intro member inside
      obtain ⟨original, there, same⟩ := mem_plainMembers inside
      rw [same]
      exact ih original there

/-- A signed number is printed in its digits. -/
theorem text_serializeI64 (value : Int64) :
    text zeroText (serializeI64 value) = utf8 value.toInt.repr := by
  unfold serializeI64
  split
  · rfl
  · rename_i notNegative
    have nonneg : 0 ≤ value := Int64.not_lt.mp notNegative
    have size : value.toInt.toNat = value.toUInt64.toNat := by
      rw [← toNat_toUInt64 nonneg, Int.toNat_natCast]
    have above : 0 ≤ value.toInt := Int64.le_iff_toInt_le.mp nonneg
    rw [Int.repr_eq_if, if_pos above, size]
    rfl

/-- An array without fractions is printed the same. -/
theorem elementsText_plain {values : List Value}
    (told : ∀ value ∈ values, text zeroText value.plain = text zeroText value) (first : Bool) :
    elementsText zeroText first (plainValues values) = elementsText zeroText first values := by
  induction values generalizing first with
  | nil => rfl
  | cons value rest ih =>
      obtain ⟨here, later⟩ := List.forall_mem_cons.mp told
      rw [plainValues, elementsText, elementsText, here, ih later]

/-- An object without fractions is printed the same. -/
theorem membersText_plain {members : List (String × Value)}
    (told : ∀ member ∈ members, text zeroText member.2.plain = text zeroText member.2)
    (first : Bool) :
    membersText zeroText first (plainMembers members) = membersText zeroText first members := by
  induction members generalizing first with
  | nil => rfl
  | cons member rest ih =>
      obtain ⟨key, value⟩ := member
      obtain ⟨here, later⟩ := List.forall_mem_cons.mp told
      rw [plainMembers, membersText, membersText, here, ih later]

/-- What is told of a document has its text. -/
theorem text_plain (value : Value) : text zeroText value.plain = text zeroText value := by
  induction value using Value.induction with
  | null => rfl
  | bool value => rfl
  | string value => rfl
  | number number =>
      cases number with
      | posInt value => rfl
      | float bits => rfl
      | negInt value => exact text_serializeI64 value
  | array values ih => rw [plain, text, text, elementsText_plain ih]
  | object members ih => rw [plain, text, text, membersText_plain ih]

/-- What is told of a document has its levels. -/
theorem levels_plain (value : Value) : value.plain.levels = value.levels := by
  induction value using Value.induction with
  | null => rfl
  | bool value => rfl
  | string value => rfl
  | number number =>
      cases number with
      | posInt value => rfl
      | float bits => rfl
      | negInt value => rfl
  | array values ih =>
      refine congrArg (· + 1) ?_
      induction values with
      | nil => rfl
      | cons value rest same =>
          obtain ⟨here, later⟩ := List.forall_mem_cons.mp ih
          rw [plainValues, valuesLevels, valuesLevels, here, same later]
  | object members ih =>
      refine congrArg (· + 1) ?_
      induction members with
      | nil => rfl
      | cons member rest same =>
          obtain ⟨key, value⟩ := member
          obtain ⟨here, later⟩ := List.forall_mem_cons.mp ih
          rw [plainMembers, membersLevels, membersLevels, here, same later]

/-- An integral document is what its own text tells. -/
theorem plain_of_integral {value : Value} (integral : Integral value) : value.plain = value :=
  (text_inj (integral_plain value) integral).mp (text_plain value)

end Value

namespace Serialization

open Classical in
/-- The document of a text that a printer without fractions has made, within the
levels of `serde_json`. -/
noncomputable def printedDocument (bytes : List UInt8) : Option Value :=
  if printed : ∃ value : Value, text Value.zeroText value = bytes ∧ Integral value ∧
      value.levels ≤ maxLevels then
    some printed.choose
  else none

/-- What is printed is read back, within the levels. -/
theorem printedDocument_text (value : Value) :
    printedDocument (text Value.zeroText value) =
      if value.levels ≤ maxLevels then some value.plain else none := by
  unfold printedDocument
  by_cases room : value.levels ≤ maxLevels
  · have printed : ∃ other : Value, text Value.zeroText other = text Value.zeroText value ∧
        Integral other ∧ other.levels ≤ maxLevels :=
      ⟨value.plain, value.text_plain, value.integral_plain, value.levels_plain.le.trans room⟩
    rw [if_pos room, dif_pos printed]
    obtain ⟨same, integral, _⟩ := printed.choose_spec
    have alike := same.trans value.text_plain.symm
    exact congrArg some ((text_inj integral value.integral_plain).mp alike)
  · rw [if_neg room, dif_neg]
    intro printed
    obtain ⟨other, same, integral, within⟩ := printed
    rw [← value.text_plain, text_inj integral value.integral_plain] at same
    rw [same, value.levels_plain] at within
    exact room within

/-- A reader of printed texts, with timestamps read in a way of their own. -/
noncomputable def Deserializer.printed (timestamp parseFromRfc3339 : String → Option DateTime) :
    Deserializer where
  document := printedDocument
  timestamp
  parseFromRfc3339

/-- Members within the levels are read as they are told. -/
theorem readMembers_printed {members : List (String × Value)}
    (room : ∀ member ∈ members, member.2.levels ≤ maxLevels) :
    readMembers (fun value => printedDocument (text Value.zeroText value)) members =
      some (Value.plainMembers members) := by
  induction members with
  | nil => rfl
  | cons member rest ih =>
      obtain ⟨key, value⟩ := member
      obtain ⟨here, later⟩ := List.forall_mem_cons.mp room
      rw [readMembers, printedDocument_text, if_pos here, Option.bind_some, ih later]
      rfl

/-- The reader of printed texts reads objects member by member. -/
theorem readsPrinted_printed (instantText : DateTime → String)
    (timestamp parseFromRfc3339 : String → Option DateTime) :
    ReadsPrinted (.whole Value.zeroText instantText) (.printed timestamp parseFromRfc3339) where
  null := printedDocument_text .null
  bool value := printedDocument_text (.bool value)
  string value := printedDocument_text (.string value)
  posInt value := printedDocument_text (.number (.posInt value))
  negInt value below := by
    have told : (Value.number (.negInt value)).plain = .number (.negInt value) :=
      Value.plain_of_integral (.negative below)
    exact (printedDocument_text _).trans (congrArg some told)
  object members := by
    refine (printedDocument_text (.object members)).trans ?_
    by_cases room : (Value.object members).levels ≤ maxLevels
    · have inside := Value.membersLevels_le.mp (Nat.le_of_succ_le room)
      rw [if_pos room, if_pos room]
      exact (congrArg (Option.map Value.object) (readMembers_printed inside)).symm
    · rw [if_neg room, if_neg room]

end Serialization

end RustEnrich
