import RustEnrich.Serialization.Deserialize

/-!
# Fields of documents

What a derived struct reads, as relations on documents: the shapes a struct comes
in, the value under each of its fields, and what a required or an optional field
makes of that value. Omitted and null are one for an optional field, and neither
is a value of its type.
-/

namespace RustEnrich.Serialization

variable {α β : Type}

/-- The documents a struct is read from: an object without a repeated field, or
an array of all fields. -/
inductive Struct (names : List String) : Value → Prop
  | object {members : List (String × Value)}
      (once : ∀ name ∈ names, (Value.keys members).count name ≤ 1) : Struct names (.object members)
  | array {values : List Value} (full : values.length = names.length) : Struct names (.array values)

/-- The value of a document under a field: the member of its name, or the element
at its place. -/
inductive Field (names : List String) (name : String) : Value → Value → Prop
  | member {members : List (String × Value)} {value : Value} (inside : (name, value) ∈ members) :
      Field names name (.object members) value
  | element {values : List Value} {value : Value} {place : Nat} (named : names[place]? = some name)
      (inside : values[place]? = some value) : Field names name (.array values) value

/-- A field that has to hold a value of its type. -/
def Required (type : Value → α → Prop) (names : List String) (name : String) (document : Value)
    (content : α) : Prop :=
  ∃ value, Field names name document value ∧ type value content

/-- A field that is omitted or null, or holds a value of its type. -/
inductive Optional (type : Value → α → Prop) (names : List String) (name : String)
    (document : Value) : Option α → Prop
  | absent (untold : ∀ value, Field names name document value → value = .null) :
      Optional type names name document none
  | present {value : Value} {content : α} (told : Field names name document value)
      (notNull : value ≠ .null) (typed : type value content) :
      Optional type names name document (some content)

/-! ### Types of values -/

/-- The value of a text. -/
def IsString (value : Value) (text : String) : Prop := value = .string text

/-- The value of a flag. -/
def IsBool (value : Value) (flag : Bool) : Prop := value = .bool flag

/-- The integer that a number is, unless it is a float. -/
def integerOf : Number → Option Int
  | .posInt value => some value.toNat
  | .negInt value => some value.toInt
  | .float _ => none

/-- The value of an unsigned number. -/
def IsU64 (value : Value) (count : UInt64) : Prop :=
  ∃ number, value = .number number ∧ integerOf number = some (count.toNat : Int)

/-- The value of a signed number. -/
def IsI64 (value : Value) (amount : Int64) : Prop :=
  ∃ number, value = .number number ∧ integerOf number = some amount.toInt

/-- A small unsigned number is the same signed. -/
theorem toInt_toInt64 {value : UInt64} (small : value ≤ 9223372036854775807) :
    value.toInt64.toInt = (value.toNat : Int) := by
  have bounded : value.toNat ≤ 9223372036854775807 := UInt64.le_iff_toNat_le.mp small
  rw [← Int64.toInt_toBitVec, UInt64.toBitVec_toInt64, BitVec.toInt_eq_toNat_of_lt]
  · rfl
  · rw [UInt64.toNat_toBitVec]
    omega

/-- A signed number that is not negative is the same unsigned. -/
theorem toNat_toUInt64 {value : Int64} (nonneg : 0 ≤ value) :
    (value.toUInt64.toNat : Int) = value.toInt := by
  have small : value.toUInt64 ≤ 9223372036854775807 :=
    Int64.toUInt64_le nonneg (Int64.le_maxValue value)
  rw [← toInt_toInt64 small, Int64.toInt64_toUInt64]

/-- The reader takes texts. -/
theorem asString_eq_some {value : Value} {text : String} :
    asString value = some text ↔ IsString value text := by
  unfold asString IsString
  cases value <;> simp

/-- The reader takes flags. -/
theorem asBool_eq_some {value : Value} {flag : Bool} :
    asBool value = some flag ↔ IsBool value flag := by
  unfold asBool IsBool
  cases value <;> simp

/-- The reader takes unsigned numbers. -/
theorem asU64_eq_some {value : Value} {count : UInt64} :
    asU64 value = some count ↔ IsU64 value count := by
  unfold asU64 IsU64
  cases value with
  | number number =>
      simp only [Value.number.injEq, exists_eq_left']
      cases number with
      | posInt held =>
          simp only [integerOf, Option.some.injEq, Nat.cast_inj]
          exact UInt64.toNat_inj.symm
      | negInt held =>
          simp only [integerOf, Option.some.injEq]
          by_cases nonneg : 0 ≤ held
          · rw [if_pos nonneg, ← toNat_toUInt64 nonneg, Option.some.injEq, Nat.cast_inj]
            exact UInt64.toNat_inj.symm
          · rw [if_neg nonneg]
            refine iff_of_false nofun fun same => nonneg (Int64.le_iff_toInt_le.mpr ?_)
            rw [same]
            exact Int.natCast_nonneg _
      | float bits => simp [integerOf]
  | _ => simp

/-- The reader takes signed numbers. -/
theorem asI64_eq_some {value : Value} {amount : Int64} :
    asI64 value = some amount ↔ IsI64 value amount := by
  unfold asI64 IsI64
  cases value with
  | number number =>
      simp only [Value.number.injEq, exists_eq_left']
      cases number with
      | posInt held =>
          simp only [integerOf, Option.some.injEq]
          by_cases small : held ≤ 9223372036854775807
          · rw [if_pos small, ← toInt_toInt64 small, Option.some.injEq]
            exact Int64.toInt_inj.symm
          · rw [if_neg small]
            refine iff_of_false nofun fun same => small (UInt64.le_iff_toNat_le.mpr ?_)
            have upper := amount.toInt_lt
            change held.toNat ≤ 9223372036854775807
            omega
      | negInt held =>
          simp only [integerOf, Option.some.injEq]
          exact Int64.toInt_inj.symm
      | float bits => simp [integerOf]
  | _ => simp

/-! ### Reading them -/

/-- What `structFields` finds under each name. -/
def fieldsOf (names : List String) : Value → String → Option Value
  | .object members, name => members.lookup name
  | .array values, name => (names.zip values).lookup name
  | _, _ => none

/-- The fields of a struct are those of an object or an array of them. -/
theorem structFields_eq_some {names : List String} {document : Value}
    {field : String → Option Value} :
    structFields false names document = some field ↔
      Struct names document ∧ field = fieldsOf names document := by
  cases document with
  | object members =>
      unfold structFields
      simp only [Bool.false_eq_true, false_and, ↓reduceIte]
      split
      · rename_i repeated
        refine iff_of_false (fun found => by cases found) fun both => ?_
        obtain ⟨once⟩ := both.1
        obtain ⟨name, known, twice⟩ := repeated
        exact absurd twice (not_lt.mpr (once name known))
      · rename_i distinct
        rw [Option.some.injEq, eq_comm]
        refine (and_iff_right (.object ?_)).symm
        intro name known
        by_contra twice
        exact distinct ⟨name, known, not_le.mp twice⟩
  | array values =>
      by_cases full : values.length = names.length
      · simp only [structFields, if_pos full]
        rw [Option.some.injEq, eq_comm]
        exact (and_iff_right (.array full)).symm
      · simp only [structFields, if_neg full]
        refine iff_of_false (fun found => by cases found) fun both => ?_
        cases both.1 with
        | array whole => exact full whole
  | _ => exact iff_of_false (fun found => by cases found) fun both => by cases both.1

/-- A name that comes once has its value. -/
theorem lookup_eq_some_of_count {members : List (String × Value)} {name : String} {value : Value}
    (once : (Value.keys members).count name ≤ 1) :
    members.lookup name = some value ↔ (name, value) ∈ members := by
  induction members with
  | nil => simp
  | cons member rest ih =>
      obtain ⟨key, held⟩ := member
      rw [Value.keys, List.map_cons, List.count_cons] at once
      rw [List.lookup_cons, List.mem_cons, Prod.mk.injEq]
      by_cases same : name = key
      · subst same
        have others : (name, value) ∉ rest := by
          intro inside
          have again : 0 < (rest.map Prod.fst).count name :=
            List.count_pos_iff.mpr (List.mem_map_of_mem inside)
          simp only [BEq.rfl, ↓reduceIte] at once
          omega
        simp [others, eq_comm]
      · have different : (name == key) = false := beq_false_of_ne same
        simp only [different, same, false_and, false_or]
        apply ih
        exact (Nat.le_add_right _ _).trans once

/-- A field of an array is the value in its place. -/
theorem lookup_zip_eq_some {names : List String} {values : List Value} {name : String}
    {value : Value} (distinct : names.Nodup) (full : values.length = names.length) :
    (names.zip values).lookup name = some value ↔
      ∃ place : Nat, names[place]? = some name ∧ values[place]? = some value := by
  have once : (Value.keys (names.zip values)).count name ≤ 1 := by
    apply List.nodup_iff_count.mp
    unfold Value.keys
    rwa [List.map_fst_zip full.ge]
  rw [lookup_eq_some_of_count once, List.mem_iff_getElem?]
  refine exists_congr fun place => ?_
  rw [List.getElem?_zip_eq_some]

/-- The value found under a name is the one of the field. -/
theorem Struct.field {names : List String} {document value : Value} {name : String}
    (shape : Struct names document) (distinct : names.Nodup) (known : name ∈ names) :
    fieldsOf names document name = some value ↔ Field names name document value := by
  cases shape with
  | object once =>
      refine (lookup_eq_some_of_count (once name known)).trans ?_
      exact ⟨fun inside => .member inside, fun field => by cases field; assumption⟩
  | array full =>
      refine (lookup_zip_eq_some distinct full).trans ?_
      constructor
      · intro found
        obtain ⟨place, named, inside⟩ := found
        exact .element named inside
      · intro field
        cases field with
        | element named inside => exact ⟨_, named, inside⟩

section Reading

variable {names : List String} {document : Value} {name : String}
  {read : Value → Option α} {type : Value → α → Prop}

/-- A required field is read where it is there and of its type. -/
theorem Struct.required (shape : Struct names document)
    (reads : ∀ value content, read value = some content ↔ type value content)
    (distinct : names.Nodup := by decide) (known : name ∈ names := by decide) {content : α} :
    requiredField read (fieldsOf names document name) = some content ↔
      Required type names name document content := by
  unfold requiredField Required
  rw [Option.bind_eq_some_iff]
  refine exists_congr fun value => ?_
  rw [shape.field distinct known, reads]

/-- An optional field is read where it is absent, null or of its type. -/
theorem Struct.optional (shape : Struct names document)
    (reads : ∀ value content, read value = some content ↔ type value content)
    (distinct : names.Nodup := by decide) (known : name ∈ names := by decide)
    {content : Option α} :
    optionalField read (fieldsOf names document name) = some content ↔
      Optional type names name document content := by
  have found : ∀ value, fieldsOf names document name = some value ↔
      Field names name document value := fun _ => shape.field distinct known
  unfold optionalField
  split
  · rename_i omitted
    constructor
    · intro same
      cases same
      refine .absent fun value field => ?_
      cases omitted.symm.trans ((found value).mpr field)
    · intro holds
      cases holds with
      | absent untold => rfl
      | present told notNull typed => cases omitted.symm.trans ((found _).mpr told)
  · rename_i null
    constructor
    · intro same
      cases same
      refine .absent fun value field => ?_
      cases null.symm.trans ((found value).mpr field)
      rfl
    · intro holds
      cases holds with
      | absent untold => rfl
      | present told notNull typed =>
          cases null.symm.trans ((found _).mpr told)
          exact absurd rfl notNull
  · rename_i value notNull held
    constructor
    · intro same
      obtain ⟨content, reading, rfl⟩ := Option.map_eq_some_iff.mp same
      exact .present ((found value).mp held) (fun null => notNull null)
        ((reads value content).mp reading)
    · intro holds
      cases holds with
      | absent untold =>
          exact absurd (untold value ((found value).mp held)) fun null => notNull null
      | present told _ typed =>
          cases held.symm.trans ((found _).mpr told)
          rw [(reads _ _).mpr typed, Option.map_some]

/-- A required text. -/
theorem Struct.requiredString (shape : Struct names document) (distinct : names.Nodup := by decide)
    (known : name ∈ names := by decide) {content : String} :
    requiredField asString (fieldsOf names document name) = some content ↔
      Required IsString names name document content :=
  shape.required (fun _ _ => asString_eq_some) distinct known

/-- An optional text. -/
theorem Struct.string (shape : Struct names document) (distinct : names.Nodup := by decide)
    (known : name ∈ names := by decide) {content : Option String} :
    optionalField asString (fieldsOf names document name) = some content ↔
      Optional IsString names name document content :=
  shape.optional (fun _ _ => asString_eq_some) distinct known

/-- An optional flag. -/
theorem Struct.bool (shape : Struct names document) (distinct : names.Nodup := by decide)
    (known : name ∈ names := by decide) {content : Option Bool} :
    optionalField asBool (fieldsOf names document name) = some content ↔
      Optional IsBool names name document content :=
  shape.optional (fun _ _ => asBool_eq_some) distinct known

/-- An optional unsigned number. -/
theorem Struct.u64 (shape : Struct names document) (distinct : names.Nodup := by decide)
    (known : name ∈ names := by decide) {content : Option UInt64} :
    optionalField asU64 (fieldsOf names document name) = some content ↔
      Optional IsU64 names name document content :=
  shape.optional (fun _ _ => asU64_eq_some) distinct known

/-- An optional signed number. -/
theorem Struct.i64 (shape : Struct names document) (distinct : names.Nodup := by decide)
    (known : name ∈ names := by decide) {content : Option Int64} :
    optionalField asI64 (fieldsOf names document name) = some content ↔
      Optional IsI64 names name document content :=
  shape.optional (fun _ _ => asI64_eq_some) distinct known

/-- What an optional string tells is what a required one would read. -/
theorem Struct.told (shape : Struct names document) {content : Option String}
    (field : Optional IsString names name document content) (distinct : names.Nodup := by decide)
    (known : name ∈ names := by decide) {text : String} :
    content = some text ↔ Required IsString names name document text := by
  rw [← shape.requiredString distinct known]
  have read := (shape.string distinct known).mpr field
  unfold optionalField at read
  unfold requiredField
  split at read
  · rename_i omitted
    cases read
    rw [omitted]
    exact iff_of_false nofun nofun
  · rename_i null
    cases read
    rw [null]
    exact iff_of_false nofun nofun
  · rename_i value _ held
    rw [held, Option.bind_some]
    obtain ⟨text, reading, rfl⟩ := Option.map_eq_some_iff.mp read
    rw [reading]

end Reading

end RustEnrich.Serialization
