import RustEnrich.Http.ErrorResponse

/-!
# Reports of moderate requests fit

A path has at most one name that is not the service's own, the name of an unknown
member, and what that name takes in a body a pointer at most doubles. So a hundred
details take a fixed number of bytes and at most twice the names of the document,
and where bodies are limited to 500 KiB every report fits.
-/

namespace RustEnrich

open Serialization

/-! ### Printed names -/

/-- The bytes a name is printed with, between its quotes. -/
def printedName (name : String) : Nat :=
  (name.toList.map fun char => (Serialization.escape char).length).sum

/-- A quoted name is its printed letters between two quotes. -/
theorem length_quoted_eq (name : String) : (quoted name).length = 2 + printedName name :=
  Http.length_quoted name

/-- A name at most doubles as it is escaped in a path. -/
theorem printedName_escape_le (name : List Char) :
    ((JsonPointer.escape name).map fun char => (Serialization.escape char).length).sum ≤
      2 * (name.map fun char => (Serialization.escape char).length).sum := by
  have one : (Serialization.escape '~').length = 1 ∧ (Serialization.escape '/').length = 1 ∧
      (Serialization.escape '0').length = 1 ∧ (Serialization.escape '1').length = 1 := by
    decide
  induction name with
  | nil => exact le_refl 0
  | cons char rest ih =>
      unfold JsonPointer.escape at ih ⊢
      rw [List.flatMap_cons, List.map_append, List.sum_append, List.map_cons, List.sum_cons]
      split_ifs with tilde slash
      · simp only [tilde, List.map_cons, List.map_nil, List.sum_cons, List.sum_nil, one]
        omega
      · simp only [slash, List.map_cons, List.map_nil, List.sum_cons, List.sum_nil, one]
        omega
      · simp only [List.map_cons, List.map_nil, List.sum_cons, List.sum_nil]
        omega

/-- A pointer prints its last name with at most twice its bytes. -/
theorem printedName_pointer_le (parent field : String) :
    printedName (pointer parent field) ≤ printedName parent + 1 + 2 * printedName field := by
  have slash : (Serialization.escape '/').length = 1 := by decide
  have escaped := printedName_escape_le field.toList
  unfold printedName
  rw [toList_pointer, List.map_append, List.sum_append, List.map_cons, List.sum_cons, slash]
  omega

/-- An index below a million has at most six digits. -/
theorem printedName_repr_le {index : Nat} (small : index < 1000000) :
    printedName index.repr ≤ 6 := by
  have digits := Nat.toDigits_length 10 index 6 (by decide) small
  have ones : ∀ char ∈ index.repr.toList, (Serialization.escape char).length ≤ 1 := by
    intro char member
    rw [Nat.repr, String.toList_ofList] at member
    have digit := Nat.isDigit_of_mem_toDigits (by decide) (by decide) member
    exact (Http.length_escape_uuid (by simp [Http.isUuidChar, digit])).le
  have sum := Http.sum_le ones
  rw [Nat.repr, String.toList_ofList, Nat.mul_one] at sum
  unfold printedName
  rw [Nat.repr, String.toList_ofList]
  exact sum.trans digits

/-! ### Brief violations -/

/-- The fixed texts of a detail are short. -/
theorem violationTexts_short {texts : String × String} (listed : texts ∈ violationTexts) :
    (quoted texts.1).length + (quoted texts.2).length ≤ 130 := by
  have printed : ∀ texts ∈ violationTexts, printedName texts.1 + printedName texts.2 ≤ 126 := by
    decide +kernel
  have short := printed texts listed
  rw [length_quoted_eq, length_quoted_eq]
  omega

namespace Violation

/-- A bound on the bytes of its path. -/
def pathLength (violation : Violation) : Nat :=
  (violation.names.map fun name => 1 + 2 * printedName name).sum

/-- What an unknown member adds with its own name. -/
def ownName (violation : Violation) : Nat :=
  if violation.code = "unknown_field" then 2 * printedName (violation.names.getLastD "") else 0

/-- A violation that takes so many bytes for its path, besides its own name. -/
structure Brief (bound : Nat) (violation : Violation) : Prop where
  path : violation.pathLength ≤ bound + violation.ownName
  texts : (violation.code, violation.message) ∈ violationTexts

variable {bound wider : Nat} {violation : Violation}

/-- A name adds a slash and at most twice its printed length. -/
theorem pathLength_under (name : String) (violation : Violation) :
    (violation.under name).pathLength = 1 + 2 * printedName name + violation.pathLength := rfl

/-- A path is printed within the length that is counted for it. -/
theorem printedName_path_le (violation : Violation) :
    printedName (violation.detail "").path ≤ violation.pathLength := by
  have each : ∀ (names : List String) (path : String), printedName (names.foldl pointer path) ≤
      printedName path + (names.map fun name => 1 + 2 * printedName name).sum := by
    intro names
    induction names with
    | nil => exact fun path => le_refl _
    | cons name rest ih =>
        intro path
        have inner := ih (pointer path name)
        have outer := printedName_pointer_le path name
        rw [List.foldl_cons, List.map_cons, List.sum_cons]
        omega
  have whole := each violation.names ""
  have empty : printedName "" = 0 := by decide
  rwa [empty, Nat.zero_add] at whole

/-- The bytes of the detail of a brief violation. -/
theorem Brief.printedLength_le (brief : violation.Brief bound) :
    Http.ValidationDetail.printedLength (violation.detail "") ≤
      160 + bound + violation.ownName := by
  have path := printedName_path_le violation
  have least := brief.path
  have texts := violationTexts_short brief.texts
  dsimp only at texts
  rw [Http.ValidationDetail.printedLength, length_quoted_eq]
  change 28 + _ + (quoted violation.code).length + (quoted violation.message).length ≤ _
  omega

/-- What is brief within a bound is so within a wider one. -/
theorem Brief.mono (brief : violation.Brief bound) (le : bound ≤ wider) :
    violation.Brief wider where
  path := brief.path.trans (Nat.add_le_add_right le _)
  texts := brief.texts

/-- An outer name takes nothing away from the own one. -/
theorem ownName_le_under (name : String) (violation : Violation) :
    violation.ownName ≤ (violation.under name).ownName := by
  obtain ⟨names, subject, code, message⟩ := violation
  unfold ownName under
  dsimp only
  split
  · cases names with
    | nil => exact Nat.zero_le _
    | cons first rest => exact le_refl _
  · exact le_refl _

/-- A name adds its length to the bound. -/
theorem Brief.under {name : String} (brief : violation.Brief bound)
    (le : bound + 1 + 2 * printedName name ≤ wider) : (violation.under name).Brief wider where
  path := by
    have path := brief.path
    have own := ownName_le_under name violation
    rw [pathLength_under]
    omega
  texts := brief.texts

/-- A violation of a value adds nothing to the path. -/
theorem Plain.brief {value : Value} (plain : violation.Plain value) : violation.Brief 0 where
  path := by
    rw [pathLength, plain.root]
    exact Nat.zero_le _
  texts := plain.texts

/-- The names of the unknown members that violations are about. -/
def ownNames (list : List Violation) : Nat := (list.map ownName).sum

/-- The own names of two lists, one after the other. -/
theorem ownNames_append (front back : List Violation) :
    ownNames (front ++ back) = ownNames front + ownNames back := by
  rw [ownNames, List.map_append, List.sum_append]
  rfl

/-- A part of the violations has a part of the names. -/
theorem ownNames_take_le (count : Nat) (list : List Violation) :
    ownNames (list.take count) ≤ ownNames list := by
  have whole := ownNames_append (list.take count) (list.drop count)
  rw [List.take_append_drop] at whole
  omega

/-- Without unknown fields there are no own names. -/
theorem ownNames_known {list : List Violation}
    (known : ∀ violation ∈ list, violation.code ≠ "unknown_field") : ownNames list = 0 := by
  rw [ownNames, List.sum_eq_zero_iff]
  intro own member
  obtain ⟨violation, listed, rfl⟩ := List.mem_map.mp member
  exact if_neg (known violation listed)

/-- An outer name makes no field unknown. -/
theorem known_under {list : List Violation} {name : String}
    (known : ∀ violation ∈ list, violation.code ≠ "unknown_field") :
    ∀ violation ∈ list.map (under name), violation.code ≠ "unknown_field" := by
  intro violation listed
  obtain ⟨below, member, rfl⟩ := List.mem_map.mp listed
  exact known below member

/-- An unknown field that is named keeps its own name. -/
theorem ownName_under_of_names (settled : violation.code = "unknown_field" → violation.names ≠ [])
    (name : String) : (violation.under name).ownName = violation.ownName := by
  obtain ⟨names, subject, code, message⟩ := violation
  unfold ownName under
  dsimp only at settled ⊢
  split
  · rename_i unknown
    cases names with
    | nil => exact absurd rfl (settled unknown)
    | cons first rest => rfl
  · rfl

end Violation

/-! ### The violations of a document are brief -/

section Brief

variable {parser : UrlParser} {maxBatch bound : Nat} {violation : Violation}

/-- What an object lacks is told by a name of the service. -/
theorem missing_eq {members : List (String × Value)} {name : String}
    (listed : violation ∈ missing members name) :
    violation = {
      names := [name]
      subject := .object members
      code := "required"
      message := "This field is required." } := by
  unfold missing at listed
  split at listed
  · cases listed
  · exact List.mem_singleton.mp listed

/-- A missing member is brief. -/
theorem missing_brief {members : List (String × Value)} {name : String}
    (short : 1 + 2 * printedName name ≤ bound) (listed : violation ∈ missing members name) :
    violation.Brief bound := by
  rw [missing_eq listed]
  refine ⟨?_, by simp [violationTexts]⟩
  change 1 + 2 * printedName name + 0 ≤ _
  omega

/-- An unknown member is brief but for its own name. -/
theorem unknownMember_brief {name : String} {value : Value}
    (listed : violation ∈ [unknownMember value].map (Violation.under name)) :
    violation.Brief 1 := by
  rw [List.mem_singleton.mp listed]
  refine ⟨?_, by simp [violationTexts, unknownMember, Violation.under]⟩
  change 1 + 2 * printedName name + 0 ≤ 1 + 2 * printedName name
  omega

/-- The violations below a name of the service. -/
theorem under_brief {list : List Violation} {name : String} {inner : Nat}
    (each : ∀ violation ∈ list, violation.Brief inner)
    (le : inner + 1 + 2 * printedName name ≤ bound)
    (listed : violation ∈ list.map (Violation.under name)) : violation.Brief bound := by
  obtain ⟨below, member, rfl⟩ := List.mem_map.mp listed
  exact (each below member).under le

/-- The violations of an item are brief. -/
theorem itemViolations_brief {item : Value} (listed : violation ∈ itemViolations parser item) :
    violation.Brief 11 := by
  cases item with
  | object members =>
      unfold itemViolations at listed
      rcases List.mem_append.mp listed with front | lacking
      · rcases List.mem_append.mp front with inside | lacking
        · obtain ⟨⟨key, value⟩, _, here⟩ := List.mem_flatMap.mp inside
          unfold itemMemberViolations at here
          dsimp only at here
          split at here
          · rename_i own
            subst own
            exact under_brief (fun _ below => (typeViolations_plain below).brief) (by decide) here
          split at here
          · rename_i own
            subst own
            exact under_brief (fun _ below => (valueViolations_plain below).brief) (by decide) here
          · exact (unknownMember_brief here).mono (by decide)
        · exact missing_brief (by decide) lacking
      · exact missing_brief (by decide) lacking
  | _ => exact (wrongType_plain listed).brief.mono (Nat.zero_le _)

/-- The violations of the elements of an array, below their indices. -/
theorem elements_brief {items : List Value} {list : Value × Nat → List Violation} {inner : Nat}
    (few : items.length ≤ 1000000)
    (each : ∀ item, ∀ violation ∈ list item, violation.Brief inner)
    (inside : violation ∈ items.zipIdx.flatMap fun item =>
      (list item).map (Violation.under item.2.repr)) : violation.Brief (inner + 13) := by
  obtain ⟨item, there, here⟩ := List.mem_flatMap.mp inside
  have index :=
    printedName_repr_le ((List.snd_lt_of_mem_zipIdx there).trans_le (by simpa using few))
  exact under_brief (each item) (by omega) here

/-- The violations of the indicators are brief. -/
theorem indicatorsViolations_brief {value : Value}
    (few : ∀ items, value = .array items → items.length ≤ 1000000)
    (listed : violation ∈ indicatorsViolations parser maxBatch value) : violation.Brief 24 := by
  cases value with
  | array items =>
      unfold indicatorsViolations at listed
      rcases List.mem_append.mp listed with sized | inside
      · exact (invalidBatchSize_plain sized).brief.mono (Nat.zero_le _)
      · exact elements_brief (few items rfl) (fun _ _ below => itemViolations_brief below) inside
  | _ => exact (wrongType_plain listed).brief.mono (Nat.zero_le _)

/-- The violations of the providers are brief. -/
theorem providersViolations_brief {value : Value}
    (few : ∀ items, value = .array items → items.length ≤ 1000000)
    (listed : violation ∈ providersViolations value) : violation.Brief 13 := by
  cases value with
  | array items =>
      unfold providersViolations at listed
      rcases List.mem_append.mp listed with empty | inside
      · exact (emptyProviders_plain empty).brief.mono (Nat.zero_le _)
      · exact elements_brief (few items rfl)
          (fun _ _ below => (providerViolations_plain below).brief) inside
  | _ => exact (wrongType_plain listed).brief.mono (Nat.zero_le _)

/-- The violations of a document are brief. -/
theorem violations_brief {document : Value}
    (few : ∀ members, document = .object members → ∀ member ∈ members, ∀ items,
      member.2 = .array items → items.length ≤ 1000000)
    (listed : violation ∈ violations parser maxBatch document) : violation.Brief 45 := by
  cases document with
  | object members =>
      unfold violations at listed
      rcases List.mem_append.mp listed with inside | lacking
      · obtain ⟨⟨key, value⟩, there, here⟩ := List.mem_flatMap.mp inside
        have own := few members rfl (key, value) there
        unfold memberViolations at here
        dsimp only at here own
        split at here
        · rename_i same
          subst same
          exact under_brief (fun _ below => indicatorsViolations_brief own below) (by decide) here
        split at here
        · rename_i same
          subst same
          exact under_brief (fun _ below => providersViolations_brief own below) (by decide) here
        split at here
        · rename_i same
          subst same
          exact under_brief (fun _ below => (includeRawViolations_plain below).brief) (by decide)
            here
        · exact (unknownMember_brief here).mono (by decide)
      · exact missing_brief (by decide) lacking
  | _ => exact (wrongType_plain listed).brief.mono (Nat.zero_le _)

end Brief

/-! ### The names of a document -/

namespace Value

mutual

/-- The bytes of the names of a document, and its elements. -/
def weight : Value → Nat
  | .array values => weightValues values
  | .object members => weightMembers members
  | _ => 0

/-- The printed names in the values of an array, and one for each value. -/
def weightValues : List Value → Nat
  | [] => 0
  | value :: rest => 1 + weight value + weightValues rest

/-- The printed names in the members of an object. -/
def weightMembers : List (String × Value) → Nat
  | [] => 0
  | (name, value) :: rest => printedName name + weight value + weightMembers rest

end

/-- The values of an array weigh as much as each of them, and one more each. -/
theorem weightValues_eq (values : List Value) :
    weightValues values = values.length + (values.map weight).sum := by
  induction values with
  | nil => rfl
  | cons value rest ih =>
      rw [weightValues, ih, List.length_cons, List.map_cons, List.sum_cons]
      omega

/-- The members of an object weigh as much as their names and values. -/
theorem weightMembers_eq (members : List (String × Value)) :
    weightMembers members =
      (members.map fun member => printedName member.1 + weight member.2).sum := by
  induction members with
  | nil => rfl
  | cons member rest ih =>
      obtain ⟨name, value⟩ := member
      rw [weightMembers, ih, List.map_cons, List.sum_cons]

/-- An array in a document has no more elements than the document weighs. -/
theorem length_le_weight {members : List (String × Value)} {member : String × Value}
    {items : List Value} (inside : member ∈ members) (array : member.2 = .array items) :
    items.length ≤ weight (.object members) := by
  have part : printedName member.1 + weight member.2 ≤ weightMembers members := by
    rw [weightMembers_eq]
    exact List.single_le_sum (fun _ _ => Nat.zero_le _) _ (List.mem_map_of_mem inside)
  rw [array, weight, weightValues_eq] at part
  rw [weight]
  omega

end Value

section Names

variable {parser : UrlParser} {maxBatch : Nat}

open Violation

/-- What holds of the parts of a list holds of it. -/
theorem ownNames_flatMap_le {α : Type*} {values : List α} {list : α → List Violation}
    {weight : α → Nat} (each : ∀ value ∈ values, ownNames (list value) ≤ 2 * weight value) :
    ownNames (values.flatMap list) ≤ 2 * (values.map weight).sum := by
  induction values with
  | nil => exact le_refl 0
  | cons value rest ih =>
      have own := each value List.mem_cons_self
      have others := ih fun value member => each value (List.mem_cons_of_mem _ member)
      rw [List.flatMap_cons, ownNames_append, List.map_cons, List.sum_cons]
      omega

/-- A missing member has no own name. -/
theorem ownNames_missing (members : List (String × Value)) (name : String) :
    ownNames (missing members name) = 0 := by
  unfold missing
  split <;> rfl

/-- The own names of a member are within its printed name. -/
theorem itemMemberViolations_names (kind : Option IndicatorKind) (member : String × Value) :
    ownNames (itemMemberViolations parser kind member) ≤ 2 * printedName member.1 := by
  unfold itemMemberViolations
  split
  · rw [ownNames_known (known_under fun _ below => (typeViolations_plain below).known)]
    exact Nat.zero_le _
  split
  · rw [ownNames_known (known_under fun _ below => (valueViolations_plain below).known)]
    exact Nat.zero_le _
  · exact le_refl (2 * printedName member.1 + 0)

/-- The own names of an item are within its weight. -/
theorem itemViolations_names (item : Value) :
    ownNames (itemViolations parser item) ≤ 2 * item.weight := by
  cases item with
  | object members =>
      have names := @ownNames_flatMap_le _ members
        (itemMemberViolations parser (kindOf members)) _
        (fun member _ => itemMemberViolations_names (kindOf members) member)
      have part : (members.map fun member => printedName member.1).sum ≤
          Value.weightMembers members := by
        rw [Value.weightMembers_eq]
        exact List.sum_le_sum fun member _ => Nat.le_add_right _ _
      rw [itemViolations, ownNames_append, ownNames_append, ownNames_missing, ownNames_missing,
        Value.weight]
      omega
  | _ => exact Nat.zero_le _

/-- An item tells an unknown member below its name. -/
theorem itemViolations_settled {item : Value} {violation : Violation}
    (listed : violation ∈ itemViolations parser item)
    (unknown : violation.code = "unknown_field") : violation.names ≠ [] := by
  cases item with
  | object members =>
      unfold itemViolations at listed
      rcases List.mem_append.mp listed with front | lacking
      · rcases List.mem_append.mp front with inside | lacking
        · obtain ⟨member, _, here⟩ := List.mem_flatMap.mp inside
          obtain ⟨below, _, rfl⟩ := List.mem_map.mp here
          exact List.cons_ne_nil _ _
        · rw [missing_eq lacking]
          exact List.cons_ne_nil _ _
      · rw [missing_eq lacking]
        exact List.cons_ne_nil _ _
  | _ => exact absurd unknown (wrongType_plain listed).known

/-- An outer name keeps the own names of named fields. -/
theorem ownNames_under {list : List Violation} (name : String)
    (settled : ∀ violation ∈ list, violation.code = "unknown_field" → violation.names ≠ []) :
    ownNames (list.map (under name)) = ownNames list := by
  rw [ownNames, List.map_map]
  congr 1
  exact List.map_congr_left fun violation listed =>
    ownName_under_of_names (settled violation listed) name

/-- The own names of the indicators are within their weight. -/
theorem indicatorsViolations_names (value : Value) :
    ownNames (indicatorsViolations parser maxBatch value) ≤ 2 * value.weight := by
  cases value with
  | array items =>
      have names := @ownNames_flatMap_le _ items.zipIdx
        (fun item => (itemViolations parser item.1).map (under item.2.repr))
        (fun item => item.1.weight) (by
          intro item _
          rw [ownNames_under _ fun _ => itemViolations_settled]
          exact itemViolations_names item.1)
      have zipped : items.zipIdx.map (fun item => item.1.weight) = items.map Value.weight := by
        calc items.zipIdx.map (fun item => item.1.weight)
            = (items.zipIdx.map Prod.fst).map Value.weight := List.map_map.symm
          _ = items.map Value.weight := by rw [List.zipIdx_map_fst]
      rw [zipped] at names
      rw [indicatorsViolations, ownNames_append,
        ownNames_known fun _ sized => (invalidBatchSize_plain sized).known, Value.weight,
        Value.weightValues_eq]
      omega
  | _ => exact Nat.zero_le _

/-- An unknown field of an item is named. -/
theorem indicatorsViolations_settled {value : Value} {violation : Violation}
    (listed : violation ∈ indicatorsViolations parser maxBatch value)
    (unknown : violation.code = "unknown_field") : violation.names ≠ [] := by
  cases value with
  | array items =>
      unfold indicatorsViolations at listed
      rcases List.mem_append.mp listed with sized | inside
      · exact absurd unknown (invalidBatchSize_plain sized).known
      · obtain ⟨item, _, here⟩ := List.mem_flatMap.mp inside
        obtain ⟨below, _, rfl⟩ := List.mem_map.mp here
        exact List.cons_ne_nil _ _
  | _ => exact absurd unknown (wrongType_plain listed).known

/-- The providers have no unknown field. -/
theorem providersViolations_known {value : Value} {violation : Violation}
    (listed : violation ∈ providersViolations value) : violation.code ≠ "unknown_field" := by
  cases value with
  | array items =>
      unfold providersViolations at listed
      rcases List.mem_append.mp listed with empty | inside
      · exact (emptyProviders_plain empty).known
      · obtain ⟨item, _, here⟩ := List.mem_flatMap.mp inside
        exact known_under (fun _ below => (providerViolations_plain below).known) _ here
  | _ => exact (wrongType_plain listed).known

/-- The own names of a member are within its weight. -/
theorem memberViolations_names (member : String × Value) :
    ownNames (memberViolations parser maxBatch member) ≤
      2 * (printedName member.1 + member.2.weight) := by
  have inside := @indicatorsViolations_names parser maxBatch member.2
  unfold memberViolations
  split
  · rw [ownNames_under _ fun _ => indicatorsViolations_settled]
    omega
  split
  · rw [ownNames_known (known_under fun _ => providersViolations_known)]
    exact Nat.zero_le _
  split
  · rw [ownNames_known (known_under fun _ below => (includeRawViolations_plain below).known)]
    exact Nat.zero_le _
  · change 2 * printedName member.1 + 0 ≤ _
    omega

/-- The own names of a document are within twice its weight. -/
theorem violations_names (document : Value) :
    ownNames (violations parser maxBatch document) ≤ 2 * document.weight := by
  cases document with
  | object members =>
      have names := @ownNames_flatMap_le _ members (memberViolations parser maxBatch) _
        (fun member _ => memberViolations_names member)
      rw [violations, ownNames_append, ownNames_missing, Value.weight, Value.weightMembers_eq]
      exact names
  | _ => exact Nat.zero_le _

end Names

/-! ### Moderate requests -/

namespace Http

/-- Brief details are printed within a fixed length each and their own names. -/
theorem sum_printedLength_le {list : List Violation}
    (brief : ∀ violation ∈ list, violation.Brief 45) :
    ((list.map (Violation.detail "")).map ValidationDetail.printedLength).sum ≤
      205 * list.length + Violation.ownNames list := by
  induction list with
  | nil => exact le_refl 0
  | cons violation rest ih =>
      have own := (brief violation List.mem_cons_self).printedLength_le
      have others := ih fun other member => brief other (List.mem_cons_of_mem _ member)
      have names := Violation.ownNames_append [violation] rest
      have single : Violation.ownNames [violation] = violation.ownName := List.sum_singleton
      rw [single, List.singleton_append] at names
      rw [List.map_cons, List.map_cons, List.sum_cons, List.length_cons, names]
      omega

variable {parser : UrlParser} {maxBatch : Nat} {document : Value}

/-- The report of a document, by what it weighs. -/
theorem reportLength_le (moderate : document.weight ≤ 1000000) :
    reportLength (((violations parser maxBatch document).take 100).map (Violation.detail "")) ≤
      20798 + 2 * document.weight := by
  have brief : ∀ violation ∈ (violations parser maxBatch document).take 100,
      violation.Brief 45 := by
    intro violation listed
    refine violations_brief ?_ (List.mem_of_mem_take listed)
    rintro members rfl member inside items array
    exact (Value.length_le_weight inside array).trans moderate
  have few : ((violations parser maxBatch document).take 100).length ≤ 100 :=
    List.length_take_le _ _
  have own := (Violation.ownNames_take_le 100 _).trans
    (@violations_names parser maxBatch document)
  have sum := sum_printedLength_le brief
  rw [reportLength, List.length_map]
  omega

/-- A parser takes from a body a byte for each byte of a printed name, and one for
each element. -/
def Sparing (read : List UInt8 → Option Value) : Prop :=
  ∀ body document, read body = some document → document.weight ≤ body.length

/-- Where bodies are limited to 500 KiB, every request with semantic errors gets
its 422. -/
theorem rejection_reported_of_moderate {serializer : Serializer} {id : RequestId}
    {details : List ValidationDetail} {config : Config} {read : List UInt8 → Option Value}
    {chunks : List (List UInt8)} {serve : ValidatedRequest → Response} (sparing : Sparing read)
    (moderate : config.maxRequestBytes.toNat ≤ 512000)
    (within : chunks.flatten.length ≤ config.maxRequestBytes.toNat)
    (rejected : validateRequest read parser chunks.flatten config.maxBatchSize.toNat
      config.enabled = .error (.semantic details)) :
    Reported serializer id details
      (enrichAdmitted serializer config read parser id true (chunks.map .chunk) serve) := by
  rw [enrichAdmitted_semantic within rejected, reported_errorResponse_iff]
  cases parsed : read chunks.flatten with
  | none =>
      rw [validateRequest, parsed] at rejected
      cases rejected
  | some document =>
      have weight := sparing _ _ parsed
      have length := @reportLength_le parser config.maxBatchSize.toNat document (by omega)
      rw [details_of_rejected parsed rejected]
      have limit : envelopeLimit = 1048576 := by norm_num [envelopeLimit]
      omega

end Http

end RustEnrich
