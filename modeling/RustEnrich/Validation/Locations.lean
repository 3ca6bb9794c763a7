import RustEnrich.Validation.Violations
import RustEnrich.Validation.Acceptance

/-!
# Where details point

The path of a detail, read as a JSON pointer in the submitted document, denotes
the value the detail is about; that of a missing member denotes it in an object
that lacks it.
-/

namespace RustEnrich

open Serialization JsonPointer

/-! ### Paths -/

/-- A path grows by a slash and an escaped name. -/
theorem toList_pointer (parent field : String) :
    (pointer parent field).toList = parent.toList ++ '/' :: escape field.toList := by
  have slash : "/".toList = ['/'] := by decide
  have one : "~1".toList = ['~', '1'] := by decide
  have zero : "~0".toList = ['~', '0'] := by decide
  simp only [pointer, replaceChar, String.toList_append, String.toList_ofList, slash, one, zero,
    List.append_assoc, List.singleton_append, List.flatMap_assoc, JsonPointer.escape]
  congr 2
  apply List.flatMap_congr
  intro char _
  by_cases tilde : char = '~'
  · rw [if_pos tilde, if_pos tilde]
    rfl
  · rw [if_neg tilde, if_neg tilde, List.flatMap_cons, List.flatMap_nil, List.append_nil]

/-- A path grows by its names as they are rendered. -/
theorem toList_foldl_pointer (names : List String) (path : String) :
    (names.foldl pointer path).toList = path.toList ++ render names := by
  induction names generalizing path with
  | nil => exact (List.append_nil _).symm
  | cons name rest ih =>
      rw [List.foldl_cons, ih, toList_pointer, render, render, List.flatMap_cons, List.append_assoc]

/-- A path is read back as the names it is made of. -/
theorem resolve_path (names : List String) (document : Value) :
    resolve (names.foldl pointer "") document = follow document names := by
  rw [resolve, toList_foldl_pointer]
  change (JsonPointer.names (render names)).bind _ = _
  rw [names_render, Option.bind_some]

/-! ### Violations of a value itself -/

/-- The codes of violations with what is said of each. -/
def violationTexts : List (String × String) := [
  ("invalid_type", "The field has an invalid JSON type."),
  ("unknown_field", "This request field is not supported."),
  ("required", "This field is required."),
  ("invalid_indicator_type", "Expected ip, url, or hash."),
  ("invalid_value_length", "The value must contain between 1 and 4,096 UTF-8 bytes."),
  invalidIndicator .ip,
  invalidIndicator .url,
  invalidIndicator .hash,
  ("invalid_batch_size", "The indicator count is outside the permitted range."),
  ("unknown_provider", "The provider ID is not recognized."),
  ("duplicate_provider", "Provider IDs must not be repeated."),
  ("empty_providers", "Select at least one provider.")]

/-- A violation of a value itself, other than as an unknown member. -/
structure Violation.Plain (value : Value) (violation : Violation) : Prop where
  root : violation.names = []
  subject : violation.subject = value
  known : violation.code ≠ "unknown_field"
  present : violation.code ≠ "required"
  texts : (violation.code, violation.message) ∈ violationTexts

section Plain

variable {parser : UrlParser} {maxBatch : Nat} {violation : Violation}

/-- A rejected value has the reason of its kind. -/
theorem validateIndicator_error {parser : UrlParser} {kind : IndicatorKind} {value : String}
    {reason : String × String} (rejected : validateIndicator parser kind value = .error reason) :
    reason = invalidIndicator kind := by
  unfold validateIndicator at rejected
  dsimp only at rejected
  split at rejected
  · cases rejected
    rfl
  · split at rejected
    · cases rejected
      rfl
    · cases rejected

/-- A wrong type is about the value itself. -/
theorem wrongType_plain {value : Value} (listed : violation ∈ [wrongType value]) :
    violation.Plain value := by
  rw [List.mem_singleton.mp listed]
  exact ⟨rfl, rfl, (by decide : "invalid_type" ≠ "unknown_field"),
    (by decide : "invalid_type" ≠ "required"), by simp [violationTexts, wrongType]⟩

/-- A violation that is listed on a condition. -/
theorem conditional_plain {value : Value} {condition : Prop} [Decidable condition]
    {single : Violation} (plain : single.Plain value)
    (listed : violation ∈ if condition then [single] else []) : violation.Plain value := by
  split at listed
  · rw [List.mem_singleton.mp listed]
    exact plain
  · cases listed

/-- A wrong kind is about the value itself. -/
theorem typeViolations_plain {kind : Option IndicatorKind} {value : Value}
    (listed : violation ∈ typeViolations kind value) : violation.Plain value := by
  cases value with
  | string text =>
      exact conditional_plain
        ⟨rfl, rfl, (by decide : "invalid_indicator_type" ≠ "unknown_field"),
          (by decide : "invalid_indicator_type" ≠ "required"), by simp [violationTexts]⟩ listed
  | _ => exact wrongType_plain listed

/-- The reason of a kind is neither an unknown field nor a missing one. -/
theorem invalidIndicator_texts (kind : IndicatorKind) :
    (invalidIndicator kind).1 ≠ "unknown_field" ∧ (invalidIndicator kind).1 ≠ "required" ∧
      invalidIndicator kind ∈ violationTexts := by
  cases kind <;> simp [invalidIndicator, violationTexts]

/-- A wrong value is about itself. -/
theorem valueViolations_plain {kind : Option IndicatorKind} {value : Value}
    (listed : violation ∈ valueViolations parser kind value) : violation.Plain value := by
  cases value with
  | string text =>
      simp only [valueViolations] at listed
      split at listed
      · rw [List.mem_singleton.mp listed]
        exact ⟨rfl, rfl, (by decide : "invalid_value_length" ≠ "unknown_field"),
          (by decide : "invalid_value_length" ≠ "required"), by simp [violationTexts]⟩
      cases kind with
      | none => cases listed
      | some kind =>
          dsimp only at listed
          cases valid : validateIndicator parser kind text with
          | ok indicator =>
              rw [valid] at listed
              cases listed
          | error reason =>
              have reported := validateIndicator_error valid
              rw [valid] at listed
              rw [List.mem_singleton.mp listed, reported]
              obtain ⟨known, present, texts⟩ := invalidIndicator_texts kind
              exact ⟨rfl, rfl, known, present, texts⟩
  | _ => exact wrongType_plain listed

/-- A wrong number of items is about the array itself. -/
theorem invalidBatchSize_plain {items : List Value}
    (listed : violation ∈ if items.length = 0 ∨ maxBatch < items.length then [{
      names := []
      subject := .array items
      code := "invalid_batch_size"
      message := "The indicator count is outside the permitted range." }] else []) :
    violation.Plain (.array items) :=
  conditional_plain ⟨rfl, rfl, (by decide : "invalid_batch_size" ≠ "unknown_field"),
    (by decide : "invalid_batch_size" ≠ "required"), by simp [violationTexts]⟩ listed

/-- A wrong provider is about itself. -/
theorem providerViolations_plain {earlier : List Value} {value : Value}
    (listed : violation ∈ providerViolations earlier value) : violation.Plain value := by
  cases value with
  | string text =>
      simp only [providerViolations] at listed
      split at listed
      · rw [List.mem_singleton.mp listed]
        exact ⟨rfl, rfl, (by decide : "unknown_provider" ≠ "unknown_field"),
          (by decide : "unknown_provider" ≠ "required"), by simp [violationTexts]⟩
      · exact conditional_plain ⟨rfl, rfl, (by decide : "duplicate_provider" ≠ "unknown_field"),
          (by decide : "duplicate_provider" ≠ "required"), by simp [violationTexts]⟩ listed
  | _ => exact wrongType_plain listed

/-- An empty list of providers is about itself. -/
theorem emptyProviders_plain {items : List Value}
    (listed : violation ∈ if items.length = 0 then [{
      names := []
      subject := .array items
      code := "empty_providers"
      message := "Select at least one provider." }] else []) :
    violation.Plain (.array items) :=
  conditional_plain ⟨rfl, rfl, (by decide : "empty_providers" ≠ "unknown_field"),
    (by decide : "empty_providers" ≠ "required"), by simp [violationTexts]⟩ listed

/-- A wrong flag is about itself. -/
theorem includeRawViolations_plain {value : Value}
    (listed : violation ∈ includeRawViolations value) : violation.Plain value := by
  unfold includeRawViolations at listed
  split at listed
  · cases listed
  · exact wrongType_plain listed

end Plain

/-! ### Located violations -/

/-- The names of a violation lead to its value. Of a missing member all but the
last lead to the object that lacks it. -/
def Violation.Located (document : Value) (violation : Violation) : Prop :=
  if violation.code = "required" then
    ∃ parent name members, violation.names = parent ++ [name] ∧
      violation.subject = .object members ∧ name ∉ Value.keys members ∧
      follow document parent = some (.object members)
  else
    follow document violation.names = some violation.subject

namespace Violation.Located

variable {document value : Value} {name : String} {violation : Violation}

/-- A violation of the document itself is located at its root. -/
theorem here (root : violation.names = []) (subject : violation.subject = value)
    (present : violation.code ≠ "required") : violation.Located value := by
  rw [Located, if_neg present, root, subject]
  rfl

/-- A violation of a value itself is located there. -/
theorem plain (own : violation.Plain value) : violation.Located value :=
  here own.root own.subject own.present

/-- A violation of a part is located under its name. -/
theorem under (inside : child document name = some value) (located : violation.Located value) :
    (violation.under name).Located document := by
  unfold Located at located ⊢
  by_cases required : violation.code = "required"
  · rw [if_pos required] at located
    obtain ⟨parent, last, members, names, subject, absent, leads⟩ := located
    change (if violation.code = "required" then _ else _)
    rw [if_pos required]
    refine ⟨name :: parent, last, members, ?_, subject, absent, ?_⟩
    · exact congrArg (name :: ·) names
    · rw [follow_cons, inside, Option.bind_some, leads]
  · rw [if_neg required] at located
    change (if violation.code = "required" then _ else _)
    rw [if_neg required]
    change follow document (name :: violation.names) = some violation.subject
    rw [follow_cons, inside, Option.bind_some, located]

/-- A missing member is located at the object that lacks it. -/
theorem missing {members : List (String × Value)}
    (lacking : violation ∈ RustEnrich.missing members name) :
    violation.Located (.object members) := by
  unfold RustEnrich.missing at lacking
  split at lacking
  · cases lacking
  · rename_i absent
    rw [List.mem_singleton.mp lacking]
    exact ⟨[], name, members, rfl, rfl, absent, rfl⟩

end Violation.Located

section Located

variable {parser : UrlParser} {maxBatch : Nat} {violation : Violation}

/-- A document without repeated names has distinct ones. -/
theorem keys_nodup {members : List (String × Value)}
    (distinct : ¬ (Value.object members).RepeatsKey) :
    (Value.keys members).Nodup := by
  by_contra repeated
  exact distinct (.here repeated)

/-- An unknown member is located at itself. -/
theorem unknownMember_located {value : Value} (listed : violation ∈ [unknownMember value]) :
    violation.Located value := by
  rw [List.mem_singleton.mp listed]
  exact .here rfl rfl (by decide : "unknown_field" ≠ "required")

/-- The violations of an object are those of its members and what it lacks. -/
theorem members_located {members : List (String × Value)}
    {listed : String × Value → List Violation} (distinct : (Value.keys members).Nodup)
    (each : ∀ member ∈ members, ∀ violation ∈ listed member, violation.Located member.2)
    (inside : violation ∈ members.flatMap fun member =>
      (listed member).map (Violation.under member.1)) :
    violation.Located (.object members) := by
  obtain ⟨member, there, here⟩ := List.mem_flatMap.mp inside
  obtain ⟨inner, below, rfl⟩ := List.mem_map.mp here
  exact (each member there inner below).under (child_object distinct there)

/-- The violations of the elements of an array. -/
theorem elements_located {items : List Value} {listed : Value × Nat → List Violation}
    (each : ∀ item ∈ items.zipIdx, ∀ violation ∈ listed item, violation.Located item.1)
    (inside : violation ∈ items.zipIdx.flatMap fun item =>
      (listed item).map (Violation.under item.2.repr)) :
    violation.Located (.array items) := by
  obtain ⟨item, there, here⟩ := List.mem_flatMap.mp inside
  obtain ⟨inner, below, rfl⟩ := List.mem_map.mp here
  exact (each item there inner below).under
    (child_array (List.mem_zipIdx_iff_getElem?.mp there))

/-- The violations of an item are located in it. -/
theorem itemViolations_located {item : Value} (distinct : ¬ item.RepeatsKey)
    (listed : violation ∈ itemViolations parser item) : violation.Located item := by
  cases item with
  | object members =>
      unfold itemViolations at listed
      rcases List.mem_append.mp listed with front | lacking
      · rcases List.mem_append.mp front with inside | lacking
        · apply members_located (keys_nodup distinct) ?_ inside
          intro member _ inner below
          split at below
          · exact .plain (typeViolations_plain below)
          split at below
          · exact .plain (valueViolations_plain below)
          · exact unknownMember_located below
        · exact .missing lacking
      · exact .missing lacking
  | _ => exact .plain (wrongType_plain listed)

/-- The violations of the indicators are located in them. -/
theorem indicatorsViolations_located {value : Value} (distinct : ¬ value.RepeatsKey)
    (listed : violation ∈ indicatorsViolations parser maxBatch value) :
    violation.Located value := by
  cases value with
  | array items =>
      unfold indicatorsViolations at listed
      rcases List.mem_append.mp listed with sized | inside
      · exact .plain (invalidBatchSize_plain sized)
      · apply elements_located ?_ inside
        intro item there inner below
        apply itemViolations_located ?_ below
        intro repeats
        exact distinct (.element (List.fst_mem_of_mem_zipIdx there) repeats)
  | _ => exact .plain (wrongType_plain listed)

/-- The violations of the providers are located in them. -/
theorem providersViolations_located {value : Value}
    (listed : violation ∈ providersViolations value) : violation.Located value := by
  cases value with
  | array items =>
      unfold providersViolations at listed
      rcases List.mem_append.mp listed with empty | inside
      · exact .plain (emptyProviders_plain empty)
      · apply elements_located ?_ inside
        intro item _ inner below
        exact .plain (providerViolations_plain below)
  | _ => exact .plain (wrongType_plain listed)

/-- The violations of a document are located in it. -/
theorem violations_located {document : Value} (distinct : ¬ document.RepeatsKey)
    (listed : violation ∈ violations parser maxBatch document) : violation.Located document := by
  cases document with
  | object members =>
      unfold violations at listed
      rcases List.mem_append.mp listed with inside | lacking
      · apply members_located (keys_nodup distinct) ?_ inside
        intro member there inner below
        split at below
        · apply indicatorsViolations_located ?_ below
          intro repeats
          exact distinct (.member there repeats)
        split at below
        · exact providersViolations_located below
        split at below
        · exact .plain (includeRawViolations_plain below)
        · exact unknownMember_located below
      · exact .missing lacking
  | _ => exact .plain (wrongType_plain listed)

end Located

/-! ### Rejected requests -/

section Rejected

variable {read : List UInt8 → Option Value} {parser : UrlParser} {body : List UInt8}
  {maxBatch : Nat} {enabled : List ProviderId} {document : Value}
  {details : List ValidationDetail}

/-- A body that parses without repeated names is judged by what is kept of it. -/
theorem validateRequest_kept (parsed : read body = some document)
    (distinct : ¬ document.RepeatsKey) :
    validateRequest read parser body maxBatch enabled =
      validateJson parser maxBatch enabled (RequestJson.erase document) := by
  rw [validateRequest, parsed, Option.bind_some, RequestJson.deserialize_distinct document distinct]

/-- Nothing is missing from the violations: a document without any is one that
denotes a request. -/
theorem violations_eq_nil_iff (parsed : read body = some document)
    (distinct : ¬ document.RepeatsKey) :
    violations parser maxBatch document = [] ↔
      ∃ request, DocumentDenotes parser maxBatch enabled document request := by
  have decides := @validateJson_kept parser maxBatch enabled document
  rw [← validateRequest_kept parsed distinct] at decides
  constructor
  · intro clean
    rcases decides with ⟨_, request, accepted⟩ | ⟨reported, _⟩
    · exact ⟨request, (validateRequest_distinct parsed distinct).mp accepted⟩
    · exact absurd clean reported
  · intro ⟨request, denotes⟩
    rcases decides with ⟨clean, _⟩ | ⟨_, rejected⟩
    · exact clean
    · rw [(validateRequest_distinct parsed distinct).mpr denotes] at rejected
      cases rejected

/-- **Validation details point at the offence.** Where a request is rejected for
what it says, its details are the first hundred of the violations of the
document, in its order, and at least one; and every path, as a JSON pointer in
the document, denotes the value that violates, or for a missing member its
parent denotes the object that lacks it. -/
theorem details_located (parsed : read body = some document) (distinct : ¬ document.RepeatsKey)
    (rejected : validateRequest read parser body maxBatch enabled = .error (.semantic details)) :
    1 ≤ details.length ∧ details.length ≤ 100 ∧
      details = ((violations parser maxBatch document).take 100).map (Violation.detail "") ∧
      ∀ violation ∈ violations parser maxBatch document,
        (violation.code ≠ "required" →
          resolve (violation.detail "").path document = some violation.subject) ∧
        (violation.code = "required" →
          ∃ parent name members, (violation.detail "").path = pointer parent name ∧
            resolve parent document = some (.object members) ∧
            violation.subject = .object members ∧ name ∉ Value.keys members) := by
  rw [validateRequest_kept parsed distinct] at rejected
  rcases @validateJson_kept parser maxBatch enabled document with
    ⟨_, request, accepted⟩ | ⟨reported, semantic⟩
  · rw [accepted] at rejected
    cases rejected
  rw [semantic] at rejected
  cases rejected
  have some_ := List.length_pos_iff.mpr reported
  rw [kept, ← List.map_take, List.length_map, List.length_take]
  refine ⟨by omega, by omega, rfl, ?_⟩
  intro violation listed
  have located := violations_located distinct listed
  unfold Violation.Located at located
  constructor
  · intro present
    rw [if_neg present] at located
    rw [Violation.detail, resolve_path, located]
  · intro required
    rw [if_pos required] at located
    obtain ⟨parent, name, members, names, subject, absent, leads⟩ := located
    refine ⟨parent.foldl pointer "", name, members, ?_, ?_, subject, absent⟩
    · rw [Violation.detail, names, List.foldl_append]
      rfl
    · rw [resolve_path, leads]

end Rejected

/-! ### An item without a value -/

/-- A name with a tilde and a slash, and an address that is not given. -/
def incompleteMembers : List (String × Value) := [
  ("other~/", .bool true),
  ("indicators", .array [.object [("type", .string "ip")]])]

/-- The incomplete document repeats no name. -/
theorem incomplete_distinct : ¬ (Value.object incompleteMembers).RepeatsKey := by
  intro repeats
  cases RequestJson.deserialize_repeated repeats

/-- An unknown name with escapes, and an item that lacks its value. -/
theorem details_located_incomplete :
    validateRequest (fun _ => some (.object incompleteMembers)) (fun _ => none) [] 20 [] =
      .error (.semantic [
        ⟨"/other~0~1", "unknown_field", "This request field is not supported."⟩,
        ⟨"/indicators/0/value", "required", "This field is required."⟩]) ∧
    resolve "/other~0~1" (.object incompleteMembers) = some (.bool true) := by
  have rejected : validateRequest (fun _ => some (.object incompleteMembers)) (fun _ => none) []
      20 [] = .error (.semantic [
        ⟨"/other~0~1", "unknown_field", "This request field is not supported."⟩,
        ⟨"/indicators/0/value", "required", "This field is required."⟩]) := by decide +kernel
  obtain ⟨_, _, _, each⟩ := @details_located (fun _ => some (.object incompleteMembers)) _ _ _ _
    _ _ rfl incomplete_distinct rejected
  have listed : Violation.under "other~/" (unknownMember (.bool true)) ∈
      violations (fun _ => none) 20 (.object incompleteMembers) := List.Mem.head _
  have path : (Violation.detail "" (.under "other~/" (unknownMember (.bool true)))).path =
      "/other~0~1" := by decide
  refine ⟨rejected, ?_⟩
  rw [← path, (each _ listed).1 (by decide : "unknown_field" ≠ "required")]
  rfl

end RustEnrich
