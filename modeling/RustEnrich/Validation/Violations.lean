import RustEnrich.Validation.Grammar
import RustEnrich.Serialization.JsonPointer
import RustEnrich.Collections.CappedLog

/-!
# Violations

What is wrong with a document, in the order of the document and without a limit:
each violation with the names that lead to it and the value it is about. The
details of a rejected request are the first hundred of them, and the path of
each denotes that value.
-/

namespace RustEnrich

open Serialization JsonPointer

/-- One thing that is wrong: where, with which value (for a missing member, the
object that lacks it), and what is reported of it. -/
structure Violation where
  names : List String
  subject : Value
  code : String
  message : String

namespace Violation

/-- The same violation, seen from the value a name leads from. -/
def under (name : String) (violation : Violation) : Violation :=
  { violation with names := name :: violation.names }

/-- The detail of a violation below a path. -/
def detail (path : String) (violation : Violation) : ValidationDetail where
  path := violation.names.foldl pointer path
  code := violation.code
  message := violation.message

end Violation

/-! ### The violations of a document -/

/-- A value of another type. -/
def wrongType (value : Value) : Violation where
  names := []
  subject := value
  code := "invalid_type"
  message := "The field has an invalid JSON type."

/-- A member that is not known. -/
def unknownMember (value : Value) : Violation where
  names := []
  subject := value
  code := "unknown_field"
  message := "This request field is not supported."

/-- A member that is missing. -/
def missing (members : List (String × Value)) (name : String) : List Violation :=
  if name ∈ Value.keys members then []
  else [{
    names := [name]
    subject := .object members
    code := "required"
    message := "This field is required." }]

/-- The kind an item names, if it names one. -/
def kindOf (members : List (String × Value)) : Option IndicatorKind :=
  (members.find? fun member => member.1 = "type").bind fun member =>
    match member.2 with
    | .string text => IndicatorKind.parse text
    | _ => none

/-- What is wrong with the type of an indicator. -/
def typeViolations (kind : Option IndicatorKind) : Value → List Violation
  | .string text =>
      if kind.isNone then [{
        names := []
        subject := .string text
        code := "invalid_indicator_type"
        message := "Expected ip, url, or hash." }]
      else []
  | value => [wrongType value]

/-- What is wrong with the value of an indicator. -/
def valueViolations (parser : UrlParser) (kind : Option IndicatorKind) : Value → List Violation
  | .string text =>
      if text = "" ∨ 4096 < text.utf8ByteSize then [{
        names := []
        subject := .string text
        code := "invalid_value_length"
        message := "The value must contain between 1 and 4,096 UTF-8 bytes." }]
      else
        match kind with
        | none => []
        | some kind =>
            match validateIndicator parser kind text with
            | .ok _ => []
            | .error (code, message) => [{ names := [], subject := .string text, code, message }]
  | value => [wrongType value]

/-- What is wrong with a member of an item. -/
def itemMemberViolations (parser : UrlParser) (kind : Option IndicatorKind)
    (member : String × Value) : List Violation :=
  (if member.1 = "type" then typeViolations kind member.2
    else if member.1 = "value" then valueViolations parser kind member.2
    else [unknownMember member.2]).map (.under member.1)

/-- What is wrong with an item. -/
def itemViolations (parser : UrlParser) : Value → List Violation
  | .object members =>
      members.flatMap (itemMemberViolations parser (kindOf members)) ++
        missing members "type" ++ missing members "value"
  | value => [wrongType value]

/-- What is wrong with the indicators. -/
def indicatorsViolations (parser : UrlParser) (maxBatch : Nat) : Value → List Violation
  | .array items =>
      (if items.length = 0 ∨ maxBatch < items.length then [{
        names := []
        subject := .array items
        code := "invalid_batch_size"
        message := "The indicator count is outside the permitted range." }]
      else []) ++
        items.zipIdx.flatMap fun item => (itemViolations parser item.1).map (.under item.2.repr)
  | value => [wrongType value]

/-- Whether a list of values has a string. -/
def hasText (values : List Value) (text : String) : Bool :=
  values.any fun value =>
    match value with
    | .string other => other = text
    | _ => false

/-- What is wrong with a provider behind others. -/
def providerViolations (earlier : List Value) : Value → List Violation
  | .string text =>
      if (ProviderId.parse text).isNone then [{
        names := []
        subject := .string text
        code := "unknown_provider"
        message := "The provider ID is not recognized." }]
      else if hasText earlier text then [{
        names := []
        subject := .string text
        code := "duplicate_provider"
        message := "Provider IDs must not be repeated." }]
      else []
  | value => [wrongType value]

/-- What is wrong with the providers. -/
def providersViolations : Value → List Violation
  | .array items =>
      (if items.length = 0 then [{
        names := []
        subject := .array items
        code := "empty_providers"
        message := "Select at least one provider." }]
      else []) ++
        items.zipIdx.flatMap fun item =>
          (providerViolations (items.take item.2) item.1).map (.under item.2.repr)
  | value => [wrongType value]

/-- What is wrong with the flag. -/
def includeRawViolations : Value → List Violation
  | .bool _ => []
  | value => [wrongType value]

/-- What is wrong with a member of the request. -/
def memberViolations (parser : UrlParser) (maxBatch : Nat) (member : String × Value) :
    List Violation :=
  (if member.1 = "indicators" then indicatorsViolations parser maxBatch member.2
    else if member.1 = "providers" then providersViolations member.2
    else if member.1 = "include_raw" then includeRawViolations member.2
    else [unknownMember member.2]).map (.under member.1)

/-- What is wrong with a document. -/
def violations (parser : UrlParser) (maxBatch : Nat) : Value → List Violation
  | .object members =>
      members.flatMap (memberViolations parser maxBatch) ++ missing members "indicators"
  | value => [wrongType value]

/-! ### What is reported -/

/-- The details kept of all that were reported. -/
abbrev kept (all : List ValidationDetail) : List ValidationDetail := all.take 100

/-- A detail is kept behind the others, as far as there is room. -/
theorem detail_kept (all : List ValidationDetail) (path code message : String) :
    detail (kept all) path code message = kept (all ++ [⟨path, code, message⟩]) :=
  CappedLog.push_take all _

/-- What the violations below a name report. -/
theorem map_under (name path : String) (list : List Violation) :
    (list.map (Violation.under name)).map (Violation.detail path) =
      list.map (Violation.detail (pointer path name)) := by
  rw [List.map_map]
  rfl

/-- One more report, or none. -/
theorem kept_append_nil (all : List ValidationDetail) (path : String) :
    kept all = kept (all ++ ([] : List Violation).map (Violation.detail path)) := by
  rw [List.map_nil, List.append_nil]

/-- A wrong type is kept as its violation. -/
theorem invalidType_kept (all : List ValidationDetail) (path : String) (value : Value) :
    invalidType (kept all) path = kept (all ++ [wrongType value].map (Violation.detail path)) :=
  detail_kept all path _ _

section Reports

variable {parser : UrlParser} {path : String} {all : List ValidationDetail}

/-- A visited member of an item keeps its violations. -/
theorem visitItemMember_kept {kind : Option IndicatorKind} {scan : ItemScan}
    (member : String × Value) (held : scan.details = kept all) :
    (visitItemMember parser path kind scan member).details =
      kept (all ++ (itemMemberViolations parser kind member).map (Violation.detail path)) := by
  obtain ⟨key, value⟩ := member
  unfold visitItemMember visitItemField itemMemberViolations
  rw [map_under]
  dsimp only
  by_cases isType : key = "type"
  · rw [if_pos isType, if_pos isType, held]
    cases value with
    | string text =>
        by_cases unknown : kind.isNone = true
        · simp only [RequestJson.erase, RequestJson.asStr, typeViolations, unknown, ↓reduceIte,
            Option.isNone_some, Bool.false_eq_true]
          exact detail_kept _ _ _ _
        · simp only [RequestJson.erase, RequestJson.asStr, typeViolations, unknown, ↓reduceIte,
            Option.isNone_some, Bool.false_eq_true]
          exact kept_append_nil _ _
    | _ => exact invalidType_kept _ _ _
  rw [if_neg isType, if_neg isType]
  by_cases isValue : key = "value"
  · rw [if_pos isValue, if_pos isValue]
    cases value with
    | string text =>
        by_cases sized : text = "" ∨ 4096 < text.utf8ByteSize
        · simp only [RequestJson.erase, RequestJson.asStr, valueViolations, sized, ↓reduceIte, held]
          exact detail_kept _ _ _ _
        · simp only [RequestJson.erase, RequestJson.asStr, valueViolations, sized, ↓reduceIte]
          cases kind with
          | none => exact held.trans (kept_append_nil _ _)
          | some kind =>
              dsimp only
              cases validateIndicator parser kind text with
              | ok indicator => exact held.trans (kept_append_nil _ _)
              | error reason =>
                  dsimp only
                  rw [held]
                  exact detail_kept _ _ _ _
    | _ =>
        dsimp only [RequestJson.erase, RequestJson.asStr]
        rw [held]
        exact invalidType_kept _ _ _
  · rw [if_neg isValue, if_neg isValue, held]
    exact detail_kept _ _ _ _

/-- The check behind a loop, for a member that was not visited. -/
theorem missing_kept {members : List (String × Value)} {name : String} {visited : Bool}
    (flag : visited = true ↔ name ∈ Value.keys members) :
    (if visited then kept all else required (kept all) (pointer path name)) =
      kept (all ++ (missing members name).map (Violation.detail path)) := by
  by_cases there : name ∈ Value.keys members
  · rw [missing, if_pos (flag.mpr there), if_pos there]
    exact kept_append_nil all path
  · rw [missing, if_neg (mt flag.mp there), if_neg there]
    exact detail_kept _ _ _ _

/-- The kind the loop over an item works with is the one the item names. -/
theorem itemKind_eq_kindOf (members : List (String × Value)) :
    itemKind members = kindOf members := by
  unfold itemKind kindOf
  rw [RequestJson.eraseMembers_eq, List.find?_map]
  change (((members.find? fun member => member.1 = "type").map _).bind _).bind _ = _
  cases members.find? fun member => member.1 = "type" with
  | none => rfl
  | some member =>
      obtain ⟨key, value⟩ := member
      cases value <;> rfl

/-- An item reports its violations. -/
theorem validateItem_kept (item : Value) (path : String) (all : List ValidationDetail) :
    (validateItem parser (RequestJson.erase item) path (kept all)).2 =
      kept (all ++ (itemViolations parser item).map (Violation.detail path)) := by
  cases item with
  | object members =>
      have scanned : (itemScan parser path (kept all) members).details =
          kept (all ++ (members.flatMap fun member =>
            (itemMemberViolations parser (itemKind members) member).map
              (Violation.detail path))) :=
        CappedLog.foldl_take (fun member _ _ _ held => visitItemMember_kept member held) rfl
      have kinds : (itemScan parser path (kept all) members).hasKind = true ↔ _ :=
        KeyedFold.flag_iff ItemScan.hasKind visitItemMember_hasKind rfl
      have values : (itemScan parser path (kept all) members).hasValue = true ↔ _ :=
        KeyedFold.flag_iff ItemScan.hasValue visitItemMember_hasValue rfl
      rw [validateItem_object]
      dsimp only
      rw [scanned, missing_kept kinds, missing_kept values, itemKind_eq_kindOf, itemViolations,
        List.map_append, List.map_append, List.map_flatMap, List.append_assoc, List.append_assoc,
        List.append_assoc]
  | _ => exact invalidType_kept _ _ _

/-- Visited items keep their violations. -/
theorem visitItems_kept {items : List Value} {index : Nat}
    {indicators : List ValidatedIndicator} :
    (visitItems parser path index (RequestJson.eraseValues items) indicators (kept all)).2 =
      kept (all ++ ((items.zipIdx index).flatMap fun item =>
        (itemViolations parser item.1).map (.under item.2.repr)).map (Violation.detail path)) := by
  induction items generalizing index indicators all with
  | nil => exact kept_append_nil all path
  | cons item rest ih =>
      rw [RequestJson.eraseValues, visitItems]
      dsimp only
      rw [validateItem_kept, ih, List.zipIdx_cons, List.flatMap_cons, List.map_append, map_under,
        List.append_assoc]

/-- The provider a value names, if it names one. -/
def providerOf : Value → Option ProviderId
  | .string text => ProviderId.parse text
  | _ => none

/-- A name has been seen where it was before or comes now. -/
theorem hasText_snoc (front : List Value) (value : Value) (id : ProviderId) :
    hasText (front ++ [value]) id.asStr = true ↔
      hasText front id.asStr = true ∨ providerOf value = some id := by
  unfold hasText
  rw [List.any_append, Bool.or_eq_true]
  apply or_congr_right
  cases value with
  | string text =>
      rw [providerOf, ProviderId.parse_eq_some]
      simp
  | _ => exact iff_of_false (by simp) (by simp [providerOf])

/-- A name of no provider is unknown. -/
theorem providerViolations_unknown {text : String} (parsed : ProviderId.parse text = none)
    (front : List Value) : providerViolations front (.string text) = [{
      names := []
      subject := .string text
      code := "unknown_provider"
      message := "The provider ID is not recognized." }] := by
  rw [providerViolations, parsed]
  exact if_pos rfl

/-- The name of a provider is wrong where it has been seen. -/
theorem providerViolations_known {text : String} {id : ProviderId}
    (parsed : ProviderId.parse text = some id) (front : List Value) :
    providerViolations front (.string text) =
      if hasText front id.asStr = true then [{
        names := []
        subject := .string text
        code := "duplicate_provider"
        message := "Provider IDs must not be repeated." }]
      else [] := by
  have named : text = id.asStr := ProviderId.parse_eq_some.mp parsed
  rw [providerViolations, parsed, if_neg (by simp), named]

/-- Visited providers keep their violations. -/
theorem visitProviders_kept {items front rest : List Value} {providers : List ProviderId}
    (whole : items = front ++ rest)
    (seen : ∀ id, id ∈ providers ↔ hasText front id.asStr = true) :
    (visitProviders path front.length (RequestJson.eraseValues rest) providers (kept all)).2 =
      kept (all ++ ((rest.zipIdx front.length).flatMap fun item =>
        (providerViolations (items.take item.2) item.1).map (.under item.2.repr)).map
          (Violation.detail path)) := by
  induction rest generalizing front providers all with
  | nil => exact kept_append_nil all path
  | cons item rest ih =>
      have before : items.take front.length = front := by rw [whole, List.take_left]
      have next : items = (front ++ [item]) ++ rest := by rw [whole, List.append_assoc]; rfl
      have length : front.length + 1 = (front ++ [item]).length := by simp
      rw [RequestJson.eraseValues, visitProviders, List.zipIdx_cons, List.flatMap_cons,
        List.map_append, map_under, before, ← List.append_assoc, length]
      -- What is seen after an item that names no further provider.
      have unchanged : (∀ id, providerOf item = some id → id ∈ providers) →
          ∀ id, id ∈ providers ↔ hasText (front ++ [item]) id.asStr = true := by
        intro known id
        rw [hasText_snoc, ← seen id]
        exact ⟨Or.inl, fun either => either.elim (fun inside => inside) (known id)⟩
      cases item with
      | string text =>
          dsimp only [RequestJson.erase, RequestJson.asStr]
          cases parsed : ProviderId.parse text with
          | none =>
              dsimp only
              rw [providerViolations_unknown parsed, detail_kept]
              apply ih next
              apply unchanged
              intro id named
              rw [providerOf, parsed] at named
              cases named
          | some id =>
              dsimp only
              rw [providerViolations_known parsed]
              by_cases known : id ∈ providers
              · rw [if_pos known, if_pos ((seen id).mp known), detail_kept]
                apply ih next
                apply unchanged
                intro other same
                rw [providerOf, parsed] at same
                cases same
                exact known
              · rw [if_neg known, if_neg (mt (seen id).mpr known), List.map_nil, List.append_nil]
                apply ih next
                intro other
                rw [hasText_snoc, List.mem_append, List.mem_singleton, ← seen other, providerOf,
                  parsed, Option.some.injEq, eq_comm]
      | _ =>
          dsimp only [RequestJson.erase, RequestJson.asStr]
          rw [invalidType_kept]
          exact ih next (unchanged (fun _ named => by cases named))

/-- Erasing keeps the length of an array. -/
theorem length_eraseValues (items : List Value) :
    (RequestJson.eraseValues items).length = items.length := by
  rw [RequestJson.eraseValues_eq, List.length_map]

/-- A visited member of the request keeps its violations. -/
theorem visitMember_kept {maxBatch : Nat} {draft : Draft} (member : String × Value)
    (held : draft.details = kept all) :
    (visitMember parser maxBatch draft member).details =
      kept (all ++ (memberViolations parser maxBatch member).map (Violation.detail "")) := by
  obtain ⟨key, value⟩ := member
  unfold visitMember visitField memberViolations
  rw [map_under]
  dsimp only
  by_cases isIndicators : key = "indicators"
  · rw [if_pos isIndicators, if_pos isIndicators]
    cases value with
    | array items =>
        dsimp only [RequestJson.erase, indicatorsViolations]
        rw [length_eraseValues, List.map_append, ← List.append_assoc, held]
        by_cases sized : items.length = 0 ∨ maxBatch < items.length
        · rw [if_pos sized, if_pos sized, detail_kept]
          exact visitItems_kept
        · rw [if_neg sized, if_neg sized, List.map_nil, List.append_nil]
          exact visitItems_kept
    | _ =>
        dsimp only [RequestJson.erase]
        rw [held]
        exact invalidType_kept _ _ _
  rw [if_neg isIndicators, if_neg isIndicators]
  by_cases isProviders : key = "providers"
  · rw [if_pos isProviders, if_pos isProviders]
    cases value with
    | array items =>
        have start : ∀ id, id ∈ ([] : List ProviderId) ↔ hasText [] id.asStr = true :=
          fun _ => iff_of_false List.not_mem_nil Bool.false_ne_true
        dsimp only [RequestJson.erase, providersViolations]
        rw [length_eraseValues, List.map_append, ← List.append_assoc, held]
        by_cases empty : items.length = 0
        · rw [if_pos empty, if_pos empty, detail_kept]
          exact visitProviders_kept rfl start
        · rw [if_neg empty, if_neg empty, List.map_nil, List.append_nil]
          exact visitProviders_kept rfl start
    | _ =>
        dsimp only [RequestJson.erase]
        rw [held]
        exact invalidType_kept _ _ _
  rw [if_neg isProviders, if_neg isProviders]
  by_cases isIncludeRaw : key = "include_raw"
  · rw [if_pos isIncludeRaw, if_pos isIncludeRaw]
    cases value with
    | bool flag => exact held.trans (kept_append_nil _ _)
    | _ =>
        dsimp only [RequestJson.erase]
        rw [held]
        exact invalidType_kept _ _ _
  · rw [if_neg isIncludeRaw, if_neg isIncludeRaw, held]
    exact detail_kept _ _ _ _

/-- A request without violations is accepted, and any other is rejected with the
first of them. -/
theorem validateJson_kept {maxBatch : Nat} {enabled : List ProviderId} (document : Value) :
    (violations parser maxBatch document = [] ∧
      ∃ request, validateJson parser maxBatch enabled (RequestJson.erase document) =
        .ok request) ∨
    (violations parser maxBatch document ≠ [] ∧
      validateJson parser maxBatch enabled (RequestJson.erase document) =
        .error (.semantic (kept
          ((violations parser maxBatch document).map (Violation.detail ""))))) := by
  cases document with
  | object members =>
      have drafted : (requestDraft parser maxBatch enabled members).details =
          kept ([] ++ (members.flatMap fun member =>
            (memberViolations parser maxBatch member).map (Violation.detail ""))) :=
        CappedLog.foldl_take (fun member _ _ _ held => visitMember_kept member held) rfl
      have flag : (requestDraft parser maxBatch enabled members).hasIndicators = true ↔ _ :=
        KeyedFold.flag_iff Draft.hasIndicators visitMember_hasIndicators rfl
      have path : pointer "" "indicators" = "/indicators" := by decide
      have reports : (violations parser maxBatch (.object members)).map (Violation.detail "") =
          (members.flatMap fun member =>
            (memberViolations parser maxBatch member).map (Violation.detail "")) ++
              (missing members "indicators").map (Violation.detail "") := by
        rw [violations, List.map_append, List.map_flatMap]
      rw [List.nil_append] at drafted
      rw [RequestJson.erase, validateJson, foldl_visitField, drafted, ← path, missing_kept flag,
        ← reports]
      by_cases clean : violations parser maxBatch (.object members) = []
      · left
        rw [clean]
        exact ⟨rfl, _, if_pos rfl⟩
      · right
        refine ⟨clean, if_neg ?_⟩
        intro none_
        rw [List.take_eq_nil_iff, List.map_eq_nil_iff] at none_
        exact none_.elim (by decide) clean
  | _ => exact Or.inr ⟨List.cons_ne_nil _ _, rfl⟩

end Reports

end RustEnrich
