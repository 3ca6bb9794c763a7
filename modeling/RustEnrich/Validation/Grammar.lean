import RustEnrich.Validation.Request
import RustEnrich.Collections.KeyedFold
import Mathlib.Logic.Relation

/-!
# The request grammar

What a body has to be to be accepted and what it then denotes, as relations on
documents, and that validation decides exactly them. A document without
repeated keys is read field by field; an item is left out only together with a
detail; and nothing but the members themselves, in whatever order, decides.
-/

namespace RustEnrich

open Serialization

/-! ### Reading the body -/

namespace RequestJson

mutual

/-- A document without the values of its numbers. -/
def erase : Value → RequestJson
  | .null => .null
  | .bool value => .bool value
  | .number _ => .number
  | .string value => .string value
  | .array values => .array (eraseValues values)
  | .object members => .object (eraseMembers members)

/-- The erased values of an array. -/
def eraseValues : List Value → List RequestJson
  | [] => []
  | value :: rest => erase value :: eraseValues rest

/-- The erased members of an object. -/
def eraseMembers : List (String × Value) → List (String × RequestJson)
  | [] => []
  | (key, value) :: rest => (key, erase value) :: eraseMembers rest

end

/-- Each value of an array is erased. -/
theorem eraseValues_eq (values : List Value) : eraseValues values = values.map erase := by
  induction values with
  | nil => rfl
  | cons value rest ih => rw [eraseValues, ih, List.map_cons]

/-- Each member of an object is erased under its name. -/
theorem eraseMembers_eq (members : List (String × Value)) :
    eraseMembers members = members.map fun member => (member.1, erase member.2) := by
  induction members with
  | nil => rfl
  | cons member rest ih => rw [eraseMembers, ih, List.map_cons]

/-- An array is read where each of its values is. -/
theorem visitSeq_spec {values : List Value}
    (each : ∀ value ∈ values, ¬ value.RepeatsKey → deserialize value = some (erase value))
    (distinct : ∀ value ∈ values, ¬ value.RepeatsKey) :
    visitSeq values = some (eraseValues values) := by
  induction values with
  | nil => rfl
  | cons value rest ih =>
      have tail := ih (fun value member => each value (List.mem_cons_of_mem _ member))
        fun value member => distinct value (List.mem_cons_of_mem _ member)
      rw [visitSeq, each value List.mem_cons_self (distinct value List.mem_cons_self), tail]
      rfl

/-- An object of fresh distinct names is read where each of its members is. -/
theorem visitMap_spec {members : List (String × Value)} {keys : List String}
    (each : ∀ member ∈ members, ¬ member.2.RepeatsKey →
      deserialize member.2 = some (erase member.2))
    (fresh : ∀ key ∈ keys, key ∉ Value.keys members) (distinct : (Value.keys members).Nodup)
    (deep : ∀ member ∈ members, ¬ member.2.RepeatsKey) :
    visitMap keys members = some (eraseMembers members) := by
  induction members generalizing keys with
  | nil => rfl
  | cons member rest ih =>
      obtain ⟨key, value⟩ := member
      obtain ⟨unique, others⟩ := List.nodup_cons.mp distinct
      have unseen : key ∉ keys := fun seen => fresh key seen List.mem_cons_self
      have tail : visitMap (key :: keys) rest = some (eraseMembers rest) := ih
        (fun member inside => each member (List.mem_cons_of_mem _ inside))
        (by
          intro other seen
          rcases List.mem_cons.mp seen with rfl | earlier
          · exact unique
          · exact fun inside => fresh other earlier (List.mem_cons_of_mem _ inside))
        others fun member inside => deep member (List.mem_cons_of_mem _ inside)
      have head := each (key, value) List.mem_cons_self (deep (key, value) List.mem_cons_self)
      rw [visitMap, if_neg unseen, head, tail]
      rfl

/-- A document without repeated names is read. -/
theorem deserialize_distinct (document : Value) (distinct : ¬ document.RepeatsKey) :
    deserialize document = some (erase document) := by
  induction document using Value.induction with
  | array values ih =>
      rw [deserialize, visitSeq_spec ih fun value member repeats =>
        distinct (.element member repeats)]
      rfl
  | object members ih =>
      have keys : (Value.keys members).Nodup := by
        by_contra repeated
        exact distinct (.here repeated)
      rw [deserialize, visitMap_spec ih (fun _ seen => absurd seen List.not_mem_nil) keys
        fun member inside repeats => distinct (.member inside repeats)]
      rfl
  | _ => rfl

/-- An array is not read where one of its values is not. -/
theorem visitSeq_none {values : List Value} {value : Value} (member : value ∈ values)
    (fails : deserialize value = none) : visitSeq values = none := by
  induction values with
  | nil => cases member
  | cons head rest ih =>
      rw [visitSeq]
      rcases List.mem_cons.mp member with rfl | later
      · rw [fails]
      · rw [ih later]
        cases deserialize head <;> rfl

/-- An object is not read where one of its members is not. -/
theorem visitMap_none {members : List (String × Value)} {keys : List String}
    {member : String × Value} (inside : member ∈ members)
    (fails : deserialize member.2 = none) : visitMap keys members = none := by
  induction members generalizing keys with
  | nil => cases inside
  | cons head rest ih =>
      obtain ⟨key, value⟩ := head
      rw [visitMap]
      split
      · rfl
      · rcases List.mem_cons.mp inside with rfl | later
        · dsimp only at fails
          rw [fails]
        · rw [ih later]
          cases deserialize value <;> rfl

/-- An object is not read where a name comes back. -/
theorem visitMap_repeated {members : List (String × Value)} {keys : List String}
    (repeated : ¬ ((Value.keys members).Nodup ∧ ∀ key ∈ keys, key ∉ Value.keys members)) :
    visitMap keys members = none := by
  induction members generalizing keys with
  | nil => exact absurd ⟨List.nodup_nil, fun _ _ => List.not_mem_nil⟩ repeated
  | cons member rest ih =>
      obtain ⟨key, value⟩ := member
      rw [visitMap]
      split
      · rfl
      · rename_i unseen
        have tail : visitMap (key :: keys) rest = none := by
          apply ih
          rintro ⟨distinct, fresh⟩
          refine repeated ⟨List.nodup_cons.mpr ⟨fresh key List.mem_cons_self, distinct⟩, ?_⟩
          intro other seen inside
          rcases List.mem_cons.mp inside with rfl | later
          · exact unseen seen
          · exact fresh other (List.mem_cons_of_mem _ seen) later
        rw [tail]
        cases deserialize value <;> rfl

/-- A document with a repeated name is not read. -/
theorem deserialize_repeated {document : Value} (repeats : document.RepeatsKey) :
    deserialize document = none := by
  induction repeats with
  | here repeated =>
      rw [deserialize, visitMap_repeated fun both => repeated both.1]
      rfl
  | member inside _ ih =>
      rw [deserialize, visitMap_none inside ih]
      rfl
  | element inside _ ih =>
      rw [deserialize, visitSeq_none inside ih]
      rfl

end RequestJson

/-- What reads as a text was one. -/
theorem RequestJson.asStr_erase {value : Value} {text : String} :
    (erase value).asStr = some text ↔ value = .string text := by
  cases value <;> simp [erase, asStr]

/-- A kind is read from its own name alone. -/
theorem IndicatorKind.parse_eq_some {text : String} {kind : IndicatorKind} :
    parse text = some kind ↔ text = kind.asStr := by
  constructor
  · intro parsed
    unfold parse at parsed
    split at parsed <;> cases parsed <;> rfl
  · rintro rfl
    cases kind <;> rfl

/-- A provider is read from its own name alone. -/
theorem ProviderId.parse_eq_some {text : String} {provider : ProviderId} :
    parse text = some provider ↔ text = provider.asStr := by
  constructor
  · intro parsed
    unfold parse at parsed
    split at parsed <;> cases parsed <;> rfl
  · rintro rfl
    cases provider <;> rfl

/-- The name of a provider is read as that provider. -/
theorem ProviderId.parse_asStr (provider : ProviderId) : parse provider.asStr = some provider :=
  parse_eq_some.mpr rfl

/-! ### Items -/

/-- An item that is accepted, and the indicator it is accepted as. -/
def ItemDenotes (parser : UrlParser) (item : Value) (indicator : ValidatedIndicator) : Prop :=
  ∃ members kind value, item = .object members ∧
    (∀ key ∈ Value.keys members, key = "type" ∨ key = "value") ∧
    ("type", .string (IndicatorKind.asStr kind)) ∈ members ∧ ("value", .string value) ∈ members ∧
    0 < value.utf8ByteSize ∧ value.utf8ByteSize ≤ 4096 ∧
    validateIndicator parser kind value = .ok indicator

section Items

variable {parser : UrlParser} {path : String} {kind : Option IndicatorKind}
  {members : List (String × Value)} {indicator : ValidatedIndicator}

/-- A member of an item that adds no detail. -/
def CleanItemMember (parser : UrlParser) (kind : Option IndicatorKind)
    (member : String × Value) : Prop :=
  if member.1 = "type" then
    (∃ text, member.2 = .string text) ∧ kind ≠ none
  else if member.1 = "value" then
    ∃ text, member.2 = .string text ∧ 0 < text.utf8ByteSize ∧ text.utf8ByteSize ≤ 4096 ∧
      ∀ found, kind = some found → ∃ indicator, validateIndicator parser found text = .ok indicator
  else
    False

/-- A step of the loop over the fields of an item. -/
def visitItemMember (parser : UrlParser) (path : String) (kind : Option IndicatorKind)
    (scan : ItemScan) (member : String × Value) : ItemScan :=
  visitItemField parser path kind scan (member.1, RequestJson.erase member.2)

/-- A member of an item adds no detail exactly where it is clean. -/
theorem visitItemMember_details (scan : ItemScan) (member : String × Value) :
    (visitItemMember parser path kind scan member).details = [] ↔
      scan.details = [] ∧ CleanItemMember parser kind member := by
  obtain ⟨key, value⟩ := member
  unfold visitItemMember visitItemField CleanItemMember
  dsimp only
  split
  · cases text : (RequestJson.erase value).asStr with
    | none =>
        have untyped : ¬ ∃ text, value = .string text := by
          rintro ⟨found, rfl⟩
          cases text
        simp [invalidType, untyped]
    | some found =>
        have typed := RequestJson.asStr_erase.mp text
        cases kind <;> simp [typed]
  split
  · cases text : (RequestJson.erase value).asStr with
    | none =>
        have untyped : ∀ text, value ≠ .string text := by
          rintro found rfl
          cases text
        simp [invalidType, untyped]
    | some found =>
        cases RequestJson.asStr_erase.mp text
        have empty : found = "" ↔ found.utf8ByteSize = 0 := String.utf8ByteSize_eq_zero_iff.symm
        dsimp only
        split
        · rename_i outside
          rw [empty] at outside
          have unsized : ¬ (0 < found.utf8ByteSize ∧ found.utf8ByteSize ≤ 4096) := by omega
          simp only [detail_ne_nil, Value.string.injEq, exists_eq_left', false_iff, not_and]
          intro _ positive short
          exact absurd ⟨positive, short⟩ unsized
        · rename_i inside
          rw [empty] at inside
          have sized : 0 < found.utf8ByteSize ∧ found.utf8ByteSize ≤ 4096 := by omega
          cases kind with
          | none => simp [sized]
          | some kind =>
              dsimp only
              cases valid : validateIndicator parser kind found <;> simp [sized, valid]
  · simp [unknownField]

/-- The type is seen at its member. -/
theorem visitItemMember_hasKind (scan : ItemScan) (member : String × Value) :
    (visitItemMember parser path kind scan member).hasKind =
      if member.1 = "type" then true else scan.hasKind := by
  unfold visitItemMember visitItemField
  dsimp only
  repeat' split
  all_goals rfl

/-- The value is seen at its member. -/
theorem visitItemMember_hasValue (scan : ItemScan) (member : String × Value) :
    (visitItemMember parser path kind scan member).hasValue =
      if member.1 = "value" then true else scan.hasValue := by
  unfold visitItemMember visitItemField
  dsimp only
  split
  · rename_i isType
    have other : member.1 ≠ "value" := by
      rw [isType]
      decide
    rw [if_neg other]
  · repeat' split
    all_goals rfl

/-- Other members leave the indicator. -/
theorem visitItemMember_validated (scan : ItemScan) (member : String × Value)
    (other : member.1 ≠ "value") :
    (visitItemMember parser path kind scan member).validated = scan.validated := by
  unfold visitItemMember visitItemField
  dsimp only
  split <;> rfl

/-- The type of an item, as it is resolved before the loop. -/
def itemKind (members : List (String × Value)) : Option IndicatorKind :=
  (((RequestJson.eraseMembers members).find? fun field => field.1 = "type").bind fun field =>
    field.2.asStr).bind IndicatorKind.parse

/-- A member is there after erasing. -/
theorem mem_eraseMembers {key : String} {value : Value} (there : (key, value) ∈ members) :
    (key, RequestJson.erase value) ∈ RequestJson.eraseMembers members := by
  rw [RequestJson.eraseMembers_eq]
  exact List.mem_map.mpr ⟨_, there, rfl⟩

/-- The kind of an item is that of its only type. -/
theorem itemKind_eq (distinct : (Value.keys members).Nodup) {text : String}
    (there : ("type", .string text) ∈ members) : itemKind members = IndicatorKind.parse text := by
  have erased := mem_eraseMembers there
  have keys : ((RequestJson.eraseMembers members).map Prod.fst).Nodup := by
    rw [RequestJson.eraseMembers_eq, List.map_map]
    exact distinct
  unfold itemKind
  cases found : (RequestJson.eraseMembers members).find? fun field => field.1 = "type" with
  | none =>
      have none_ := List.find?_eq_none.mp found _ erased
      simp at none_
  | some field =>
      obtain ⟨key, value⟩ := field
      have named := List.find?_some found
      simp only [decide_eq_true_eq] at named
      subst named
      have same := KeyedFold.eq_of_mem keys (List.mem_of_find?_eq_some found) erased
      subst same
      rfl

/-- The scan of an object at the end of the loop. -/
def itemScan (parser : UrlParser) (path : String) (details : List ValidationDetail)
    (members : List (String × Value)) : ItemScan :=
  members.foldl (visitItemMember parser path (itemKind members))
    { details, hasKind := false, hasValue := false, validated := none }

/-- An item is judged by the scan of its members. -/
theorem validateItem_object (details : List ValidationDetail) :
    validateItem parser (RequestJson.erase (.object members)) path details =
      let scan := itemScan parser path details members
      let details := if scan.hasKind then scan.details
        else required scan.details (pointer path "type")
      let details := if scan.hasValue then details else required details (pointer path "value")
      (scan.validated, details) := by
  have folded : (RequestJson.eraseMembers members).foldl
      (visitItemField parser path (itemKind members))
      { details, hasKind := false, hasValue := false, validated := none } =
        itemScan parser path details members := by
    rw [itemScan, RequestJson.eraseMembers_eq, List.foldl_map]
    rfl
  rw [RequestJson.erase, validateItem]
  dsimp only
  rw [← folded]
  rfl

/-- A type and a value, both accepted, make every member clean. -/
theorem clean_of_denotes (distinct : (Value.keys members).Nodup)
    (denotes : ItemDenotes parser (.object members) indicator) :
    (∀ member ∈ members, CleanItemMember parser (itemKind members) member) ∧
      "type" ∈ Value.keys members ∧ "value" ∈ Value.keys members := by
  obtain ⟨_, found, value, shape, known, typed, valued, positive, short, valid⟩ := denotes
  cases shape
  have resolved : itemKind members = some found :=
    (itemKind_eq distinct typed).trans (IndicatorKind.parse_eq_some.mpr rfl)
  refine ⟨?_, List.mem_map_of_mem typed, List.mem_map_of_mem valued⟩
  rintro ⟨key, other⟩ inside
  rcases known key (List.mem_map_of_mem inside) with rfl | rfl
  · cases KeyedFold.eq_of_mem distinct inside typed
    rw [CleanItemMember, if_pos rfl, resolved]
    exact ⟨⟨_, rfl⟩, Option.some_ne_none _⟩
  · cases KeyedFold.eq_of_mem distinct inside valued
    rw [CleanItemMember, if_neg (show "value" ≠ "type" by decide), if_pos rfl, resolved]
    refine ⟨value, rfl, positive, short, ?_⟩
    intro kind same
    cases same
    exact ⟨indicator, valid⟩

/-- Where every member is clean and both are there, the item is accepted. -/
theorem denotes_of_clean (distinct : (Value.keys members).Nodup)
    (clean : ∀ member ∈ members, CleanItemMember parser (itemKind members) member)
    (hasType : "type" ∈ Value.keys members) (hasValue : "value" ∈ Value.keys members) :
    ∃ indicator, ItemDenotes parser (.object members) indicator := by
  obtain ⟨⟨_, kindValue⟩, typed, rfl⟩ := List.mem_map.mp hasType
  obtain ⟨⟨_, textValue⟩, valued, same⟩ := List.mem_map.mp hasValue
  dsimp only at same
  subst same
  have cleanType := clean _ typed
  have cleanValue := clean _ valued
  rw [CleanItemMember, if_pos rfl] at cleanType
  rw [CleanItemMember, if_neg (show "value" ≠ "type" by decide), if_pos rfl] at cleanValue
  obtain ⟨⟨kindText, rfl⟩, resolved⟩ := cleanType
  obtain ⟨text, rfl, positive, short, valid⟩ := cleanValue
  obtain ⟨found, resolves⟩ := Option.ne_none_iff_exists'.mp resolved
  obtain ⟨indicator, accepted⟩ := valid found resolves
  rw [itemKind_eq distinct typed, IndicatorKind.parse_eq_some] at resolves
  subst resolves
  refine ⟨indicator, members, found, text, rfl, ?_, typed, valued, positive, short, accepted⟩
  intro key inside
  obtain ⟨member, there, rfl⟩ := List.mem_map.mp inside
  have cleanMember := clean member there
  unfold CleanItemMember at cleanMember
  split at cleanMember
  · exact Or.inl ‹_›
  split at cleanMember
  · exact Or.inr ‹_›
  · exact cleanMember.elim

/-- An item adds no detail exactly if it is accepted. -/
theorem validateItem_details {item : Value} (distinct : ¬ item.RepeatsKey)
    (details : List ValidationDetail) :
    (validateItem parser (RequestJson.erase item) path details).2 = [] ↔
      details = [] ∧ ∃ indicator, ItemDenotes parser item indicator := by
  cases item with
  | object members =>
      have keys : (Value.keys members).Nodup := by
        by_contra repeated
        exact distinct (.here repeated)
      have silent : (itemScan parser path details members).details = [] ↔ _ :=
        KeyedFold.log_eq_nil_iff (fun member _ scan => visitItemMember_details scan member) _
      have kinds : (itemScan parser path details members).hasKind = true ↔ _ :=
        KeyedFold.flag_iff ItemScan.hasKind visitItemMember_hasKind rfl
      have values : (itemScan parser path details members).hasValue = true ↔ _ :=
        KeyedFold.flag_iff ItemScan.hasValue visitItemMember_hasValue rfl
      rw [validateItem_object]
      dsimp only
      constructor
      · intro quiet
        split at quiet
        · rename_i hasValue
          split at quiet
          · rename_i hasKind
            obtain ⟨start, clean⟩ := silent.mp quiet
            exact ⟨start, denotes_of_clean keys clean (kinds.mp hasKind) (values.mp hasValue)⟩
          · exact absurd quiet (detail_ne_nil _ _ _ _)
        · exact absurd quiet (detail_ne_nil _ _ _ _)
      · rintro ⟨start, indicator, denotes⟩
        obtain ⟨clean, hasType, hasValue⟩ := clean_of_denotes keys denotes
        rw [if_pos (values.mpr hasValue), if_pos (kinds.mpr hasType)]
        exact silent.mpr ⟨start, clean⟩
  | _ =>
      apply iff_of_false (detail_ne_nil _ _ _ _)
      rintro ⟨_, _, _, _, _, shape, _⟩
      cases shape

/-- An accepted item is not left out. -/
theorem validateItem_validated {item : Value} (distinct : ¬ item.RepeatsKey)
    (details : List ValidationDetail) (denotes : ItemDenotes parser item indicator) :
    (validateItem parser (RequestJson.erase item) path details).1 = some indicator := by
  obtain ⟨members, found, value, rfl, known, typed, valued, positive, short, valid⟩ := denotes
  have keys : (Value.keys members).Nodup := by
    by_contra repeated
    exact distinct (.here repeated)
  have resolved : itemKind members = some found :=
    (itemKind_eq keys typed).trans (IndicatorKind.parse_eq_some.mpr rfl)
  rw [validateItem_object]
  obtain ⟨before, _, after⟩ := KeyedFold.field_of_mem ItemScan.validated
    (@visitItemMember_validated parser path (itemKind members)) keys valued
    { details, hasKind := false, hasValue := false, validated := none }
  apply after.trans
  have inside : ¬ (value = "" ∨ 4096 < value.utf8ByteSize) := by
    rw [← String.utf8ByteSize_eq_zero_iff]
    omega
  rw [visitItemMember, visitItemField, resolved]
  simp only [RequestJson.erase, RequestJson.asStr, if_neg inside, valid]
  rfl

/-- The loop over the items adds no detail exactly if all are accepted, and then
keeps them all. -/
theorem visitItems_details {items : List Value} {index : Nat}
    {indicators : List ValidatedIndicator} {details : List ValidationDetail}
    (distinct : ∀ item ∈ items, ¬ item.RepeatsKey) :
    (visitItems parser path index (RequestJson.eraseValues items) indicators details).2 = [] ↔
      details = [] ∧ ∃ accepted, List.Forall₂ (ItemDenotes parser) items accepted := by
  induction items generalizing index indicators details with
  | nil => exact ⟨fun quiet => ⟨quiet, [], .nil⟩, fun both => both.1⟩
  | cons item rest ih =>
      obtain ⟨first, others⟩ := List.forall_mem_cons.mp distinct
      rw [RequestJson.eraseValues, visitItems]
      dsimp only
      rw [ih others, validateItem_details first, and_assoc]
      refine and_congr_right fun _ => ?_
      constructor
      · rintro ⟨⟨indicator, denotes⟩, accepted, all⟩
        exact ⟨indicator :: accepted, .cons denotes all⟩
      · rintro ⟨accepted, all⟩
        cases all with
        | cons denotes tail => exact ⟨⟨_, denotes⟩, _, tail⟩

/-- Items that denote indicators add them in their order. -/
theorem visitItems_indicators {items : List Value} {index : Nat}
    {indicators accepted : List ValidatedIndicator} {details : List ValidationDetail}
    (distinct : ∀ item ∈ items, ¬ item.RepeatsKey)
    (all : List.Forall₂ (ItemDenotes parser) items accepted) :
    (visitItems parser path index (RequestJson.eraseValues items) indicators details).1 =
      indicators ++ accepted := by
  induction all generalizing index indicators details with
  | nil => exact (List.append_nil _).symm
  | cons denotes _ ih =>
      obtain ⟨first, others⟩ := List.forall_mem_cons.mp distinct
      rw [RequestJson.eraseValues, visitItems]
      dsimp only
      rw [ih others, validateItem_validated first _ denotes, Option.toList_some, List.append_assoc,
        List.singleton_append]

end Items

/-! ### Providers -/

section Providers

variable {path : String}

/-- The text of a provider list. -/
def providerTexts (ids : List ProviderId) : List Value := ids.map fun id => .string id.asStr

/-- Providers have names of their own. -/
theorem asStr_inj {left right : ProviderId} (same : left.asStr = right.asStr) : left = right := by
  have parsed := ProviderId.parse_eq_some.mpr same
  rw [ProviderId.parse_asStr] at parsed
  exact Option.some.inj parsed

/-- Names of providers start with the name of one. -/
theorem providerTexts_eq_cons {item : Value} {rest : List Value} {ids : List ProviderId}
    (shape : item :: rest = providerTexts ids) :
    ∃ id others, ids = id :: others ∧ item = .string id.asStr ∧ rest = providerTexts others := by
  cases ids with
  | nil => cases shape
  | cons id others =>
      cases shape
      exact ⟨id, others, rfl, rfl, rfl⟩

/-- What is fresh stays so behind another provider. -/
theorem fresh_snoc {id : ProviderId} {ids providers : List ProviderId}
    (fresh : ∀ other ∈ id :: ids, other ∉ providers) (unique : id ∉ ids) :
    ∀ other ∈ ids, other ∉ providers ++ [id] := by
  intro later inside before
  rcases List.mem_append.mp before with earlier | here
  · exact fresh later (List.mem_cons_of_mem _ inside) earlier
  · cases List.mem_singleton.mp here
    exact unique inside

/-- New providers are listed one by one. -/
theorem fresh_cons_iff {id : ProviderId} {rest : List Value} {providers : List ProviderId} :
    (∃ ids : List ProviderId, .string id.asStr :: rest = providerTexts ids ∧ ids.Nodup ∧
        ∀ other ∈ ids, other ∉ providers) ↔
      id ∉ providers ∧ ∃ ids : List ProviderId, rest = providerTexts ids ∧ ids.Nodup ∧
        ∀ other ∈ ids, other ∉ providers ++ [id] := by
  constructor
  · rintro ⟨ids, shape, distinct, fresh⟩
    obtain ⟨other, others, rfl, head, rfl⟩ := providerTexts_eq_cons shape
    injection head with same
    cases asStr_inj same
    obtain ⟨unique, distinct⟩ := List.nodup_cons.mp distinct
    exact ⟨fresh id List.mem_cons_self, others, rfl, distinct, fresh_snoc fresh unique⟩
  · rintro ⟨unseen, ids, rfl, distinct, fresh⟩
    refine ⟨id :: ids, rfl, List.nodup_cons.mpr ⟨?_, distinct⟩, ?_⟩
    · exact fun inside => fresh id inside (List.mem_append_right _ List.mem_cons_self)
    · intro other inside
      rcases List.mem_cons.mp inside with rfl | later
      · exact unseen
      · exact fun before => fresh other later (List.mem_append_left _ before)

/-- The loop over the providers adds no detail exactly if they are known, and
distinct from each other and from those before. -/
theorem visitProviders_details {items : List Value} {index : Nat} {providers : List ProviderId}
    {details : List ValidationDetail} :
    (visitProviders path index (RequestJson.eraseValues items) providers details).2 = [] ↔
      details = [] ∧ ∃ ids : List ProviderId, items = providerTexts ids ∧ ids.Nodup ∧
        ∀ id ∈ ids, id ∉ providers := by
  induction items generalizing index providers details with
  | nil =>
      refine ⟨fun quiet => ⟨quiet, [], rfl, List.nodup_nil, ?_⟩, fun both => both.1⟩
      exact fun _ none => absurd none List.not_mem_nil
  | cons item rest ih =>
      have reported : ∀ {details : List ValidationDetail} {code message : String},
          ¬ (visitProviders path (index + 1) (RequestJson.eraseValues rest) providers
            (detail details (pointer path index.repr) code message)).2 = [] := by
        intro details code message
        rw [ih]
        exact fun both => detail_ne_nil _ _ _ _ both.1
      rw [RequestJson.eraseValues, visitProviders]
      split
      · rename_i untyped
        apply iff_of_false reported
        rintro ⟨_, ids, shape, _⟩
        obtain ⟨id, others, _, rfl, _⟩ := providerTexts_eq_cons shape
        cases untyped
      rename_i text typed
      cases RequestJson.asStr_erase.mp typed
      split
      · rename_i unknown
        apply iff_of_false reported
        rintro ⟨_, ids, shape, _⟩
        obtain ⟨id, others, _, head, _⟩ := providerTexts_eq_cons shape
        cases head
        cases unknown.symm.trans id.parse_asStr
      rename_i id known
      cases ProviderId.parse_eq_some.mp known
      rw [fresh_cons_iff]
      split
      · rename_i seen
        exact iff_of_false reported fun both => both.2.1 seen
      · rename_i unseen
        rw [ih, and_iff_right unseen]

/-- Distinct names add their providers in their order. -/
theorem visitProviders_providers {ids providers : List ProviderId} {index : Nat}
    {details : List ValidationDetail} (distinct : ids.Nodup)
    (fresh : ∀ id ∈ ids, id ∉ providers) :
    (visitProviders path index (RequestJson.eraseValues (providerTexts ids)) providers
      details).1 = providers ++ ids := by
  induction ids generalizing index providers with
  | nil => exact (List.append_nil _).symm
  | cons id ids ih =>
      obtain ⟨unique, others⟩ := List.nodup_cons.mp distinct
      rw [providerTexts, List.map_cons, RequestJson.eraseValues, visitProviders]
      simp only [RequestJson.erase, RequestJson.asStr, ProviderId.parse_asStr,
        if_neg (fresh id List.mem_cons_self)]
      rw [← providerTexts, ih others, List.append_assoc, List.singleton_append]
      exact fresh_snoc fresh unique

end Providers

/-! ### Requests -/

/-- What the members of an accepted request are, and the request they denote. -/
structure RequestDenotes (parser : UrlParser) (maxBatch : Nat) (enabled : List ProviderId)
    (members : List (String × Value)) (request : ValidatedRequest) : Prop where
  known : ∀ key ∈ Value.keys members, key ∈ ["indicators", "providers", "include_raw"]
  indicators : ∃ items, ("indicators", .array items) ∈ members ∧ 1 ≤ items.length ∧
    items.length ≤ maxBatch ∧ List.Forall₂ (ItemDenotes parser) items request.indicators
  providers :
    (∃ ids, ("providers", .array (providerTexts ids)) ∈ members ∧ ids ≠ [] ∧ ids.Nodup ∧
      request.providers = ids) ∨
    ("providers" ∉ Value.keys members ∧ request.providers = defaultProviders enabled)
  includeRaw :
    ("include_raw", .bool request.includeRaw) ∈ members ∨
    ("include_raw" ∉ Value.keys members ∧ request.includeRaw = false)

section Requests

variable {parser : UrlParser} {maxBatch : Nat} {enabled : List ProviderId}
  {members : List (String × Value)} {request : ValidatedRequest}

/-- A member of a request that adds no detail. -/
def CleanMember (parser : UrlParser) (maxBatch : Nat) (member : String × Value) : Prop :=
  if member.1 = "indicators" then
    ∃ items accepted, member.2 = .array items ∧ 1 ≤ items.length ∧ items.length ≤ maxBatch ∧
      List.Forall₂ (ItemDenotes parser) items accepted
  else if member.1 = "providers" then
    ∃ ids, member.2 = .array (providerTexts ids) ∧ ids ≠ [] ∧ ids.Nodup
  else if member.1 = "include_raw" then
    ∃ value, member.2 = .bool value
  else
    False

/-- Clean indicators are an array of as many items as a batch allows, each of which
denotes one. -/
theorem clean_indicators {value : Value}
    (clean : CleanMember parser maxBatch ("indicators", value)) :
    ∃ items accepted, value = .array items ∧ 1 ≤ items.length ∧ items.length ≤ maxBatch ∧
      List.Forall₂ (ItemDenotes parser) items accepted := by
  rwa [CleanMember, if_pos rfl] at clean

/-- Clean providers are an array of distinct names, and not empty. -/
theorem clean_providers {value : Value} (clean : CleanMember parser maxBatch ("providers", value)) :
    ∃ ids, value = .array (providerTexts ids) ∧ ids ≠ [] ∧ ids.Nodup := by
  rwa [CleanMember, if_neg (show "providers" ≠ "indicators" by decide), if_pos rfl] at clean

/-- A clean flag is a boolean. -/
theorem clean_includeRaw {value : Value}
    (clean : CleanMember parser maxBatch ("include_raw", value)) : ∃ flag, value = .bool flag := by
  rwa [CleanMember, if_neg (show "include_raw" ≠ "indicators" by decide),
    if_neg (show "include_raw" ≠ "providers" by decide), if_pos rfl] at clean

/-- A clean member is one of the three. -/
theorem key_of_clean {member : String × Value} (clean : CleanMember parser maxBatch member) :
    member.1 ∈ ["indicators", "providers", "include_raw"] := by
  unfold CleanMember at clean
  split at clean
  · rename_i named
    simp [named]
  split at clean
  · rename_i named
    simp [named]
  split at clean
  · rename_i named
    simp [named]
  · exact clean.elim

/-- The members of a request that denotes something add no detail. -/
theorem clean_of_request (distinct : (Value.keys members).Nodup)
    (denotes : RequestDenotes parser maxBatch enabled members request) :
    ∀ member ∈ members, CleanMember parser maxBatch member := by
  rintro ⟨key, value⟩ inside
  have named := denotes.known key (List.mem_map_of_mem inside)
  simp only [List.mem_cons, List.not_mem_nil, or_false] at named
  rcases named with rfl | rfl | rfl
  · obtain ⟨items, there, some_, short, all⟩ := denotes.indicators
    cases KeyedFold.eq_of_mem distinct inside there
    rw [CleanMember, if_pos rfl]
    exact ⟨items, request.indicators, rfl, some_, short, all⟩
  · rw [CleanMember, if_neg (show "providers" ≠ "indicators" by decide), if_pos rfl]
    rcases denotes.providers with ⟨ids, there, some_, unique, _⟩ | ⟨absent, _⟩
    · cases KeyedFold.eq_of_mem distinct inside there
      exact ⟨ids, rfl, some_, unique⟩
    · exact absurd (List.mem_map_of_mem inside) absent
  · rw [CleanMember, if_neg (show "include_raw" ≠ "indicators" by decide),
      if_neg (show "include_raw" ≠ "providers" by decide), if_pos rfl]
    rcases denotes.includeRaw with there | ⟨absent, _⟩
    · cases KeyedFold.eq_of_mem distinct inside there
      exact ⟨_, rfl⟩
    · exact absurd (List.mem_map_of_mem inside) absent

/-- A step of the loop over the fields of a request. -/
def visitMember (parser : UrlParser) (maxBatch : Nat) (draft : Draft)
    (member : String × Value) : Draft :=
  visitField parser maxBatch draft (member.1, RequestJson.erase member.2)

/-- A member of the request adds no detail exactly where it is clean. -/
theorem visitMember_details {member : String × Value} (distinct : ¬ member.2.RepeatsKey)
    (draft : Draft) :
    (visitMember parser maxBatch draft member).details = [] ↔
      draft.details = [] ∧ CleanMember parser maxBatch member := by
  obtain ⟨key, value⟩ := member
  unfold visitMember visitField CleanMember
  dsimp only at distinct ⊢
  split
  · cases value with
    | array items =>
        have parts : ∀ item ∈ items, ¬ item.RepeatsKey :=
          fun item inside repeats => distinct (.element inside repeats)
        have sized : (RequestJson.eraseValues items).length = items.length := by
          rw [RequestJson.eraseValues_eq, List.length_map]
        simp only [RequestJson.erase, visitItems_details parts, sized, Value.array.injEq]
        split
        · rename_i outside
          apply iff_of_false (fun both => detail_ne_nil _ _ _ _ both.1)
          rintro ⟨_, _, _, rfl, some_, short, _⟩
          omega
        · rename_i inside
          refine and_congr_right fun _ => ?_
          constructor
          · rintro ⟨accepted, all⟩
            exact ⟨items, accepted, rfl, by omega, by omega, all⟩
          · rintro ⟨_, accepted, rfl, _, _, all⟩
            exact ⟨accepted, all⟩
    | _ => simp [RequestJson.erase, invalidType]
  split
  · cases value with
    | array items =>
        have sized : (RequestJson.eraseValues items).length = items.length := by
          rw [RequestJson.eraseValues_eq, List.length_map]
        simp only [RequestJson.erase, visitProviders_details, sized, Value.array.injEq]
        split
        · rename_i empty
          apply iff_of_false (fun both => detail_ne_nil _ _ _ _ both.1)
          rintro ⟨_, ids, rfl, some_, _⟩
          rw [providerTexts, List.length_map] at empty
          exact some_ (List.eq_nil_of_length_eq_zero empty)
        · rename_i nonempty
          refine and_congr_right fun _ => ?_
          constructor
          · rintro ⟨ids, rfl, unique, _⟩
            refine ⟨ids, rfl, ?_, unique⟩
            rintro rfl
            exact nonempty rfl
          · rintro ⟨ids, rfl, _, unique⟩
            exact ⟨ids, rfl, unique, fun _ _ => List.not_mem_nil⟩
    | _ => simp [RequestJson.erase, invalidType]
  split
  · cases value <;> simp [RequestJson.erase, invalidType]
  · simp [unknownField]

/-- The indicators are seen at their member. -/
theorem visitMember_hasIndicators (draft : Draft) (member : String × Value) :
    (visitMember parser maxBatch draft member).hasIndicators =
      if member.1 = "indicators" then true else draft.hasIndicators := by
  unfold visitMember visitField
  dsimp only
  repeat' split
  all_goals rfl

/-- Other members leave the indicators. -/
theorem visitMember_indicators (draft : Draft) (member : String × Value)
    (other : member.1 ≠ "indicators") :
    (visitMember parser maxBatch draft member).indicators = draft.indicators := by
  unfold visitMember visitField
  dsimp only
  rw [if_neg other]
  repeat' split
  all_goals rfl

/-- Other members leave the providers. -/
theorem visitMember_providers (draft : Draft) (member : String × Value)
    (other : member.1 ≠ "providers") :
    (visitMember parser maxBatch draft member).providers = draft.providers := by
  unfold visitMember visitField
  dsimp only
  rw [if_neg other]
  repeat' split
  all_goals rfl

/-- Other members leave the flag. -/
theorem visitMember_includeRaw (draft : Draft) (member : String × Value)
    (other : member.1 ≠ "include_raw") :
    (visitMember parser maxBatch draft member).includeRaw = draft.includeRaw := by
  unfold visitMember visitField
  dsimp only
  rw [if_neg other]
  repeat' split
  all_goals rfl

/-- The draft at the end of the loop over the fields. -/
def requestDraft (parser : UrlParser) (maxBatch : Nat) (enabled : List ProviderId)
    (members : List (String × Value)) : Draft :=
  members.foldl (visitMember parser maxBatch) {
    details := []
    indicators := []
    providers := defaultProviders enabled
    includeRaw := false
    hasIndicators := false }

/-- The erased members are visited as the members are. -/
theorem foldl_visitField (members : List (String × Value)) :
    (RequestJson.eraseMembers members).foldl (visitField parser maxBatch) {
      details := []
      indicators := []
      providers := defaultProviders enabled
      includeRaw := false
      hasIndicators := false } = requestDraft parser maxBatch enabled members := by
  rw [requestDraft, RequestJson.eraseMembers_eq, List.foldl_map]
  rfl

/-- A request is what the draft of its members says. -/
theorem validateJson_object :
    validateJson parser maxBatch enabled (RequestJson.erase (.object members)) = .ok request ↔
      (requestDraft parser maxBatch enabled members).details = [] ∧
      (requestDraft parser maxBatch enabled members).hasIndicators = true ∧
      (requestDraft parser maxBatch enabled members).indicators = request.indicators ∧
      (requestDraft parser maxBatch enabled members).providers = request.providers ∧
      (requestDraft parser maxBatch enabled members).includeRaw = request.includeRaw := by
  obtain ⟨indicators, providers, includeRaw⟩ := request
  rw [RequestJson.erase, validateJson, foldl_visitField]
  dsimp only
  split
  · rename_i hasIndicators
    split
    · rename_i silent
      simp [hasIndicators, silent]
    · rename_i reported
      simp [reported]
  · rename_i missing
    rw [required, if_neg (detail_ne_nil _ _ _ _)]
    simp [missing]

section Fields

variable (distinct : (Value.keys members).Nodup)
include distinct

/-- The draft has the indicators that the items denote. -/
theorem requestDraft_indicators {items : List Value} {accepted : List ValidatedIndicator}
    (parts : ∀ item ∈ items, ¬ item.RepeatsKey) (there : ("indicators", .array items) ∈ members)
    (all : List.Forall₂ (ItemDenotes parser) items accepted) :
    (requestDraft parser maxBatch enabled members).indicators = accepted := by
  obtain ⟨before, start, after⟩ := KeyedFold.field_of_mem Draft.indicators
    (@visitMember_indicators parser maxBatch) distinct there {
      details := []
      indicators := []
      providers := defaultProviders enabled
      includeRaw := false
      hasIndicators := false }
  apply after.trans
  rw [visitMember, visitField]
  simp only [if_true, RequestJson.erase, visitItems_indicators parts all, start, List.nil_append]

/-- The draft has the providers that are named. -/
theorem requestDraft_providers {ids : List ProviderId}
    (there : ("providers", .array (providerTexts ids)) ∈ members) (unique : ids.Nodup) :
    (requestDraft parser maxBatch enabled members).providers = ids := by
  obtain ⟨before, _, after⟩ := KeyedFold.field_of_mem Draft.providers
    (@visitMember_providers parser maxBatch) distinct there {
      details := []
      indicators := []
      providers := defaultProviders enabled
      includeRaw := false
      hasIndicators := false }
  apply after.trans
  rw [visitMember, visitField]
  simp only [RequestJson.erase, show "providers" ≠ "indicators" by decide, if_false, if_true]
  exact visitProviders_providers unique fun _ _ => List.not_mem_nil

/-- The draft has the flag that is given. -/
theorem requestDraft_includeRaw {value : Bool} (there : ("include_raw", .bool value) ∈ members) :
    (requestDraft parser maxBatch enabled members).includeRaw = value := by
  obtain ⟨before, _, after⟩ := KeyedFold.field_of_mem Draft.includeRaw
    (@visitMember_includeRaw parser maxBatch) distinct there {
      details := []
      indicators := []
      providers := defaultProviders enabled
      includeRaw := false
      hasIndicators := false }
  exact after

end Fields

/-- Without providers the enabled ones are meant. -/
theorem requestDraft_providers_absent (absent : "providers" ∉ Value.keys members) :
    (requestDraft parser maxBatch enabled members).providers = defaultProviders enabled :=
  KeyedFold.field_of_absent Draft.providers (@visitMember_providers parser maxBatch) absent _

/-- Without a flag no raw data is asked for. -/
theorem requestDraft_includeRaw_absent (absent : "include_raw" ∉ Value.keys members) :
    (requestDraft parser maxBatch enabled members).includeRaw = false :=
  KeyedFold.field_of_absent Draft.includeRaw (@visitMember_includeRaw parser maxBatch) absent _

/-- A name has a value. -/
theorem exists_value {key : String} (named : key ∈ Value.keys members) :
    ∃ value, (key, value) ∈ members := by
  obtain ⟨⟨_, value⟩, there, rfl⟩ := List.mem_map.mp named
  exact ⟨value, there⟩

/-- Behind the parser, an object is accepted exactly as what it denotes. -/
theorem validateJson_ok (distinct : ¬ (Value.object members).RepeatsKey) :
    validateJson parser maxBatch enabled (RequestJson.erase (.object members)) = .ok request ↔
      RequestDenotes parser maxBatch enabled members request := by
  have keys : (Value.keys members).Nodup := by
    by_contra repeated
    exact distinct (.here repeated)
  have deep : ∀ member ∈ members, ¬ member.2.RepeatsKey :=
    fun member inside repeats => distinct (.member inside repeats)
  have silent : (requestDraft parser maxBatch enabled members).details = [] ↔ _ :=
    KeyedFold.log_eq_nil_iff (fun member inside => visitMember_details (deep member inside)) _
  have hasIndicators : (requestDraft parser maxBatch enabled members).hasIndicators = true ↔ _ :=
    KeyedFold.flag_iff Draft.hasIndicators visitMember_hasIndicators rfl
  rw [validateJson_object, silent, hasIndicators]
  constructor
  · rintro ⟨⟨_, clean⟩, present, indicators, providers, includeRaw⟩
    refine ⟨?_, ?_, ?_, ?_⟩
    · intro key inside
      obtain ⟨member, there, rfl⟩ := List.mem_map.mp inside
      exact key_of_clean (clean member there)
    · obtain ⟨value, there⟩ := exists_value present
      obtain ⟨items, accepted, rfl, some_, short, all⟩ := clean_indicators (clean _ there)
      have parts : ∀ item ∈ items, ¬ item.RepeatsKey :=
        fun item inside repeats => deep _ there (.element inside repeats)
      rw [requestDraft_indicators keys parts there all] at indicators
      subst indicators
      exact ⟨items, there, some_, short, all⟩
    · by_cases named : "providers" ∈ Value.keys members
      · obtain ⟨value, there⟩ := exists_value named
        obtain ⟨ids, rfl, some_, unique⟩ := clean_providers (clean _ there)
        rw [requestDraft_providers keys there unique] at providers
        exact Or.inl ⟨ids, there, some_, unique, providers.symm⟩
      · rw [requestDraft_providers_absent named] at providers
        exact Or.inr ⟨named, providers.symm⟩
    · by_cases named : "include_raw" ∈ Value.keys members
      · obtain ⟨value, there⟩ := exists_value named
        obtain ⟨value, rfl⟩ := clean_includeRaw (clean _ there)
        rw [requestDraft_includeRaw keys there] at includeRaw
        subst includeRaw
        exact Or.inl there
      · rw [requestDraft_includeRaw_absent named] at includeRaw
        exact Or.inr ⟨named, includeRaw.symm⟩
  · intro denotes
    obtain ⟨items, there, some_, short, all⟩ := denotes.indicators
    have parts : ∀ item ∈ items, ¬ item.RepeatsKey :=
      fun item inside repeats => deep _ there (.element inside repeats)
    refine ⟨⟨rfl, clean_of_request keys denotes⟩, List.mem_map_of_mem there,
      requestDraft_indicators keys parts there all, ?_, ?_⟩
    · rcases denotes.providers with ⟨ids, listed, _, unique, same⟩ | ⟨absent, same⟩
      · exact (requestDraft_providers keys listed unique).trans same.symm
      · exact (requestDraft_providers_absent absent).trans same.symm
    · rcases denotes.includeRaw with given | ⟨absent, same⟩
      · exact requestDraft_includeRaw keys given
      · exact (requestDraft_includeRaw_absent absent).trans same.symm

end Requests

end RustEnrich
