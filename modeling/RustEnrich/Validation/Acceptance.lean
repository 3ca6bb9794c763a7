import RustEnrich.Validation.Grammar

/-!
# What validation accepts

Validation accepts exactly the grammar, and nothing it reads depends on the
order in which the members of the objects were submitted.
-/

namespace RustEnrich

open Serialization

/-! ### Reordering -/

namespace Value

/-- A member of a list stays there when another value is replaced. -/
theorem mem_append_cons {α : Type*} {front back : List α} {value other member : α}
    (inside : member ∈ front ++ value :: back) :
    member ∈ front ++ other :: back ∨ member = value := by
  rcases List.mem_append.mp inside with early | late
  · exact Or.inl (List.mem_append_left _ early)
  rcases List.mem_cons.mp late with here | later
  · exact Or.inr here
  · exact Or.inl (List.mem_append_right _ (List.mem_cons_of_mem _ later))

/-- Another value under a name leaves the names. -/
theorem keys_replaced (front back : List (String × Value)) (key : String) (value other : Value) :
    keys (front ++ (key, value) :: back) = keys (front ++ (key, other) :: back) := by
  simp [keys]

/-- Reordering keeps a repeated name. -/
theorem RepeatsKey.reordered {value other : Value} (reordered : Reordered value other)
    (repeats : value.RepeatsKey) : other.RepeatsKey := by
  induction reordered with
  | here permuted =>
      cases repeats with
      | here repeated =>
          exact .here fun distinct => repeated ((permuted.map _).nodup_iff.mpr distinct)
      | member inside deep => exact .member (permuted.mem_iff.mp inside) deep
  | @member front back key value other _ ih =>
      cases repeats with
      | here repeated =>
          rw [keys_replaced front back key value other] at repeated
          exact .here repeated
      | member inside deep =>
          rcases mem_append_cons inside with kept | same
          · exact .member kept deep
          · cases same
            exact .member (List.mem_append_right _ List.mem_cons_self) (ih deep)
  | element _ ih =>
      cases repeats with
      | element inside deep =>
          rcases mem_append_cons inside with kept | rfl
          · exact .element kept deep
          · exact .element (List.mem_append_right _ List.mem_cons_self) (ih deep)

end Value

section Reordering

variable {parser : UrlParser} {maxBatch : Nat} {enabled : List ProviderId}

/-- A reordered item denotes the same indicator. -/
theorem ItemDenotes.reordered {item other : Value} {indicator : ValidatedIndicator}
    (reordered : Value.Reordered item other) (denotes : ItemDenotes parser item indicator) :
    ItemDenotes parser other indicator := by
  obtain ⟨members, kind, value, rfl, known, typed, valued, accepted⟩ := denotes
  cases reordered with
  | @here _ others permuted =>
      refine ⟨others, kind, value, rfl, ?_, permuted.mem_iff.mp typed, permuted.mem_iff.mp valued,
        accepted⟩
      intro key inside
      exact known key ((permuted.map _).mem_iff.mpr inside)
  | @member front back own inner changed deep =>
      -- What is below a member is no text, so neither member is the one that changed.
      have kept {key text : String} (inside : (key, .string text) ∈ front ++ (own, inner) :: back) :
          (key, .string text) ∈ front ++ (own, changed) :: back := by
        rcases Value.mem_append_cons inside with kept | same
        · exact kept
        · cases same
          cases deep
      refine ⟨_, kind, value, rfl, ?_, kept typed, kept valued, accepted⟩
      rwa [Value.keys_replaced front back own changed inner]

/-- Items denote the same indicators when one of them is reordered. -/
theorem forall₂_reordered {front back : List Value} {item other : Value}
    {accepted : List ValidatedIndicator} (reordered : Value.Reordered item other)
    (all : List.Forall₂ (ItemDenotes parser) (front ++ item :: back) accepted) :
    List.Forall₂ (ItemDenotes parser) (front ++ other :: back) accepted := by
  induction front generalizing accepted with
  | nil =>
      cases all with
      | cons head tail => exact .cons (head.reordered reordered) tail
  | cons first front ih =>
      cases all with
      | cons head tail => exact .cons head (ih tail)

/-- An array of texts has nothing to reorder. -/
theorem no_reordering {ids : List ProviderId} {other : Value}
    (reordered : Value.Reordered (.array (providerTexts ids)) other) : False := by
  generalize shape : providerTexts ids = items at reordered
  cases reordered with
  | @element front back value other deep =>
      have inside : value ∈ providerTexts ids := by
        rw [shape]
        exact List.mem_append_right _ List.mem_cons_self
      obtain ⟨id, _, rfl⟩ := List.mem_map.mp inside
      cases deep

/-- A reordered request denotes the same. -/
theorem RequestDenotes.reordered {members : List (String × Value)} {other : Value}
    {request : ValidatedRequest} (reordered : Value.Reordered (.object members) other)
    (denotes : RequestDenotes parser maxBatch enabled members request) :
    ∃ others, other = .object others ∧ RequestDenotes parser maxBatch enabled others request := by
  cases reordered with
  | @here _ others permuted =>
      have named : ∀ key, key ∈ Value.keys others ↔ key ∈ Value.keys members :=
        fun key => (permuted.map _).mem_iff.symm
      obtain ⟨items, there, sized⟩ := denotes.indicators
      refine ⟨others, rfl, fun key inside => denotes.known key ((named key).mp inside),
        ⟨items, permuted.mem_iff.mp there, sized⟩, ?_, ?_⟩
      · rcases denotes.providers with ⟨ids, listed, given⟩ | ⟨absent, same⟩
        · exact Or.inl ⟨ids, permuted.mem_iff.mp listed, given⟩
        · exact Or.inr ⟨(named _).not.mpr absent, same⟩
      · rcases denotes.includeRaw with given | ⟨absent, same⟩
        · exact Or.inl (permuted.mem_iff.mp given)
        · exact Or.inr ⟨(named _).not.mpr absent, same⟩
  | @member front back key value other deep =>
      have known := denotes.known
      have providers := denotes.providers
      have includeRaw := denotes.includeRaw
      rw [Value.keys_replaced front back key value other] at known providers includeRaw
      refine ⟨_, rfl, known, ?_, ?_, ?_⟩
      · obtain ⟨items, there, some_, short, all⟩ := denotes.indicators
        rcases Value.mem_append_cons there with kept | same
        · exact ⟨items, kept, some_, short, all⟩
        · cases same
          cases deep with
          | element deep =>
              refine ⟨_, List.mem_append_right _ List.mem_cons_self, ?_, ?_,
                forall₂_reordered deep all⟩
              · simpa using some_
              · simpa using short
      · rcases providers with ⟨ids, listed, given⟩ | absent
        · rcases Value.mem_append_cons listed with kept | same
          · exact Or.inl ⟨ids, kept, given⟩
          · cases same
            exact (no_reordering deep).elim
        · exact Or.inr absent
      · rcases includeRaw with given | absent
        · rcases Value.mem_append_cons given with kept | same
          · exact Or.inl kept
          · cases same
            cases deep
        · exact Or.inr absent

end Reordering

/-! ### Enabled providers -/

/-- The default providers are the enabled ones, sorted and each once. -/
theorem defaultProviders_eq (enabled : List ProviderId) :
    defaultProviders enabled = (enabled.insertionSort (· ≤ ·)).dedup :=
  (List.pairwise_insertionSort (· ≤ ·) enabled).destutter_eq_dedup

/-- A default provider is an enabled one. -/
theorem mem_defaultProviders {enabled : List ProviderId} {provider : ProviderId} :
    provider ∈ defaultProviders enabled ↔ provider ∈ enabled := by
  rw [defaultProviders_eq, List.mem_dedup, List.mem_insertionSort]

/-- The default providers are in order. -/
theorem defaultProviders_pairwise (enabled : List ProviderId) :
    (defaultProviders enabled).Pairwise (· < ·) := by
  have sorted : (defaultProviders enabled).Pairwise (· ≤ ·) :=
    (List.pairwise_insertionSort (· ≤ ·) enabled).sublist (List.destutter_sublist _ _)
  have distinct : (defaultProviders enabled).Nodup := by
    rw [defaultProviders_eq]
    exact List.nodup_dedup _
  exact (List.pairwise_and_iff.mpr ⟨sorted, distinct⟩).imp fun both => lt_of_le_of_ne both.1 both.2

/-! ### The whole of it -/

section Acceptance

variable {parser : UrlParser} {maxBatch : Nat} {enabled : List ProviderId} {document other : Value}
  {request : ValidatedRequest}

/-- A document that is accepted, and the request it is accepted as. -/
def DocumentDenotes (parser : UrlParser) (maxBatch : Nat) (enabled : List ProviderId)
    (document : Value) (request : ValidatedRequest) : Prop :=
  ∃ members, document = .object members ∧ RequestDenotes parser maxBatch enabled members request

/-- Reordering a document keeps what it denotes. -/
theorem DocumentDenotes.reordered (reordered : Relation.ReflTransGen Value.Reordered document other)
    (denotes : DocumentDenotes parser maxBatch enabled document request) :
    DocumentDenotes parser maxBatch enabled other request := by
  induction reordered with
  | refl => exact denotes
  | tail _ step ih =>
      obtain ⟨members, rfl, inner⟩ := ih
      exact inner.reordered step

/-- Reordering a document keeps whether it repeats a name. -/
theorem repeatsKey_reordered (reordered : Relation.ReflTransGen Value.Reordered document other) :
    document.RepeatsKey ↔ other.RepeatsKey := by
  induction reordered with
  | refl => exact Iff.rfl
  | tail _ step ih => exact ih.trans ⟨.reordered step, .reordered step.symm⟩

variable {read : List UInt8 → Option Value} {body otherBody : List UInt8}

/-- A body without repeated names is accepted as what it denotes. -/
theorem validateRequest_distinct (parsed : read body = some document)
    (distinct : ¬ document.RepeatsKey) :
    validateRequest read parser body maxBatch enabled = .ok request ↔
      DocumentDenotes parser maxBatch enabled document request := by
  have decoded : (read body).bind RequestJson.deserialize = some (RequestJson.erase document) := by
    rw [parsed, Option.bind_some, RequestJson.deserialize_distinct document distinct]
  rw [validateRequest, decoded]
  dsimp only
  cases document with
  | object members =>
      rw [validateJson_ok distinct]
      constructor
      · exact fun denotes => ⟨members, rfl, denotes⟩
      · rintro ⟨_, shape, denotes⟩
        cases shape
        exact denotes
  | _ =>
      refine iff_of_false ?_ ?_
      · simp [RequestJson.erase, validateJson]
      · rintro ⟨_, shape, _⟩
        cases shape

/-- A body with a repeated name is invalid JSON. -/
theorem validateRequest_repeated (parsed : read body = some document)
    (repeats : document.RepeatsKey) :
    validateRequest read parser body maxBatch enabled = .error .invalidJson := by
  rw [validateRequest, parsed, Option.bind_some, RequestJson.deserialize_repeated repeats]

/-- A document is accepted exactly as what it denotes, whatever the order of
its members, and never with a repeated key. -/
theorem validateRequest_exact (parsed : read body = some document) :
    (¬ document.RepeatsKey → ∀ request,
      validateRequest read parser body maxBatch enabled = .ok request ↔
        DocumentDenotes parser maxBatch enabled document request) ∧
    (document.RepeatsKey →
      validateRequest read parser body maxBatch enabled = .error .invalidJson) ∧
    (∀ otherBody other, read otherBody = some other →
      Relation.ReflTransGen Value.Reordered document other → ∀ request,
      validateRequest read parser otherBody maxBatch enabled = .ok request ↔
        validateRequest read parser body maxBatch enabled = .ok request) ∧
    (defaultProviders enabled).Pairwise (· < ·) ∧
    ∀ provider, provider ∈ defaultProviders enabled ↔ provider ∈ enabled := by
  refine ⟨fun distinct request => validateRequest_distinct parsed distinct,
    validateRequest_repeated parsed, ?_, defaultProviders_pairwise enabled,
    fun _ => mem_defaultProviders⟩
  intro otherBody other read_ reordered request
  have back : Relation.ReflTransGen Value.Reordered other document :=
    symm_of (Relation.ReflTransGen Value.Reordered) reordered
  by_cases repeats : document.RepeatsKey
  · have alike := (repeatsKey_reordered reordered).mp repeats
    rw [validateRequest_repeated parsed repeats, validateRequest_repeated read_ alike]
  · have alike := (repeatsKey_reordered reordered).not.mp repeats
    rw [validateRequest_distinct parsed repeats, validateRequest_distinct read_ alike]
    exact ⟨.reordered back, .reordered reordered⟩

end Acceptance

section Example

/-- One address, with raw data, in the members' one order or the other. -/
def addressMembers : List (String × Value) := [
  ("indicators", .array [.object [("type", .string "ip"), ("value", .string "1.1.1.1")]]),
  ("include_raw", .bool true)]

/-- A request for an address. -/
def addressBody : List UInt8 := utf8
  "\x7b\"indicators\":[\x7b\"type\":\"ip\",\"value\":\"1.1.1.1\"\x7d],\"include_raw\":true\x7d"

/-- It with its members in the other order. -/
def addressBodyReordered : List UInt8 := utf8
  "\x7b\"include_raw\":true,\"indicators\":[\x7b\"type\":\"ip\",\"value\":\"1.1.1.1\"\x7d]\x7d"

/-- A reader of these two bodies. -/
def readAddress (body : List UInt8) : Option Value :=
  if body = addressBody then some (.object addressMembers)
  else if body = addressBodyReordered then some (.object addressMembers.reverse)
  else none

/-- The request for the address. -/
def addressRequest : ValidatedRequest where
  indicators := [⟨⟨.ip, "1.1.1.1"⟩, "1.1.1.1", none⟩]
  providers := [.abuseipdb, .virustotal]
  includeRaw := true

/-- The document denotes it. -/
theorem addressRequest_denoted : DocumentDenotes (fun _ => none) 20
    [.virustotal, .abuseipdb, .virustotal] (.object addressMembers) addressRequest := by
  refine ⟨addressMembers, rfl, by decide, ?_, Or.inr ⟨by decide, by decide⟩,
    Or.inl (List.mem_cons_of_mem _ List.mem_cons_self)⟩
  refine ⟨_, List.mem_cons_self, by decide, by decide, .cons ?_ .nil⟩
  exact ⟨_, .ip, "1.1.1.1", rfl, by decide, List.mem_cons_self,
    List.mem_cons_of_mem _ List.mem_cons_self, by decide, by decide, rfl⟩

/-- The document repeats no name. -/
theorem addressMembers_distinct : ¬ (Value.object addressMembers).RepeatsKey := by
  intro repeats
  cases RequestJson.deserialize_repeated repeats

/-- Its body is accepted. -/
theorem addressRequest_valid :
    validateRequest readAddress (fun _ => none) addressBody 20
      [.virustotal, .abuseipdb, .virustotal] = .ok addressRequest :=
  (validateRequest_distinct (if_pos rfl) addressMembers_distinct).mpr addressRequest_denoted

/-- Both orders of the members are the same request. -/
theorem validateRequest_exact_reordered :
    validateRequest readAddress (fun _ => none) addressBody 20
      [.virustotal, .abuseipdb, .virustotal] = .ok addressRequest ∧
    validateRequest readAddress (fun _ => none) addressBodyReordered 20
      [.virustotal, .abuseipdb, .virustotal] = .ok addressRequest := by
  have exact_ := @validateRequest_exact (fun _ => none) 20 [.virustotal, .abuseipdb, .virustotal]
    (.object addressMembers) readAddress addressBody (if_pos rfl)
  have read_ : readAddress addressBodyReordered = some (.object addressMembers.reverse) := by
    rw [readAddress, if_neg (by decide), if_pos rfl]
  have accepted := (exact_.1 addressMembers_distinct _).mpr addressRequest_denoted
  exact ⟨accepted, (exact_.2.2.1 _ _ read_
    (.single (.here (List.reverse_perm _).symm)) _).mpr accepted⟩

end Example

end RustEnrich
