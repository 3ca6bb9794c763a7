import RustEnrich.Http.Accounting
import RustEnrich.Collections.Interning

/-!
# Shared slots

Slots of one identity share a lookup. The results read back through the
positions are those of a plain lookup of every slot, and the envelope has each
of them in its place.
-/

namespace RustEnrich.Http

open Serialization Enrichment Interning

/-- What two slots share exactly if they share a lookup. -/
structure Identity where
  provider : ProviderId
  kind : IndicatorKind
  hashAlgorithm : Option HashAlgorithm
  lookupValue : String
  deriving DecidableEq

/-- A provider and an indicator to look up. -/
abbrev Pair := ProviderId × ValidatedIndicator

/-- What tells one lookup from another. -/
def identity (pair : Pair) : Identity where
  provider := pair.1
  kind := pair.2.input.kind
  hashAlgorithm := pair.2.hashAlgorithm
  lookupValue := pair.2.lookupValue

/-- The loops of `enrich_admitted` over its unique map, its pairs (the entries of
the table) and its positions. -/
def deduplicate (request : ValidatedRequest) : Table Pair Identity :=
  request.indicators.foldl (fun table indicator =>
    request.providers.foldl (fun table provider => table.visit identity (provider, indicator))
      table) .empty

/-- The lookups in the order of the pairs, as `buffered` yields them. -/
def uniqueResults (lookup : ProviderId → ValidatedIndicator → LookupResult)
    (request : ValidatedRequest) : List LookupResult :=
  (deduplicate request).entries.map fun pair => lookup pair.1 pair.2

/-- The results `enrich_admitted` passes to `project`. -/
def resolvedResults (lookup : ProviderId → ValidatedIndicator → LookupResult)
    (request : ValidatedRequest) : List LookupResult :=
  (deduplicate request).positions.map fun position =>
    (uniqueResults lookup request)[position]?.getD (.failure .internalError)

/-- A lookup of every slot. -/
def plainResults (lookup : ProviderId → ValidatedIndicator → LookupResult)
    (request : ValidatedRequest) : List LookupResult :=
  request.indicators.flatMap fun indicator =>
    request.providers.map fun provider => lookup provider indicator

/-- The slots in the order of the loops. -/
def pairs (request : ValidatedRequest) : List Pair :=
  request.indicators.flatMap fun indicator =>
    request.providers.map fun provider => (provider, indicator)

/-- An entry reports a result of its provider. -/
structure Reports (entry : ProviderEntry) (provider : ProviderId) (result : LookupResult) :
    Prop where
  provider : entry.provider = provider
  status : entry.status = result.outcome.status
  summary : entry.summary = result.outcome.summary
  fetchedAt : entry.fetchedAt = result.outcome.fetchedAt
  providerUpdatedAt : entry.providerUpdatedAt = result.outcome.providerUpdatedAt
  hit : entry.cache.hit = result.cacheHit
  expiresAt : entry.cache.expiresAt = result.expiresAt
  error : entry.error = result.outcome.error

/-- The results of a request, each in its place and its entries in theirs. -/
structure Answers (lookup : ProviderId → ValidatedIndicator → LookupResult)
    (request : ValidatedRequest) (results : List ResultItem) : Prop where
  perIndicator : results.length = request.indicators.length
  inPlace : ∀ (i : Nat) (indicator : ValidatedIndicator), request.indicators[i]? = some indicator →
    ∃ item, results[i]? = some item ∧ item.index = i ∧ item.input = indicator.input ∧
      item.lookupValue = indicator.lookupValue ∧
      item.providers.length = request.providers.length ∧
      ∀ (j : Nat) (provider : ProviderId), request.providers[j]? = some provider →
        ∃ entry, item.providers[j]? = some entry ∧
          Reports entry provider (lookup provider indicator)

variable {lookup : ProviderId → ValidatedIndicator → LookupResult} {request : ValidatedRequest}

/-- The pairs are visited one after the other. -/
theorem deduplicate_eq (request : ValidatedRequest) :
    deduplicate request = (pairs request).foldl (Table.visit identity) .empty := by
  simp only [deduplicate, pairs, List.foldl_flatMap, List.foldl_map]

/-- Each pair is interned by its identity. -/
theorem interns (request : ValidatedRequest) :
    Table.Interns identity (pairs request) (deduplicate request) := by
  rw [deduplicate_eq]
  exact Table.Interns.run identity (pairs request)

/-- There is a result for each pair. -/
theorem length_plainResults :
    (plainResults lookup request).length =
      request.indicators.length * request.providers.length := by
  simp only [plainResults, List.length_flatMap, List.length_map, List.map_const',
    List.sum_replicate_nat]

/-- A place of a double loop. -/
theorem getElem?_flatMap_map {α β γ : Type} {outer : List α} {inner : List β} {f : α → β → γ}
    {i j : Nat} {first : α} {second : β} (row : outer[i]? = some first)
    (column : inner[j]? = some second) :
    (outer.flatMap fun element => inner.map (f element))[i * inner.length + j]? =
      some (f first second) := by
  have within := (List.getElem?_eq_some_iff.mp column).1
  induction outer generalizing i with
  | nil => cases row
  | cons element rest ih =>
      rw [List.flatMap_cons]
      cases i with
      | zero =>
          cases row
          rw [Nat.zero_mul, Nat.zero_add,
            List.getElem?_append_left (by rwa [List.length_map]), List.getElem?_map, column]
          rfl
      | succ i =>
          have shift : (i + 1) * inner.length + j - (inner.map (f element)).length =
              i * inner.length + j := by
            rw [List.length_map, Nat.succ_mul]
            omega
          rw [List.getElem?_append_right (by rw [List.length_map, Nat.succ_mul]; omega), shift]
          exact ih row

/-- The item of an indicator, in the closed form of the results. -/
theorem getElem?_items {entry : ProviderId → Slot → ProviderEntry} {providers : List ProviderId}
    {index : Nat} {indicators : List ValidatedIndicator} {slots : List Slot} {i : Nat}
    {indicator : ValidatedIndicator} (there : indicators[i]? = some indicator) :
    (items entry providers index indicators slots)[i]? = some {
      index := index + i
      input := indicator.input
      lookupValue := indicator.lookupValue
      providers := providers.zipWith entry
        ((slots.drop (i * providers.length)).take providers.length) } := by
  induction indicators generalizing index slots i with
  | nil => cases there
  | cons first rest ih =>
      cases i with
      | zero =>
          cases there
          rw [items, Nat.zero_mul, List.drop_zero]
          rfl
      | succ i =>
          rw [items, List.getElem?_cons_succ, ih there, List.drop_drop, Nat.succ_mul,
            Nat.add_comm providers.length, Nat.add_assoc, Nat.add_comm 1]

/-- The measured envelope answers the lookups. -/
theorem answers {serializer : Serializer} {id : String} {rawBudget : RawBudget}
    {envelope : Envelope} {pass : Pass}
    (measures : measured serializer id request (plainResults lookup request) rawBudget.bytes =
      .ok (envelope, pass)) :
    Answers lookup request (envelope.fill pass.rawValues).results where
  perIndicator := by rw [fill_results length_plainResults measures, length_items]
  inPlace := by
    intro i indicator row
    have sized : (slots serializer request (plainResults lookup request)
        rawBudget.bytes).length = _ := length_slots.trans length_plainResults
    have within := (List.getElem?_eq_some_iff.mp row).1
    have room : i * request.providers.length + request.providers.length ≤
        request.indicators.length * request.providers.length := by
      rw [← Nat.succ_mul]
      exact Nat.mul_le_mul_right _ within
    rw [fill_results length_plainResults measures]
    refine ⟨_, getElem?_items row, Nat.zero_add i, rfl, rfl, ?_, ?_⟩
    · rw [List.length_zipWith, List.length_take, List.length_drop, sized]
      omega
    · intro j provider column
      have inside := (List.getElem?_eq_some_iff.mp column).1
      have place : i * request.providers.length + j <
          (slots serializer request (plainResults lookup request) rawBudget.bytes).length := by
        rw [sized]
        omega
      obtain ⟨slot, there⟩ : ∃ slot, (slots serializer request (plainResults lookup request)
          rawBudget.bytes)[i * request.providers.length + j]? = some slot :=
        ⟨_, List.getElem?_eq_getElem place⟩
      have found := getElem?_flatMap_map (f := fun indicator provider => lookup provider indicator)
        row column
      have paired := List.getElem?_zip_eq_some.mp there
      have same : slot.1 = lookup provider indicator :=
        Option.some.inj (paired.1.symm.trans found)
      have placed : ((((slots serializer request (plainResults lookup request)
          rawBudget.bytes).drop (i * request.providers.length)).take
            request.providers.length))[j]? = some slot := by
        rw [List.getElem?_take_of_lt inside, List.getElem?_drop, there]
      refine ⟨finalEntry request.includeRaw provider slot,
        List.getElem?_zipWith_eq_some.mpr ⟨provider, slot, column, placed, rfl⟩, ?_⟩
      rw [← same]
      exact ⟨rfl, rfl, rfl, rfl, rfl, rfl, rfl, rfl⟩

end RustEnrich.Http
