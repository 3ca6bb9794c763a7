import RustEnrich.Http.Envelope
import RustEnrich.Collections.GreedyFill

/-!
# The accounting of raw values

Over the slots of a request, indicator by indicator and provider by provider,
the first pass is a greedy selection of raw values, and both envelopes have one
entry for each slot. The envelope that is written is longer than the one that
was measured by the raw values put in and seven bytes for each.
-/

namespace RustEnrich.Http

open Serialization Enrichment

/-- A result with the raw value chosen for its slot. -/
abbrev Slot := LookupResult × Option Value

/-- What a result offers to the budget. -/
def offer (includeRaw : Bool) (result : LookupResult) : Option Value :=
  if includeRaw then result.outcome.raw else none

/-- Raw data is offered where it is asked for and there is some. -/
theorem offer_eq_some {includeRaw : Bool} {result : LookupResult} {value : Value} :
    offer includeRaw result = some value ↔ includeRaw = true ∧ result.outcome.raw = some value := by
  cases includeRaw <;> simp [offer]

/-- Why the entry of a slot is without raw data. -/
def omittedReason (includeRaw : Bool) (slot : Slot) : Option String :=
  if !includeRaw then none
  else if slot.2.isSome then none
  else if slot.1.outcome.raw.isSome then some "response_size_limit"
  else some "not_available"

/-- The entry of a slot before the raw data is put in. -/
def measuredEntry (includeRaw : Bool) (provider : ProviderId) (slot : Slot) : ProviderEntry :=
  providerEntry provider slot.1 (omittedReason includeRaw slot)

/-- The entry of a slot with its raw data. -/
def finalEntry (includeRaw : Bool) (provider : ProviderId) (slot : Slot) : ProviderEntry :=
  { measuredEntry includeRaw provider slot with raw := slot.2 }

/-- The results with their entries made of consecutive slots. -/
def items (entry : ProviderId → Slot → ProviderEntry) (providers : List ProviderId) :
    Nat → List ValidatedIndicator → List Slot → List ResultItem
  | _, [], _ => []
  | index, indicator :: rest, slots => {
      index
      input := indicator.input
      lookupValue := indicator.lookupValue
      providers := providers.zipWith entry (slots.take providers.length) } ::
        items entry providers (index + 1) rest (slots.drop providers.length)

section Pass

variable {serializer : Serializer} {includeRaw : Bool}

/-- The length of raw data as it is written. -/
def rawLength (serializer : Serializer) (value : Value) : Nat := (serializer.toVec value).length

/-- The raw values the budget goes to. -/
def chosen (serializer : Serializer) (includeRaw : Bool) (budget : Nat)
    (outcomes : List LookupResult) : List (Option Value) :=
  GreedyFill.select (rawLength serializer) budget (outcomes.map (offer includeRaw))

/-- Each outcome gets its choice. -/
theorem length_chosen (budget : Nat) (outcomes : List LookupResult) :
    (chosen serializer includeRaw budget outcomes).length = outcomes.length := by
  rw [chosen, GreedyFill.length_select, List.length_map]

/-- A choice is the greedy selection of one slot. -/
theorem chooseRaw_spec {remaining : Nat} {result : LookupResult} {choice : RawChoice}
    (chooses : chooseRaw serializer includeRaw remaining result.outcome = some choice) :
    chosen serializer includeRaw remaining [result] = [choice.raw] ∧
      choice.remaining =
        remaining - GreedyFill.total (rawLength serializer) [choice.raw] ∧
      choice.reason = omittedReason includeRaw (result, choice.raw) := by
  unfold chooseRaw at chooses
  cases includeRaw with
  | false =>
      cases chooses
      exact ⟨rfl, rfl, rfl⟩
  | true =>
      simp only [Bool.not_true, Bool.false_eq_true, if_false] at chooses
      split at chooses
      · rename_i value present
        rw [serializer.toWriter_counting] at chooses
        split at chooses
        · cases chooses
        rename_i counter counted
        split at counted
        · cases counted
          split at chooses
          · rename_i fits
            cases chooses
            refine ⟨?_, rfl, rfl⟩
            simp only [chosen, List.map_cons, List.map_nil, offer, if_true, present,
              GreedyFill.select]
            exact if_pos fits
          · rename_i large
            cases chooses
            refine ⟨?_, rfl, ?_⟩
            · simp only [chosen, List.map_cons, List.map_nil, offer, if_true, present,
                GreedyFill.select]
              exact if_neg large
            · simp [omittedReason, present]
        · cases counted
      · rename_i absent
        cases chooses
        refine ⟨?_, rfl, ?_⟩
        · simp only [chosen, List.map_cons, List.map_nil, offer, if_true, absent,
            GreedyFill.select]
        · simp [omittedReason, absent]

/-- A choice fails only on a value whose length cannot be counted. -/
theorem chooseRaw_eq_none {remaining : Nat} {outcome : Outcome}
    (fails : chooseRaw serializer includeRaw remaining outcome = none) :
    includeRaw = true ∧ ∃ value, outcome.raw = some value ∧
      usizeMax < rawLength serializer value := by
  unfold chooseRaw at fails
  cases includeRaw with
  | false => cases fails
  | true =>
      simp only [Bool.not_true, Bool.false_eq_true, if_false] at fails
      split at fails
      · rename_i value present
        rw [serializer.toWriter_counting] at fails
        by_cases counted : (serializer.toVec value).length ≤ usizeMax
        · simp only [if_pos counted] at fails
          split at fails <;> cases fails
        · exact ⟨rfl, value, present, not_le.mp counted⟩
      · cases fails

/-- A later outcome chooses from the budget that earlier ones leave. -/
theorem chosen_append (budget : Nat) (front back : List LookupResult) :
    chosen serializer includeRaw budget (front ++ back) =
      chosen serializer includeRaw budget front ++
        chosen serializer includeRaw (budget - GreedyFill.total (rawLength serializer)
          (chosen serializer includeRaw budget front)) back := by
  simp only [chosen, List.map_append, GreedyFill.select_append]

/-- The state after a stretch of slots. -/
def Pass.after (serializer : Serializer) (includeRaw : Bool) (pass : Pass)
    (front back : List LookupResult) : Pass where
  remaining := pass.remaining -
    GreedyFill.total (rawLength serializer) (chosen serializer includeRaw pass.remaining front)
  entries := back
  rawValues := pass.rawValues ++ chosen serializer includeRaw pass.remaining front
  selected := pass.selected +
    (chosen serializer includeRaw pass.remaining front).countP Option.isSome

/-- A pass over two stretches is one over both. -/
theorem Pass.after_append (pass : Pass) (front middle back : List LookupResult) :
    (pass.after serializer includeRaw front (middle ++ back)).after serializer includeRaw middle
        back =
      pass.after serializer includeRaw (front ++ middle) back := by
  simp only [after, chosen_append, GreedyFill.total_append, List.countP_append, List.append_assoc,
    Nat.sub_sub, Nat.add_assoc]

/-- A pass over nothing is where it was. -/
theorem Pass.after_nil (pass : Pass) :
    pass.after serializer includeRaw [] pass.entries = pass := by
  simp [after, chosen, GreedyFill.select]

/-- The loop over the providers takes one slot for each. -/
theorem projectProviders_ok {providers : List ProviderId} {pass next : Pass}
    {entries : List ProviderEntry}
    (projects : projectProviders serializer includeRaw providers pass = .ok (entries, next)) :
    ∃ front back, pass.entries = front ++ back ∧ front.length = providers.length ∧
      entries = providers.zipWith (measuredEntry includeRaw)
        (front.zip (chosen serializer includeRaw pass.remaining front)) ∧
      next = pass.after serializer includeRaw front back := by
  induction providers generalizing pass next entries with
  | nil =>
      cases projects
      exact ⟨[], pass.entries, rfl, rfl, rfl, pass.after_nil.symm⟩
  | cons provider providers ih =>
      unfold projectProviders at projects
      split at projects
      · cases projects
      rename_i result rest there
      split at projects
      · cases projects
      rename_i choice chooses
      dsimp only at projects
      split at projects
      · cases projects
      rename_i tail last projected
      cases projects
      obtain ⟨kept, left, reason⟩ := chooseRaw_spec chooses
      obtain ⟨front, back, split, sized, rfl, rfl⟩ := ih projected
      change rest = front ++ back at split
      subst split
      have step : pass.after serializer includeRaw [result] (front ++ back) = {
          remaining := choice.remaining
          entries := front ++ back
          rawValues := pass.rawValues ++ [choice.raw]
          selected := pass.selected + if choice.raw.isSome then 1 else 0 } := by
        simp only [Pass.after, kept, left, List.countP_singleton]
      refine ⟨result :: front, back, there, congrArg (· + 1) sized, ?_, ?_⟩
      · have whole : chosen serializer includeRaw pass.remaining ([result] ++ front) = _ :=
          chosen_append pass.remaining [result] front
        rw [List.singleton_append, kept, ← left] at whole
        rw [whole, List.singleton_append, List.zip_cons_cons, List.zipWith_cons_cons, reason]
        rfl
      · rw [← step, Pass.after_append]
        rfl

/-- Each indicator has its item. -/
theorem length_items {entry : ProviderId → Slot → ProviderEntry} {providers : List ProviderId}
    {index : Nat} {indicators : List ValidatedIndicator} {slots : List Slot} :
    (items entry providers index indicators slots).length = indicators.length := by
  induction indicators generalizing index slots with
  | nil => rfl
  | cons indicator rest ih => rw [items, List.length_cons, List.length_cons, ih]

/-- The first item takes the first slots. -/
theorem items_cons {entry : ProviderId → Slot → ProviderEntry} {providers : List ProviderId}
    {index : Nat} {indicator : ValidatedIndicator} {rest : List ValidatedIndicator}
    {front : List Slot} (sized : front.length = providers.length) (back : List Slot) :
    items entry providers index (indicator :: rest) (front ++ back) = {
      index
      input := indicator.input
      lookupValue := indicator.lookupValue
      providers := providers.zipWith entry front } ::
        items entry providers (index + 1) rest back := by
  rw [items, List.take_left' sized, List.drop_left' sized]

/-- The loops take one slot for each indicator and provider. -/
theorem projectResults_ok {request : ValidatedRequest} {indicators : List ValidatedIndicator}
    {index : Nat} {pass next : Pass} {results : List ResultItem}
    (projects : projectResults serializer request index indicators pass = .ok (results, next)) :
    ∃ front back, pass.entries = front ++ back ∧
      front.length = indicators.length * request.providers.length ∧
      results = items (measuredEntry request.includeRaw) request.providers index indicators
        (front.zip (chosen serializer request.includeRaw pass.remaining front)) ∧
      next = pass.after serializer request.includeRaw front back := by
  induction indicators generalizing index pass next results with
  | nil =>
      cases projects
      exact ⟨[], pass.entries, rfl, (Nat.zero_mul _).symm, rfl, pass.after_nil.symm⟩
  | cons indicator indicators ih =>
      unfold projectResults at projects
      split at projects
      · cases projects
      rename_i providers after projected
      split at projects
      · cases projects
      rename_i rest last continued
      cases projects
      obtain ⟨front, middle, split, sized, rfl, rfl⟩ := projectProviders_ok projected
      obtain ⟨more, back, parted, many, rfl, rfl⟩ := ih continued
      change middle = more ++ back at parted
      subst parted
      refine ⟨front ++ more, back, ?_, ?_, ?_, Pass.after_append ..⟩
      · rw [split, List.append_assoc]
      · rw [List.length_append, sized, many, List.length_cons, Nat.succ_mul, Nat.add_comm]
      · have equal : front.length =
            (chosen serializer request.includeRaw pass.remaining front).length :=
          (length_chosen _ _).symm
        have slots : (front.zip
            (chosen serializer request.includeRaw pass.remaining front)).length =
              request.providers.length := by
          rw [List.length_zip, ← equal, min_self, sized]
        rw [chosen_append, List.zip_append equal, items_cons slots]
        rfl

/-- With a result for every slot, the loops fail only on a raw value whose
length cannot be counted. -/
theorem projectProviders_error {providers : List ProviderId} {pass : Pass} {code : ErrorCode}
    (enough : providers.length ≤ pass.entries.length)
    (fails : projectProviders serializer includeRaw providers pass = .error code) :
    code = .responseTooLarge ∧ includeRaw = true ∧ ∃ result ∈ pass.entries, ∃ value,
      result.outcome.raw = some value ∧ usizeMax < rawLength serializer value := by
  induction providers generalizing pass with
  | nil => cases fails
  | cons provider providers ih =>
      unfold projectProviders at fails
      split at fails
      · rename_i none
        rw [none] at enough
        cases enough
      rename_i result rest there
      rw [there] at enough ⊢
      split at fails
      · rename_i unchosen
        cases fails
        obtain ⟨included, value, present, large⟩ := chooseRaw_eq_none unchosen
        exact ⟨rfl, included, result, List.mem_cons_self, value, present, large⟩
      dsimp only at fails
      split at fails
      · rename_i failed
        cases fails
        obtain ⟨same, included, other, member, found⟩ := ih (Nat.le_of_succ_le_succ enough) failed
        exact ⟨same, included, other, List.mem_cons_of_mem _ member, found⟩
      · cases fails

/-- The projection fails only where raw data is asked for and does not fit. -/
theorem projectResults_error {request : ValidatedRequest} {indicators : List ValidatedIndicator}
    {index : Nat} {pass : Pass} {code : ErrorCode}
    (enough : indicators.length * request.providers.length ≤ pass.entries.length)
    (fails : projectResults serializer request index indicators pass = .error code) :
    code = .responseTooLarge ∧ request.includeRaw = true ∧ ∃ result ∈ pass.entries, ∃ value,
      result.outcome.raw = some value ∧ usizeMax < rawLength serializer value := by
  induction indicators generalizing index pass with
  | nil => cases fails
  | cons indicator indicators ih =>
      rw [List.length_cons, Nat.succ_mul] at enough
      unfold projectResults at fails
      split at fails
      · rename_i failed
        cases fails
        exact projectProviders_error (le_trans (Nat.le_add_left _ _) enough) failed
      rename_i providers after projected
      split at fails
      · rename_i failed
        cases fails
        obtain ⟨front, back, split, sized, -, rfl⟩ := projectProviders_ok projected
        rw [split, List.length_append, sized] at enough
        obtain ⟨same, included, other, member, found⟩ :=
          ih (by simp only [Pass.after]; omega) failed
        rw [split]
        exact ⟨same, included, other, List.mem_append_right _ member, found⟩
      · cases fails

end Pass

/-! ### The measured envelope -/

section Measured

variable {serializer : Serializer} {id : String} {request : ValidatedRequest}
  {outcomes : List LookupResult} {budget : Nat} {envelope : Envelope} {pass : Pass}

/-- The slots of a request, with the raw values chosen for them. -/
def slots (serializer : Serializer) (request : ValidatedRequest) (outcomes : List LookupResult)
    (budget : Nat) : List Slot :=
  outcomes.zip (chosen serializer request.includeRaw budget outcomes)

/-- Each outcome has its slot. -/
theorem length_slots :
    (slots serializer request outcomes budget).length = outcomes.length := by
  rw [slots, List.length_zip, length_chosen, min_self]

/-- The slots hold the raw data that was chosen. -/
theorem map_snd_slots :
    (slots serializer request outcomes budget).map Prod.snd =
      chosen serializer request.includeRaw budget outcomes :=
  List.map_snd_zip (length_chosen _ _).le

/-- The measured envelope has an item for each indicator and an entry for each slot.
-/
theorem measured_ok
    (filled : outcomes.length = request.indicators.length * request.providers.length)
    (measures : measured serializer id request outcomes budget = .ok (envelope, pass)) :
    envelope = {
        requestId := id
        results := items (measuredEntry request.includeRaw) request.providers 0
          request.indicators (slots serializer request outcomes budget) } ∧
      pass.rawValues = chosen serializer request.includeRaw budget outcomes ∧
      pass.selected =
        (chosen serializer request.includeRaw budget outcomes).countP Option.isSome := by
  unfold measured at measures
  dsimp only at measures
  split at measures
  · cases measures
  rename_i results last projected
  cases measures
  obtain ⟨front, back, split, sized, rfl, rfl⟩ := projectResults_ok projected
  change outcomes = front ++ back at split
  have empty : back = [] := by
    have total := congrArg List.length split
    rw [List.length_append, filled, sized] at total
    exact List.eq_nil_of_length_eq_zero (by omega)
  subst empty
  rw [List.append_nil] at split
  subst split
  refine ⟨rfl, ?_, ?_⟩
  · simp only [Pass.after, List.nil_append]
  · simp only [Pass.after, Nat.zero_add]

/-- The first pass fails only on a raw value whose length cannot be counted. -/
theorem measured_error {code : ErrorCode}
    (filled : outcomes.length = request.indicators.length * request.providers.length)
    (measures : measured serializer id request outcomes budget = .error code) :
    code = .responseTooLarge ∧ request.includeRaw = true ∧ ∃ result ∈ outcomes, ∃ value,
      result.outcome.raw = some value ∧ usizeMax < rawLength serializer value := by
  unfold measured at measures
  dsimp only at measures
  split at measures
  · rename_i failed
    cases measures
    exact projectResults_error filled.ge failed
  · cases measures

end Measured

/-! ### The filled envelope -/

/-- The entries of an item take the raw data of their slots. -/
theorem fillProviders_zipWith {includeRaw : Bool} {providers : List ProviderId}
    {front : List Slot} (sized : front.length = providers.length) (rest : List (Option Value)) :
    fillProviders (providers.zipWith (measuredEntry includeRaw) front)
        (front.map Prod.snd ++ rest) =
      (providers.zipWith (finalEntry includeRaw) front, rest) := by
  induction providers generalizing front with
  | nil =>
      rw [List.eq_nil_of_length_eq_zero sized]
      cases rest <;> rfl
  | cons provider providers ih =>
      cases front with
      | nil => cases sized
      | cons slot front =>
          simp only [List.zipWith_cons_cons, List.map_cons, List.cons_append, fillProviders,
            ih (Nat.succ.inj sized)]
          rfl

/-- Each slot is taken by the results in turn. -/
theorem slots_split {count width : Nat} {slots : List Slot}
    (filled : slots.length = (count + 1) * width) :
    ∃ front back, slots = front ++ back ∧ front.length = width ∧ back.length = count * width := by
  rw [Nat.succ_mul] at filled
  refine ⟨slots.take width, slots.drop width, (List.take_append_drop _ _).symm, ?_, ?_⟩
  · rw [List.length_take]
    omega
  · rw [List.length_drop]
    omega

/-- The items take the raw data of their slots. -/
theorem fillResults_items {includeRaw : Bool} {providers : List ProviderId} {index : Nat}
    {indicators : List ValidatedIndicator} {slots : List Slot}
    (filled : slots.length = indicators.length * providers.length) :
    fillResults (items (measuredEntry includeRaw) providers index indicators slots)
        (slots.map Prod.snd) =
      items (finalEntry includeRaw) providers index indicators slots := by
  induction indicators generalizing index slots with
  | nil => rfl
  | cons indicator indicators ih =>
      obtain ⟨front, back, rfl, sized, many⟩ := slots_split filled
      rw [items_cons sized, items_cons sized, List.map_append]
      simp only [fillResults, fillProviders_zipWith sized, ih many]

/-- The entries in the order they are written. -/
def entries (results : List ResultItem) : List ProviderEntry := results.flatMap ResultItem.providers

/-- The entries of all items are those of all slots. -/
theorem entries_items {entry : ProviderId → Slot → ProviderEntry} {providers : List ProviderId}
    {index : Nat} {indicators : List ValidatedIndicator} {slots : List Slot}
    (filled : slots.length = indicators.length * providers.length) :
    entries (items entry providers index indicators slots) =
      (indicators.flatMap fun _ => providers).zipWith entry slots := by
  induction indicators generalizing index slots with
  | nil => rfl
  | cons indicator indicators ih =>
      obtain ⟨front, back, rfl, sized, many⟩ := slots_split filled
      rw [items_cons sized, entries, List.flatMap_cons, List.flatMap_cons,
        List.zipWith_append sized.symm]
      exact congrArg (providers.zipWith entry front ++ ·) (ih many)

section Length

variable {serializer : Serializer}

/-- An entry without its raw value. -/
def ProviderEntry.clear (entry : ProviderEntry) : ProviderEntry := { entry with raw := none }

/-- An item without its raw data. -/
def ResultItem.clear (item : ResultItem) : ResultItem :=
  { item with providers := item.providers.map ProviderEntry.clear }

/-- What the raw value of an entry adds to its text: a comma, its quoted name, a
colon and the value. -/
def rawBytes (serializer : Serializer) (entry : ProviderEntry) : Nat :=
  (entry.raw.map fun value => 7 + rawLength serializer value).getD 0

/-- An entry is longer than without its raw data by that data. -/
theorem length_entry (entry : ProviderEntry) :
    rawLength serializer (entry.serialize serializer) =
      rawLength serializer (entry.clear.serialize serializer) + rawBytes serializer entry := by
  have name : (quoted "raw").length = 5 := by decide
  have always : (entry.required serializer).length = 7 := rfl
  have same : entry.clear.required serializer = entry.required serializer := rfl
  obtain ⟨provider, status, summary, fetchedAt, providerUpdatedAt, cache, error, raw, reason⟩ :=
    entry
  simp only [rawLength, Serializer.toVec, ProviderEntry.serialize, length_object, same,
    List.map_append, List.sum_append, List.length_append, always]
  cases raw with
  | none =>
      simp only [ProviderEntry.clear, skippable, rawBytes, Option.map_none, Option.getD_none]
      omega
  | some value =>
      simp only [ProviderEntry.clear, skippable, rawBytes, Option.map_some, Option.getD_some,
        List.map_cons, List.map_nil, List.sum_cons, List.sum_nil, List.length_cons,
        List.length_nil, memberLength, name, id_eq, rawLength, Serializer.toVec]
      omega

/-- An item is longer than without its raw data by that data. -/
theorem length_item (item : ResultItem) :
    rawLength serializer (item.serialize serializer) =
      rawLength serializer (item.clear.serialize serializer) +
        (item.providers.map (rawBytes serializer)).sum := by
  have providers : (item.providers.map fun entry =>
        (text serializer.float (entry.serialize serializer)).length).sum =
      (item.providers.map fun entry =>
        (text serializer.float (entry.clear.serialize serializer)).length).sum +
        (item.providers.map (rawBytes serializer)).sum := by
    rw [← List.sum_map_add]
    exact congrArg List.sum (List.map_congr_left fun entry _ => length_entry entry)
  simp only [rawLength, Serializer.toVec, ResultItem.serialize, ResultItem.clear, length_object,
    List.map_cons, List.map_nil, List.sum_cons, List.sum_nil, memberLength, length_array,
    List.map_map, List.length_map, Function.comp_def, List.length_cons, List.length_nil, providers]
  omega

/-- An envelope is longer than without its raw data by that data. -/
theorem length_envelope (id : String) (results : List ResultItem) :
    rawLength serializer (Envelope.serialize serializer { requestId := id, results }) =
      rawLength serializer (Envelope.serialize serializer {
        requestId := id, results := results.map ResultItem.clear }) +
        ((entries results).map (rawBytes serializer)).sum := by
  have items : (results.map fun item =>
        (text serializer.float (item.serialize serializer)).length).sum =
      (results.map fun item =>
        (text serializer.float (item.clear.serialize serializer)).length).sum +
        ((entries results).map (rawBytes serializer)).sum := by
    have parts : ((entries results).map (rawBytes serializer)).sum =
        (results.map fun item => (item.providers.map (rawBytes serializer)).sum).sum := by
      rw [entries, List.map_flatMap, List.flatMap_def, List.sum_flatten, List.map_map]
      rfl
    rw [parts, ← List.sum_map_add]
    exact congrArg List.sum (List.map_congr_left fun item _ => length_item item)
  simp only [rawLength, Serializer.toVec, Envelope.serialize, length_object, List.map_cons,
    List.map_nil, List.sum_cons, List.sum_nil, memberLength, length_array, List.map_map,
    List.length_map, Function.comp_def, List.length_cons, List.length_nil, items]
  omega

end Length

/-! ### Exact accounting -/

/-- How many entries have raw data. -/
def included (entries : List ProviderEntry) : Nat := entries.countP fun entry => entry.raw.isSome

/-- How long the raw data is that they have. -/
def includedBytes (serializer : Serializer) (entries : List ProviderEntry) : Nat :=
  GreedyFill.total (rawLength serializer) (entries.map ProviderEntry.raw)

/-- What the raw values of an envelope have to do with the slots of a request,
and its length with that of the envelope measured before. -/
structure Accounts (serializer : Serializer) (request : ValidatedRequest)
    (outcomes : List LookupResult) (rawBudget : RawBudget) (envelope final : Envelope) : Prop where
  perSlot : (entries final.results).length = outcomes.length
  selected : ∀ (slot : Nat) (entry : ProviderEntry) (result : LookupResult) (value : Value),
    (entries final.results)[slot]? = some entry → outcomes[slot]? = some result →
    (entry.raw = some value ↔ request.includeRaw = true ∧ result.outcome.raw = some value ∧
      rawLength serializer value ≤
        rawBudget.bytes - includedBytes serializer ((entries final.results).take slot))
  reported : request.includeRaw = true → ∀ entry ∈ entries final.results,
    (entry.raw.isSome = true ↔ entry.rawOmittedReason = none)
  silent : request.includeRaw = false → ∀ entry ∈ entries final.results,
    entry.raw = none ∧ entry.rawOmittedReason = none
  withinBudget : includedBytes serializer (entries final.results) ≤ rawBudget.bytes
  exactLength : (serializer.toVec (final.serialize serializer)).length =
    (serializer.toVec (envelope.serialize serializer)).length +
      7 * included (entries final.results) + includedBytes serializer (entries final.results)

section Exact

variable {serializer : Serializer} {id : String} {request : ValidatedRequest}
  {outcomes : List LookupResult} {rawBudget : RawBudget} {envelope : Envelope} {pass : Pass}

/-- The raw data adds its own length and a name for each. -/
theorem sum_rawBytes (entries : List ProviderEntry) :
    (entries.map (rawBytes serializer)).sum =
      7 * included entries + includedBytes serializer entries := by
  induction entries with
  | nil => rfl
  | cons entry rest ih =>
      obtain ⟨provider, status, summary, fetchedAt, providerUpdatedAt, cache, error, raw, reason⟩ :=
        entry
      rw [List.map_cons, List.sum_cons, ih]
      cases raw with
      | none => simp [included, includedBytes, rawBytes]
      | some value =>
          simp only [included, includedBytes, rawBytes, List.countP_cons, Option.isSome_some,
            if_true, List.map_cons, GreedyFill.total_cons, Option.map_some, Option.getD_some]
          omega

/-- The filled envelope has the final entries of its slots. -/
theorem fill_results
    (filled : outcomes.length = request.indicators.length * request.providers.length)
    (measures : measured serializer id request outcomes rawBudget.bytes = .ok (envelope, pass)) :
    (envelope.fill pass.rawValues).results =
      items (finalEntry request.includeRaw) request.providers 0 request.indicators
        (slots serializer request outcomes rawBudget.bytes) := by
  obtain ⟨rfl, raws, _⟩ := measured_ok filled measures
  change fillResults _ pass.rawValues = _
  rw [raws, ← map_snd_slots, fillResults_items (length_slots.trans filled)]

/-- The entries of the filled envelope, slot by slot. -/
theorem entries_fill
    (filled : outcomes.length = request.indicators.length * request.providers.length)
    (measures : measured serializer id request outcomes rawBudget.bytes = .ok (envelope, pass)) :
    entries (envelope.fill pass.rawValues).results =
      (request.indicators.flatMap fun _ => request.providers).zipWith
        (finalEntry request.includeRaw) (slots serializer request outcomes rawBudget.bytes) := by
  rw [fill_results filled measures, entries_items (length_slots.trans filled)]

/-- There is a slot for each pair. -/
theorem length_providers (request : ValidatedRequest) :
    (request.indicators.flatMap fun _ => request.providers).length =
      request.indicators.length * request.providers.length := by
  rw [List.length_flatMap, List.map_const', List.sum_replicate_nat]

/-- The filled envelope has the raw data that was chosen. -/
theorem map_raw_fill
    (filled : outcomes.length = request.indicators.length * request.providers.length)
    (measures : measured serializer id request outcomes rawBudget.bytes = .ok (envelope, pass)) :
    (entries (envelope.fill pass.rawValues).results).map ProviderEntry.raw =
      chosen serializer request.includeRaw rawBudget.bytes outcomes := by
  have fits : (slots serializer request outcomes rawBudget.bytes).length ≤
      (request.indicators.flatMap fun _ => request.providers).length := by
    rw [length_slots, filled, length_providers]
  rw [entries_fill filled measures, List.map_zipWith]
  calc
    _ = ((request.indicators.flatMap fun _ => request.providers).zip
          (slots serializer request outcomes rawBudget.bytes)).map (fun pair => pair.2.2) := by
      rw [List.zip_eq_zipWith, List.map_zipWith]
      rfl
    _ = (slots serializer request outcomes rawBudget.bytes).map Prod.snd := by
      rw [← List.map_snd_zip fits, List.map_map, List.map_snd_zip fits]
      rfl
    _ = _ := map_snd_slots

/-- Without its raw data the filled envelope is the measured one. -/
theorem clear_fill
    (filled : outcomes.length = request.indicators.length * request.providers.length)
    (measures : measured serializer id request outcomes rawBudget.bytes = .ok (envelope, pass)) :
    (envelope.fill pass.rawValues).results.map ResultItem.clear = envelope.results := by
  have cleared : ∀ (index : Nat) (indicators : List ValidatedIndicator) (slots : List Slot),
      (items (finalEntry request.includeRaw) request.providers index indicators slots).map
          ResultItem.clear =
        items (measuredEntry request.includeRaw) request.providers index indicators slots := by
    intro index indicators
    induction indicators generalizing index with
    | nil => exact fun _ => rfl
    | cons indicator indicators ih =>
        intro slots
        simp only [items, List.map_cons, ih, ResultItem.clear, List.map_zipWith]
        rfl
  rw [fill_results filled measures, cleared, (measured_ok filled measures).1]

/-- The entry of a slot, with its result and the raw value chosen for it. -/
theorem getElem_entries_fill
    (filled : outcomes.length = request.indicators.length * request.providers.length)
    (measures : measured serializer id request outcomes rawBudget.bytes = .ok (envelope, pass))
    {slot : Nat} {entry : ProviderEntry}
    (there : (entries (envelope.fill pass.rawValues).results)[slot]? = some entry) :
    ∃ provider result, outcomes[slot]? = some result ∧
      (chosen serializer request.includeRaw rawBudget.bytes outcomes)[slot]? = some entry.raw ∧
      entry = finalEntry request.includeRaw provider (result, entry.raw) := by
  rw [entries_fill filled measures, List.getElem?_zipWith_eq_some] at there
  obtain ⟨provider, chose, _, paired, rfl⟩ := there
  rw [slots, List.getElem?_zip_eq_some] at paired
  exact ⟨provider, chose.1, paired.1, paired.2, rfl⟩

/-- The filled envelope accounts for what it includes. -/
theorem accounts
    (filled : outcomes.length = request.indicators.length * request.providers.length)
    (measures : measured serializer id request outcomes rawBudget.bytes = .ok (envelope, pass)) :
    Accounts serializer request outcomes rawBudget envelope (envelope.fill pass.rawValues) where
  perSlot := by
    rw [← List.length_map (f := ProviderEntry.raw), map_raw_fill filled measures, length_chosen]
  selected := by
    intro slot entry result value there given
    obtain ⟨provider, same, equal, kept, _⟩ := getElem_entries_fill filled measures there
    cases given.symm.trans equal
    have before : includedBytes serializer
        ((entries (envelope.fill pass.rawValues).results).take slot) =
          GreedyFill.total (rawLength serializer)
            ((chosen serializer request.includeRaw rawBudget.bytes outcomes).take slot) := by
      rw [includedBytes, List.map_take, map_raw_fill filled measures]
    have picked : (chosen serializer request.includeRaw rawBudget.bytes outcomes)[slot]? =
        some (some value) ↔ _ := GreedyFill.select_eq_some_iff
    rw [kept, Option.some.injEq, List.getElem?_map, given, Option.map_some, Option.some.injEq]
      at picked
    rw [before, picked, offer_eq_some, and_assoc]
    rfl
  reported := by
    intro includes entry member
    obtain ⟨slot, there⟩ := List.getElem?_of_mem member
    obtain ⟨provider, result, _, _, shape⟩ := getElem_entries_fill filled measures there
    rw [shape]
    simp only [finalEntry, measuredEntry, providerEntry, omittedReason, includes, Bool.not_true,
      Bool.false_eq_true, if_false]
    cases entry.raw with
    | some value => simp
    | none => cases result.outcome.raw <;> simp
  silent := by
    intro excludes entry member
    obtain ⟨slot, there⟩ := List.getElem?_of_mem member
    obtain ⟨provider, result, given, kept, shape⟩ := getElem_entries_fill filled measures there
    constructor
    · cases raw : entry.raw with
      | none => rfl
      | some value =>
          rw [raw] at kept
          have offered := GreedyFill.offered_of_select kept
          rw [List.getElem?_map, given] at offered
          obtain ⟨includes, _⟩ := offer_eq_some.mp (Option.some.inj offered)
          cases excludes.symm.trans includes
    · rw [shape]
      simp only [finalEntry, measuredEntry, providerEntry, omittedReason, excludes, Bool.not_false,
        if_true]
  withinBudget := by
    rw [includedBytes, map_raw_fill filled measures]
    exact GreedyFill.total_select_le _ _ _
  exactLength := by
    have grows : rawLength serializer ((envelope.fill pass.rawValues).serialize serializer) = _ :=
      length_envelope envelope.requestId (envelope.fill pass.rawValues).results
    rw [clear_fill filled measures, sum_rawBytes, ← Nat.add_assoc] at grows
    exact grows

/-- As much raw data is counted as is included. -/
theorem selected_eq_included
    (filled : outcomes.length = request.indicators.length * request.providers.length)
    (measures : measured serializer id request outcomes rawBudget.bytes = .ok (envelope, pass)) :
    pass.selected = included (entries (envelope.fill pass.rawValues).results) := by
  obtain ⟨_, _, selected⟩ := measured_ok filled measures
  rw [selected, ← map_raw_fill filled measures, List.countP_map]
  rfl

/-- After the first pass, the measured length decides alone. -/
theorem project_of_measured
    (filled : outcomes.length = request.indicators.length * request.providers.length)
    (measures : measured serializer id request outcomes rawBudget.bytes = .ok (envelope, pass)) :
    project serializer id request outcomes rawBudget =
      if (serializer.toVec (envelope.serialize serializer)).length +
          7 * included (entries (envelope.fill pass.rawValues).results) ≤ envelopeLimit then
        .ok (serializer.toVec ((envelope.fill pass.rawValues).serialize serializer))
      else .error .responseTooLarge := by
  have account := accounts filled measures
  have budget := rawBudget.representable
  have exact_ := account.exactLength
  have within := account.withinBudget
  have limit : envelopeLimit = 1048576 := rfl
  have most : usizeMax = 18446744073709551615 := rfl
  unfold project
  rw [measures]
  dsimp only
  rw [serializer.toWriter_counting, selected_eq_included filled measures]
  by_cases fits : (serializer.toVec (envelope.serialize serializer)).length +
      7 * included (entries (envelope.fill pass.rawValues).results) ≤ envelopeLimit
  · have counted : (serializer.toVec (envelope.serialize serializer)).length ≤ usizeMax := by omega
    have sum : ¬ saturatingAddUsize (serializer.toVec (envelope.serialize serializer)).length
        (saturatingMulUsize (included (entries (envelope.fill pass.rawValues).results)) 7) >
          envelopeLimit := by
      unfold saturatingAddUsize saturatingMulUsize
      omega
    have whole : (serializer.toVec
        ((envelope.fill pass.rawValues).serialize serializer)).length ≤
          saturatingAddUsize envelopeLimit rawBudget.bytes := by
      unfold saturatingAddUsize
      omega
    rw [if_pos fits, if_pos counted]
    dsimp only
    rw [if_neg sum, serializer.toWriter_limited, if_pos whole]
  · rw [if_neg fits]
    by_cases counted :
        (serializer.toVec (envelope.serialize serializer)).length ≤ usizeMax
    · have sum : saturatingAddUsize (serializer.toVec (envelope.serialize serializer)).length
          (saturatingMulUsize (included (entries (envelope.fill pass.rawValues).results)) 7) >
            envelopeLimit := by
        unfold saturatingAddUsize saturatingMulUsize
        omega
      rw [if_pos counted]
      exact if_pos sum
    · rw [if_neg counted]

end Exact

/-- **The size accounting of the projection is exact.** With a result for every
slot, the first pass fails only on a raw value too long to count. Otherwise a
raw value is included exactly if it is asked for, there, and fits what the
values of earlier slots leave of the budget; an entry reports an omission
exactly if raw values are asked for and it has none; the text written is longer
than the one measured by the values and seven bytes for each; and so the
measure alone decides, and the output stays within both limits. -/
theorem project_exact {serializer : Serializer} {id : String} {request : ValidatedRequest}
    {outcomes : List LookupResult} {rawBudget : RawBudget}
    (filled : outcomes.length = request.indicators.length * request.providers.length) :
    (∃ envelope pass,
      measured serializer id request outcomes rawBudget.bytes = .ok (envelope, pass) ∧
      Accounts serializer request outcomes rawBudget envelope (envelope.fill pass.rawValues) ∧
      project serializer id request outcomes rawBudget =
        (if (serializer.toVec (envelope.serialize serializer)).length +
            7 * included (entries (envelope.fill pass.rawValues).results) ≤ envelopeLimit then
          .ok (serializer.toVec ((envelope.fill pass.rawValues).serialize serializer))
        else .error .responseTooLarge) ∧
      ∀ bytes, project serializer id request outcomes rawBudget = .ok bytes →
        bytes.length ≤ envelopeLimit + rawBudget.bytes) ∨
    (measured serializer id request outcomes rawBudget.bytes = .error .responseTooLarge ∧
      project serializer id request outcomes rawBudget = .error .responseTooLarge ∧
      request.includeRaw = true ∧ ∃ result ∈ outcomes, ∃ value, result.outcome.raw = some value ∧
        usizeMax < (serializer.toVec value).length) := by
  cases measures : measured serializer id request outcomes rawBudget.bytes with
  | ok both =>
      obtain ⟨envelope, pass⟩ := both
      have account := accounts filled measures
      have decides := project_of_measured filled measures
      refine Or.inl ⟨envelope, pass, rfl, account, decides, ?_⟩
      intro bytes written
      rw [decides] at written
      split at written
      · rename_i fits
        cases written
        rw [account.exactLength]
        exact Nat.add_le_add fits account.withinBudget
      · cases written
  | error code =>
      obtain ⟨rfl, includes, overlong⟩ := measured_error filled measures
      refine Or.inr ⟨rfl, ?_, includes, overlong⟩
      unfold project
      rw [measures]

/-- The address of a public resolver. -/
def resolverIndicator : ValidatedIndicator where
  input := { kind := .ip, value := "8.8.8.8" }
  lookupValue := "8.8.8.8"
  hashAlgorithm := none

/-- One indicator, with its raw reports from both providers. -/
def rawRequest : ValidatedRequest where
  indicators := [resolverIndicator]
  providers := [.abuseipdb, .virustotal]
  includeRaw := true

/-- A small raw document. -/
def smallReport : Value := .object [("a", .number (.posInt 1))]

/-- A report that was fetched, with this document. -/
def reportResult : LookupResult :=
  .uncached { Outcome.empty .ok with fetchedAt := some .epoch, raw := some smallReport }

/-- Room for one report of the two. -/
def oneReport : RawBudget where
  bytes := 7
  representable := by decide

/-- A writer whose times are all the epoch. -/
def epochSerializer : Serializer := .whole (fun _ => "0.0") (fun _ => "1970-01-01T00:00:00Z")

/-- Two outcomes with the same raw document and room for one. -/
theorem project_exact_shared :
    ∃ envelope pass,
      measured epochSerializer "id" rawRequest [reportResult, reportResult] oneReport.bytes =
        .ok (envelope, pass) ∧
      Accounts epochSerializer rawRequest [reportResult, reportResult] oneReport envelope
        (envelope.fill pass.rawValues) := by
  have exact_ := @project_exact epochSerializer "id" rawRequest [reportResult, reportResult]
    oneReport rfl
  rcases exact_ with ⟨envelope, pass, measures, account, _⟩ | overlong
  · exact ⟨envelope, pass, measures, account⟩
  · obtain ⟨_, _, _, result, member, value, present, large⟩ := overlong
    have same : result = reportResult := by simpa using member
    subst same
    cases present
    exact absurd large (by decide)

end RustEnrich.Http
