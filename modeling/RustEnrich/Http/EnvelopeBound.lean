import RustEnrich.Http.Accounting
import RustEnrich.Validation.Acceptance
import RustEnrich.Providers
import Mathlib.Algebra.BigOperators.Ring.List
import Mathlib.Algebra.Group.Nat.Defs

/-!
# Default envelopes fit

The longest text the envelope of an accepted request can have without raw
values. Submitted values are printed twice, and escaping at most doubles what is
printable; an entry is its summary and a few hundred bytes. Twenty results with
two entries stay below the limit, with the bytes reserved for raw values.
-/

namespace RustEnrich.Http

open Serialization Enrichment

/-! ### Escaping -/

section Escaping

/-- The bytes of a text are those of its characters. -/
theorem length_utf8_ofList (chars : List Char) :
    (utf8 (.ofList chars)).length = (chars.map Char.utf8Size).sum := by
  rw [utf8, String.toList_ofList, List.length_flatMap]
  simp only [String.length_utf8EncodeChar]

/-- A digit takes one byte. -/
theorem utf8Size_digitChar {digit : Nat} (small : digit < 16) : digit.digitChar.utf8Size = 1 := by
  have all : ∀ digit < 16, (Nat.digitChar digit).utf8Size = 1 := by decide
  exact all digit small

/-- A character takes two bytes escaped, or six as a control character, or what
it takes by itself. -/
theorem length_escape (char : Char) :
    (escape char).length = 2 ∨ (char.toNat < 32 ∧ (escape char).length = 6) ∨
      (escape char).length = char.utf8Size := by
  unfold escape
  -- The escapes with a letter of their own come first.
  iterate 7
    split
    · exact Or.inl (by decide)
  split
  · rename_i control
    have high := utf8Size_digitChar (show char.toNat / 16 < 16 by omega)
    have low := utf8Size_digitChar (show char.toNat % 16 < 16 by omega)
    refine Or.inr (Or.inl ⟨control, ?_⟩)
    rw [length_utf8_ofList]
    simp only [List.map_cons, List.map_nil, List.sum_cons, List.sum_nil, high, low]
    decide
  · exact Or.inr (Or.inr (String.length_utf8EncodeChar char))

/-- A character is escaped in at most six bytes. -/
theorem length_escape_le (char : Char) : (escape char).length ≤ 6 := by
  have size := Char.utf8Size_le_four char
  have cases_ := length_escape char
  omega

/-- A printable character at most doubles. -/
theorem length_escape_printable {char : Char} (printable : isControl char = false) :
    (escape char).length ≤ 2 * char.utf8Size := by
  have size := Char.utf8Size_pos char
  have above : ¬ char.toNat < 32 := by
    intro control
    simp [isControl, control] at printable
  have cases_ := length_escape char
  omega

/-- A quoted text is its escaped characters between two quotes. -/
theorem length_quoted (text : String) :
    (quoted text).length = 2 + (text.toList.map fun char => (escape char).length).sum := by
  have quote : ("\"").utf8ByteSize = 1 := by decide
  simp only [quoted, List.length_append, length_utf8, quote, List.length_flatMap]
  omega

/-- The length of a literal, without taking its bytes apart. -/
theorem length_quoted_ofList (chars : List Char) :
    (quoted (.ofList chars)).length = 2 + (chars.map fun char => (escape char).length).sum := by
  rw [length_quoted, String.toList_ofList]

/-- A sum of bounded lengths. -/
theorem sum_le {α : Type*} {values : List α} {length : α → Nat} {bound : Nat}
    (each : ∀ value ∈ values, length value ≤ bound) :
    (values.map length).sum ≤ values.length * bound := by
  have total := List.sum_le_card_nsmul (values.map length) bound (by
    intro _ member
    obtain ⟨value, inside, rfl⟩ := List.mem_map.mp member
    exact each value inside)
  rwa [List.length_map, Nat.nsmul_eq_mul] at total

/-- A quoted text takes at most six bytes for each character. -/
theorem length_quoted_le (text : String) :
    (quoted text).length ≤ 2 + text.toList.length * 6 := by
  rw [length_quoted]
  exact Nat.add_le_add_left (sum_le fun char _ => length_escape_le char) 2

/-- The sizes of the characters are that of the text. -/
theorem sum_utf8Size (text : String) : (text.toList.map Char.utf8Size).sum = text.utf8ByteSize := by
  rw [← length_utf8, ← length_utf8_ofList, String.ofList_toList]

/-- A quoted printable text at most doubles. -/
theorem length_quoted_printable {text : String}
    (printable : ∀ char ∈ text.toList, isControl char = false) :
    (quoted text).length ≤ 2 + 2 * text.utf8ByteSize := by
  have each : (text.toList.map fun char => (escape char).length).sum ≤
      (text.toList.map fun char => 2 * char.utf8Size).sum :=
    List.sum_le_sum fun char member => length_escape_printable (printable char member)
  rw [List.sum_map_mul_left, sum_utf8Size] at each
  rw [length_quoted]
  omega

/-- A text has no more characters than bytes. -/
theorem length_toList_le (text : String) : text.toList.length ≤ text.utf8ByteSize := by
  have each : (text.toList.map fun _ => 1).sum ≤ (text.toList.map Char.utf8Size).sum :=
    List.sum_le_sum fun char _ => Char.utf8Size_pos char
  rw [sum_utf8Size, List.map_const', List.sum_replicate_nat, Nat.mul_one] at each
  exact each

end Escaping

/-! ### Values -/

section Values

variable {float : UInt64 → String}

/-- A string value takes at most six bytes for each character. -/
theorem length_string_le (value : String) :
    (text float (.string value)).length ≤ 2 + value.toList.length * 6 := length_quoted_le value

/-- A number of 64 bits has at most 20 digits. -/
theorem length_u64_le (value : UInt64) : (text float (serializeU64 value)).length ≤ 20 := by
  have small : value.toNat < 10 ^ 20 := lt_trans value.toNat_lt (by decide)
  have digits := Nat.toDigits_length 10 value.toNat 20 (by decide) small
  have ascii : ∀ char ∈ Nat.toDigits 10 value.toNat, char.utf8Size ≤ 1 := by
    intro char member
    have digit := Nat.isDigit_of_mem_toDigits (by decide) (by decide) member
    simp only [Char.isDigit, Bool.and_eq_true, decide_eq_true_eq] at digit
    have last : (57 : UInt32) ≤ 127 := by decide
    exact (Char.utf8Size_eq_one_iff.mpr (UInt32.le_trans digit.2 last)).le
  have bytes := sum_le ascii
  rw [serializeU64, text, numberText, Nat.repr, length_utf8_ofList]
  omega

/-- What may be null is as short as what it is otherwise. -/
theorem length_nullable {α : Type} {serialize : α → Value} {optional : Option α} {bound : Nat}
    (atLeast : 4 ≤ bound)
    (each : ∀ value, optional = some value → (text float (serialize value)).length ≤ bound) :
    (text float (nullable serialize optional)).length ≤ bound := by
  cases optional with
  | none =>
      have null : (text float .null).length = 4 := by
        rw [text]
        decide
      exact null.le.trans atLeast
  | some value => exact each value rfl

/-- A boolean takes at most five bytes. -/
theorem length_bool_le (value : Bool) : (text float (.bool value)).length ≤ 5 := by
  cases value <;> rw [text] <;> decide

end Values

/-! ### Entries -/

/-- What holds of every result: the bounds its parts are built under. A summary
passed `decode`, an error is one of the fixed ones with some delay, and the
length of a raw value was limited by `send`. -/
structure ResultBounds (serializer : Serializer) (result : LookupResult) : Prop where
  summary : ∀ summary, result.outcome.summary = some summary →
    (serializer.toVec (serializer.summary summary)).length ≤ summaryByteLimit
  error : ∀ error, result.outcome.error = some error →
    ∃ code delay, error = { PublicError.new code with retryAfterSeconds := delay }
  fetchedAt : ∀ instant, result.outcome.fetchedAt = some instant →
    (serializer.timestamp instant).utf8ByteSize ≤ 40
  providerUpdatedAt : ∀ instant, result.outcome.providerUpdatedAt = some instant →
    (serializer.timestamp instant).utf8ByteSize ≤ 40
  expiresAt : ∀ instant, result.expiresAt = some instant →
    (serializer.timestamp instant).utf8ByteSize ≤ 40
  raw : ∀ value, result.outcome.raw = some value → (serializer.toVec value).length ≤ usizeMax

section Entries

variable {serializer : Serializer}

/-- A time is short. -/
theorem length_dateTime_le {instant : DateTime}
    (short : (serializer.timestamp instant).utf8ByteSize ≤ 40) :
    (text serializer.float (serializer.dateTime instant)).length ≤ 242 := by
  have quoted := @length_string_le serializer.float (serializer.timestamp instant)
  have chars := length_toList_le (serializer.timestamp instant)
  rw [Serializer.dateTime]
  omega

/-- A code is short. -/
theorem length_code_le (code : ErrorCode) : (quoted code.asStr).length ≤ 32 := by
  cases code <;> exact (length_quoted_ofList _).trans_le (by decide)

/-- A message is short. -/
theorem length_message_le (code : ErrorCode) :
    (quoted (PublicError.new code).message).length ≤ 70 := by
  cases code <;> exact (length_quoted_ofList _).trans_le (by decide)

/-- A public error is short. -/
theorem length_error_le {code : ErrorCode} {delay : Option Nat} :
    (text serializer.float (PublicError.serialize
      { PublicError.new code with retryAfterSeconds := delay })).length ≤ 190 := by
  have names : (quoted "code").length = 6 ∧ (quoted "message").length = 9 ∧
      (quoted "retryable").length = 11 ∧ (quoted "retry_after_seconds").length = 21 := by
    and_intros <;> exact (length_quoted_ofList _).trans (by decide)
  have code_ : (text serializer.float code.serialize).length ≤ 32 := length_code_le code
  have message : (text serializer.float (.string (PublicError.new code).message)).length ≤ 70 :=
    length_message_le code
  have retryable := @length_bool_le serializer.float (PublicError.new code).retryable
  have after : (text serializer.float
      (nullable (fun seconds => serializeU64 (.ofNat seconds)) delay)).length ≤ 20 :=
    length_nullable (by decide) fun seconds _ => length_u64_le _
  have same : (PublicError.new code).code = code := by cases code <;> rfl
  simp only [PublicError.serialize, length_object, List.map_cons, List.map_nil, List.sum_cons,
    List.sum_nil, List.length_cons, List.length_nil, memberLength, names, same]
  omega

/-- What is told of the cache is short. -/
theorem length_cache_le {cache : Cache}
    (short : ∀ instant, cache.expiresAt = some instant →
      (serializer.timestamp instant).utf8ByteSize ≤ 40) :
    (text serializer.float (cache.serialize serializer)).length ≤ 269 := by
  have names : (quoted "hit").length = 5 ∧ (quoted "expires_at").length = 12 := by
    and_intros <;> exact (length_quoted_ofList _).trans (by decide)
  have hit := @length_bool_le serializer.float cache.hit
  have expires : (text serializer.float
      (nullable serializer.dateTime cache.expiresAt)).length ≤ 242 :=
    length_nullable (by decide) fun instant there => length_dateTime_le (short instant there)
  simp only [Cache.serialize, length_object, List.map_cons, List.map_nil, List.sum_cons,
    List.sum_nil, List.length_cons, List.length_nil, memberLength, names]
  omega

/-- A status is short. -/
theorem length_status_le (status : Status) : (quoted status.asStr).length ≤ 14 := by
  cases status <;> exact (length_quoted_ofList _).trans_le (by decide)

/-- The name of a provider is short. -/
theorem length_provider_le (provider : ProviderId) : (quoted provider.asStr).length ≤ 12 := by
  cases provider <;> exact (length_quoted_ofList _).trans_le (by decide)

/-- The reason for leaving raw data out is short. -/
theorem length_reason_le {includeRaw : Bool} {slot : Slot} {reason : String}
    (given : omittedReason includeRaw slot = some reason) : (quoted reason).length ≤ 21 := by
  unfold omittedReason at given
  split at given
  · cases given
  split at given
  · cases given
  split at given
  · cases given
    exact (length_quoted_ofList _).trans_le (by decide)
  · cases given
    exact (length_quoted_ofList _).trans_le (by decide)

/-- An entry takes its summary and a few hundred bytes. -/
theorem length_measuredEntry_le {includeRaw : Bool} {provider : ProviderId} {slot : Slot}
    (bounds : ResultBounds serializer slot.1) :
    rawLength serializer ((measuredEntry includeRaw provider slot).serialize serializer) ≤
      17500 := by
  have names : (quoted "provider").length = 10 ∧ (quoted "status").length = 8 ∧
      (quoted "summary").length = 9 ∧ (quoted "fetched_at").length = 12 ∧
      (quoted "provider_updated_at").length = 21 ∧ (quoted "cache").length = 7 ∧
      (quoted "error").length = 7 ∧ (quoted "raw_omitted_reason").length = 20 := by
    and_intros <;> exact (length_quoted_ofList _).trans (by decide)
  have provider_ : (text serializer.float provider.serialize).length ≤ 12 :=
    length_provider_le provider
  have status : (text serializer.float slot.1.outcome.status.serialize).length ≤ 14 :=
    length_status_le _
  have summary : (text serializer.float
      (nullable serializer.summary slot.1.outcome.summary)).length ≤ 16384 :=
    length_nullable (by decide) bounds.summary
  have fetchedAt : (text serializer.float
      (nullable serializer.dateTime slot.1.outcome.fetchedAt)).length ≤ 242 :=
    length_nullable (by decide) fun instant there =>
      length_dateTime_le (bounds.fetchedAt instant there)
  have providerUpdatedAt : (text serializer.float
      (nullable serializer.dateTime slot.1.outcome.providerUpdatedAt)).length ≤ 242 :=
    length_nullable (by decide) fun instant there =>
      length_dateTime_le (bounds.providerUpdatedAt instant there)
  have cache : (text serializer.float (Cache.serialize serializer
      { hit := slot.1.cacheHit, expiresAt := slot.1.expiresAt })).length ≤ 269 :=
    length_cache_le bounds.expiresAt
  have error : (text serializer.float
      (nullable PublicError.serialize slot.1.outcome.error)).length ≤ 190 :=
    length_nullable (by decide) (by
      intro error there
      obtain ⟨code, delay, rfl⟩ := bounds.error error there
      exact length_error_le)
  have reason : ∀ reason, omittedReason includeRaw slot = some reason →
      (text serializer.float (.string reason)).length ≤ 21 := fun _ => length_reason_le
  simp only [rawLength, Serializer.toVec, ProviderEntry.serialize, ProviderEntry.required,
    measuredEntry, providerEntry, length_object, List.map_append, List.map_cons, List.map_nil,
    List.sum_append, List.sum_cons, List.sum_nil, List.length_append, List.length_cons,
    List.length_nil, memberLength, names]
  cases omitted : omittedReason includeRaw slot with
  | none =>
      simp only [skippable, List.map_nil, List.sum_nil, List.length_nil]
      omega
  | some text =>
      have said := reason text omitted
      simp only [skippable, List.map_nil, List.map_cons, List.sum_cons, List.sum_nil,
        List.length_nil, List.length_cons, memberLength, names]
      omega

end Entries

/-! ### Results -/

section Results

variable {serializer : Serializer}

/-- An accepted input is short. -/
theorem length_input_le {indicator : ValidatedIndicator} (accepted : indicator.Accepted) :
    (text serializer.float indicator.input.serialize).length ≤ 8218 := by
  have names : (quoted "type").length = 6 ∧ (quoted "value").length = 7 := by
    and_intros <;> exact (length_quoted_ofList _).trans (by decide)
  have kind : (text serializer.float indicator.input.kind.serialize).length ≤ 6 := by
    rw [IndicatorKind.serialize, text]
    cases indicator.input.kind <;> decide
  have value : (text serializer.float (.string indicator.input.value)).length ≤
      2 + 2 * indicator.input.value.utf8ByteSize := by
    rw [text]
    exact length_quoted_printable accepted.printable
  have short := accepted.length
  simp only [InputIndicator.serialize, length_object, List.map_cons, List.map_nil, List.sum_cons,
    List.sum_nil, List.length_cons, List.length_nil, memberLength, names]
  omega

/-- The value looked up is the submitted one, an address or a hash. -/
theorem length_lookupValue_le {indicator : ValidatedIndicator} (accepted : indicator.Accepted) :
    (text serializer.float (.string indicator.lookupValue)).length ≤ 8194 := by
  rw [text]
  rcases accepted.lookupValue with same | ⟨address, canonical⟩ | ⟨small, lowered⟩
  · have value := length_quoted_printable accepted.printable
    have short := accepted.length
    rw [same]
    omega
  · have value := length_quoted_le address.toString
    have short := address.length_toString
    rw [canonical]
    omega
  · have value := length_quoted_le indicator.lookupValue
    have chars := length_toList_le indicator.input.value
    rw [lowered, toAsciiLowercase, List.length_map] at value
    omega

/-- An item is short. -/
theorem length_item_le {item : ResultItem} {indicator : ValidatedIndicator}
    (accepted : indicator.Accepted) (input : item.input = indicator.input)
    (lookupValue : item.lookupValue = indicator.lookupValue) (few : item.providers.length ≤ 2)
    (entries : ∀ entry ∈ item.providers,
      rawLength serializer (entry.serialize serializer) ≤ 17500) :
    rawLength serializer (item.serialize serializer) ≤ 51500 := by
  have names : (quoted "index").length = 7 ∧ (quoted "input").length = 7 ∧
      (quoted "lookup_value").length = 14 ∧ (quoted "providers").length = 11 := by
    and_intros <;> exact (length_quoted_ofList _).trans (by decide)
  have index := @length_u64_le serializer.float (.ofNat item.index)
  have input_ := @length_input_le serializer _ accepted
  have lookup := @length_lookupValue_le serializer _ accepted
  have sum : (item.providers.map fun entry =>
      (text serializer.float (entry.serialize serializer)).length).sum ≤
        item.providers.length * 17500 := sum_le entries
  simp only [rawLength, Serializer.toVec, ResultItem.serialize, length_object, List.map_cons,
    List.map_nil, List.sum_cons, List.sum_nil, memberLength, length_array, List.map_map,
    List.length_map, Function.comp_def, List.length_cons, List.length_nil, names, input,
    lookupValue]
  omega

/-- A result is the one of an indicator, with entries of slots. -/
theorem mem_items {entry : ProviderId → Slot → ProviderEntry} {providers : List ProviderId}
    {index : Nat} {indicators : List ValidatedIndicator} {slots : List Slot} {item : ResultItem}
    (member : item ∈ items entry providers index indicators slots) :
    ∃ indicator ∈ indicators, item.input = indicator.input ∧
      item.lookupValue = indicator.lookupValue ∧ item.providers.length ≤ providers.length ∧
      ∀ made ∈ item.providers, ∃ provider, ∃ slot ∈ slots, made = entry provider slot := by
  induction indicators generalizing index slots with
  | nil => cases member
  | cons indicator indicators ih =>
      rw [items] at member
      rcases List.mem_cons.mp member with rfl | later
      · refine ⟨indicator, List.mem_cons_self, rfl, rfl, ?_, ?_⟩
        · rw [List.length_zipWith]
          exact min_le_left _ _
        · intro made inside
          rw [← List.map_uncurry_zip_eq_zipWith] at inside
          obtain ⟨⟨provider, slot⟩, paired, rfl⟩ := List.mem_map.mp inside
          exact ⟨provider, slot, List.mem_of_mem_take (List.of_mem_zip paired).2, rfl⟩
      · obtain ⟨found, inside, input, lookupValue, few, all⟩ := ih later
        refine ⟨found, List.mem_cons_of_mem _ inside, input, lookupValue, few, ?_⟩
        intro made here
        obtain ⟨provider, slot, there, same⟩ := all made here
        exact ⟨provider, slot, List.mem_of_mem_drop there, same⟩

/-- An envelope without raw data is short. -/
theorem length_envelope_le {id : String} {results : List ResultItem} (uuid : id.toList.length ≤ 36)
    (few : results.length ≤ 20)
    (each : ∀ item ∈ results, rawLength serializer (item.serialize serializer) ≤ 51500) :
    rawLength serializer (Envelope.serialize serializer { requestId := id, results }) ≤
      1048000 := by
  have names : (quoted "request_id").length = 12 ∧ (quoted "results").length = 9 := by
    and_intros <;> exact (length_quoted_ofList _).trans (by decide)
  have requestId := @length_string_le serializer.float id
  have sum : (results.map fun item =>
      (text serializer.float (item.serialize serializer)).length).sum ≤
        results.length * 51500 := sum_le each
  simp only [rawLength, Serializer.toVec, Envelope.serialize, length_object, List.map_cons,
    List.map_nil, List.sum_cons, List.sum_nil, memberLength, length_array, List.map_map,
    List.length_map, Function.comp_def, List.length_cons, List.length_nil, names]
  omega

end Results

/-! ### Accepted requests -/

section Requests

variable {read : List UInt8 → Option Value} {parser : UrlParser} {body : List UInt8}
  {maxBatch : Nat} {enabled : List ProviderId} {request : ValidatedRequest}

/-- There are two providers. -/
theorem length_providers_le {providers : List ProviderId} (distinct : providers.Nodup) :
    providers.length ≤ 2 := by
  have within : providers ⊆ [.abuseipdb, .virustotal] := by
    intro provider _
    cases provider <;> decide
  exact (List.subperm_of_subset distinct within).length_le

/-- A request that validation accepts has at most `max_batch` indicators, each
accepted by itself, and no provider twice. -/
theorem validateRequest_bounds
    (valid : validateRequest read parser body maxBatch enabled = .ok request) :
    request.indicators.length ≤ maxBatch ∧ (∀ indicator ∈ request.indicators, indicator.Accepted) ∧
      request.providers.length ≤ 2 := by
  obtain ⟨document, parsed⟩ : ∃ document, read body = some document := by
    cases parsed : read body with
    | some document => exact ⟨document, rfl⟩
    | none =>
        rw [validateRequest, parsed] at valid
        cases valid
  have distinct : ¬ document.RepeatsKey := by
    intro repeats
    rw [validateRequest_repeated parsed repeats] at valid
    cases valid
  obtain ⟨members, _, denotes⟩ := (validateRequest_distinct parsed distinct).mp valid
  obtain ⟨items, _, _, short, all⟩ := denotes.indicators
  refine ⟨all.length_eq ▸ short, ?_, ?_⟩
  · intro indicator member
    obtain ⟨slot, bound, rfl⟩ := List.getElem_of_mem member
    obtain ⟨_, _, _, _, _, _, _, _, _, valid⟩ :=
      all.get (all.length_eq.symm ▸ bound) bound
    exact (validateIndicator_ok valid).2
  · rcases denotes.providers with ⟨ids, _, _, unique, same⟩ | ⟨_, same⟩
    · exact same ▸ length_providers_le unique
    · rw [same]
      exact length_providers_le ((defaultProviders_pairwise enabled).imp ne_of_lt)

end Requests

/-- **Default envelopes always fit.** For a request accepted with at most twenty
indicators and results within their bounds, the projection produces a response,
whatever the raw values, the budget for them and what the inputs contain. -/
theorem project_fits {serializer : Serializer} {read : List UInt8 → Option Value}
    {parser : UrlParser} {body : List UInt8} {maxBatch : Nat} {enabled : List ProviderId}
    {request : ValidatedRequest} {id : String} {outcomes : List LookupResult}
    {rawBudget : RawBudget}
    (valid : validateRequest read parser body maxBatch enabled = .ok request)
    (batch : maxBatch ≤ 20) (uuid : id.toList.length = 36)
    (filled : outcomes.length = request.indicators.length * request.providers.length)
    (bounds : ∀ result ∈ outcomes, ResultBounds serializer result) :
    ∃ bytes, project serializer id request outcomes rawBudget = .ok bytes := by
  obtain ⟨many, accepted, few⟩ := validateRequest_bounds valid
  cases measures : measured serializer id request outcomes rawBudget.bytes with
  | error code =>
      obtain ⟨_, _, result, member, value, present, large⟩ := measured_error filled measures
      exact absurd ((bounds result member).raw value present) (not_le.mpr large)
  | ok both =>
      obtain ⟨envelope, pass⟩ := both
      have account := accounts filled measures
      have total : outcomes.length ≤ 40 := by
        rw [filled]
        exact Nat.mul_le_mul (many.trans batch) few
      have reserved : included (entries (envelope.fill pass.rawValues).results) ≤ 40 :=
        List.countP_le_length.trans (account.perSlot.le.trans total)
      have length : (serializer.toVec (envelope.serialize serializer)).length ≤ 1048000 := by
        obtain ⟨rfl, _⟩ := measured_ok filled measures
        refine length_envelope_le uuid.le ?_ ?_
        · rw [length_items]
          exact many.trans batch
        · intro item member
          obtain ⟨indicator, inside, input, lookupValue, slots_, made⟩ := mem_items member
          apply length_item_le (accepted indicator inside) input lookupValue (slots_.trans few)
          intro entry here
          obtain ⟨provider, slot, there, rfl⟩ := made entry here
          exact length_measuredEntry_le (bounds slot.1 (List.of_mem_zip there).1)
      have limit : envelopeLimit = 1048576 := rfl
      rw [project_of_measured filled measures, if_pos (by omega)]
      exact ⟨_, rfl⟩

/-- A report without evidence, and what a provider without quota leaves. -/
def addressResults : List LookupResult := [
  .uncached {
    Outcome.empty .ok with
    summary := some (.abuseipdb ⟨some 0, none, none, some .epoch, none, none, none, none, none,
      none, none⟩)
    fetchedAt := some .epoch
    providerUpdatedAt := some .epoch
    raw := some smallReport },
  .uncached {
    Outcome.empty .rateLimited with
    error := some { PublicError.new .quotaExhausted with retryAfterSeconds := some 3600 } }]

set_option maxRecDepth 8000 in
/-- The outcomes of the address are within bounds. -/
theorem addressResults_bounds : ∀ result ∈ addressResults, ResultBounds epochSerializer result := by
  intro result member
  simp only [addressResults, List.mem_cons, List.not_mem_nil, or_false] at member
  rcases member with rfl | rfl
  · constructor
    · rintro _ ⟨⟩
      decide
    · rintro _ ⟨⟩
    · rintro _ ⟨⟩
      decide
    · rintro _ ⟨⟩
      decide
    · rintro _ ⟨⟩
    · rintro _ ⟨⟩
      decide
  · constructor
    · rintro _ ⟨⟩
    · rintro _ ⟨⟩
      exact ⟨.quotaExhausted, some 3600, rfl⟩
    · rintro _ ⟨⟩
    · rintro _ ⟨⟩
    · rintro _ ⟨⟩
    · rintro _ ⟨⟩

/-- Two reports on an address fit with the raw data of one. -/
theorem project_fits_address :
    ∃ bytes, project epochSerializer "00000000-0000-4000-8000-000000000000" addressRequest
      addressResults oneReport = .ok bytes :=
  project_fits addressRequest_valid le_rfl (by decide) rfl addressResults_bounds

end RustEnrich.Http
