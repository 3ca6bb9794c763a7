import RustEnrich.Serialization.Payload
import Mathlib.Data.List.Forall2

/-!
# Documents up to floats

`serde_json` reads a float near the one that was printed, and everything else as
it was. Of an outcome only the raw value has floats, so that whatever its
payload is read as differs from it there at most.
-/

namespace RustEnrich

open Serialization

namespace Value

/-- The same document, but for the floats in it. -/
inductive Alike : Value → Value → Prop
  | null : Alike .null .null
  | bool (value : Bool) : Alike (.bool value) (.bool value)
  | number (value : Number) : Alike (.number value) (.number value)
  | float (bits other : UInt64) : Alike (.number (.float bits)) (.number (.float other))
  | string (value : String) : Alike (.string value) (.string value)
  | array {values others : List Value} (elements : List.Forall₂ Alike values others) :
      Alike (.array values) (.array others)
  | object {members others : List (String × Value)} (named : keys members = keys others)
      (fields : List.Forall₂ Alike (members.map Prod.snd) (others.map Prod.snd)) :
      Alike (.object members) (.object others)

/-- Every document is like itself. -/
theorem Alike.refl (value : Value) : Alike value value := by
  induction value using Value.induction with
  | null => exact .null
  | bool value => exact .bool value
  | string value => exact .string value
  | number number => exact .number number
  | array values ih => exact .array (List.forall₂_same.mpr ih)
  | object members ih =>
      refine .object rfl (List.forall₂_same.mpr fun field inside => ?_)
      obtain ⟨member, there, rfl⟩ := List.mem_map.mp inside
      exact ih member there

/-- Without floats, and so only like itself. -/
def Exact (document : Value) : Prop := ∀ other, Alike other document → other = document

namespace Exact

variable {α : Type}

/-- Null is read as it is. -/
theorem null : Exact .null := by
  intro other alike
  cases alike
  rfl

/-- A flag is read as it is. -/
theorem bool (value : Bool) : Exact (.bool value) := by
  intro other alike
  cases alike
  rfl

/-- A text is read as it is. -/
theorem string (value : String) : Exact (.string value) := by
  intro other alike
  cases alike
  rfl

/-- An integer is read as it is. -/
theorem integer {number : Number} (notFloat : ∀ bits, number ≠ .float bits) :
    Exact (.number number) := by
  intro other alike
  cases alike with
  | number => rfl
  | float bits other => exact absurd rfl (notFloat other)

/-- An unsigned number is read as it is. -/
theorem serializeU64 (value : UInt64) : Exact (serializeU64 value) := .integer nofun

/-- A signed number is read as it is. -/
theorem serializeI64 (value : Int64) : Exact (serializeI64 value) := by
  unfold RustEnrich.serializeI64
  split
  · exact .integer nofun
  · exact .integer nofun

/-- What may be null is read as it is where what it is otherwise is. -/
theorem nullable {serialize : α → Value} (exact_ : ∀ value, Exact (serialize value)) :
    ∀ value, Exact (nullable serialize value)
  | none => null
  | some value => exact_ value

/-- Exact members are found again in front of those that are only alike. -/
theorem members {fields last members : List (String × Value)}
    (exact_ : ∀ field ∈ fields, Exact field.2) (named : keys members = keys (fields ++ last))
    (inside : List.Forall₂ Alike (members.map Prod.snd) ((fields ++ last).map Prod.snd)) :
    ∃ rest, members = fields ++ rest ∧ keys rest = keys last ∧
      List.Forall₂ Alike (rest.map Prod.snd) (last.map Prod.snd) := by
  induction fields generalizing members with
  | nil => exact ⟨members, rfl, named, inside⟩
  | cons field fields ih =>
      cases members with
      | nil => cases inside
      | cons member members =>
          rw [List.forall_mem_cons] at exact_
          obtain ⟨key, named⟩ := List.cons_eq_cons.mp named
          obtain ⟨alike, inside⟩ := List.forall₂_cons.mp inside
          obtain ⟨rest, rfl, found⟩ := ih exact_.2 named inside
          rw [Prod.ext key (exact_.1 _ alike)]
          exact ⟨rest, rfl, found⟩

/-- An object is read as it is where its members are. -/
theorem object {fields : List (String × Value)} (exact_ : ∀ field ∈ fields, Exact field.2) :
    Exact (.object fields) := by
  intro other alike
  cases alike with
  | object named inside =>
      rw [← List.append_nil fields] at named inside
      obtain ⟨rest, rfl, unnamed, _⟩ := members exact_ named inside
      rw [List.map_eq_nil_iff.mp unnamed, List.append_nil]

end Exact

/-- Only null is like null. -/
theorem Alike.eq_null_iff {value other : Value} (alike : Alike value other) :
    value = .null ↔ other = .null := by
  cases alike <;> simp

end Value

open Value

variable {serializer : Serializer} {deserializer : Deserializer}

/-- An error is read as it is. -/
theorem PublicError.serialize_exact (error : PublicError) : Exact error.serialize := by
  apply Exact.object
  simp only [List.forall_mem_cons]
  exact ⟨.string _, .string _, .bool _, .nullable (fun _ => .serializeU64 _) _, nofun⟩

namespace Serialization.Serializer

/-- A time is read as it is. -/
theorem dateTime_exact (instant : DateTime) : Exact (serializer.dateTime instant) := .string _

/-- The evidence of AbuseIPDB is read as it is. -/
theorem abuseipdbSummary_exact (summary : AbuseipdbSummary) :
    Exact (serializer.abuseipdbSummary summary) := by
  apply Exact.object
  simp only [List.forall_mem_cons]
  exact ⟨.nullable .serializeU64 _, .nullable .serializeU64 _, .nullable .serializeU64 _,
    .nullable dateTime_exact _, .nullable .string _, .nullable .string _, .nullable .string _,
    .nullable .string _, .nullable .bool _, .nullable .bool _, .nullable .bool _, nofun⟩

/-- The counts of VirusTotal are read as they are. -/
theorem analysisStats_exact (stats : AnalysisStats) : Exact (analysisStats stats) := by
  apply Exact.object
  simp only [List.forall_mem_cons]
  exact ⟨.nullable .serializeU64 _, .nullable .serializeU64 _, .nullable .serializeU64 _,
    .nullable .serializeU64 _, .nullable .serializeU64 _, .nullable .serializeU64 _,
    .nullable .serializeU64 _, .nullable .serializeU64 _, nofun⟩

/-- The evidence of VirusTotal is read as it is. -/
theorem virustotalSummary_exact (summary : VirustotalSummary) :
    Exact (serializer.virustotalSummary summary) := by
  apply Exact.object
  simp only [List.forall_mem_cons]
  exact ⟨.nullable analysisStats_exact _, .nullable .serializeI64 _, .nullable dateTime_exact _,
    .nullable .string _, .nullable .serializeU64 _, .nullable .string _, .nullable .string _,
    .nullable .string _, .nullable .string _, .nullable .string _, nofun⟩

/-- The evidence of either is read as it is. -/
theorem summary_exact (summary : Summary) : Exact (serializer.summary summary) := by
  cases summary with
  | abuseipdb summary => exact abuseipdbSummary_exact summary
  | virustotal summary => exact virustotalSummary_exact summary

/-- What is like the document of an outcome is the document of one with a raw
value like its own. -/
theorem outcome_alike {outcome : Outcome} {document : Value}
    (alike : Alike document (serializer.outcome outcome)) :
    ∃ raw, Alike raw (outcome.raw.getD .null) ∧
      document = serializer.outcome { outcome with raw := some raw } := by
  have exact_ : ∀ field ∈ [
      ("status", outcome.status.serialize),
      ("summary", nullable serializer.summary outcome.summary),
      ("fetched_at", nullable serializer.dateTime outcome.fetchedAt),
      ("provider_updated_at", nullable serializer.dateTime outcome.providerUpdatedAt),
      ("error", nullable PublicError.serialize outcome.error)], Exact field.2 := by
    simp only [List.forall_mem_cons]
    exact ⟨.string _, .nullable summary_exact _, .nullable dateTime_exact _,
      .nullable dateTime_exact _, .nullable PublicError.serialize_exact _, nofun⟩
  cases alike with
  | object named inside =>
      obtain ⟨rest, rfl, last, alike⟩ := Exact.members exact_ named inside
      obtain ⟨⟨key, raw⟩, rfl, rfl⟩ := List.map_eq_singleton_iff.mp last
      exact ⟨raw, (List.forall₂_cons.mp alike).1, rfl⟩

end Serialization.Serializer

/-- The payload of an outcome is read, if at all, as its document up to floats.
`serde_json` reads at most 127 levels, and floats not always to the last bit. -/
def ReadsAlike (serializer : Serializer) (deserializer : Deserializer) (outcome : Outcome) :
    Prop :=
  ∀ document, deserializer.document (serializer.toVec (serializer.outcome outcome)) =
    some document → document.Alike (serializer.outcome outcome)

/-- What is decoded of a payload differs at most in the raw value, which is
there if it was. -/
theorem outcome_rereads (timestamps : TimestampsRoundTrip serializer deserializer)
    {outcome decoded : Outcome} (error : outcome.error = none)
    (raw : ∀ value, outcome.raw = some value → value ≠ .null)
    (reads : ReadsAlike serializer deserializer outcome)
    (decodes : (deserializer.document (serializer.toVec (serializer.outcome outcome))).bind
      deserializer.outcome = some decoded) :
    ∃ kept, decoded = { outcome with raw := kept } ∧ (kept = none ↔ outcome.raw = none) ∧
      kept ≠ some .null := by
  obtain ⟨document, read, decodes⟩ := Option.bind_eq_some_iff.mp decodes
  obtain ⟨value, alike, rfl⟩ := Serializer.outcome_alike (reads document read)
  obtain ⟨kept, keeps⟩ := readRaw_isSome value
  have rereads : deserializer.outcome (serializer.outcome { outcome with raw := some value }) =
      some { outcome with raw := kept } := outcome_reads timestamps error keeps
  cases rereads.symm.trans decodes
  refine ⟨kept, rfl, ?_⟩
  have absent : value = .null ↔ outcome.raw = none := by
    rw [alike.eq_null_iff]
    cases there : outcome.raw with
    | none => simp
    | some document => simpa using raw document there
  rw [← absent]
  cases value with
  | null =>
      cases keeps
      simp
  | _ =>
      cases keeps
      simp [Value.deserialize]

end RustEnrich
