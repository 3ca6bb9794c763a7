import RustEnrich.Serialization.Payload
import RustEnrich.Serialization.UniqueText

/-!
# Nesting

`serde_json` reads an object member by member and counts the arrays and objects
a value lies in, up to 127 of them. An outcome is printed as an object around its
raw value, so that its payload is read exactly where the raw value is read by
itself and leaves room for one level more.
-/

namespace RustEnrich

open Serialization

namespace Value

mutual

/-- The arrays and objects that lie in one another, at the deepest place. -/
def levels : Value → Nat
  | .null => 0
  | .bool _ => 0
  | .number _ => 0
  | .string _ => 0
  | .array values => valuesLevels values + 1
  | .object members => membersLevels members + 1

/-- The levels of the deepest element. -/
def valuesLevels : List Value → Nat
  | [] => 0
  | value :: rest => max (levels value) (valuesLevels rest)

/-- The levels of the deepest member. -/
def membersLevels : List (String × Value) → Nat
  | [] => 0
  | (_, value) :: rest => max (levels value) (membersLevels rest)

end

/-- A bound on the levels of an object is one on each of its members. -/
theorem membersLevels_le {members : List (String × Value)} {bound : Nat} :
    membersLevels members ≤ bound ↔ ∀ member ∈ members, member.2.levels ≤ bound := by
  induction members with
  | nil => exact iff_of_true (Nat.zero_le _) (List.forall_mem_nil _)
  | cons member rest ih =>
      rw [membersLevels, max_le_iff, ih, List.forall_mem_cons]

end Value

namespace Serialization

/-- The recursion limit of `serde_json` is 128, and is reached by the level after
these. -/
def maxLevels : Nat := 127

/-- The members of an object, each as its own text is read. -/
def readMembers (read : Value → Option Value) :
    List (String × Value) → Option (List (String × Value))
  | [] => some []
  | (key, value) :: rest =>
      (read value).bind fun value =>
        (readMembers read rest).map fun members => (key, value) :: members

/-- How `serde_json` reads what it has printed: a scalar as it was, and an object
member by member, within its levels. Of a float nothing is said: it may be read
as one nearby, or not at all. -/
structure ReadsPrinted (serializer : Serializer) (deserializer : Deserializer) : Prop where
  null : deserializer.document (serializer.toVec .null) = some .null
  bool : ∀ value, deserializer.document (serializer.toVec (.bool value)) = some (.bool value)
  string : ∀ value, deserializer.document (serializer.toVec (.string value)) = some (.string value)
  posInt : ∀ value, deserializer.document (serializer.toVec (.number (.posInt value))) =
    some (.number (.posInt value))
  negInt : ∀ value, value < 0 →
    deserializer.document (serializer.toVec (.number (.negInt value))) =
      some (.number (.negInt value))
  object : ∀ members, deserializer.document (serializer.toVec (.object members)) =
    if (Value.object members).levels ≤ maxLevels then
      (readMembers (fun value => deserializer.document (serializer.toVec value)) members).map
        .object
    else none

end Serialization

/-- The levels of the raw value. -/
def Outcome.rawLevels (outcome : Outcome) : Nat := (outcome.raw.getD .null).levels

/-- The raw value is read back from a text of its own. -/
def Outcome.RawRoundTrips (serializer : Serializer) (deserializer : Deserializer)
    (outcome : Outcome) : Prop :=
  ∀ value, outcome.raw = some value → deserializer.document (serializer.toVec value) = some value

section Reading

variable {serializer : Serializer} {deserializer : Deserializer}

/-- Members that are read as themselves, in front of others. -/
theorem readMembers_append {read : Value → Option Value} {fields last : List (String × Value)}
    (fixed : ∀ field ∈ fields, read field.2 = some field.2) :
    readMembers read (fields ++ last) =
      (readMembers read last).map fun members => fields ++ members := by
  induction fields with
  | nil => exact Option.map_id'.symm
  | cons field fields ih =>
      obtain ⟨here, later⟩ := List.forall_mem_cons.mp fixed
      rw [List.cons_append, readMembers, here, Option.bind_some, ih later, Option.map_map]
      rfl

/-- One member is read under its name. -/
theorem readMembers_singleton (read : Value → Option Value) (key : String) (value : Value) :
    readMembers read [(key, value)] = (read value).map fun value => [(key, value)] :=
  Option.map_eq_bind.symm

/-- A document of so many levels that is read back as it was printed. -/
structure ReadWithin (serializer : Serializer) (deserializer : Deserializer) (bound : Nat)
    (document : Value) : Prop where
  read : deserializer.document (serializer.toVec document) = some document
  within : document.levels ≤ bound

namespace ReadWithin

variable {α : Type} {bound more : Nat}

/-- What is read within some levels is so within more. -/
theorem mono {document : Value} (fixed : ReadWithin serializer deserializer bound document)
    (room : bound ≤ more) : ReadWithin serializer deserializer more document where
  read := fixed.read
  within := fixed.within.trans room

/-- Null is read. -/
theorem null (reads : ReadsPrinted serializer deserializer) :
    ReadWithin serializer deserializer bound .null where
  read := reads.null
  within := Nat.zero_le _

/-- A flag is read. -/
theorem bool (reads : ReadsPrinted serializer deserializer) (value : Bool) :
    ReadWithin serializer deserializer bound (.bool value) where
  read := reads.bool value
  within := Nat.zero_le _

/-- A text is read. -/
theorem string (reads : ReadsPrinted serializer deserializer) (value : String) :
    ReadWithin serializer deserializer bound (.string value) where
  read := reads.string value
  within := Nat.zero_le _

/-- An unsigned number is read. -/
theorem serializeU64 (reads : ReadsPrinted serializer deserializer) (value : UInt64) :
    ReadWithin serializer deserializer bound (serializeU64 value) where
  read := reads.posInt value
  within := Nat.zero_le _

/-- A signed number is read. -/
theorem serializeI64 (reads : ReadsPrinted serializer deserializer) (value : Int64) :
    ReadWithin serializer deserializer bound (serializeI64 value) := by
  unfold RustEnrich.serializeI64
  split
  · rename_i below
    exact ⟨reads.negInt value below, Nat.zero_le _⟩
  · exact ⟨reads.posInt _, Nat.zero_le _⟩

/-- What may be null is read where what it is otherwise is. -/
theorem nullable (reads : ReadsPrinted serializer deserializer) {serialize : α → Value}
    (fixed : ∀ value, ReadWithin serializer deserializer bound (serialize value)) :
    ∀ value, ReadWithin serializer deserializer bound (nullable serialize value)
  | none => null reads
  | some value => fixed value

/-- An object is one level more than its members. -/
theorem object (reads : ReadsPrinted serializer deserializer) {members : List (String × Value)}
    (fixed : ∀ member ∈ members, ReadWithin serializer deserializer bound member.2)
    (room : bound < maxLevels) :
    ReadWithin serializer deserializer (bound + 1) (.object members) := by
  have within : (Value.object members).levels ≤ bound + 1 :=
    Nat.succ_le_succ (Value.membersLevels_le.mpr fun member inside => (fixed member inside).within)
  refine ⟨?_, within⟩
  rw [reads.object, if_pos (within.trans room)]
  have whole := @readMembers_append
    (fun value => deserializer.document (serializer.toVec value)) members [] fun member inside =>
      (fixed member inside).read
  rw [List.append_nil] at whole
  rw [whole]
  simp only [readMembers, Option.map_some, List.append_nil]

/-- A time is read. -/
theorem dateTime (reads : ReadsPrinted serializer deserializer) (instant : DateTime) :
    ReadWithin serializer deserializer bound (serializer.dateTime instant) :=
  string reads _

/-- An error is read within one level. -/
theorem publicError (reads : ReadsPrinted serializer deserializer) (error : PublicError) :
    ReadWithin serializer deserializer 1 error.serialize := by
  refine @object serializer deserializer 0 reads _ ?_ (by decide)
  simp only [List.forall_mem_cons]
  exact ⟨string reads _, string reads _, bool reads _,
    nullable reads (fun _ => serializeU64 reads _) _, List.forall_mem_nil _⟩

/-- The evidence of AbuseIPDB is read within one level. -/
theorem abuseipdbSummary (reads : ReadsPrinted serializer deserializer)
    (summary : AbuseipdbSummary) :
    ReadWithin serializer deserializer 1 (serializer.abuseipdbSummary summary) := by
  have counts := @nullable serializer deserializer _ 0 reads _ (serializeU64 reads)
  have texts := @nullable serializer deserializer _ 0 reads _ (string reads)
  have flags := @nullable serializer deserializer _ 0 reads _ (bool reads)
  refine @object serializer deserializer 0 reads _ ?_ (by decide)
  simp only [List.forall_mem_cons]
  exact ⟨counts _, counts _, counts _, nullable reads (dateTime reads) _, texts _, texts _,
    texts _, texts _, flags _, flags _, flags _, List.forall_mem_nil _⟩

/-- The counts of VirusTotal are read within one level. -/
theorem analysisStats (reads : ReadsPrinted serializer deserializer) (stats : AnalysisStats) :
    ReadWithin serializer deserializer 1 (Serializer.analysisStats stats) := by
  have counts := @nullable serializer deserializer _ 0 reads _ (serializeU64 reads)
  refine @object serializer deserializer 0 reads _ ?_ (by decide)
  simp only [List.forall_mem_cons]
  exact ⟨counts _, counts _, counts _, counts _, counts _, counts _, counts _, counts _,
    List.forall_mem_nil _⟩

/-- The evidence of VirusTotal is read within two levels. -/
theorem virustotalSummary (reads : ReadsPrinted serializer deserializer)
    (summary : VirustotalSummary) :
    ReadWithin serializer deserializer 2 (serializer.virustotalSummary summary) := by
  have counts := @nullable serializer deserializer _ 1 reads _ (serializeU64 reads)
  have texts := @nullable serializer deserializer _ 1 reads _ (string reads)
  refine @object serializer deserializer 1 reads _ ?_ (by decide)
  simp only [List.forall_mem_cons]
  exact ⟨nullable reads (analysisStats reads) _, nullable reads (serializeI64 reads) _,
    nullable reads (dateTime reads) _, texts _, counts _, texts _, texts _, texts _, texts _,
    texts _, List.forall_mem_nil _⟩

/-- A summary has at most two levels. -/
theorem summary (reads : ReadsPrinted serializer deserializer) (summary : Summary) :
    ReadWithin serializer deserializer 2 (serializer.summary summary) := by
  cases summary with
  | abuseipdb summary => exact (abuseipdbSummary reads summary).mono (by decide)
  | virustotal summary => exact virustotalSummary reads summary

end ReadWithin

/-- The fields of an outcome in front of its raw value. -/
def Serialization.Serializer.besideRaw (serializer : Serializer) (outcome : Outcome) :
    List (String × Value) := [
  ("status", outcome.status.serialize),
  ("summary", nullable serializer.summary outcome.summary),
  ("fetched_at", nullable serializer.dateTime outcome.fetchedAt),
  ("provider_updated_at", nullable serializer.dateTime outcome.providerUpdatedAt),
  ("error", nullable PublicError.serialize outcome.error)]

/-- An outcome is its raw document and what is beside it. -/
theorem Serialization.Serializer.outcome_eq (outcome : Outcome) :
    serializer.outcome outcome =
      .object (serializer.besideRaw outcome ++ [("raw", outcome.raw.getD .null)]) :=
  rfl

/-- **The payload of an outcome is read around its raw value**: within the levels
where the raw value leaves one, and then with the raw value as its own text is
read. -/
theorem Serialization.ReadsPrinted.outcome (reads : ReadsPrinted serializer deserializer)
    (outcome : Outcome) :
    deserializer.document (serializer.toVec (serializer.outcome outcome)) =
      if outcome.rawLevels < maxLevels then
        (deserializer.document (serializer.toVec (outcome.raw.getD .null))).map fun raw =>
          serializer.outcome { outcome with raw := some raw }
      else none := by
  have fixed : ∀ field ∈ serializer.besideRaw outcome,
      ReadWithin serializer deserializer 2 field.2 := by
    simp only [Serializer.besideRaw, List.forall_mem_cons]
    exact ⟨.string reads _, .nullable reads (.summary reads) _, .nullable reads (.dateTime reads) _,
      .nullable reads (.dateTime reads) _,
      .nullable reads (fun error => (ReadWithin.publicError reads error).mono (by decide)) _,
      List.forall_mem_nil _⟩
  have room : (serializer.outcome outcome).levels ≤ maxLevels ↔ outcome.rawLevels < maxLevels := by
    have inner : (serializer.outcome outcome).levels ≤ maxLevels ↔
        Value.membersLevels (serializer.besideRaw outcome ++ [("raw", outcome.raw.getD .null)]) ≤
          126 := Nat.succ_le_succ_iff
    rw [inner, Value.membersLevels_le, List.forall_mem_append, List.forall_mem_singleton]
    refine (and_iff_right ?_).trans Nat.lt_succ_iff.symm
    intro field inside
    exact (fixed field inside).within.trans (by decide)
  have members := @readMembers_append
    (fun value => deserializer.document (serializer.toVec value)) _
    [("raw", outcome.raw.getD .null)] fun field inside => (fixed field inside).read
  rw [Serializer.outcome_eq, reads.object, members, ← Serializer.outcome_eq]
  refine if_congr room ?_ rfl
  rw [readMembers_singleton, Option.map_map, Option.map_map]
  rfl

/-- The text of a raw value that round-trips, or of its absence, is read. -/
theorem Outcome.RawRoundTrips.document {outcome : Outcome}
    (trips : outcome.RawRoundTrips serializer deserializer)
    (reads : ReadsPrinted serializer deserializer) :
    deserializer.document (serializer.toVec (outcome.raw.getD .null)) =
      some (outcome.raw.getD .null) := by
  cases there : outcome.raw with
  | none => exact reads.null
  | some value => exact trips value there

end Reading

end RustEnrich
