import RustEnrich.Attribution

/-!
# Reports as objects

A report is relayed with its raw document, which is to be a JSON object. The
derived readers also take an array of the fields of a struct in their order, so
an accepted report is made of objects exactly where none of its structs was
written as an array.
-/

namespace RustEnrich

open Serialization

/-- An object with its data in an object, and for VirusTotal the attributes of
the data in one too. -/
def ObjectShaped (id : ProviderId) (raw : Value) : Prop :=
  ∃ members data, raw = .object members ∧ members.lookup "data" = some (.object data) ∧
    (id = .virustotal → ∃ attributes, data.lookup "attributes" = some (.object attributes))

/-- One of these is an array. -/
inductive HasArray (id : ProviderId) : Value → Prop
  | report {values : List Value} : HasArray id (.array values)
  | data {members : List (String × Value)} {values : List Value}
      (held : members.lookup "data" = some (.array values)) : HasArray id (.object members)
  | attributes {members data : List (String × Value)} {values : List Value}
      (virustotal : id = .virustotal) (held : members.lookup "data" = some (.object data))
      (described : data.lookup "attributes" = some (.array values)) :
      HasArray id (.object members)

variable {id : ProviderId} {raw : Value}

/-- What is made of objects has no array. -/
theorem ObjectShaped.noArray (shaped : ObjectShaped id raw) : ¬ HasArray id raw := by
  intro array
  obtain ⟨members, data, rfl, held, described⟩ := shaped
  cases array with
  | data other => cases held.symm.trans other
  | attributes virustotal other array =>
      cases held.symm.trans other
      obtain ⟨attributes, object⟩ := described virustotal
      cases object.symm.trans array

/-- A field of an object is its member. -/
theorem Serialization.Struct.lookup {names : List String} {name : String}
    {members : List (String × Value)} {value : Value} (shape : Struct names (.object members))
    (known : name ∈ names) (field : Field names name (.object members) value) :
    members.lookup name = some value := by
  cases shape with
  | object once =>
      cases field with
      | member inside => exact (lookup_eq_some_of_count (once name known)).mpr inside

/-- A report is made of objects unless it has an array. -/
theorem Report.objectShaped {deserializer : Deserializer} {indicator : ValidatedIndicator}
    {summary : Summary} {updated : Option DateTime}
    (report : Report deserializer indicator raw id summary updated) (plain : ¬ HasArray id raw) :
    ObjectShaped id raw := by
  have enveloped : ∀ data, Struct ["data"] raw → Field ["data"] "data" raw data →
      (∀ values, data ≠ .array values) ∧
        ∃ members, raw = .object members ∧ members.lookup "data" = some data := by
    intro data envelope enclosed
    cases envelope with
    | array full => exact absurd .report plain
    | @object members once =>
        have held := (Struct.object once).lookup (List.mem_singleton.mpr rfl) enclosed
        refine ⟨?_, members, rfl, held⟩
        rintro values rfl
        exact plain (.data held)
  cases report with
  | @abuseipdb data _ _ report =>
      obtain ⟨notArray, members, rfl, held⟩ := enveloped data report.envelope report.enclosed
      cases report.shape with
      | array full => exact absurd rfl (notArray _)
      | object once => exact ⟨members, _, rfl, held, nofun⟩
  | @virustotal data attributes _ report =>
      obtain ⟨notArray, members, rfl, held⟩ := enveloped data report.envelope report.enclosed
      have shape := report.shape
      have described := report.described
      cases shape with
      | array full => exact absurd rfl (notArray _)
      | object once =>
          have inner := (Struct.object once).lookup (by decide) described
          refine ⟨members, _, rfl, held, fun _ => ?_⟩
          cases report.form with
          | array full => exact absurd (.attributes rfl held inner) plain
          | object once => exact ⟨_, inner⟩

/-- A body with an acceptable report in it: what it parses to reports on the
indicator, with a summary that is not too long. -/
def Acceptable (serializer : Serializer) (deserializer : Deserializer) (id : ProviderId)
    (indicator : ValidatedIndicator) (body : List UInt8) (document : Value) : Prop :=
  deserializer.document body = some document ∧ ∃ summary updated,
    Report deserializer indicator document.deserialize id summary updated ∧
      (serializer.toVec (serializer.summary summary)).length ≤ 16384

/-- A body whose acceptable report is written with an array for a struct. -/
def ReportsInArray (serializer : Serializer) (deserializer : Deserializer) (id : ProviderId)
    (indicator : ValidatedIndicator) (body : List UInt8) : Prop :=
  ∃ document, Acceptable serializer deserializer id indicator body document ∧
    HasArray id document.deserialize

/-- **Accepted reports are made of objects exactly where none is written as an
array.** -/
theorem objectReports_iff {parser : UrlParser} {serializer : Serializer}
    {deserializer : Deserializer} {status : UInt16} {body : List UInt8} {kind : IndicatorKind}
    {value : String} {indicator : ValidatedIndicator} {now : DateTime}
    (valid : validateIndicator parser kind value = .ok indicator)
    (success : 200 ≤ status ∧ status < 300) :
    (∀ outcome, decode serializer deserializer id status body indicator now = .ok outcome →
        ∃ raw, outcome.raw = some raw ∧ ObjectShaped id raw) ↔
      ¬ ReportsInArray serializer deserializer id indicator body := by
  have looksUp := looksUp_of_valid valid
  have failed : ¬ (status < 200 ∨ 300 ≤ status) := by
    rw [not_or, UInt16.not_lt, UInt16.not_le]
    exact success
  have decodes := fun outcome => @decode_success parser serializer deserializer id status body
    indicator now outcome failed looksUp
  constructor
  · rintro shaped ⟨document, ⟨parsed, summary, updated, report, short⟩, array⟩
    obtain ⟨raw, same, objects⟩ := shaped _ ((decodes _).mpr
      ⟨document, summary, updated, parsed, report, short, rfl⟩)
    cases same
    exact objects.noArray array
  · intro plain outcome decoded
    obtain ⟨document, summary, updated, parsed, report, short, rfl⟩ := (decodes outcome).mp decoded
    refine ⟨_, rfl, report.objectShaped fun array => plain ⟨document, ?_, array⟩⟩
    exact ⟨parsed, summary, updated, report, short⟩

/-- The complaints are written in objects only. -/
theorem complaints_noArray : ¬ HasArray .abuseipdb complaints.deserialize := by
  intro array
  change HasArray .abuseipdb (.object [("data", .object [("ipAddress", .string "8.8.8.8"),
    ("totalReports", .number (.posInt 3))])]) at array
  cases array with
  | data held => simp at held
  | attributes virustotal => cases virustotal

/-- So what is relayed of them is too. -/
theorem objectReports_iff_complaints : ObjectShaped .abuseipdb complaints.deserialize := by
  have decoded := (@decode_success (fun _ => none) plainSerializer complaintsDeserializer .abuseipdb
    200 [] complainedOf .epoch _ (by decide) complainedOf_looksUp).mpr
      ⟨complaints, _, none, rfl, complaints_report, complaints_short, rfl⟩
  have inObjects : ¬ ReportsInArray plainSerializer complaintsDeserializer .abuseipdb complainedOf
      [] := by
    rintro ⟨document, ⟨parsed, _⟩, array⟩
    cases parsed
    exact complaints_noArray array
  obtain ⟨raw, same, objects⟩ := (objectReports_iff complainedOf_valid ⟨by decide, by decide⟩).mpr
    inObjects _ decoded
  cases same
  exact objects

/-- The complaints, with their envelope as an array of its only field. -/
def bareComplaints : Value :=
  .array [.object [("ipAddress", .string "8.8.8.8"), ("totalReports", .number (.posInt 3))]]

/-- A reader that finds them in every body. -/
def bareDeserializer : Deserializer :=
  { complaintsDeserializer with document := fun _ => some bareComplaints }

/-- They are an acceptable report. -/
theorem bareComplaints_decoded :
    decode plainSerializer bareDeserializer .abuseipdb 200 [] complainedOf .epoch =
      .ok (reported bareComplaints.deserialize (.abuseipdb complaintsSummary) none .epoch) :=
  (decode_success (by decide) complainedOf_looksUp).mpr ⟨bareComplaints, _, none, rfl,
    (decodeReport_eq_some complainedOf_looksUp).mp rfl, complaints_short, rfl⟩

/-- A report in an array is accepted, and relayed as it is. -/
theorem objectReports_array :
    ¬ ∀ (parser : UrlParser) (serializer : Serializer) (deserializer : Deserializer)
        (id : ProviderId) (status : UInt16) (body : List UInt8) (kind : IndicatorKind)
        (value : String) (indicator : ValidatedIndicator) (now : DateTime) (outcome : Outcome),
      validateIndicator parser kind value = .ok indicator →
      200 ≤ status → status < 300 →
      decode serializer deserializer id status body indicator now = .ok outcome →
      ∃ raw, outcome.raw = some raw ∧ ObjectShaped id raw := by
  intro claim
  obtain ⟨raw, same, objects⟩ := claim (fun _ => none) plainSerializer bareDeserializer .abuseipdb
    200 [] .ip "8.8.8.8" complainedOf .epoch _ complainedOf_valid (by decide) (by decide)
    bareComplaints_decoded
  cases same
  exact objects.noArray .report

end RustEnrich
