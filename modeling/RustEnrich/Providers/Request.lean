import RustEnrich.LookupIdentity
import RustEnrich.Encodings.Base64Url
import RustEnrich.Encodings.PercentEncoding

/-!
# Requests to a provider

What `Adapter::request` asks for. The place a request goes to is compiled in, and the
lookup value of an accepted indicator can neither leave the part of the URL it is
written to nor be taken for another: a provider is asked one and the same exactly where
a report is cached under one key.
-/

namespace RustEnrich

open Serialization PrefixCode Enrichment

/-- Characters the `url` crate writes as they are in a segment of a path. -/
def isPlain (char : Char) : Bool := char.isAlphanum || char ∈ ['-', '.', '_', ':']

/-- A segment that is not encoded, and does not stand for another one. -/
structure PlainSegment (text : List Char) : Prop where
  plain : ∀ char ∈ text, isPlain char = true
  named : text ≠ ['.'] ∧ text ≠ ['.', '.']

/-- How the crates `url` and `base64` write. -/
structure UrlWriter where
  /-- A segment, by `path_segments_mut`. -/
  segment : List Char → List Char
  /-- A name or a value, by `query_pairs_mut`. -/
  component : List Char → List Char
  /-- `URL_SAFE_NO_PAD`. -/
  base64 : List UInt8 → List Char
  segment_plain : ∀ text, PlainSegment text → segment text = text
  component_injective : Function.Injective component
  component_chars : ∀ text, ∀ char ∈ component text,
    char.isAlphanum = true ∨ char ∈ ['*', '-', '.', '_', '+', '%']
  base64_injective : Function.Injective base64
  base64_chars : ∀ bytes, ∀ char ∈ base64 bytes, char.isAlphanum = true ∨ char ∈ ['-', '_']

namespace UrlWriter

/-- `clear().extend(segments)`, which leaves `.` and `..` out. -/
def path (writer : UrlWriter) (segments : List (List Char)) : List Char :=
  List.intercalate ['/']
    ((segments.filter fun segment => segment ≠ ['.'] ∧ segment ≠ ['.', '.']).map writer.segment)

/-- `append_pair`, for each pair. -/
def query (writer : UrlWriter) (pairs : List (List Char × List Char)) : List Char :=
  List.intercalate ['&']
    (pairs.map fun (name, value) => writer.component name ++ '=' :: writer.component value)

/-- Plain segments stand in a path as they are. -/
theorem path_plain (writer : UrlWriter) {segments : List (List Char)}
    (plain : ∀ segment ∈ segments, PlainSegment segment) :
    writer.path segments = List.intercalate ['/'] segments := by
  have named : segments.filter (fun segment => segment ≠ ['.'] ∧ segment ≠ ['.', '.']) =
      segments :=
    List.filter_eq_self.mpr fun segment member => decide_eq_true (plain segment member).named
  unfold path
  rw [named, List.map_congr_left fun segment member =>
    writer.segment_plain segment (plain segment member), List.map_id']

/-- A component has none of the characters that end it. -/
theorem component_span (writer : UrlWriter) (text : List Char) :
    ∀ char ∈ writer.component text,
      decide (char ∉ ['&', '=', '/', '?', '#', '@', '\\']) = true := by
  intro char member
  rcases writer.component_chars text char member with word | mark
  · rw [decide_eq_true_eq]
    intro separator
    simp only [List.mem_cons, List.not_mem_nil, or_false] at separator
    rcases separator with rfl | rfl | rfl | rfl | rfl | rfl | rfl <;> exact absurd word (by decide)
  · simp only [List.mem_cons, List.not_mem_nil, or_false] at mark
    rcases mark with rfl | rfl | rfl | rfl | rfl | rfl <;> decide

end UrlWriter

/-! ### A writer -/

/-- The characters that are not escaped in a segment. -/
def segmentByte (byte : UInt8) : Option Char :=
  let char := Char.ofNat byte.toNat
  if 0x21 ≤ byte ∧ byte < 0x7f ∧
      char ∉ ['"', '#', '%', '/', '<', '>', '?', '\\', '^', '`', '{', '}']
  then some char else none

/-- The characters of a form, where a space is a plus sign. -/
def formByte (byte : UInt8) : Option Char :=
  let char := Char.ofNat byte.toNat
  if byte = 0x20 then some '+'
  else if char.isAlphanum ∨ char ∈ ['*', '-', '.', '_'] then some char else none

/-- The form encoding of a byte tells it from every other. -/
theorem formByte_distinct : PercentEncoding.Distinct formByte :=
  .of_inverse (fun char => if char = '+' then 0x20 else .ofNat char.toNat) (by decide +kernel)

/-- The form encoding uses these characters alone. -/
theorem formByte_chars : ∀ number < 256, (formByte (.ofNat number)).all
    (fun char => char.isAlphanum = true ∨ char ∈ ['*', '-', '.', '_', '+', '%']) = true := by
  decide +kernel

/-- A plain character stands in a segment as it is. -/
theorem segmentByte_plain : ∀ code < 128, isPlain (Char.ofNat code) = true →
    segmentByte (.ofNat code) = some (Char.ofNat code) := by
  decide +kernel

/-- A plain character is an ASCII one. -/
theorem isPlain_ascii {char : Char} (plain : isPlain char = true) : char.toNat < 128 := by
  have bounded : ∀ high : UInt32, high < 128 → char.val ≤ high → char.toNat < 128 :=
    fun _ few within => LE.le.trans_lt within few
  rcases Bool.or_eq_true_iff.mp plain with alphanumeric | marked
  · rcases Bool.or_eq_true_iff.mp alphanumeric with alphabetic | digit
    · rcases Bool.or_eq_true_iff.mp alphabetic with upper | lower
      · exact bounded 'Z'.val (by decide) (of_decide_eq_true upper).2
      · exact bounded 'z'.val (by decide) (of_decide_eq_true (Bool.and_eq_true_iff.mp lower).2)
    · exact bounded '9'.val (by decide) (of_decide_eq_true (Bool.and_eq_true_iff.mp digit).2)
  · have marks : ['-', '.', '_', ':'].all (fun mark => mark.toNat < 128) = true := by decide
    exact of_decide_eq_true (List.all_eq_true.mp marks char (of_decide_eq_true marked))

/-- A plain segment is its own bytes. -/
theorem utf8_plain {text : List Char} (plain : ∀ char ∈ text, isPlain char = true) :
    (utf8 (.ofList text)).map segmentByte = text.map some := by
  rw [utf8, String.toList_ofList, List.map_flatMap]
  induction text with
  | nil => rfl
  | cons char text ih =>
      have ascii := isPlain_ascii (plain char List.mem_cons_self)
      have bytes := utf8EncodeChar_ascii char.toNat ascii
      have own := segmentByte_plain char.toNat ascii
      rw [Char.ofNat_toNat] at bytes own
      rw [List.flatMap_cons, bytes, List.map_singleton, own (plain char List.mem_cons_self),
        List.map_cons, ih fun char member => plain char (List.mem_cons_of_mem _ member)]
      rfl

/-- What the crates write. -/
def UrlWriter.standard : UrlWriter where
  segment text := PercentEncoding.encode segmentByte (utf8 (.ofList text))
  component text := PercentEncoding.encode formByte (utf8 (.ofList text))
  base64 := Base64Url.encode
  segment_plain := fun _ plain => PercentEncoding.encode_plain (utf8_plain plain.plain)
  component_injective := fun left right same =>
    String.ofList_inj.mp (utf8_injective (formByte_distinct.encode_injective same))
  component_chars := by
    intro text char member
    rcases PercentEncoding.mem_encode member with ⟨byte, _, own⟩ | rfl | digit
    · have listed := formByte_chars byte.toNat byte.toNat_lt
      rw [UInt8.ofNat_toNat, own] at listed
      exact of_decide_eq_true listed
    · exact Or.inr (by decide)
    · have digits : "0123456789ABCDEF".toList.all Char.isAlphanum = true := by decide
      exact Or.inl (List.all_eq_true.mp digits char digit)
  base64_injective := Base64Url.encode_injective
  base64_chars := by
    intro bytes char member
    have listed : Base64Url.alphabet.all
        (fun char => char.isAlphanum = true ∨ char ∈ ['-', '_']) = true := by
      decide +kernel
    exact of_decide_eq_true (List.all_eq_true.mp listed char (Base64Url.mem_encode member))

/-- An adapter with its credential. -/
structure Adapter extends AdapterOptions where
  apiKey : String

/-- What is sent, by `GET`. -/
structure ProviderRequest where
  url : String
  headers : List (String × String)

namespace Adapter

/-- The origin of a provider. -/
def origin : ProviderId → String
  | .abuseipdb => "https://api.abuseipdb.com/"
  | .virustotal => "https://www.virustotal.com/"

/-- The reports of VirusTotal on a kind. -/
def endpoint : IndicatorKind → String
  | .ip => "ip_addresses"
  | .url => "urls"
  | .hash => "files"

/-- What VirusTotal calls an indicator. -/
def identifier (writer : UrlWriter) (indicator : ValidatedIndicator) : List Char :=
  match indicator.input.kind with
  | .ip => indicator.lookupValue.toList
  | .url => writer.base64 (utf8 indicator.lookupValue)
  | .hash => indicator.lookupValue.toList

/-- The request that an adapter builds. -/
def request (adapter : Adapter) (writer : UrlWriter) (indicator : ValidatedIndicator) :
    Except ErrorCode ProviderRequest :=
  if !supports adapter.id indicator.input.kind then .error .providerRequestRejected
  else
    match adapter.id with
    | .abuseipdb => .ok {
        url := .ofList ((origin .abuseipdb).toList ++
          writer.path ["api".toList, "v2".toList, "check".toList] ++ '?' ::
          writer.query [("ipAddress".toList, indicator.lookupValue.toList),
            ("maxAgeInDays".toList, adapter.maxAgeDays.toNat.repr.toList)])
        headers := [("Key", adapter.apiKey), ("accept", "application/json")] }
    | .virustotal => .ok {
        url := .ofList ((origin .virustotal).toList ++
          writer.path ["api".toList, "v3".toList, (endpoint indicator.input.kind).toList,
            identifier writer indicator])
        headers := [("x-apikey", adapter.apiKey), ("accept", "application/json")] }

end Adapter

/-! ### Lookup values in a path -/

/-- A digit is plain. -/
theorem isPlain_digitChar {digit : Nat} (hexadecimal : digit < 16) :
    isPlain digit.digitChar = true := by
  interval_cases digit <;> decide

/-- A number is written in plain characters. -/
theorem isPlain_toDigits {radix number : Nat} (two : 1 < radix) (within : radix ≤ 16) :
    ∀ char ∈ Nat.toDigits radix number, isPlain char = true := by
  intro char member
  obtain ⟨digit, below, rfl⟩ := IpAddr.mem_toDigits two member
  exact isPlain_digitChar (below.trans_le within)

/-- An IPv4 address is written in plain characters. -/
theorem isPlain_formatIpv4 (one two three four : UInt8) :
    ∀ char ∈ IpAddr.formatIpv4 one two three four, isPlain char = true := by
  have octet : ∀ octet : UInt8, ∀ char ∈ Nat.toDigits 10 octet.toNat, isPlain char = true :=
    fun _ => isPlain_toDigits (by decide) (by decide)
  intro char member
  unfold IpAddr.formatIpv4 at member
  simp only [List.mem_append, List.mem_cons] at member
  rcases member with ((first | rfl | second) | rfl | third) | rfl | fourth
  · exact octet one char first
  · rfl
  · exact octet two char second
  · rfl
  · exact octet three char third
  · rfl
  · exact octet four char fourth

/-- The segments of an IPv6 address are written in plain characters. -/
theorem isPlain_formatSegments (segments : List UInt16) :
    ∀ char ∈ IpAddr.formatSegments segments, isPlain char = true := by
  have group : ∀ group : UInt16, ∀ char ∈ Nat.toDigits 16 group.toNat, isPlain char = true :=
    fun _ => isPlain_toDigits (by decide) (by decide)
  intro char member
  cases segments with
  | nil => cases member
  | cons first tail =>
      rcases List.mem_append.mp member with head | later
      · exact group first char head
      · obtain ⟨segment, _, inside⟩ := List.mem_flatMap.mp later
        rcases List.mem_cons.mp inside with rfl | digits
        · rfl
        · exact group segment char digits

/-- An address is written in plain characters. -/
theorem isPlain_toString (address : IpAddr) :
    ∀ char ∈ address.toString.toList, isPlain char = true := by
  have colons : "::".toList.all isPlain = true := by decide
  have mapped : "::ffff:".toList.all isPlain = true := by decide
  intro char member
  cases address with
  | v4 one two three four =>
      rw [IpAddr.toString, String.toList_ofList] at member
      exact isPlain_formatIpv4 _ _ _ _ char member
  | v6 segments =>
      rw [IpAddr.toString, String.toList_ofList, IpAddr.formatIpv6] at member
      split at member
      · rcases List.mem_append.mp member with front | octets
        · exact List.all_eq_true.mp mapped char front
        · exact isPlain_formatIpv4 _ _ _ _ char octets
      · dsimp only at member
        split at member
        · rcases List.mem_append.mp member with front | back
          · rcases List.mem_append.mp front with head | middle
            · exact isPlain_formatSegments _ char head
            · exact List.all_eq_true.mp colons char middle
          · exact isPlain_formatSegments _ char back
        · exact isPlain_formatSegments _ char member

/-- A hexadecimal digit is plain. -/
theorem isPlain_hexadecimal : ∀ code < 128, isAsciiHexdigit (UInt8.ofNat code) = true →
    isPlain (Char.ofNat code) = true := by
  decide +kernel

/-- An address or a hash is written as it is. -/
theorem LooksUp.plainSegment {parser : UrlParser} {kind : IndicatorKind}
    {value lookupValue : String} {algorithm : Option HashAlgorithm}
    (looksUp : LooksUp parser kind value lookupValue algorithm) (plain : Plain value)
    (distinct : kind ≠ .url) : PlainSegment lookupValue.toList := by
  cases looksUp with
  | @ip _ address read =>
      have reads := IpAddr.parse_toString address
      refine ⟨isPlain_toString address, fun dot => ?_, fun dots => ?_⟩
      · have same := String.toList_injective (dot.trans (by decide : ['.'] = ".".toList))
        rw [same] at reads
        have none_ : (IpAddr.parse ".").isSome = false := by decide +kernel
        rw [reads] at none_
        cases none_
      · have same := String.toList_injective (dots.trans (by decide : ['.', '.'] = "..".toList))
        rw [same] at reads
        have none_ : (IpAddr.parse "..").isSome = false := by decide +kernel
        rw [reads] at none_
        cases none_
  | url => exact absurd rfl distinct
  | hash hexadecimal sized =>
      obtain ⟨size, digits, _⟩ := plain_lowered plain hexadecimal
      rw [← size] at sized
      refine ⟨fun char member => ?_, fun dot => ?_, fun dots => ?_⟩
      · obtain ⟨code, ascii, rfl, digit⟩ := all_hexadecimal digits char member
        exact isPlain_hexadecimal code ascii digit
      · have same := String.toList_injective (dot.trans (by decide : ['.'] = ".".toList))
        rw [same] at sized
        have none_ : (hashAlgorithmOf ".".utf8ByteSize).isSome = false := by decide +kernel
        rw [sized] at none_
        cases none_
      · have same := String.toList_injective (dots.trans (by decide : ['.', '.'] = "..".toList))
        rw [same] at sized
        have none_ : (hashAlgorithmOf "..".utf8ByteSize).isSome = false := by decide +kernel
        rw [sized] at none_
        cases none_

/-! ### The text of a request -/

namespace Adapter

/-- The part of a URL that does not depend on the lookup value. -/
def place : ProviderId → IndicatorKind → String
  | .abuseipdb, _ => "https://api.abuseipdb.com/api/v2/check?"
  | .virustotal, .ip => "https://www.virustotal.com/api/v3/ip_addresses/"
  | .virustotal, .url => "https://www.virustotal.com/api/v3/urls/"
  | .virustotal, .hash => "https://www.virustotal.com/api/v3/files/"

section Text

variable {adapter : Adapter} {writer : UrlWriter} {indicator : ValidatedIndicator}
  {sent : ProviderRequest} {parser : UrlParser} {kind : IndicatorKind} {value : String}

/-- The fixed segments are plain. -/
theorem fixed_plain : ∀ segment ∈ ["api", "v2", "v3", "check", "ip_addresses", "urls", "files"],
    PlainSegment segment.toList := by
  have plain : ∀ segment ∈ ["api", "v2", "v3", "check", "ip_addresses", "urls", "files"],
      segment.toList.all isPlain = true ∧ segment.toList ≠ ['.'] ∧
        segment.toList ≠ ['.', '.'] := by
    decide
  intro segment listed
  exact ⟨List.all_eq_true.mp (plain segment listed).1, (plain segment listed).2⟩

/-- The pairs of a query to AbuseIPDB. -/
def pairs (adapter : Adapter) (indicator : ValidatedIndicator) : List (List Char × List Char) :=
  [("ipAddress".toList, indicator.lookupValue.toList),
    ("maxAgeInDays".toList, adapter.maxAgeDays.toNat.repr.toList)]

/-- A request to AbuseIPDB has its pairs in the query. -/
theorem url_abuseipdb (id : adapter.id = .abuseipdb)
    (asked : adapter.request writer indicator = .ok sent) :
    indicator.input.kind = .ip ∧
      sent.url = .ofList ((place .abuseipdb .ip).toList ++
        writer.query (adapter.pairs indicator)) := by
  unfold request at asked
  split at asked
  · cases asked
  · rename_i supported
    rw [id] at asked supported
    have address : indicator.input.kind = .ip := by simpa [supports] using supported
    cases asked
    refine ⟨address, ?_⟩
    dsimp only
    rw [writer.path_plain fun segment member => ?_]
    · rfl
    · simp only [List.mem_cons, List.not_mem_nil, or_false] at member
      rcases member with rfl | rfl | rfl <;> exact fixed_plain _ (by decide)

/-- Four segments with their slashes. -/
theorem intercalate_four (one two three four : List Char) :
    List.intercalate ['/'] [one, two, three, four] =
      one ++ '/' :: (two ++ '/' :: (three ++ '/' :: four)) := by
  simp [List.intercalate]

/-- The identifier of an indicator is a plain segment. -/
theorem identifier_plain (valid : validateIndicator parser kind value = .ok indicator) :
    PlainSegment (identifier writer indicator) := by
  obtain ⟨plain, input, looksUp⟩ := validateIndicator_eq_ok.mp valid
  have kinds : indicator.input.kind = kind := by rw [input]
  unfold identifier
  rw [kinds]
  cases kind with
  | ip => exact looksUp.plainSegment plain nofun
  | hash => exact looksUp.plainSegment plain nofun
  | url =>
      have marks : ∀ char ∈ writer.base64 (utf8 indicator.lookupValue),
          isPlain char = true ∧ char ≠ '.' := by
        intro char member
        unfold isPlain
        rcases writer.base64_chars _ char member with word | mark
        · refine ⟨by rw [word, Bool.true_or], ?_⟩
          rintro rfl
          exact absurd word (by decide)
        · simp only [List.mem_cons, List.not_mem_nil, or_false] at mark
          rcases mark with rfl | rfl <;> exact ⟨by decide, by decide⟩
      dsimp only
      refine ⟨fun char member => (marks char member).1, fun dot => ?_, fun dots => ?_⟩
      · exact (marks '.' (by simp [dot])).2 rfl
      · exact (marks '.' (by simp [dots])).2 rfl

/-- The place of a kind is a fixed path. -/
theorem place_virustotal (kind : IndicatorKind) :
    (place .virustotal kind).toList = (origin .virustotal).toList ++
      ("api".toList ++ '/' :: ("v3".toList ++ '/' :: ((endpoint kind).toList ++ ['/']))) := by
  cases kind <;> decide +kernel

/-- A request to VirusTotal has the identifier at the end of its path. -/
theorem url_virustotal (id : adapter.id = .virustotal)
    (valid : validateIndicator parser kind value = .ok indicator)
    (asked : adapter.request writer indicator = .ok sent) :
    sent.url = .ofList ((place .virustotal kind).toList ++ identifier writer indicator) := by
  obtain ⟨_, input, _⟩ := validateIndicator_eq_ok.mp valid
  have kinds : indicator.input.kind = kind := by rw [input]
  unfold request at asked
  split at asked
  · cases asked
  rw [id, kinds] at asked
  cases asked
  dsimp only
  rw [writer.path_plain, intercalate_four, place_virustotal]
  · simp only [List.append_assoc, List.cons_append, List.nil_append]
  · intro segment member
    simp only [List.mem_cons, List.not_mem_nil, or_false] at member
    rcases member with rfl | rfl | rfl | rfl
    · exact fixed_plain _ (by decide)
    · exact fixed_plain _ (by decide)
    · cases kind <;> exact fixed_plain _ (by decide)
    · exact identifier_plain valid

end Text

/-- A request goes to the place of its provider. -/
theorem placed {adapter : Adapter} {writer : UrlWriter} {indicator : ValidatedIndicator}
    {sent : ProviderRequest} {parser : UrlParser} {kind : IndicatorKind} {value : String}
    (valid : validateIndicator parser kind value = .ok indicator)
    (asked : adapter.request writer indicator = .ok sent) :
    ∃ rest, sent.url = .ofList ((place adapter.id kind).toList ++ rest) := by
  cases id : adapter.id with
  | abuseipdb => exact ⟨_, (url_abuseipdb id asked).2⟩
  | virustotal => exact ⟨_, url_virustotal id valid asked⟩

/-! ### What a request tells -/

section Told

variable {left right : Adapter} {writer : UrlWriter} {first second : ValidatedIndicator}
  {parser : UrlParser} {kind other : IndicatorKind} {value text : String}
  {sent again : ProviderRequest}

/-- A place tells its provider. -/
theorem place_inj {left right : ProviderId} {front back : List Char}
    (same : (place left kind).toList ++ front = (place right other).toList ++ back) :
    left = right := by
  have long : ∀ id kind, 9 ≤ (place id kind).toList.length := by
    intro id kind
    cases id <;> cases kind <;> decide +kernel
  have hosts := congrArg (List.take 9) same
  rw [List.take_append_of_le_length (long _ _), List.take_append_of_le_length (long _ _)] at hosts
  cases left <;> cases right
  · rfl
  · cases kind <;> cases other <;> exact absurd hosts (by decide +kernel)
  · cases kind <;> cases other <;> exact absurd hosts (by decide +kernel)
  · rfl

/-- An endpoint tells its kind. -/
theorem endpoint_inj (same : (endpoint kind).toList = (endpoint other).toList) : kind = other := by
  cases kind <;> cases other <;> first | rfl | exact absurd same (by decide)

/-- The kind is told by the collection. -/
theorem collection_inj {front back : List Char}
    (same : (place .virustotal kind).toList ++ front = (place .virustotal other).toList ++ back) :
    kind = other ∧ front = back := by
  have named : ∀ kind, ∀ char ∈ (endpoint kind).toList, decide (char ≠ '/') = true := by
    intro kind
    apply List.all_eq_true.mp
    cases kind <;> decide
  rw [place_virustotal, place_virustotal] at same
  simp only [List.append_assoc, List.cons_append, List.nil_append, List.append_cancel_left_eq,
    List.cons.injEq, true_and] at same
  obtain ⟨kinds, rest⟩ := eq_of_span same (named kind) (named other) (by simp) (by simp)
  exact ⟨endpoint_inj kinds, (List.cons.inj rest).2⟩

/-- The identifier of a kind tells the lookup value. -/
theorem identifier_inj (same : first.input.kind = second.input.kind) :
    identifier writer first = identifier writer second ↔
      first.lookupValue = second.lookupValue := by
  unfold identifier
  rw [same]
  cases second.input.kind with
  | ip => exact String.toList_inj
  | hash => exact String.toList_inj
  | url =>
      dsimp only
      rw [writer.base64_injective.eq_iff, utf8_injective.eq_iff]

/-- The query tells the lookup value and the age. -/
theorem query_inj : writer.query (left.pairs first) = writer.query (right.pairs second) ↔
    first.lookupValue = second.lookupValue ∧ left.maxAgeDays = right.maxAgeDays := by
  have split_ : ∀ adapter indicator, writer.query (pairs adapter indicator) =
      (writer.component "ipAddress".toList ++ ['=']) ++
        (writer.component indicator.lookupValue.toList ++ '&' ::
          (writer.component "maxAgeInDays".toList ++ '=' ::
            writer.component adapter.maxAgeDays.toNat.repr.toList)) := by
    intro adapter indicator
    simp [UrlWriter.query, pairs, List.intercalate]
  constructor
  · intro same
    rw [split_, split_] at same
    obtain ⟨values, rest⟩ := eq_of_span (List.append_cancel_left same)
      (writer.component_span _) (writer.component_span _) (by simp) (by simp)
    simp only [List.cons.injEq, true_and, List.append_cancel_left_eq] at rest
    refine ⟨String.toList_inj.mp (writer.component_injective values), ?_⟩
    have numbers := String.toList_inj.mp (writer.component_injective rest)
    exact UInt16.toNat_inj.mp (repr_injective numbers)
  · rintro ⟨values, days⟩
    rw [split_, split_, values, days]

/-- The algorithm is told by the lookup value. -/
theorem algorithm_eq {lookupValue : String} {algorithm : Option HashAlgorithm}
    (looksUp : LooksUp parser kind value lookupValue algorithm) (plain : Plain value) :
    algorithm = if kind = .hash then hashAlgorithmOf lookupValue.utf8ByteSize else none := by
  cases looksUp with
  | ip => rfl
  | url => rfl
  | hash hexadecimal sized =>
      rw [(plain_lowered plain hexadecimal).1, if_pos rfl, sized]

/-- The options in the key tell the age, where it is used. -/
theorem cacheOptions_iff (same : left.id = right.id) :
    left.cacheOptions = right.cacheOptions ↔
      left.id = .virustotal ∨ left.maxAgeDays = right.maxAgeDays := by
  unfold AdapterOptions.cacheOptions
  rw [same]
  cases right.id with
  | virustotal => simp
  | abuseipdb => simp [serializeU64, UInt16.toUInt64_inj]

/-- Accepted values of a kind are looked up alike where they denote one indicator. -/
theorem lookupValue_iff (valid : validateIndicator parser kind value = .ok first)
    (accepted : validateIndicator parser kind text = .ok second) :
    first.lookupValue = second.lookupValue ↔ SameIndicator kind value text := by
  obtain ⟨plain, _, looksUp⟩ := validateIndicator_eq_ok.mp valid
  obtain ⟨plains, _, looksUps⟩ := validateIndicator_eq_ok.mp accepted
  rw [← looksUp.same_iff looksUps, algorithm_eq looksUp plain, algorithm_eq looksUps plains]
  constructor
  · intro same
    rw [same]
    exact ⟨rfl, rfl⟩
  · exact And.left

/-- A query has none of the characters that end it. -/
theorem query_chars (adapter : Adapter) (indicator : ValidatedIndicator) :
    ∀ char ∈ writer.query (adapter.pairs indicator), char ∉ ['/', '?', '#', '@', '\\'] := by
  have component : ∀ text, ∀ char ∈ writer.component text,
      char ∉ ['/', '?', '#', '@', '\\'] := by
    intro text char member separator
    have outside := of_decide_eq_true (writer.component_span text char member)
    exact outside (List.mem_cons_of_mem _ (List.mem_cons_of_mem _ separator))
  intro char member
  simp only [UrlWriter.query, pairs, List.intercalate, List.map_cons, List.map_nil,
    List.intersperse_cons_cons, List.intersperse_singleton, List.flatten_cons, List.flatten_nil,
    List.append_nil, List.mem_append, List.mem_cons, List.not_mem_nil, or_false] at member
  rcases member with (name | rfl | shown) | rfl | label | rfl | days
  · exact component _ char name
  · decide
  · exact component _ char shown
  · decide
  · exact component _ char label
  · decide
  · exact component _ char days

/-- A plain character separates nothing. -/
theorem isPlain_separate {char : Char} (plain : isPlain char = true) :
    char ∉ ['/', '?', '#', '@', '\\'] := by
  intro separator
  simp only [List.mem_cons, List.not_mem_nil, or_false] at separator
  rcases separator with rfl | rfl | rfl | rfl | rfl <;> exact absurd plain (by decide)

end Told

/-- Requests are told apart by what they ask for. -/
theorem url_iff {parser : UrlParser} {kind other : IndicatorKind} {value text : String}
    {first second : ValidatedIndicator} {writer : UrlWriter} {left right : Adapter}
    {sent again : ProviderRequest} (valid : validateIndicator parser kind value = .ok first)
    (accepted : validateIndicator parser other text = .ok second)
    (asked : left.request writer first = .ok sent)
    (asks : right.request writer second = .ok again) :
    sent.url = again.url ↔ (left.id = right.id ∧ left.cacheOptions = right.cacheOptions) ∧
      kind = other ∧ SameIndicator kind value text := by
  obtain ⟨_, input, _⟩ := validateIndicator_eq_ok.mp valid
  obtain ⟨_, inputs, _⟩ := validateIndicator_eq_ok.mp accepted
  by_cases same : left.id = right.id
  · cases id : right.id with
    | abuseipdb =>
        obtain ⟨address, url⟩ := url_abuseipdb (same.trans id) asked
        obtain ⟨also, urls⟩ := url_abuseipdb id asks
        rw [input] at address
        rw [inputs] at also
        dsimp only at address also
        subst address also
        rw [url, urls, String.ofList_inj, List.append_cancel_left_eq, query_inj,
          cacheOptions_iff same, lookupValue_iff valid accepted, same, id]
        simp only [reduceCtorEq, false_or, true_and]
        exact and_comm
    | virustotal =>
        have kinds : kind = other → first.input.kind = second.input.kind := by
          rw [input, inputs]
          exact fun same => same
        rw [url_virustotal (same.trans id) valid asked, url_virustotal id accepted asks,
          String.ofList_inj, cacheOptions_iff same, same, id]
        constructor
        · intro equal
          obtain ⟨rfl, identifiers⟩ := collection_inj equal
          exact ⟨⟨rfl, Or.inl rfl⟩, rfl, (lookupValue_iff valid accepted).mp
            ((identifier_inj (kinds rfl)).mp identifiers)⟩
        · rintro ⟨_, rfl, indicators⟩
          rw [(identifier_inj (kinds rfl)).mpr ((lookupValue_iff valid accepted).mpr indicators)]
  · refine iff_of_false (fun equal => same ?_) fun told => same told.1.1
    obtain ⟨front, url⟩ := placed valid asked
    obtain ⟨back, urls⟩ := placed accepted asks
    rw [url, urls, String.ofList_inj] at equal
    exact place_inj equal

/-- **What a provider is asked.** A request is made of exactly the kinds the provider
has reports on. It goes to the place compiled in for the kind, which nothing of the
value can leave, and two requests have one URL exactly where both ask one provider under
the same options about the same indicator: where, in one release of the adapters, they
are cached and shared under the same bytes. -/
theorem request_identity {parser : UrlParser} {kind other : IndicatorKind} {value text : String}
    {first second : ValidatedIndicator}
    (valid : validateIndicator parser kind value = .ok first)
    (accepted : validateIndicator parser other text = .ok second) (writer : UrlWriter)
    (left right : Adapter) :
    ((∃ sent, left.request writer first = .ok sent) ↔ supports left.id kind = true) ∧
      ∀ sent again, left.request writer first = .ok sent →
        right.request writer second = .ok again →
        (∃ rest, sent.url = .ofList ((place left.id kind).toList ++ rest) ∧
          ∀ char ∈ rest, char ∉ ['/', '?', '#', '@', '\\']) ∧
        (sent.url = again.url ↔ (left.id = right.id ∧ left.cacheOptions = right.cacheOptions) ∧
          kind = other ∧ SameIndicator kind value text) ∧
        ∀ serializer, left.payloadVersion = right.payloadVersion →
          (sent.url = again.url ↔ cacheBytes serializer left.toAdapterOptions first =
            cacheBytes serializer right.toAdapterOptions second) := by
  obtain ⟨plain, input, looksUp⟩ := validateIndicator_eq_ok.mp valid
  obtain ⟨plains, inputs, looksUps⟩ := validateIndicator_eq_ok.mp accepted
  refine ⟨?_, fun sent again asked asks => ⟨?_, url_iff valid accepted asked asks, ?_⟩⟩
  · unfold request
    rw [input]
    by_cases supported : supports left.id kind = true
    · simp only [supported, Bool.not_true, Bool.false_eq_true, if_false, iff_true]
      cases left.id <;> exact ⟨_, rfl⟩
    · simp [supported]
  · cases id : left.id with
    | abuseipdb => exact ⟨_, (url_abuseipdb id asked).2, query_chars left first⟩
    | virustotal =>
        exact ⟨_, url_virustotal id valid asked, fun char member =>
          isPlain_separate ((identifier_plain valid).plain char member)⟩
  · intro serializer version
    rw [url_iff valid accepted asked asks, cacheBytes_inj, cacheTuple_inj, input, inputs]
    dsimp only
    constructor
    · rintro ⟨⟨id, options⟩, rfl, same⟩
      obtain ⟨lookupValue, algorithm⟩ := (looksUp.same_iff looksUps).mpr same
      exact ⟨id, version, options, rfl, algorithm, lookupValue⟩
    · rintro ⟨id, _, options, rfl, algorithm, lookupValue⟩
      exact ⟨⟨id, options⟩, rfl, (looksUp.same_iff looksUps).mp ⟨lookupValue, algorithm⟩⟩

/-- An adapter of the default age. -/
def thirtyDaysKeyed : Adapter := { thirtyDays with apiKey := "key" }

/-- Two spellings of an address make one request. -/
theorem request_identity_spellings :
    ∃ sent again, thirtyDaysKeyed.request .standard longSpelling = .ok sent ∧
      thirtyDaysKeyed.request .standard shortSpelling = .ok again ∧ sent.url = again.url := by
  have read : IpAddr.parse "2001:0DB8:0:0:0:0:0:1" = some spelledAddress := by decide +kernel
  have reads : IpAddr.parse "2001:db8::1" = some spelledAddress := by decide +kernel
  obtain ⟨asks, told⟩ := request_identity longSpelling_valid shortSpelling_valid .standard
    thirtyDaysKeyed thirtyDaysKeyed
  obtain ⟨sent, asked⟩ := asks.mpr rfl
  have again : thirtyDaysKeyed.request .standard shortSpelling = .ok sent := asked
  exact ⟨sent, sent, asked, again,
    (told sent sent asked again).2.1.mpr ⟨⟨rfl, rfl⟩, rfl, .ip read reads⟩⟩

end Adapter

end RustEnrich
