import RustEnrich.Validation.LookupValue
import RustEnrich.Serialization.UniqueText

/-!
# Canonical lookup values

The lookup value of an accepted indicator is accepted, is looked up by itself,
and has the same algorithm. Two accepted values have one lookup value exactly if
they denote the same indicator.
-/

namespace RustEnrich

open Serialization PrefixCode

/-- Two values of a kind denote the same indicator: the same address, the same
URL byte for byte, or hashes of one length that differ in ASCII case at most. -/
inductive SameIndicator : IndicatorKind → String → String → Prop
  | ip {left right : String} {address : IpAddr} (first : IpAddr.parse left = some address)
      (second : IpAddr.parse right = some address) : SameIndicator .ip left right
  | url (value : String) : SameIndicator .url value value
  | hash {left right : String} (sized : left.utf8ByteSize = right.utf8ByteSize)
      (folded : toAsciiLowercase left.toList = toAsciiLowercase right.toList) :
      SameIndicator .hash left right

variable {parser : UrlParser} {kind : IndicatorKind} {value : String}

/-- The algorithm tells the length. -/
theorem hashAlgorithmOf_inj {left right : Nat} {algorithm : HashAlgorithm}
    (first : hashAlgorithmOf left = some algorithm)
    (second : hashAlgorithmOf right = some algorithm) : left = right := by
  unfold hashAlgorithmOf at first second
  split at first <;> cases first <;> split at second <;> cases second <;> rfl

/-- Values have one lookup value and algorithm if they denote one indicator. -/
theorem LooksUp.same_iff {left right lookupLeft lookupRight : String}
    {algorithmLeft algorithmRight : Option HashAlgorithm}
    (first : LooksUp parser kind left lookupLeft algorithmLeft)
    (second : LooksUp parser kind right lookupRight algorithmRight) :
    lookupLeft = lookupRight ∧ algorithmLeft = algorithmRight ↔
      SameIndicator kind left right := by
  cases first with
  | ip read =>
      cases second with
      | ip reads =>
          constructor
          · intro ⟨same, _⟩
            rw [IpAddr.toString_injective same] at read
            exact .ip read reads
          · intro same
            cases same with
            | ip one two =>
                rw [read] at one
                rw [reads] at two
                cases one
                cases two
                exact ⟨rfl, rfl⟩
  | url valid =>
      cases second with
      | url _ =>
          constructor
          · intro ⟨same, _⟩
            subst same
            exact .url _
          · intro same
            cases same with
            | url => exact ⟨rfl, rfl⟩
  | hash hexadecimal sized =>
      cases second with
      | hash _ size =>
          constructor
          · intro ⟨same, algorithm⟩
            cases algorithm
            exact .hash (hashAlgorithmOf_inj sized size) (String.ofList_inj.mp same)
          · intro same
            cases same with
            | hash equal folded =>
                rw [equal, size] at sized
                cases sized
                rw [folded]
                exact ⟨rfl, rfl⟩

/-! ### Printable texts -/

/-- A character that any indicator may have. -/
def Printable (char : Char) : Prop := isControl char = false ∧ isWhitespace char = false

instance : DecidablePred Printable := fun _ => inferInstanceAs (Decidable (_ ∧ _))

/-- A check of all characters. -/
theorem printable_of_all {chars : List Char}
    (all : chars.all (fun char => decide (Printable char)) = true) :
    ∀ char ∈ chars, Printable char :=
  fun char member => of_decide_eq_true (List.all_eq_true.mp all char member)

/-- A digit is printable. -/
theorem printable_digitChar : ∀ digit < 16, Printable digit.digitChar := by decide

/-- A number is printable. -/
theorem printable_toDigits {radix number : Nat} (two : 1 < radix) (within : radix ≤ 16) :
    ∀ char ∈ Nat.toDigits radix number, Printable char := by
  intro char member
  obtain ⟨digit, bound, rfl⟩ := IpAddr.mem_toDigits two member
  exact printable_digitChar digit (bound.trans_le within)

/-- An IPv4 address is printable. -/
theorem printable_formatIpv4 (one two three four : UInt8) :
    ∀ char ∈ IpAddr.formatIpv4 one two three four, Printable char := by
  have digits : ∀ octet : UInt8, ∀ char ∈ Nat.toDigits 10 octet.toNat, Printable char :=
    fun _ => printable_toDigits (by decide) (by decide)
  have dot : Printable '.' := by decide
  intro char member
  simp only [IpAddr.formatIpv4, List.mem_append, List.mem_cons] at member
  rcases member with ((member | rfl | member) | rfl | member) | rfl | member
  · exact digits _ _ member
  · exact dot
  · exact digits _ _ member
  · exact dot
  · exact digits _ _ member
  · exact dot
  · exact digits _ _ member

/-- The segments of an IPv6 address are printable. -/
theorem printable_formatSegments (segments : List UInt16) :
    ∀ char ∈ IpAddr.formatSegments segments, Printable char := by
  have digits : ∀ segment : UInt16, ∀ char ∈ Nat.toDigits 16 segment.toNat, Printable char :=
    fun _ => printable_toDigits (by decide) (by decide)
  intro char member
  cases segments with
  | nil => cases member
  | cons first tail =>
      simp only [IpAddr.formatSegments, List.mem_append, List.mem_flatMap, List.mem_cons] at member
      rcases member with member | ⟨segment, _, rfl | member⟩
      · exact digits _ _ member
      · decide
      · exact digits _ _ member

/-- An address is printable. -/
theorem printable_toString (address : IpAddr) :
    ∀ char ∈ address.toString.toList, Printable char := by
  have colons : ∀ char ∈ "::".toList, Printable char := printable_of_all (by decide)
  have mapped : ∀ char ∈ "::ffff:".toList, Printable char := printable_of_all (by decide)
  intro char member
  cases address with
  | v4 one two three four =>
      rw [IpAddr.toString, String.toList_ofList] at member
      exact printable_formatIpv4 _ _ _ _ char member
  | v6 segments =>
      rw [IpAddr.toString, String.toList_ofList] at member
      unfold IpAddr.formatIpv6 at member
      split at member
      · rcases List.mem_append.mp member with front | address
        · exact mapped char front
        · exact printable_formatIpv4 _ _ _ _ char address
      · dsimp only at member
        split at member
        · rcases List.mem_append.mp member with front | tail
          · rcases List.mem_append.mp front with head | gap
            · exact printable_formatSegments _ char head
            · exact colons char gap
          · exact printable_formatSegments _ char tail
        · exact printable_formatSegments _ char member

/-- A character has at most four bytes. -/
theorem utf8ByteSize_le (text : String) : text.utf8ByteSize ≤ text.toList.length * 4 := by
  rw [← length_utf8, utf8, List.length_flatMap]
  have sizes := List.sum_le_card_nsmul (text.toList.map fun char =>
    (String.utf8EncodeChar char).length) 4 (by
      intro size member
      obtain ⟨char, _, rfl⟩ := List.mem_map.mp member
      rw [String.length_utf8EncodeChar]
      exact char.utf8Size_le_four)
  rw [List.length_map] at sizes
  exact sizes

/-- The text of an address is plain. -/
theorem plain_toString (address : IpAddr) : Plain address.toString where
  nonempty := by
    intro empty
    have read := IpAddr.parse_toString address
    rw [empty] at read
    cases read
  short := by
    have chars := IpAddr.length_toString address
    have bytes := utf8ByteSize_le address.toString
    omega
  printable := printable_toString address

/-! ### Hexadecimal texts -/

/-- The lower case of a hexadecimal digit is one. -/
theorem toLower_hexadecimal : ∀ code < 128, isAsciiHexdigit (UInt8.ofNat code) = true →
    (String.utf8EncodeChar (Char.ofNat code).toLower).length = 1 ∧
      (String.utf8EncodeChar (Char.ofNat code).toLower).all isAsciiHexdigit = true ∧
      Printable (Char.ofNat code).toLower := by
  decide +kernel

/-- A character of hexadecimal bytes is a hexadecimal digit. -/
theorem char_hexadecimal {char : Char}
    (hexadecimal : ∀ byte ∈ String.utf8EncodeChar char, isAsciiHexdigit byte = true) :
    ∃ code < 128, char = Char.ofNat code ∧ isAsciiHexdigit (UInt8.ofNat code) = true := by
  cases bytes : String.utf8EncodeChar char with
  | nil => exact absurd bytes String.utf8EncodeChar_ne_nil
  | cons byte rest =>
      have digit : isAsciiHexdigit byte = true := by
        apply hexadecimal
        rw [bytes]
        exact List.mem_cons_self
      have small : byte.toNat < 128 := by
        simp only [isAsciiHexdigit, decide_eq_true_eq, UInt8.le_iff_toNat_le] at digit
        simp only [UInt8.reduceToNat] at digit
        omega
      refine ⟨byte.toNat, small, ?_, by rwa [UInt8.ofNat_toNat]⟩
      have same : String.utf8EncodeChar char ++ [] =
          String.utf8EncodeChar (Char.ofNat byte.toNat) ++ rest := by
        rw [bytes, utf8EncodeChar_ascii _ small, UInt8.ofNat_toNat, List.append_nil,
          List.singleton_append]
      exact (utf8EncodeChar_prefixFree _ _ _ _ same).1

section Lowered

variable {value : String}

/-- The characters of a hexadecimal text are digits. -/
theorem all_hexadecimal (hexadecimal : (utf8 value).all isAsciiHexdigit = true) :
    ∀ char ∈ value.toList, ∃ code < 128, char = Char.ofNat code ∧
      isAsciiHexdigit (UInt8.ofNat code) = true := by
  intro char member
  apply char_hexadecimal
  intro byte inside
  exact List.all_eq_true.mp hexadecimal byte (List.mem_flatMap.mpr ⟨char, member, inside⟩)

/-- A hexadecimal text in small letters is as long, hexadecimal and plain. -/
theorem plain_lowered (plain : Plain value)
    (hexadecimal : (utf8 value).all isAsciiHexdigit = true) :
    (String.ofList (toAsciiLowercase value.toList)).utf8ByteSize = value.utf8ByteSize ∧
      (utf8 (.ofList (toAsciiLowercase value.toList))).all isAsciiHexdigit = true ∧
      Plain (.ofList (toAsciiLowercase value.toList)) := by
  have chars := all_hexadecimal hexadecimal
  have size : (String.ofList (toAsciiLowercase value.toList)).utf8ByteSize =
      value.utf8ByteSize := by
    rw [← length_utf8, ← length_utf8, utf8, utf8, String.toList_ofList, toAsciiLowercase,
      List.length_flatMap, List.length_flatMap, List.map_map]
    congr 1
    apply List.map_congr_left
    intro char member
    obtain ⟨code, ascii, rfl, digit⟩ := chars char member
    rw [utf8EncodeChar_ascii code ascii]
    exact (toLower_hexadecimal code ascii digit).1
  refine ⟨size, ?_, ?_, size ▸ plain.short, ?_⟩
  · apply List.all_eq_true.mpr
    intro byte member
    rw [utf8, String.toList_ofList] at member
    obtain ⟨lowered, inside, here⟩ := List.mem_flatMap.mp member
    obtain ⟨char, original, rfl⟩ := List.mem_map.mp inside
    obtain ⟨code, ascii, rfl, digit⟩ := chars char original
    exact List.all_eq_true.mp (toLower_hexadecimal code ascii digit).2.1 byte here
  · intro empty
    have none_ := congrArg String.toList empty
    rw [String.toList_ofList, toAsciiLowercase] at none_
    have nothing : value.toList = [] := List.map_eq_nil_iff.mp none_
    exact plain.nonempty (String.toList_eq_nil_iff.mp nothing)
  · intro lowered member
    rw [String.toList_ofList] at member
    obtain ⟨char, original, rfl⟩ := List.mem_map.mp member
    obtain ⟨code, ascii, rfl, digit⟩ := chars char original
    exact (toLower_hexadecimal code ascii digit).2.2

end Lowered

/-- What an indicator is looked up by is accepted, and looked up by itself. -/
theorem LooksUp.self {lookupValue : String} {algorithm : Option HashAlgorithm}
    (looksUp : LooksUp parser kind value lookupValue algorithm) (plain : Plain value) :
    Plain lookupValue ∧ LooksUp parser kind lookupValue lookupValue algorithm := by
  cases looksUp with
  | @ip _ address read => exact ⟨plain_toString address, .ip (IpAddr.parse_toString address)⟩
  | url valid => exact ⟨plain, .url valid⟩
  | hash hexadecimal sized =>
      obtain ⟨size, digits, accepted⟩ := plain_lowered plain hexadecimal
      have lowered := @LooksUp.hash parser _ _ digits (size ▸ sized)
      rw [String.toList_ofList, toAsciiLowercase_idem] at lowered
      exact ⟨accepted, lowered⟩

/-- A lookup value is valid and its own lookup value. -/
theorem validateIndicator_lookupValue {indicator : ValidatedIndicator}
    (valid : validateIndicator parser kind value = .ok indicator) :
    validateIndicator parser kind indicator.lookupValue = .ok {
      input := { kind, value := indicator.lookupValue }
      lookupValue := indicator.lookupValue
      hashAlgorithm := indicator.hashAlgorithm } := by
  obtain ⟨plain, _, looksUp⟩ := validateIndicator_eq_ok.mp valid
  obtain ⟨accepted, itself⟩ := looksUp.self plain
  exact validateIndicator_eq_ok.mpr ⟨accepted, rfl, itself⟩

end RustEnrich
