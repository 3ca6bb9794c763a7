import RustEnrich.Serialization.Writer
import RustEnrich.Collections.PrefixCode

/-!
# A text has one document

The compact text of a document whose numbers are integers determines it, whatever
its strings contain: quotes and backslashes are escaped, and what follows a number
is never a digit.
-/

namespace RustEnrich.Serialization

open PrefixCode

/-! ### Characters -/

/-- No character begins with the bytes of another. -/
theorem utf8EncodeChar_prefixFree : PrefixFree String.utf8EncodeChar := by
  intro left right rest others same
  have bytes := congrArg (fun bytes => bytes.toByteArray.utf8DecodeChar? 0) same
  simp only [List.toByteArray_append, ByteArray.utf8DecodeChar?_utf8EncodeChar_append,
    Option.some.injEq] at bytes
  subst bytes
  exact ⟨rfl, List.append_cancel_left same⟩

/-- An ASCII character is one byte. -/
theorem utf8EncodeChar_ascii : ∀ code < 128,
    String.utf8EncodeChar (Char.ofNat code) = [UInt8.ofNat code] := by
  decide +kernel

/-- The bytes tell the text. -/
theorem utf8_injective : Function.Injective utf8 := by
  intro left right same
  have bytes := congrArg List.toByteArray same
  change left.toList.utf8Encode = right.toList.utf8Encode at bytes
  rw [String.utf8Encode_toList, String.utf8Encode_toList] at bytes
  exact String.toByteArray_inj.mp bytes

/-- The characters a string escapes. -/
def escapedChars : List Char := '\"' :: '\\' :: (List.range 32).map Char.ofNat

/-- No escape is the start of another one. -/
theorem escape_distinct {left right : Char} (first : left ∈ escapedChars)
    (second : right ∈ escapedChars) (start : escape left <+: escape right) : left = right := by
  have all : escapedChars.all (fun left => escapedChars.all fun right =>
      decide (escape left <+: escape right → left = right)) = true := by decide +kernel
  exact of_decide_eq_true
    (List.all_eq_true.mp (List.all_eq_true.mp all left first) right second) start

/-- An escape starts with a backslash. -/
theorem escape_head {char : Char} (escaped : char ∈ escapedChars) :
    escape char = String.utf8EncodeChar '\\' ++ (escape char).tail := by
  have all : escapedChars.all (fun char =>
      decide (escape char = String.utf8EncodeChar '\\' ++ (escape char).tail)) = true := by
    decide +kernel
  exact of_decide_eq_true (List.all_eq_true.mp all char escaped)

/-- A plain character is not escaped. -/
theorem escape_plain {char : Char} (plain : char ∉ escapedChars) :
    escape char = String.utf8EncodeChar char := by
  have printable : ¬ char.toNat < 32 := by
    intro control
    apply plain
    apply List.mem_cons_of_mem
    apply List.mem_cons_of_mem
    exact List.mem_map.mpr ⟨char.toNat, List.mem_range.mpr control, Char.ofNat_toNat char⟩
  have other : ∀ escaped ∈ escapedChars, char ≠ escaped := by
    intro escaped member same
    exact plain (same ▸ member)
  unfold escape
  rw [if_neg (other _ (by decide)), if_neg (other _ (by decide)), if_neg (other _ (by decide)),
    if_neg (other _ (by decide)), if_neg (other _ (by decide)), if_neg (other _ (by decide)),
    if_neg (other _ (by decide)), if_neg printable]

/-- A plain character is told from a backslash. -/
theorem escape_plain_ne {char : Char} (plain : char ∉ escapedChars) {stop : Char}
    (escaped : stop ∈ escapedChars) (rest others : List UInt8) :
    escape char ++ rest ≠ String.utf8EncodeChar stop ++ others := by
  intro same
  rw [escape_plain plain] at same
  obtain ⟨rfl, _⟩ := utf8EncodeChar_prefixFree _ _ _ _ same
  exact plain escaped

/-- No escape begins with another. -/
theorem escape_prefixFree : PrefixFree escape := by
  intro left right rest others same
  by_cases first : left ∈ escapedChars
  · by_cases second : right ∈ escapedChars
    · exact eq_of_append same (escape_distinct first second) (escape_distinct second first)
    · rw [escape_head first, List.append_assoc] at same
      exact absurd same.symm (escape_plain_ne second (by decide) _ _)
  · by_cases second : right ∈ escapedChars
    · rw [escape_head second, List.append_assoc] at same
      exact absurd same (escape_plain_ne first (by decide) _ _)
    · rw [escape_plain first, escape_plain second] at same
      exact utf8EncodeChar_prefixFree _ _ _ _ same

/-! ### Strings -/

/-- No quoted text begins with another. -/
theorem quoted_prefixFree : PrefixFree quoted := by
  intro left right rest others same
  have quote : utf8 "\"" = String.utf8EncodeChar '\"' := by decide
  have stop : String.utf8EncodeChar '\"' = [34] := by decide
  unfold quoted at same
  simp only [List.append_assoc] at same
  have inner := List.append_cancel_left same
  rw [quote, stop, List.singleton_append, List.singleton_append] at inner
  have unlike : ∀ char rest others, escape char ++ rest ≠ (34 : UInt8) :: others := by
    intro char rest others same
    by_cases escaped : char ∈ escapedChars
    · rw [escape_head escaped] at same
      exact absurd (List.cons.inj same).1 (by decide)
    · exact escape_plain_ne escaped (by decide : '\"' ∈ escapedChars) rest others same
  obtain ⟨chars, rfl⟩ := escape_prefixFree.flatMap unlike inner
  exact ⟨String.toList_injective chars, rfl⟩

/-! ### Numbers -/

/-- The byte of a digit. -/
def isDigitByte (byte : UInt8) : Bool := 48 ≤ byte ∧ byte ≤ 57

/-- The codes of the digits are their bytes. -/
theorem isDigitByte_ofNat : ∀ code < 128, 48 ≤ code → code ≤ 57 →
    isDigitByte (UInt8.ofNat code) = true := by
  decide

/-- A digit is written in the byte of a digit. -/
theorem isDigitByte_digit {digit : Char} (ascii : digit.isDigit = true) :
    ∀ byte ∈ String.utf8EncodeChar digit, isDigitByte byte = true := by
  have bounds : 48 ≤ digit.toNat ∧ digit.toNat ≤ 57 := by
    simp only [Char.isDigit, Bool.and_eq_true, decide_eq_true_eq] at ascii
    exact ascii
  have small : digit.toNat < 128 := by omega
  intro byte member
  rw [← Char.ofNat_toNat digit, utf8EncodeChar_ascii digit.toNat small,
    List.mem_singleton] at member
  rw [member]
  exact isDigitByte_ofNat digit.toNat small bounds.1 bounds.2

/-- A number is written in the bytes of digits. -/
theorem isDigitByte_repr (number : Nat) : ∀ byte ∈ utf8 number.repr, isDigitByte byte = true := by
  intro byte member
  unfold utf8 at member
  rw [Nat.toList_repr] at member
  obtain ⟨digit, inside, member⟩ := List.mem_flatMap.mp member
  exact isDigitByte_digit (Nat.isDigit_of_mem_toDigits (by decide) (by decide) inside) byte member

/-- The digits tell the number. -/
theorem repr_injective : Function.Injective Nat.repr := by
  intro left right same
  have digits := congrArg (fun text => Nat.ofDigitChars 10 text.toList 0) same
  simpa only [Nat.toList_repr, Nat.ofDigitChars_ten_toDigits] using digits

/-- What follows a number does not continue it. -/
def Stops (rest : List UInt8) : Prop := ∀ byte ∈ rest.head?, isDigitByte byte = false

/-- A number ends where its digits stop. -/
theorem repr_append {left right : Nat} {rest others : List UInt8} (stops : Stops rest)
    (stopped : Stops others) (same : utf8 left.repr ++ rest = utf8 right.repr ++ others) :
    left = right ∧ rest = others := by
  obtain ⟨text, rfl⟩ := eq_of_span same (isDigitByte_repr left) (isDigitByte_repr right) stops
    stopped
  exact ⟨repr_injective (utf8_injective text), rfl⟩

/-- A negative integer is a minus sign before its size. -/
theorem negative_text {value : Int64} (below : value < 0) :
    utf8 value.toInt.repr = 45 :: utf8 value.toInt.natAbs.repr := by
  have less : value.toInt < 0 := Int64.lt_iff_toInt_lt.mp below
  rw [Int.repr_eq_if, if_neg (not_le.mpr less)]
  have size : (-value.toInt).toNat = value.toInt.natAbs := by omega
  rw [size]
  unfold utf8
  rw [String.toList_append, List.flatMap_append]
  rfl

/-! ### Documents -/

/-- Every number of a document is an integer, with a sign only if it is negative. -/
inductive Integral : Value → Prop
  | null : Integral .null
  | bool (value : Bool) : Integral (.bool value)
  | number (value : UInt64) : Integral (.number (.posInt value))
  | negative {value : Int64} (below : value < 0) : Integral (.number (.negInt value))
  | string (value : String) : Integral (.string value)
  | array {values : List Value} (all : ∀ value ∈ values, Integral value) : Integral (.array values)
  | object {members : List (String × Value)} (all : ∀ member ∈ members, Integral member.2) :
      Integral (.object members)

/-- What the first byte of a text says of its document. -/
inductive Lead
  | null
  | bool (value : Bool)
  | number
  | negative
  | string
  | array
  | object

/-- The kind of value that a byte begins. -/
def leadOf (byte : UInt8) : Option Lead :=
  if byte = 110 then some .null
  else if byte = 116 then some (.bool true)
  else if byte = 102 then some (.bool false)
  else if isDigitByte byte then some .number
  else if byte = 45 then some .negative
  else if byte = 34 then some .string
  else if byte = 91 then some .array
  else if byte = 123 then some .object
  else none

/-- The kind of a value. -/
def lead : Value → Lead
  | .null => .null
  | .bool value => .bool value
  | .number (.negInt _) => .negative
  | .number _ => .number
  | .string _ => .string
  | .array _ => .array
  | .object _ => .object

/-- A digit begins a number. -/
theorem leadOf_digit {byte : UInt8} (digit : isDigitByte byte = true) :
    leadOf byte = some .number := by
  have other : ∀ letter : UInt8, isDigitByte letter = false → byte ≠ letter := by
    intro letter nondigit same
    rw [same, nondigit] at digit
    cases digit
  unfold leadOf
  rw [if_neg (other 110 (by decide)), if_neg (other 116 (by decide)),
    if_neg (other 102 (by decide)), if_pos digit]

variable {float : UInt64 → String}

/-- The first byte tells the kind of a value. -/
theorem leadOf_text {value : Value} (integral : Integral value) :
    ∃ head tail, text float value = head :: tail ∧ leadOf head = some (lead value) := by
  cases integral with
  | null => exact ⟨_, _, rfl, rfl⟩
  | bool value => cases value <;> exact ⟨_, _, rfl, rfl⟩
  | number value =>
      cases digits : utf8 value.toNat.repr with
      | nil =>
          have empty := utf8_injective (digits.trans (by rfl : [] = utf8 ""))
          have none_ := congrArg String.toList empty
          rw [Nat.toList_repr] at none_
          exact absurd none_ Nat.toDigits_ne_nil
      | cons head tail =>
          refine ⟨head, tail, digits, ?_⟩
          apply leadOf_digit
          apply isDigitByte_repr value.toNat
          rw [digits]
          exact List.mem_cons_self
  | negative below => exact ⟨45, _, negative_text below, rfl⟩
  | string value => exact ⟨_, _, rfl, rfl⟩
  | array all => exact ⟨_, _, rfl, rfl⟩
  | object all => exact ⟨_, _, rfl, rfl⟩

/-- Texts that go on alike start alike. -/
theorem lead_eq {left right : Value} (first : Integral left) (second : Integral right)
    {rest others : List UInt8} (same : text float left ++ rest = text float right ++ others) :
    lead left = lead right := by
  obtain ⟨head, tail, starts, leads⟩ := @leadOf_text float left first
  obtain ⟨other, _, begins, begun⟩ := @leadOf_text float right second
  rw [starts, begins] at same
  have heads : head = other := (List.cons.inj same).1
  rw [heads, begun] at leads
  exact (Option.some.inj leads).symm

/-- No text starts like a closing bracket. -/
theorem text_ne_closing {value : Value} (integral : Integral value) {closing : UInt8}
    (closes : leadOf closing = none) (rest others : List UInt8) :
    text float value ++ rest ≠ closing :: others := by
  intro same
  obtain ⟨head, tail, starts, leads⟩ := @leadOf_text float value integral
  rw [starts] at same
  have heads : head = closing := (List.cons.inj same).1
  rw [heads, closes] at leads
  cases leads

/-- A document is told from its text and what follows. -/
def Told (float : UInt64 → String) (value : Value) : Prop :=
  ∀ other, Integral other → ∀ rest others, Stops rest → Stops others →
    text float value ++ rest = text float other ++ others → value = other ∧ rest = others

/-- A number stops before any other byte. -/
theorem stops_cons {byte : UInt8} (nondigit : isDigitByte byte = false) (rest : List UInt8) :
    Stops (byte :: rest) := by
  intro head here
  cases here
  exact nondigit

/-- A number stops before the next element. -/
theorem stops_elements (values : List Value) (rest : List UInt8) :
    Stops (elementsText float false values ++ 93 :: rest) := by
  cases values with
  | nil => exact stops_cons (by decide) rest
  | cons value values => exact stops_cons (by decide : isDigitByte 44 = false) _

/-- A number stops before the next member. -/
theorem stops_members (members : List (String × Value)) (rest : List UInt8) :
    Stops (membersText float false members ++ 125 :: rest) := by
  cases members with
  | nil => exact stops_cons (by decide) rest
  | cons member members => exact stops_cons (by decide : isDigitByte 44 = false) _

/-- Another element, or the end. -/
theorem separated_ne {value : Value} (integral : Integral value) (first : Bool)
    (rest others : List UInt8) :
    separator first ++ (text float value ++ rest) ≠ 93 :: others := by
  cases first with
  | true => exact text_ne_closing integral (by decide) rest others
  | false =>
      intro same
      exact absurd (List.cons.inj same).1 (by decide)

/-- The text of an array tells its values. -/
theorem elements_told {values others : List Value} (told : ∀ value ∈ values, Told float value)
    (integral : ∀ value ∈ values, Integral value) (all : ∀ value ∈ others, Integral value)
    {first : Bool} {rest after : List UInt8}
    (same : elementsText float first values ++ 93 :: rest =
      elementsText float first others ++ 93 :: after) : values = others ∧ rest = after := by
  induction values generalizing others first with
  | nil =>
      cases others with
      | nil => exact ⟨rfl, (List.cons.inj same).2⟩
      | cons other others =>
          simp only [elementsText, List.nil_append, List.append_assoc] at same
          exact absurd same.symm (separated_ne (all other List.mem_cons_self) first _ _)
  | cons value values ih =>
      obtain ⟨here, later⟩ := List.forall_mem_cons.mp told
      obtain ⟨number, numbers⟩ := List.forall_mem_cons.mp integral
      cases others with
      | nil =>
          simp only [elementsText, List.nil_append, List.append_assoc] at same
          exact absurd same (separated_ne number first _ _)
      | cons other others =>
          obtain ⟨element, elements⟩ := List.forall_mem_cons.mp all
          simp only [elementsText, List.append_assoc] at same
          obtain ⟨rfl, rest_⟩ := here other element _ _ (stops_elements values rest)
            (stops_elements others after) (List.append_cancel_left same)
          obtain ⟨rfl, rfl⟩ := ih later numbers elements rest_
          exact ⟨rfl, rfl⟩

/-- Another member, or the end. -/
theorem member_ne (key : String) (first : Bool) (rest others : List UInt8) :
    separator first ++ (quoted key ++ rest) ≠ 125 :: others := by
  intro same
  cases first with
  | true => exact absurd (List.cons.inj same).1 (by decide)
  | false => exact absurd (List.cons.inj same).1 (by decide)

/-- The text of an object tells its members. -/
theorem members_told {members others : List (String × Value)}
    (told : ∀ member ∈ members, Told float member.2)
    (all : ∀ member ∈ others, Integral member.2) {first : Bool} {rest after : List UInt8}
    (same : membersText float first members ++ 125 :: rest =
      membersText float first others ++ 125 :: after) : members = others ∧ rest = after := by
  induction members generalizing others first with
  | nil =>
      cases others with
      | nil => exact ⟨rfl, (List.cons.inj same).2⟩
      | cons other others =>
          obtain ⟨key, value⟩ := other
          simp only [membersText, List.nil_append, List.append_assoc] at same
          exact absurd same.symm (member_ne key first _ _)
  | cons member members ih =>
      obtain ⟨key, value⟩ := member
      obtain ⟨here, later⟩ := List.forall_mem_cons.mp told
      cases others with
      | nil =>
          simp only [membersText, List.nil_append, List.append_assoc] at same
          exact absurd same (member_ne key first _ _)
      | cons other others =>
          obtain ⟨name, content⟩ := other
          obtain ⟨element, elements⟩ := List.forall_mem_cons.mp all
          simp only [membersText, List.append_assoc] at same
          obtain ⟨rfl, after_⟩ := quoted_prefixFree _ _ _ _ (List.append_cancel_left same)
          obtain ⟨rfl, rest_⟩ := here content element _ _ (stops_members members rest)
            (stops_members others after) (List.append_cancel_left after_)
          obtain ⟨rfl, rfl⟩ := ih later elements rest_
          exact ⟨rfl, rfl⟩

/-- **A text has one document.** Two documents with the same text, even with
something after it that does not continue a number, are the same. -/
theorem Integral.told {value : Value} (integral : Integral value) : Told float value := by
  induction integral with
  | null =>
      intro other second rest others _ _ same
      have kind := lead_eq .null second same
      cases second with
      | null => exact ⟨rfl, List.append_cancel_left same⟩
      | _ => cases kind
  | bool value =>
      intro other second rest others _ _ same
      have kind := lead_eq (.bool value) second same
      cases second with
      | bool content =>
          cases kind
          exact ⟨rfl, List.append_cancel_left same⟩
      | _ => cases kind
  | number value =>
      intro other second rest others stops stopped same
      have kind := lead_eq (.number value) second same
      cases second with
      | number content =>
          obtain ⟨number, rfl⟩ := repr_append stops stopped same
          rw [UInt64.toNat_inj.mp number]
          exact ⟨rfl, rfl⟩
      | _ => cases kind
  | @negative value below =>
      intro other second rest others stops stopped same
      have kind := lead_eq (.negative below) second same
      cases second with
      | @negative content less =>
          simp only [text, numberText, negative_text below, negative_text less,
            List.cons_append] at same
          obtain ⟨size, rfl⟩ := repr_append stops stopped (List.cons.inj same).2
          have below := Int64.lt_iff_toInt_lt.mp below
          have less := Int64.lt_iff_toInt_lt.mp less
          have same : value.toInt = content.toInt := by
            simp only [Int64.toInt_zero] at below less
            omega
          rw [Int64.toInt_inj.mp same]
          exact ⟨rfl, rfl⟩
      | _ => cases kind
  | string value =>
      intro other second rest others _ _ same
      have kind := lead_eq (.string value) second same
      cases second with
      | string content =>
          obtain ⟨rfl, rfl⟩ := quoted_prefixFree _ _ _ _ same
          exact ⟨rfl, rfl⟩
      | _ => cases kind
  | @array values all ih =>
      intro other second rest others _ _ same
      have kind := lead_eq (.array all) second same
      cases second with
      | @array contents each =>
          simp only [text, List.append_assoc] at same
          obtain ⟨rfl, rfl⟩ := elements_told ih all each (List.append_cancel_left same)
          exact ⟨rfl, rfl⟩
      | _ => cases kind
  | @object members all ih =>
      intro other second rest others _ _ same
      have kind := lead_eq (.object all) second same
      cases second with
      | @object contents each =>
          simp only [text, List.append_assoc] at same
          obtain ⟨rfl, rfl⟩ := members_told ih each (List.append_cancel_left same)
          exact ⟨rfl, rfl⟩
      | _ => cases kind

/-- The text tells the document, where its numbers are integers. -/
theorem text_inj {left right : Value} (first : Integral left) (second : Integral right) :
    text float left = text float right ↔ left = right := by
  constructor
  · intro same
    have ends : Stops [] := fun _ none_ => by cases none_
    have both : text float left ++ [] = text float right ++ [] := by rw [same]
    exact (first.told right second [] [] ends ends both).1
  · intro same
    rw [same]

end RustEnrich.Serialization
