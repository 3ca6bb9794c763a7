import RustEnrich.Domain
import Mathlib.Data.Nat.Digits.Defs
import Mathlib.Algebra.Order.BigOperators.Group.List

/-!
# Compact JSON and its writers

The bytes `serde_json` produces for a document, without whitespace, and the two
writers of the service it is directed to: one counts, the other collects up to a
limit. A serializer hands its text to a writer in pieces, and where it cuts
decides nothing.
-/

namespace RustEnrich.Serialization

/-! ### The text of a document -/

/-- The bytes of a string. -/
def utf8 (text : String) : List UInt8 := text.toList.flatMap String.utf8EncodeChar

/-- A text has as many bytes as are written of it. -/
@[simp] theorem length_utf8 (text : String) : (utf8 text).length = text.utf8ByteSize := by
  rw [← String.size_toByteArray, ← String.utf8Encode_toList, List.utf8Encode,
    List.size_toByteArray]
  rfl

/-- A character of a string. Only quotes, backslashes and the control characters
below the space are escaped. -/
def escape (char : Char) : List UInt8 :=
  if char = '\"' then utf8 "\\\""
  else if char = '\\' then utf8 "\\\\"
  else if char = '\x08' then utf8 "\\b"
  else if char = '\x0c' then utf8 "\\f"
  else if char = '\n' then utf8 "\\n"
  else if char = '\r' then utf8 "\\r"
  else if char = '\t' then utf8 "\\t"
  else if char.toNat < 32 then
    utf8 (.ofList ['\\', 'u', '0', '0', (char.toNat / 16).digitChar, (char.toNat % 16).digitChar])
  else String.utf8EncodeChar char

/-- A text in quotes, escaped. -/
def quoted (text : String) : List UInt8 :=
  utf8 "\"" ++ text.toList.flatMap escape ++ utf8 "\""

/-- The digits of a number. -/
def numberText (float : UInt64 → String) : Number → List UInt8
  | .posInt value => utf8 value.toNat.repr
  | .negInt value => utf8 value.toInt.repr
  | .float bits => utf8 (float bits)

/-- The comma before all elements but the first. -/
def separator (first : Bool) : List UInt8 := if first then [] else utf8 ","

mutual

/-- `to_vec`, with the text of a float as the formatter prints it. -/
def text (float : UInt64 → String) : Value → List UInt8
  | .null => utf8 "null"
  | .bool value => utf8 (if value then "true" else "false")
  | .number value => numberText float value
  | .string value => quoted value
  | .array values => utf8 "[" ++ elementsText float true values ++ utf8 "]"
  | .object members => utf8 "\x7b" ++ membersText float true members ++ utf8 "\x7d"

/-- The elements of an array. -/
def elementsText (float : UInt64 → String) (first : Bool) : List Value → List UInt8
  | [] => []
  | value :: rest =>
      separator first ++ text float value ++ elementsText float false rest

/-- The members of an object. -/
def membersText (float : UInt64 → String) (first : Bool) : List (String × Value) → List UInt8
  | [] => []
  | (key, value) :: rest =>
      separator first ++ quoted key ++ utf8 ":" ++ text float value ++
        membersText float false rest

end

section Text

variable {float : UInt64 → String}

/-- The bytes of a member, without a comma. -/
def memberLength (float : UInt64 → String) (member : String × Value) : Nat :=
  (quoted member.1).length + 1 + (text float member.2).length

/-- Members behind the first are as long as each, with a comma each. -/
theorem length_membersText (members : List (String × Value)) :
    (membersText float false members).length =
      (members.map (memberLength float)).sum + members.length := by
  induction members with
  | nil => rfl
  | cons member rest ih =>
      have comma : (",").utf8ByteSize = 1 := by decide
      have colon : (":").utf8ByteSize = 1 := by decide
      simp only [membersText, separator, Bool.false_eq_true, if_false, List.length_append, ih,
        length_utf8, List.map_cons, List.sum_cons, List.length_cons, memberLength, comma, colon]
      omega

/-- Every member but the first takes a comma. -/
theorem length_object (members : List (String × Value)) :
    (text float (.object members)).length =
      2 + (members.map (memberLength float)).sum + (members.length - 1) := by
  have opening : ("\x7b").utf8ByteSize = 1 := by decide
  have closing : ("\x7d").utf8ByteSize = 1 := by decide
  have colon : (":").utf8ByteSize = 1 := by decide
  cases members with
  | nil => simp [text, membersText, opening, closing]
  | cons member rest =>
      simp only [text, membersText, separator, if_true, List.length_append, length_utf8, opening,
        closing, colon, length_membersText, List.length_nil, List.map_cons, List.sum_cons,
        List.length_cons, memberLength]
      omega

/-- Elements behind the first are as long as each, with a comma each. -/
theorem length_elementsText (values : List Value) :
    (elementsText float false values).length =
      (values.map fun value => (text float value).length).sum + values.length := by
  induction values with
  | nil => rfl
  | cons value rest ih =>
      have comma : (",").utf8ByteSize = 1 := by decide
      simp only [elementsText, separator, Bool.false_eq_true, if_false, List.length_append, ih,
        length_utf8, List.map_cons, List.sum_cons, List.length_cons, comma]
      omega

/-- An array is as long as its elements, with commas between and brackets around them.
-/
theorem length_array (values : List Value) :
    (text float (.array values)).length =
      2 + (values.map fun value => (text float value).length).sum + (values.length - 1) := by
  have opening : ("[").utf8ByteSize = 1 := by decide
  have closing : ("]").utf8ByteSize = 1 := by decide
  cases values with
  | nil => simp [text, elementsText, opening, closing]
  | cons value rest =>
      simp only [text, elementsText, separator, if_true, List.length_append, length_utf8, opening,
        closing, length_elementsText, List.length_nil, List.map_cons, List.sum_cons,
        List.length_cons]
      omega

end Text

/-! ### Writers -/

/-- The largest `usize` of a 64-bit target. -/
def usizeMax : Nat := 18446744073709551615

/-- A compact serializer: the texts it gives to floats and timestamps, and the
buffers it hands to a writer one after another. -/
structure Serializer where
  float : UInt64 → String
  timestamp : DateTime → String
  buffers : Value → List (List UInt8)
  compact : ∀ value, (buffers value).flatten = text float value

namespace Serializer

/-- A serializer that hands over a whole text at once. -/
def whole (float : UInt64 → String) (timestamp : DateTime → String) : Serializer where
  float
  timestamp
  buffers value := [text float value]
  compact value := by simp only [List.flatten_cons, List.flatten_nil, List.append_nil]

/-- `to_vec`. -/
def toVec (serializer : Serializer) (value : Value) : List UInt8 := text serializer.float value

/-- `to_writer`, into a writer that refuses a buffer with `none`. -/
def toWriter {Writer : Type} (serializer : Serializer)
    (write : Writer → List UInt8 → Option Writer) (writer : Writer) (value : Value) :
    Option Writer :=
  (serializer.buffers value).foldlM write writer

end Serializer

/-- A writer that counts. -/
structure CountingWriter where
  count : Nat
  deriving DecidableEq

/-- `checked_add`. -/
def CountingWriter.write (writer : CountingWriter) (buffer : List UInt8) :
    Option CountingWriter :=
  if writer.count + buffer.length ≤ usizeMax then some ⟨writer.count + buffer.length⟩ else none

/-- A writer with a limit. -/
structure LimitedWriter where
  bytes : List UInt8
  limit : Nat
  deriving DecidableEq

namespace LimitedWriter

/-- Nothing is written yet. -/
def new (limit : Nat) : LimitedWriter where
  bytes := []
  limit

/-- What does not fit is not written. -/
def write (writer : LimitedWriter) (buffer : List UInt8) : Option LimitedWriter :=
  if writer.limit - writer.bytes.length < buffer.length then none
  else some { writer with bytes := writer.bytes ++ buffer }

end LimitedWriter

/-- A count is a count of the whole, however it is cut. -/
theorem CountingWriter.write_all {buffers : List (List UInt8)} {writer : CountingWriter}
    (counting : writer.count ≤ usizeMax) :
    buffers.foldlM write writer =
      if writer.count + buffers.flatten.length ≤ usizeMax then
        some ⟨writer.count + buffers.flatten.length⟩
      else none := by
  induction buffers generalizing writer with
  | nil => simp [counting]
  | cons buffer rest ih =>
      simp only [List.foldlM_cons, List.flatten_cons, List.length_append, write]
      by_cases fits : writer.count + buffer.length ≤ usizeMax
      · simp only [if_pos fits, Option.bind_eq_bind, Option.bind_some]
        rw [ih fits]
        simp only [Nat.add_assoc]
      · rw [if_neg fits, if_neg (by omega)]
        rfl

/-- What is collected is the whole, and nothing where the whole does not fit. -/
theorem LimitedWriter.write_all {buffers : List (List UInt8)} {writer : LimitedWriter}
    (within : writer.bytes.length ≤ writer.limit) :
    buffers.foldlM write writer =
      if writer.bytes.length + buffers.flatten.length ≤ writer.limit then
        some { writer with bytes := writer.bytes ++ buffers.flatten }
      else none := by
  induction buffers generalizing writer with
  | nil => simp [within]
  | cons buffer rest ih =>
      simp only [List.foldlM_cons, List.flatten_cons, List.length_append, write]
      by_cases fits : writer.limit - writer.bytes.length < buffer.length
      · rw [if_pos fits, if_neg (by omega)]
        rfl
      · simp only [if_neg fits, Option.bind_eq_bind, Option.bind_some]
        rw [ih (by simp only [List.length_append]; omega)]
        simp only [List.length_append, List.append_assoc, Nat.add_assoc]

namespace Serializer

variable (serializer : Serializer) (value : Value)

/-- The counting writer counts the text, where the count can be represented. -/
theorem toWriter_counting :
    serializer.toWriter CountingWriter.write ⟨0⟩ value =
      if (serializer.toVec value).length ≤ usizeMax then
        some ⟨(serializer.toVec value).length⟩
      else none := by
  unfold toWriter toVec
  rw [CountingWriter.write_all (Nat.zero_le _), serializer.compact]
  simp only [Nat.zero_add]

/-- The limited writer has the text, where it fits. -/
theorem toWriter_limited (limit : Nat) :
    serializer.toWriter LimitedWriter.write (.new limit) value =
      if (serializer.toVec value).length ≤ limit then
        some { bytes := serializer.toVec value, limit }
      else none := by
  unfold toWriter toVec
  rw [LimitedWriter.write_all (Nat.zero_le _), serializer.compact]
  simp only [LimitedWriter.new, List.length_nil, Nat.zero_add, List.nil_append]

end Serializer

end RustEnrich.Serialization
