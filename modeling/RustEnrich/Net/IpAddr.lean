import Mathlib.Data.Nat.Digits.Defs
import Mathlib.Algebra.Order.BigOperators.Group.List

/-!
# Textual IP addresses

The parser and the formatter of `std::net::IpAddr`: dotted IPv4 without leading
zeros, IPv6 with one `::` and an IPv4 tail, and the canonical text of either.
-/

namespace RustEnrich

/-- An address of either version. -/
inductive IpAddr
  | v4 (one two three four : UInt8)
  | v6 (segments : Vector UInt16 8)
  deriving DecidableEq

namespace IpAddr

/-! ### Parsing -/

/-- `char::to_digit`. -/
def toDigit (radix : Nat) (char : Char) : Option Nat :=
  let value :=
    if '0' ≤ char ∧ char ≤ '9' then some (char.toNat - '0'.toNat)
    else if 'a' ≤ char ∧ char ≤ 'f' then some (char.toNat - 'a'.toNat + 10)
    else if 'A' ≤ char ∧ char ≤ 'F' then some (char.toNat - 'A'.toNat + 10)
    else none
  value.filter (· < radix)

/-- The loop of `read_number`: the value, how many digits it has, and the rest. -/
def readDigits (radix maxDigits : Nat) : Nat → Nat → List Char → Option (Nat × Nat × List Char)
  | result, count, [] => some (result, count, [])
  | result, count, char :: rest =>
      match toDigit radix char with
      | none => some (result, count, char :: rest)
      | some digit =>
          if maxDigits < count + 1 then none
          else readDigits radix maxDigits (result * radix + digit) (count + 1) rest

/-- A number with few digits. -/
def readNumber (radix maxDigits : Nat) (allowZeroPrefix : Bool) (input : List Char) :
    Option (Nat × List Char) :=
  let hasLeadingZero := input.head? = some '0'
  match readDigits radix maxDigits 0 0 input with
  | none => none
  | some (result, count, rest) =>
      if count = 0 then none
      else if !allowZeroPrefix ∧ hasLeadingZero ∧ 1 < count then none
      else some (result, rest)

/-- A given character. -/
def readGivenChar (target : Char) : List Char → Option (List Char)
  | [] => none
  | char :: rest => if char = target then some rest else none

/-- A part that follows a separator, unless it is the first one. -/
def readSeparator {α : Type} (separator : Char) (index : Nat)
    (inner : List Char → Option (α × List Char)) (input : List Char) :
    Option (α × List Char) :=
  if 0 < index then (readGivenChar separator input).bind inner else inner input

/-- A number of an IPv4 address. -/
def readOctet (index : Nat) (input : List Char) : Option (UInt8 × List Char) :=
  readSeparator '.' index (fun input =>
    match readNumber 10 3 false input with
    | none => none
    | some (number, rest) => if number < 256 then some (.ofNat number, rest) else none) input

/-- Four octets with dots. -/
def readIpv4 (input : List Char) : Option ((UInt8 × UInt8 × UInt8 × UInt8) × List Char) := do
  let (one, rest) ← readOctet 0 input
  let (two, rest) ← readOctet 1 rest
  let (three, rest) ← readOctet 2 rest
  let (four, rest) ← readOctet 3 rest
  some ((one, two, three, four), rest)

/-- `u16::from_be_bytes`. -/
def fromBeBytes (high low : UInt8) : UInt16 := .ofNat (256 * high.toNat + low.toNat)

/-- The groups from an index on, with room for as many as `left`: those read,
whether they end with an IPv4 address, and the rest. An IPv4 address needs two
places. -/
def readGroups : (left : Nat) → (index : Nat) → List Char → List UInt16 × Bool × List Char
  | 0, _, input => ([], false, input)
  | left + 1, index, input =>
      match (if 0 < left then readSeparator ':' index readIpv4 input else none) with
      | some ((one, two, three, four), rest) =>
          ([fromBeBytes one two, fromBeBytes three four], true, rest)
      | none =>
          match readSeparator ':' index (readNumber 16 4 true) input with
          | none => ([], false, input)
          | some (group, rest) =>
              let (groups, ipv4, rest) := readGroups left (index + 1) rest
              (.ofNat group :: groups, ipv4, rest)

/-- The segments with the head in front, the tail at the end and zeros between. -/
def segmentsOf (head tail : List UInt16) : Vector UInt16 8 :=
  .ofFn fun index =>
    (head ++ List.replicate (8 - head.length - tail.length) 0 ++ tail)[index]?.getD 0

/-- Eight segments, or fewer around a gap. -/
def readIpv6 (input : List Char) : Option (Vector UInt16 8 × List Char) :=
  let (head, headIpv4, rest) := readGroups 8 0 input
  if head.length = 8 then
    some (segmentsOf head [], rest)
  else if headIpv4 then
    none
  else do
    let rest ← readGivenChar ':' rest
    let rest ← readGivenChar ':' rest
    -- The `::` stands for at least one group.
    let (tail, _, rest) := readGroups (8 - (head.length + 1)) 0 rest
    some (segmentsOf head tail, rest)

/-- `str::parse::<IpAddr>`. -/
def parse (text : String) : Option IpAddr :=
  let read : Option (IpAddr × List Char) :=
    match readIpv4 text.toList with
    | some ((one, two, three, four), rest) => some (.v4 one two three four, rest)
    | none => (readIpv6 text.toList).map fun (segments, rest) => (.v6 segments, rest)
  match read with
  | some (address, []) => some address
  | _ => none

/-! ### Formatting -/

/-- Four octets with dots. -/
def formatIpv4 (one two three four : UInt8) : List Char :=
  Nat.toDigits 10 one.toNat ++ '.' :: Nat.toDigits 10 two.toNat ++ '.' ::
    Nat.toDigits 10 three.toNat ++ '.' :: Nat.toDigits 10 four.toNat

/-- A run of segments. -/
structure Span where
  start : Nat
  len : Nat

/-- The first of the longest runs of zeros, from an index on. -/
def longestZeroes : (index : Nat) → (longest current : Span) → List UInt16 → Span
  | _, longest, _, [] => longest
  | index, longest, current, segment :: rest =>
      if segment = 0 then
        let current : Span := {
          start := if current.len = 0 then index else current.start
          len := current.len + 1 }
        longestZeroes (index + 1) (if longest.len < current.len then current else longest)
          current rest
      else
        longestZeroes (index + 1) longest ⟨0, 0⟩ rest

/-- `fmt_subslice`. -/
def formatSegments : List UInt16 → List Char
  | [] => []
  | first :: tail =>
      Nat.toDigits 16 first.toNat ++
        tail.flatMap fun segment => ':' :: Nat.toDigits 16 segment.toNat

/-- `to_ipv4_mapped`. -/
def toIpv4Mapped : List UInt16 → Option (UInt8 × UInt8 × UInt8 × UInt8)
  | [0, 0, 0, 0, 0, 0xffff, high, low] =>
      some (.ofNat (high.toNat / 256), .ofNat (high.toNat % 256), .ofNat (low.toNat / 256),
        .ofNat (low.toNat % 256))
  | _ => none

/-- The segments, with the longest run of zeros left out. -/
def formatIpv6 (segments : List UInt16) : List Char :=
  match toIpv4Mapped segments with
  | some (one, two, three, four) => "::ffff:".toList ++ formatIpv4 one two three four
  | none =>
      let zeroes := longestZeroes 0 ⟨0, 0⟩ ⟨0, 0⟩ segments
      if 1 < zeroes.len then
        formatSegments (segments.take zeroes.start) ++ "::".toList ++
          formatSegments (segments.drop (zeroes.start + zeroes.len))
      else
        formatSegments segments

/-- The text of an address. -/
def toString : IpAddr → String
  | .v4 one two three four => .ofList (formatIpv4 one two three four)
  | .v6 segments => .ofList (formatIpv6 segments.toList)

/-! ### The length of the text -/

/-- An octet has at most three digits. -/
theorem length_toDigits_u8 (octet : UInt8) : (Nat.toDigits 10 octet.toNat).length ≤ 3 :=
  Nat.toDigits_length _ _ _ (by decide) (octet.toNat_lt.trans (by decide))

/-- A segment has at most four digits. -/
theorem length_toDigits_u16 (segment : UInt16) : (Nat.toDigits 16 segment.toNat).length ≤ 4 :=
  Nat.toDigits_length _ _ _ (by decide) (segment.toNat_lt.trans_le (by decide))

/-- An IPv4 address has at most 15 characters. -/
theorem length_formatIpv4 (one two three four : UInt8) :
    (formatIpv4 one two three four).length ≤ 15 := by
  have first := length_toDigits_u8 one
  have second := length_toDigits_u8 two
  have third := length_toDigits_u8 three
  have fourth := length_toDigits_u8 four
  simp only [formatIpv4, List.length_append, List.length_cons]
  omega

/-- A segment has at most four digits and a colon. -/
theorem length_formatSegments (segments : List UInt16) :
    (formatSegments segments).length ≤ 5 * segments.length := by
  cases segments with
  | nil => exact Nat.zero_le _
  | cons first tail =>
      have head := length_toDigits_u16 first
      have rest : (tail.flatMap fun segment => ':' :: Nat.toDigits 16 segment.toNat).length ≤
          5 * tail.length := by
        induction tail with
        | nil => exact Nat.zero_le _
        | cons segment tail ih =>
            have next := length_toDigits_u16 segment
            simp only [List.flatMap_cons, List.length_append, List.length_cons]
            omega
      simp only [formatSegments, List.length_append, List.length_cons]
      omega

/-- An IPv6 address has at most 42 characters here. -/
theorem length_formatIpv6 {segments : List UInt16} (eight : segments.length = 8) :
    (formatIpv6 segments).length ≤ 42 := by
  unfold formatIpv6
  split
  · rename_i one two three four _
    have mapped := length_formatIpv4 one two three four
    have marker : "::ffff:".toList.length = 7 := by decide
    rw [List.length_append, marker]
    omega
  · dsimp only
    split
    · rename_i zeroes _
      have front := length_formatSegments
        (segments.take (longestZeroes 0 ⟨0, 0⟩ ⟨0, 0⟩ segments).start)
      have back := length_formatSegments
        (segments.drop ((longestZeroes 0 ⟨0, 0⟩ ⟨0, 0⟩ segments).start +
          (longestZeroes 0 ⟨0, 0⟩ ⟨0, 0⟩ segments).len))
      have marker : "::".toList.length = 2 := by decide
      rw [List.length_take] at front
      rw [List.length_drop] at back
      rw [List.length_append, List.length_append, marker]
      omega
    · have whole := length_formatSegments segments
      omega

/-- No address takes more than 42 characters. -/
theorem length_toString (address : IpAddr) : address.toString.toList.length ≤ 42 := by
  cases address with
  | v4 one two three four =>
      have short := length_formatIpv4 one two three four
      rw [toString, String.toList_ofList]
      omega
  | v6 segments =>
      rw [toString, String.toList_ofList]
      exact length_formatIpv6 segments.length_toList

example : (parse "2001:0db8:0000::1").map toString = some "2001:db8::1" := by decide

example : (parse "::ffff:8.8.8.8").map toString = some "::ffff:8.8.8.8" := by decide

example : parse "010.0.0.1" = none := by decide

end IpAddr

end RustEnrich
