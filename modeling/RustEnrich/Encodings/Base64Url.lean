import Mathlib.Data.List.Basic
import Mathlib.Data.UInt

/-!
# Base64 for URLs

The alphabet of URLs and file names, without padding. Three bytes are four digits, and
a rest of one or two bytes is as many digits as hold it, so that a text is read back
without its length.
-/

namespace Base64Url

/-- The digits, by their values. -/
def alphabet : List Char :=
  "ABCDEFGHIJKLMNOPQRSTUVWXYZabcdefghijklmnopqrstuvwxyz0123456789-_".toList

/-- The digit of a number below 64. -/
def digit (value : Nat) : Char := alphabet.getD value 'A'

/-- The number of a digit. -/
def value (char : Char) : Nat := alphabet.idxOf char

/-- Three bytes in four digits, without padding. -/
def encode : List UInt8 → List Char
  | [] => []
  | [one] => [digit (one.toNat / 4), digit (one.toNat % 4 * 16)]
  | [one, two] =>
      [digit (one.toNat / 4), digit (one.toNat % 4 * 16 + two.toNat / 16),
        digit (two.toNat % 16 * 4)]
  | one :: two :: three :: rest =>
      digit (one.toNat / 4) :: digit (one.toNat % 4 * 16 + two.toNat / 16) ::
        digit (two.toNat % 16 * 4 + three.toNat / 64) :: digit (three.toNat % 64) :: encode rest

/-- Four digits in three bytes. -/
def decode : List Char → List UInt8
  | one :: two :: three :: four :: rest =>
      .ofNat (value one * 4 + value two / 16) ::
        .ofNat (value two % 16 * 16 + value three / 4) ::
          .ofNat (value three % 4 * 64 + value four) :: decode rest
  | [one, two, three] =>
      [.ofNat (value one * 4 + value two / 16), .ofNat (value two % 16 * 16 + value three / 4)]
  | [one, two] => [.ofNat (value one * 4 + value two / 16)]
  | _ => []

/-- The number of a digit is read back. -/
theorem value_digit : ∀ number < 64, value (digit number) = number := by
  decide +kernel

/-- A digit is in the alphabet. -/
theorem digit_mem : ∀ number < 64, digit number ∈ alphabet := by
  decide +kernel

/-- A byte is read back from its two parts. -/
theorem ofNat_eq {byte : UInt8} {number : Nat} (same : number = byte.toNat) :
    UInt8.ofNat number = byte := by
  rw [same, UInt8.ofNat_toNat]

/-- The bytes are read back. -/
theorem decode_encode (bytes : List UInt8) : decode (encode bytes) = bytes := by
  induction bytes using encode.induct with
  | case1 => rfl
  | case2 one =>
      have bound := one.toNat_lt
      simp only [encode, decode]
      rw [value_digit _ (by omega), value_digit _ (by omega), @ofNat_eq one _ (by omega)]
  | case3 one two =>
      have bound := one.toNat_lt
      have limit := two.toNat_lt
      simp only [encode, decode]
      rw [value_digit _ (by omega), value_digit _ (by omega), value_digit _ (by omega)]
      rw [@ofNat_eq one _ (by omega), @ofNat_eq two _ (by omega)]
  | case4 one two three rest ih =>
      have bound := one.toNat_lt
      have limit := two.toNat_lt
      have last := three.toNat_lt
      simp only [encode, decode]
      rw [value_digit _ (by omega), value_digit _ (by omega), value_digit _ (by omega),
        value_digit _ (by omega), ih]
      rw [@ofNat_eq one _ (by omega), @ofNat_eq two _ (by omega), @ofNat_eq three _ (by omega)]

/-- The digits tell the bytes. -/
theorem encode_injective : Function.Injective encode :=
  Function.LeftInverse.injective decode_encode

/-- An encoded text is of the alphabet. -/
theorem mem_encode {bytes : List UInt8} {char : Char} (member : char ∈ encode bytes) :
    char ∈ alphabet := by
  induction bytes using encode.induct with
  | case1 => cases member
  | case2 one =>
      have bound := one.toNat_lt
      simp only [encode, List.mem_cons, List.not_mem_nil, or_false] at member
      rcases member with rfl | rfl <;> exact digit_mem _ (by omega)
  | case3 one two =>
      have bound := one.toNat_lt
      have limit := two.toNat_lt
      simp only [encode, List.mem_cons, List.not_mem_nil, or_false] at member
      rcases member with rfl | rfl | rfl <;> exact digit_mem _ (by omega)
  | case4 one two three rest ih =>
      have bound := one.toNat_lt
      have limit := two.toNat_lt
      have last := three.toNat_lt
      simp only [encode, List.mem_cons] at member
      rcases member with rfl | rfl | rfl | rfl | later
      · exact digit_mem _ (by omega)
      · exact digit_mem _ (by omega)
      · exact digit_mem _ (by omega)
      · exact digit_mem _ (by omega)
      · exact ih later

end Base64Url
