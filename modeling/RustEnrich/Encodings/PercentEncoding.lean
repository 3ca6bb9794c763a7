import RustEnrich.Collections.PrefixCode
import Mathlib.Data.UInt

/-!
# Percent encoding

Bytes as text, where some bytes are written as a character of their own and any other
as a percent sign and its two hexadecimal digits. The bytes can be told from the text
if no two of them are written as the same character, and none as a percent sign.
-/

namespace PercentEncoding

/-- The upper case digit of a value below 16. -/
def upperHex (value : Nat) : Char := "0123456789ABCDEF".toList.getD value '0'

/-- A byte, where `plain` is the character of a byte that has its own. -/
def code (plain : UInt8 → Option Char) (byte : UInt8) : List Char :=
  match plain byte with
  | some char => [char]
  | none => ['%', upperHex (byte.toNat / 16), upperHex (byte.toNat % 16)]

/-- Bytes that are not plain are written in hexadecimal. -/
def encode (plain : UInt8 → Option Char) (bytes : List UInt8) : List Char :=
  bytes.flatMap (code plain)

/-- The characters of bytes are told apart, from each other and from an escape. -/
structure Distinct (plain : UInt8 → Option Char) : Prop where
  injective : ∀ left right char, plain left = some char → plain right = some char → left = right
  unescaped : ∀ byte, plain byte ≠ some '%'

/-- A way back from the characters. -/
theorem Distinct.of_inverse {plain : UInt8 → Option Char} (back : Char → UInt8)
    (inverse : ∀ number < 256, (plain (.ofNat number)).all
      (fun char => back char = .ofNat number ∧ char ≠ '%') = true) : Distinct plain := by
  have each : ∀ byte char, plain byte = some char → back char = byte ∧ char ≠ '%' := by
    intro byte char written
    have told := inverse byte.toNat byte.toNat_lt
    rw [UInt8.ofNat_toNat, written] at told
    exact of_decide_eq_true told
  constructor
  · intro left right char written again
    rw [← (each left char written).1, (each right char again).1]
  · intro byte written
    exact (each byte '%' written).2 rfl

/-- A digit tells its value. -/
theorem upperHex_injective : ∀ left < 16, ∀ right < 16, upperHex left = upperHex right →
    left = right := by
  decide

/-- A digit is one of sixteen. -/
theorem upperHex_mem : ∀ value < 16, upperHex value ∈ "0123456789ABCDEF".toList := by
  decide

variable {plain : UInt8 → Option Char}

/-- No byte is written as nothing. -/
theorem code_ne_nil (plain : UInt8 → Option Char) (byte : UInt8) : code plain byte ≠ [] := by
  unfold code
  split <;> exact List.cons_ne_nil _ _

/-- With distinct plain characters no code begins with another. -/
theorem Distinct.prefixFree (distinct : Distinct plain) :
    PrefixCode.PrefixFree (code plain) := by
  intro left right rest others same
  unfold code at same
  split at same
  · rename_i char written
    split at same
    · rename_i other again
      obtain ⟨rfl, tails⟩ := List.cons.inj same
      exact ⟨distinct.injective _ _ _ written again, tails⟩
    · obtain ⟨rfl, _⟩ := List.cons.inj same
      exact absurd written (distinct.unescaped left)
  · split at same
    · rename_i other again
      obtain ⟨rfl, _⟩ := List.cons.inj same
      exact absurd again (distinct.unescaped right)
    · simp only [List.cons_append, List.nil_append, List.cons.injEq, true_and] at same
      obtain ⟨high, low, tails⟩ := same
      have bound := left.toNat_lt
      have limit := right.toNat_lt
      have front := upperHex_injective _ (by omega) _ (by omega) high
      have back := upperHex_injective _ (by omega) _ (by omega) low
      exact ⟨UInt8.toNat_inj.mp (by omega), tails⟩

/-- The text determines the bytes. -/
theorem Distinct.encode_injective (distinct : Distinct plain) :
    Function.Injective (encode plain) :=
  distinct.prefixFree.flatMap_injective (code_ne_nil plain)

/-- What a text is made of. -/
theorem mem_encode {bytes : List UInt8} {char : Char} (member : char ∈ encode plain bytes) :
    (∃ byte ∈ bytes, plain byte = some char) ∨ char = '%' ∨
      char ∈ "0123456789ABCDEF".toList := by
  obtain ⟨byte, inside, coded⟩ := List.mem_flatMap.mp member
  unfold code at coded
  split at coded
  · rename_i own written
    rw [List.mem_singleton] at coded
    exact Or.inl ⟨byte, inside, coded ▸ written⟩
  · have bound := byte.toNat_lt
    simp only [List.mem_cons, List.not_mem_nil, or_false] at coded
    rcases coded with rfl | rfl | rfl
    · exact Or.inr (Or.inl rfl)
    · exact Or.inr (Or.inr (upperHex_mem _ (by omega)))
    · exact Or.inr (Or.inr (upperHex_mem _ (by omega)))

/-- A text of bytes that have their own characters is unchanged. -/
theorem encode_plain {bytes : List UInt8} {text : List Char}
    (own : bytes.map plain = text.map some) : encode plain bytes = text := by
  induction bytes generalizing text with
  | nil =>
      cases text with
      | nil => rfl
      | cons => cases own
  | cons byte bytes ih =>
      cases text with
      | nil => cases own
      | cons char text =>
          obtain ⟨first, rest⟩ := List.cons.inj own
          have coded : code plain byte = [char] := by
            unfold code
            rw [first]
          rw [encode, List.flatMap_cons, coded, List.singleton_append]
          exact congrArg (char :: ·) (ih rest)

end PercentEncoding
