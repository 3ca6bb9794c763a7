import RustEnrich.Net.AddressText
import RustEnrich.Validation.Indicator

/-!
# Lookup values

The value an accepted indicator is looked up by, as a relation: the canonical
text of an address, a URL as it is, the lower case of a hash. It is accepted
itself, and looked up by itself.
-/

namespace RustEnrich

open Serialization

/-- What any indicator has to be. -/
structure Plain (value : String) : Prop where
  nonempty : value ≠ ""
  short : value.utf8ByteSize ≤ 4096
  printable : ∀ char ∈ value.toList, isControl char = false ∧ isWhitespace char = false

/-- A value of a kind, what it is looked up by and its algorithm. -/
inductive LooksUp (parser : UrlParser) :
    IndicatorKind → String → String → Option HashAlgorithm → Prop
  | ip {value : String} {address : IpAddr} (read : IpAddr.parse value = some address) :
      LooksUp parser .ip value address.toString none
  | url {value : String} (valid : validateUrl parser value = true) :
      LooksUp parser .url value value none
  | hash {value : String} {algorithm : HashAlgorithm}
      (hexadecimal : (utf8 value).all isAsciiHexdigit = true)
      (sized : hashAlgorithmOf value.utf8ByteSize = some algorithm) :
      LooksUp parser .hash value (.ofList (toAsciiLowercase value.toList)) (some algorithm)

/-- Small letters stay small. -/
theorem toAsciiLowercase_idem (text : List Char) :
    toAsciiLowercase (toAsciiLowercase text) = toAsciiLowercase text := by
  have lower : ∀ char : Char, char.toLower.toLower = char.toLower := by
    intro char
    unfold Char.toLower
    grind
  unfold toAsciiLowercase
  rw [List.map_map]
  exact List.map_congr_left fun char _ => lower char

variable {parser : UrlParser} {kind : IndicatorKind} {value : String}
  {indicator : ValidatedIndicator}

/-- What the first check refuses. -/
theorem not_plain_iff : (value = "" ∨ 4096 < value.utf8ByteSize ∨
    value.toList.any (fun char => isControl char || isWhitespace char) = true) ↔
      ¬ Plain value := by
  constructor
  · rintro (empty | long | unprintable) ⟨nonempty, short, printable⟩
    · exact nonempty empty
    · exact absurd long (not_lt.mpr short)
    · obtain ⟨char, member, bad⟩ := List.any_eq_true.mp unprintable
      obtain ⟨control, whitespace⟩ := printable char member
      rw [control, whitespace] at bad
      cases bad
  · intro refused
    by_contra accepted
    simp only [not_or, not_lt, List.any_eq_true, not_exists, not_and, Bool.or_eq_true,
      Bool.not_eq_true] at accepted
    exact refused ⟨accepted.1, accepted.2.1, accepted.2.2⟩

/-- Exactly these are accepted. -/
theorem validateIndicator_eq_ok :
    validateIndicator parser kind value = .ok indicator ↔
      Plain value ∧ indicator.input = { kind, value } ∧
        LooksUp parser kind value indicator.lookupValue indicator.hashAlgorithm := by
  unfold validateIndicator
  dsimp only
  by_cases accepted : Plain value
  · rw [if_neg (fun refused => not_plain_iff.mp refused accepted)]
    constructor
    · intro valid
      split at valid
      · cases valid
      · rename_i lookupValue algorithm found
        cases valid
        refine ⟨accepted, rfl, ?_⟩
        cases kind with
        | ip =>
            obtain ⟨address, read, same⟩ := Option.map_eq_some_iff.mp found
            cases same
            exact .ip read
        | url =>
            dsimp only at found
            split at found
            · rename_i valid
              cases found
              exact .url valid
            · cases found
        | hash =>
            dsimp only at found
            split at found
            · rename_i hexadecimal
              obtain ⟨kind, sized, same⟩ := Option.map_eq_some_iff.mp found
              cases same
              exact .hash hexadecimal sized
            · cases found
    · rintro ⟨_, input, looksUp⟩
      obtain ⟨input_, lookupValue, hashAlgorithm⟩ := indicator
      cases input
      dsimp only at looksUp
      cases looksUp with
      | ip read => simp only [read, Option.map_some]
      | url valid => simp only [valid, ↓reduceIte]
      | hash hexadecimal sized => simp only [hexadecimal, ↓reduceIte, sized, Option.map_some]
  · rw [if_pos (not_plain_iff.mpr accepted)]
    exact iff_of_false nofun fun valid => accepted valid.1

/-- A valid indicator is looked up by its lookup value. -/
theorem looksUp_of_valid (valid : validateIndicator parser kind value = .ok indicator) :
    LooksUp parser indicator.input.kind indicator.input.value indicator.lookupValue
      indicator.hashAlgorithm := by
  obtain ⟨_, input, looksUp⟩ := validateIndicator_eq_ok.mp valid
  rw [input]
  exact looksUp

end RustEnrich
