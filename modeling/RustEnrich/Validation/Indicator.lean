import RustEnrich.Serialization.Writer
import RustEnrich.Net.IpAddr
import Mathlib.Data.List.Infix

/-!
# Validated indicators

One indicator by itself: an address, an absolute HTTP(S) URL or a hash, and the
value it is looked up by. URLs are parsed for validation only, by the `url`
crate, whose answer is a parameter here.
-/

namespace RustEnrich

open Serialization

/-- What `validate_url` asks of a parsed URL. -/
structure ParsedUrl where
  scheme : String
  hostStr : Option String
  username : String
  password : Option String

/-- `Url::parse`. -/
abbrev UrlParser := String → Option ParsedUrl

/-- `char::is_control`. -/
def isControl (char : Char) : Bool :=
  char.toNat < 0x20 ∨ (0x7f ≤ char.toNat ∧ char.toNat ≤ 0x9f)

/-- `char::is_whitespace`. -/
def isWhitespace (char : Char) : Bool :=
  (0x9 ≤ char.toNat ∧ char.toNat ≤ 0xd) ∨ char.toNat = 0x20 ∨ char.toNat = 0x85 ∨
    char.toNat = 0xa0 ∨ char.toNat = 0x1680 ∨ (0x2000 ≤ char.toNat ∧ char.toNat ≤ 0x200a) ∨
    char.toNat = 0x2028 ∨ char.toNat = 0x2029 ∨ char.toNat = 0x202f ∨ char.toNat = 0x205f ∨
    char.toNat = 0x3000

/-- `u8::is_ascii_hexdigit`. -/
def isAsciiHexdigit (byte : UInt8) : Bool :=
  (48 ≤ byte ∧ byte ≤ 57) ∨ (65 ≤ byte ∧ byte ≤ 70) ∨ (97 ≤ byte ∧ byte ≤ 102)

/-- `to_ascii_lowercase`. -/
def toAsciiLowercase (text : List Char) : List Char := text.map Char.toLower

/-- `split_once`, at the first occurrence of the pattern. -/
def splitOnce (pattern : List Char) : List Char → Option (List Char × List Char)
  | [] => if pattern = [] then some ([], []) else none
  | char :: rest =>
      if pattern <+: char :: rest then some ([], (char :: rest).drop pattern.length)
      else (splitOnce pattern rest).map fun (before, after) => (char :: before, after)

/-- Every percent sign is followed by two hexadecimal digits. -/
def percentEscapes : List UInt8 → Bool
  | [] => true
  | byte :: rest =>
      (byte ≠ 37 ∨ (2 ≤ rest.length ∧ (rest.take 2).all isAsciiHexdigit)) ∧ percentEscapes rest

/-- The marks of an indicator that was made harmless. -/
def defangMarkers : List String := ["[.]", "(.)", "\x7b.\x7d", "[dot]", "(dot)", "\x7bdot\x7d"]

/-- `validate_url`. -/
def validateUrl (parser : UrlParser) (value : String) : Bool :=
  if '\\' ∈ value.toList then false
  else if !percentEscapes (utf8 value) then false
  else
    match splitOnce "://".toList value.toList with
    | none => false
    | some (scheme, remainder) =>
        if toAsciiLowercase scheme ≠ "http".toList ∧
            toAsciiLowercase scheme ≠ "https".toList then false
        else
          let authority := remainder.takeWhile fun char => char ∉ ['/', '?', '#']
          if authority = [] ∨ '@' ∈ authority ∨ authority.getLast? = some ':' then false
          else if
            defangMarkers.any (fun marker => marker.toList <:+: toAsciiLowercase authority)
          then
            false
          else
            match parser value with
            | none => false
            | some parsed =>
                (parsed.scheme = "http" ∨ parsed.scheme = "https") ∧ parsed.hostStr.isSome ∧
                  parsed.username = "" ∧ parsed.password.isNone

/-- The code and message of each kind. -/
def invalidIndicator : IndicatorKind → String × String
  | .ip => ("invalid_ip", "Expected one IPv4 or IPv6 address.")
  | .url => ("invalid_url", "Expected an absolute HTTP(S) URL without userinfo, whitespace, " ++
      "backslashes, or malformed escapes.")
  | .hash => ("invalid_hash", "Expected 32, 40, or 64 hexadecimal characters.")

/-- The algorithm a hash of a length is taken for. -/
def hashAlgorithmOf : Nat → Option HashAlgorithm
  | 32 => some .md5
  | 40 => some .sha1
  | 64 => some .sha256
  | _ => none

/-- A hash has at most 64 digits. -/
theorem le_of_hashAlgorithmOf {length : Nat} {algorithm : HashAlgorithm}
    (sized : hashAlgorithmOf length = some algorithm) : length ≤ 64 := by
  unfold hashAlgorithmOf at sized
  split at sized
  · decide
  · decide
  · decide
  · cases sized

/-- An indicator of a kind, or why the value is none. -/
def validateIndicator (parser : UrlParser) (kind : IndicatorKind) (value : String) :
    Except (String × String) ValidatedIndicator :=
  let invalid := invalidIndicator kind
  if value = "" ∨ 4096 < value.utf8ByteSize ∨
      value.toList.any (fun char => isControl char || isWhitespace char) then
    .error invalid
  else
    let found : Option (String × Option HashAlgorithm) :=
      match kind with
      | .ip => (IpAddr.parse value).map fun address => (address.toString, none)
      | .url => if validateUrl parser value then some (value, none) else none
      | .hash =>
          if (utf8 value).all isAsciiHexdigit then
            (hashAlgorithmOf value.utf8ByteSize).map fun algorithm =>
              (.ofList (toAsciiLowercase value.toList), some algorithm)
          else none
    match found with
    | none => .error invalid
    | some (lookupValue, hashAlgorithm) =>
        .ok { input := { kind, value }, lookupValue, hashAlgorithm }

/-- What every accepted indicator has. -/
structure ValidatedIndicator.Accepted (indicator : ValidatedIndicator) : Prop where
  nonempty : indicator.input.value ≠ ""
  length : indicator.input.value.utf8ByteSize ≤ 4096
  printable : ∀ char ∈ indicator.input.value.toList, isControl char = false
  lookupValue : indicator.lookupValue = indicator.input.value ∨
    (∃ address : IpAddr, indicator.lookupValue = address.toString) ∨
    (indicator.input.value.utf8ByteSize ≤ 64 ∧
      indicator.lookupValue.toList = toAsciiLowercase indicator.input.value.toList)

/-- A valid indicator is the one asked for, and accepted. -/
theorem validateIndicator_ok {parser : UrlParser} {kind : IndicatorKind} {value : String}
    {indicator : ValidatedIndicator} (valid : validateIndicator parser kind value = .ok indicator) :
    indicator.input = { kind, value } ∧ indicator.Accepted := by
  unfold validateIndicator at valid
  dsimp only at valid
  split at valid
  · cases valid
  rename_i admitted
  simp only [not_or, List.any_eq_true, not_exists, not_and, Bool.or_eq_true,
    Bool.not_eq_true] at admitted
  obtain ⟨nonempty, short, plain⟩ := admitted
  split at valid
  · cases valid
  rename_i lookupValue algorithm found
  cases valid
  refine ⟨rfl, nonempty, not_lt.mp short, fun char member => (plain char member).1, ?_⟩
  cases kind with
  | ip =>
      obtain ⟨address, _, same⟩ := Option.map_eq_some_iff.mp found
      cases same
      exact Or.inr (Or.inl ⟨address, rfl⟩)
  | url =>
      dsimp only at found
      split at found
      · cases found
        exact Or.inl rfl
      · cases found
  | hash =>
      dsimp only at found
      split at found
      · obtain ⟨kind, sized, same⟩ := Option.map_eq_some_iff.mp found
        cases same
        exact Or.inr (Or.inr ⟨le_of_hashAlgorithmOf sized, String.toList_ofList⟩)
      · cases found

end RustEnrich
