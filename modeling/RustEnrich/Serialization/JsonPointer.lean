import RustEnrich.Serialization.Document
import RustEnrich.Net.AddressText
import Mathlib.Data.List.Nodup

/-!
# JSON pointers

The pointers of RFC 6901: how one is cut into the names it follows, and which
value of a document it denotes. What is written for a list of names is read back
as these names, whatever slashes and tildes they have.
-/

namespace RustEnrich.JsonPointer

/-! ### Names -/

/-- Every tilde with the digit after it, replaced. -/
def replaceEscape (digit replacement : Char) : List Char → List Char
  | [] => []
  | [char] => [char]
  | first :: second :: rest =>
      if first = '~' ∧ second = digit then replacement :: replaceEscape digit replacement rest
      else first :: replaceEscape digit replacement (second :: rest)

/-- First `~1` is replaced, and then `~0`. -/
def unescape (text : List Char) : List Char := replaceEscape '0' '~' (replaceEscape '1' '/' text)

/-- A name with its tildes and slashes escaped. -/
def escape (name : List Char) : List Char :=
  name.flatMap fun char =>
    if char = '~' then ['~', '0'] else if char = '/' then ['~', '1'] else [char]

/-- A plain character is no escape. -/
theorem replaceEscape_plain {digit replacement char : Char} (plain : char ≠ '~')
    (rest : List Char) :
    replaceEscape digit replacement (char :: rest) =
      char :: replaceEscape digit replacement rest := by
  cases rest with
  | nil => rfl
  | cons second rest => rw [replaceEscape, if_neg fun both => plain both.1]

/-- An escape is replaced. -/
theorem replaceEscape_hit (digit replacement : Char) (rest : List Char) :
    replaceEscape digit replacement ('~' :: digit :: rest) =
      replacement :: replaceEscape digit replacement rest := by
  rw [replaceEscape, if_pos ⟨rfl, rfl⟩]

/-- Another escape is left. -/
theorem replaceEscape_miss {digit replacement other : Char} (different : other ≠ digit)
    (plain : other ≠ '~') (rest : List Char) :
    replaceEscape digit replacement ('~' :: other :: rest) =
      '~' :: other :: replaceEscape digit replacement rest := by
  rw [replaceEscape, if_neg fun both => different both.2, replaceEscape_plain plain]

/-- Tildes alone, escaped. -/
def escapeTildes (name : List Char) : List Char :=
  name.flatMap fun char => if char = '~' then ['~', '0'] else [char]

/-- A plain character is not escaped. -/
theorem escape_plain {char : Char} (tilde : char ≠ '~') (slash : char ≠ '/') (rest : List Char) :
    escape (char :: rest) = char :: escape rest := by
  rw [escape, List.flatMap_cons, if_neg tilde, if_neg slash, List.singleton_append, escape]

/-- A character other than a tilde is not escaped. -/
theorem escapeTildes_plain {char : Char} (tilde : char ≠ '~') (rest : List Char) :
    escapeTildes (char :: rest) = char :: escapeTildes rest := by
  rw [escapeTildes, List.flatMap_cons, if_neg tilde, List.singleton_append, escapeTildes]

/-- Replacing the slashes leaves the tildes escaped. -/
theorem replaceEscape_escape (name : List Char) :
    replaceEscape '1' '/' (escape name) = escapeTildes name := by
  induction name with
  | nil => rfl
  | cons char name ih =>
      by_cases tilde : char = '~'
      · subst tilde
        change replaceEscape '1' '/' ('~' :: '0' :: escape name) = '~' :: '0' :: escapeTildes name
        rw [replaceEscape_miss (by decide) (by decide), ih]
      rw [escapeTildes_plain tilde]
      by_cases slash : char = '/'
      · subst slash
        change replaceEscape '1' '/' ('~' :: '1' :: escape name) = _
        rw [replaceEscape_hit, ih]
      · rw [escape_plain tilde slash, replaceEscape_plain tilde, ih]

/-- Replacing the tildes leaves the name. -/
theorem replaceEscape_escapeTildes (name : List Char) :
    replaceEscape '0' '~' (escapeTildes name) = name := by
  induction name with
  | nil => rfl
  | cons char name ih =>
      by_cases tilde : char = '~'
      · subst tilde
        change replaceEscape '0' '~' ('~' :: '0' :: escapeTildes name) = _
        rw [replaceEscape_hit, ih]
      · rw [escapeTildes_plain tilde, replaceEscape_plain tilde, ih]

/-- A name is read back. -/
theorem unescape_escape (name : List Char) : unescape (escape name) = name := by
  rw [unescape, replaceEscape_escape, replaceEscape_escapeTildes]

/-- An escaped name has no slash. -/
theorem slash_not_mem_escape (name : List Char) : '/' ∉ escape name := by
  intro member
  obtain ⟨char, _, inside⟩ := List.mem_flatMap.mp member
  split at inside
  · exact absurd inside (by decide)
  split at inside
  · exact absurd inside (by decide)
  · rename_i plain
    exact plain (List.mem_singleton.mp inside).symm

/-! ### Pointers -/

/-- The names of a pointer. -/
def names : List Char → Option (List String)
  | [] => some []
  | first :: rest =>
      if first = '/' then some ((rest.splitOn '/').map fun name => .ofList (unescape name))
      else none

/-- The pointer of some names. -/
def render (names : List String) : List Char :=
  names.flatMap fun name => '/' :: escape name.toList

/-- A pointer is its escaped names with slashes before them. -/
theorem render_cons (name : String) (rest : List String) :
    render (name :: rest) =
      '/' :: ['/'].intercalate ((name :: rest).map fun name => escape name.toList) := by
  induction rest generalizing name with
  | nil => simp [render]
  | cons other rest ih =>
      have tail := ih other
      rw [render] at tail ⊢
      rw [List.flatMap_cons, tail]
      simp [List.intercalate_cons_cons]

/-- The names of a pointer are read back. -/
theorem names_render (list : List String) : names (render list) = some list := by
  cases list with
  | nil => rfl
  | cons name rest =>
      have clean : ∀ text ∈ (name :: rest).map (fun name => escape name.toList), '/' ∉ text := by
        intro text member
        obtain ⟨other, _, rfl⟩ := List.mem_map.mp member
        exact slash_not_mem_escape other.toList
      rw [render_cons, names, if_pos rfl, List.splitOn_intercalate '/' clean (by simp),
        List.map_map]
      congr 1
      conv_rhs => rw [← List.map_id (name :: rest)]
      apply List.map_congr_left
      intro other _
      rw [Function.comp_apply, unescape_escape, String.ofList_toList, id]

/-! ### Values -/

/-- The index a name stands for in an array: digits without leading zeros. -/
def arrayIndex (name : String) : Option Nat :=
  let digits := name.toList
  if digits ≠ [] ∧ digits.all Char.isDigit ∧ (digits.head? = some '0' → digits.length = 1) then
    some (Nat.ofDigitChars 10 digits 0)
  else none

/-- An index is read back from its digits. -/
theorem arrayIndex_repr (index : Nat) : arrayIndex index.repr = some index := by
  have digits : (Nat.toDigits 10 index).all Char.isDigit = true := by
    apply List.all_eq_true.mpr
    intro digit member
    exact Nat.isDigit_of_mem_toDigits (by decide) (by decide) member
  have single : (Nat.toDigits 10 index).head? = some '0' →
      (Nat.toDigits 10 index).length = 1 := by
    intro zero
    rw [IpAddr.head_toDigits (by decide) (by decide) zero]
    rfl
  unfold arrayIndex
  dsimp only
  rw [Nat.toList_repr, if_pos ⟨Nat.toDigits_ne_nil, digits, single⟩,
    Nat.ofDigitChars_ten_toDigits]

/-- The value under a name. -/
def child : Value → String → Option Value
  | .object members, name => (members.find? fun member => member.1 = name).map Prod.snd
  | .array values, name => (arrayIndex name).bind fun index => values[index]?
  | _, _ => none

/-- The value at the end of names. -/
def follow (document : Value) (names : List String) : Option Value := names.foldlM child document

/-- The value a pointer denotes. -/
def resolve (pointer : String) (document : Value) : Option Value :=
  (names pointer.toList).bind (follow document)

/-- The first name leads into the value of the rest. -/
theorem follow_cons (document : Value) (name : String) (rest : List String) :
    follow document (name :: rest) = (child document name).bind fun value => follow value rest :=
  List.foldlM_cons

/-- A name leads to the member of that name. -/
theorem child_object {members : List (String × Value)} {name : String} {value : Value}
    (distinct : (Value.keys members).Nodup) (there : (name, value) ∈ members) :
    child (.object members) name = some value := by
  cases found : members.find? fun member => member.1 = name with
  | none =>
      have missed := List.find?_eq_none.mp found _ there
      simp at missed
  | some member =>
      have named := List.find?_some found
      simp only [decide_eq_true_eq] at named
      have same := List.inj_on_of_nodup_map distinct (List.mem_of_find?_eq_some found) there named
      rw [child, found, same]
      rfl

/-- An index leads to the value in that place. -/
theorem child_array {values : List Value} {index : Nat} {value : Value}
    (there : values[index]? = some value) : child (.array values) index.repr = some value := by
  rw [child, arrayIndex_repr, Option.bind_some, there]

end RustEnrich.JsonPointer
