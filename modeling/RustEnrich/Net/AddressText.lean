import RustEnrich.Net.IpAddr
import Mathlib.Tactic.IntervalCases

/-!
# The canonical text of an address

The formatter and the parser of addresses are inverse: what is written for an
address is read back as that address. A number is read back up to the first
character that is no digit, a group is never taken for the start of an IPv4
address, and the `::` stands for exactly the zeros left out.
-/

namespace RustEnrich.IpAddr

/-! ### Numbers -/

/-- A digit is read back, within its radix. -/
theorem toDigit_digitChar {digit radix : Nat} (hexadecimal : digit < 16) :
    toDigit radix digit.digitChar = if digit < radix then some digit else none := by
  interval_cases digit <;> simp [toDigit, Nat.digitChar, Option.filter]

/-- A digit is no dot. -/
theorem digitChar_ne_dot {digit : Nat} (hexadecimal : digit < 16) : digit.digitChar ≠ '.' := by
  interval_cases digit <;> decide

/-- Only zero is written as zero. -/
theorem digitChar_eq_zero {digit : Nat} (hexadecimal : digit < 16) (zero : digit.digitChar = '0') :
    digit = 0 := by
  interval_cases digit <;> first | rfl | exact absurd zero (by decide)

/-- A number is written in its digits. -/
theorem mem_toDigits {radix number : Nat} (two : 1 < radix) {char : Char}
    (member : char ∈ Nat.toDigits radix number) :
    ∃ digit, digit < radix ∧ char = digit.digitChar := by
  induction number using Nat.strong_induction_on with
  | _ number ih =>
      rw [Nat.toDigits_eq_if two] at member
      split at member
      · rename_i single
        exact ⟨number, single, List.mem_singleton.mp member⟩
      · rename_i longer
        rcases List.mem_append.mp member with front | last
        · exact ih _ (Nat.div_lt_self (by omega) two) front
        · exact ⟨_, Nat.mod_lt _ (by omega), List.mem_singleton.mp last⟩

/-- Only zero starts with a zero. -/
theorem head_toDigits {radix number : Nat} (two : 1 < radix) (within : radix ≤ 16)
    (zero : (Nat.toDigits radix number).head? = some '0') : number = 0 := by
  induction number using Nat.strong_induction_on with
  | _ number ih =>
      rw [Nat.toDigits_eq_if two] at zero
      split at zero
      · rename_i single
        exact digitChar_eq_zero (single.trans_le within) (Option.some.inj zero)
      · rename_i longer
        rw [List.head?_append_of_ne_nil _ Nat.toDigits_ne_nil] at zero
        have none_ := ih _ (Nat.div_lt_self (by omega) two) zero
        have some_ := Nat.div_pos (not_lt.mp longer) (by omega)
        omega

/-- The digits of a number are read as that number. -/
theorem readDigits_toDigits {radix maxDigits number : Nat} (two : 1 < radix)
    (within : radix ≤ 16) (fits : (Nat.toDigits radix number).length ≤ maxDigits)
    (rest : List Char) :
    readDigits radix maxDigits 0 0 (Nat.toDigits radix number ++ rest) =
      readDigits radix maxDigits number (Nat.toDigits radix number).length rest := by
  induction number using Nat.strong_induction_on generalizing rest with
  | _ number ih =>
      have split_ := @Nat.toDigits_eq_if radix number two
      by_cases single : number < radix
      · rw [if_pos single] at split_
        rw [split_] at fits ⊢
        have room : ¬ maxDigits < 0 + 1 := not_lt.mpr fits
        simp only [List.cons_append, List.nil_append, readDigits,
          toDigit_digitChar (single.trans_le within), if_pos single, if_neg room]
        simp
      · rw [if_neg single] at split_
        have last : number % radix < radix := Nat.mod_lt _ (by omega)
        rw [split_, List.length_append, List.length_singleton] at fits
        rw [split_, List.append_assoc, ih _ (Nat.div_lt_self (by omega) two) (by omega)]
        have room : ¬ maxDigits < (Nat.toDigits radix (number / radix)).length + 1 := by omega
        simp only [List.cons_append, List.nil_append, readDigits,
          toDigit_digitChar (last.trans_le within), if_pos last, if_neg room,
          List.length_append, List.length_singleton, Nat.div_add_mod']

/-- Digits end where no digit follows. -/
theorem readDigits_stop {radix : Nat} (maxDigits result count : Nat) {rest : List Char}
    (stop : ∀ char ∈ rest.head?, toDigit radix char = none) :
    readDigits radix maxDigits result count rest = some (result, count, rest) := by
  cases rest with
  | nil => rfl
  | cons char rest => simp only [readDigits, stop char rfl]

/-- A number is read back from its digits. -/
theorem readNumber_toDigits {radix maxDigits number : Nat} (allowZeroPrefix : Bool)
    (two : 1 < radix) (within : radix ≤ 16)
    (fits : (Nat.toDigits radix number).length ≤ maxDigits) {rest : List Char}
    (stop : ∀ char ∈ rest.head?, toDigit radix char = none) :
    readNumber radix maxDigits allowZeroPrefix (Nat.toDigits radix number ++ rest) =
      some (number, rest) := by
  have some_ : (Nat.toDigits radix number).length ≠ 0 :=
    fun empty => Nat.toDigits_ne_nil (List.length_eq_zero_iff.mp empty)
  have plain : ¬ ((!allowZeroPrefix) = true ∧
      (Nat.toDigits radix number ++ rest).head? = some '0' ∧
        1 < (Nat.toDigits radix number).length) := by
    rintro ⟨_, zero, longer⟩
    rw [List.head?_append_of_ne_nil _ Nat.toDigits_ne_nil] at zero
    rw [head_toDigits two within zero, Nat.toDigits_zero] at longer
    exact absurd longer (by decide)
  unfold readNumber
  rw [readDigits_toDigits two within fits, readDigits_stop _ _ _ stop]
  simp only [if_neg some_, if_neg plain]

/-- What is left of a number starts at the first character that is no digit. -/
theorem readDigits_rest {radix maxDigits result count value digits : Nat}
    {input rest : List Char}
    (read : readDigits radix maxDigits result count input = some (value, digits, rest)) :
    rest = input.dropWhile fun char => (toDigit radix char).isSome := by
  induction input generalizing result count with
  | nil =>
      cases read
      rfl
  | cons char input ih =>
      unfold readDigits at read
      cases digit : toDigit radix char with
      | none =>
          rw [digit] at read
          cases read
          rw [List.dropWhile_cons_of_neg (by simp [digit])]
      | some value =>
          simp only [digit] at read
          split at read
          · cases read
          · rw [List.dropWhile_cons_of_pos (by simp [digit])]
            exact ih read

/-- A number takes all digits that follow. -/
theorem readNumber_rest {radix maxDigits value : Nat} {allowZeroPrefix : Bool}
    {input rest : List Char}
    (read : readNumber radix maxDigits allowZeroPrefix input = some (value, rest)) :
    rest = input.dropWhile fun char => (toDigit radix char).isSome := by
  unfold readNumber at read
  dsimp only at read
  split at read
  · cases read
  · rename_i result count left digits
    split at read
    · cases read
    · split at read
      · cases read
      · cases read
        exact readDigits_rest digits

/-! ### IPv4 -/

/-- What may follow a number: nothing, or a colon. -/
def Ends (rest : List Char) : Prop := ∀ char ∈ rest.head?, char = ':'

/-- No digit follows an end. -/
theorem Ends.stop {rest : List Char} (ends : Ends rest) (radix : Nat) :
    ∀ char ∈ rest.head?, toDigit radix char = none := by
  intro char first
  rw [ends char first]
  rfl

/-- The first octet is read back. -/
theorem readOctet_first (octet : UInt8) {rest : List Char}
    (stop : ∀ char ∈ rest.head?, toDigit 10 char = none) :
    readOctet 0 (Nat.toDigits 10 octet.toNat ++ rest) = some (octet, rest) := by
  unfold readOctet readSeparator
  rw [if_neg (lt_irrefl 0)]
  dsimp only
  rw [readNumber_toDigits false (by decide) (by decide) (length_toDigits_u8 octet) stop]
  simp only [if_pos octet.toNat_lt, UInt8.ofNat_toNat]

/-- A later octet is read back behind its dot. -/
theorem readOctet_next {index : Nat} (later : 0 < index) (octet : UInt8) {rest : List Char}
    (stop : ∀ char ∈ rest.head?, toDigit 10 char = none) :
    readOctet index ('.' :: (Nat.toDigits 10 octet.toNat ++ rest)) = some (octet, rest) := by
  rw [← readOctet_first octet stop]
  unfold readOctet readSeparator
  rw [if_pos later, if_neg (lt_irrefl 0)]
  rfl

/-- An IPv4 address is read back. -/
theorem readIpv4_formatIpv4 (one two three four : UInt8) {rest : List Char} (ends : Ends rest) :
    readIpv4 (formatIpv4 one two three four ++ rest) = some ((one, two, three, four), rest) := by
  have dot : ∀ rest : List Char, ∀ char ∈ ('.' :: rest).head?, toDigit 10 char = none := by
    intro rest char first
    cases first
    rfl
  unfold readIpv4 formatIpv4
  simp only [List.append_assoc, List.cons_append]
  rw [readOctet_first one (dot _)]
  simp only [Option.bind_eq_bind, Option.bind_some]
  rw [readOctet_next (by decide) two (dot _)]
  simp only [Option.bind_some]
  rw [readOctet_next (by decide) three (dot _)]
  simp only [Option.bind_some]
  rw [readOctet_next (by decide) four (ends.stop 10)]
  rfl

/-- An IPv4 address has a dot after its first number. -/
theorem readIpv4_eq_none {input : List Char}
    (undotted : (input.dropWhile fun char => (toDigit 10 char).isSome).head? ≠ some '.') :
    readIpv4 input = none := by
  unfold readIpv4
  cases first : readOctet 0 input with
  | none => rfl
  | some read =>
      obtain ⟨octet, rest⟩ := read
      have left : rest = input.dropWhile fun char => (toDigit 10 char).isSome := by
        unfold readOctet readSeparator at first
        rw [if_neg (lt_irrefl 0)] at first
        dsimp only at first
        split at first
        · cases first
        · rename_i number
          split at first
          · cases first
            exact readNumber_rest number
          · cases first
      have second : readOctet 1 rest = none := by
        rw [← left] at undotted
        unfold readOctet readSeparator
        rw [if_pos Nat.one_pos]
        cases rest with
        | nil => rfl
        | cons char rest =>
            have other : char ≠ '.' := fun same => undotted (congrArg some same)
            rw [readGivenChar, if_neg other]
            rfl
      simp only [Option.bind_eq_bind, Option.bind_some, second, Option.bind_none]

/-- No IPv4 address stands at an end. -/
theorem readIpv4_of_ends {rest : List Char} (ends : Ends rest) : readIpv4 rest = none := by
  apply readIpv4_eq_none
  cases rest with
  | nil => exact nofun
  | cons char rest =>
      obtain rfl := ends char rfl
      exact nofun

/-- A group is not the start of an IPv4 address. -/
theorem readIpv4_group (group : UInt16) {rest : List Char} (ends : Ends rest) :
    readIpv4 (Nat.toDigits 16 group.toNat ++ rest) = none := by
  apply readIpv4_eq_none
  have hexadecimal : ∀ char ∈ Nat.toDigits 16 group.toNat, char ≠ '.' := by
    intro char member
    obtain ⟨digit, within, rfl⟩ := mem_toDigits (by decide) member
    exact digitChar_ne_dot within
  generalize Nat.toDigits 16 group.toNat = digits at hexadecimal
  induction digits with
  | nil =>
      cases rest with
      | nil => exact nofun
      | cons char rest =>
          obtain rfl := ends char rfl
          exact nofun
  | cons char digits ih =>
      rw [List.cons_append, List.dropWhile_cons]
      split
      · exact ih fun other member => hexadecimal other (List.mem_cons_of_mem _ member)
      · intro dotted
        exact hexadecimal char List.mem_cons_self (Option.some.inj dotted)

/-! ### IPv6 -/

/-- Groups after a first one, each behind its colon. -/
def formatTail (groups : List UInt16) : List Char :=
  groups.flatMap fun group => ':' :: Nat.toDigits 16 group.toNat

/-- Further groups end what stands before them. -/
theorem ends_formatTail (groups : List UInt16) {rest : List Char} (ends : Ends rest) :
    Ends (formatTail groups ++ rest) := by
  cases groups with
  | nil => exact ends
  | cons group groups =>
      intro char first
      cases first
      rfl

/-- What may follow the groups: nothing, or two colons. -/
inductive Stops : List Char → Prop
  | nothing : Stops []
  | gap (more : List Char) : Stops (':' :: ':' :: more)

/-- What stops the groups ends a number. -/
theorem Stops.ends {rest : List Char} (stops : Stops rest) : Ends rest := by
  cases stops with
  | nothing => exact fun _ => nofun
  | gap more => exact fun char first => (Option.some.inj first).symm

/-- A colon ends a number. -/
theorem ends_colon (rest : List Char) : Ends (':' :: rest) := by
  intro char first
  cases first
  rfl

/-- A number needs a digit. -/
theorem readNumber_of_ends {rest : List Char} (ends : Ends rest) :
    readNumber 16 4 true rest = none := by
  unfold readNumber
  rw [readDigits_stop _ _ _ (ends.stop 16)]
  rfl

/-- No group is read where they stop. -/
theorem readGroups_stop (left : Nat) {index : Nat} {rest : List Char} (stops : Stops rest) :
    readGroups left index rest = ([], false, rest) := by
  have nothing : ∀ {α : Type} (inner : List Char → Option (α × List Char)),
      (∀ rest, Ends rest → inner rest = none) → readSeparator ':' index inner rest = none := by
    intro α inner fails
    unfold readSeparator
    split
    · cases stops with
      | nothing => rfl
      | gap more => exact fails _ (ends_colon more)
    · exact fails rest stops.ends
  cases left with
  | zero => rfl
  | succ left =>
      unfold readGroups
      rw [nothing _ fun _ => readIpv4_of_ends, nothing _ fun _ => readNumber_of_ends, ite_self]

/-- One group behind its separator, and then the others. -/
theorem readGroups_cons {left index : Nat} (group : UInt16) {input rest : List Char}
    (separated : ∀ {α : Type} (inner : List Char → Option (α × List Char)),
      readSeparator ':' index inner input = inner (Nat.toDigits 16 group.toNat ++ rest))
    (ends : Ends rest) :
    readGroups (left + 1) index input =
      (group :: (readGroups left (index + 1) rest).1, (readGroups left (index + 1) rest).2) := by
  have number := @readNumber_toDigits 16 4 group.toNat true (by decide) (by decide)
    (length_toDigits_u16 group) rest (ends.stop 16)
  conv_lhs => unfold readGroups
  rw [separated, separated, readIpv4_group group ends, number, ite_self]
  simp only [UInt16.ofNat_toNat]

/-- Further groups are read back. -/
theorem readGroups_formatTail {left index : Nat} (later : 0 < index) (groups : List UInt16)
    (room : groups.length ≤ left) {rest : List Char} (stops : Stops rest) :
    readGroups left index (formatTail groups ++ rest) = (groups, false, rest) := by
  induction groups generalizing left index with
  | nil => exact readGroups_stop left stops
  | cons group groups ih =>
      obtain ⟨others, rfl⟩ : ∃ others, left = others + 1 := ⟨left - 1, by grind⟩
      have separated : ∀ {α : Type} (inner : List Char → Option (α × List Char)),
          readSeparator ':' index inner (formatTail (group :: groups) ++ rest) =
            inner (Nat.toDigits 16 group.toNat ++ (formatTail groups ++ rest)) := by
        intro α inner
        unfold readSeparator formatTail
        rw [if_pos later, List.flatMap_cons, List.append_assoc]
        rfl
      rw [readGroups_cons group separated (ends_formatTail groups stops.ends),
        ih (Nat.succ_pos index) (Nat.le_of_succ_le_succ room)]

/-- Groups are read back. -/
theorem readGroups_formatSegments {left : Nat} (groups : List UInt16)
    (room : groups.length ≤ left) {rest : List Char} (stops : Stops rest) :
    readGroups left 0 (formatSegments groups ++ rest) = (groups, false, rest) := by
  cases groups with
  | nil => exact readGroups_stop left stops
  | cons group groups =>
      obtain ⟨others, rfl⟩ : ∃ others, left = others + 1 := ⟨left - 1, by grind⟩
      have separated : ∀ {α : Type} (inner : List Char → Option (α × List Char)),
          readSeparator ':' 0 inner (formatSegments (group :: groups) ++ rest) =
            inner (Nat.toDigits 16 group.toNat ++ (formatTail groups ++ rest)) := by
        intro α inner
        unfold readSeparator formatSegments formatTail
        rw [if_neg (lt_irrefl 0), List.append_assoc]
      rw [readGroups_cons group separated (ends_formatTail groups stops.ends),
        readGroups_formatTail Nat.one_pos groups (Nat.le_of_succ_le_succ room) stops]

/-- The text of groups is not an IPv4 address. -/
theorem readIpv4_formatSegments (groups : List UInt16) {rest : List Char} (ends : Ends rest) :
    readIpv4 (formatSegments groups ++ rest) = none := by
  cases groups with
  | nil => exact readIpv4_of_ends ends
  | cons group groups =>
      unfold formatSegments
      rw [List.append_assoc]
      exact readIpv4_group group (ends_formatTail groups ends)

/-! ### The longest run of zeros -/

/-- All segments of a span are zero. -/
def Span.Zeros (span : Span) (segments : List UInt16) : Prop :=
  ∀ place, span.start ≤ place → place < span.start + span.len → segments[place]? = some 0

/-- The run that is being counted ends where the rest begins. -/
def Span.EndsAt (span : Span) (index : Nat) : Prop := span.len = 0 ∨ span.start + span.len = index

/-- An empty span has no segment that is not zero. -/
theorem Span.zeros_none (segments : List UInt16) (start : Nat) :
    (Span.mk start 0).Zeros segments := by
  intro place after before
  exact absurd before (not_lt.mpr after)

/-- The longest run has no segment that is not zero. -/
theorem longestZeroes_zeros {segments : List UInt16} (front rest : List UInt16)
    {longest current : Span} (split_ : segments = front ++ rest)
    (kept : longest.Zeros segments) (running : current.Zeros segments)
    (reaches : current.EndsAt front.length) :
    (longestZeroes front.length longest current rest).Zeros segments := by
  induction rest generalizing front longest current with
  | nil => exact kept
  | cons segment rest ih =>
      have next : segments = (front ++ [segment]) ++ rest := by rw [split_, List.append_assoc]; rfl
      have length : front.length + 1 = (front ++ [segment]).length := by simp
      have here : segments[front.length]? = some segment := by rw [split_]; simp
      unfold longestZeroes
      split
      · rename_i zero
        dsimp only
        rw [length]
        have grown : (Span.mk (if current.len = 0 then front.length else current.start)
            (current.len + 1)).Zeros segments := by
          intro place after before
          dsimp only at after before
          by_cases last : place = front.length
          · rw [last, here, zero]
          · split at after
            · rename_i none_
              rw [if_pos none_, none_] at before
              omega
            · rename_i counted
              have ended := reaches.resolve_left counted
              rw [if_neg counted] at before
              exact running place after (by omega)
        have ends : (Span.mk (if current.len = 0 then front.length else current.start)
            (current.len + 1)).EndsAt (front ++ [segment]).length := by
          right
          rw [← length]
          dsimp only
          split
          · rename_i none_
            rw [none_]
          · rename_i counted
            rw [← reaches.resolve_left counted, Nat.add_assoc]
        apply ih _ next _ grown ends
        split
        · exact grown
        · exact kept
      · rw [length]
        exact ih _ next kept (Span.zeros_none segments 0) (Or.inl rfl)

/-- Zeros are what is left out. -/
theorem Span.Zeros.split {span : Span} {segments : List UInt16} (zeros : span.Zeros segments)
    (some_ : 0 < span.len) :
    segments.take span.start ++ List.replicate span.len 0 ++
        segments.drop (span.start + span.len) = segments ∧
      span.start + span.len ≤ segments.length := by
  have last := zeros (span.start + span.len - 1) (by omega) (by omega)
  have within : span.start + span.len ≤ segments.length := by
    have inside := (List.getElem?_eq_some_iff.mp last).1
    omega
  refine ⟨?_, within⟩
  have middle : (segments.drop span.start).take span.len = List.replicate span.len 0 := by
    apply List.ext_getElem?
    intro place
    by_cases inside : place < span.len
    · rw [List.getElem?_take_of_lt inside, List.getElem?_drop,
        zeros _ (Nat.le_add_right _ _) (Nat.add_lt_add_left inside _),
        List.getElem?_replicate, if_pos inside]
    · rw [List.getElem?_eq_none, List.getElem?_eq_none]
      · rw [List.length_replicate]
        exact not_lt.mp inside
      · rw [List.length_take]
        exact (min_le_left _ _).trans (not_lt.mp inside)
  rw [← middle, List.append_assoc, ← List.drop_drop, List.take_append_drop,
    List.take_append_drop]

/-! ### The round trip -/

/-- The segments around a gap are the whole with zeros in it. -/
theorem segmentsOf_eq {head tail : List UInt16} {segments : Vector UInt16 8}
    (whole : head ++ List.replicate (8 - head.length - tail.length) 0 ++ tail =
      segments.toList) : segmentsOf head tail = segments := by
  unfold segmentsOf
  rw [whole]
  apply Vector.ext
  intro place inside
  simp

/-- A segment is made of its two bytes. -/
theorem fromBeBytes_split (segment : UInt16) :
    fromBeBytes (.ofNat (segment.toNat / 256)) (.ofNat (segment.toNat % 256)) = segment := by
  have bounded := segment.toNat_lt
  apply UInt16.toNat_inj.mp
  unfold fromBeBytes
  simp only [UInt8.toNat_ofNat', UInt16.toNat_ofNat']
  omega

/-- A mapped address has its octets in the last two segments. -/
theorem toIpv4Mapped_some {segments : List UInt16} {one two three four : UInt8}
    (mapped : toIpv4Mapped segments = some (one, two, three, four)) :
    segments = [0, 0, 0, 0, 0, 0xffff, fromBeBytes one two, fromBeBytes three four] := by
  unfold toIpv4Mapped at mapped
  split at mapped
  · rename_i high low
    cases mapped
    rw [fromBeBytes_split, fromBeBytes_split]
  · cases mapped

/-- The groups of a mapped address, behind its `::`. -/
theorem readGroups_mapped (one two three four : UInt8) :
    readGroups 7 0 ("ffff:".toList ++ formatIpv4 one two three four) =
      ([0xffff, fromBeBytes one two, fromBeBytes three four], true, []) := by
  have group : "ffff:".toList ++ formatIpv4 one two three four =
      Nat.toDigits 16 (0xffff : UInt16).toNat ++ ':' :: formatIpv4 one two three four := by
    rfl
  have separated : ∀ {α : Type} (inner : List Char → Option (α × List Char)),
      readSeparator ':' 0 inner ("ffff:".toList ++ formatIpv4 one two three four) =
        inner (Nat.toDigits 16 (0xffff : UInt16).toNat ++
          ':' :: formatIpv4 one two three four) := by
    intro α inner
    rw [group]
    rfl
  have address : readSeparator ':' 1 readIpv4 (':' :: formatIpv4 one two three four) =
      some ((one, two, three, four), []) := by
    have read := @readIpv4_formatIpv4 one two three four [] (fun _ => nofun)
    rwa [List.append_nil] at read
  rw [readGroups_cons 0xffff separated (ends_colon _)]
  conv_lhs => unfold readGroups
  rw [if_pos (by decide), address]

/-- An IPv6 address is read back. -/
theorem readIpv6_formatIpv6 (segments : Vector UInt16 8) :
    readIpv6 (formatIpv6 segments.toList) = some (segments, []) := by
  have eight : segments.toList.length = 8 := segments.length_toList
  unfold formatIpv6
  split
  · rename_i one two three four mapped
    have gap : "::ffff:".toList ++ formatIpv4 one two three four =
        ':' :: ':' :: ("ffff:".toList ++ formatIpv4 one two three four) := by rfl
    unfold readIpv6
    rw [gap, readGroups_stop 8 (.gap _)]
    simp only [List.length_nil, readGivenChar, ↓reduceIte, Option.bind_eq_bind, Option.bind_some]
    rw [if_neg (by decide), if_neg (by decide), readGroups_mapped]
    refine congrArg some (Prod.ext (segmentsOf_eq ?_) rfl)
    rw [toIpv4Mapped_some mapped]
    rfl
  · dsimp only
    split
    · rename_i several
      have zeros := @longestZeroes_zeros segments.toList [] segments.toList _ _ rfl
        (Span.zeros_none _ 0) (Span.zeros_none _ 0) (Or.inl rfl)
      obtain ⟨whole, within⟩ := zeros.split (Nat.zero_lt_of_lt several)
      generalize longestZeroes 0 ⟨0, 0⟩ ⟨0, 0⟩ segments.toList = span at several whole within
      generalize head_ : segments.toList.take span.start = head at whole
      generalize tail_ : segments.toList.drop (span.start + span.len) = tail at whole
      have front : head.length = span.start := by
        rw [← head_, List.length_take]
        omega
      have back : tail.length = 8 - (span.start + span.len) := by
        rw [← tail_, List.length_drop, eight]
      have gap : formatSegments head ++ "::".toList ++ formatSegments tail =
          formatSegments head ++ ':' :: ':' :: formatSegments tail := by
        rw [List.append_assoc]
        rfl
      have tails := @readGroups_formatSegments (8 - (head.length + 1)) tail (by omega) [] .nothing
      rw [List.append_nil] at tails
      unfold readIpv6
      rw [gap, readGroups_formatSegments head (by omega) (.gap _)]
      simp only [readGivenChar, ↓reduceIte, Option.bind_eq_bind, Option.bind_some]
      rw [if_neg (by omega), if_neg (by decide), tails]
      refine congrArg some (Prod.ext (segmentsOf_eq ?_) rfl)
      rw [← whole, show 8 - head.length - tail.length = span.len by omega]
    · have whole := @readGroups_formatSegments 8 segments.toList eight.le [] .nothing
      rw [List.append_nil] at whole
      unfold readIpv6
      rw [whole]
      simp only [if_pos eight]
      refine congrArg some (Prod.ext (segmentsOf_eq ?_) rfl)
      rw [eight]
      simp

/-- The text of an address is no other address. -/
theorem parse_toString (address : IpAddr) : parse address.toString = some address := by
  unfold parse toString
  cases address with
  | v4 one two three four =>
      have read := @readIpv4_formatIpv4 one two three four [] (fun _ => nofun)
      rw [List.append_nil] at read
      simp only [String.toList_ofList, read]
  | v6 segments =>
      have other : readIpv4 (formatIpv6 segments.toList) = none := by
        unfold formatIpv6
        split
        · exact readIpv4_of_ends (ends_colon _)
        · dsimp only
          split
          · rw [List.append_assoc]
            exact readIpv4_formatSegments _ (ends_colon _)
          · have plain := @readIpv4_formatSegments segments.toList [] (fun _ => nofun)
            rwa [List.append_nil] at plain
      simp only [String.toList_ofList, other, readIpv6_formatIpv6, Option.map_some]

/-- Addresses with one text are one address. -/
theorem toString_injective : Function.Injective toString := by
  intro left right same
  have read := parse_toString left
  rw [same, parse_toString right] at read
  exact (Option.some.inj read).symm

end RustEnrich.IpAddr
