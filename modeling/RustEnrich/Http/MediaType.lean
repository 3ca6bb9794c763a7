import RustEnrich.Validation.Indicator
import RustEnrich.Http.ErrorResponse

/-!
# The media type of a request

Requests are JSON, with the one charset that JSON has and without compression.
The header is taken apart at semicolons and at an equals sign, with blanks around
each part and letters in either case. What is accepted this way is a small
grammar, which says the same without taking anything apart.
-/

namespace RustEnrich.Http

/-- The headers of a request in the order they came, their names in lower case. -/
abbrev Headers := List (String × List UInt8)

/-- `HeaderMap::get_all`. -/
def Headers.getAll (headers : Headers) (name : String) : List (List UInt8) :=
  (headers.filter fun header => decide (header.1 = name)).map Prod.snd

/-- `HeaderValue::to_str`: a tab, or what is printed in ASCII. -/
def toStr (value : List UInt8) : Option (List Char) :=
  if value.all fun byte => (32 ≤ byte && byte < 127) || byte = 9 then
    some (value.map fun byte => Char.ofNat byte.toNat)
  else none

/-- `str::trim`. -/
def trim (text : List Char) : List Char :=
  ((text.dropWhile isWhitespace).reverse.dropWhile isWhitespace).reverse

/-- `str::eq_ignore_ascii_case`. -/
def sameWord (text : List Char) (word : String) : Bool :=
  decide (toAsciiLowercase text = toAsciiLowercase word.toList)

/-- The only parameter that may follow. -/
def isCharset (parameter : List Char) : Bool :=
  match splitOnce ['='] parameter with
  | none => false
  | some (key, value) =>
      sameWord (trim key) "charset" &&
        (sameWord (trim value) "utf-8" || sameWord (trim value) "\"utf-8\"")

/-- The part of `supported_media_type` about the first content type. -/
def isJson (value : List Char) : Bool :=
  match (value.splitOn ';').map trim with
  | [] => false
  | media :: parameters =>
      sameWord media "application/json" &&
        match parameters with
        | [] => true
        | [parameter] => isCharset parameter
        | _ => false

/-- JSON in one content type, and not encoded. -/
def supportedMediaType (headers : Headers) : Bool :=
  match headers.getAll "content-type" with
  | [value] =>
      ((toStr value).any isJson) &&
        (headers.getAll "content-encoding").all fun value =>
          (toStr value).any (sameWord · "identity")
  | _ => false

/-! ### Blanks around a word -/

/-- A word of printed characters in lower case, with no blank, semicolon or equals
sign in it. -/
structure Word (word : List Char) : Prop where
  lower : toAsciiLowercase word = word
  printed : ∀ char ∈ word, isWhitespace char = false
  parted : ';' ∉ word ∧ '=' ∉ word
  nonempty : word ≠ []

/-- A word in letters of either case, with blanks around it. -/
def Padded (word : List Char) (text : List Char) : Prop :=
  ∃ before middle after, text = before ++ middle ++ after ∧
    (∀ char ∈ before, isWhitespace char = true) ∧ (∀ char ∈ after, isWhitespace char = true) ∧
    toAsciiLowercase middle = word

/-- The lower case of a letter is no blank. -/
theorem toLower_blank {char : Char} (blank : isWhitespace char = true) : char.toLower = char := by
  unfold Char.toLower
  rw [dif_neg]
  simp only [isWhitespace, decide_eq_true_eq] at blank
  rintro ⟨low, high⟩
  have low : 65 ≤ char.toNat := low
  have high : char.toNat ≤ 90 := high
  omega

variable {word text : List Char}

/-- No character of a word in letters of either case is a blank. -/
theorem Word.unpadded (plain : Word word) (same : toAsciiLowercase text = word) :
    ∀ char ∈ text, isWhitespace char = false := by
  intro char member
  rw [← Bool.not_eq_true]
  intro blank
  have lowered : char.toLower ∈ word := same ▸ List.mem_map_of_mem member
  rw [toLower_blank blank] at lowered
  cases blank.symm.trans (plain.printed char lowered)

/-- What separates the parts of a header is in none of them. -/
theorem Padded.parted (padded : Padded word text) (plain : Word word) :
    ';' ∉ text ∧ '=' ∉ text := by
  obtain ⟨before, middle, after, rfl, front, back, same⟩ := padded
  have apart : ∀ char : Char, isWhitespace char = false → char.toLower = char → char ∉ word →
      char ∉ before ++ middle ++ after := by
    intro char printed lower foreign member
    rw [List.append_assoc, List.mem_append, List.mem_append] at member
    rcases member with first | second | third
    · cases (front char first).symm.trans printed
    · exact foreign (same ▸ lower ▸ List.mem_map_of_mem second)
    · cases (back char third).symm.trans printed
  exact ⟨apart ';' (by decide) (by decide) plain.parted.1,
    apart '=' (by decide) (by decide) plain.parted.2⟩

/-- Trimming takes blanks off both ends. -/
theorem trim_split (text : List Char) : ∃ before after, text = before ++ trim text ++ after ∧
    (∀ char ∈ before, isWhitespace char = true) ∧
    ∀ char ∈ after, isWhitespace char = true := by
  have taken : ∀ (list : List Char), ∀ char ∈ list.takeWhile isWhitespace,
      isWhitespace char = true := fun list => List.all_eq_true.mp List.all_takeWhile
  refine ⟨text.takeWhile isWhitespace,
    ((text.dropWhile isWhitespace).reverse.takeWhile isWhitespace).reverse, ?_, taken text, ?_⟩
  · have back := congrArg List.reverse (List.takeWhile_append_dropWhile
      (p := isWhitespace) (l := (text.dropWhile isWhitespace).reverse))
    rw [List.reverse_append, List.reverse_reverse] at back
    rw [trim, List.append_assoc, back, List.takeWhile_append_dropWhile]
  · intro char member
    exact taken _ char (List.mem_reverse.mp member)

/-- Blanks around a text that neither starts nor ends with one are all that
trimming takes. -/
theorem trim_padded {before middle after : List Char}
    (front : ∀ char ∈ before, isWhitespace char = true)
    (back : ∀ char ∈ after, isWhitespace char = true) (nonempty : middle ≠ [])
    (starts : isWhitespace (middle.head nonempty) = false)
    (ends : isWhitespace (middle.getLast nonempty) = false) :
    trim (before ++ middle ++ after) = middle := by
  have started : (before ++ middle ++ after).dropWhile isWhitespace = middle ++ after := by
    rw [List.append_assoc, List.dropWhile_append_of_pos front]
    obtain ⟨first, rest, rfl⟩ := List.exists_cons_of_ne_nil nonempty
    rw [List.cons_append, List.dropWhile_cons_of_neg]
    rw [List.head_cons] at starts
    rw [starts]
    exact Bool.false_ne_true
  have ended : middle.reverse.dropWhile isWhitespace = middle.reverse := by
    have some_ : middle.reverse ≠ [] := fun none => nonempty (List.reverse_eq_nil_iff.mp none)
    rw [← List.head_reverse some_] at ends
    obtain ⟨last, rest, reversed⟩ := List.exists_cons_of_ne_nil some_
    simp only [reversed, List.head_cons] at ends
    rw [reversed, List.dropWhile_cons_of_neg]
    rw [ends]
    exact Bool.false_ne_true
  rw [trim, started, List.reverse_append, List.dropWhile_append_of_pos
    fun char member => back char (List.mem_reverse.mp member), ended, List.reverse_reverse]

/-- A padded word starts and ends with a printed character. -/
theorem Padded.middle (padded : Padded word text) (plain : Word word) :
    ∃ before middle after, text = before ++ middle ++ after ∧
      (∀ char ∈ before, isWhitespace char = true) ∧ (∀ char ∈ after, isWhitespace char = true) ∧
      toAsciiLowercase middle = word ∧ middle ≠ [] ∧
      ∀ char ∈ middle, isWhitespace char = false := by
  obtain ⟨before, middle, after, split, front, back, same⟩ := padded
  refine ⟨before, middle, after, split, front, back, same, ?_, plain.unpadded same⟩
  rintro rfl
  exact plain.nonempty same.symm

/-- Trimming leaves a word where blanks are all around it. -/
theorem trim_word_iff (plain : Word word) :
    toAsciiLowercase (trim text) = word ↔ Padded word text := by
  constructor
  · intro same
    obtain ⟨before, after, split, front, back⟩ := trim_split text
    exact ⟨before, trim text, after, split, front, back, same⟩
  · intro padded
    obtain ⟨before, middle, after, rfl, front, back, same, nonempty, printed⟩ :=
      padded.middle plain
    rw [trim_padded front back nonempty (printed _ (List.head_mem nonempty))
      (printed _ (List.getLast_mem nonempty)), same]

/-- More blanks around a word. -/
theorem Padded.pad (padded : Padded word text) {before after : List Char}
    (front : ∀ char ∈ before, isWhitespace char = true)
    (back : ∀ char ∈ after, isWhitespace char = true) : Padded word (before ++ text ++ after) := by
  obtain ⟨head, middle, tail, rfl, blank, trailing, same⟩ := padded
  refine ⟨before ++ head, middle, tail ++ after, by simp only [List.append_assoc], ?_, ?_, same⟩
  · exact fun char member => (List.mem_append.mp member).elim (front char) (blank char)
  · exact fun char member => (List.mem_append.mp member).elim (trailing char) (back char)

/-- The comparison ignores blanks around a word. -/
theorem sameWord_trim_iff {name : String} (plain : Word name.toList) :
    sameWord (trim text) name = true ↔ Padded name.toList text := by
  rw [sameWord, decide_eq_true_eq, plain.lower, trim_word_iff plain]

/-! ### Parts of a header -/

/-- A text splits at the first separator. -/
theorem splitOnce_char {separator : Char} {before after : List Char} :
    splitOnce [separator] text = some (before, after) ↔
      text = before ++ separator :: after ∧ separator ∉ before := by
  induction text generalizing before with
  | nil => simp [splitOnce]
  | cons char rest ih =>
      unfold splitOnce
      by_cases here : char = separator
      · subst here
        rw [if_pos ⟨rest, rfl⟩]
        constructor
        · intro same
          cases same
          exact ⟨rfl, List.not_mem_nil⟩
        · rintro ⟨split, apart⟩
          cases before with
          | nil =>
              obtain ⟨_, rfl⟩ := List.cons_eq_cons.mp split
              rfl
          | cons head tail =>
              rw [List.cons_append, List.cons_eq_cons] at split
              exact absurd (split.1 ▸ List.mem_cons_self) apart
      · have other : ¬ [separator] <+: char :: rest := by
          rintro ⟨_, same⟩
          exact here (List.cons_eq_cons.mp same).1.symm
        rw [if_neg other, Option.map_eq_some_iff]
        constructor
        · rintro ⟨⟨front, back⟩, found, same⟩
          cases same
          obtain ⟨rfl, apart⟩ := ih.mp found
          refine ⟨rfl, fun member => ?_⟩
          rcases List.mem_cons.mp member with same | later
          · exact here same.symm
          · exact apart later
        · rintro ⟨split, apart⟩
          cases before with
          | nil => exact absurd (List.cons_eq_cons.mp split).1 here
          | cons head tail =>
              obtain ⟨rfl, rfl⟩ := List.cons_eq_cons.mp split
              exact ⟨(tail, after), ih.mpr ⟨rfl, fun member =>
                apart (List.mem_cons_of_mem _ member)⟩, rfl⟩

/-! ### The grammar -/

/-- JSON, in UTF-8 where it names a charset. -/
inductive JsonMediaType : List Char → Prop
  | bare {media : List Char} (named : Padded "application/json".toList media) : JsonMediaType media
  | charset {media key value : List Char} {encoding : String}
      (named : Padded "application/json".toList media) (charset : Padded "charset".toList key)
      (utf8 : encoding = "utf-8" ∨ encoding = "\"utf-8\"")
      (encoded : Padded encoding.toList value) :
      JsonMediaType (media ++ ';' :: (key ++ '=' :: value))

/-- A character of a word, as it is checked. -/
def isPlain (char : Char) : Bool :=
  char.toLower = char && !isWhitespace char && char ≠ ';' && char ≠ '='

/-- A check of all characters. -/
theorem word_of_all (plain : word.all isPlain = true) (nonempty : word ≠ []) : Word word := by
  have each : ∀ char ∈ word, char.toLower = char ∧ isWhitespace char = false ∧ char ≠ ';' ∧
      char ≠ '=' := by
    intro char member
    have here := List.all_eq_true.mp plain char member
    simp only [isPlain, Bool.and_eq_true, decide_eq_true_eq, Bool.not_eq_true', and_assoc] at here
    exact here
  refine ⟨?_, fun char member => (each char member).2.1, ⟨?_, ?_⟩, nonempty⟩
  · exact (List.map_congr_left fun char member => (each char member).1).trans (List.map_id' word)
  · exact fun member => (each _ member).2.2.1 rfl
  · exact fun member => (each _ member).2.2.2 rfl

/-- The word for JSON. -/
theorem word_json : Word "application/json".toList := word_of_all (by decide) (by decide)

/-- The word for the encoding of characters. -/
theorem word_charset : Word "charset".toList := word_of_all (by decide) (by decide)

/-- The encodings are words. -/
theorem word_encoding {encoding : String} (utf8 : encoding = "utf-8" ∨ encoding = "\"utf-8\"") :
    Word encoding.toList := by
  rcases utf8 with rfl | rfl <;> exact word_of_all (by decide) (by decide)

/-- A parameter names UTF-8 where it is the word and the encoding. -/
theorem isCharset_iff {parameter : List Char} :
    isCharset parameter = true ↔ ∃ key value encoding, parameter = key ++ '=' :: value ∧
      Padded "charset".toList key ∧ (encoding = "utf-8" ∨ encoding = "\"utf-8\"") ∧
      Padded encoding.toList value := by
  unfold isCharset
  constructor
  · intro accepted
    split at accepted
    · cases accepted
    · rename_i key value found
      obtain ⟨rfl, _⟩ := splitOnce_char.mp found
      rw [Bool.and_eq_true, Bool.or_eq_true, sameWord_trim_iff word_charset,
        sameWord_trim_iff (word_encoding (Or.inl rfl)),
        sameWord_trim_iff (word_encoding (Or.inr rfl))] at accepted
      obtain ⟨named, plain | quoted⟩ := accepted
      · exact ⟨key, value, _, rfl, named, Or.inl rfl, plain⟩
      · exact ⟨key, value, _, rfl, named, Or.inr rfl, quoted⟩
  · rintro ⟨key, value, encoding, rfl, named, utf8, encoded⟩
    rw [splitOnce_char.mpr ⟨rfl, (named.parted word_charset).2⟩]
    dsimp only
    rw [Bool.and_eq_true, Bool.or_eq_true, sameWord_trim_iff word_charset,
      sameWord_trim_iff (word_encoding (Or.inl rfl)),
      sameWord_trim_iff (word_encoding (Or.inr rfl))]
    refine ⟨named, ?_⟩
    rcases utf8 with rfl | rfl
    · exact Or.inl encoded
    · exact Or.inr encoded

/-- The blanks around a parameter are those around its key and its value. -/
theorem isCharset_trim {parameter : List Char} :
    isCharset (trim parameter) = true ↔ isCharset parameter = true := by
  have none : ∀ char ∈ ([] : List Char), isWhitespace char = true :=
    fun char member => absurd member List.not_mem_nil
  rw [isCharset_iff, isCharset_iff]
  constructor
  · rintro ⟨key, value, encoding, same, named, utf8, encoded⟩
    obtain ⟨before, after, split, front, back⟩ := trim_split parameter
    have key' := named.pad front none
    have value' := encoded.pad none back
    rw [List.append_nil] at key'
    rw [List.nil_append] at value'
    refine ⟨before ++ key, value ++ after, encoding, ?_, key', utf8, value'⟩
    rw [split, same]
    simp only [List.append_assoc, List.cons_append]
  · rintro ⟨key, value, encoding, rfl, named, utf8, encoded⟩
    obtain ⟨before, word, gap, rfl, front, inner, charset, nonempty, printed⟩ :=
      named.middle word_charset
    obtain ⟨space, name, after, rfl, outer, back, encodes, present, visible⟩ :=
      encoded.middle (word_encoding utf8)
    refine ⟨word ++ gap, space ++ name, encoding, ?_,
      ⟨[], word, gap, rfl, none, inner, charset⟩, utf8,
      ⟨space, name, [], by rw [List.append_nil], outer, none, encodes⟩⟩
    have whole : before ++ word ++ gap ++ '=' :: (space ++ name ++ after) =
        before ++ ((word ++ gap) ++ '=' :: (space ++ name)) ++ after := by
      simp only [List.append_assoc, List.cons_append]
    have some_ : (word ++ gap) ++ '=' :: (space ++ name) ≠ [] := by simp
    rw [whole, trim_padded front back some_]
    · simp only [List.append_assoc]
      rw [List.head_append_of_ne_nil nonempty]
      exact printed _ (List.head_mem nonempty)
    · have last : (word ++ gap ++ '=' :: (space ++ name)).getLast some_ = name.getLast present := by
        have moved : word ++ gap ++ '=' :: (space ++ name) =
            (word ++ gap ++ '=' :: space) ++ name := by
          simp only [List.append_assoc, List.cons_append]
        simp only [moved]
        exact List.getLast_append_of_ne_nil _ present
      rw [last]
      exact visible _ (List.getLast_mem present)

/-- **What is taken for JSON.** The splits, trims and comparisons accept the
grammar and nothing else. -/
theorem isJson_iff {value : List Char} : isJson value = true ↔ JsonMediaType value := by
  unfold isJson
  have whole : [';'].intercalate (value.splitOn ';') = value := List.intercalate_splitOn ';'
  constructor
  · intro accepted
    match parts : value.splitOn ';' with
    | [] => exact absurd parts (List.splitOn_ne_nil _ _)
    | [media] =>
        rw [parts] at accepted whole
        simp only [List.map_cons, List.map_nil, Bool.and_true] at accepted
        have same : media = value := by simpa using whole
        subst same
        exact .bare ((sameWord_trim_iff word_json).mp accepted)
    | [media, parameter] =>
        rw [parts] at accepted whole
        simp only [List.map_cons, List.map_nil, Bool.and_eq_true] at accepted
        have same : media ++ ';' :: parameter = value := by simpa [List.intercalate] using whole
        subst same
        obtain ⟨key, encoded, encoding, rfl, named, utf8, padded⟩ :=
          isCharset_iff.mp (isCharset_trim.mp accepted.2)
        exact .charset ((sameWord_trim_iff word_json).mp accepted.1) named utf8 padded
    | _ :: _ :: _ :: _ =>
        rw [parts] at accepted
        simp at accepted
  · intro valid
    cases valid with
    | bare named =>
        rw [List.splitOn_eq_singleton (named.parted word_json).1]
        simp only [List.map_cons, List.map_nil, Bool.and_true]
        exact (sameWord_trim_iff word_json).mpr named
    | @charset media key encoded encoding named charset utf8 padded =>
        have single : ';' ∉ key ++ '=' :: encoded := by
          intro member
          rcases List.mem_append.mp member with first | second
          · exact (charset.parted word_charset).1 first
          · rcases List.mem_cons.mp second with same | last
            · cases same
            · exact (padded.parted (word_encoding utf8)).1 last
        rw [List.splitOn_append_cons_self_of_not_mem (named.parted word_json).1,
          List.splitOn_eq_singleton single]
        simp only [List.map_cons, List.map_nil, Bool.and_eq_true]
        exact ⟨(sameWord_trim_iff word_json).mpr named, isCharset_trim.mpr
          (isCharset_iff.mpr ⟨key, encoded, encoding, rfl, charset, utf8, padded⟩)⟩

end RustEnrich.Http
