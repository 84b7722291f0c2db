import Mathlib

namespace ApexQuant
namespace Foundation

/-!
# Text as a list of code points

Python's `str`, Rust's `&str` and a SQL `TEXT` value are all sequences of
Unicode scalar values once they are decoded, so one representation serves the
three languages.  Splitting at a separator is `List.splitOn`, which agrees with
`str.split(sep)` and `str::split` on the empty text and on adjacent separators.

Case folding is not modelled character by character.  The programs here only
ever compare a text with its folded form, and what they rely on is that folding
leaves plain ASCII text without capitals alone.  `Lowercasing` carries that law
with the function, so that each language may keep its own table.
-/

/-- A decoded text. -/
abbrev Text := List Char

namespace Text

instance lawfulBEq : LawfulBEq Text :=
  List.instLawfulBEq

/-- The code points that `str.isspace` accepts and `str.strip` removes. -/
def isSpace (c : Char) : Bool :=
  (9 ≤ c.toNat && c.toNat ≤ 13) || (28 ≤ c.toNat && c.toNat ≤ 32) || c.toNat == 0x85 ||
    c.toNat == 0xa0 || c.toNat == 0x1680 || (0x2000 ≤ c.toNat && c.toNat ≤ 0x200a) ||
    c.toNat == 0x2028 || c.toNat == 0x2029 || c.toNat == 0x202f || c.toNat == 0x205f ||
    c.toNat == 0x3000

/-- `str.strip()`. -/
def strip (text : Text) : Text :=
  (text.dropWhile isSpace).rdropWhile isSpace

theorem strip_eq_self (text : Text) (solid : forall c, c ∈ text -> isSpace c = false) :
    strip text = text := by
  have left : text.dropWhile isSpace = text := by
    rw [List.dropWhile_eq_self_iff]
    intro nonempty spaced
    rw [solid _ (List.getElem_mem nonempty)] at spaced
    exact Bool.false_ne_true spaced
  rw [strip, left, List.rdropWhile_eq_self_iff]
  intro nonempty spaced
  rw [solid _ (List.getLast_mem nonempty)] at spaced
  exact Bool.false_ne_true spaced

/-- A character that survives stops the trimming on its right-hand side. -/
theorem rdropWhile_append_cons {p : Char -> Bool} (before : Text) (kept : Char) (after : Text)
    (survives : p kept = false) :
    (before ++ kept :: after).rdropWhile p = before ++ kept :: after.rdropWhile p := by
  induction after using List.reverseRecOn with
  | nil => simp [survives]
  | append_singleton after last ih =>
      rw [← List.cons_append, ← List.append_assoc]
      cases dropped : p last with
      | true =>
          rw [List.rdropWhile_concat_pos _ _ _ dropped, List.rdropWhile_concat_pos _ _ _ dropped]
          exact ih
      | false =>
          rw [List.rdropWhile_concat_neg _ _ _ (by simp [dropped]),
            List.rdropWhile_concat_neg _ _ _ (by simp [dropped])]
          simp only [List.append_assoc, List.cons_append]

/-- Trimming a text that opens with a solid word and a solid separator only
touches what follows the separator. -/
theorem strip_word_append (word : Text) (separator : Char) (rest : Text) (nonempty : word ≠ [])
    (solid : forall c, c ∈ word -> isSpace c = false) (kept : isSpace separator = false) :
    strip (word ++ separator :: rest) = word ++ separator :: rest.rdropWhile isSpace := by
  rcases List.exists_cons_of_ne_nil nonempty with ⟨first, tail, rfl⟩
  have left : (first :: tail ++ separator :: rest).dropWhile isSpace = first :: tail ++ separator :: rest := by
    rw [List.cons_append, List.dropWhile_cons, solid first List.mem_cons_self]
    rfl
  rw [strip, left, rdropWhile_append_cons _ _ _ kept]

/-- What is left of a text between blanks, when it has none itself. -/
theorem strip_surrounded {before core after : Text} (nonempty : core ≠ [])
    (opening : forall c, c ∈ before -> isSpace c = true) (solid : forall c, c ∈ core -> isSpace c = false)
    (closing : forall c, c ∈ after -> isSpace c = true) : strip (before ++ core ++ after) = core := by
  rcases List.eq_nil_or_concat' core with empty | ⟨initial, last, rfl⟩
  · exact absurd empty nonempty
  · have left : (before ++ (initial ++ [last]) ++ after).dropWhile isSpace = initial ++ [last] ++ after := by
      rw [List.append_assoc, List.dropWhile_append_of_pos opening, List.dropWhile_eq_self_iff]
      intro inside spaced
      have first : (initial ++ [last] ++ after)[0]? = (initial ++ [last])[0]? := by
        rw [List.getElem?_append_left (by simp)]
      rw [List.getElem?_eq_getElem inside, List.getElem?_eq_getElem (by simp)] at first
      rw [Option.some.inj first, solid _ (List.getElem_mem _)] at spaced
      exact Bool.false_ne_true spaced
    have right : after.rdropWhile isSpace = [] := List.rdropWhile_eq_nil_iff.mpr closing
    rw [strip, left, List.append_assoc, List.singleton_append, rdropWhile_append_cons _ _ _ (solid last (by simp)), right]

/-- The code points that `char::is_whitespace` accepts and `str::trim` removes: all
of Python's but the four separators among the control characters. -/
def isWhitespace (c : Char) : Bool :=
  isSpace c && !(28 ≤ c.toNat && c.toNat ≤ 31)

/-- `str::trim`. -/
def trim (text : Text) : Text :=
  (text.dropWhile isWhitespace).rdropWhile isWhitespace

/-- A text with solid ends is left as it is. -/
theorem trim_of_ends {text : Text} (opening : forall c, text.head? = some c -> isWhitespace c = false)
    (closing : forall c, text.getLast? = some c -> isWhitespace c = false) : trim text = text := by
  have left : text.dropWhile isWhitespace = text := by
    cases text with
    | nil => rfl
    | cons first rest => exact List.dropWhile_cons_of_neg (by rw [opening first rfl]; exact Bool.false_ne_true)
  rw [trim, left, List.rdropWhile_eq_self_iff]
  intro nonempty blank
  exact Bool.false_ne_true ((closing _ (List.getLast?_eq_some_getLast nonempty)).symm.trans blank)

theorem trim_of_solid {text : Text} (solid : forall c, c ∈ text -> isWhitespace c = false) : trim text = text :=
  trim_of_ends (fun c opening => solid c (List.mem_of_head? opening)) fun c closing => solid c (List.mem_of_getLast? closing)

theorem isWhitespace_eq_false {c : Char} (solid : isSpace c = false) : isWhitespace c = false := by
  rw [isWhitespace, solid, Bool.false_and]

theorem trim_eq_self (text : Text) (solid : forall c, c ∈ text -> isSpace c = false) : trim text = text :=
  trim_of_solid fun c member => isWhitespace_eq_false (solid c member)

/-- What is left between the dropped ends begins and ends with what is not dropped. -/
theorem head?_dropped {p : Char -> Bool} {text : Text} {c : Char}
    (opening : ((text.dropWhile p).rdropWhile p).head? = some c) : p c = false := by
  have first : (text.dropWhile p).head? = some c := by
    rcases List.rdropWhile_prefix (p := p) (text.dropWhile p) with ⟨dropped, whole⟩
    rw [← whole, List.head?_append, opening, Option.some_or]
  have known := List.head?_dropWhile_not p text
  rw [first] at known
  exact known

theorem getLast?_dropped {p : Char -> Bool} {text : Text} {c : Char}
    (closing : ((text.dropWhile p).rdropWhile p).getLast? = some c) : p c = false := by
  rcases List.getLast?_eq_some_iff.mp closing with ⟨initial, whole⟩
  have nonempty : (text.dropWhile p).rdropWhile p ≠ [] := by
    rw [whole]
    simp
  have last := List.rdropWhile_last_not p (text.dropWhile p) nonempty
  rw [List.getLast?_eq_some_getLast nonempty] at closing
  rw [← Option.some.inj closing]
  exact Bool.eq_false_of_not_eq_true last

theorem isSpace_head?_strip {text : Text} {c : Char} (opening : (strip text).head? = some c) : isSpace c = false :=
  head?_dropped opening

theorem isSpace_getLast?_strip {text : Text} {c : Char} (closing : (strip text).getLast? = some c) :
    isSpace c = false :=
  getLast?_dropped closing

theorem trim_trim (text : Text) : trim (trim text) = trim text :=
  trim_of_ends (fun _ opening => head?_dropped opening) fun _ closing => getLast?_dropped closing

/-- A change of characters that leaves blanks and only them blank. -/
theorem trim_map {change : Char -> Char} (keeps : forall c, isWhitespace (change c) = isWhitespace c) (text : Text) :
    trim (text.map change) = (trim text).map change := by
  have same : isWhitespace ∘ change = isWhitespace := funext keeps
  rw [trim, trim, List.dropWhile_map, same, List.rdropWhile, List.rdropWhile, ← List.map_reverse, List.dropWhile_map,
    same, List.map_reverse]

theorem dropWhile_congr {p q : Char -> Bool} {text : Text} (same : forall c, c ∈ text -> p c = q c) :
    text.dropWhile p = text.dropWhile q := by
  induction text with
  | nil => rfl
  | cons c rest inductionHypothesis =>
      have later := inductionHypothesis fun d member => same d (List.mem_cons_of_mem _ member)
      rw [List.dropWhile_cons, List.dropWhile_cons, same c List.mem_cons_self, later]

/-- Nothing is left between the dropped ends exactly when all is dropped. -/
theorem dropped_eq_nil_iff {p : Char -> Bool} {text : Text} :
    (text.dropWhile p).rdropWhile p = [] <-> forall c, c ∈ text -> p c = true := by
  rw [List.rdropWhile_eq_nil_iff]
  constructor
  · intro rest
    have nothing : text.dropWhile p = [] := by
      cases left : text.dropWhile p with
      | nil => rfl
      | cons first others =>
          have kept := List.head?_dropWhile_not p text
          rw [left] at rest kept
          exact absurd (rest first List.mem_cons_self) (by simpa using kept)
    exact List.dropWhile_eq_nil_iff.mp nothing
  · intro all c member
    exact all c (List.dropWhile_subset p member)

theorem strip_eq_nil_iff {text : Text} : strip text = [] <-> forall c, c ∈ text -> isSpace c = true :=
  dropped_eq_nil_iff

theorem trim_eq_nil_iff {text : Text} : trim text = [] <-> forall c, c ∈ text -> isWhitespace c = true :=
  dropped_eq_nil_iff

/-- What `strip` leaves is left by `trim`. -/
theorem trim_strip (text : Text) : trim (strip text) = strip text :=
  trim_of_ends (fun _ opening => isWhitespace_eq_false (isSpace_head?_strip opening))
    fun _ closing => isWhitespace_eq_false (isSpace_getLast?_strip closing)

/-- A text that is solid after `trim` is what `strip` leaves as well. -/
theorem strip_eq_trim {text : Text} (nonempty : trim text ≠ [])
    (solid : forall c, c ∈ trim text -> isSpace c = false) : strip text = trim text := by
  have split : text = text.takeWhile isWhitespace ++ trim text ++
      (text.dropWhile isWhitespace).rtakeWhile isWhitespace := by
    rw [trim, List.append_assoc, List.rdropWhile, List.rtakeWhile, ← List.reverse_append,
      List.takeWhile_append_dropWhile, List.reverse_reverse, List.takeWhile_append_dropWhile]
  have spaced : forall c, isWhitespace c = true -> isSpace c = true := fun c blank => (Bool.and_eq_true_iff.mp blank).1
  calc
    strip text = strip (text.takeWhile isWhitespace ++ trim text ++
        (text.dropWhile isWhitespace).rtakeWhile isWhitespace) := congrArg strip split
    _ = trim text := strip_surrounded nonempty
      (fun c member => spaced c (List.mem_takeWhile_imp member)) solid
      fun c member => spaced c (List.mem_rtakeWhile_imp member)

/-! ## Octets -/

def isAscii (text : Text) : Bool :=
  text.all fun c => decide (c.toNat < 128)

/-- The octets of a text in ASCII. -/
def ascii (text : Text) : List UInt8 :=
  text.map fun c => UInt8.ofNat c.toNat

/-- The octets of a text in UTF-8. -/
def utf8 (text : Text) : List UInt8 :=
  text.flatMap String.utf8EncodeChar

theorem utf8_of_isAscii {text : Text} (plain : isAscii text = true) : utf8 text = ascii text := by
  rw [isAscii, List.all_eq_true] at plain
  induction text with
  | nil => rfl
  | cons c rest inductionHypothesis =>
      have small : c.toNat < 128 := of_decide_eq_true (plain c List.mem_cons_self)
      have single : c.utf8Size = 1 := Char.utf8Size_eq_one_iff.mpr (UInt32.le_iff_toNat_le.mpr (Nat.le_of_lt_succ small))
      have later := inductionHypothesis fun other member => plain other (List.mem_cons_of_mem _ member)
      rw [utf8] at later
      rw [utf8, List.flatMap_cons, String.utf8EncodeChar_eq_singleton single, later]
      rfl

theorem utf8_injective : Function.Injective utf8 := by
  intro left right same
  have encoded : List.utf8Encode left = List.utf8Encode right := congrArg List.toByteArray same
  have decoded := congrArg ByteArray.utf8Decode? encoded
  rw [List.utf8Decode?_utf8Encode, List.utf8Decode?_utf8Encode] at decoded
  exact congrArg Array.toList (Option.some.inj decoded)

/-- SQL's `length(trim(value)) > 0`, which trims spaces only. -/
def notBlank (value : Text) : Bool :=
  value.any fun c => decide (c ≠ ' ')

/-- A text that a driver can send as a parameter: one without a zero byte. -/
def sendable (value : Text) : Bool :=
  value.all fun c => decide (c ≠ '\x00')

/-! ## Separators -/

theorem apart_of_not_mem {separator : Char} {text : Text} (solid : separator ∉ text) :
    forall c, c ∈ text -> decide (c ≠ separator) = true := by
  intro c member
  refine decide_eq_true ?_
  rintro rfl
  exact solid member

/-- The part before the first separator, and what is left of the text there. -/
theorem takeWhile_apart {separator : Char} {before : Text} (solid : separator ∉ before) (after : Text) :
    (before ++ separator :: after).takeWhile (fun c => decide (c ≠ separator)) = before := by
  rw [List.takeWhile_append_of_pos (apart_of_not_mem solid), List.takeWhile_cons_of_neg (by simp), List.append_nil]

theorem dropWhile_apart {separator : Char} {before : Text} (solid : separator ∉ before) (after : Text) :
    (before ++ separator :: after).dropWhile (fun c => decide (c ≠ separator)) = separator :: after := by
  rw [List.dropWhile_append_of_pos (apart_of_not_mem solid), List.dropWhile_cons_of_neg (by simp)]

/-- No piece of a split contains the separator. -/
theorem not_mem_of_mem_splitOn {α : Type} [DecidableEq α] {separator : α} {text piece : List α}
    (member : piece ∈ List.splitOn separator text) : separator ∉ piece := by
  induction text generalizing piece with
  | nil =>
      rw [List.splitOn_nil, List.mem_singleton] at member
      subst piece
      exact List.not_mem_nil
  | cons head tail ih =>
      rw [List.splitOn_cons_eq_if_modifyHead] at member
      by_cases same : (head == separator) = true
      · rw [if_pos same] at member
        rcases List.mem_cons.mp member with empty | later
        · subst piece
          exact List.not_mem_nil
        · exact ih later
      · rw [if_neg same] at member
        rcases List.exists_cons_of_ne_nil (List.splitOn_ne_nil separator tail) with ⟨first, rest, shape⟩
        rw [shape] at ih member
        rcases List.mem_cons.mp member with opening | later
        · subst piece
          intro found
          rcases List.mem_cons.mp found with equal | inside
          · exact same (beq_iff_eq.mpr equal.symm)
          · exact ih List.mem_cons_self inside
        · exact ih (List.mem_cons_of_mem _ later)

/-- Every character of a text is a separator or lies in a piece. -/
theorem mem_of_splitOn (separator : Char) {c : Char} {text : Text} (member : c ∈ text) :
    c = separator ∨ Exists fun piece => piece ∈ List.splitOn separator text ∧ c ∈ piece := by
  induction text with
  | nil => exact absurd member List.not_mem_nil
  | cons head tail ih =>
      rw [List.splitOn_cons_eq_if_modifyHead]
      by_cases same : (head == separator) = true
      · rw [if_pos same]
        rcases List.mem_cons.mp member with equal | later
        · exact Or.inl (equal.trans (beq_iff_eq.mp same))
        · exact (ih later).imp id (fun ⟨piece, listed, inside⟩ => ⟨piece, List.mem_cons_of_mem _ listed, inside⟩)
      · rw [if_neg same]
        rcases List.exists_cons_of_ne_nil (List.splitOn_ne_nil separator tail) with ⟨first, rest, shape⟩
        rw [shape] at ih ⊢
        rw [List.modifyHead_cons]
        rcases List.mem_cons.mp member with equal | later
        · exact Or.inr ⟨head :: first, List.mem_cons_self, equal ▸ List.mem_cons_self⟩
        · refine (ih later).imp id ?_
          rintro ⟨piece, listed, inside⟩
          rcases List.mem_cons.mp listed with opening | further
          · exact ⟨head :: first, List.mem_cons_self, List.mem_cons_of_mem _ (opening ▸ inside)⟩
          · exact ⟨piece, List.mem_cons_of_mem _ further, inside⟩

/-- A text is determined by its pieces. -/
theorem eq_of_splitOn_eq (separator : Char) {left right : Text}
    (same : List.splitOn separator left = List.splitOn separator right) : left = right := by
  have joined := congrArg (List.intercalate [separator]) same
  rwa [List.intercalate_splitOn, List.intercalate_splitOn] at joined

/-! ## Case folding -/

/-- A case-folding function of some language, with the one law the programs
rely on: plain ASCII text without capitals is already folded. -/
structure Lowercasing where
  lower : Text -> Text
  lower_of_plain : forall text, (forall c, c ∈ text -> c.toNat < 128 ∧ c.isUpper = false) -> lower text = text

/-- Folding of ASCII letters only. -/
def asciiLowercasing : Lowercasing where
  lower := List.map Char.toLower
  lower_of_plain := by
    intro text plain
    calc
      text.map Char.toLower = text.map id :=
        List.map_congr_left fun c member => by
          have small := of_decide_eq_false (plain c member).2
          rw [Char.toLower, dif_neg small]
          rfl
      _ = text := List.map_id text

/-- Upper-casing changes the small letters only. -/
theorem toUpper_cases (c : Char) :
    c.toUpper = c ∨ Exists fun n => n < 26 ∧ c = Char.ofNat (97 + n) ∧ c.toUpper = Char.ofNat (65 + n) := by
  by_cases lower : c.isLower = true
  · have bounds : 97 ≤ c.toNat ∧ c.toNat ≤ 122 := by
      simpa [Char.isLower, UInt32.le_iff_toNat_le] using lower
    refine Or.inr ⟨c.toNat - 97, by omega, ?_, ?_⟩
    · rw [show 97 + (c.toNat - 97) = c.toNat by omega, Char.ofNat_toNat]
    · rw [Char.toUpper_eq_of_isLower lower, show c.toNat - 32 = 65 + (c.toNat - 97) by omega]
  · exact Or.inl (Char.toUpper_eq_of_not_isLower lower)

/-- A test that takes capitals and small letters alike. -/
theorem apply_toUpper {test : Char -> Bool}
    (letters : forall n, n < 26 -> test (Char.ofNat (65 + n)) = test (Char.ofNat (97 + n))) (c : Char) :
    test c.toUpper = test c := by
  rcases toUpper_cases c with same | ⟨n, small, letter, capital⟩
  · rw [same]
  · rw [capital, letter, letters n small]

theorem isSpace_toUpper (c : Char) : isSpace c.toUpper = isSpace c :=
  apply_toUpper (by decide) c

theorem isWhitespace_toUpper (c : Char) : isWhitespace c.toUpper = isWhitespace c :=
  apply_toUpper (by decide) c

theorem isWhitespace_toLower (c : Char) : isWhitespace c.toLower = isWhitespace c := by
  have cased := isWhitespace_toUpper c.toLower
  rw [Char.toUpper_toLower_eq_toUpper, isWhitespace_toUpper] at cased
  exact cased.symm

/-- `str.upper` of a character.  The programs rely on the ASCII ones, and on these facts
of Unicode: a character becomes characters, none of which is an ASCII letter in lower
case, and no blank comes of a character that is none. -/
structure Uppercasing where
  upper : Char -> Text
  upper_of_ascii : forall c, c.toNat < 128 -> upper c = [c.toUpper]
  upper_ne_nil : forall c, upper c ≠ []
  not_isLower : forall c d, d ∈ upper c -> d.isLower = false
  solid : forall c d, isSpace c = false -> d ∈ upper c -> isSpace d = false

namespace Uppercasing

variable (casing : Uppercasing)

/-- `str.upper()`. -/
def text (given : Text) : Text :=
  given.flatMap casing.upper

/-- No ASCII letter in lower case is left. -/
theorem toUpper_text (given : Text) : (casing.text given).map Char.toUpper = casing.text given := by
  have fixed : forall c, c ∈ casing.text given -> c.toUpper = c := by
    intro c member
    rcases List.mem_flatMap.mp member with ⟨origin, -, inside⟩
    exact Char.toUpper_eq_of_not_isLower (by rw [casing.not_isLower origin c inside]; exact Bool.false_ne_true)
  rw [List.map_congr_left fixed, List.map_id']

theorem text_ne_nil {given : Text} (nonempty : given ≠ []) : casing.text given ≠ [] := by
  cases given with
  | nil => exact absurd rfl nonempty
  | cons first rest => exact List.append_ne_nil_of_left_ne_nil (casing.upper_ne_nil first) _

/-- An upper-cased text without blanks around it has none either. -/
theorem trim_text_strip (given : Text) : trim (casing.text (strip given)) = casing.text (strip given) := by
  apply trim_of_ends
  · intro c opening
    cases kept : strip given with
    | nil =>
        rw [kept] at opening
        cases opening
    | cons first rest =>
        have solid : isSpace first = false := isSpace_head?_strip (congrArg List.head? kept)
        rw [kept, text, List.flatMap_cons, List.head?_append_of_ne_nil _ (casing.upper_ne_nil first)] at opening
        exact isWhitespace_eq_false (casing.solid first c solid (List.mem_of_head? opening))
  · intro c closing
    rcases List.eq_nil_or_concat' (strip given) with kept | ⟨initial, last, kept⟩
    · rw [kept] at closing
      cases closing
    · have solid : isSpace last = false := isSpace_getLast?_strip (by rw [kept, List.getLast?_concat])
      rw [kept, text, List.flatMap_append, List.flatMap_singleton,
        List.getLast?_append_of_ne_nil _ (casing.upper_ne_nil last)] at closing
      exact isWhitespace_eq_false (casing.solid last c solid (List.mem_of_getLast? closing))

end Uppercasing

/-- Upper-casing of ASCII letters only. -/
def asciiUppercasing : Uppercasing where
  upper := fun c => [c.toUpper]
  upper_of_ascii := fun _ _ => rfl
  upper_ne_nil := fun _ => nofun
  not_isLower := by
    intro c d member
    rw [List.mem_singleton.mp member]
    exact Char.isLower_toUpper_eq_false c
  solid := by
    intro c d solid member
    rw [List.mem_singleton.mp member, isSpace_toUpper, solid]

/-! ## Decimal digits -/

/-- The decimal digits of Unicode with their values, which `\d` matches and `int`
reads.  The programs rely on the ASCII ones. -/
structure DecimalDigits where
  value : Char -> Option Nat
  value_of_ascii : forall c, c.toNat < 128 ->
    value c = if 48 ≤ c.toNat ∧ c.toNat ≤ 57 then some (c.toNat - 48) else none

namespace DecimalDigits

/-- `\d`. -/
def isDigit (digits : DecimalDigits) (c : Char) : Bool :=
  (digits.value c).isSome

/-- `int(text)` for a text of digits. -/
def number (digits : DecimalDigits) (text : Text) : Nat :=
  text.foldl (fun total c => total * 10 + (digits.value c).getD 0) 0

end DecimalDigits

/-- The ASCII digits alone. -/
def asciiDigits : DecimalDigits where
  value := fun c => if 48 ≤ c.toNat ∧ c.toNat ≤ 57 then some (c.toNat - 48) else none
  value_of_ascii := fun _ _ => rfl

end Text
end Foundation
end ApexQuant
