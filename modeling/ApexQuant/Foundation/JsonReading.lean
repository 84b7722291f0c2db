import ApexQuant.Foundation.JsonText

namespace ApexQuant
namespace Foundation

/-!
# Reading the text of a document

A reader for JSON texts.  It skips blanks between the parts, takes every escape of a
string but the halves of pairs, and of the numbers it takes the whole ones.  What a writer
writes is read back when its strings and numbers are.
-/

namespace Json

/-! ## Characters and numbers -/

def isBlank (c : Char) : Bool :=
  c == ' ' || c == '\n' || c == '\r' || c == '\t'

def skip (text : Text) : Text :=
  text.dropWhile isBlank

/-- The text behind the character, which may have blanks before it. -/
def expect (c : Char) (text : Text) : Option Text :=
  match skip text with
  | [] => none
  | d :: rest => if d = c then some rest else none

/-- The value of a hexadecimal digit. -/
def hexDigit (c : Char) : Option Nat :=
  if 48 ≤ c.toNat ∧ c.toNat ≤ 57 then some (c.toNat - 48)
  else if 97 ≤ c.toNat ∧ c.toNat ≤ 102 then some (c.toNat - 87)
  else if 65 ≤ c.toNat ∧ c.toNat ≤ 70 then some (c.toNat - 55)
  else none

/-- A code unit of UTF-16 in four digits. -/
def readUnit : Text -> Option (Nat × Text)
  | a :: b :: c :: d :: rest => do
      let a ← hexDigit a
      let b ← hexDigit b
      let c ← hexDigit c
      let d ← hexDigit d
      pure (((a * 16 + b) * 16 + c) * 16 + d, rest)
  | _ => none

/-- The characters that a letter after a backslash stands for. -/
def shortEscapes : List (Char × Char) :=
  [('"', '"'), ('\\', '\\'), ('/', '/'), ('b', '\x08'), ('f', '\x0c'), ('n', '\n'), ('r', '\r'), ('t', '\t')]

/-- A character by its code units, of which the second is read when the first is the
upper half of a pair. -/
def readUnits (text : Text) : Option (Char × Text) := do
  let (high, rest) ← readUnit text
  if 0xd800 ≤ high ∧ high ≤ 0xdbff then
    let rest ← match rest with
      | '\\' :: 'u' :: rest => some rest
      | _ => none
    let (low, rest) ← readUnit rest
    if 0xdc00 ≤ low ∧ low ≤ 0xdfff then
      some (Char.ofNat (0x10000 + (high - 0xd800) * 1024 + (low - 0xdc00)), rest)
    else none
  else if 0xdc00 ≤ high ∧ high ≤ 0xdfff then none
  else some (Char.ofNat high, rest)

/-- The character of an escape, behind the backslash. -/
def readEscape : Text -> Option (Char × Text)
  | [] => none
  | letter :: rest =>
      if letter = 'u' then readUnits rest else (shortEscapes.lookup letter).map fun known => (known, rest)

/-- One character of a string. -/
def readCharacter : Text -> Option (Char × Text)
  | [] => none
  | c :: rest => if c = '\\' then readEscape rest else if c.toNat < 32 then none else some (c, rest)

/-- The characters up to the closing quote, of which there are fewer than the fuel. -/
def readString : Nat -> Text -> Option (Text × Text)
  | 0, _ => none
  | fuel + 1, text =>
      if text.head? = some '"' then some ([], text.tail)
      else
        match readCharacter text with
        | none => none
        | some (c, rest) => (readString fuel rest).map fun read => (c :: read.1, read.2)

/-- Digits, with no zero before others and no fraction or exponent behind them. -/
def readNatural (text : Text) : Option (Nat × Text) :=
  let numeral := text.takeWhile Char.isDigit
  let rest := text.dropWhile Char.isDigit
  if numeral = [] ∨ (numeral.head? = some '0' ∧ numeral ≠ ['0']) ∨
      rest.head?.any (fun c => c == '.' || c == 'e' || c == 'E') = true then none
  else some (Text.asciiDigits.number numeral, rest)

/-- A whole number; there is no negative zero. -/
def readInteger (text : Text) : Option (Int × Text) :=
  if text.head? = some '-' then
    match readNatural text.tail with
    | some (n + 1, rest) => some (.negSucc n, rest)
    | _ => none
  else (readNatural text).map fun read => (.ofNat read.1, read.2)

def readWord (word text : Text) : Option Text :=
  if word.isPrefixOf text then some (text.drop word.length) else none

/-! ## Documents -/

mutual

/-- A document that is nested less deep than the fuel. -/
def readValue : Nat -> Text -> Option (Json × Text)
  | 0, _ => none
  | fuel + 1, text =>
      match (skip text).head?.bind kindOf with
      | none => none
      | some .null => (readWord "null".toList (skip text)).map fun rest => (.null, rest)
      | some .yes => (readWord "true".toList (skip text)).map fun rest => (.bool true, rest)
      | some .no => (readWord "false".toList (skip text)).map fun rest => (.bool false, rest)
      | some .number => (readInteger (skip text)).map fun read => (.integer read.1, read.2)
      | some .string => (readString text.length (skip text).tail).map fun read => (.string read.1, read.2)
      | some .array =>
          match expect ']' (skip text).tail with
          | some rest => some (.array [], rest)
          | none => (readItems fuel (skip text).tail).map fun read => (.array read.1, read.2)
      | some .object =>
          match expect '\x7d' (skip text).tail with
          | some rest => some (.object [], rest)
          | none => (readFields fuel (skip text).tail).map fun read => (.object read.1, read.2)

def readItems : Nat -> Text -> Option (List Json × Text)
  | 0, _ => none
  | fuel + 1, text =>
      match readValue fuel text with
      | none => none
      | some (item, rest) =>
          match expect ']' rest with
          | some rest => some ([item], rest)
          | none =>
              match expect ',' rest with
              | none => none
              | some rest => (readItems fuel rest).map fun read => (item :: read.1, read.2)

def readFields : Nat -> Text -> Option (List (Text × Json) × Text)
  | 0, _ => none
  | fuel + 1, text =>
      match expect '"' text with
      | none => none
      | some rest =>
          match readString text.length rest with
          | none => none
          | some (key, rest) =>
              match expect ':' rest with
              | none => none
              | some rest =>
                  match readValue fuel rest with
                  | none => none
                  | some (item, rest) =>
                      match expect '\x7d' rest with
                      | some rest => some ([(key, item)], rest)
                      | none =>
                          match expect ',' rest with
                          | none => none
                          | some rest => (readFields fuel rest).map fun read => ((key, item) :: read.1, read.2)

end

/-- The document of a text, with nothing but blanks around it. -/
def read (text : Text) : Option Json :=
  match readValue (text.length + 1) text with
  | none => none
  | some (document, rest) => if skip rest = [] then some document else none

example : (read " \x7b \"a\\u00e9\\ud83d\\ude00\" : [ 12 , -3,true,\x7b\x7d ] \x7d\n".toList).map (render
      { string := fun text => text, integer := fun _ => ['0'], float := fun _ => [] }) =
    some "\x7baé😀:[0,0,true,\x7b\x7d]\x7d".toList := by
  decide +kernel

/-! ## What is written is read back -/

/-- The strings and numbers of the writer are read back. -/
structure Writer.Readable (writer : Writer) : Prop where
  shaped : writer.Shaped
  strings : forall text rest fuel, (writer.string text).length ≤ fuel ->
    readString fuel (writer.string text ++ rest).tail = some (text, rest)
  integers : forall value rest, Delimited rest -> readInteger (writer.integer value ++ rest) = some (value, rest)

theorem skip_of_head {text : Text} {c : Char} (opening : text.head? = some c) (solid : isBlank c = false) :
    skip text = text := by
  cases text with
  | nil => cases opening
  | cons first rest =>
      rw [← Option.some.inj opening] at solid
      rw [skip, List.dropWhile_cons_of_neg (by rw [solid]; exact Bool.false_ne_true)]

theorem expect_cons {c : Char} (solid : isBlank c = false) (rest : Text) : expect c (c :: rest) = some rest := by
  rw [expect, skip_of_head rfl solid]
  exact if_pos rfl

theorem expect_of_head {c d : Char} {text : Text} (opening : text.head? = some d) (solid : isBlank d = false)
    (other : d ≠ c) : expect c text = none := by
  rw [expect, skip_of_head opening solid]
  cases text with
  | nil => rfl
  | cons first rest =>
      rw [← Option.some.inj opening] at other
      exact if_neg other

/-- What opens a document is no blank and closes nothing. -/
theorem solid_of_kindOf {c : Char} {kind : Kind} (known : kindOf c = some kind) :
    isBlank c = false ∧ c ≠ ']' ∧ c ≠ '\x7d' := by
  refine ⟨?_, ?_, ?_⟩
  · cases blank : isBlank c with
    | false => rfl
    | true =>
        simp only [isBlank, Bool.or_eq_true, beq_iff_eq] at blank
        rcases blank with ((rfl | rfl) | rfl) | rfl <;> cases known
  · rintro rfl
    cases known
  · rintro rfl
    cases known

section Written

variable {writer : Writer} (readable : writer.Readable)
include readable

/-- The text of the document is read back from a text that goes on behind it. -/
def ReadBack (writer : Writer) (document : Json) : Prop :=
  forall fuel rest, (render writer document).length ≤ fuel -> Delimited rest ->
    readValue fuel (render writer document ++ rest) = some (document, rest)

omit readable in
theorem head?_joined_cons (text : Text) (texts : List Text) (rest : Text) {c : Char} (opening : text.head? = some c) :
    (joined (text :: texts) ++ rest).head? = some c := by
  cases texts with
  | nil => rw [joined, List.head?_append, opening, Option.some_or]
  | cons next texts => rw [joined, List.head?_append, List.head?_append, opening, Option.some_or, Option.some_or]

omit readable in
theorem readItems_joined {items : List Json} (nonempty : items ≠ [])
    (each : forall item, item ∈ items -> ReadBack writer item) : forall (fuel : Nat) (rest : Text),
    (joined (items.map (render writer))).length + 1 ≤ fuel ->
      readItems fuel (joined (items.map (render writer)) ++ ']' :: rest) = some (items, rest) := by
  induction items with
  | nil => exact absurd rfl nonempty
  | cons item items inductionHypothesis =>
      intro fuel rest enough
      rcases Nat.exists_eq_succ_of_ne_zero (Nat.ne_zero_of_lt (Nat.lt_of_succ_le enough)) with ⟨fuel, rfl⟩
      have here := each item List.mem_cons_self
      cases items with
      | nil =>
          rw [List.map_cons, List.map_nil, joined] at enough ⊢
          rw [readItems, here fuel _ (by omega) (delimited_cons rfl rest)]
          dsimp only
          rw [expect_cons rfl]
      | cons next items =>
          have later := inductionHypothesis (by simp) (fun other member => each other (List.mem_cons_of_mem _ member))
          rw [joined_map_cons, List.length_append, List.length_cons] at enough
          rw [joined_map_cons, List.append_assoc, List.cons_append, readItems,
            here fuel _ (by omega) (delimited_cons rfl _)]
          have open' : forall tail : Text, expect ']' (',' :: tail) = none := fun tail =>
            expect_of_head rfl rfl (by decide)
          simp only [open', expect_cons (rfl : isBlank ',' = false)]
          rw [later fuel rest (by omega)]
          rfl

theorem readFields_joined {fields : List (Text × Json)} (nonempty : fields ≠ [])
    (each : forall field, field ∈ fields -> ReadBack writer field.2) : forall (fuel : Nat) (rest : Text),
    (joined (fields.map (renderField writer))).length + 1 ≤ fuel ->
      readFields fuel (joined (fields.map (renderField writer)) ++ '\x7d' :: rest) = some (fields, rest) := by
  -- One field, whatever delimiter stands behind it.
  have one : forall (key : Text) (item : Json) (fuel : Nat) (rest : Text), ReadBack writer item ->
      (renderField writer (key, item)).length ≤ fuel -> Delimited rest ->
      (expect '"' (renderField writer (key, item) ++ rest)).bind
          (fun text => readString (renderField writer (key, item) ++ rest).length text) =
        some (key, ':' :: render writer item ++ rest) ∧
      expect ':' (':' :: render writer item ++ rest) = some (render writer item ++ rest) ∧
      readValue fuel (render writer item ++ rest) = some (item, rest) := by
    intro key item fuel rest back enough delimited
    have quote := readable.shaped.quoted key
    have split : renderField writer (key, item) = writer.string key ++ ':' :: render writer item := rfl
    rw [split, List.length_append, List.length_cons] at enough
    refine ⟨?_, expect_cons rfl _, back fuel rest (by omega) delimited⟩
    rw [split, List.append_assoc]
    have opened : expect '"' (writer.string key ++ (':' :: render writer item ++ rest)) =
        some (writer.string key ++ (':' :: render writer item ++ rest)).tail := by
      cases shape : writer.string key with
      | nil =>
          rw [shape] at quote
          cases quote
      | cons first others =>
          rw [shape] at quote
          rw [Option.some.inj quote, List.cons_append, expect_cons rfl, List.tail_cons]
    rw [opened, Option.bind_some]
    exact readable.strings key _ _ (by rw [List.length_append]; omega)
  induction fields with
  | nil => exact absurd rfl nonempty
  | cons field fields inductionHypothesis =>
      intro fuel rest enough
      rcases Nat.exists_eq_succ_of_ne_zero (Nat.ne_zero_of_lt (Nat.lt_of_succ_le enough)) with ⟨fuel, rfl⟩
      rcases field with ⟨key, item⟩
      have back := each (key, item) List.mem_cons_self
      cases fields with
      | nil =>
          rw [List.map_cons, List.map_nil, joined] at enough ⊢
          rcases one key item fuel ('\x7d' :: rest) back (by omega) (delimited_cons rfl rest) with ⟨name, colon, value⟩
          rcases Option.bind_eq_some_iff.mp name with ⟨opened, quote, name⟩
          rw [readFields, quote]
          simp only [name, colon, value, expect_cons (rfl : isBlank '\x7d' = false)]
      | cons next fields =>
          have later := inductionHypothesis (by simp) (fun other member => each other (List.mem_cons_of_mem _ member))
          rw [joined_map_cons, List.length_append, List.length_cons] at enough
          rw [joined_map_cons, List.append_assoc, List.cons_append]
          rcases one key item fuel (',' :: (joined ((next :: fields).map (renderField writer)) ++ '\x7d' :: rest)) back
            (by omega) (delimited_cons rfl _) with ⟨name, colon, value⟩
          rcases Option.bind_eq_some_iff.mp name with ⟨opened, quote, name⟩
          have open' : forall tail : Text, expect '\x7d' (',' :: tail) = none := fun tail =>
            expect_of_head rfl rfl (by decide)
          rw [readFields, quote]
          simp only [name, colon, value, open', expect_cons (rfl : isBlank ',' = false)]
          rw [later fuel rest (by omega)]
          rfl

omit readable in
theorem readWord_append (word rest : Text) : readWord word (word ++ rest) = some rest := by
  rw [readWord, if_pos (List.isPrefixOf_iff_prefix.mpr (List.prefix_append word rest)), List.drop_left]

/-- What a document begins with decides how it is read. -/
theorem skip_render {document : Json} (whole : Whole document) (rest : Text) :
    skip (render writer document ++ rest) = render writer document ++ rest ∧
      (render writer document ++ rest).head?.bind kindOf = some (kind document) := by
  rcases opening_of_whole readable.shaped whole with ⟨c, opening, known⟩
  have head : (render writer document ++ rest).head? = some c := by
    rw [List.head?_append, opening, Option.some_or]
  exact ⟨skip_of_head head (solid_of_kindOf known).1, by rw [head]; exact known⟩

/-- There is fuel for a document whose text is no longer than the fuel. -/
theorem exists_fuel {document : Json} (whole : Whole document) {fuel : Nat}
    (enough : (render writer document).length ≤ fuel) : Exists fun left => fuel = left + 1 := by
  rcases opening_of_whole readable.shaped whole with ⟨c, opening, _⟩
  refine Nat.exists_eq_succ_of_ne_zero ?_
  rintro rfl
  rw [List.eq_nil_of_length_eq_zero (Nat.le_zero.mp enough)] at opening
  cases opening

/-- A whole document is read back. -/
theorem readBack {document : Json} (whole : Whole document) : ReadBack writer document := by
  induction document with
  | null =>
      intro fuel rest enough _
      rcases exists_fuel readable whole enough with ⟨fuel, rfl⟩
      rcases skip_render readable whole rest with ⟨same, known⟩
      rw [readValue, same, known]
      exact congrArg (Option.map _) (readWord_append "null".toList rest)
  | bool value =>
      intro fuel rest enough _
      rcases exists_fuel readable whole enough with ⟨fuel, rfl⟩
      rcases skip_render readable whole rest with ⟨same, known⟩
      rw [readValue, same, known]
      cases value with
      | true => exact congrArg (Option.map _) (readWord_append "true".toList rest)
      | false => exact congrArg (Option.map _) (readWord_append "false".toList rest)
  | integer value =>
      intro fuel rest enough delimited
      rcases exists_fuel readable whole enough with ⟨fuel, rfl⟩
      rcases skip_render readable whole rest with ⟨same, known⟩
      rw [readValue, same, known]
      dsimp only [kind]
      rw [render, readable.integers value rest delimited]
      rfl
  | float value => exact absurd whole id
  | string text =>
      intro fuel rest enough _
      rcases exists_fuel readable whole enough with ⟨fuel, rfl⟩
      rcases skip_render readable whole rest with ⟨same, known⟩
      rw [readValue, same, known]
      dsimp only [kind]
      rw [render, readable.strings text rest _ (by rw [List.length_append]; omega)]
      rfl
  | array items inductionHypothesis =>
      intro fuel rest enough _
      rcases skip_render readable whole rest with ⟨same, known⟩
      have each := whole_array.mp whole
      rw [render_array, List.length_append, List.length_cons, List.length_singleton] at enough
      rcases Nat.exists_eq_succ_of_ne_zero (show fuel ≠ 0 by omega) with ⟨fuel, rfl⟩
      rw [readValue, same, known, render_array]
      dsimp only [kind]
      rw [List.cons_append, List.cons_append, List.tail_cons, List.append_assoc, List.singleton_append]
      cases items with
      | nil =>
          rw [List.map_nil, joined, List.nil_append, expect_cons rfl]
      | cons item items =>
          rcases opening_of_whole readable.shaped (each item List.mem_cons_self) with ⟨c, opening, sort⟩
          rcases solid_of_kindOf sort with ⟨solid, notClosing, _⟩
          have open' : expect ']' (joined ((item :: items).map (render writer)) ++ ']' :: rest) = none :=
            expect_of_head (head?_joined_cons _ _ _ opening) solid notClosing
          rw [open', readItems_joined (by simp) (fun other member => inductionHypothesis other member (each other member))
            fuel rest (by omega)]
          rfl
  | object fields inductionHypothesis =>
      intro fuel rest enough _
      rcases skip_render readable whole rest with ⟨same, known⟩
      have each := whole_object.mp whole
      rw [render_object, List.length_append, List.length_cons, List.length_singleton] at enough
      rcases Nat.exists_eq_succ_of_ne_zero (show fuel ≠ 0 by omega) with ⟨fuel, rfl⟩
      rw [readValue, same, known, render_object]
      dsimp only [kind]
      rw [List.cons_append, List.cons_append, List.tail_cons, List.append_assoc, List.singleton_append]
      cases fields with
      | nil =>
          rw [List.map_nil, joined, List.nil_append, expect_cons rfl]
      | cons field fields =>
          have opening : (renderField writer field).head? = some '"' := by
            rw [renderField, List.head?_append, readable.shaped.quoted, Option.some_or]
          have open' : expect '\x7d' (joined ((field :: fields).map (renderField writer)) ++ '\x7d' :: rest) = none :=
            expect_of_head (head?_joined_cons _ _ _ opening) rfl (by decide)
          rw [open', readFields_joined readable (by simp)
            (fun other member => inductionHypothesis other member (each other member)) fuel rest (by omega)]
          rfl

theorem read_render {document : Json} (whole : Whole document) : read (render writer document) = some document := by
  have back := readBack readable whole ((render writer document).length + 1) [] (by omega) delimited_nil
  rw [List.append_nil] at back
  rw [read, back]
  rfl

end Written

end Json
end Foundation
end ApexQuant
