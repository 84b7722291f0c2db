import ApexQuant.Foundation.Json
import ApexQuant.Foundation.Numerals

namespace ApexQuant
namespace Foundation

/-!
# The text of a document

A writer says how it writes strings and numbers; everything else is the same in all
compact texts of a document.  A text can be read back when its strings and numbers can:
a string shows where it ends, and a number is followed by a separator or a bracket.

The theorem about reading compares the texts of two writers, so that one induction
serves the question whether a writer is injective and the question whether two writers
agree.
-/

namespace Json

/-- How a language writes the leaves of a document. -/
structure Writer where
  string : Text -> Text
  integer : Int -> Text
  float : Rat -> Text

/-- The texts with commas between them. -/
def joined : List Text -> Text
  | [] => []
  | [text] => text
  | text :: next :: rest => text ++ ',' :: joined (next :: rest)

theorem joined_map_cons {Value : Type} (write : Value -> Text) (value next : Value) (rest : List Value) :
    joined ((value :: next :: rest).map write) = write value ++ ',' :: joined ((next :: rest).map write) := rfl

section Render

variable (writer : Writer)

mutual

def render : Json -> Text
  | .null => "null".toList
  | .bool true => "true".toList
  | .bool false => "false".toList
  | .integer value => writer.integer value
  | .float value => writer.float value
  | .string text => writer.string text
  | .array items => '[' :: joined (renderItems items) ++ [']']
  | .object fields => '\x7b' :: joined (renderFields fields) ++ ['\x7d']

def renderItems : List Json -> List Text
  | [] => []
  | item :: rest => render item :: renderItems rest

def renderFields : List (Text × Json) -> List Text
  | [] => []
  | (key, item) :: rest => (writer.string key ++ ':' :: render item) :: renderFields rest

end

/-- A field in the text of an object. -/
def renderField (field : Text × Json) : Text :=
  writer.string field.1 ++ ':' :: render writer field.2

theorem renderItems_eq (items : List Json) : renderItems writer items = items.map (render writer) := by
  induction items with
  | nil => rfl
  | cons item rest inductionHypothesis => rw [renderItems, inductionHypothesis, List.map_cons]

theorem renderFields_eq (fields : List (Text × Json)) : renderFields writer fields = fields.map (renderField writer) := by
  induction fields with
  | nil => rfl
  | cons field rest inductionHypothesis =>
      rw [renderFields, inductionHypothesis, List.map_cons]
      rfl

theorem render_array (items : List Json) :
    render writer (.array items) = '[' :: joined (items.map (render writer)) ++ [']'] := by
  rw [render, renderItems_eq]

theorem render_object (fields : List (Text × Json)) :
    render writer (.object fields) = '\x7b' :: joined (fields.map (renderField writer)) ++ ['\x7d'] := by
  rw [render, renderFields_eq]

end Render

/-! ## Reading back -/

/-- The characters that follow a value. -/
def isDelimiter (c : Char) : Bool :=
  c == ',' || c == ']' || c == '\x7d'

/-- What follows a value inside a text. -/
def Delimited (rest : Text) : Prop :=
  forall c, rest.head? = some c -> isDelimiter c = true

theorem delimited_nil : Delimited [] :=
  fun _ none => by cases none

theorem delimited_cons {c : Char} (delimiter : isDelimiter c = true) (rest : Text) : Delimited (c :: rest) := by
  intro first same
  cases same
  exact delimiter

/-- A text without delimiters before a delimiter. -/
theorem eq_of_append_delimited {text text' rest rest' : Text} (plain : forall c, c ∈ text -> isDelimiter c = false)
    (plain' : forall c, c ∈ text' -> isDelimiter c = false) (delimited : Delimited rest) (delimited' : Delimited rest')
    (same : text ++ rest = text' ++ rest') : text = text' ∧ rest = rest' := by
  induction text generalizing text' with
  | nil =>
      cases text' with
      | nil => exact ⟨rfl, same⟩
      | cons first others =>
          have opening : rest.head? = some first := by
            rw [List.nil_append] at same
            rw [same]
            rfl
          exact absurd ((plain' first List.mem_cons_self).symm.trans (delimited first opening)) nofun
  | cons first others inductionHypothesis =>
      cases text' with
      | nil =>
          have opening : rest'.head? = some first := by
            rw [List.nil_append] at same
            rw [← same]
            rfl
          exact absurd ((plain first List.mem_cons_self).symm.trans (delimited' first opening)) nofun
      | cons first' others' =>
          rcases List.cons.inj same with ⟨rfl, later⟩
          rcases inductionHypothesis (fun c member => plain c (List.mem_cons_of_mem _ member))
            (fun c member => plain' c (List.mem_cons_of_mem _ member)) later with ⟨rfl, left⟩
          exact ⟨rfl, left⟩

/-- No other admitted value has the text of this one, whatever follows the two; and when
the two texts are the same something is gained about the value. -/
def Legible {Value : Type} (write write' : Value -> Text) (admitted gained : Value -> Prop) (value : Value) : Prop :=
  forall other rest rest', admitted other -> Delimited rest -> Delimited rest' ->
    write value ++ rest = write' other ++ rest' -> value = other ∧ gained value ∧ rest = rest'

/-- Texts without delimiters are legible when no two of them are the same. -/
theorem legible_of_solid {Value : Type} {write write' : Value -> Text} {gained : Value -> Prop} {value : Value}
    (solid : forall c, c ∈ write value -> isDelimiter c = false)
    (solid' : forall other c, c ∈ write' other -> isDelimiter c = false)
    (determined : forall other, write value = write' other -> value = other ∧ gained value) :
    Legible write write' (fun _ => True) gained value := by
  intro other rest rest' _ delimited delimited' same
  rcases eq_of_append_delimited solid (solid' other) delimited delimited' same with ⟨texts, left⟩
  rcases determined other texts with ⟨values, gains⟩
  exact ⟨values, gains, left⟩

/-- The text opens with a character that is no delimiter. -/
def Opens (text : Text) : Prop :=
  Exists fun c => text.head? = some c ∧ isDelimiter c = false

/-- A list of legible values is legible before its bracket. -/
theorem legible_joined {Value : Type} {write write' : Value -> Text} {admitted gained : Value -> Prop} {close : Char}
    (closes : isDelimiter close = true) (apart : close ≠ ',') {values values' : List Value} {rest rest' : Text}
    (opens : forall value, value ∈ values -> Opens (write value))
    (opens' : forall value, value ∈ values' -> Opens (write' value))
    (legible : forall value, value ∈ values -> Legible write write' admitted gained value)
    (others : forall value, value ∈ values' -> admitted value)
    (same : joined (values.map write) ++ close :: rest = joined (values'.map write') ++ close :: rest') :
    values = values' ∧ (forall value, value ∈ values -> gained value) ∧ rest = rest' := by
  have not_close : forall (text later more : Text), Opens text -> text ++ later ≠ close :: more := by
    rintro text later more ⟨c, opening, plain⟩ same
    cases text with
    | nil => cases opening
    | cons first others =>
        cases opening
        cases (List.cons.inj same).1
        exact absurd (plain.symm.trans closes) nofun
  have more : forall (write : Value -> Text) value next others (later : Text),
      joined ((value :: next :: others).map write) ++ later =
        write value ++ (',' :: (joined ((next :: others).map write) ++ later)) := by
    intro write value next others later
    rw [joined_map_cons, List.append_assoc, List.cons_append]
  have comma : isDelimiter ',' = true := rfl
  induction values generalizing values' with
  | nil =>
      cases values' with
      | nil => exact ⟨rfl, fun _ member => absurd member List.not_mem_nil, (List.cons.inj same).2⟩
      | cons first further =>
          cases further with
          | nil => exact absurd same.symm (not_close _ _ _ (opens' first List.mem_cons_self))
          | cons next further =>
              exact absurd same.symm (more _ _ _ _ _ ▸ not_close _ _ _ (opens' first List.mem_cons_self))
  | cons value values inductionHypothesis =>
      have readsFirst := legible value List.mem_cons_self
      cases values' with
      | nil =>
          cases values with
          | nil => exact absurd same (not_close _ _ _ (opens value List.mem_cons_self))
          | cons next further =>
              exact absurd same (more _ _ _ _ _ ▸ not_close _ _ _ (opens value List.mem_cons_self))
      | cons value' values' =>
          have first := others value' List.mem_cons_self
          cases values with
          | nil =>
              cases values' with
              | nil =>
                  rcases readsFirst value' _ _ first (delimited_cons closes rest) (delimited_cons closes rest') same with
                    ⟨rfl, gains, left⟩
                  exact ⟨rfl, List.forall_mem_singleton.mpr gains, (List.cons.inj left).2⟩
              | cons next' values' =>
                  rw [more] at same
                  rcases readsFirst value' _ _ first (delimited_cons closes rest) (delimited_cons comma _) same with
                    ⟨-, -, left⟩
                  exact absurd (List.cons.inj left).1 apart
          | cons next values =>
              rw [more] at same
              cases values' with
              | nil =>
                  rcases readsFirst value' _ _ first (delimited_cons comma _) (delimited_cons closes rest') same with
                    ⟨-, -, left⟩
                  exact absurd (List.cons.inj left).1.symm apart
              | cons next' values' =>
                  rw [more] at same
                  rcases readsFirst value' _ _ first (delimited_cons comma _) (delimited_cons comma _) same with
                    ⟨rfl, gains, left⟩
                  rcases inductionHypothesis (fun other member => opens other (List.mem_cons_of_mem _ member))
                    (fun other member => opens' other (List.mem_cons_of_mem _ member))
                    (fun other member => legible other (List.mem_cons_of_mem _ member))
                    (fun other member => others other (List.mem_cons_of_mem _ member)) (List.cons.inj left).2 with
                    ⟨shape, gain, ended⟩
                  exact ⟨congrArg (List.cons value) shape, List.forall_mem_cons.mpr ⟨gains, gain⟩, ended⟩

/-- Every string and key, and every whole number of the document, has the property. -/
def Leaves (texts : Text -> Prop) (numbers : Int -> Prop) : Json -> Prop :=
  Everywhere fun
    | .string text => texts text
    | .integer value => numbers value
    | .object fields => forall field, field ∈ fields -> texts field.1
    | _ => True

theorem leaves_array {texts : Text -> Prop} {numbers : Int -> Prop} {items : List Json} :
    Leaves texts numbers (.array items) <-> forall item, item ∈ items -> Leaves texts numbers item :=
  everywhere_array.trans (Iff.of_eq (true_and _))

theorem leaves_object {texts : Text -> Prop} {numbers : Int -> Prop} {fields : List (Text × Json)} :
    Leaves texts numbers (.object fields) <->
      forall field, field ∈ fields -> texts field.1 ∧ Leaves texts numbers field.2 := by
  rw [Leaves, everywhere_object]
  exact ⟨fun holds field member => ⟨holds.1 field member, holds.2 field member⟩,
    fun holds => ⟨fun field member => (holds field member).1, fun field member => (holds field member).2⟩⟩

theorem leaves_true (document : Json) : Leaves (fun _ => True) (fun _ => True) document :=
  everywhere_of_forall (fun part => by
    cases part with
    | string | integer | null | bool | float | array => trivial
    | object fields => exact fun _ _ => trivial) document

theorem Leaves.imp {texts texts' : Text -> Prop} {numbers numbers' : Int -> Prop} {document : Json}
    (leaves : Leaves texts numbers document) (text : forall text, texts text -> texts' text)
    (number : forall value, numbers value -> numbers' value) : Leaves texts' numbers' document :=
  Everywhere.imp (fun part holding => by
    cases part with
    | string value => exact text value holding
    | integer value => exact number value holding
    | object fields => exact fun field member => text _ (holding field member)
    | null | bool | float | array => trivial) leaves

/-- Strings are in quotes, and numbers open with a sign or a digit. -/
structure Writer.Shaped (writer : Writer) : Prop where
  quoted : forall text, (writer.string text).head? = some '"'
  numeral : forall value, Exists fun c => (writer.integer value).head? = some c ∧ (c = '-' ∨ c.isDigit = true)

/-- The leaves that one writer writes can be read back among those of the other. -/
structure Reads (writer writer' : Writer) (texts : Text -> Prop) (given gained : Int -> Prop) : Prop where
  shaped : writer.Shaped
  shaped' : writer'.Shaped
  strings : forall text text' rest rest', writer.string text ++ rest = writer'.string text' ++ rest' ->
    text = text' ∧ texts text ∧ rest = rest'
  integers : forall value, given value -> Legible writer.integer writer'.integer (fun _ => True) gained value

/-- What the first character of a text tells about the document. -/
inductive Kind where
  | null
  | yes
  | no
  | number
  | string
  | array
  | object

def kind : Json -> Kind
  | .null => .null
  | .bool true => .yes
  | .bool false => .no
  | .integer _ => .number
  | .float _ => .number
  | .string _ => .string
  | .array _ => .array
  | .object _ => .object

def kindOf (c : Char) : Option Kind :=
  if c = '-' ∨ c.isDigit = true then some .number
  else if c = 'n' then some .null
  else if c = 't' then some .yes
  else if c = 'f' then some .no
  else if c = '"' then some .string
  else if c = '[' then some .array
  else if c = '\x7b' then some .object
  else none

theorem opening_of_whole {writer : Writer} (shaped : writer.Shaped) {document : Json} (whole : Whole document) :
    Exists fun c => (render writer document).head? = some c ∧ kindOf c = some (kind document) := by
  cases document with
  | null => exact ⟨'n', rfl, rfl⟩
  | bool value => cases value <;> exact ⟨_, rfl, rfl⟩
  | integer value =>
      rcases shaped.numeral value with ⟨c, opening, numeral⟩
      exact ⟨c, opening, if_pos numeral⟩
  | float value => exact absurd whole id
  | string text => exact ⟨'"', shaped.quoted text, rfl⟩
  | array items => exact ⟨'[', rfl, rfl⟩
  | object fields => exact ⟨'{', rfl, rfl⟩

theorem kind_eq_of_append {writer writer' : Writer} (shaped : writer.Shaped) (shaped' : writer'.Shaped)
    {document other : Json} (whole : Whole document) (whole' : Whole other) {rest rest' : Text}
    (same : render writer document ++ rest = render writer' other ++ rest') : kind document = kind other := by
  rcases opening_of_whole shaped whole with ⟨c, opening, sort⟩
  rcases opening_of_whole shaped' whole' with ⟨c', opening', sort'⟩
  have heads := congrArg List.head? same
  rw [List.head?_append, List.head?_append, opening, opening'] at heads
  cases heads
  exact Option.some.inj (sort.symm.trans sort')

theorem opens_of_whole {writer : Writer} (shaped : writer.Shaped) {document : Json} (whole : Whole document) :
    Opens (render writer document) := by
  rcases opening_of_whole shaped whole with ⟨c, opening, sort⟩
  refine ⟨c, opening, ?_⟩
  cases delimiter : isDelimiter c with
  | false => rfl
  | true =>
      have unknown : kindOf c = none := by
        simp only [isDelimiter, Bool.or_eq_true, beq_iff_eq] at delimiter
        rcases delimiter with (rfl | rfl) | rfl <;> rfl
      cases unknown.symm.trans sort

theorem opens_field {writer : Writer} (shaped : writer.Shaped) (field : Text × Json) :
    Opens (renderField writer field) := by
  refine ⟨'"', ?_, rfl⟩
  rw [renderField, List.head?_append, shaped.quoted]
  rfl

theorem legible_field {writer writer' : Writer} {texts : Text -> Prop} {given gained : Int -> Prop}
    (reads : Reads writer writer' texts given gained) {field : Text × Json}
    (item : Legible (render writer) (render writer') Whole (Leaves texts gained) field.2) :
    Legible (renderField writer) (renderField writer') (fun field => Whole field.2)
      (fun field => texts field.1 ∧ Leaves texts gained field.2) field := by
  intro other rest rest' whole delimited delimited' same
  rw [renderField, renderField, List.append_assoc, List.append_assoc] at same
  rcases reads.strings _ _ _ _ same with ⟨keys, key, later⟩
  rcases item other.2 rest rest' whole delimited delimited' (List.cons.inj later).2 with ⟨items, gains, left⟩
  exact ⟨Prod.ext keys items, ⟨key, gains⟩, left⟩

/-- Whole documents with legible leaves are legible. -/
theorem legible_render {writer writer' : Writer} {texts : Text -> Prop} {given gained : Int -> Prop}
    (reads : Reads writer writer' texts given gained) {document : Json} (whole : Whole document)
    (leaves : Leaves (fun _ => True) given document) :
    Legible (render writer) (render writer') Whole (Leaves texts gained) document := by
  induction document with
  | null =>
      intro other rest rest' whole' _ _ same
      have kinds := kind_eq_of_append reads.shaped reads.shaped' whole whole' same
      cases other with
      | null => exact ⟨rfl, trivial, List.append_cancel_left same⟩
      | bool value => cases value <;> cases kinds
      | integer | float | string | array | object => cases kinds
  | bool value =>
      intro other rest rest' whole' _ _ same
      have kinds := kind_eq_of_append reads.shaped reads.shaped' whole whole' same
      cases other with
      | bool value' =>
          cases value with
          | false =>
              cases value' with
              | false => exact ⟨rfl, trivial, List.append_cancel_left same⟩
              | true => cases kinds
          | true =>
              cases value' with
              | false => cases kinds
              | true => exact ⟨rfl, trivial, List.append_cancel_left same⟩
      | null | integer | float | string | array | object => cases value <;> cases kinds
  | integer value =>
      intro other rest rest' whole' delimited delimited' same
      have kinds := kind_eq_of_append reads.shaped reads.shaped' whole whole' same
      cases other with
      | integer value' =>
          rcases reads.integers value leaves value' rest rest' trivial delimited delimited' same with ⟨rfl, gains, left⟩
          exact ⟨rfl, gains, left⟩
      | float value' => exact absurd whole' id
      | bool value' => cases value' <;> cases kinds
      | null | string | array | object => cases kinds
  | float value => exact absurd whole id
  | string text =>
      intro other rest rest' whole' _ _ same
      have kinds := kind_eq_of_append reads.shaped reads.shaped' whole whole' same
      cases other with
      | string text' =>
          exact (reads.strings text text' rest rest' same).imp (congrArg Json.string) id
      | bool value' => cases value' <;> cases kinds
      | null | integer | float | array | object => cases kinds
  | array items inductionHypothesis =>
      intro other rest rest' whole' _ _ same
      have kinds := kind_eq_of_append reads.shaped reads.shaped' whole whole' same
      cases other with
      | array items' =>
          rw [whole_array] at whole whole'
          rw [leaves_array] at leaves
          rw [render_array, render_array, List.cons_append, List.cons_append, List.cons_append, List.cons_append,
            List.append_assoc, List.append_assoc] at same
          rcases legible_joined (by decide) (by decide)
            (fun item member => opens_of_whole reads.shaped (whole item member))
            (fun item member => opens_of_whole reads.shaped' (whole' item member))
            (fun item member => inductionHypothesis item member (whole item member) (leaves item member)) whole'
            (List.cons.inj same).2 with ⟨rfl, gains, left⟩
          exact ⟨rfl, leaves_array.mpr gains, left⟩
      | bool value' => cases value' <;> cases kinds
      | null | integer | float | string | object => cases kinds
  | object fields inductionHypothesis =>
      intro other rest rest' whole' _ _ same
      have kinds := kind_eq_of_append reads.shaped reads.shaped' whole whole' same
      cases other with
      | object fields' =>
          rw [whole_object] at whole whole'
          rw [leaves_object] at leaves
          rw [render_object, render_object, List.cons_append, List.cons_append, List.cons_append, List.cons_append,
            List.append_assoc, List.append_assoc] at same
          rcases legible_joined (by decide) (by decide) (fun field _ => opens_field reads.shaped field)
            (fun field _ => opens_field reads.shaped' field)
            (fun field member => legible_field reads
              (inductionHypothesis field member (whole field member) (leaves field member).2)) whole'
            (List.cons.inj same).2 with ⟨rfl, gains, left⟩
          exact ⟨rfl, leaves_object.mpr gains, left⟩
      | bool value' => cases value' <;> cases kinds
      | null | integer | float | string | array => cases kinds

/-- Writers that agree on the leaves of a document write the same text. -/
theorem render_congr {writer writer' : Writer} {texts : Text -> Prop} {numbers : Int -> Prop}
    (strings : forall text, texts text -> writer.string text = writer'.string text)
    (integers : forall value, numbers value -> writer.integer value = writer'.integer value) {document : Json}
    (whole : Whole document) (leaves : Leaves texts numbers document) :
    render writer document = render writer' document := by
  induction document with
  | integer value => exact integers value leaves
  | float value => exact absurd whole id
  | string text => exact strings text leaves
  | array items inductionHypothesis =>
      rw [whole_array] at whole
      rw [leaves_array] at leaves
      rw [render_array, render_array, List.map_congr_left fun item member =>
        inductionHypothesis item member (whole item member) (leaves item member)]
  | object fields inductionHypothesis =>
      rw [whole_object] at whole
      rw [leaves_object] at leaves
      have each : forall field, field ∈ fields -> renderField writer field = renderField writer' field := by
        intro field member
        rw [renderField, renderField, strings field.1 (leaves field member).1,
          inductionHypothesis field member (whole field member) (leaves field member).2]
      rw [render_object, render_object, List.map_congr_left each]
  | null => rfl
  | bool value => cases value <;> rfl

/-- The order of keys does not matter to the leaves. -/
theorem leaves_sortKeys {texts : Text -> Prop} {numbers : Int -> Prop} (document : Json) :
    Leaves texts numbers document.sortKeys <-> Leaves texts numbers document := by
  apply everywhere_sortKeys
  intro part
  cases part with
  | object fields =>
      rw [sortKeys_object]
      constructor
      · intro holding field member
        exact holding (sortField field) (mem_sorted.mpr ⟨field, member, rfl⟩)
      · intro holding field member
        rcases mem_sorted.mp member with ⟨old, known, rfl⟩
        exact holding old known
  | array items => rw [sortKeys_array]
  | null | bool | integer | float | string => exact Iff.rfl

theorem whole_sortKeys (document : Json) : Whole document.sortKeys <-> Whole document := by
  apply everywhere_sortKeys
  intro part
  cases part with
  | object fields => rw [sortKeys_object]
  | array items => rw [sortKeys_array]
  | null | bool | integer | float | string => exact Iff.rfl

end Json
end Foundation
end ApexQuant
