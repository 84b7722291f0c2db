import ApexQuant.Foundation.KeyRedaction

namespace ApexQuant
namespace Tracing

open Foundation
open KeyRedaction

/-!
# Trace attributes

`redaction.py` of the tracing package.  A mapping is redacted field by field, and a list
item by item where the item is a mapping.  A list that is an item of a list is copied as
it stands, so the mappings in it keep their secrets.
-/

def secretKeyMarkers : List Text :=
  ["password".toList, "secret".toList, "token".toList, "api_key".toList, "apikey".toList, "private_key".toList,
    "credential".toList, "access_key".toList, "authorization".toList]

def redacted : Text := "[REDACTED]".toList

/-- `is_secret_key`. -/
def isSecretKey (lowercasing : Text.Lowercasing) : Text -> Bool :=
  marked secretKeyMarkers lowercasing

section

variable (isSecret : Text -> Bool)

mutual

/-- The loop over the fields of a mapping. -/
def redactMapping : List (Text × Json) -> List (Text × Json)
  | [] => []
  | (key, value) :: rest =>
      (key, if isSecret key then .string redacted else redactValue value) :: redactMapping rest

/-- The branches for one value under a key that is not secret. -/
def redactValue : Json -> Json
  | .object fields => .object (redactMapping fields)
  | .array items => .array (redactList items)
  | .null => .null
  | .bool value => .bool value
  | .integer value => .integer value
  | .float value => .float value
  | .string text => .string text

/-- The list comprehension: an item that is not a mapping is taken over. -/
def redactList : List Json -> List Json
  | [] => []
  | .object fields :: rest => .object (redactMapping fields) :: redactList rest
  | item :: rest => item :: redactList rest

end

end

/-- `redact_attributes`. -/
def redactAttributes (lowercasing : Text.Lowercasing) (attributes : List (Text × Json)) : List (Text × Json) :=
  redactMapping (isSecretKey lowercasing) attributes

variable {isSecret : Text -> Bool}

/-- What becomes of one field. -/
def redactEntry (isSecret : Text -> Bool) (field : Text × Json) : Text × Json :=
  (field.1, if isSecret field.1 then .string redacted else redactValue isSecret field.2)

/-- What becomes of one item of a list. -/
def redactItem (isSecret : Text -> Bool) (item : Json) : Json :=
  if item.isObject then redactValue isSecret item else item

theorem redactEntry_of_secret {key : Text} (secret : isSecret key = true) (value : Json) :
    redactEntry isSecret (key, value) = (key, .string redacted) := by
  rw [redactEntry, if_pos secret]

theorem redactEntry_of_open {key : Text} (shown : isSecret key = false) (value : Json) :
    redactEntry isSecret (key, value) = (key, redactValue isSecret value) := by
  rw [redactEntry, shown, if_neg Bool.false_ne_true]

theorem redactMapping_eq (fields : List (Text × Json)) :
    redactMapping isSecret fields = fields.map (redactEntry isSecret) := by
  induction fields with
  | nil => rw [redactMapping, List.map_nil]
  | cons field rest inductionHypothesis =>
      rw [redactMapping, inductionHypothesis, List.map_cons]
      rfl

theorem redactList_eq (items : List Json) : redactList isSecret items = items.map (redactItem isSecret) := by
  induction items with
  | nil => rw [redactList, List.map_nil]
  | cons item rest inductionHypothesis =>
      rw [List.map_cons, ← inductionHypothesis]
      cases item with
      | object fields => rw [redactList, redactItem, Json.isObject, if_pos rfl, redactValue]
      | array | null | bool | integer | float | string => rw [redactList]; rfl; intro fields same; cases same

theorem redactValue_object (fields : List (Text × Json)) :
    redactValue isSecret (.object fields) = .object (fields.map (redactEntry isSecret)) := by
  rw [redactValue, redactMapping_eq]

theorem redactValue_array (items : List Json) :
    redactValue isSecret (.array items) = .array (items.map (redactItem isSecret)) := by
  rw [redactValue, redactList_eq]

/-! ## Where a secret escapes -/

/-- Some mapping in the document, at any depth, has a secret key. -/
def Mentions (isSecret : Text -> Bool) : Json -> Prop :=
  Json.Somewhere fun
    | .object fields => Exists fun field => field ∈ fields ∧ isSecret field.1 = true
    | _ => False

/-- The walk comes to a list in a list that holds a secret key. -/
inductive Leaks (isSecret : Text -> Bool) : Json -> Prop where
  | field {fields : List (Text × Json)} {field : Text × Json} (member : field ∈ fields)
      (shown : isSecret field.1 = false) (inside : Leaks isSecret field.2) : Leaks isSecret (.object fields)
  | item {items : List Json} {fields : List (Text × Json)} (member : .object fields ∈ items)
      (inside : Leaks isSecret (.object fields)) : Leaks isSecret (.array items)
  | nested {items inner : List Json} (member : .array inner ∈ items) (secret : Mentions isSecret (.array inner)) :
      Leaks isSecret (.array items)

theorem mentions_array {items : List Json} :
    Mentions isSecret (.array items) <-> Exists fun item => item ∈ items ∧ Mentions isSecret item := by
  rw [Mentions, Json.somewhere_array, false_or]

theorem mentions_object {fields : List (Text × Json)} :
    Mentions isSecret (.object fields) <->
      (Exists fun field => field ∈ fields ∧ isSecret field.1 = true) ∨
        Exists fun field => field ∈ fields ∧ Mentions isSecret field.2 := by
  rw [Mentions, Json.somewhere_object]

/-- Without a secret key nothing is replaced. -/
theorem redact_of_not_mentions {replace : Json -> Json} {document : Json} (clear : ¬Mentions isSecret document) :
    redact isSecret replace document = document := by
  induction document with
  | array items inductionHypothesis =>
      have each : forall item, item ∈ items -> redact isSecret replace item = item := fun item member =>
        inductionHypothesis item member fun found => clear (mentions_array.mpr ⟨item, member, found⟩)
      rw [redact_array, List.map_congr_left each, List.map_id']
  | object fields inductionHypothesis =>
      rw [mentions_object, not_or] at clear
      have each : forall field, field ∈ fields -> redactField isSecret replace field = field := by
        intro field member
        have shown : isSecret field.1 = false :=
          Bool.eq_false_iff.mpr fun secret => clear.1 ⟨field, member, secret⟩
        rw [redactField_of_open shown, inductionHypothesis field member fun found => clear.2 ⟨field, member, found⟩]
      rw [redact_object, List.map_congr_left each, List.map_id']
  | null | bool | integer | float | string => rw [redact]

/-- With a secret key the replacement shows. -/
theorem redact_ne_of_mentions {first second document : Json} (apart : first ≠ second)
    (found : Mentions isSecret document) :
    redact isSecret (fun _ => first) document ≠
      redact isSecret (fun _ => second) document := by
  induction found with
  | @here document found =>
      cases document with
      | object fields =>
          rcases found with ⟨field, member, secret⟩
          intro same
          rw [redact_object, redact_object, Json.object.injEq, List.map_inj_left] at same
          have here := same field member
          rw [redactField_of_secret secret, redactField_of_secret secret] at here
          exact apart (congrArg Prod.snd here)
      | array | null | bool | integer | float | string => cases found
  | @item items item member _ inductionHypothesis =>
      intro same
      rw [redact_array, redact_array, Json.array.injEq, List.map_inj_left] at same
      exact inductionHypothesis (same item member)
  | @field fields field member _ inductionHypothesis =>
      intro same
      rw [redact_object, redact_object, Json.object.injEq, List.map_inj_left] at same
      have here := congrArg Prod.snd (same field member)
      cases classified : isSecret field.1 with
      | true =>
          rw [redactField_of_secret classified, redactField_of_secret classified] at here
          exact apart here
      | false =>
          rw [redactField_of_open classified, redactField_of_open classified] at here
          exact inductionHypothesis here

theorem isObject_redact (replace : Json -> Json) (document : Json) :
    (redact isSecret replace document).isObject = document.isObject := by
  cases document <;> rw [redact] <;> rfl

theorem redactItem_of_object {item : Json} (object : item.isObject = true) :
    redactItem isSecret item = redactValue isSecret item := by
  rw [redactItem, if_pos object]

theorem redactItem_of_not_object {item : Json} (other : item.isObject = false) : redactItem isSecret item = item := by
  rw [redactItem, other, if_neg Bool.false_ne_true]

/-- An item that the walk leaves alone has nothing to hide, unless the list leaks. -/
theorem not_mentions_of_item {items : List Json} (tight : ¬Leaks isSecret (.array items)) {item : Json}
    (member : item ∈ items) (other : item.isObject = false) : ¬Mentions isSecret item := by
  intro found
  cases item with
  | array inner => exact tight (.nested member found)
  | object fields => cases other
  | null | bool | integer | float | string =>
      rw [Mentions] at found
      cases found with
      | here found => exact found

theorem not_leaks_of_item {items : List Json} (tight : ¬Leaks isSecret (.array items)) {item : Json}
    (member : item ∈ items) (object : item.isObject = true) : ¬Leaks isSecret item := by
  intro leaks
  cases item with
  | object fields => exact tight (.item member leaks)
  | array | null | bool | integer | float | string => cases object

/-- Where nothing leaks the walk redacts at every depth, whatever stood under the keys. -/
theorem redactValue_redact {replace : Json -> Json} {document : Json} (tight : ¬Leaks isSecret document) :
    redactValue isSecret (redact isSecret replace document) =
      redact isSecret (fun _ => .string redacted) document := by
  induction document with
  | array items inductionHypothesis =>
      rw [redact_array, redactValue_array, redact_array, List.map_map]
      congr 1
      apply List.map_congr_left
      intro item member
      have kept : (redact isSecret replace item).isObject = item.isObject := isObject_redact replace item
      rw [Function.comp_apply]
      cases object : item.isObject with
      | true =>
          rw [redactItem_of_object (kept.trans object)]
          exact inductionHypothesis item member (not_leaks_of_item tight member object)
      | false =>
          have clear := not_mentions_of_item tight member object
          rw [redactItem_of_not_object (kept.trans object), redact_of_not_mentions clear, redact_of_not_mentions clear]
  | object fields inductionHypothesis =>
      rw [redact_object, redactValue_object, redact_object, List.map_map]
      congr 1
      apply List.map_congr_left
      intro field member
      rw [Function.comp_apply]
      cases classified : isSecret field.1 with
      | true =>
          rw [redactField_of_secret classified, redactField_of_secret classified, redactEntry_of_secret classified]
      | false =>
          have inside := inductionHypothesis field member fun leaks => tight (.field member classified leaks)
          rw [redactField_of_open classified, redactField_of_open classified, redactEntry_of_open classified, inside]
  | null | bool | integer | float | string => rw [redact, redactValue, redact]

/-- Where the walk leaks, the value under a secret key shows. -/
theorem redactValue_ne_of_leaks {first second document : Json} (apart : first ≠ second)
    (leaks : Leaks isSecret document) :
    redactValue isSecret (redact isSecret (fun _ => first) document) ≠
      redactValue isSecret (redact isSecret (fun _ => second) document) := by
  induction leaks with
  | @field fields field member shown _ inductionHypothesis =>
      intro same
      simp only [redact_object, redactValue_object, List.map_map, Json.object.injEq, List.map_inj_left,
        Function.comp_apply] at same
      have here := same field member
      rw [redactField_of_open shown, redactField_of_open shown, redactEntry_of_open shown,
        redactEntry_of_open shown] at here
      exact inductionHypothesis (congrArg Prod.snd here)
  | @item items fields member _ inductionHypothesis =>
      intro same
      simp only [redact_array, redactValue_array, List.map_map, Json.array.injEq, List.map_inj_left,
        Function.comp_apply] at same
      have here := same (.object fields) member
      rw [redactItem_of_object (isObject_redact _ _), redactItem_of_object (isObject_redact _ _)] at here
      exact inductionHypothesis here
  | @nested items inner member secret =>
      intro same
      simp only [redact_array, redactValue_array, List.map_map, Json.array.injEq, List.map_inj_left,
        Function.comp_apply] at same
      have here := same (.array inner) member
      rw [redactItem_of_not_object (isObject_redact _ _), redactItem_of_not_object (isObject_redact _ _)] at here
      exact redact_ne_of_mentions apart secret here

theorem redactValue_of_not_leaks {document : Json} (tight : ¬Leaks isSecret document) :
    redactValue isSecret document = redact isSecret (fun _ => .string redacted) document := by
  have kept : redactValue isSecret (redact isSecret id document) = _ := redactValue_redact tight
  rw [redact_id] at kept
  exact kept

/-- The walk tells a document from an alike one exactly where it leaks. -/
theorem redactValue_hides_iff (document : Json) :
    (forall other, Alike isSecret document other -> redactValue isSecret document = redactValue isSecret other) <->
      ¬Leaks isSecret document := by
  have apart : Json.null ≠ Json.bool true := by
    intro same
    cases same
  constructor
  · intro hides leaks
    have first := hides _ (Alike.to_redact isSecret (fun _ => .null) document)
    have second := hides _ (Alike.to_redact isSecret (fun _ => .bool true) document)
    exact redactValue_ne_of_leaks apart leaks (first.symm.trans second)
  · intro tight other alike
    have tight' : ¬Leaks isSecret other := by
      intro leaks
      apply redactValue_ne_of_leaks apart leaks
      rw [← alike.redact_eq, ← alike.redact_eq, redactValue_redact tight, redactValue_redact tight]
    rw [redactValue_of_not_leaks tight, redactValue_of_not_leaks tight', alike.redact_eq]

/-! ## What is left in its place -/

theorem isLeaf_redactValue (document : Json) : (redactValue isSecret document).isLeaf = document.isLeaf := by
  cases document <;> rw [redactValue] <;> rfl

theorem get_redactValue {name : Text} (shown : isSecret name = false) (document : Json) :
    (redactValue isSecret document).get name = (document.get name).map (redactValue isSecret) := by
  cases document with
  | object fields =>
      rw [redactValue_object]
      apply Json.get_map
      · exact fun _ => rfl
      · exact redactEntry_of_open shown
  | array | null | bool | integer | float | string => rw [redactValue]; rfl

/-- The leaves outside the secret keys are the ones that were there. -/
theorem leaf_redactValue_iff {path : List Json.Step} (clear : Open isSecret path) {leaf : Json}
    (isLeaf : leaf.isLeaf = true) (document : Json) :
    (redactValue isSecret document).follow path = some leaf <-> document.follow path = some leaf := by
  induction path generalizing document with
  | nil =>
      rw [Json.follow, Json.follow, Option.some_inj, Option.some_inj]
      have kept : (redactValue isSecret document).isLeaf = document.isLeaf := isLeaf_redactValue document
      cases document with
      | array | object =>
          refine iff_of_false ?_ ?_
          · intro same
            rw [same, isLeaf] at kept
            cases kept
          · intro same
            rw [← same] at isLeaf
            cases isLeaf
      | null | bool | integer | float | string => rw [redactValue]
  | cons step rest inductionHypothesis =>
      have later := inductionHypothesis fun name member => clear name (List.mem_cons_of_mem _ member)
      cases step with
      | key name =>
          have shown := clear name List.mem_cons_self
          simp only [Json.follow, get_redactValue shown, Option.bind_map, Option.bind_eq_some_iff, Function.comp_apply,
            later]
      | index position =>
          cases document with
          | array items =>
              have each (item : Json) : (redactItem isSecret item).follow rest = some leaf <->
                  item.follow rest = some leaf := by
                unfold redactItem
                split
                · exact later item
                · exact Iff.rfl
              simp only [redactValue_array, Json.follow, List.getElem?_map, Option.bind_map, Option.bind_eq_some_iff,
                Function.comp_apply, each]
          | object => rw [redactValue]; rfl
          | null | bool | integer | float | string => rw [redactValue]

/-- The attributes come out the same for every mapping that is alike, with the leaves
outside the secret keys in their places, exactly where no list in a list holds a secret key. -/
theorem redactAttributes_hides_iff (lowercasing : Text.Lowercasing) (attributes : List (Text × Json)) :
    ((forall others, Alike (isSecretKey lowercasing) (.object attributes) (.object others) ->
        redactAttributes lowercasing attributes = redactAttributes lowercasing others) ∧
      forall path, Open (isSecretKey lowercasing) path -> forall leaf, leaf.isLeaf = true ->
        ((Json.object (redactAttributes lowercasing attributes)).follow path = some leaf <->
          (Json.object attributes).follow path = some leaf)) <->
      ¬Leaks (isSecretKey lowercasing) (.object attributes) := by
  have walk (fields : List (Text × Json)) :
      redactValue (isSecretKey lowercasing) (.object fields) = .object (redactAttributes lowercasing fields) := by
    rw [redactValue, redactAttributes]
  rw [← redactValue_hides_iff]
  constructor
  · intro hides other alike
    cases other with
    | object others => rw [walk, walk, hides.1 others alike]
    | array | null | bool | integer | float | string => cases alike.isObject_eq
  · intro hides
    constructor
    · intro others alike
      have same := hides _ alike
      rw [walk, walk] at same
      exact Json.object.inj same
    · intro path clear leaf isLeaf
      rw [← walk]
      exact leaf_redactValue_iff clear isLeaf _

/-- Two batches of calls that differ in a password. -/
def batch (password : Text) : List (Text × Json) :=
  [("calls".toList, .array [.array [.object [("password".toList, .string password)]]])]

def passwordPath : List Json.Step :=
  [.key "calls".toList, .index 0, .index 0, .key "password".toList]

/-- The password of the one comes out as it stands. -/
theorem nested_list_leaks :
    ¬forall others, Alike (isSecretKey Text.asciiLowercasing) (.object (batch "hunter2".toList)) (.object others) ->
      redactAttributes Text.asciiLowercasing (batch "hunter2".toList) =
        redactAttributes Text.asciiLowercasing others := by
  intro hides
  have alike : Alike (isSecretKey Text.asciiLowercasing) (.object (batch "hunter2".toList))
      (.object (batch "swordfish".toList)) :=
    .field _ [] [] (.item [] [] (.item [] [] (.secret (by decide +kernel) [] [] _ _)))
  have copied (password : Text) : redactAttributes Text.asciiLowercasing (batch password) = batch password := by
    have shown : isSecretKey Text.asciiLowercasing "calls".toList = false := by decide +kernel
    rw [redactAttributes, batch, redactMapping, shown, if_neg Bool.false_ne_true, redactValue, redactList,
      redactList, redactMapping]
    intro fields same
    cases same
  have same := hides _ alike
  rw [copied, copied] at same
  have passwords := congrArg (fun fields => ((Json.object fields).follow passwordPath).bind Json.asStr) same
  exact absurd passwords (by decide +kernel)

end Tracing
end ApexQuant
