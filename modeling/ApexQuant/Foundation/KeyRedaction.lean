import ApexQuant.Foundation.Json

namespace ApexQuant
namespace Foundation

/-!
# Redaction by key

A redactor walks a document and replaces the value under every key that it classifies as
secret.  Two documents are alike outside the secret keys when one becomes the other by
changing values under such keys only, at any depth.  A redactor that descends into every
container and always writes the same replacement shows exactly this much: it sends two
documents to the same one if and only if they are alike.
-/

namespace Json

/-- A value with nothing inside. -/
def isLeaf : Json -> Bool
  | .array _ => false
  | .object _ => false
  | _ => true

/-- One step from a container to a value in it. -/
inductive Step where
  | key (name : Text)
  | index (position : Nat)

/-- The value that a path leads to. -/
def follow : List Step -> Json -> Option Json
  | [], document => some document
  | .key name :: rest, document => (document.get name).bind (follow rest)
  | .index position :: rest, .array items => items[position]?.bind (follow rest)
  | .index _ :: _, _ => none

/-- The value of a key when every field is changed under its key. -/
theorem get_map {name : Text} {change : Text × Json -> Text × Json} {replace : Json -> Json}
    (keeps : forall field, (change field).1 = field.1) (under : forall value, change (name, value) = (name, replace value))
    (fields : List (Text × Json)) :
    (Json.object (fields.map change)).get name = ((Json.object fields).get name).map replace := by
  have same : (fun field => decide (field.1 = name)) ∘ change = fun field => decide (field.1 = name) := by
    funext field
    rw [Function.comp_apply, keeps]
  rw [get, get, List.find?_map, same, Option.map_map, Option.map_map]
  apply Option.map_congr
  rintro ⟨key, value⟩ found
  have named : key = name := by simpa using List.find?_some found
  rw [named, Function.comp_apply, Function.comp_apply, under]

end Json

namespace KeyRedaction

open Json

/-- A key that holds a marker, after its letters have been folded. -/
def marked (markers : List Text) (fold : Text.Lowercasing) (key : Text) : Bool :=
  markers.any fun marker => (fold.lower key).tails.any marker.isPrefixOf

/-- The path goes through no secret key. -/
def Open (isSecret : Text -> Bool) (path : List Step) : Prop :=
  forall name, Step.key name ∈ path -> isSecret name = false

/-- One document becomes the other by changing values under secret keys. -/
inductive Alike (isSecret : Text -> Bool) : Json -> Json -> Prop where
  | refl (document : Json) : Alike isSecret document document
  | trans {document middle other : Json} (first : Alike isSecret document middle)
      (rest : Alike isSecret middle other) : Alike isSecret document other
  | secret {key : Text} (secret : isSecret key = true) (before after : List (Text × Json)) (old new : Json) :
      Alike isSecret (.object (before ++ (key, old) :: after)) (.object (before ++ (key, new) :: after))
  | item {item item' : Json} (before after : List Json) (inside : Alike isSecret item item') :
      Alike isSecret (.array (before ++ item :: after)) (.array (before ++ item' :: after))
  | field {item item' : Json} (key : Text) (before after : List (Text × Json)) (inside : Alike isSecret item item') :
      Alike isSecret (.object (before ++ (key, item) :: after)) (.object (before ++ (key, item') :: after))

mutual

/-- The document with the value under every secret key replaced, at every depth. -/
def redact (isSecret : Text -> Bool) (replace : Json -> Json) : Json -> Json
  | .object fields => .object (redactFields isSecret replace fields)
  | .array items => .array (redactItems isSecret replace items)
  | .null => .null
  | .bool value => .bool value
  | .integer value => .integer value
  | .float value => .float value
  | .string text => .string text

def redactItems (isSecret : Text -> Bool) (replace : Json -> Json) : List Json -> List Json
  | [] => []
  | item :: rest => redact isSecret replace item :: redactItems isSecret replace rest

def redactFields (isSecret : Text -> Bool) (replace : Json -> Json) : List (Text × Json) -> List (Text × Json)
  | [] => []
  | (key, item) :: rest =>
      (key, if isSecret key then replace item else redact isSecret replace item) ::
        redactFields isSecret replace rest

end

variable {isSecret : Text -> Bool} {replace : Json -> Json} {replacement : Json}

/-- What becomes of one field. -/
def redactField (isSecret : Text -> Bool) (replace : Json -> Json) (field : Text × Json) : Text × Json :=
  (field.1, if isSecret field.1 then replace field.2 else redact isSecret replace field.2)

theorem redactField_of_secret {field : Text × Json} (secret : isSecret field.1 = true) :
    redactField isSecret replace field = (field.1, replace field.2) := by
  rw [redactField, if_pos secret]

theorem redactField_of_open {field : Text × Json} (shown : isSecret field.1 = false) :
    redactField isSecret replace field = (field.1, redact isSecret replace field.2) := by
  rw [redactField, shown, if_neg Bool.false_ne_true]

theorem redact_array (items : List Json) :
    redact isSecret replace (.array items) = .array (items.map (redact isSecret replace)) := by
  rw [redact]
  congr 1
  induction items with
  | nil => rfl
  | cons item rest inductionHypothesis => rw [redactItems, inductionHypothesis, List.map_cons]

theorem redact_object (fields : List (Text × Json)) :
    redact isSecret replace (.object fields) = .object (fields.map (redactField isSecret replace)) := by
  rw [redact]
  congr 1
  induction fields with
  | nil => rfl
  | cons field rest inductionHypothesis =>
      rw [redactFields, inductionHypothesis, List.map_cons]
      rfl

theorem redact_of_isLeaf {document : Json} (leaf : document.isLeaf = true) :
    redact isSecret replace document = document := by
  cases document with
  | array | object => cases leaf
  | null | bool | integer | float | string => rw [redact]

theorem isLeaf_redact (document : Json) : (redact isSecret replace document).isLeaf = document.isLeaf := by
  cases document <;> rw [redact] <;> rfl

/-! ## What a redactor shows -/

namespace Alike

theorem symm {document other : Json} (alike : Alike isSecret document other) : Alike isSecret other document := by
  induction alike with
  | refl document => exact .refl document
  | trans _ _ first rest => exact .trans rest first
  | secret secret before after old new => exact .secret secret before after new old
  | item before after _ inductionHypothesis => exact .item before after inductionHypothesis
  | field key before after _ inductionHypothesis => exact .field key before after inductionHypothesis

theorem isObject_eq {document other : Json} (alike : Alike isSecret document other) :
    document.isObject = other.isObject := by
  induction alike with
  | trans _ _ first rest => exact first.trans rest
  | refl | secret | item | field => rfl

/-- Documents that are alike are redacted alike. -/
theorem redact_eq {document other : Json} (alike : Alike isSecret document other) :
    redact isSecret (fun _ => replacement) document = redact isSecret (fun _ => replacement) other := by
  induction alike with
  | refl document => rfl
  | trans _ _ first rest => exact first.trans rest
  | secret secret before after old new =>
      simp only [redact_object, List.map_append, List.map_cons, redactField, if_pos secret]
  | item before after _ inductionHypothesis =>
      simp only [redact_array, List.map_append, List.map_cons, inductionHypothesis]
  | field key before after _ inductionHypothesis =>
      simp only [redact_object, List.map_append, List.map_cons, redactField, inductionHypothesis]

theorem items {list : List Json} (each : forall item, item ∈ list -> Alike isSecret item (redact isSecret replace item))
    (before : List Json) :
    Alike isSecret (.array (before ++ list)) (.array (before ++ list.map (redact isSecret replace))) := by
  induction list generalizing before with
  | nil => exact .refl _
  | cons item rest inductionHypothesis =>
      have later := inductionHypothesis (fun other member => each other (List.mem_cons_of_mem _ member))
        (before ++ [redact isSecret replace item])
      rw [List.append_assoc, List.append_assoc] at later
      exact .trans (.item before rest (each item List.mem_cons_self)) later

theorem fields {list : List (Text × Json)}
    (each : forall field, field ∈ list -> Alike isSecret field.2 (redact isSecret replace field.2))
    (before : List (Text × Json)) :
    Alike isSecret (.object (before ++ list)) (.object (before ++ list.map (redactField isSecret replace))) := by
  induction list generalizing before with
  | nil => exact .refl _
  | cons field rest inductionHypothesis =>
      have later := inductionHypothesis (fun other member => each other (List.mem_cons_of_mem _ member))
        (before ++ [redactField isSecret replace field])
      rw [List.append_assoc, List.append_assoc] at later
      refine .trans ?_ later
      cases classified : isSecret field.1 with
      | true =>
          rw [redactField_of_secret classified]
          exact .secret classified before rest field.2 _
      | false =>
          rw [redactField_of_open classified]
          exact .field field.1 before rest (each field List.mem_cons_self)

/-- Redaction changes values under secret keys only. -/
theorem to_redact (isSecret : Text -> Bool) (replace : Json -> Json) (document : Json) :
    Alike isSecret document (redact isSecret replace document) := by
  induction document with
  | array list inductionHypothesis =>
      rw [redact_array]
      exact items inductionHypothesis []
  | object list inductionHypothesis =>
      rw [redact_object]
      exact fields inductionHypothesis []
  | null | bool | integer | float | string => rw [redact]; exact .refl _

end Alike

/-- A redactor tells two documents apart exactly when they differ outside the secret keys. -/
theorem redact_eq_iff {document other : Json} :
    redact isSecret (fun _ => replacement) document = redact isSecret (fun _ => replacement) other <-> Alike isSecret document other := by
  constructor
  · intro same
    have left := Alike.to_redact isSecret (fun _ => replacement) document
    rw [same] at left
    exact .trans left (Alike.to_redact isSecret (fun _ => replacement) other).symm
  · exact fun alike => alike.redact_eq

/-- Nothing is lost where the old values are put back. -/
theorem redact_id (document : Json) : redact isSecret id document = document := by
  induction document with
  | array items inductionHypothesis =>
      rw [redact_array, List.map_congr_left inductionHypothesis, List.map_id']
  | object fields inductionHypothesis =>
      have each : forall field, field ∈ fields -> redactField isSecret id field = field := by
        intro field member
        rw [redactField, inductionHypothesis field member, id_eq, ite_self]
      rw [redact_object, List.map_congr_left each, List.map_id']
  | null | bool | integer | float | string => rw [redact]

theorem redact_redact (document : Json) :
    redact isSecret (fun _ => replacement) (redact isSecret (fun _ => replacement) document) = redact isSecret (fun _ => replacement) document :=
  (Alike.to_redact isSecret (fun _ => replacement) document).symm.redact_eq

/-! ## What is left in its place -/

theorem get_redact {name : Text} (shown : isSecret name = false) (document : Json) :
    (redact isSecret replace document).get name = (document.get name).map (redact isSecret replace) := by
  cases document with
  | object fields =>
      rw [redact_object]
      apply get_map
      · exact fun _ => rfl
      · exact fun value => redactField_of_open shown
  | array | null | bool | integer | float | string => rw [redact]; rfl

/-- A path through no secret key leads to the redacted part. -/
theorem follow_redact {path : List Step} (clear : Open isSecret path) (document : Json) :
    (redact isSecret replace document).follow path = (document.follow path).map (redact isSecret replace) := by
  induction path generalizing document with
  | nil => rfl
  | cons step rest inductionHypothesis =>
      have later := inductionHypothesis fun name member => clear name (List.mem_cons_of_mem _ member)
      cases step with
      | key name =>
          have shown := clear name List.mem_cons_self
          simp only [follow, get_redact shown, Option.bind_map, Option.map_bind, Function.comp_def, later]
      | index position =>
          cases document with
          | array items =>
              simp only [redact_array, follow, List.getElem?_map, Option.bind_map, Option.map_bind, Function.comp_def,
                later]
          | object | null | bool | integer | float | string => rw [redact]; rfl

/-- The leaves outside the secret keys are the ones that were there. -/
theorem leaf_redact_iff {path : List Step} (clear : Open isSecret path) {leaf : Json} (isLeaf : leaf.isLeaf = true)
    (document : Json) :
    (redact isSecret replace document).follow path = some leaf <-> document.follow path = some leaf := by
  rw [follow_redact clear, Option.map_eq_some_iff]
  constructor
  · rintro ⟨part, found, same⟩
    have kept : (redact isSecret replace part).isLeaf = part.isLeaf := isLeaf_redact part
    have part_isLeaf : part.isLeaf = true := by rw [← kept, same, isLeaf]
    rw [redact_of_isLeaf part_isLeaf] at same
    exact same ▸ found
  · exact fun found => ⟨leaf, found, redact_of_isLeaf isLeaf⟩

/-- What a redactor promises. -/
structure Redacts (isSecret : Text -> Bool) (redactor : Json -> Json) : Prop where
  alike : forall document other, Alike isSecret document other -> redactor document = redactor other
  idempotent : forall document, redactor (redactor document) = redactor document
  leaf : forall path, Open isSecret path -> forall leaf, leaf.isLeaf = true -> forall document,
    ((redactor document).follow path = some leaf <-> document.follow path = some leaf)

theorem redacts (isSecret : Text -> Bool) (replacement : Json) : Redacts isSecret (redact isSecret fun _ => replacement) where
  alike _ _ := redact_eq_iff.mpr
  idempotent := redact_redact
  leaf _ clear _ isLeaf := leaf_redact_iff clear isLeaf

end KeyRedaction
end Foundation
end ApexQuant
