import ApexQuant.Foundation.Text

namespace ApexQuant
namespace Foundation

/-!
# JSON documents

A document as a program holds it after it has been read.  Whole numbers are exact;
any other number is a double, and so a rational.  The fields of an object stand in
the order in which they were written.

Two documents are the same up to the order of keys when one becomes the other by
moving fields inside objects, at any depth.  Sorting the keys at every depth picks
one document of each such class.
-/

inductive Json where
  | null
  | bool (value : Bool)
  | integer (value : Int)
  | float (value : Rat)
  | string (text : Text)
  | array (items : List Json)
  | object (fields : List (Text × Json))

namespace Json

mutual

theorem rec_of_parts {motive : Json -> Prop} (null : motive .null) (bool : forall value, motive (.bool value))
    (integer : forall value, motive (.integer value)) (float : forall value, motive (.float value))
    (string : forall text, motive (.string text))
    (array : forall items, (forall item, item ∈ items -> motive item) -> motive (.array items))
    (object : forall fields, (forall field, field ∈ fields -> motive field.2) -> motive (.object fields)) :
    forall document, motive document
  | .null => null
  | .bool value => bool value
  | .integer value => integer value
  | .float value => float value
  | .string text => string text
  | .array items => array items (rec_of_items null bool integer float string array object items)
  | .object fields => object fields (rec_of_fields null bool integer float string array object fields)

theorem rec_of_items {motive : Json -> Prop} (null : motive .null) (bool : forall value, motive (.bool value))
    (integer : forall value, motive (.integer value)) (float : forall value, motive (.float value))
    (string : forall text, motive (.string text))
    (array : forall items, (forall item, item ∈ items -> motive item) -> motive (.array items))
    (object : forall fields, (forall field, field ∈ fields -> motive field.2) -> motive (.object fields)) :
    forall (items : List Json) item, item ∈ items -> motive item
  | [], _, member => absurd member List.not_mem_nil
  | first :: rest, item, member => by
      have atFirst := rec_of_parts null bool integer float string array object first
      have later := rec_of_items null bool integer float string array object rest item
      rcases List.mem_cons.mp member with same | inside
      · exact same ▸ atFirst
      · exact later inside

theorem rec_of_fields {motive : Json -> Prop} (null : motive .null) (bool : forall value, motive (.bool value))
    (integer : forall value, motive (.integer value)) (float : forall value, motive (.float value))
    (string : forall text, motive (.string text))
    (array : forall items, (forall item, item ∈ items -> motive item) -> motive (.array items))
    (object : forall fields, (forall field, field ∈ fields -> motive field.2) -> motive (.object fields)) :
    forall (fields : List (Text × Json)) field, field ∈ fields -> motive field.2
  | [], _, member => absurd member List.not_mem_nil
  | (_, first) :: rest, field, member => by
      have atFirst := rec_of_parts null bool integer float string array object first
      have later := rec_of_fields null bool integer float string array object rest field
      rcases List.mem_cons.mp member with same | inside
      · exact same ▸ atFirst
      · exact later inside

end

/-- What holds of a document when it holds of the documents directly inside it holds
of every document. -/
@[induction_eliminator]
theorem induction {motive : Json -> Prop} (null : motive .null) (bool : forall value, motive (.bool value))
    (integer : forall value, motive (.integer value)) (float : forall value, motive (.float value))
    (string : forall text, motive (.string text))
    (array : forall items, (forall item, item ∈ items -> motive item) -> motive (.array items))
    (object : forall fields, (forall field, field ∈ fields -> motive field.2) -> motive (.object fields))
    (document : Json) : motive document :=
  rec_of_parts null bool integer float string array object document

/-! ## Properties at every depth -/

mutual

/-- The property holds of the document and of all documents inside it. -/
def Everywhere (holds : Json -> Prop) : Json -> Prop
  | .array items => holds (.array items) ∧ EverywhereItems holds items
  | .object fields => holds (.object fields) ∧ EverywhereFields holds fields
  | .null => holds .null
  | .bool value => holds (.bool value)
  | .integer value => holds (.integer value)
  | .float value => holds (.float value)
  | .string text => holds (.string text)

def EverywhereItems (holds : Json -> Prop) : List Json -> Prop
  | [] => True
  | item :: rest => Everywhere holds item ∧ EverywhereItems holds rest

def EverywhereFields (holds : Json -> Prop) : List (Text × Json) -> Prop
  | [] => True
  | (_, item) :: rest => Everywhere holds item ∧ EverywhereFields holds rest

end

theorem everywhereItems_iff {holds : Json -> Prop} {items : List Json} :
    EverywhereItems holds items <-> forall item, item ∈ items -> Everywhere holds item := by
  induction items with
  | nil => exact ⟨fun _ _ member => absurd member List.not_mem_nil, fun _ => trivial⟩
  | cons item rest inductionHypothesis => rw [EverywhereItems, inductionHypothesis, List.forall_mem_cons]

theorem everywhereFields_iff {holds : Json -> Prop} {fields : List (Text × Json)} :
    EverywhereFields holds fields <-> forall field, field ∈ fields -> Everywhere holds field.2 := by
  induction fields with
  | nil => exact ⟨fun _ _ member => absurd member List.not_mem_nil, fun _ => trivial⟩
  | cons field rest inductionHypothesis => rw [EverywhereFields, inductionHypothesis, List.forall_mem_cons]

theorem everywhere_array {holds : Json -> Prop} {items : List Json} :
    Everywhere holds (.array items) <-> holds (.array items) ∧ forall item, item ∈ items -> Everywhere holds item := by
  rw [Everywhere, everywhereItems_iff]

theorem everywhere_object {holds : Json -> Prop} {fields : List (Text × Json)} :
    Everywhere holds (.object fields) <->
      holds (.object fields) ∧ forall field, field ∈ fields -> Everywhere holds field.2 := by
  rw [Everywhere, everywhereFields_iff]

theorem everywhere_of_forall {holds : Json -> Prop} (all : forall part, holds part) (document : Json) :
    Everywhere holds document := by
  induction document with
  | array items inductionHypothesis => exact everywhere_array.mpr ⟨all _, inductionHypothesis⟩
  | object fields inductionHypothesis => exact everywhere_object.mpr ⟨all _, inductionHypothesis⟩
  | null | bool | integer | float | string => exact all _

theorem Everywhere.imp {holds holds' : Json -> Prop} (gives : forall part, holds part -> holds' part) {document : Json}
    (everywhere : Everywhere holds document) : Everywhere holds' document := by
  induction document with
  | array items inductionHypothesis =>
      rw [everywhere_array] at everywhere ⊢
      exact ⟨gives _ everywhere.1, fun item member => inductionHypothesis item member (everywhere.2 item member)⟩
  | object fields inductionHypothesis =>
      rw [everywhere_object] at everywhere ⊢
      exact ⟨gives _ everywhere.1, fun field member => inductionHypothesis field member (everywhere.2 field member)⟩
  | null | bool | integer | float | string => exact gives _ everywhere

/-- The property holds of a part of the document, at any depth. -/
inductive Somewhere (holds : Json -> Prop) : Json -> Prop where
  | here {document : Json} (found : holds document) : Somewhere holds document
  | item {items : List Json} {item : Json} (member : item ∈ items) (inside : Somewhere holds item) :
      Somewhere holds (.array items)
  | field {fields : List (Text × Json)} {field : Text × Json} (member : field ∈ fields)
      (inside : Somewhere holds field.2) : Somewhere holds (.object fields)

theorem somewhere_array {holds : Json -> Prop} {items : List Json} :
    Somewhere holds (.array items) <->
      holds (.array items) ∨ Exists fun item => item ∈ items ∧ Somewhere holds item := by
  constructor
  · intro found
    cases found with
    | here found => exact Or.inl found
    | item member inside => exact Or.inr ⟨_, member, inside⟩
  · rintro (found | ⟨item, member, inside⟩)
    · exact .here found
    · exact .item member inside

theorem somewhere_object {holds : Json -> Prop} {fields : List (Text × Json)} :
    Somewhere holds (.object fields) <->
      holds (.object fields) ∨ Exists fun field => field ∈ fields ∧ Somewhere holds field.2 := by
  constructor
  · intro found
    cases found with
    | here found => exact Or.inl found
    | field member inside => exact Or.inr ⟨_, member, inside⟩
  · rintro (found | ⟨field, member, inside⟩)
    · exact .here found
    · exact .field member inside

/-- A property of the parts of a part is one of the parts. -/
theorem Somewhere.flatten {holds : Json -> Prop} {document : Json} (found : Somewhere (Somewhere holds) document) :
    Somewhere holds document := by
  induction found with
  | here found => exact found
  | item member _ inductionHypothesis => exact .item member inductionHypothesis
  | field member _ inductionHypothesis => exact .field member inductionHypothesis

theorem Somewhere.imp {holds holds' : Json -> Prop} {document : Json} (found : Somewhere holds document)
    (gives : forall part, holds part -> holds' part) : Somewhere holds' document := by
  induction found with
  | here found => exact .here (gives _ found)
  | item member _ inductionHypothesis => exact .item member inductionHypothesis
  | field member _ inductionHypothesis => exact .field member inductionHypothesis

/-- No object has a key twice. -/
def UniqueKeys : Json -> Prop :=
  Everywhere fun
    | .object fields => (fields.map Prod.fst).Nodup
    | _ => True

/-- Every number is a whole one. -/
def Whole : Json -> Prop :=
  Everywhere fun
    | .float _ => False
    | _ => True

theorem uniqueKeys_array {items : List Json} :
    UniqueKeys (.array items) <-> forall item, item ∈ items -> UniqueKeys item :=
  everywhere_array.trans (Iff.of_eq (true_and _))

theorem uniqueKeys_object {fields : List (Text × Json)} :
    UniqueKeys (.object fields) <->
      (fields.map Prod.fst).Nodup ∧ forall field, field ∈ fields -> UniqueKeys field.2 :=
  everywhere_object

theorem whole_array {items : List Json} : Whole (.array items) <-> forall item, item ∈ items -> Whole item :=
  everywhere_array.trans (Iff.of_eq (true_and _))

theorem whole_object {fields : List (Text × Json)} :
    Whole (.object fields) <-> forall field, field ∈ fields -> Whole field.2 :=
  everywhere_object.trans (Iff.of_eq (true_and _))

/-! ## Reading a document -/

/-- The value of a key: `dict.get` and `Value::get`. -/
def get (key : Text) : Json -> Option Json
  | .object fields => (fields.find? fun field => decide (field.1 = key)).map Prod.snd
  | _ => none

def asStr : Json -> Option Text
  | .string text => some text
  | _ => none

def asBool : Json -> Option Bool
  | .bool value => some value
  | _ => none

def isObject : Json -> Bool
  | .object _ => true
  | _ => false

/-- A list is read back when each of its values is. -/
theorem mapM_read_write {Value : Type} {write : Value -> Json} {read : Json -> Option Value} {values : List Value}
    (back : forall value, value ∈ values -> read (write value) = some value) :
    (values.map write).mapM read = some values := by
  induction values with
  | nil => rfl
  | cons value rest inductionHypothesis =>
      have later := inductionHypothesis fun other member => back other (List.mem_cons_of_mem _ member)
      rw [List.map_cons, List.mapM_cons, back value List.mem_cons_self, later]
      rfl

/-! ## The order of keys -/

def keyOrder (left right : Text × Json) : Prop :=
  left.1 ≤ right.1

instance : DecidableRel keyOrder := fun left right => inferInstanceAs (Decidable (left.1 ≤ right.1))

mutual

/-- The document with the keys of every object in the order of their code points. -/
def sortKeys : Json -> Json
  | .array items => .array (sortKeysItems items)
  | .object fields => .object ((sortKeysFields fields).insertionSort keyOrder)
  | .null => .null
  | .bool value => .bool value
  | .integer value => .integer value
  | .float value => .float value
  | .string text => .string text

def sortKeysItems : List Json -> List Json
  | [] => []
  | item :: rest => sortKeys item :: sortKeysItems rest

def sortKeysFields : List (Text × Json) -> List (Text × Json)
  | [] => []
  | (key, item) :: rest => (key, sortKeys item) :: sortKeysFields rest

end

/-- A field whose value has its keys in order. -/
def sortField (field : Text × Json) : Text × Json :=
  (field.1, field.2.sortKeys)

theorem sortKeysItems_eq (items : List Json) : sortKeysItems items = items.map sortKeys := by
  induction items with
  | nil => rfl
  | cons item rest inductionHypothesis => rw [sortKeysItems, inductionHypothesis, List.map_cons]

theorem sortKeysFields_eq (fields : List (Text × Json)) : sortKeysFields fields = fields.map sortField := by
  induction fields with
  | nil => rfl
  | cons field rest inductionHypothesis =>
      rw [sortKeysFields, inductionHypothesis, List.map_cons]
      rfl

theorem sortKeys_array (items : List Json) : sortKeys (.array items) = .array (items.map sortKeys) := by
  rw [sortKeys, sortKeysItems_eq]

theorem sortKeys_object (fields : List (Text × Json)) :
    sortKeys (.object fields) = .object ((fields.map sortField).insertionSort keyOrder) := by
  rw [sortKeys, sortKeysFields_eq]

theorem mem_sorted {fields : List (Text × Json)} {field : Text × Json} :
    field ∈ (fields.map sortField).insertionSort keyOrder <->
      Exists fun old => old ∈ fields ∧ sortField old = field := by
  rw [List.mem_insertionSort, List.mem_map]

theorem keys_sorted (fields : List (Text × Json)) :
    (((fields.map sortField).insertionSort keyOrder).map Prod.fst).Perm (fields.map Prod.fst) := by
  have same : (fields.map sortField).map Prod.fst = fields.map Prod.fst := by
    rw [List.map_map]
    rfl
  exact same ▸ (List.perm_insertionSort keyOrder _).map Prod.fst

/-- A field of an object whose keys differ is found by its key. -/
theorem get_eq_some_iff {fields : List (Text × Json)} (unique : (fields.map Prod.fst).Nodup) {key : Text} {item : Json} :
    get key (.object fields) = some item <-> (key, item) ∈ fields := by
  rw [get, Option.map_eq_some_iff]
  constructor
  · rintro ⟨⟨known, value⟩, found, rfl⟩
    have same : known = key := by simpa using List.find?_some found
    exact same ▸ List.mem_of_find?_eq_some found
  · intro member
    cases found : fields.find? fun field => decide (field.1 = key) with
    | none => exact absurd (decide_eq_true rfl) (List.find?_eq_none.mp found _ member)
    | some other =>
        have same : other.1 = key := by simpa using List.find?_some found
        have known := List.mem_of_find?_eq_some found
        rw [List.inj_on_of_nodup_map unique known member same]
        exact ⟨_, rfl, rfl⟩

/-- Sorting keys moves no value to another key. -/
theorem get_sortKeys {document : Json} (unique : document.UniqueKeys) (key : Text) :
    get key document.sortKeys = (get key document).map sortKeys := by
  cases document with
  | object fields =>
      have distinct := (uniqueKeys_object.mp unique).1
      have distinct' := (keys_sorted fields).nodup_iff.mpr distinct
      rw [sortKeys_object]
      apply Option.ext
      intro item
      rw [get_eq_some_iff distinct', mem_sorted, Option.map_eq_some_iff]
      constructor
      · rintro ⟨⟨known, value⟩, member, same⟩
        cases same
        exact ⟨value, (get_eq_some_iff distinct).mpr member, rfl⟩
      · rintro ⟨value, found, rfl⟩
        exact ⟨(key, value), (get_eq_some_iff distinct).mp found, rfl⟩
  | array items => rfl
  | null => rfl
  | bool value => rfl
  | integer value => rfl
  | float value => rfl
  | string text => rfl

/-- A property that does not depend on the order of keys is found wherever it was. -/
theorem somewhere_sortKeys {holds : Json -> Prop} (same : forall part, holds (sortKeys part) <-> holds part)
    (document : Json) : Somewhere holds document.sortKeys <-> Somewhere holds document := by
  induction document with
  | array items inductionHypothesis =>
      have top := same (.array items)
      rw [sortKeys_array] at top ⊢
      rw [somewhere_array, somewhere_array, top]
      apply or_congr_right
      constructor
      · rintro ⟨item, member, inside⟩
        rcases List.mem_map.mp member with ⟨old, known, rfl⟩
        exact ⟨old, known, (inductionHypothesis old known).mp inside⟩
      · rintro ⟨old, known, inside⟩
        exact ⟨_, List.mem_map_of_mem known, (inductionHypothesis old known).mpr inside⟩
  | object fields inductionHypothesis =>
      have top := same (.object fields)
      rw [sortKeys_object] at top ⊢
      rw [somewhere_object, somewhere_object, top]
      apply or_congr_right
      constructor
      · rintro ⟨field, member, inside⟩
        rcases mem_sorted.mp member with ⟨old, known, rfl⟩
        exact ⟨old, known, (inductionHypothesis old known).mp inside⟩
      · rintro ⟨old, known, inside⟩
        exact ⟨_, mem_sorted.mpr ⟨old, known, rfl⟩, (inductionHypothesis old known).mpr inside⟩
  | null | bool | integer | float | string => exact Iff.rfl

/-- A property that does not depend on the order of keys holds everywhere that it did. -/
theorem everywhere_sortKeys {holds : Json -> Prop} (same : forall part, holds (sortKeys part) <-> holds part)
    (document : Json) : Everywhere holds document.sortKeys <-> Everywhere holds document := by
  induction document with
  | array items inductionHypothesis =>
      have top := same (.array items)
      rw [sortKeys_array] at top ⊢
      rw [everywhere_array, everywhere_array, top, List.forall_mem_map]
      exact and_congr_right fun _ => forall_congr' fun item => forall_congr' fun member => inductionHypothesis item member
  | object fields inductionHypothesis =>
      have top := same (.object fields)
      rw [sortKeys_object] at top ⊢
      rw [everywhere_object, everywhere_object, top]
      apply and_congr_right'
      constructor
      · intro holding field member
        exact (inductionHypothesis field member).mp (holding _ (mem_sorted.mpr ⟨field, member, rfl⟩))
      · intro holding field member
        rcases mem_sorted.mp member with ⟨old, known, rfl⟩
        exact (inductionHypothesis old known).mpr (holding old known)
  | null | bool | integer | float | string => exact Iff.rfl

/-! ## The same up to the order of keys -/

/-- One document becomes the other when fields are moved inside objects, at any depth. -/
inductive Reordered : Json -> Json -> Prop where
  | refl (document : Json) : Reordered document document
  | symm {document other : Json} (same : Reordered document other) : Reordered other document
  | trans {document middle other : Json} (first : Reordered document middle) (rest : Reordered middle other) :
      Reordered document other
  | fields {fields fields' : List (Text × Json)} (moved : fields.Perm fields') :
      Reordered (.object fields) (.object fields')
  | item {item item' : Json} (before after : List Json) (same : Reordered item item') :
      Reordered (.array (before ++ item :: after)) (.array (before ++ item' :: after))
  | field {item item' : Json} (key : Text) (before after : List (Text × Json)) (same : Reordered item item') :
      Reordered (.object (before ++ (key, item) :: after)) (.object (before ++ (key, item') :: after))

namespace Reordered

theorem uniqueKeys_iff {document other : Json} (same : Reordered document other) :
    document.UniqueKeys <-> other.UniqueKeys := by
  induction same with
  | refl document => exact Iff.rfl
  | symm _ inductionHypothesis => exact inductionHypothesis.symm
  | trans _ _ first rest => exact first.trans rest
  | fields moved =>
      rw [uniqueKeys_object, uniqueKeys_object, (moved.map Prod.fst).nodup_iff]
      exact and_congr_right fun _ => forall_congr' fun field => imp_congr_left moved.mem_iff
  | item before after _ inductionHypothesis =>
      rw [uniqueKeys_array, uniqueKeys_array, List.forall_mem_append, List.forall_mem_append, List.forall_mem_cons,
        List.forall_mem_cons, inductionHypothesis]
  | field key before after _ inductionHypothesis =>
      rw [uniqueKeys_object, uniqueKeys_object, List.forall_mem_append, List.forall_mem_append, List.forall_mem_cons,
        List.forall_mem_cons, inductionHypothesis, List.map_append, List.map_append, List.map_cons, List.map_cons]

/-- Sorted fields with different keys do not remember where they stood. -/
theorem sorted_eq_of_perm {fields fields' : List (Text × Json)} (unique : (fields.map Prod.fst).Nodup)
    (moved : fields.Perm fields') :
    (fields.map sortField).insertionSort keyOrder = (fields'.map sortField).insertionSort keyOrder := by
  have total : Std.Total keyOrder := ⟨fun left right => le_total left.1 right.1⟩
  have transitive : IsTrans (Text × Json) keyOrder := ⟨fun _ _ _ first rest => le_trans first rest⟩
  have permuted := ((List.perm_insertionSort keyOrder (fields.map sortField)).trans (moved.map sortField)).trans
    (List.perm_insertionSort keyOrder (fields'.map sortField)).symm
  have distinct := (keys_sorted fields).nodup_iff.mpr unique
  refine List.Perm.eq_of_pairwise ?_ (List.pairwise_insertionSort keyOrder _)
    (List.pairwise_insertionSort keyOrder _) permuted
  intro left right member member' before after
  exact List.inj_on_of_nodup_map distinct member (permuted.mem_iff.mpr member') (le_antisymm before after)

theorem sortKeys_eq {document other : Json} (same : Reordered document other) (unique : document.UniqueKeys) :
    document.sortKeys = other.sortKeys := by
  induction same with
  | refl document => rfl
  | symm same inductionHypothesis => exact (inductionHypothesis (same.uniqueKeys_iff.mpr unique)).symm
  | trans first _ atFirst atRest => exact (atFirst unique).trans (atRest (first.uniqueKeys_iff.mp unique))
  | fields moved => rw [sortKeys_object, sortKeys_object, sorted_eq_of_perm (uniqueKeys_object.mp unique).1 moved]
  | item before after _ inductionHypothesis =>
      rw [uniqueKeys_array, List.forall_mem_append, List.forall_mem_cons] at unique
      rw [sortKeys_array, sortKeys_array, List.map_append, List.map_append, List.map_cons, List.map_cons,
        inductionHypothesis unique.2.1]
  | field key before after _ inductionHypothesis =>
      rw [uniqueKeys_object, List.forall_mem_append, List.forall_mem_cons] at unique
      have sameField := inductionHypothesis unique.2.2.1
      rw [sortKeys_object, sortKeys_object, List.map_append, List.map_append, List.map_cons, List.map_cons, sortField,
        sortField, sameField]

theorem items {list : List Json} (each : forall item, item ∈ list -> Reordered item item.sortKeys) (before : List Json) :
    Reordered (.array (before ++ list)) (.array (before ++ list.map sortKeys)) := by
  induction list generalizing before with
  | nil => exact .refl _
  | cons item rest inductionHypothesis =>
      have moved := inductionHypothesis (fun other member => each other (List.mem_cons_of_mem _ member))
        (before ++ [item.sortKeys])
      rw [List.append_assoc, List.append_assoc] at moved
      exact .trans (.item before rest (each item List.mem_cons_self)) moved

theorem objects {list : List (Text × Json)} (each : forall field, field ∈ list -> Reordered field.2 field.2.sortKeys)
    (before : List (Text × Json)) :
    Reordered (.object (before ++ list)) (.object (before ++ list.map sortField)) := by
  induction list generalizing before with
  | nil => exact .refl _
  | cons field rest inductionHypothesis =>
      have moved := inductionHypothesis (fun other member => each other (List.mem_cons_of_mem _ member))
        (before ++ [sortField field])
      rw [List.append_assoc, List.append_assoc] at moved
      exact .trans (.field field.1 before rest (each field List.mem_cons_self)) moved

theorem to_sortKeys (document : Json) : Reordered document document.sortKeys := by
  induction document with
  | array list inductionHypothesis =>
      rw [sortKeys_array]
      exact items inductionHypothesis []
  | object list inductionHypothesis =>
      rw [sortKeys_object]
      exact .trans (objects inductionHypothesis []) (.fields (List.perm_insertionSort keyOrder _).symm)
  | null | bool | integer | float | string => exact .refl _

/-- Documents without a key twice are the same up to the order of keys when sorting
leaves the same. -/
theorem iff_sortKeys_eq {document other : Json} (unique : document.UniqueKeys) :
    Reordered document other <-> document.sortKeys = other.sortKeys := by
  constructor
  · exact fun same => same.sortKeys_eq unique
  · intro same
    have left := to_sortKeys document
    rw [same] at left
    exact .trans left (.symm (to_sortKeys other))

end Reordered

end Json

/-- A document whose objects have no key twice: one that a parser has read. -/
structure Document where
  json : Json
  uniqueKeys : json.UniqueKeys

end Foundation
end ApexQuant
