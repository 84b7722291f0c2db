import ApexQuant.Foundation.Table

namespace ApexQuant
namespace Foundation

/-!
# Dictionaries in insertion order

A dictionary is a table of pairs under their first component.  An assignment
replaces the value of a key in its place, or adds the key at the end.
-/

abbrev Dictionary (Key Value : Type) :=
  Table (Prod.fst : Key × Value -> Key)

namespace Dictionary

variable {Key Value Other : Type}

def keys (dictionary : Dictionary Key Value) : List Key :=
  dictionary.rows.map Prod.fst

section Access

variable [DecidableEq Key]

def get (dictionary : Dictionary Key Value) (key : Key) : Option Value :=
  (dictionary.find key).map Prod.snd

/-- The pair under the key, with another value. -/
def assign (key : Key) (value : Value) (item : Key × Value) : Key × Value :=
  (item.1, if item.1 = key then value else item.2)

theorem fst_assign (key : Key) (value : Value) (item : Key × Value) : (assign key value item).1 = item.1 := rfl

def set (dictionary : Dictionary Key Value) (key : Key) (value : Value) : Dictionary Key Value :=
  match dictionary.insert (key, value) with
  | some added => added
  | none => dictionary.update (assign key value) (fst_assign key value)

theorem mem_keys_iff {dictionary : Dictionary Key Value} {key : Key} :
    key ∈ dictionary.keys <-> (dictionary.get key).isSome = true := by
  unfold get
  rw [Option.isSome_map]
  constructor
  · intro listed
    cases found : dictionary.find key with
    | none => exact absurd listed (Table.find_eq_none_iff.mp found)
    | some item => rfl
  · intro held
    rcases Option.isSome_iff_exists.mp held with ⟨item, found⟩
    rcases Table.mem_of_find found with ⟨member, named⟩
    exact named ▸ List.mem_map_of_mem member

theorem get_of_mem {dictionary : Dictionary Key Value} {key : Key} {value : Value}
    (member : (key, value) ∈ dictionary.rows) : dictionary.get key = some value := by
  have listed : (key, value) ∈ dictionary := member
  have found : dictionary.find key = some (key, value) := Table.find_of_mem listed
  rw [get, found, Option.map_some]

theorem mem_of_get {dictionary : Dictionary Key Value} {key : Key} {value : Value}
    (held : dictionary.get key = some value) : (key, value) ∈ dictionary.rows := by
  rcases Option.map_eq_some_iff.mp held with ⟨⟨named, stored⟩, found, rfl⟩
  rcases Table.mem_of_find found with ⟨member, rfl⟩
  exact member

theorem insert_eq_none {dictionary : Dictionary Key Value} {key : Key} {value : Value}
    (refused : dictionary.insert (key, value) = none) : key ∈ dictionary.keys := by
  by_contra fresh
  have absent : dictionary.find (key, value).1 = none := Table.find_eq_none_iff.mpr fresh
  rcases Table.exists_insert absent with ⟨after, inserted⟩
  exact absurd (refused.symm.trans inserted) nofun

/-- An assignment changes the value of its own key and of no other. -/
theorem get_set (dictionary : Dictionary Key Value) (key other : Key) (value : Value) :
    (dictionary.set key value).get other = if key = other then some value else dictionary.get other := by
  unfold set
  split
  · rename_i added inserted
    rw [get, Table.find_insert inserted]
    by_cases same : key = other
    · have absent := Table.find_eq_none_of_insert inserted
      rw [same] at absent
      rw [absent, if_pos same, if_pos same, Option.none_or, Option.map_some]
    · rw [if_neg same, if_neg same, Option.or_none, get]
  · rename_i refused
    rw [get, Table.find_update]
    by_cases same : key = other
    · rcases Option.isSome_iff_exists.mp (mem_keys_iff.mp (insert_eq_none refused)) with ⟨old, held⟩
      rcases Option.map_eq_some_iff.mp held with ⟨item, found, -⟩
      rw [same] at found
      rw [found, if_pos same, Option.map_some, Option.map_some, assign,
        if_pos ((Table.mem_of_find found).2.trans same.symm)]
    · rw [if_neg same, get, Option.map_map]
      cases found : dictionary.find other with
      | none => rfl
      | some item =>
          have apart : item.1 ≠ key := fun named => same (named.symm.trans (Table.mem_of_find found).2)
          rw [Option.map_some, Option.map_some, Function.comp_apply, assign, if_neg apart]

theorem get_set_self (dictionary : Dictionary Key Value) (key : Key) (value : Value) :
    (dictionary.set key value).get key = some value := by
  rw [get_set, if_pos rfl]

theorem get_set_of_ne (dictionary : Dictionary Key Value) {key other : Key} (value : Value) (apart : key ≠ other) :
    (dictionary.set key value).get other = dictionary.get other := by
  rw [get_set, if_neg apart]

theorem rows_set_of_mem {dictionary : Dictionary Key Value} {key : Key} (value : Value)
    (listed : key ∈ dictionary.keys) : (dictionary.set key value).rows = dictionary.rows.map (assign key value) := by
  unfold set
  split
  · rename_i added inserted
    exact absurd listed (Table.find_eq_none_iff.mp (Table.find_eq_none_of_insert inserted))
  · rfl

theorem rows_set_of_not_mem {dictionary : Dictionary Key Value} {key : Key} (value : Value)
    (fresh : key ∉ dictionary.keys) : (dictionary.set key value).rows = dictionary.rows ++ [(key, value)] := by
  unfold set
  split
  · rename_i added inserted
    exact Table.rows_of_insert inserted
  · rename_i refused
    exact absurd (insert_eq_none refused) fresh

end Access

/-! ## Another view of the values -/

/-- The same keys with other values. -/
def mapValues (view : Key -> Value -> Other) (dictionary : Dictionary Key Value) : Dictionary Key Other where
  rows := dictionary.rows.map fun item => (item.1, view item.1 item.2)
  unique := by
    rw [List.map_map]
    exact dictionary.unique

theorem rows_mapValues (view : Key -> Value -> Other) (dictionary : Dictionary Key Value) :
    (dictionary.mapValues view).rows = dictionary.rows.map fun item => (item.1, view item.1 item.2) := rfl

theorem keys_mapValues (view : Key -> Value -> Other) (dictionary : Dictionary Key Value) :
    (dictionary.mapValues view).keys = dictionary.keys := by
  unfold keys mapValues
  rw [List.map_map]
  rfl

theorem get_mapValues [DecidableEq Key] (view : Key -> Value -> Other) (dictionary : Dictionary Key Value)
    (key : Key) : (dictionary.mapValues view).get key = (dictionary.get key).map (view key) := by
  cases held : dictionary.get key with
  | some value =>
      apply get_of_mem
      exact List.mem_map.mpr ⟨(key, value), mem_of_get held, rfl⟩
  | none =>
      cases viewed : (dictionary.mapValues view).get key with
      | none => rfl
      | some other =>
          rcases List.mem_map.mp (mem_of_get viewed) with ⟨item, member, same⟩
          have named : item.1 = key := congrArg Prod.fst same
          have listed : key ∈ dictionary.keys := named ▸ List.mem_map_of_mem member
          rw [mem_keys_iff, held] at listed
          exact absurd listed nofun

/-- An assignment is one in every view. -/
theorem mapValues_set [DecidableEq Key] (view : Key -> Value -> Other) (dictionary : Dictionary Key Value) (key : Key)
    (value : Value) :
    (dictionary.set key value).mapValues view = (dictionary.mapValues view).set key (view key value) := by
  apply Table.ext_rows
  by_cases listed : key ∈ dictionary.keys
  · have viewed : key ∈ (dictionary.mapValues view).keys := by rwa [keys_mapValues]
    rw [rows_set_of_mem _ viewed, rows_mapValues, rows_mapValues, rows_set_of_mem value listed, List.map_map,
      List.map_map]
    apply List.map_congr_left
    intro item _
    simp only [Function.comp_apply, assign]
    by_cases same : item.1 = key
    · rw [if_pos same, if_pos same, same]
    · rw [if_neg same, if_neg same]
  · have viewed : key ∉ (dictionary.mapValues view).keys := by rwa [keys_mapValues]
    rw [rows_set_of_not_mem _ viewed, rows_mapValues, rows_mapValues, rows_set_of_not_mem value listed,
      List.map_append, List.map_singleton]

end Dictionary
end Foundation
end ApexQuant
