import ApexQuant.Foundation.Table
import Mathlib.Data.List.Induction

namespace ApexQuant
namespace Foundation

/-!
# Leases

A lease is granted by some events, changed by others, and lost when a change leaves
nothing of it.  Whoever holds one holds it since the last time that it was granted to
somebody without one.  A table of leases has one row a key: an insert that falls back to
an update, an update of one row, and a sweep over all rows.
-/

/-- What events make of a lease. -/
structure LeaseRules (Lease Event : Type) where
  grant : Event -> Option Lease
  change : Lease -> Event -> Option Lease

namespace LeaseRules

variable {Lease Event : Type} (rules : LeaseRules Lease Event)

def step : Option Lease -> Event -> Option Lease
  | none, event => rules.grant event
  | some lease, event => rules.change lease event

def run (held : Option Lease) (events : List Event) : Option Lease :=
  events.foldl rules.step held

/-- What is left of a lease that was never lost. -/
def keep (lease : Lease) (events : List Event) : Option Lease :=
  events.foldlM rules.change lease

theorem run_append (held : Option Lease) (events later : List Event) :
    rules.run held (events ++ later) = rules.run (rules.run held events) later := List.foldl_append

theorem run_concat (held : Option Lease) (events : List Event) (last : Event) :
    rules.run held (events ++ [last]) = rules.step (rules.run held events) last := by
  rw [run_append]
  rfl

theorem keep_cons (lease : Lease) (event : Event) (events : List Event) :
    rules.keep lease (event :: events) = (rules.change lease event).bind fun changed => rules.keep changed events := rfl

theorem keep_append (lease : Lease) (events later : List Event) :
    rules.keep lease (events ++ later) = (rules.keep lease events).bind fun kept => rules.keep kept later := by
  simp [keep, List.foldlM_append]

theorem keep_concat (lease : Lease) (events : List Event) (last : Event) :
    rules.keep lease (events ++ [last]) = (rules.keep lease events).bind fun kept => rules.change kept last := by
  rw [keep_append]
  cases rules.keep lease events with
  | none => rfl
  | some kept => simp [keep]

variable {rules}

/-- A lease that was never lost is what is held at the end. -/
theorem run_of_keep {lease kept : Lease} {events : List Event} (never : rules.keep lease events = some kept) :
    rules.run (some lease) events = some kept := by
  induction events generalizing lease with
  | nil => exact never
  | cons event events ih =>
      rw [keep_cons] at never
      rcases Option.bind_eq_some_iff.mp never with ⟨changed, survived, rest⟩
      rw [run, List.foldl_cons]
      change rules.run (rules.change lease event) events = some kept
      rw [survived]
      exact ih rest

/-- A lease is held when it was granted to somebody without one and never lost since. -/
theorem run_eq_some_iff {events : List Event} {lease : Lease} :
    rules.run none events = some lease <->
      Exists fun before => Exists fun event => Exists fun after => Exists fun granted =>
        events = before ++ event :: after ∧ rules.run none before = none ∧ rules.grant event = some granted ∧
          rules.keep granted after = some lease := by
  constructor
  · intro held
    induction events using List.reverseRecOn generalizing lease with
    | nil => cases held
    | append_singleton events last ih =>
        rw [run_concat] at held
        cases earlier : rules.run none events with
        | none =>
            rw [earlier] at held
            exact ⟨events, last, [], lease, rfl, earlier, held, rfl⟩
        | some former =>
            rw [earlier] at held
            rcases ih earlier with ⟨before, event, after, granted, rfl, absent, grants, kept⟩
            refine ⟨before, event, after ++ [last], granted, by simp, absent, grants, ?_⟩
            rw [keep_concat, kept]
            exact held
  · rintro ⟨before, event, after, granted, rfl, absent, grants, kept⟩
    rw [run_append, absent]
    change rules.run (rules.grant event) after = some lease
    rw [grants]
    exact run_of_keep kept

/-- A lease is never lost when no event after it loses what the events before left. -/
theorem keep_isSome_iff {lease : Lease} {events : List Event} :
    (rules.keep lease events).isSome = true <->
      forall before event after, events = before ++ event :: after ->
        forall kept, rules.keep lease before = some kept -> (rules.change kept event).isSome = true := by
  induction events using List.reverseRecOn with
  | nil => simp [keep]
  | append_singleton events last ih =>
      rw [keep_concat]
      constructor
      · intro held before event after split kept survived
        rcases List.eq_nil_or_concat after with rfl | ⟨middle, final, rfl⟩
        · rcases List.append_inj' split rfl with ⟨rfl, same⟩
          cases same
          rw [survived] at held
          exact held
        · rw [List.concat_eq_append, ← List.cons_append, ← List.append_assoc] at split
          rcases List.append_inj' split rfl with ⟨rfl, -⟩
          have earlier : (rules.keep lease (before ++ event :: middle)).isSome = true := by
            cases known : rules.keep lease (before ++ event :: middle) with
            | none => simp [known] at held
            | some _ => rfl
          exact ih.mp earlier before event middle rfl kept survived
      · intro never
        have earlier : (rules.keep lease events).isSome = true := by
          refine ih.mpr fun before event after split => never before event (after ++ [last]) ?_
          simp [split]
        rcases Option.isSome_iff_exists.mp earlier with ⟨kept, survived⟩
        rw [survived]
        exact never events last [] rfl kept survived

end LeaseRules

/-! ## Tables of leases -/

namespace Table

variable {Row Key : Type} {key : Row -> Key} [DecidableEq Key]

theorem find_filter (table : Table key) (keep : Row -> Bool) (wanted : Key) :
    (table.filter keep).find wanted = (table.find wanted).filter keep := by
  cases found : table.find wanted with
  | none =>
      rw [find_eq_none_iff] at found
      exact find_eq_none_iff.mpr fun kept => found (List.filter_sublist.map key |>.subset kept)
  | some row =>
      rcases mem_of_find found with ⟨member, rfl⟩
      by_cases kept : keep row = true
      · rw [Option.filter_some, if_pos kept]
        exact find_of_mem (mem_filter.mpr ⟨member, kept⟩)
      · rw [Option.filter_some, if_neg kept, find_eq_none_iff]
        intro stays
        rcases List.mem_map.mp stays with ⟨other, left, same⟩
        rw [eq_of_key_eq (mem_filter.mp left).1 member same] at left
        exact kept (mem_filter.mp left).2

/-- One row changed, when there is one with the key. -/
def touch (table : Table key) (wanted : Key) (change : Row -> Row) (keeps : forall row, key (change row) = key row) :
    Table key :=
  table.update (fun row => if key row = wanted then change row else row) fun row => by
    by_cases same : key row = wanted
    · rw [if_pos same, keeps]
    · rw [if_neg same]

theorem find_touch (table : Table key) (wanted : Key) (change : Row -> Row)
    (keeps : forall row, key (change row) = key row) (other : Key) :
    (table.touch wanted change keeps).find other =
      if wanted = other then (table.find other).map change else table.find other := by
  rw [touch, find_update]
  cases found : table.find other with
  | none => simp
  | some row =>
      rcases mem_of_find found with ⟨-, rfl⟩
      by_cases same : key row = wanted
      · simp [same]
      · simp [same, Ne.symm same]

/-- A row inserted, or the row with its key changed. -/
def upsert (table : Table key) (row : Row) (change : Row -> Row) (keeps : forall row, key (change row) = key row) :
    Table key :=
  match table.insert row with
  | some after => after
  | none => table.touch (key row) change keeps

theorem find_upsert (table : Table key) (row : Row) (change : Row -> Row)
    (keeps : forall row, key (change row) = key row) (other : Key) :
    (table.upsert row change keeps).find other =
      if key row = other then some ((table.find other).elim row change) else table.find other := by
  unfold upsert
  cases inserted : table.insert row with
  | some after =>
      dsimp only
      rw [find_insert inserted]
      by_cases same : key row = other
      · subst same
        simp [find_eq_none_of_insert inserted]
      · simp [same]
  | none =>
      dsimp only
      rw [find_touch]
      by_cases same : key row = other
      · subst same
        cases found : table.find (key row) with
        | none =>
            rcases exists_insert found with ⟨after, possible⟩
            rw [inserted] at possible
            cases possible
        | some old => simp
      · simp [same]

end Table

end Foundation
end ApexQuant
