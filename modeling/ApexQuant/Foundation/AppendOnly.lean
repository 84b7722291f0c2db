import ApexQuant.Foundation.Table

namespace ApexQuant
namespace Foundation

/-!
# What enters and never leaves

A fact that no step takes back, once it holds, was brought about by one step of the run.
The rows of a table that only grows are such facts.
-/

namespace AppendOnly

variable {State Action : Type} {step : State -> Action -> State}

/-- Something that holds after a run and not before it was brought about by one of its steps. -/
theorem exists_origin (Holds : State -> Prop) {state : State} {actions : List Action} (absent : ¬Holds state)
    (present : Holds (actions.foldl step state)) :
    Exists fun before => Exists fun action => Exists fun after =>
      actions = before ++ action :: after ∧ ¬Holds (before.foldl step state) ∧
        Holds (step (before.foldl step state) action) := by
  induction actions generalizing state with
  | nil => exact absurd present absent
  | cons action actions ih =>
      by_cases now : Holds (step state action)
      · exact ⟨[], action, actions, rfl, absent, now⟩
      · rcases ih now present with ⟨before, action', after, rfl, still, brought⟩
        exact ⟨action :: before, action', after, rfl, still, brought⟩

/-- What every step keeps is kept by every run. -/
theorem keeps_run (Holds : State -> Prop) (keeps : forall state action, Holds state -> Holds (step state action))
    {state : State} (present : Holds state) (actions : List Action) : Holds (actions.foldl step state) := by
  induction actions generalizing state with
  | nil => exact present
  | cons action actions ih => exact ih (keeps state action present)

end AppendOnly

namespace Table

variable {Row Key : Type} {key : Row -> Key} [DecidableEq Key]

/-- The rows of a table are found in one that goes on where it ends. -/
theorem find_of_prefix {table after : Table key} (grows : table.rows <+: after.rows) {wanted : Key} {row : Row}
    (found : table.find wanted = some row) : after.find wanted = some row := by
  rcases mem_of_find found with ⟨member, rfl⟩
  exact find_of_mem (grows.subset member)

/-- A row that a longer table has under a free key is among the new ones. -/
theorem mem_of_find_append {table after : Table key} {added : List Row} (rows : after.rows = table.rows ++ added)
    {wanted : Key} {row : Row} (absent : table.find wanted = none) (found : after.find wanted = some row) :
    row ∈ added := by
  rcases mem_of_find found with ⟨member, rfl⟩
  have listed : row ∈ table.rows ++ added := rows ▸ member
  rcases List.mem_append.mp listed with old | new
  · have known : table.find (key row) = some row := find_of_mem old
    rw [absent] at known
    cases known
  · exact new

end Table
end Foundation
end ApexQuant
