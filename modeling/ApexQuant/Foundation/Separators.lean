import Mathlib.Data.List.Basic

namespace ApexQuant
namespace Foundation

/-!
# Words joined with a separator

An identifier is often the concatenation of its parts with a separator between them.
When the parts may hold the separator themselves, one text can be read in several ways.
For three parts that are not empty the theorem says which readings are the only ones:
the separator stands nowhere in the first part but at its beginning, nowhere in the last
but at its end, and in the middle only when it is all of it.
-/

namespace Separated

variable {Symbol : Type} {separator : Symbol}

/-- Two readings of one text as two parts are the same, or one of them splits a part of
the other. -/
theorem split_cases {left right left' right' : List Symbol}
    (same : left ++ separator :: right = left' ++ separator :: right') :
    (left = left' ∧ right = right') ∨
      (Exists fun between => left = left' ++ separator :: between ∧ right' = between ++ separator :: right) ∨
      (Exists fun between => left' = left ++ separator :: between ∧ right = between ++ separator :: right') := by
  have apart : forall {gap rest rest' : List Symbol}, separator :: rest = gap ++ separator :: rest' -> gap ≠ [] ->
      Exists fun between => gap = separator :: between ∧ rest = between ++ separator :: rest' := by
    intro gap rest rest' split nonempty
    cases gap with
    | nil => exact absurd rfl nonempty
    | cons first between =>
        rcases List.cons.inj split with ⟨rfl, later⟩
        exact ⟨between, rfl, later⟩
  rcases List.append_eq_append_iff.mp same with ⟨gap, longer, split⟩ | ⟨gap, longer, split⟩
  · rcases List.eq_nil_or_concat gap with empty | nonempty
    · rw [empty, List.nil_append] at split
      rw [empty, List.append_nil] at longer
      exact Or.inl ⟨longer.symm, (List.cons.inj split).2⟩
    · rcases apart split (by rcases nonempty with ⟨initial, last, rfl⟩; simp) with ⟨between, rfl, rest⟩
      exact Or.inr (Or.inr ⟨between, longer, rest⟩)
  · rcases List.eq_nil_or_concat gap with empty | nonempty
    · rw [empty, List.nil_append] at split
      rw [empty, List.append_nil] at longer
      exact Or.inl ⟨longer, (List.cons.inj split).2.symm⟩
    · rcases apart split (by rcases nonempty with ⟨initial, last, rfl⟩; simp) with ⟨between, rfl, rest⟩
      exact Or.inr (Or.inl ⟨between, longer, rest⟩)

/-- The three parts with separators between them. -/
def joined (separator : Symbol) (first middle last : List Symbol) : List Symbol :=
  first ++ separator :: (middle ++ separator :: last)

/-- The parts can be read off their text. -/
structure Unambiguous (separator : Symbol) (first middle last : List Symbol) : Prop where
  first : separator ∉ first.tail
  middle : separator ∈ middle -> middle = [separator]
  last : separator ∉ last.dropLast

instance [DecidableEq Symbol] (separator : Symbol) (first middle last : List Symbol) :
    Decidable (Unambiguous separator first middle last) :=
  decidable_of_iff
    (separator ∉ first.tail ∧ (separator ∈ middle -> middle = [separator]) ∧ separator ∉ last.dropLast)
    ⟨fun holds => ⟨holds.1, holds.2.1, holds.2.2⟩, fun unambiguous => ⟨unambiguous.first, unambiguous.middle,
      unambiguous.last⟩⟩

theorem mem_tail_of_split {before after : List Symbol} (nonempty : before ≠ []) :
    separator ∈ (before ++ separator :: after).tail := by
  cases before with
  | nil => exact absurd rfl nonempty
  | cons first rest => exact List.mem_append_right rest List.mem_cons_self

theorem mem_dropLast_of_split {before after : List Symbol} (nonempty : after ≠ []) :
    separator ∈ (before ++ separator :: after).dropLast := by
  rw [List.dropLast_append_of_ne_nil (List.cons_ne_nil _ _), List.dropLast_cons_of_ne_nil nonempty]
  exact List.mem_append_right before List.mem_cons_self

/-- The only reading of its text. -/
theorem Unambiguous.eq {first middle last first' middle' last' : List Symbol}
    (unambiguous : Unambiguous separator first middle last) (nonempty : first' ≠ []) (nonempty' : middle' ≠ [])
    (nonempty'' : last' ≠ []) (same : joined separator first middle last = joined separator first' middle' last') :
    first = first' ∧ middle = middle' ∧ last = last' := by
  have inLast : forall between, last ≠ between ++ separator :: last' := by
    rintro between rfl
    exact unambiguous.last (mem_dropLast_of_split nonempty'')
  have inMiddle : forall before after, before ≠ [] ∨ after ≠ [] -> middle ≠ before ++ separator :: after := by
    rintro before after nonempty rfl
    have only := congrArg List.length (unambiguous.middle (List.mem_append_right before List.mem_cons_self))
    rw [List.length_append, List.length_cons, List.length_singleton] at only
    rcases nonempty with nonempty | nonempty
    · exact nonempty (List.eq_nil_of_length_eq_zero (by omega))
    · exact nonempty (List.eq_nil_of_length_eq_zero (by omega))
  rcases split_cases same with ⟨rfl, rest⟩ | ⟨between, rfl, -⟩ | ⟨between, -, rest⟩
  · rcases split_cases rest with ⟨rfl, rfl⟩ | ⟨between, inside, -⟩ | ⟨between, -, inside⟩
    · exact ⟨rfl, rfl, rfl⟩
    · exact absurd inside (inMiddle _ _ (Or.inl nonempty'))
    · exact absurd inside (inLast _)
  · exact absurd (mem_tail_of_split nonempty) unambiguous.first
  · -- The other reading begins later: its first separator stands in the middle part or beyond.
    have regrouped : between ++ separator :: (middle' ++ separator :: last') =
        (between ++ separator :: middle') ++ separator :: last' := by
      rw [List.append_assoc, List.cons_append]
    rcases split_cases (rest.trans regrouped) with ⟨inside, -⟩ | ⟨more, inside, -⟩ | ⟨more, -, inside⟩
    · exact absurd inside (inMiddle _ _ (Or.inr nonempty'))
    · rw [List.append_assoc, List.cons_append] at inside
      exact absurd inside (inMiddle _ _ (Or.inr (List.append_ne_nil_of_left_ne_nil nonempty' _)))
    · exact absurd inside (inLast _)

/-- A text with more than one reading. -/
theorem exists_other_of_not_unambiguous {first middle last : List Symbol} (nonempty : first ≠ [])
    (nonempty' : middle ≠ []) (nonempty'' : last ≠ []) (ambiguous : ¬Unambiguous separator first middle last) :
    Exists fun first' => Exists fun middle' => Exists fun last' => (first' ≠ [] ∧ middle' ≠ [] ∧ last' ≠ []) ∧
      joined separator first' middle' last' = joined separator first middle last ∧
      ¬(first' = first ∧ middle' = middle ∧ last' = last) := by
  have longer : forall {before after : List Symbol}, before ++ separator :: after ≠ before := by
    intro before after same
    exact absurd (congrArg List.length same) (by rw [List.length_append, List.length_cons]; omega)
  by_cases inFirst : separator ∈ first.tail
  · cases first with
    | nil => exact absurd rfl nonempty
    | cons opening rest =>
        rcases List.append_of_mem inFirst with ⟨before, after, rfl⟩
        refine ⟨opening :: before, after ++ separator :: middle, last, ⟨nofun, by simp, nonempty''⟩, ?_, ?_⟩
        · simp [joined]
        · rintro ⟨same, -, -⟩
          exact longer (List.cons.inj same).2.symm
  · by_cases inLast : separator ∈ last.dropLast
    · rcases List.eq_nil_or_concat' last with empty | ⟨initial, final, rfl⟩
      · exact absurd empty nonempty''
      · rw [List.dropLast_concat] at inLast
        rcases List.append_of_mem inLast with ⟨before, after, rfl⟩
        refine ⟨first, middle ++ separator :: before, after ++ [final], ⟨nonempty, by simp, by simp⟩, ?_, ?_⟩
        · simp [joined]
        · rintro ⟨-, same, -⟩
          exact longer same
    · have inMiddle : ¬(separator ∈ middle -> middle = [separator]) := fun only =>
        ambiguous ⟨inFirst, only, inLast⟩
      rw [Classical.not_imp] at inMiddle
      rcases List.append_of_mem inMiddle.1 with ⟨before, after, rfl⟩
      cases before with
      | cons opening rest =>
          refine ⟨first, opening :: rest, after ++ separator :: last, ⟨nonempty, nofun, by simp⟩, ?_, ?_⟩
          · simp [joined]
          · rintro ⟨-, same, -⟩
            exact longer same.symm
      | nil =>
          have more : after ≠ [] := by
            rintro rfl
            exact inMiddle.2 rfl
          refine ⟨first ++ [separator], after, last, ⟨by simp, more, nonempty''⟩, ?_, ?_⟩
          · simp [joined]
          · rintro ⟨same, -, -⟩
            exact longer same

end Separated
end Foundation
end ApexQuant
