import Mathlib.Init

namespace ApexQuant
namespace Foundation

/-!
# Runs of a step function

A system is a function from a state and an action to the next state; what the
environment decides is part of the action.  A run is a list of actions, and the
state it reaches is a left fold.  `Guarded` says that every action of a run meets
a condition on the state it is taken in.

A step may also be refused.  A loop of such steps is `List.foldlM` over `Except`,
and ends at the first refusal.
-/

namespace Run

variable {State Action : Type*} (step : State -> Action -> State)

/-- Every action meets the condition in the state that it is taken in. -/
def Guarded (condition : State -> Action -> Prop) : State -> List Action -> Prop
  | _, [] => True
  | state, action :: actions => condition state action ∧ Guarded condition (step state action) actions

instance Guarded.decidable (condition : State -> Action -> Prop)
    [forall state action, Decidable (condition state action)] :
    forall state actions, Decidable (Guarded step condition state actions)
  | _, [] => isTrue trivial
  | state, action :: actions =>
      haveI := Guarded.decidable condition (step state action) actions
      inferInstanceAs (Decidable (condition state action ∧ Guarded step condition (step state action) actions))

theorem guarded_append (condition : State -> Action -> Prop) (state : State) (actions later : List Action) :
    Guarded step condition state (actions ++ later) <->
      Guarded step condition state actions ∧ Guarded step condition (actions.foldl step state) later := by
  induction actions generalizing state with
  | nil => exact ⟨fun guarded => ⟨trivial, guarded⟩, fun guarded => guarded.2⟩
  | cons action actions inductionHypothesis =>
      rw [List.cons_append, Guarded, Guarded, inductionHypothesis, and_assoc, List.foldl_cons]

theorem guarded_concat (condition : State -> Action -> Prop) (state : State) (actions : List Action)
    (last : Action) :
    Guarded step condition state (actions ++ [last]) <->
      Guarded step condition state actions ∧ condition (actions.foldl step state) last := by
  rw [guarded_append, Guarded, Guarded, and_true]

theorem guarded_of_mem {condition : State -> Action -> Prop} {actions : List Action}
    (holds : forall action, action ∈ actions -> forall state, condition state action) (state : State) :
    Guarded step condition state actions := by
  induction actions generalizing state with
  | nil => exact trivial
  | cons action actions inductionHypothesis =>
      refine ⟨holds action List.mem_cons_self state, inductionHypothesis ?_ _⟩
      exact fun later member => holds later (List.mem_cons_of_mem _ member)

/-- What every step keeps holds along every run. -/
theorem invariant {Inv : State -> Prop} (keeps : forall state action, Inv state -> Inv (step state action))
    {state : State} (initially : Inv state) (actions : List Action) : Inv (actions.foldl step state) := by
  induction actions generalizing state with
  | nil => exact initially
  | cons action actions inductionHypothesis => exact inductionHypothesis (keeps state action initially)

/-- What every step that meets the condition keeps holds along every guarded run. -/
theorem Guarded.invariant {step : State -> Action -> State} {condition : State -> Action -> Prop} {Inv : State -> Prop}
    (keeps : forall state action, Inv state -> condition state action -> Inv (step state action))
    {state : State} {actions : List Action} (guarded : Guarded step condition state actions) (initially : Inv state) :
    Inv (actions.foldl step state) := by
  induction actions generalizing state with
  | nil => exact initially
  | cons action actions inductionHypothesis =>
      exact inductionHypothesis guarded.2 (keeps state action initially guarded.1)

/-- What a step keeps exactly when it meets the condition holds all along a run exactly
when the run is guarded. -/
theorem guarded_iff_of_step {step : State -> Action -> State} {condition : State -> Action -> Prop} {Inv : State -> Prop}
    (exactly : forall state action, Inv state -> (Inv (step state action) <-> condition state action))
    {state : State} (initially : Inv state) (actions : List Action) :
    Guarded step condition state actions <-> forall earlier, earlier <+: actions -> Inv (earlier.foldl step state) := by
  constructor
  · rintro guarded earlier ⟨later, rfl⟩
    rw [guarded_append] at guarded
    exact guarded.1.invariant (fun state action kept met => (exactly state action kept).2 met) initially
  · intro always
    induction actions generalizing state with
    | nil => exact trivial
    | cons action actions inductionHypothesis =>
        have kept : Inv (step state action) := always [action] ⟨actions, rfl⟩
        refine ⟨(exactly state action initially).1 kept, inductionHypothesis kept fun earlier before => ?_⟩
        exact always (action :: earlier) (List.cons_prefix_cons.2 ⟨rfl, before⟩)

/-- Two systems that take every step of a guarded run alike. -/
theorem Guarded.foldl_congr {step step' : State -> Action -> State} {condition : State -> Action -> Prop}
    (same : forall state action, condition state action -> step state action = step' state action) {state : State}
    {actions : List Action} (guarded : Guarded step condition state actions) :
    actions.foldl step state = actions.foldl step' state := by
  induction actions generalizing state with
  | nil => rfl
  | cons action actions inductionHypothesis =>
      rw [List.foldl_cons, List.foldl_cons, ← same state action guarded.1]
      exact inductionHypothesis guarded.2

/-! ## Steps that can be refused -/

/-- A program of two checked parts returns only when both do. -/
theorem ok_of_bind {Error A B : Type} {first : Except Error A} {rest : A -> Except Error B} {answer : B}
    (returned : (first >>= rest) = .ok answer) :
    Exists fun middle => first = .ok middle ∧ rest middle = .ok answer := by
  cases first with
  | error error => exact absurd returned nofun
  | ok middle => exact ⟨middle, rfl, returned⟩

theorem ok_of_bind_run {Error State A B : Type} {first : EStateM Error State A} {rest : A -> EStateM Error State B}
    {before after : State} {answer : B} (returned : (first >>= rest) before = .ok answer after) :
    Exists fun middle => Exists fun between =>
      first before = .ok middle between ∧ rest middle between = .ok answer after := by
  change EStateM.bind first rest before = .ok answer after at returned
  unfold EStateM.bind at returned
  cases ran : first before with
  | error error between =>
      rw [ran] at returned
      exact absurd returned nofun
  | ok middle between =>
      rw [ran] at returned
      exact ⟨middle, between, rfl, returned⟩

theorem bind_run_of_ok {Error State A B : Type} {first : EStateM Error State A} {rest : A -> EStateM Error State B}
    {before between : State} {middle : A} (ran : first before = .ok middle between) :
    (first >>= rest) before = rest middle between := by
  change EStateM.bind first rest before = rest middle between
  unfold EStateM.bind
  rw [ran]

theorem exists_of_map_eq_ok {Error A B : Type} {answer : Except Error A} {f : A -> B} {value : B}
    (mapped : answer.map f = .ok value) : Exists fun read => answer = .ok read ∧ f read = value := by
  cases answer with
  | error error => exact absurd mapped nofun
  | ok read => exact ⟨read, rfl, Except.ok.inj mapped⟩

theorem ok_of_toOption {Error A : Type} {answer : Except Error A} {value : A}
    (kept : answer.toOption = some value) : answer = .ok value := by
  cases answer with
  | error error => exact absurd kept nofun
  | ok other => exact congrArg Except.ok (Option.some.inj kept)

/-- A check before a program. -/
theorem check_bind_eq_ok_iff {Error A : Type} {check : Except Error Unit} {rest : Except Error A} {answer : A} :
    (check >>= fun _ => rest) = .ok answer <-> check = .ok () ∧ rest = .ok answer := by
  cases check with
  | error error => exact iff_of_false (fun returned => by cases returned) fun both => by cases both.1
  | ok passed => exact ⟨fun returned => ⟨rfl, returned⟩, fun both => both.2⟩

/-- A loop of checks passes when each of them does. -/
theorem forM_eq_ok_iff {Error Item : Type} {check : Item -> Except Error Unit} {items : List Item} :
    items.forM check = .ok ⟨⟩ <-> forall item, item ∈ items -> check item = .ok ⟨⟩ := by
  induction items with
  | nil => exact iff_of_true rfl fun _ member => absurd member List.not_mem_nil
  | cons item items inductionHypothesis =>
      change (check item >>= fun _ => items.forM check) = .ok ⟨⟩ <-> _
      rw [List.forall_mem_cons, ← inductionHypothesis]
      exact check_bind_eq_ok_iff

/-- A loop that returns has kept what each of its accepted passes keeps. -/
theorem foldlM_invariant {State Error Item : Type} {pass : State -> Item -> Except Error State} {Inv : State -> Prop}
    {items : List Item} (keeps : forall state item after, item ∈ items -> Inv state ->
      pass state item = .ok after -> Inv after)
    {state after : State} (initially : Inv state) (returned : items.foldlM pass state = .ok after) : Inv after := by
  induction items generalizing state with
  | nil =>
      rw [List.foldlM_nil] at returned
      exact Except.ok.inj returned ▸ initially
  | cons item items inductionHypothesis =>
      rw [List.foldlM_cons] at returned
      rcases ok_of_bind returned with ⟨middle, passed, rest⟩
      have kept := keeps state item middle List.mem_cons_self initially passed
      exact inductionHypothesis (fun state other after member => keeps state other after (List.mem_cons_of_mem _ member))
        kept rest

/-- A traversal that returns has read every item. -/
theorem eq_filterMap_of_mapM {Error Item Value : Type} {read : Item -> Except Error Value} {items : List Item}
    {values : List Value} (returned : items.mapM read = .ok values) :
    values = items.filterMap fun item => (read item).toOption := by
  induction items generalizing values with
  | nil =>
      rw [List.mapM_nil] at returned
      exact (Except.ok.inj returned).symm
  | cons item items inductionHypothesis =>
      rw [List.mapM_cons] at returned
      rcases ok_of_bind returned with ⟨value, first, rest⟩
      rcases ok_of_bind rest with ⟨others, later, listed⟩
      rw [← Except.ok.inj listed, inductionHypothesis later, List.filterMap_cons, first]
      rfl

/-- A loop that reads every item returns exactly where each item can be read. -/
theorem mapM_returns_iff {Error Item Value : Type} {read : Item -> Except Error Value} {items : List Item} :
    (Exists fun values => items.mapM read = .ok values) <->
      forall item, item ∈ items -> Exists fun value => read item = .ok value := by
  constructor
  · rintro ⟨values, returned⟩ item member
    induction items generalizing values with
    | nil => exact absurd member List.not_mem_nil
    | cons first rest inductionHypothesis =>
        rw [List.mapM_cons] at returned
        rcases ok_of_bind returned with ⟨value, readFirst, returned⟩
        rcases ok_of_bind returned with ⟨others, later, _⟩
        rcases List.mem_cons.mp member with rfl | inside
        · exact ⟨value, readFirst⟩
        · exact inductionHypothesis others later inside
  · intro each
    induction items with
    | nil => exact ⟨[], rfl⟩
    | cons first rest inductionHypothesis =>
        rcases each first List.mem_cons_self with ⟨value, readFirst⟩
        rcases inductionHypothesis fun item member => each item (List.mem_cons_of_mem _ member) with ⟨values, later⟩
        refine ⟨value :: values, ?_⟩
        rw [List.mapM_cons, readFirst, later]
        rfl

end Run
end Foundation
end ApexQuant
