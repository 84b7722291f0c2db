import Mathlib.Init

namespace ApexQuant
namespace Foundation

/-!
# Programs whose calls may fail

A program makes calls to the world outside it.  What becomes of a call is not up to
the program: it is served, or it fails, before or after it took effect.  The fates
of a program's calls form a list that the calls consume in their order; a call past
its end is served.

A failure ends the program unless the program handles it.  The handler's calls have
fates like all others.
-/

namespace Faults

/-- What becomes of a call. -/
inductive Fate (Error : Type) where
  | served
  | fails (error : Error) (applied : Bool)

/-- The world, and the fates of the calls to come. -/
structure Outside (Error World : Type) where
  world : World
  fates : List (Fate Error)

/-- The fate of the next call. -/
def Outside.fate {Error World : Type} (outside : Outside Error World) : Fate Error :=
  outside.fates.head?.getD .served

/-- The fate of the call after `earlier` others. -/
def Outside.fateAfter {Error World : Type} (outside : Outside Error World) (earlier : Nat) : Fate Error :=
  (outside.fates.drop earlier).head?.getD .served

/-- The outside with another world, one call later. -/
def Outside.next {Error World : Type} (outside : Outside Error World) (world : World) : Outside Error World where
  world := world
  fates := outside.fates.tail

theorem Outside.fate_next {Error World : Type} (outside : Outside Error World) (world : World) :
    (outside.next world).fate = outside.fateAfter 1 := by
  unfold Outside.fate Outside.fateAfter Outside.next
  rw [List.drop_one]

theorem Outside.fateAfter_next {Error World : Type} (outside : Outside Error World) (world : World) (earlier : Nat) :
    (outside.next world).fateAfter earlier = outside.fateAfter (earlier + 1) := by
  unfold Outside.fateAfter Outside.next
  rw [List.drop_tail]

abbrev Program (Error World A : Type) := EStateM Error (Outside Error World) A

variable {Error World A B : Type}

/-- A call, with what it answers and does when it is served. -/
def call (effect : World -> Except Error A × World) : Program Error World A := fun outside =>
  match outside.fate with
  | .served =>
      match effect outside.world with
      | (.ok answer, world) => .ok answer (outside.next world)
      | (.error error, world) => .error error (outside.next world)
  | .fails error applied => .error error (outside.next (if applied then (effect outside.world).2 else outside.world))

/-- A call that only reads. -/
def ask (answer : World -> A) : Program Error World A :=
  call fun world => (.ok (answer world), world)

/-- A call that is never refused, and answers nothing. -/
def tell (effect : World -> World) : Program Error World Unit :=
  call fun world => (.ok (), effect world)

/-- A look at the world that is not a call. -/
def inspect (answer : World -> Except Error A) : Program Error World A := fun outside =>
  match answer outside.world with
  | .ok answer => .ok answer outside
  | .error error => .error error outside

/-- A change of the world that is not a call. -/
def change (effect : World -> World) : Program Error World Unit := fun outside =>
  .ok () { outside with world := effect outside.world }

/-- A program whose failures are handled. -/
def handle (program : Program Error World A) (handler : Error -> Program Error World A) : Program Error World A :=
  fun outside =>
    match program outside with
    | .ok answer after => .ok answer after
    | .error error after => handler error after

/-- The world that a program leaves, however it ends. -/
def finalWorld (program : Program Error World A) (outside : Outside Error World) : World :=
  match program outside with
  | .ok _ after => after.world
  | .error _ after => after.world

/-! ## Evaluation -/

theorem bind_run (first : Program Error World A) (rest : A -> Program Error World B) (outside : Outside Error World) :
    (first >>= rest) outside =
      match first outside with
      | .ok answer after => rest answer after
      | .error error after => .error error after := by
  change EStateM.bind _ _ _ = _
  unfold EStateM.bind
  cases first outside <;> rfl

theorem ask_bind_run (answer : World -> A) (rest : A -> Program Error World B) (outside : Outside Error World) :
    (ask answer >>= rest) outside =
      match outside.fate with
      | .served => rest (answer outside.world) (outside.next outside.world)
      | .fails error _ => .error error (outside.next outside.world) := by
  rw [bind_run]
  unfold ask call
  cases outside.fate with
  | served => rfl
  | fails error applied => cases applied <;> rfl

theorem inspect_bind_run (answer : World -> Except Error A) (rest : A -> Program Error World B)
    (outside : Outside Error World) :
    (inspect answer >>= rest) outside =
      match answer outside.world with
      | .ok value => rest value outside
      | .error error => .error error outside := by
  rw [bind_run]
  unfold inspect
  cases answer outside.world <;> rfl

/-- A call that returns has been served. -/
theorem ok_of_call {effect : World -> Except Error A × World} {outside after : Outside Error World} {answer : A}
    (returned : call effect outside = .ok answer after) :
    outside.fate = .served ∧ (effect outside.world).1 = .ok answer ∧ after = outside.next (effect outside.world).2 := by
  unfold call at returned
  cases fate : outside.fate with
  | fails error applied =>
      rw [fate] at returned
      exact absurd returned nofun
  | served =>
      rw [fate] at returned
      cases ran : effect outside.world with
      | mk ended world =>
          rw [ran] at returned
          cases ended with
          | error error => exact absurd returned nofun
          | ok value =>
              cases returned
              exact ⟨rfl, rfl, rfl⟩

theorem ok_of_inspect {answer : World -> Except Error A} {outside after : Outside Error World} {value : A}
    (returned : inspect answer outside = .ok value after) : answer outside.world = .ok value ∧ after = outside := by
  unfold inspect at returned
  cases ran : answer outside.world with
  | error error =>
      rw [ran] at returned
      exact absurd returned nofun
  | ok read =>
      rw [ran] at returned
      cases returned
      exact ⟨rfl, rfl⟩

/-- A call that fails before its effect. -/
theorem error_of_call_lost {effect : World -> Except Error A × World} {outside : Outside Error World} {error : Error}
    (lost : outside.fate = .fails error false) : call effect outside = .error error (outside.next outside.world) := by
  unfold call
  rw [lost]
  rfl

theorem handle_of_error {program : Program Error World A} {handler : Error -> Program Error World A}
    {outside after : Outside Error World} {error : Error} (failed : program outside = .error error after) :
    handle program handler outside = handler error after := by
  unfold handle
  rw [failed]

theorem finalWorld_of_error {program : Program Error World A} {outside after : Outside Error World} {error : Error}
    (failed : program outside = .error error after) : finalWorld program outside = after.world := by
  unfold finalWorld
  rw [failed]

theorem finalWorld_bind_of_error {first : Program Error World A} {rest : A -> Program Error World B}
    {outside after : Outside Error World} {error : Error} (failed : first outside = .error error after) :
    finalWorld (first >>= rest) outside = after.world := by
  apply finalWorld_of_error
  rw [bind_run, failed]

theorem finalWorld_call_bind_lost {effect : World -> Except Error A × World} {rest : A -> Program Error World B}
    {outside : Outside Error World} {error : Error} (lost : outside.fate = .fails error false) :
    finalWorld (call effect >>= rest) outside = outside.world := by
  rw [finalWorld_bind_of_error (error_of_call_lost lost)]
  rfl

/-- A call that is refused fails whatever its fate. -/
theorem finalWorld_call_bind_refused {effect : World -> Except Error A × World} {rest : A -> Program Error World B}
    {outside : Outside Error World}
    (refused : Exists fun error => effect outside.world = (.error error, outside.world)) :
    finalWorld (call effect >>= rest) outside = outside.world := by
  rcases refused with ⟨error, refused⟩
  unfold finalWorld
  rw [bind_run]
  unfold call
  rw [refused]
  cases outside.fate with
  | served => rfl
  | fails failure applied => cases applied <;> rfl

theorem finalWorld_inspect_bind {answer : World -> Except Error A} {rest : A -> Program Error World B}
    {outside : Outside Error World} {value : A} (answers : answer outside.world = .ok value) :
    finalWorld (inspect answer >>= rest) outside = finalWorld (rest value) outside := by
  unfold finalWorld
  rw [inspect_bind_run, answers]

theorem finalWorld_inspect_bind_of_error {answer : World -> Except Error A} {rest : A -> Program Error World B}
    {outside : Outside Error World} {error : Error} (refuses : answer outside.world = .error error) :
    finalWorld (inspect answer >>= rest) outside = outside.world := by
  unfold finalWorld
  rw [inspect_bind_run, refuses]

theorem finalWorld_ite_congr {condition : Prop} {first second first' second' : Program Error World A}
    {outside : Outside Error World} [Decidable condition]
    (whenTrue : condition -> finalWorld first outside = finalWorld first' outside)
    (whenFalse : ¬ condition -> finalWorld second outside = finalWorld second' outside) :
    finalWorld (if condition then first else second) outside =
      finalWorld (if condition then first' else second') outside := by
  by_cases holds : condition
  · rw [if_pos holds, if_pos holds]
    exact whenTrue holds
  · rw [if_neg holds, if_neg holds]
    exact whenFalse holds

/-- Two programs that begin alike and go on to the same world. -/
theorem finalWorld_bind_congr {first first' : Program Error World A} {rest rest' : A -> Program Error World B}
    {outside : Outside Error World} (begins : first outside = first' outside)
    (continues : forall answer after, first outside = .ok answer after ->
      finalWorld (rest answer) after = finalWorld (rest' answer) after) :
    finalWorld (first >>= rest) outside = finalWorld (first' >>= rest') outside := by
  unfold finalWorld
  rw [bind_run, bind_run, ← begins]
  cases ran : first outside with
  | error error after => rfl
  | ok answer after => exact continues answer after ran

theorem finalWorld_bind_pure (program : Program Error World A) (answer : B) (outside : Outside Error World) :
    finalWorld (program >>= fun _ => pure answer) outside = finalWorld program outside := by
  unfold finalWorld
  rw [bind_run]
  cases program outside <;> rfl

/-! ## Triples -/

/-- From an outside that meets the precondition, the program returns in one that
meets the postcondition or fails in one that meets the failure condition. -/
def Triple (pre : Outside Error World -> Prop) (program : Program Error World A)
    (post : A -> Outside Error World -> Prop) (failed : Error -> Outside Error World -> Prop) : Prop :=
  forall outside, pre outside ->
    match program outside with
    | .ok answer after => post answer after
    | .error error after => failed error after

namespace Triple

variable {pre : Outside Error World -> Prop} {post : A -> Outside Error World -> Prop}
variable {failed : Error -> Outside Error World -> Prop}

theorem pure {answer : A} (returns : forall outside, pre outside -> post answer outside) :
    Triple pre (Pure.pure answer) post failed :=
  fun outside holds => returns outside holds

theorem throw {error : Error} (fails : forall outside, pre outside -> failed error outside) :
    Triple pre (MonadExcept.throw error) post failed :=
  fun outside holds => fails outside holds

theorem bind {first : Program Error World A} {rest : A -> Program Error World B}
    {middle : A -> Outside Error World -> Prop} {post : B -> Outside Error World -> Prop}
    (begins : Triple pre first middle failed) (continues : forall answer, Triple (middle answer) (rest answer) post failed) :
    Triple pre (first >>= rest) post failed := by
  intro outside holds
  have opening := begins outside holds
  rw [bind_run]
  cases ran : first outside with
  | ok answer after =>
      rw [ran] at opening
      exact continues answer after opening
  | error error after =>
      rw [ran] at opening
      exact opening

theorem weaken {pre' : Outside Error World -> Prop} {post' : A -> Outside Error World -> Prop}
    {failed' : Error -> Outside Error World -> Prop} {program : Program Error World A}
    (triple : Triple pre' program post' failed') (requires : forall outside, pre outside -> pre' outside)
    (returns : forall answer outside, post' answer outside -> post answer outside)
    (fails : forall error outside, failed' error outside -> failed error outside) :
    Triple pre program post failed := by
  intro outside holds
  have ended := triple outside (requires outside holds)
  cases ran : program outside with
  | ok answer after =>
      rw [ran] at ended
      exact returns answer after ended
  | error error after =>
      rw [ran] at ended
      exact fails error after ended

/-- A call is served, and answered or refused, or it fails before or after it took
effect. -/
theorem call {effect : World -> Except Error A × World}
    (answers : forall outside answer world, pre outside -> outside.fate = .served ->
      effect outside.world = (.ok answer, world) -> post answer (outside.next world))
    (refuses : forall outside error world, pre outside -> outside.fate = .served ->
      effect outside.world = (.error error, world) -> failed error (outside.next world))
    (lost : forall outside error, pre outside -> outside.fate = .fails error false ->
      failed error (outside.next outside.world))
    (interrupted : forall outside error, pre outside -> outside.fate = .fails error true ->
      failed error (outside.next (effect outside.world).2)) : Triple pre (Faults.call effect) post failed := by
  intro outside holds
  unfold Faults.call
  cases fate : outside.fate with
  | served =>
      cases ran : effect outside.world with
      | mk answer world =>
          cases answer with
          | ok answer => exact answers outside answer world holds fate ran
          | error error => exact refuses outside error world holds fate ran
  | fails error applied =>
      cases applied with
      | false => exact lost outside error holds fate
      | true => exact interrupted outside error holds fate

theorem inspect {answer : World -> Except Error A}
    (answers : forall outside value, pre outside -> answer outside.world = .ok value -> post value outside)
    (refuses : forall outside error, pre outside -> answer outside.world = .error error -> failed error outside) :
    Triple pre (Faults.inspect answer) post failed := by
  intro outside holds
  unfold Faults.inspect
  cases ran : answer outside.world with
  | ok value => exact answers outside value holds ran
  | error error => exact refuses outside error holds ran

theorem change {effect : World -> World} {post : Unit -> Outside Error World -> Prop}
    (changes : forall outside, pre outside -> post () { outside with world := effect outside.world }) :
    Triple pre (Faults.change effect) post failed :=
  fun outside holds => changes outside holds

theorem handle {program : Program Error World A} {handler : Error -> Program Error World A}
    {caught : Error -> Outside Error World -> Prop} (body : Triple pre program post caught)
    (handles : forall error, Triple (caught error) (handler error) post failed) :
    Triple pre (Faults.handle program handler) post failed := by
  intro outside holds
  have ended := body outside holds
  unfold Faults.handle
  cases ran : program outside with
  | ok answer after =>
      rw [ran] at ended
      exact ended
  | error error after =>
      rw [ran] at ended
      exact handles error after ended

/-! From a known outside the rules execute a program step by step. -/

theorem inspect_bind {answer : World -> Except Error A} {rest : A -> Program Error World B}
    {post : B -> Outside Error World -> Prop} {outside : Outside Error World}
    (refuses : forall error, answer outside.world = .error error -> failed error outside)
    (continues : forall value, answer outside.world = .ok value ->
      Triple (fun before => before = outside) (rest value) post failed) :
    Triple (fun before => before = outside) (Faults.inspect answer >>= rest) post failed := by
  rintro before rfl
  rw [bind_run]
  unfold Faults.inspect
  cases ran : answer before.world with
  | ok value => exact continues value ran before rfl
  | error error => exact refuses error ran

theorem change_bind {effect : World -> World} {rest : Unit -> Program Error World B}
    {post : B -> Outside Error World -> Prop} {outside : Outside Error World}
    (continues : Triple (fun before => before = { outside with world := effect outside.world }) (rest ()) post failed) :
    Triple (fun before => before = outside) (Faults.change effect >>= rest) post failed := by
  rintro before rfl
  rw [bind_run]
  exact continues _ rfl

theorem call_bind {effect : World -> Except Error A × World} {rest : A -> Program Error World B}
    {post : B -> Outside Error World -> Prop} {outside : Outside Error World}
    (lost : forall error, outside.fate = .fails error false -> failed error (outside.next outside.world))
    (interrupted : forall error, outside.fate = .fails error true ->
      failed error (outside.next (effect outside.world).2))
    (refuses : forall error world, outside.fate = .served -> effect outside.world = (.error error, world) ->
      failed error (outside.next world))
    (continues : forall answer world, outside.fate = .served -> effect outside.world = (.ok answer, world) ->
      Triple (fun before => before = outside.next world) (rest answer) post failed) :
    Triple (fun before => before = outside) (Faults.call effect >>= rest) post failed := by
  rintro before rfl
  rw [bind_run]
  unfold Faults.call
  cases fate : before.fate with
  | served =>
      cases ran : effect before.world with
      | mk answer world =>
          cases answer with
          | ok answer => exact continues answer world fate ran _ rfl
          | error error => exact refuses error world fate ran
  | fails error applied =>
      cases applied with
      | false => exact lost error fate
      | true => exact interrupted error fate

/-- A call that only reads fails in the world that it finds. -/
theorem ask_bind {answer : World -> A} {rest : A -> Program Error World B} {post : B -> Outside Error World -> Prop}
    {outside : Outside Error World}
    (lost : forall error applied, outside.fate = .fails error applied -> failed error (outside.next outside.world))
    (continues : outside.fate = .served ->
      Triple (fun before => before = outside.next outside.world) (rest (answer outside.world)) post failed) :
    Triple (fun before => before = outside) (Faults.ask answer >>= rest) post failed := by
  apply call_bind (fun error fate => lost error false fate) (fun error fate => lost error true fate)
  · intro error world _ ran
    exact absurd (congrArg Prod.fst ran) nofun
  · intro value world fate ran
    cases ran
    exact continues fate

theorem tell_bind {effect : World -> World} {rest : Unit -> Program Error World B}
    {post : B -> Outside Error World -> Prop} {outside : Outside Error World}
    (lost : forall error, outside.fate = .fails error false -> failed error (outside.next outside.world))
    (interrupted : forall error, outside.fate = .fails error true -> failed error (outside.next (effect outside.world)))
    (continues : outside.fate = .served ->
      Triple (fun before => before = outside.next (effect outside.world)) (rest ()) post failed) :
    Triple (fun before => before = outside) (Faults.tell effect >>= rest) post failed := by
  apply call_bind lost interrupted
  · intro error world _ ran
    exact absurd (congrArg Prod.fst ran) nofun
  · intro value world fate ran
    cases ran
    exact continues fate

/-- What a triple says about the world, however the program ends. -/
theorem finalWorld {program : Program Error World A} (triple : Triple pre program post failed) {Inv : World -> Prop}
    (returned : forall answer outside, post answer outside -> Inv outside.world)
    (broken : forall error outside, failed error outside -> Inv outside.world) {outside : Outside Error World}
    (holds : pre outside) : Inv (Faults.finalWorld program outside) := by
  have ended := triple outside holds
  unfold Faults.finalWorld
  cases ran : program outside with
  | ok answer after =>
      rw [ran] at ended
      exact returned answer after ended
  | error error after =>
      rw [ran] at ended
      exact broken error after ended

end Triple

/-! ## What a program keeps -/

/-- The program leaves the property of the world alone, whatever becomes of its
calls. -/
def Maintains (Inv : World -> Prop) (program : Program Error World A) : Prop :=
  Triple (fun outside => Inv outside.world) program (fun _ outside => Inv outside.world)
    (fun _ outside => Inv outside.world)

namespace Maintains

variable {Inv : World -> Prop}

theorem pure (answer : A) : Maintains Inv (Pure.pure answer : Program Error World A) :=
  Triple.pure fun _ holds => holds

theorem throw (error : Error) : Maintains Inv (MonadExcept.throw error : Program Error World A) :=
  Triple.throw fun _ holds => holds

theorem bind {first : Program Error World A} {rest : A -> Program Error World B} (begins : Maintains Inv first)
    (continues : forall answer, Maintains Inv (rest answer)) : Maintains Inv (first >>= rest) :=
  Triple.bind begins continues

/-- The rest of a program may count on what is true of every answer of its beginning. -/
theorem bind_told {first : Program Error World A} {rest : A -> Program Error World B} {told : A -> Prop}
    (begins : Maintains Inv first)
    (tells : forall outside answer after, first outside = .ok answer after -> told answer)
    (continues : forall answer, told answer -> Maintains Inv (rest answer)) : Maintains Inv (first >>= rest) := by
  intro outside holds
  have opening := begins outside holds
  rw [bind_run]
  cases ran : first outside with
  | ok answer after =>
      rw [ran] at opening
      exact continues answer (tells outside answer after ran) after opening
  | error error after =>
      rw [ran] at opening
      exact opening

theorem call {effect : World -> Except Error A × World} (keeps : forall world, Inv world -> Inv (effect world).2) :
    Maintains Inv (Faults.call effect) := by
  have kept : forall (outside : Outside Error World) answer world, Inv outside.world ->
      effect outside.world = (answer, world) -> Inv world := by
    intro outside answer world holds ran
    have after := keeps outside.world holds
    rw [ran] at after
    exact after
  exact Triple.call (fun outside _ world holds _ ran => kept outside _ world holds ran)
    (fun outside _ world holds _ ran => kept outside _ world holds ran) (fun _ _ holds _ => holds)
    (fun outside _ holds _ => keeps outside.world holds)

theorem ask (answer : World -> A) : Maintains Inv (Faults.ask answer : Program Error World A) :=
  Maintains.call fun _ holds => holds

theorem tell {effect : World -> World} (keeps : forall world, Inv world -> Inv (effect world)) :
    Maintains Inv (Faults.tell effect : Program Error World Unit) :=
  Maintains.call keeps

theorem inspect (answer : World -> Except Error A) : Maintains Inv (Faults.inspect answer) :=
  Triple.inspect (fun _ _ holds _ => holds) fun _ _ holds _ => holds

theorem change {effect : World -> World} (keeps : forall world, Inv world -> Inv (effect world)) :
    Maintains Inv (Faults.change effect : Program Error World Unit) :=
  Triple.change fun outside holds => keeps outside.world holds

theorem handle {program : Program Error World A} {handler : Error -> Program Error World A}
    (body : Maintains Inv program) (handles : forall error, Maintains Inv (handler error)) :
    Maintains Inv (Faults.handle program handler) :=
  Triple.handle body handles

theorem ite {condition : Prop} [Decidable condition] {first second : Program Error World A}
    (whenTrue : Maintains Inv first) (whenFalse : Maintains Inv second) :
    Maintains Inv (if condition then first else second) := by
  split
  · exact whenTrue
  · exact whenFalse

/-- A loop keeps what every pass keeps. -/
theorem forM {items : List B} {body : B -> Program Error World PUnit}
    (keeps : forall item, item ∈ items -> Maintains Inv (body item)) : Maintains Inv (ForM.forM items body) := by
  induction items with
  | nil => exact Maintains.pure PUnit.unit
  | cons item items inductionHypothesis =>
      rw [List.forM_cons]
      apply Maintains.bind (keeps item List.mem_cons_self)
      intro _
      exact inductionHypothesis fun other member => keeps other (List.mem_cons_of_mem _ member)

/-- From a known outside the property is one that may be stronger than what is asked. -/
theorem from_known {program : Program Error World A} {Out : World -> Prop} {outside : Outside Error World}
    (maintains : Maintains Inv program) (holds : Inv outside.world) (suffices_ : forall world, Inv world -> Out world) :
    Triple (fun before => before = outside) program (fun _ after => Out after.world) (fun _ after => Out after.world) :=
  Triple.weaken maintains (fun _ same => same ▸ holds) (fun _ after kept => suffices_ after.world kept)
    fun _ after kept => suffices_ after.world kept

theorem finalWorld {program : Program Error World A} (maintains : Maintains Inv program)
    {outside : Outside Error World} (holds : Inv outside.world) : Inv (Faults.finalWorld program outside) :=
  Triple.finalWorld maintains (fun _ _ kept => kept) (fun _ _ kept => kept) holds

end Maintains

/-! ## Calls in a row -/

/-- The outside in which the call after `position` others is the first that fails. -/
def failsAt (world : World) (position : Nat) (error : Error) (applied : Bool) : Outside Error World where
  world := world
  fates := List.replicate position .served ++ [.fails error applied]

/-- The effects one after the other. -/
def inOrder (effects : List (World -> World)) : Program Error World PUnit :=
  ForM.forM effects fun effect => tell effect

theorem tell_bind_served (effect : World -> World) (rest : Unit -> Program Error World A) (world : World) :
    (tell effect >>= rest) { world := world, fates := [] } = rest () { world := effect world, fates := [] } := by
  rw [bind_run]
  rfl

theorem inOrder_served (effects : List (World -> World)) (world : World) :
    inOrder effects { world := world, fates := [] } =
      (.ok () { world := effects.foldl (fun world effect => effect world) world, fates := [] } :
        EStateM.Result Error (Outside Error World) PUnit) := by
  unfold inOrder
  induction effects generalizing world with
  | nil => rfl
  | cons effect effects inductionHypothesis =>
      rw [List.forM_cons, tell_bind_served, inductionHypothesis, List.foldl_cons]

/-- Effects up to the first call that fails, and with it when it is applied. -/
theorem inOrder_failsAt (effects : List (World -> World)) (world : World) (position : Nat) (error : Error)
    (applied : Bool) (inside : position < effects.length) :
    inOrder effects (failsAt world position error applied) =
      .error error
        { world := (effects.take (position + if applied then 1 else 0)).foldl (fun world effect => effect world) world
          fates := [] } := by
  unfold inOrder
  induction position generalizing effects world with
  | zero =>
      cases effects with
      | nil => exact absurd inside (Nat.not_lt_zero _)
      | cons effect effects =>
          rw [List.forM_cons, bind_run]
          cases applied <;> rfl
  | succ position inductionHypothesis =>
      cases effects with
      | nil => exact absurd inside (Nat.not_lt_zero _)
      | cons effect effects =>
          rw [List.forM_cons, bind_run]
          change (ForM.forM effects fun effect => tell effect : Program Error World PUnit)
            (failsAt (effect world) position error applied) = _
          rw [inductionHypothesis effects (effect world) (Nat.lt_of_succ_lt_succ inside), Nat.add_right_comm,
            List.take_succ_cons, List.foldl_cons]

/-- Effects before the first call that fails. -/
theorem inOrder_failsLater (effects : List (World -> World)) (world : World) (position : Nat) (error : Error)
    (applied : Bool) (outside : effects.length ≤ position) :
    inOrder effects (failsAt world position error applied) =
      .ok () (failsAt (effects.foldl (fun world effect => effect world) world) (position - effects.length) error
        applied) := by
  unfold inOrder
  induction effects generalizing world position with
  | nil => rfl
  | cons effect effects inductionHypothesis =>
      cases position with
      | zero => exact absurd outside (Nat.not_succ_le_zero _)
      | succ position =>
          rw [List.forM_cons, bind_run]
          change (ForM.forM effects fun effect => tell effect : Program Error World PUnit)
            (failsAt (effect world) position error applied) = _
          rw [inductionHypothesis (effect world) position (Nat.le_of_succ_le_succ outside), List.foldl_cons,
            List.length_cons, Nat.succ_sub_succ]

end Faults
end Foundation
end ApexQuant
