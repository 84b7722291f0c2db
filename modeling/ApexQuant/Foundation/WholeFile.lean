import Mathlib.Logic.Function.Basic
import Mathlib.Data.List.TakeWhile
import ApexQuant.Foundation.Runs

namespace ApexQuant
namespace Foundation

/-!
# Rewriting a file as a whole

Two writers share a file.  Each loads it, modifies the copy that it has in memory,
writes the copy to a temporary file, which they share as well, and moves the
temporary file over the file.  Their steps interleave freely.

When both get to their end, either the one that began had finished before the other
loaded the file, and the file holds both modifications; or both have modified what
was there at the start, and the file holds one of the two.
-/

inductive Writer where
  | first
  | second
  deriving DecidableEq, Repr

def Writer.other : Writer -> Writer
  | .first => .second
  | .second => .first

theorem Writer.other_ne (writer : Writer) : writer.other ≠ writer := by
  cases writer <;> exact nofun

theorem Writer.eq_other_of_ne {writer another : Writer} (apart : another ≠ writer) : another = writer.other := by
  cases writer <;> cases another <;> first | rfl | exact absurd rfl apart

theorem Writer.eq_of_ne_other {writer another : Writer} (apart : another ≠ writer.other) : another = writer := by
  cases writer <;> cases another <;> first | rfl | exact absurd rfl apart

/-- What each writer does to the content, and how the content is stored. -/
structure WholeFile (Content Document Answer : Type) where
  load : Document -> Option Content
  modify : Writer -> Content -> Option (Answer × Content)
  save : Writer -> Content -> Document

namespace WholeFile

variable {Content Document Answer : Type}

/-- Where a writer stands. -/
inductive Stage (Content Answer : Type) where
  | ready
  | loaded (content : Content)
  | modified (answer : Answer) (content : Content)
  | staged (answer : Answer)
  | exited (answer : Answer)
  | failed
  deriving DecidableEq

structure Desk (Content Document Answer : Type) where
  file : Option Document
  temporary : Option Document
  stage : Writer -> Stage Content Answer

/-- Before either writer has begun. -/
def Desk.start (file temporary : Option Document) : Desk Content Document Answer where
  file := file
  temporary := temporary
  stage := fun _ => .ready

def Desk.advance (desk : Desk Content Document Answer) (writer : Writer) (stage : Stage Content Answer) :
    Desk Content Document Answer :=
  { desk with stage := Function.update desk.stage writer stage }

variable (scheme : WholeFile Content Document Answer)

def afterLoad (file : Option Document) : Stage Content Answer :=
  match file.bind scheme.load with
  | some content => .loaded content
  | none => .failed

def afterModify (writer : Writer) (content : Content) : Stage Content Answer :=
  match scheme.modify writer content with
  | some (answer, content) => .modified answer content
  | none => .failed

/-- One step of one writer.  A move fails when the other writer has moved the
temporary file away. -/
def step (desk : Desk Content Document Answer) (writer : Writer) : Desk Content Document Answer :=
  match desk.stage writer with
  | .ready => desk.advance writer (scheme.afterLoad desk.file)
  | .loaded content => desk.advance writer (scheme.afterModify writer content)
  | .modified answer content =>
      { desk.advance writer (.staged answer) with temporary := some (scheme.save writer content) }
  | .staged answer =>
      match desk.temporary with
      | some document => { desk.advance writer (.exited answer) with file := some document, temporary := none }
      | none => desk.advance writer .failed
  | .exited _ => desk
  | .failed => desk

/-- The desk after a schedule. -/
def run (file temporary : Option Document) (schedule : List Writer) : Desk Content Document Answer :=
  schedule.foldl scheme.step (Desk.start file temporary)

/-- The writer that begins has taken its four steps before the other takes one. -/
def TakesTurns : List Writer -> Prop
  | [] => True
  | writer :: later => 3 ≤ (later.takeWhile fun next => decide (next = writer)).length

instance TakesTurns.decidable : forall schedule, Decidable (TakesTurns schedule)
  | [] => isTrue trivial
  | _ :: _ => Nat.decLe _ _

section Steps

variable {scheme} {desk : Desk Content Document Answer} {writer : Writer}

theorem stage_advance (desk : Desk Content Document Answer) (writer : Writer) (stage : Stage Content Answer) :
    (desk.advance writer stage).stage writer = stage := by
  simp only [Desk.advance, Function.update_self]

theorem stage_advance_of_ne (desk : Desk Content Document Answer) {another : Writer} (apart : another ≠ writer)
    (stage : Stage Content Answer) :
    (desk.advance writer stage).stage another = desk.stage another := by
  simp only [Desk.advance, Function.update_of_ne apart]

theorem step_ready (held : desk.stage writer = .ready) :
    scheme.step desk writer = desk.advance writer (scheme.afterLoad desk.file) := by
  rw [step, held]

theorem step_loaded {content : Content} (held : desk.stage writer = .loaded content) :
    scheme.step desk writer = desk.advance writer (scheme.afterModify writer content) := by
  rw [step, held]

theorem step_modified {answer : Answer} {content : Content} (held : desk.stage writer = .modified answer content) :
    scheme.step desk writer =
      { desk.advance writer (.staged answer) with temporary := some (scheme.save writer content) } := by
  rw [step, held]

theorem step_staged {answer : Answer} {document : Document} (held : desk.stage writer = .staged answer)
    (there : desk.temporary = some document) :
    scheme.step desk writer =
      { desk.advance writer (.exited answer) with file := some document, temporary := none } := by
  rw [step, held]
  dsimp only
  rw [there]

theorem step_staged_of_none {answer : Answer} (held : desk.stage writer = .staged answer)
    (gone : desk.temporary = none) : scheme.step desk writer = desk.advance writer .failed := by
  rw [step, held]
  dsimp only
  rw [gone]

theorem step_exited {answer : Answer} (held : desk.stage writer = .exited answer) :
    scheme.step desk writer = desk := by
  rw [step, held]

theorem step_failed (held : desk.stage writer = .failed) : scheme.step desk writer = desk := by
  rw [step, held]

/-- A step moves nobody else. -/
theorem stage_step_of_ne {another : Writer} (apart : another ≠ writer) :
    (scheme.step desk writer).stage another = desk.stage another := by
  unfold step
  split
  · exact stage_advance_of_ne desk apart _
  · exact stage_advance_of_ne desk apart _
  · exact stage_advance_of_ne desk apart _
  · split
    · exact stage_advance_of_ne desk apart _
    · exact stage_advance_of_ne desk apart _
  · rfl
  · rfl

end Steps

/-! ## Where a writer stands that has loaded a content -/

/-- What the stage of a writer says when the writer loaded this content. -/
def Derived (writer : Writer) (content : Content) : Stage Content Answer -> Prop
  | .ready => False
  | .loaded held => held = content
  | .modified answer after => scheme.modify writer content = some (answer, after)
  | .staged answer => Exists fun after => scheme.modify writer content = some (answer, after)
  | .exited answer => Exists fun after => scheme.modify writer content = some (answer, after)
  | .failed => True

theorem derived_afterModify {writer : Writer} {content : Content} :
    scheme.Derived writer content (scheme.afterModify writer content) := by
  cases modified : scheme.modify writer content with
  | none =>
      rw [afterModify, modified]
      trivial
  | some changed =>
      rw [afterModify, modified]
      exact modified

/-! ## Both have loaded what was there at the start -/

/-- A copy that a writer makes of a modification of the content. -/
def Written (content : Content) (document : Document) : Prop :=
  Exists fun writer => Exists fun answer => Exists fun after =>
    scheme.modify writer content = some (answer, after) ∧ scheme.save writer after = document

/-- Nobody has loaded anything but the content. -/
structure Overlap (content : Content) (desk : Desk Content Document Answer) : Prop where
  derived : forall writer, scheme.Derived writer content (desk.stage writer)
  temporary : forall writer answer, desk.stage writer = .staged answer ∨ desk.stage writer = .exited answer ->
    forall document, desk.temporary = some document -> scheme.Written content document
  file : forall writer answer, desk.stage writer = .exited answer ->
    Exists fun document => desk.file = some document ∧ scheme.Written content document

section Overlap

variable {scheme} {content : Content} {desk : Desk Content Document Answer}

/-- A writer that moves on without staging or exiting leaves the rest as it is. -/
theorem Overlap.advance (overlap : scheme.Overlap content desk) {writer : Writer} {stage : Stage Content Answer}
    (derived : scheme.Derived writer content stage) (unstaged : forall answer, stage ≠ .staged answer)
    (running : forall answer, stage ≠ .exited answer) : scheme.Overlap content (desk.advance writer stage) where
  derived := by
    intro another
    by_cases same : another = writer
    · rw [same, stage_advance]
      exact derived
    · rw [stage_advance_of_ne desk same]
      exact overlap.derived another
  temporary := by
    intro another answer past
    by_cases same : another = writer
    · rw [same, stage_advance] at past
      exact past.elim (fun staged => absurd staged (unstaged answer)) fun exited => absurd exited (running answer)
    · rw [stage_advance_of_ne desk same] at past
      exact overlap.temporary another answer past
  file := by
    intro another answer exited
    by_cases same : another = writer
    · rw [same, stage_advance] at exited
      exact absurd exited (running answer)
    · rw [stage_advance_of_ne desk same] at exited
      exact overlap.file another answer exited

theorem Overlap.stage (overlap : scheme.Overlap content desk) {writer : Writer} {answer : Answer} {after : Content}
    (modified : scheme.modify writer content = some (answer, after)) :
    scheme.Overlap content
      { desk.advance writer (.staged answer) with temporary := some (scheme.save writer after) } where
  derived := by
    intro another
    by_cases same : another = writer
    · rw [same]
      exact (stage_advance desk _ _).symm ▸ ⟨after, modified⟩
    · exact (stage_advance_of_ne desk same _).symm ▸ overlap.derived another
  temporary := by
    intro _ _ _ document saved
    exact ⟨writer, answer, after, modified, Option.some.inj saved⟩
  file := by
    intro another answer' exited
    by_cases same : another = writer
    · rw [same] at exited
      exact absurd ((stage_advance desk _ _).symm.trans exited) nofun
    · exact overlap.file another answer' ((stage_advance_of_ne desk same _).symm.trans exited)

theorem Overlap.move (overlap : scheme.Overlap content desk) {writer : Writer} {answer : Answer} {document : Document}
    (held : desk.stage writer = .staged answer) (there : desk.temporary = some document) :
    scheme.Overlap content
      { desk.advance writer (.exited answer) with file := some document, temporary := none } where
  derived := by
    intro another
    by_cases same : another = writer
    · rw [same]
      have derived := overlap.derived writer
      rw [held] at derived
      exact (stage_advance desk _ _).symm ▸ derived
    · exact (stage_advance_of_ne desk same _).symm ▸ overlap.derived another
  temporary := fun _ _ _ _ gone => absurd gone nofun
  file := fun _ _ _ => ⟨document, rfl, overlap.temporary writer answer (Or.inl held) document there⟩

theorem Overlap.step (overlap : scheme.Overlap content desk) (writer : Writer) :
    scheme.Overlap content (scheme.step desk writer) := by
  have derived := overlap.derived writer
  cases held : desk.stage writer with
  | ready =>
      rw [held] at derived
      exact absurd derived id
  | loaded before =>
      rw [held] at derived
      have same : before = content := derived
      rw [step_loaded held, same]
      apply overlap.advance (derived_afterModify scheme)
      · intro answer
        unfold afterModify
        split <;> exact nofun
      · intro answer
        unfold afterModify
        split <;> exact nofun
  | modified answer after =>
      rw [held] at derived
      rw [step_modified held]
      exact overlap.stage derived
  | staged answer =>
      cases there : desk.temporary with
      | none =>
          rw [step_staged_of_none held there]
          exact overlap.advance trivial (fun _ => nofun) fun _ => nofun
      | some document =>
          rw [step_staged held there]
          exact overlap.move held there
  | exited answer => rwa [step_exited held]
  | failed => rwa [step_failed held]

end Overlap

/-! ## One has finished before the other loads -/

/-- What the stage of a writer says when everything it does starts from what the
other has saved. -/
def Follows (leader : Writer) (saved : Content) (file temporary : Option Document) : Stage Content Answer -> Prop
  | .ready => file = some (scheme.save leader saved)
  | .loaded held => held = saved
  | .modified answer after => scheme.modify leader.other saved = some (answer, after)
  | .staged answer => Exists fun after =>
      scheme.modify leader.other saved = some (answer, after) ∧ temporary = some (scheme.save leader.other after)
  | .exited answer => Exists fun after =>
      scheme.modify leader.other saved = some (answer, after) ∧ file = some (scheme.save leader.other after)
  | .failed => True

structure Handover (leader : Writer) (answer : Answer) (saved : Content) (desk : Desk Content Document Answer) :
    Prop where
  led : desk.stage leader = .exited answer
  follows : scheme.Follows leader saved desk.file desk.temporary (desk.stage leader.other)

section Handover

variable {scheme} {leader : Writer} {answer : Answer} {saved : Content} {desk : Desk Content Document Answer}

theorem follows_afterModify (file temporary : Option Document) :
    scheme.Follows leader saved file temporary (scheme.afterModify leader.other saved) := by
  cases modified : scheme.modify leader.other saved with
  | none =>
      rw [afterModify, modified]
      trivial
  | some changed =>
      rw [afterModify, modified]
      exact modified

theorem Handover.follows_step (handover : scheme.Handover leader answer saved desk)
    (load_save : forall writer content, scheme.load (scheme.save writer content) = some content) :
    scheme.Follows leader saved (scheme.step desk leader.other).file (scheme.step desk leader.other).temporary
      ((scheme.step desk leader.other).stage leader.other) := by
  have follows := handover.follows
  cases held : desk.stage leader.other with
  | ready =>
      rw [held] at follows
      have there : desk.file = some (scheme.save leader saved) := follows
      rw [step_ready held, stage_advance, afterLoad, there, Option.bind_some, load_save]
      rfl
  | loaded before =>
      rw [held] at follows
      have same : before = saved := follows
      rw [step_loaded held, stage_advance, same]
      exact follows_afterModify _ _
  | modified value after =>
      rw [held] at follows
      rw [step_modified held]
      exact (stage_advance desk _ _).symm ▸ ⟨after, follows, rfl⟩
  | staged value =>
      rw [held] at follows
      rcases follows with ⟨after, modified, there⟩
      rw [step_staged held there]
      exact (stage_advance desk _ _).symm ▸ ⟨after, modified, rfl⟩
  | exited value => rwa [step_exited held]
  | failed => rwa [step_failed held]

theorem Handover.step (handover : scheme.Handover leader answer saved desk)
    (load_save : forall writer content, scheme.load (scheme.save writer content) = some content) (writer : Writer) :
    scheme.Handover leader answer saved (scheme.step desk writer) := by
  by_cases same : writer = leader
  · rwa [same, step_exited handover.led]
  · rw [Writer.eq_other_of_ne same]
    exact ⟨(stage_step_of_ne leader.other_ne.symm).trans handover.led, handover.follows_step load_save⟩

end Handover

/-! ## The writer that begins -/

/-- What the stage of a writer says after so many steps on its own. -/
def Leads (leader : Writer) (content : Content) (origin : Option Document) (count : Nat)
    (file temporary : Option Document) : Stage Content Answer -> Prop
  | .ready => count = 0 ∧ file = origin
  | .loaded held => count = 1 ∧ file = origin ∧ held = content
  | .modified answer after => count = 2 ∧ file = origin ∧ scheme.modify leader content = some (answer, after)
  | .staged answer => count = 3 ∧ file = origin ∧ Exists fun after =>
      scheme.modify leader content = some (answer, after) ∧ temporary = some (scheme.save leader after)
  | .exited answer => 4 ≤ count ∧ Exists fun after =>
      scheme.modify leader content = some (answer, after) ∧ file = some (scheme.save leader after)
  | .failed => file = origin

section Lead

variable {scheme} {leader : Writer} {content : Content} {origin : Option Document}

theorem leads_step {desk : Desk Content Document Answer} {count : Nat}
    (loads : origin.bind scheme.load = some content)
    (leads : scheme.Leads leader content origin count desk.file desk.temporary (desk.stage leader)) :
    scheme.Leads leader content origin (count + 1) (scheme.step desk leader).file (scheme.step desk leader).temporary
      ((scheme.step desk leader).stage leader) := by
  cases held : desk.stage leader with
  | ready =>
      rw [held] at leads
      rcases leads with ⟨rfl, there⟩
      rw [step_ready held, stage_advance, afterLoad, there, loads]
      exact ⟨rfl, there, rfl⟩
  | loaded before =>
      rw [held] at leads
      rcases leads with ⟨rfl, there, rfl⟩
      rw [step_loaded held, stage_advance, afterModify]
      cases modified : scheme.modify leader before with
      | none => exact there
      | some changed => exact ⟨rfl, there, modified⟩
  | modified answer after =>
      rw [held] at leads
      rcases leads with ⟨rfl, there, modified⟩
      rw [step_modified held]
      exact (stage_advance desk _ _).symm ▸ ⟨rfl, there, after, modified, rfl⟩
  | staged answer =>
      rw [held] at leads
      rcases leads with ⟨rfl, -, after, modified, there⟩
      rw [step_staged held there]
      exact (stage_advance desk _ _).symm ▸ ⟨Nat.le_refl 4, after, modified, rfl⟩
  | exited answer =>
      rw [held] at leads
      rcases leads with ⟨enough, after⟩
      rw [step_exited held]
      exact held.symm ▸ ⟨Nat.le_succ_of_le enough, after⟩
  | failed =>
      rw [held] at leads
      rw [step_failed held]
      exact held.symm ▸ leads

theorem leads_replicate (loads : origin.bind scheme.load = some content) (temporary : Option Document) (count : Nat) :
    scheme.Leads leader content origin count (scheme.run origin temporary (List.replicate count leader)).file
      (scheme.run origin temporary (List.replicate count leader)).temporary
      ((scheme.run origin temporary (List.replicate count leader)).stage leader) := by
  induction count with
  | zero => exact ⟨rfl, rfl⟩
  | succ count inductionHypothesis =>
      rw [List.replicate_succ', run, List.foldl_append]
      exact leads_step loads inductionHypothesis

/-- The other loads before the leader has exited: it loads what the leader loaded. -/
theorem overlap_of_leads {desk : Desk Content Document Answer} {count : Nat}
    (loads : origin.bind scheme.load = some content)
    (leads : scheme.Leads leader content origin (count + 1) desk.file desk.temporary (desk.stage leader))
    (short : ¬ 3 ≤ count) (ready : desk.stage leader.other = .ready) :
    scheme.Overlap content (scheme.step desk leader.other) := by
  have facts : desk.file = origin ∧ scheme.Derived leader content (desk.stage leader) ∧
      (forall answer, desk.stage leader ≠ .exited answer) ∧
        (forall answer, desk.stage leader = .staged answer ->
          forall document, desk.temporary = some document -> scheme.Written content document) := by
    cases held : desk.stage leader with
    | ready =>
        rw [held] at leads
        exact absurd leads.1 (Nat.succ_ne_zero count)
    | loaded before =>
        rw [held] at leads
        exact ⟨leads.2.1, leads.2.2, fun _ => nofun, fun _ => nofun⟩
    | modified answer after =>
        rw [held] at leads
        exact ⟨leads.2.1, leads.2.2, fun _ => nofun, fun _ => nofun⟩
    | staged answer =>
        rw [held] at leads
        rcases leads with ⟨-, there, after, modified, stored⟩
        refine ⟨there, ⟨after, modified⟩, fun _ => nofun, ?_⟩
        intro _ _ document saved
        rw [stored] at saved
        exact ⟨leader, answer, after, modified, Option.some.inj saved⟩
    | exited answer =>
        rw [held] at leads
        exact absurd (Nat.le_of_succ_le_succ leads.1) short
    | failed =>
        rw [held] at leads
        exact ⟨leads, trivial, fun _ => nofun, fun _ => nofun⟩
  rcases facts with ⟨there, derived, running, temporary⟩
  rw [step_ready ready, there]
  have loaded : scheme.afterLoad origin = .loaded content := by
    rw [afterLoad, loads]
  rw [loaded]
  refine ⟨?_, ?_, ?_⟩
  · intro writer
    by_cases same : writer = leader.other
    · rw [same, stage_advance]
      rfl
    · rw [stage_advance_of_ne desk same, Writer.eq_of_ne_other same]
      exact derived
  · intro writer answer past
    by_cases same : writer = leader.other
    · rw [same, stage_advance] at past
      exact past.elim nofun nofun
    · rw [stage_advance_of_ne desk same, Writer.eq_of_ne_other same] at past
      exact past.elim (temporary answer) fun exited => absurd exited (running answer)
  · intro writer answer exited
    by_cases same : writer = leader.other
    · rw [same, stage_advance] at exited
      exact absurd exited nofun
    · rw [stage_advance_of_ne desk same, Writer.eq_of_ne_other same] at exited
      exact absurd exited (running answer)

end Lead

/-! ## Whole schedules -/

section Schedules

variable {scheme} {desk : Desk Content Document Answer} {writer : Writer}

theorem stage_foldl_of_not_mem {schedule : List Writer} (absent : writer ∉ schedule) :
    (schedule.foldl scheme.step desk).stage writer = desk.stage writer := by
  induction schedule generalizing desk with
  | nil => rfl
  | cons next later inductionHypothesis =>
      rcases List.ne_and_not_mem_of_not_mem_cons absent with ⟨apart, rest⟩
      exact (inductionHypothesis rest).trans (stage_step_of_ne apart)

/-- A writer that has failed is not heard of again. -/
theorem stage_foldl_of_failed (held : desk.stage writer = .failed) (schedule : List Writer) :
    (schedule.foldl scheme.step desk).stage writer = .failed := by
  induction schedule generalizing desk with
  | nil => exact held
  | cons next later inductionHypothesis =>
      apply inductionHypothesis
      by_cases same : writer = next
      · rw [← same, step_failed held, held]
      · rw [stage_step_of_ne same, held]

/-- A schedule of two writers is one of them for a while, and then the other. -/
theorem exists_lead {schedule : List Writer} (nonempty : schedule ≠ []) :
    Exists fun leader => Exists fun count => Exists fun rest =>
      schedule = List.replicate (count + 1) leader ++ rest ∧ (TakesTurns schedule <-> 3 ≤ count) ∧
        (rest = [] ∨ Exists fun later => rest = leader.other :: later) := by
  cases schedule with
  | nil => exact absurd rfl nonempty
  | cons leader later =>
      have alone : later.takeWhile (fun next => decide (next = leader)) =
          List.replicate (later.takeWhile fun next => decide (next = leader)).length leader :=
        List.eq_replicate_of_mem fun next member => by
          simpa only [decide_eq_true_eq] using List.mem_takeWhile_imp member
      refine ⟨leader, _, later.dropWhile fun next => decide (next = leader), ?_, Iff.rfl, ?_⟩
      · rw [List.replicate_succ, List.cons_append, ← alone, List.takeWhile_append_dropWhile]
      · cases left : later.dropWhile fun next => decide (next = leader) with
        | nil => exact Or.inl rfl
        | cons next rest =>
            have apart := List.head_dropWhile_not (fun next => decide (next = leader))
              (left ▸ List.cons_ne_nil next rest)
            simp only [left, List.head_cons, decide_eq_false_iff_not] at apart
            exact Or.inr ⟨rest, by rw [Writer.eq_other_of_ne apart]⟩

end Schedules

/-! ## What two writers leave that both get to their end -/

section Ends

variable {scheme} {origin temporary : Option Document} {schedule : List Writer} {answers : Writer -> Answer}

/-- A schedule at whose end both have exited begins with one of them on its own, on a
file that loads. -/
theorem exists_lead_of_exited
    (exited : forall writer, (scheme.run origin temporary schedule).stage writer = .exited (answers writer)) :
    Exists fun leader => Exists fun count => Exists fun later => Exists fun content => Exists fun desk =>
      (TakesTurns schedule <-> 3 ≤ count) ∧ origin.bind scheme.load = some content ∧
        scheme.Leads leader content origin (count + 1) desk.file desk.temporary (desk.stage leader) ∧
          desk.stage leader.other = .ready ∧
            scheme.run origin temporary schedule = (leader.other :: later).foldl scheme.step desk := by
  have nonempty : schedule ≠ [] := by
    intro empty
    have ready := exited .first
    rw [empty] at ready
    exact absurd ready nofun
  rcases exists_lead nonempty with ⟨leader, count, rest, shape, turns, rfl | ⟨later, rfl⟩⟩
  · have absent : leader.other ∉ schedule := by
      rw [shape, List.append_nil]
      exact fun member => leader.other_ne (List.eq_of_mem_replicate member)
    have ready := exited leader.other
    rw [run, stage_foldl_of_not_mem absent] at ready
    exact absurd ready nofun
  · cases loads : origin.bind scheme.load with
    | some content =>
        refine ⟨leader, count, later, content, scheme.run origin temporary (List.replicate (count + 1) leader), turns,
          rfl, leads_replicate loads temporary (count + 1), ?_, ?_⟩
        · exact stage_foldl_of_not_mem fun member => leader.other_ne (List.eq_of_mem_replicate member)
        · rw [shape, run, List.foldl_append, run]
    | none =>
        have failed : (scheme.step (Desk.start origin temporary) leader).stage leader = .failed := by
          have ready : (Desk.start origin temporary : Desk Content Document Answer).stage leader = .ready := rfl
          rw [step_ready ready, stage_advance, afterLoad, Desk.start, loads]
        have ended := exited leader
        rw [shape, List.replicate_succ, run, List.cons_append, List.foldl_cons, stage_foldl_of_failed failed] at ended
        exact absurd ended nofun

/-- The writers have taken turns: the second has modified what the first saved. -/
theorem exits_in_turn (load_save : forall writer content, scheme.load (scheme.save writer content) = some content)
    (exited : forall writer, (scheme.run origin temporary schedule).stage writer = .exited (answers writer))
    (turns : TakesTurns schedule) :
    Exists fun leader => Exists fun content => Exists fun saved => Exists fun final =>
      origin.bind scheme.load = some content ∧ scheme.modify leader content = some (answers leader, saved) ∧
        scheme.modify leader.other saved = some (answers leader.other, final) ∧
          (scheme.run origin temporary schedule).file = some (scheme.save leader.other final) := by
  rcases exists_lead_of_exited exited with ⟨leader, count, later, content, desk, enough, loads, leads, ready, split⟩
  have long := enough.mp turns
  rw [split] at exited ⊢
  cases held : desk.stage leader with
  | failed => exact absurd ((stage_foldl_of_failed held _).symm.trans (exited leader)) nofun
  | ready =>
      rw [held] at leads
      exact absurd leads.1 (Nat.succ_ne_zero count)
  | loaded before =>
      rw [held] at leads
      have short : count + 1 = 1 := leads.1
      omega
  | modified answer after =>
      rw [held] at leads
      have short : count + 1 = 2 := leads.1
      omega
  | staged answer =>
      rw [held] at leads
      have short : count + 1 = 3 := leads.1
      omega
  | exited answer =>
      rw [held] at leads
      rcases leads with ⟨-, saved, modified, there⟩
      have begun : scheme.Handover leader answer saved desk := ⟨held, ready.symm ▸ there⟩
      have keeps : forall desk writer, scheme.Handover leader answer saved desk ->
          scheme.Handover leader answer saved (scheme.step desk writer) :=
        fun _ writer handover => handover.step load_save writer
      have ended := Run.invariant scheme.step keeps begun (leader.other :: later)
      have same : answer = answers leader := Stage.exited.inj (ended.led.symm.trans (exited leader))
      have follows := ended.follows
      rw [exited leader.other] at follows
      rcases follows with ⟨final, followed, stored⟩
      exact ⟨leader, content, saved, final, loads, same ▸ modified, followed, stored⟩

/-- The writers have not taken turns: both have modified what was there at the
start, and the file holds what one of them made of it. -/
theorem exits_in_overlap
    (exited : forall writer, (scheme.run origin temporary schedule).stage writer = .exited (answers writer))
    (crossed : ¬ TakesTurns schedule) :
    Exists fun content => origin.bind scheme.load = some content ∧
      (forall writer, Exists fun after => scheme.modify writer content = some (answers writer, after)) ∧
        Exists fun document =>
          (scheme.run origin temporary schedule).file = some document ∧ scheme.Written content document := by
  rcases exists_lead_of_exited exited with ⟨leader, count, later, content, desk, enough, loads, leads, ready, split⟩
  have short : ¬ 3 ≤ count := fun long => crossed (enough.mpr long)
  rw [split, List.foldl_cons] at exited ⊢
  have keeps : forall desk writer, scheme.Overlap content desk -> scheme.Overlap content (scheme.step desk writer) :=
    fun _ writer overlap => overlap.step writer
  have ended := Run.invariant scheme.step keeps (overlap_of_leads loads leads short ready) later
  refine ⟨content, loads, fun writer => ?_, ended.file .first _ (exited .first)⟩
  have derived := ended.derived writer
  rw [exited writer] at derived
  exact derived

end Ends

/-! ## Two schedules to the end -/

/-- The first writer's four steps, and then the second's. -/
def inTurn : List Writer :=
  [.first, .first, .first, .first, .second, .second, .second, .second]

/-- Both load before either saves. -/
def crossing : List Writer :=
  [.first, .second, .first, .second, .first, .first, .second, .second]

section Paths

variable {scheme} {origin : Document} {content first second : Content} (answers : Writer -> Answer)

theorem stage_inTurn (load_save : forall writer content, scheme.load (scheme.save writer content) = some content)
    (loads : scheme.load origin = some content)
    (modified : scheme.modify .first content = some (answers .first, first))
    (modified' : scheme.modify .second first = some (answers .second, second)) (writer : Writer) :
    (scheme.run (some origin) none inTurn).stage writer = .exited (answers writer) := by
  cases writer <;>
    simp [run, inTurn, step, Desk.start, Desk.advance, afterLoad, afterModify, loads, load_save, modified, modified',
      Function.update]

theorem stage_crossing (loads : scheme.load origin = some content)
    (modified : scheme.modify .first content = some (answers .first, first))
    (modified' : scheme.modify .second content = some (answers .second, second)) (writer : Writer) :
    (scheme.run (some origin) none crossing).stage writer = .exited (answers writer) := by
  cases writer <;>
    simp [run, crossing, step, Desk.start, Desk.advance, afterLoad, afterModify, loads, modified, modified',
      Function.update]

theorem file_crossing (loads : scheme.load origin = some content)
    (modified : scheme.modify .first content = some (answers .first, first))
    (modified' : scheme.modify .second content = some (answers .second, second)) :
    (scheme.run (some origin) none crossing).file = some (scheme.save .second second) := by
  simp [run, crossing, step, Desk.start, Desk.advance, afterLoad, afterModify, loads, modified, modified',
    Function.update]

end Paths

end WholeFile
end Foundation
end ApexQuant
