import Mathlib.Data.List.Forall2

namespace ApexQuant
namespace Foundation

/-!
# Database sessions in autocommit mode

A session sees a store and may have a transaction open.  A transaction keeps the
store that a rollback goes back to.

A client sends single statements and scripts.  The statements of a script share an
implicit transaction, up to a `BEGIN` that makes it an explicit one, which then
outlives the script unless the script ends it.  A statement that fails in an
implicit transaction undoes it; in an explicit one it leaves the transaction
aborted, and nothing but its end is accepted any more.

Constraints that are checked at the commit are a parameter `consistent`.
-/

/-- The transaction that a session has open. -/
inductive Transaction (Store : Type) where
  | idle
  | implicit (saved : Store)
  | explicit (saved : Store)
  | aborted (saved : Store)

structure Session (Store : Type) where
  visible : Store
  transaction : Transaction Store

/-- Why the server refuses a statement. -/
inductive SessionError (Error : Type) where
  | inFailedTransaction
  | inconsistent
  | raised (error : Error)
  deriving DecidableEq

/-- A statement of a script. -/
inductive ScriptStatement (Error Store : Type) where
  | begin
  | commit
  | rollback
  | work (effect : Store -> Except Error Store)

namespace Session

variable {Error Store Abstract : Type}

/-- A session without a transaction. -/
def idle (store : Store) : Session Store where
  visible := store
  transaction := .idle

/-- `ROLLBACK`. -/
def rollback (session : Session Store) : Session Store :=
  match session.transaction with
  | .idle => session
  | .implicit saved | .explicit saved | .aborted saved => idle saved

/-- `COMMIT`, which rolls an aborted transaction back. -/
def commit (consistent : Store -> Bool) (session : Session Store) :
    Except (SessionError Error) Unit × Session Store :=
  match session.transaction with
  | .idle => (.ok (), session)
  | .implicit saved | .explicit saved =>
      if consistent session.visible then (.ok (), idle session.visible) else (.error .inconsistent, idle saved)
  | .aborted saved => (.ok (), idle saved)

/-- `BEGIN`. -/
def begin (session : Session Store) : Except (SessionError Error) Unit × Session Store :=
  match session.transaction with
  | .idle => (.ok (), { session with transaction := .explicit session.visible })
  | .implicit saved | .explicit saved => (.ok (), { session with transaction := .explicit saved })
  | .aborted _ => (.error .inFailedTransaction, session)

/-- Any other statement of a script. -/
def work (effect : Store -> Except Error Store) (session : Session Store) :
    Except (SessionError Error) Unit × Session Store :=
  match session.transaction with
  | .idle =>
      match effect session.visible with
      | .ok store => (.ok (), { visible := store, transaction := .implicit session.visible })
      | .error error => (.error (.raised error), session)
  | .implicit saved =>
      match effect session.visible with
      | .ok store => (.ok (), { visible := store, transaction := .implicit saved })
      | .error error => (.error (.raised error), idle saved)
  | .explicit saved =>
      match effect session.visible with
      | .ok store => (.ok (), { visible := store, transaction := .explicit saved })
      | .error error => (.error (.raised error), { visible := saved, transaction := .aborted saved })
  | .aborted _ => (.error .inFailedTransaction, session)

def step (consistent : Store -> Bool) (session : Session Store) :
    ScriptStatement Error Store -> Except (SessionError Error) Unit × Session Store
  | .begin => session.begin
  | .commit => session.commit consistent
  | .rollback => (.ok (), session.rollback)
  | .work effect => session.work effect

/-- The end of a script ends its implicit transaction. -/
def finish (consistent : Store -> Bool) (session : Session Store) :
    Except (SessionError Error) Unit × Session Store :=
  match session.transaction with
  | .implicit _ => session.commit consistent
  | _ => (.ok (), session)

/-- A script, up to the first statement that fails. -/
def runScript (consistent : Store -> Bool) :
    List (ScriptStatement Error Store) -> Session Store -> Except (SessionError Error) Unit × Session Store
  | [], session => session.finish consistent
  | statement :: rest, session =>
      match session.step consistent statement with
      | (.ok _, next) => runScript consistent rest next
      | (.error error, next) => (.error error, next)

/-- A statement sent by itself, which outside a transaction commits at once. -/
def command (effect : Store -> Except Error Store) (session : Session Store) :
    Except (SessionError Error) Unit × Session Store :=
  match session.transaction with
  | .idle | .implicit _ =>
      match effect session.visible with
      | .ok store => (.ok (), { session with visible := store })
      | .error error => (.error (.raised error), session)
  | .explicit saved =>
      match effect session.visible with
      | .ok store => (.ok (), { visible := store, transaction := .explicit saved })
      | .error error => (.error (.raised error), { visible := saved, transaction := .aborted saved })
  | .aborted _ => (.error .inFailedTransaction, session)

/-! ## What holds of every store of a session -/

/-- A property of what a session sees and of what it can go back to. -/
def Holds (property : Store -> Prop) (session : Session Store) : Prop :=
  property session.visible ∧
    match session.transaction with
    | .idle => True
    | .implicit saved | .explicit saved | .aborted saved => property saved

/-- A statement that keeps a property of the store. -/
def Keeps (property : Store -> Prop) : ScriptStatement Error Store -> Prop
  | .work effect => forall store after, property store -> effect store = .ok after -> property after
  | _ => True

variable {property : Store -> Prop}

theorem Holds.commit {session : Session Store} (holds : session.Holds property) (consistent : Store -> Bool) :
    (session.commit consistent : Except (SessionError Error) Unit × Session Store).2.Holds property := by
  rcases session with ⟨visible, transaction⟩
  cases transaction with
  | idle => exact holds
  | aborted saved => exact ⟨holds.2, trivial⟩
  | implicit saved =>
      unfold Session.commit
      dsimp only
      split
      · exact ⟨holds.1, trivial⟩
      · exact ⟨holds.2, trivial⟩
  | explicit saved =>
      unfold Session.commit
      dsimp only
      split
      · exact ⟨holds.1, trivial⟩
      · exact ⟨holds.2, trivial⟩

theorem Holds.work {session : Session Store} (holds : session.Holds property) {effect : Store -> Except Error Store}
    (keeps : forall store after, property store -> effect store = .ok after -> property after) :
    (session.work effect).2.Holds property := by
  rcases session with ⟨visible, transaction⟩
  unfold Session.work
  cases transaction with
  | idle =>
      cases ran : effect visible with
      | ok store => exact ⟨keeps visible store holds.1 ran, holds.1⟩
      | error error => exact holds
  | implicit saved =>
      cases ran : effect visible with
      | ok store => exact ⟨keeps visible store holds.1 ran, holds.2⟩
      | error error => exact ⟨holds.2, trivial⟩
  | explicit saved =>
      cases ran : effect visible with
      | ok store => exact ⟨keeps visible store holds.1 ran, holds.2⟩
      | error error => exact ⟨holds.2, holds.2⟩
  | aborted saved => exact holds

theorem Holds.step {session : Session Store} (holds : session.Holds property) (consistent : Store -> Bool)
    {statement : ScriptStatement Error Store} (keeps : Keeps property statement) :
    (session.step consistent statement).2.Holds property := by
  cases statement with
  | commit => exact holds.commit consistent
  | work effect => exact holds.work keeps
  | begin =>
      rcases session with ⟨visible, transaction⟩
      cases transaction with
      | idle => exact ⟨holds.1, holds.1⟩
      | implicit saved => exact holds
      | explicit saved => exact holds
      | aborted saved => exact holds
  | rollback =>
      rcases session with ⟨visible, transaction⟩
      cases transaction with
      | idle => exact holds
      | implicit saved => exact ⟨holds.2, trivial⟩
      | explicit saved => exact ⟨holds.2, trivial⟩
      | aborted saved => exact ⟨holds.2, trivial⟩

theorem Holds.runScript {session : Session Store} (holds : session.Holds property) (consistent : Store -> Bool)
    {script : List (ScriptStatement Error Store)} (keeps : forall statement, statement ∈ script ->
      Keeps property statement) : (session.runScript consistent script).2.Holds property := by
  induction script generalizing session with
  | nil =>
      rcases session with ⟨visible, transaction⟩
      cases transaction with
      | implicit saved => exact holds.commit consistent
      | idle => exact holds
      | explicit saved => exact holds
      | aborted saved => exact holds
  | cons statement rest inductionHypothesis =>
      have stepped := holds.step consistent (keeps statement List.mem_cons_self)
      rw [Session.runScript]
      cases ran : session.step consistent statement with
      | mk answer next =>
          rw [ran] at stepped
          cases answer with
          | error error => exact stepped
          | ok _ =>
              exact inductionHypothesis stepped fun other member => keeps other (List.mem_cons_of_mem _ member)

/-- A single statement that is refused keeps what holds of the session. -/
theorem Holds.command_error {session next : Session Store} (holds : session.Holds property)
    {effect : Store -> Except Error Store} {error : SessionError Error}
    (refused : session.command effect = (.error error, next)) : next.Holds property := by
  rcases session with ⟨visible, transaction⟩
  unfold Session.command at refused
  cases transaction with
  | idle =>
      cases ran : effect visible with
      | ok store => rw [ran] at refused; exact absurd (congrArg Prod.fst refused) nofun
      | error error => rw [ran] at refused; obtain rfl := congrArg Prod.snd refused; exact holds
  | implicit saved =>
      cases ran : effect visible with
      | ok store => rw [ran] at refused; exact absurd (congrArg Prod.fst refused) nofun
      | error error => rw [ran] at refused; obtain rfl := congrArg Prod.snd refused; exact holds
  | explicit saved =>
      cases ran : effect visible with
      | ok store => rw [ran] at refused; exact absurd (congrArg Prod.fst refused) nofun
      | error error =>
          rw [ran] at refused
          rcases congrArg Prod.snd refused with rfl
          exact ⟨holds.2, holds.2⟩
  | aborted saved =>
      rcases congrArg Prod.snd refused with rfl
      exact holds

/-- One that is accepted may lead to a weaker property. -/
theorem Holds.command_ok {session next : Session Store} (holds : session.Holds property)
    {effect : Store -> Except Error Store} {later : Store -> Prop}
    (weakens : forall store, property store -> later store)
    (leads : forall store after, property store -> effect store = .ok after -> later after)
    (accepted : session.command effect = (.ok (), next)) : next.Holds later := by
  rcases session with ⟨visible, transaction⟩
  unfold Session.command at accepted
  cases transaction with
  | idle =>
      cases ran : effect visible with
      | error error => rw [ran] at accepted; exact absurd (congrArg Prod.fst accepted) nofun
      | ok store =>
          rw [ran] at accepted
          rcases congrArg Prod.snd accepted with rfl
          exact ⟨leads visible store holds.1 ran, trivial⟩
  | implicit saved =>
      cases ran : effect visible with
      | error error => rw [ran] at accepted; exact absurd (congrArg Prod.fst accepted) nofun
      | ok store =>
          rw [ran] at accepted
          rcases congrArg Prod.snd accepted with rfl
          exact ⟨leads visible store holds.1 ran, weakens saved holds.2⟩
  | explicit saved =>
      cases ran : effect visible with
      | error error => rw [ran] at accepted; exact absurd (congrArg Prod.fst accepted) nofun
      | ok store =>
          rw [ran] at accepted
          rcases congrArg Prod.snd accepted with rfl
          exact ⟨leads visible store holds.1 ran, weakens saved holds.2⟩
  | aborted saved => exact absurd (congrArg Prod.fst accepted) nofun

/-! ## Scripts that end their own transaction -/

def IsWork : ScriptStatement Error Store -> Prop
  | .work _ => True
  | _ => False

/-- Either no statement begins or ends a transaction, or the first begins the one
that the last commits. -/
def SelfContained (script : List (ScriptStatement Error Store)) : Prop :=
  Exists fun works => (forall statement, statement ∈ works -> IsWork statement) ∧
    (script = works ∨ script = .begin :: (works ++ [.commit]))

/-- No transaction is open after a commit. -/
theorem commit_idle {consistent : Store -> Bool} {session next : Session Store}
    (committed : (session.commit consistent : Except (SessionError Error) Unit × Session Store) = (.ok (), next)) :
    next.transaction = .idle := by
  rcases session with ⟨visible, transaction⟩
  rcases congrArg Prod.snd committed with rfl
  cases transaction with
  | idle => rfl
  | aborted saved => rfl
  | implicit saved => unfold Session.commit; dsimp only; split <;> rfl
  | explicit saved => unfold Session.commit; dsimp only; split <;> rfl

/-- Work in an explicit transaction leaves it open for the commit. -/
theorem runScript_commit_idle {consistent : Store -> Bool} {works : List (ScriptStatement Error Store)}
    (allWork : forall statement, statement ∈ works -> IsWork statement) {session next : Session Store} {saved : Store}
    (opened : session.transaction = .explicit saved)
    (returned : session.runScript consistent (works ++ [.commit]) = (.ok (), next)) : next.transaction = .idle := by
  induction works generalizing session with
  | nil =>
      rw [List.nil_append, runScript] at returned
      cases committed : session.step consistent .commit with
      | mk answer middle =>
          rw [committed] at returned
          cases answer with
          | error error => exact absurd (congrArg Prod.fst returned) nofun
          | ok _ =>
              have closed : middle.transaction = .idle := commit_idle committed
              change middle.finish consistent = _ at returned
              rw [finish, closed] at returned
              rcases congrArg Prod.snd returned with rfl
              exact closed
  | cons statement works inductionHypothesis =>
      have isWork := allWork statement List.mem_cons_self
      cases statement with
      | begin => exact isWork.elim
      | commit => exact isWork.elim
      | rollback => exact isWork.elim
      | work effect =>
          rw [List.cons_append, runScript, step, Session.work, opened] at returned
          cases ran : effect session.visible with
          | error error => rw [ran] at returned; exact absurd (congrArg Prod.fst returned) nofun
          | ok store =>
              rw [ran] at returned
              exact inductionHypothesis (fun other member => allWork other (List.mem_cons_of_mem _ member)) rfl returned

theorem runScript_works_idle {consistent : Store -> Bool} {works : List (ScriptStatement Error Store)}
    (allWork : forall statement, statement ∈ works -> IsWork statement) {session next : Session Store}
    (opened : session.transaction = .idle ∨ Exists fun saved => session.transaction = .implicit saved)
    (returned : session.runScript consistent works = (.ok (), next)) : next.transaction = .idle := by
  induction works generalizing session with
  | nil =>
      rw [runScript, finish] at returned
      rcases opened with closed | ⟨saved, implicit⟩
      · rw [closed] at returned
        rcases congrArg Prod.snd returned with rfl
        exact closed
      · rw [implicit] at returned
        exact commit_idle returned
  | cons statement works inductionHypothesis =>
      have isWork := allWork statement List.mem_cons_self
      have rest := fun other member => allWork other (List.mem_cons_of_mem statement member)
      cases statement with
      | begin => exact isWork.elim
      | commit => exact isWork.elim
      | rollback => exact isWork.elim
      | work effect =>
          rcases opened with closed | ⟨saved, implicit⟩
          · rw [runScript, step, Session.work, closed] at returned
            cases ran : effect session.visible with
            | error error => rw [ran] at returned; exact absurd (congrArg Prod.fst returned) nofun
            | ok store => rw [ran] at returned; exact inductionHypothesis rest (.inr ⟨_, rfl⟩) returned
          · rw [runScript, step, Session.work, implicit] at returned
            cases ran : effect session.visible with
            | error error => rw [ran] at returned; exact absurd (congrArg Prod.fst returned) nofun
            | ok store => rw [ran] at returned; exact inductionHypothesis rest (.inr ⟨_, rfl⟩) returned

/-- A self-contained script that returns leaves no transaction open. -/
theorem runScript_idle {consistent : Store -> Bool} {script : List (ScriptStatement Error Store)}
    (contained : SelfContained script) {session next : Session Store} (closed : session.transaction = .idle)
    (returned : session.runScript consistent script = (.ok (), next)) : next.transaction = .idle := by
  rcases contained with ⟨works, allWork, rfl | rfl⟩
  · exact runScript_works_idle allWork (.inl closed) returned
  · rw [runScript, step, Session.begin, closed] at returned
    exact runScript_commit_idle allWork rfl returned

/-! ## Sessions over an abstract store -/

def mapTransaction (concrete : Abstract -> Store) : Transaction Abstract -> Transaction Store
  | .idle => .idle
  | .implicit saved => .implicit (concrete saved)
  | .explicit saved => .explicit (concrete saved)
  | .aborted saved => .aborted (concrete saved)

/-- The session that a session over an abstract store stands for. -/
def map (concrete : Abstract -> Store) (session : Session Abstract) : Session Store where
  visible := concrete session.visible
  transaction := mapTransaction concrete session.transaction

/-- An answer with the session it leaves. -/
def mapAnswer {Answer : Type} (concrete : Abstract -> Store) (ended : Answer × Session Abstract) :
    Answer × Session Store :=
  (ended.1, map concrete ended.2)

/-- An effect on the abstract store does what the effect on the store does. -/
def Mirrors (concrete : Abstract -> Store) (effect : Store -> Except Error Store)
    (abstract : Abstract -> Except Error Abstract) : Prop :=
  forall store, effect (concrete store) = (abstract store).map concrete

/-- The statements of a script one by one. -/
inductive MirrorsStatement (concrete : Abstract -> Store) :
    ScriptStatement Error Store -> ScriptStatement Error Abstract -> Prop where
  | begin : MirrorsStatement concrete .begin .begin
  | commit : MirrorsStatement concrete .commit .commit
  | rollback : MirrorsStatement concrete .rollback .rollback
  | work {effect : Store -> Except Error Store} {abstract : Abstract -> Except Error Abstract}
      (mirrors : Mirrors concrete effect abstract) : MirrorsStatement concrete (.work effect) (.work abstract)

variable {concrete : Abstract -> Store}

theorem rollback_map (session : Session Abstract) :
    (map concrete session).rollback = map concrete session.rollback := by
  rcases session with ⟨visible, transaction⟩
  cases transaction <;> rfl

theorem commit_map (consistent : Store -> Bool) (session : Session Abstract) :
    ((map concrete session).commit consistent : Except (SessionError Error) Unit × Session Store) =
      mapAnswer concrete (session.commit fun store => consistent (concrete store)) := by
  rcases session with ⟨visible, transaction⟩
  cases transaction with
  | idle => rfl
  | aborted saved => rfl
  | implicit saved =>
      change ite _ _ _ = mapAnswer concrete (ite _ _ _)
      rw [apply_ite (mapAnswer concrete)]
      rfl
  | explicit saved =>
      change ite _ _ _ = mapAnswer concrete (ite _ _ _)
      rw [apply_ite (mapAnswer concrete)]
      rfl

theorem begin_map (session : Session Abstract) :
    ((map concrete session).begin : Except (SessionError Error) Unit × Session Store) =
      mapAnswer concrete session.begin := by
  rcases session with ⟨visible, transaction⟩
  cases transaction <;> rfl

theorem work_map {effect : Store -> Except Error Store} {abstract : Abstract -> Except Error Abstract}
    (mirrors : Mirrors concrete effect abstract) (session : Session Abstract) :
    (map concrete session).work effect = mapAnswer concrete (session.work abstract) := by
  rcases session with ⟨visible, transaction⟩
  have mirrored := mirrors visible
  unfold work map
  cases transaction with
  | aborted saved => rfl
  | idle => dsimp only [mapTransaction]; rw [mirrored]; cases abstract visible <;> rfl
  | implicit saved => dsimp only [mapTransaction]; rw [mirrored]; cases abstract visible <;> rfl
  | explicit saved => dsimp only [mapTransaction]; rw [mirrored]; cases abstract visible <;> rfl

theorem command_map {effect : Store -> Except Error Store} {abstract : Abstract -> Except Error Abstract}
    (mirrors : Mirrors concrete effect abstract) (session : Session Abstract) :
    (map concrete session).command effect = mapAnswer concrete (session.command abstract) := by
  rcases session with ⟨visible, transaction⟩
  have mirrored := mirrors visible
  unfold command map
  cases transaction with
  | aborted saved => rfl
  | idle => dsimp only [mapTransaction]; rw [mirrored]; cases abstract visible <;> rfl
  | implicit saved => dsimp only [mapTransaction]; rw [mirrored]; cases abstract visible <;> rfl
  | explicit saved => dsimp only [mapTransaction]; rw [mirrored]; cases abstract visible <;> rfl

theorem finish_map (consistent : Store -> Bool) (session : Session Abstract) :
    ((map concrete session).finish consistent : Except (SessionError Error) Unit × Session Store) =
      mapAnswer concrete (session.finish fun store => consistent (concrete store)) := by
  rcases session with ⟨visible, transaction⟩
  cases transaction with
  | implicit saved => exact commit_map consistent { visible := visible, transaction := .implicit saved }
  | idle => rfl
  | explicit saved => rfl
  | aborted saved => rfl

theorem step_map (consistent : Store -> Bool) {statement : ScriptStatement Error Store}
    {abstract : ScriptStatement Error Abstract} (mirrors : MirrorsStatement concrete statement abstract)
    (session : Session Abstract) :
    (map concrete session).step consistent statement =
      mapAnswer concrete (session.step (fun store => consistent (concrete store)) abstract) := by
  cases mirrors with
  | begin => exact begin_map session
  | commit => exact commit_map consistent session
  | rollback => exact congrArg (Prod.mk (Except.ok ())) (rollback_map session)
  | work mirrored => exact work_map mirrored session

/-- A script does on the store what its abstraction does on the abstract store. -/
theorem runScript_map (consistent : Store -> Bool) {script : List (ScriptStatement Error Store)}
    {abstract : List (ScriptStatement Error Abstract)}
    (mirrors : List.Forall₂ (MirrorsStatement concrete) script abstract) (session : Session Abstract) :
    runScript consistent script (map concrete session) =
      mapAnswer concrete (runScript (fun store => consistent (concrete store)) abstract session) := by
  induction mirrors generalizing session with
  | nil => exact finish_map consistent session
  | cons mirrored _ inductionHypothesis =>
      rw [runScript, runScript, step_map consistent mirrored session]
      cases ran : session.step (fun store => consistent (concrete store)) _ with
      | mk answer next =>
          cases answer with
          | error error => rfl
          | ok _ => exact inductionHypothesis next

end Session
end Foundation
end ApexQuant
