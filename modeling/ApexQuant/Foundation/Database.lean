import Mathlib.Init

namespace ApexQuant
namespace Foundation

/-!
# Programs over a database connection

A repository method is a program of statements, grouped in transactions.  A
statement can be refused by the server, and the connection can be lost at any
statement, before or after the server has applied it.  Either ends the program
with a failure; what earlier transactions have committed stays.

A transaction that does not commit is rolled back.  A rollback need not restore
the store it started from: a server that hands out sequence numbers does not take
them back.  The function that says what a rollback keeps is a parameter.

`Triple` speaks about every way in which a program can end, under every fate of
the connection.
-/

namespace Database

/-- How a program over a connection fails. -/
inductive Failure (Error : Type) where
  | connectionLost
  | raised (error : Error)
  deriving DecidableEq, Repr

/-- The fate of a connection: it holds, or it is lost at a later statement, which
the server may or may not have applied. -/
inductive Link where
  | steady
  | drops (after : Nat) (applied : Bool)
  deriving DecidableEq, Repr

/-- The connection after one more statement, if it survives it. -/
def Link.next : Link -> Option Link
  | .steady => some .steady
  | .drops 0 _ => none
  | .drops (after + 1) applied => some (.drops after applied)

/-- Whether the statement at which the connection is lost takes effect. -/
def Link.applies : Link -> Bool
  | .steady => true
  | .drops _ applied => applied

/-- Whether the server applies the statement that comes after `earlier` others. -/
def Link.carries (earlier : Nat) : Link -> Bool
  | .steady => true
  | .drops after applied => decide (earlier < after) || (decide (earlier = after) && applied)

/-- Whether the connection holds for the next `count` statements. -/
def Link.survives (count : Nat) : Link -> Bool
  | .steady => true
  | .drops after _ => decide (count ≤ after)

theorem Link.of_next_eq_none {link : Link} (lost : link.next = none) (later : Nat) :
    link.carries (later + 1) = false ∧ link.survives (later + 1) = false ∧ link.carries 0 = link.applies := by
  cases link with
  | steady => exact absurd lost nofun
  | drops after applied =>
      cases after with
      | zero => exact ⟨rfl, rfl, Bool.true_and applied⟩
      | succ after => exact absurd lost nofun

theorem Link.of_next_eq_some {link next : Link} (kept : link.next = some next) (later : Nat) :
    link.carries (later + 1) = next.carries later ∧ link.survives (later + 1) = next.survives later ∧
      link.carries 0 = true := by
  cases link with
  | steady =>
      rw [← Option.some.inj kept]
      exact ⟨rfl, rfl, rfl⟩
  | drops after applied =>
      cases after with
      | zero => exact absurd kept nofun
      | succ after =>
          rw [← Option.some.inj kept]
          simp [Link.carries, Link.survives]

theorem Link.carries_zero (link : Link) :
    link.carries 0 = match link.next with
      | none => link.applies
      | some _ => true := by
  cases next : link.next with
  | none => exact (Link.of_next_eq_none next 0).2.2
  | some later => exact (Link.of_next_eq_some next 0).2.2

theorem Link.survives_zero (link : Link) : link.survives 0 = true := by
  cases link with
  | steady => rfl
  | drops after applied => exact decide_eq_true (Nat.zero_le after)

structure Connection (Store : Type) where
  store : Store
  link : Link

/-- A program that runs statements over a connection. -/
abbrev Program (Error Store A : Type) := EStateM (Failure Error) (Connection Store) A

variable {Error Store A B : Type}

/-- One statement: the server's answer and the store it leaves. -/
def statement (effect : Store -> Except Error A × Store) : Program Error Store A := fun connection =>
  match connection.link.next with
  | none =>
      .error .connectionLost
        { connection with store := if connection.link.applies then (effect connection.store).2 else connection.store }
  | some link =>
      match effect connection.store with
      | (.ok answer, store) => .ok answer { store := store, link := link }
      | (.error error, store) => .error (.raised error) { store := store, link := link }

/-- A statement that only reads. -/
def query (answer : Store -> A) : Program Error Store A :=
  statement fun store => (.ok (answer store), store)

/-- A program in a transaction.  The commit is a statement of its own. -/
def transaction (rollback : Store -> Store -> Store) (program : Program Error Store A) : Program Error Store A :=
  fun connection =>
    match program connection with
    | .error failure after => .error failure { after with store := rollback connection.store after.store }
    | .ok answer after =>
        match after.link.next with
        | none =>
            .error .connectionLost
              { after with store := if after.link.applies then after.store else rollback connection.store after.store }
        | some link => .ok answer { after with link := link }

/-- The store that a program leaves, however it ends. -/
def finalStore (program : Program Error Store A) (connection : Connection Store) : Store :=
  match program connection with
  | .ok _ after => after.store
  | .error _ after => after.store

/-! ## Evaluation -/

/-- A statement with what follows it. -/
theorem statement_bind_run (effect : Store -> Except Error A × Store) (rest : A -> Program Error Store B)
    (store : Store) (link : Link) :
    (statement effect >>= rest) { store := store, link := link } =
      match link.next with
      | none => .error .connectionLost { store := if link.applies then (effect store).2 else store, link := link }
      | some next =>
          match effect store with
          | (.ok answer, store) => rest answer { store := store, link := next }
          | (.error error, store) => .error (.raised error) { store := store, link := next } := by
  change EStateM.bind _ _ _ = _
  unfold EStateM.bind statement
  cases link.next with
  | none => rfl
  | some next =>
      cases effect store with
      | mk answer after => cases answer <;> rfl

/-- A statement that is never refused, with what follows it. -/
theorem effect_bind_run (answer : A) (effect : Store -> Store) (rest : A -> Program Error Store B) (store : Store)
    (link : Link) :
    ((statement fun store => (.ok answer, effect store)) >>= rest) { store := store, link := link } =
      match link.next with
      | none => .error .connectionLost { store := if link.applies then effect store else store, link := link }
      | some next => rest answer { store := effect store, link := next } := by
  rw [statement_bind_run]

/-! ## Triples -/

/-- From a store that meets the precondition, the program returns in a store that
meets the postcondition or fails in one that meets the failure condition. -/
def Triple (pre : Store -> Prop) (program : Program Error Store A) (post : A -> Store -> Prop)
    (failed : Store -> Prop) : Prop :=
  forall connection, pre connection.store ->
    match program connection with
    | .ok answer after => post answer after.store
    | .error _ after => failed after.store

namespace Triple

variable {pre : Store -> Prop} {post : A -> Store -> Prop} {failed : Store -> Prop}

theorem pure {answer : A} (returns : forall store, pre store -> post answer store) :
    Triple pre (Pure.pure answer : Program Error Store A) post failed :=
  fun connection holds => returns connection.store holds

theorem throw {failure : Failure Error} (fails : forall store, pre store -> failed store) :
    Triple pre (MonadExcept.throw failure : Program Error Store A) post failed :=
  fun connection holds => fails connection.store holds

theorem bind {first : Program Error Store A} {rest : A -> Program Error Store B} {middle : A -> Store -> Prop}
    {post : B -> Store -> Prop} (begins : Triple pre first middle failed)
    (continues : forall answer, Triple (middle answer) (rest answer) post failed) :
    Triple pre (first >>= rest) post failed := by
  intro connection holds
  have opening := begins connection holds
  change match EStateM.bind first rest connection with
    | .ok answer after => post answer after.store
    | .error _ after => failed after.store
  unfold EStateM.bind
  cases ran : first connection with
  | ok answer after =>
      rw [ran] at opening
      exact continues answer after opening
  | error failure after =>
      rw [ran] at opening
      exact opening

theorem weaken {pre' : Store -> Prop} {post' : A -> Store -> Prop} {failed' : Store -> Prop}
    {program : Program Error Store A} (triple : Triple pre' program post' failed')
    (requires : forall store, pre store -> pre' store)
    (returns : forall answer store, post' answer store -> post answer store)
    (fails : forall store, failed' store -> failed store) : Triple pre program post failed := by
  intro connection holds
  have ended := triple connection (requires connection.store holds)
  cases ran : program connection with
  | ok answer after =>
      rw [ran] at ended
      exact returns answer after.store ended
  | error failure after =>
      rw [ran] at ended
      exact fails after.store ended

/-- A statement may fail before it takes effect, and after. -/
theorem statement {effect : Store -> Except Error A × Store}
    (answers : forall store, pre store -> forall answer, (effect store).1 = .ok answer -> post answer (effect store).2)
    (lost : forall store, pre store -> failed store) (applied : forall store, pre store -> failed (effect store).2) :
    Triple pre (Database.statement effect) post failed := by
  intro connection holds
  unfold Database.statement
  cases connection.link.next with
  | none =>
      cases connection.link.applies with
      | true => exact applied connection.store holds
      | false => exact lost connection.store holds
  | some link =>
      have answered := answers connection.store holds
      have refused := applied connection.store holds
      cases ran : effect connection.store with
      | mk answer store =>
          rw [ran] at answered refused
          cases answer with
          | ok answer => exact answered answer rfl
          | error error => exact refused

theorem query {read : Store -> A} (answers : forall store, pre store -> post (read store) store)
    (lost : forall store, pre store -> failed store) :
    Triple pre (Database.query read : Program Error Store A) post failed :=
  Triple.statement (fun store holds _ answered => (Except.ok.inj answered) ▸ answers store holds) lost lost

/-- A read leaves the store alone and answers what it holds. -/
theorem query_bind {read : Store -> A} {rest : A -> Program Error Store B} {post : B -> Store -> Prop}
    (lost : forall store, pre store -> failed store)
    (continues : forall answer, Triple (fun store => pre store ∧ read store = answer) (rest answer) post failed) :
    Triple pre (Database.query read >>= rest) post failed :=
  Triple.bind (Triple.query (fun _ holds => ⟨holds, rfl⟩) lost) continues

/-- A transaction fails in what the rollback keeps, or with its effect committed
but the answer lost. -/
theorem transaction {rollback : Store -> Store -> Store} {program : Program Error Store A}
    {post' : A -> Store -> Store -> Prop} {failed' : Store -> Store -> Prop}
    (body : forall before, pre before -> Triple (fun store => store = before) program
      (fun answer after => post' answer before after) (fun after => failed' before after))
    (commits : forall before, pre before -> forall answer after, post' answer before after ->
      post answer after ∧ failed after ∧ failed (rollback before after))
    (aborts : forall before, pre before -> forall after, failed' before after -> failed (rollback before after)) :
    Triple pre (Database.transaction rollback program) post failed := by
  intro connection holds
  have ended := body connection.store holds connection rfl
  unfold Database.transaction
  cases ran : program connection with
  | error failure after =>
      rw [ran] at ended
      exact aborts connection.store holds after.store ended
  | ok answer after =>
      rw [ran] at ended
      have committed := commits connection.store holds answer after.store ended
      dsimp only
      cases after.link.next with
      | none =>
          cases after.link.applies with
          | true => exact committed.2.1
          | false => exact committed.2.2
      | some link => exact committed.1

/-- A loop over a list keeps what every pass keeps. -/
theorem forM {items : List B} {body : B -> Program Error Store PUnit} {Inv : Store -> Prop}
    (keeps : forall item, item ∈ items -> Triple Inv (body item) (fun _ => Inv) failed) :
    Triple Inv (ForM.forM items body) (fun _ => Inv) failed := by
  induction items with
  | nil => exact Triple.pure fun _ holds => holds
  | cons item items inductionHypothesis =>
      rw [List.forM_cons]
      apply Triple.bind (keeps item List.mem_cons_self)
      intro _
      exact inductionHypothesis fun other member => keeps other (List.mem_cons_of_mem _ member)

/-- What a triple says about the store, however the program ends. -/
theorem finalStore {program : Program Error Store A} (triple : Triple pre program post failed)
    {Inv : Store -> Prop} (returned : forall answer store, post answer store -> Inv store)
    (broken : forall store, failed store -> Inv store) {connection : Connection Store} (holds : pre connection.store) :
    Inv (Database.finalStore program connection) := by
  have ended := triple connection holds
  unfold Database.finalStore
  cases ran : program connection with
  | ok answer after =>
      rw [ran] at ended
      exact returned answer after.store ended
  | error failure after =>
      rw [ran] at ended
      exact broken after.store ended

end Triple
end Database
end Foundation
end ApexQuant
