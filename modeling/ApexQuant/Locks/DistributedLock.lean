import ApexQuant.Foundation.Faults
import ApexQuant.Foundation.Runs
import ApexQuant.Foundation.Text

namespace ApexQuant
namespace Locks

open Foundation
open Foundation.Faults

/-!
# The distributed lock

`lock.py` and `lock.rs` over one key of a Redis server.  The server decides alone: it
stores a token with a moment of expiry when nothing is stored, and its script deletes
the key when it holds the token of the caller.  An object keeps a flag beside that, which
every attempt overwrites.  A call of the server may fail, before or after its effect.
Moments are in milliseconds.
-/

/-! ## The server -/

structure Entry where
  token : Text
  expiresAt : Int
  deriving DecidableEq

/-- The server, as far as the one key goes. -/
structure Server where
  now : Int
  entry : Option Entry
  deriving DecidableEq

inductive RedisError where
  | invalidExpireTime
  | outside (message : Text)
  deriving DecidableEq

/-- The answer of a `SET` that stores. -/
def statusOk : Text := "OK".toList

namespace Server

/-- `GET`: an entry whose time is over is not there. -/
def value (server : Server) : Option Text :=
  match server.entry with
  | none => none
  | some entry => if server.now < entry.expiresAt then some entry.token else none

theorem value_eq_some_iff {server : Server} {token : Text} :
    server.value = some token <->
      Exists fun entry => server.entry = some entry ∧ server.now < entry.expiresAt ∧ entry.token = token := by
  cases held : server.entry with
  | none => simp [Server.value, held]
  | some entry =>
      by_cases running : server.now < entry.expiresAt
      · simp [Server.value, held, running]
      · simp [Server.value, held, running]

/-- The time is one that an entry can have. -/
def validExpireTime (milliseconds : Int) (server : Server) : Bool :=
  decide (0 < milliseconds ∧ server.now + milliseconds < 2 ^ 63)

/-- `SET key token NX PX milliseconds` -/
def setIfAbsent (token : Text) (milliseconds : Int) (server : Server) : Except RedisError (Option Text) × Server :=
  if server.validExpireTime milliseconds = false then (.error .invalidExpireTime, server)
  else
    match server.value with
    | some _ => (.ok none, server)
    | none =>
        (.ok (some statusOk),
          { server with entry := some { token := token, expiresAt := server.now + milliseconds } })

/-- `UNLOCK_SCRIPT` -/
def unlock (token : Text) (server : Server) : Except RedisError Int × Server :=
  if server.value = some token then (.ok 1, { server with entry := none }) else (.ok 0, server)

def elapse (milliseconds : Nat) (server : Server) : Server :=
  { server with now := server.now + milliseconds }

/-- What a caller gets of a command. -/
def reply {A : Type} (fate : Fate RedisError) (command : Server -> Except RedisError A × Server) (server : Server) :
    Except RedisError A × Server :=
  match fate with
  | .served => command server
  | .fails error applied => (.error error, if applied then (command server).2 else server)

end Server

/-! ## The objects -/

inductive Language where
  | python
  | rust
  deriving DecidableEq

/-- `bool(result)` and `result.is_some()` -/
def Language.granted : Language -> Option Text -> Bool
  | .python, none => false
  | .python, some text => !text.isEmpty
  | .rust, result => result.isSome

/-- `bool(result)` and `result == 1` -/
def Language.released : Language -> Int -> Bool
  | .python, result => decide (result ≠ 0)
  | .rust, result => decide (result = 1)

structure DistributedLock where
  language : Language
  token : Text
  milliseconds : Int
  acquired : Bool

/-- `DistributedLock(...)` in Python, with `int(ttl_seconds * 1000)`. -/
def pythonLock (token : Text) (ttlSeconds : Rat) : DistributedLock where
  language := .python
  token := token
  milliseconds := (ttlSeconds * 1000).num.tdiv (ttlSeconds * 1000).den
  acquired := false

/-- `DistributedLock::new`, with `ttl.as_millis() as u64`. -/
def rustLock (token : Text) (ttlNanoseconds : Nat) : DistributedLock where
  language := .rust
  token := token
  milliseconds := (ttlNanoseconds / 1000000 % 2 ^ 64 : Nat)
  acquired := false

namespace DistributedLock

/-- `_try_acquire` and `acquire` in Rust.  A blocking `acquire` in Python is a sequence
of attempts. -/
def acquire (fate : Fate RedisError) (lock : DistributedLock) (server : Server) :
    Except RedisError Bool × DistributedLock × Server :=
  match server.reply fate (Server.setIfAbsent lock.token lock.milliseconds) with
  | (.error error, server) => (.error error, lock, server)
  | (.ok result, server) =>
      (.ok (lock.language.granted result), { lock with acquired := lock.language.granted result }, server)

/-- `release` -/
def release (fate : Fate RedisError) (lock : DistributedLock) (server : Server) :
    Except RedisError Bool × DistributedLock × Server :=
  if lock.acquired then
    match server.reply fate (Server.unlock lock.token) with
    | (.error error, server) => (.error error, lock, server)
    | (.ok result, server) => (.ok (lock.language.released result), { lock with acquired := false }, server)
  else (.ok false, lock, server)

end DistributedLock

/-! ## Runs -/

/-- The objects on one key, as they are created. -/
structure Fleet (Id : Type) where
  lock : Id -> DistributedLock
  distinct : Function.Injective fun id => (lock id).token

/-- What has been called and answered. -/
inductive Event (Id : Type) where
  | acquire (id : Id) (answer : Except RedisError Bool) (moment : Int)
  | release (id : Id) (answer : Except RedisError Bool)

/-- The server, the flags of the objects, and what has happened, the latest first. -/
structure World (Id : Type) where
  server : Server
  acquired : Id -> Bool
  log : List (Event Id)

inductive Action (Id : Type) where
  | acquire (id : Id) (fate : Fate RedisError)
  | release (id : Id) (fate : Fate RedisError)
  | elapse (milliseconds : Nat)

variable {Id : Type}

def World.initial (server : Server) : World Id where
  server := server
  acquired := fun _ => false
  log := []

section Steps

variable [DecidableEq Id] (fleet : Fleet Id)

/-- The object as it stands. -/
def World.lock (world : World Id) (id : Id) : DistributedLock :=
  { fleet.lock id with acquired := world.acquired id }

def World.acquire (world : World Id) (id : Id) (fate : Fate RedisError) : World Id :=
  match (world.lock fleet id).acquire fate world.server with
  | (answer, lock, server) =>
      { server := server
        acquired := Function.update world.acquired id lock.acquired
        log := .acquire id answer world.server.now :: world.log }

def World.release (world : World Id) (id : Id) (fate : Fate RedisError) : World Id :=
  match (world.lock fleet id).release fate world.server with
  | (answer, lock, server) =>
      { server := server
        acquired := Function.update world.acquired id lock.acquired
        log := .release id answer :: world.log }

def World.step (world : World Id) : Action Id -> World Id
  | .acquire id fate => world.acquire fleet id fate
  | .release id fate => world.release fleet id fate
  | .elapse milliseconds => { world with server := world.server.elapse milliseconds }

/-! ## What a call does -/

/-- The entry of an object that acquires the key now. -/
def World.entryOf (world : World Id) (id : Id) : Entry where
  token := (fleet.lock id).token
  expiresAt := world.server.now + (fleet.lock id).milliseconds

/-- The key is free, and the time of the object is one that an entry can have. -/
def World.Takes (world : World Id) (id : Id) : Prop :=
  world.server.value = none ∧ world.server.validExpireTime (fleet.lock id).milliseconds = true

theorem Language.granted_stored (language : Language) : language.granted (some statusOk) = true := by
  cases language <;> decide

theorem Language.granted_none (language : Language) : language.granted none = false := by
  cases language <;> rfl

/-- The command stores the token, or it leaves the server alone. -/
theorem setIfAbsent_cases (token : Text) (milliseconds : Int) (server : Server) :
    (server.value = none ∧ server.validExpireTime milliseconds = true ∧
        server.setIfAbsent token milliseconds =
          (.ok (some statusOk),
            { server with entry := some { token := token, expiresAt := server.now + milliseconds } })) ∨
      server.setIfAbsent token milliseconds = (.ok none, server) ∨
      server.setIfAbsent token milliseconds = (.error .invalidExpireTime, server) := by
  by_cases valid : server.validExpireTime milliseconds = true
  · cases held : server.value with
    | none => exact Or.inl ⟨rfl, valid, by simp [Server.setIfAbsent, valid, held]⟩
    | some token' => exact Or.inr (Or.inl (by simp [Server.setIfAbsent, valid, held]))
  · exact Or.inr (Or.inr (by simp [Server.setIfAbsent, valid]))

/-- An attempt that is not answered or not granted leaves the server alone, unless the
answer is lost; one that is granted has found the key free. -/
theorem acquire_cases (world : World Id) (id : Id) (fate : Fate RedisError) :
    Exists fun answer =>
      (world.acquire fleet id fate).log = .acquire id answer world.server.now :: world.log ∧
        (((world.acquire fleet id fate).server = world.server ∧ answer ≠ .ok true) ∨
          (world.Takes fleet id ∧
            (world.acquire fleet id fate).server = { world.server with entry := some (world.entryOf fleet id) } ∧
            (answer = .ok true ∨ Exists fun error => fate = .fails error true ∧ answer = .error error))) := by
  have effect := setIfAbsent_cases (fleet.lock id).token (fleet.lock id).milliseconds world.server
  cases fate with
  | served =>
      rcases effect with ⟨free, valid, stored⟩ | refused | invalid
      · refine ⟨.ok true, ?_, Or.inr ⟨⟨free, valid⟩, ?_, Or.inl rfl⟩⟩
        · simp [World.acquire, DistributedLock.acquire, Server.reply, World.lock, stored, Language.granted_stored]
        · simp [World.acquire, DistributedLock.acquire, Server.reply, World.lock, stored, World.entryOf]
      · refine ⟨.ok false, ?_, Or.inl ⟨?_, nofun⟩⟩
        · simp [World.acquire, DistributedLock.acquire, Server.reply, World.lock, refused, Language.granted_none]
        · simp [World.acquire, DistributedLock.acquire, Server.reply, World.lock, refused]
      · refine ⟨.error .invalidExpireTime, ?_, Or.inl ⟨?_, nofun⟩⟩
        · simp [World.acquire, DistributedLock.acquire, Server.reply, World.lock, invalid]
        · simp [World.acquire, DistributedLock.acquire, Server.reply, World.lock, invalid]
  | fails error applied =>
      refine ⟨.error error, ?_, ?_⟩
      · simp [World.acquire, DistributedLock.acquire, Server.reply]
      · cases applied with
        | false => exact Or.inl ⟨by simp [World.acquire, DistributedLock.acquire, Server.reply], nofun⟩
        | true =>
            rcases effect with ⟨free, valid, stored⟩ | refused | invalid
            · refine Or.inr ⟨⟨free, valid⟩, ?_, Or.inr ⟨error, rfl, rfl⟩⟩
              simp [World.acquire, DistributedLock.acquire, Server.reply, World.lock, stored, World.entryOf]
            · exact Or.inl ⟨by simp [World.acquire, DistributedLock.acquire, Server.reply, World.lock, refused], nofun⟩
            · exact Or.inl ⟨by simp [World.acquire, DistributedLock.acquire, Server.reply, World.lock, invalid], nofun⟩

/-- The script deletes the token of its caller and no other. -/
theorem unlock_cases (token : Text) (server : Server) :
    (server.value = some token ∧ server.unlock token = (.ok 1, { server with entry := none })) ∨
      (server.value ≠ some token ∧ server.unlock token = (.ok 0, server)) := by
  by_cases own : server.value = some token
  · exact Or.inl ⟨own, by simp [Server.unlock, own]⟩
  · exact Or.inr ⟨own, by simp [Server.unlock, own]⟩

/-- A release leaves the server alone, or it deletes the object's own token. -/
theorem release_cases (world : World Id) (id : Id) (fate : Fate RedisError) :
    Exists fun answer =>
      (world.release fleet id fate).log = .release id answer :: world.log ∧
        ((world.release fleet id fate).server = world.server ∨
          (world.server.value = some (fleet.lock id).token ∧
            (world.release fleet id fate).server = { world.server with entry := none })) ∧
        (forall released, answer = .ok released -> world.acquired id = true ->
          (world.release fleet id fate).server.value ≠ some (fleet.lock id).token) := by
  cases held : world.acquired id with
  | false =>
      refine ⟨.ok false, ?_, Or.inl ?_, fun _ _ flagged => by cases flagged⟩
      · simp [World.release, DistributedLock.release, World.lock, held]
      · simp [World.release, DistributedLock.release, World.lock, held]
  | true =>
      have effect := unlock_cases (fleet.lock id).token world.server
      cases fate with
      | served =>
          rcases effect with ⟨own, deleted⟩ | ⟨other, kept⟩
          · refine ⟨.ok ((fleet.lock id).language.released 1), ?_, Or.inr ⟨own, ?_⟩, fun _ _ _ => ?_⟩
            · simp [World.release, DistributedLock.release, Server.reply, World.lock, held, deleted]
            · simp [World.release, DistributedLock.release, Server.reply, World.lock, held, deleted]
            · simp [World.release, DistributedLock.release, Server.reply, World.lock, held, deleted, Server.value]
          · refine ⟨.ok ((fleet.lock id).language.released 0), ?_, Or.inl ?_, fun _ _ _ => ?_⟩
            · simp [World.release, DistributedLock.release, Server.reply, World.lock, held, kept]
            · simp [World.release, DistributedLock.release, Server.reply, World.lock, held, kept]
            · simpa [World.release, DistributedLock.release, Server.reply, World.lock, held, kept] using other
      | fails error applied =>
          refine ⟨.error error, ?_, ?_, fun _ answered => by cases answered⟩
          · simp [World.release, DistributedLock.release, Server.reply, World.lock, held]
          · cases applied with
            | false =>
                exact Or.inl (by simp [World.release, DistributedLock.release, Server.reply, World.lock, held])
            | true =>
                rcases effect with ⟨own, deleted⟩ | ⟨other, kept⟩
                · refine Or.inr ⟨own, ?_⟩
                  simp [World.release, DistributedLock.release, Server.reply, World.lock, held, deleted]
                · refine Or.inl ?_
                  simp [World.release, DistributedLock.release, Server.reply, World.lock, held, kept]

/-! ## A lock that is held -/

/-- The object has been told that it has the lock, and has not called `release` since. -/
def Claimed (id : Id) (moment : Int) : List (Event Id) -> Prop
  | [] => False
  | .acquire other answer granted :: log => (other = id ∧ answer = .ok true ∧ granted = moment) ∨ Claimed id moment log
  | .release other _ :: log => other ≠ id ∧ Claimed id moment log

/-- The time of the lock is not over. -/
def World.Unexpired (world : World Id) (id : Id) (moment : Int) : Prop :=
  world.server.now < moment + (fleet.lock id).milliseconds

def World.Holds (world : World Id) (id : Id) : Prop :=
  Exists fun moment => Claimed id moment world.log ∧ world.Unexpired fleet id moment

/-- A claim that is not expired is the entry of the server. -/
def Backed (world : World Id) : Prop :=
  forall id moment, Claimed id moment world.log -> world.Unexpired fleet id moment ->
    world.server.entry =
      some { token := (fleet.lock id).token, expiresAt := moment + (fleet.lock id).milliseconds }

variable {fleet}

omit [DecidableEq Id] in
theorem Backed.value_of_claimed {world : World Id} (backed : Backed fleet world) {id : Id} {moment : Int}
    (claimed : Claimed id moment world.log) (unexpired : world.Unexpired fleet id moment) :
    world.server.value = some (fleet.lock id).token := by
  have stored := backed id moment claimed unexpired
  exact Server.value_eq_some_iff.2 ⟨_, stored, unexpired, rfl⟩

theorem Backed.acquire {world : World Id} (backed : Backed fleet world) (id : Id) (fate : Fate RedisError) :
    Backed fleet (world.acquire fleet id fate) := by
  rcases acquire_cases fleet world id fate with ⟨answer, logged, ⟨same, refused⟩ | ⟨takes, stored, _⟩⟩
  · intro holder moment claimed unexpired
    rw [logged] at claimed
    rw [World.Unexpired, same] at unexpired
    rw [same]
    rcases claimed with ⟨_, granted, _⟩ | claimed
    · exact absurd granted refused
    · exact backed holder moment claimed unexpired
  · intro holder moment claimed unexpired
    rw [logged] at claimed
    rw [World.Unexpired, stored] at unexpired
    rw [stored]
    rcases claimed with ⟨rfl, _, rfl⟩ | claimed
    · rfl
    · -- the key would not have been free
      have held := backed.value_of_claimed claimed unexpired
      rw [takes.1] at held
      cases held

theorem Backed.release {world : World Id} (backed : Backed fleet world) (id : Id) (fate : Fate RedisError) :
    Backed fleet (world.release fleet id fate) := by
  rcases release_cases fleet world id fate with ⟨answer, logged, effect, _⟩
  intro holder moment claimed unexpired
  rw [logged] at claimed
  rcases claimed with ⟨different, claimed⟩
  rcases effect with same | ⟨own, deleted⟩
  · rw [World.Unexpired, same] at unexpired
    rw [same]
    exact backed holder moment claimed unexpired
  · -- what is deleted is the token of the caller, which is not the holder
    rw [World.Unexpired, deleted] at unexpired
    have held := backed.value_of_claimed claimed unexpired
    rw [own] at held
    exact absurd (fleet.distinct (Option.some.inj held)) different

theorem Backed.step {world : World Id} (action : Action Id) (backed : Backed fleet world) :
    Backed fleet (world.step fleet action) := by
  cases action with
  | acquire id fate => exact backed.acquire id fate
  | release id fate => exact backed.release id fate
  | elapse milliseconds =>
      intro holder moment claimed unexpired
      refine backed holder moment claimed ?_
      simp only [World.Unexpired, World.step, Server.elapse] at unexpired ⊢
      omega

theorem Backed.run (server : Server) (history : List (Action Id)) :
    Backed fleet (history.foldl (World.step fleet) (World.initial server)) :=
  Run.invariant _ (fun _ action => Backed.step action) (fun _ _ claimed _ => by cases claimed) history

variable (fleet)

/-- What an object that holds the lock relies on. -/
structure Safe (world : World Id) : Prop where
  stored : forall id, world.Holds fleet id -> world.server.value = some (fleet.lock id).token
  atMostOne : forall id other, world.Holds fleet id -> world.Holds fleet other -> id = other
  undisturbed : forall id other fate, world.Holds fleet id -> other ≠ id ->
    (world.acquire fleet other fate).server.value = world.server.value ∧
      (world.release fleet other fate).server.value = world.server.value

variable {fleet}

theorem Backed.safe {world : World Id} (backed : Backed fleet world) : Safe fleet world := by
  have stored : forall id, world.Holds fleet id -> world.server.value = some (fleet.lock id).token := by
    rintro id ⟨moment, claimed, unexpired⟩
    exact backed.value_of_claimed claimed unexpired
  refine ⟨stored, fun id other holds holds' => ?_, fun id other fate holds different => ⟨?_, ?_⟩⟩
  · have same := (stored id holds).symm.trans (stored other holds')
    exact fleet.distinct (Option.some.inj same)
  · rcases acquire_cases fleet world other fate with ⟨_, _, ⟨same, _⟩ | ⟨takes, _, _⟩⟩
    · rw [same]
    · have free := takes.1
      rw [stored id holds] at free
      cases free
  · rcases release_cases fleet world other fate with ⟨_, _, same | ⟨own, _⟩, _⟩
    · rw [same]
    · rw [stored id holds] at own
      exact absurd (fleet.distinct (Option.some.inj own)).symm different

variable (fleet)

/-- Whatever the objects do and however their calls end, an object that holds the lock
is the only one, and no other one moves its token. -/
theorem lock_safe (server : Server) (history : List (Action Id)) :
    Safe fleet (history.foldl (World.step fleet) (World.initial server)) :=
  (Backed.run server history).safe

/-! ## A lock that is given back -/

/-- A release has returned, and no acquire has been granted since. -/
def Relinquished (id : Id) : List (Event Id) -> Prop
  | [] => False
  | .acquire other answer _ :: log => ¬(other = id ∧ answer = .ok true) ∧ Relinquished id log
  | .release other answer :: log => (other = id ∧ Exists fun released => answer = .ok released) ∨ Relinquished id log

/-- The key does not hold the token of an object that has given the lock back. -/
def Free (id : Id) (world : World Id) : Prop :=
  Relinquished id world.log -> world.server.value ≠ some (fleet.lock id).token

/-- A release finds the flag set when the key holds the object's token, and no attempt
takes the key back without the object being told. -/
def Sound (id : Id) (world : World Id) : Action Id -> Prop
  | .acquire other (.fails _ true) => other = id -> Relinquished id world.log -> ¬world.Takes fleet id
  | .acquire _ .served => True
  | .acquire _ (.fails _ false) => True
  | .release other _ => other = id -> world.server.value = some (fleet.lock id).token -> world.acquired id = true
  | .elapse _ => True

variable {fleet}

omit [DecidableEq Id] in
/-- The token of an object that takes the key is there. -/
theorem World.Takes.value {world : World Id} {id : Id} (takes : world.Takes fleet id) :
    Server.value { world.server with entry := some (world.entryOf fleet id) } = some (fleet.lock id).token := by
  have valid := of_decide_eq_true takes.2
  refine Server.value_eq_some_iff.2 ⟨world.entryOf fleet id, rfl, ?_, rfl⟩
  simp only [World.entryOf]
  omega

theorem Free.acquire {world : World Id} {id other : Id} {fate : Fate RedisError} (free : Free fleet id world)
    (sound : Sound fleet id world (.acquire other fate)) : Free fleet id (world.acquire fleet other fate) := by
  intro relinquished holds
  rcases acquire_cases fleet world other fate with ⟨answer, logged, ⟨same, _⟩ | ⟨takes, stored, told⟩⟩
  · rw [logged] at relinquished
    rw [same] at holds
    exact free relinquished.2 holds
  · rw [logged] at relinquished
    rcases relinquished with ⟨ungranted, relinquished⟩
    -- the token that is stored now is the caller's
    rw [stored, takes.value] at holds
    have same : other = id := fleet.distinct (Option.some.inj holds)
    rcases told with granted | ⟨error, rfl, _⟩
    · exact ungranted ⟨same, granted⟩
    · exact sound same relinquished (same ▸ takes)

theorem Free.release {world : World Id} {id other : Id} {fate : Fate RedisError} (free : Free fleet id world)
    (sound : Sound fleet id world (.release other fate)) : Free fleet id (world.release fleet other fate) := by
  rcases release_cases fleet world other fate with ⟨answer, logged, effect, cleared⟩
  intro relinquished holds
  have earlier : world.server.value = some (fleet.lock id).token := by
    rcases effect with same | ⟨_, deleted⟩
    · rwa [same] at holds
    · rw [deleted] at holds
      cases holds
  rw [logged] at relinquished
  rcases relinquished with ⟨rfl, released, answered⟩ | relinquished
  · exact cleared released answered (sound rfl earlier) holds
  · exact free relinquished earlier

theorem Free.elapse {world : World Id} {id : Id} (free : Free fleet id world) (milliseconds : Nat) :
    Free fleet id (world.step fleet (.elapse milliseconds)) := by
  intro relinquished holds
  rcases Server.value_eq_some_iff.1 holds with ⟨entry, stored, running, token⟩
  refine free relinquished (Server.value_eq_some_iff.2 ⟨entry, stored, ?_, token⟩)
  simp only [World.step, Server.elapse] at running
  omega

/-- An attempt whose answer is lost leaves the token of an object that gave the lock back. -/
theorem Free.acquire_sound {world : World Id} {id other : Id} {fate : Fate RedisError}
    (free : Free fleet id (world.acquire fleet other fate)) : Sound fleet id world (.acquire other fate) := by
  cases fate with
  | served => exact trivial
  | fails error applied =>
      cases applied with
      | false => exact trivial
      | true =>
          rintro rfl relinquished takes
          have stores : (world.acquire fleet other (.fails error true)).server =
              { world.server with entry := some (world.entryOf fleet other) } := by
            rcases setIfAbsent_cases (fleet.lock other).token (fleet.lock other).milliseconds world.server with
              ⟨_, _, stored⟩ | refused | invalid
            · simp [World.acquire, DistributedLock.acquire, Server.reply, World.lock, stored, World.entryOf]
            · simp [Server.setIfAbsent, takes.1, takes.2] at refused
            · simp [Server.setIfAbsent, takes.1, takes.2] at invalid
          refine free ?_ (stores ▸ takes.value)
          exact ⟨(fun granted => nomatch granted.2), relinquished⟩

/-- A release that finds its flag cleared leaves the token. -/
theorem Free.release_sound {world : World Id} {id other : Id} {fate : Fate RedisError}
    (free : Free fleet id (world.release fleet other fate)) : Sound fleet id world (.release other fate) := by
  rintro rfl holds
  by_contra cleared
  have unset : world.acquired other = false := Bool.eq_false_iff.2 cleared
  have kept : (world.release fleet other fate).server = world.server := by
    simp [World.release, DistributedLock.release, World.lock, unset]
  have logged : (world.release fleet other fate).log = .release other (.ok false) :: world.log := by
    simp [World.release, DistributedLock.release, World.lock, unset]
  refine free ?_ (kept ▸ holds)
  rw [logged]
  exact Or.inl ⟨rfl, false, rfl⟩

theorem Free.step_iff {world : World Id} {id : Id} {action : Action Id} (free : Free fleet id world) :
    Free fleet id (world.step fleet action) <-> Sound fleet id world action := by
  cases action with
  | acquire other fate => exact ⟨Free.acquire_sound, free.acquire⟩
  | release other fate => exact ⟨Free.release_sound, free.release⟩
  | elapse milliseconds => exact iff_of_true (free.elapse milliseconds) trivial

variable (fleet)

/-- The token of an object that gave the lock back is gone in every state of a run, exactly
when the steps of the run are sound for the object. -/
theorem released_lock_free_iff (id : Id) (server : Server) (history : List (Action Id)) :
    (forall earlier, earlier <+: history ->
        Free fleet id (earlier.foldl (World.step fleet) (World.initial server))) <->
      Run.Guarded (World.step fleet) (Sound fleet id) (World.initial server) history :=
  (Run.guarded_iff_of_step (fun _ _ free => free.step_iff) (fun relinquished => by cases relinquished) history).symm

end Steps

/-- One object, whose lock lasts for a second. -/
def loneFleet : Fleet Unit where
  lock := fun _ => rustLock "3f2b".toList 1000000000
  distinct := fun _ _ _ => rfl

def emptyServer : Server where
  now := 0
  entry := none

/-- An attempt to take the lock again is refused, and the object forgets that it has it:
its release does nothing. -/
theorem retaken_lock_kept :
    ¬(forall history : List (Action Unit),
      Free loneFleet () (history.foldl (World.step loneFleet) (World.initial emptyServer))) := by
  intro free
  have kept := free [.acquire () .served, .acquire () .served, .release () .served]
  exact kept (Or.inl ⟨rfl, false, rfl⟩) rfl

end Locks
end ApexQuant
