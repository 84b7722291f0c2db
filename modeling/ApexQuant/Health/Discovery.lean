import ApexQuant.Foundation.Leases
import ApexQuant.Foundation.Text

namespace ApexQuant
namespace Health

open Foundation

/-!
# Service discovery

The table `health.service_registry` with `reap_stale_instances`, and the client of
`registry.py` that keeps a row of it alive.  A statement is committed in full or not at
all; the clock of each is the database's, and nothing is assumed of how these follow one
another.  A row is a lease of its instance: registrations and heartbeats renew it, and a
reaper takes back those that were not renewed for sixty seconds.
-/

/-- A moment in microseconds, as `timestamptz` has it. -/
abbrev Moment := Int

/-- `INTERVAL '60 seconds'` -/
def sixtySeconds : Moment := 60000000

inductive ServiceStatus where
  | starting
  | healthy
  | degraded
  | unhealthy
  | shutdown
  deriving DecidableEq

/-- A row of the registry. -/
structure Instance where
  instanceId : Text
  serviceName : Text
  plane : Text
  environment : Text
  version : Text
  endpoint : Text
  status : ServiceStatus
  registeredAt : Moment
  lastHeartbeat : Moment
  deriving DecidableEq

abbrev ServiceRegistry := Table Instance.instanceId

/-- Why a statement has no effect. -/
inductive Refusal where
  | zeroByte
  | checkViolation
  | connection
  deriving DecidableEq

structure ServiceRegistryClient where
  serviceName : Text
  plane : Text
  environment : Text
  version : Text
  endpoint : Text
  instanceId : Text
  deriving DecidableEq

/-- The constructor: an instance without an identifier is named by its service, its host
and the address of the object. -/
def ServiceRegistryClient.new (hostname address serviceName plane environment version endpoint : Text)
    (instanceId : Option Text) : ServiceRegistryClient where
  serviceName := serviceName
  plane := plane
  environment := environment
  version := version
  endpoint := endpoint
  instanceId :=
    match instanceId with
    | none | some [] => serviceName ++ "-".toList ++ hostname ++ "-".toList ++ address
    | some given => given

/-! ## Statements -/

namespace ServiceRegistryClient

/-- The parameters of the `INSERT`. -/
def sendable (client : ServiceRegistryClient) : Bool :=
  [client.instanceId, client.serviceName, client.plane, client.environment, client.version, client.endpoint].all Text.sendable

/-- The constraints of the table. -/
def named (client : ServiceRegistryClient) : Bool :=
  Text.notBlank client.serviceName && Text.notBlank client.plane && Text.notBlank client.endpoint

/-- The row that an `INSERT` proposes. -/
def row (client : ServiceRegistryClient) (now : Moment) : Instance where
  instanceId := client.instanceId
  serviceName := client.serviceName
  plane := client.plane
  environment := client.environment
  version := client.version
  endpoint := client.endpoint
  status := .healthy
  registeredAt := now
  lastHeartbeat := now

end ServiceRegistryClient

/-- The assignments of a heartbeat, and of a registration of an instance with a row. -/
def Instance.renew (now : Moment) (row : Instance) : Instance :=
  { row with status := .healthy, lastHeartbeat := now }

/-- The assignment of `deregister`. -/
def Instance.close (row : Instance) : Instance :=
  { row with status := .shutdown }

@[simp] theorem Instance.instanceId_renew (now : Moment) (row : Instance) : (row.renew now).instanceId = row.instanceId := rfl

@[simp] theorem Instance.instanceId_close (row : Instance) : row.close.instanceId = row.instanceId := rfl

@[simp] theorem ServiceRegistryClient.instanceId_row (client : ServiceRegistryClient) (now : Moment) :
    (client.row now).instanceId = client.instanceId := rfl

/-- The condition of `reap_stale_instances`. -/
def Instance.stale (now : Moment) (row : Instance) : Bool :=
  decide (row.lastHeartbeat < now - sixtySeconds) && decide (row.status ≠ .shutdown)

/-- `register`.  The constraints are checked on the row that is proposed, also when
another is updated instead. -/
def ServiceRegistryClient.register (client : ServiceRegistryClient) (now : Moment) (registry : ServiceRegistry) :
    Except Refusal ServiceRegistry :=
  if !client.sendable then .error .zeroByte
  else if !client.named then .error .checkViolation
  else .ok (registry.upsert (client.row now) (Instance.renew now) (Instance.instanceId_renew now))

/-- `heartbeat` -/
def ServiceRegistryClient.heartbeat (client : ServiceRegistryClient) (now : Moment) (registry : ServiceRegistry) :
    Except Refusal ServiceRegistry :=
  if !Text.sendable client.instanceId then .error .zeroByte
  else .ok (registry.touch client.instanceId (Instance.renew now) (Instance.instanceId_renew now))

/-- `deregister` -/
def ServiceRegistryClient.deregister (client : ServiceRegistryClient) (registry : ServiceRegistry) :
    Except Refusal ServiceRegistry :=
  if !Text.sendable client.instanceId then .error .zeroByte
  else .ok (registry.touch client.instanceId Instance.close Instance.instanceId_close)

/-- `health.reap_stale_instances`: how many rows it deletes, and what it leaves. -/
def reapStaleInstances (now : Moment) (registry : ServiceRegistry) : Nat × ServiceRegistry :=
  ((registry.rows.filter (Instance.stale now)).length, registry.filter fun row => !row.stale now)

inductive Statement where
  | register (client : ServiceRegistryClient)
  | heartbeat (client : ServiceRegistryClient)
  | deregister (client : ServiceRegistryClient)
  | reapStaleInstances

/-- A statement with the clock of its transaction and whether that reaches its commit. -/
structure Event where
  statement : Statement
  now : Moment
  commits : Bool

def Event.serve (event : Event) (registry : ServiceRegistry) : Except Refusal ServiceRegistry :=
  match event.statement with
  | .register client => client.register event.now registry
  | .heartbeat client => client.heartbeat event.now registry
  | .deregister client => client.deregister registry
  | .reapStaleInstances => .ok (reapStaleInstances event.now registry).2

/-- What the table holds after a statement. -/
def ServiceRegistry.step (registry : ServiceRegistry) (event : Event) : ServiceRegistry :=
  match event.serve registry with
  | .ok after => if event.commits then after else registry
  | .error _ => registry

/-- What the table holds after a history that starts without rows. -/
def ServiceRegistry.after (events : List Event) : ServiceRegistry :=
  events.foldl ServiceRegistry.step Table.empty

/-! ## What a history says of an instance -/

/-- The event is an accepted registration of the instance. -/
def Event.registers (instanceId : Text) (event : Event) : Bool :=
  event.commits &&
    match event.statement with
    | .register client => client.sendable && client.named && decide (client.instanceId = instanceId)
    | _ => false

/-- The moment to which the event renews the instance. -/
def Event.beat (instanceId : Text) (event : Event) : Option Moment :=
  match event.statement with
  | .register _ => if event.registers instanceId then some event.now else none
  | .heartbeat client =>
      if event.commits && Text.sendable client.instanceId && decide (client.instanceId = instanceId) then some event.now
      else none
  | _ => none

/-- The event is an accepted departure of the instance. -/
def Event.departs (instanceId : Text) (event : Event) : Bool :=
  event.commits &&
    match event.statement with
    | .deregister client => Text.sendable client.instanceId && decide (client.instanceId = instanceId)
    | _ => false

/-- The status to which the event takes the instance. -/
def Event.status (instanceId : Text) (event : Event) : Option ServiceStatus :=
  if event.departs instanceId then some .shutdown else (event.beat instanceId).map fun _ => .healthy

def lastBeat (instanceId : Text) (events : List Event) : Option Moment :=
  (events.filterMap (Event.beat instanceId)).getLast?

def lastStatus (instanceId : Text) (events : List Event) : Option ServiceStatus :=
  (events.filterMap (Event.status instanceId)).getLast?

/-- The event is a reaper that finds the instance silent for more than sixty seconds and
not shut down. -/
def Event.Reaps (instanceId : Text) (earlier : List Event) (event : Event) : Prop :=
  event.commits = true ∧ event.statement = .reapStaleInstances ∧ lastStatus instanceId earlier ≠ some .shutdown ∧
    Exists fun beat => lastBeat instanceId earlier = some beat ∧ beat < event.now - sixtySeconds

/-- No reaper after a registration finds the instance silent. -/
def Unreaped (instanceId : Text) (registration : Event) (later : List Event) : Prop :=
  forall middle reaper rest, later = middle ++ reaper :: rest -> ¬reaper.Reaps instanceId (registration :: middle)

/-- A row as the events after its registration leave it. -/
def Instance.shown (row : Instance) (events : List Event) : Instance :=
  { row with
    status := (lastStatus row.instanceId events).getD row.status
    lastHeartbeat := (lastBeat row.instanceId events).getD row.lastHeartbeat }

/-! ## The row of one instance -/

/-- What an event makes of the row of an instance. -/
def leaseRules (instanceId : Text) : LeaseRules Instance Event where
  grant := fun event =>
    match event.statement with
    | .register client => if event.registers instanceId then some (client.row event.now) else none
    | _ => none
  change := fun row event =>
    match event.statement with
    | .reapStaleInstances => if event.commits && row.stale event.now then none else some row
    | _ =>
        if event.departs instanceId then some row.close
        else some ((event.beat instanceId).elim row fun now => row.renew now)

theorem find_filter_stale (registry : ServiceRegistry) (now : Moment) (instanceId : Text) :
    (reapStaleInstances now registry).2.find instanceId =
      (registry.find instanceId).bind fun row => if row.stale now then none else some row := by
  unfold reapStaleInstances
  rw [Table.find_filter]
  cases registry.find instanceId with
  | none => rfl
  | some row => cases stale : row.stale now <;> simp [Option.filter_some, stale]

/-- A transaction that does not commit leaves the table as it is. -/
theorem step_of_lost {registry : ServiceRegistry} {event : Event} (lost : event.commits = false) :
    registry.step event = registry := by
  unfold ServiceRegistry.step
  rw [lost]
  cases event.serve registry <;> rfl

theorem leaseRules_step_of_lost {instanceId : Text} {held : Option Instance} {event : Event}
    (lost : event.commits = false) : (leaseRules instanceId).step held event = held := by
  rcases event with ⟨statement, now, commits⟩
  cases lost
  cases held <;> cases statement <;> simp [LeaseRules.step, leaseRules, Event.registers, Event.departs, Event.beat]

/-- The table changes row by row. -/
theorem find_step (registry : ServiceRegistry) (event : Event) (instanceId : Text) :
    (registry.step event).find instanceId = (leaseRules instanceId).step (registry.find instanceId) event := by
  by_cases committed : event.commits = true
  case neg =>
    rw [step_of_lost (Bool.eq_false_iff.mpr committed), leaseRules_step_of_lost (Bool.eq_false_iff.mpr committed)]
  rcases event with ⟨statement, now, commits⟩
  cases committed
  cases statement with
  | register client =>
      unfold ServiceRegistry.step Event.serve ServiceRegistryClient.register
      by_cases same : client.instanceId = instanceId
      case pos =>
        subst same
        cases found : registry.find client.instanceId <;> cases sendable : client.sendable <;>
          cases named : client.named <;>
          simp [LeaseRules.step, leaseRules, Event.registers, Event.departs, Event.beat, Table.find_upsert, sendable,
            named, found]
      case neg =>
        cases found : registry.find instanceId <;> cases sendable : client.sendable <;> cases named : client.named <;>
          simp [LeaseRules.step, leaseRules, Event.registers, Event.departs, Event.beat, Table.find_upsert, sendable,
            named, same, found]
  | heartbeat client =>
      unfold ServiceRegistry.step Event.serve ServiceRegistryClient.heartbeat
      by_cases same : client.instanceId = instanceId
      case pos =>
        subst same
        cases found : registry.find client.instanceId <;> cases sendable : Text.sendable client.instanceId <;>
          simp [LeaseRules.step, leaseRules, Event.departs, Event.beat, Table.find_touch, sendable, found]
      case neg =>
        cases found : registry.find instanceId <;> cases sendable : Text.sendable client.instanceId <;>
          simp [LeaseRules.step, leaseRules, Event.departs, Event.beat, Table.find_touch, sendable, same, found]
  | deregister client =>
      unfold ServiceRegistry.step Event.serve ServiceRegistryClient.deregister
      by_cases same : client.instanceId = instanceId
      case pos =>
        subst same
        cases found : registry.find client.instanceId <;> cases sendable : Text.sendable client.instanceId <;>
          simp [LeaseRules.step, leaseRules, Event.departs, Event.beat, Table.find_touch, sendable, found]
      case neg =>
        cases found : registry.find instanceId <;> cases sendable : Text.sendable client.instanceId <;>
          simp [LeaseRules.step, leaseRules, Event.departs, Event.beat, Table.find_touch, sendable, same, found]
  | reapStaleInstances =>
      unfold ServiceRegistry.step Event.serve
      simp only [if_true, find_filter_stale]
      cases registry.find instanceId <;> simp [LeaseRules.step, leaseRules]

theorem find_after (events : List Event) (instanceId : Text) :
    (ServiceRegistry.after events).find instanceId = (leaseRules instanceId).run none events := by
  induction events using List.reverseRecOn with
  | nil => rfl
  | append_singleton events last ih =>
      rw [LeaseRules.run_concat, ← ih, ← find_step]
      simp [ServiceRegistry.after]

/-! ## What later events leave of a row -/

theorem getLast?_filterMap_concat {Item Value : Type} (read : Item -> Option Value) (items : List Item) (last : Item) :
    ((items ++ [last]).filterMap read).getLast? = (read last).or (items.filterMap read).getLast? := by
  rw [List.filterMap_append, List.getLast?_append]
  cases known : read last <;> simp [known]

theorem getLast?_filterMap_cons {Item Value : Type} (read : Item -> Option Value) (first : Item) (items : List Item) :
    ((first :: items).filterMap read).getLast? = ((items.filterMap read).getLast?).or (read first) := by
  cases known : read first with
  | none => simp [known]
  | some value => simp [known, List.getLast?_cons]

theorem beat_of_departs {instanceId : Text} {event : Event} (departs : event.departs instanceId = true) :
    event.beat instanceId = none := by
  rcases event with ⟨statement, now, commits⟩
  cases statement <;> simp [Event.departs] at departs
  rfl

/-- What an event leaves of a row: the row closed, renewed or as it was. -/
theorem of_change {instanceId : Text} {row kept : Instance} {event : Event}
    (changed : (leaseRules instanceId).change row event = some kept) :
    (event.departs instanceId = true ∧ kept = row.close) ∨
      (event.departs instanceId = false ∧ kept = (event.beat instanceId).elim row fun now => row.renew now) := by
  rcases event with ⟨statement, now, commits⟩
  have split_departs {departs : Bool} {other : Instance}
      (chosen : (if departs = true then some row.close else some other) = some kept) :
      (departs = true ∧ kept = row.close) ∨ (departs = false ∧ kept = other) := by
    cases departs with
    | true => exact Or.inl ⟨rfl, (Option.some.inj chosen).symm⟩
    | false => exact Or.inr ⟨rfl, (Option.some.inj chosen).symm⟩
  cases statement with
  | register client => exact split_departs changed
  | heartbeat client => exact split_departs changed
  | deregister client => exact split_departs changed
  | reapStaleInstances =>
      rw [leaseRules] at changed
      dsimp only at changed
      split at changed
      · cases changed
      · cases changed
        exact Or.inr ⟨by simp [Event.departs], rfl⟩

/-- Whatever is left of a row shows the last beat and the last status after it. -/
theorem keep_eq_shown {row kept : Instance} {events : List Event}
    (left : (leaseRules row.instanceId).keep row events = some kept) : kept = row.shown events := by
  induction events using List.reverseRecOn generalizing kept with
  | nil =>
      cases left
      rfl
  | append_singleton events last ih =>
      rw [LeaseRules.keep_concat] at left
      rcases Option.bind_eq_some_iff.mp left with ⟨before, survived, changed⟩
      rw [ih survived] at changed
      unfold Instance.shown lastBeat lastStatus
      rw [getLast?_filterMap_concat, getLast?_filterMap_concat, Event.status]
      rcases of_change changed with ⟨departs, rfl⟩ | ⟨stays, rfl⟩
      · simp [departs, beat_of_departs departs, Instance.close, Instance.shown, lastBeat]
      · cases beat : last.beat row.instanceId <;>
          simp [stays, Instance.renew, Instance.shown, lastBeat, lastStatus]

/-- An event takes a row away when it is a committed reaper that finds it stale. -/
theorem change_eq_none_iff {instanceId : Text} {row : Instance} {event : Event} :
    (leaseRules instanceId).change row event = none <->
      event.commits = true ∧ event.statement = .reapStaleInstances ∧ row.stale event.now = true := by
  rcases event with ⟨statement, now, commits⟩
  cases statement <;> simp [leaseRules] <;> split <;> simp

/-- A registration leaves a row that is healthy and beats at its moment. -/
theorem step_of_registers {instanceId : Text} {held : Option Instance} {event : Event}
    (registers : event.registers instanceId = true)
    (owned : forall row, held = some row -> row.instanceId = instanceId) :
    Exists fun row => (leaseRules instanceId).step held event = some row ∧ row.instanceId = instanceId ∧
      row.status = .healthy ∧ row.lastHeartbeat = event.now := by
  rcases event with ⟨statement, now, commits⟩
  cases statement with
  | register client =>
      cases held with
      | none =>
          refine ⟨client.row now, by simp [LeaseRules.step, leaseRules, registers], ?_, rfl, rfl⟩
          simp only [Event.registers, Bool.and_eq_true, decide_eq_true_eq] at registers
          exact registers.2.2
      | some row =>
          exact ⟨row.renew now, by simp [LeaseRules.step, leaseRules, Event.beat, Event.departs, registers],
            owned row rfl, rfl, rfl⟩
  | heartbeat client => simp [Event.registers] at registers
  | deregister client => simp [Event.registers] at registers
  | reapStaleInstances => simp [Event.registers] at registers

theorem beat_of_registers {instanceId : Text} {event : Event} (registers : event.registers instanceId = true) :
    event.beat instanceId = some event.now ∧ event.status instanceId = some .healthy := by
  rcases event with ⟨statement, now, commits⟩
  cases statement with
  | register client => simp [Event.beat, Event.status, Event.departs, registers]
  | heartbeat client => simp [Event.registers] at registers
  | deregister client => simp [Event.registers] at registers
  | reapStaleInstances => simp [Event.registers] at registers

/-- A row that a registration has just written is kept as long as no reaper finds the
instance silent. -/
theorem keep_isSome_iff_unreaped {row : Instance} {registration : Event} {later : List Event}
    (registers : registration.registers row.instanceId = true) (healthy : row.status = .healthy)
    (beats : row.lastHeartbeat = registration.now) :
    ((leaseRules row.instanceId).keep row later).isSome = true <-> Unreaped row.instanceId registration later := by
  rcases beat_of_registers registers with ⟨beat, status⟩
  -- What a reaper finds is the last beat and the last status since the registration.
  have found (middle : List Event) (reaper : Event) :
      reaper.Reaps row.instanceId (registration :: middle) <->
        (leaseRules row.instanceId).change (row.shown middle) reaper = none := by
    rw [change_eq_none_iff, Event.Reaps, lastBeat, lastStatus, getLast?_filterMap_cons, getLast?_filterMap_cons, beat,
      status, Instance.stale, Instance.shown, lastBeat, lastStatus, healthy, beats]
    cases (middle.filterMap (Event.beat row.instanceId)).getLast? <;>
      cases (middle.filterMap (Event.status row.instanceId)).getLast? <;> simp <;> tauto
  rw [LeaseRules.keep_isSome_iff]
  constructor
  · intro never middle reaper rest split reaps
    cases left : (leaseRules row.instanceId).keep row middle with
    | none =>
        have earlier : ((leaseRules row.instanceId).keep row middle).isSome = true :=
          LeaseRules.keep_isSome_iff.mpr fun before event after split' =>
            never before event (after ++ reaper :: rest) (by simp [split, split'])
        simp [left] at earlier
    | some kept =>
        have survives := never middle reaper rest split kept left
        rw [keep_eq_shown left, (found middle reaper).mp reaps] at survives
        cases survives
  · intro unreaped before event after split kept left
    rw [keep_eq_shown left, Option.isSome_iff_ne_none]
    exact fun lost => unreaped before event after split ((found before event).mpr lost)

/-! ## Histories -/

theorem instanceId_of_find {registry : ServiceRegistry} {instanceId : Text} {row : Instance}
    (found : registry.find instanceId = some row) : row.instanceId = instanceId :=
  (Table.mem_of_find found).2

theorem grant_eq_some_iff {instanceId : Text} {event : Event} {row : Instance} :
    (leaseRules instanceId).grant event = some row <->
      event.registers instanceId = true ∧ Exists fun client =>
        event.statement = .register client ∧ client.row event.now = row := by
  rcases event with ⟨statement, now, commits⟩
  cases statement <;> simp [leaseRules]

theorem instanceId_of_registers {instanceId : Text} {event : Event} {client : ServiceRegistryClient}
    (registers : event.registers instanceId = true) (statement : event.statement = .register client) :
    client.instanceId = instanceId := by
  rw [Event.registers, statement] at registers
  simp only [Bool.and_eq_true, decide_eq_true_eq] at registers
  exact registers.2.2

/-- A row goes back to the registration that inserted it, and was never stale since. -/
theorem find_after_eq_some {events : List Event} {instanceId : Text} {row : Instance}
    (found : (ServiceRegistry.after events).find instanceId = some row) :
    Exists fun before => Exists fun registration => Exists fun later => Exists fun client =>
      events = before ++ registration :: later ∧ registration.registers instanceId = true ∧
        registration.statement = .register client ∧ (ServiceRegistry.after before).find instanceId = none ∧
        Unreaped instanceId registration later ∧ row = (client.row registration.now).shown later := by
  rw [find_after] at found
  rcases LeaseRules.run_eq_some_iff.mp found with ⟨before, registration, later, granted, split, absent, grants, kept⟩
  rcases grant_eq_some_iff.mp grants with ⟨registers, client, statement, rfl⟩
  rcases instanceId_of_registers registers statement with rfl
  refine ⟨before, registration, later, client, split, registers, statement, (find_after _ _).trans absent, ?_,
    keep_eq_shown kept⟩
  refine (@keep_isSome_iff_unreaped (client.row registration.now) _ _ registers rfl rfl).mp ?_
  exact Option.isSome_iff_exists.mpr ⟨row, kept⟩

/-- Over every history an instance is in the registry exactly when a registration of it is
followed by no reaper that finds it silent for more than sixty seconds. -/
theorem listed_iff (events : List Event) (instanceId : Text) :
    ((ServiceRegistry.after events).find instanceId).isSome = true <->
      Exists fun before => Exists fun registration => Exists fun later =>
        events = before ++ registration :: later ∧ registration.registers instanceId = true ∧
          Unreaped instanceId registration later := by
  constructor
  · intro listed
    rcases Option.isSome_iff_exists.mp listed with ⟨row, found⟩
    rcases find_after_eq_some found with ⟨before, registration, later, client, split, registers, -, -, unreaped, -⟩
    exact ⟨before, registration, later, split, registers, unreaped⟩
  · rintro ⟨before, registration, later, rfl, registers, unreaped⟩
    have owned (row : Instance) (held : (ServiceRegistry.after before).find instanceId = some row) :=
      instanceId_of_find held
    rcases step_of_registers registers owned with ⟨row, written, rfl, healthy, beats⟩
    rw [find_after, LeaseRules.run_append, ← find_after]
    change ((leaseRules row.instanceId).run ((leaseRules row.instanceId).step _ registration) later).isSome = true
    rw [written]
    rcases Option.isSome_iff_exists.mp ((keep_isSome_iff_unreaped registers healthy beats).mpr unreaped) with ⟨kept, left⟩
    rw [LeaseRules.run_of_keep left]
    rfl

/-- The row of an instance shows what the registration said that found none of it, however
often and with whatever values the instance was registered since, with the status and the
moment of what was heard of it last. -/
theorem found_iff (events : List Event) (instanceId : Text) (row : Instance) :
    (ServiceRegistry.after events).find instanceId = some row <->
      Exists fun before => Exists fun registration => Exists fun later => Exists fun client =>
        events = before ++ registration :: later ∧ registration.registers instanceId = true ∧
          registration.statement = .register client ∧ (ServiceRegistry.after before).find instanceId = none ∧
          Unreaped instanceId registration later ∧ row = (client.row registration.now).shown later := by
  refine ⟨find_after_eq_some, ?_⟩
  rintro ⟨before, registration, later, client, rfl, registers, statement, absent, unreaped, rfl⟩
  rcases instanceId_of_registers registers statement with rfl
  rcases Option.isSome_iff_exists.mp
      ((@keep_isSome_iff_unreaped (client.row registration.now) _ _ registers rfl rfl).mpr unreaped) with ⟨kept, left⟩
  rw [find_after]
  refine LeaseRules.run_eq_some_iff.mpr ⟨before, registration, later, client.row registration.now, rfl, ?_, ?_, ?_⟩
  · rw [← find_after, absent]
  · exact grant_eq_some_iff.mpr ⟨registers, client, statement, rfl⟩
  · rw [← keep_eq_shown left]
    exact left

/-! ## Clients with a heartbeat task -/

/-- What `_heartbeat_task` holds: nothing, a loop that runs, or one that was cancelled. -/
inductive HeartbeatTask where
  | none
  | running
  | cancelled
  deriving DecidableEq

section Clients

variable {Client : Type} [DecidableEq Client]

/-- The registry and the task of every client object. -/
structure Fleet (Client : Type) where
  registry : ServiceRegistry
  tasks : Client -> HeartbeatTask

/-- What a client object is told to do, a wake of its loop among it, or a reaper. -/
inductive Action (Client : Type) where
  | register (client : Client)
  | startHeartbeat (client : Client)
  | wake (client : Client)
  | stop (client : Client)
  | reapStaleInstances

/-- An action with the clock of its transaction and whether that reaches its commit. -/
structure Move (Client : Type) where
  action : Action Client
  now : Moment
  commits : Bool

/-- The statement that an action sends.  A loop that does not run never wakes. -/
def Fleet.statement (clients : Client -> ServiceRegistryClient) (fleet : Fleet Client) : Action Client -> Option Statement
  | .register client => some (.register (clients client))
  | .startHeartbeat _ => none
  | .wake client => if fleet.tasks client = .running then some (.heartbeat (clients client)) else none
  | .stop client => some (.deregister (clients client))
  | .reapStaleInstances => some .reapStaleInstances

/-- `start_heartbeat` makes a task when there was none, and `stop` cancels one that there is.
The loop goes on after a heartbeat that failed. -/
def Fleet.tasksAfter (fleet : Fleet Client) : Action Client -> Client -> HeartbeatTask
  | .startHeartbeat client =>
      Function.update fleet.tasks client (if fleet.tasks client = .none then .running else fleet.tasks client)
  | .stop client =>
      Function.update fleet.tasks client (if fleet.tasks client = .none then .none else .cancelled)
  | _ => fleet.tasks

def Fleet.step (clients : Client -> ServiceRegistryClient) (fleet : Fleet Client) (move : Move Client) : Fleet Client where
  registry :=
    match fleet.statement clients move.action with
    | none => fleet.registry
    | some statement => fleet.registry.step { statement := statement, now := move.now, commits := move.commits }
  tasks := fleet.tasksAfter move.action

/-- The move is a registration by the client that is committed. -/
def Move.Registers (client : Client) (move : Move Client) : Prop :=
  move.action = .register client ∧ move.commits = true

end Clients

end Health
end ApexQuant
