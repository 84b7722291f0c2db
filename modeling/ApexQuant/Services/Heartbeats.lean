import ApexQuant.Services.Registry

namespace ApexQuant
namespace Services

open Foundation

/-!
# The last heartbeat

A heartbeat overwrites the state of its service and the moment of the last heartbeat,
whatever moment stands there.  After any run the row shows the heartbeat that was
committed last.  That is the latest one when messages arrive in the order in which they
were observed; a message that was held up wins over all that overtook it.
-/

/-- A heartbeat that the database keeps: as it was observed, and as it is written. -/
structure Beat where
  serviceId : Text
  state : Text
  observedAt : Moment
  keptAt : Moment
  deriving DecidableEq

/-- What `record_heartbeat` writes for the service, when it is registered. -/
def Heartbeat.beat (packages : Packages) (heartbeat : Heartbeat) : Option Beat :=
  match stateToDb heartbeat.state with
  | .error _ => none
  | .ok state =>
      match packages.toColumn heartbeat.observedAt with
      | none => none
      | some keptAt =>
          if Text.sendable heartbeat.serviceId && Text.sendable heartbeat.detail then
            some { serviceId := heartbeat.serviceId, state := state, observedAt := heartbeat.observedAt, keptAt := keptAt }
          else none

/-- The heartbeat in a request that is committed. -/
def Event.beat (packages : Packages) (event : Event) : Option Beat :=
  match event.request with
  | .register _ => none
  | .heartbeat message =>
      match message.read packages event.clock with
      | .error _ => none
      | .ok heartbeat => if event.commits then heartbeat.beat packages else none

/-- The heartbeats of a service in the order of their commits. -/
def beats (packages : Packages) (serviceId : Text) (events : List Event) : List Beat :=
  (events.filterMap (Event.beat packages)).filter fun beat => decide (beat.serviceId = serviceId)

/-- The request registers a service under the identifier. -/
def Event.Registers (event : Event) (serviceId : Text) : Prop :=
  Exists fun registration => Exists fun given => Exists fun descriptor =>
    event.request = .register registration ∧ registration.descriptor = .ok given ∧
      normalizeDescriptor given = .ok descriptor ∧ descriptor.serviceId = serviceId

/-- What the row shows of the heartbeats. -/
structure Shown where
  state : Text
  lastHeartbeatAt : Option Moment
  deriving DecidableEq

def ServiceRecord.shown (record : ServiceRecord) : Shown where
  state := record.state
  lastHeartbeatAt := record.lastHeartbeatAt

def Beat.shown (beat : Beat) : Shown where
  state := beat.state
  lastHeartbeatAt := some beat.keptAt

/-- What the registry shows of a service. -/
def Registry.shown (registry : Registry) (serviceId : Text) : Option Shown :=
  (registry.services.find serviceId).map ServiceRecord.shown

/-! ## One step -/

/-- The tables after a heartbeat. -/
def Registry.write (registry : Registry) (now : Moment) (detail : Text) (beat : Beat) : Registry where
  services := registry.services.update (ServiceRecord.beat beat.serviceId beat.state beat.keptAt now)
    (ServiceRecord.serviceId_beat beat.serviceId beat.state beat.keptAt now)
  heartbeats := registry.heartbeats ++
    [{ serviceId := beat.serviceId, state := beat.state, observedAt := beat.keptAt, detail := detail }]

theorem Heartbeat.beat_eq_some {packages : Packages} {heartbeat : Heartbeat} {state : Text} {keptAt : Moment}
    (named : stateToDb heartbeat.state = .ok state) (column : packages.toColumn heartbeat.observedAt = some keptAt)
    (clean : Text.sendable heartbeat.serviceId = true) (clean' : Text.sendable heartbeat.detail = true) :
    heartbeat.beat packages =
      some
        { serviceId := heartbeat.serviceId, state := state, observedAt := heartbeat.observedAt, keptAt := keptAt } := by
  rw [Heartbeat.beat, named]
  dsimp only
  rw [column]
  exact if_pos (Bool.and_eq_true_iff.mpr ⟨clean, clean'⟩)

/-- What the database keeps is a named state at a moment in range, in texts that it takes. -/
theorem Heartbeat.of_beat {packages : Packages} {heartbeat : Heartbeat} {beat : Beat}
    (kept : heartbeat.beat packages = some beat) :
    beat.serviceId = heartbeat.serviceId ∧ stateToDb heartbeat.state = .ok beat.state ∧
      packages.toColumn heartbeat.observedAt = some beat.keptAt ∧ Text.sendable heartbeat.serviceId = true ∧
      Text.sendable heartbeat.detail = true := by
  unfold Heartbeat.beat at kept
  split at kept
  · cases kept
  · rename_i state named
    split at kept
    · cases kept
    · rename_i keptAt column
      split at kept
      · rename_i both
        cases kept
        exact ⟨rfl, named, column, Bool.and_eq_true_iff.mp both⟩
      · cases kept

/-- A heartbeat is accepted when the database keeps it and its service is registered. -/
theorem recordHeartbeat_eq_ok_iff {packages : Packages} {now : Moment} {heartbeat : Heartbeat} {registry after : Registry} :
    recordHeartbeat packages now heartbeat.serviceId heartbeat.state heartbeat.detail heartbeat.observedAt registry =
        .ok after <->
      Exists fun beat => heartbeat.beat packages = some beat ∧
        (registry.services.find heartbeat.serviceId).isSome = true ∧ registry.write now heartbeat.detail beat = after := by
  constructor
  · intro recorded
    rcases Run.ok_of_bind recorded with ⟨state, named, rest⟩
    split at rest
    · cases rest
    · rename_i clean
      split at rest
      · cases rest
      · rename_i keptAt column
        split at rest
        · cases rest
        · rename_i record found
          split at rest
          · cases rest
          · rename_i clean'
            cases rest
            rw [Bool.not_eq_true', Bool.not_eq_false] at clean clean'
            exact ⟨_, Heartbeat.beat_eq_some named column clean clean', by rw [found]; rfl, rfl⟩
  · rintro ⟨⟨serviceId, state, observedAt, keptAt⟩, kept, registered, rfl⟩
    rcases Heartbeat.of_beat kept with ⟨rfl, named, column, clean, clean'⟩
    rcases Option.isSome_iff_exists.mp registered with ⟨record, found⟩
    rw [recordHeartbeat, named]
    change (if _ then _ else _) = _
    rw [clean, clean', column, found]
    rfl

theorem shown_write {registry : Registry} {now : Moment} {detail : Text} {beat : Beat} (serviceId : Text) :
    (registry.write now detail beat).shown serviceId =
      if beat.serviceId = serviceId then (registry.shown serviceId).map fun _ => beat.shown else registry.shown serviceId := by
  unfold Registry.shown Registry.write
  rw [Table.find_update]
  cases found : registry.services.find serviceId with
  | none => simp
  | some record =>
      have same := (Table.mem_of_find found).2
      split
      · rename_i own
        simp [ServiceRecord.beat, ServiceRecord.shown, Beat.shown, own, same]
      · rename_i other
        simp [ServiceRecord.beat, ServiceRecord.shown, same, Ne.symm other]

/-- A heartbeat of a registered service is served. -/
theorem handle_of_beat {packages : Packages} {event : Event} {beat : Beat} {registry : Registry}
    (present : event.beat packages = some beat) (known : (registry.services.find beat.serviceId).isSome = true) :
    Exists fun detail => handle packages event registry = .ok (registry.write event.now detail beat) := by
  unfold Event.beat at present
  split at present
  · cases present
  · rename_i message asks
    split at present
    · cases present
    · rename_i heartbeat read
      split at present
      · rename_i commits
        have recorded := recordHeartbeat_eq_ok_iff.mpr
          ⟨beat, present, (Heartbeat.of_beat present).1 ▸ known, (rfl : registry.write event.now heartbeat.detail beat = _)⟩
        refine ⟨heartbeat.detail, ?_⟩
        rw [handle, serve, asks]
        dsimp only
        rw [read]
        change (recordHeartbeat _ _ _ _ _ _ _ >>= _) = _
        rw [recorded]
        exact if_pos commits
      · cases present

/-- A step shows the heartbeat that it commits, and changes nothing for other services. -/
theorem shown_step (packages : Packages) {registry : Registry} {event : Event} {serviceId : Text}
    (registered : (registry.shown serviceId).isSome = true) (quiet : ¬event.Registers serviceId) :
    (step packages registry event).shown serviceId =
      (((event.beat packages).filter fun beat => decide (beat.serviceId = serviceId)).map Beat.shown).or
        (registry.shown serviceId) := by
  cases kept : (event.beat packages).filter fun beat => decide (beat.serviceId = serviceId) with
  | some beat =>
      rcases Option.filter_eq_some_iff.mp kept with ⟨present, own⟩
      have own := of_decide_eq_true own
      have known : (registry.services.find beat.serviceId).isSome = true := by
        rw [own]
        rwa [Registry.shown, Option.isSome_map] at registered
      rcases handle_of_beat present known with ⟨detail, handled⟩
      rcases Option.isSome_iff_exists.mp registered with ⟨before, shown⟩
      rw [step, handled]
      dsimp only
      rw [shown_write, if_pos own, shown]
      rfl
  | none =>
      rw [Option.map_none, Option.none_or]
      unfold step
      split
      · rename_i after handled
        rcases (handle_eq_ok handled) with ⟨commits, ⟨registration, given, descriptor, asks, read, accepted, registers⟩ |
          ⟨message, heartbeat, asks, read, recorded⟩⟩
        · have other : descriptor.serviceId ≠ serviceId := fun same =>
            quiet ⟨registration, given, descriptor, asks, read, accepted, same⟩
          rcases registerService_eq_ok registers with ⟨plane, policy, written⟩
          rw [Registry.shown, Registry.shown, find_upsert_of_ne written other]
        · rcases recordHeartbeat_eq_ok_iff.mp recorded with ⟨beat, written, -, rfl⟩
          have present : event.beat packages = some beat := by
            rw [Event.beat, asks]
            dsimp only
            rw [read]
            exact (if_pos commits).trans written
          rw [present, Option.filter_eq_none_iff] at kept
          rw [shown_write, if_neg fun own => kept beat rfl (decide_eq_true own)]
      · rfl

/-! ## Runs -/

theorem beats_cons (packages : Packages) (serviceId : Text) (event : Event) (events : List Event) :
    beats packages serviceId (event :: events) =
      ((event.beat packages).filter fun beat => decide (beat.serviceId = serviceId)).toList ++
        beats packages serviceId events := by
  unfold beats
  rw [List.filterMap_cons]
  cases event.beat packages with
  | none => rfl
  | some beat =>
      dsimp only
      rw [List.filter_cons, Option.filter_some]
      split <;> rfl

/-- After a run the row shows the heartbeat that was committed last. -/
theorem shown_run (packages : Packages) {registry : Registry} {events : List Event} {serviceId : Text}
    (registered : (registry.shown serviceId).isSome = true)
    (quiet : forall event, event ∈ events -> ¬event.Registers serviceId) :
    (events.foldl (step packages) registry).shown serviceId =
      ((beats packages serviceId events).getLast?.map Beat.shown).or (registry.shown serviceId) := by
  induction events generalizing registry with
  | nil => rfl
  | cons event events inductionHypothesis =>
      have first := shown_step packages registered (quiet event List.mem_cons_self)
      have kept : ((step packages registry event).shown serviceId).isSome = true := by
        rw [first, Option.isSome_or, registered, Bool.or_true]
      rw [List.foldl_cons, inductionHypothesis kept fun later member => quiet later (List.mem_cons_of_mem _ member), first,
        beats_cons, List.getLast?_append, Option.map_or, Option.or_assoc]
      cases (event.beat packages).filter fun beat => decide (beat.serviceId = serviceId) with
      | none => rfl
      | some beat => rfl

/-- The heartbeat that was observed last. -/
structure Latest (beats : List Beat) (beat : Beat) : Prop where
  member : beat ∈ beats
  greatest : forall other, other ∈ beats -> other.observedAt ≤ beat.observedAt

/-- The row shows the latest heartbeat when the one that was committed last is the latest,
or has its state and its moment, and then only. -/
theorem latest_shown_iff (packages : Packages) {registry : Registry} {events : List Event} {serviceId : Text}
    (registered : (registry.shown serviceId).isSome = true)
    (quiet : forall event, event ∈ events -> ¬event.Registers serviceId) {latest : Beat}
    (observed : Latest (beats packages serviceId events) latest) :
    (events.foldl (step packages) registry).shown serviceId = some latest.shown <->
      Exists fun last => (beats packages serviceId events).getLast? = some last ∧
        last.state = latest.state ∧ last.keptAt = latest.keptAt := by
  rw [shown_run packages registered quiet]
  have nonempty : beats packages serviceId events ≠ [] := List.ne_nil_of_mem observed.member
  rw [List.getLast?_eq_some_getLast nonempty, Option.map_some, Option.some_or, Option.some.injEq]
  constructor
  · intro same
    exact ⟨_, rfl, congrArg Shown.state same, Option.some.inj (congrArg Shown.lastHeartbeatAt same)⟩
  · rintro ⟨last, ended, state, moment⟩
    rw [Option.some.inj ended, Beat.shown, state, moment]
    rfl

/-! ## A message that was held up -/

/-- Time with whole microseconds in the database, from the year 1970 on. -/
def examplePackages : Packages where
  fromTimestamp := fun seconds nanos => if nanos < 1000000000 then some (seconds * 1000000000 + nanos) else none
  toColumn := fun moment => some (moment / 1000 * 1000)

/-- A row of a ready service. -/
def exampleRecord : ServiceRecord where
  serviceId := "sandbox:test-service:0.1.0".toList
  serviceName := "test-service".toList
  version := "0.1.0".toList
  environment := "sandbox".toList
  plane := ServicePlane.control.name
  failClosedPolicy := FailClosedPolicy.shutdown.name
  description := []
  capabilities := []
  permissions := []
  endpoints := []
  dependencies := []
  state := ServiceState.starting.name
  lastHeartbeatAt := some 0
  createdAt := 0
  updatedAt := 0

def exampleRegistry : Registry where
  services := Table.single exampleRecord
  heartbeats := []

/-- A heartbeat over gRPC that was observed at a second. -/
def exampleHeartbeat (state : ServiceState) (seconds : Int) : Event where
  request := .heartbeat (.grpc
    { serviceId := exampleRecord.serviceId
      state := state.code
      observedAt := some { seconds := seconds, nanos := 0 }
      detail := [] })
  clock := 30000000000
  now := 30000000000
  commits := true

theorem quiet_exampleHeartbeat (state : ServiceState) (seconds : Int) (serviceId : Text) :
    ¬(exampleHeartbeat state seconds).Registers serviceId := by
  rintro ⟨registration, given, descriptor, asks, -⟩
  cases asks

/-- A service that has begun to stop is ready again when an older heartbeat arrives. -/
theorem stale_heartbeat_is_shown :
    ¬(([exampleHeartbeat .stopping 20, exampleHeartbeat .ready 10].foldl (step examplePackages) exampleRegistry).shown
      exampleRecord.serviceId = some { state := "STOPPING".toList, lastHeartbeatAt := some 20000000000 }) := by
  decide

def exampleLatest : Beat where
  serviceId := exampleRecord.serviceId
  state := "STOPPING".toList
  observedAt := 20000000000
  keptAt := 20000000000

/-- Messages that arrive in order leave the latest one. -/
theorem latest_shown_in_order :
    ([exampleHeartbeat .ready 10, exampleHeartbeat .stopping 20].foldl (step examplePackages) exampleRegistry).shown
      exampleRecord.serviceId = some exampleLatest.shown := by
  have quiet : forall event, event ∈ [exampleHeartbeat .ready 10, exampleHeartbeat .stopping 20] ->
      ¬event.Registers exampleRecord.serviceId := by
    intro event member
    rcases List.mem_pair.mp member with rfl | rfl <;> exact quiet_exampleHeartbeat _ _ _
  have observed : Latest (beats examplePackages exampleRecord.serviceId
      [exampleHeartbeat .ready 10, exampleHeartbeat .stopping 20]) exampleLatest := ⟨by decide, by decide⟩
  exact (latest_shown_iff examplePackages (by decide) quiet observed).mpr ⟨exampleLatest, by decide, rfl, rfl⟩

end Services
end ApexQuant
