import ApexQuant.Audit.Repository

namespace ApexQuant
namespace Audit

open Foundation
open Foundation.Database

/-!
# What storage does to the hash

A `TIMESTAMPTZ` column keeps an instant.  The driver hands it back as an aware
`datetime` with the UTC offset that the session's time zone has at that instant,
so the same event comes back under another reading of the clock.  The hash is
taken over the reading.  It survives exactly when the two readings are one, that
is when the session is at offset zero at the instant of the event.
-/

variable {Data Serialized Hash : Type}

/-- A session time zone: the offset in force at each instant. -/
structure SessionZone where
  offsetAt : Int -> Offset

/-- The instant of an aware `datetime`, in microseconds of UTC. -/
def DateTime.instant (value : DateTime) : Int :=
  value.wall.val - (value.offset.getD Offset.utc).micros

/-- The `datetime` that the driver loads from a `TIMESTAMPTZ` column. -/
def loadTimestamptz (zone : SessionZone) (instant : Int) : Except DateTimeError DateTime :=
  DateTime.ofReading (instant + (zone.offsetAt instant).micros) (some (zone.offsetAt instant))

/-- A stored row as a session reads it; text and JSON columns come back unchanged. -/
def loadRow (zone : SessionZone) (row : EventRow Data Hash) : Except DateTimeError (EventRow Data Hash) :=
  (loadTimestamptz zone row.occurredAt.instant).map fun occurredAt => { row with occurredAt := occurredAt }

/-- The row comes back, and the hash of its fields is the stored one. -/
def HashSurvives (digest : Digest Data Serialized Hash) (zone : SessionZone) (row : EventRow Data Hash) : Prop :=
  Exists fun loaded => loadRow zone row = .ok loaded ∧
    computeEventHash digest (fieldsFromRow loaded) row.prevHash = row.eventHash

/-! ## The timestamp on its way -/

theorem DateTime.ofReading_eq_ok_iff {reading : Int} {offset : Option Offset} {value : DateTime} :
    DateTime.ofReading reading offset = .ok value <-> (value.wall.val : Int) = reading ∧ value.offset = offset := by
  unfold DateTime.ofReading
  split
  · rename_i inside
    constructor
    · intro same
      rw [← Except.ok.inj same]
      exact ⟨Int.toNat_of_nonneg inside.1, rfl⟩
    · rintro ⟨wall, rfl⟩
      cases value with
      | mk clock offset =>
          change (clock.val : Int) = reading at wall
          congr 2
          apply Fin.ext
          change reading.toNat = clock.val
          omega
  · rename_i outside
    refine iff_of_false (fun impossible => nomatch impossible) ?_
    rintro ⟨wall, -⟩
    have bound := value.wall.isLt
    omega

/-- A normalized timestamp is in UTC. -/
theorem normalizeTimestamp_utc {clock : WallClock} {value : Option DateTime} {moment : DateTime}
    (normalized : normalizeTimestamp clock value = .ok moment) : moment.offset = some Offset.utc := by
  unfold normalizeTimestamp at normalized
  split at normalized
  · rw [← Except.ok.inj normalized]
    rfl
  · split at normalized
    · rw [← Except.ok.inj normalized]
    · exact (DateTime.ofReading_eq_ok_iff.mp normalized).2

theorem toFields_utc {request : AuditEventRequest Data} {uuid4 : Uuid} {clock : WallClock} {fields : AuditFields Data}
    (normalized : request.toFields uuid4 clock = .ok fields) : fields.occurredAt.offset = some Offset.utc := by
  unfold AuditEventRequest.toFields at normalized
  cases moment : normalizeTimestamp clock request.occurredAt with
  | error error =>
      rw [moment] at normalized
      exact nomatch normalized
  | ok occurredAt =>
      rw [moment] at normalized
      rw [← Except.ok.inj normalized]
      exact normalizeTimestamp_utc moment

theorem instant_of_utc {value : DateTime} (utc : value.offset = some Offset.utc) : value.instant = value.wall.val := by
  rw [DateTime.instant, utc]
  exact Int.sub_zero _

/-- The reading comes back exactly in a session that is at offset zero then. -/
theorem loaded_wall_iff (zone : SessionZone) {value loaded : DateTime} (utc : value.offset = some Offset.utc)
    (comesBack : loadTimestamptz zone value.instant = .ok loaded) :
    loaded.wall = value.wall <-> (zone.offsetAt value.instant).micros = 0 := by
  have reading := (DateTime.ofReading_eq_ok_iff.mp comesBack).1
  rw [instant_of_utc utc] at reading ⊢
  rw [Fin.ext_iff]
  omega

/-! ## The row that an append stores -/

/-- A call that adds a row adds the event under the hash that `append_event` computed. -/
theorem stored_row (digest : Digest Data Serialized Hash) {table : AuditTable Data Hash} {call : AppendCall Data}
    {row : EventRow Data Hash} (stored : (appendStep digest table call).rows = table.rows ++ [row]) :
    fieldsFromRow row = call.fields ∧ row.eventHash = computeEventHash digest call.fields row.prevHash := by
  by_cases stores : table.insertable call.fields = true ∧ call.link.carries 3 = true
  · rw [appendStep_of_stored digest table call stores.1 stores.2, AuditTable.store,
      List.append_cancel_left_eq, List.singleton_inj] at stored
    rw [← stored]
    exact ⟨rfl, rfl⟩
  · rcases appendStep_of_not_stored digest table call stores with ⟨next, -, kept⟩
    rw [kept] at stored
    exact absurd stored (by simp)

/-- The hash of a stored event survives a reading of the table exactly when the
session is at UTC offset zero at the instant of the event. -/
theorem hash_survives_storage_iff (digest : Digest Data Serialized Hash) (ideal : digest.CollisionFree)
    (request : AuditEventRequest Data) (uuid4 : Uuid) (clock : WallClock) (fields : AuditFields Data)
    (normalized : request.toFields uuid4 clock = .ok fields) (table : AuditTable Data Hash) (link : Link)
    (row : EventRow Data Hash)
    (stored : (appendStep digest table { fields := fields, link := link }).rows = table.rows ++ [row])
    (zone : SessionZone) :
    HashSurvives digest zone row <-> (zone.offsetAt fields.occurredAt.instant).micros = 0 := by
  rcases stored_row digest stored with ⟨same, hash⟩
  have occurred : row.occurredAt = fields.occurredAt := congrArg AuditFields.occurredAt same
  have utc : row.occurredAt.offset = some Offset.utc := occurred ▸ toFields_utc normalized
  rw [← occurred]
  constructor
  · rintro ⟨loaded, comesBack, sameHash⟩
    unfold loadRow at comesBack
    cases moment : loadTimestamptz zone row.occurredAt.instant with
    | error error =>
        rw [moment] at comesBack
        exact nomatch comesBack
    | ok occurredAt =>
        rw [moment] at comesBack
        have shape := Except.ok.inj comesBack
        rw [hash, ← same] at sameHash
        have serialized := (ideal.determines _ _ _ _ sameHash).1
        rw [← loaded_wall_iff zone utc moment]
        rw [← shape] at serialized
        exact congrArg (fun f => f.occurredAt.wall) serialized
  · intro zero
    -- the driver returns the same reading, with its own idea of the offset
    have moment : loadTimestamptz zone row.occurredAt.instant =
        .ok { wall := row.occurredAt.wall, offset := some (zone.offsetAt row.occurredAt.instant) } := by
      rw [loadTimestamptz, DateTime.ofReading_eq_ok_iff, zero, instant_of_utc utc]
      exact ⟨(Int.add_zero _).symm, rfl⟩
    refine ⟨_, by rw [loadRow, moment]; rfl, ?_⟩
    rw [hash, ← same]
    rfl

/-- The same offset at all times. -/
def fixedZone (offset : Offset) : SessionZone where
  offsetAt := fun _ => offset

def plusOneHour : Offset where
  micros := 3600000000
  above := by decide
  below := by decide

/-- The row of the sample request in an empty table. -/
def sampleStoredRow : EventRow Text History :=
  sampleRow 1 (sampleFields 1 "test.action".toList) []

theorem hash_survives_storage_utc : HashSurvives historyDigest (fixedZone Offset.utc) sampleStoredRow :=
  (hash_survives_storage_iff historyDigest historyDigest_collisionFree (sampleRequest 1 none) { value := 2 } 0
    (sampleFields 1 "test.action".toList) (by decide) AuditTable.empty .steady sampleStoredRow (by decide)
    (fixedZone Offset.utc)).mpr rfl

/-- A session one hour ahead of UTC reads the sample event back under another hash. -/
theorem hash_lost_one_hour_ahead :
    ¬ forall (request : AuditEventRequest Text) (uuid4 : Uuid) (clock : WallClock) (fields : AuditFields Text)
      (table : AuditTable Text History) (link : Link) (row : EventRow Text History) (zone : SessionZone),
      request.toFields uuid4 clock = .ok fields ->
      (appendStep historyDigest table { fields := fields, link := link }).rows = table.rows ++ [row] ->
      HashSurvives historyDigest zone row := by
  intro always
  rcases always (sampleRequest 1 none) { value := 2 } 0 (sampleFields 1 "test.action".toList) AuditTable.empty .steady
    sampleStoredRow (fixedZone plusOneHour) (by decide) (by decide) with ⟨loaded, comesBack, sameHash⟩
  have shifted : loadRow (fixedZone plusOneHour) sampleStoredRow =
      .ok { sampleStoredRow with occurredAt := { wall := 63902826000000000, offset := some plusOneHour } } := by decide
  rw [shifted] at comesBack
  rw [← Except.ok.inj comesBack] at sameHash
  exact absurd sameHash (by decide)

end Audit
end ApexQuant
