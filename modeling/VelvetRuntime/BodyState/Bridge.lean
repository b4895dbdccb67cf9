import VelvetRuntime.Python.Dict
import VelvetRuntime.BodyState.Record

open python python.num python.str

namespace velvet.body_state_bridge

section

variable [StrLower] [StrUpper]

namespace BodyRecord

/-- The family under which `_apply` files a record: `str(record["family"]).lower()`, with the white space that the
checks strip still there. -/
def filed_under (record : BodyRecord) : Family :=
  match entry_of record.entries "family" with
  | some (.text family) => if StrLower.lower family.toList = "sensor".toList then .sensor else .health
  | _ => .health

def receipt_id (record : BodyRecord) : String :=
  match entry_of record.payload "receipt_id" with
  | some (.text receipt_id) => receipt_id
  | _ => ""

end BodyRecord

/-- The newest record of each module of a family, under the module's id. -/
structure ModuleTable where
  records : Dict String BodyRecord
  indexed : ∀ key record, records.get? key = some record → record.module_id = key

namespace ModuleTable

def empty : ModuleTable := ⟨.empty, fun _ _ hget => nomatch hget⟩

def size (table : ModuleTable) : Nat := table.records.items.length

def get? (table : ModuleTable) (module_id : String) : Option BodyRecord := table.records.get? module_id

/-- `target[module_id] = record`. -/
def put (table : ModuleTable) (record : BodyRecord) : ModuleTable where
  records := table.records.set record.module_id record
  indexed key found hget := by
    rw [Dict.get?_set] at hget
    split at hget
    case isTrue hkey =>
      cases hget
      exact hkey.symm
    case isFalse => exact table.indexed key found hget

/-- The update of `_apply`: a record that is older than the one kept is left out, and no module beyond the limit is
taken in. -/
def merge (table : ModuleTable) (max_modules : Nat) (record : BodyRecord) : Except Error ModuleTable :=
  match table.get? record.module_id with
  | some current => if record.timestamp.less current.timestamp then .ok table else .ok (table.put record)
  | none =>
    if max_modules ≤ table.size then .error (bridge_error "body-state module limit reached")
    else .ok (table.put record)

/-- `sorted(target.values(), key=...)`: the records in the order of their module ids. -/
def sorted_records (table : ModuleTable) : List BodyRecord :=
  table.records.values.insertionSort (fun left right => left.module_id ≤ right.module_id)

end ModuleTable

/-- `BodyStateSnapshotBridge`. -/
structure BodyStateSnapshotBridge where
  max_modules : Nat
  sensors : ModuleTable
  health : ModuleTable

namespace BodyStateSnapshotBridge

def table (bridge : BodyStateSnapshotBridge) : Family → ModuleTable
  | .sensor => bridge.sensors
  | .health => bridge.health

def set_table (bridge : BodyStateSnapshotBridge) (family : Family) (table : ModuleTable) : BodyStateSnapshotBridge :=
  match family with
  | .sensor => { bridge with sensors := table }
  | .health => { bridge with health := table }

variable (bridge : BodyStateSnapshotBridge)

@[simp] theorem table_set_table (family other : Family) (table : ModuleTable) :
    (bridge.set_table family table).table other = if other = family then table else bridge.table other := by
  cases family <;> cases other <;> rfl

@[simp] theorem max_modules_set_table (family : Family) (table : ModuleTable) :
    (bridge.set_table family table).max_modules = bridge.max_modules := by
  cases family <;> rfl

/-- `_apply`. -/
def apply (bridge : BodyStateSnapshotBridge) (record : BodyRecord) : Except Error BodyStateSnapshotBridge := do
  let table ← (bridge.table record.filed_under).merge bridge.max_modules record
  pure (bridge.set_table record.filed_under table)

/-- The records of a snapshot: the sensors first, then the health events. -/
def records (bridge : BodyStateSnapshotBridge) : List BodyRecord :=
  bridge.sensors.sorted_records ++ bridge.health.sorted_records

/-- The receipt ids of the records, each once. -/
def receipt_ids (bridge : BodyStateSnapshotBridge) : List String :=
  bridge.records.foldl (fun found record =>
    if record.receipt_id ≠ "" ∧ record.receipt_id ∉ found then found ++ [record.receipt_id] else found) []

/-- `snapshot()`, with what `time.time()` and `time.monotonic()` return. -/
def snapshot (bridge : BodyStateSnapshotBridge) (captured_at generated_monotonic : ℚ) : Json :=
  .object [
    ("schema", .text BODY_STATE_SNAPSHOT_SCHEMA),
    ("captured_at", .float (.finite captured_at)),
    ("generated_monotonic", .float (.finite generated_monotonic)),
    ("record_count", .int bridge.records.length),
    ("sensor_count", .int bridge.sensors.size),
    ("health_event_count", .int bridge.health.size),
    ("records", .list (bridge.records.map BodyRecord.document)),
    ("receipt_ids", .list (bridge.receipt_ids.map .text)),
    ("mode", .text "display-only"),
    ("read_only", .bool true),
    ("authority", .text "none"),
    ("actuation_granted", .bool false),
    ("actuation_performed", .bool false)]

end BodyStateSnapshotBridge

/-- The snapshot file. A document that was written is read back as it was: neither the order of the keys of a mapping
nor the text of a number is modelled. -/
inductive SnapshotFile where
  | missing
  | undecodable
  | document (value : Json)

/-- The records of a document that has the schema of a snapshot. -/
def snapshot_records : SnapshotFile → List Json
  | .document (.object entries) =>
    match entry_of entries "schema", entry_of entries "records" with
    | some (.text schema), some (.list records) => if schema = BODY_STATE_SNAPSHOT_SCHEMA then records else []
    | _, _ => []
  | _ => []

/-- `except (TypeError, ValueError)`. -/
def is_skipped (error : Error) : Bool :=
  match error.kind with
  | .TypeError | .ValueError | .BodyStateBridgeError => true
  | _ => false

/-- One record of the file is taken in, or left out when it is refused. -/
def load_record (bridge : BodyStateSnapshotBridge) (record : Json) : Except Error BodyStateSnapshotBridge :=
  match (do bridge.apply (← validated record)) with
  | .ok loaded => .ok loaded
  | .error error => if is_skipped error then .ok bridge else .error error

/-- `BodyStateSnapshotBridge(...)`, with the evidence that the snapshot file holds. -/
def BodyStateSnapshotBridge.new (max_modules : Nat) (file : SnapshotFile) : Except Error BodyStateSnapshotBridge :=
  if 1 ≤ max_modules ∧ max_modules ≤ 4096 then
    (snapshot_records file).foldlM load_record ⟨max_modules, .empty, .empty⟩
  else .error ⟨.ValueError, "max_modules must be between 1 and 4096"⟩

/-- The files that the producers share. -/
structure Disk where
  snapshot : SnapshotFile
  journal : List Json

/-- The loop of `publish_many`: each record is checked, written to the journal and merged before the next one. -/
def publish_records (journaled : Bool) (journal : List Json) (bridge : BodyStateSnapshotBridge) :
    List Json → List Json × Except Error BodyStateSnapshotBridge
  | [] => (journal, .ok bridge)
  | record :: rest =>
    match validated record with
    | .error error => (journal, .error error)
    | .ok body =>
      let written := if journaled then journal ++ [body.document] else journal
      match bridge.apply body with
      | .error error => (written, .error error)
      | .ok merged => publish_records journaled written merged rest

/-- The loop of `publish_many` on a bridge without a lock: what was merged before a record is refused stays. -/
def BodyStateSnapshotBridge.publish_many (bridge : BodyStateSnapshotBridge) :
    List Json → BodyStateSnapshotBridge × Except Error Unit
  | [] => (bridge, .ok ())
  | record :: rest =>
    match (do bridge.apply (← validated record)) with
    | .error error => (bridge, .error error)
    | .ok merged => merged.publish_many rest

/-- `LockedBodyStateSnapshotBridge`: one producer. -/
structure LockedBodyStateSnapshotBridge where
  max_modules : Nat
  journaled : Bool

/-- A call of `publish_many`: its records, and the clocks while it holds the lock. -/
structure PublishCall where
  records : List Json
  captured_at : ℚ
  generated_monotonic : ℚ

/-- The critical section of `LockedBodyStateSnapshotBridge.publish_many`. -/
def LockedBodyStateSnapshotBridge.publish_many (producer : LockedBodyStateSnapshotBridge) (disk : Disk)
    (call : PublishCall) : Disk × Except Error Json :=
  match BodyStateSnapshotBridge.new producer.max_modules disk.snapshot with
  | .error error => (disk, .error error)
  | .ok bridge =>
    match publish_records producer.journaled disk.journal bridge call.records with
    | (journal, .error error) => ({ disk with journal }, .error error)
    | (journal, .ok merged) =>
      let document := merged.snapshot call.captured_at call.generated_monotonic
      let written := match call.records, disk.snapshot with
        | [], .undecodable => .undecodable
        | [], .document value => .document value
        | _, _ => .document document
      ({ snapshot := written, journal }, .ok document)

end

end velvet.body_state_bridge
