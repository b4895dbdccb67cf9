import VelvetRuntime.BodyState.Merge

open python python.num python.str latest

namespace velvet.body_state_bridge

open BodyStateSnapshotBridge

section

variable [StrLower] [StrUpper] {log : List BodyRecord} {bridge merged loaded : BodyStateSnapshotBridge}

/-- The records of a table that have a family and a module id. -/
theorem Holds.published_table (hholds : Holds log bridge) (other family : Family) (module_id : String) :
    published (bridge.table other).sorted_records family module_id =
      if other = family then ((bridge.table family).get? module_id).toList else [] := by
  have hown : ∀ record ∈ (bridge.table other).sorted_records, record.family = other := fun record hmem =>
    (hholds.mem (ModuleTable.mem_sorted_records.mp hmem)).2.1
  unfold published
  split
  case isTrue hfamily =>
    subst hfamily
    rw [← ModuleTable.filter_sorted_records]
    refine List.filter_congr fun record hmem => ?_
    simp [hown record hmem]
  case isFalse hfamily =>
    refine List.filter_eq_nil_iff.mpr fun record hmem => ?_
    simp [hown record hmem, hfamily]

/-- The records of a snapshot that have a family and a module id. -/
theorem Holds.published_records (hholds : Holds log bridge) (family : Family) (module_id : String) :
    published bridge.records family module_id = ((bridge.table family).get? module_id).toList := by
  have hrecords : published bridge.records family module_id =
      published (bridge.table .sensor).sorted_records family module_id ++
        published (bridge.table .health).sorted_records family module_id := List.filter_append _ _
  rw [hrecords, hholds.published_table, hholds.published_table]
  cases family <;> simp

/-- A bridge that keeps what a snapshot kept follows the same log. -/
theorem Holds.reload (hholds : Holds log bridge) (hloaded : Holds bridge.records loaded) : Holds log loaded := by
  intro family module_id
  have hkeeps := hloaded family module_id
  rw [hholds.published_records] at hkeeps
  rw [hkeeps.eq_of_toList]
  exact hholds family module_id

theorem Holds.plain_records (hholds : Holds log bridge) (hlog : ∀ record ∈ log, record.Plain) :
    ∀ record ∈ bridge.records, record.Plain := by
  intro record hmem
  rcases List.mem_append.mp hmem with hmem | hmem
  · have hget : (bridge.table .sensor).get? record.module_id = some record := ModuleTable.mem_sorted_records.mp hmem
    exact hlog record (hholds.mem hget).1
  · have hget : (bridge.table .health).get? record.module_id = some record := ModuleTable.mem_sorted_records.mp hmem
    exact hlog record (hholds.mem hget).1

theorem holds_empty (max_modules : Nat) : Holds [] ⟨max_modules, .empty, .empty⟩ := by
  intro family module_id
  cases family <;> rfl

theorem load_record_document (bridge : BodyStateSnapshotBridge) {record : BodyRecord}
    (happly : bridge.apply record = .ok merged) : load_record bridge record.document = .ok merged := by
  unfold load_record
  rw [validated_document, except.ok_bind, happly]

/-- Records that there is room for are all taken in. The room of a family shrinks by its own records only. -/
theorem load_records : ∀ (rest log : List BodyRecord) (bridge : BodyStateSnapshotBridge), Holds log bridge →
    (∀ record ∈ log ++ rest, record.Plain) →
    (∀ family, (bridge.table family).size + (rest.filter (fun record => record.family = family)).length ≤
      bridge.max_modules) →
    ∃ loaded, (rest.map BodyRecord.document).foldlM load_record bridge = .ok loaded ∧ Holds (log ++ rest) loaded ∧
      loaded.max_modules = bridge.max_modules
  | [], log, bridge, hholds, _, _ => ⟨bridge, rfl, by rwa [List.append_nil], rfl⟩
  | record :: rest, log, bridge, hholds, hplain, hroom => by
    have hrecord : record.Plain := hplain record (by simp)
    have hbelow : (bridge.table record.filed_under).size < bridge.max_modules := by
      have hfamily := hroom record.family
      rw [List.filter_cons_of_pos (by simp), List.length_cons] at hfamily
      rw [hrecord.1]
      omega
    obtain ⟨merged, happly⟩ := apply_of_room hbelow
    have hmerged := hholds.apply (fun earlier hmem => hplain earlier (List.mem_append_left _ hmem)) hrecord happly
    have hmax := max_modules_apply happly
    obtain ⟨loaded, hload, hloaded, hsame⟩ := load_records rest (log ++ [record]) merged hmerged
      (by rwa [List.append_assoc]) (fun family => by
        have hfamily := hroom family
        have hsize := size_apply happly family
        rw [hrecord.1] at hsize
        rw [hmax]
        by_cases hown : record.family = family
        · rw [if_pos hown] at hsize
          rw [List.filter_cons_of_pos (by simpa using hown), List.length_cons] at hfamily
          omega
        · rw [if_neg hown] at hsize
          rw [List.filter_cons_of_neg (by simpa using hown)] at hfamily
          omega)
    refine ⟨loaded, ?_, by rwa [List.append_assoc] at hloaded, hsame.trans hmax⟩
    rw [List.map_cons, List.foldlM_cons, load_record_document bridge happly, except.ok_bind]
    exact hload

/-- The records among some JSON values that pass the checks. -/
def bodies_of (records : List Json) : List BodyRecord := records.filterMap (fun record => (validated record).toOption)

@[simp] theorem bodies_of_documents (records : List BodyRecord) : bodies_of (records.map BodyRecord.document) = records := by
  unfold bodies_of
  have hsome : (fun record => (validated record).toOption) ∘ BodyRecord.document = some := by
    funext record
    simp [Except.toOption]
  rw [List.filterMap_map, hsome, List.filterMap_some]

@[simp] theorem snapshot_records_snapshot (bridge : BodyStateSnapshotBridge) (captured_at generated_monotonic : ℚ) :
    snapshot_records (.document (bridge.snapshot captured_at generated_monotonic)) =
      bridge.records.map BodyRecord.document := by
  simp [snapshot_records, snapshot, entry_of]

/-- How many modules of a family the snapshot file holds. -/
def kept (file : SnapshotFile) (family : Family) : Nat :=
  ((bodies_of (snapshot_records file)).filter (fun record => record.family = family)).length

/-- What the file holds of the log: nothing before the first call, later a snapshot of a bridge that follows it. -/
def Reflects (log : List BodyRecord) : SnapshotFile → Prop
  | .missing => log = []
  | .undecodable => False
  | file@(.document _) => ∃ bridge captured_at generated_monotonic,
      file = .document (BodyStateSnapshotBridge.snapshot bridge captured_at generated_monotonic) ∧ Holds log bridge

variable {file : SnapshotFile}

/-- A bridge with room for what the file holds starts from all of it. -/
theorem Reflects.new (hreflects : Reflects log file) (hlog : ∀ record ∈ log, record.Plain) {max_modules : Nat}
    (hroom : ∀ family, kept file family ≤ max_modules)
    (hnew : BodyStateSnapshotBridge.new max_modules file = .ok bridge) : Holds log bridge := by
  unfold BodyStateSnapshotBridge.new at hnew
  split at hnew
  case isFalse => cases hnew
  case isTrue =>
    cases file with
    | missing =>
      rw [show log = [] from hreflects]
      cases hnew
      exact holds_empty max_modules
    | undecodable => exact absurd hreflects id
    | document value =>
      obtain ⟨before, captured_at, generated_monotonic, hfile, hholds⟩ := hreflects
      cases hfile
      obtain ⟨loaded, hload, hloaded, _⟩ := load_records before.records [] ⟨max_modules, .empty, .empty⟩
        (holds_empty max_modules) (hholds.plain_records hlog) (fun family => by
          have hkept := hroom family
          rw [kept, snapshot_records_snapshot, bodies_of_documents] at hkept
          have hempty : ((⟨max_modules, .empty, .empty⟩ : BodyStateSnapshotBridge).table family).size = 0 := by
            cases family <;> rfl
          rw [hempty, Nat.zero_add]
          exact hkept)
      rw [snapshot_records_snapshot, hload] at hnew
      cases hnew
      exact hholds.reload hloaded

/-- A loop of `publish_many` that comes to its end merged every record. -/
theorem Holds.publish_records : ∀ {records : List Json} {log : List BodyRecord} {bridge : BodyStateSnapshotBridge}
    {journaled : Bool} {journal written : List Json}, Holds log bridge → (∀ record ∈ log, record.Plain) →
    (∀ record ∈ bodies_of records, record.Plain) →
    publish_records journaled journal bridge records = (written, .ok merged) → Holds (log ++ bodies_of records) merged
  | [], log, bridge, _, _, _, hholds, _, _, hpublish => by
    cases hpublish
    rwa [bodies_of, List.filterMap_nil, List.append_nil]
  | record :: rest, log, bridge, journaled, journal, written, hholds, hlog, hplain, hpublish => by
    rw [body_state_bridge.publish_records] at hpublish
    split at hpublish
    case h_1 => cases hpublish
    case h_2 body hvalid =>
      have hbodies : bodies_of (record :: rest) = body :: bodies_of rest := by
        unfold bodies_of
        rw [List.filterMap_cons_some (by rw [hvalid, Except.toOption])]
      rw [hbodies] at hplain ⊢
      dsimp only at hpublish
      split at hpublish
      case h_1 => cases hpublish
      case h_2 next happly =>
        have hbody : body.Plain := hplain body List.mem_cons_self
        have hnext := hholds.apply hlog hbody happly
        have hall : ∀ earlier ∈ log ++ [body], earlier.Plain := by
          intro earlier hmem
          rcases List.mem_append.mp hmem with hmem | hmem
          · exact hlog earlier hmem
          · rwa [List.mem_singleton.mp hmem]
        have hrest := hnext.publish_records hall (fun later hmem => hplain later (List.mem_cons_of_mem _ hmem)) hpublish
        rwa [List.append_assoc] at hrest

variable {producer : LockedBodyStateSnapshotBridge} {disk after : Disk} {call : PublishCall}

/-- When a call meets what the merge needs: its bridge has room for what the file holds, and its records are filed where
the checks read them and have timestamps that can be compared. -/
structure Meets (producer : LockedBodyStateSnapshotBridge) (file : SnapshotFile) (call : PublishCall) : Prop where
  room : ∀ family, kept file family ≤ producer.max_modules
  plain : ∀ record ∈ bodies_of call.records, record.Plain

instance (producer : LockedBodyStateSnapshotBridge) (file : SnapshotFile) (call : PublishCall) :
    Decidable (Meets producer file call) :=
  decidable_of_iff ((kept file .sensor ≤ producer.max_modules ∧ kept file .health ≤ producer.max_modules) ∧
      ∀ record ∈ bodies_of call.records, record.Plain)
    ⟨fun ⟨⟨hsensor, hhealth⟩, hplain⟩ => ⟨fun family => by cases family <;> assumption, hplain⟩,
      fun hmeets => ⟨⟨hmeets.room .sensor, hmeets.room .health⟩, hmeets.plain⟩⟩

/-- A completed call adds its records to what the file reflects. -/
theorem Reflects.publish_many (hreflects : Reflects log disk.snapshot) (hlog : ∀ record ∈ log, record.Plain)
    (hmeets : Meets producer disk.snapshot call) {document : Json}
    (hpublish : producer.publish_many disk call = (after, .ok document)) :
    Reflects (log ++ bodies_of call.records) after.snapshot := by
  unfold LockedBodyStateSnapshotBridge.publish_many at hpublish
  split at hpublish
  case h_1 => cases hpublish
  case h_2 bridge hnew =>
    have hholds := hreflects.new hlog hmeets.room hnew
    split at hpublish
    case h_1 => cases hpublish
    case h_2 journal merged hrecords =>
      have hmerged := hholds.publish_records hlog hmeets.plain hrecords
      cases hpublish
      -- Nothing is written when there are no records and there is a file.
      dsimp only
      split
      case h_1 hfile =>
        rw [hfile] at hreflects
        exact hreflects
      case h_2 value hnone hfile =>
        rw [hfile] at hreflects
        rw [hnone]
        rwa [bodies_of, List.filterMap_nil, List.append_nil]
      case h_3 => exact ⟨merged, _, _, rfl, hmerged⟩

/-- A call that raises leaves the snapshot file as it was. -/
theorem snapshot_of_raised {error : Error} (hpublish : producer.publish_many disk call = (after, .error error)) :
    after.snapshot = disk.snapshot := by
  unfold LockedBodyStateSnapshotBridge.publish_many at hpublish
  split at hpublish
  case h_1 =>
    cases hpublish
    rfl
  case h_2 =>
    split at hpublish <;> cases hpublish
    rfl

/-- The shared files, with the records of the calls that completed so far. -/
structure System where
  disk : Disk
  log : List BodyRecord

def System.initial : System := ⟨⟨.missing, []⟩, []⟩

/-- One producer's call, in its own critical section. -/
def System.step {ι : Type} (producers : ι → LockedBodyStateSnapshotBridge) (system : System) (move : ι × PublishCall) :
    System :=
  match (producers move.1).publish_many system.disk move.2 with
  | (disk, .ok _) => ⟨disk, system.log ++ bodies_of move.2.records⟩
  | (disk, .error _) => ⟨disk, system.log⟩

/-- The calls of all producers, in the order in which they took the lock. -/
def System.run {ι : Type} (producers : ι → LockedBodyStateSnapshotBridge) (system : System)
    (moves : List (ι × PublishCall)) : System := moves.foldl (System.step producers) system

/-- Every call of a run meets what the merge needs. -/
def EachMeets {ι : Type} (producers : ι → LockedBodyStateSnapshotBridge) : System → List (ι × PublishCall) → Prop
  | _, [] => True
  | system, move :: rest =>
    Meets (producers move.1) system.disk.snapshot move.2 ∧ EachMeets producers (system.step producers move) rest

instance decidable_each_meets {ι : Type} (producers : ι → LockedBodyStateSnapshotBridge) :
    ∀ (system : System) (moves : List (ι × PublishCall)), Decidable (EachMeets producers system moves)
  | _, [] => inferInstanceAs (Decidable True)
  | system, move :: rest =>
    have := decidable_each_meets producers (system.step producers move) rest
    inferInstanceAs (Decidable (_ ∧ _))

theorem step_reflects {ι : Type} {producers : ι → LockedBodyStateSnapshotBridge} {system : System}
    {move : ι × PublishCall} (hreflects : Reflects system.log system.disk.snapshot)
    (hlog : ∀ record ∈ system.log, record.Plain) (hmeets : Meets (producers move.1) system.disk.snapshot move.2) :
    Reflects (system.step producers move).log (system.step producers move).disk.snapshot ∧
      ∀ record ∈ (system.step producers move).log, record.Plain := by
  unfold System.step
  split
  case h_1 disk document hpublish =>
    refine ⟨hreflects.publish_many hlog hmeets hpublish, fun record hmem => ?_⟩
    rcases List.mem_append.mp hmem with hmem | hmem
    · exact hlog record hmem
    · exact hmeets.plain record hmem
  case h_2 disk error hpublish =>
    rw [show disk.snapshot = system.disk.snapshot from snapshot_of_raised hpublish]
    exact ⟨hreflects, hlog⟩

theorem run_reflects {ι : Type} {producers : ι → LockedBodyStateSnapshotBridge} {moves : List (ι × PublishCall)} :
    ∀ {system : System}, Reflects system.log system.disk.snapshot → (∀ record ∈ system.log, record.Plain) →
      EachMeets producers system moves →
      Reflects (system.run producers moves).log (system.run producers moves).disk.snapshot := by
  induction moves with
  | nil => exact fun hreflects _ _ => hreflects
  | cons move rest ih =>
    intro system hreflects hlog hmeets
    have hstep := step_reflects hreflects hlog hmeets.1
    exact ih hstep.1 hstep.2 hmeets.2

/-- The number of sensor records that a snapshot says it starts with. -/
def sensor_count : SnapshotFile → Nat
  | .document (.object entries) =>
    match entry_of entries "sensor_count" with
    | some (.int count) => count.toNat
    | _ => 0
  | _ => 0

/-- The records that the snapshot file has under a family. -/
def filed (file : SnapshotFile) : Family → List BodyRecord
  | .sensor => bodies_of ((snapshot_records file).take (sensor_count file))
  | .health => bodies_of ((snapshot_records file).drop (sensor_count file))

theorem length_sorted_records (table : ModuleTable) : table.sorted_records.length = table.size := by
  unfold ModuleTable.sorted_records ModuleTable.size
  rw [List.length_insertionSort, Dict.values, List.length_map]

theorem filed_snapshot (bridge : BodyStateSnapshotBridge) (captured_at generated_monotonic : ℚ) (family : Family) :
    filed (.document (bridge.snapshot captured_at generated_monotonic)) family =
      (bridge.table family).sorted_records := by
  have hcount : sensor_count (.document (bridge.snapshot captured_at generated_monotonic)) =
      (bridge.sensors.sorted_records.map BodyRecord.document).length := by
    rw [List.length_map, length_sorted_records]
    simp [sensor_count, snapshot, entry_of]
  cases family with
  | sensor =>
    rw [filed, hcount, snapshot_records_snapshot, records, List.map_append, List.take_left,
      bodies_of_documents]
    rfl
  | health =>
    rw [filed, hcount, snapshot_records_snapshot, records, List.map_append, List.drop_left,
      bodies_of_documents]
    rfl

/-- For each family and module id of the log the file has the newest record, once and under its family. -/
def Merged (log : List BodyRecord) (file : SnapshotFile) : Prop :=
  ∀ record ∈ log, ∃ newest, IsLatest BodyRecord.time (published log record.family record.module_id) newest ∧
    ∀ family, published (filed file family) record.family record.module_id =
      if family = record.family then [newest] else []

theorem Reflects.is_merged (hreflects : Reflects log file) : Merged log file := by
  intro record hrecord
  cases file with
  | missing => exact absurd ((show log = [] from hreflects) ▸ hrecord) List.not_mem_nil
  | undecodable => exact absurd hreflects id
  | document value =>
    obtain ⟨bridge, captured_at, generated_monotonic, hfile, hholds⟩ := hreflects
    cases hfile
    have hkeeps := hholds record.family record.module_id
    cases hget : (bridge.table record.family).get? record.module_id with
    | none =>
      rw [hget] at hkeeps
      have hmem : record ∈ published log record.family record.module_id := List.mem_filter.mpr ⟨hrecord, by simp⟩
      exact absurd ((show published log _ _ = [] from hkeeps) ▸ hmem) List.not_mem_nil
    | some newest =>
      rw [hget] at hkeeps
      refine ⟨newest, hkeeps, fun family => ?_⟩
      rw [filed_snapshot, hholds.published_table, hget, Option.toList_some]

/-- After every run of calls that meet what the merge needs, whoever made them and in whatever order, the snapshot file
has, for each family and module id that was published, the newest record and no other. -/
theorem snapshot_is_merged {ι : Type} (producers : ι → LockedBodyStateSnapshotBridge) (moves : List (ι × PublishCall))
    (hmeets : EachMeets producers .initial moves) :
    Merged (System.initial.run producers moves).log (System.initial.run producers moves).disk.snapshot := by
  have hinitial : Reflects System.initial.log System.initial.disk.snapshot := rfl
  exact (run_reflects hinitial (fun _ hnone => absurd hnone List.not_mem_nil) hmeets).is_merged

end

/-- A record of a module, with only what the checks ask for. -/
def evidence (family event_type module_id : String) (timestamp : ℚ) : Json :=
  .object [("family", .text family), ("event_type", .text event_type),
    ("payload", .object [("module_id", .text module_id), ("node_id", .text "n"), ("owning_handmaiden", .text "h"),
      ("receipt_id", .text "r"), ("timestamp", .float (.finite timestamp)), ("sensor_type", .text "t"),
      ("interface_type", .text "i"), ("health_state", .text "ONLINE"), ("calibration_version", .text "c"),
      ("payload", .object []), ("event_id", .text "e"), ("event_type", .text "DEGRADED"), ("severity", .text "WARNING"),
      ("state_before", .text "ONLINE"), ("state_after", .text "DEGRADED"), ("diagnostic_payload", .object [])])]

/-- Two producers with the default limit, of which one keeps a journal. -/
def two_producers (journaled : Bool) : LockedBodyStateSnapshotBridge := ⟨256, journaled⟩

/-- Each producer publishes one record of the same module. -/
def two_calls (family : String) : List (Bool × PublishCall) :=
  [(true, ⟨[evidence "health" "HEALTH_DEGRADED" "seat" 1], 1, 1⟩),
    (false, ⟨[evidence family "SENSOR_PACKET_OBSERVED" "seat" 2], 2, 2⟩)]

theorem snapshot_is_merged_of_two :
    letI := StrLower.ascii
    letI := StrUpper.ascii
    Merged (System.initial.run two_producers (two_calls "sensor")).log
      (System.initial.run two_producers (two_calls "sensor")).disk.snapshot := by
  let := StrLower.ascii
  let := StrUpper.ascii
  have hmeets : EachMeets two_producers .initial (two_calls "sensor") := by decide
  exact snapshot_is_merged two_producers (two_calls "sensor") hmeets

/-- A sensor record whose family has a space before it takes the place of the module's health record. -/
theorem health_displaced_by_sensor :
    letI := StrLower.ascii
    letI := StrUpper.ascii
    ¬Merged (System.initial.run two_producers (two_calls " sensor")).log
      (System.initial.run two_producers (two_calls " sensor")).disk.snapshot := by
  let := StrLower.ascii
  let := StrUpper.ascii
  intro hmerged
  have hpublished : ∃ record ∈ (System.initial.run two_producers (two_calls " sensor")).log,
      record.family = .health ∧ record.module_id = "seat" := by decide
  have hlost : (published (filed (System.initial.run two_producers (two_calls " sensor")).disk.snapshot .health) .health
      "seat").length = 0 := by decide
  obtain ⟨record, hrecord, hfamily, hmodule⟩ := hpublished
  obtain ⟨newest, _, hfiled⟩ := hmerged record hrecord
  have hhealth := hfiled .health
  rw [hfamily, hmodule, if_pos rfl] at hhealth
  rw [hhealth] at hlost
  exact absurd hlost (by simp)

end velvet.body_state_bridge
