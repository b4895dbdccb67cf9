import VelvetRuntime.BodyState.Posture
import VelvetRuntime.BodyAdapter.Agreement

open python python.num python.str transitions velvet.body_state_bridge velvet.seat

namespace velvet.learning_mode_posture_sources

open velvet.body_adapter BodyRecord

variable [StrLower] [StrUpper] [JsonStr] {bridge : BodyStateSnapshotBridge} {module_id : String} {kept : Kept} {now : ℚ}

omit [StrUpper] in
theorem candidates_filter (module_id family : String) (records : List Json) :
    candidates module_id family records = candidates module_id family (records.filter (is_candidate module_id family)) := by
  induction records with
  | nil => rfl
  | cons record rest ih =>
    by_cases hcandidate : is_candidate module_id family record = true
    · rw [List.filter_cons_of_pos hcandidate, candidates, candidates, if_pos hcandidate, if_pos hcandidate, ih]
    · rw [List.filter_cons_of_neg hcandidate, candidates, if_neg hcandidate, ih]

omit [JsonStr] in
theorem payload_of_document (body : BodyRecord) : payload_of body.document = some body.payload := by
  rw [body.document_eq]
  unfold payload_of
  dsimp only
  rw [body.is_accepted.payload_read]

theorem module_id_of_payload (body : BodyRecord) : text_of body.payload "module_id" = body.module_id := by
  have hgiven := body.is_accepted.texts_given "module_id" (List.mem_append_left _ (by decide))
  obtain ⟨text, htext, _⟩ := is_given_iff.mp hgiven
  unfold text_of module_id
  rw [htext, Option.map_some, Option.getD_some, JsonStr.str_text]

/-- A record is a candidate by its family and by its module. -/
theorem is_candidate_document (family : String) (body : BodyRecord) : is_candidate module_id family body.document =
    (decide (String.ofList (StrLower.lower (text_of body.entries "family").toList) = family) &&
      decide (body.module_id = module_id)) := by
  have hpayload := payload_of_document body
  rw [body.document_eq] at hpayload ⊢
  unfold is_candidate
  dsimp only
  rw [hpayload, Option.any_some, module_id_of_payload]

/-- The candidates in a table are what it has under the module's id, when that is of the family. -/
theorem filter_table (table : ModuleTable) (family : String) :
    (table.sorted_records.map document).filter (is_candidate module_id family) =
      ((table.get? module_id).toList.filter (fun body =>
        String.ofList (StrLower.lower (text_of body.entries "family").toList) = family)).map document := by
  rw [List.filter_map, ← table.filter_sorted_records module_id, List.filter_filter]
  congr 1
  exact List.filter_congr fun body _ => is_candidate_document family body

/-- What a table has of a module, by the family of its record. -/
theorem filter_stored {table : ModuleTable} {record : Option Json} {own : String}
    (hstored : (table.get? module_id).map document = record)
    (hfamily : ∀ body, table.get? module_id = some body →
      String.ofList (StrLower.lower (text_of body.entries "family").toList) = own) (family : String) :
    (table.sorted_records.map document).filter (is_candidate module_id family) =
      if own = family then record.toList else [] := by
  rw [filter_table]
  cases hget : table.get? module_id with
  | none =>
    rw [hget] at hstored
    rw [← hstored]
    exact (ite_self []).symm
  | some body =>
    rw [hget] at hstored
    rw [← hstored, Option.toList_some]
    have hown := hfamily body hget
    split
    case isTrue hsame =>
      rw [List.filter_cons_of_pos (by simpa using hown.trans hsame)]
      rfl
    case isFalse hother =>
      rw [List.filter_cons_of_neg (by simpa using hown.symm ▸ hother)]
      rfl

/-- The candidates of a module in a snapshot are what is kept of it. -/
theorem filter_records (hstores : Stores bridge module_id kept) (family : String) :
    (bridge.records.map document).filter (is_candidate module_id family) =
      (if "sensor" = family then (kept.sensor.map SensorEvent.record).toList else []) ++
        if "health" = family then (kept.health.map HealthEvent.record).toList else [] := by
  unfold BodyStateSnapshotBridge.records
  rw [List.map_append, List.filter_append]
  congr 1
  · refine filter_stored hstores.sensor (fun body hget => ?_) family
    have hstored := hstores.sensor
    rw [show (bridge.table .sensor).get? module_id = some body from hget] at hstored
    obtain ⟨event, _, hrecord⟩ := Option.map_eq_some_iff.mp hstored.symm
    unfold text_of
    rw [envelope_family hrecord.symm, Option.map_some, Option.getD_some, JsonStr.str_text, lower_sensor]
    rfl
  · refine filter_stored hstores.health (fun body hget => ?_) family
    have hstored := hstores.health
    rw [show (bridge.table .health).get? module_id = some body from hget] at hstored
    obtain ⟨event, _, hrecord⟩ := Option.map_eq_some_iff.mp hstored.symm
    unfold text_of
    rw [envelope_family hrecord.symm, Option.map_some, Option.getD_some, JsonStr.str_text, lower_health]
    rfl

variable {event : SensorEvent}

omit [JsonStr] in
/-- The timestamps of stored events passed the checks. -/
theorem sensor_timestamp_not_negative (hstores : Stores bridge module_id kept)
    (hevent : event ∈ kept.sensor) : 0 ≤ event.timestamp := by
  have hstored := hstores.sensor
  rw [Option.mem_def.mp hevent] at hstored
  obtain ⟨body, _, hdocument⟩ := Option.map_eq_some_iff.mp hstored
  have hpositive := body.is_accepted.timestamp_not_negative
  rw [SensorEvent.body_timestamp hdocument] at hpositive
  simpa [JsonFloat.lt] using hpositive

omit [JsonStr] in
theorem health_timestamp_not_negative (hstores : Stores bridge module_id kept) {event : HealthEvent}
    (hevent : event ∈ kept.health) : 0 ≤ event.timestamp := by
  have hstored := hstores.health
  rw [Option.mem_def.mp hevent] at hstored
  obtain ⟨body, _, hdocument⟩ := Option.map_eq_some_iff.mp hstored
  have hpositive := body.is_accepted.timestamp_not_negative
  rw [HealthEvent.body_timestamp hdocument] at hpositive
  simpa [JsonFloat.lt] using hpositive

omit [StrLower] [StrUpper] [JsonStr] in
/-- The timestamp of an adapter's record. -/
theorem finite_time_of_not_negative {timestamp : ℚ} (hpositive : 0 ≤ timestamp) :
    finite_time (float_json timestamp) = .ok (some timestamp) := by
  have hread : finite_time (float_json timestamp) = .ok (if timestamp < 0 then none else some timestamp) := rfl
  rw [hread, if_neg (not_lt.mpr hpositive)]

omit [JsonStr] in
theorem sensor_record_timestamp (hstores : Stores bridge module_id kept)
    (hevent : event ∈ kept.sensor) : record_timestamp event.record = .ok (some event.timestamp) :=
  finite_time_of_not_negative (sensor_timestamp_not_negative hstores hevent)

omit [JsonStr] in
theorem health_record_timestamp (hstores : Stores bridge module_id kept) {event : HealthEvent}
    (hevent : event ∈ kept.health) : record_timestamp event.record = .ok (some event.timestamp) :=
  finite_time_of_not_negative (health_timestamp_not_negative hstores hevent)

variable {records : List Json}

omit [StrUpper] in
/-- The only candidate is the latest record. -/
theorem latest_record_of_filter {family : String} {found : Option Json}
    (hfilter : records.filter (is_candidate module_id family) = found.toList)
    (htimestamp : ∀ record ∈ found, ∃ timestamp, record_timestamp record = .ok (some timestamp)) :
    latest_record records module_id family = .ok found := by
  unfold latest_record
  rw [candidates_filter, hfilter]
  cases found with
  | none => rfl
  | some record =>
    obtain ⟨timestamp, hread⟩ := htimestamp record rfl
    have hmem : record ∈ records.filter (is_candidate module_id family) := by
      rw [hfilter]
      exact List.mem_singleton_self record
    rw [Option.toList_some, candidates, if_pos (List.mem_filter.mp hmem).2, hread]
    rfl

theorem latest_sensor (hstores : Stores bridge module_id kept) :
    latest_record (bridge.records.map document) module_id "sensor" =
      .ok (kept.sensor.map SensorEvent.record) := by
  have hfilter := filter_records hstores "sensor"
  rw [if_pos rfl, if_neg (by decide), List.append_nil] at hfilter
  refine latest_record_of_filter hfilter fun record hrecord => ?_
  obtain ⟨event, hevent, rfl⟩ := Option.map_eq_some_iff.mp hrecord
  exact ⟨event.timestamp, sensor_record_timestamp hstores hevent⟩

theorem latest_health (hstores : Stores bridge module_id kept) :
    latest_record (bridge.records.map document) module_id "health" =
      .ok (kept.health.map HealthEvent.record) := by
  have hfilter := filter_records hstores "health"
  rw [if_pos rfl, if_neg (by decide), List.nil_append] at hfilter
  refine latest_record_of_filter hfilter fun record hrecord => ?_
  obtain ⟨event, hevent, rfl⟩ := Option.map_eq_some_iff.mp hrecord
  exact ⟨event.timestamp, health_record_timestamp hstores hevent⟩

omit [StrLower] [JsonStr] in
theorem upper_state (state : BodyState) : StrUpper.upper state.text.toList = state.text.toList := by
  cases state <;> (rw [StrUpper.upper_ascii _ (by decide)]; decide)

omit [StrLower] in
/-- The state that an adapter's record names. -/
theorem upper_of_state {entries : List (String × Json)} {key : String} {state : BodyState}
    (hentry : entry_of entries key = some (.text state.text)) : upper_of entries key = state.text := by
  unfold upper_of text_of
  rw [hentry, Option.map_some, Option.getD_some, JsonStr.str_text, upper_state, String.ofList_toList]

/-- Where the sensor record of a module is fresh, its current state is the one that is told. -/
theorem current_state_of_tells (hstores : Stores bridge module_id kept) {state : BodyState} {walls : List ℚ}
    (htells : kept.Tells state walls) (hevent : kept.sensor = some event)
    (hfresh : sensor_is_fresh event.payload now = .ok true) :
    current_state (bridge.records.map document) now module_id = .ok (some state.text) := by
  have hsensor_time := sensor_record_timestamp hstores hevent
  have hsensor_payload : payload_of event.record = some event.payload := rfl
  have hobserved : upper_of event.payload "health_state" = event.health_state.text := upper_of_state rfl
  unfold current_state
  rw [latest_sensor hstores, hevent, Option.map_some, except.ok_bind]
  dsimp only
  rw [hsensor_payload]
  dsimp only
  rw [hfresh, except.ok_bind, if_pos rfl, hsensor_time, except.ok_bind]
  dsimp only
  rw [latest_health hstores, except.ok_bind]
  cases hreport : kept.health with
  | none =>
    rcases htells.observed event hevent with hsame | ⟨report, hmem, _⟩
    · rw [Option.map_none, hobserved, hsame]
      rfl
    · rw [hreport] at hmem
      cases hmem
  | some report =>
    have hhealth_payload : payload_of report.record = some report.payload := rfl
    have hreported : upper_of report.payload "state_after" = report.state_after.text := upper_of_state rfl
    rw [Option.map_some]
    dsimp only
    rw [health_record_timestamp hstores hreport, except.ok_bind, hhealth_payload]
    dsimp only
    rw [hobserved, hreported, htells.reported report hreport]
    rcases htells.observed event hevent with hsame | ⟨later, hmem, hle⟩
    · rw [hsame, ite_self]
      rfl
    · rw [hreport] at hmem
      cases hmem
      rw [if_pos hle]
      rfl

/-- A current state is read only where the sensor record of the module is fresh. -/
theorem fresh_of_current_state {state : String}
    (hcurrent : current_state records now module_id = .ok (some state)) :
    ∃ sensor payload, latest_record records module_id "sensor" = .ok (some sensor) ∧
      payload_of sensor = some payload ∧ sensor_is_fresh payload now = .ok true := by
  obtain ⟨latest, hlatest, hcurrent⟩ := except.bind_eq_ok.mp hcurrent
  cases latest with
  | none => cases hcurrent
  | some sensor =>
    dsimp only at hcurrent
    cases hpayload : payload_of sensor with
    | none =>
      rw [hpayload] at hcurrent
      cases hcurrent
    | some payload =>
      rw [hpayload] at hcurrent
      obtain ⟨fresh, hfresh, hcurrent⟩ := except.bind_eq_ok.mp hcurrent
      cases fresh with
      | false => cases hcurrent
      | true => exact ⟨sensor, payload, hlatest, hpayload, hfresh⟩

theorem good_of_posture {modules : List String}
    (hposture : posture_of_modules records now modules = .ok .OK) :
    ∀ name ∈ modules, ∃ state ∈ GOOD_STATES, current_state records now name = .ok (some state) := by
  induction modules with
  | nil => exact fun name hmem => absurd hmem List.not_mem_nil
  | cons first rest ih =>
    unfold posture_of_modules at hposture
    obtain ⟨current, hcurrent, hposture⟩ := except.bind_eq_ok.mp hposture
    cases current with
    | none => cases hposture
    | some state =>
      dsimp only at hposture
      split at hposture
      case isTrue => cases hposture
      case isFalse =>
        split at hposture
        case isTrue => cases hposture
        case isFalse hgood =>
          intro name hmem
          rcases List.mem_cons.mp hmem with rfl | hrest
          · exact ⟨state, not_not.mp hgood, hcurrent⟩
          · exact ih hposture name hrest

/-- The posture of a snapshot is `OK` only when each module that is named has a good current state. -/
theorem good_of_snapshot {captured_at generated_monotonic time : ℚ} {critical_module_ids modules : List String}
    {now_wall : Option Json} (hmodules : normalized_ids critical_module_ids = .ok modules)
    (hposture : critical_health_posture_from_body_snapshot (bridge.snapshot captured_at generated_monotonic)
      critical_module_ids now_wall time = .ok .OK) :
    ∃ present, ∀ name ∈ modules, ∃ state ∈ GOOD_STATES,
      current_state (bridge.records.map document) present name = .ok (some state) := by
  unfold critical_health_posture_from_body_snapshot at hposture
  rw [hmodules, except.ok_bind] at hposture
  split at hposture
  case isTrue => cases hposture
  case isFalse =>
    have hread : (do
        let now ← reading "now_wall" now_wall time
        posture_of_modules (bridge.records.map document) now modules) = .ok .OK := hposture
    obtain ⟨present, _, hposture⟩ := except.bind_eq_ok.mp hread
    exact ⟨present, good_of_posture hposture⟩

end velvet.learning_mode_posture_sources

namespace velvet.body_adapter

open velvet.learning_mode_posture_sources

/-- The adapters of a seat: the radar, the pressure pads and the heartbeat sensor, and the body map. -/
inductive SeatAdapter where
  | node (kind : NodeKind)
  | body_map (platform : Platform) (adapter : seat_person_sense_body_map.SeatPersonSenseBodyMapAdapter)

namespace SeatAdapter

def machine : SeatAdapter → Machine
  | node kind => (BodyAdapter.seat_node kind).machine
  | body_map platform adapter => (BodyAdapter.body_map platform adapter).machine

def seat : SeatAdapter → SeatModule
  | node kind => kind.adapter.node.toSeatModule
  | body_map _ adapter => adapter.seat

def module_id (adapter : SeatAdapter) : String := adapter.seat.identity.module_id

/-- The wall clock as a call reads it. -/
def clock : (adapter : SeatAdapter) → adapter.machine.Operation → Except Error ℚ
  | node _, (operation : NodeOperation _) => operation.clock
  | body_map _ _, (operation : seat_person_sense_body_map.BodyMapOperation) => operation.clock

def health : (adapter : SeatAdapter) → adapter.machine.State → SeatHealth
  | node _, (state : NodeAdapter) => state.health
  | body_map _ _, (state : seat_person_sense_body_map.BodyMapState) => state.health

variable (adapter : SeatAdapter)

theorem state_eq (state : adapter.machine.State) :
    adapter.machine.state state = (adapter.health state).state := by
  cases adapter <;> rfl

theorem perform_move (before : adapter.machine.State) (operation : adapter.machine.Operation) :
    Move adapter.seat (adapter.clock operation) (adapter.health before)
      (adapter.health (adapter.machine.perform before operation).1) (adapter.machine.perform before operation).2 := by
  cases adapter with
  | node kind => exact velvet.seat.perform_move kind.faithful operation
  | body_map platform adapter => exact adapter.perform_move operation

end SeatAdapter

section system

variable [StrLower] [StrUpper] {ι : Type} [DecidableEq ι] (adapters : ι → SeatAdapter)

/-- The adapters and the bridge that they publish to. -/
structure SeatSystem where
  states : ∀ i, (adapters i).machine.State
  bridge : BodyStateSnapshotBridge

/-- A call of an adapter, whose cycle is published, or a publication by somebody else. -/
inductive SeatMove where
  | call (i : ι) (operation : (adapters i).machine.Operation)
  | other (records : List Json)

namespace SeatSystem

variable {adapters}

def initial (max_modules : Nat) : SeatSystem adapters := ⟨fun i => (adapters i).machine.initial, ⟨max_modules, .empty, .empty⟩⟩

def step (system : SeatSystem adapters) : SeatMove adapters → SeatSystem adapters × Except Error Unit
  | .call i operation =>
    let (after, outcome) := (adapters i).machine.perform (system.states i) operation
    let (bridge, published) := system.bridge.publish_many (published_cycle outcome).records
    (⟨Function.update system.states i after, bridge⟩, published)
  | .other records =>
    let (bridge, published) := system.bridge.publish_many records
    ({ system with bridge }, published)

/-- The cycle of a call is published, and what somebody else publishes is of other modules. -/
def Published (system : SeatSystem adapters) (move : SeatMove adapters) : Prop :=
  match move with
  | .call _ _ => (system.step move).2 = .ok ()
  | .other records => ∀ record ∈ records, ∀ body, validated record = .ok body → ∀ i, body.module_id ≠ (adapters i).module_id

/-- The readings of the wall clock by the calls of one adapter. -/
def walls (i : ι) (moves : List (SeatMove adapters)) : List ℚ :=
  moves.filterMap (fun move =>
    match move with
    | .call j operation => if j = i then ((adapters j).clock operation).toOption else none
    | .other _ => none)

omit [StrLower] [StrUpper] in
theorem walls_concat (i : ι) (moves : List (SeatMove adapters)) (move : SeatMove adapters) :
    walls i (moves ++ [move]) = walls i moves ++ walls i [move] := List.filterMap_append

omit [StrLower] [StrUpper] in
theorem walls_own (i : ι) (operation : (adapters i).machine.Operation) :
    walls i [SeatMove.call i operation] = ((adapters i).clock operation).toOption.toList := by
  unfold walls
  rw [List.filterMap_cons, List.filterMap_nil]
  dsimp only
  rw [if_pos rfl]
  cases (((adapters i).clock operation).toOption) <;> rfl

omit [StrLower] [StrUpper] in
theorem walls_other {i j : ι} (hother : j ≠ i) (operation : (adapters j).machine.Operation) :
    walls i [SeatMove.call j operation] = [] := by
  unfold walls
  rw [List.filterMap_cons, List.filterMap_nil]
  dsimp only
  rw [if_neg hother]

/-- The bridge has records of an adapter's module that tell its state. -/
def Told (system : SeatSystem adapters) (i : ι) (walls : List ℚ) : Prop :=
  ∃ kept, Stores system.bridge (adapters i).module_id kept ∧
    kept.Tells ((adapters i).machine.state (system.states i)) walls

/-- A call whose cycle is published leaves the state of its adapter told. -/
theorem Told.call {system : SeatSystem adapters} {i : ι} {earlier : List ℚ} (htold : system.Told i earlier)
    (operation : (adapters i).machine.Operation) (hpublished : system.Published (.call i operation))
    (hlater : ∀ wall, (adapters i).clock operation = .ok wall → ∀ time ∈ earlier, time ≤ wall) :
    (system.step (.call i operation)).1.Told i (earlier ++ ((adapters i).clock operation).toOption.toList) := by
  obtain ⟨kept, hstores, htells⟩ := htold
  rw [SeatAdapter.state_eq] at htells
  have hmove := (adapters i).perform_move (system.states i) operation
  refine ⟨kept.take (published_cycle ((adapters i).machine.perform (system.states i) operation).2), ?_, ?_⟩
  · refine hstores.publish_cycle (fun event hevent => ?_) (fun event hevent => ?_) hpublished
    · obtain ⟨hidentity, htime⟩ := hmove.sensor_event hevent
      refine ⟨congrArg ModuleIdentity.module_id hidentity, fun before hbefore => ?_⟩
      exact hlater _ htime _ (htells.sensor_time before hbefore)
    · obtain ⟨hidentity, htime⟩ := hmove.health_event hevent
      refine ⟨congrArg ModuleIdentity.module_id hidentity, fun before hbefore => ?_⟩
      exact hlater _ htime _ (htells.health_time before hbefore)
  · have hstate : (system.step (.call i operation)).1.states i =
        ((adapters i).machine.perform (system.states i) operation).1 := Function.update_self ..
    rw [SeatAdapter.state_eq, hstate]
    exact hmove.tells htells hlater

/-- A call of another adapter leaves what is told as it was. -/
theorem Told.call_other {system : SeatSystem adapters} {i j : ι} {earlier : List ℚ} (htold : system.Told i earlier)
    (hother : j ≠ i) (hmodule : (adapters j).module_id ≠ (adapters i).module_id)
    (operation : (adapters j).machine.Operation) : (system.step (.call j operation)).1.Told i earlier := by
  obtain ⟨kept, hstores, htells⟩ := htold
  have hmove := (adapters j).perform_move (system.states j) operation
  refine ⟨kept, hstores.publish_other fun record hrecord body hbody => ?_, ?_⟩
  · have hdocument := validated_eq_ok_iff.mp hbody
    rcases Cycle.mem_records hrecord with ⟨event, hevent, rfl⟩ | ⟨event, hevent, rfl⟩
    · rw [SensorEvent.body_module_id hdocument, (hmove.sensor_event hevent).1]
      exact hmodule
    · rw [HealthEvent.body_module_id hdocument, (hmove.health_event hevent).1]
      exact hmodule
  · have hstate : (system.step (.call j operation)).1.states i = system.states i :=
      Function.update_of_ne hother.symm ..
    rw [hstate]
    exact htells

/-- Over every run, the bridge has records of each adapter's module that tell its state. -/
theorem told_run (hdistinct : Function.Injective (fun i => (adapters i).module_id)) (max_modules : Nat)
    (moves : List (SeatMove adapters)) (hclock : ∀ i, (walls i moves).Pairwise (· ≤ ·))
    (hpublished : Each Published step (initial max_modules) moves) (i : ι) :
    (run step (initial max_modules) moves).1.Told i (walls i moves) := by
  induction moves using List.reverseRecOn with
  | nil =>
    refine ⟨.empty, ⟨rfl, rfl⟩, Kept.tells_initial _⟩
  | append_singleton moves move ih =>
    obtain ⟨hbefore, hmove, _⟩ := each_append.mp hpublished
    have hearlier : ∀ j, (walls j moves).Pairwise (· ≤ ·) := by
      intro j
      have hall := hclock j
      rw [walls_concat] at hall
      exact (List.pairwise_append.mp hall).1
    have htold := ih hearlier hbefore
    rw [run_concat, walls_concat]
    cases move with
    | other records =>
      obtain ⟨kept, hstores, htells⟩ := htold
      refine ⟨kept, hstores.publish_other fun record hrecord body hbody => hmove record hrecord body hbody i, ?_⟩
      exact htells.later _
    | call j operation =>
      by_cases hown : j = i
      · subst hown
        have hall := hclock j
        rw [walls_concat, walls_own] at hall
        rw [walls_own]
        refine htold.call operation hmove fun wall hwall time htime => ?_
        rw [hwall] at hall
        exact (List.pairwise_append.mp hall).2.2 time htime wall (List.mem_singleton_self wall)
      · rw [walls_other hown, List.append_nil]
        exact htold.call_other hown (fun hsame => hown (hdistinct hsame)) operation

/-- Over every run of the seat's adapters in which no adapter's wall clock runs back, whose cycles are all published, and
with whatever is published of other modules in between: where the sensor record of an adapter's module is fresh, its
current state is the state of the adapter. So the posture is `OK` only if each adapter that is named is `ONLINE`. -/
theorem posture_agrees [JsonStr] (hdistinct : Function.Injective (fun i => (adapters i).module_id)) (max_modules : Nat)
    (moves : List (SeatMove adapters)) (hclock : ∀ i, (walls i moves).Pairwise (· ≤ ·))
    (hpublished : Each Published step (initial max_modules) moves) :
    (∀ i now sensor payload,
        latest_record ((run step (initial max_modules) moves).1.bridge.records.map BodyRecord.document)
            (adapters i).module_id "sensor" = .ok (some sensor) →
          payload_of sensor = some payload → sensor_is_fresh payload now = .ok true →
          current_state ((run step (initial max_modules) moves).1.bridge.records.map BodyRecord.document) now
              (adapters i).module_id =
            .ok (some ((adapters i).machine.state ((run step (initial max_modules) moves).1.states i)).text)) ∧
      ∀ captured_at generated_monotonic critical_module_ids modules now_wall time,
        normalized_ids critical_module_ids = .ok modules →
          critical_health_posture_from_body_snapshot
              ((run step (initial max_modules) moves).1.bridge.snapshot captured_at generated_monotonic)
              critical_module_ids now_wall time = .ok .OK →
            ∀ i, (adapters i).module_id ∈ modules →
              (adapters i).machine.state ((run step (initial max_modules) moves).1.states i) = .ONLINE := by
  have hcurrent : ∀ i now sensor payload,
      latest_record ((run step (initial max_modules) moves).1.bridge.records.map BodyRecord.document)
          (adapters i).module_id "sensor" = .ok (some sensor) →
        payload_of sensor = some payload → sensor_is_fresh payload now = .ok true →
        current_state ((run step (initial max_modules) moves).1.bridge.records.map BodyRecord.document) now
            (adapters i).module_id =
          .ok (some ((adapters i).machine.state ((run step (initial max_modules) moves).1.states i)).text) := by
    intro i now sensor payload hsensor hpayload hfresh
    obtain ⟨kept, hstores, htells⟩ := told_run hdistinct max_modules moves hclock hpublished i
    rw [latest_sensor hstores] at hsensor
    obtain ⟨event, hevent, rfl⟩ := Option.map_eq_some_iff.mp (Except.ok.inj hsensor)
    cases hpayload
    exact current_state_of_tells hstores htells hevent hfresh
  refine ⟨hcurrent, ?_⟩
  intro captured_at generated_monotonic critical_module_ids modules now_wall time hmodules hposture i hnamed
  obtain ⟨present, hgood⟩ := good_of_snapshot hmodules hposture
  obtain ⟨state, hstate, hread⟩ := hgood _ hnamed
  obtain ⟨sensor, payload, hsensor, hpayload, hfresh⟩ := fresh_of_current_state hread
  rw [hcurrent i present sensor payload hsensor hpayload hfresh] at hread
  rw [← Option.some.inj (Except.ok.inj hread)] at hstate
  revert hstate
  cases (adapters i).machine.state ((run step (initial max_modules) moves).1.states i) <;> decide

end SeatSystem

end system

/-- The radar of a seat, without the other adapters. -/
def radar_alone : Unit → SeatAdapter := fun _ => .node (.presence driver_radar)

/-- Two observations, of which the second changes nothing. -/
def radar_moves : List (SeatMove radar_alone) := [.call () (empty_seat "a" 1), .call () (empty_seat "a" 2)]

theorem posture_agrees_of_radar :
    letI := StrLower.ascii
    letI := StrUpper.ascii
    letI := JsonStr.of_texts
    (radar_alone ()).machine.state ((run SeatSystem.step (SeatSystem.initial 256) radar_moves).1.states ()) = .ONLINE := by
  have hfirst : letI := StrLower.ascii
      letI := StrUpper.ascii
      (SeatSystem.step (SeatSystem.initial 256) (.call () (empty_seat "a" 1) : SeatMove radar_alone)).2 = .ok () := by
    decide
  have hsecond : letI := StrLower.ascii
      letI := StrUpper.ascii
      (SeatSystem.step
        (SeatSystem.step (SeatSystem.initial 256) (.call () (empty_seat "a" 1) : SeatMove radar_alone)).1
        (.call () (empty_seat "a" 2))).2 = .ok () := by
    decide
  have hagrees := @SeatSystem.posture_agrees StrLower.ascii StrUpper.ascii Unit inferInstance radar_alone
    JsonStr.of_texts (fun _ _ _ => rfl) 256 radar_moves (by decide) ⟨hfirst, hsecond, trivial⟩
  exact hagrees.2 43201 101 ["seat-radar"] ["seat-radar"] (some (float_json 43201)) 0 (by decide)
    (by decide +kernel) () (by decide)

end velvet.body_adapter
