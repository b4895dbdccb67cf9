import VelvetRuntime.Latest
import VelvetRuntime.SensorFabric.Fabric
import VelvetRuntime.SensorLan.Replay

open python python.num inverted_index
open velvet.sensor_lan_ingress (normalized_text normalized_text_eq_ok)

namespace velvet.sensor_fabric

open Program SensorFabric

variable {fabric : SensorFabric}

/-- The record of a sensor, or a new one when it has none. -/
def SensorFabric.known (self : SensorFabric) (sensor_id sensor_family : String) : SensorRecord :=
  (self.sensors.get? sensor_id).getD (.new sensor_id sensor_family)

variable {sensor_id sensor_family : String}

theorem SensorFabric.known_of_none (hget : fabric.sensors.get? sensor_id = none) :
    fabric.known sensor_id sensor_family = .new sensor_id sensor_family := by
  unfold known
  rw [hget]
  rfl

variable {record : SensorRecord}

theorem SensorFabric.known_of_some
    (hget : fabric.sensors.get? sensor_id = some record) : fabric.known sensor_id sensor_family = record := by
  unfold known
  rw [hget]
  rfl

/-- A record with what a declaration says. -/
def SensorRecord.declared (record : SensorRecord) (declared : Declaration) : SensorRecord :=
  { record with
    measurements := declared.measurements
    outputs := declared.outputs
    diagnostics := declared.diagnostics
    timing := declared.timing }

/-- A record with what lifecycle evidence says. -/
def SensorRecord.evidenced (record : SensorRecord) (evidence : LifecycleEvidence) : SensorRecord :=
  { record with
    lifecycle_state := evidence.state
    calibration_id := evidence.calibration_id.or record.calibration_id
    lifecycle_reasons := evidence.reasons }

/-- A record with what an observation says, unless it is older. -/
def SensorRecord.observed (record : SensorRecord) (observation : Observation) : SensorRecord :=
  if record.updated_by observation then
    { record with
      health_state := observation.health_state
      quality_state := observation.quality_state
      calibration_id := observation.calibration_id.or record.calibration_id
      latest_measured_at := some observation.measured_at
      latest_received_at := some observation.received_at }
  else record

/-- The fabric after a declaration: the sensor leaves the capabilities of its old record and joins those of the new. -/
def SensorFabric.registered (self : SensorFabric) (declared : Declaration) : SensorFabric :=
  let previous := self.known declared.sensor_id declared.sensor_family
  let record := previous.declared declared
  ((self.remove_from_capability_index previous).store declared.sensor_id record).add_to_capability_index record

/-- A refused declaration changes nothing. -/
theorem wp_register (payload : Json) :
    wp (register_capabilities payload)
      (fun record after => ∃ declared, read_declaration payload = .ok declared ∧
        record = (fabric.known declared.sensor_id declared.sensor_family).declared declared ∧
        after = fabric.registered declared)
      (fun _ after => after = fabric) fabric := by
  unfold register_capabilities
  rw [wp_bind, wp_of_except]
  cases hread : read_declaration payload with
  | error error => rfl
  | ok declared =>
    dsimp only
    rw [wp_bind, wp_get]
    cases hget : fabric.sensors.get? declared.sensor_id with
    | none =>
      -- A sensor without a record is under no capability.
      refine ⟨declared, rfl, ?_, ?_⟩
      · rw [known_of_none hget]
        rfl
      · unfold registered
        rw [known_of_none hget]
        rfl
    | some previous =>
      dsimp only
      split
      · rfl
      · refine ⟨declared, rfl, ?_, ?_⟩
        · rw [known_of_some hget]
          rfl
        · unfold registered
          rw [known_of_some hget]
          rfl

theorem wp_lifecycle (payload : Json) :
    wp (apply_lifecycle payload)
      (fun record after => ∃ evidence, read_lifecycle payload = .ok evidence ∧
        record = (fabric.known evidence.sensor_id evidence.sensor_family).evidenced evidence ∧
        after = fabric.store evidence.sensor_id record)
      (fun _ after => after = fabric) fabric := by
  unfold apply_lifecycle
  rw [wp_bind, wp_of_except]
  cases hread : read_lifecycle payload with
  | error error => rfl
  | ok evidence =>
    dsimp only
    rw [wp_bind, wp_get]
    cases hget : fabric.sensors.get? evidence.sensor_id with
    | none =>
      refine ⟨evidence, rfl, ?_, rfl⟩
      rw [known_of_none hget]
      simp [SensorRecord.evidenced, SensorRecord.new]
    | some previous =>
      dsimp only
      split
      · rfl
      · refine ⟨evidence, rfl, ?_, rfl⟩
        rw [known_of_some hget]
        rfl

theorem wp_subscribe (subscription : SensorSubscription) :
    wp (subscribe subscription)
      (fun _ after => subscription ∉ fabric.subscriptions ∧
        after = { fabric with subscriptions := fabric.subscriptions ++ [subscription] })
      (fun _ after => after = fabric) fabric := by
  unfold subscribe
  rw [wp_bind, wp_get]
  split
  · rfl
  · rename_i hnew
    exact ⟨hnew, rfl⟩

/-- The sensor of an envelope and what it observed, once the envelope is read. -/
def observed_in (envelope : Json) : Option (String × Observation) :=
  match envelope with
  | .object entries =>
    match read_source entries, read_observation entries with
    | .ok (sensor_id, _), .ok observation => some (sensor_id, observation)
    | _, _ => none
  | _ => none

/-- The ids that envelopes name are trimmed. -/
theorem normalized_text_of_read_source {envelope : List (String × Json)} {sensor_id sensor_family name : String}
    (hread : read_source envelope = .ok (sensor_id, sensor_family)) :
    normalized_text name (some (.text sensor_id)) = .ok sensor_id := by
  unfold read_source at hread
  split at hread
  · obtain ⟨_, _, hread⟩ := except.bind_eq_ok.mp hread
    obtain ⟨sensor, _, hread⟩ := except.bind_eq_ok.mp hread
    obtain ⟨found, hfound, hread⟩ := except.bind_eq_ok.mp hread
    obtain ⟨_, _, hread⟩ := except.bind_eq_ok.mp hread
    cases hread
    obtain ⟨text, _, hblank, rfl⟩ := normalized_text_eq_ok.mp hfound
    exact normalized_text_eq_ok.mpr ⟨_, rfl, fun hnone => hblank ((blank_stripped_iff text).mp hnone),
      (stripped_stripped text).symm⟩
  · cases hread

theorem wp_route (envelope : Json) :
    wp (route_observation envelope)
      (fun deliveries after => ∃ entries sensor_id observation record, envelope = .object entries ∧
        observed_in envelope = some (sensor_id, observation) ∧ fabric.sensors.get? sensor_id = some record ∧
        (after = fabric ∧ record.observed observation = record ∨
          after = fabric.store sensor_id (record.observed observation)) ∧
        deliveries = (sorted_subscriptions fabric).filterMap (delivery_for sensor_id record observation entries))
      (fun _ after => after = fabric) fabric := by
  unfold route_observation
  rw [wp_bind, wp_of_except]
  cases hentries : require_mapping "envelope" (some envelope) with
  | error error => rfl
  | ok entries =>
    dsimp only
    rw [wp_bind, wp_of_except]
    cases hsource : read_source entries with
    | error error => rfl
    | ok source =>
      obtain ⟨sensor_id, sensor_family⟩ := source
      dsimp only
      unfold require_sensor
      rw [wp_bind, wp_bind, wp_of_except, normalized_text_of_read_source hsource]
      dsimp only
      rw [wp_bind, wp_get]
      cases hget : fabric.sensors.get? sensor_id with
      | none => rfl
      | some record =>
        dsimp only
        rw [wp_pure]
        split
        · rfl
        · split
          · rfl
          · rw [wp_bind, wp_of_except]
            cases hobservation : read_observation entries with
            | error error => rfl
            | ok observation =>
              have henvelope : envelope = .object entries := by
                unfold require_mapping at hentries
                split at hentries
                · rename_i found
                  cases hentries
                  exact Option.some.inj found
                · cases hentries
              have hobserved : observed_in envelope = some (sensor_id, observation) := by
                rw [henvelope]
                unfold observed_in
                dsimp only
                rw [hsource, hobservation]
              dsimp only
              rw [wp_bind]
              unfold record_observation
              split
              · rename_i hnewer
                have hrecord : record.observed observation = { record with
                    health_state := observation.health_state
                    quality_state := observation.quality_state
                    calibration_id := observation.calibration_id.or record.calibration_id
                    latest_measured_at := some observation.measured_at
                    latest_received_at := some observation.received_at } := if_pos hnewer
                refine ⟨entries, sensor_id, observation, record, henvelope, hobserved, hget, .inr ?_, rfl⟩
                rw [hrecord]
              · rename_i holder
                exact ⟨entries, sensor_id, observation, record, henvelope, hobserved, hget, .inl ⟨rfl, if_neg holder⟩, rfl⟩

/-- The sensor's record has the capability. -/
def HasCapability (fabric : SensorFabric) (sensor_id capability : String) : Prop :=
  ∃ record, fabric.sensors.get? sensor_id = some record ∧ capability ∈ record.capabilities

/-- Every record is under its own id, the index is in step with the records, and no subscription is stored twice. -/
structure Consistent (fabric : SensorFabric) : Prop where
  named : ∀ sensor_id record, fabric.sensors.get? sensor_id = some record → record.sensor_id = sensor_id
  indexed : Indexes fabric.capability_sources (HasCapability fabric)
  distinct : fabric.subscriptions.Nodup

theorem hasCapability_store {sensor_id : String} {other capability : String} :
    HasCapability (fabric.store sensor_id record) other capability ↔
      if other = sensor_id then capability ∈ record.capabilities else HasCapability fabric other capability := by
  unfold HasCapability store
  dsimp only
  rw [Dict.get?_set]
  split
  · simp
  · rfl

theorem SensorFabric.sensor_id_known (hconsistent : Consistent fabric) (sensor_id sensor_family : String) :
    (fabric.known sensor_id sensor_family).sensor_id = sensor_id := by
  cases hget : fabric.sensors.get? sensor_id with
  | none =>
    rw [known_of_none hget]
    rfl
  | some record =>
    rw [known_of_some hget]
    exact hconsistent.named sensor_id record hget

/-- A record that is stored under its id with the capabilities that it had. -/
theorem Consistent.store (hconsistent : Consistent fabric) {sensor_id : String} {record : SensorRecord}
    (hnamed : record.sensor_id = sensor_id)
    (hcapabilities : ∀ capability, capability ∈ record.capabilities ↔ HasCapability fabric sensor_id capability) :
    Consistent (fabric.store sensor_id record) := by
  refine ⟨?_, ?_, hconsistent.distinct⟩
  · intro other found hget
    unfold SensorFabric.store at hget
    dsimp only at hget
    rw [Dict.get?_set] at hget
    split at hget
    · rename_i hsame
      cases hget
      exact hnamed.trans hsame.symm
    · exact hconsistent.named other found hget
  · refine hconsistent.indexed.congr fun other capability => ?_
    rw [hasCapability_store]
    split
    · rename_i hsame
      rw [hsame]
      exact (hcapabilities capability).symm
    · rfl

theorem hasCapability_known (fabric : SensorFabric) (sensor_id sensor_family capability : String) :
    capability ∈ (fabric.known sensor_id sensor_family).capabilities ↔
      HasCapability fabric sensor_id capability := by
  unfold HasCapability
  cases hget : fabric.sensors.get? sensor_id with
  | none =>
    rw [known_of_none hget]
    simp [SensorRecord.new, SensorRecord.capabilities]
  | some record =>
    rw [known_of_some hget]
    simp

theorem Consistent.registered (hconsistent : Consistent fabric) (declared : Declaration) :
    Consistent (fabric.registered declared) := by
  let previous := fabric.known declared.sensor_id declared.sensor_family
  let record := previous.declared declared
  have hprevious : previous.sensor_id = declared.sensor_id :=
    SensorFabric.sensor_id_known hconsistent declared.sensor_id declared.sensor_family
  have hrecord : record.sensor_id = declared.sensor_id := hprevious
  refine ⟨?_, ?_, hconsistent.distinct⟩
  · intro other found hget
    change (fabric.sensors.set declared.sensor_id record).get? other = some found at hget
    rw [Dict.get?_set] at hget
    split at hget
    · rename_i hsame
      cases hget
      exact hrecord.trans hsame.symm
    · exact hconsistent.named other found hget
  · have hremoved := hconsistent.indexed.remove_all previous.sensor_id previous.capabilities
    refine (hremoved.add_all record.sensor_id record.capabilities).congr ?_
    intro other capability
    change _ ↔ HasCapability (fabric.store declared.sensor_id record) other capability
    rw [hasCapability_store, hprevious, hrecord]
    split
    · rename_i hsame
      have hold := hasCapability_known fabric declared.sensor_id declared.sensor_family capability
      rw [hsame]
      tauto
    · tauto

/-- A call of the fabric. -/
inductive Call where
  | register_capabilities (payload : Json)
  | apply_lifecycle (payload : Json)
  | subscribe (subscription : SensorSubscription)
  | route_observation (envelope : Json)

/-- Only a routed observation is answered with deliveries. -/
def Call.perform : Call → Program Error SensorFabric (List SensorDelivery)
  | .register_capabilities payload => do
    let _ ← sensor_fabric.register_capabilities payload
    pure []
  | .apply_lifecycle payload => do
    let _ ← sensor_fabric.apply_lifecycle payload
    pure []
  | .subscribe subscription => do
    sensor_fabric.subscribe subscription
    pure []
  | .route_observation envelope => sensor_fabric.route_observation envelope

def run (fabric : SensorFabric) (calls : List Call) : SensorFabric :=
  calls.foldl (fun fabric call => call.perform.after fabric) fabric

/-- What a call does to the fabric when it returns. -/
inductive Changed (before : SensorFabric) : Call → SensorFabric → Prop
  | registered (payload : Json) (declared : Declaration) (hread : read_declaration payload = .ok declared) :
    Changed before (.register_capabilities payload) (before.registered declared)
  | lifecycle (payload : Json) (evidence : LifecycleEvidence) (hread : read_lifecycle payload = .ok evidence) :
    Changed before (.apply_lifecycle payload) (before.store evidence.sensor_id
      ((before.known evidence.sensor_id evidence.sensor_family).evidenced evidence))
  | subscribed (subscription : SensorSubscription) (hnew : subscription ∉ before.subscriptions) :
    Changed before (.subscribe subscription) { before with subscriptions := before.subscriptions ++ [subscription] }
  | routed (envelope : Json) (sensor_id : String) (observation : Observation) (record : SensorRecord)
    (after : SensorFabric) (hobserved : observed_in envelope = some (sensor_id, observation))
    (hget : before.sensors.get? sensor_id = some record)
    (hafter : after = before ∧ record.observed observation = record ∨
      after = before.store sensor_id (record.observed observation)) :
    Changed before (.route_observation envelope) after

/-- A call that raises changes nothing. -/
theorem wp_perform (call : Call) :
    wp call.perform (fun _ after => Changed fabric call after) (fun _ after => after = fabric) fabric := by
  cases call with
  | register_capabilities payload =>
    refine (wp_bind _ _).mpr (wp_mono (wp_register payload) ?_ (fun _ _ hsame => hsame))
    rintro record after ⟨declared, hread, rfl, rfl⟩
    exact .registered payload declared hread
  | apply_lifecycle payload =>
    refine (wp_bind _ _).mpr (wp_mono (wp_lifecycle payload) ?_ (fun _ _ hsame => hsame))
    rintro record after ⟨evidence, hread, rfl, rfl⟩
    exact .lifecycle payload evidence hread
  | subscribe subscription =>
    refine (wp_bind _ _).mpr (wp_mono (wp_subscribe subscription) ?_ (fun _ _ hsame => hsame))
    rintro _ after ⟨hnew, rfl⟩
    exact .subscribed subscription hnew
  | route_observation envelope =>
    refine wp_mono (wp_route envelope) ?_ (fun _ _ hsame => hsame)
    rintro deliveries after ⟨entries, sensor_id, observation, record, _, hobserved, hget, hafter, _⟩
    exact .routed envelope sensor_id observation record after hobserved hget hafter

@[simp] theorem SensorRecord.capabilities_observed (record : SensorRecord) (observation : Observation) :
    (record.observed observation).capabilities = record.capabilities := by
  unfold observed
  split
  · rfl
  · rfl

@[simp] theorem SensorRecord.sensor_id_observed (record : SensorRecord) (observation : Observation) :
    (record.observed observation).sensor_id = record.sensor_id := by
  unfold observed
  split
  · rfl
  · rfl

theorem Consistent.changed (hconsistent : Consistent fabric) {call : Call} {after : SensorFabric}
    (hchanged : Changed fabric call after) : Consistent after := by
  cases hchanged with
  | registered payload declared hread => exact hconsistent.registered declared
  | lifecycle payload evidence hread =>
    exact hconsistent.store (SensorFabric.sensor_id_known hconsistent _ _)
      (hasCapability_known fabric evidence.sensor_id evidence.sensor_family)
  | subscribed subscription hnew =>
    exact ⟨hconsistent.named, hconsistent.indexed, List.nodup_append.mpr ⟨hconsistent.distinct,
      List.nodup_singleton _, fun left hleft right hright heq =>
        hnew (List.mem_singleton.mp hright ▸ heq ▸ hleft)⟩⟩
  | routed envelope sensor_id observation record _ hobserved hget hafter =>
    rcases hafter with ⟨rfl, _⟩ | rfl
    · exact hconsistent
    · refine hconsistent.store ?_ ?_
      · rw [SensorRecord.sensor_id_observed]
        exact hconsistent.named sensor_id record hget
      · intro capability
        rw [SensorRecord.capabilities_observed]
        simp [HasCapability, hget]

theorem Consistent.perform (hconsistent : Consistent fabric) (call : Call) :
    Consistent (call.perform.after fabric) := by
  refine (wp_result_after (fun _ => Consistent)).mp (wp_mono (wp_perform call) ?_ ?_)
  · exact fun _ _ hchanged => hconsistent.changed hchanged
  · rintro _ _ rfl
    exact hconsistent

theorem Consistent.run (hconsistent : Consistent fabric) (calls : List Call) : Consistent (run fabric calls) := by
  induction calls generalizing fabric with
  | nil => exact hconsistent
  | cons call rest ih => exact ih (hconsistent.perform call)

end velvet.sensor_fabric
