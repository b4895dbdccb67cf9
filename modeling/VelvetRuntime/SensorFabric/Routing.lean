import VelvetRuntime.SensorFabric.Consistency

open python python.num inverted_index latest

namespace velvet.sensor_fabric

open Program

/-- The received time of an observation, where it is finite. -/
def Observation.received (observation : Observation) : ℚ :=
  match observation.received_at with
  | .finite time => time
  | _ => 0

/-- The received time is finite. -/
def Observation.Timed (observation : Observation) : Prop := observation.received_at = .finite observation.received

/-- The observation of a sensor that a call has routed. -/
def accepted_in (sensor_id : String) (fabric : SensorFabric) (call : Call) : List Observation :=
  match call, call.perform.result fabric with
  | .route_observation envelope, .ok _ =>
    match observed_in envelope with
    | some (source, observation) => if source = sensor_id then [observation] else []
    | none => []
  | _, _ => []

/-- The observations of a sensor that a run has routed. -/
def accepted_observations (sensor_id : String) : SensorFabric → List Call → List Observation
  | _, [] => []
  | fabric, call :: rest =>
    accepted_in sensor_id fabric call ++ accepted_observations sensor_id (call.perform.after fabric) rest

/-- The live state of a record is that of the newest observation of the log; without one it is unknown. -/
def Snapshot (record : SensorRecord) (log : List Observation) : Prop :=
  (log = [] ∧ record.health_state = "unknown" ∧ record.quality_state = "unknown" ∧
    record.latest_measured_at = none ∧ record.latest_received_at = none) ∨
  ∃ observation, IsLatest Observation.received log observation ∧ record.health_state = observation.health_state ∧
    record.quality_state = observation.quality_state ∧ record.latest_measured_at = some observation.measured_at ∧
    record.latest_received_at = some observation.received_at

/-- The live state that the fabric holds of a sensor. -/
def Live (fabric : SensorFabric) (sensor_id : String) (log : List Observation) : Prop :=
  ∀ sensor_family, Snapshot (fabric.known sensor_id sensor_family) log

variable {fabric : SensorFabric} {record : SensorRecord} {log : List Observation} {observation : Observation}

theorem SensorFabric.known_store (sensor_id : String) (record : SensorRecord) (other sensor_family : String) :
    (fabric.store sensor_id record).known other sensor_family =
      if other = sensor_id then record else fabric.known other sensor_family := by
  unfold known store
  dsimp only
  rw [Dict.get?_set]
  split
  · rfl
  · rfl

/-- The next observation moves the live state forward, or is older. -/
theorem Snapshot.observed (hsnapshot : Snapshot record log) (htimed : ∀ entry ∈ log, entry.Timed)
    (hnew : observation.Timed) : Snapshot (record.observed observation) (log ++ [observation]) := by
  unfold SensorRecord.observed SensorRecord.updated_by
  rcases hsnapshot with ⟨rfl, _, _, _, hnone⟩ | ⟨live, hlatest, hhealth, hquality, hmeasured, hreceived⟩
  · rw [hnone]
    exact .inr ⟨observation, isLatest_singleton observation, rfl, rfl, rfl, rfl⟩
  · have hlive := htimed live hlatest.mem
    unfold Observation.Timed at hlive hnew
    have hle : live.received_at.le observation.received_at = true ↔ live.received ≤ observation.received := by
      rw [hlive, hnew]
      exact decide_eq_true_iff
    rw [hreceived]
    dsimp only
    by_cases hnewer : live.received ≤ observation.received
    · rw [if_pos (hle.mpr hnewer)]
      exact .inr ⟨observation, hlatest.replaced hnewer, rfl, rfl, rfl, rfl⟩
    · rw [if_neg (fun hupdated => hnewer (hle.mp hupdated))]
      exact .inr ⟨live, hlatest.kept (not_le.mp hnewer), hhealth, hquality, hmeasured, hreceived⟩

theorem perform_cases (fabric : SensorFabric) (call : Call) :
    (∃ deliveries, call.perform.result fabric = .ok deliveries ∧ Changed fabric call (call.perform.after fabric)) ∨
      ∃ error, call.perform.result fabric = .error error ∧ call.perform.after fabric = fabric := by
  cases hresult : call.perform.result fabric with
  | ok deliveries => exact .inl ⟨deliveries, rfl, wp_of_result_ok (wp_perform call) hresult⟩
  | error error => exact .inr ⟨error, rfl, wp_of_result_error (wp_perform call) hresult⟩

theorem Live.store {sensor_id source : String} (hlive : Live fabric sensor_id log)
    (hrecord : sensor_id = source → Snapshot record log) : Live (fabric.store source record) sensor_id log := by
  intro sensor_family
  rw [SensorFabric.known_store]
  split
  · rename_i hsame
    exact hrecord hsame
  · exact hlive sensor_family

variable {sensor_id : String}

/-- Only a routed observation is accepted. -/
theorem accepted_in_eq_nil {call : Call}
    (hcall : ∀ envelope, call = .route_observation envelope → observed_in envelope = none) :
    accepted_in sensor_id fabric call = [] := by
  unfold accepted_in
  split
  · rw [hcall _ rfl]
  · rfl

/-- The live state of a sensor after a call. -/
theorem Live.perform (hlive : Live fabric sensor_id log) (call : Call)
    (htimed : ∀ entry ∈ log ++ accepted_in sensor_id fabric call, entry.Timed) :
    Live (call.perform.after fabric) sensor_id (log ++ accepted_in sensor_id fabric call) := by
  rcases perform_cases fabric call with ⟨deliveries, hresult, hchanged⟩ | ⟨error, hresult, hsame⟩
  · generalize call.perform.after fabric = after at hchanged
    cases hchanged with
    | registered payload declared hread =>
      rw [accepted_in_eq_nil (by rintro _ ⟨⟩), List.append_nil]
      have hstored : Live (fabric.store declared.sensor_id ((fabric.known declared.sensor_id
          declared.sensor_family).declared declared)) sensor_id log :=
        hlive.store fun hsame => hsame ▸ hlive declared.sensor_family
      exact hstored
    | lifecycle payload evidence hread =>
      rw [accepted_in_eq_nil (by rintro _ ⟨⟩), List.append_nil]
      exact hlive.store fun hsame => hsame ▸ hlive evidence.sensor_family
    | subscribed subscription hnew =>
      rw [accepted_in_eq_nil (by rintro _ ⟨⟩), List.append_nil]
      exact hlive
    | routed envelope source observation record _ hobserved hget hafter =>
      have hrouted : accepted_in sensor_id fabric (.route_observation envelope) =
          if source = sensor_id then [observation] else [] := by
        simp only [accepted_in, hresult, hobserved]
      rw [hrouted] at htimed ⊢
      intro sensor_family
      have hknown : after.known sensor_id sensor_family =
          if sensor_id = source then record.observed observation else fabric.known sensor_id sensor_family := by
        rcases hafter with ⟨rfl, hold⟩ | rfl
        · split
          · rename_i hsame
            rw [hsame, SensorFabric.known_of_some hget, hold]
          · rfl
        · exact SensorFabric.known_store _ _ _ _
      rw [hknown]
      by_cases hsame : sensor_id = source
      · have hbefore := hlive sensor_family
        rw [hsame, SensorFabric.known_of_some hget] at hbefore
        rw [if_pos hsame.symm] at htimed ⊢
        rw [if_pos hsame]
        exact hbefore.observed (fun entry hentry => htimed entry (List.mem_append_left _ hentry))
          (htimed observation (List.mem_append_right _ (List.mem_singleton_self _)))
      · rw [if_neg hsame, if_neg (Ne.symm hsame), List.append_nil]
        exact hlive sensor_family
  · have hnone : accepted_in sensor_id fabric call = [] := by
      unfold accepted_in
      rw [hresult]
      split
      · rename_i hok
        cases hok
      · rfl
    rw [hsame, hnone, List.append_nil]
    exact hlive

theorem Live.run {sensor_id : String} {calls : List Call} (hlive : Live fabric sensor_id log)
    (htimed : ∀ entry ∈ log ++ accepted_observations sensor_id fabric calls, entry.Timed) :
    Live (run fabric calls) sensor_id (log ++ accepted_observations sensor_id fabric calls) := by
  induction calls generalizing fabric log with
  | nil =>
    unfold accepted_observations
    rw [List.append_nil]
    exact hlive
  | cons call rest ih =>
    unfold accepted_observations at htimed ⊢
    rw [← List.append_assoc] at htimed ⊢
    exact ih (hlive.perform call fun entry hentry => htimed entry (List.mem_append_left _ hentry)) htimed

/-- The sensor has the capability, and its commissioning for the use reaches the minimum maturity. -/
def Eligible (record : SensorRecord) (observation : Observation) (subscription : SensorSubscription) : Prop :=
  subscription.capability ∈ record.capabilities ∧ ∃ maturity,
    observation.maturity_for subscription.use_profile = some maturity ∧
    subscription.minimum_maturity.rank ≤ maturity.rank

/-- The delivery brings the evidence to the subscription. -/
structure Delivers (sensor_id : String) (observation : Observation) (envelope : List (String × Json))
    (subscription : SensorSubscription) (delivery : SensorDelivery) : Prop where
  consumer_id : delivery.consumer_id = subscription.consumer_id
  sensor_id : delivery.sensor_id = sensor_id
  capability : delivery.capability = subscription.capability
  use_profile : delivery.use_profile = subscription.use_profile
  maturity : observation.maturity_for subscription.use_profile = some delivery.maturity
  envelope : delivery.envelope = envelope

theorem delivers_of_delivery_for {entries : List (String × Json)}
    {subscription : SensorSubscription} {delivery : SensorDelivery}
    (hdelivery : delivery_for sensor_id record observation entries subscription = some delivery) :
    Delivers sensor_id observation entries subscription delivery := by
  unfold delivery_for at hdelivery
  split at hdelivery
  · cases hdelivery
  · split at hdelivery
    · cases hdelivery
    · rename_i maturity hmaturity
      split at hdelivery
      · cases hdelivery
      · cases hdelivery
        exact ⟨rfl, rfl, rfl, rfl, hmaturity, rfl⟩

theorem delivery_for_isSome_iff (sensor_id : String) (entries : List (String × Json))
    (subscription : SensorSubscription) :
    (delivery_for sensor_id record observation entries subscription).isSome ↔
      Eligible record observation subscription := by
  unfold delivery_for Eligible
  by_cases hcapability : subscription.capability ∈ record.capabilities
  · rw [if_neg (not_not.mpr hcapability)]
    cases hmaturity : observation.maturity_for subscription.use_profile with
    | none => simp
    | some maturity =>
      dsimp only
      by_cases hrank : maturity.rank < subscription.minimum_maturity.rank
      · simp [hrank]
      · simp [hrank, hcapability, not_lt.mp hrank]
  · simp [hcapability]

/-- What a filtering loop yields, against the values that it keeps. -/
theorem forall₂_filterMap {α β : Type} (f : α → Option β) (values : List α) :
    List.Forall₂ (fun value result => f value = some result) (values.filter (fun value => (f value).isSome))
      (values.filterMap f) := by
  induction values with
  | nil => exact .nil
  | cons value rest ih =>
    cases hvalue : f value with
    | none =>
      rw [List.filter_cons_of_neg (by simp [hvalue]), List.filterMap_cons_none hvalue]
      exact ih
    | some result =>
      rw [List.filter_cons_of_pos (by simp [hvalue]), List.filterMap_cons_some hvalue]
      exact .cons hvalue ih

/-- A routed observation is delivered to the eligible subscriptions, once each. -/
theorem Consistent.deliveries (hconsistent : Consistent fabric) {envelope : Json} {deliveries : List SensorDelivery}
    (hresult : (route_observation envelope).result fabric = .ok deliveries) :
    ∃ entries sensor_id observation record, envelope = .object entries ∧
      observed_in envelope = some (sensor_id, observation) ∧ fabric.sensors.get? sensor_id = some record ∧
      ∃ chosen : List SensorSubscription, chosen.Nodup ∧
        (∀ subscription, subscription ∈ chosen ↔
          subscription ∈ fabric.subscriptions ∧ Eligible record observation subscription) ∧
        List.Forall₂ (Delivers sensor_id observation entries) chosen deliveries := by
  obtain ⟨entries, sensor_id, observation, record, henvelope, hobserved, hget, _, rfl⟩ :=
    wp_of_result_ok (wp_route envelope) hresult
  have hsorted : (sorted_subscriptions fabric).Perm fabric.subscriptions := List.perm_insertionSort _ _
  have hdelivered := (forall₂_filterMap (delivery_for sensor_id record observation entries)
    (sorted_subscriptions fabric)).imp fun _ _ hdelivery => delivers_of_delivery_for hdelivery
  refine ⟨entries, sensor_id, observation, record, henvelope, hobserved, hget, _, ?_, ?_, hdelivered⟩
  · exact (hsorted.nodup_iff.mpr hconsistent.distinct).filter _
  · intro subscription
    rw [List.mem_filter, hsorted.mem_iff, delivery_for_isSome_iff]

/-- The declaration of a radar that measures distance. -/
def radar_declaration : Json :=
  .object [("status", .text "declaration-only"), ("read_only", .bool true), ("sensor_id", .text "radar"),
    ("sensor_family", .text "radar"), ("measurements", .list [.text "distance"]), ("outputs", .list [])]

end velvet.sensor_fabric
