import VelvetRuntime.SensorFabric.Routing

open python python.num

namespace velvet.sensor_fabric

open Program

/-- A lifecycle payload with the evidence that is read from it. -/
abbrev LifecycleItem : Type := Json × LifecycleEvidence

/-- The lifecycle state that the fabric holds of a sensor. -/
def lifecycle_state_of (fabric : SensorFabric) (sensor_id : String) : Option LifecycleState :=
  (fabric.sensors.get? sensor_id).map SensorRecord.lifecycle_state

/-- The fabric after lifecycle payloads in the order of the list. -/
def apply_all (fabric : SensorFabric) (items : List LifecycleItem) : SensorFabric :=
  run fabric (items.map fun item => .apply_lifecycle item.1)

/-- The payload is valid evidence of the sensor, with the family that is registered for it. -/
structure ValidFor (sensor_id sensor_family : String) (item : LifecycleItem) : Prop where
  read : read_lifecycle item.1 = .ok item.2
  sensor_id_eq : item.2.sensor_id = sensor_id
  sensor_family_eq : item.2.sensor_family = sensor_family

/-- No item occurred after this one. -/
def IsNewest (items : List LifecycleItem) (newest : LifecycleItem) : Prop :=
  newest ∈ items ∧ ∀ item ∈ items, item.2.occurred_at.le newest.2.occurred_at

variable {fabric : SensorFabric} {sensor_id : String} {record : SensorRecord} {item last newest : LifecycleItem}
  {items : List LifecycleItem}

section

variable (hget : fabric.sensors.get? sensor_id = some record)

include hget

/-- Valid evidence is applied, whatever its time. -/
theorem wp_valid_lifecycle
    (hvalid : ValidFor sensor_id record.sensor_family item) :
    wp (Call.apply_lifecycle item.1).perform
      (fun _ after => after = fabric.store sensor_id (record.evidenced item.2)) (fun _ _ => False) fabric := by
  obtain ⟨hread, rfl, hfamily⟩ := hvalid
  unfold Call.perform apply_lifecycle
  dsimp only
  rw [wp_bind, wp_bind, wp_of_except, hread]
  dsimp only
  rw [wp_bind, wp_get, hget]
  dsimp only
  rw [if_neg (not_not.mpr hfamily.symm)]
  rfl

theorem after_valid_lifecycle
    (hvalid : ValidFor sensor_id record.sensor_family item) :
    (Call.apply_lifecycle item.1).perform.after fabric = fabric.store sensor_id (record.evidenced item.2) :=
  (wp_result_after fun _ after => after = fabric.store sensor_id (record.evidenced item.2)).mp
    (wp_mono (wp_valid_lifecycle hget hvalid) (fun _ _ hafter => hafter) (fun _ _ hfalse => hfalse.elim))

/-- The sensor is left in the state of the item that was applied last. -/
theorem lifecycle_state_of_apply_all
    (hvalid : ∀ item ∈ items, ValidFor sensor_id record.sensor_family item) (hlast : items.getLast? = some last) :
    lifecycle_state_of (apply_all fabric items) sensor_id = some last.2.state := by
  induction items generalizing fabric record with
  | nil => cases hlast
  | cons first rest ih =>
    have hafter := after_valid_lifecycle hget (hvalid first List.mem_cons_self)
    have hstored : ((Call.apply_lifecycle first.1).perform.after fabric).sensors.get? sensor_id =
        some (record.evidenced first.2) := by
      rw [hafter]
      exact Dict.get?_set_self _ _ _
    cases rest with
    | nil =>
      cases hlast
      unfold lifecycle_state_of
      exact congrArg (Option.map SensorRecord.lifecycle_state) hstored
    | cons second others =>
      rw [List.getLast?_cons_cons] at hlast
      exact ih hstored (fun item hitem => hvalid item (List.mem_cons_of_mem _ hitem)) hlast

end

/-- Evidence applied in some order leaves the sensor in the state of its newest item exactly if the item that comes
last has that state; evidence does so in every order exactly if all its items have that state. -/
theorem lifecycle_order_independent_iff (fabric : SensorFabric) (sensor_id : String) (record : SensorRecord)
    (hget : fabric.sensors.get? sensor_id = some record) (items : List LifecycleItem)
    (hvalid : ∀ item ∈ items, ValidFor sensor_id record.sensor_family item) (newest : LifecycleItem)
    (hnewest : IsNewest items newest) :
    (∀ order last, order.Perm items → order.getLast? = some last →
      (lifecycle_state_of (apply_all fabric order) sensor_id = some newest.2.state ↔
        last.2.state = newest.2.state)) ∧
    ((∀ order, order.Perm items →
      lifecycle_state_of (apply_all fabric order) sensor_id = some newest.2.state) ↔
        ∀ item ∈ items, item.2.state = newest.2.state) := by
  have hstate : ∀ order last, order.Perm items → order.getLast? = some last →
      (lifecycle_state_of (apply_all fabric order) sensor_id = some newest.2.state ↔
        last.2.state = newest.2.state) := by
    intro order last horder hlast
    rw [lifecycle_state_of_apply_all hget (fun item hitem => hvalid item (horder.mem_iff.mp hitem)) hlast,
      Option.some_inj]
  refine ⟨hstate, ?_, ?_⟩
  · intro hevery item hitem
    -- The order in which this item comes last.
    obtain ⟨before, after, rfl⟩ := List.append_of_mem hitem
    have horder : (before ++ after ++ [item]).Perm (before ++ item :: after) := by
      rw [List.append_assoc]
      exact (List.perm_append_singleton item after).append_left before
    exact (hstate _ item horder List.getLast?_concat).mp (hevery _ horder)
  · intro hall order horder
    have hmem := horder.mem_iff.mpr hnewest.1
    have hlast := List.getLast?_eq_some_getLast (List.ne_nil_of_mem hmem)
    exact (hstate order _ horder hlast).mpr (hall _ (horder.mem_iff.mp (List.getLast_mem _)))

/-- Lifecycle evidence of the radar. -/
def radar_lifecycle (state : String) (occurred_at : Int) : Json :=
  .object [("status", .text "evidence-only"), ("read_only", .bool true), ("sensor_id", .text "radar"),
    ("sensor_family", .text "radar"), ("state", .text state), ("occurred_at", .int occurred_at)]

def radar_evidence (state : LifecycleState) (occurred_at : ℚ) : LifecycleEvidence where
  sensor_id := "radar"
  sensor_family := "radar"
  state
  occurred_at := .finite occurred_at
  reasons := []
  calibration_id := none

/-- The fabric once the radar is declared. -/
def radar_fabric : SensorFabric := run .new [.register_capabilities radar_declaration]

def radar_online : LifecycleItem := (radar_lifecycle "online" 5, radar_evidence .online 5)

def radar_offline : LifecycleItem := (radar_lifecycle "offline" 10, radar_evidence .offline 10)

theorem radar_items_valid : ∀ item ∈ [radar_online, radar_offline], ValidFor "radar" "radar" item := by
  have honline : read_lifecycle radar_online.1 = .ok radar_online.2 := by decide +kernel
  have hoffline : read_lifecycle radar_offline.1 = .ok radar_offline.2 := by decide +kernel
  intro item hitem
  rcases List.mem_pair.mp hitem with rfl | rfl
  · exact ⟨honline, rfl, rfl⟩
  · exact ⟨hoffline, rfl, rfl⟩

theorem radar_offline_newest : IsNewest [radar_online, radar_offline] radar_offline :=
  ⟨by simp, by decide⟩

/-- The radar went offline after it had been online. When the older message comes last, the radar is online again. -/
theorem stale_evidence_revives_sensor :
    (radar_fabric.sensors.get? "radar").isSome ∧
      (∀ item ∈ [radar_online, radar_offline], ValidFor "radar" "radar" item) ∧
      ([radar_online, radar_offline].map fun item => item.2.occurred_at).Nodup ∧
      IsNewest [radar_online, radar_offline] radar_offline ∧
      ¬ ∀ order, order.Perm [radar_online, radar_offline] →
        lifecycle_state_of (apply_all radar_fabric order) "radar" = some radar_offline.2.state := by
  refine ⟨by decide, radar_items_valid, by decide, radar_offline_newest, ?_⟩
  intro hevery
  have hstale := hevery [radar_offline, radar_online] (List.Perm.swap _ _ _)
  exact absurd hstale (by decide +kernel)

/-- In the order in which the evidence occurred, the radar is left offline. -/
theorem radar_left_offline :
    ∃ record, radar_fabric.sensors.get? "radar" = some record ∧
      lifecycle_state_of (apply_all radar_fabric [radar_online, radar_offline]) "radar" = some .offline := by
  obtain ⟨record, hrecord⟩ : ∃ record, radar_fabric.sensors.get? "radar" = some record :=
    Option.isSome_iff_exists.mp (by decide)
  have hfamily : (radar_fabric.sensors.get? "radar").map SensorRecord.sensor_family = some "radar" := by decide
  rw [hrecord] at hfamily
  refine ⟨record, hrecord, ?_⟩
  exact ((lifecycle_order_independent_iff radar_fabric "radar" record hrecord [radar_online, radar_offline]
    (Option.some.inj hfamily ▸ radar_items_valid) radar_offline radar_offline_newest).1 _ radar_offline
    (List.Perm.refl _) rfl).mpr rfl

end velvet.sensor_fabric
