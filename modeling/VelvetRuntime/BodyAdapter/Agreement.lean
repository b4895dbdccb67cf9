import VelvetRuntime.BodyState.Merge
import VelvetRuntime.BodyAdapter.Chains
import VelvetRuntime.BodyAdapter.Records

open python python.num python.str transitions latest velvet.body_state_bridge velvet.seat

namespace velvet.body_adapter

/-- What is kept of a module's events: the newest of each family. -/
structure Kept where
  sensor : Option SensorEvent
  health : Option HealthEvent

namespace Kept

def empty : Kept := ⟨none, none⟩

/-- The events of a cycle are newer than those kept. -/
def take (kept : Kept) (cycle : Cycle) : Kept :=
  ⟨cycle.sensor_event.or kept.sensor, cycle.health_event.or kept.health⟩

/-- What was kept when the wall clock had been read at `walls`, and tells the state. -/
structure Tells (kept : Kept) (state : BodyState) (walls : List ℚ) : Prop where
  sensor_time : ∀ event ∈ kept.sensor, event.timestamp ∈ walls
  health_time : ∀ event ∈ kept.health, event.timestamp ∈ walls
  reported : ∀ event ∈ kept.health, event.state_after = state
  observed : ∀ event ∈ kept.sensor, event.health_state = state ∨
    ∃ report ∈ kept.health, event.timestamp ≤ report.timestamp

theorem tells_initial (state : BodyState) : empty.Tells state [] :=
  ⟨(fun _ hnone => nomatch hnone), (fun _ hnone => nomatch hnone), (fun _ hnone => nomatch hnone),
    (fun _ hnone => nomatch hnone)⟩

variable {kept : Kept} {state : BodyState} {walls : List ℚ}

/-- More readings of the clock take nothing away. -/
theorem Tells.later (htells : kept.Tells state walls) (more : List ℚ) : kept.Tells state (walls ++ more) where
  sensor_time event hevent := List.mem_append_left _ (htells.sensor_time event hevent)
  health_time event hevent := List.mem_append_left _ (htells.health_time event hevent)
  reported := htells.reported
  observed := htells.observed

/-- A health event that is as new as what is kept tells the state that it leads to. -/
theorem Tells.take_health (htells : kept.Tells state walls) (report : HealthEvent)
    (hlater : ∀ earlier ∈ walls, earlier ≤ report.timestamp) :
    (kept.take (.health report)).Tells report.state_after (walls ++ [report.timestamp]) where
  sensor_time event hevent := List.mem_append_left _ (htells.sensor_time event hevent)
  health_time event hevent := by
    cases hevent
    exact List.mem_append_right _ (List.mem_singleton_self _)
  reported event hevent := by
    cases hevent
    rfl
  observed event hevent := .inr ⟨report, rfl, hlater _ (htells.sensor_time event hevent)⟩

/-- An observation that is as new as what is kept tells its state, with a health event of the same time or with none where
the state stays. -/
theorem Tells.take_observed (htells : kept.Tells state walls) (sensor : SensorEvent) (report : Option HealthEvent)
    (hunchanged : report = none → state = sensor.health_state)
    (hchange : ∀ event ∈ report, event.state_after = sensor.health_state ∧ event.timestamp = sensor.timestamp) :
    (kept.take ⟨some sensor, report⟩).Tells sensor.health_state (walls ++ [sensor.timestamp]) := by
  have hnow : sensor.timestamp ∈ walls ++ [sensor.timestamp] := List.mem_append_right _ (List.mem_singleton_self _)
  cases report with
  | none =>
    refine ⟨fun event hevent => ?_, fun event hevent => ?_, fun event hevent => ?_, fun event hevent => ?_⟩
    · cases hevent
      exact hnow
    · exact List.mem_append_left _ (htells.health_time event hevent)
    · exact (htells.reported event hevent).trans (hunchanged rfl)
    · cases hevent
      exact .inl rfl
  | some report =>
    obtain ⟨hstate, htimestamp⟩ := hchange report rfl
    refine ⟨fun event hevent => ?_, fun event hevent => ?_, fun event hevent => ?_, fun event hevent => ?_⟩
    · cases hevent
      exact hnow
    · cases hevent
      rw [htimestamp]
      exact hnow
    · cases hevent
      exact hstate
    · cases hevent
      exact .inl rfl

end Kept

/-- The events that a call publishes. -/
def published_cycle : Except Error Cycle → Cycle
  | .ok cycle => cycle
  | .error _ => .empty

end velvet.body_adapter

namespace velvet.seat

open velvet.body_adapter

variable {outcome : Except Error Cycle} {health after : SeatHealth} {clock : Except Error ℚ} {seat : SeatModule}

section

variable (hmove : Move seat clock health after outcome)

include hmove

/-- A move of a seat adapter whose wall clock does not run back: what is kept still tells the state. -/
theorem Move.tells {kept : Kept} {walls : List ℚ}
    (htells : kept.Tells health.state walls) (hlater : ∀ wall, clock = .ok wall → ∀ earlier ∈ walls, earlier ≤ wall) :
    (kept.take (published_cycle outcome)).Tells after.state (walls ++ clock.toOption.toList) := by
  cases hmove with
  | raised error => exact htells.later _
  | quiet => exact htells.later _
  | counted hstate => exact htells.later _
  | rejected event reason hchange _ htimestamp =>
    have hreport := htells.take_health event (hlater _ htimestamp)
    rw [show event.state_after = .DEGRADED from congrArg Prod.snd hchange] at hreport
    rw [htimestamp]
    exact hreport
  | failed event detail hchange _ htimestamp =>
    have hreport := htells.take_health event (hlater _ htimestamp)
    rw [show event.state_after = health.failure_state seat from congrArg Prod.snd hchange] at hreport
    rw [htimestamp]
    exact hreport
  | stale event hchange _ htimestamp =>
    have hreport := htells.take_health event (hlater _ htimestamp)
    rw [show event.state_after = .DEGRADED from congrArg Prod.snd hchange] at hreport
    rw [htimestamp]
    exact hreport
  | observed sensor report new_state monotonic _ hsensor htimestamp hunchanged hchange =>
    obtain ⟨_, hstate, _⟩ := hsensor
    subst hstate
    rw [htimestamp]
    refine htells.take_observed sensor report hunchanged fun event hevent => ?_
    obtain ⟨hfound, _, htime⟩ := hchange event hevent
    exact ⟨congrArg Prod.snd hfound, htime⟩

/-- The events of a move are of its module, at the time of its call. -/
theorem Move.sensor_event {event : SensorEvent}
    (hevent : event ∈ (published_cycle outcome).sensor_event) :
    event.identity = seat.identity ∧ clock = .ok event.timestamp := by
  cases hmove with
  | raised error => cases hevent
  | quiet => cases hevent
  | counted hstate => cases hevent
  | rejected report reason _ _ _ => cases hevent
  | failed report detail _ _ _ => cases hevent
  | stale report _ _ _ => cases hevent
  | observed sensor report new_state monotonic _ hsensor htimestamp _ _ =>
    cases hevent
    exact ⟨hsensor.1, htimestamp⟩

theorem Move.health_event {event : HealthEvent}
    (hevent : event ∈ (published_cycle outcome).health_event) :
    event.identity = seat.identity ∧ clock = .ok event.timestamp := by
  cases hmove with
  | raised error => cases hevent
  | quiet => cases hevent
  | counted hstate => cases hevent
  | rejected report reason _ hidentity htimestamp =>
    cases hevent
    exact ⟨hidentity, htimestamp⟩
  | failed report detail _ hidentity htimestamp =>
    cases hevent
    exact ⟨hidentity, htimestamp⟩
  | stale report _ hidentity htimestamp =>
    cases hevent
    exact ⟨hidentity, htimestamp⟩
  | observed sensor report new_state monotonic _ _ htimestamp _ hchange =>
    obtain ⟨_, hidentity, htime⟩ := hchange event hevent
    rw [htime]
    exact ⟨hidentity, htimestamp⟩

end

end velvet.seat

namespace velvet.body_adapter

/-- The records of a cycle are those of its events. -/
theorem Cycle.mem_records {cycle : Cycle} {record : Json} (hrecord : record ∈ cycle.records) :
    (∃ event ∈ cycle.sensor_event, record = event.record) ∨ ∃ event ∈ cycle.health_event, record = event.record := by
  rcases List.mem_append.mp hrecord with hsensor | hhealth
  · obtain ⟨event, hevent, hsame⟩ := Option.map_eq_some_iff.mp (Option.mem_toList.mp hsensor)
    exact .inl ⟨event, hevent, hsame.symm⟩
  · obtain ⟨event, hevent, hsame⟩ := Option.map_eq_some_iff.mp (Option.mem_toList.mp hhealth)
    exact .inr ⟨event, hevent, hsame.symm⟩

section bridge

variable [StrLower] [StrUpper] {bridge merged : BodyStateSnapshotBridge} {body : BodyRecord} {module_id : String}
  {kept : Kept}

/-- The bridge has, under a module's id, the records of what is kept of the module. -/
structure Stores (bridge : BodyStateSnapshotBridge) (module_id : String) (kept : Kept) : Prop where
  sensor : ((bridge.table .sensor).get? module_id).map BodyRecord.document = kept.sensor.map SensorEvent.record
  health : ((bridge.table .health).get? module_id).map BodyRecord.document = kept.health.map HealthEvent.record

/-- A record of another module changes nothing. -/
theorem Stores.apply_other (hstores : Stores bridge module_id kept) (happly : bridge.apply body = .ok merged)
    (hother : body.module_id ≠ module_id) : Stores merged module_id kept where
  sensor := by
    rw [BodyStateSnapshotBridge.get?_apply_of_ne happly hother.symm]
    exact hstores.sensor
  health := by
    rw [BodyStateSnapshotBridge.get?_apply_of_ne happly hother.symm]
    exact hstores.health

/-- A record that is not older takes the place of the one that is there. -/
theorem get?_apply_newest (happly : bridge.apply body = .ok merged) {timestamp : ℚ}
    (hbody : body.timestamp = .finite timestamp)
    (hfound : ∀ found ∈ (bridge.table body.filed_under).get? body.module_id,
      ∃ earlier, found.timestamp = .finite earlier ∧ earlier ≤ timestamp) :
    (merged.table body.filed_under).get? body.module_id = some body := by
  have hplain : body.timestamp ≠ .nan := by
    rw [hbody]
    exact fun hnan => nomatch hnan
  rw [BodyStateSnapshotBridge.get?_apply_self happly hplain]
  · cases hcurrent : (bridge.table body.filed_under).get? body.module_id with
    | none => rfl
    | some found =>
      obtain ⟨earlier, hfinite, hle⟩ := hfound found hcurrent
      refine congrArg some (if_neg (not_lt.mpr ?_))
      unfold BodyRecord.time
      rw [hbody, hfinite]
      exact WithTop.coe_le_coe.mpr hle
  · intro found hcurrent
    obtain ⟨earlier, hfinite, _⟩ := hfound found hcurrent
    rw [hfinite]
    exact fun hnan => nomatch hnan

/-- The record of an event takes the place of that of an earlier one. -/
theorem get?_apply_event {Event : Type} {record : Event → Json} {time : Event → ℚ} {family : Family} {held : Option Event}
    (htime : ∀ (body : BodyRecord) event, body.document = record event → body.timestamp = .finite (time event))
    (hstored : ((bridge.table family).get? module_id).map BodyRecord.document = held.map record) {event : Event}
    (hdocument : body.document = record event) (hfiled : body.filed_under = family) (hmodule : body.module_id = module_id)
    (hlater : ∀ earlier ∈ held, time earlier ≤ time event) (happly : bridge.apply body = .ok merged) :
    (merged.table family).get? module_id = some body := by
  subst hfiled hmodule
  refine get?_apply_newest happly (htime body event hdocument) fun found hget => ?_
  rw [Option.mem_def.mp hget] at hstored
  obtain ⟨earlier, hearlier, hsame⟩ := Option.map_eq_some_iff.mp hstored.symm
  exact ⟨time earlier, htime found earlier hsame.symm, hlater earlier hearlier⟩

theorem Stores.apply_sensor (hstores : Stores bridge module_id kept) {event : SensorEvent}
    (hdocument : body.document = event.record) (hidentity : event.identity.module_id = module_id)
    (hlater : ∀ earlier ∈ kept.sensor, earlier.timestamp ≤ event.timestamp) (happly : bridge.apply body = .ok merged) :
    Stores merged module_id ⟨some event, kept.health⟩ := by
  have hfiled := SensorEvent.body_filed_under hdocument
  have hself := get?_apply_event (fun _ _ => SensorEvent.body_timestamp) hstores.sensor hdocument hfiled
    ((SensorEvent.body_module_id hdocument).trans hidentity) hlater happly
  constructor
  · rw [hself]
    exact congrArg some hdocument
  · rw [BodyStateSnapshotBridge.table_apply_of_ne happly (by rw [hfiled]; exact fun hsame => nomatch hsame)]
    exact hstores.health

theorem Stores.apply_health (hstores : Stores bridge module_id kept) {event : HealthEvent}
    (hdocument : body.document = event.record) (hidentity : event.identity.module_id = module_id)
    (hlater : ∀ earlier ∈ kept.health, earlier.timestamp ≤ event.timestamp) (happly : bridge.apply body = .ok merged) :
    Stores merged module_id ⟨kept.sensor, some event⟩ := by
  have hfiled := HealthEvent.body_filed_under hdocument
  have hself := get?_apply_event (fun _ _ => HealthEvent.body_timestamp) hstores.health hdocument hfiled
    ((HealthEvent.body_module_id hdocument).trans hidentity) hlater happly
  constructor
  · rw [BodyStateSnapshotBridge.table_apply_of_ne happly (by rw [hfiled]; exact fun hsame => nomatch hsame)]
    exact hstores.sensor
  · rw [hself]
    exact congrArg some hdocument

theorem publish_many_step (bridge : BodyStateSnapshotBridge) (record : Json) (rest : List Json) :
    bridge.publish_many (record :: rest) =
      match (do bridge.apply (← validated record)) with
      | .error error => (bridge, .error error)
      | .ok merged => merged.publish_many rest := rfl

theorem publish_many_cons (bridge : BodyStateSnapshotBridge) (record : Json) (rest : List Json) :
    (∃ error, bridge.publish_many (record :: rest) = (bridge, .error error)) ∨
      ∃ body merged, validated record = .ok body ∧ bridge.apply body = .ok merged ∧
        bridge.publish_many (record :: rest) = merged.publish_many rest := by
  rw [publish_many_step]
  split
  case h_1 error _ => exact .inl ⟨error, rfl⟩
  case h_2 merged hmerged =>
    obtain ⟨body, hbody, happly⟩ := except.bind_eq_ok.mp hmerged
    exact .inr ⟨body, merged, hbody, happly, rfl⟩

/-- Whatever is published of other modules, and whether it is refused or not, changes nothing. -/
theorem Stores.publish_other (hstores : Stores bridge module_id kept) {records : List Json}
    (hother : ∀ record ∈ records, ∀ body, validated record = .ok body → body.module_id ≠ module_id) :
    Stores (bridge.publish_many records).1 module_id kept := by
  induction records generalizing bridge with
  | nil => exact hstores
  | cons record rest ih =>
    rcases publish_many_cons bridge record rest with ⟨error, hraised⟩ | ⟨body, merged, hbody, happly, hnext⟩
    · rw [hraised]
      exact hstores
    · rw [hnext]
      have hstep := hstores.apply_other happly (hother record List.mem_cons_self body hbody)
      exact ih hstep fun later hlater => hother later (List.mem_cons_of_mem _ hlater)

/-- A record that is published is merged before those that follow it. -/
theorem publish_many_cons_ok {record : Json} {rest : List Json}
    (hpublished : (bridge.publish_many (record :: rest)).2 = .ok ()) :
    ∃ body merged, body.document = record ∧ bridge.apply body = .ok merged ∧
      bridge.publish_many (record :: rest) = merged.publish_many rest := by
  rcases publish_many_cons bridge record rest with ⟨error, hraised⟩ | ⟨body, merged, hbody, happly, hnext⟩
  · rw [hraised] at hpublished
    cases hpublished
  · exact ⟨body, merged, validated_eq_ok_iff.mp hbody, happly, hnext⟩

/-- A cycle that is published is taken in whole. -/
theorem Stores.publish_cycle (hstores : Stores bridge module_id kept) {cycle : Cycle}
    (hsensor : ∀ event ∈ cycle.sensor_event, event.identity.module_id = module_id ∧
      ∀ earlier ∈ kept.sensor, earlier.timestamp ≤ event.timestamp)
    (hhealth : ∀ event ∈ cycle.health_event, event.identity.module_id = module_id ∧
      ∀ earlier ∈ kept.health, earlier.timestamp ≤ event.timestamp)
    (hpublished : (bridge.publish_many cycle.records).2 = .ok ()) :
    Stores (bridge.publish_many cycle.records).1 module_id (kept.take cycle) := by
  have hreport : ∀ (before : BodyStateSnapshotBridge) (sensor : Option SensorEvent),
      Stores before module_id ⟨sensor, kept.health⟩ →
      (before.publish_many (cycle.health_event.map HealthEvent.record).toList).2 = .ok () →
      Stores (before.publish_many (cycle.health_event.map HealthEvent.record).toList).1 module_id
        ⟨sensor, cycle.health_event.or kept.health⟩ := by
    intro before sensor hbefore hsent
    cases hevent : cycle.health_event with
    | none => exact hbefore
    | some event =>
      rw [hevent] at hsent
      obtain ⟨body, merged, hdocument, happly, hnext⟩ := publish_many_cons_ok hsent
      obtain ⟨hidentity, hlater⟩ := hhealth event hevent
      rw [Option.map_some, Option.toList_some, hnext]
      exact hbefore.apply_health hdocument hidentity hlater happly
  unfold Cycle.records at hpublished ⊢
  unfold Kept.take
  cases hevent : cycle.sensor_event with
  | none =>
    rw [hevent] at hpublished
    exact hreport bridge kept.sensor hstores hpublished
  | some event =>
    rw [hevent, Option.map_some, Option.toList_some, List.singleton_append] at hpublished
    obtain ⟨body, merged, hdocument, happly, hnext⟩ := publish_many_cons_ok hpublished
    obtain ⟨hidentity, hlater⟩ := hsensor event hevent
    rw [hnext] at hpublished
    rw [Option.map_some, Option.toList_some, List.singleton_append, hnext]
    exact hreport merged (some event) (hstores.apply_sensor hdocument hidentity hlater happly) hpublished

end bridge

end velvet.body_adapter
