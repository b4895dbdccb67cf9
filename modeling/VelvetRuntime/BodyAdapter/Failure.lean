import VelvetRuntime.BodyAdapter.Chains

open python transitions velvet.body_adapter

namespace velvet.body_adapter

/-- A check that finds the last observation too old, for the first time since. -/
def ReportsStale (stale_after_ms : Int) (last : Option ℚ) (reported : Bool) (ambient : Ambient)
    (now_wall now_monotonic : Option Json) : Prop :=
  ∃ last_seen wall monotonic, last = some last_seen ∧ reported = false ∧
    reading "now_wall" now_wall ambient.time = .ok wall ∧
    reading "now_monotonic" now_monotonic ambient.monotonic = .ok monotonic ∧
    stale_after_ms < (monotonic - last_seen) * 1000

end velvet.body_adapter

namespace velvet.seat

namespace SeatHealth

variable (seat : SeatModule) (health : SeatHealth) (ambient : Ambient)

/-- The failures since the last accepted observation have reached the threshold. -/
def HasFailed : Prop := seat.failure_threshold ≤ health.consecutive_failures

instance : Decidable (health.HasFailed seat) := inferInstanceAs (Decidable (_ ≤ _))

/-- A rejection with valid texts, at a valid time, for another reason than the last one. -/
def ReportsRejection (reason_code detail : Json) (now_wall : Option Json) : Prop :=
  ∃ reason message wall, health.last_reason ≠ some (upper reason) ∧
    required_expected_text "reason_code" reason_code = .ok reason ∧
    required_expected_text "detail" detail = .ok message ∧ reading "now_wall" now_wall ambient.time = .ok wall

/-- A check that finds the last observation too old, for the first time since. -/
def ReportsStale (now_wall now_monotonic : Option Json) : Prop :=
  ∃ last_seen wall monotonic, health.last_seen_monotonic = some last_seen ∧ health.stale_reported = false ∧
    reading "now_wall" now_wall ambient.time = .ok wall ∧
    reading "now_monotonic" now_monotonic ambient.monotonic = .ok monotonic ∧
    seat.stale_after_ms < max 0 ((monotonic - last_seen) * 1000)

variable {seat health ambient} {reason_code detail : Json} {now_wall now_monotonic : Option Json}

theorem reject_observation_of_reports (seat : SeatModule)
    (hreports : health.ReportsRejection ambient reason_code detail now_wall) :
    ∃ reason, (health.reject_observation seat ambient reason_code detail now_wall).1 =
      { health with state := .DEGRADED, last_reason := some reason } := by
  obtain ⟨reason, message, wall, hnew, hreason, hmessage, hwall⟩ := hreports
  refine ⟨upper reason, ?_⟩
  unfold reject_observation
  simp [hreason, hmessage, hwall, hnew, except.ok_bind, pure, Except.pure]

theorem reject_observation_of_not_reports (hquiet : ¬health.ReportsRejection ambient reason_code detail now_wall) :
    (health.reject_observation seat ambient reason_code detail now_wall).1 = health := by
  rcases reject_observation_cases seat health ambient reason_code detail now_wall with
    ⟨_, hcall⟩ | hcall | ⟨reason, message, wall, hnew, hreason, hmessage, hwall, _⟩
  · rw [hcall]
  · rw [hcall]
  · exact absurd ⟨reason, message, wall, hnew, hreason, hmessage, hwall⟩ hquiet

theorem check_stale_of_reports (hreports : health.ReportsStale seat ambient now_wall now_monotonic) :
    (health.check_stale seat ambient now_wall now_monotonic).1 =
      { health with state := .DEGRADED, stale_reported := true } := by
  obtain ⟨last_seen, wall, monotonic, hseen, hreported, hwall, hmonotonic, hstale⟩ := hreports
  unfold check_stale
  rw [hseen, hreported]
  simp only [hwall, hmonotonic, except.ok_bind, pure, Except.pure]
  rw [if_neg (not_le.mpr hstale)]

theorem check_stale_of_not_reports (hquiet : ¬health.ReportsStale seat ambient now_wall now_monotonic) :
    (health.check_stale seat ambient now_wall now_monotonic).1 = health := by
  rcases check_stale_cases seat health ambient now_wall now_monotonic with
    ⟨_, hcall⟩ | hcall | ⟨last_seen, wall, monotonic, hseen, hreported, hwall, hmonotonic, hstale, _⟩
  · rw [hcall]
  · rw [hcall]
  · exact absurd ⟨last_seen, wall, monotonic, hseen, hreported, hwall, hmonotonic, hstale⟩ hquiet

section

variable (hfailed : health.HasFailed seat → health.state = .FAILED)

include hfailed

/-- A failure counts, and once the count reaches the threshold the module has failed. -/
theorem mark_failure_keeps (ambient : Ambient)
    (reason : Json) (now_wall : Option Json) :
    ((health.mark_failure seat ambient reason now_wall).1.HasFailed seat →
        (health.mark_failure seat ambient reason now_wall).1.state = .FAILED) ∧
      (health.HasFailed seat → (health.mark_failure seat ambient reason now_wall).1.HasFailed seat) := by
  have hcount : health.HasFailed seat → seat.failure_threshold ≤ (health.consecutive_failures + 1 : Nat) := by
    intro hreached
    unfold HasFailed at hreached
    omega
  rcases mark_failure_cases seat health ambient reason now_wall with
    ⟨_, hcall⟩ | ⟨hstate, hcall⟩ | ⟨_, _, _, _, hcall⟩
  · rw [hcall]
    exact ⟨hfailed, id⟩
  · rw [hcall]
    exact ⟨fun hreached => hstate.trans (if_pos hreached), hcount⟩
  · rw [hcall]
    exact ⟨fun hreached => if_pos hreached, hcount⟩

/-- A rejection that does not hide a failure leaves it as it is. -/
theorem reject_observation_keeps
    (hshown : ¬(health.HasFailed seat ∧ health.ReportsRejection ambient reason_code detail now_wall)) :
    ((health.reject_observation seat ambient reason_code detail now_wall).1.HasFailed seat →
        (health.reject_observation seat ambient reason_code detail now_wall).1.state = .FAILED) ∧
      (health.HasFailed seat → (health.reject_observation seat ambient reason_code detail now_wall).1.HasFailed seat) := by
  by_cases hreports : health.ReportsRejection ambient reason_code detail now_wall
  · obtain ⟨reason, hcall⟩ := reject_observation_of_reports seat hreports
    have hunfailed : ¬health.HasFailed seat := fun hreached => hshown ⟨hreached, hreports⟩
    rw [hcall]
    exact ⟨fun hreached => absurd hreached hunfailed, fun hreached => absurd hreached hunfailed⟩
  · rw [reject_observation_of_not_reports hreports]
    exact ⟨hfailed, id⟩

/-- A check for staleness that does not hide a failure leaves it as it is. -/
theorem check_stale_keeps
    (hshown : ¬(health.HasFailed seat ∧ health.ReportsStale seat ambient now_wall now_monotonic)) :
    ((health.check_stale seat ambient now_wall now_monotonic).1.HasFailed seat →
        (health.check_stale seat ambient now_wall now_monotonic).1.state = .FAILED) ∧
      (health.HasFailed seat → (health.check_stale seat ambient now_wall now_monotonic).1.HasFailed seat) := by
  by_cases hreports : health.ReportsStale seat ambient now_wall now_monotonic
  · have hunfailed : ¬health.HasFailed seat := fun hreached => hshown ⟨hreached, hreports⟩
    rw [check_stale_of_reports hreports]
    exact ⟨fun hreached => absurd hreached hunfailed, fun hreached => absurd hreached hunfailed⟩
  · rw [check_stale_of_not_reports hreports]
    exact ⟨hfailed, id⟩

end

/-- An accepted observation ends a failure. -/
theorem not_failed_seen (hthreshold : 1 ≤ seat.failure_threshold) (new_state : BodyState) (monotonic : ℚ) :
    ¬(seen new_state monotonic).HasFailed seat := by
  intro hreached
  have hcount : seat.failure_threshold ≤ (0 : Nat) := hreached
  omega

end SeatHealth

/-- The operations that hide a failure of a node: a rejection or a finding of staleness, reported while it has failed. -/
def SeatNode.Masks {Observation : Type} (seat : SeatNode Observation) (adapter : NodeAdapter) :
    NodeOperation Observation → Prop
  | .reject_observation reason_code detail now_wall ambient =>
    adapter.health.HasFailed seat.node.toSeatModule ∧ adapter.health.ReportsRejection ambient reason_code detail now_wall
  | .check_stale now_wall now_monotonic ambient =>
    adapter.health.HasFailed seat.node.toSeatModule ∧
      adapter.health.ReportsStale seat.node.toSeatModule ambient now_wall now_monotonic
  | _ => False

/-- An observation of a node raises and changes nothing, or is accepted. -/
theorem SeatNode.observe_cases {Observation : Type} (seat : SeatNode Observation) (adapter : NodeAdapter)
    (observation : Observation) (call : ObserveCall) (ambient : Ambient) :
    (seat.observe adapter observation call ambient).1 = adapter ∨
      (∃ new_state monotonic, (seat.observe adapter observation call ambient).1.health = .seen new_state monotonic) ∧
        ∃ cycle, (seat.observe adapter observation call ambient).2 = .ok cycle := by
  unfold SeatNode.observe
  dsimp only
  split
  case h_1 => exact .inl rfl
  case h_2 => exact .inr ⟨⟨_, _, rfl⟩, _, rfl⟩

theorem NodeKind.threshold_positive (kind : NodeKind) : 1 ≤ kind.adapter.node.failure_threshold := by
  cases kind with
  | presence config => exact config.threshold_bounds.1
  | pressure config => exact config.threshold_bounds.1
  | heartbeat config => exact config.threshold_bounds.1

end velvet.seat

namespace velvet.seat_person_sense_body_map

open velvet.seat velvet.seat_pressure_pad

/-- The operation that hides a failure of the body map. -/
def SeatPersonSenseBodyMapAdapter.Masks (adapter : SeatPersonSenseBodyMapAdapter) (state : BodyMapState) :
    BodyMapOperation → Prop
  | .check_stale now_wall now_monotonic ambient =>
    state.health.HasFailed adapter.seat ∧ state.health.ReportsStale adapter.seat ambient now_wall now_monotonic
  | _ => False

/-- An observation of the body map raises and changes nothing, or is accepted. -/
theorem SeatPersonSenseBodyMapAdapter.observe_cases (adapter : SeatPersonSenseBodyMapAdapter) (platform : Platform)
    (state : BodyMapState) (observation : SeatPressureObservation) (call : ObserveCall) (ambient : Ambient) :
    (adapter.observe platform state observation call ambient).1 = state ∨
      (∃ new_state monotonic, (adapter.observe platform state observation call ambient).1.health =
          .seen new_state monotonic) ∧
        ∃ cycle, (adapter.observe platform state observation call ambient).2 = .ok cycle := by
  unfold observe
  split
  case h_1 => exact .inl rfl
  case h_2 => exact .inr ⟨⟨_, _, rfl⟩, _, rfl⟩

end velvet.seat_person_sense_body_map

namespace velvet.gnss_body_adapter.GnssBodyAdapter

variable {config : GnssAdapterConfig} {adapter : GnssBodyAdapter} {ambient : Ambient} {now_wall now_monotonic : Option Json}

theorem check_stale_of_reports (hreports : ReportsStale config.stale_after_ms adapter.last_observation_monotonic
    adapter.stale_reported ambient now_wall now_monotonic) :
    (adapter.check_stale config ambient now_wall now_monotonic).1.state = .DEGRADED := by
  obtain ⟨last, wall, monotonic, hlast, hreported, hwall, hmonotonic, hstale⟩ := hreports
  unfold check_stale
  simp only [hwall, hmonotonic, except.ok_bind, pure, Except.pure, hlast]
  rw [if_neg (by simp [hreported, hstale])]

theorem check_stale_of_not_reports (hquiet : ¬ReportsStale config.stale_after_ms adapter.last_observation_monotonic
    adapter.stale_reported ambient now_wall now_monotonic) :
    (adapter.check_stale config ambient now_wall now_monotonic).1 = adapter := by
  unfold check_stale
  dsimp only
  split
  case h_1 => rfl
  case h_2 => rfl
  case h_3 wall monotonic last hchecked hlast =>
    split
    case isTrue => rfl
    case isFalse hdue =>
      obtain ⟨hstale, hreported⟩ := not_or.mp hdue
      obtain ⟨wall', hwall, hchecked⟩ := except.bind_eq_ok.mp hchecked
      obtain ⟨monotonic', hmonotonic, hpair⟩ := except.bind_eq_ok.mp hchecked
      cases hpair
      exact absurd ⟨last, wall, monotonic, hlast, Bool.eq_false_iff.mpr hreported, hwall, hmonotonic,
        not_le.mp hstale⟩ hquiet

theorem mark_failed_keeps (reason : Json) (hfailed : adapter.state = .FAILED) :
    (adapter.mark_failed config ambient reason now_wall).1.state = .FAILED := by
  unfold mark_failed
  dsimp only
  split
  case h_1 => exact hfailed
  case h_2 => rfl

/-- A sentence is refused and changes nothing, or is accepted. -/
theorem observe_line_cases (config : GnssAdapterConfig) (adapter : GnssBodyAdapter) (ambient : Ambient)
    (parsed : Except Error NmeaObservation) (now_wall now_monotonic : Option Json) :
    (adapter.observe_line config ambient parsed now_wall now_monotonic).1 = adapter ∨
      ∃ cycle, (adapter.observe_line config ambient parsed now_wall now_monotonic).2 = .ok cycle := by
  unfold observe_line
  dsimp only
  split
  case h_1 => exact .inl rfl
  case h_2 => exact .inr ⟨_, rfl⟩

/-- The operation that hides a failure of the receiver. -/
def Masks (config : GnssAdapterConfig) (adapter : GnssBodyAdapter) : Operation → Prop
  | .check_stale now_wall now_monotonic ambient =>
    adapter.state = .FAILED ∧ ReportsStale config.stale_after_ms adapter.last_observation_monotonic
      adapter.stale_reported ambient now_wall now_monotonic
  | _ => False

end velvet.gnss_body_adapter.GnssBodyAdapter

namespace velvet.vehicle_power_adapter.VehiclePowerBodyAdapter

variable {config : VehiclePowerAdapterConfig} {adapter : VehiclePowerBodyAdapter} {ambient : Ambient}
  {now_wall now_monotonic : Option Json}

theorem check_stale_of_reports (hreports : ReportsStale config.stale_after_ms adapter.last_observation_monotonic
    adapter.stale_reported ambient now_wall now_monotonic) :
    (adapter.check_stale config ambient now_wall now_monotonic).1.state = .DEGRADED := by
  obtain ⟨last, wall, monotonic, hlast, hreported, hwall, hmonotonic, hstale⟩ := hreports
  unfold check_stale
  simp only [hwall, hmonotonic, except.ok_bind, pure, Except.pure, hlast]
  rw [if_neg (by simp [hreported, hstale])]

theorem check_stale_of_not_reports (hquiet : ¬ReportsStale config.stale_after_ms adapter.last_observation_monotonic
    adapter.stale_reported ambient now_wall now_monotonic) :
    (adapter.check_stale config ambient now_wall now_monotonic).1 = adapter := by
  unfold check_stale
  dsimp only
  split
  case h_1 => rfl
  case h_2 => rfl
  case h_3 wall monotonic last hchecked hlast =>
    split
    case isTrue => rfl
    case isFalse hdue =>
      obtain ⟨hstale, hreported⟩ := not_or.mp hdue
      obtain ⟨wall', hwall, hchecked⟩ := except.bind_eq_ok.mp hchecked
      obtain ⟨monotonic', hmonotonic, hpair⟩ := except.bind_eq_ok.mp hchecked
      cases hpair
      exact absurd ⟨last, wall, monotonic, hlast, Bool.eq_false_iff.mpr hreported, hwall, hmonotonic,
        not_le.mp hstale⟩ hquiet

theorem mark_failed_keeps (reason : Json) (hfailed : adapter.state = .FAILED) :
    (adapter.mark_failed config ambient reason now_wall).1.state = .FAILED := by
  unfold mark_failed
  dsimp only
  split
  case h_1 => exact hfailed
  case h_2 => exact hfailed
  case h_3 => rfl

/-- A reading is refused and changes nothing, or is accepted. -/
theorem observe_cases (config : VehiclePowerAdapterConfig) (adapter : VehiclePowerBodyAdapter) (ambient : Ambient)
    (power : PowerReading) (now_wall now_monotonic : Option Json) :
    (adapter.observe config ambient power now_wall now_monotonic).1 = adapter ∨
      ∃ cycle, (adapter.observe config ambient power now_wall now_monotonic).2 = .ok cycle := by
  unfold observe
  dsimp only
  split
  case h_1 => exact .inl rfl
  case h_2 => exact .inr ⟨_, rfl⟩

/-- The operation that hides a failure of the source. -/
def Masks (config : VehiclePowerAdapterConfig) (adapter : VehiclePowerBodyAdapter) : Operation → Prop
  | .check_stale now_wall now_monotonic ambient =>
    adapter.state = .FAILED ∧ ReportsStale config.stale_after_ms adapter.last_observation_monotonic
      adapter.stale_reported ambient now_wall now_monotonic
  | _ => False

end velvet.vehicle_power_adapter.VehiclePowerBodyAdapter

namespace velvet.body_adapter

open velvet.seat

/-- The adapters that count or note the failures of their source and check its observations for staleness. -/
inductive WatchedAdapter where
  | seat_node (kind : NodeKind)
  | body_map (platform : Platform) (adapter : seat_person_sense_body_map.SeatPersonSenseBodyMapAdapter)
  | gnss (config : gnss_body_adapter.GnssAdapterConfig)
  | vehicle_power (config : vehicle_power_adapter.VehiclePowerAdapterConfig)

namespace WatchedAdapter

def machine : WatchedAdapter → Machine
  | seat_node kind => (BodyAdapter.seat_node kind).machine
  | body_map platform adapter => (BodyAdapter.body_map platform adapter).machine
  | gnss config => (BodyAdapter.gnss config).machine
  | vehicle_power config => (BodyAdapter.vehicle_power config).machine

/-- The adapter has failed since the last accepted observation. -/
def HasFailed : (watched : WatchedAdapter) → watched.machine.State → Prop
  | seat_node kind, (adapter : NodeAdapter) => adapter.health.HasFailed kind.adapter.node.toSeatModule
  | body_map _ adapter, (state : seat_person_sense_body_map.BodyMapState) => state.health.HasFailed adapter.seat
  | gnss _, (adapter : gnss_body_adapter.GnssBodyAdapter) => adapter.state = .FAILED
  | vehicle_power _, (adapter : vehicle_power_adapter.VehiclePowerBodyAdapter) => adapter.state = .FAILED

def IsObservation : (watched : WatchedAdapter) → watched.machine.Operation → Prop
  | seat_node _, .observe .. => True
  | body_map _ _, seat_person_sense_body_map.BodyMapOperation.observe .. => True
  | gnss _, gnss_body_adapter.GnssBodyAdapter.Operation.observe_line .. => True
  | vehicle_power _, vehicle_power_adapter.VehiclePowerBodyAdapter.Operation.observe .. => True
  | _, _ => False

/-- An observation that the adapter accepts. -/
def Accepts (watched : WatchedAdapter) (before : watched.machine.State) (operation : watched.machine.Operation) : Prop :=
  watched.IsObservation operation ∧ ∃ cycle, (watched.machine.perform before operation).2 = .ok cycle

/-- The operation hides a failure. -/
def Masks : (watched : WatchedAdapter) → watched.machine.State → watched.machine.Operation → Prop
  | seat_node kind, adapter, operation => kind.adapter.Masks adapter operation
  | body_map _ adapter, state, operation => adapter.Masks state operation
  | gnss config, adapter, operation => gnss_body_adapter.GnssBodyAdapter.Masks config adapter operation
  | vehicle_power config, adapter, operation =>
    vehicle_power_adapter.VehiclePowerBodyAdapter.Masks config adapter operation

/-- An operation that hides a failure is none that ends it, and leads away from it. -/
theorem masks_spec (watched : WatchedAdapter) (before : watched.machine.State) (operation : watched.machine.Operation)
    (hmasks : watched.Masks before operation) :
    watched.HasFailed before ∧ ¬watched.Accepts before operation ∧
      watched.machine.state (watched.machine.perform before operation).1 = .DEGRADED := by
  cases watched with
  | seat_node kind =>
    cases operation with
    | observe => exact hmasks.elim
    | mark_failure => exact hmasks.elim
    | reject_observation reason_code detail now_wall ambient =>
      obtain ⟨hfailed, hreports⟩ := hmasks
      obtain ⟨reason, hcall⟩ := SeatHealth.reject_observation_of_reports kind.adapter.node.toSeatModule hreports
      exact ⟨hfailed, fun haccepts => haccepts.1, congrArg SeatHealth.state hcall⟩
    | check_stale now_wall now_monotonic ambient =>
      obtain ⟨hfailed, hreports⟩ := hmasks
      exact ⟨hfailed, fun haccepts => haccepts.1, congrArg SeatHealth.state (SeatHealth.check_stale_of_reports hreports)⟩
  | body_map platform adapter =>
    cases operation with
    | observe => exact hmasks.elim
    | mark_failure => exact hmasks.elim
    | check_stale now_wall now_monotonic ambient =>
      obtain ⟨hfailed, hreports⟩ := hmasks
      exact ⟨hfailed, fun haccepts => haccepts.1, congrArg SeatHealth.state (SeatHealth.check_stale_of_reports hreports)⟩
  | gnss config =>
    cases operation with
    | observe_line => exact hmasks.elim
    | mark_failed => exact hmasks.elim
    | check_stale now_wall now_monotonic ambient =>
      obtain ⟨hfailed, hreports⟩ := hmasks
      exact ⟨hfailed, fun haccepts => haccepts.1, gnss_body_adapter.GnssBodyAdapter.check_stale_of_reports hreports⟩
  | vehicle_power config =>
    cases operation with
    | observe => exact hmasks.elim
    | mark_failed => exact hmasks.elim
    | check_stale now_wall now_monotonic ambient =>
      obtain ⟨hfailed, hreports⟩ := hmasks
      exact ⟨hfailed, fun haccepts => haccepts.1,
        vehicle_power_adapter.VehiclePowerBodyAdapter.check_stale_of_reports hreports⟩

variable {watched : WatchedAdapter} {before : watched.machine.State} {operation : watched.machine.Operation}

/-- What an operation does to a failure, when it is shown before. -/
def Keeps (watched : WatchedAdapter) (before : watched.machine.State) (operation : watched.machine.Operation) : Prop :=
  let after := (watched.machine.perform before operation).1
  (watched.HasFailed after → watched.machine.state after = .FAILED) ∧
    (watched.HasFailed before → ¬watched.Accepts before operation → watched.HasFailed after)

theorem keeps_of_same (hshown : watched.HasFailed before → watched.machine.state before = .FAILED)
    (hsame : (watched.machine.perform before operation).1 = before) : watched.Keeps before operation := by
  unfold Keeps
  rw [hsame]
  exact ⟨hshown, fun hfailed _ => hfailed⟩

/-- An operation that hides no failure keeps it shown. -/
theorem keeps_spec (watched : WatchedAdapter) (before : watched.machine.State) (operation : watched.machine.Operation)
    (hshown : watched.HasFailed before → watched.machine.state before = .FAILED)
    (hunmasked : ¬watched.Masks before operation) : watched.Keeps before operation := by
  cases watched with
  | seat_node kind =>
    cases operation with
    | observe observation call ambient =>
      rcases kind.adapter.observe_cases before observation call ambient with
        hsame | ⟨⟨new_state, monotonic, hhealth⟩, haccepted⟩
      · exact keeps_of_same hshown hsame
      · refine ⟨fun hfailed => absurd hfailed ?_, fun _ hrefused => absurd ⟨trivial, haccepted⟩ hrefused⟩
        change ¬SeatHealth.HasFailed _ (kind.adapter.observe before observation call ambient).1.health
        rw [hhealth]
        exact SeatHealth.not_failed_seen kind.threshold_positive new_state monotonic
    | mark_failure reason now_wall ambient =>
      have hkeeps := SeatHealth.mark_failure_keeps hshown ambient reason now_wall
      exact ⟨hkeeps.1, fun hfailed _ => hkeeps.2 hfailed⟩
    | reject_observation reason_code detail now_wall ambient =>
      have hkeeps := SeatHealth.reject_observation_keeps hshown hunmasked
      exact ⟨hkeeps.1, fun hfailed _ => hkeeps.2 hfailed⟩
    | check_stale now_wall now_monotonic ambient =>
      have hkeeps := SeatHealth.check_stale_keeps hshown hunmasked
      exact ⟨hkeeps.1, fun hfailed _ => hkeeps.2 hfailed⟩
  | body_map platform adapter =>
    cases operation with
    | observe observation call ambient =>
      rcases adapter.observe_cases platform before observation call ambient with
        hsame | ⟨⟨new_state, monotonic, hhealth⟩, haccepted⟩
      · exact keeps_of_same hshown hsame
      · refine ⟨fun hfailed => absurd hfailed ?_, fun _ hrefused => absurd ⟨trivial, haccepted⟩ hrefused⟩
        change ¬SeatHealth.HasFailed _ (adapter.observe platform before observation call ambient).1.health
        rw [hhealth]
        exact SeatHealth.not_failed_seen adapter.config.threshold_bounds.1 new_state monotonic
    | mark_failure reason now_wall ambient =>
      have hkeeps := SeatHealth.mark_failure_keeps hshown ambient reason now_wall
      exact ⟨hkeeps.1, fun hfailed _ => hkeeps.2 hfailed⟩
    | check_stale now_wall now_monotonic ambient =>
      have hkeeps := SeatHealth.check_stale_keeps hshown hunmasked
      exact ⟨hkeeps.1, fun hfailed _ => hkeeps.2 hfailed⟩
  | gnss config =>
    refine ⟨id, fun hfailed hrefused => ?_⟩
    cases operation with
    | observe_line parsed now_wall now_monotonic ambient =>
      rcases gnss_body_adapter.GnssBodyAdapter.observe_line_cases config before ambient parsed now_wall now_monotonic with
        hsame | haccepted
      · exact (congrArg gnss_body_adapter.GnssBodyAdapter.state hsame).trans hfailed
      · exact absurd ⟨trivial, haccepted⟩ hrefused
    | mark_failed reason now_wall ambient =>
      exact gnss_body_adapter.GnssBodyAdapter.mark_failed_keeps reason hfailed
    | check_stale now_wall now_monotonic ambient =>
      have hquiet := not_and.mp hunmasked hfailed
      have hsame := gnss_body_adapter.GnssBodyAdapter.check_stale_of_not_reports hquiet
      exact (congrArg gnss_body_adapter.GnssBodyAdapter.state hsame).trans hfailed
  | vehicle_power config =>
    refine ⟨id, fun hfailed hrefused => ?_⟩
    cases operation with
    | observe power now_wall now_monotonic ambient =>
      rcases vehicle_power_adapter.VehiclePowerBodyAdapter.observe_cases config before ambient power now_wall
        now_monotonic with hsame | haccepted
      · exact (congrArg vehicle_power_adapter.VehiclePowerBodyAdapter.state hsame).trans hfailed
      · exact absurd ⟨trivial, haccepted⟩ hrefused
    | mark_failed reason now_wall ambient =>
      exact vehicle_power_adapter.VehiclePowerBodyAdapter.mark_failed_keeps reason hfailed
    | check_stale now_wall now_monotonic ambient =>
      have hquiet := not_and.mp hunmasked hfailed
      have hsame := vehicle_power_adapter.VehiclePowerBodyAdapter.check_stale_of_not_reports hquiet
      exact (congrArg vehicle_power_adapter.VehiclePowerBodyAdapter.state hsame).trans hfailed

theorem not_failed_initial (watched : WatchedAdapter) : ¬watched.HasFailed watched.machine.initial := by
  cases watched with
  | seat_node kind =>
    intro hreached
    have hpositive := kind.threshold_positive
    have hcount : kind.adapter.node.failure_threshold ≤ (0 : Nat) := hreached
    omega
  | body_map platform adapter =>
    intro hreached
    have hpositive := adapter.config.threshold_bounds.1
    have hcount : adapter.config.failure_threshold ≤ (0 : Nat) := hreached
    omega
  | gnss config => exact fun hfailed => nomatch hfailed
  | vehicle_power config => exact fun hfailed => nomatch hfailed

/-- Over a sequence of operations, wherever the adapter has failed its state is `FAILED` until the next accepted
observation. -/
def FailureShown (watched : WatchedAdapter) (operations : List watched.machine.Operation) : Prop :=
  StaysUntil watched.HasFailed (fun reached => watched.machine.state reached = .FAILED) watched.Accepts
    watched.machine.perform watched.machine.initial operations

/-- Failures are shown over a sequence of operations exactly when no rejection and no finding of staleness is reported
while the adapter has failed. -/
theorem failure_shown_iff (watched : WatchedAdapter) (operations : List watched.machine.Operation) :
    watched.FailureShown operations ↔
      Each (fun before operation => ¬watched.Masks before operation) watched.machine.perform watched.machine.initial
        operations := by
  refine stays_until_iff (fun hfailed => absurd hfailed watched.not_failed_initial) ?_ watched.keeps_spec
  intro before operation hmasks
  obtain ⟨hfailed, hrefused, hdegraded⟩ := watched.masks_spec before operation hmasks
  refine ⟨hfailed, hrefused, ?_⟩
  rw [hdegraded]
  exact fun hsame => nomatch hsame

/-- The radar cannot be read. -/
def device_missing : NodeOperation seat_presence_node.SeatNodeObservation :=
  .mark_failure (.text "device missing") none at_noon

/-- A line that the radar's node did not write. -/
def malformed_line : NodeOperation seat_presence_node.SeatNodeObservation :=
  .reject_observation (.text "MALFORMED_LINE") (.text "not a seat-node message") none at_noon

/-- A malformed line after three failures turns the state of the radar back to `DEGRADED`. -/
theorem failure_masked_by_rejection :
    ¬(WatchedAdapter.seat_node (.presence driver_radar)).FailureShown [device_missing, device_missing, device_missing,
      malformed_line] := by
  intro hshown
  have hfailed : (run (NodeKind.presence driver_radar).adapter.perform NodeAdapter.initial
      [device_missing, device_missing, device_missing]).1.health.HasFailed
        (NodeKind.presence driver_radar).adapter.node.toSeatModule := by decide
  have hdegraded : (run (NodeKind.presence driver_radar).adapter.perform NodeAdapter.initial
      [device_missing, device_missing, device_missing, malformed_line]).1.health.state = .DEGRADED := by decide
  have hstill := hshown [device_missing, device_missing, device_missing] [malformed_line] (List.prefix_refl _) hfailed
    ⟨fun haccepts => haccepts.1, trivial⟩
  exact nomatch hdegraded.symm.trans hstill

end WatchedAdapter

end velvet.body_adapter
