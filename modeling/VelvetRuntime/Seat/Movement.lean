import VelvetRuntime.Seat.Topology

open python python.num python.str python.json python.except velvet.body_adapter velvet.seat velvet.seat_pressure_pad

namespace velvet.seat_person_sense_body_map

open SeatPersonSenseBodyMapAdapter

/-- The active flag of a pad in an observation. -/
def active_flag (observation : SeatPressureObservation) (pad_id : String) : Option Bool :=
  (observation.pads.reverse.find? (fun pad => pad.pad_id = pad_id)).map PressurePadSample.active

theorem get?_active_by_pad (observation : SeatPressureObservation) (pad_id : String) :
    (active_by_pad observation.pads).get? pad_id = active_flag observation pad_id := by
  unfold active_flag active_by_pad
  induction observation.pads using List.reverseRecOn with
  | nil => rfl
  | append_singleton pads pad ih =>
    rw [List.foldl_concat, List.reverse_concat, Dict.get?_set, List.find?_cons]
    by_cases hpad : pad.pad_id = pad_id
    · simp [hpad]
    · simp [hpad, Ne.symm hpad, ih]

section movement

variable (topology : SeatPersonSenseTopology) (previous : Option SeatPressureObservation)
  (observation : SeatPressureObservation)

/-- The pads whose active flag is not what it was in the previous observation. -/
def moved : List SeatPadBinding :=
  topology.pads.filter (fun binding =>
    previous.any (fun earlier => active_flag earlier binding.pad_id ≠ active_flag observation binding.pad_id))

def weight (bindings : List SeatPadBinding) : ℚ := (bindings.map SeatPadBinding.movement_weight).sum

/-- The changed weight by the total weight. -/
def intensity : ℚ := weight (moved topology previous observation) / weight topology.pads

theorem moved_none : moved topology none observation = [] := by
  simp [moved]

variable {topology} {bindings : List SeatPadBinding}

theorem weight_nonneg (hadmitted : ∀ binding ∈ bindings, binding.Admitted) :
    0 ≤ weight bindings := by
  refine List.sum_nonneg fun value hvalue => ?_
  obtain ⟨binding, hbinding, rfl⟩ := List.mem_map.mp hvalue
  exact (hadmitted binding hbinding).weight_bounds.1

theorem weight_filter_le (hadmitted : ∀ binding ∈ bindings, binding.Admitted)
    (keep : SeatPadBinding → Bool) : weight (bindings.filter keep) ≤ weight bindings := by
  induction bindings with
  | nil => exact le_refl _
  | cons binding rest ih =>
    rw [List.forall_mem_cons] at hadmitted
    have hrest := ih hadmitted.2
    have hweight := hadmitted.1.weight_bounds.1
    unfold weight at hrest ⊢
    rw [List.filter_cons]
    split
    · rw [List.map_cons, List.sum_cons, List.map_cons, List.sum_cons]
      linarith
    · rw [List.map_cons, List.sum_cons]
      linarith

/-- The division is never by zero, and the intensity of an admitted topology is between zero and one. -/
theorem intensity_bounds (hadmitted : topology.Admitted) :
    weight topology.pads ≠ 0 ∧ 0 ≤ intensity topology previous observation ∧
      intensity topology previous observation ≤ 1 := by
  have hpositive : 0 < weight topology.pads := topology.weight_positive
  have hnonneg : 0 ≤ weight (moved topology previous observation) :=
    weight_nonneg fun binding hbinding => hadmitted.pads_admitted binding (List.mem_of_mem_filter hbinding)
  exact ⟨ne_of_gt hpositive, div_nonneg hnonneg hpositive.le,
    (div_le_one hpositive).mpr (weight_filter_le hadmitted.pads_admitted _)⟩

end movement

section runs

variable (platform : Platform) (adapter : SeatPersonSenseBodyMapAdapter)

/-- The operations one after the other, with what they return. -/
def run : BodyMapState → List BodyMapOperation → List (BodyMapOperation × Except Error Cycle)
  | _, [] => []
  | state, operation :: operations =>
    (operation, (adapter.perform platform state operation).2) ::
      run (adapter.perform platform state operation).1 operations

/-- The observation that an operation of a run made, where it was accepted. -/
def accepted : BodyMapOperation × Except Error Cycle → Option SeatPressureObservation
  | (.observe observation .., .ok _) => some observation
  | _ => none

/-- The observation that was accepted last. -/
def last_accepted (entries : List (BodyMapOperation × Except Error Cycle)) (start : Option SeatPressureObservation) :
    Option SeatPressureObservation :=
  entries.foldl (fun last entry => (accepted entry).or last) start

/-- What is remembered is the observation that was accepted last. -/
def Remembers (state : BodyMapState) (last : Option SeatPressureObservation) : Prop :=
  state.last_active_by_pad = last.map (fun observation => active_by_pad observation.pads)

variable {platform} {adapter}

variable {state : BodyMapState} {last : Option SeatPressureObservation}

theorem remembers_perform (hstate : Remembers state last)
    (operation : BodyMapOperation) : Remembers (adapter.perform platform state operation).1
      ((accepted (operation, (adapter.perform platform state operation).2)).or last) := by
  cases operation with
  | observe observation call ambient =>
    dsimp only [perform, observe]
    split
    · exact hstate
    · exact rfl
  | mark_failure reason now_wall ambient => exact hstate
  | check_stale now_wall now_monotonic ambient => exact hstate

variable {earlier later : List (BodyMapOperation × Except Error Cycle)} {operations : List BodyMapOperation}

/-- How a run is split at one of its entries. -/
theorem exists_state_of_run {operation : BodyMapOperation}
    {result : Except Error Cycle} (hstate : Remembers state last)
    (hrun : run platform adapter state operations = earlier ++ (operation, result) :: later) :
    ∃ before, Remembers before (last_accepted earlier last) ∧ (adapter.perform platform before operation).2 = result := by
  induction operations generalizing state earlier last with
  | nil => cases earlier <;> cases hrun
  | cons first operations ih =>
    cases earlier with
    | nil =>
      cases hrun
      exact ⟨state, hstate, rfl⟩
    | cons entry earlier =>
      rw [run, List.cons_append, List.cons.injEq] at hrun
      obtain ⟨rfl, hrun⟩ := hrun
      have hrest := ih (remembers_perform hstate first) hrun
      exact hrest

/-- What an accepted observation reports of movement. -/
structure Movement (topology : SeatPersonSenseTopology) (previous : Option SeatPressureObservation)
    (observation : SeatPressureObservation) (event : SensorEvent) : Prop where
  flags_known : ∀ pad_id ∈ topology.pad_ids, (active_flag observation pad_id).isSome = true
  changed_pad_ids : event.inner.lookup "changed_pad_ids" =
    some (.list ((moved topology previous observation).map (fun binding => .text binding.pad_id)))
  movement_detected : event.inner.lookup "movement_detected" = some (.bool (moved topology previous observation ≠ []))
  movement_intensity : event.inner.lookup "movement_intensity" =
    some (float_json (num.round 6 (intensity topology previous observation)))

variable {previous : Option SeatPressureObservation}

theorem changed_pads_eq (hstate : Remembers state previous) (observation : SeatPressureObservation) :
    adapter.changed_pads state observation = moved adapter.topology previous observation := by
  unfold changed_pads
  rw [hstate]
  cases previous with
  | none => exact (moved_none _ _).symm
  | some earlier =>
    refine List.filter_congr fun binding _ => ?_
    simp [get?_active_by_pad]

theorem movement_intensity_eq (hadmitted : adapter.topology.Admitted) (hstate : Remembers state previous)
    (observation : SeatPressureObservation) :
    adapter.movement_intensity state observation = intensity adapter.topology previous observation := by
  have hbounds := intensity_bounds previous observation hadmitted
  unfold movement_intensity
  rw [changed_pads_eq hstate, hstate]
  cases previous with
  | none =>
    unfold intensity
    rw [moved_none]
    exact (zero_div _).symm
  | some earlier => exact min_eq_right hbounds.2.2

theorem sorted_texts_eq_nil {texts : List String} (hnone : LineFormat.sorted_texts texts = []) : texts = [] := by
  refine List.eq_nil_iff_forall_not_mem.mpr fun text htext => ?_
  have hmem : text ∈ LineFormat.sorted_texts texts :=
    (List.perm_insertionSort _ _).mem_iff.mpr (List.mem_dedup.mpr htext)
  rw [hnone] at hmem
  cases hmem

/-- An observation is of the seat and of the pads of a topology. -/
def Matches (topology : SeatPersonSenseTopology) (observation : SeatPressureObservation) : Prop :=
  observation.seat_id = topology.seat_id ∧
    ∀ pad_id, pad_id ∈ observation.pads.map PressurePadSample.pad_id ↔ pad_id ∈ topology.pad_ids

variable {observation : SeatPressureObservation} {call : ObserveCall} {ambient : Ambient}

/-- Observations that do not match the topology are refused, and no other check looks at the pads. -/
theorem admission_of_eq_ok_iff {admission : Admission} :
    adapter.admission_of platform observation call ambient = .ok admission ↔
      observation.node_id = adapter.config.node_id ∧ Matches adapter.topology observation ∧
        reading "now_wall" call.now_wall ambient.time = .ok admission.wall ∧
        reading "now_monotonic" call.now_monotonic ambient.monotonic = .ok admission.monotonic ∧
        given_text (value_error "source_reference must be non-empty") call.source_reference =
          .ok admission.source_reference := by
  constructor
  · intro hok
    obtain ⟨hnode, hok⟩ := check_bind_eq_ok.mp hok
    obtain ⟨hseat, hok⟩ := check_bind_eq_ok.mp hok
    obtain ⟨hpads, hok⟩ := check_bind_eq_ok.mp hok
    obtain ⟨hmissing, hextra⟩ := require_eq_ok_iff.mp hpads
    obtain ⟨wall, hwall, hok⟩ := bind_eq_ok.mp hok
    obtain ⟨monotonic, hmonotonic, hok⟩ := bind_eq_ok.mp hok
    obtain ⟨source_reference, hsource, hok⟩ := bind_eq_ok.mp hok
    cases hok
    refine ⟨require_eq_ok_iff.mp hnode, ⟨(require_eq_ok_iff.mp hseat).trans adapter.same_seat, fun pad_id => ?_⟩,
      hwall, hmonotonic, hsource⟩
    refine ⟨fun hobserved => ?_, fun hexpected => ?_⟩
    · by_contra hnot
      exact List.filter_eq_nil_iff.mp (sorted_texts_eq_nil hextra) pad_id hobserved (decide_eq_true hnot)
    · by_contra hnot
      exact List.filter_eq_nil_iff.mp (sorted_texts_eq_nil hmissing) pad_id hexpected (decide_eq_true hnot)
  · rintro ⟨hnode, ⟨hseat, hpads⟩, hwall, hmonotonic, hsource⟩
    have hnone : ∀ ids others : List String, (∀ pad_id ∈ ids, pad_id ∈ others) →
        LineFormat.sorted_texts (ids.filter (· ∉ others)) = [] := by
      intro ids others hall
      rw [List.filter_eq_nil_iff.mpr fun pad_id hpad => by simpa using hall pad_id hpad]
      rfl
    refine check_bind_eq_ok.mpr ⟨require_eq_ok_iff.mpr hnode, check_bind_eq_ok.mpr ⟨?_, check_bind_eq_ok.mpr ⟨?_, ?_⟩⟩⟩
    · exact require_eq_ok_iff.mpr (hseat.trans adapter.same_seat.symm)
    · exact require_eq_ok_iff.mpr
        ⟨hnone _ _ fun pad_id => (hpads pad_id).mpr, hnone _ _ fun pad_id => (hpads pad_id).mp⟩
    · exact bind_eq_ok.mpr ⟨_, hwall, bind_eq_ok.mpr ⟨_, hmonotonic, bind_eq_ok.mpr ⟨_, hsource, rfl⟩⟩⟩

theorem active_flag_isSome {pad_id : String} (hmem : pad_id ∈ observation.pads.map PressurePadSample.pad_id) :
    (active_flag observation pad_id).isSome = true := by
  obtain ⟨pad, hpad, rfl⟩ := List.mem_map.mp hmem
  unfold active_flag
  rw [Option.isSome_map, List.find?_isSome]
  exact ⟨pad, List.mem_reverse.mpr hpad, decide_eq_true rfl⟩

/-- One observation that is accepted, whatever was accepted before. -/
theorem movement_of_observe (hadmitted : adapter.topology.Admitted) (hstate : Remembers state previous)
    {cycle : Cycle}
    (hok : (adapter.observe platform state observation call ambient).2 = .ok cycle) :
    ∃ event, cycle.sensor_event = some event ∧ Movement adapter.topology previous observation event := by
  unfold observe at hok
  split at hok
  · cases hok
  rename_i admission hadmission
  cases hok
  refine ⟨_, rfl, fun pad_id hpad => ?_, ?_, ?_, ?_⟩
  · obtain ⟨-, hmatches, -⟩ := admission_of_eq_ok_iff.mp hadmission
    exact active_flag_isSome ((hmatches.2 pad_id).mpr hpad)
  · rw [← changed_pads_eq hstate]
    rfl
  · rw [← changed_pads_eq hstate]
    rfl
  · rw [← movement_intensity_eq hadmitted hstate]
    rfl

/-- Every observation that a run accepts reports what changed since the one that was accepted before it. -/
theorem movement_of_run (hadmitted : adapter.topology.Admitted)
    {cycle : Cycle}
    (hrun : run platform adapter .initial operations = earlier ++ (.observe observation call ambient, .ok cycle) :: later) :
    ∃ event, cycle.sensor_event = some event ∧
      Movement adapter.topology (last_accepted earlier none) observation event := by
  have hinitial : Remembers .initial none := rfl
  obtain ⟨state, hstate, hperformed⟩ := exists_state_of_run hinitial hrun
  exact movement_of_observe hadmitted hstate hperformed

end runs

end velvet.seat_person_sense_body_map
