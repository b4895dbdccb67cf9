import VelvetRuntime.Transitions
import VelvetRuntime.Seat.Presence
import VelvetRuntime.Seat.Pressure
import VelvetRuntime.Seat.Heartbeat

open python transitions velvet.body_adapter
open velvet.seat_presence_node velvet.seat_pressure_pad velvet.seat_heartbeat_signal

namespace velvet.seat

/-- The adapters of the three specialist nodes. -/
inductive NodeKind where
  | presence (config : SeatPresenceAdapterConfig)
  | pressure (config : SeatPressureAdapterConfig)
  | heartbeat (config : SeatHeartbeatAdapterConfig)

namespace NodeKind

def Observation : NodeKind → Type
  | presence _ => SeatNodeObservation
  | pressure _ => SeatPressureObservation
  | heartbeat _ => SeatHeartbeatObservation

def adapter : (kind : NodeKind) → SeatNode kind.Observation
  | presence config => SeatPresenceBodyAdapter config
  | pressure config => SeatPressureBodyAdapter config
  | heartbeat config => SeatHeartbeatBodyAdapter config

end NodeKind

/-- No observation is accepted twice, and those of one boot are in order. -/
structure Ordered (accepted : List SeatReading) : Prop where
  no_repetition : accepted.Pairwise (fun earlier later =>
    (earlier.boot_id, earlier.sequence) ≠ (later.boot_id, later.sequence))
  sequences_increase : accepted.Pairwise (fun earlier later =>
    earlier.boot_id = later.boot_id → earlier.sequence < later.sequence)
  uptimes_never_decrease : accepted.Pairwise (fun earlier later =>
    earlier.boot_id = later.boot_id → earlier.uptime_ms ≤ later.uptime_ms)

/-- A later observation of the same boot comes after an earlier one. -/
def Follows (earlier later : SeatReading) : Prop :=
  earlier.boot_id = later.boot_id → earlier.sequence < later.sequence ∧ earlier.uptime_ms ≤ later.uptime_ms

theorem ordered_iff {accepted : List SeatReading} : Ordered accepted ↔ accepted.Pairwise Follows := by
  constructor
  · intro hordered
    refine (hordered.sequences_increase.and hordered.uptimes_never_decrease).imp ?_
    exact fun ⟨hsequence, huptime⟩ hboot => ⟨hsequence hboot, huptime hboot⟩
  · intro hfollows
    refine ⟨hfollows.imp ?_, hfollows.imp fun hlater hboot => (hlater hboot).1,
      hfollows.imp fun hlater hboot => (hlater hboot).2⟩
    intro earlier later hlater hsame
    obtain ⟨hboot, hsequence⟩ := Prod.mk.inj hsame
    exact absurd hsequence (hlater hboot).1.ne

variable {Observation : Type} (seat : SeatNode Observation)

/-- An adapter with the observations that it accepted so far. -/
structure Watched where
  adapter : NodeAdapter
  accepted : List SeatReading

def Watched.initial : Watched := ⟨.initial, []⟩

def accepted_by (operation : NodeOperation Observation) (outcome : Except Error Cycle) : List SeatReading :=
  match operation, outcome with
  | .observe observation _ _, .ok _ => [seat.reading observation]
  | _, _ => []

def watch (watched : Watched) (operation : NodeOperation Observation) : Watched × Except Error Cycle :=
  let (adapter, outcome) := seat.perform watched.adapter operation
  (⟨adapter, watched.accepted ++ accepted_by seat operation outcome⟩, outcome)

/-- The observation is of a boot that was accepted before another one was. -/
def ReturnsToBoot (watched : Watched) (observed : SeatReading) : Prop :=
  watched.adapter.replay.last_boot_id ≠ some observed.boot_id ∧
    ∃ earlier ∈ watched.accepted, earlier.boot_id = observed.boot_id

instance (watched : Watched) (observed : SeatReading) : Decidable (ReturnsToBoot watched observed) :=
  inferInstanceAs (Decidable (_ ∧ _))

/-- No observation that passes the checks returns to an earlier boot. -/
def KeepsBoots (watched : Watched) : NodeOperation Observation → Prop
  | .observe observation call ambient =>
    (∃ admission, admission_of seat.node watched.adapter (seat.reading observation) call ambient = .ok admission) →
      ¬ReturnsToBoot watched (seat.reading observation)
  | _ => True

/-- What an adapter remembers is the last observation that it accepted. -/
def Remembers (watched : Watched) : Prop :=
  watched.adapter.replay = (watched.accepted.getLast?.map Replay.of_reading).getD .initial

variable {seat} {watched : Watched} {adapter : NodeAdapter}

/-- The checks of an observation that passed them. -/
theorem check_of_admit {node : NodeModule} {observed : SeatReading} {call : ObserveCall}
    {ambient : Ambient} {admission : Admission} (hadmission : admission_of node adapter observed call ambient = .ok admission) :
    adapter.replay.check node observed = .ok () := by
  unfold admission_of at hadmission
  obtain ⟨_, hadmission⟩ := except.check_bind_eq_ok.mp hadmission
  obtain ⟨_, hadmission⟩ := except.check_bind_eq_ok.mp hadmission
  obtain ⟨_, hadmission⟩ := except.check_bind_eq_ok.mp hadmission
  obtain ⟨_, _, hadmission⟩ := except.bind_eq_ok.mp hadmission
  obtain ⟨_, _, hadmission⟩ := except.bind_eq_ok.mp hadmission
  obtain ⟨_, _, hadmission⟩ := except.bind_eq_ok.mp hadmission
  exact (except.check_bind_eq_ok.mp hadmission).1

/-- An observation of the boot seen last comes after the one seen last. -/
theorem follows_of_check {node : NodeModule} {last observed : SeatReading}
    (hcheck : (Replay.of_reading last).check node observed = .ok ()) : Follows last observed := by
  intro hboot
  have hsame : (Replay.of_reading last).last_boot_id = some observed.boot_id := congrArg some hboot
  have hrebooted : (Replay.of_reading last).rebooted observed = false := by simp [Replay.rebooted, hsame]
  unfold Replay.check at hcheck
  rw [if_pos ⟨hrebooted, hsame⟩] at hcheck
  obtain ⟨hsequence, hcheck⟩ := except.guard_eq_ok.mp hcheck
  obtain ⟨huptime, _⟩ := except.guard_eq_ok.mp hcheck
  simp only [Replay.of_reading, Option.any_some, decide_eq_true_eq, not_le, not_lt] at hsequence huptime
  exact ⟨hsequence, huptime⟩

variable {operation : NodeOperation Observation}

/-- An operation that raises leaves the adapter as it was. -/
theorem perform_raised {error : Error}
    (hraised : (seat.perform adapter operation).2 = .error error) : (seat.perform adapter operation).1 = adapter := by
  cases operation with
  | observe observation call ambient =>
    unfold SeatNode.perform SeatNode.observe at hraised ⊢
    dsimp only at hraised ⊢
    cases hadmission : admission_of seat.node adapter (seat.reading observation) call ambient with
    | error error => rfl
    | ok admission =>
      rw [hadmission] at hraised
      cases hraised
  | reject_observation reason_code detail now_wall ambient =>
    unfold SeatNode.perform at hraised ⊢
    rcases SeatHealth.reject_observation_cases seat.node.toSeatModule adapter.health
      ambient reason_code detail now_wall with ⟨_, hcall⟩ | hcall | ⟨_, _, _, _, _, _, _, hcall⟩
    · simp only [hcall]
    · simp only [hcall]
    · simp [hcall] at hraised
  | mark_failure reason now_wall ambient =>
    unfold SeatNode.perform at hraised ⊢
    rcases SeatHealth.mark_failure_cases seat.node.toSeatModule adapter.health
      ambient reason now_wall with ⟨_, hcall⟩ | ⟨_, hcall⟩ | ⟨_, _, _, _, hcall⟩
    · simp only [hcall]
    · simp [hcall] at hraised
    · simp [hcall] at hraised
  | check_stale now_wall now_monotonic ambient =>
    unfold SeatNode.perform at hraised ⊢
    rcases SeatHealth.check_stale_cases seat.node.toSeatModule adapter.health
      ambient now_wall now_monotonic with ⟨_, hcall⟩ | hcall | ⟨_, _, _, _, _, _, _, _, hcall⟩
    · simp only [hcall]
    · simp only [hcall]
    · simp [hcall] at hraised

/-- Only an accepted observation changes what an adapter remembers. -/
theorem watch_cases (seat : SeatNode Observation) (watched : Watched) (operation : NodeOperation Observation) :
    ((watch seat watched operation).1.adapter.replay = watched.adapter.replay ∧
        (watch seat watched operation).1.accepted = watched.accepted) ∨
      ∃ observation call ambient admission, operation = .observe observation call ambient ∧
        admission_of seat.node watched.adapter (seat.reading observation) call ambient = .ok admission ∧
        (watch seat watched operation).1.adapter.replay = .of_reading (seat.reading observation) ∧
        (watch seat watched operation).1.accepted = watched.accepted ++ [seat.reading observation] := by
  cases operation with
  | observe observation call ambient =>
    unfold watch SeatNode.perform SeatNode.observe
    dsimp only
    cases hadmission : admission_of seat.node watched.adapter (seat.reading observation) call ambient with
    | error error => exact .inl ⟨rfl, List.append_nil _⟩
    | ok admission => exact .inr ⟨observation, call, ambient, admission, rfl, hadmission, rfl, rfl⟩
  | reject_observation => exact .inl ⟨rfl, List.append_nil _⟩
  | mark_failure => exact .inl ⟨rfl, List.append_nil _⟩
  | check_stale => exact .inl ⟨rfl, List.append_nil _⟩

/-- What a run keeps: the observations are in order, and the last one is remembered. -/
def InOrder (watched : Watched) : Prop := Remembers watched ∧ watched.accepted.Pairwise Follows

theorem InOrder.watch (hinorder : InOrder watched)
    (hkeeps : KeepsBoots seat watched operation) : InOrder (watch seat watched operation).1 := by
  obtain ⟨hremembers, hfollows⟩ := hinorder
  rcases watch_cases seat watched operation with
    ⟨hreplay, haccepted⟩ | ⟨observation, call, ambient, admission, rfl, hadmission, hreplay, haccepted⟩
  · unfold InOrder Remembers
    rw [hreplay, haccepted]
    exact ⟨hremembers, hfollows⟩
  · unfold InOrder Remembers
    rw [hreplay, haccepted]
    refine ⟨by simp, List.pairwise_append.mpr ⟨hfollows, List.pairwise_singleton _ _, ?_⟩⟩
    intro earlier hearlier later hlater hboot
    rw [List.mem_singleton] at hlater
    subst hlater
    -- The boot was accepted before, so it is the one that is remembered.
    have hlast_boot := not_and'.mp (hkeeps ⟨admission, hadmission⟩) ⟨earlier, hearlier, hboot⟩
    rw [not_not] at hlast_boot
    obtain ⟨front, last, hsplit⟩ := (List.eq_nil_or_concat watched.accepted).resolve_left
      (List.ne_nil_of_mem hearlier)
    rw [List.concat_eq_append] at hsplit
    have hreplay_last : watched.adapter.replay = .of_reading last := by
      rw [show watched.adapter.replay = _ from hremembers, hsplit]
      simp
    rw [hreplay_last] at hlast_boot
    have hcheck := check_of_admit hadmission
    rw [hreplay_last] at hcheck
    have hnew := follows_of_check hcheck (Option.some.inj hlast_boot)
    rw [hsplit] at hearlier hfollows
    rcases List.mem_append.mp hearlier with hfront | hlast
    · have hold := (List.pairwise_append.mp hfollows).2.2 earlier hfront last (List.mem_singleton_self last)
        (hboot.trans (Option.some.inj hlast_boot).symm)
      exact ⟨hold.1.trans hnew.1, hold.2.trans hnew.2⟩
    · rw [List.mem_singleton] at hlast
      subst hlast
      exact hnew

/-- In every run in which no accepted observation returns to an earlier boot, the accepted observations of a node are in
order and without repetition; and an operation that raises never changes the adapter. -/
theorem observations_ordered (kind : NodeKind) (operations : List (NodeOperation kind.Observation))
    (hkeeps : Each (KeepsBoots kind.adapter) (watch kind.adapter) .initial operations) :
    Ordered (run (watch kind.adapter) .initial operations).1.accepted ∧
      ∀ operation error, (kind.adapter.perform (run (watch kind.adapter) .initial operations).1.adapter operation).2 =
          .error error →
        (kind.adapter.perform (run (watch kind.adapter) .initial operations).1.adapter operation).1 =
          (run (watch kind.adapter) .initial operations).1.adapter := by
  refine ⟨ordered_iff.mpr ?_, fun operation error hraised => perform_raised hraised⟩
  have hinitial : InOrder Watched.initial := ⟨rfl, List.Pairwise.nil⟩
  exact (hkeeps.invariant (fun before operation hbefore hallowed => hbefore.watch hallowed) hinitial).2

def driver_radar : SeatPresenceAdapterConfig where
  module_id := "seat-radar"
  node_id := "seat-node"
  seat_id := "driver"
  owning_handmaiden := "Temperance"
  interface_type := "read-only-serial-json"
  stale_after_ms := 3500
  failure_threshold := 3
  expected_sensor_model := "HLK-LD2410C"
  ids_valid := by decide
  texts_valid := by decide
  stale_after_bounds := by decide
  threshold_bounds := by decide

def at_noon : Ambient where
  time := 43200
  monotonic := 100
  sensor_id := ⟨"1f0c", by decide⟩
  health_id := ⟨"2e9b", by decide⟩

/-- The radar sees nobody. -/
def empty_seat (boot_id : String) (sequence : Int) : NodeOperation SeatNodeObservation :=
  .observe {
    node_id := "seat-node"
    seat_id := "driver"
    boot_id
    sequence
    uptime_ms := 1000 * sequence
    sensor_model := "HLK-LD2410C"
    firmware_version := "1"
    calibration_version := "1"
    sensor_health := .ONLINE
    degraded_reason := none
    presence_detected := false
    moving_target_detected := false
    stationary_target_detected := false
    detection_distance_cm := none
    moving_distance_cm := none
    stationary_distance_cm := none
    moving_energy := 0
    stationary_energy := 0 } ⟨none, none, .text "serial:seat-node"⟩ at_noon

theorem observations_ordered_after_reboot :
    Ordered (run (watch (SeatPresenceBodyAdapter driver_radar)) .initial
      [empty_seat "a" 1, empty_seat "a" 2, empty_seat "b" 1]).1.accepted := by
  refine (observations_ordered (.presence driver_radar) [empty_seat "a" 1, empty_seat "a" 2, empty_seat "b" 1] ?_).1
  exact ⟨fun _ => by decide, fun _ => by decide, fun _ => by decide, trivial⟩

/-- A node that boots twice can have an observation of its first boot accepted again. -/
theorem observation_accepted_again :
    ¬Ordered (run (watch (SeatPresenceBodyAdapter driver_radar)) .initial
      [empty_seat "a" 1, empty_seat "b" 1, empty_seat "a" 1]).1.accepted := by
  intro hordered
  have haccepted : (run (watch (SeatPresenceBodyAdapter driver_radar)) .initial
      [empty_seat "a" 1, empty_seat "b" 1, empty_seat "a" 1]).1.accepted.map
        (fun observed => (observed.boot_id, observed.sequence)) = [("a", 1), ("b", 1), ("a", 1)] := by decide
  have hdistinct := List.pairwise_map.mpr hordered.no_repetition
  rw [haccepted] at hdistinct
  revert hdistinct
  decide

end velvet.seat
