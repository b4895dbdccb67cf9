import VelvetRuntime.BodyAdapter.Agreement
import VelvetRuntime.Python.Bytes

open python python.num python.str velvet.body_adapter velvet.body_state_bridge

namespace velvet.seat

open velvet.seat_presence_node velvet.seat_pressure_pad velvet.seat_heartbeat_signal

/-- The parser of the lines of a node. -/
def NodeKind.parse : (kind : NodeKind) → Platform → Expected → Line → Except Error kind.Observation
  | presence _ => parse_seat_node_line
  | pressure _ => parse_seat_pressure_line
  | heartbeat _ => parse_seat_heartbeat_line

/-- The space is the only printable white space. -/
theorem isspace_iff_of_printable {c : Char} (hprintable : ' ' ≤ c ∧ c ≤ '~') : isspace c = true ↔ c = ' ' := by
  have hlow : 32 ≤ c.toNat := hprintable.1
  have hhigh : c.toNat ≤ 126 := hprintable.2
  constructor
  · intro hspace
    have hcode : c.toNat = 32 := by
      simp only [isspace, Bool.or_eq_true, Bool.and_eq_true, decide_eq_true_eq, beq_iff_eq] at hspace
      omega
    exact Char.toNat_inj.mp hcode
  · rintro rfl
    rfl

/-- Printable text is blank exactly when it has nothing but spaces. -/
theorem blank_iff_of_is_text {text : String} (htext : is_text text = true) :
    Blank text ↔ ∀ c ∈ text.toList, c = ' ' := by
  unfold is_text at htext
  simp only [Bool.and_eq_true, decide_eq_true_eq, List.all_eq_true] at htext
  unfold Blank
  rw [strip_eq_nil_iff, split_eq_nil_iff]
  exact forall₂_congr fun c hc => isspace_iff_of_printable (htext.2 c hc)

theorem code_of_isAlphanum {c : Char} (halphanum : c.isAlphanum = true) : 48 ≤ c.toNat ∧ c.toNat ≤ 122 := by
  have hcode : c.toNat = c.val.toNat := rfl
  delta Char.isAlphanum Char.isAlpha Char.isUpper Char.isLower at halphanum
  simp only [Char.isDigit, Bool.or_eq_true, Bool.and_eq_true,
    decide_eq_true_eq, ge_iff_le, UInt32.le_iff_toNat_le] at halphanum
  simp at halphanum
  omega

/-- An identifier has no white space. -/
theorem not_blank_of_is_id {text : String} (hid : is_id text = true) : ¬Blank text := by
  unfold is_id at hid
  simp only [Bool.and_eq_true, decide_eq_true_eq, List.all_eq_true] at hid
  obtain ⟨⟨hlength, _⟩, hchars⟩ := hid
  obtain ⟨c, hc⟩ := List.exists_mem_of_length_pos hlength
  unfold Blank
  rw [strip_eq_nil_iff, split_eq_nil_iff]
  intro hblank
  have hspace := hblank c hc
  rcases Bool.or_eq_true_iff.mp (hchars c hc) with halphanum | hmark
  · obtain ⟨hlow, hhigh⟩ := code_of_isAlphanum halphanum
    simp only [isspace, Bool.or_eq_true, Bool.and_eq_true, decide_eq_true_eq, beq_iff_eq] at hspace
    omega
  · have hmarks : ∀ mark ∈ ['_', '.', ':', '-'], isspace mark = false := by decide
    rw [hmarks c (of_decide_eq_true hmark)] at hspace
    cases hspace

/-- What the records of a node take from its configuration, and what they say beside, is what the checks of a record ask
for. -/
structure SeatNode.Presentable {Observation : Type} (seat : SeatNode Observation) : Prop where
  identity : seat.node.identity.Given
  diagnostic : ∀ detail reason_code, AuthorityFreeEntries (seat.node.diagnostic detail reason_code)
  calibration_version : ∀ observation receipt_id wall monotonic source,
    (seat.sensor_event observation receipt_id wall monotonic source).calibration_version =
      (seat.reading observation).calibration_version
  sensor_type : ∀ observation receipt_id wall monotonic source,
    ¬Blank (seat.sensor_event observation receipt_id wall monotonic source).sensor_type
  interface_type : ∀ observation receipt_id wall monotonic source,
    ¬Blank (seat.sensor_event observation receipt_id wall monotonic source).interface_type
  inner : ∀ observation receipt_id wall monotonic source,
    AuthorityFreeEntries (seat.sensor_event observation receipt_id wall monotonic source).inner

theorem authority_free_optional_int (value : Option Int) : AuthorityFree (optional_int value) := by
  cases value <;> trivial

theorem authority_free_optional_float (value : Option ℚ) : AuthorityFree (optional_float value) := by
  cases value <;> trivial

theorem SeatAdapterConfig.identity_given (config : SeatAdapterConfig) : config.identity.Given := by
  have hgiven : ∀ id ∈ [config.module_id, config.node_id, config.seat_id, config.owning_handmaiden], ¬Blank id :=
    fun id hid => not_blank_of_is_id (config.ids_valid id hid)
  exact ⟨hgiven config.module_id (by simp), hgiven config.node_id (by simp), hgiven config.owning_handmaiden (by simp)⟩

theorem SeatAdapterConfig.interface_type_given (config : SeatAdapterConfig) : ¬Blank config.interface_type :=
  (config.texts_valid config.interface_type List.mem_cons_self).1

theorem NodeKind.presentable (kind : NodeKind) : kind.adapter.Presentable := by
  cases kind with
  | presence config =>
    refine ⟨config.identity_given, fun detail reason_code => ?_, fun _ _ _ _ _ => rfl, fun _ _ _ _ _ => ?_,
      fun _ _ _ _ _ => config.interface_type_given, fun observation _ _ _ _ => ?_⟩
    · simp [NodeKind.adapter, SeatPresenceBodyAdapter, SeatPresenceBodyAdapter.node, SeatPresenceBodyAdapter.diagnostic,
        AuthorityFreeEntries, AuthorityFree, FORBIDDEN_FIELDS, FALSE_ONLY_CLAIMS]
    · change ¬Blank "seat_presence_radar"
      decide
    · simp [NodeKind.adapter, SeatPresenceBodyAdapter, SeatPresenceBodyAdapter.sensor_event, SeatPresenceBodyAdapter.inner,
        AuthorityFreeEntries, AuthorityFree, FORBIDDEN_FIELDS, FALSE_ONLY_CLAIMS, is_false, authority_free_optional_int]
  | pressure config =>
    refine ⟨config.identity_given, fun detail reason_code => ?_, fun _ _ _ _ _ => rfl, fun _ _ _ _ _ => ?_,
      fun _ _ _ _ _ => config.interface_type_given, fun observation _ _ _ _ => ?_⟩
    · simp [NodeKind.adapter, SeatPressureBodyAdapter, SeatPressureBodyAdapter.node, SeatPressureBodyAdapter.diagnostic,
        AuthorityFreeEntries, AuthorityFree, FORBIDDEN_FIELDS, FALSE_ONLY_CLAIMS]
    · change ¬Blank "seat_pressure_array"
      decide
    · simp [NodeKind.adapter, SeatPressureBodyAdapter, SeatPressureBodyAdapter.sensor_event, SeatPressureBodyAdapter.inner,
        SeatPressureBodyAdapter.pad_record, AuthorityFreeEntries, AuthorityFree, FORBIDDEN_FIELDS, FALSE_ONLY_CLAIMS,
        is_false, authority_free_optional_int, authority_free_optional_float, authority_free_values]
  | heartbeat config =>
    refine ⟨config.identity_given, fun detail reason_code => ?_, fun _ _ _ _ _ => rfl, fun _ _ _ _ _ => ?_,
      fun _ _ _ _ _ => config.interface_type_given, fun observation _ _ _ _ => ?_⟩
    · simp [NodeKind.adapter, SeatHeartbeatBodyAdapter, SeatHeartbeatBodyAdapter.node, SeatHeartbeatBodyAdapter.diagnostic,
        AuthorityFreeEntries, AuthorityFree, FORBIDDEN_FIELDS, FALSE_ONLY_CLAIMS]
    · change ¬Blank "seat_heartbeat_signal"
      decide
    · simp [NodeKind.adapter, SeatHeartbeatBodyAdapter, SeatHeartbeatBodyAdapter.sensor_event, SeatHeartbeatBodyAdapter.inner,
        AuthorityFreeEntries, AuthorityFree, FORBIDDEN_FIELDS, FALSE_ONLY_CLAIMS, is_false, float_json,
        authority_free_optional_float]

variable {observed : SeatReading} {adapter : NodeAdapter}

/-- The event of an observation is of a known type and severity, and carries no authority. -/
theorem observed_event_plain {module : NodeModule} {ambient : Ambient}
    {wall : ℚ} {event : HealthEvent}
    (hdiagnostic : ∀ detail reason_code, AuthorityFreeEntries (module.diagnostic detail reason_code))
    (hevent : observed_event module adapter observed ambient wall = some event) :
    event.event_type ∈ EVENT_TYPES ∧ ¬Blank event.severity ∧ AuthorityFreeEntries event.diagnostic_payload := by
  have hstate : ∀ recovered : Prop, [Decidable recovered] →
      (if recovered then "RECOVERED" else observed.sensor_health.state.text) ∈ EVENT_TYPES := by
    intro recovered _
    split
    · decide
    · cases observed.sensor_health <;> decide
  have hseverity : ∀ online : Prop, [Decidable online] → ¬Blank (if online then "INFO" else "WARNING") := by
    intro online _
    split <;> decide
  unfold observed_event at hevent
  dsimp only at hevent
  split at hevent
  · cases hevent
    refine ⟨(by decide : "RESTARTED" ∈ EVENT_TYPES), (by decide : ¬Blank "INFO"),
      authority_free_append.mpr ⟨hdiagnostic _ _, ?_⟩⟩
    simp [AuthorityFreeEntries, AuthorityFree, FORBIDDEN_FIELDS, FALSE_ONLY_CLAIMS]
  · split at hevent
    · cases hevent
      exact ⟨hstate _, hseverity _, authority_free_append.mpr ⟨hdiagnostic _ _, trivial⟩⟩
    · cases hevent

section lines

variable {format : LineFormat} {header : LineFormat.Header} {document : List (String × Json)}

theorem LineFormat.is_text_of_required_text {key value : String}
    (hread : format.required_text document key = .ok value) : is_text value = true := by
  unfold LineFormat.required_text at hread
  split at hread
  case h_1 found _ =>
    split at hread
    case isTrue htext =>
      cases hread
      exact htext
    case isFalse => cases hread
  case h_2 => cases hread

theorem LineFormat.calibration_version_of_build
    (hbuild : format.build header document = .ok observed) : is_text observed.calibration_version = true := by
  unfold LineFormat.build at hbuild
  obtain ⟨_, _, hbuild⟩ := except.bind_eq_ok.mp hbuild
  obtain ⟨_, _, hbuild⟩ := except.bind_eq_ok.mp hbuild
  obtain ⟨_, _, hbuild⟩ := except.bind_eq_ok.mp hbuild
  obtain ⟨_, _, hbuild⟩ := except.bind_eq_ok.mp hbuild
  obtain ⟨calibration_version, hcalibration, hbuild⟩ := except.bind_eq_ok.mp hbuild
  cases hbuild
  exact LineFormat.is_text_of_required_text hcalibration

end lines

variable {platform : Platform}

/-- The calibration version of an observation that was parsed is printable text. -/
theorem NodeKind.calibration_version_of_parse (kind : NodeKind) {expected : Expected} {line : Line}
    {observation : kind.Observation} (hparse : kind.parse platform expected line = .ok observation) :
    is_text (kind.adapter.reading observation).calibration_version = true := by
  cases kind with
  | presence config =>
    change parse_seat_node_line platform expected line = .ok observation at hparse
    unfold parse_seat_node_line at hparse
    iterate 13 obtain ⟨_, _, hparse⟩ := except.bind_eq_ok.mp hparse
    obtain ⟨observed, hbuild, hparse⟩ := except.bind_eq_ok.mp hparse
    iterate 2 obtain ⟨_, _, hparse⟩ := except.bind_eq_ok.mp hparse
    cases hparse
    exact LineFormat.calibration_version_of_build hbuild
  | pressure config =>
    change parse_seat_pressure_line platform expected line = .ok observation at hparse
    unfold parse_seat_pressure_line at hparse
    iterate 3 obtain ⟨_, _, hparse⟩ := except.bind_eq_ok.mp hparse
    dsimp only at hparse
    -- one case for each mode, and one for a mode that is not known
    split at hparse
    on_goal 2 => split at hparse
    on_goal 3 => cases hparse
    all_goals
      iterate 16 obtain ⟨_, _, hparse⟩ := except.bind_eq_ok.mp hparse
      obtain ⟨observed, hbuild, hparse⟩ := except.bind_eq_ok.mp hparse
      obtain ⟨_, _, hparse⟩ := except.bind_eq_ok.mp hparse
      cases hparse
      exact LineFormat.calibration_version_of_build hbuild
  | heartbeat config =>
    change parse_seat_heartbeat_line platform expected line = .ok observation at hparse
    unfold parse_seat_heartbeat_line at hparse
    iterate 7 obtain ⟨_, _, hparse⟩ := except.bind_eq_ok.mp hparse
    obtain ⟨observed, hbuild, hparse⟩ := except.bind_eq_ok.mp hparse
    obtain ⟨_, _, hparse⟩ := except.bind_eq_ok.mp hparse
    cases hparse
    exact LineFormat.calibration_version_of_build hbuild

theorem SeatNode.observe_eq_ok {Observation : Type} {seat : SeatNode Observation}
    {observation : Observation} {call : ObserveCall} {ambient : Ambient} {cycle : Cycle}
    (hobserved : (seat.observe adapter observation call ambient).2 = .ok cycle) :
    ∃ admission, admission_of seat.node adapter (seat.reading observation) call ambient = .ok admission ∧
      cycle = ⟨some (seat.sensor_event observation ambient.sensor_id admission.wall admission.monotonic
          admission.source_reference), observed_event seat.node adapter (seat.reading observation) ambient admission.wall⟩ := by
  unfold SeatNode.observe at hobserved
  dsimp only at hobserved
  split at hobserved
  case h_1 => cases hobserved
  case h_2 admission hadmission =>
    cases hobserved
    exact ⟨admission, hadmission, rfl⟩

section publication

variable [StrLower] [StrUpper]

/-- The records of an observation are accepted exactly when its calibration version is more than spaces and the wall
clock is not before the epoch. -/
theorem records_accepted_iff (kind : NodeKind) {platform : Platform} {expected : Expected} {line : Line}
    {observation : kind.Observation} (hparsed : kind.parse platform expected line = .ok observation)
    {adapter : NodeAdapter} {call : ObserveCall} {ambient : Ambient} {cycle : Cycle}
    (hobserved : (kind.adapter.observe adapter observation call ambient).2 = .ok cycle) :
    (∀ record ∈ cycle.records, validate_body_record record = .ok record) ↔
      (∃ c ∈ (kind.adapter.reading observation).calibration_version.toList, c ≠ ' ') ∧
        ∃ wall, reading "now_wall" call.now_wall ambient.time = .ok wall ∧ 0 ≤ wall := by
  have hpresentable := kind.presentable
  have hfaithful := kind.faithful
  obtain ⟨admission, hadmission, rfl⟩ := SeatNode.observe_eq_ok hobserved
  have hwall := wall_of_admission hadmission
  have hgiven : ¬Blank (kind.adapter.reading observation).calibration_version ↔
      ∃ c ∈ (kind.adapter.reading observation).calibration_version.toList, c ≠ ' ' := by
    rw [blank_iff_of_is_text (kind.calibration_version_of_parse hparsed), not_forall]
    simp only [not_forall, exists_prop, ne_eq]
  have hsensor := SensorEvent.accepted_iff (by rw [hfaithful.identity]; exact hpresentable.identity)
    (hpresentable.sensor_type observation ambient.sensor_id admission.wall admission.monotonic admission.source_reference)
    (hpresentable.interface_type _ _ _ _ _) (hpresentable.inner _ _ _ _ _)
  rw [hpresentable.calibration_version, hfaithful.timestamp, hgiven] at hsensor
  have hclock : (∃ wall, reading "now_wall" call.now_wall ambient.time = .ok wall ∧ 0 ≤ wall) ↔ 0 ≤ admission.wall := by
    rw [hwall]
    exact ⟨fun ⟨wall, hread, hpositive⟩ => Except.ok.inj hread ▸ hpositive, fun hpositive => ⟨_, rfl, hpositive⟩⟩
  rw [hclock, ← hsensor]
  constructor
  · exact fun haccepted => haccepted _ (List.mem_append_left _ (List.mem_singleton_self _))
  · intro haccepted record hrecord
    rcases Cycle.mem_records hrecord with ⟨event, hevent, rfl⟩ | ⟨event, hevent, rfl⟩
    · cases hevent
      exact haccepted
    · obtain ⟨htype, hseverity, hdiagnostic⟩ := observed_event_plain hpresentable.diagnostic hevent
      obtain ⟨_, hidentity, htimestamp⟩ := (observed_event_spec _ _ _ _ _).2 event hevent
      refine (HealthEvent.accepted_iff (by rw [hidentity]; exact hpresentable.identity) htype hseverity hdiagnostic).mpr ?_
      rw [htimestamp]
      exact (hsensor.mp haccepted).2

end publication

open python.json

/-- Text that is written with `json.dumps` is read as its document, with the fields in the order of their names. -/
theorem Platform.loads_written {document : List (String × Json)}
    (hdistinct : Distinct (.object document)) (hread : Readable platform.floats (floats_in (.object document))) :
    loads platform.reader (String.ofList (encode platform.floats true (.object document))) =
      some (.object (sort_keys (sorted_entries document))) := by
  have hbuilds : platform.reader.Builds := fun _ hnodup => unique_object_of_nodup hnodup
  have hloads := loads_encode hbuilds true hdistinct hread (fun c hc => absurd hc List.not_mem_nil)
  rw [List.append_nil] at hloads
  exact hloads

variable (floats : FloatText) (ensure_ascii : Bool) (entries : List (String × Json))

/-- The text of an object starts and ends with a brace. -/
theorem strip_encode_object :
    strip (encode floats ensure_ascii (.object entries)) = encode floats ensure_ascii (.object entries) := by
  obtain ⟨inner, hobject⟩ : ∃ inner, encode floats ensure_ascii (.object entries) = '\x7b' :: (inner ++ ['\x7d']) :=
    ⟨_, encode_object _ _ _⟩
  rw [hobject]
  refine (strip_eq_self_iff _).mpr ⟨fun c hc => ?_, fun c hc => ?_⟩
  · cases hc
    decide
  · rw [← List.cons_append, List.getLast?_concat] at hc
    cases hc
    decide

theorem two_le_length_encode_object :
    2 ≤ (encode floats ensure_ascii (.object entries)).length := by
  rw [encode_object, List.length_cons, List.length_append, List.length_singleton]
  omega

theorem not_blank_encode_object :
    ¬Blank (String.ofList (encode floats ensure_ascii (.object entries))) := by
  unfold Blank
  rw [String.toList_ofList, strip_encode_object, encode_object]
  exact List.cons_ne_nil _ _

/-- A line that a node writes with `json.dumps` is decoded to its document, with the fields in the order of their names. -/
theorem LineFormat.decode_written (format : LineFormat) {document : List (String × Json)}
    {max_line_bytes : Int} (hdistinct : Distinct (.object document))
    (hread : Readable platform.floats (floats_in (.object document)))
    (hascii : ∀ c ∈ encode platform.floats true (.object document), c.toNat < 128 ∧ c.toNat ≠ 0)
    (hsize : (encode platform.floats true (.object document)).length ≤ max_line_bytes) :
    format.decode_unique_document platform (String.ofList (encode platform.floats true (.object document))).toUTF8
      max_line_bytes = .ok (sort_keys (sorted_entries document)) := by
  have hloads := Platform.loads_written hdistinct hread
  have hnonempty := two_le_length_encode_object platform.floats true document
  have hgiven := not_blank_encode_object platform.floats true document
  have hstrip := strip_encode_object platform.floats true document
  generalize encode platform.floats true (.object document) = text at *
  have hbytes := bytes.size_of_ascii (fun c hc => (hascii c hc).1)
  have hstripped : stripped (String.ofList text) = String.ofList text := by
    unfold stripped
    rw [String.toList_ofList, hstrip]
  unfold LineFormat.decode_unique_document
  rw [hbytes, if_neg (by omega), bytes.contains_zero_of_ascii (fun c hc => (hascii c hc).1) (fun c hc => (hascii c hc).2),
    if_neg (by decide), bytes.fromUTF8_toUTF8]
  dsimp only
  rw [if_neg hgiven, hstripped, hloads]

/-- A platform for lines without floats. -/
def plain_platform : Platform where
  floats := ⟨fun _ => "0.0".toList, fun _ => .finite 0⟩
  json_error := fun _ => "Expecting value: line 1 column 1 (char 0)"
  repr_texts := fun texts => "[" ++ ", ".intercalate texts ++ "]"

/-- What the radar's node says when nobody is there. -/
def quiet_document (calibration_version : String) : List (String × Json) := [
  ("schema", .text SEAT_NODE_SCHEMA),
  ("node_id", .text "seat-node"),
  ("seat_id", .text "driver"),
  ("boot_id", .text "a"),
  ("sequence", .int 1),
  ("uptime_ms", .int 1000),
  ("sensor_model", .text "HLK-LD2410C"),
  ("firmware_version", .text "1"),
  ("calibration_version", .text calibration_version),
  ("sensor_health", .text "ONLINE"),
  ("degraded_reason", .null),
  ("presence_detected", .bool false),
  ("moving_target_detected", .bool false),
  ("stationary_target_detected", .bool false),
  ("detection_distance_cm", .null),
  ("moving_distance_cm", .null),
  ("stationary_distance_cm", .null),
  ("moving_energy", .int 0),
  ("stationary_energy", .int 0)]

def quiet_line (calibration_version : String) : Line :=
  (String.ofList (encode plain_platform.floats true (.object (quiet_document calibration_version)))).toUTF8

def quiet_observation (calibration_version : String) : SeatNodeObservation where
  node_id := "seat-node"
  seat_id := "driver"
  boot_id := "a"
  sequence := 1
  uptime_ms := 1000
  sensor_model := "HLK-LD2410C"
  firmware_version := "1"
  calibration_version
  sensor_health := .ONLINE
  degraded_reason := none
  presence_detected := false
  moving_target_detected := false
  stationary_target_detected := false
  detection_distance_cm := none
  moving_distance_cm := none
  stationary_distance_cm := none
  moving_energy := 0
  stationary_energy := 0

def driver_expected : Expected := ⟨"seat-node", "driver", "HLK-LD2410C", 4096⟩

def serial_call : ObserveCall := ⟨none, none, .text "serial:seat-node"⟩

theorem decode_quiet_line (calibration_version : String)
    (hascii : ∀ c ∈ encode plain_platform.floats true (.object (quiet_document calibration_version)),
      c.toNat < 128 ∧ c.toNat ≠ 0)
    (hsize : (encode plain_platform.floats true (.object (quiet_document calibration_version))).length ≤ (4096 : Int)) :
    seat_node_lines.decode_unique_document plain_platform (quiet_line calibration_version) 4096 =
      .ok (sort_keys (sorted_entries (quiet_document calibration_version))) := by
  have hdistinct : Distinct (.object (quiet_document calibration_version)) :=
    ⟨(by decide : seat_presence_node.ALLOWED_FIELDS.Nodup), by repeat' constructor⟩
  exact seat_node_lines.decode_written hdistinct (fun _ hfloat => absurd hfloat List.not_mem_nil) hascii hsize

theorem parse_spaced_line : parse_seat_node_line plain_platform driver_expected (quiet_line " ") =
    .ok (quiet_observation " ") := by
  have hdecode := decode_quiet_line " " (by decide +kernel) (by decide +kernel)
  unfold parse_seat_node_line
  dsimp only
  rw [show driver_expected.max_line_bytes = 4096 from rfl, hdecode]
  decide +kernel

theorem parse_bench_line : parse_seat_node_line plain_platform driver_expected (quiet_line "bench") =
    .ok (quiet_observation "bench") := by
  have hdecode := decode_quiet_line "bench" (by decide +kernel) (by decide +kernel)
  unfold parse_seat_node_line
  dsimp only
  rw [show driver_expected.max_line_bytes = 4096 from rfl, hdecode]
  decide +kernel

/-- What the radar's adapter answers to the line, when it is new. -/
def quiet_cycle (calibration_version : String) : Cycle where
  sensor_event := some (SeatPresenceBodyAdapter.sensor_event driver_radar (quiet_observation calibration_version)
    at_noon.sensor_id at_noon.time at_noon.monotonic "serial:seat-node")
  health_event := observed_event (SeatPresenceBodyAdapter driver_radar).node .initial
    (quiet_observation calibration_version).toSeatReading at_noon at_noon.time

theorem records_accepted_of_bench :
    letI := StrLower.ascii
    letI := StrUpper.ascii
    ((NodeKind.presence driver_radar).adapter.observe .initial (quiet_observation "bench") serial_call at_noon).2 =
        .ok (quiet_cycle "bench") ∧
      ∀ record ∈ (quiet_cycle "bench").records, validate_body_record record = .ok record := by
  let := StrLower.ascii
  let := StrUpper.ascii
  have hcycle : ((NodeKind.presence driver_radar).adapter.observe .initial (quiet_observation "bench") serial_call
      at_noon).2 = .ok (quiet_cycle "bench") := rfl
  refine ⟨hcycle, ?_⟩
  exact (records_accepted_iff (.presence driver_radar) parse_bench_line hcycle).mpr
    ⟨⟨'b', by decide, by decide⟩, at_noon.time, rfl, by decide⟩

/-- A line whose calibration version is a space is accepted, and is the last one that the adapter remembers, but its record
cannot be published. -/
theorem accepted_record_refused :
    letI := StrLower.ascii
    letI := StrUpper.ascii
    parse_seat_node_line plain_platform driver_expected (quiet_line " ") = .ok (quiet_observation " ") ∧
      ((SeatPresenceBodyAdapter driver_radar).observe .initial (quiet_observation " ") serial_call at_noon).1.replay =
        .of_reading (quiet_observation " ").toSeatReading ∧
      ((SeatPresenceBodyAdapter driver_radar).observe .initial (quiet_observation " ") serial_call at_noon).2 =
        .ok (quiet_cycle " ") ∧
      ¬∀ record ∈ (quiet_cycle " ").records, ∃ accepted, validate_body_record record = .ok accepted := by
  let := StrLower.ascii
  let := StrUpper.ascii
  refine ⟨parse_spaced_line, rfl, rfl, fun hall => ?_⟩
  have hrefused : ∃ record ∈ (quiet_cycle " ").records, (validate_body_record record).isOk = false := by decide +kernel
  obtain ⟨record, hrecord, hrefused⟩ := hrefused
  obtain ⟨accepted, haccepted⟩ := hall record hrecord
  rw [haccepted] at hrefused
  cases hrefused

end velvet.seat
