import VelvetRuntime.Python.JsonPlain
import VelvetRuntime.Seat.Movement
import VelvetRuntime.Seat.Publication

open python python.str python.json python.except velvet.body_adapter velvet.seat velvet.seat_pressure_pad

namespace velvet.seat

theorem printable_of_isAlphanum {c : Char} (halphanum : c.isAlphanum = true) :
    Printable c ∧ c ≠ '\"' ∧ c ≠ '\\' := by
  have hcode := code_of_isAlphanum halphanum
  refine ⟨⟨by omega, by omega⟩, ?_, ?_⟩
  · rintro rfl
    cases halphanum
  · rintro rfl
    cases halphanum

variable {text : String}

/-- An identifier has no marks that JSON escapes. -/
theorem plain_of_is_id (hid : is_id text = true) :
    ∀ c ∈ text.toList, Printable c ∧ c ≠ '\"' ∧ c ≠ '\\' := by
  unfold is_id at hid
  simp only [Bool.and_eq_true, decide_eq_true_eq, List.all_eq_true] at hid
  intro c hc
  rcases Bool.or_eq_true_iff.mp (hid.2 c hc) with halphanum | hmark
  · exact printable_of_isAlphanum halphanum
  · have hmarks : ∀ mark ∈ ['_', '.', ':', '-'], (32 ≤ mark.toNat ∧ mark.toNat ≤ 126) ∧ mark ≠ '\"' ∧ mark ≠ '\\' := by
      decide
    exact hmarks c (of_decide_eq_true hmark)

theorem length_of_is_id (hid : is_id text = true) : text.toList.length ≤ 64 := by
  unfold is_id at hid
  simp only [Bool.and_eq_true, decide_eq_true_eq] at hid
  exact hid.1.2

/-- An identifier is written with two quotation marks around it. -/
theorem text_size_of_is_id (hid : is_id text = true) (floats : FloatText) :
    text_size (encode floats true (.text text)) ≤ 66 := by
  have hplain := plain_of_is_id hid
  have hlength := length_of_is_id hid
  have hmark : '\"'.utf8Size = 1 := rfl
  unfold encode
  rw [quote_of_plain hplain, text_size_cons, text_size_append, text_size_cons, text_size_nil, hmark,
    text_size_of_printable fun c hc => (hplain c hc).1]
  omega

namespace LineFormat

section known

variable (format : LineFormat) {payload : List (String × Json)} {key : String}

theorem required_id_of_known {value : String} (hknown : entry_of payload key = some (.text value))
    (hvalue : is_id value = true) : format.required_id payload key = .ok value := by
  unfold required_id
  rw [hknown]
  exact if_pos hvalue

theorem required_text_of_known {value : String} (hknown : entry_of payload key = some (.text value))
    (hvalue : is_text value = true) : format.required_text payload key = .ok value := by
  unfold required_text
  rw [hknown]
  exact if_pos hvalue

theorem check_of {condition : Prop} [Decidable condition] (hcondition : condition) (message : String) :
    format.check condition message = .ok () := require_eq_ok_iff.mpr hcondition

end known

end LineFormat

end velvet.seat

namespace velvet.seat_person_sense_body_map

/-- A pad that nothing touches, with the fields in the order of their names. -/
def resting_pad (pad_id : String) : Json := .object [
  ("active", .bool false),
  ("normalized_load", .null),
  ("pad_id", .text pad_id),
  ("raw_value", .null),
  ("zone", .text "zone")]

/-- What a node says of pads that nothing touches. -/
def resting_document (node_id seat_id : String) (pad_ids : List String) : List (String × Json) := [
  ("boot_id", .text "a"),
  ("calibration_version", .text "1"),
  ("contact_detected", .bool false),
  ("contact_stable_ms", .int 0),
  ("degraded_reason", .null),
  ("firmware_version", .text "1"),
  ("lateral_shift_detected", .bool false),
  ("lateral_shift_direction", .text "NONE"),
  ("lateral_state", .text "NO_CONTACT"),
  ("node_id", .text node_id),
  ("pads", .list (pad_ids.map resting_pad)),
  ("pressure_mode", .text "BINARY_CONTACT"),
  ("schema", .text SEAT_PRESSURE_NODE_SCHEMA),
  ("seat_id", .text seat_id),
  ("sensor_health", .text "ONLINE"),
  ("sensor_model", .text "seat-pressure-pad-array"),
  ("sequence", .int 0),
  ("total_load_kg_equivalent", .null),
  ("uptime_ms", .int 0)]

/-- The fields of such a document. -/
def resting_keys : List String :=
  ["boot_id", "calibration_version", "contact_detected", "contact_stable_ms", "degraded_reason", "firmware_version",
    "lateral_shift_detected", "lateral_shift_direction", "lateral_state", "node_id", "pads", "pressure_mode", "schema",
    "seat_id", "sensor_health", "sensor_model", "sequence", "total_load_kg_equivalent", "uptime_ms"]

def resting_line (floats : FloatText) (node_id seat_id : String) (pad_ids : List String) : Line :=
  (String.ofList (encode floats true (.object (resting_document node_id seat_id pad_ids)))).toUTF8

/-- How such a pad is read. -/
def resting_sample (pad_id : String) : PressurePadSample := ⟨pad_id, "zone", false, none, none⟩

def resting_observation (node_id seat_id : String) (pad_ids : List String) : SeatPressureObservation where
  node_id
  seat_id
  boot_id := "a"
  sequence := 0
  uptime_ms := 0
  sensor_model := "seat-pressure-pad-array"
  firmware_version := "1"
  calibration_version := "1"
  sensor_health := .ONLINE
  degraded_reason := none
  pressure_mode := .BINARY_CONTACT
  pads := pad_ids.map resting_sample
  contact_detected := false
  contact_stable_ms := 0
  lateral_state := "NO_CONTACT"
  lateral_shift_detected := false
  lateral_shift_direction := "NONE"
  total_load_kg_equivalent := none

section resting

variable {node_id seat_id : String} {pad_ids : List String}

theorem map_fst_resting_document (node_id seat_id : String) (pad_ids : List String) :
    (resting_document node_id seat_id pad_ids).map Prod.fst = resting_keys := rfl

theorem floats_in_resting : ∀ pad_ids : List String, floats_in_values (pad_ids.map resting_pad) = []
  | [] => rfl
  | _ :: rest => floats_in_resting rest

theorem distinct_resting : ∀ pad_ids : List String, DistinctValues (pad_ids.map resting_pad)
  | [] => trivial
  | _ :: rest => by
    refine ⟨⟨(by decide : ["active", "normalized_load", "pad_id", "raw_value", "zone"].Nodup), ?_⟩, distinct_resting rest⟩
    repeat' constructor

/-- The order of entries is that of their keys. -/
theorem sort_keys_of_sorted {entries : List (String × Json)} (hsorted : (entries.map Prod.fst).Pairwise (· ≤ ·)) :
    sort_keys entries = entries := (List.pairwise_map.mp hsorted).insertionSort_eq

theorem sorted_resting : ∀ pad_ids : List String, sorted_values (pad_ids.map resting_pad) = pad_ids.map resting_pad
  | [] => rfl
  | pad_id :: rest => by
    have hpad : sorted (resting_pad pad_id) = resting_pad pad_id :=
      congrArg Json.object (sort_keys_of_sorted
        (by decide : ["active", "normalized_load", "pad_id", "raw_value", "zone"].Pairwise (· ≤ ·)))
    exact congrArg₂ List.cons hpad (sorted_resting rest)

/-- The document is written with its fields in the order in which they are. -/
theorem sorted_resting_document (node_id seat_id : String) (pad_ids : List String) :
    sort_keys (sorted_entries (resting_document node_id seat_id pad_ids)) = resting_document node_id seat_id pad_ids := by
  have hentries : sorted_entries (resting_document node_id seat_id pad_ids) =
      resting_document node_id seat_id pad_ids := by
    rw [sorted_entries_eq_map]
    unfold resting_document
    simp only [List.map_cons, List.map_nil, sorted, sorted_resting]
  rw [hentries]
  exact sort_keys_of_sorted (by decide : resting_keys.Pairwise (· ≤ ·))

theorem distinct_resting_document (node_id seat_id : String) (pad_ids : List String) :
    Distinct (.object (resting_document node_id seat_id pad_ids)) := by
  refine ⟨(by decide : resting_keys.Nodup), ?_⟩
  have hpads := distinct_resting pad_ids
  unfold resting_document
  simp only [DistinctEntries, Distinct, hpads, and_true]

theorem floats_in_resting_document (node_id seat_id : String) (pad_ids : List String) :
    floats_in (.object (resting_document node_id seat_id pad_ids)) = [] := by
  have hpads := floats_in_resting pad_ids
  unfold resting_document
  simp only [floats_in, floats_in_entries, hpads, List.append_nil]

/-- The values of a line that are the same in all of them. -/
def resting_values : List Json :=
  [.text "a", .text "1", .bool false, .int 0, .null, .text "1", .bool false, .text "NONE", .text "NO_CONTACT",
    .text "BINARY_CONTACT", .text SEAT_PRESSURE_NODE_SCHEMA, .text "ONLINE", .text "seat-pressure-pad-array", .int 0, .null,
    .int 0]

theorem sum_map_resting (size : Json → Nat) :
    (((resting_document node_id seat_id pad_ids).map Prod.snd).map size).sum =
      size (.text node_id) + size (.text seat_id) + size (.list (pad_ids.map resting_pad)) +
        (resting_values.map size).sum := by
  unfold resting_document resting_values
  simp only [List.map_cons, List.map_nil, List.sum_cons, List.sum_nil]
  omega

variable (floats : FloatText)

theorem text_size_resting_values :
    (resting_values.map (fun value => text_size (encode floats true value))).sum = 127 := by
  unfold resting_values
  simp only [List.map_cons, List.map_nil]
  unfold encode
  decide

theorem text_size_resting_pad {pad_id : String} (hpad : is_id pad_id = true) :
    text_size (encode floats true (resting_pad pad_id)) ≤ 146 := by
  have hid := text_size_of_is_id hpad floats
  have hkeys : (["active", "normalized_load", "pad_id", "raw_value", "zone"].map
      (fun key => text_size (quote true key) + 2)).sum = 60 := by decide
  have hvalues : ([Json.bool false, .null, .null, .text "zone"].map
      (fun value => text_size (encode floats true value))).sum = 19 := by
    simp only [List.map_cons, List.map_nil]
    unfold encode
    decide
  unfold resting_pad
  rw [text_size_object floats true (List.cons_ne_nil _ _)]
  simp only [List.map_cons, List.map_nil, List.sum_cons, List.sum_nil] at hkeys hvalues ⊢
  omega

/-- Eight pads of the longest identifiers take far less than a line. -/
theorem text_size_resting_document (hnode : is_id node_id = true) (hseat : is_id seat_id = true)
    (hids : ∀ pad_id ∈ pad_ids, is_id pad_id = true) (hcount : 1 ≤ pad_ids.length ∧ pad_ids.length ≤ 8) :
    text_size (encode floats true (.object (resting_document node_id seat_id pad_ids))) ≤ 4096 := by
  have hnode_size := text_size_of_is_id hnode floats
  have hseat_size := text_size_of_is_id hseat floats
  have hpads : text_size (encode floats true (.list (pad_ids.map resting_pad))) ≤ 1177 := by
    have hnonempty : pad_ids.map resting_pad ≠ [] := by
      rw [ne_eq, List.map_eq_nil_iff]
      rintro rfl
      exact absurd hcount.1 (by decide)
    have hsum : ((pad_ids.map resting_pad).map (fun value => text_size (encode floats true value) + 1)).sum ≤
        pad_ids.length * 147 := by
      rw [List.map_map]
      refine (List.sum_le_card_nsmul _ 147 fun size hsize => ?_).trans_eq (by simp)
      obtain ⟨pad_id, hpad_id, rfl⟩ := List.mem_map.mp hsize
      exact Nat.succ_le_succ (text_size_resting_pad floats (hids pad_id hpad_id))
    have hlimit : pad_ids.length * 147 ≤ 8 * 147 := Nat.mul_le_mul_right 147 hcount.2
    rw [text_size_list floats true hnonempty]
    omega
  have hkeys : (resting_keys.map (fun key => text_size (quote true key) + 2)).sum = 327 := by decide
  have hvalues := text_size_resting_values floats
  rw [text_size_object floats true (show resting_document node_id seat_id pad_ids ≠ [] from List.cons_ne_nil _ _),
    map_fst_resting_document, hkeys, sum_map_resting, hvalues]
  omega

variable {platform : Platform}

/-- The line is decoded to the document. -/
theorem decode_resting_line (hnode : is_id node_id = true) (hseat : is_id seat_id = true)
    (hids : ∀ pad_id ∈ pad_ids, is_id pad_id = true) (hcount : 1 ≤ pad_ids.length ∧ pad_ids.length ≤ 8) :
    seat_pressure_lines.decode_unique_document platform (resting_line platform.floats node_id seat_id pad_ids) 4096 =
      .ok (resting_document node_id seat_id pad_ids) := by
  have hnone := floats_in_resting_document node_id seat_id pad_ids
  have hprintable := printable_of_mem_encode platform.floats hnone
  have hread : Readable platform.floats (floats_in (.object (resting_document node_id seat_id pad_ids))) := by
    rw [hnone]
    exact fun _ hfloat => absurd hfloat List.not_mem_nil
  have hsize := text_size_resting_document platform.floats hnode hseat hids hcount
  rw [text_size_of_printable hprintable] at hsize
  have hdecode := seat_pressure_lines.decode_written (distinct_resting_document node_id seat_id pad_ids) hread
    (fun c hc => ⟨(hprintable c hc).2.trans_lt (by decide), Nat.ne_of_gt ((by decide : 0 < 32).trans_le (hprintable c hc).1)⟩)
    (Int.ofNat_le.mpr hsize)
  rw [sorted_resting_document] at hdecode
  exact hdecode

theorem parse_resting_pad {pad_id : String} (hpad : is_id pad_id = true) (index : Nat) :
    parse_pad platform .BINARY_CONTACT index (resting_pad pad_id) = .ok (resting_sample pad_id) := by
  unfold parse_pad resting_pad
  refine check_bind_eq_ok.mpr ⟨LineFormat.check_of _ rfl _, check_bind_eq_ok.mpr ⟨LineFormat.check_of _ rfl _, ?_⟩⟩
  refine bind_eq_ok.mpr ⟨none, rfl, check_bind_eq_ok.mpr ⟨LineFormat.check_of _ (fun _ => rfl) _, ?_⟩⟩
  refine bind_eq_ok.mpr ⟨pad_id, LineFormat.required_id_of_known _ rfl hpad, ?_⟩
  exact bind_eq_ok.mpr ⟨"zone", LineFormat.required_id_of_known _ rfl (by decide), rfl⟩

theorem parse_resting_pads (hids : ∀ pad_id ∈ pad_ids, is_id pad_id = true) (hnodup : pad_ids.Nodup) (index : Nat)
    {seen : List String} (hunseen : ∀ pad_id ∈ pad_ids, pad_id ∉ seen) :
    parse_pads platform .BINARY_CONTACT index seen (pad_ids.map resting_pad) =
      .ok (pad_ids.map resting_sample) := by
  induction pad_ids generalizing index seen with
  | nil => rfl
  | cons pad_id rest ih =>
    rw [List.forall_mem_cons] at hids hunseen
    rw [List.nodup_cons] at hnodup
    have hrest_unseen : ∀ other ∈ rest, other ∉ seen ++ [pad_id] := by
      intro other hother hseen
      rcases List.mem_append.mp hseen with hseen | hseen
      · exact hunseen.2 other hother hseen
      · cases List.mem_singleton.mp hseen
        exact hnodup.1 hother
    have hrest := ih hids.2 hnodup.2 (index + 1) hrest_unseen
    rw [List.map_cons, parse_pads, parse_resting_pad hids.1, ok_bind]
    exact check_bind_eq_ok.mpr ⟨LineFormat.check_of _ hunseen.1 _, bind_eq_ok.mpr ⟨_, hrest, rfl⟩⟩

/-- The header of the line is the one that is expected. -/
theorem header_resting_line (hnode : is_id node_id = true) (hseat : is_id seat_id = true) (max_line_bytes : Int) :
    seat_pressure_lines.header platform ⟨node_id, seat_id, "seat-pressure-pad-array", max_line_bytes⟩
      (resting_document node_id seat_id pad_ids) =
        .ok ⟨node_id, seat_id, "seat-pressure-pad-array", .ONLINE, none⟩ := by
  unfold LineFormat.header
  have hnode_expected : LineFormat.validated_expected_id node_id "expected_node_id" = .ok node_id := if_pos hnode
  have hseat_expected : LineFormat.validated_expected_id seat_id "expected_seat_id" = .ok seat_id := if_pos hseat
  refine check_bind_eq_ok.mpr ⟨rfl, check_bind_eq_ok.mpr ⟨LineFormat.check_of _ rfl _, ?_⟩⟩
  refine bind_eq_ok.mpr ⟨node_id, LineFormat.required_id_of_known _ rfl hnode, ?_⟩
  refine bind_eq_ok.mpr ⟨seat_id, LineFormat.required_id_of_known _ rfl hseat, ?_⟩
  refine bind_eq_ok.mpr ⟨node_id, hnode_expected, check_bind_eq_ok.mpr ⟨LineFormat.check_of _ rfl _, ?_⟩⟩
  refine bind_eq_ok.mpr ⟨seat_id, hseat_expected, check_bind_eq_ok.mpr ⟨LineFormat.check_of _ rfl _, ?_⟩⟩
  refine bind_eq_ok.mpr ⟨_, LineFormat.required_text_of_known _ rfl (by decide), ?_⟩
  refine bind_eq_ok.mpr ⟨_, (by decide : required_expected_text "expected_sensor_model"
    (.text "seat-pressure-pad-array") = .ok "seat-pressure-pad-array"), ?_⟩
  refine check_bind_eq_ok.mpr ⟨LineFormat.check_of _ rfl _, ?_⟩
  refine bind_eq_ok.mpr ⟨_, LineFormat.required_text_of_known _ rfl (by decide), ?_⟩
  dsimp only
  rw [if_pos (by decide)]
  rfl

theorem parse_resting_line (hnode : is_id node_id = true) (hseat : is_id seat_id = true)
    (hids : ∀ pad_id ∈ pad_ids, is_id pad_id = true) (hnodup : pad_ids.Nodup)
    (hcount : 1 ≤ pad_ids.length ∧ pad_ids.length ≤ 8) :
    parse_seat_pressure_line platform ⟨node_id, seat_id, "seat-pressure-pad-array", 4096⟩
      (resting_line platform.floats node_id seat_id pad_ids) = .ok (resting_observation node_id seat_id pad_ids) := by
  unfold parse_seat_pressure_line
  refine bind_eq_ok.mpr ⟨_, decode_resting_line hnode hseat hids hcount, ?_⟩
  refine bind_eq_ok.mpr ⟨_, header_resting_line hnode hseat 4096, ?_⟩
  refine bind_eq_ok.mpr ⟨_, LineFormat.required_text_of_known _ rfl (by decide), ?_⟩
  dsimp only
  rw [if_pos (by decide)]
  have hpads : pads_of platform (resting_document node_id seat_id pad_ids) .BINARY_CONTACT =
      .ok (pad_ids.map resting_sample) := by
    have hlength : 1 ≤ (pad_ids.map resting_pad).length ∧ (pad_ids.map resting_pad).length ≤ 8 := by
      rwa [List.length_map]
    exact (if_pos hlength).trans (parse_resting_pads hids hnodup 0 fun _ _ => List.not_mem_nil)
  have hactive : false = (pad_ids.map resting_sample).any PressurePadSample.active := by
    rw [eq_comm, List.any_eq_false]
    intro pad hpad
    obtain ⟨pad_id, -, rfl⟩ := List.mem_map.mp hpad
    exact Bool.false_ne_true
  refine bind_eq_ok.mpr ⟨.BINARY_CONTACT, rfl, bind_eq_ok.mpr ⟨_, hpads, bind_eq_ok.mpr ⟨false, rfl, ?_⟩⟩⟩
  refine check_bind_eq_ok.mpr ⟨LineFormat.check_of _ hactive _, ?_⟩
  refine bind_eq_ok.mpr ⟨_, LineFormat.required_text_of_known _ rfl (by decide), ?_⟩
  refine check_bind_eq_ok.mpr ⟨LineFormat.check_of _ (by decide) _, ?_⟩
  refine check_bind_eq_ok.mpr ⟨LineFormat.check_of _ (fun _ => by decide) _, ?_⟩
  refine check_bind_eq_ok.mpr ⟨LineFormat.check_of _ nofun _, bind_eq_ok.mpr ⟨false, rfl, ?_⟩⟩
  refine bind_eq_ok.mpr ⟨_, LineFormat.required_text_of_known _ rfl (by decide), ?_⟩
  refine check_bind_eq_ok.mpr ⟨LineFormat.check_of _ (by decide) _, ?_⟩
  refine check_bind_eq_ok.mpr ⟨LineFormat.check_of _ nofun _, ?_⟩
  refine check_bind_eq_ok.mpr ⟨LineFormat.check_of _ (fun _ => by decide) _, ?_⟩
  refine check_bind_eq_ok.mpr ⟨LineFormat.check_of _ (fun _ => rfl) _, bind_eq_ok.mpr ⟨none, rfl, ?_⟩⟩
  have hload : check_load .BINARY_CONTACT none (pad_ids.map resting_sample) = .ok () := by
    refine check_bind_eq_ok.mpr ⟨LineFormat.check_of _ rfl _, LineFormat.check_of _ ?_ _⟩
    intro pad hpad
    obtain ⟨pad_id, -, rfl⟩ := List.mem_map.mp hpad
    rfl
  refine check_bind_eq_ok.mpr ⟨hload, ?_⟩
  rfl

/-- A topology of at most eight pads is matched by a line of pads that nothing touches. -/
theorem exists_line_of_short {topology : SeatPersonSenseTopology} (hadmitted : topology.Admitted)
    (hshort : topology.pads.length ≤ 8) (hnode : is_id node_id = true) :
    ∃ line observation,
      parse_seat_pressure_line platform ⟨node_id, topology.seat_id, "seat-pressure-pad-array", 4096⟩ line =
        .ok observation ∧ Matches topology observation := by
  have hids : ∀ pad_id ∈ topology.pad_ids, is_id pad_id = true := by
    intro pad_id hpad
    obtain ⟨binding, hbinding, rfl⟩ := List.mem_map.mp hpad
    exact (hadmitted.pads_admitted binding hbinding).pad_id_valid
  have hlength : topology.pad_ids.length = topology.pads.length := List.length_map _
  have hcount : 1 ≤ topology.pad_ids.length ∧ topology.pad_ids.length ≤ 8 := by
    rw [hlength]
    exact ⟨hadmitted.pad_count.1, hshort⟩
  refine ⟨_, _, parse_resting_line hnode topology.seat_id_valid hids topology.pads_distinct hcount, rfl, fun pad_id => ?_⟩
  change pad_id ∈ (topology.pad_ids.map resting_sample).map PressurePadSample.pad_id ↔ _
  have hsamples : PressurePadSample.pad_id ∘ resting_sample = id := rfl
  rw [List.map_map, hsamples, List.map_id]

end resting

section long

variable {platform : Platform} {pads : List PressurePadSample} {pressure_mode : PressureMode}

theorem length_of_parse_pads {index : Nat} {seen : List String} {values : List Json}
    (hok : parse_pads platform pressure_mode index seen values = .ok pads) :
    pads.length = values.length := by
  induction values generalizing index seen pads with
  | nil =>
    cases hok
    rfl
  | cons value rest ih =>
    obtain ⟨_, -, hok⟩ := bind_eq_ok.mp hok
    obtain ⟨-, hok⟩ := check_bind_eq_ok.mp hok
    obtain ⟨others, hothers, hok⟩ := bind_eq_ok.mp hok
    cases hok
    exact congrArg (· + 1) (ih hothers)

theorem length_of_pads_of {document : List (String × Json)}
    (hok : pads_of platform document pressure_mode = .ok pads) : pads.length ≤ 8 := by
  unfold pads_of at hok
  split at hok
  · split at hok
    · rename_i hcount
      rw [length_of_parse_pads hok]
      exact hcount.2
    · cases hok
  · cases hok

variable {observation : SeatPressureObservation}

/-- A line has at most eight pads. -/
theorem length_of_parse {expected : Expected} {line : Line}
    (hok : parse_seat_pressure_line platform expected line = .ok observation) : observation.pads.length ≤ 8 := by
  unfold parse_seat_pressure_line at hok
  iterate 3 obtain ⟨_, -, hok⟩ := bind_eq_ok.mp hok
  dsimp only at hok
  -- one case for each mode, and one for a mode that is not known
  split at hok
  on_goal 2 => split at hok
  on_goal 3 => cases hok
  all_goals
    obtain ⟨_, -, hok⟩ := bind_eq_ok.mp hok
    obtain ⟨pads, hpads, hok⟩ := bind_eq_ok.mp hok
    have hlength := length_of_pads_of hpads
    iterate 15 obtain ⟨_, -, hok⟩ := bind_eq_ok.mp hok
    obtain ⟨_, -, hok⟩ := bind_eq_ok.mp hok
    cases hok
    exact hlength

/-- A topology of more than eight pads is matched by no line. -/
theorem not_matches_of_long {topology : SeatPersonSenseTopology} (hlong : 8 < topology.pads.length) {expected : Expected}
    {line : Line}
    (hok : parse_seat_pressure_line platform expected line = .ok observation) : ¬Matches topology observation := by
  intro hmatches
  have hsubset : topology.pad_ids ⊆ observation.pads.map PressurePadSample.pad_id :=
    fun pad_id hpad => (hmatches.2 pad_id).mpr hpad
  have hcount := (topology.pads_distinct.subperm hsubset).length_le
  have hlimit := length_of_parse hok
  rw [List.length_map, List.length_map] at hcount
  omega

end long

/-- Every accepted observation of an adapter whose topology was parsed reports the pads that changed since the accepted
observation before it, and by how much. A topology of at most eight pads is matched by some line, a longer one by none. -/
theorem topology_spec {platform : Platform} {text : String} {expected_seat_id : Option String}
    {topology : SeatPersonSenseTopology}
    (hok : parse_seat_person_sense_topology platform text expected_seat_id = .ok topology) :
    weight topology.pads ≠ 0 ∧
      (∀ adapter : SeatPersonSenseBodyMapAdapter, adapter.topology = topology → ∀ operations earlier observation call
        ambient cycle later,
        run platform adapter .initial operations = earlier ++ (.observe observation call ambient, .ok cycle) :: later →
        (∃ event, cycle.sensor_event = some event ∧
          Movement topology (last_accepted earlier none) observation event) ∧
        0 ≤ intensity topology (last_accepted earlier none) observation ∧
        intensity topology (last_accepted earlier none) observation ≤ 1) ∧
      (topology.pads.length ≤ 8 → ∀ node_id, is_id node_id = true → ∃ line observation,
        parse_seat_pressure_line platform ⟨node_id, topology.seat_id, "seat-pressure-pad-array", 4096⟩ line =
          .ok observation ∧ Matches topology observation) ∧
      (8 < topology.pads.length → ∀ expected line observation,
        parse_seat_pressure_line platform expected line = .ok observation → ¬Matches topology observation) := by
  have hadmitted := parse_seat_person_sense_topology_admitted hok
  refine ⟨ne_of_gt topology.weight_positive, ?_, fun hshort node_id hnode => exists_line_of_short hadmitted hshort hnode,
    fun hlong expected line observation hparsed => not_matches_of_long hlong hparsed⟩
  rintro adapter rfl operations earlier observation call ambient cycle later hrun
  exact ⟨movement_of_run hadmitted hrun, (intensity_bounds _ observation hadmitted).2⟩

section bench

/-- A topology of some pads of one load. -/
def bench_topology (count : Nat) : List (String × Json) := [
  ("schema", .text SEAT_PERSON_SENSE_TOPOLOGY_SCHEMA),
  ("topology_id", .text "bench"),
  ("seat_id", .text "driver"),
  ("vehicle_profile", .text "bench"),
  ("calibration_version", .text "1"),
  ("pads", .list ((List.range count).map (fun index => .object [
    ("pad_id", .text ("pad-" ++ toString index)),
    ("role", .text "MAIN_LOAD"),
    ("surface", .text "base"),
    ("side", .text "CENTER"),
    ("movement_weight", .int 1)])))]

def bench_text (count : Nat) : String :=
  String.ofList (encode plain_platform.floats true (.object (bench_topology count)))

theorem parse_bench_text {count : Nat} (hcount : count = 2 ∨ count = 9) : ∃ topology,
    parse_seat_person_sense_topology plain_platform (bench_text count) (some "driver") = .ok topology ∧
      topology.pads.length = count := by
  have hdistinct : Distinct (.object (bench_topology count)) := by
    rcases hcount with rfl | rfl
    all_goals
      refine ⟨by decide, ?_⟩
      repeat' constructor
      all_goals decide
  have hnone : floats_in (.object (bench_topology count)) = [] := by rcases hcount with rfl | rfl <;> decide
  have hread : Readable plain_platform.floats (floats_in (.object (bench_topology count))) := by
    rw [hnone]
    exact fun _ hfloat => absurd hfloat List.not_mem_nil
  have hdecode : decode_document plain_platform (bench_text count) =
      .ok (sort_keys (sorted_entries (bench_topology count))) := by
    unfold decode_document bench_text
    rw [Platform.loads_written hdistinct hread]
  have hgiven : ¬Blank (bench_text count) := not_blank_encode_object _ _ _
  have hsize : (bench_text count).toUTF8.size ≤ 32768 := by
    change text_size (encode plain_platform.floats true (.object (bench_topology count))) ≤ 32768
    rw [text_size_of_printable (printable_of_mem_encode plain_platform.floats hnone)]
    rcases hcount with rfl | rfl <;> decide +kernel
  have hparse : (parse_seat_person_sense_topology plain_platform (bench_text count) (some "driver")).toOption.map
      (fun topology => topology.pads.length) = some count := by
    unfold parse_seat_person_sense_topology
    rw [require_eq_ok_iff.mpr hgiven, ok_bind, require_eq_ok_iff.mpr hsize, ok_bind, hdecode]
    rcases hcount with rfl | rfl <;> decide +kernel
  obtain ⟨topology, htopology, hlength⟩ := Option.map_eq_some_iff.mp hparse
  refine ⟨topology, ?_, hlength⟩
  generalize parse_seat_person_sense_topology plain_platform (bench_text count) (some "driver") = outcome at *
  cases outcome with
  | error error => cases htopology
  | ok found =>
    cases htopology
    rfl

theorem bench_topology_spec : ∃ topology,
    parse_seat_person_sense_topology plain_platform (bench_text 2) (some "driver") = .ok topology ∧
      weight topology.pads ≠ 0 ∧ ∃ line observation,
        parse_seat_pressure_line plain_platform ⟨"seat-node", topology.seat_id, "seat-pressure-pad-array", 4096⟩ line =
          .ok observation ∧ Matches topology observation := by
  obtain ⟨topology, hok, hlength⟩ := parse_bench_text (.inl rfl)
  obtain ⟨hweight, -, hshort, -⟩ := topology_spec hok
  exact ⟨topology, hok, hweight, hshort (by omega) "seat-node" (by decide)⟩

/-- A topology of nine pads is accepted, but no line that is accepted has its pads. -/
theorem nine_pads_unmatched : ∃ topology,
    parse_seat_person_sense_topology plain_platform (bench_text 9) (some "driver") = .ok topology ∧
      ∀ expected line observation, parse_seat_pressure_line plain_platform expected line = .ok observation →
        ¬Matches topology observation := by
  obtain ⟨topology, hok, hlength⟩ := parse_bench_text (.inr rfl)
  exact ⟨topology, hok, fun expected line observation hparsed => not_matches_of_long (by omega) hparsed⟩

end bench

end velvet.seat_person_sense_body_map
