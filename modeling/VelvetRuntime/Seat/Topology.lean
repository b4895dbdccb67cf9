import VelvetRuntime.Seat.BodyMap

open python python.num python.str python.json python.except velvet.body_adapter velvet.seat

namespace velvet.seat_person_sense_body_map

def SEAT_PERSON_SENSE_TOPOLOGY_SCHEMA : String := "velvet.seat_person_sense_topology.v1"

def ALLOWED_ROOT_FIELDS : List String :=
  ["schema", "topology_id", "seat_id", "vehicle_profile", "calibration_version", "pads"]

def ALLOWED_PAD_FIELDS : List String := ["pad_id", "role", "surface", "side", "movement_weight"]

section fields

variable (payload : List (String × Json)) (key : String)

/-- `_required_id`. -/
def required_id : Except Error { value : String // is_id value = true } :=
  match entry_of payload key with
  | some (.text value) =>
    if hvalue : is_id value = true then .ok ⟨value, hvalue⟩
    else .error (topology_error (key ++ " must be a bounded identifier"))
  | _ => .error (topology_error (key ++ " must be a bounded identifier"))

/-- `_required_text`. -/
def required_text : Except Error String :=
  match entry_of payload key with
  | some (.text value) =>
    if is_text value then .ok value else .error (topology_error (key ++ " must be bounded printable ASCII text"))
  | _ => .error (topology_error (key ++ " must be bounded printable ASCII text"))

/-- The bounds of a number. -/
def check_bounds (minimum maximum value : ℚ) : Except Error ℚ :=
  if minimum ≤ value ∧ value ≤ maximum then .ok value
  else .error (topology_error (key ++ " is outside supported bounds"))

/-- `_required_finite_number`. The conversion of an integer that is too large raises an error of its own. -/
def required_finite_number (minimum maximum : ℚ) : Except Error ℚ :=
  match entry_of payload key with
  | some (.int value) =>
    match float_of_int value with
    | none => .error ⟨.OverflowError, "int too large to convert to float"⟩
    | some rounded => check_bounds key minimum maximum rounded
  | some (.float (.finite value)) => check_bounds key minimum maximum value
  | some (.float _) => .error (topology_error (key ++ " is outside supported bounds"))
  | _ => .error (topology_error (key ++ " must be numeric"))

end fields

def role_of_text (text : String) : Option PadRole :=
  [PadRole.MAIN_LOAD, .SIDE_BOLSTER, .EDGE_MOTION].find? (fun role => role.text = text)

def side_of_text (text : String) : Option PadSide :=
  [PadSide.LEFT, .RIGHT, .CENTER, .BOTH, .NA].find? (fun side => side.text = text)

/-- A value that is found, or else an error. -/
def found_or {α : Type} (error : Error) : Option α → Except Error α
  | some value => .ok value
  | none => .error error

/-- The check that an object has the allowed fields and no others, by what it is called. -/
def check_fields (platform : Platform) (label : String) (allowed : List String) (entries : List (String × Json)) :
    Except Error Unit := do
  let keys := entries.map Prod.fst
  let unknown := keys.filter (· ∉ allowed)
  let missing := allowed.filter (· ∉ keys)
  require (unknown = []) (topology_error
    (label ++ " has unsupported fields: " ++ platform.repr_texts (LineFormat.sorted_texts unknown)))
  require (missing = []) (topology_error
    (label ++ " is missing fields: " ++ platform.repr_texts (LineFormat.sorted_texts missing)))

section pads

variable (platform : Platform)

/-- `_parse_binding`. -/
def parse_binding (index : Nat) : Json → Except Error SeatPadBinding
  | .object pad => do
    check_fields platform ("topology pad " ++ toString index) ALLOWED_PAD_FIELDS pad
    let role ← required_text pad "role"
    let role ← found_or (topology_error "unsupported person-sense pad role") (role_of_text (upper role))
    let side ← required_text pad "side"
    let side ← found_or (topology_error "unsupported person-sense pad side") (side_of_text (upper side))
    let pad_id ← required_id pad "pad_id"
    let surface ← required_id pad "surface"
    let movement_weight ← required_finite_number pad "movement_weight" 0 100
    pure ⟨pad_id, role, surface, side, movement_weight⟩
  | _ => .error (topology_error ("topology pad " ++ toString index ++ " must be an object"))

/-- The loop over the pads, which have different ids. -/
def parse_bindings (index : Nat) (seen : List String) : List Json → Except Error (List SeatPadBinding)
  | [] => .ok []
  | raw :: rest => do
    let binding ← parse_binding platform index raw
    require (binding.pad_id ∉ seen) (topology_error ("duplicate topology pad_id: " ++ binding.pad_id))
    let bindings ← parse_bindings (index + 1) (seen ++ [binding.pad_id]) rest
    pure (binding :: bindings)

variable {values : List Json} {bindings : List SeatPadBinding} {index : Nat}

theorem parse_bindings_distinct {seen : List String}
    (hok : parse_bindings platform index seen values = .ok bindings) :
    (bindings.map SeatPadBinding.pad_id).Nodup ∧ ∀ pad_id ∈ bindings.map SeatPadBinding.pad_id, pad_id ∉ seen := by
  induction values generalizing index seen bindings with
  | nil =>
    cases hok
    exact ⟨List.nodup_nil, nofun⟩
  | cons raw rest ih =>
    obtain ⟨binding, -, hok⟩ := bind_eq_ok.mp hok
    obtain ⟨hfresh, hok⟩ := check_bind_eq_ok.mp hok
    obtain ⟨others, hothers, hok⟩ := bind_eq_ok.mp hok
    cases hok
    obtain ⟨hnodup, hunseen⟩ := ih hothers
    rw [List.map_cons, List.nodup_cons, List.forall_mem_cons]
    refine ⟨⟨fun hmem => ?_, hnodup⟩, require_eq_ok_iff.mp hfresh, fun pad_id hmem hseen => ?_⟩
    · exact hunseen _ hmem (List.mem_append_right _ List.mem_cons_self)
    · exact hunseen pad_id hmem (List.mem_append_left _ hseen)

/-- The pads of a topology, with the checks that follow the loop. -/
def bindings_of (values : List Json) : Except Error { pads : List SeatPadBinding //
    (pads.map SeatPadBinding.pad_id).Nodup ∧ 0 < (pads.map SeatPadBinding.movement_weight).sum } :=
  match hbindings : parse_bindings platform 0 [] values with
  | .error error => .error error
  | .ok bindings =>
    if bindings.all (fun binding => binding.role ≠ .MAIN_LOAD) then
      .error (topology_error "person-sense topology requires at least one MAIN_LOAD pad")
    else if hweight : (bindings.map SeatPadBinding.movement_weight).sum ≤ 0 then
      .error (topology_error "person-sense topology requires positive movement weight")
    else .ok ⟨bindings, (parse_bindings_distinct platform hbindings).1, not_le.mp hweight⟩

/-- The object that a text is. -/
def decode_document (text : String) : Except Error (List (String × Json)) :=
  match loads platform.reader text with
  | none => .error (topology_error ("topology document is not valid unique-key JSON: " ++ platform.json_error text))
  | some (.object document) => .ok document
  | some _ => .error (topology_error "topology root must be an object")

/-- The list of one to thirty-two pads. -/
def raw_pads_of (document : List (String × Json)) : Except Error (List Json) :=
  match entry_of document "pads" with
  | some (.list values) =>
    if 1 ≤ values.length ∧ values.length ≤ 32 then .ok values
    else .error (topology_error "topology pads must contain between one and thirty-two entries")
  | _ => .error (topology_error "topology pads must contain between one and thirty-two entries")

/-- The seat of a topology is the one that is expected, where one is. -/
def check_seat (seat_id : String) : Option String → Except Error Unit
  | none => .ok ()
  | some expected_seat_id => do
    let expected ← LineFormat.validated_expected_id expected_seat_id "expected_seat_id"
    require (seat_id = expected) (topology_error "topology seat does not match configured seat")

/-- `parse_seat_person_sense_topology` of a text. -/
def parse_seat_person_sense_topology (text : String) (expected_seat_id : Option String) :
    Except Error SeatPersonSenseTopology := do
  require (¬Blank text) (topology_error "topology document must be non-empty text")
  require (text.toUTF8.size ≤ 32768) (topology_error "topology document exceeds size bound")
  let document ← decode_document platform text
  check_fields platform "topology" ALLOWED_ROOT_FIELDS document
  require ((entry_of document "schema").getD .null |>.is_text SEAT_PERSON_SENSE_TOPOLOGY_SCHEMA)
    (topology_error "unsupported person-sense topology schema")
  let seat_id ← required_id document "seat_id"
  check_seat seat_id expected_seat_id
  let values ← raw_pads_of document
  let pads ← bindings_of platform values
  let topology_id ← required_id document "topology_id"
  let vehicle_profile ← required_text document "vehicle_profile"
  let calibration_version ← required_text document "calibration_version"
  pure {
    topology_id
    seat_id
    vehicle_profile
    calibration_version
    pads
    seat_id_valid := seat_id.2
    pads_distinct := pads.2.1
    weight_positive := pads.2.2 }

/-- What the parser has checked of a pad. -/
structure SeatPadBinding.Admitted (binding : SeatPadBinding) : Prop where
  pad_id_valid : is_id binding.pad_id = true
  weight_bounds : 0 ≤ binding.movement_weight ∧ binding.movement_weight ≤ 100

theorem required_finite_number_bounds {payload : List (String × Json)} {key : String} {minimum maximum value : ℚ}
    (hok : required_finite_number payload key minimum maximum = .ok value) : minimum ≤ value ∧ value ≤ maximum := by
  have hchecked : ∀ found, check_bounds key minimum maximum found = .ok value → minimum ≤ value ∧ value ≤ maximum := by
    intro found hfound
    unfold check_bounds at hfound
    split at hfound
    · rename_i hbounds
      cases hfound
      exact hbounds
    · cases hfound
  unfold required_finite_number at hok
  split at hok
  · split at hok
    · cases hok
    · exact hchecked _ hok
  · exact hchecked _ hok
  · cases hok
  · cases hok

variable {platform}

theorem parse_binding_admitted {raw : Json} {binding : SeatPadBinding}
    (hok : parse_binding platform index raw = .ok binding) : binding.Admitted := by
  unfold parse_binding at hok
  split at hok
  · obtain ⟨-, hok⟩ := check_bind_eq_ok.mp hok
    obtain ⟨_, -, hok⟩ := bind_eq_ok.mp hok
    obtain ⟨_, -, hok⟩ := bind_eq_ok.mp hok
    obtain ⟨_, -, hok⟩ := bind_eq_ok.mp hok
    obtain ⟨_, -, hok⟩ := bind_eq_ok.mp hok
    obtain ⟨pad_id, -, hok⟩ := bind_eq_ok.mp hok
    obtain ⟨_, -, hok⟩ := bind_eq_ok.mp hok
    obtain ⟨movement_weight, hweight, hok⟩ := bind_eq_ok.mp hok
    cases hok
    exact ⟨pad_id.2, required_finite_number_bounds hweight⟩
  · cases hok

theorem parse_bindings_admitted {seen : List String}
    (hok : parse_bindings platform index seen values = .ok bindings) :
    (∀ binding ∈ bindings, binding.Admitted) ∧ bindings.length = values.length := by
  induction values generalizing index seen bindings with
  | nil =>
    cases hok
    exact ⟨nofun, rfl⟩
  | cons raw rest ih =>
    obtain ⟨binding, hbinding, hok⟩ := bind_eq_ok.mp hok
    obtain ⟨-, hok⟩ := check_bind_eq_ok.mp hok
    obtain ⟨others, hothers, hok⟩ := bind_eq_ok.mp hok
    cases hok
    obtain ⟨hadmitted, hlength⟩ := ih hothers
    exact ⟨List.forall_mem_cons.mpr ⟨parse_binding_admitted hbinding, hadmitted⟩, congrArg (· + 1) hlength⟩

theorem bindings_of_admitted {pads : { pads : List SeatPadBinding //
      (pads.map SeatPadBinding.pad_id).Nodup ∧ 0 < (pads.map SeatPadBinding.movement_weight).sum }}
    (hok : bindings_of platform values = .ok pads) :
    (∀ binding ∈ pads.1, binding.Admitted) ∧ pads.1.length = values.length := by
  unfold bindings_of at hok
  split at hok
  · cases hok
  · rename_i bindings hbindings
    split at hok
    · cases hok
    · split at hok
      · cases hok
      · cases hok
        exact parse_bindings_admitted hbindings

/-- What the parser has checked of a topology, beside what every topology carries. -/
structure SeatPersonSenseTopology.Admitted (topology : SeatPersonSenseTopology) : Prop where
  pads_admitted : ∀ binding ∈ topology.pads, binding.Admitted
  pad_count : 1 ≤ topology.pads.length ∧ topology.pads.length ≤ 32

theorem parse_seat_person_sense_topology_admitted {text : String} {expected_seat_id : Option String}
    {topology : SeatPersonSenseTopology}
    (hok : parse_seat_person_sense_topology platform text expected_seat_id = .ok topology) : topology.Admitted := by
  unfold parse_seat_person_sense_topology at hok
  obtain ⟨-, hok⟩ := check_bind_eq_ok.mp hok
  obtain ⟨-, hok⟩ := check_bind_eq_ok.mp hok
  obtain ⟨document, -, hok⟩ := bind_eq_ok.mp hok
  obtain ⟨-, hok⟩ := check_bind_eq_ok.mp hok
  obtain ⟨-, hok⟩ := check_bind_eq_ok.mp hok
  obtain ⟨seat_id, -, hok⟩ := bind_eq_ok.mp hok
  obtain ⟨-, hok⟩ := check_bind_eq_ok.mp hok
  obtain ⟨values, hvalues, hok⟩ := bind_eq_ok.mp hok
  obtain ⟨pads, hpads, hok⟩ := bind_eq_ok.mp hok
  obtain ⟨_, -, hok⟩ := bind_eq_ok.mp hok
  obtain ⟨_, -, hok⟩ := bind_eq_ok.mp hok
  obtain ⟨_, -, hok⟩ := bind_eq_ok.mp hok
  cases hok
  obtain ⟨hadmitted, hlength⟩ := bindings_of_admitted hpads
  refine ⟨hadmitted, ?_⟩
  change 1 ≤ pads.1.length ∧ pads.1.length ≤ 32
  rw [hlength]
  unfold raw_pads_of at hvalues
  split at hvalues
  · split at hvalues
    · rename_i hcount
      cases hvalues
      exact hcount
    · cases hvalues
  · cases hvalues

end pads

end velvet.seat_person_sense_body_map
