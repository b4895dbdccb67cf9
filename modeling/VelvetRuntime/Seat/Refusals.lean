import VelvetRuntime.Seat.Bridge

open python python.num python.str python.json python.except velvet.body_adapter velvet.seat
  velvet.seat_presence_node velvet.seat_pressure_pad velvet.seat_heartbeat_signal

namespace velvet.seat

/-- Text that the adapters take as the detail of a rejection or the reason of a failure. -/
def Reportable (text : String) : Prop := ¬Blank text ∧ is_text text = true

instance (text : String) : Decidable (Reportable text) := inferInstanceAs (Decidable (_ ∧ _))

theorem required_expected_text_of_reportable {text : String} (htext : Reportable text) (label : String) :
    required_expected_text label (.text text) = .ok (stripped text) := by
  refine if_neg ?_
  rintro (hblank | hinvalid)
  · exact htext.1 hblank
  · rw [htext.2] at hinvalid
    cases hinvalid

namespace LineFormat

variable (format : LineFormat) (platform : Platform)

/-- An error of the parser of a format: it is of the format's kind, or a number is too large for a float. -/
def Refuses (error : Error) : Prop := error.kind = format.error_kind ∨ error.kind = .OverflowError

@[simp] theorem refuses_error (message : String) : format.Refuses (format.error message) := .inl rfl

@[simp] theorem decode_unique_document_raises (line : Line) (max_line_bytes : Int) :
    RaisesOnly format.Refuses (format.decode_unique_document platform line max_line_bytes) := by
  unfold decode_unique_document
  repeat' split
  all_goals simp

@[simp] theorem check_raises (condition : Prop) [Decidable condition] (message : String) :
    RaisesOnly format.Refuses (format.check condition message) := by
  unfold LineFormat.check require
  split <;> simp

@[simp] theorem check_fields_raises (document : List (String × Json)) :
    RaisesOnly format.Refuses (format.check_fields platform document) := by
  unfold check_fields
  dsimp only
  repeat' split
  all_goals simp

variable (payload : List (String × Json)) (key : String)

@[simp] theorem required_id_raises : RaisesOnly format.Refuses (format.required_id payload key) := by
  unfold required_id
  repeat' split
  all_goals simp

@[simp] theorem required_text_raises : RaisesOnly format.Refuses (format.required_text payload key) := by
  unfold required_text
  repeat' split
  all_goals simp

@[simp] theorem optional_text_raises : RaisesOnly format.Refuses (format.optional_text payload key) := by
  unfold LineFormat.optional_text
  repeat' split
  all_goals simp

@[simp] theorem required_bool_raises : RaisesOnly format.Refuses (format.required_bool payload key) := by
  unfold required_bool
  split <;> simp

@[simp] theorem required_integer_raises (minimum maximum : Int) :
    RaisesOnly format.Refuses (format.required_integer payload key minimum maximum) := by
  unfold required_integer
  repeat' split
  all_goals simp

@[simp] theorem optional_integer_raises (minimum maximum : Int) :
    RaisesOnly format.Refuses (format.optional_integer payload key minimum maximum) := by
  unfold optional_integer
  repeat' split
  all_goals simp

variable (minimum maximum : ℚ)

@[simp] theorem bounded_float_raises (value : Json) (type_error : String) :
    RaisesOnly format.Refuses (format.bounded_float key minimum maximum value type_error) := by
  unfold bounded_float
  repeat' split
  all_goals simp
  exact .inr rfl

@[simp] theorem required_finite_number_raises :
    RaisesOnly format.Refuses (format.required_finite_number payload key minimum maximum) :=
  format.bounded_float_raises key minimum maximum _ _

@[simp] theorem optional_finite_number_raises :
    RaisesOnly format.Refuses (format.optional_finite_number payload key minimum maximum) := by
  unfold optional_finite_number
  split <;> simp

@[simp] theorem build_raises (header : Header) (document : List (String × Json)) :
    RaisesOnly format.Refuses (format.build header document) := by
  unfold build
  simp

/-- What the caller expects has passed the checks of a configuration. -/
def Configured (expected : Expected) : Prop :=
  is_id expected.node_id = true ∧ is_id expected.seat_id = true ∧ Reportable expected.sensor_model

@[simp] theorem header_raises {expected : Expected} (hexpected : Configured expected)
    (document : List (String × Json)) : RaisesOnly format.Refuses (format.header platform expected document) := by
  obtain ⟨hnode, hseat, hmodel⟩ := hexpected
  unfold header validated_expected_id
  simp [hnode, hseat, required_expected_text_of_reportable hmodel]

end LineFormat

variable {platform : Platform} {expected : Expected}

variable (pressure_mode : PressureMode)

end velvet.seat
