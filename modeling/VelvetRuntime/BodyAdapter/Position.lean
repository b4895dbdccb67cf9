import VelvetRuntime.BodyAdapter.Nmea

open python python.num python.str python.numeral python.except velvet.body_adapter
open python.str.StrUpper (upper)
open python.numeral.Numerals (decimal)

namespace velvet.gnss_body_adapter

section coordinates

variable [Numerals] [StrUpper] {raw hemisphere : List Char} {longitude : Bool} {value : ℚ}

/-- What `_coordinate` has read when it returns. -/
structure Read (raw hemisphere : List Char) (longitude : Bool) (value degrees minutes : ℚ) : Prop where
  degrees_read : float_of_text (raw.take (degree_digits longitude)) = some (.finite degrees)
  minutes_read : float_of_text (raw.drop (degree_digits longitude)) = some (.finite minutes)
  minutes_bounds : 0 ≤ minutes ∧ minutes < 60
  value_eq : upper hemisphere = [(hemispheres longitude).1] ∧ value = degrees + minutes / 60 ∨
    upper hemisphere = [(hemispheres longitude).2] ∧ value = -(degrees + minutes / 60)
  value_bounds : -limit longitude ≤ value ∧ value ≤ limit longitude

omit [StrUpper] in
theorem number_ok {text : List Char} {label : String} (hok : number text label = .ok value) :
    float_of_text text = some (.finite value) := by
  unfold number at hok
  split at hok
  · cases hok
  · rename_i hread
    cases hok
    exact hread
  · cases hok

omit [Numerals] [StrUpper] in
theorem hemispheres_ne (longitude : Bool) : (hemispheres longitude).1 ≠ (hemispheres longitude).2 := by
  cases longitude <;> decide

theorem exists_read (hok : exact_coordinate raw hemisphere longitude = .ok value) :
    ∃ degrees minutes, Read raw hemisphere longitude value degrees minutes := by
  unfold exact_coordinate at hok
  obtain ⟨-, hok⟩ := guard_eq_ok.mp hok
  obtain ⟨-, hok⟩ := guard_eq_ok.mp hok
  obtain ⟨degrees, hdegrees, hok⟩ := bind_eq_ok.mp hok
  obtain ⟨minutes, hminutes, hok⟩ := bind_eq_ok.mp hok
  obtain ⟨hrange, hok⟩ := guard_eq_ok.mp hok
  obtain ⟨hknown, hok⟩ := guard_eq_ok.mp hok
  obtain ⟨hbounds, hok⟩ := guard_eq_ok.mp hok
  cases hok
  refine ⟨degrees, minutes, number_ok hdegrees, number_ok hminutes, not_not.mp hrange, ?_, not_not.mp hbounds⟩
  by_cases hnegative : upper hemisphere = [(hemispheres longitude).2]
  · exact .inr ⟨hnegative, if_pos hnegative⟩
  · exact .inl ⟨by_contra fun hpositive => hknown ⟨hpositive, hnegative⟩, if_neg hnegative⟩

/-- The degrees of a coordinate are decimal digits, and its minutes decimal digits and points. -/
def DigitColumns (raw : List Char) (longitude : Bool) : Prop :=
  (∀ c ∈ raw.take (degree_digits longitude), (decimal c).isSome = true) ∧
    ∀ c ∈ raw.drop (degree_digits longitude), (decimal c).isSome = true ∨ c = '.'

/-- A coordinate has the magnitude that its columns read without a sign, is positive in one hemisphere and negative in the
other one, and lies within its bounds. -/
structure Sound (raw hemisphere : List Char) (longitude : Bool) (value : ℚ) : Prop where
  magnitude : ∃ (degrees : Nat) (minutes : ℚ), ReadsDigits (raw.take (degree_digits longitude)) degrees ∧
    ReadsUnsigned (raw.drop (degree_digits longitude)) minutes ∧ |value| = degrees + minutes / 60
  positive : upper hemisphere = [(hemispheres longitude).1] → 0 ≤ value
  negative : upper hemisphere = [(hemispheres longitude).2] → value ≤ 0
  bounds : |value| ≤ limit longitude

/-- A coordinate that is returned is sound when its columns hold digits only, and only then. -/
theorem sound_iff_digit_columns (hok : exact_coordinate raw hemisphere longitude = .ok value) :
    Sound raw hemisphere longitude value ↔ DigitColumns raw longitude := by
  constructor
  · intro hsound
    obtain ⟨degrees, minutes, hdegrees, hminutes, -⟩ := hsound.magnitude
    exact ⟨(digits_value_eq_some_iff.mp hdegrees.value_eq).1, fun c hc => hminutes.mem hc⟩
  · rintro ⟨hdegree_columns, hminute_columns⟩
    obtain ⟨degrees, minutes, hread⟩ := exists_read hok
    obtain ⟨number, hdigits, rfl⟩ :=
      (reads_of_float_of_text (fun c hc => .inl (hdegree_columns c hc)) hread.degrees_read).digits hdegree_columns
    have hminutes := reads_of_float_of_text hminute_columns hread.minutes_read
    have hnonneg : (0 : ℚ) ≤ number + minutes / 60 := by
      have hminutes_nonneg := hread.minutes_bounds.1
      positivity
    have hmagnitude : |value| = number + minutes / 60 := by
      rcases hread.value_eq with ⟨-, hvalue⟩ | ⟨-, hvalue⟩
      · rw [hvalue, abs_of_nonneg hnonneg]
      · rw [hvalue, abs_neg, abs_of_nonneg hnonneg]
    refine ⟨⟨number, minutes, hdigits, hminutes, hmagnitude⟩, fun hpositive => ?_, fun hnegative => ?_,
      abs_le.mpr hread.value_bounds⟩
    · rcases hread.value_eq with ⟨-, hvalue⟩ | ⟨hother, -⟩
      · rw [hvalue]
        exact hnonneg
      · rw [hpositive, List.cons.injEq] at hother
        exact absurd hother.1 (hemispheres_ne longitude)
    · rcases hread.value_eq with ⟨hother, -⟩ | ⟨-, hvalue⟩
      · rw [hnegative, List.cons.injEq] at hother
        exact absurd hother.1.symm (hemispheres_ne longitude)
      · rw [hvalue]
        linarith

end coordinates

/-- Whether a sentence reports a fix. -/
def NmeaObservation.has_fix : NmeaObservation → Bool
  | gga _ fix_quality .. => 0 < fix_quality
  | rmc _ active .. => active

def NmeaObservation.latitude : NmeaObservation → Option ℚ
  | gga _ _ _ _ _ latitude _ => latitude
  | rmc _ _ _ _ _ latitude _ => latitude

def NmeaObservation.longitude : NmeaObservation → Option ℚ
  | gga _ _ _ _ _ _ longitude => longitude
  | rmc _ _ _ _ _ _ longitude => longitude

/-- The index of the first of the four fields of a position. -/
def NmeaObservation.position_index : NmeaObservation → Nat
  | gga .. => 2
  | rmc .. => 3

section lines

variable [Numerals] [StrUpper] {line : List Char} {fields : List (List Char)} {max_sentence_length : Int}
  {observation : NmeaObservation}

/-- The fields of the sentence in a line. -/
def line_fields (line : List Char) : List (List Char) :=
  match split_checksum (strip line) with
  | .ok (body, _) => body.splitOn ','
  | .error _ => []

/-- The latitude and the longitude of a sentence with a fix, before they are rounded, with the fields that they are read
from. -/
structure Position (fields : List (List Char)) (observation : NmeaObservation) (latitude longitude : ℚ) : Prop where
  latitude_read : exact_coordinate (field fields observation.position_index)
    (field fields (observation.position_index + 1)) false = .ok latitude
  longitude_read : exact_coordinate (field fields (observation.position_index + 2))
    (field fields (observation.position_index + 3)) true = .ok longitude
  latitude_reported : observation.latitude = some (num.round 8 latitude)
  longitude_reported : observation.longitude = some (num.round 8 longitude)

theorem parse_gga_fix (hok : parse_gga fields = .ok observation) (hfix : observation.has_fix = true) :
    ∃ latitude longitude, Position fields observation latitude longitude := by
  unfold parse_gga at hok
  obtain ⟨-, hok⟩ := guard_eq_ok.mp hok
  obtain ⟨fix_quality, -, hok⟩ := bind_eq_ok.mp hok
  obtain ⟨satellites, -, hok⟩ := bind_eq_ok.mp hok
  obtain ⟨dilution, -, hok⟩ := bind_eq_ok.mp hok
  obtain ⟨altitude, -, hok⟩ := bind_eq_ok.mp hok
  dsimp only at hok
  split at hok
  · obtain ⟨latitude, hlatitude, hok⟩ := bind_eq_ok.mp hok
    obtain ⟨longitude, hlongitude, hok⟩ := bind_eq_ok.mp hok
    obtain ⟨exact_latitude, hexact_latitude, rfl⟩ := map_eq_ok.mp hlatitude
    obtain ⟨exact_longitude, hexact_longitude, rfl⟩ := map_eq_ok.mp hlongitude
    cases hok
    exact ⟨exact_latitude, exact_longitude, hexact_latitude, hexact_longitude, rfl, rfl⟩
  · rename_i hnone
    cases hok
    exact absurd (of_decide_eq_true hfix) hnone

theorem parse_rmc_fix (hok : parse_rmc fields = .ok observation) (hfix : observation.has_fix = true) :
    ∃ latitude longitude, Position fields observation latitude longitude := by
  unfold parse_rmc at hok
  obtain ⟨-, hok⟩ := guard_eq_ok.mp hok
  obtain ⟨-, hok⟩ := guard_eq_ok.mp hok
  obtain ⟨course, -, hok⟩ := bind_eq_ok.mp hok
  obtain ⟨speed, -, hok⟩ := bind_eq_ok.mp hok
  dsimp only at hok
  split at hok
  · obtain ⟨latitude, hlatitude, hok⟩ := bind_eq_ok.mp hok
    obtain ⟨longitude, hlongitude, hok⟩ := bind_eq_ok.mp hok
    obtain ⟨exact_latitude, hexact_latitude, rfl⟩ := map_eq_ok.mp hlatitude
    obtain ⟨exact_longitude, hexact_longitude, rfl⟩ := map_eq_ok.mp hlongitude
    cases hok
    exact ⟨exact_latitude, exact_longitude, hexact_latitude, hexact_longitude, rfl, rfl⟩
  · cases hok
    cases hfix

/-- A line that is accepted with a fix reports the position that its fields say. -/
theorem exists_position (hok : parse_nmea_sentence line max_sentence_length = .ok observation)
    (hfix : observation.has_fix = true) : ∃ latitude longitude, Position (line_fields line) observation latitude longitude := by
  unfold parse_nmea_sentence at hok
  dsimp only at hok
  obtain ⟨-, hok⟩ := guard_eq_ok.mp hok
  obtain ⟨-, hok⟩ := guard_eq_ok.mp hok
  obtain ⟨⟨body, checksum⟩, hsplit, hok⟩ := bind_eq_ok.mp hok
  obtain ⟨-, hok⟩ := check_bind_eq_ok.mp hok
  have hfields : line_fields line = body.splitOn ',' := by
    unfold line_fields
    rw [hsplit]
  rw [hfields]
  unfold parse_fields at hok
  obtain ⟨-, hok⟩ := guard_eq_ok.mp hok
  dsimp only at hok
  split at hok
  · exact parse_gga_fix hok hfix
  · split at hok
    · exact parse_rmc_fix hok hfix
    · cases hok

end lines

section events

/-- The position that a sensor event carries. -/
def event_position (event : SensorEvent) : Option Json × Option Json :=
  (event.inner.lookup "latitude", event.inner.lookup "longitude")

theorem lookup_fields_none {key : String} {entries : List (String × Json)} (hkey : ∀ entry ∈ entries, entry.1 ≠ key) :
    (Fix.fields entries).lookup key = none := by
  rw [List.lookup_eq_none_iff]
  intro entry hentry
  simpa using Ne.symm (hkey entry (List.mem_of_mem_filter hentry))

variable {config : GnssAdapterConfig} {receipt_id : RecordId} {wall monotonic : ℚ} {fix : Fix}
  {observation : NmeaObservation}

theorem has_fix_merge (fix : Fix) (observation : NmeaObservation) :
    (fix.merge observation).has_fix = observation.has_fix := by
  cases observation with
  | gga => rfl
  | rmc => rfl

theorem position_merge (fix : Fix) (observation : NmeaObservation) :
    (fix.merge observation).latitude = observation.latitude ∧
      (fix.merge observation).longitude = observation.longitude := by
  cases observation with
  | gga => exact ⟨rfl, rfl⟩
  | rmc => exact ⟨rfl, rfl⟩

/-- Without a fix an event carries no position. -/
theorem event_position_none (hfix : observation.has_fix = false) :
    event_position (sensor_event config receipt_id wall monotonic (fix.merge observation) observation) = (none, none) := by
  have hmerged := (has_fix_merge fix observation).trans hfix
  have hlookup : ∀ key ∈ ["latitude", "longitude"],
      ((fix.merge observation).inner observation.sentence_type).lookup key = none := by
    intro key hkey
    unfold Fix.inner
    rw [hmerged, if_neg Bool.false_ne_true, List.lookup_append, lookup_fields_none]
    · rcases List.mem_pair.mp hkey with rfl | rfl <;> rfl
    · rcases List.mem_pair.mp hkey with rfl | rfl <;> simp
  exact Prod.ext (hlookup "latitude" (by simp)) (hlookup "longitude" (by simp))

/-- With a fix it carries the position of the observation, whatever was merged before. -/
theorem event_position_some (hfix : observation.has_fix = true) {latitude longitude : ℚ}
    (hlatitude : observation.latitude = some latitude) (hlongitude : observation.longitude = some longitude) :
    event_position (sensor_event config receipt_id wall monotonic (fix.merge observation) observation) =
      (some (float_json latitude), some (float_json longitude)) := by
  have hmerged := (has_fix_merge fix observation).trans hfix
  have hmerge := position_merge fix observation
  unfold event_position sensor_event Fix.inner
  dsimp only
  rw [if_pos hmerged, hmerge.1, hmerge.2, hlatitude, hlongitude]
  exact Prod.ext rfl rfl

end events

section runs

variable [Numerals] [StrUpper]

/-- A call of one of the adapter's operations. -/
inductive Call where
  | observe_line (line : List Char) (now_wall now_monotonic : Option Json) (ambient : Ambient)
  | check_stale (now_wall now_monotonic : Option Json) (ambient : Ambient)
  | mark_failed (reason : Json) (now_wall : Option Json) (ambient : Ambient)

def Call.operation (config : GnssAdapterConfig) : Call → GnssBodyAdapter.Operation
  | observe_line line now_wall now_monotonic ambient =>
    .observe_line (parse_nmea_sentence line config.max_sentence_length) now_wall now_monotonic ambient
  | check_stale now_wall now_monotonic ambient => .check_stale now_wall now_monotonic ambient
  | mark_failed reason now_wall ambient => .mark_failed reason now_wall ambient

/-- The line that a call observes. -/
def Call.line : Call → Option (List Char)
  | observe_line line .. => some line
  | check_stale .. | mark_failed .. => none

/-- The calls one after the other, with what they return. -/
def run (config : GnssAdapterConfig) : GnssBodyAdapter → List Call → List (Call × Except Error Cycle)
  | _, [] => []
  | adapter, call :: calls =>
    (call, (adapter.perform config (call.operation config)).2) ::
      run config (adapter.perform config (call.operation config)).1 calls

/-- What is said of the position in a sensor event: there is none where the line just observed reports no fix, and otherwise
it is that line's. -/
def CarriesPosition (config : GnssAdapterConfig) (call : Call) (event : SensorEvent) : Prop :=
  ∃ line observation, call.line = some line ∧
    parse_nmea_sentence line config.max_sentence_length = .ok observation ∧
    (observation.has_fix = false → event_position event = (none, none)) ∧
    (observation.has_fix = true → ∃ latitude longitude, Position (line_fields line) observation latitude longitude ∧
      event_position event = (some (float_json (num.round 8 latitude)), some (float_json (num.round 8 longitude))))

variable {config : GnssAdapterConfig} {adapter : GnssBodyAdapter}

/-- One call, from any state of the adapter. -/
theorem carries_position_of_perform {call : Call} {cycle : Cycle}
    {event : SensorEvent} (hok : (adapter.perform config (call.operation config)).2 = .ok cycle)
    (hevent : cycle.sensor_event = some event) : CarriesPosition config call event := by
  cases call with
  | observe_line line now_wall now_monotonic ambient =>
    dsimp only [Call.operation, GnssBodyAdapter.perform, GnssBodyAdapter.observe_line] at hok
    split at hok
    · cases hok
    rename_i wall monotonic observation hchecked
    cases hok
    cases hevent
    obtain ⟨_, -, hchecked⟩ := bind_eq_ok.mp hchecked
    obtain ⟨_, -, hchecked⟩ := bind_eq_ok.mp hchecked
    obtain ⟨parsed, hparsed, hchecked⟩ := bind_eq_ok.mp hchecked
    cases hchecked
    refine ⟨line, observation, rfl, hparsed, event_position_none, fun hfix => ?_⟩
    obtain ⟨latitude, longitude, hposition⟩ := exists_position hparsed hfix
    exact ⟨latitude, longitude, hposition,
      event_position_some hfix hposition.latitude_reported hposition.longitude_reported⟩
  | check_stale now_wall now_monotonic ambient =>
    dsimp only [Call.operation, GnssBodyAdapter.perform, GnssBodyAdapter.check_stale] at hok
    split at hok
    · cases hok
    · cases hok
      cases hevent
    · split at hok
      · cases hok
        cases hevent
      · cases hok
        cases hevent
  | mark_failed reason now_wall ambient =>
    dsimp only [Call.operation, GnssBodyAdapter.perform, GnssBodyAdapter.mark_failed] at hok
    split at hok
    · cases hok
    · cases hok
      cases hevent

theorem carries_position_of_run {calls : List Call}
    {answered : Call × Except Error Cycle} (hanswered : answered ∈ run config adapter calls) {cycle : Cycle}
    {event : SensorEvent} (hok : answered.2 = .ok cycle) (hevent : cycle.sensor_event = some event) :
    CarriesPosition config answered.1 event := by
  induction calls generalizing adapter with
  | nil => cases hanswered
  | cons call calls ih =>
    rcases List.mem_cons.mp hanswered with rfl | hrest
    · exact carries_position_of_perform hok hevent
    · exact ih hrest

/-- The position of a line with a fix is sound, latitude and longitude, when its columns hold digits only, and only then;
and over every run an event carries a position only where the line just observed reports a fix, and that line's position. -/
theorem position_sound_iff :
    (∀ (line : List Char) (max_sentence_length : Int) (observation : NmeaObservation),
      parse_nmea_sentence line max_sentence_length = .ok observation → observation.has_fix = true →
      ∃ latitude longitude, Position (line_fields line) observation latitude longitude ∧
        (Sound (field (line_fields line) observation.position_index)
            (field (line_fields line) (observation.position_index + 1)) false latitude ∧
          Sound (field (line_fields line) (observation.position_index + 2))
            (field (line_fields line) (observation.position_index + 3)) true longitude ↔
          DigitColumns (field (line_fields line) observation.position_index) false ∧
            DigitColumns (field (line_fields line) (observation.position_index + 2)) true)) ∧
      ∀ (config : GnssAdapterConfig) (calls : List Call) (call : Call) (cycle : Cycle) (event : SensorEvent),
        (call, .ok cycle) ∈ run config .initial calls → cycle.sensor_event = some event →
        CarriesPosition config call event := by
  refine ⟨fun line max_sentence_length observation hok hfix => ?_, fun config calls call cycle event hanswered hevent => ?_⟩
  · obtain ⟨latitude, longitude, hposition⟩ := exists_position hok hfix
    exact ⟨latitude, longitude, hposition, and_congr (sound_iff_digit_columns hposition.latitude_read)
      (sound_iff_digit_columns hposition.longitude_read)⟩
  · exact carries_position_of_run hanswered rfl hevent

end runs

section sample

def northern : List Char := "$GPRMC,1,A,-930.0,N,01131.000,E,,,2".toList

/-- Degrees with a sign: a northern latitude that is negative. -/
theorem negative_north_accepted :
    letI := Numerals.ascii
    letI := StrUpper.ascii
    ∃ observation latitude longitude, parse_nmea_sentence northern 160 = .ok observation ∧ observation.has_fix = true ∧
      Position (line_fields northern) observation latitude longitude ∧
      field (line_fields northern) (observation.position_index + 1) = ['N'] ∧ latitude = -17 / 2 ∧
      ¬Sound (field (line_fields northern) observation.position_index)
        (field (line_fields northern) (observation.position_index + 1)) false latitude := by
  let := Numerals.ascii
  let := StrUpper.ascii
  have hsentence : parse_nmea_sentence northern 160 =
      .ok (.rmc (some "1") true (some "2") none none (some (-17 / 2)) (some (1151666667 / 100000000))) := by
    decide +kernel
  obtain ⟨latitude, longitude, hposition⟩ := exists_position hsentence rfl
  have hexact : exact_coordinate (field (line_fields northern) 3) (field (line_fields northern) 4) false =
      .ok (-17 / 2) := by
    decide +kernel
  have hlatitude : latitude = -17 / 2 := Except.ok.inj (hposition.latitude_read.symm.trans hexact)
  refine ⟨_, latitude, longitude, hsentence, rfl, hposition, by decide, hlatitude, fun hsound => ?_⟩
  have hnonneg := hsound.positive (by decide)
  rw [hlatitude] at hnonneg
  norm_num at hnonneg

end sample

end velvet.gnss_body_adapter
