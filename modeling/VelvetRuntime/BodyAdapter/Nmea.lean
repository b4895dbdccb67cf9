import VelvetRuntime.BodyAdapter.Gnss
import VelvetRuntime.Python.Numeral

open python python.num python.str python.numeral python.except

namespace velvet.gnss_body_adapter

def parse_error (message : String) : Error := ⟨.GnssParseError, message⟩

/-- `1.852`. -/
def KNOTS_TO_KMH : ℚ := 1852 / 1000

section fields

variable [Numerals]

/-- `_number`. -/
def number (raw : List Char) (label : String) : Except Error ℚ :=
  match float_of_text raw with
  | none => .error (parse_error (label ++ " must be numeric"))
  | some (.finite value) => .ok value
  | some _ => .error (parse_error (label ++ " must be finite"))

/-- `_number(raw, label, optional=True)`. -/
def optional_number (raw : List Char) (label : String) : Except Error (Option ℚ) :=
  if raw = [] then .ok none else (number raw label).map some

/-- `_integer(raw, label, default=0)`. -/
def integer (raw : List Char) (label : String) : Except Error Nat :=
  if raw = [] then .ok 0
  else match int_of_text raw with
    | none => .error (parse_error (label ++ " must be an integer"))
    | some value =>
      if value < 0 then .error (parse_error (label ++ " cannot be negative")) else .ok value.toNat

variable [StrUpper]

open StrUpper (upper)

def degree_digits (longitude : Bool) : Nat := if longitude then 3 else 2

/-- The hemispheres of a coordinate: the one in which it is positive, and the other one. -/
def hemispheres (longitude : Bool) : Char × Char := if longitude then ('E', 'W') else ('N', 'S')

def limit (longitude : Bool) : ℚ := if longitude then 180 else 90

/-- `_coordinate` up to its rounding. -/
def exact_coordinate (raw hemisphere : List Char) (longitude : Bool) : Except Error ℚ :=
  if raw = [] ∨ hemisphere = [] then .error (parse_error "NMEA coordinate is incomplete")
  else if raw.length ≤ degree_digits longitude then .error (parse_error "NMEA coordinate is malformed")
  else do
    let degrees ← number (raw.take (degree_digits longitude)) "coordinate degrees"
    let minutes ← number (raw.drop (degree_digits longitude)) "coordinate minutes"
    if ¬(0 ≤ minutes ∧ minutes < 60) then .error (parse_error "NMEA coordinate minutes are invalid")
    else
      let value := degrees + minutes / 60
      let (positive, negative) := hemispheres longitude
      let hemisphere := upper hemisphere
      if hemisphere ≠ [positive] ∧ hemisphere ≠ [negative] then
        .error (parse_error "NMEA coordinate hemisphere is invalid")
      else
        let value := if hemisphere = [negative] then -value else value
        if ¬(-limit longitude ≤ value ∧ value ≤ limit longitude) then
          .error (parse_error "NMEA coordinate is outside geographic bounds")
        else .ok value

/-- `_coordinate`. -/
def coordinate (raw hemisphere : List Char) (longitude : Bool) : Except Error ℚ :=
  (exact_coordinate raw hemisphere longitude).map (num.round 8)

/-- `field or None`. -/
def given (field : List Char) : Option String := if field = [] then none else some (String.ofList field)

variable (fields : List (List Char))

/-- `fields[index]`, where there are as many. -/
def field (index : Nat) : List Char := fields.getD index []

/-- `_parse_gga`. -/
def parse_gga : Except Error NmeaObservation :=
  if fields.length < 10 then .error (parse_error "GGA sentence has too few fields")
  else do
    let fix_quality ← integer (field fields 6) "GGA fix quality"
    let satellites ← integer (field fields 7) "GGA satellites"
    let horizontal_dilution ← optional_number (field fields 8) "GGA HDOP"
    let altitude_m ← optional_number (field fields 9) "GGA altitude"
    let gnss_utc := given (field fields 1)
    if 0 < fix_quality then
      let latitude ← coordinate (field fields 2) (field fields 3) false
      let longitude ← coordinate (field fields 4) (field fields 5) true
      .ok (.gga gnss_utc fix_quality satellites horizontal_dilution altitude_m (some latitude) (some longitude))
    else .ok (.gga gnss_utc fix_quality satellites horizontal_dilution altitude_m none none)

/-- The status of a sentence: `fields[2].upper() if fields[2] else "V"`. -/
def status : List Char := if field fields 2 = [] then ['V'] else upper (field fields 2)

/-- `_parse_rmc`. -/
def parse_rmc : Except Error NmeaObservation :=
  if fields.length < 10 then .error (parse_error "RMC sentence has too few fields")
  else if status fields ≠ ['A'] ∧ status fields ≠ ['V'] then .error (parse_error "RMC status must be A or V")
  else do
    let course_deg ← optional_number (field fields 8) "RMC course"
    let speed_knots ← optional_number (field fields 7) "RMC speed"
    let speed_kmh := speed_knots.map (fun knots => num.round 3 (knots * KNOTS_TO_KMH))
    let gnss_utc := given (field fields 1)
    let gnss_date := given (field fields 9)
    if status fields = ['A'] then
      let latitude ← coordinate (field fields 3) (field fields 4) false
      let longitude ← coordinate (field fields 5) (field fields 6) true
      .ok (.rmc gnss_utc true gnss_date speed_kmh course_deg (some latitude) (some longitude))
    else .ok (.rmc gnss_utc false gnss_date speed_kmh course_deg none none)

end fields

/-- `sentence.rsplit("*", 1)` of a sentence with a star. -/
def rsplit_star (sentence : List Char) : List Char × List Char :=
  ((sentence.reverse.dropWhile (· ≠ '*')).tail.reverse, (sentence.reverse.takeWhile (· ≠ '*')).reverse)

/-- `_split_checksum`. -/
def split_checksum (sentence : List Char) : Except Error (List Char × Option (List Char)) :=
  if '*' ∉ sentence then .ok (sentence, none)
  else if (rsplit_star sentence).2.length ≠ 2 then
    .error (parse_error "NMEA checksum must contain two hexadecimal digits")
  else .ok ((rsplit_star sentence).1, some (rsplit_star sentence).2)

/-- The exclusive or of the code points. -/
def calculated (characters : List Char) : Nat := characters.foldl (fun value c => value ^^^ c.toNat) 0

section sentences

variable [Numerals] [StrUpper]

/-- The comparison of the calculated checksum with the one that is sent. -/
def check_checksum (body : List Char) : Option (List Char) → Except Error Unit
  | none => .ok ()
  | some checksum =>
    match int_of_hex checksum with
    | none => .error (parse_error "NMEA checksum is not hexadecimal")
    | some expected =>
      if (calculated (body.drop 1) : Int) ≠ expected then .error (parse_error "NMEA checksum mismatch") else .ok ()

/-- What the fields of a sentence say. -/
def parse_fields (fields : List (List Char)) : Except Error NmeaObservation :=
  let talker_type := (field fields 0).drop 1
  if talker_type.length < 5 then .error (parse_error "NMEA sentence type is malformed")
  else
    let sentence_type := talker_type.drop (talker_type.length - 3)
    if sentence_type = "GGA".toList then parse_gga fields
    else if sentence_type = "RMC".toList then parse_rmc fields
    else .error (parse_error ("unsupported NMEA sentence type: " ++ String.ofList sentence_type))

/-- `parse_nmea_sentence` of a text. -/
def parse_nmea_sentence (line : List Char) (max_sentence_length : Int) : Except Error NmeaObservation :=
  let sentence := strip line
  if sentence = [] ∨ max_sentence_length < sentence.length then
    .error (parse_error "NMEA sentence is empty or exceeds the configured bound")
  else if sentence.head? ≠ some '$' then .error (parse_error "NMEA sentence must begin with $")
  else do
    let (body, checksum) ← split_checksum sentence
    check_checksum body checksum
    parse_fields (body.splitOn ',')

end sentences

end velvet.gnss_body_adapter
