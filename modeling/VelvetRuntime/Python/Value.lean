import VelvetRuntime.Python.JsonCanonical

open python.num python.json

namespace python

/-- A Python object that is not JSON data, such as a set: what `json.dumps` writes in its place if it does not refuse
it, the name of its type if it cannot be hashed, and whether it counts as true. -/
structure Foreign where
  written : Option Json
  unhashable : Option String
  truthy : Bool

/-- A key of a mapping: text, or another object, which is written as some text. -/
inductive MappingKey where
  | text (value : String)
  | other (str : String)
  deriving DecidableEq

/-- `str(key)`. -/
def MappingKey.str : MappingKey → String
  | text value => value
  | other str => str

/-- A Python value. A mapping that is not a dict with text keys is one by its entries, and foreign otherwise. -/
inductive PyObject where
  | null
  | bool (value : Bool)
  | int (value : Int)
  | float (value : JsonFloat)
  | text (value : String)
  | list (values : List PyObject)
  | tuple (values : List PyObject)
  | mapping (entries : List (String × PyObject))
  | keyed (entries : List (MappingKey × PyObject)) (object : Foreign)
  | foreign (object : Foreign)

namespace PyObject

section encoding

variable (leaf : Foreign → Option Json)

mutual

/-- The JSON data that a value is written as, where `leaf` says what becomes of what is no JSON data. A float that is
not finite is refused, and a tuple is a list. -/
def encode_with : PyObject → Option Json
  | null => some .null
  | bool value => some (.bool value)
  | int value => some (.int value)
  | float value => if is_finite value then some (.float value) else none
  | text value => some (.text value)
  | list values | tuple values => (encode_values values).map Json.list
  | mapping entries => (encode_entries entries).map Json.object
  | keyed _ object | foreign object => leaf object

def encode_values : List PyObject → Option (List Json)
  | [] => some []
  | value :: rest => (encode_with value).bind (fun first => (encode_values rest).map (first :: ·))

def encode_entries : List (String × PyObject) → Option (List (String × Json))
  | [] => some []
  | (key, value) :: rest =>
    (encode_with value).bind (fun first => (encode_entries rest).map ((key, first) :: ·))

end

end encoding

/-- What `json.dumps(value, allow_nan=False)` writes; nothing when it raises. -/
def written (value : PyObject) : Option Json := value.encode_with Foreign.written

/-- The JSON data that the value is, lists standing for tuples; nothing when it is more than that. -/
def json_data (value : PyObject) : Option Json := value.encode_with (fun _ => none)

mutual

/-- A decoded value. -/
def of_json : Json → PyObject
  | .null => null
  | .bool value => bool value
  | .int value => int value
  | .float value => float value
  | .text value => text value
  | .list values => list (of_json_values values)
  | .object entries => mapping (of_json_entries entries)

def of_json_values : List Json → List PyObject
  | [] => []
  | value :: rest => of_json value :: of_json_values rest

def of_json_entries : List (String × Json) → List (String × PyObject)
  | [] => []
  | (key, value) :: rest => (key, of_json value) :: of_json_entries rest

end

theorem of_json_entries_eq_map (entries : List (String × Json)) :
    of_json_entries entries = entries.map (fun entry => (entry.1, of_json entry.2)) := by
  induction entries with
  | nil => rfl
  | cons entry rest ih => exact congrArg (_ :: ·) ih

mutual

/-- The type that `hash(value)` complains about, if it does. -/
def unhashable : PyObject → Option String
  | list _ => some "list"
  | mapping _ => some "dict"
  | tuple values => unhashable_item values
  | keyed _ object | foreign object => object.unhashable
  | null | bool _ | int _ | float _ | text _ => none

def unhashable_item : List PyObject → Option String
  | [] => none
  | value :: rest => (unhashable value).or (unhashable_item rest)

end

/-- `value is True`. -/
def is_true : PyObject → Bool
  | bool value => value
  | _ => false

/-- `bool(value)`. -/
def truthy : PyObject → Bool
  | null => false
  | bool value => value
  | int value => value ≠ 0
  | float value => value ≠ .finite 0
  | text value => value ≠ ""
  | list values | tuple values => !values.isEmpty
  | mapping entries => !entries.isEmpty
  | keyed _ object | foreign object => object.truthy

mutual

/-- JSON data is written as what it is. -/
theorem written_of_json_data : ∀ {value : PyObject} {data : Json},
    value.json_data = some data → value.written = some data
  | null, _, hdata => hdata
  | bool _, _, hdata => hdata
  | int _, _, hdata => hdata
  | float _, _, hdata => hdata
  | text _, _, hdata => hdata
  | list values, _, hdata => by
    obtain ⟨found, hfound, hsame⟩ := Option.map_eq_some_iff.mp hdata
    exact Option.map_eq_some_iff.mpr ⟨found, written_values_of_json_data hfound, hsame⟩
  | tuple values, _, hdata => by
    obtain ⟨found, hfound, hsame⟩ := Option.map_eq_some_iff.mp hdata
    exact Option.map_eq_some_iff.mpr ⟨found, written_values_of_json_data hfound, hsame⟩
  | mapping entries, _, hdata => by
    obtain ⟨found, hfound, hsame⟩ := Option.map_eq_some_iff.mp hdata
    exact Option.map_eq_some_iff.mpr ⟨found, written_entries_of_json_data hfound, hsame⟩
  | keyed _ _, _, hdata => nomatch hdata
  | foreign _, _, hdata => nomatch hdata

theorem written_values_of_json_data : ∀ {values : List PyObject} {data : List Json},
    encode_values (fun _ => none) values = some data → encode_values Foreign.written values = some data
  | [], _, hdata => hdata
  | value :: rest, _, hdata => by
    obtain ⟨first, hfirst, hrest⟩ := Option.bind_eq_some_iff.mp hdata
    obtain ⟨others, hothers, hsame⟩ := Option.map_eq_some_iff.mp hrest
    exact Option.bind_eq_some_iff.mpr ⟨first, written_of_json_data hfirst,
      Option.map_eq_some_iff.mpr ⟨others, written_values_of_json_data hothers, hsame⟩⟩

theorem written_entries_of_json_data : ∀ {entries : List (String × PyObject)} {data : List (String × Json)},
    encode_entries (fun _ => none) entries = some data → encode_entries Foreign.written entries = some data
  | [], _, hdata => hdata
  | (key, value) :: rest, _, hdata => by
    obtain ⟨first, hfirst, hrest⟩ := Option.bind_eq_some_iff.mp hdata
    obtain ⟨others, hothers, hsame⟩ := Option.map_eq_some_iff.mp hrest
    exact Option.bind_eq_some_iff.mpr ⟨first, written_of_json_data hfirst,
      Option.map_eq_some_iff.mpr ⟨others, written_entries_of_json_data hothers, hsame⟩⟩

end

/-- Whether the value is JSON data: its floats are finite, and nothing in it is foreign. -/
def IsData (value : PyObject) : Prop := value.json_data.isSome = true

theorem isData_iff {value : PyObject} : value.IsData ↔ ∃ data, value.json_data = some data :=
  Option.isSome_iff_exists

section encoded

variable {leaf : Foreign → Option Json} {entries : List (String × PyObject)} {found : List (String × Json)}

theorem encode_entries_keys (hfound : encode_entries leaf entries = some found) :
    found.map Prod.fst = entries.map Prod.fst := by
  induction entries generalizing found with
  | nil => cases hfound; rfl
  | cons entry rest ih =>
    obtain ⟨first, hfirst, hrest⟩ := Option.bind_eq_some_iff.mp hfound
    obtain ⟨others, hothers, rfl⟩ := Option.map_eq_some_iff.mp hrest
    exact congrArg (entry.1 :: ·) (ih hothers)

/-- Every value of a mapping is encoded under its key. -/
theorem encode_entries_mem (hfound : encode_entries leaf entries = some found) {key : String} {value : PyObject}
    (hmem : (key, value) ∈ entries) : ∃ data, value.encode_with leaf = some data ∧ (key, data) ∈ found := by
  induction entries generalizing found with
  | nil => cases hmem
  | cons entry rest ih =>
    obtain ⟨first, hfirst, hrest⟩ := Option.bind_eq_some_iff.mp hfound
    obtain ⟨others, hothers, rfl⟩ := Option.map_eq_some_iff.mp hrest
    rcases List.mem_cons.mp hmem with rfl | hlater
    · exact ⟨first, hfirst, List.mem_cons_self⟩
    · obtain ⟨data, hdata, hdata_mem⟩ := ih hothers hlater
      exact ⟨data, hdata, List.mem_cons_of_mem _ hdata_mem⟩

end encoded

section data

theorem isData_bool (value : Bool) : (bool value).IsData := rfl

theorem isData_int (value : Int) : (int value).IsData := rfl

theorem isData_text (value : String) : (text value).IsData := rfl

theorem isData_float_iff (value : JsonFloat) : (float value).IsData ↔ is_finite value = true := by
  unfold IsData json_data encode_with
  cases value with
  | finite q => exact iff_of_true rfl rfl
  | inf | neg_inf | nan => exact iff_of_false (by simp [is_finite]) (by simp [is_finite])

theorem isData_finite (value : ℚ) : (float (.finite value)).IsData := (isData_float_iff _).mpr rfl

variable (values : List PyObject)

theorem isData_values_iff :
    (encode_values (fun _ => none) values).isSome = true ↔ ∀ value ∈ values, value.IsData := by
  induction values with
  | nil => simp [encode_values]
  | cons value rest ih =>
    rw [List.forall_mem_cons, ← ih, isData_iff, encode_values, Option.isSome_iff_exists, Option.isSome_iff_exists]
    constructor
    · rintro ⟨found, hfound⟩
      obtain ⟨first, hfirst, hrest⟩ := Option.bind_eq_some_iff.mp hfound
      obtain ⟨others, hothers, -⟩ := Option.map_eq_some_iff.mp hrest
      exact ⟨⟨first, hfirst⟩, others, hothers⟩
    · rintro ⟨⟨first, hfirst⟩, others, hothers⟩
      exact ⟨_, Option.bind_eq_some_iff.mpr ⟨first, hfirst, Option.map_eq_some_iff.mpr ⟨others, hothers, rfl⟩⟩⟩

theorem isData_list_iff : (list values).IsData ↔ ∀ value ∈ values, value.IsData := by
  rw [← isData_values_iff]
  unfold IsData json_data encode_with
  rw [Option.isSome_map]

end data

/-- Whether a decoded value equals the value, lists standing for tuples and whatever the order of the entries. -/
def Equals (value : PyObject) (decoded : Json) : Prop := ∃ data, value.json_data = some data ∧ Same data decoded

end PyObject

end python
