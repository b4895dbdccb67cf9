import VelvetRuntime.Python.Num

namespace python

/-- A value of a decoded JSON document. -/
inductive Json where
  | null
  | bool (value : Bool)
  | int (value : Int)
  | float (value : num.JsonFloat)
  | text (value : String)
  | list (values : List Json)
  | object (entries : List (String × Json))

namespace Json

/-- `type(value).__name__`. -/
def type_name : Json → String
  | null => "NoneType"
  | bool _ => "bool"
  | int _ => "int"
  | float _ => "float"
  | text _ => "str"
  | list _ => "list"
  | object _ => "dict"

/-- The values that `for item in value` goes through: the characters of text, and the keys of a mapping. -/
def iterate : Json → Option (List Json)
  | text value => some (value.toList.map (fun c => text (String.ofList [c])))
  | list values => some values
  | object entries => some (entries.map (fun entry => text entry.1))
  | _ => none

/-- Whether a set can hold the value. -/
def hashable : Json → Bool
  | list _ | object _ => false
  | _ => true

/-- `value == text`. -/
def is_text (value : Json) (expected : String) : Bool :=
  match value with
  | text found => found = expected
  | _ => false

theorem is_text_iff {value : Json} {expected : String} : value.is_text expected = true ↔ value = .text expected := by
  cases value <;> simp [is_text]

theorem is_text_getD {value : Option Json} {expected : String} :
    (value.getD .null).is_text expected = true ↔ value = some (.text expected) := by
  cases value with
  | none => simp [is_text]
  | some value => cases value <;> simp [is_text]

end Json

/-- `mapping.get(key)` of the entries of a decoded object. -/
def entry_of (entries : List (String × Json)) (key : String) : Option Json :=
  (entries.find? (fun entry => entry.1 = key)).map Prod.snd

end python
