import Mathlib.Data.String.Basic
import VelvetRuntime.Python.Dict
import VelvetRuntime.Python.Json

open python.num

namespace python.json

/-- How finite floats are written and how the digits of a float are read: `float.__repr__` and `float`. -/
structure FloatText where
  repr : ℚ → List Char
  parse : List Char → JsonFloat

section writing

/-- `"\\u%04x"` of a code unit. -/
def unicode_escape (unit : Nat) : List Char :=
  ['\\', 'u', Nat.digitChar (unit / 4096 % 16), Nat.digitChar (unit / 256 % 16), Nat.digitChar (unit / 16 % 16),
    Nat.digitChar (unit % 16)]

/-- A character of a string literal; `ensure_ascii` also escapes what is not printable ASCII, in UTF-16 code units. -/
def escape_char (ensure_ascii : Bool) (c : Char) : List Char :=
  if c = '\"' then ['\\', '\"']
  else if c = '\\' then ['\\', '\\']
  else if c = '\n' then ['\\', 'n']
  else if c = '\r' then ['\\', 'r']
  else if c = '\t' then ['\\', 't']
  else if c.toNat = 8 then ['\\', 'b']
  else if c.toNat = 12 then ['\\', 'f']
  else if c.toNat < 32 ∨ (ensure_ascii ∧ 126 < c.toNat) then
    if c.toNat < 0x10000 then unicode_escape c.toNat
    else unicode_escape (0xD800 + (c.toNat - 0x10000) / 1024) ++ unicode_escape (0xDC00 + (c.toNat - 0x10000) % 1024)
  else [c]

def quote (ensure_ascii : Bool) (value : String) : List Char :=
  '\"' :: (value.toList.flatMap (escape_char ensure_ascii) ++ ['\"'])

def int_text : Int → List Char
  | .ofNat n => Nat.toDigits 10 n
  | .negSucc n => '-' :: Nat.toDigits 10 (n + 1)

def float_text (floats : FloatText) : JsonFloat → List Char
  | .finite q => floats.repr q
  | .inf => "Infinity".toList
  | .neg_inf => "-Infinity".toList
  | .nan => "NaN".toList

/-- The entries in the order of their keys. -/
def sort_keys {α : Type} (entries : List (String × α)) : List (String × α) :=
  entries.insertionSort (fun left right => left.1 ≤ right.1)

variable (floats : FloatText) (ensure_ascii : Bool)

mutual

/-- The text of `json.dumps(value, sort_keys=True, separators=(",", ":"))`. -/
def encode : Json → List Char
  | .null => "null".toList
  | .bool value => if value then "true".toList else "false".toList
  | .int value => int_text value
  | .float value => float_text floats value
  | .text value => quote ensure_ascii value
  | .list values => '[' :: (List.intercalate [','] (encode_values values) ++ [']'])
  | .object entries => '{' :: (List.intercalate [',']
      ((sort_keys (encode_entries entries)).map (fun entry => quote ensure_ascii entry.1 ++ ':' :: entry.2)) ++ ['}'])

def encode_values : List Json → List (List Char)
  | [] => []
  | value :: rest => encode value :: encode_values rest

def encode_entries : List (String × Json) → List (String × List Char)
  | [] => []
  | (key, value) :: rest => (key, encode value) :: encode_entries rest

end

end writing

mutual

/-- The floats of a value. -/
def floats_in : Json → List JsonFloat
  | .float value => [value]
  | .list values => floats_in_values values
  | .object entries => floats_in_entries entries
  | .null | .bool _ | .int _ | .text _ => []

def floats_in_values : List Json → List JsonFloat
  | [] => []
  | value :: rest => floats_in value ++ floats_in_values rest

def floats_in_entries : List (String × Json) → List JsonFloat
  | [] => []
  | (_, value) :: rest => floats_in value ++ floats_in_entries rest

end

def is_finite : JsonFloat → Bool
  | .finite _ => true
  | .inf | .neg_inf | .nan => false

/-- `json.dumps(value, sort_keys=True, separators=(",", ":"), allow_nan=False)`; nothing when it raises. -/
def dumps (floats : FloatText) (ensure_ascii : Bool) (value : Json) : Option String :=
  if (floats_in value).all is_finite then some (String.ofList (encode floats ensure_ascii value)) else none

section reading

def is_space (c : Char) : Bool := c = ' ' || c = '\t' || c = '\n' || c = '\r'

def skip_spaces (text : List Char) : List Char := text.dropWhile is_space

def hex_value (c : Char) : Option Nat :=
  if '0' ≤ c ∧ c ≤ '9' then some (c.toNat - 48)
  else if 'a' ≤ c ∧ c ≤ 'f' then some (c.toNat - 87)
  else if 'A' ≤ c ∧ c ≤ 'F' then some (c.toNat - 55)
  else none

/-- The four digits of a `\uXXXX` escape. -/
def scan_unit : List Char → Option (Nat × List Char)
  | a :: b :: c :: d :: rest => do
    let a ← hex_value a
    let b ← hex_value b
    let c ← hex_value c
    let d ← hex_value d
    some (4096 * a + 256 * b + 16 * c + d, rest)
  | _ => none

/-- The second half of a surrogate pair. A lone surrogate is no character. -/
def scan_low_surrogate (high : Nat) : List Char → Option (Char × List Char)
  | a :: b :: rest =>
    if a = '\\' ∧ b = 'u' then do
      let (low, rest) ← scan_unit rest
      if 0xDC00 ≤ low ∧ low < 0xE000 then
        some (Char.ofNat (0x10000 + (high - 0xD800) * 1024 + (low - 0xDC00)), rest)
      else none
    else none
  | _ => none

def unescape (c : Char) : Option Char :=
  if c = '\"' ∨ c = '\\' ∨ c = '/' then some c
  else if c = 'b' then some (Char.ofNat 8)
  else if c = 'f' then some (Char.ofNat 12)
  else if c = 'n' then some '\n'
  else if c = 'r' then some '\r'
  else if c = 't' then some '\t'
  else none

/-- What follows a backslash. -/
def scan_escape : List Char → Option (Char × List Char)
  | c :: rest =>
    if c = 'u' then do
      let (unit, rest) ← scan_unit rest
      if 0xD800 ≤ unit ∧ unit < 0xDC00 then scan_low_surrogate unit rest
      else if 0xDC00 ≤ unit ∧ unit < 0xE000 then none
      else some (Char.ofNat unit, rest)
    else (unescape c).map (fun char => (char, rest))
  | [] => none

/-- `scanstring`, after the opening quote: the characters, and what follows the closing quote. -/
def scan_chars : Nat → List Char → Option (List Char × List Char)
  | fuel + 1, c :: rest =>
    if c = '\"' then some ([], rest)
    else if c = '\\' then do
      let (char, rest) ← scan_escape rest
      let (chars, rest) ← scan_chars fuel rest
      some (char :: chars, rest)
    else if c.toNat < 32 then none
    else do
      let (chars, rest) ← scan_chars fuel rest
      some (c :: chars, rest)
  | _, _ => none

def scan_string : List Char → Option (String × List Char)
  | c :: rest =>
    if c = '\"' then (scan_chars rest.length rest).map (fun (chars, rest) => (String.ofList chars, rest)) else none
  | [] => none

/-- `-?(0|[1-9][0-9]*)`. -/
def scan_integer (text : List Char) : Option (List Char × List Char) :=
  let sign := if text.head? = some '-' then ['-'] else []
  match (text.drop sign.length).takeWhile Char.isDigit with
  | [] => none
  | first :: digits =>
    let whole := if first = '0' then ['0'] else first :: digits
    some (sign ++ whole, text.drop (sign.length + whole.length))

/-- `(\.[0-9]+)?`. -/
def scan_fraction : List Char → List Char × List Char
  | c :: rest =>
    if c = '.' ∧ rest.takeWhile Char.isDigit ≠ [] then
      (c :: rest.takeWhile Char.isDigit, rest.dropWhile Char.isDigit)
    else ([], c :: rest)
  | [] => ([], [])

/-- `([eE][-+]?[0-9]+)?`. -/
def scan_exponent : List Char → List Char × List Char
  | c :: rest =>
    let sign := rest.takeWhile (fun c => c = '-' || c = '+') |>.take 1
    let digits := (rest.drop sign.length).takeWhile Char.isDigit
    if (c = 'e' ∨ c = 'E') ∧ digits ≠ [] then
      (c :: sign ++ digits, (rest.drop sign.length).dropWhile Char.isDigit)
    else ([], c :: rest)
  | [] => ([], [])

def int_of_text : List Char → Int
  | '-' :: digits => -(Nat.ofDigitChars 10 digits 0)
  | digits => Nat.ofDigitChars 10 digits 0

def scan_number (floats : FloatText) (text : List Char) : Option (Json × List Char) := do
  let (whole, rest) ← scan_integer text
  let (fraction, rest) := scan_fraction rest
  let (exponent, rest) := scan_exponent rest
  if fraction = [] ∧ exponent = [] then some (.int (int_of_text whole), rest)
  else some (.float (floats.parse (whole ++ fraction ++ exponent)), rest)

def scan_word (word : String) (text : List Char) : Option (List Char) :=
  if word.toList.isPrefixOf text then some (text.drop word.toList.length) else none

/-- How `json.loads` is called: with `float`, `parse_constant` and `object_pairs_hook`. -/
structure Reader where
  floats : FloatText
  parse_constant : JsonFloat → Option Json
  object_of_pairs : List (String × Json) → Option Json

/-- The last value of a key wins, in the place of the first. -/
def dict_of_pairs (pairs : List (String × Json)) : Option Json :=
  some (.object (pairs.foldl (fun entries pair => entries.set pair.1 pair.2) (Dict.empty : Dict String Json)).items)

/-- A repeated key is refused. -/
def unique_object (pairs : List (String × Json)) : Option Json :=
  if (pairs.map Prod.fst).Nodup then some (.object pairs) else none

variable (reader : Reader)

def scan_atom (text : List Char) : Option (Json × List Char) :=
  ((scan_word "null" text).map (fun rest => (.null, rest))).or <|
    ((scan_word "true" text).map (fun rest => (.bool true, rest))).or <|
    ((scan_word "false" text).map (fun rest => (.bool false, rest))).or <|
    (scan_number reader.floats text).or <|
    ((scan_word "NaN" text).bind (fun rest => (reader.parse_constant .nan).map (fun value => (value, rest)))).or <|
    ((scan_word "Infinity" text).bind (fun rest => (reader.parse_constant .inf).map (fun value => (value, rest)))).or <|
    (scan_word "-Infinity" text).bind (fun rest => (reader.parse_constant .neg_inf).map (fun value => (value, rest)))

mutual

/-- `scan_once`: the value that a text starts with, and what follows it. -/
def scan_value : Nat → List Char → Option (Json × List Char)
  | fuel + 1, c :: rest =>
    if c = '\"' then (scan_string (c :: rest)).map (fun (value, rest) => (.text value, rest))
    else if c = '{' then
      if (skip_spaces rest).head? = some '}' then
        (reader.object_of_pairs []).map (fun value => (value, (skip_spaces rest).tail))
      else do
        let (pairs, rest) ← scan_members fuel (skip_spaces rest)
        (reader.object_of_pairs pairs).map (fun value => (value, rest))
    else if c = '[' then
      if (skip_spaces rest).head? = some ']' then some (.list [], (skip_spaces rest).tail)
      else (scan_elements fuel (skip_spaces rest)).map (fun (values, rest) => (.list values, rest))
    else scan_atom reader (c :: rest)
  | _, _ => none

/-- The values of a list that is not empty, up to its bracket. -/
def scan_elements : Nat → List Char → Option (List Json × List Char)
  | fuel + 1, text => do
    let (value, rest) ← scan_value fuel text
    match skip_spaces rest with
    | c :: rest =>
      if c = ']' then some ([value], rest)
      else if c = ',' then do
        let (values, rest) ← scan_elements fuel (skip_spaces rest)
        some (value :: values, rest)
      else none
    | [] => none
  | 0, _ => none

/-- The pairs of an object that is not empty, up to its brace. -/
def scan_members : Nat → List Char → Option (List (String × Json) × List Char)
  | fuel + 1, text => do
    let (key, rest) ← scan_string text
    match skip_spaces rest with
    | colon :: rest =>
      if colon = ':' then do
        let (value, rest) ← scan_value fuel (skip_spaces rest)
        match skip_spaces rest with
        | c :: rest =>
          if c = '}' then some ([(key, value)], rest)
          else if c = ',' then do
            let (pairs, rest) ← scan_members fuel (skip_spaces rest)
            some ((key, value) :: pairs, rest)
          else none
        | [] => none
      else none
    | [] => none
  | 0, _ => none

end

/-- `json.loads(text)`; nothing when it raises. -/
def loads (text : String) : Option Json :=
  match scan_value reader (text.length + 1) (skip_spaces text.toList) with
  | some (value, rest) => if skip_spaces rest = [] then some value else none
  | none => none

end reading

end python.json
