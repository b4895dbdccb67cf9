import VelvetRuntime.Python.Except
import VelvetRuntime.Python.JsonText

open python.num python.except

namespace python.json

/-- How far an interpreter goes: how deep the scanner and the encoder of `json` may nest where they are called, and how
many digits `int` reads. -/
structure Limits where
  scan_depth : Nat
  encode_depth : Nat
  int_digits : Option Nat

/-- How a call of `json` raises: with an error of the decoder or the encoder, with the `ValueError` of `int`, or with a
`RecursionError`. -/
inductive Fault where
  | invalid
  | too_many_digits
  | too_deep
  deriving DecidableEq

/-- A scan that finds nothing raises a `JSONDecodeError`. -/
def or_invalid {α : Type} : Option α → Except Fault α
  | some value => .ok value
  | none => .error .invalid

variable {α : Type} {value : α}

theorem or_invalid_eq_ok {scanned : Option α} :
    or_invalid scanned = .ok value ↔ scanned = some value := by
  cases scanned with
  | none => exact ⟨fun hnone => (nomatch hnone), fun hnone => (nomatch hnone)⟩
  | some other => exact ⟨fun hsame => congrArg some (Except.ok.inj hsame), fun hsame => congrArg Except.ok (Option.some.inj hsame)⟩

variable (limits : Limits) (reader : Reader)

/-- Whether `int` refuses the digits of the integer that a text starts with. -/
def int_refused (text : List Char) : Bool :=
  match scan_number reader.floats text, scan_integer text with
  | some (.int _, _), some (whole, _) => limits.int_digits.any (· < (whole.filter Char.isDigit).length)
  | _, _ => false

/-- `Py_EnterRecursiveCall`. -/
def enter {α : Type} (inside : Nat → Except Fault α) : Nat → Except Fault α
  | 0 => .error .too_deep
  | depth + 1 => inside depth

mutual

/-- `scan_once`, which enters an object or a list only where the interpreter may still recurse. -/
def scan_value_within : Nat → Nat → List Char → Except Fault (Json × List Char)
  | fuel + 1, depth, c :: rest =>
    if c = '\"' then or_invalid ((scan_string (c :: rest)).map (fun (value, rest) => (.text value, rest)))
    else if c = '{' then enter (fun depth =>
      if (skip_spaces rest).head? = some '}' then
        or_invalid ((reader.object_of_pairs []).map (fun value => (value, (skip_spaces rest).tail)))
      else do
        let (pairs, rest) ← scan_members_within fuel depth (skip_spaces rest)
        or_invalid ((reader.object_of_pairs pairs).map (fun value => (value, rest)))) depth
    else if c = '[' then enter (fun depth =>
      if (skip_spaces rest).head? = some ']' then .ok (.list [], (skip_spaces rest).tail)
      else do
        let (values, rest) ← scan_elements_within fuel depth (skip_spaces rest)
        .ok (.list values, rest)) depth
    else if int_refused limits reader (c :: rest) then .error .too_many_digits
    else or_invalid (scan_atom reader (c :: rest))
  | _, _, _ => .error .invalid

def scan_elements_within : Nat → Nat → List Char → Except Fault (List Json × List Char)
  | fuel + 1, depth, text => do
    let (value, rest) ← scan_value_within fuel depth text
    match skip_spaces rest with
    | c :: rest =>
      if c = ']' then .ok ([value], rest)
      else if c = ',' then do
        let (values, rest) ← scan_elements_within fuel depth (skip_spaces rest)
        .ok (value :: values, rest)
      else .error .invalid
    | [] => .error .invalid
  | 0, _, _ => .error .invalid

def scan_members_within : Nat → Nat → List Char → Except Fault (List (String × Json) × List Char)
  | fuel + 1, depth, text => do
    let (key, rest) ← or_invalid (scan_string text)
    match skip_spaces rest with
    | colon :: rest =>
      if colon = ':' then do
        let (value, rest) ← scan_value_within fuel depth (skip_spaces rest)
        match skip_spaces rest with
        | c :: rest =>
          if c = '}' then .ok ([(key, value)], rest)
          else if c = ',' then do
            let (pairs, rest) ← scan_members_within fuel depth (skip_spaces rest)
            .ok ((key, value) :: pairs, rest)
          else .error .invalid
        | [] => .error .invalid
      else .error .invalid
    | [] => .error .invalid
  | 0, _, _ => .error .invalid

end

/-- `json.loads(text)`. -/
def loads_within (text : String) : Except Fault Json := do
  let (value, rest) ← scan_value_within limits reader (2 * text.length + 2) limits.scan_depth (skip_spaces text.toList)
  if skip_spaces rest = [] then .ok value else .error .invalid

section suffixes

variable {text rest : List Char}

theorem skip_spaces_suffix (text : List Char) : skip_spaces text <:+ text := List.dropWhile_suffix _

theorem drop_suffix_tail {n : Nat} (hn : 0 < n) (text : List Char) : text.drop n <:+ text.tail := by
  cases n with
  | zero => exact absurd hn (Nat.lt_irrefl 0)
  | succ n => cases text with
    | nil => exact List.suffix_rfl
    | cons c rest => exact List.drop_suffix n rest

theorem scan_unit_suffix {unit : Nat} (hscan : scan_unit text = some (unit, rest)) : rest <:+ text := by
  unfold scan_unit at hscan
  split at hscan
  · rename_i a b c d _
    simp only [Option.bind_eq_bind, Option.bind_eq_some_iff, Option.some.injEq, Prod.mk.injEq] at hscan
    obtain ⟨_, _, _, _, _, _, _, _, _, rfl⟩ := hscan
    exact ⟨[a, b, c, d], rfl⟩
  · cases hscan

theorem scan_low_surrogate_suffix {high : Nat} {char : Char} (hscan : scan_low_surrogate high text = some (char, rest)) :
    rest <:+ text := by
  match text with
  | [] | [_] => cases hscan
  | a :: b :: after =>
    obtain ⟨-, hscan⟩ := Option.ite_none_right_eq_some.mp hscan
    obtain ⟨⟨low, left⟩, hunit, hchar⟩ := Option.bind_eq_some_iff.mp hscan
    simp only [Option.ite_none_right_eq_some, Option.some.injEq, Prod.mk.injEq] at hchar
    obtain ⟨-, -, rfl⟩ := hchar
    exact (scan_unit_suffix hunit).trans ⟨[a, b], rfl⟩

theorem scan_escape_suffix {char : Char} (hscan : scan_escape text = some (char, rest)) : rest <:+ text := by
  cases text with
  | nil => cases hscan
  | cons c after =>
    refine List.IsSuffix.trans ?_ (List.suffix_cons c after)
    rw [scan_escape] at hscan
    by_cases hunicode : c = 'u'
    · rw [if_pos hunicode] at hscan
      obtain ⟨⟨unit, left⟩, hunit, hchar⟩ := Option.bind_eq_some_iff.mp hscan
      dsimp only at hchar
      by_cases hhigh : 0xD800 ≤ unit ∧ unit < 0xDC00
      · rw [if_pos hhigh] at hchar
        exact (scan_low_surrogate_suffix hchar).trans (scan_unit_suffix hunit)
      · rw [if_neg hhigh] at hchar
        obtain ⟨-, hchar⟩ := Option.ite_none_left_eq_some.mp hchar
        cases hchar
        exact scan_unit_suffix hunit
    · rw [if_neg hunicode] at hscan
      obtain ⟨_, _, hsame⟩ := Option.map_eq_some_iff.mp hscan
      cases hsame
      exact List.suffix_rfl

theorem scan_chars_suffix {fuel : Nat} {chars : List Char} (hscan : scan_chars fuel text = some (chars, rest)) :
    rest <:+ text := by
  induction fuel generalizing text chars with
  | zero => cases text <;> cases hscan
  | succ fuel ih =>
    cases text with
    | nil => cases hscan
    | cons c after =>
      refine List.IsSuffix.trans ?_ (List.suffix_cons c after)
      rw [scan_chars] at hscan
      split at hscan
      · cases hscan
        exact List.suffix_rfl
      split at hscan
      · obtain ⟨⟨char, left⟩, hescape, hscan⟩ := Option.bind_eq_some_iff.mp hscan
        obtain ⟨⟨others, last⟩, hothers, hsame⟩ := Option.bind_eq_some_iff.mp hscan
        cases hsame
        exact (ih hothers).trans (scan_escape_suffix hescape)
      split at hscan
      · cases hscan
      · obtain ⟨⟨others, last⟩, hothers, hsame⟩ := Option.bind_eq_some_iff.mp hscan
        cases hsame
        exact ih hothers

theorem scan_string_suffix {value : String} (hscan : scan_string text = some (value, rest)) : rest <:+ text.tail := by
  cases text with
  | nil => cases hscan
  | cons c after =>
    rw [scan_string] at hscan
    obtain ⟨-, hscan⟩ := Option.ite_none_right_eq_some.mp hscan
    obtain ⟨⟨chars, left⟩, hchars, hsame⟩ := Option.map_eq_some_iff.mp hscan
    cases hsame
    exact scan_chars_suffix hchars

theorem scan_integer_suffix {whole : List Char} (hscan : scan_integer text = some (whole, rest)) : rest <:+ text.tail := by
  unfold scan_integer at hscan
  dsimp only at hscan
  split at hscan
  · cases hscan
  · rename_i first digits _
    cases hscan
    refine drop_suffix_tail (Nat.add_pos_right _ ?_) text
    by_cases hzero : first = '0'
    · rw [if_pos hzero]
      exact Nat.one_pos
    · rw [if_neg hzero]
      exact Nat.succ_pos _

theorem scan_fraction_suffix (text : List Char) : (scan_fraction text).2 <:+ text := by
  cases text with
  | nil => exact List.suffix_rfl
  | cons c rest =>
    rw [scan_fraction]
    split
    · exact (List.dropWhile_suffix _).trans (List.suffix_cons c rest)
    · exact List.suffix_rfl

theorem scan_exponent_suffix (text : List Char) : (scan_exponent text).2 <:+ text := by
  cases text with
  | nil => exact List.suffix_rfl
  | cons c rest =>
    rw [scan_exponent]
    split
    · exact ((List.dropWhile_suffix _).trans (List.drop_suffix _ _)).trans (List.suffix_cons c rest)
    · exact List.suffix_rfl

theorem scan_number_suffix {floats : FloatText} {value : Json} (hscan : scan_number floats text = some (value, rest)) :
    rest <:+ text.tail := by
  obtain ⟨⟨whole, after⟩, hwhole, hscan⟩ := Option.bind_eq_some_iff.mp hscan
  have hafter : (scan_exponent (scan_fraction after).2).2 <:+ text.tail :=
    ((scan_exponent_suffix _).trans (scan_fraction_suffix after)).trans (scan_integer_suffix hwhole)
  dsimp only at hscan
  split at hscan
  · cases hscan
    exact hafter
  · cases hscan
    exact hafter

theorem scan_word_suffix {word : String} (hword : 0 < word.toList.length) (hscan : scan_word word text = some rest) :
    rest <:+ text.tail := by
  unfold scan_word at hscan
  split at hscan
  · cases hscan
    exact drop_suffix_tail hword text
  · cases hscan

theorem of_or_eq_some {holds : α → Prop} {first second : Option α} (hfirst : ∀ found, first = some found → holds found)
    (hsecond : ∀ found, second = some found → holds found) {found : α} (hfound : first.or second = some found) :
    holds found := by
  rcases Option.or_eq_some_iff.mp hfound with hleft | ⟨-, hright⟩
  · exact hfirst found hleft
  · exact hsecond found hright

theorem scan_atom_suffix {reader : Reader} {value : Json} (hscan : scan_atom reader text = some (value, rest)) :
    rest <:+ text.tail := by
  have hword (word : String) (hword : 0 < word.toList.length) (value : Json) : ∀ found,
      (scan_word word text).map (fun rest => (value, rest)) = some found → found.2 <:+ text.tail := by
    intro found hfound
    obtain ⟨left, hleft, rfl⟩ := Option.map_eq_some_iff.mp hfound
    exact scan_word_suffix hword hleft
  have hconstant (word : String) (hword : 0 < word.toList.length) (parsed : Option Json) : ∀ found,
      (scan_word word text).bind (fun rest => parsed.map (fun value => (value, rest))) = some found →
        found.2 <:+ text.tail := by
    intro found hfound
    obtain ⟨left, hleft, hfound⟩ := Option.bind_eq_some_iff.mp hfound
    obtain ⟨_, _, rfl⟩ := Option.map_eq_some_iff.mp hfound
    exact scan_word_suffix hword hleft
  have hnumber : ∀ found, scan_number reader.floats text = some found → found.2 <:+ text.tail :=
    fun _ hfound => scan_number_suffix hfound
  refine @of_or_eq_some _ (fun found => found.2 <:+ text.tail) _ _ (hword "null" (by decide) .null) (fun _ => ?_) _ hscan
  refine of_or_eq_some (hword "true" (by decide) (.bool true)) fun _ => ?_
  refine of_or_eq_some (hword "false" (by decide) (.bool false)) fun _ => ?_
  refine of_or_eq_some hnumber fun _ => ?_
  refine of_or_eq_some (hconstant "NaN" (by decide) _) fun _ => ?_
  exact of_or_eq_some (hconstant "Infinity" (by decide) _) (hconstant "-Infinity" (by decide) _)

end suffixes

section scanning

variable {limits : Limits} {reader : Reader} {fuel depth : Nat} {text rest : List Char}

/-- After a call that returns, two continuations need only agree on what it returned. -/
theorem bind_congr_of_ok {ε α β : Type} {call : Except ε α} {next other : α → Except ε β}
    (hnext : ∀ value, call = .ok value → next value = other value) : call >>= next = call >>= other := by
  cases call with
  | error error => rfl
  | ok value => exact hnext value rfl

variable {middle after : List Char}

theorem length_of_mark {c : Char} (hmark : skip_spaces middle = c :: after) :
    (skip_spaces after).length < middle.length := by
  have hmiddle := (skip_spaces_suffix middle).length_le
  have hafter := (skip_spaces_suffix after).length_le
  rw [hmark, List.length_cons] at hmiddle
  omega

theorem enter_eq_ok {inside : Nat → Except Fault α} :
    enter inside depth = .ok value ↔ ∃ left, depth = left + 1 ∧ inside left = .ok value := by
  cases depth with
  | zero => exact ⟨fun hdeep => (nomatch hdeep), fun ⟨_, hdepth, _⟩ => (nomatch hdepth)⟩
  | succ depth =>
    constructor
    · exact fun hinside => ⟨depth, rfl, hinside⟩
    · rintro ⟨_, ⟨⟩, hinside⟩
      exact hinside

/-- What is left after a scan, and that the scan goes the same way where nothing limits it. -/
structure Scanned {α : Type} (scan : Nat → List Char → Option (α × List Char)) (text : List Char) (value : α)
    (rest : List Char) : Prop where
  suffix : rest <:+ text.tail
  nonempty : text ≠ []
  unlimited : ∀ {fuel : Nat}, text.length ≤ rest.length + fuel → scan fuel text = some (value, rest)

theorem Scanned.length_lt {scan : Nat → List Char → Option (α × List Char)}
    (hscanned : Scanned scan text value rest) : rest.length < text.length := by
  have hlength := hscanned.suffix.length_le
  have hpositive := List.length_pos_of_ne_nil hscanned.nonempty
  rw [List.length_tail] at hlength
  omega

/-- The rest of a list or of an object, after a value and a mark. -/
theorem suffix_of_mark {c : Char} (hmiddle : middle <:+ text.tail)
    (hmark : skip_spaces middle = c :: after) (hrest : rest <:+ after) : rest <:+ text.tail := by
  refine (hrest.trans (List.suffix_cons c after)).trans ?_
  rw [← hmark]
  exact (skip_spaces_suffix middle).trans hmiddle

mutual

theorem scan_value_ok : ∀ (fuel : Nat) {depth : Nat} {text : List Char} {value : Json} {rest : List Char},
    scan_value_within limits reader fuel depth text = .ok (value, rest) → Scanned (scan_value reader) text value rest
  | 0, _, _, _, _, hscan => nomatch hscan
  | fuel + 1, _, [], _, _, hscan => nomatch hscan
  | fuel + 1, depth, c :: after, value, rest, hscan => by
    have hfuel {fuel : Nat} (hbound : (c :: after).length ≤ rest.length + fuel) (hrest : rest <:+ after) :
        ∃ less, fuel = less + 1 ∧ after.length ≤ rest.length + less := by
      have := hrest.length_le
      rw [List.length_cons] at hbound
      exact ⟨fuel - 1, by omega, by omega⟩
    rw [scan_value_within] at hscan
    by_cases hquote : c = '\"'
    · rw [if_pos hquote, or_invalid_eq_ok] at hscan
      obtain ⟨⟨found, left⟩, hfound, hsame⟩ := Option.map_eq_some_iff.mp hscan
      cases hsame
      refine ⟨scan_string_suffix hfound, List.cons_ne_nil c after, fun hbound => ?_⟩
      obtain ⟨less, rfl, -⟩ := hfuel hbound (scan_string_suffix hfound)
      rw [scan_value, if_pos hquote, hfound]
      rfl
    rw [if_neg hquote] at hscan
    by_cases hbrace : c = '{'
    · rw [if_pos hbrace] at hscan
      obtain ⟨left, -, hinside⟩ := enter_eq_ok.mp hscan
      by_cases hempty : (skip_spaces after).head? = some '}'
      · rw [if_pos hempty, or_invalid_eq_ok] at hinside
        obtain ⟨found, hfound, hsame⟩ := Option.map_eq_some_iff.mp hinside
        cases hsame
        have hrest := (List.tail_suffix _).trans (skip_spaces_suffix after)
        refine ⟨hrest, List.cons_ne_nil c after, fun hbound => ?_⟩
        obtain ⟨less, rfl, -⟩ := hfuel hbound hrest
        rw [scan_value, if_neg hquote, if_pos hbrace, if_pos hempty, hfound]
        rfl
      · rw [if_neg hempty] at hinside
        obtain ⟨⟨pairs, last⟩, hpairs, hinside⟩ := bind_eq_ok.mp hinside
        obtain ⟨found, hfound, hsame⟩ := Option.map_eq_some_iff.mp (or_invalid_eq_ok.mp hinside)
        cases hsame
        have hmembers := scan_members_ok fuel hpairs
        have hrest := (hmembers.suffix.trans (List.tail_suffix _)).trans (skip_spaces_suffix after)
        refine ⟨hrest, List.cons_ne_nil c after, fun hbound => ?_⟩
        obtain ⟨less, rfl, hless⟩ := hfuel hbound hrest
        rw [scan_value, if_neg hquote, if_pos hbrace, if_neg hempty,
          hmembers.unlimited ((skip_spaces_suffix after).length_le.trans hless)]
        exact Option.map_eq_some_iff.mpr ⟨value, hfound, rfl⟩
    rw [if_neg hbrace] at hscan
    by_cases hbracket : c = '['
    · rw [if_pos hbracket] at hscan
      obtain ⟨left, -, hinside⟩ := enter_eq_ok.mp hscan
      by_cases hempty : (skip_spaces after).head? = some ']'
      · rw [if_pos hempty] at hinside
        cases hinside
        have hrest := (List.tail_suffix _).trans (skip_spaces_suffix after)
        refine ⟨hrest, List.cons_ne_nil c after, fun hbound => ?_⟩
        obtain ⟨less, rfl, -⟩ := hfuel hbound hrest
        rw [scan_value, if_neg hquote, if_neg hbrace, if_pos hbracket, if_pos hempty]
      · rw [if_neg hempty] at hinside
        obtain ⟨⟨values, last⟩, hvalues, hinside⟩ := bind_eq_ok.mp hinside
        cases hinside
        have helements := scan_elements_ok fuel hvalues
        have hrest := (helements.suffix.trans (List.tail_suffix _)).trans (skip_spaces_suffix after)
        refine ⟨hrest, List.cons_ne_nil c after, fun hbound => ?_⟩
        obtain ⟨less, rfl, hless⟩ := hfuel hbound hrest
        rw [scan_value, if_neg hquote, if_neg hbrace, if_pos hbracket, if_neg hempty,
          helements.unlimited ((skip_spaces_suffix after).length_le.trans hless)]
        rfl
    rw [if_neg hbracket] at hscan
    split at hscan
    · cases hscan
    · have hatom := or_invalid_eq_ok.mp hscan
      refine ⟨scan_atom_suffix hatom, List.cons_ne_nil c after, fun hbound => ?_⟩
      obtain ⟨less, rfl, -⟩ := hfuel hbound (scan_atom_suffix hatom)
      rw [scan_value, if_neg hquote, if_neg hbrace, if_neg hbracket, hatom]

theorem scan_elements_ok : ∀ (fuel : Nat) {depth : Nat} {text : List Char} {values : List Json} {rest : List Char},
    scan_elements_within limits reader fuel depth text = .ok (values, rest) →
      Scanned (scan_elements reader) text values rest
  | 0, _, _, _, _, hscan => nomatch hscan
  | fuel + 1, depth, text, values, rest, hscan => by
    obtain ⟨⟨first, middle⟩, hfirst, hscan⟩ := bind_eq_ok.mp hscan
    have hvalue := scan_value_ok fuel hfirst
    have hshorter := hvalue.length_lt
    dsimp only at hscan
    split at hscan
    · rename_i c after hmark
      have hafter : after.length + 1 ≤ middle.length := by
        have := (skip_spaces_suffix middle).length_le
        rwa [hmark, List.length_cons] at this
      by_cases hlast : c = ']'
      · rw [if_pos hlast] at hscan
        cases hscan
        refine ⟨suffix_of_mark hvalue.suffix hmark List.suffix_rfl, hvalue.nonempty, fun {bound} hbound => ?_⟩
        obtain ⟨less, rfl⟩ : ∃ less, bound = less + 1 := ⟨bound - 1, by omega⟩
        rw [scan_elements, hvalue.unlimited (by omega)]
        simp only [Option.bind_eq_bind, Option.bind_some, hmark, if_pos hlast]
      rw [if_neg hlast] at hscan
      by_cases hcomma : c = ','
      · rw [if_pos hcomma] at hscan
        obtain ⟨⟨others, last⟩, hothers, hscan⟩ := bind_eq_ok.mp hscan
        dsimp only at hscan
        cases hscan
        have hlater := scan_elements_ok fuel hothers
        have hrest := (hlater.suffix.trans (List.tail_suffix _)).trans (skip_spaces_suffix after)
        have hlength := hlater.length_lt
        have hskipped := (skip_spaces_suffix after).length_le
        refine ⟨suffix_of_mark hvalue.suffix hmark hrest, hvalue.nonempty, fun {bound} hbound => ?_⟩
        obtain ⟨less, rfl⟩ : ∃ less, bound = less + 1 := ⟨bound - 1, by omega⟩
        rw [scan_elements, hvalue.unlimited (by omega)]
        simp only [Option.bind_eq_bind, Option.bind_some, hmark, if_neg hlast, if_pos hcomma,
          hlater.unlimited (show (skip_spaces after).length ≤ rest.length + less by omega)]
      · rw [if_neg hcomma] at hscan
        cases hscan
    · cases hscan

theorem scan_members_ok : ∀ (fuel : Nat) {depth : Nat} {text : List Char} {pairs : List (String × Json)}
    {rest : List Char}, scan_members_within limits reader fuel depth text = .ok (pairs, rest) →
      Scanned (scan_members reader) text pairs rest
  | 0, _, _, _, _, hscan => nomatch hscan
  | fuel + 1, depth, text, pairs, rest, hscan => by
    obtain ⟨⟨key, start⟩, hkey, hscan⟩ := bind_eq_ok.mp hscan
    rw [or_invalid_eq_ok] at hkey
    have hstring := scan_string_suffix hkey
    have hnonempty : text ≠ [] := by
      rintro rfl
      cases hkey
    have hstart := hstring.length_le
    rw [List.length_tail] at hstart
    have hpositive := List.length_pos_of_ne_nil hnonempty
    dsimp only at hscan
    split at hscan
    swap
    · cases hscan
    rename_i colon spaced hcolon_mark
    have hspaced : spaced.length + 1 ≤ start.length := by
      have := (skip_spaces_suffix start).length_le
      rwa [hcolon_mark, List.length_cons] at this
    by_cases hcolon : colon = ':'
    swap
    · rw [if_neg hcolon] at hscan
      cases hscan
    rw [if_pos hcolon] at hscan
    obtain ⟨⟨first, middle⟩, hfirst, hscan⟩ := bind_eq_ok.mp hscan
    have hvalue := scan_value_ok fuel hfirst
    have hmiddle : middle <:+ text.tail :=
      suffix_of_mark hstring hcolon_mark ((hvalue.suffix.trans (List.tail_suffix _)).trans (skip_spaces_suffix spaced))
    have hshorter := hvalue.length_lt
    have hskipped := (skip_spaces_suffix spaced).length_le
    dsimp only at hscan
    split at hscan
    swap
    · cases hscan
    rename_i c after hmark
    have hafter : after.length + 1 ≤ middle.length := by
      have := (skip_spaces_suffix middle).length_le
      rwa [hmark, List.length_cons] at this
    by_cases hlast : c = '}'
    · rw [if_pos hlast] at hscan
      cases hscan
      refine ⟨suffix_of_mark hmiddle hmark List.suffix_rfl, hnonempty, fun {bound} hbound => ?_⟩
      obtain ⟨less, rfl⟩ : ∃ less, bound = less + 1 := ⟨bound - 1, by omega⟩
      rw [scan_members, hkey]
      simp only [Option.bind_eq_bind, Option.bind_some, hcolon_mark, if_pos hcolon,
        hvalue.unlimited (show (skip_spaces spaced).length ≤ middle.length + less by omega), hmark, if_pos hlast]
    rw [if_neg hlast] at hscan
    by_cases hcomma : c = ','
    swap
    · rw [if_neg hcomma] at hscan
      cases hscan
    rw [if_pos hcomma] at hscan
    obtain ⟨⟨others, last⟩, hothers, hscan⟩ := bind_eq_ok.mp hscan
    dsimp only at hscan
    cases hscan
    have hlater := scan_members_ok fuel hothers
    have hrest := (hlater.suffix.trans (List.tail_suffix _)).trans (skip_spaces_suffix after)
    have hlength := hlater.length_lt
    have hafter_skipped := (skip_spaces_suffix after).length_le
    refine ⟨suffix_of_mark hmiddle hmark hrest, hnonempty, fun {bound} hbound => ?_⟩
    obtain ⟨less, rfl⟩ : ∃ less, bound = less + 1 := ⟨bound - 1, by omega⟩
    rw [scan_members, hkey]
    simp only [Option.bind_eq_bind, Option.bind_some, hcolon_mark, if_pos hcolon,
      hvalue.unlimited (show (skip_spaces spaced).length ≤ middle.length + less by omega), hmark, if_neg hlast,
      if_pos hcomma, hlater.unlimited (show (skip_spaces after).length ≤ rest.length + less by omega)]

end

/-- What an interpreter reads is what `json.loads` reads without limits. -/
theorem loads_of_loads_within {text : String} {value : Json} (hloads : loads_within limits reader text = .ok value) :
    loads reader text = some value := by
  obtain ⟨⟨found, left⟩, hscan, hend⟩ := bind_eq_ok.mp hloads
  dsimp only at hend
  split at hend
  · rename_i hspaces
    cases hend
    have hlength := (skip_spaces_suffix text.toList).length_le
    rw [String.length_toList] at hlength
    have hunlimited : scan_value reader (text.length + 1) (skip_spaces text.toList) = some (value, left) :=
      (scan_value_ok _ hscan).unlimited (by omega)
    unfold loads
    rw [hunlimited]
    exact if_pos hspaces
  · cases hend

mutual

/-- The scan of a text does not run out of fuel. -/
theorem scan_value_fuel : ∀ (fuel depth : Nat) (text : List Char), 2 * text.length + 1 ≤ fuel →
    scan_value_within limits reader (fuel + 1) depth text = scan_value_within limits reader fuel depth text
  | 0, _, _, hfuel => nomatch hfuel
  | fuel + 1, _, [], _ => rfl
  | fuel + 1, depth, c :: after, hfuel => by
    have hafter := (skip_spaces_suffix after).length_le
    rw [List.length_cons] at hfuel
    have hmembers (depth : Nat) := scan_members_fuel fuel depth (skip_spaces after) (by omega)
    have helements (depth : Nat) := scan_elements_fuel fuel depth (skip_spaces after) (by omega)
    simp only [scan_value_within, hmembers, helements]

theorem scan_elements_fuel : ∀ (fuel depth : Nat) (text : List Char), 2 * text.length + 2 ≤ fuel →
    scan_elements_within limits reader (fuel + 1) depth text = scan_elements_within limits reader fuel depth text
  | 0, _, _, hfuel => nomatch hfuel
  | fuel + 1, depth, text, hfuel => by
    rw [scan_elements_within, scan_elements_within, scan_value_fuel fuel depth text (by omega)]
    refine bind_congr_of_ok fun ⟨first, middle⟩ hfirst => ?_
    have hshorter := (scan_value_ok fuel hfirst).length_lt
    dsimp only
    split
    · rename_i c after hmark
      have hafter := length_of_mark hmark
      rw [scan_elements_fuel fuel depth (skip_spaces after) (by omega)]
    · rfl

theorem scan_members_fuel : ∀ (fuel depth : Nat) (text : List Char), 2 * text.length + 2 ≤ fuel →
    scan_members_within limits reader (fuel + 1) depth text = scan_members_within limits reader fuel depth text
  | 0, _, _, hfuel => nomatch hfuel
  | fuel + 1, depth, text, hfuel => by
    rw [scan_members_within, scan_members_within]
    refine bind_congr_of_ok fun ⟨key, start⟩ hkey => ?_
    have hstart := (scan_string_suffix (or_invalid_eq_ok.mp hkey)).length_le
    rw [List.length_tail] at hstart
    dsimp only
    split
    swap
    · rfl
    rename_i colon spaced hcolon_mark
    have hspaced := length_of_mark hcolon_mark
    rw [scan_value_fuel fuel depth (skip_spaces spaced) (by omega)]
    refine congrArg (ite _ · _) (bind_congr_of_ok fun ⟨first, middle⟩ hfirst => ?_)
    have hshorter := (scan_value_ok fuel hfirst).length_lt
    dsimp only
    split
    · rename_i c after hmark
      have hafter := length_of_mark hmark
      rw [scan_members_fuel fuel depth (skip_spaces after) (by omega)]
    · rfl

end

theorem scan_value_of_brackets (rest : List Char) : ∀ {fuel : Nat} (depth : Nat), 2 * depth + 1 ≤ fuel →
    scan_value_within limits reader fuel depth (List.replicate (depth + 1) '[' ++ rest) = .error .too_deep
  | 0, _, hfuel => nomatch hfuel
  | fuel + 1, 0, _ => rfl
  | fuel + 1, depth + 1, hfuel => by
    obtain ⟨less, rfl⟩ : ∃ less, fuel = less + 1 := ⟨fuel - 1, by omega⟩
    have hinside : scan_value_within limits reader less depth _ = _ := scan_value_of_brackets rest depth (by omega)
    have hskip : skip_spaces (List.replicate (depth + 1) '[' ++ rest) = List.replicate (depth + 1) '[' ++ rest := rfl
    have hhead : (List.replicate (depth + 1) '[' ++ rest).head? ≠ some ']' := by
      rw [List.replicate_succ, List.cons_append, List.head?_cons]
      decide
    rw [List.replicate_succ, List.cons_append, scan_value_within, if_neg (by decide), if_neg (by decide), if_pos rfl,
      enter, hskip, if_neg hhead, scan_elements_within, hinside]
    rfl

/-- A text that opens one bracket more than the scanner may nest is too deep, whatever follows. -/
theorem loads_within_of_brackets (limits : Limits) (reader : Reader) (rest : List Char) :
    loads_within limits reader (String.ofList (List.replicate (limits.scan_depth + 1) '[' ++ rest)) =
      .error .too_deep := by
  have hskip : skip_spaces (List.replicate (limits.scan_depth + 1) '[' ++ rest) =
      List.replicate (limits.scan_depth + 1) '[' ++ rest := rfl
  unfold loads_within
  rw [String.toList_ofList, hskip, scan_value_of_brackets rest limits.scan_depth]
  · rfl
  · rw [String.length_ofList, List.length_append, List.length_replicate]
    omega

end scanning

section writing

mutual

/-- What stops `json.dumps(value, sort_keys=True, allow_nan=False)` first, if anything does. -/
def dumps_fault : Json → Nat → Option Fault
  | .float value, _ => if is_finite value then none else some .invalid
  | .list values, depth + 1 => faults_of_values values depth
  | .object entries, depth + 1 =>
    (sort_keys (faults_of_entries entries depth)).findSome? Prod.snd
  | .list _, 0 | .object _, 0 => some .too_deep
  | .null, _ | .bool _, _ | .int _, _ | .text _, _ => none

def faults_of_values : List Json → Nat → Option Fault
  | [], _ => none
  | value :: rest, depth => (dumps_fault value depth).or (faults_of_values rest depth)

def faults_of_entries : List (String × Json) → Nat → List (String × Option Fault)
  | [], _ => []
  | (key, value) :: rest, depth => (key, dumps_fault value depth) :: faults_of_entries rest depth

end

/-- `json.dumps(value, sort_keys=True, separators=(",", ":"), allow_nan=False)`. -/
def dumps_within (limits : Limits) (floats : FloatText) (ensure_ascii : Bool) (value : Json) : Except Fault String :=
  match dumps_fault value limits.encode_depth with
  | some fault => .error fault
  | none => .ok (String.ofList (encode floats ensure_ascii value))

mutual

/-- How deep the lists and the objects of a value nest. -/
def nesting : Json → Nat
  | .list values => nesting_values values + 1
  | .object entries => nesting_entries entries + 1
  | .null | .bool _ | .int _ | .float _ | .text _ => 0

def nesting_values : List Json → Nat
  | [] => 0
  | value :: rest => max (nesting value) (nesting_values rest)

def nesting_entries : List (String × Json) → Nat
  | [] => 0
  | (_, value) :: rest => max (nesting value) (nesting_entries rest)

end

mutual

/-- Nothing stops the encoder exactly when the floats are finite and the value does not nest too deep. -/
theorem dumps_fault_eq_none_iff : ∀ (value : Json) (depth : Nat),
    dumps_fault value depth = none ↔ (floats_in value).all is_finite = true ∧ nesting value ≤ depth
  | .null, _ => iff_of_true (by rw [dumps_fault]) ⟨rfl, Nat.zero_le _⟩
  | .bool _, _ => iff_of_true (by rw [dumps_fault]) ⟨rfl, Nat.zero_le _⟩
  | .int _, _ => iff_of_true (by rw [dumps_fault]) ⟨rfl, Nat.zero_le _⟩
  | .text _, _ => iff_of_true (by rw [dumps_fault]) ⟨rfl, Nat.zero_le _⟩
  | .float value, depth => by
    rw [dumps_fault]
    cases hfinite : is_finite value <;> simp [floats_in, nesting, hfinite]
  | .list values, 0 => iff_of_false (by rw [dumps_fault]; exact fun hnone => nomatch hnone) fun hboth => nomatch hboth.2
  | .object entries, 0 => iff_of_false (by rw [dumps_fault]; exact fun hnone => nomatch hnone) fun hboth => nomatch hboth.2
  | .list values, depth + 1 => by
    rw [dumps_fault, faults_of_values_eq_none_iff values depth, nesting, Nat.succ_le_succ_iff]
    rfl
  | .object entries, depth + 1 => by
    rw [dumps_fault, List.findSome?_eq_none_iff, nesting, Nat.succ_le_succ_iff]
    refine Iff.trans ?_ (faults_of_entries_eq_none_iff entries depth)
    exact forall_congr' fun entry => imp_congr_left (List.mem_insertionSort _)

theorem faults_of_values_eq_none_iff : ∀ (values : List Json) (depth : Nat),
    faults_of_values values depth = none ↔ (floats_in_values values).all is_finite = true ∧ nesting_values values ≤ depth
  | [], _ => iff_of_true rfl ⟨rfl, Nat.zero_le _⟩
  | value :: rest, depth => by
    rw [faults_of_values, Option.or_eq_none_iff, dumps_fault_eq_none_iff value, faults_of_values_eq_none_iff rest,
      floats_in_values, List.all_append, Bool.and_eq_true, nesting_values, max_le_iff]
    exact and_and_and_comm

theorem faults_of_entries_eq_none_iff : ∀ (entries : List (String × Json)) (depth : Nat),
    (∀ entry ∈ faults_of_entries entries depth, entry.2 = none) ↔
      (floats_in_entries entries).all is_finite = true ∧ nesting_entries entries ≤ depth
  | [], _ => iff_of_true (List.forall_mem_nil _) ⟨rfl, Nat.zero_le _⟩
  | (key, value) :: rest, depth => by
    rw [faults_of_entries, List.forall_mem_cons, dumps_fault_eq_none_iff value, faults_of_entries_eq_none_iff rest,
      floats_in_entries, List.all_append, Bool.and_eq_true, nesting_entries, max_le_iff]
    exact and_and_and_comm

end

/-- What an interpreter writes is what `json.dumps` writes without limits. -/
theorem dumps_within_eq_ok {limits : Limits} {floats : FloatText} {ensure_ascii : Bool} {value : Json} {text : String} :
    dumps_within limits floats ensure_ascii value = .ok text ↔
      dumps floats ensure_ascii value = some text ∧ nesting value ≤ limits.encode_depth := by
  unfold dumps_within dumps
  cases hfault : dumps_fault value limits.encode_depth with
  | none =>
    obtain ⟨hfinite, hnesting⟩ := (dumps_fault_eq_none_iff value limits.encode_depth).mp hfault
    rw [if_pos hfinite]
    simp [hnesting]
  | some fault =>
    refine iff_of_false (fun hsome => nomatch hsome) fun ⟨hdumps, hnesting⟩ => ?_
    rw [Option.ite_none_right_eq_some] at hdumps
    have hnone := (dumps_fault_eq_none_iff value limits.encode_depth).mpr ⟨hdumps.1, hnesting⟩
    cases hfault.symm.trans hnone

end writing

end python.json
