import Mathlib.Data.List.TakeWhile
import VelvetRuntime.Python.JsonLimits

open python.num python.except

namespace python.json

section strings

theorem hex_value_digitChar {n : Nat} (hn : n < 16) : hex_value (Nat.digitChar n) = some n := by
  have hall : ∀ n : Fin 16, hex_value (Nat.digitChar n) = some n.val := by decide
  exact hall ⟨n, hn⟩

theorem scan_unit_escape {unit : Nat} (hunit : unit < 0x10000) (rest : List Char) :
    scan_unit ((unicode_escape unit).drop 2 ++ rest) = some (unit, rest) := by
  have hsum : 4096 * (unit / 4096 % 16) + 256 * (unit / 256 % 16) + 16 * (unit / 16 % 16) + unit % 16 = unit := by
    omega
  simp only [unicode_escape, List.drop_succ_cons, List.drop_zero, List.cons_append, List.nil_append, scan_unit,
    hex_value_digitChar (Nat.mod_lt _ (by decide : 0 < 16))]
  simp [hsum]

theorem scan_escape_unit {unit : Nat} (hunit : unit < 0x10000) (rest : List Char) :
    scan_escape ((unicode_escape unit).tail ++ rest) =
      if 0xD800 ≤ unit ∧ unit < 0xDC00 then scan_low_surrogate unit rest
      else if 0xDC00 ≤ unit ∧ unit < 0xE000 then none
      else some (Char.ofNat unit, rest) := by
  have hscan := scan_unit_escape hunit rest
  unfold unicode_escape at hscan ⊢
  rw [List.tail_cons, List.cons_append]
  unfold scan_escape
  dsimp only
  rw [if_pos rfl]
  rw [List.drop_succ_cons, List.drop_succ_cons, List.drop_zero] at hscan
  rw [hscan]
  rfl

theorem scan_low_surrogate_unit {high low : Nat} (hlow : 0xDC00 ≤ low ∧ low < 0xE000) (rest : List Char) :
    scan_low_surrogate high (unicode_escape low ++ rest) =
      some (Char.ofNat (0x10000 + (high - 0xD800) * 1024 + (low - 0xDC00)), rest) := by
  have hscan := scan_unit_escape (by omega : low < 0x10000) rest
  unfold unicode_escape at hscan ⊢
  rw [List.cons_append, List.cons_append]
  unfold scan_low_surrogate
  dsimp only
  rw [if_pos ⟨rfl, rfl⟩]
  rw [List.drop_succ_cons, List.drop_succ_cons, List.drop_zero] at hscan
  rw [hscan]
  dsimp only [Option.bind_eq_bind, Option.bind_some]
  rw [if_pos hlow]

/-- The escape of a code point reads back as its character, in one code unit or two. -/
theorem scan_escape_code_point (c : Char) (rest : List Char) :
    scan_escape (((if c.toNat < 0x10000 then unicode_escape c.toNat
      else unicode_escape (0xD800 + (c.toNat - 0x10000) / 1024) ++
        unicode_escape (0xDC00 + (c.toNat - 0x10000) % 1024)).tail) ++ rest) = some (c, rest) := by
  have hvalid := c.valid
  change (c.toNat < 0xD800) ∨ (0xDFFF < c.toNat ∧ c.toNat < 0x110000) at hvalid
  split
  · rename_i hsmall
    rw [scan_escape_unit hsmall, if_neg (by omega), if_neg (by omega), Char.ofNat_toNat]
  · rename_i hlarge
    have htail : ∀ unit (more : List Char), (unicode_escape unit ++ more).tail = (unicode_escape unit).tail ++ more :=
      fun _ _ => rfl
    have hpoint : 0x10000 + (0xD800 + (c.toNat - 0x10000) / 1024 - 0xD800) * 1024 +
        (0xDC00 + (c.toNat - 0x10000) % 1024 - 0xDC00) = c.toNat := by omega
    rw [htail, List.append_assoc, scan_escape_unit (by omega), if_pos (by omega),
      scan_low_surrogate_unit (by omega), hpoint, Char.ofNat_toNat]

variable (ensure_ascii : Bool)

/-- A character is written as itself, or as an escape that reads back as it. -/
theorem escape_char_cases (c : Char) :
    (escape_char ensure_ascii c = [c] ∧ c ≠ '\"' ∧ c ≠ '\\' ∧ ¬ c.toNat < 32) ∨
    ∃ escaped, escape_char ensure_ascii c = '\\' :: escaped ∧
      ∀ rest, scan_escape (escaped ++ rest) = some (c, rest) := by
  have hnamed : ∀ {letter : Char}, letter ≠ 'u' → unescape letter = some c →
      ∃ escaped, ['\\', letter] = '\\' :: escaped ∧ ∀ rest, scan_escape (escaped ++ rest) = some (c, rest) := by
    intro letter hletter hunescape
    refine ⟨[letter], rfl, ?_⟩
    intro rest
    change (if letter = 'u' then _ else (unescape letter).map _) = _
    rw [if_neg hletter, hunescape]
    rfl
  have hof : ∀ {n : Nat}, c.toNat = n → Char.ofNat n = c := by
    rintro _ rfl
    exact Char.ofNat_toNat c
  unfold escape_char
  split
  · rename_i hc
    exact .inr (hnamed (by decide) (by rw [hc]; rfl))
  · rename_i hquote
    split
    · rename_i hc
      exact .inr (hnamed (by decide) (by rw [hc]; rfl))
    · rename_i hbackslash
      split
      · rename_i hc
        exact .inr (hnamed (by decide) (by rw [hc]; rfl))
      · split
        · rename_i hc
          exact .inr (hnamed (by decide) (by rw [hc]; rfl))
        · split
          · rename_i hc
            exact .inr (hnamed (by decide) (by rw [hc]; rfl))
          · split
            · rename_i hc
              exact .inr (hnamed (by decide) (congrArg some (hof hc)))
            · split
              · rename_i hc
                exact .inr (hnamed (by decide) (congrArg some (hof hc)))
              · split
                · refine .inr ⟨_, ?_, scan_escape_code_point c⟩
                  split
                  · rfl
                  · rfl
                · rename_i hplain
                  exact .inl ⟨rfl, hquote, hbackslash, fun hsmall => hplain (.inl hsmall)⟩

theorem scan_chars_escaped (chars rest : List Char) (fuel : Nat)
    (hfuel : (chars.flatMap (escape_char ensure_ascii)).length < fuel) :
    scan_chars fuel (chars.flatMap (escape_char ensure_ascii) ++ '\"' :: rest) = some (chars, rest) := by
  induction chars generalizing fuel with
  | nil =>
    obtain ⟨fuel, rfl⟩ := Nat.exists_eq_succ_of_ne_zero (Nat.ne_of_gt hfuel)
    change (if '\"' = '\"' then _ else _) = _
    rw [if_pos rfl]
  | cons c chars ih =>
    obtain ⟨fuel, rfl⟩ := Nat.exists_eq_succ_of_ne_zero (Nat.ne_of_gt (Nat.zero_lt_of_lt hfuel))
    rw [List.flatMap_cons, List.length_append] at hfuel
    rw [List.flatMap_cons]
    rcases escape_char_cases ensure_ascii c with ⟨hplain, hquote, hbackslash, hprintable⟩ | ⟨escaped, hescape, hscan⟩
    · rw [hplain, List.length_singleton] at hfuel
      rw [hplain, List.singleton_append, List.cons_append]
      unfold scan_chars
      rw [if_neg hquote, if_neg hbackslash, if_neg hprintable, ih fuel (by omega)]
      rfl
    · rw [hescape, List.length_cons] at hfuel
      rw [hescape, List.append_assoc, List.cons_append]
      unfold scan_chars
      rw [if_neg (by decide), if_pos rfl, hscan, Option.bind_eq_bind, Option.bind_some]
      dsimp only
      rw [ih fuel (by omega)]
      rfl

/-- A string literal reads back as its text. -/
theorem scan_string_quote (value : String) (rest : List Char) :
    scan_string (quote ensure_ascii value ++ rest) = some (value, rest) := by
  unfold quote
  rw [List.cons_append, List.append_assoc, List.singleton_append]
  unfold scan_string
  dsimp only
  rw [if_pos rfl, scan_chars_escaped _ _ _ _ (by rw [List.length_append, List.length_cons]; omega)]
  simp

end strings

section numbers

/-- The parts of a number literal: its sign, its digits, and its fraction and exponent if it has them. -/
structure IsNumber (sign whole fraction exponent : List Char) : Prop where
  sign_eq : sign = [] ∨ sign = ['-']
  whole_ne : whole ≠ []
  whole_digits : ∀ c ∈ whole, c.isDigit = true
  no_leading_zero : whole.head? = some '0' → whole = ['0']
  fraction_eq : fraction = [] ∨ ∃ digits, fraction = '.' :: digits ∧ digits ≠ [] ∧ ∀ c ∈ digits, c.isDigit = true
  exponent_eq : exponent = [] ∨ ∃ letter sign digits, exponent = letter :: sign ++ digits ∧
    (letter = 'e' ∨ letter = 'E') ∧ (sign = [] ∨ sign = ['-'] ∨ sign = ['+']) ∧ digits ≠ [] ∧
    ∀ c ∈ digits, c.isDigit = true

/-- A float is written as a number with a fraction or an exponent, and read back from it. -/
def FloatText.Reads (floats : FloatText) (q : ℚ) : Prop :=
  ∃ sign whole fraction exponent, IsNumber sign whole fraction exponent ∧ ¬ (fraction = [] ∧ exponent = []) ∧
    floats.repr q = sign ++ whole ++ fraction ++ exponent ∧ floats.parse (floats.repr q) = .finite q

/-- No number literal goes on with the text. -/
def Ends (rest : List Char) : Prop :=
  ∀ c ∈ rest.head?, c.isDigit = false ∧ c ≠ '.' ∧ c ≠ 'e' ∧ c ≠ 'E'

theorem takeWhile_digits {digits rest : List Char} (hdigits : ∀ c ∈ digits, c.isDigit = true)
    (hrest : ∀ c ∈ rest.head?, c.isDigit = false) :
    (digits ++ rest).takeWhile Char.isDigit = digits ∧ (digits ++ rest).dropWhile Char.isDigit = rest := by
  rw [List.takeWhile_append_of_pos hdigits, List.dropWhile_append_of_pos hdigits]
  cases rest with
  | nil => simp
  | cons c rest =>
    have hc := hrest c rfl
    rw [List.takeWhile_cons_of_neg (by simp [hc]), List.dropWhile_cons_of_neg (by simp [hc])]
    simp

theorem head_of_digits {digits : List Char} (rest : List Char) (hne : digits ≠ [])
    (hdigits : ∀ c ∈ digits, c.isDigit = true) :
    ∃ c, (digits ++ rest).head? = some c ∧ c.isDigit = true := by
  obtain ⟨c, others, rfl⟩ := List.exists_cons_of_ne_nil hne
  exact ⟨c, rfl, hdigits c List.mem_cons_self⟩

theorem scan_integer_text {sign whole rest : List Char} (hsign : sign = [] ∨ sign = ['-']) (hne : whole ≠ [])
    (hdigits : ∀ c ∈ whole, c.isDigit = true) (hzero : whole.head? = some '0' → whole = ['0'])
    (hrest : ∀ c ∈ rest.head?, c.isDigit = false) :
    scan_integer (sign ++ whole ++ rest) = some (sign ++ whole, rest) := by
  obtain ⟨htake, _⟩ := takeWhile_digits hdigits hrest
  obtain ⟨first, hfirst, hdigit⟩ := head_of_digits rest hne hdigits
  have hfound : (if (sign ++ whole ++ rest).head? = some '-' then ['-'] else []) = sign := by
    rcases hsign with rfl | rfl
    · rw [List.nil_append, hfirst, if_neg]
      rintro hminus
      cases hminus
      cases hdigit
    · rfl
  have hdrop : (sign ++ whole ++ rest).drop sign.length = whole ++ rest := by
    rw [List.append_assoc, List.drop_left]
  unfold scan_integer
  dsimp only
  rw [hfound, hdrop, htake]
  obtain ⟨digit, others, rfl⟩ := List.exists_cons_of_ne_nil hne
  dsimp only
  have hwhole : (if digit = '0' then ['0'] else digit :: others) = digit :: others := by
    split
    · rename_i hsame
      exact (hzero (by rw [hsame]; rfl)).symm
    · rfl
  rw [hwhole, ← List.length_append, List.drop_left]

theorem scan_fraction_text {fraction rest : List Char}
    (hfraction : fraction = [] ∨ ∃ digits, fraction = '.' :: digits ∧ digits ≠ [] ∧ ∀ c ∈ digits, c.isDigit = true)
    (hrest : ∀ c ∈ rest.head?, c.isDigit = false ∧ c ≠ '.') :
    scan_fraction (fraction ++ rest) = (fraction, rest) := by
  rcases hfraction with rfl | ⟨digits, rfl, hne, hdigits⟩
  · cases rest with
    | nil => rfl
    | cons c rest => exact if_neg (fun hpoint => (hrest c rfl).2 hpoint.1)
  · obtain ⟨htake, hdrop⟩ := takeWhile_digits hdigits (fun c hc => (hrest c hc).1)
    rw [List.cons_append]
    unfold scan_fraction
    dsimp only
    rw [htake, hdrop, if_pos ⟨rfl, hne⟩]

theorem scan_exponent_text {exponent rest : List Char}
    (hexponent : exponent = [] ∨ ∃ letter sign digits, exponent = letter :: sign ++ digits ∧
      (letter = 'e' ∨ letter = 'E') ∧ (sign = [] ∨ sign = ['-'] ∨ sign = ['+']) ∧ digits ≠ [] ∧
      ∀ c ∈ digits, c.isDigit = true)
    (hrest : Ends rest) : scan_exponent (exponent ++ rest) = (exponent, rest) := by
  rcases hexponent with rfl | ⟨letter, sign, digits, rfl, hletter, hsign, hne, hdigits⟩
  · cases rest with
    | nil => rfl
    | cons c rest =>
      obtain ⟨_, _, hlower, hupper⟩ := hrest c rfl
      exact if_neg (fun hexponent => hexponent.1.elim hlower hupper)
  · obtain ⟨htake, hdrop⟩ := takeWhile_digits hdigits (fun c hc => (hrest c hc).1)
    obtain ⟨digit, others, rfl⟩ := List.exists_cons_of_ne_nil hne
    have hdigit := hdigits digit List.mem_cons_self
    have hplain : (digit = '-' || digit = '+') = false := by
      rw [Bool.or_eq_false_iff, decide_eq_false_iff_not, decide_eq_false_iff_not]
      constructor
      · rintro rfl
        cases hdigit
      · rintro rfl
        cases hdigit
    have hfound : ((sign ++ (digit :: others ++ rest)).takeWhile (fun c => c = '-' || c = '+')).take 1 = sign := by
      rcases hsign with rfl | rfl | rfl
      · simp [hplain]
      · simp [hplain]
      · simp [hplain]
    rw [List.cons_append, List.cons_append, List.append_assoc]
    unfold scan_exponent
    dsimp only
    rw [hfound, List.drop_left, htake, hdrop, if_pos ⟨hletter, by simp⟩]
    rfl

/-- A number literal is scanned whole. -/
theorem scan_number_text (floats : FloatText) {sign whole fraction exponent rest : List Char}
    (hnumber : IsNumber sign whole fraction exponent) (hrest : Ends rest) :
    scan_number floats (sign ++ whole ++ fraction ++ exponent ++ rest) =
      some (if fraction = [] ∧ exponent = [] then .int (int_of_text (sign ++ whole))
        else .float (floats.parse (sign ++ whole ++ fraction ++ exponent)), rest) := by
  obtain ⟨hsign, hne, hdigits, hzero, hfraction, hexponent⟩ := hnumber
  have hexponent_head : ∀ c ∈ (exponent ++ rest).head?, c.isDigit = false ∧ c ≠ '.' := by
    rcases hexponent with rfl | ⟨letter, sign, digits, rfl, rfl | rfl, _⟩
    · intro c hc
      exact ⟨(hrest c hc).1, (hrest c hc).2.1⟩
    · rintro c ⟨⟩
      decide
    · rintro c ⟨⟩
      decide
  have hfraction_head : ∀ c ∈ (fraction ++ (exponent ++ rest)).head?, c.isDigit = false := by
    rcases hfraction with rfl | ⟨digits, rfl, _⟩
    · exact fun c hc => (hexponent_head c hc).1
    · rintro c ⟨⟩
      decide
  unfold scan_number
  rw [List.append_assoc _ exponent rest, List.append_assoc _ fraction, scan_integer_text hsign hne hdigits hzero
    hfraction_head]
  dsimp only [Option.bind_eq_bind, Option.bind_some]
  rw [scan_fraction_text hfraction hexponent_head]
  dsimp only
  rw [scan_exponent_text hexponent hrest]
  dsimp only
  split
  · rfl
  · rfl

/-- Decimal digits have no leading zero. -/
theorem head_toDigits (n : Nat) : (Nat.toDigits 10 n).head? = some '0' → Nat.toDigits 10 n = ['0'] := by
  induction n using Nat.strongRecOn with
  | _ n ih =>
    by_cases hsmall : n < 10
    · rw [Nat.toDigits_of_lt_base hsmall]
      intro hhead
      rw [List.head?_singleton, Option.some.injEq] at hhead
      rw [hhead]
    · rw [Nat.toDigits_of_base_le (by decide) (by omega), List.head?_append_of_ne_nil _ Nat.toDigits_ne_nil]
      intro hhead
      have hzero := ih (n / 10) (by omega) hhead
      have hvalue := congrArg (fun digits => Nat.ofDigitChars 10 digits 0) hzero
      rw [Nat.ofDigitChars_ten_toDigits] at hvalue
      change n / 10 = 0 at hvalue
      omega

theorem isNumber_digits (n : Nat) {sign : List Char} (hsign : sign = [] ∨ sign = ['-']) :
    IsNumber sign (Nat.toDigits 10 n) [] [] where
  sign_eq := hsign
  whole_ne := Nat.toDigits_ne_nil
  whole_digits := fun _ hc => Nat.isDigit_of_mem_toDigits (by decide) (by decide) hc
  no_leading_zero := head_toDigits n
  fraction_eq := .inl rfl
  exponent_eq := .inl rfl

theorem int_of_text_digits (n : Nat) : int_of_text (Nat.toDigits 10 n) = n := by
  obtain ⟨digit, others, hdigits⟩ := List.exists_cons_of_ne_nil (Nat.toDigits_ne_nil (n := n) (b := 10))
  have hdigit : digit.isDigit = true :=
    Nat.isDigit_of_mem_toDigits (b := 10) (n := n) (by decide) (by decide) (hdigits ▸ List.mem_cons_self)
  unfold int_of_text
  split
  · rename_i hminus
    rw [hdigits] at hminus
    cases hminus
    cases hdigit
  · rw [Nat.ofDigitChars_ten_toDigits]

theorem filter_int_text (value : Int) : (int_text value).filter Char.isDigit = Nat.toDigits 10 value.natAbs := by
  have hdigits : ∀ n, (Nat.toDigits 10 n).filter Char.isDigit = Nat.toDigits 10 n := fun n =>
    List.filter_eq_self.mpr fun _ hc => Nat.isDigit_of_mem_toDigits (by decide) (by decide) hc
  cases value with
  | ofNat n => exact hdigits n
  | negSucc n =>
    change ('-' :: Nat.toDigits 10 (n + 1)).filter Char.isDigit = _
    rw [List.filter_cons_of_neg (by decide)]
    exact hdigits (n + 1)

variable {rest : List Char}

theorem scan_integer_int (value : Int) (hrest : Ends rest) :
    scan_integer (int_text value ++ rest) = some (int_text value, rest) := by
  have hscan : ∀ (n : Nat) (sign : List Char), sign = [] ∨ sign = ['-'] →
      scan_integer (sign ++ Nat.toDigits 10 n ++ rest) = some (sign ++ Nat.toDigits 10 n, rest) := fun n sign hsign =>
    have hnumber := isNumber_digits n hsign
    scan_integer_text hsign hnumber.whole_ne hnumber.whole_digits hnumber.no_leading_zero fun c hc => (hrest c hc).1
  cases value with
  | ofNat n => exact hscan n [] (.inl rfl)
  | negSucc n => exact hscan (n + 1) ['-'] (.inr rfl)

/-- An integer reads back from its digits. -/
theorem scan_number_int (floats : FloatText) (value : Int) (hrest : Ends rest) :
    scan_number floats (int_text value ++ rest) = some (.int value, rest) := by
  cases value with
  | ofNat n =>
    have hscan := scan_number_text floats (isNumber_digits n (.inl rfl)) hrest
    rw [List.append_nil, List.append_nil, List.nil_append, if_pos ⟨rfl, rfl⟩, int_of_text_digits] at hscan
    exact hscan
  | negSucc n =>
    have hscan := scan_number_text floats (isNumber_digits (n + 1) (.inr rfl)) hrest
    rw [List.append_nil, List.append_nil, if_pos ⟨rfl, rfl⟩] at hscan
    have hvalue : int_of_text (['-'] ++ Nat.toDigits 10 (n + 1)) = Int.negSucc n := by
      change -((Nat.ofDigitChars 10 (Nat.toDigits 10 (n + 1)) 0 : Nat) : Int) = _
      rw [Nat.ofDigitChars_ten_toDigits]
      rfl
    rw [hvalue] at hscan
    exact hscan

/-- A float reads back from its text. -/
theorem scan_number_float {floats : FloatText} {q : ℚ} (hreads : floats.Reads q)
    (hrest : Ends rest) : scan_number floats (floats.repr q ++ rest) = some (.float (.finite q), rest) := by
  obtain ⟨sign, whole, fraction, exponent, hnumber, hfloat, hrepr, hparse⟩ := hreads
  have hscan := scan_number_text floats hnumber hrest
  rw [if_neg hfloat, ← hrepr, hparse] at hscan
  exact hscan

end numbers

section values

mutual

/-- The value with its entries in the order of their keys, at every level. -/
def sorted : Json → Json
  | .list values => .list (sorted_values values)
  | .object entries => .object (sort_keys (sorted_entries entries))
  | .null => .null
  | .bool value => .bool value
  | .int value => .int value
  | .float value => .float value
  | .text value => .text value

def sorted_values : List Json → List Json
  | [] => []
  | value :: rest => sorted value :: sorted_values rest

def sorted_entries : List (String × Json) → List (String × Json)
  | [] => []
  | (key, value) :: rest => (key, sorted value) :: sorted_entries rest

end

mutual

/-- No object has two entries of one key: the value is made of dicts and lists. -/
def Distinct : Json → Prop
  | .list values => DistinctValues values
  | .object entries => (entries.map Prod.fst).Nodup ∧ DistinctEntries entries
  | .null | .bool _ | .int _ | .float _ | .text _ => True

def DistinctValues : List Json → Prop
  | [] => True
  | value :: rest => Distinct value ∧ DistinctValues rest

def DistinctEntries : List (String × Json) → Prop
  | [] => True
  | (_, value) :: rest => Distinct value ∧ DistinctEntries rest

end

/-- The values are equal, up to the order of the entries of their objects. -/
def Same (left right : Json) : Prop := sorted left = sorted right

/-- The reader builds the object of distinct pairs. -/
def Reader.Builds (reader : Reader) : Prop :=
  ∀ pairs : List (String × Json), (pairs.map Prod.fst).Nodup → reader.object_of_pairs pairs = some (.object pairs)

variable {pairs : List (String × Json)}

theorem unique_object_of_nodup (hnodup : (pairs.map Prod.fst).Nodup) :
    unique_object pairs = some (.object pairs) :=
  if_pos hnodup

theorem dict_of_pairs_of_nodup (hnodup : (pairs.map Prod.fst).Nodup) :
    dict_of_pairs pairs = some (.object pairs) := by
  have hfold : ∀ (pairs : List (String × Json)) (entries : Dict String Json),
      ((entries.items ++ pairs).map Prod.fst).Nodup →
      (pairs.foldl (fun entries pair => entries.set pair.1 pair.2) entries).items = entries.items ++ pairs := by
    intro pairs
    induction pairs with
    | nil => exact fun entries _ => (List.append_nil _).symm
    | cons pair rest ih =>
      intro entries hdistinct
      have hnew : entries.get? pair.1 = none := by
        rw [Dict.get?_eq_none_iff]
        rw [List.map_append, List.map_cons, List.nodup_append] at hdistinct
        intro hmem
        exact hdistinct.2.2 _ hmem _ List.mem_cons_self rfl
      have hset := entries.items_set_of_get?_none pair.2 hnew
      rw [List.foldl_cons, ih, hset, List.append_assoc, List.singleton_append]
      rw [hset, List.append_assoc, List.singleton_append]
      exact hdistinct
  have hall := hfold pairs .empty hnodup
  unfold dict_of_pairs
  rw [hall]
  rfl

theorem encode_values_eq_map (floats : FloatText) (ensure_ascii : Bool) (values : List Json) :
    encode_values floats ensure_ascii values = values.map (encode floats ensure_ascii) := by
  induction values with
  | nil => rfl
  | cons value rest ih => exact congrArg (_ :: ·) ih

theorem encode_entries_eq_map (floats : FloatText) (ensure_ascii : Bool) (entries : List (String × Json)) :
    encode_entries floats ensure_ascii entries =
      entries.map (fun entry => (entry.1, encode floats ensure_ascii entry.2)) := by
  induction entries with
  | nil => rfl
  | cons entry rest ih => exact congrArg (_ :: ·) ih

theorem sorted_values_eq_map (values : List Json) : sorted_values values = values.map sorted := by
  induction values with
  | nil => rfl
  | cons value rest ih => exact congrArg (_ :: ·) ih

theorem sorted_entries_eq_map (entries : List (String × Json)) :
    sorted_entries entries = entries.map (fun entry => (entry.1, sorted entry.2)) := by
  induction entries with
  | nil => rfl
  | cons entry rest ih => exact congrArg (_ :: ·) ih

theorem sort_keys_map {α β : Type} (f : α → β) (entries : List (String × α)) :
    sort_keys (entries.map (fun entry => (entry.1, f entry.2))) =
      (sort_keys entries).map (fun entry => (entry.1, f entry.2)) :=
  (List.map_insertionSort _ _ (fun entry : String × α => (entry.1, f entry.2)) entries (fun _ _ _ _ => Iff.rfl)).symm

theorem sort_keys_perm {α : Type} (entries : List (String × α)) : (sort_keys entries).Perm entries :=
  List.perm_insertionSort _ _

section within

variable (limits : Limits)

mutual

/-- The interpreter takes the value: it does not nest deeper than told, and no integer has too many digits. -/
def Within : Nat → Json → Prop
  | _, .int value => limits.int_digits.any (· < (Nat.toDigits 10 value.natAbs).length) = false
  | depth + 1, .list values => WithinValues depth values
  | depth + 1, .object entries => WithinEntries depth entries
  | 0, .list _ | 0, .object _ => False
  | _, .null | _, .bool _ | _, .float _ | _, .text _ => True

def WithinValues : Nat → List Json → Prop
  | _, [] => True
  | depth, value :: rest => Within depth value ∧ WithinValues depth rest

def WithinEntries : Nat → List (String × Json) → Prop
  | _, [] => True
  | depth, (_, value) :: rest => Within depth value ∧ WithinEntries depth rest

end

variable {limits}

mutual

theorem within_of_nesting (hdigits : limits.int_digits = none) : ∀ {depth : Nat} {value : Json},
    nesting value ≤ depth → Within limits depth value
  | _, .int _, _ => by
    rw [Within, hdigits]
    rfl
  | _ + 1, .list _, hnesting => by
    rw [Within]
    exact within_values_of_nesting hdigits (Nat.le_of_succ_le_succ hnesting)
  | _ + 1, .object _, hnesting => by
    rw [Within]
    exact within_entries_of_nesting hdigits (Nat.le_of_succ_le_succ hnesting)
  | 0, .list _, hnesting => nomatch hnesting
  | 0, .object _, hnesting => nomatch hnesting
  | _, .null, _ | _, .bool _, _ | _, .float _, _ | _, .text _, _ => by
    rw [Within]
    trivial

theorem within_values_of_nesting (hdigits : limits.int_digits = none) : ∀ {depth : Nat} {values : List Json},
    nesting_values values ≤ depth → WithinValues limits depth values
  | _, [], _ => trivial
  | _, _ :: _, hnesting => ⟨within_of_nesting hdigits (le_of_max_le_left hnesting),
      within_values_of_nesting hdigits (le_of_max_le_right hnesting)⟩

theorem within_entries_of_nesting (hdigits : limits.int_digits = none) : ∀ {depth : Nat} {entries : List (String × Json)},
    nesting_entries entries ≤ depth → WithinEntries limits depth entries
  | _, [], _ => trivial
  | _, (_, _) :: _, hnesting => ⟨within_of_nesting hdigits (le_of_max_le_left hnesting),
      within_entries_of_nesting hdigits (le_of_max_le_right hnesting)⟩

end

/-- The other interpreter refuses no digits that the first one takes. -/
def ReadsDigits (limits other : Limits) : Prop :=
  ∀ count, other.int_digits.any (· < count) = true → limits.int_digits.any (· < count) = true

variable {other : Limits}

mutual

/-- What one interpreter takes, another takes that goes as far. -/
theorem Within.mono (hdigits : ReadsDigits limits other) : ∀ {depth more : Nat} {value : Json}, depth ≤ more →
    Within limits depth value → Within other more value
  | _, _, .int value, _, hwithin => by
    rw [Within, Bool.eq_false_iff] at hwithin ⊢
    exact fun hmany => hwithin (hdigits _ hmany)
  | depth + 1, more, .list values, hmore, hwithin => by
    obtain ⟨less, rfl⟩ := Nat.exists_eq_add_of_le' (Nat.le_trans (Nat.succ_le_succ (Nat.zero_le depth)) hmore)
    rw [Within] at hwithin ⊢
    exact hwithin.mono_values hdigits (Nat.le_of_succ_le_succ hmore)
  | depth + 1, more, .object entries, hmore, hwithin => by
    obtain ⟨less, rfl⟩ := Nat.exists_eq_add_of_le' (Nat.le_trans (Nat.succ_le_succ (Nat.zero_le depth)) hmore)
    rw [Within] at hwithin ⊢
    exact hwithin.mono_entries hdigits (Nat.le_of_succ_le_succ hmore)
  | 0, _, .list _, _, hwithin => by
    rw [Within] at hwithin
    exact hwithin.elim
  | 0, _, .object _, _, hwithin => by
    rw [Within] at hwithin
    exact hwithin.elim
  | _, _, .null, _, _ | _, _, .bool _, _, _ | _, _, .float _, _, _ | _, _, .text _, _, _ => by
    rw [Within]
    trivial

theorem WithinValues.mono_values (hdigits : ReadsDigits limits other) : ∀ {depth more : Nat} {values : List Json},
    depth ≤ more → WithinValues limits depth values → WithinValues other more values
  | _, _, [], _, _ => trivial
  | _, _, _ :: _, hmore, hwithin => ⟨hwithin.1.mono hdigits hmore, hwithin.2.mono_values hdigits hmore⟩

theorem WithinEntries.mono_entries (hdigits : ReadsDigits limits other) :
    ∀ {depth more : Nat} {entries : List (String × Json)}, depth ≤ more → WithinEntries limits depth entries →
      WithinEntries other more entries
  | _, _, [], _, _ => trivial
  | _, _, (_, _) :: _, hmore, hwithin => ⟨hwithin.1.mono hdigits hmore, hwithin.2.mono_entries hdigits hmore⟩

end

end within

variable {limits : Limits} {reader : Reader} {depth : Nat}

/-- The text is scanned as the value, whatever follows it, where the interpreter may nest that deep. -/
structure Scans (limits : Limits) (reader : Reader) (depth : Nat) (text : List Char) (value : Json) : Prop where
  head : ∃ c tail, text = c :: tail ∧ is_space c = false ∧ c ≠ ']'
  scans : ∀ fuel rest, text.length ≤ fuel → Ends rest →
    scan_value_within limits reader fuel depth (text ++ rest) = .ok (value, rest)

variable {value : Json} {text : List Char}

theorem Scans.skip (hscans : Scans limits reader depth text value) (rest : List Char) :
    skip_spaces (text ++ rest) = text ++ rest ∧ (text ++ rest).head? ≠ some ']' := by
  obtain ⟨c, tail, rfl, hspace, hbracket⟩ := hscans.head
  refine ⟨List.dropWhile_cons_of_neg (by simp [hspace]), ?_⟩
  rintro ⟨⟩
  exact hbracket rfl

theorem scan_word_append (word : String) (rest : List Char) : scan_word word (word.toList ++ rest) = some rest := by
  unfold scan_word
  rw [if_pos (List.isPrefixOf_iff_prefix.mpr (List.prefix_append _ _)), List.drop_left]

variable {c : Char}

theorem scan_word_of_head_ne {word : String} (first : Char) (hfirst : word.toList.head? = some first)
    (hne : c ≠ first) (rest : List Char) : scan_word word (c :: rest) = none := by
  obtain ⟨others, hword⟩ := List.head?_eq_some_iff.mp hfirst
  unfold scan_word
  refine if_neg ?_
  rw [List.isPrefixOf_iff_prefix, hword, List.cons_prefix_cons]
  exact fun hprefix => hne hprefix.1.symm

theorem scans_of_atom {tail : List Char} (htext : text = c :: tail)
    (hspace : is_space c = false) (hplain : c ≠ ']' ∧ c ≠ '\"' ∧ c ≠ '{' ∧ c ≠ '[')
    (hdigits : ∀ rest, Ends rest → int_refused limits reader (text ++ rest) = false)
    (hscan : ∀ rest, Ends rest → scan_atom reader (text ++ rest) = some (value, rest)) :
    Scans limits reader depth text value := by
  subst htext
  refine ⟨⟨c, tail, rfl, hspace, hplain.1⟩, ?_⟩
  intro fuel rest hfuel hrest
  obtain ⟨fuel, rfl⟩ := Nat.exists_eq_succ_of_ne_zero (by rw [List.length_cons] at hfuel; omega : fuel ≠ 0)
  have hscan := hscan rest hrest
  have hdigits := hdigits rest hrest
  rw [List.cons_append] at hscan hdigits ⊢
  rw [scan_value_within, if_neg hplain.2.1, if_neg hplain.2.2.1, if_neg hplain.2.2.2, hdigits, hscan]
  rfl

/-- A text that starts like a number is an atom, if it is a number. -/
theorem scans_of_number {tail : List Char} (htext : text = c :: tail)
    (hhead : c = '-' ∨ c.isDigit = true)
    (hdigits : ∀ rest, Ends rest → int_refused limits reader (text ++ rest) = false)
    (hscan : ∀ rest, Ends rest → scan_number reader.floats (text ++ rest) = some (value, rest)) :
    Scans limits reader depth text value := by
  have hne : ∀ other : Char, other ≠ '-' → other.isDigit = false → c ≠ other := by
    rintro other hminus hdigit rfl
    rcases hhead with rfl | hfound
    · exact hminus rfl
    · cases hdigit.symm.trans hfound
  have hspace : is_space c = false := by
    unfold is_space
    simp [hne ' ' (by decide) (by decide), hne '\t' (by decide) (by decide), hne '\n' (by decide) (by decide),
      hne '\r' (by decide) (by decide)]
  refine scans_of_atom htext hspace ⟨hne ']' (by decide) (by decide), hne '\"' (by decide) (by decide),
    hne '{' (by decide) (by decide), hne '[' (by decide) (by decide)⟩ hdigits ?_
  intro rest hrest
  have hnumber := hscan rest hrest
  subst htext
  have hword : ∀ word : String, ∀ first : Char, word.toList.head? = some first → c ≠ first →
      scan_word word (c :: tail ++ rest) = none :=
    fun _ first hfirst hother => scan_word_of_head_ne first hfirst hother (tail ++ rest)
  unfold scan_atom
  rw [hnumber, hword "null" 'n' rfl (hne 'n' (by decide) (by decide)),
    hword "true" 't' rfl (hne 't' (by decide) (by decide)),
    hword "false" 'f' rfl (hne 'f' (by decide) (by decide))]
  rfl

/-- What does not start like a number is no integer. -/
theorem int_refused_of_head (hminus : c ≠ '-') (hdigit : c.isDigit = false) (rest : List Char) :
    int_refused limits reader (c :: rest) = false := by
  have hinteger : scan_integer (c :: rest) = none := by
    have hsign : (if (c :: rest).head? = some '-' then ['-'] else []) = [] := if_neg (by simpa using hminus)
    unfold scan_integer
    dsimp only
    rw [hsign, List.length_nil, List.drop_zero, List.takeWhile_cons_of_neg (by simp [hdigit])]
  unfold int_refused
  rw [hinteger]
  split
  · rename_i hnone
    cases hnone
  · rfl

theorem scans_null : Scans limits reader depth "null".toList .null := by
  refine scans_of_atom rfl (by decide) (by decide) (fun rest _ => int_refused_of_head (by decide) (by decide) _) ?_
  intro rest _
  unfold scan_atom
  rw [scan_word_append]
  rfl

theorem scans_true : Scans limits reader depth "true".toList (.bool true) := by
  refine scans_of_atom rfl (by decide) (by decide) (fun rest _ => int_refused_of_head (by decide) (by decide) _) ?_
  intro rest _
  have hnull : scan_word "null" ("true".toList ++ rest) = none := scan_word_of_head_ne 'n' rfl (by decide) _
  unfold scan_atom
  rw [hnull, scan_word_append]
  rfl

theorem scans_false : Scans limits reader depth "false".toList (.bool false) := by
  refine scans_of_atom rfl (by decide) (by decide) (fun rest _ => int_refused_of_head (by decide) (by decide) _) ?_
  intro rest _
  have hnull : scan_word "null" ("false".toList ++ rest) = none := scan_word_of_head_ne 'n' rfl (by decide) _
  have htrue : scan_word "true" ("false".toList ++ rest) = none := scan_word_of_head_ne 't' rfl (by decide) _
  unfold scan_atom
  rw [hnull, htrue, scan_word_append]
  rfl

theorem scans_bool (value : Bool) :
    Scans limits reader depth (if value then "true".toList else "false".toList) (.bool value) := by
  cases value with
  | true => exact scans_true
  | false => exact scans_false

theorem head_of_number {sign whole fraction exponent : List Char} (hnumber : IsNumber sign whole fraction exponent) :
    ∃ c tail, sign ++ whole ++ fraction ++ exponent = c :: tail ∧ (c = '-' ∨ c.isDigit = true) := by
  obtain ⟨digit, others, hwhole⟩ := List.exists_cons_of_ne_nil hnumber.whole_ne
  rcases hnumber.sign_eq with rfl | rfl
  · rw [hwhole]
    exact ⟨digit, _, rfl, .inr (hnumber.whole_digits digit (hwhole ▸ List.mem_cons_self))⟩
  · exact ⟨'-', _, rfl, .inl rfl⟩

theorem scans_int {value : Int}
    (hdigits : limits.int_digits.any (· < (Nat.toDigits 10 value.natAbs).length) = false) :
    Scans limits reader depth (int_text value) (.int value) := by
  obtain ⟨c, tail, htext, hhead⟩ : ∃ c tail, int_text value = c :: tail ∧ (c = '-' ∨ c.isDigit = true) := by
    cases value with
    | ofNat n =>
      obtain ⟨c, tail, htext, hhead⟩ := head_of_number (isNumber_digits n (.inl rfl))
      rw [List.append_nil, List.append_nil] at htext
      exact ⟨c, tail, htext, hhead⟩
    | negSucc n => exact ⟨'-', _, rfl, .inl rfl⟩
  refine scans_of_number htext hhead (fun rest hrest => ?_) (fun rest hrest => scan_number_int reader.floats value hrest)
  unfold int_refused
  rw [scan_number_int reader.floats value hrest, scan_integer_int value hrest]
  dsimp only
  rw [filter_int_text]
  exact hdigits

theorem scans_float {q : ℚ} (hreads : reader.floats.Reads q) :
    Scans limits reader depth (reader.floats.repr q) (.float (.finite q)) := by
  obtain ⟨sign, whole, fraction, exponent, hnumber, _, hrepr, _⟩ := id hreads
  obtain ⟨c, tail, htext, hhead⟩ := head_of_number hnumber
  refine scans_of_number (hrepr.trans htext) hhead (fun rest hrest => ?_) (fun rest hrest => scan_number_float hreads hrest)
  unfold int_refused
  rw [scan_number_float hreads hrest]

theorem scans_text (ensure_ascii : Bool) (value : String) : Scans limits reader depth (quote ensure_ascii value) (.text value) := by
  refine ⟨⟨_, _, rfl, by decide, by decide⟩, ?_⟩
  intro fuel rest hfuel _
  have hstring := scan_string_quote ensure_ascii value rest
  obtain ⟨fuel, rfl⟩ := Nat.exists_eq_succ_of_ne_zero (by unfold quote at hfuel; rw [List.length_cons] at hfuel; omega :
    fuel ≠ 0)
  unfold quote at hstring ⊢
  rw [List.cons_append] at hstring ⊢
  rw [scan_value_within, if_pos rfl, hstring]
  rfl

/-- A comma, a bracket or a brace ends a value. -/
theorem ends_of_mark (hmark : c = ',' ∨ c = ']' ∨ c = '}') (rest : List Char) : Ends (c :: rest) := by
  rintro other ⟨⟩
  rcases hmark with rfl | rfl | rfl
  all_goals decide

theorem skip_spaces_mark (hmark : c = ',' ∨ c = ']' ∨ c = '}') (rest : List Char) :
    skip_spaces (c :: rest) = c :: rest := by
  refine List.dropWhile_cons_of_neg ?_
  rcases hmark with rfl | rfl | rfl
  all_goals decide

theorem skip_spaces_colon (rest : List Char) : skip_spaces (':' :: rest) = ':' :: rest :=
  List.dropWhile_cons_of_neg (by decide)

variable {items : List (List Char × Json)}

theorem skip_join (hne : items ≠ [])
    (hitems : ∀ item ∈ items, Scans limits reader depth item.1 item.2) (rest : List Char) :
    skip_spaces (List.intercalate [','] (items.map Prod.fst) ++ rest) =
        List.intercalate [','] (items.map Prod.fst) ++ rest ∧
      (List.intercalate [','] (items.map Prod.fst) ++ rest).head? ≠ some ']' := by
  obtain ⟨item, others, rfl⟩ := List.exists_cons_of_ne_nil hne
  have hitem := hitems item List.mem_cons_self
  cases others with
  | nil =>
    rw [List.map_singleton, List.intercalate_singleton]
    exact hitem.skip rest
  | cons next others =>
    rw [List.map_cons, List.map_cons, List.intercalate_cons_cons, List.append_assoc, List.append_assoc]
    exact hitem.skip _

/-- The values of a list are scanned one after the other. -/
theorem scan_elements_join (hne : items ≠ [])
    (hitems : ∀ item ∈ items, Scans limits reader depth item.1 item.2) (fuel : Nat) (rest : List Char)
    (hfuel : (List.intercalate [','] (items.map Prod.fst)).length < fuel) :
    scan_elements_within limits reader fuel depth (List.intercalate [','] (items.map Prod.fst) ++ ']' :: rest) =
      .ok (items.map Prod.snd, rest) := by
  induction items generalizing fuel with
  | nil => exact absurd rfl hne
  | cons item others ih =>
    obtain ⟨fuel, rfl⟩ := Nat.exists_eq_succ_of_ne_zero (by omega : fuel ≠ 0)
    have hitem := hitems item List.mem_cons_self
    cases others with
    | nil =>
      rw [List.map_singleton, List.intercalate_singleton] at hfuel ⊢
      have hvalue := hitem.scans fuel (']' :: rest) (by omega) (ends_of_mark (by decide) rest)
      rw [scan_elements_within, hvalue, ok_bind]
      dsimp only
      rw [skip_spaces_mark (by decide)]
      rfl
    | cons next others =>
      rw [List.map_cons, List.map_cons, List.intercalate_cons_cons, ← List.map_cons] at hfuel ⊢
      rw [List.length_append, List.length_append, List.length_singleton] at hfuel
      have hvalue := hitem.scans fuel (',' :: (List.intercalate [','] ((next :: others).map Prod.fst) ++ ']' :: rest))
        (by omega) (ends_of_mark (by decide) _)
      rw [List.append_assoc, List.append_assoc, List.singleton_append]
      rw [scan_elements_within, hvalue, ok_bind]
      dsimp only
      rw [skip_spaces_mark (by decide)]
      dsimp only
      have hothers_mem : ∀ other ∈ next :: others, Scans limits reader depth other.1 other.2 :=
        fun other hother => hitems other (List.mem_cons_of_mem _ hother)
      rw [if_neg (by decide), if_pos rfl, (skip_join (List.cons_ne_nil _ _) hothers_mem _).1,
        ih (List.cons_ne_nil _ _) hothers_mem fuel (by omega)]
      rfl

/-- The text of an entry, for its key and the text of its value. -/
def member_text (ensure_ascii : Bool) (item : String × List Char × Json) : List Char :=
  quote ensure_ascii item.1 ++ ':' :: item.2.1

theorem scan_string_member (ensure_ascii : Bool) (item : String × List Char × Json) (rest : List Char) :
    scan_string (member_text ensure_ascii item ++ rest) = some (item.1, ':' :: (item.2.1 ++ rest)) := by
  unfold member_text
  rw [List.append_assoc]
  exact scan_string_quote ensure_ascii item.1 _

theorem skip_member (ensure_ascii : Bool) (item : String × List Char × Json) (rest : List Char) :
    skip_spaces (member_text ensure_ascii item ++ rest) = member_text ensure_ascii item ++ rest ∧
      (member_text ensure_ascii item ++ rest).head? ≠ some '}' :=
  ⟨List.dropWhile_cons_of_neg (by decide), by rintro ⟨⟩⟩

theorem length_member (ensure_ascii : Bool) (item : String × List Char × Json) :
    item.2.1.length < (member_text ensure_ascii item).length := by
  unfold member_text
  rw [List.length_append, List.length_cons]
  omega

variable {items : List (String × List Char × Json)}

theorem skip_members (ensure_ascii : Bool) (hne : items ≠ []) (rest : List Char) :
    skip_spaces (List.intercalate [','] (items.map (member_text ensure_ascii)) ++ rest) =
        List.intercalate [','] (items.map (member_text ensure_ascii)) ++ rest ∧
      (List.intercalate [','] (items.map (member_text ensure_ascii)) ++ rest).head? ≠ some '}' := by
  obtain ⟨item, others, rfl⟩ := List.exists_cons_of_ne_nil hne
  cases others with
  | nil =>
    rw [List.map_singleton, List.intercalate_singleton]
    exact skip_member ensure_ascii item rest
  | cons next others =>
    rw [List.map_cons, List.map_cons, List.intercalate_cons_cons, List.append_assoc, List.append_assoc]
    exact skip_member ensure_ascii item _

/-- The entries of an object are scanned one after the other. -/
theorem scan_members_join (ensure_ascii : Bool) (hne : items ≠ [])
    (hitems : ∀ item ∈ items, Scans limits reader depth item.2.1 item.2.2) (fuel : Nat) (rest : List Char)
    (hfuel : (List.intercalate [','] (items.map (member_text ensure_ascii))).length < fuel) :
    scan_members_within limits reader fuel depth
        (List.intercalate [','] (items.map (member_text ensure_ascii)) ++ '}' :: rest) =
      .ok (items.map (fun item => (item.1, item.2.2)), rest) := by
  induction items generalizing fuel with
  | nil => exact absurd rfl hne
  | cons item others ih =>
    obtain ⟨fuel, rfl⟩ := Nat.exists_eq_succ_of_ne_zero (by omega : fuel ≠ 0)
    have hitem := hitems item List.mem_cons_self
    have hlength := length_member ensure_ascii item
    cases others with
    | nil =>
      rw [List.map_singleton, List.intercalate_singleton] at hfuel ⊢
      have hvalue := hitem.scans fuel ('}' :: rest) (by omega) (ends_of_mark (by decide) rest)
      rw [scan_members_within, scan_string_member, or_invalid, ok_bind]
      dsimp only
      rw [skip_spaces_colon]
      dsimp only
      rw [if_pos rfl, (hitem.skip _).1, hvalue, ok_bind]
      dsimp only
      rw [skip_spaces_mark (by decide)]
      rfl
    | cons next others =>
      rw [List.map_cons, List.map_cons, List.intercalate_cons_cons, ← List.map_cons] at hfuel ⊢
      rw [List.length_append, List.length_append, List.length_singleton] at hfuel
      have hothers : ∀ other ∈ next :: others, Scans limits reader depth other.2.1 other.2.2 :=
        fun other hother => hitems other (List.mem_cons_of_mem _ hother)
      have hvalue := fun rest => hitem.scans fuel (',' :: rest) (by omega) (ends_of_mark (by decide) rest)
      rw [List.append_assoc, List.append_assoc, List.singleton_append]
      rw [scan_members_within, scan_string_member, or_invalid, ok_bind]
      dsimp only
      rw [skip_spaces_colon]
      dsimp only
      rw [if_pos rfl, (hitem.skip _).1, hvalue, ok_bind]
      dsimp only
      rw [skip_spaces_mark (by decide)]
      dsimp only
      rw [if_neg (by decide), if_pos rfl, (skip_members ensure_ascii (List.cons_ne_nil _ _) _).1,
        ih (List.cons_ne_nil _ _) hothers fuel (by omega)]
      rfl

theorem scans_list {items : List (List Char × Json)} (hitems : ∀ item ∈ items, Scans limits reader depth item.1 item.2) :
    Scans limits reader (depth + 1) ('[' :: (List.intercalate [','] (items.map Prod.fst) ++ [']']))
      (.list (items.map Prod.snd)) := by
  refine ⟨⟨_, _, rfl, by decide, by decide⟩, ?_⟩
  intro fuel rest hfuel _
  rw [List.length_cons, List.length_append, List.length_singleton] at hfuel
  obtain ⟨fuel, rfl⟩ := Nat.exists_eq_succ_of_ne_zero (by omega : fuel ≠ 0)
  rw [List.cons_append, List.append_assoc, List.singleton_append]
  rw [scan_value_within, if_neg (by decide), if_neg (by decide), if_pos rfl, enter]
  rcases Decidable.em (items = []) with rfl | hne
  · rw [List.map_nil, List.map_nil, List.intercalate_nil, List.nil_append, skip_spaces_mark (by decide)]
    rfl
  · obtain ⟨hskip, hhead⟩ := skip_join hne hitems (']' :: rest)
    rw [hskip, if_neg hhead, scan_elements_join hne hitems fuel rest (by omega)]
    rfl

theorem scans_object (hbuilds : reader.Builds) (ensure_ascii : Bool) (hnodup : (items.map Prod.fst).Nodup)
    (hitems : ∀ item ∈ items, Scans limits reader depth item.2.1 item.2.2) :
    Scans limits reader (depth + 1) ('{' :: (List.intercalate [','] (items.map (member_text ensure_ascii)) ++ ['}']))
      (.object (items.map (fun item => (item.1, item.2.2)))) := by
  refine ⟨⟨_, _, rfl, by decide, by decide⟩, ?_⟩
  intro fuel rest hfuel _
  rw [List.length_cons, List.length_append, List.length_singleton] at hfuel
  obtain ⟨fuel, rfl⟩ := Nat.exists_eq_succ_of_ne_zero (by omega : fuel ≠ 0)
  have hobject := hbuilds (items.map (fun item => (item.1, item.2.2))) (by rw [List.map_map]; exact hnodup)
  rw [List.cons_append, List.append_assoc, List.singleton_append]
  rw [scan_value_within, if_neg (by decide), if_pos rfl, enter]
  rcases Decidable.em (items = []) with rfl | hne
  · rw [List.map_nil] at hobject
    rw [List.map_nil, List.map_nil, List.intercalate_nil, List.nil_append, skip_spaces_mark (by decide), hobject]
    rfl
  · obtain ⟨hskip, hhead⟩ := skip_members ensure_ascii hne ('}' :: rest)
    rw [hskip, if_neg hhead, scan_members_join ensure_ascii hne hitems fuel rest (by omega), ok_bind]
    dsimp only
    rw [hobject]
    rfl

/-- The floats are finite, and read back from their text. -/
def Readable (floats : FloatText) (found : List JsonFloat) : Prop :=
  ∀ float ∈ found, ∃ q, float = .finite q ∧ floats.Reads q

theorem Readable.left {floats : FloatText} {found others : List JsonFloat} (hread : Readable floats (found ++ others)) :
    Readable floats found :=
  fun float hfloat => hread float (List.mem_append_left _ hfloat)

theorem Readable.right {floats : FloatText} {found others : List JsonFloat} (hread : Readable floats (found ++ others)) :
    Readable floats others :=
  fun float hfloat => hread float (List.mem_append_right _ hfloat)

/-- The items of an object: its entries in the order of their keys, with the text of each value. -/
def object_items (floats : FloatText) (ensure_ascii : Bool) (entries : List (String × Json)) :
    List (String × List Char × Json) :=
  (sort_keys entries).map (fun entry => (entry.1, encode floats ensure_ascii entry.2, sorted entry.2))

theorem encode_object (floats : FloatText) (ensure_ascii : Bool) (entries : List (String × Json)) :
    encode floats ensure_ascii (.object entries) = '{' :: (List.intercalate [',']
      ((object_items floats ensure_ascii entries).map (member_text ensure_ascii)) ++ ['}']) := by
  unfold encode object_items
  rw [encode_entries_eq_map, sort_keys_map, List.map_map, List.map_map]
  rfl

theorem sorted_object (floats : FloatText) (ensure_ascii : Bool) (entries : List (String × Json)) :
    sorted (.object entries) =
      .object ((object_items floats ensure_ascii entries).map (fun item => (item.1, item.2.2))) := by
  unfold sorted object_items
  rw [sorted_entries_eq_map, sort_keys_map, List.map_map]
  rfl

theorem nodup_object_items (floats : FloatText) (ensure_ascii : Bool) {entries : List (String × Json)}
    (hnodup : (entries.map Prod.fst).Nodup) : ((object_items floats ensure_ascii entries).map Prod.fst).Nodup := by
  unfold object_items
  rw [List.map_map]
  exact ((sort_keys_perm entries).map Prod.fst).nodup_iff.mpr hnodup

mutual

/-- The text of a value is scanned as the value, with its entries in the order of their keys. -/
theorem scans_encode (hbuilds : reader.Builds) (ensure_ascii : Bool) : ∀ {depth : Nat} (value : Json), Distinct value →
    Readable reader.floats (floats_in value) → Within limits depth value →
    Scans limits reader depth (encode reader.floats ensure_ascii value) (sorted value)
  | _, .null, _, _, _ => scans_null
  | _, .bool value, _, _, _ => scans_bool value
  | _, .int value, _, _, hwithin => by
    rw [Within] at hwithin
    exact scans_int hwithin
  | _, .float value, _, hread, _ => by
    obtain ⟨q, rfl, hreads⟩ := hread value List.mem_cons_self
    exact scans_float hreads
  | _, .text value, _, _, _ => scans_text ensure_ascii value
  | 0, .list _, _, _, hwithin => by
    rw [Within] at hwithin
    exact hwithin.elim
  | 0, .object _, _, _, hwithin => by
    rw [Within] at hwithin
    exact hwithin.elim
  | depth + 1, .list values, hdistinct, hread, hwithin => by
    rw [Within] at hwithin
    have hitems := scans_encode_values hbuilds ensure_ascii values hdistinct hread hwithin
    have hlist := scans_list hitems
    rw [List.map_map, List.map_map] at hlist
    unfold encode sorted
    rw [encode_values_eq_map, sorted_values_eq_map]
    exact hlist
  | depth + 1, .object entries, hdistinct, hread, hwithin => by
    rw [Within] at hwithin
    have hentries := scans_encode_entries hbuilds ensure_ascii entries hdistinct.2 hread hwithin
    rw [encode_object, sorted_object reader.floats ensure_ascii]
    refine scans_object hbuilds ensure_ascii (nodup_object_items _ _ hdistinct.1) ?_
    intro item hitem
    obtain ⟨entry, hentry, rfl⟩ := List.mem_map.mp hitem
    exact hentries entry ((sort_keys_perm entries).mem_iff.mp hentry)

theorem scans_encode_values (hbuilds : reader.Builds) (ensure_ascii : Bool) : ∀ {depth : Nat} (values : List Json),
    DistinctValues values → Readable reader.floats (floats_in_values values) → WithinValues limits depth values →
    ∀ item ∈ values.map (fun value => (encode reader.floats ensure_ascii value, sorted value)),
      Scans limits reader depth item.1 item.2
  | _, [], _, _, _ => fun _ hitem => nomatch hitem
  | _, value :: rest, hdistinct, hread, hwithin => by
    have hvalue := scans_encode hbuilds ensure_ascii value hdistinct.1 hread.left hwithin.1
    have hrest := scans_encode_values hbuilds ensure_ascii rest hdistinct.2 hread.right hwithin.2
    intro item hitem
    rcases List.mem_cons.mp hitem with rfl | hitem
    · exact hvalue
    · exact hrest item hitem

theorem scans_encode_entries (hbuilds : reader.Builds) (ensure_ascii : Bool) :
    ∀ {depth : Nat} (entries : List (String × Json)), DistinctEntries entries →
    Readable reader.floats (floats_in_entries entries) → WithinEntries limits depth entries →
    ∀ entry ∈ entries, Scans limits reader depth (encode reader.floats ensure_ascii entry.2) (sorted entry.2)
  | _, [], _, _, _ => fun _ hentry => nomatch hentry
  | _, (key, value) :: rest, hdistinct, hread, hwithin => by
    have hvalue := scans_encode hbuilds ensure_ascii value hdistinct.1 hread.left hwithin.1
    have hrest := scans_encode_entries hbuilds ensure_ascii rest hdistinct.2 hread.right hwithin.2
    intro entry hentry
    rcases List.mem_cons.mp hentry with rfl | hentry
    · exact hvalue
    · exact hrest entry hentry

end

variable {spaces : List Char}

theorem ends_of_spaces (hspaces : ∀ c ∈ spaces, is_space c = true) : Ends spaces := by
  intro c hc
  have hspace := hspaces c (List.mem_of_mem_head? hc)
  unfold is_space at hspace
  simp only [Bool.or_eq_true, decide_eq_true_eq] at hspace
  rcases hspace with ((rfl | rfl) | rfl) | rfl
  all_goals decide

/-- A value that was written reads back where the interpreter takes it, with its entries in the order of their keys,
whatever white space follows. -/
theorem loads_within_encode (hbuilds : reader.Builds) (ensure_ascii : Bool) (hdistinct : Distinct value)
    (hread : Readable reader.floats (floats_in value)) (hwithin : Within limits limits.scan_depth value)
    (hspaces : ∀ c ∈ spaces, is_space c = true) :
    loads_within limits reader (String.ofList (encode reader.floats ensure_ascii value ++ spaces)) =
      .ok (sorted value) := by
  have hscans := scans_encode hbuilds ensure_ascii value hdistinct hread hwithin
  have hskip := (hscans.skip spaces).1
  have hvalue := hscans.scans (2 * (encode reader.floats ensure_ascii value ++ spaces).length + 2) spaces
    (by rw [List.length_append]; omega) (ends_of_spaces hspaces)
  unfold loads_within
  rw [String.toList_ofList, String.length_ofList, hskip, hvalue, ok_bind]
  exact if_pos (List.dropWhile_eq_nil_iff.mpr hspaces)

/-- A value that was written reads back, with its entries in the order of their keys, whatever white space follows. -/
theorem loads_encode (hbuilds : reader.Builds) (ensure_ascii : Bool) (hdistinct : Distinct value)
    (hread : Readable reader.floats (floats_in value))
    (hspaces : ∀ c ∈ spaces, is_space c = true) :
    loads reader (String.ofList (encode reader.floats ensure_ascii value ++ spaces)) = some (sorted value) := by
  let unlimited : Limits := { scan_depth := nesting value, encode_depth := 0, int_digits := none }
  have hwithin : Within unlimited unlimited.scan_depth value := within_of_nesting rfl (Nat.le_refl _)
  exact loads_of_loads_within (loads_within_encode hbuilds ensure_ascii hdistinct hread hwithin hspaces)

end values

end python.json
