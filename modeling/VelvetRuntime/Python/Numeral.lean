import VelvetRuntime.Python.Bytes

open python.num python.str python.bytes
open python.json (hex_value)

namespace python.numeral

/-- What the running interpreter brings to `int` and `float`: the decimal digits of its Unicode table, of which the part on
ASCII text is fixed, and the number of digits that `int` reads. -/
class Numerals where
  decimal : Char → Option Nat
  decimal_lt : ∀ c digit, decimal c = some digit → digit < 10
  decimal_ascii : ∀ c, c.toNat < 128 → decimal c = if c.isDigit then some (c.toNat - 48) else none
  decimal_space : ∀ c, isspace c = true → decimal c = none
  int_max_str_digits : Option Nat

open Numerals (decimal)

variable {c : Char}

theorem ascii_decimal_space (hspace : isspace c = true) : ¬c.isDigit = true := by
  intro hdigit
  obtain ⟨hlow, hhigh⟩ := Char.isDigit_iff_toNat.mp hdigit
  change 48 ≤ c.toNat at hlow
  change c.toNat ≤ 57 at hhigh
  simp only [isspace, Bool.or_eq_true, Bool.and_eq_true, decide_eq_true_eq, beq_iff_eq] at hspace
  omega

/-- The digits of ASCII text only, and as many of them as the interpreter reads by default. -/
@[reducible] def Numerals.ascii : Numerals where
  decimal c := if c.isDigit then some (c.toNat - 48) else none
  decimal_lt c digit hdigit := by
    split at hdigit
    · rename_i hc
      obtain ⟨-, hhigh⟩ := Char.isDigit_iff_toNat.mp hc
      cases hdigit
      change c.toNat ≤ 57 at hhigh
      omega
    · cases hdigit
  decimal_ascii _ _ := rfl
  decimal_space _ hspace := if_neg (ascii_decimal_space hspace)
  int_max_str_digits := some 4300

variable [Numerals]

/-- A character as the number parsers see it: digits and spaces of any script become those of ASCII. -/
def plain (c : Char) : Char :=
  if c.toNat < 128 then c
  else if isspace c then ' '
  else match decimal c with
    | some digit => Nat.digitChar digit
    | none => '?'

/-- Without the spaces around it. -/
def trim (text : List Char) : List Char :=
  ((text.dropWhile is_ascii_space).reverse.dropWhile is_ascii_space).reverse

/-- Without the underscores between its digits; nothing where another underscore is found. -/
def drop_underscores (is_digit : Char → Bool) (after_digit : Bool) : List Char → Option (List Char)
  | [] => some []
  | c :: rest =>
    if c = '_' then
      if after_digit && rest.head?.any is_digit then drop_underscores is_digit false rest else none
    else (drop_underscores is_digit (is_digit c) rest).map (c :: ·)

/-- Whether there is a minus sign, and what follows the sign. -/
def scan_sign : List Char → Bool × List Char
  | c :: rest => if c = '-' then (true, rest) else if c = '+' then (false, rest) else (false, c :: rest)
  | [] => (false, [])

/-- The digits of a text in which there is nothing else but underscores between them. -/
def scan_digits (is_digit : Char → Bool) (text : List Char) : Option (List Char) :=
  (drop_underscores is_digit false text).filter (fun digits => !digits.isEmpty && digits.all is_digit)

/-- `int(text)`; nothing when it raises a `ValueError`. -/
def int_of_text (text : List Char) : Option Int :=
  let (negative, text) := scan_sign (trim (text.map plain))
  (scan_digits Char.isDigit text).bind fun digits =>
    if Numerals.int_max_str_digits.any (· < digits.length) then none
    else
      let value := Nat.ofDigitChars 10 digits 0
      some (if negative then -value else value)

/-- What follows the prefix of a hexadecimal literal. -/
def skip_hex_mark : List Char → List Char
  | '0' :: c :: rest =>
    if c = 'x' ∨ c = 'X' then if rest.head? = some '_' then rest.tail else rest
    else '0' :: c :: rest
  | text => text

/-- `int(text, 16)`; nothing when it raises a `ValueError`. -/
def int_of_hex (text : List Char) : Option Int :=
  let (negative, text) := scan_sign (trim (text.map plain))
  (scan_digits (fun c => (hex_value c).isSome) (skip_hex_mark text)).map fun digits =>
    let value := digits.foldl (fun value c => 16 * value + (hex_value c).getD 0) 0
    if negative then -value else value

/-- What an exponent at the end of a literal says. -/
def scan_exponent : List Char → Option Int
  | [] => some 0
  | c :: rest =>
    let (negative, digits) := scan_sign rest
    if (c = 'e' ∨ c = 'E') ∧ digits ≠ [] ∧ digits.all Char.isDigit then
      let value := Nat.ofDigitChars 10 digits 0
      some (if negative then -value else value)
    else none

/-- `value * 10 ** exponent`. -/
def scale (value : ℚ) (exponent : Int) : ℚ :=
  if 0 ≤ exponent then value * 10 ^ exponent.toNat else value / 10 ^ (-exponent).toNat

/-- The exact value of a decimal literal without a sign. -/
def scan_unsigned (text : List Char) : Option ℚ :=
  let whole := text.takeWhile Char.isDigit
  let rest := text.dropWhile Char.isDigit
  let fraction := if rest.head? = some '.' then rest.tail.takeWhile Char.isDigit else []
  let rest := if rest.head? = some '.' then rest.tail.dropWhile Char.isDigit else rest
  if whole ++ fraction = [] then none
  else (scan_exponent rest).map fun exponent =>
    scale (Nat.ofDigitChars 10 (whole ++ fraction) 0) (exponent - fraction.length)

/-- `float(text)`, finite values exact; nothing when it raises a `ValueError`. What rounds beyond the greatest float is
infinite. -/
def float_of_text (text : List Char) : Option JsonFloat :=
  (drop_underscores Char.isDigit false (trim (text.map plain))).bind fun text =>
    let (negative, text) := scan_sign text
    if text.map Char.toLower ∈ ["inf".toList, "infinity".toList] then some (if negative then .neg_inf else .inf)
    else if text.map Char.toLower = "nan".toList then some .nan
    else (scan_unsigned text).map fun value =>
      if 2 ^ 1024 - 2 ^ 970 ≤ value then if negative then .neg_inf else .inf
      else .finite (if negative then -value else value)

section readings

/-- The value of decimal digits. -/
def digits_value (digits : List Char) : Option Nat :=
  digits.foldlM (fun value c => (decimal c).map (10 * value + ·)) 0

/-- Decimal digits and nothing else. -/
structure ReadsDigits (text : List Char) (value : Nat) : Prop where
  given : text ≠ []
  value_eq : digits_value text = some value

/-- Decimal digits with a point before, among or after them at most, and no sign. -/
def ReadsUnsigned (text : List Char) (value : ℚ) : Prop :=
  ∃ whole fraction number, (text = whole ∧ fraction = [] ∨ text = whole ++ '.' :: fraction) ∧
    ReadsDigits (whole ++ fraction) number ∧ value = number / 10 ^ fraction.length

theorem plain_point : plain '.' = '.' := rfl

theorem decimal_point : decimal '.' = none := Numerals.decimal_ascii '.' (by decide)

theorem plain_of_decimal {digit : Nat} (hdigit : decimal c = some digit) :
    (plain c).isDigit = true ∧ (plain c).toNat - 48 = digit := by
  unfold plain
  by_cases hascii : c.toNat < 128
  · rw [Numerals.decimal_ascii c hascii] at hdigit
    rw [if_pos hascii]
    split at hdigit
    · rename_i hc
      exact ⟨hc, Option.some.inj hdigit⟩
    · cases hdigit
  · have hvisible : ¬isspace c = true := fun hspace => by
      rw [Numerals.decimal_space c hspace] at hdigit
      cases hdigit
    have hall : ∀ digit : Fin 10, (Nat.digitChar digit).isDigit = true ∧ (Nat.digitChar digit).toNat - 48 = digit := by
      decide
    rw [if_neg hascii, if_neg hvisible, hdigit]
    exact hall ⟨digit, Numerals.decimal_lt c digit hdigit⟩

theorem digits_value_eq_some_iff {digits : List Char} {value : Nat} :
    digits_value digits = some value ↔ (∀ c ∈ digits, (decimal c).isSome = true) ∧
      value = Nat.ofDigitChars 10 (digits.map plain) 0 := by
  have hfrom : ∀ start, digits.foldlM (fun value c => (decimal c).map (10 * value + ·)) start = some value ↔
      (∀ c ∈ digits, (decimal c).isSome = true) ∧ value = Nat.ofDigitChars 10 (digits.map plain) start := by
    induction digits with
    | nil => exact fun start => ⟨fun hsome => ⟨nofun, (Option.some.inj hsome).symm⟩, fun h => congrArg some h.2.symm⟩
    | cons c digits ih =>
      intro start
      rw [List.foldlM_cons, List.forall_mem_cons, List.map_cons, Nat.ofDigitChars_cons]
      cases hdigit : decimal c with
      | none => simp
      | some digit =>
        have hplain := (plain_of_decimal hdigit).2
        change (plain c).toNat - '0'.toNat = digit at hplain
        rw [hplain]
        simpa using ih (10 * start + digit)
  exact hfrom 0

variable {value : ℚ}

/-- What a reading without a sign consists of. -/
theorem ReadsUnsigned.mem {text : List Char} (hreads : ReadsUnsigned text value) (hc : c ∈ text) :
    (decimal c).isSome = true ∨ c = '.' := by
  obtain ⟨whole, fraction, number, htext, hdigits, -⟩ := hreads
  have hall := (digits_value_eq_some_iff.mp hdigits.value_eq).1
  rcases htext with ⟨rfl, rfl⟩ | rfl
  · exact .inl (hall c (List.mem_append_left _ hc))
  · rcases List.mem_append.mp hc with hc | hc
    · exact .inl (hall c (List.mem_append_left _ hc))
    · rcases List.mem_cons.mp hc with rfl | hc
      · exact .inr rfl
      · exact .inl (hall c (List.mem_append_right _ hc))

/-- Where there is no point, a reading is one of digits only. -/
theorem ReadsUnsigned.digits {text : List Char} {value : ℚ} (hreads : ReadsUnsigned text value)
    (hall : ∀ c ∈ text, (decimal c).isSome = true) : ∃ number : Nat, ReadsDigits text number ∧ value = number := by
  obtain ⟨whole, fraction, number, htext, hdigits, hvalue⟩ := hreads
  rcases htext with ⟨rfl, rfl⟩ | rfl
  · exact ⟨number, List.append_nil text ▸ hdigits, by simpa using hvalue⟩
  · have hpoint := hall '.' (List.mem_append_right _ List.mem_cons_self)
    rw [decimal_point] at hpoint
    cases hpoint

section parsers

variable {text : List Char}

omit [Numerals] in
theorem trim_of_visible (hvisible : ∀ c ∈ text, is_ascii_space c = false) : trim text = text := by
  have hkeep : ∀ t : List Char, (∀ c ∈ t, is_ascii_space c = false) → t.dropWhile is_ascii_space = t := by
    intro t ht
    cases t with
    | nil => rfl
    | cons c rest => exact List.dropWhile_cons_of_neg (by simp [ht c List.mem_cons_self])
  unfold trim
  rw [hkeep text hvisible, hkeep _ (fun c hc => hvisible c (List.mem_reverse.mp hc)), List.reverse_reverse]

omit [Numerals] in
theorem drop_underscores_of_none (is_digit : Char → Bool) (hnone : '_' ∉ text) (after_digit : Bool) :
    drop_underscores is_digit after_digit text = some text := by
  induction text generalizing after_digit with
  | nil => rfl
  | cons c rest ih =>
    rw [List.mem_cons, not_or] at hnone
    unfold drop_underscores
    rw [if_neg (Ne.symm hnone.1), ih hnone.2]
    rfl

omit [Numerals] in
theorem scan_sign_of_none (hminus : '-' ∉ text) (hplus : '+' ∉ text) : scan_sign text = (false, text) := by
  cases text with
  | nil => rfl
  | cons c rest =>
    rw [List.mem_cons, not_or] at hminus hplus
    dsimp only [scan_sign]
    rw [if_neg (Ne.symm hminus.1), if_neg (Ne.symm hplus.1)]

omit [Numerals] in
/-- Digits and points that are scanned are digits with a point at most. -/
theorem scan_unsigned_plain (hplain : ∀ c ∈ text, c.isDigit = true ∨ c = '.')
    (hscan : scan_unsigned text = some value) : ∃ whole fraction : List Char,
      (text = whole ∧ fraction = [] ∨ text = whole ++ '.' :: fraction) ∧ whole ++ fraction ≠ [] ∧
      (∀ c ∈ whole ++ fraction, c.isDigit = true) ∧
      value = (Nat.ofDigitChars 10 (whole ++ fraction) 0 : ℚ) / 10 ^ fraction.length := by
  have hrest : ∀ t : List Char, (∀ c ∈ t, c.isDigit = true ∨ c = '.') →
      t.dropWhile Char.isDigit = [] ∨ ∃ more, t.dropWhile Char.isDigit = '.' :: more := by
    intro t ht
    cases hdrop : t.dropWhile Char.isDigit with
    | nil => exact .inl rfl
    | cons c more =>
      have hhead := List.head?_dropWhile_not Char.isDigit t
      rw [hdrop] at hhead
      have hmem := (List.dropWhile_sublist (l := t) Char.isDigit).subset (hdrop ▸ List.mem_cons_self)
      rcases ht c hmem with hdigit | rfl
      · exact absurd hdigit (by simpa using hhead)
      · exact .inr ⟨more, rfl⟩
  have hdigits : ∀ t : List Char, ∀ c ∈ t.takeWhile Char.isDigit, c.isDigit = true := fun _ _ hc =>
    List.mem_takeWhile_imp hc
  have hsplit := List.takeWhile_append_dropWhile (p := Char.isDigit) (l := text)
  unfold scan_unsigned at hscan
  dsimp only at hscan
  rcases hrest text hplain with hend | ⟨more, hmore⟩
  · rw [hend] at hscan hsplit
    simp only [List.head?_nil, reduceCtorEq, if_false, List.append_nil] at hscan hsplit
    rw [hsplit] at hscan
    split at hscan
    · cases hscan
    rename_i hgiven
    obtain ⟨exponent, hexponent, hvalue⟩ := Option.map_eq_some_iff.mp hscan
    cases hexponent
    refine ⟨text, [], .inl ⟨rfl, rfl⟩, by simpa using hgiven, fun c hc => hdigits text c ?_, ?_⟩
    · rwa [hsplit, ← List.append_nil text]
    · rw [← hvalue]
      simp [scale]
  · have hmore_plain : ∀ c ∈ more, c.isDigit = true ∨ c = '.' := fun c hc =>
      hplain c ((List.dropWhile_sublist (l := text) Char.isDigit).subset (hmore ▸ List.mem_cons_of_mem _ hc))
    have hfraction := List.takeWhile_append_dropWhile (p := Char.isDigit) (l := more)
    rw [hmore] at hscan hsplit
    simp only [List.head?_cons, if_true, List.tail_cons] at hscan
    split at hscan
    · cases hscan
    rename_i hgiven
    obtain ⟨exponent, hexponent, hvalue⟩ := Option.map_eq_some_iff.mp hscan
    rcases hrest more hmore_plain with hend | ⟨others, hothers⟩
    · rw [hend] at hexponent hfraction
      rw [List.append_nil] at hfraction
      cases hexponent
      rw [hfraction] at hgiven hvalue
      refine ⟨text.takeWhile Char.isDigit, more, .inr hsplit.symm, hgiven, fun c hc => ?_, ?_⟩
      · rcases List.mem_append.mp hc with hc | hc
        · exact hdigits text c hc
        · exact hdigits more c (hfraction.symm ▸ hc)
      · rw [← hvalue, scale]
        split
        · rename_i hnonneg
          have hempty : more.length = 0 := by omega
          rw [hempty]
          simp
        · simp
    · rw [hothers] at hexponent
      simp [scan_exponent] at hexponent

theorem plain_of_digit_or_point (hc : (decimal c).isSome = true ∨ c = '.') :
    (plain c).isDigit = true ∨ plain c = '.' := by
  rcases hc with hdecimal | rfl
  · obtain ⟨digit, hdigit⟩ := Option.isSome_iff_exists.mp hdecimal
    exact .inl (plain_of_decimal hdigit).1
  · exact .inr plain_point

theorem point_or_decimal (hc : (decimal c).isSome = true ∨ c = '.') :
    (plain c = '.' → c = '.') ∧ ((plain c).isDigit = true → (decimal c).isSome = true) := by
  rcases hc with hdecimal | rfl
  · obtain ⟨digit, hdigit⟩ := Option.isSome_iff_exists.mp hdecimal
    refine ⟨fun hpoint => ?_, fun _ => hdecimal⟩
    have hplain := (plain_of_decimal hdigit).1
    rw [hpoint] at hplain
    exact absurd hplain (by decide)
  · exact ⟨fun _ => rfl, fun hdigit => absurd (plain_point ▸ hdigit) (by decide)⟩

/-- The reading of a text of digits and points by the reading of its plain characters. -/
theorem reads_of_plain (htext : ∀ c ∈ text, (decimal c).isSome = true ∨ c = '.') {whole fraction : List Char}
    (hparts : text.map plain = whole ∧ fraction = [] ∨ text.map plain = whole ++ '.' :: fraction)
    (hgiven : whole ++ fraction ≠ []) (hdigits : ∀ c ∈ whole ++ fraction, c.isDigit = true)
    (hvalue : value = (Nat.ofDigitChars 10 (whole ++ fraction) 0 : ℚ) / 10 ^ fraction.length) :
    ReadsUnsigned text value := by
  have hreads : ∀ digits : List Char, (∀ c ∈ digits, c ∈ text) → digits.map plain = whole ++ fraction →
      ReadsDigits digits (Nat.ofDigitChars 10 (whole ++ fraction) 0) := by
    intro digits hmem hmap
    refine ⟨fun hnil => hgiven (by rw [← hmap, hnil]; rfl), digits_value_eq_some_iff.mpr ⟨fun c hc => ?_, by rw [hmap]⟩⟩
    exact (point_or_decimal (htext c (hmem c hc))).2 (hdigits _ (hmap ▸ List.mem_map_of_mem hc))
  rcases hparts with ⟨hwhole, rfl⟩ | hparts
  · refine ⟨text, [], _, .inl ⟨rfl, rfl⟩, ?_, hvalue⟩
    rw [List.append_nil]
    exact hreads text (fun c hc => hc) (by rw [hwhole, List.append_nil])
  · obtain ⟨front, back, rfl, hfront, hback⟩ := List.map_eq_append_iff.mp hparts
    obtain ⟨c, digits, rfl, hc, hmap⟩ := List.map_eq_cons_iff.mp hback
    have hpoint := (point_or_decimal (htext c (List.mem_append_right _ List.mem_cons_self))).1 hc
    subst hpoint
    refine ⟨front, digits, _, .inr rfl, hreads (front ++ digits) (fun c hc => ?_) (by rw [List.map_append, hfront, hmap]),
      by rw [hvalue, ← hmap, List.length_map]⟩
    rcases List.mem_append.mp hc with hc | hc
    · exact List.mem_append_left _ hc
    · exact List.mem_append_right _ (List.mem_cons_of_mem _ hc)

omit [Numerals] in
theorem digit_range (hdigit : c.isDigit = true) : 48 ≤ c.toNat ∧ c.toNat ≤ 57 :=
  Char.isDigit_iff_toNat.mp hdigit

/-- A finite float that is read from digits and points is their reading without a sign. -/
theorem reads_of_float_of_text (htext : ∀ c ∈ text, (decimal c).isSome = true ∨ c = '.')
    (hok : float_of_text text = some (.finite value)) : ReadsUnsigned text value := by
  have hplain : ∀ c ∈ text.map plain, c.isDigit = true ∨ c = '.' :=
    List.forall_mem_map.mpr fun c hc => plain_of_digit_or_point (htext c hc)
  have habsent : ∀ c : Char, c.isDigit = false → c ≠ '.' → c ∉ text.map plain := by
    intro c hdigit hpoint hc
    rcases hplain c hc with h | h
    · exact Bool.false_ne_true (hdigit.symm.trans h)
    · exact hpoint h
  have hlower : (text.map plain).map Char.toLower = text.map plain := by
    refine (List.map_congr_left fun c hc => ?_).trans (List.map_id _)
    rcases toLower_eq_or_letter c with hsame | ⟨hlow, -, -⟩
    · exact hsame
    · rcases hplain c hc with hdigit | rfl
      · have hrange := digit_range hdigit
        omega
      · rfl
  have hvisible : ∀ c ∈ text.map plain, is_ascii_space c = false := by
    intro c hc
    rcases hplain c hc with hdigit | rfl
    · have hrange := digit_range hdigit
      simp only [is_ascii_space, Bool.or_eq_false_iff, Bool.and_eq_false_iff, decide_eq_false_iff_not]
      exact ⟨fun hspace => by subst hspace; revert hrange; decide, .inr (by omega)⟩
    · decide
  -- No sign, no space, no underscore and no word is among them, so that the scan sees the digits and points alone.
  have hword : ∀ word : List Char, 'n' ∈ word → text.map plain ≠ word := fun word hn heq =>
    habsent 'n' (by decide) (by decide) (heq ▸ hn)
  unfold float_of_text at hok
  rw [trim_of_visible hvisible, drop_underscores_of_none _ (habsent '_' (by decide) (by decide)), Option.bind_some,
    scan_sign_of_none (habsent '-' (by decide) (by decide)) (habsent '+' (by decide) (by decide))] at hok
  dsimp only at hok
  rw [hlower, if_neg, if_neg (hword _ (by decide))] at hok
  · obtain ⟨scanned, hscanned, hvalue⟩ := Option.map_eq_some_iff.mp hok
    split at hvalue
    · cases hvalue
    cases hvalue
    obtain ⟨whole, fraction, hparts, hgiven, hdigits, hnumber⟩ := scan_unsigned_plain hplain hscanned
    exact reads_of_plain htext hparts hgiven hdigits hnumber
  · rw [List.mem_cons, List.mem_singleton, not_or]
    exact ⟨hword _ (by decide), hword _ (by decide)⟩

end parsers

end readings

end python.numeral
