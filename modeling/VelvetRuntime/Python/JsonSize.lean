import VelvetRuntime.Python.JsonCanonical

namespace python.json

/-- How many bytes text takes in UTF-8. -/
def text_size (text : List Char) : Nat := (String.ofList text).toUTF8.size

theorem text_size_eq_sum (text : List Char) : text_size text = (text.map Char.utf8Size).sum := by
  unfold text_size
  rw [String.toUTF8_eq_toByteArray, String.toByteArray_ofList, List.utf8Encode, List.size_toByteArray,
    List.length_flatMap]
  congr 1
  exact List.map_congr_left fun c _ => String.length_utf8EncodeChar c

@[simp] theorem text_size_nil : text_size [] = 0 := by
  rw [text_size_eq_sum]
  rfl

@[simp] theorem text_size_append (text rest : List Char) : text_size (text ++ rest) = text_size text + text_size rest := by
  rw [text_size_eq_sum, text_size_eq_sum, text_size_eq_sum, List.map_append, List.sum_append]

@[simp] theorem text_size_cons (c : Char) (rest : List Char) : text_size (c :: rest) = c.utf8Size + text_size rest := by
  rw [text_size_eq_sum, text_size_eq_sum, List.map_cons, List.sum_cons]

theorem text_size_digit (n : Nat) : (Nat.digitChar (n % 16)).utf8Size = 1 := by
  have hdigit : ∀ n : Fin 16, (Nat.digitChar n).utf8Size = 1 := by decide
  exact hdigit ⟨n % 16, Nat.mod_lt n (by decide)⟩

theorem text_size_unicode_escape (unit : Nat) : text_size (unicode_escape unit) = 6 := by
  unfold unicode_escape
  simp only [text_size_cons, text_size_nil, text_size_digit]
  rfl

/-- A character of a literal takes at most two escapes. -/
theorem text_size_escape_char (ensure_ascii : Bool) (c : Char) : text_size (escape_char ensure_ascii c) ≤ 12 := by
  have hpair : ∀ letter : Char, text_size ['\\', letter] ≤ 12 := by
    intro letter
    have hletter := letter.utf8Size_le_four
    have hbackslash : '\\'.utf8Size = 1 := rfl
    simp only [text_size_cons, text_size_nil, hbackslash]
    omega
  unfold escape_char
  split_ifs
  any_goals exact hpair _
  · rw [text_size_unicode_escape]
    decide
  · rw [text_size_append, text_size_unicode_escape, text_size_unicode_escape]
  · have hc := c.utf8Size_le_four
    rw [text_size_cons, text_size_nil]
    omega

theorem text_size_quote (ensure_ascii : Bool) (value : String) :
    text_size (quote ensure_ascii value) ≤ 12 * value.length + 2 := by
  have hchars : ∀ chars : List Char, text_size (chars.flatMap (escape_char ensure_ascii)) ≤ 12 * chars.length := by
    intro chars
    induction chars with
    | nil => exact Nat.le_of_eq text_size_nil
    | cons c rest ih =>
      have hc := text_size_escape_char ensure_ascii c
      rw [List.flatMap_cons, text_size_append, List.length_cons]
      omega
  have hvalue := hchars value.toList
  have hmark : '\"'.utf8Size = 1 := rfl
  unfold quote
  rw [text_size_cons, text_size_append, text_size_cons, text_size_nil, hmark]
  rw [String.length_toList] at hvalue
  omega

/-- Parts with a comma between them take their own sizes and one for each comma. -/
theorem text_size_intercalate {parts : List (List Char)} (hparts : parts ≠ []) :
    text_size (List.intercalate [','] parts) + 1 = (parts.map (fun part => text_size part + 1)).sum := by
  induction parts with
  | nil => exact absurd rfl hparts
  | cons part rest ih =>
    have hcomma : ','.utf8Size = 1 := rfl
    cases rest with
    | nil => simp [List.intercalate]
    | cons next rest =>
      have hrest := ih (List.cons_ne_nil next rest)
      rw [List.intercalate_cons_cons, text_size_append, text_size_append, text_size_cons, text_size_nil, hcomma,
        List.map_cons, List.sum_cons, ← hrest]
      omega

/-- What an object takes: its keys, with two for each of them, and its values, with one around all of them. -/
theorem text_size_object (floats : FloatText) (ensure_ascii : Bool) {entries : List (String × Json)}
    (hentries : entries ≠ []) : text_size (encode floats ensure_ascii (.object entries)) =
      1 + ((entries.map Prod.fst).map (fun key => text_size (quote ensure_ascii key) + 2)).sum +
        ((entries.map Prod.snd).map (fun value => text_size (encode floats ensure_ascii value))).sum := by
  have hopening : '\x7b'.utf8Size = 1 := rfl
  have hclosing : '\x7d'.utf8Size = 1 := rfl
  have hcolon : ':'.utf8Size = 1 := rfl
  have hitems : (object_items floats ensure_ascii entries).map (member_text ensure_ascii) ≠ [] := by
    unfold object_items
    rw [ne_eq, List.map_eq_nil_iff, List.map_eq_nil_iff]
    intro hnone
    exact hentries (List.Perm.nil_eq (hnone ▸ sort_keys_perm entries)).symm
  have hsize := text_size_intercalate hitems
  have hsum : (((object_items floats ensure_ascii entries).map (member_text ensure_ascii)).map
      (fun part => text_size part + 1)).sum =
        ((entries.map Prod.fst).map (fun key => text_size (quote ensure_ascii key) + 2)).sum +
          ((entries.map Prod.snd).map (fun value => text_size (encode floats ensure_ascii value))).sum := by
    unfold object_items
    rw [List.map_map, List.map_map, List.map_map, List.map_map, ← List.sum_map_add]
    refine Eq.trans (congrArg List.sum ?_) (((sort_keys_perm entries).map _).sum_eq)
    refine List.map_congr_left fun entry _ => ?_
    change text_size (quote ensure_ascii entry.1 ++ ':' :: encode floats ensure_ascii entry.2) + 1 = _
    rw [text_size_append, text_size_cons, hcolon]
    dsimp only [Function.comp]
    omega
  rw [encode_object, text_size_cons, text_size_append, text_size_cons, text_size_nil, hopening, hclosing]
  omega

theorem two_le_text_size_object (floats : FloatText) (ensure_ascii : Bool) (entries : List (String × Json)) :
    2 ≤ text_size (encode floats ensure_ascii (.object entries)) := by
  have hopening : '\x7b'.utf8Size = 1 := rfl
  have hclosing : '\x7d'.utf8Size = 1 := rfl
  rw [encode_object, text_size_cons, text_size_append, text_size_cons, hopening, hclosing]
  omega

end python.json
