import VelvetRuntime.Python.Bytes
import VelvetRuntime.Python.JsonSize

namespace python.json

/-- Printable ASCII. -/
def Printable (c : Char) : Prop := 32 ≤ c.toNat ∧ c.toNat ≤ 126

section printable

variable {c : Char}

theorem printable_digitChar {n : Nat} (hn : n < 16) : Printable (Nat.digitChar n) := by
  have hall : ∀ n : Fin 16, 32 ≤ (Nat.digitChar n).toNat ∧ (Nat.digitChar n).toNat ≤ 126 := by decide
  exact hall ⟨n, hn⟩

theorem printable_of_mem_unicode_escape {unit : Nat} (hc : c ∈ unicode_escape unit) : Printable c := by
  have hdigit : ∀ n : Nat, Printable (Nat.digitChar (n % 16)) := fun n => printable_digitChar (Nat.mod_lt n (by decide))
  unfold unicode_escape at hc
  simp only [List.mem_cons, List.not_mem_nil, or_false] at hc
  rcases hc with rfl | rfl | rfl | rfl | rfl | rfl
  · exact ⟨by decide, by decide⟩
  · exact ⟨by decide, by decide⟩
  · exact hdigit _
  · exact hdigit _
  · exact hdigit _
  · exact hdigit _

theorem printable_of_mem_escape_char {escaped : Char} (hc : c ∈ escape_char true escaped) : Printable c := by
  have hpair : ∀ letter : Char, Printable letter → c ∈ ['\\', letter] → Printable c := by
    intro letter hletter hmem
    rcases List.mem_pair.mp hmem with rfl | rfl
    · exact ⟨by decide, by decide⟩
    · exact hletter
  unfold escape_char at hc
  split_ifs at hc with hquote hbackslash hnewline hreturn htab hback hform hescaped hsmall
  · exact hpair _ ⟨by decide, by decide⟩ hc
  · exact hpair _ ⟨by decide, by decide⟩ hc
  · exact hpair _ ⟨by decide, by decide⟩ hc
  · exact hpair _ ⟨by decide, by decide⟩ hc
  · exact hpair _ ⟨by decide, by decide⟩ hc
  · exact hpair _ ⟨by decide, by decide⟩ hc
  · exact hpair _ ⟨by decide, by decide⟩ hc
  · exact printable_of_mem_unicode_escape hc
  · exact (List.mem_append.mp hc).elim printable_of_mem_unicode_escape printable_of_mem_unicode_escape
  · rw [not_or, not_and] at hescaped
    cases List.mem_singleton.mp hc
    exact ⟨Nat.not_lt.mp hescaped.1, Nat.not_lt.mp (hescaped.2 rfl)⟩

theorem printable_of_mem_quote {value : String} (hc : c ∈ quote true value) : Printable c := by
  unfold quote at hc
  rcases List.mem_cons.mp hc with rfl | hc
  · exact ⟨by decide, by decide⟩
  rcases List.mem_append.mp hc with hc | hc
  · obtain ⟨escaped, -, hc⟩ := List.mem_flatMap.mp hc
    exact printable_of_mem_escape_char hc
  · cases List.mem_singleton.mp hc
    exact ⟨by decide, by decide⟩

theorem printable_of_mem_toDigits {n : Nat} (hc : c ∈ Nat.toDigits 10 n) : Printable c := by
  have hdigit := Nat.isDigit_of_mem_toDigits (by decide) (by decide) hc
  obtain ⟨hlow, hhigh⟩ := Char.isDigit_iff_toNat.mp hdigit
  change 48 ≤ c.toNat at hlow
  change c.toNat ≤ 57 at hhigh
  exact ⟨by omega, by omega⟩

theorem printable_of_mem_int_text {value : Int} (hc : c ∈ int_text value) : Printable c := by
  cases value with
  | ofNat n => exact printable_of_mem_toDigits hc
  | negSucc n =>
    rcases List.mem_cons.mp hc with rfl | hc
    · exact ⟨by decide, by decide⟩
    · exact printable_of_mem_toDigits hc

variable {parts : List (List Char)}

theorem mem_intercalate {separator : List Char}
    (hc : c ∈ separator.intercalate parts) : c ∈ separator ∨ ∃ part ∈ parts, c ∈ part := by
  induction parts with
  | nil => cases hc
  | cons part rest ih =>
    cases rest with
    | nil =>
      rw [List.intercalate_singleton] at hc
      exact .inr ⟨part, List.mem_cons_self, hc⟩
    | cons next rest =>
      rw [List.intercalate_cons_cons, List.mem_append, List.mem_append] at hc
      rcases hc with (hc | hc) | hc
      · exact .inr ⟨part, List.mem_cons_self, hc⟩
      · exact .inl hc
      · rcases ih hc with hc | ⟨found, hfound, hc⟩
        · exact .inl hc
        · exact .inr ⟨found, List.mem_cons_of_mem _ hfound, hc⟩

theorem printable_mark {mark : Char} (hmark : mark ∈ [',', ':', '[', ']', '\x7b', '\x7d']) : Printable mark := by
  have hall : ∀ mark ∈ [',', ':', '[', ']', '\x7b', '\x7d'], 32 ≤ mark.toNat ∧ mark.toNat ≤ 126 := by decide
  exact hall mark hmark

theorem printable_of_mem_joined (hparts : ∀ part ∈ parts, ∀ c ∈ part, Printable c)
    (hc : c ∈ List.intercalate [','] parts) : Printable c := by
  rcases mem_intercalate hc with hc | ⟨part, hpart, hc⟩
  · cases List.mem_singleton.mp hc
    exact printable_mark (by simp)
  · exact hparts part hpart c hc

mutual

/-- With `ensure_ascii` a value without floats is written in printable ASCII. -/
theorem printable_of_mem_encode (floats : FloatText) : ∀ {value : Json}, floats_in value = [] →
    ∀ c ∈ encode floats true value, Printable c
  | .null, _, c, hc => by
    have hall : ∀ c ∈ "null".toList, 32 ≤ c.toNat ∧ c.toNat ≤ 126 := by decide
    exact hall c hc
  | .bool value, _, c, hc => by
    have hall : ∀ c ∈ (if value then "true".toList else "false".toList), 32 ≤ c.toNat ∧ c.toNat ≤ 126 := by
      cases value <;> decide
    exact hall c hc
  | .int value, _, c, hc => printable_of_mem_int_text hc
  | .float value, hnone, _, _ => absurd hnone (List.cons_ne_nil value [])
  | .text value, _, c, hc => printable_of_mem_quote hc
  | .list values, hnone, c, hc => by
    unfold encode at hc
    rcases List.mem_cons.mp hc with rfl | hc
    · exact printable_mark (by simp)
    rcases List.mem_append.mp hc with hc | hc
    · exact printable_of_mem_joined (printable_of_mem_encode_values floats hnone) hc
    · cases List.mem_singleton.mp hc
      exact printable_mark (by simp)
  | .object entries, hnone, c, hc => by
    unfold encode at hc
    rcases List.mem_cons.mp hc with rfl | hc
    · exact printable_mark (by simp)
    rcases List.mem_append.mp hc with hc | hc
    · refine printable_of_mem_joined (fun part hpart => ?_) hc
      obtain ⟨entry, hentry, rfl⟩ := List.mem_map.mp hpart
      have hvalue := printable_of_mem_encode_entries floats hnone entry ((sort_keys_perm _).mem_iff.mp hentry)
      intro c hc
      rcases List.mem_append.mp hc with hc | hc
      · exact printable_of_mem_quote hc
      rcases List.mem_cons.mp hc with rfl | hc
      · exact printable_mark (by simp)
      · exact hvalue c hc
    · cases List.mem_singleton.mp hc
      exact printable_mark (by simp)

theorem printable_of_mem_encode_values (floats : FloatText) : ∀ {values : List Json}, floats_in_values values = [] →
    ∀ text ∈ encode_values floats true values, ∀ c ∈ text, Printable c
  | [], _, _, htext => absurd htext List.not_mem_nil
  | value :: rest, hnone, text, htext => by
    obtain ⟨hvalue, hrest⟩ := List.append_eq_nil_iff.mp hnone
    rcases List.mem_cons.mp htext with rfl | htext
    · exact printable_of_mem_encode floats hvalue
    · exact printable_of_mem_encode_values floats hrest text htext

theorem printable_of_mem_encode_entries (floats : FloatText) : ∀ {entries : List (String × Json)},
    floats_in_entries entries = [] → ∀ entry ∈ encode_entries floats true entries, ∀ c ∈ entry.2, Printable c
  | [], _, _, hentry => absurd hentry List.not_mem_nil
  | (key, value) :: rest, hnone, entry, hentry => by
    obtain ⟨hvalue, hrest⟩ := List.append_eq_nil_iff.mp hnone
    rcases List.mem_cons.mp hentry with rfl | hentry
    · exact printable_of_mem_encode floats hvalue
    · exact printable_of_mem_encode_entries floats hrest entry hentry

end

end printable

section sizes

/-- Printable text takes one byte for each character. -/
theorem text_size_of_printable {text : List Char} (htext : ∀ c ∈ text, Printable c) : text_size text = text.length :=
  bytes.size_of_ascii fun c hc => (htext c hc).2.trans_lt (by decide)

/-- What a list takes: its values, with one for each of them and one more. -/
theorem text_size_list (floats : FloatText) (ensure_ascii : Bool) {values : List Json} (hvalues : values ≠ []) :
    text_size (encode floats ensure_ascii (.list values)) =
      1 + (values.map (fun value => text_size (encode floats ensure_ascii value) + 1)).sum := by
  have hopening : '['.utf8Size = 1 := rfl
  have hclosing : ']'.utf8Size = 1 := rfl
  have hparts : values.map (encode floats ensure_ascii) ≠ [] := by simpa using hvalues
  have hsize := text_size_intercalate hparts
  have hlist : encode floats ensure_ascii (.list values) =
      '[' :: (List.intercalate [','] (values.map (encode floats ensure_ascii)) ++ [']']) := by
    rw [← encode_values_eq_map]
    unfold encode
    rfl
  rw [List.map_map] at hsize
  rw [hlist, text_size_cons, text_size_append, text_size_cons, text_size_nil, hopening, hclosing]
  change _ = 1 + (values.map ((fun part => text_size part + 1) ∘ encode floats ensure_ascii)).sum
  omega

/-- Text without marks to escape is written between two quotation marks. -/
theorem quote_of_plain {value : String}
    (hplain : ∀ c ∈ value.toList, Printable c ∧ c ≠ '\"' ∧ c ≠ '\\') (ensure_ascii : Bool) :
    quote ensure_ascii value = '\"' :: (value.toList ++ ['\"']) := by
  have hchars : ∀ chars : List Char, (∀ c ∈ chars, Printable c ∧ c ≠ '\"' ∧ c ≠ '\\') →
      chars.flatMap (escape_char ensure_ascii) = chars := by
    intro chars hchars
    induction chars with
    | nil => rfl
    | cons c rest ih =>
      rw [List.forall_mem_cons] at hchars
      obtain ⟨⟨⟨hlow, hhigh⟩, hquote, hbackslash⟩, hrest⟩ := hchars
      have hcontrol : ∀ mark : Char, mark.toNat < 32 → c ≠ mark := by
        rintro mark hmark rfl
        omega
      have hescape : escape_char ensure_ascii c = [c] := by
        unfold escape_char
        rw [if_neg hquote, if_neg hbackslash, if_neg (hcontrol '\n' (by decide)), if_neg (hcontrol '\r' (by decide)),
          if_neg (hcontrol '\t' (by decide)), if_neg (by omega), if_neg (by omega), if_neg (by omega)]
      rw [List.flatMap_cons, hescape, ih hrest, List.singleton_append]
  unfold quote
  rw [hchars _ hplain]

end sizes

end python.json
