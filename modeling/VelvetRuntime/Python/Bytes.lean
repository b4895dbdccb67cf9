import VelvetRuntime.Python.Str
import VelvetRuntime.Python.JsonRoundTrip

open python.json (hex_value)

namespace python.bytes

/-- `data.hex()`. -/
def hex : List UInt8 → List Char
  | [] => []
  | byte :: rest => Nat.digitChar (byte.toNat / 16) :: Nat.digitChar (byte.toNat % 16) :: hex rest

def is_ascii_space (c : Char) : Bool := c = ' ' || (9 ≤ c.toNat && c.toNat ≤ 13)

/-- `bytes.fromhex(text)`: pairs of digits, with white space between pairs; nothing when it raises. -/
def fromhex : List Char → Option (List UInt8)
  | [] => some []
  | c :: rest =>
    if is_ascii_space c then fromhex rest
    else
      match rest with
      | [] => none
      | d :: rest => do
        let high ← hex_value c
        let low ← hex_value d
        let others ← fromhex rest
        some (UInt8.ofNat (16 * high + low) :: others)

variable (data : List UInt8)

theorem length_hex : (hex data).length = 2 * data.length := by
  induction data with
  | nil => rfl
  | cons byte rest ih =>
    change (hex rest).length + 2 = 2 * (rest.length + 1)
    omega

theorem ascii_of_mem_hex {data : List UInt8} {c : Char} (hc : c ∈ hex data) : c.toNat < 128 := by
  have hdigit : ∀ n : Fin 16, (Nat.digitChar n).toNat < 128 := by decide
  induction data with
  | nil => cases hc
  | cons byte rest ih =>
    have hbyte := byte.toNat_lt
    rcases List.mem_cons.mp hc with rfl | hc
    · exact hdigit ⟨byte.toNat / 16, by omega⟩
    · rcases List.mem_cons.mp hc with rfl | hc
      · exact hdigit ⟨byte.toNat % 16, by omega⟩
      · exact ih hc

theorem is_ascii_space_digitChar {n : Nat} (hn : n < 16) : is_ascii_space (Nat.digitChar n) = false := by
  have hall : ∀ n : Fin 16, is_ascii_space (Nat.digitChar n) = false := by decide
  exact hall ⟨n, hn⟩

@[simp] theorem fromhex_hex : fromhex (hex data) = some data := by
  induction data with
  | nil => rfl
  | cons byte rest ih =>
    have hbyte := byte.toNat_lt
    have hvalue : UInt8.ofNat (16 * (byte.toNat / 16) + byte.toNat % 16) = byte := by
      rw [Nat.div_add_mod, UInt8.ofNat_toNat]
    unfold hex fromhex
    rw [is_ascii_space_digitChar (by omega)]
    dsimp only
    rw [python.json.hex_value_digitChar (by omega), python.json.hex_value_digitChar (by omega), ih]
    dsimp only [Option.bind_eq_bind, Option.bind_some]
    rw [hvalue]
    rfl

theorem hex_value_toLower (c : Char) : hex_value c.toLower = hex_value c := by
  rcases python.str.toLower_eq_or_letter c with hsame | ⟨hlow, hhigh, hvalue⟩
  · rw [hsame]
  · have hle : ∀ {a b : Char}, a ≤ b ↔ a.toNat ≤ b.toNat := UInt32.le_iff_toNat_le
    have hzero : ('0'.toNat, '9'.toNat, 'a'.toNat, 'f'.toNat, 'A'.toNat, 'F'.toNat) = (48, 57, 97, 102, 65, 70) := rfl
    simp only [Prod.mk.injEq] at hzero
    unfold hex_value
    simp only [hle, hvalue, hzero]
    by_cases hhex : c.toNat ≤ 70
    · rw [if_neg (by omega), if_pos (by omega), if_neg (by omega), if_neg (by omega), if_pos (by omega)]
      exact congrArg some (by omega)
    · rw [if_neg (by omega), if_neg (by omega), if_neg (by omega), if_neg (by omega), if_neg (by omega),
        if_neg (by omega)]

theorem is_ascii_space_toLower (c : Char) : is_ascii_space c.toLower = is_ascii_space c := by
  rcases python.str.toLower_eq_or_letter c with hsame | ⟨hlow, hhigh, hvalue⟩
  · rw [hsame]
  · have hspace : ∀ other : Char, 65 ≤ other.toNat → is_ascii_space other = false := by
      intro other hother
      have hne : other ≠ ' ' := by
        rintro rfl
        exact absurd hother (by decide)
      simp only [is_ascii_space, hne, decide_false, Bool.false_or, Bool.and_eq_false_iff, decide_eq_false_iff_not]
      omega
    rw [hspace c hlow, hspace c.toLower (by omega)]

/-- The case of the digits does not matter. -/
@[simp] theorem fromhex_lower (text : List Char) : fromhex (text.map Char.toLower) = fromhex text := by
  induction text using fromhex.induct with
  | case1 => rfl
  | case2 c rest hspace ih =>
    rw [List.map_cons]
    unfold fromhex
    rw [is_ascii_space_toLower, if_pos hspace, if_pos hspace]
    exact ih
  | case3 c hspace =>
    unfold fromhex
    rw [List.map_cons, List.map_nil]
    dsimp only
    rw [is_ascii_space_toLower, if_neg hspace]
  | case4 c hspace d rest ih =>
    rw [List.map_cons, List.map_cons]
    unfold fromhex
    rw [is_ascii_space_toLower, if_neg hspace, if_neg hspace]
    dsimp only
    rw [hex_value_toLower, hex_value_toLower, ih]

/-- The bytes of a digest, from its digits in either case. -/
theorem fromhex_of_lower_eq {text : List Char} {data : List UInt8} (hlower : text.map Char.toLower = hex data) :
    fromhex text = some data := by
  rw [← fromhex_lower, hlower, fromhex_hex]

theorem lower_hex : (hex data).map Char.toLower = hex data := by
  have hdigit : ∀ n : Fin 16, (Nat.digitChar n).toLower = Nat.digitChar n := by decide
  induction data with
  | nil => rfl
  | cons byte rest ih =>
    have hbyte := byte.toNat_lt
    unfold hex
    rw [List.map_cons, List.map_cons, ih, hdigit ⟨byte.toNat / 16, by omega⟩, hdigit ⟨byte.toNat % 16, by omega⟩]

theorem fromUTF8_toUTF8 (text : String) : String.fromUTF8? text.toUTF8 = some text := by
  unfold String.fromUTF8?
  exact dif_pos text.isValidUTF8

variable {chars : List Char}

/-- The bytes of ASCII text are its codes. -/
theorem toUTF8_of_ascii (hascii : ∀ c ∈ chars, c.toNat < 128) :
    (String.ofList chars).toUTF8 = (chars.map (fun c => c.val.toUInt8)).toByteArray := by
  rw [String.toUTF8_eq_toByteArray, String.toByteArray_ofList, List.utf8Encode]
  congr 1
  induction chars with
  | nil => rfl
  | cons c rest ih =>
    have hsize : c.utf8Size = 1 := by
      refine Char.utf8Size_eq_one_iff.mpr ?_
      have hcode := hascii c List.mem_cons_self
      rw [UInt32.le_iff_toNat_le]
      exact Nat.le_of_lt_succ hcode
    rw [List.flatMap_cons, String.utf8EncodeChar_eq_singleton hsize, List.map_cons,
      ih fun later hlater => hascii later (List.mem_cons_of_mem _ hlater)]
    rfl

theorem size_of_ascii (hascii : ∀ c ∈ chars, c.toNat < 128) :
    (String.ofList chars).toUTF8.size = chars.length := by
  rw [toUTF8_of_ascii hascii, List.size_toByteArray, List.length_map]

/-- Text without a NUL has no zero byte. -/
theorem contains_zero_of_ascii (hascii : ∀ c ∈ chars, c.toNat < 128) (hnul : ∀ c ∈ chars, c.toNat ≠ 0) :
    (String.ofList chars).toUTF8.data.contains 0 = false := by
  rw [toUTF8_of_ascii hascii, List.data_toByteArray, Bool.eq_false_iff]
  intro hcontains
  obtain ⟨c, hc, hzero⟩ := List.mem_map.mp (List.mem_toArray.mp (Array.contains_iff_mem.mp hcontains))
  have hcode := hascii c hc
  refine hnul c hc ?_
  have hbyte := congrArg UInt8.toNat hzero
  rw [UInt32.toNat_toUInt8] at hbyte
  change c.toNat % 256 = 0 at hbyte
  omega

end python.bytes
