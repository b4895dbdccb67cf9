import Mathlib.Data.Rat.Floor
import Mathlib.Tactic.Linarith
import Mathlib.Tactic.Positivity
import Mathlib.Algebra.Order.Ring.Rat

namespace python.num

/-- The integer nearest to an exact value, ties to even: the rounding of `round` and of the
`%.nf` conversions. -/
def round_half_even (q : ℚ) : Int :=
  let low := ⌊q⌋
  if q - low < 1 / 2 then low
  else if 1 / 2 < q - low then low + 1
  else if low % 2 = 0 then low
  else low + 1

/-- `round(q, digits)` on an exact value. -/
def round (digits : Nat) (q : ℚ) : ℚ :=
  round_half_even (q * 10 ^ digits) / 10 ^ digits

theorem round_half_even_bounds {q : ℚ} (low high : Int) (hlow : low ≤ q) (hhigh : q ≤ high) :
    low ≤ round_half_even q ∧ round_half_even q ≤ high := by
  have hfloor_low : low ≤ ⌊q⌋ := Int.le_floor.mpr hlow
  have hfloor_high : ⌊q⌋ ≤ high := by exact_mod_cast (Int.floor_le q).trans hhigh
  -- Only a value strictly below the bound is rounded up.
  have hup : 1 / 2 ≤ q - ⌊q⌋ → ⌊q⌋ + 1 ≤ high := by
    intro hhalf
    have hlt : ((⌊q⌋ : Int) : ℚ) < high := by linarith
    exact_mod_cast hlt
  unfold round_half_even
  dsimp only
  split
  · exact ⟨hfloor_low, hfloor_high⟩
  · rename_i hnot
    have hhigh' := hup (not_lt.mp hnot)
    split
    · exact ⟨by omega, hhigh'⟩
    · split
      · exact ⟨hfloor_low, hfloor_high⟩
      · exact ⟨by omega, hhigh'⟩

/-- Rounding stays in the unit interval. -/
theorem round_bounds {digits : Nat} {q : ℚ} (hlow : 0 ≤ q) (hhigh : q ≤ 1) :
    0 ≤ round digits q ∧ round digits q ≤ 1 := by
  have hpos : (0 : ℚ) < 10 ^ digits := by positivity
  have hbounds := round_half_even_bounds 0 (10 ^ digits)
    (show ((0 : Int) : ℚ) ≤ q * 10 ^ digits by push_cast; positivity)
    (show q * 10 ^ digits ≤ (((10 : Int) ^ digits : Int) : ℚ) by push_cast; nlinarith)
  unfold round
  constructor
  · exact div_nonneg (by exact_mod_cast hbounds.1) hpos.le
  · rw [div_le_one hpos]
    exact_mod_cast hbounds.2

/-- `"%.<digits>f" % q` on an exact value. -/
def fixed (digits : Nat) (q : ℚ) : String :=
  let scaled := (round_half_even (|q| * 10 ^ digits)).toNat
  let fraction := toString (scaled % 10 ^ digits)
  let padding := String.ofList (List.replicate (digits - fraction.length) '0')
  (if q < 0 then "-" else "") ++ toString (scaled / 10 ^ digits) ++ "." ++ padding ++ fraction

/-- A float read from JSON, where `Infinity`, `-Infinity` and `NaN` are accepted. Finite values
are exact rationals. -/
inductive JsonFloat where
  | finite (q : ℚ)
  | inf
  | neg_inf
  | nan
  deriving DecidableEq

/-- `float(n)`: 53 bits of precision, ties to even; nothing when it overflows. -/
def float_of_int (n : Int) : Option ℚ :=
  let unit : ℚ := 2 ^ (n.natAbs.log2 - 52)
  let rounded := round_half_even (n / unit) * unit
  if |rounded| < 2 ^ 1024 then some rounded else none

/-- `value - q`. -/
def JsonFloat.sub : JsonFloat → ℚ → JsonFloat
  | .finite value, q => .finite (value - q)
  | .inf, _ => .inf
  | .neg_inf, _ => .neg_inf
  | .nan, _ => .nan

/-- `value < q`; every comparison with `NaN` is false. -/
def JsonFloat.lt : JsonFloat → ℚ → Bool
  | .finite value, q => value < q
  | .neg_inf, _ => true
  | .inf, _ => false
  | .nan, _ => false

/-- `value >= q`. -/
def JsonFloat.ge : JsonFloat → ℚ → Bool
  | .finite value, q => q ≤ value
  | .inf, _ => true
  | .neg_inf, _ => false
  | .nan, _ => false

/-- `left < right`. -/
def JsonFloat.less : JsonFloat → JsonFloat → Bool
  | .nan, _ | _, .nan => false
  | .inf, _ | _, .neg_inf => false
  | .neg_inf, _ | _, .inf => true
  | .finite left, .finite right => left < right

theorem JsonFloat.less_trans {first second third : JsonFloat} (hfirst : first.less second = true)
    (hsecond : second.less third = true) : first.less third = true := by
  cases first <;> cases second <;> cases third <;> simp_all [less]
  exact hfirst.trans hsecond

/-- `left <= right`. -/
def JsonFloat.le : JsonFloat → JsonFloat → Bool
  | .nan, _ | _, .nan => false
  | .neg_inf, _ | _, .inf => true
  | .finite left, .finite right => left ≤ right
  | _, _ => false

end python.num
