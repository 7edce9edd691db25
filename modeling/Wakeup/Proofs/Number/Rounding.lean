import Mathlib.Algebra.Order.Field.Rat
import Mathlib.Algebra.Order.Field.Power
import Mathlib.Data.Rat.Floor
import Mathlib.Tactic.Linarith
import Wakeup.Number.Rounding

/-! Rounding to whole numbers keeps to the bounds that are whole numbers, goes to the nearest one
and keeps the order; the logarithm to base two finds the power of two below a number. -/
namespace Wakeup

variable {x y : Rat} {z : Int}

theorem le_roundHalfEven (h : (z : Rat) ≤ x) : z ≤ roundHalfEven x := by
  have hfloor : z ≤ x.floor := Int.le_floor.mpr h
  unfold roundHalfEven
  simp only
  split <;> omega

theorem roundHalfEven_le (h : x ≤ z) : roundHalfEven x ≤ z := by
  have hbelow : (x.floor : Rat) ≤ x := Rat.floor_le x
  have hfloor : x.floor ≤ z := by exact_mod_cast hbelow.trans h
  unfold roundHalfEven
  simp only
  split
  · exact hfloor
  · next hup =>
    -- what is rounded up is no whole number
    have hne : x.floor ≠ z := by
      rintro rfl
      have hx : x - x.floor = 0 := by linarith
      exact hup (.inl (by rw [hx]; norm_num))
    omega

/-- The whole number below is taken up to half the way, the one above from there on. -/
theorem roundHalfEven_cases (x : Rat) :
    roundHalfEven x = x.floor ∧ x - x.floor ≤ 1 / 2 ∨
      roundHalfEven x = x.floor + 1 ∧ 1 / 2 ≤ x - x.floor := by
  unfold roundHalfEven
  simp only
  split
  · next h => exact .inl ⟨rfl, h.elim le_of_lt fun h => h.1.le⟩
  · next h => exact .inr ⟨rfl, not_lt.mp fun hlt => h (.inl hlt)⟩

theorem abs_roundHalfEven_sub_le_half (x : Rat) : |(roundHalfEven x : Rat) - x| ≤ 1 / 2 := by
  have hbelow : (x.floor : Rat) ≤ x := Rat.floor_le x
  have habove : x < x.floor + 1 := by exact_mod_cast Rat.lt_floor_add_one x
  rw [abs_le]
  rcases roundHalfEven_cases x with ⟨h, hle⟩ | ⟨h, hle⟩
  · rw [h]
    constructor <;> linarith
  · rw [h, Int.cast_add, Int.cast_one]
    constructor <;> linarith

/-- No whole number is nearer. -/
theorem abs_roundHalfEven_sub_le (x : Rat) (z : Int) :
    |(roundHalfEven x : Rat) - x| ≤ |(z : Rat) - x| := by
  rcases eq_or_ne z (roundHalfEven x) with rfl | hne
  · exact le_rfl
  · -- two whole numbers are at least one apart, and this one is at most half of that away
    have hhalf := abs_roundHalfEven_sub_le_half x
    have hone : (1 : Rat) ≤ |(z : Rat) - roundHalfEven x| := by
      exact_mod_cast Int.one_le_abs (sub_ne_zero.mpr hne)
    have htri := abs_sub_le (z : Rat) x (roundHalfEven x)
    rw [abs_sub_comm x] at htri
    linarith

/-- What is nearest to a greater number is no less. -/
theorem le_of_nearest {a b : Rat} (h : x ≤ y) (ha : |a - x| ≤ |b - x|) (hb : |b - y| ≤ |a - y|)
    (heq : x = y → a = b) : a ≤ b := by
  by_contra hlt
  have hpos : 0 < a - b := sub_pos.mpr (not_le.mp hlt)
  -- the middle between the two is not above `x` and not below `y`
  have hx : a + b ≤ 2 * x := by
    have := sq_le_sq.mpr ha
    nlinarith
  have hy : 2 * y ≤ a + b := by
    have := sq_le_sq.mpr hb
    nlinarith
  exact hlt (heq (by linarith)).le

theorem roundHalfEven_mono (h : x ≤ y) : roundHalfEven x ≤ roundHalfEven y := by
  have hle := le_of_nearest h (abs_roundHalfEven_sub_le x (roundHalfEven y))
    (abs_roundHalfEven_sub_le y (roundHalfEven x)) (congrArg fun t => (roundHalfEven t : Rat))
  exact_mod_cast hle

theorem log2_bounds {n : Nat} (h : n ≠ 0) :
    (2 : Rat) ^ (n.log2 : Int) ≤ n ∧ (n : Rat) < (2 : Rat) ^ ((n.log2 : Int) + 1) := by
  constructor
  · exact_mod_cast Nat.log2_self_le h
  · exact_mod_cast Nat.lt_log2_self (n := n)

/-- The lengths of numerator and denominator tell a number to within a factor of four. -/
theorem log2_num_den_bounds (h : 0 < x) :
    (2 : Rat) ^ ((x.num.natAbs.log2 : Int) - x.den.log2 - 1) ≤ x ∧
      x < (2 : Rat) ^ ((x.num.natAbs.log2 : Int) - x.den.log2 + 1) := by
  have hnum : 0 < x.num := Rat.num_pos.mpr h
  obtain ⟨hnl, hnu⟩ := log2_bounds (n := x.num.natAbs) (by omega)
  obtain ⟨hdl, hdu⟩ := log2_bounds (n := x.den) x.den_ne_zero
  have hx : (x.num.natAbs : Rat) / x.den = x := by
    rw [← Int.cast_natCast, Int.natAbs_of_nonneg hnum.le]
    exact x.num_div_den
  have hden : (0 : Rat) < x.den := by exact_mod_cast x.den_pos
  have h2 : (2 : Rat) ≠ 0 := by norm_num
  generalize (x.num.natAbs.log2 : Int) = a at hnl hnu ⊢
  generalize (x.den.log2 : Int) = b at hdl hdu ⊢
  constructor
  · calc (2 : Rat) ^ (a - b - 1)
        = 2 ^ a / 2 ^ (b + 1) := by rw [sub_sub, zpow_sub₀ h2]
      _ ≤ x.num.natAbs / x.den := by gcongr
      _ = x := hx
  · calc x = x.num.natAbs / x.den := hx.symm
      _ < 2 ^ (a + 1) / 2 ^ b := by gcongr
      _ = 2 ^ (a - b + 1) := by rw [← zpow_sub₀ h2, add_sub_right_comm]

theorem two_zpow_floorLog2_le (h : 0 < x) : (2 : Rat) ^ floorLog2 x ≤ x := by
  obtain ⟨hlow, _⟩ := log2_num_den_bounds h
  unfold floorLog2
  simp only
  split
  · next hle => exact hle
  · exact hlow

theorem lt_two_zpow_floorLog2 (h : 0 < x) : x < (2 : Rat) ^ (floorLog2 x + 1) := by
  obtain ⟨_, hup⟩ := log2_num_den_bounds h
  unfold floorLog2
  simp only
  split
  · exact hup
  · next hlt =>
    rw [Int.sub_add_cancel]
    exact lt_of_not_ge hlt

end Wakeup
