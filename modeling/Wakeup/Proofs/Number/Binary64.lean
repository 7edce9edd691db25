import Wakeup.Number.Binary64
import Wakeup.Proofs.Number.Rounding

/-! Rounding to binary floating point keeps to every bound that it leaves as it is. Whole numbers
stay whole, and those up to `2 ^ 53` stay as they are. -/
namespace Wakeup.Binary64

variable {x y z : Rat} {n : Nat}

/-- A number of at most 53 bits, or the next one up, at a place that is not too low. -/
def Kept (z : Rat) : Prop := ∃ (m : Nat) (e : Int), m ≤ 2 ^ 53 ∧ -1074 ≤ e ∧ z = m * 2 ^ e

/-- The nearest multiple of the last place. -/
def rounded (x : Rat) : Rat := roundHalfEven (x / 2 ^ lastPlace x) * 2 ^ lastPlace x

theorem nearest?_of_pos (hx : 0 < x) :
    nearest? x = if rounded x < 2 ^ (1024 : Int) then some (rounded x) else none :=
  if_neg hx.not_ge

theorem nearest?_cases (h : nearest? x = some y) : x ≤ 0 ∧ y = 0 ∨ 0 < x ∧ y = rounded x := by
  rcases le_or_gt x 0 with hx | hx
  · rw [nearest?, if_pos hx] at h
    exact .inl ⟨hx, (Option.some.inj h).symm⟩
  · rw [nearest?_of_pos hx, Option.ite_none_right_eq_some] at h
    exact .inr ⟨hx, (Option.some.inj h.2).symm⟩

theorem unit_pos (x : Rat) : (0 : Rat) < 2 ^ lastPlace x := by positivity

theorem le_rounded_of_multiple {m : Int} (h : m * 2 ^ lastPlace x ≤ x) :
    m * 2 ^ lastPlace x ≤ rounded x := by
  have hm : m ≤ roundHalfEven (x / 2 ^ lastPlace x) :=
    le_roundHalfEven ((le_div_iff₀ (unit_pos x)).mpr h)
  exact mul_le_mul_of_nonneg_right (by exact_mod_cast hm) (unit_pos x).le

theorem rounded_le_of_multiple {m : Int} (h : x ≤ m * 2 ^ lastPlace x) :
    rounded x ≤ m * 2 ^ lastPlace x := by
  have hm : roundHalfEven (x / 2 ^ lastPlace x) ≤ m :=
    roundHalfEven_le ((div_le_iff₀ (unit_pos x)).mpr h)
  exact mul_le_mul_of_nonneg_right (by exact_mod_cast hm) (unit_pos x).le

theorem rounded_of_multiple {m : Int} (h : x = m * 2 ^ lastPlace x) : rounded x = x :=
  le_antisymm ((rounded_le_of_multiple h.le).trans h.ge)
    (h.le.trans (le_rounded_of_multiple h.ge))

theorem two_zpow_add_nat (e : Int) (k : Nat) :
    (2 : Rat) ^ (e + k) = ((2 ^ k : Int) : Rat) * 2 ^ e := by
  rw [zpow_add₀ (by norm_num), zpow_natCast, mul_comm]
  push_cast
  rfl

/-- A kept number is a multiple of the last place of `x`, or one lies between it and `x`: it is then
too small for that last place. -/
theorem Kept.cases (hz : Kept z) (hx : 0 < x) :
    (∃ m : Int, z = m * 2 ^ lastPlace x) ∨
      ∃ m : Int, z ≤ m * 2 ^ lastPlace x ∧ m * 2 ^ lastPlace x ≤ x := by
  obtain ⟨m, e, hm, he, rfl⟩ := hz
  rcases le_or_gt (lastPlace x) e with hle | hlt
  · left
    obtain ⟨k, rfl⟩ := Int.le.dest hle
    refine ⟨m * 2 ^ k, ?_⟩
    rw [two_zpow_add_nat]
    push_cast
    ring
  · right
    have hplace : lastPlace x + (52 : Nat) = floorLog2 x := by
      unfold lastPlace at hlt ⊢
      omega
    have hm' : (m : Rat) ≤ 2 ^ (53 : Int) := by exact_mod_cast hm
    refine ⟨2 ^ 52, ?_, ?_⟩
    · calc (m : Rat) * 2 ^ e
          ≤ 2 ^ (53 : Int) * 2 ^ (lastPlace x - 1) := by
            gcongr
            · norm_num
            · omega
        _ = 2 ^ (lastPlace x + (52 : Nat)) := by
            rw [← zpow_add₀ (by norm_num)]
            congr 1
            omega
        _ = ((2 ^ 52 : Int) : Rat) * 2 ^ lastPlace x := two_zpow_add_nat _ _
    · rw [← two_zpow_add_nat, hplace]
      exact two_zpow_floorLog2_le hx

theorem le_rounded (hx : 0 < x) (hz : Kept z) (h : z ≤ x) : z ≤ rounded x := by
  rcases hz.cases hx with ⟨m, rfl⟩ | ⟨m, hle, hlow⟩
  · exact le_rounded_of_multiple h
  · exact hle.trans (le_rounded_of_multiple hlow)

theorem rounded_le (hx : 0 < x) (hz : Kept z) (h : x ≤ z) : rounded x ≤ z := by
  rcases hz.cases hx with ⟨m, rfl⟩ | ⟨m, hle, hlow⟩
  · exact rounded_le_of_multiple h
  · obtain rfl := le_antisymm hle (hlow.trans h)
    exact rounded_le_of_multiple h

theorem exists_rounded_eq (hx : 0 < x) :
    ∃ m : Nat, m ≤ 2 ^ 53 ∧ rounded x = m * 2 ^ lastPlace x := by
  have hnonneg : 0 ≤ roundHalfEven (x / 2 ^ lastPlace x) :=
    le_roundHalfEven (by exact_mod_cast (div_pos hx (unit_pos x)).le)
  have hplace : floorLog2 x + 1 ≤ lastPlace x + (53 : Nat) := by
    unfold lastPlace
    omega
  have hlt : x < ((2 ^ 53 : Int) : Rat) * 2 ^ lastPlace x :=
    calc x < 2 ^ (floorLog2 x + 1) := lt_two_zpow_floorLog2 hx
      _ ≤ 2 ^ (lastPlace x + (53 : Nat)) := zpow_le_zpow_right₀ (by norm_num) hplace
      _ = ((2 ^ 53 : Int) : Rat) * 2 ^ lastPlace x := two_zpow_add_nat _ _
  have hupper : roundHalfEven (x / 2 ^ lastPlace x) ≤ 2 ^ 53 :=
    roundHalfEven_le ((div_le_iff₀ (unit_pos x)).mpr hlt.le)
  obtain ⟨m, hm⟩ := Int.eq_ofNat_of_zero_le hnonneg
  refine ⟨m, by exact_mod_cast hm ▸ hupper, ?_⟩
  rw [rounded, hm, Int.cast_natCast]

theorem kept_rounded (hx : 0 < x) : Kept (rounded x) := by
  obtain ⟨m, hm, heq⟩ := exists_rounded_eq hx
  exact ⟨m, lastPlace x, hm, le_max_right _ _, heq⟩

/-- Whole numbers are rounded to whole numbers. -/
theorem exists_natCast_rounded (hn : 0 < n) : ∃ k : Nat, rounded n = k := by
  rcases le_or_gt 0 (lastPlace n) with hplace | hplace
  · obtain ⟨m, _, heq⟩ := exists_rounded_eq (x := n) (by exact_mod_cast hn)
    obtain ⟨k, hk⟩ := Int.eq_ofNat_of_zero_le hplace
    refine ⟨m * 2 ^ k, ?_⟩
    rw [heq, hk, zpow_natCast]
    push_cast
    rfl
  · -- places behind the point are nothing to a whole number
    obtain ⟨k, hk⟩ := Int.eq_ofNat_of_zero_le (show 0 ≤ -lastPlace n by omega)
    have hmul : (n : Rat) = ((n * 2 ^ k : Int) : Rat) * 2 ^ lastPlace n := by
      rw [← neg_neg (lastPlace n), hk, zpow_neg, zpow_natCast]
      push_cast
      field_simp
    exact ⟨n, rounded_of_multiple hmul⟩

theorem kept_natCast (h : n ≤ 2 ^ 53) : Kept n := ⟨n, 0, h, by decide, by simp⟩

theorem kept_of_nearest? (h : nearest? x = some y) : Kept y := by
  rcases nearest?_cases h with ⟨_, rfl⟩ | ⟨hx, rfl⟩
  · exact_mod_cast kept_natCast (n := 0) (by decide)
  · exact kept_rounded hx

theorem le_nearest? (hz : Kept z) (hle : z ≤ x) (h : nearest? x = some y) : z ≤ y := by
  rcases nearest?_cases h with ⟨hx, rfl⟩ | ⟨hx, rfl⟩
  · exact hle.trans hx
  · exact le_rounded hx hz hle

theorem exists_natCast_of_nearest? (h : nearest? n = some y) : ∃ k : Nat, y = k := by
  rcases nearest?_cases h with ⟨_, rfl⟩ | ⟨hn, rfl⟩
  · exact ⟨0, Nat.cast_zero.symm⟩
  · exact exists_natCast_rounded (by exact_mod_cast hn)

theorem eq_of_nearest?_natCast (hn : n ≤ 2 ^ 53) (h : nearest? n = some y) : y = n := by
  refine le_antisymm ?_ (le_nearest? (kept_natCast hn) le_rfl h)
  rcases nearest?_cases h with ⟨_, rfl⟩ | ⟨hpos, rfl⟩
  · exact Nat.cast_nonneg n
  · exact rounded_le hpos (kept_natCast hn) le_rfl

end Wakeup.Binary64
