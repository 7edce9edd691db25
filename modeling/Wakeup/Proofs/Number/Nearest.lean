import Wakeup.Proofs.Number.Binary64

/-! Rounding to binary floating point goes to the nearest number that is kept, keeps the order, and
is off by no more than half of the last place. Values that may be missing are compared as if a
missing one stood above all others, as what is too great for the format does. -/
namespace Wakeup

/-- A missing value is above all others. -/
def AtMost {α : Type} [LE α] (a b : Option α) : Prop := ∀ v ∈ b, ∃ u ∈ a, u ≤ v

theorem AtMost.refl {α : Type} [Preorder α] (a : Option α) : AtMost a a := by
  intro v hv
  exact ⟨v, hv, le_rfl⟩

theorem AtMost.bind {α β : Type} [LE α] [LE β] {a b : Option α} {f g : α → Option β}
    (h : AtMost a b) (hf : ∀ u ∈ a, ∀ v ∈ b, u ≤ v → AtMost (f u) (g v)) :
    AtMost (a.bind f) (b.bind g) := by
  intro w hw
  obtain ⟨v, hv, hw⟩ := Option.bind_eq_some_iff.mp hw
  obtain ⟨u, hu, hle⟩ := h v hv
  obtain ⟨t, ht, htw⟩ := hf u hu v hv hle w hw
  exact ⟨t, Option.bind_eq_some_iff.mpr ⟨u, hu, ht⟩, htw⟩

namespace Binary64

variable {x y z : Rat}

theorem rounded_sub (x : Rat) : rounded x - x =
    (roundHalfEven (x / 2 ^ lastPlace x) - x / 2 ^ lastPlace x) * 2 ^ lastPlace x := by
  rw [rounded, sub_mul, div_mul_cancel₀ _ (unit_pos x).ne']

theorem abs_rounded_sub_le_multiple (x : Rat) (m : Int) :
    |rounded x - x| ≤ |m * 2 ^ lastPlace x - x| := by
  have hm : (m : Rat) * 2 ^ lastPlace x - x =
      (m - x / 2 ^ lastPlace x) * 2 ^ lastPlace x := by
    rw [sub_mul, div_mul_cancel₀ _ (unit_pos x).ne']
  rw [rounded_sub, hm, abs_mul, abs_mul]
  exact mul_le_mul_of_nonneg_right (abs_roundHalfEven_sub_le _ m) (abs_nonneg _)

/-- No kept number is nearer. -/
theorem abs_rounded_sub_le (hx : 0 < x) (hz : Kept z) : |rounded x - x| ≤ |z - x| := by
  rcases hz.cases hx with ⟨m, rfl⟩ | ⟨m, hle, hlow⟩
  · exact abs_rounded_sub_le_multiple x m
  · refine (abs_rounded_sub_le_multiple x m).trans ?_
    rw [abs_of_nonpos (by linarith), abs_of_nonpos (by linarith)]
    linarith

theorem rounded_mono (hx : 0 < x) (h : x ≤ y) : rounded x ≤ rounded y := by
  have hy : 0 < y := hx.trans_le h
  apply le_of_nearest h _ _ (congrArg rounded)
  · exact abs_rounded_sub_le hx (kept_rounded hy)
  · exact abs_rounded_sub_le hy (kept_rounded hx)

theorem Kept.nonneg (h : Kept z) : 0 ≤ z := by
  obtain ⟨m, e, _, _, rfl⟩ := h
  positivity

theorem abs_nearest?_sub_le (hx : 0 ≤ x) (h : nearest? x = some y) (hz : Kept z) :
    |y - x| ≤ |z - x| := by
  rcases nearest?_cases h with ⟨hx', rfl⟩ | ⟨hx, rfl⟩
  · rw [le_antisymm hx' hx, sub_zero, abs_zero]
    exact abs_nonneg _
  · exact abs_rounded_sub_le hx hz

theorem nearest?_nonneg (h : nearest? x = some y) : 0 ≤ y := (kept_of_nearest? h).nonneg

theorem nearest?_mono (h : x ≤ y) : AtMost (nearest? x) (nearest? y) := by
  intro v hv
  rcases le_or_gt x 0 with hx | hx
  · exact ⟨0, if_pos hx, nearest?_nonneg hv⟩
  · have hle := rounded_mono hx h
    rw [nearest?_of_pos (hx.trans_le h), Option.mem_def, Option.ite_none_right_eq_some] at hv
    obtain ⟨hlt, heq⟩ := hv
    obtain rfl := Option.some.inj heq
    refine ⟨rounded x, ?_, hle⟩
    rw [nearest?_of_pos hx, if_pos (hle.trans_lt hlt)]
    rfl

/-- Half of the last place is at most a part in `2 ^ 53`, but not less than `2 ^ -1075`. -/
theorem unit_le (hx : 0 < x) :
    (2 : Rat) ^ lastPlace x ≤ 2 * (x * 2 ^ (-53 : Int) + 2 ^ (-1075 : Int)) := by
  have hshift : ∀ e : Int, (2 : Rat) ^ (e - 52) = 2 * (2 ^ e * 2 ^ (-53 : Int)) := fun e => by
    rw [← zpow_add₀ two_ne_zero, ← zpow_one_add₀ two_ne_zero]
    congr 1
    omega
  rcases max_cases (floorLog2 x - 52) (-1074) with ⟨h, _⟩ | ⟨h, _⟩
  · have hlow : (2 : Rat) ^ floorLog2 x * 2 ^ (-53 : Int) ≤ x * 2 ^ (-53 : Int) := by
      gcongr
      exact two_zpow_floorLog2_le hx
    have hpos : (0 : Rat) < 2 ^ (-1075 : Int) := by positivity
    rw [lastPlace, h, hshift]
    linarith
  · have hpos : (0 : Rat) < x * 2 ^ (-53 : Int) := by positivity
    have hleast : (2 : Rat) ^ (-1074 : Int) = 2 * 2 ^ (-1075 : Int) :=
      zpow_one_add₀ two_ne_zero (-1075)
    rw [lastPlace, h, hleast]
    linarith

/-- Rounding takes off or adds at most a part in `2 ^ 53` and `2 ^ -1075`. -/
theorem abs_rounded_sub_le_error (hx : 0 < x) :
    |rounded x - x| ≤ x * 2 ^ (-53 : Int) + 2 ^ (-1075 : Int) :=
  calc |rounded x - x|
      = |roundHalfEven (x / 2 ^ lastPlace x) - x / 2 ^ lastPlace x| * 2 ^ lastPlace x := by
        rw [rounded_sub, abs_mul, abs_of_pos (unit_pos x)]
    _ ≤ 1 / 2 * 2 ^ lastPlace x :=
        mul_le_mul_of_nonneg_right (abs_roundHalfEven_sub_le_half _) (unit_pos x).le
    _ = 2 ^ lastPlace x / 2 := one_div_mul_eq_div _ _
    _ ≤ x * 2 ^ (-53 : Int) + 2 ^ (-1075 : Int) := (div_le_iff₀' two_pos).mpr (unit_le hx)

theorem abs_nearest?_sub_le_error (hx : 0 ≤ x) (h : nearest? x = some y) :
    |y - x| ≤ x * 2 ^ (-53 : Int) + 2 ^ (-1075 : Int) := by
  rcases nearest?_cases h with ⟨hx', rfl⟩ | ⟨hx, rfl⟩
  · rw [le_antisymm hx' hx, sub_zero, abs_zero]
    positivity
  · exact abs_rounded_sub_le_error hx

end Binary64
end Wakeup
