import Wakeup.Proofs.Plan.Headroom

/-! A plan is the one that exact arithmetic makes, unless the time that remains is within a part in
`2 ^ 53` and a nanosecond of the time that is required. -/
namespace Wakeup

namespace Binary64

variable {x : Rat}

def infinity : Binary64 := ⟨0x7ff0000000000000⟩

theorem eq_infinity {x : Binary64} (hnan : ¬ x.isNaN) (hnegative : ¬ x.negative)
    (hfinite : ¬ x.isFinite) : x = infinity := by
  have hexponent : x.exponent = 2047 := by simpa [isFinite] using hfinite
  have hfraction : x.fraction = 0 := by simpa [isNaN, hexponent] using hnan
  have hbelow : x.bits.toNat < 9223372036854775808 := by simpa [negative] using hnegative
  unfold exponent at hexponent
  unfold fraction at hfraction
  have hbits : x.bits.toNat = (0x7ff0000000000000 : UInt64).toNat := by
    change x.bits.toNat = 9218868437227405312
    omega
  exact congrArg mk (UInt64.toNat_inj.mp hbits)

theorem exists_positivePart? {x : Binary64} (h : x ≠ infinity) : ∃ r, x.positivePart? = some r := by
  unfold positivePart?
  split
  · exact ⟨0, rfl⟩
  · next hsign =>
    obtain ⟨hnan, hnegative⟩ := not_or.mp hsign
    have hfinite : x.isFinite := by
      by_contra hfinite
      exact h (eq_infinity hnan hnegative hfinite)
    exact ⟨x.magnitude, if_pos hfinite⟩

/-- Nothing up to `2 ^ 1023` is too great. -/
theorem exists_nearest? (h : x ≤ 2 ^ (1023 : Int)) : ∃ y, nearest? x = some y := by
  rcases le_or_gt x 0 with hx | hx
  · exact ⟨0, if_pos hx⟩
  · have hkept : Kept (2 ^ (1023 : Int)) := ⟨1, 1023, by norm_num, by norm_num, by simp⟩
    have hlt : (2 : Rat) ^ (1023 : Int) < 2 ^ (1024 : Int) :=
      zpow_lt_zpow_right₀ one_lt_two (by norm_num)
    exact ⟨rounded x, by rw [nearest?_of_pos hx, if_pos ((rounded_le hx hkept h).trans_lt hlt)]⟩

theorem le_two_zpow_of_nanos (h : x ≤ 18446744073709551616000000000) : x ≤ 2 ^ (1023 : Int) :=
  calc x ≤ 18446744073709551616000000000 := h
    _ ≤ 2 ^ (94 : Int) := by norm_num
    _ ≤ 2 ^ (1023 : Int) := zpow_le_zpow_right₀ one_le_two (by norm_num)

/-- What rounding may take off below the least number of full length is nothing to a nanosecond. -/
theorem lost_lt_half_nano : (2 : Rat) ^ (-1075 : Int) * 1000000000 < 1 / 2 :=
  calc (2 : Rat) ^ (-1075 : Int) * 1000000000
      ≤ 2 ^ (-31 : Int) * 1000000000 := by
        gcongr
        · exact one_le_two
        · norm_num
    _ < 1 / 2 := by norm_num

end Binary64

namespace Plan

variable {seconds : Nat} {headroom : Binary64} {remaining : Duration} {near ratio : Rat}

theorem requiredTime_eq (hnear : Binary64.nearest? seconds = some near)
    (hratio : headroom.positivePart? = some ratio) : requiredTime seconds headroom =
      ((Binary64.nearest? (near * ratio)).bind Duration.nearest?).getD .longest := by
  simp [requiredTime, hnear, hratio]

theorem product_nonneg (hnear : Binary64.nearest? seconds = some near)
    (hratio : headroom.positivePart? = some ratio) : 0 ≤ near * ratio :=
  mul_nonneg (Binary64.nearest?_nonneg hnear) (Binary64.positivePart?_nonneg hratio)

theorem requiredTime_lt (hnear : Binary64.nearest? seconds = some near)
    (hratio : headroom.positivePart? = some ratio)
    (h : near * ratio * (1 + 2 ^ (-53 : Int)) * 1000000000 + 1 ≤ remaining.nanos) :
    requiredTime seconds headroom < remaining := by
  have hproduct := product_nonneg hnear hratio
  rw [requiredTime_eq hnear hratio]
  generalize near * ratio = p at h hproduct ⊢
  have hlost := Binary64.lost_lt_half_nano
  have hpart : (0 : Rat) < 2 ^ (-53 : Int) := by positivity
  have hlast : (remaining.nanos : Rat) ≤ 18446744073709551616000000000 := by
    exact_mod_cast remaining.nanos_lt.le
  obtain ⟨y, hy⟩ := Binary64.exists_nearest? (x := p) (Binary64.le_two_zpow_of_nanos (by nlinarith))
  have herror := (abs_le.mp (Binary64.abs_nearest?_sub_le_error hproduct hy)).2
  generalize (2 : Rat) ^ (-53 : Int) = u at h hpart herror
  generalize (2 : Rat) ^ (-1075 : Int) = v at hlost herror
  have hnanos : y * 1000000000 + 1 / 2 < remaining.nanos := by linarith
  obtain ⟨d, hd, hlt⟩ := Duration.exists_nearest?_lt (Binary64.nearest?_nonneg hy) hnanos
  rw [hy, Option.bind_some, hd]
  exact hlt

theorem not_requiredTime_lt (hnear : Binary64.nearest? seconds = some near)
    (hratio : headroom.positivePart? = some ratio)
    (h : remaining.nanos ≤ near * ratio * (1 - 2 ^ (-53 : Int)) * 1000000000 - 1) :
    ¬ requiredTime seconds headroom < remaining := by
  intro hlt
  obtain ⟨x, r, y, hx, hr, hy, hd⟩ := exists_product hlt
  obtain rfl := Option.some.inj (hnear.symm.trans hx)
  obtain rfl := Option.some.inj (hratio.symm.trans hr)
  have hproduct := product_nonneg hnear hratio
  generalize near * ratio = p at h hproduct hy
  have herror := (abs_le.mp (Binary64.abs_nearest?_sub_le_error hproduct hy)).1
  have hhalf := (abs_le.mp (Duration.abs_nanos_sub_le_half (Binary64.nearest?_nonneg hy) hd)).1
  have hlost := Binary64.lost_lt_half_nano
  have hnanos : ((requiredTime seconds headroom).nanos : Rat) < remaining.nanos := by
    exact_mod_cast hlt
  generalize (2 : Rat) ^ (-53 : Int) = u at h herror
  generalize (2 : Rat) ^ (-1075 : Int) = v at hlost herror
  linarith

theorem exists_wait {p : Plan} (h : p.isWait) : ∃ d, p = .wait d := by
  cases p with
  | wait d => exact ⟨d, rfl⟩
  | remote m => cases h

theorem exists_remote {p : Plan} (h : ¬ p.isWait) : ∃ m, p = .remote m := by
  cases p with
  | wait d => exact absurd rfl h
  | remote m => exact ⟨m, rfl⟩

/-- The delay as the nearest number that binary floating point keeps, times the headroom in exact
arithmetic: with a part in `2 ^ 53` and a nanosecond more than that a short delay is waited out,
with as much less no delay is. -/
theorem choose_near_exact (delaySeconds : Int64) (remaining : Duration) (config : Config)
    (hfinite : config.headroom ≠ .infinity) :
    ∃ (seconds : Nat) (near ratio : Rat), (seconds : Int) = max delaySeconds.toInt 0 ∧
      Binary64.nearest? seconds = some near ∧
      (∀ z, Binary64.Kept z → |near - seconds| ≤ |z - seconds|) ∧
      config.headroom.positivePart? = some ratio ∧
      (seconds * 1000000000 < config.localWaitThreshold.nanos →
        near * ratio * (1 + 2 ^ (-53 : Int)) * 1000000000 + 1 ≤ remaining.nanos →
        ∃ d, choose delaySeconds remaining config = .wait d ∧ d.nanos = seconds * 1000000000) ∧
      (remaining.nanos ≤ near * ratio * (1 - 2 ^ (-53 : Int)) * 1000000000 - 1 →
        ∃ m, choose delaySeconds remaining config = .remote m) := by
  have hword : delaySeconds.toInt.toNat < 18446744073709551616 := by
    have := delaySeconds.toInt_lt
    omega
  have hnanos := Duration.nanos_ofSeconds hword
  generalize hseconds : delaySeconds.toInt.toNat = seconds at hword hnanos
  have hrange : (seconds : Rat) ≤ 18446744073709551616000000000 := by
    exact_mod_cast hword.le.trans (by norm_num)
  obtain ⟨near, hnear⟩ := Binary64.exists_nearest? (Binary64.le_two_zpow_of_nanos hrange)
  obtain ⟨ratio, hratio⟩ := Binary64.exists_positivePart? hfinite
  refine ⟨seconds, near, ratio, by omega, hnear,
    fun z hz => Binary64.abs_nearest?_sub_le (Nat.cast_nonneg seconds) hnear hz, hratio,
    fun hshort hmore => ?_, fun hless => exists_remote fun hwait => ?_⟩
  · have hwait : (choose delaySeconds remaining config).isWait := by
      rw [isWait_choose_iff, hseconds]
      exact ⟨hnanos.trans_lt hshort, requiredTime_lt hnear hratio hmore⟩
    obtain ⟨d, hd⟩ := exists_wait hwait
    refine ⟨d, hd, ?_⟩
    rw [(choose_eq_wait hd).1, hseconds, hnanos]
  · rw [isWait_choose_iff, hseconds] at hwait
    exact not_requiredTime_lt hnear hratio hless hwait.2

/-- Fifteen seconds and a fifth of them: the headroom is a little below 1.2. -/
theorem choose_near_exact_fifth :
    let config : Config := {}
    config.headroom ≠ .infinity ∧
      (∃ d, choose 15 ⟨18000000002, by decide⟩ config = .wait d ∧ d.nanos = 15000000000) ∧
      ∃ m, choose 15 ⟨17999999998, by decide⟩ config = .remote m := by
  intro config
  have hfinite : config.headroom ≠ .infinity := by decide
  have hratio : config.headroom.positivePart? = some (5404319552844595 / 4503599627370496) := by
    decide +kernel
  have hnear : Binary64.nearest? (15 : Nat) = some 15 := by decide +kernel
  have hmore := choose_near_exact 15 ⟨18000000002, by decide⟩ config hfinite
  have hless := choose_near_exact 15 ⟨17999999998, by decide⟩ config hfinite
  refine ⟨hfinite, ?_, ?_⟩
  · obtain ⟨seconds, near, ratio, hs, hx, _, hr, hwait, _⟩ := hmore
    obtain rfl : seconds = 15 := Int.ofNat.inj hs
    obtain rfl := Option.some.inj (hnear.symm.trans hx)
    obtain rfl := Option.some.inj (hratio.symm.trans hr)
    exact hwait (by decide) (by norm_num)
  · obtain ⟨seconds, near, ratio, hs, hx, _, hr, _, hremote⟩ := hless
    obtain rfl : seconds = 15 := Int.ofNat.inj hs
    obtain rfl := Option.some.inj (hnear.symm.trans hx)
    obtain rfl := Option.some.inj (hratio.symm.trans hr)
    exact hremote (by norm_num)

end Plan
end Wakeup
