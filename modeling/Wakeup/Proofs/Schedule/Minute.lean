import Wakeup.Proofs.Calendar.Instants
import Wakeup.Schedule

/-! The schedule of a minute with a year of four digits fires at the first instant of the minute. -/
namespace Wakeup.Schedule

variable {m : Int}

theorem firstMinute_eq : firstMinute = Date.toDays ⟨0, 1, 1⟩ * 1440 := by decide

theorem lastMinute_eq : lastMinute = Date.toDays ⟨10000, 1, 1⟩ * 1440 - 1 := by decide

theorem toNat_ofNat_of_le {n : Nat} (h : n ≤ 9999) : (UInt32.ofNat n).toNat = n :=
  UInt32.toNat_ofNat_of_lt' (Nat.lt_of_le_of_lt h (by decide))

/-- A minute in the years that have four digits. -/
def InFourDigits (m : Int) : Prop := firstMinute ≤ m ∧ m ≤ lastMinute

theorem ofMinute?_of_inFourDigits (h : InFourDigits m) :
    ∃ t, Instant.ofMinute? m = some t ∧ t.seconds = 60 * m ∧ t.nanos = 0 := by
  simp only [InFourDigits, firstMinute, lastMinute] at h
  exact Instant.ofUnix?_of_whole (by omega) (by omega) (by omega)

theorem ofDays_year_of_inFourDigits (h : InFourDigits m) :
    0 ≤ (Date.ofDays (m / 1440)).year ∧ (Date.ofDays (m / 1440)).year < 10000 := by
  obtain ⟨hl, hu⟩ := h
  rw [firstMinute_eq] at hl
  rw [lastMinute_eq] at hu
  exact Date.ofDays_year_bounds (by omega) (by omega)

/-- The fields of a schedule hold the date without loss. -/
theorem date_ofMinute (h : InFourDigits m) : (ofMinute m).date = Date.ofDays (m / 1440) := by
  obtain ⟨hy0, hy1⟩ := ofDays_year_of_inFourDigits h
  have hv := Date.valid_ofDays (m / 1440)
  have hm := hv.month_le
  have hd := hv.day_le
  simp only [date, ofMinute]
  rw [Int32.toInt_ofInt_of_le (by omega) (by omega), toNat_ofNat_of_le (by omega),
    toNat_ofNat_of_le (by omega)]

theorem hour_ofMinute (m : Int) : (ofMinute m).hour.toNat = (m % 1440).toNat / 60 :=
  toNat_ofNat_of_le (by omega)

theorem minute_ofMinute (m : Int) : (ofMinute m).minute.toNat = (m % 1440).toNat % 60 :=
  toNat_ofNat_of_le (by omega)

theorem fireAt?_ofMinute (h : InFourDigits m) : (ofMinute m).fireAt? = Instant.ofMinute? m := by
  have hh := hour_ofMinute m
  have hm := minute_ofMinute m
  unfold fireAt?
  rw [if_pos, date_ofMinute h, Date.toDays_ofDays, hh, hm]
  · congr 1
    omega
  · rw [date_ofMinute h]
    refine ⟨Date.valid_ofDays _, ?_, ?_⟩
    · rw [UInt32.lt_iff_toNat_lt, hh]
      simp
      omega
    · rw [UInt32.lt_iff_toNat_lt, hm]
      simp
      omega

end Wakeup.Schedule
