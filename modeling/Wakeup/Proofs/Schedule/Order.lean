import Mathlib.Data.Int.Order.Basic
import Mathlib.Data.List.Lex
import Wakeup.Proofs.Calendar.Order
import Wakeup.Proofs.Schedule.Delay

/-! Schedules that name a minute of the years 0000 to 9999 and the first instants of these minutes
correspond, in the order of the fields. -/
namespace Wakeup

/-- One instant is earlier than another, by the second and then by the nanosecond. -/
def Instant.Before (t u : Instant) : Prop :=
  t.seconds < u.seconds ∨ t.seconds = u.seconds ∧ t.nanos < u.nanos

/-- The instant starts a minute of the years 0000 to 9999. -/
def Instant.StartsMinute (t : Instant) : Prop :=
  t.nanos = 0 ∧ t.seconds % 60 = 0 ∧ yearStart 0 ≤ t.sinceEpoch ∧ t.sinceEpoch < yearStart 10000

namespace Schedule

open Instant

variable {x y : Schedule} {t u : Instant}

/-- The fields name a minute of a day that the calendar has. -/
structure NamesMinute (x : Schedule) : Prop where
  month : 1 ≤ x.month.toNat ∧ x.month.toNat ≤ 12
  day : 1 ≤ x.day.toNat ∧ x.day.toNat ≤ Date.daysInMonth x.year.toInt x.month.toNat
  hour : x.hour.toNat < 24
  minute : x.minute.toNat < 60

theorem NamesMinute.date (h : x.NamesMinute) : x.date.Valid := Date.valid_iff.mpr ⟨h.month, h.day⟩

/-- The number of the minute since 1970-01-01T00:00Z. -/
def number (x : Schedule) : Int := x.date.toDays * 1440 + x.hour.toNat * 60 + x.minute.toNat

/-- The greatest field first. -/
def fields (x : Schedule) : List Int :=
  [x.year.toInt, x.month.toNat, x.day.toNat, x.hour.toNat, x.minute.toNat]

theorem fireAt?_eq_some_iff : x.fireAt? = some t ↔
    x.NamesMinute ∧ t.seconds = 60 * x.number ∧ t.nanos = 0 := by
  unfold fireAt?
  split
  · next h =>
    rw [ofMinute?, ofUnix?_eq_some_iff]
    obtain ⟨hmonth, hday⟩ := Date.valid_iff.mp h.1
    exact (and_iff_right ⟨hmonth, hday, h.2.1, h.2.2⟩).symm
  · next h => exact iff_of_false nofun fun hx => h ⟨hx.1.date, hx.1.hour, hx.1.minute⟩

theorem NamesMinute.number_bounds (h : x.NamesMinute) :
    x.date.toDays * 1440 ≤ x.number ∧ x.number < x.date.toDays * 1440 + 1440 := by
  have hh := h.hour
  have hm := h.minute
  unfold number
  omega

/-- A year begins with its first minute. -/
theorem NamesMinute.newYear_le_iff (h : x.NamesMinute) (y : Int) :
    Date.toDays ⟨y, 1, 1⟩ * 1440 ≤ x.number ↔ y ≤ x.year.toInt := by
  have hdate : Date.toDays ⟨y, 1, 1⟩ ≤ x.date.toDays ↔ y ≤ x.year.toInt := h.date.newYear_le_iff
  have hbounds := h.number_bounds
  omega

/-- The minutes of the years -262143 to 262142 have a first instant, and no others. -/
theorem fireAt?_isSome_iff : x.fireAt?.isSome ↔
    x.NamesMinute ∧ -262143 ≤ x.year.toInt ∧ x.year.toInt ≤ 262142 := by
  have hfirst : Date.toDays ⟨-262143, 1, 1⟩ = -96465292 := by decide
  have hend : Date.toDays ⟨262143, 1, 1⟩ = 95026237 := by decide
  constructor
  · intro hsome
    obtain ⟨t, ht⟩ := Option.isSome_iff_exists.mp hsome
    obtain ⟨hx, hs, _⟩ := fireAt?_eq_some_iff.mp ht
    have hlow := hx.newYear_le_iff (-262143)
    have hhigh := hx.newYear_le_iff 262143
    have hl := t.first_le
    have hu := t.le_last
    rw [hfirst] at hlow
    rw [hend] at hhigh
    exact ⟨hx, by omega, by omega⟩
  · rintro ⟨hx, hl, hu⟩
    have hlow := hx.newYear_le_iff (-262143)
    have hhigh := hx.newYear_le_iff 262143
    rw [hfirst] at hlow
    rw [hend] at hhigh
    obtain ⟨t, _, hs, hn⟩ := ofUnix?_of_whole (s := 60 * x.number) (n := 0) (by omega) (by omega)
      (by decide)
    exact Option.isSome_iff_exists.mpr ⟨t, fireAt?_eq_some_iff.mpr ⟨hx, hs, hn⟩⟩

theorem NamesMinute.inFourDigits_iff (h : x.NamesMinute) :
    InFourDigits x.number ↔ 0 ≤ x.year.toInt ∧ x.year.toInt ≤ 9999 := by
  have hlow := h.newYear_le_iff 0
  have hhigh := h.newYear_le_iff 10000
  rw [InFourDigits, firstMinute_eq, lastMinute_eq]
  omega

/-- The fields of a minute are those of the schedule that names it. -/
theorem NamesMinute.ofMinute_number (h : x.NamesMinute) : ofMinute x.number = x := by
  have hh := h.hour
  have hm := h.minute
  have hday : x.number / 1440 = x.date.toDays := by
    unfold number
    omega
  have hinDay : (x.number % 1440).toNat = x.hour.toNat * 60 + x.minute.toNat := by
    unfold number
    omega
  have hminute : (x.number % 1440).toNat % 60 = x.minute.toNat := by omega
  have hhour : (x.number % 1440).toNat / 60 = x.hour.toNat := by omega
  simp only [ofMinute, hday, hminute, hhour, Date.ofDays_toDays h.date, UInt32.ofNat_toNat]
  change (⟨x.minute, x.hour, .ofNat x.day.toNat, .ofNat x.month.toNat, .ofInt x.year.toInt⟩ :
    Schedule) = x
  rw [UInt32.ofNat_toNat, UInt32.ofNat_toNat, Int32.ofInt_toInt]

theorem number_lt_of_fields_lt (hx : x.NamesMinute) (hy : y.NamesMinute) (h : x.fields < y.fields) :
    x.number < y.number := by
  have hbx := hx.number_bounds
  have hby := hy.number_bounds
  simp only [fields, List.cons_lt_cons_iff, List.lt_irrefl, and_false, or_false, Int.ofNat_lt,
    Int.ofNat_inj] at h
  rcases h with h | ⟨hyear, h | ⟨hmonth, h | ⟨hday, h⟩⟩⟩
  · have := Date.toDays_lt_of_year hx.date hy.date h
    omega
  · have := Date.toDays_lt_of_month hx.date hy.date hyear h
    omega
  · have : x.date.toDays < y.date.toDays := by
      simp only [date, Date.toDays, hyear, hmonth]
      omega
    omega
  · have : x.date = y.date := by
      simp only [date, hyear, hmonth, hday]
    have hm := hx.minute
    have hm' := hy.minute
    unfold number
    rw [this]
    omega

theorem eq_of_fields_eq (h : x.fields = y.fields) : x = y := by
  obtain ⟨minute, hour, day, month, year⟩ := x
  obtain ⟨minute', hour', day', month', year'⟩ := y
  simp only [fields, List.cons.injEq, and_true, Int.ofNat_inj, UInt32.toNat_inj,
    Int32.toInt_inj] at h
  obtain ⟨rfl, rfl, rfl, rfl, rfl⟩ := h
  rfl

theorem number_lt_iff (hx : x.NamesMinute) (hy : y.NamesMinute) :
    x.number < y.number ↔ x.fields < y.fields := by
  constructor
  · intro hlt
    rcases lt_trichotomy x.fields y.fields with h | h | h
    · exact h
    · rw [eq_of_fields_eq h] at hlt
      exact absurd hlt (lt_irrefl _)
    · exact absurd hlt (number_lt_of_fields_lt hy hx h).not_gt
  · exact number_lt_of_fields_lt hx hy

/-- A minute of four digits is not moved into them. -/
theorem containing_of_inFourDigits (h : InFourDigits t.minute) :
    containing t = ofMinute t.minute := by
  rw [containing, min_eq_right h.2, max_eq_right h.1]

theorem minute_of_fireAt? (h : x.fireAt? = some t) : t.minute = x.number := by
  obtain ⟨_, hs, _⟩ := fireAt?_eq_some_iff.mp h
  unfold Instant.minute
  omega

theorem containing_of_fireAt? (h : x.fireAt? = some t) (h0 : 0 ≤ x.year.toInt)
    (h1 : x.year.toInt ≤ 9999) : t.StartsMinute ∧ containing t = x := by
  obtain ⟨hx, hs, hn⟩ := fireAt?_eq_some_iff.mp h
  have hm := minute_of_fireAt? h
  have hyears := hx.inFourDigits_iff.mpr ⟨h0, h1⟩
  refine ⟨⟨hn, by omega, ?_, ?_⟩, ?_⟩
  · rw [yearStart_zero, sinceEpoch, hn, hs, minuteNanos]
    have := hyears.1
    omega
  · rw [yearStart_tenThousand, sinceEpoch, hn, hs, minuteNanos]
    have := hyears.2
    omega
  · rw [← hm] at hyears
    rw [containing_of_inFourDigits hyears, hm, hx.ofMinute_number]

theorem inFourDigits_of_startsMinute (h : t.StartsMinute) : InFourDigits t.minute := by
  obtain ⟨hn, hs, hl, hu⟩ := h
  rw [yearStart_zero, sinceEpoch, hn, minuteNanos] at hl
  rw [yearStart_tenThousand, sinceEpoch, hn, minuteNanos] at hu
  unfold InFourDigits Instant.minute
  omega

theorem fireAt?_of_startsMinute (h : t.StartsMinute) : (containing t).fireAt? = some t ∧
    0 ≤ (containing t).year.toInt ∧ (containing t).year.toInt ≤ 9999 := by
  have hm := inFourDigits_of_startsMinute h
  have ht : 60 * t.minute = t.seconds := by
    have := h.2.1
    unfold Instant.minute
    omega
  have hfire : (ofMinute t.minute).fireAt? = some t := by
    rw [fireAt?_ofMinute hm, ofMinute?, ht]
    exact ofUnix?_eq_some_iff.mpr ⟨rfl, h.1⟩
  obtain ⟨hx, _, _⟩ := fireAt?_eq_some_iff.mp hfire
  rw [containing_of_inFourDigits hm]
  refine ⟨hfire, hx.inFourDigits_iff.mp ?_⟩
  rwa [← minute_of_fireAt? hfire]

theorem before_iff (ht : x.fireAt? = some t) (hu : y.fireAt? = some u) :
    t.Before u ↔ x.fields < y.fields := by
  obtain ⟨hx, hs, hn⟩ := fireAt?_eq_some_iff.mp ht
  obtain ⟨hy, hs', hn'⟩ := fireAt?_eq_some_iff.mp hu
  rw [← number_lt_iff hx hy, Before]
  omega

/-- A schedule fires just if its fields name a minute of the years that instants have. The schedules
that fire in the years 0000 to 9999 and the first instants of the minutes of these years are taken
to each other, and the earlier of two instants is that of the lesser fields. -/
theorem fireAt?_containing_inverse :
    (∀ x : Schedule, x.fireAt?.isSome ↔
      x.NamesMinute ∧ -262143 ≤ x.year.toInt ∧ x.year.toInt ≤ 262142) ∧
    (∀ (x : Schedule) (t : Instant), x.fireAt? = some t → 0 ≤ x.year.toInt → x.year.toInt ≤ 9999 →
      t.StartsMinute ∧ containing t = x) ∧
    (∀ t : Instant, t.StartsMinute → (containing t).fireAt? = some t ∧
      0 ≤ (containing t).year.toInt ∧ (containing t).year.toInt ≤ 9999) ∧
    ∀ (x y : Schedule) (t u : Instant), x.fireAt? = some t → y.fireAt? = some u →
      (t.Before u ↔ x.fields < y.fields) :=
  ⟨fun _ => fireAt?_isSome_iff, fun _ _ => containing_of_fireAt?,
    fun _ => fireAt?_of_startsMinute, fun _ _ _ _ => before_iff⟩

/-- The last minute of the February of year 0000, and the first of its March. -/
theorem fireAt?_containing_inverse_leapDay :
    let x : Schedule := ⟨59, 23, 29, 2, 0⟩
    let y : Schedule := ⟨0, 0, 1, 3, 0⟩
    ∃ t u, (x.fireAt? = some t ∧ y.fireAt? = some u ∧ t.StartsMinute) ∧ containing t = x ∧
      (containing t).fireAt? = some t ∧ t.Before u := by
  intro x y
  obtain ⟨hsome, hcontaining, hfire, hbefore⟩ := fireAt?_containing_inverse
  have hx : x.fireAt?.isSome :=
    (hsome x).mpr ⟨⟨by decide, by decide, by decide, by decide⟩, by decide, by decide⟩
  have hy : y.fireAt?.isSome :=
    (hsome y).mpr ⟨⟨by decide, by decide, by decide, by decide⟩, by decide, by decide⟩
  obtain ⟨t, ht⟩ := Option.isSome_iff_exists.mp hx
  obtain ⟨u, hu⟩ := Option.isSome_iff_exists.mp hy
  obtain ⟨hstarts, hinverse⟩ := hcontaining x t ht (by decide) (by decide)
  exact ⟨t, u, ⟨ht, hu, hstarts⟩, hinverse, (hfire t hstarts).1,
    (hbefore x y t u ht hu).mpr (by decide)⟩

end Schedule
end Wakeup
