import Mathlib.Order.MinMax
import Wakeup.Proofs.Schedule.Order

/-! A later base time or a longer delay never makes a schedule fire earlier. -/
namespace Wakeup

namespace Instant

/-- No later, by the second and then by the nanosecond. -/
instance : LE Instant := ⟨fun t u => ¬ u.Before t⟩

theorem le_iff {t u : Instant} :
    t ≤ u ↔ t.seconds < u.seconds ∨ t.seconds = u.seconds ∧ t.nanos ≤ u.nanos := by
  change ¬ u.Before t ↔ _
  unfold Before
  omega

theorem le_of_sinceEpoch_le {t u : Instant} (ht : t.nanos = 0) (hu : u.nanos = 0)
    (h : t.sinceEpoch ≤ u.sinceEpoch) : t ≤ u := by
  unfold sinceEpoch at h
  exact le_iff.mpr (by omega)

end Instant

namespace Schedule

open Instant

variable {base base' : Instant} {minutes minutes' : Int64}

theorem minute_instantAfter?_mono (hb : base ≤ base') (hm : minutes ≤ minutes') :
    ((instantAfter? base minutes).getD latest).minute ≤
      ((instantAfter? base' minutes').getD latest).minute := by
  have hb := Instant.le_iff.mp hb
  have hm : minutes.toInt ≤ minutes'.toInt := Int64.le_iff_toInt_le.mp hm
  rw [minute_instantAfter?, minute_instantAfter?]
  omega

/-- A schedule for a later base time and a longer delay fires no earlier: whether or not the one or
the other base is a leap second, and whichever way the delays lead out of the years of four
digits. -/
theorem fireAt?_after_mono (hb : base ≤ base') (hm : minutes ≤ minutes') :
    ∃ t t', (after base minutes).fireAt? = some t ∧ (after base' minutes').fireAt? = some t' ∧
      t ≤ t' := by
  obtain ⟨t, ht, hn, hs⟩ := fireAt?_containing ((instantAfter? base minutes).getD latest)
  obtain ⟨t', ht', hn', hs'⟩ := fireAt?_containing ((instantAfter? base' minutes').getD latest)
  have hminute := minute_instantAfter?_mono hb hm
  refine ⟨t, t', ht, ht', le_of_sinceEpoch_le hn hn' ?_⟩
  rw [hs, hs']
  exact Int.mul_le_mul_of_nonneg_right (max_le_max le_rfl (min_le_min le_rfl hminute)) (by decide)

/-- From within a leap second without a delay, and from the end of that second with one that no
length of time can be. -/
theorem fireAt?_after_mono_leapSecond :
    let base : Instant := ⟨1483228799, 1500000000, by decide, by decide, by decide, by decide⟩
    let base' : Instant := ⟨1483228799, 1999999999, by decide, by decide, by decide, by decide⟩
    base ≤ base' ∧ (-1 : Int64) ≤ Int64.maxValue ∧ ∃ t t', (after base (-1)).fireAt? = some t ∧
      (after base' Int64.maxValue).fireAt? = some t' ∧ t ≤ t' := by
  intro base base'
  have hb : base ≤ base' := Instant.le_iff.mpr (.inr ⟨rfl, by decide⟩)
  have hm : (-1 : Int64) ≤ Int64.maxValue := by decide
  exact ⟨hb, hm, fireAt?_after_mono hb hm⟩

end Schedule
end Wakeup
