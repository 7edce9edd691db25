import Mathlib.Order.Bounds.Defs
import Wakeup.Plan
import Wakeup.Proofs.Plan.Durations
import Wakeup.Proofs.Schedule.Delay

/-! A delay left to a rule is rounded up to whole minutes, and the minute it leads to is rounded
down: the rule fires less than a minute early and never in a minute that has begun. -/
namespace Wakeup.Plan

open Instant Schedule

variable {delaySeconds minutes m : Int64} {remaining : Duration} {config : Config} {base : Instant}

theorem wholeMinutes_le_iff {s n : Nat} : wholeMinutes s ≤ n ↔ s ≤ 60 * n := by
  unfold wholeMinutes
  omega

theorem toInt_max (a b : Int64) : (max a b).toInt = max a.toInt b.toInt := by
  change (if a ≤ b then b else a).toInt = max a.toInt b.toInt
  split
  · next h =>
    rw [Int64.le_iff_toInt_le] at h
    omega
  · next h =>
    rw [Int64.le_iff_toInt_le] at h
    omega

/-- The greatest delay there is fits into the seconds of a length of time. -/
theorem nanos_ofSeconds (delaySeconds : Int64) :
    ((Duration.ofSeconds (.ofNat delaySeconds.toInt.toNat)).nanos : Int) =
      max delaySeconds.toInt 0 * 1000000000 := by
  have hlt := delaySeconds.toInt_lt
  rw [Duration.nanos_ofSeconds (by omega)]
  omega

/-- Its minutes fit into the minutes of a plan. -/
theorem toInt_wholeMinutes (delaySeconds : Int64) :
    (Int64.ofNat (wholeMinutes delaySeconds.toInt.toNat)).toInt =
      wholeMinutes delaySeconds.toInt.toNat := by
  have hlt := delaySeconds.toInt_lt
  exact Int64.toInt_ofNat_of_lt (by unfold wholeMinutes; omega)

theorem minutes_of_remote (h : choose delaySeconds remaining config = .remote m) :
    m.toInt =
      max (wholeMinutes delaySeconds.toInt.toNat : Int) config.leastRemoteMinutes.toInt := by
  simp only [choose] at h
  split at h
  · cases h
  · cases h
    rw [toInt_max, toInt_wholeMinutes]

/-- The minutes of a plan are the fewest that the setting allows and the delay fits into. -/
theorem isLeast_of_remote (h : choose delaySeconds remaining config = .remote m) :
    IsLeast {n : Int | config.leastRemoteMinutes.toInt ≤ n ∧ max delaySeconds.toInt 0 ≤ 60 * n}
      m.toInt := by
  rw [minutes_of_remote h]
  constructor
  · have hs := wholeMinutes_le_iff.mp (Nat.le_refl (wholeMinutes delaySeconds.toInt.toNat))
    change config.leastRemoteMinutes.toInt ≤ _ ∧ max delaySeconds.toInt 0 ≤ 60 * _
    omega
  · rintro n ⟨hleast, hn⟩
    have hs := (wholeMinutes_le_iff (s := delaySeconds.toInt.toNat) (n := n.toNat)).mpr (by omega)
    omega

theorem exactTime_of_nonneg (h : 0 ≤ minutes.toInt) :
    exactTime base minutes = base.sinceEpoch + minutes.toInt * minuteNanos := by
  rw [exactTime, Int.max_eq_left h]

/-- Inside the years of four digits a schedule fires at the start of the minute it leads to. -/
theorem fireAt?_of_inYears (hb : base.nanos < 1000000000)
    (h0 : yearStart 0 ≤ exactTime base minutes) (h1 : exactTime base minutes < yearStart 10000) :
    ∃ t, (after base minutes).fireAt? = some t ∧ t.nanos = 0 ∧
      t.sinceEpoch = exactTime base minutes / minuteNanos * minuteNanos := by
  obtain ⟨t, ht, hn, hs⟩ := fireAt?_containing ((instantAfter? base minutes).getD .latest)
  refine ⟨t, ht, hn, ?_⟩
  rw [hs, minute_after hb, clamp_minute, if_neg (Int.not_lt.mpr h0), if_pos h1]

/-- A plan that leaves a delay to a rule takes the fewest minutes that cover it, and the rule fires
in the last minute before they are over, so less than a minute before the delay is. If a minute is
the least then it fires after the time it is planned at. -/
theorem remote_covers_delay (delaySeconds : Int64) (remaining : Duration) (config : Config) :
    let delay := max delaySeconds.toInt 0
    ((Duration.ofSeconds (.ofNat delay.toNat)).nanos = delay * 1000000000 ∧
      (Int64.ofNat (wholeMinutes delay.toNat)).toInt = wholeMinutes delay.toNat) ∧
    ∀ m, choose delaySeconds remaining config = .remote m →
      IsLeast {n : Int | config.leastRemoteMinutes.toInt ≤ n ∧ delay ≤ 60 * n} m.toInt ∧
      ∀ base : Instant, base.nanos < 1000000000 → yearStart 0 ≤ base.sinceEpoch →
        base.sinceEpoch + m.toInt * minuteNanos < yearStart 10000 →
        ∃ t, (after base m).fireAt? = some t ∧ t.nanos = 0 ∧
          base.sinceEpoch + m.toInt * minuteNanos - minuteNanos < t.sinceEpoch ∧
          t.sinceEpoch ≤ base.sinceEpoch + m.toInt * minuteNanos ∧
          base.sinceEpoch + delay * 1000000000 - minuteNanos < t.sinceEpoch ∧
          (1 ≤ config.leastRemoteMinutes.toInt → base.sinceEpoch < t.sinceEpoch) := by
  intro delay
  have hd : delay.toNat = delaySeconds.toInt.toNat := by omega
  rw [hd]
  refine ⟨⟨nanos_ofSeconds delaySeconds, toInt_wholeMinutes delaySeconds⟩, fun m h => ?_⟩
  have hleast := isLeast_of_remote h
  refine ⟨hleast, fun base hb h0 h1 => ?_⟩
  obtain ⟨⟨hmin, hdelay⟩, _⟩ := hleast
  -- not below zero, so all of the minutes are added to the base
  have hm : 0 ≤ m.toInt := by omega
  rw [← exactTime_of_nonneg hm] at h1 ⊢
  have hlate : base.sinceEpoch + m.toInt * minuteNanos = exactTime base m :=
    (exactTime_of_nonneg hm).symm
  simp only [minuteNanos] at hlate
  obtain ⟨t, ht, hn, hs⟩ := fireAt?_of_inYears hb (by omega) h1
  simp only [minuteNanos] at hs ⊢
  refine ⟨t, ht, hn, ?_, ?_, ?_, fun hone => ?_⟩ <;> omega

/-- Over the end of a year: 61 seconds asked for at 1999-12-31T23:58:30.5Z. -/
theorem remote_covers_newYear :
    choose 61 (.ofSeconds 0) {} = .remote 2 ∧
    ∃ t, (after ⟨946684710, 500000000, by decide, by decide, by decide, by decide⟩ 2).fireAt? =
      some t ∧ 946684770500000000 < t.sinceEpoch ∧ t.sinceEpoch ≤ 946684830500000000 := by
  have hplan : choose 61 (.ofSeconds 0) {} = .remote 2 := by rfl
  obtain ⟨_, hremote⟩ := remote_covers_delay 61 (.ofSeconds 0) {}
  obtain ⟨_, hfires⟩ := hremote 2 hplan
  obtain ⟨t, ht, _, hlow, hhigh, _⟩ :=
    hfires ⟨946684710, 500000000, by decide, by decide, by decide, by decide⟩ (by decide)
      (by decide) (by decide)
  have htwo : (2 : Int64).toInt = 2 := rfl
  simp only [htwo, sinceEpoch, minuteNanos] at hlow hhigh
  exact ⟨hplan, t, ht, by simp only [sinceEpoch]; omega, by simp only [sinceEpoch]; omega⟩

end Wakeup.Plan
