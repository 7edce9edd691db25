import Wakeup.Proofs.Schedule.Minute

/-! A delay leads to the exact minute, and outside the years of four digits to the nearest minute
that they have. -/
namespace Wakeup.Schedule

open Instant

def minuteNanos : Int := 60000000000

/-- Where a delay leads to, in time that goes on for ever. -/
def exactTime (base : Instant) (minutes : Int64) : Int :=
  base.sinceEpoch + max minutes.toInt 0 * minuteNanos

variable {base t : Instant} {minutes : Int64}

theorem yearStart_zero : yearStart 0 = firstMinute * minuteNanos := by decide

theorem yearStart_tenThousand : yearStart 10000 = (lastMinute + 1) * minuteNanos := by decide

theorem exactTime_eq (base : Instant) (minutes : Int64) : exactTime base minutes =
    (base.seconds + 60 * minutes.toInt.toNat) * 1000000000 + base.nanos := by
  simp only [exactTime, sinceEpoch, minuteNanos]
  omega

theorem later?_of_whole (hb : base.nanos < 1000000000) (m : Nat) :
    base.later? m = Instant.ofUnix? (base.seconds + 60 * m) base.nanos := by
  unfold Instant.later?
  split
  · next h =>
    subst h
    simp [Instant.ofUnix?_self]
  · rw [Nat.mod_eq_of_lt hb]

/-- No delay within time is too long to be a length of time. -/
theorem instantAfter?_of_lt (hb : base.nanos < 1000000000)
    (h : exactTime base minutes < yearStart 262143) :
    ∃ t, instantAfter? base minutes = some t ∧ t.nanos < 1000000000 ∧
      t.sinceEpoch = exactTime base minutes := by
  rw [yearStart_end, exactTime_eq] at h
  have hfirst := base.first_le
  obtain ⟨t, ht, hs, hn⟩ := ofUnix?_of_whole
    (s := base.seconds + 60 * minutes.toInt.toNat) (by omega) (by omega) hb
  refine ⟨t, ?_, by omega, ?_⟩
  · have hspan : Instant.span? minutes.toInt.toNat = some minutes.toInt.toNat :=
      if_pos (by omega)
    rw [instantAfter?, hspan, Option.bind_some, later?_of_whole hb, ht]
  · rw [exactTime_eq, sinceEpoch, hs, hn]

theorem seconds_of_instantAfter? (h : instantAfter? base minutes = some t) :
    t.seconds = base.seconds + 60 * minutes.toInt.toNat := by
  unfold instantAfter? span? at h
  split at h
  · exact seconds_of_later? h
  · cases h

/-- A delay that is no length of time is one past the end of time. -/
theorem last_lt_of_instantAfter?_eq_none (h : instantAfter? base minutes = none) :
    latest.seconds < base.seconds + 60 * minutes.toInt.toNat := by
  unfold instantAfter? span? at h
  split at h
  · exact last_lt_of_later?_eq_none h
  · have hfirst := base.first_le
    change 8210266876799 < _
    omega

/-- The minute that a delay leads to, from a leap second too. All that is past the end of time comes
to the last minute of it. -/
theorem minute_instantAfter? (base : Instant) (minutes : Int64) :
    ((instantAfter? base minutes).getD latest).minute =
      min latest.minute ((base.seconds + 60 * minutes.toInt.toNat) / 60) := by
  unfold Instant.minute
  cases h : instantAfter? base minutes with
  | some t =>
    have hs := seconds_of_instantAfter? h
    have hle : t.seconds ≤ latest.seconds := t.le_last
    rw [Option.getD_some, hs]
    omega
  | none =>
    have hlt := last_lt_of_instantAfter?_eq_none h
    rw [Option.getD_none]
    omega

/-- The end of time and the exact time past it come to the same: no year of four digits. -/
theorem minute_after (hb : base.nanos < 1000000000) :
    min lastMinute ((instantAfter? base minutes).getD .latest).minute =
      min lastMinute (exactTime base minutes / minuteNanos) := by
  have hlast : lastMinute ≤ Instant.latest.minute := by decide
  have hminute : exactTime base minutes / minuteNanos =
      (base.seconds + 60 * minutes.toInt.toNat) / 60 := by
    rw [exactTime_eq, minuteNanos]
    omega
  rw [minute_instantAfter?, hminute]
  omega

/-- The minute of a time, or the nearest that has a year of four digits, as an instant. -/
theorem clamp_minute (time : Int) :
    max firstMinute (min lastMinute (time / minuteNanos)) * minuteNanos =
      if time < yearStart 0 then yearStart 0
      else if time < yearStart 10000 then time / minuteNanos * minuteNanos
      else yearStart 10000 - minuteNanos := by
  have hl := yearStart_zero
  have hu := yearStart_tenThousand
  simp only [minuteNanos, firstMinute, lastMinute] at hl hu ⊢
  split
  · omega
  · split <;> omega

theorem fireAt?_containing (t : Instant) : ∃ u, (containing t).fireAt? = some u ∧
    u.nanos = 0 ∧ u.sinceEpoch = max firstMinute (min lastMinute t.minute) * minuteNanos := by
  have hm : InFourDigits (max firstMinute (min lastMinute t.minute)) := by
    simp only [InFourDigits, firstMinute, lastMinute]
    omega
  obtain ⟨u, hu, hs, hn⟩ := ofMinute?_of_inFourDigits hm
  refine ⟨u, ?_, hn, ?_⟩
  · rw [containing, fireAt?_ofMinute hm, hu]
  · rw [sinceEpoch, hs, hn, minuteNanos]
    omega

/-- A schedule fires in the minute that the delay leads to, or in the nearest that has a year of
four digits; there the end of time stands in for no instant. -/
theorem fireAt?_after (base : Instant) (minutes : Int64) (hb : base.nanos < 1000000000) :
    (∃ t, (after base minutes).fireAt? = some t ∧ t.nanos = 0 ∧ t.sinceEpoch =
      if exactTime base minutes < yearStart 0 then yearStart 0
      else if exactTime base minutes < yearStart 10000 then
        exactTime base minutes / minuteNanos * minuteNanos
      else yearStart 10000 - minuteNanos) ∧
    (exactTime base minutes < yearStart 10000 → ∃ t, instantAfter? base minutes = some t ∧
      t.nanos < 1000000000 ∧ t.sinceEpoch = exactTime base minutes) := by
  constructor
  · obtain ⟨t, ht, hn, hs⟩ := fireAt?_containing ((instantAfter? base minutes).getD .latest)
    refine ⟨t, ht, hn, ?_⟩
    rw [hs, minute_after hb, clamp_minute]
  · intro h
    have hend : yearStart 10000 < yearStart 262143 := by decide
    exact instantAfter?_of_lt hb (Int.lt_trans h hend)

/-- Into the last day of a February, from 2000-02-28T23:59:30.5Z. -/
theorem fireAt?_after_leapDay :
    ∃ t, (after ⟨951782370, 500000000, by decide, by decide, by decide, by decide⟩ 1).fireAt? =
      some t ∧ t.nanos = 0 ∧ t.sinceEpoch = 951782400000000000 := by
  have hb : 500000000 < 1000000000 := by decide
  obtain ⟨⟨t, ht, hn, hs⟩, _⟩ :=
    fireAt?_after ⟨951782370, 500000000, by decide, by decide, by decide, by decide⟩ 1 hb
  refine ⟨t, ht, hn, ?_⟩
  rw [hs]
  decide

end Wakeup.Schedule
