import Wakeup.Calendar.Instant
import Wakeup.Proofs.Calendar.Days

/-! Instants as nanoseconds of one unbroken count, and the years that they cover. -/
namespace Wakeup.Instant

/-- Nanoseconds since 1970-01-01T00:00Z. -/
def sinceEpoch (t : Instant) : Int := t.seconds * 1000000000 + t.nanos

/-- The first nanosecond of a year. -/
def yearStart (y : Int) : Int := Date.toDays ⟨y, 1, 1⟩ * 86400000000000

theorem yearStart_first : yearStart (-262143) = -8334601228800000000000 := by decide

theorem yearStart_end : yearStart 262143 = 8210266876800000000000 := by decide

theorem ofUnix?_eq_some_iff {s : Int} {n : Nat} {t : Instant} :
    ofUnix? s n = some t ↔ t.seconds = s ∧ t.nanos = n := by
  constructor
  · intro h
    unfold ofUnix? at h
    split at h
    · cases h
      exact ⟨rfl, rfl⟩
    · cases h
  · rintro ⟨rfl, rfl⟩
    exact ofUnix?_self t

theorem ofUnix?_of_whole {s : Int} {n : Nat} (hl : -8334601228800 ≤ s) (hu : s ≤ 8210266876799)
    (hn : n < 1000000000) : ∃ t, ofUnix? s n = some t ∧ t.seconds = s ∧ t.nanos = n :=
  ⟨⟨s, n, hl, hu, by omega, by omega⟩, ofUnix?_eq_some_iff.mpr ⟨rfl, rfl⟩, rfl, rfl⟩

/-- Leap seconds apart, the instants are the nanoseconds of the years -262143 to 262142. -/
theorem exists_sinceEpoch_iff (n : Int) :
    (∃ t : Instant, t.nanos < 1000000000 ∧ t.sinceEpoch = n) ↔
      yearStart (-262143) ≤ n ∧ n < yearStart 262143 := by
  rw [yearStart_first, yearStart_end]
  constructor
  · rintro ⟨t, ht, rfl⟩
    have hl := t.first_le
    have hu := t.le_last
    simp only [sinceEpoch]
    omega
  · rintro ⟨hl, hu⟩
    obtain ⟨t, _, hs, hn⟩ := ofUnix?_of_whole (s := n / 1000000000) (n := (n % 1000000000).toNat)
      (by omega) (by omega) (by omega)
    refine ⟨t, by omega, ?_⟩
    rw [sinceEpoch, hs, hn]
    omega

/-- A leap second is left in no time: the minutes are added to the second before it. -/
theorem seconds_of_later? {t u : Instant} {m : Nat} (h : t.later? m = some u) :
    u.seconds = t.seconds + 60 * m := by
  unfold later? at h
  split at h
  · next hm =>
    obtain rfl := Option.some.inj h
    omega
  · exact (ofUnix?_eq_some_iff.mp h).1

theorem last_lt_of_later?_eq_none {t : Instant} {m : Nat} (h : t.later? m = none) :
    latest.seconds < t.seconds + 60 * m := by
  unfold later? at h
  split at h
  · cases h
  · have hfirst := t.first_le
    have hn : t.nanos % 1000000000 < 1000000000 := Nat.mod_lt _ (by decide)
    refine Int.not_le.mp fun hle => ?_
    obtain ⟨u, hu, _⟩ := ofUnix?_of_whole (s := t.seconds + 60 * m) (by omega) hle hn
    rw [h] at hu
    cases hu

end Wakeup.Instant
