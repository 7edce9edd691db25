import Wakeup.Proofs.Calendar.Instants

/-! Dates of the calendar by the days that the months have, in the order of years, months and
days. -/
namespace Wakeup.Date

variable {d e : Date} {y : Int}

/-- Thirty days have the fourth, sixth, ninth and eleventh month, and the second month has
twenty-eight, or twenty-nine in a leap year. -/
def daysInMonth (y : Int) (m : Nat) : Nat :=
  if m = 2 then if IsLeapYear y then 29 else 28 else if m ∈ [4, 6, 9, 11] then 30 else 31

theorem monthLengths_getElem? (y : Int) {i : Nat} (hi : i < 12) :
    (monthLengths y)[i]? = some (daysInMonth y (i + 1)) := by
  by_cases h : IsLeapYear y
  · simp only [monthLengths, daysInMonth, if_pos h]
    revert i
    decide
  · simp only [monthLengths, daysInMonth, if_neg h]
    revert i
    decide

theorem valid_iff : d.Valid ↔
    (1 ≤ d.month ∧ d.month ≤ 12) ∧ 1 ≤ d.day ∧ d.day ≤ daysInMonth d.year d.month := by
  constructor
  · intro h
    have h12 := h.month_le
    obtain ⟨hm, h1, l, hl, hd⟩ := h
    have hl : (monthLengths d.year)[d.month - 1]? = some l := hl
    rw [monthLengths_getElem? d.year (by omega), Nat.sub_add_cancel hm] at hl
    exact ⟨⟨hm, h12⟩, h1, Option.some.inj hl ▸ hd⟩
  · rintro ⟨⟨hm, h12⟩, h1, hd⟩
    have hl := monthLengths_getElem? d.year (show d.month - 1 < 12 by omega)
    rw [Nat.sub_add_cancel hm] at hl
    exact ⟨hm, h1, _, hl, hd⟩

theorem daysBeforeMonth_mono {m n : Nat} (h : m ≤ n) :
    daysBeforeMonth y m ≤ daysBeforeMonth y n := by
  obtain ⟨rest, hrest⟩ : (monthLengths y).take (m - 1) <+: (monthLengths y).take (n - 1) :=
    List.take_prefix_take_left (by omega)
  change ((monthLengths y).take (m - 1)).sum ≤ ((monthLengths y).take (n - 1)).sum
  rw [← hrest, List.sum_append]
  exact Nat.le_add_right _ _

/-- A date lies in its year. -/
theorem Valid.toDays_bounds (h : d.Valid) :
    daysBeforeYear d.year ≤ d.toDays + epoch ∧ d.toDays + epoch < daysBeforeYear (d.year + 1) := by
  obtain ⟨hm, h1, l, hl, hd⟩ := h
  have hle := daysBeforeMonth_le hl
  rw [Nat.sub_add_cancel hm] at hle
  rw [daysBeforeYear_succ]
  simp only [toDays]
  omega

theorem Valid.newYear_le_iff (h : d.Valid) : toDays ⟨y, 1, 1⟩ ≤ d.toDays ↔ y ≤ d.year := by
  obtain ⟨hl, hu⟩ := h.toDays_bounds
  rw [toDays_newYear]
  constructor
  · intro hle
    refine Int.not_lt.mp fun hlt => ?_
    have := daysBeforeYear_mono hlt
    omega
  · intro hle
    rcases Int.lt_or_eq_of_le hle with hlt | rfl
    · have := daysBeforeYear_mono hlt
      have := daysBeforeYear_succ y
      omega
    · omega

theorem toDays_lt_of_year (hd : d.Valid) (he : e.Valid) (h : d.year < e.year) :
    d.toDays < e.toDays := by
  have hu := hd.toDays_bounds.2
  have hl := he.toDays_bounds.1
  have := daysBeforeYear_mono h
  omega

theorem toDays_lt_of_month (hd : d.Valid) (he : e.Valid) (hy : d.year = e.year)
    (h : d.month < e.month) : d.toDays < e.toDays := by
  obtain ⟨hm, _, l, hl, hle⟩ := hd
  have hl : (monthLengths d.year)[d.month - 1]? = some l := hl
  have hnext := daysBeforeMonth_succ hl
  have hmono := daysBeforeMonth_mono (y := d.year) (show d.month - 1 + 2 ≤ e.month by omega)
  rw [Nat.sub_add_cancel hm] at hnext
  have h1 := he.2.1
  simp only [toDays, ← hy]
  omega

end Wakeup.Date
