import Wakeup.Calendar.Conversion

/-! The number of a day is its distance from 1970-01-01, as one goes from each day to the next. -/
namespace Wakeup.Date

/-- The day after, by the lengths of the months. -/
def next (d : Date) : Date :=
  if (monthLengths d.year)[d.month - 1]? = some d.day then
    if d.month = 12 then ⟨d.year + 1, 1, 1⟩ else ⟨d.year, d.month + 1, 1⟩
  else ⟨d.year, d.month, d.day + 1⟩

theorem Valid.month_le {d : Date} (h : d.Valid) : d.month ≤ 12 := by
  obtain ⟨hm, _, l, hl, _⟩ := h
  obtain ⟨hlt, _⟩ := List.getElem?_eq_some_iff.mp hl
  simp only [monthLengths, List.length_cons, List.length_nil] at hlt
  omega

theorem monthLengths_mem_le {y : Int} {l : Nat} (h : l ∈ monthLengths y) : l ≤ 31 := by
  simp only [monthLengths, List.mem_cons, List.not_mem_nil, or_false] at h
  split at h <;> omega

theorem Valid.day_le {d : Date} (h : d.Valid) : d.day ≤ 31 := by
  obtain ⟨_, _, l, hl, hd⟩ := h
  exact Nat.le_trans hd (monthLengths_mem_le (List.mem_of_getElem? hl))

theorem daysBeforeMonth_succ {y : Int} {i l : Nat} (hi : (monthLengths y)[i]? = some l) :
    daysBeforeMonth y (i + 2) = daysBeforeMonth y (i + 1) + l := by
  obtain ⟨hlt, he⟩ := List.getElem?_eq_some_iff.mp hi
  change ((monthLengths y).take (i + 1)).sum = ((monthLengths y).take i).sum + l
  rw [List.take_succ_eq_append_getElem hlt, List.sum_append, he]
  simp

theorem daysBeforeMonth_december (y : Int) : daysBeforeMonth y 12 + 31 = yearLength y := by
  have hs := sum_monthLengths y
  simp only [daysBeforeMonth, monthLengths] at hs ⊢
  simp only [List.take, List.foldr_cons, List.foldr_nil] at hs ⊢
  omega

theorem toDays_epoch : toDays ⟨1970, 1, 1⟩ = 0 := by decide

theorem toDays_next {d : Date} (h : d.Valid) : d.next.toDays = d.toDays + 1 := by
  obtain ⟨hm, h1, l, hl, hd⟩ := h
  have hl : (monthLengths d.year)[d.month - 1]? = some l := hl
  unfold next
  split
  · next hlast =>
    obtain rfl : l = d.day := Option.some.inj (hl.symm.trans hlast)
    split
    · next hdec =>
      have hy := daysBeforeYear_succ d.year
      have hb := daysBeforeMonth_december d.year
      obtain h31 : d.day = 31 := by
        rw [hdec] at hl
        exact (Option.some.inj hl).symm
      simp only [toDays, hdec]
      simp only [daysBeforeMonth, Nat.sub_self, List.take_zero, List.foldr_nil] at hb ⊢
      omega
    · have hs := daysBeforeMonth_succ hl
      rw [show d.month - 1 + 2 = d.month + 1 by omega,
        show d.month - 1 + 1 = d.month by omega] at hs
      simp only [toDays]
      omega
  · simp only [toDays]
    omega

theorem valid_next {d : Date} (h : d.Valid) : d.next.Valid := by
  have hm12 := h.month_le
  obtain ⟨hm, h1, l, hl, hd⟩ := h
  have hl : (monthLengths d.year)[d.month - 1]? = some l := hl
  unfold next
  split
  · split
    · exact ⟨Nat.le_refl 1, Nat.le_refl 1, 31, rfl, Nat.le_add_left 1 30⟩
    · next hdec =>
      -- a month follows, and each has a first day
      obtain ⟨n, hn⟩ : ∃ n, (monthLengths d.year)[d.month]? = some n :=
        ⟨_, List.getElem?_eq_getElem (by simp [monthLengths]; omega)⟩
      have hpos : 1 ≤ n := by
        have := List.mem_of_getElem? hn
        simp only [monthLengths, List.mem_cons, List.not_mem_nil, or_false] at this
        split at this <;> omega
      exact ⟨Nat.le_add_left 1 _, Nat.le_refl 1, n, hn, hpos⟩
  · next hlast =>
    have : l ≠ d.day := fun he => hlast (he ▸ hl)
    exact ⟨hm, Nat.le_add_left 1 _, l, hl, show d.day + 1 ≤ l by omega⟩

theorem toDays_newYear (y : Int) : toDays ⟨y, 1, 1⟩ = daysBeforeYear y - epoch := by
  simp only [toDays, daysBeforeMonth, Nat.sub_self, List.take_zero, List.foldr_nil]
  omega

theorem ofDays_year (n : Int) : (ofDays n).year = yearOfDay (n + epoch) := by
  obtain ⟨i, l, d, _, he, _⟩ := ofDays_eq n
  rw [he]

/-- A day between the first days of two years is in a year between them. -/
theorem ofDays_year_bounds {n y z : Int} (h : toDays ⟨y, 1, 1⟩ ≤ n) (h' : n < toDays ⟨z, 1, 1⟩) :
    y ≤ (ofDays n).year ∧ (ofDays n).year < z := by
  obtain ⟨hl, hu⟩ := yearOfDay_bounds (n + epoch)
  rw [toDays_newYear] at h h'
  rw [ofDays_year]
  generalize yearOfDay (n + epoch) = x at hl hu
  refine ⟨Int.not_lt.mp fun hlt => ?_, Int.not_le.mp fun hle => ?_⟩
  · have := daysBeforeYear_mono hlt
    omega
  · rcases Int.lt_or_eq_of_le hle with hlt | rfl
    · have := daysBeforeYear_mono hlt
      have := daysBeforeYear_succ z
      omega
    · omega

end Wakeup.Date
