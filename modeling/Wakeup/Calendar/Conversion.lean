import Wakeup.Calendar.Date

/-! Dates of the calendar and numbers of days correspond: a number of days is the distance of the
one valid date that it is taken to. -/
namespace Wakeup.Date

theorem daysBeforeYear_groups (a c b g : Int) (hc : 0 ≤ c ∧ c ≤ 3) (hb : 0 ≤ b ∧ b ≤ 24)
    (hg : 0 ≤ g ∧ g ≤ 3) :
    daysBeforeYear (400 * a + 100 * c + 4 * b + g + 1) =
      146097 * a + 36524 * c + 1461 * b + 365 * g := by
  simp only [daysBeforeYear]
  omega

theorem daysBeforeYear_succ (y : Int) :
    daysBeforeYear (y + 1) = daysBeforeYear y + yearLength y := by
  unfold yearLength
  by_cases h : IsLeapYear y
  · rw [if_pos h]
    simp only [IsLeapYear] at h
    simp only [daysBeforeYear]
    omega
  · rw [if_neg h]
    simp only [IsLeapYear] at h
    simp only [daysBeforeYear]
    omega

/-- The groups that `yearOfDay` takes off, and the day of the year that is left. -/
theorem yearOfDay_groups (n : Int) : ∃ a c b g k : Int, (0 ≤ c ∧ c ≤ 3) ∧ (0 ≤ b ∧ b ≤ 24) ∧
    (0 ≤ g ∧ g ≤ 3) ∧ yearOfDay n = 400 * a + 100 * c + 4 * b + g + 1 ∧
    n = 146097 * a + 36524 * c + 1461 * b + 365 * g + k ∧ 0 ≤ k ∧
    (k < 365 ∨ k = 365 ∧ g = 3 ∧ (b = 24 → c = 3)) := by
  simp only [yearOfDay]
  generalize ha : n / 146097 = a
  generalize hi : n % 146097 = i
  generalize hc : min (i / 36524) 3 = c
  generalize hr : i - 36524 * c = r
  generalize hb : r / 1461 = b
  generalize hk : r % 1461 = q
  generalize hg : min (q / 365) 3 = g
  refine ⟨a, c, b, g, q - 365 * g, ?_, ?_, ?_, rfl, ?_, ?_, ?_⟩ <;> omega

/-- The last of four years is a leap year, and the last of a century if that is the fourth. -/
theorem isLeapYear_of_last {c b : Int} (a : Int) (hb : 0 ≤ b ∧ b ≤ 24) (h : b = 24 → c = 3) :
    IsLeapYear (400 * a + 100 * c + 4 * b + (3 + 1)) := by
  refine ⟨by omega, ?_⟩
  by_cases hlast : b = 24
  · obtain rfl := hlast
    obtain rfl := h rfl
    right
    omega
  · left
    omega

theorem yearOfDay_bounds (n : Int) :
    daysBeforeYear (yearOfDay n) ≤ n ∧ n < daysBeforeYear (yearOfDay n + 1) := by
  obtain ⟨a, c, b, g, k, hc, hb, hg, hy, hn, hk, hlast⟩ := yearOfDay_groups n
  rw [daysBeforeYear_succ, hy, daysBeforeYear_groups a c b g hc hb hg]
  refine ⟨by omega, ?_⟩
  unfold yearLength
  by_cases h : IsLeapYear (400 * a + 100 * c + 4 * b + g + 1)
  · rw [if_pos h]
    omega
  · rw [if_neg h]
    rcases hlast with hshort | ⟨_, hg3, hb24⟩
    · omega
    · have hleap := isLeapYear_of_last a hb hb24
      rw [hg3, Int.add_assoc] at h
      exact absurd hleap h

theorem daysBeforeYear_mono {y z : Int} (h : y < z) :
    daysBeforeYear (y + 1) ≤ daysBeforeYear z := by
  simp only [daysBeforeYear]
  omega

theorem yearOfDay_eq {n y : Int} (h : daysBeforeYear y ≤ n) (h' : n < daysBeforeYear (y + 1)) :
    yearOfDay n = y := by
  have hn := yearOfDay_bounds n
  rcases Int.lt_trichotomy (yearOfDay n) y with hlt | heq | hgt
  · have := daysBeforeYear_mono hlt
    omega
  · exact heq
  · have := daysBeforeYear_mono hgt
    omega

/-- A day of a year as the months before it and the day of its own month. -/
theorem walkMonths_eq (lengths : List Nat) (m k : Nat) (h : k < lengths.foldr (· + ·) 0) :
    ∃ i n d : Nat, lengths[i]? = some n ∧ walkMonths m k lengths = (m + i, d) ∧ 1 ≤ d ∧ d ≤ n ∧
      (lengths.take i).foldr (· + ·) 0 + d = k + 1 := by
  induction lengths generalizing m k with
  | nil => simp at h
  | cons n rest ih =>
    simp only [List.foldr_cons] at h
    by_cases hk : k < n
    · exact ⟨0, n, k + 1, rfl, by simp [walkMonths, hk], by omega, by omega, by simp⟩
    · obtain ⟨i, l, d, hi, hw, h1, hl, hs⟩ := ih (m + 1) (k - n) (by omega)
      refine ⟨i + 1, l, d, by simpa using hi, ?_, h1, hl, ?_⟩
      · rw [walkMonths, if_neg hk, hw, Nat.add_right_comm, Nat.add_assoc]
      · simp only [List.take_succ_cons, List.foldr_cons]
        omega

theorem walkMonths_of_day {lengths : List Nat} {i n : Nat} (m k d : Nat)
    (hi : lengths[i]? = some n) (h1 : 1 ≤ d) (hd : d ≤ n)
    (hk : (lengths.take i).foldr (· + ·) 0 + d = k + 1) : walkMonths m k lengths = (m + i, d) := by
  induction lengths generalizing m i k with
  | nil => simp at hi
  | cons l rest ih =>
    cases i with
    | zero =>
      obtain rfl : l = n := by simpa using hi
      obtain rfl : d = k + 1 := by simpa using hk
      simp [walkMonths, show k < l by omega]
    | succ i =>
      simp only [List.take_succ_cons, List.foldr_cons] at hk
      have hk' : ¬ k < l := by omega
      rw [walkMonths, if_neg hk', ih (m + 1) (k - l) (by simpa using hi) (by omega),
        Nat.add_right_comm, Nat.add_assoc]

theorem sum_take_le {lengths : List Nat} {i n : Nat} (hi : lengths[i]? = some n) :
    (lengths.take i).foldr (· + ·) 0 + n ≤ lengths.foldr (· + ·) 0 := by
  induction lengths generalizing i with
  | nil => simp at hi
  | cons l rest ih =>
    cases i with
    | zero =>
      obtain rfl : l = n := by simpa using hi
      simp
    | succ i =>
      have := ih (i := i) (by simpa using hi)
      simp only [List.take_succ_cons, List.foldr_cons]
      omega

theorem sum_monthLengths (y : Int) : (monthLengths y).foldr (· + ·) 0 = yearLength y := by
  unfold monthLengths yearLength
  by_cases h : IsLeapYear y
  · simp only [if_pos h]; rfl
  · simp only [if_neg h]; rfl

/-- A day of the calendar as its year, its month, and the day of the month. -/
theorem ofDays_eq (n : Int) : ∃ i l d : Nat, (monthLengths (yearOfDay (n + epoch)))[i]? = some l ∧
    ofDays n = ⟨yearOfDay (n + epoch), i + 1, d⟩ ∧ 1 ≤ d ∧ d ≤ l ∧
    daysBeforeYear (yearOfDay (n + epoch)) + daysBeforeMonth (yearOfDay (n + epoch)) (i + 1) + d =
      n + epoch + 1 := by
  obtain ⟨hl, hu⟩ := yearOfDay_bounds (n + epoch)
  rw [daysBeforeYear_succ] at hu
  obtain ⟨i, l, d, hi, hw, h1, hd, hs⟩ := walkMonths_eq (monthLengths (yearOfDay (n + epoch))) 1
    (n + epoch - daysBeforeYear (yearOfDay (n + epoch))).toNat (by rw [sum_monthLengths]; omega)
  refine ⟨i, l, d, hi, ?_, h1, hd, ?_⟩
  · simp only [ofDays, hw, Nat.add_comm]
  · simp only [daysBeforeMonth, Nat.add_sub_cancel]
    omega

theorem valid_ofDays (n : Int) : (ofDays n).Valid := by
  obtain ⟨i, l, d, hi, he, h1, hd, _⟩ := ofDays_eq n
  rw [he]
  exact ⟨Nat.succ_pos i, h1, l, hi, hd⟩

theorem toDays_ofDays (n : Int) : (ofDays n).toDays = n := by
  obtain ⟨i, l, d, _, he, _, _, hs⟩ := ofDays_eq n
  rw [he]
  simp only [toDays]
  omega

theorem daysBeforeMonth_le {y : Int} {i l : Nat} (hi : (monthLengths y)[i]? = some l) :
    daysBeforeMonth y (i + 1) + l ≤ yearLength y :=
  sum_monthLengths y ▸ sum_take_le hi

theorem ofDays_toDays {d : Date} (h : d.Valid) : ofDays d.toDays = d := by
  obtain ⟨y, m, d⟩ := d
  obtain ⟨hm, h1, l, hl, hd⟩ := h
  simp only at hm h1 hd hl
  have hi : (monthLengths y)[m - 1]? = some l := by simpa using hl
  have hle := daysBeforeMonth_le hi
  rw [Nat.sub_add_cancel hm] at hle
  have hy : yearOfDay (toDays ⟨y, m, d⟩ + epoch) = y := by
    apply yearOfDay_eq
    · simp only [toDays]; omega
    · rw [daysBeforeYear_succ]; simp only [toDays]; omega
  have hw := walkMonths_of_day 1 (toDays ⟨y, m, d⟩ + epoch - daysBeforeYear y).toNat d hi h1 hd (by
    simp only [toDays, daysBeforeMonth]; omega)
  simp only [ofDays, hy, hw]
  congr 1
  omega

end Wakeup.Date
