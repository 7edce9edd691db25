import Wakeup.Proofs.Calendar.Days
import Wakeup.Proofs.Text.Digits
import Wakeup.Proofs.Text.Parts
import Wakeup.Schedule

/-! Reading an expression takes exactly what writing a minute of the years 0000 to 9999 gives. -/
namespace Wakeup.Schedule

open Text

variable {x : Schedule} {s : List Char} {text : String}

theorem field?_eq_some_iff {n v : Nat} (hn : 0 < n) :
    field? n s = some v ↔ v < 10 ^ n ∧ s = padded n v := by
  rw [← digits_iff hn]
  simp only [field?, Option.ite_none_right_eq_some, List.all_eq_true, Option.some.injEq, and_assoc]

/-- The fields as an expression shows them. -/
def written (x : Schedule) : List (List Char) :=
  [padded 2 x.minute.toNat, padded 2 x.hour.toNat, padded 2 x.day.toNat, padded 2 x.month.toNat,
    ['?'], paddedInt 4 x.year.toInt]

/-- No field has more digits than an expression has room for. -/
structure InWidth (x : Schedule) : Prop where
  minute : x.minute.toNat < 100
  hour : x.hour.toNat < 100
  day : x.day.toNat < 100
  month : x.month.toNat < 100
  year_nonneg : 0 ≤ x.year.toInt
  year : x.year.toInt < 10000

theorem spell_eq (x : Schedule) :
    x.spell = ['c', 'r', 'o', 'n', '('] ++ ([' '].intercalate x.written ++ [')']) := by
  simp [spell, written, List.intercalate_cons_cons, List.intercalate_singleton]

theorem space_not_mem_written (h : x.InWidth) : ∀ p ∈ x.written, ' ' ∉ p := by
  intro p hp
  simp only [written, List.mem_cons, List.not_mem_nil, or_false] at hp
  rcases hp with rfl | rfl | rfl | rfl | rfl | rfl
  · exact space_not_mem_padded _ _
  · exact space_not_mem_padded _ _
  · exact space_not_mem_padded _ _
  · exact space_not_mem_padded _ _
  · decide
  · rw [paddedInt_of_nonneg h.year_nonneg]
    exact space_not_mem_padded _ _

theorem ofText?_spell (h : x.InWidth) : ofText? x.spell = some x := by
  have hp : parts ' ' ([' '].intercalate x.written) = x.written :=
    parts_intercalate (List.cons_ne_nil _ _) (space_not_mem_written h)
  have hf : ∀ n, n < 100 → field? 2 (padded 2 n) = some n := fun n hn =>
    (field?_eq_some_iff (by decide)).mpr ⟨hn, rfl⟩
  have hy : field? 4 (paddedInt 4 x.year.toInt) = some x.year.toInt.toNat :=
    (field?_eq_some_iff (by decide)).mpr ⟨by have := h.year; omega,
      paddedInt_of_nonneg h.year_nonneg⟩
  have hi : ((x.year.toInt.toNat : Nat) : Int) = x.year.toInt := Int.toNat_of_nonneg h.year_nonneg
  rw [ofText?, afterPrefix?_eq_some_iff.mpr (spell_eq x)]
  simp only [Option.bind_eq_bind, Option.bind_some, beforeSuffix?_eq_some_iff.mpr rfl]
  rw [hp, written]
  simp only [hf _ h.minute, hf _ h.hour, hf _ h.day, hf _ h.month, hy, Option.bind_some, hi]
  simp

theorem ofText?_eq_some (h : ofText? s = some x) : x.InWidth ∧ s = x.spell := by
  simp only [ofText?, Option.bind_eq_bind, Option.bind_eq_some_iff] at h
  obtain ⟨rest, hrest, body, hbody, h⟩ := h
  split at h
  · next hp =>
    simp only [Option.bind_eq_some_iff, Option.pure_def, Option.some.injEq,
      field?_eq_some_iff (show 0 < 2 by decide), field?_eq_some_iff (show 0 < 4 by decide)] at h
    obtain ⟨minute, ⟨hm, rfl⟩, hour, ⟨hh, rfl⟩, day, ⟨hd, rfl⟩, month, ⟨hmo, rfl⟩, year,
      ⟨hy, rfl⟩, rfl⟩ := h
    have hu : ∀ n, n < 10 ^ 2 → (UInt32.ofNat n).toNat = n := fun n hn =>
      UInt32.toNat_ofNat_of_lt' (Nat.lt_trans hn (by decide))
    have hi : (Int32.ofInt (year : Int)).toInt = year :=
      Int32.toInt_ofInt_of_le (by omega) (by omega)
    refine ⟨⟨?_, ?_, ?_, ?_, ?_, ?_⟩, ?_⟩
    · rwa [hu minute hm]
    · rwa [hu hour hh]
    · rwa [hu day hd]
    · rwa [hu month hmo]
    · rw [hi]
      exact Int.natCast_nonneg year
    · rw [hi]
      omega
    · have hb := ((parts_eq_iff (List.cons_ne_nil _ _)).mp hp).1
      rw [afterPrefix?_eq_some_iff.mp hrest, beforeSuffix?_eq_some_iff.mp hbody, hb, spell_eq,
        written, hu minute hm, hu hour hh, hu day hd, hu month hmo, hi]
      rfl
  · cases h

theorem ofText?_eq_some_iff : ofText? s = some x ↔ x.InWidth ∧ s = x.spell :=
  ⟨ofText?_eq_some, by rintro ⟨h, rfl⟩; exact ofText?_spell h⟩

theorem fireAt?_isSome (h : x.fireAt?.isSome) :
    x.date.Valid ∧ x.hour.toNat < 24 ∧ x.minute.toNat < 60 := by
  unfold fireAt? at h
  split at h
  · next hv => exact hv
  · cases h

/-- The text shows a minute of the years 0000 to 9999, as the schedule of that minute is written. -/
def Shows (text : String) (x : Schedule) : Prop :=
  text = x.expression ∧ x.fireAt?.isSome ∧ 0 ≤ x.year.toInt ∧ x.year.toInt ≤ 9999

theorem shows_iff : Shows text x ↔ ofText? text.toList = some x ∧ x.fireAt?.isSome := by
  rw [ofText?_eq_some_iff]
  constructor
  · rintro ⟨rfl, hf, hy0, hy1⟩
    obtain ⟨hv, hh, hm⟩ := fireAt?_isSome hf
    have hd : x.day.toNat ≤ 31 := hv.day_le
    have hmo : x.month.toNat ≤ 12 := hv.month_le
    refine ⟨⟨⟨?_, ?_, ?_, ?_, hy0, ?_⟩, String.toList_ofList⟩, hf⟩ <;> omega
  · rintro ⟨⟨hw, ht⟩, hf⟩
    have hy := hw.year
    refine ⟨?_, hf, hw.year_nonneg, by omega⟩
    rw [expression, ← ht, String.ofList_toList]

theorem parse_of_shows (h : Shows text x) : parse text = .ok x := by
  obtain ⟨ho, hf⟩ := shows_iff.mp h
  simp only [parse, ho, hf, if_true]

theorem parse_of_not_shows (h : ∀ x, ¬ Shows text x) :
    parse text = .error (.refused (.notOneShot text)) := by
  unfold parse
  split
  · next x ho => exact if_neg fun hf => h x (shows_iff.mpr ⟨ho, hf⟩)
  · rfl

/-- Reading and writing undo each other on the schedules of minutes, and no other text is read. -/
theorem parse_eq_iff (text : String) :
    (∀ x, parse text = .ok x ↔ text = x.expression ∧ x.fireAt?.isSome ∧
      0 ≤ x.year.toInt ∧ x.year.toInt ≤ 9999) ∧
    (parse text = .error (.refused (.notOneShot text)) ↔ ∀ x, ¬ Shows text x) := by
  by_cases h : ∃ x, Shows text x
  · obtain ⟨y, hy⟩ := h
    have hp := parse_of_shows hy
    refine ⟨fun x => ⟨fun hx => ?_, fun hx => parse_of_shows hx⟩, ?_⟩
    · obtain rfl : y = x := Except.ok.inj (hp.symm.trans hx)
      exact hy
    · rw [hp]
      exact ⟨nofun, fun hn => absurd hy (hn y)⟩
  · have hn : ∀ x, ¬ Shows text x := fun x hx => h ⟨x, hx⟩
    have hp := parse_of_not_shows hn
    rw [hp]
    exact ⟨fun x => ⟨nofun, fun hx => absurd hx (hn x)⟩, fun _ => hn, fun _ => rfl⟩

end Wakeup.Schedule
