import Wakeup.Calendar.Conversion
import Wakeup.Calendar.Timestamp
import Wakeup.Proofs.Calendar.Days
import Wakeup.Proofs.Text.Readers

/-! An instant that is written as date and time is read as that instant. -/
namespace Wakeup.Instant

open Text Reader

variable {s : List Char} {v : Nat}

theorem run_mark {c : Char} (hc : isBlank c = false) (s : List Char) :
    (mark c).run (c :: s) = some ((), s) := by
  simp only [mark, StateT.run_bind, run_skip (stops_cons hc), Option.bind_eq_bind,
    Option.bind_some]
  exact run_literal [c] s

theorem run_pair (hv : v < 10 ^ 2) (hs : Stops Char.isDigit s) :
    pair.run (padded 2 v ++ s) = some (v, s) := by
  simp only [pair, StateT.run_bind, run_skip_padded, Option.bind_eq_bind, Option.bind_some,
    run_number (length_padded_le (by decide) hv) hs]

theorem run_year_of_isDigit {c : Char} (hc : c.isDigit) (s : List Char) :
    year.run (c :: s) = ((number (some 4)).run (c :: s)).bind fun p => some ((p.1 : Int), p.2) := by
  simp only [year, StateT.run_bind, run_skip (stops_cons (isBlank_of_isDigit hc)),
    Option.bind_eq_bind, Option.bind_some, run_peek?, List.head?_cons]
  split
  · next h => cases h; cases hc
  · next h => cases h; cases hc
  · rfl

theorem run_year_minus (s : List Char) :
    year.run ('-' :: s) = ((number none).run s).bind fun p => some (-(p.1 : Int), p.2) := rfl

theorem run_year_plus (s : List Char) :
    year.run ('+' :: s) = ((number none).run s).bind fun p => some ((p.1 : Int), p.2) := rfl

/-- Years below zero and above 9999 are told by their sign. -/
theorem run_year (y : Int) (hs : Stops Char.isDigit s) :
    year.run (spellYear y ++ s) = some (y, s) := by
  have hsigned : (number none).run (padded 4 y.natAbs ++ s) = some (y.natAbs, s) :=
    run_number nofun hs
  unfold spellYear
  split
  · next h =>
    have hlen : y.toNat < 10 ^ 4 := by omega
    have hnum := run_number (length_padded_le (by decide) hlen) hs
    obtain ⟨c, cs, hc, hd⟩ := padded_eq_cons 4 y.toNat
    rw [hc, List.cons_append] at hnum ⊢
    rw [run_year_of_isDigit hd, hnum, Option.bind_some, Int.toNat_of_nonneg h.1]
  · next h =>
    split
    · next hneg =>
      have hy : -(y.natAbs : Int) = y := by omega
      rw [List.cons_append, run_year_minus, hsigned, Option.bind_some, hy]
    · next hneg =>
      have hy : (y.natAbs : Int) = y := by omega
      rw [List.cons_append, run_year_plus, hsigned, Option.bind_some, hy]

/-- The date as it is written. -/
def spellDate (d : Date) : List Char :=
  spellYear d.year ++ '-' :: (padded 2 d.month ++ '-' :: padded 2 d.day)

theorem run_date {d : Date} (h : d.Valid) (hs : Stops Char.isDigit s) :
    date.run (spellDate d ++ s) = some (d, s) := by
  have hdash : ∀ t, Stops Char.isDigit ('-' :: t) := fun t => stops_cons rfl
  have hmark : ∀ t, (mark '-').run ('-' :: t) = some ((), t) := run_mark rfl
  have hmonth : d.month < 10 ^ 2 := Nat.lt_of_le_of_lt h.month_le (by decide)
  have hday : d.day < 10 ^ 2 := Nat.lt_of_le_of_lt h.day_le (by decide)
  simp only [date, spellDate, List.append_assoc, List.cons_append, StateT.run_bind,
    run_year _ (hdash _), hmark, run_pair hmonth (hdash _), run_pair hday hs,
    Option.bind_eq_bind, Option.bind_some]
  rfl

/-- Digits behind a point are worth the less the further behind they stand. -/
theorem run_fraction_point {w n : Nat} (hw : 0 < w) (h9 : w ≤ 9) (hn : n < 10 ^ w)
    (hs : Stops Char.isDigit s) :
    fraction.run ('.' :: (padded w n ++ s)) = some (10 ^ (9 - w) * n, s) := by
  have hpoint : (literal ['.']).run ('.' :: (padded w n ++ s)) = some ((), padded w n ++ s) :=
    run_literal ['.'] _
  have hwidth := length_padded hw hn
  have hlen : ∀ m ∈ some 9, (padded w n).length ≤ m := by
    rintro m ⟨⟩
    exact Nat.le_trans (Nat.le_of_eq hwidth) h9
  have hdigits := run_digitRun (fun c hc => isDigit_of_mem_padded hc) hlen hs
  have hvalue : ofDigits (padded w n ++ List.replicate (9 - w) '0') = 10 ^ (9 - w) * n := by
    rw [ofDigits, Nat.ofDigitChars_append, Nat.ofDigitChars_replicate_zero]
    exact congrArg _ (ofDigits_padded w n)
  simp only [fraction, StateT.run_bind, run_peek?, List.head?_cons, Option.bind_eq_bind,
    Option.bind_some, if_true, hpoint, hdigits, run_guard (padded_ne_nil w n), run_skip hs,
    hwidth, hvalue]
  rfl

theorem run_fraction_none (h : s.head? ≠ some '.') : fraction.run s = some (0, s) := by
  simp only [fraction, StateT.run_bind, run_peek?, Option.bind_eq_bind, Option.bind_some, if_neg h]
  rfl

/-- What is written of a fraction stands for all of it. -/
theorem spellFraction_eq {n : Nat} (h0 : n ≠ 0) (hn : n < 1000000000) :
    ∃ w k, spellFraction n = '.' :: padded w k ∧ 0 < w ∧ w ≤ 9 ∧ k < 10 ^ w ∧
      10 ^ (9 - w) * k = n := by
  unfold spellFraction
  rw [if_neg h0]
  split
  · exact ⟨3, _, rfl, by decide, by decide, by omega, by omega⟩
  · split
    · exact ⟨6, _, rfl, by decide, by decide, by omega, by omega⟩
    · exact ⟨9, _, rfl, by decide, by decide, hn, by omega⟩

theorem run_fraction {n : Nat} (hn : n < 1000000000) (hs : Stops Char.isDigit s)
    (hpoint : s.head? ≠ some '.') : fraction.run (spellFraction n ++ s) = some (n, s) := by
  by_cases h : n = 0
  · subst h
    exact run_fraction_none hpoint
  · obtain ⟨w, k, hspell, hw, h9, hk, hvalue⟩ := spellFraction_eq h hn
    rw [hspell, List.cons_append, run_fraction_point hw h9 hk hs, hvalue]

theorem stops_spellFraction (n : Nat) (hs : Stops Char.isDigit s) :
    Stops Char.isDigit (spellFraction n ++ s) := by
  unfold spellFraction
  split
  · exact hs
  · split
    · exact stops_cons rfl
    · split <;> exact stops_cons rfl

/-- The time of day as it is written. -/
def spellTime (second nanos : Nat) : List Char :=
  padded 2 (second / 3600) ++ ':' :: (padded 2 (second / 60 % 60) ++
    ':' :: (padded 2 (second % 60 + nanos / 1000000000) ++ spellFraction (nanos % 1000000000)))

/-- Second 60 is second 59 with a second more of nanoseconds. -/
theorem run_timeOfDay {second nanos : Nat} (hsecond : second < 86400) (hnanos : nanos < 2000000000)
    (hleap : 1000000000 ≤ nanos → second % 60 = 59) (hs : Stops Char.isDigit s)
    (hpoint : s.head? ≠ some '.') :
    timeOfDay.run (spellTime second nanos ++ s) = some ((second, nanos), s) := by
  have hcolon : ∀ t, Stops Char.isDigit (':' :: t) := fun t => stops_cons rfl
  have hmark : ∀ t, (mark ':').run (':' :: t) = some ((), t) := run_mark rfl
  have hhour : second / 3600 < 10 ^ 2 := by omega
  have hminute : second / 60 % 60 < 10 ^ 2 := by omega
  have hlast : second % 60 + nanos / 1000000000 < 10 ^ 2 := by omega
  have hrange : second / 3600 < 24 ∧ second / 60 % 60 < 60 ∧
      second % 60 + nanos / 1000000000 ≤ 60 := by omega
  have hfraction := run_fraction (Nat.mod_lt nanos (by decide)) hs hpoint
  have hstop := stops_spellFraction (nanos % 1000000000) hs
  simp only [timeOfDay, spellTime, List.append_assoc, List.cons_append, StateT.run_bind,
    Option.bind_eq_bind, Option.bind_some, hmark, run_pair hhour (hcolon _),
    run_pair hminute (hcolon _), run_pair hlast hstop, run_guard hrange, hfraction]
  split
  · next h60 =>
    have hsum : second / 3600 * 3600 + second / 60 % 60 * 60 + 59 = second := by omega
    have hrest : nanos % 1000000000 + 1000000000 = nanos := by omega
    rw [hsum, hrest]
    rfl
  · next h60 =>
    have hrest : nanos % 1000000000 = nanos := by omega
    have hsum : second / 3600 * 3600 + second / 60 % 60 * 60 +
        (second % 60 + nanos / 1000000000) = second := by omega
    rw [hsum, hrest]
    rfl

theorem run_offset_Z (s : List Char) : offset.run ('Z' :: s) = some (0, s) := rfl

theorem spell_eq (t : Instant) : t.spell = spellDate (Date.ofDays (t.seconds / 86400)) ++
    'T' :: (spellTime (t.seconds % 86400).toNat t.nanos ++ ['Z']) := by
  simp only [spell, spellDate, spellTime, List.append_assoc, List.cons_append]

theorem run_reader (t : Instant) : reader.run t.spell = some (t, []) := by
  have hvalid := Date.valid_ofDays (t.seconds / 86400)
  have hdays := Date.toDays_ofDays (t.seconds / 86400)
  rw [spell_eq]
  generalize Date.ofDays (t.seconds / 86400) = d at hvalid hdays
  have hleap : 1000000000 ≤ t.nanos → (t.seconds % 86400).toNat % 60 = 59 := fun h => by
    have := t.leap_at_59 h
    omega
  have hdate := fun r => run_date (s := 'T' :: r) hvalid (stops_cons rfl)
  have hT := fun r => run_one (p := fun c => c = 'T' || c = 't' || c = ' ') (c := 'T') rfl r
  have htime := run_timeOfDay (s := ['Z']) (by omega) t.nanos_lt hleap (stops_cons rfl) (by decide)
  have hthere : ofUnix? (d.toDays * 86400 + ((t.seconds % 86400).toNat : Int)) t.nanos =
      some t := by
    have hseconds : d.toDays * 86400 + ((t.seconds % 86400).toNat : Int) = t.seconds := by omega
    rw [hseconds, ofUnix?_self]
  have hahead : ofUnix? (t.seconds - 0) t.nanos = some t := by rw [Int.sub_zero, ofUnix?_self]
  simp only [reader, StateT.run_bind, Option.bind_eq_bind, Option.bind_some, hdate,
    run_guard hvalid, hT, htime, run_offset_Z, run_skip stops_nil, run_liftM hthere,
    run_liftM hahead]

/-- Reading undoes writing. -/
theorem parse?_spell (t : Instant) : parse? (String.ofList t.spell) = some t := by
  rw [parse?, String.toList_ofList, readAll, run_reader]

end Wakeup.Instant
