import Mathlib.Data.Option.Basic
import Wakeup.Proofs.Text.Digits
import Wakeup.Text.Blank

/-! What readers take off the front of a text that is spelled out. A run of characters of one class
ends where a character of another follows. -/
namespace Wakeup.Text

section Runs

variable {α : Type} {p : α → Bool} {a b : List α}

/-- Whatever follows, it does not go on with the class. -/
def Stops (p : α → Bool) (b : List α) : Prop := ∀ x ∈ b.head?, p x = false

theorem stops_nil : Stops p ([] : List α) := fun _ hx => nomatch hx

theorem stops_cons {x : α} (h : p x = false) : Stops p (x :: b) := fun _ hx =>
  Option.some.inj hx ▸ h

theorem takeWhile_append (ha : ∀ x ∈ a, p x) (hb : Stops p b) : (a ++ b).takeWhile p = a := by
  have hstop : b.takeWhile p = [] := by
    cases b with
    | nil => rfl
    | cons x b => exact List.takeWhile_cons_of_neg (Bool.eq_false_iff.mp (hb x rfl))
  rw [List.takeWhile_append_of_pos ha, hstop, List.append_nil]

theorem dropWhile_of_stops (hb : Stops p b) : b.dropWhile p = b := by
  cases b with
  | nil => rfl
  | cons x b => exact List.dropWhile_cons_of_neg (Bool.eq_false_iff.mp (hb x rfl))

theorem dropWhile_append (ha : ∀ x ∈ a, p x) (hb : Stops p b) : (a ++ b).dropWhile p = b := by
  rw [List.dropWhile_append_of_pos ha, dropWhile_of_stops hb]

end Runs

theorem isBlank_of_isDigit {c : Char} (h : c.isDigit) : isBlank c = false := by
  obtain ⟨d, hd, rfl, _⟩ := digitChar_of_isDigit h
  revert d
  decide

namespace Reader

variable {α : Type} {p : Char → Bool} {w s : List Char} {c : Char} {n k : Nat}

theorem run_literal (w s : List Char) : (literal w).run (w ++ s) = some ((), s) := by
  simp [literal, StateT.run]

theorem run_skip (h : Stops p s) : (skip p).run s = some ((), s) :=
  congrArg (fun t => some ((), t)) (dropWhile_of_stops h)

theorem run_one (h : p c) (s : List Char) : (one p).run (c :: s) = some (c, s) := if_pos h

theorem run_peek? (s : List Char) : peek?.run s = some (s.head?, s) := rfl

theorem run_guard {q : Prop} [Decidable q] (h : q) (s : List Char) :
    (guard q : Reader Unit).run s = some ((), s) := by
  rw [guard, if_pos h]
  rfl

theorem run_liftM {o : Option α} {a : α} (h : o = some a) (s : List Char) :
    (liftM o : Reader α).run s = some (a, s) := by
  rw [h]
  rfl

theorem stops_take (h : Stops p s) : Stops p (s.take k) := by
  cases k with
  | zero => exact stops_nil
  | succ k => cases s with
    | nil => exact stops_nil
    | cons c s => exact stops_cons (h c rfl)

/-- A run of digits is taken up to where something else begins, as far as there is room for it. -/
theorem run_digitRun {most : Option Nat} (hw : ∀ c ∈ w, c.isDigit)
    (hmost : ∀ n ∈ most, w.length ≤ n) (hs : Stops Char.isDigit s) :
    (digitRun most).run (w ++ s) = some (w, s) := by
  have htake : (most.elim (w ++ s) (w ++ s).take).takeWhile Char.isDigit = w := by
    cases most with
    | none => exact takeWhile_append hw hs
    | some n =>
      rw [Option.elim_some, List.take_append, List.take_of_length_le (hmost n rfl)]
      exact takeWhile_append hw (stops_take hs)
  simp only [digitRun, StateT.run, htake, List.drop_left]

theorem padded_ne_nil (k n : Nat) : padded k n ≠ [] := fun h =>
  Nat.toDigits_ne_nil (List.append_eq_nil_iff.mp h).2

theorem length_padded_le (hk : 0 < k) (h : n < 10 ^ k) :
    ∀ m ∈ some k, (padded k n).length ≤ m := fun _ hm =>
  Option.some.inj hm ▸ Nat.le_of_eq (length_padded hk h)

/-- A padded number is read back where there is room for it. -/
theorem run_number {most : Option Nat} (hmost : ∀ m ∈ most, (padded k n).length ≤ m)
    (hs : Stops Char.isDigit s) : (number most).run (padded k n ++ s) = some (n, s) := by
  have hd : ∀ c ∈ padded k n, c.isDigit := fun c hc => isDigit_of_mem_padded hc
  simp only [number, StateT.run_bind, run_digitRun hd hmost hs, Option.bind_eq_bind,
    Option.bind_some, run_guard (padded_ne_nil k n), ofDigits_padded]
  rfl

theorem padded_eq_cons (k n : Nat) : ∃ c cs, padded k n = c :: cs ∧ c.isDigit := by
  obtain ⟨c, cs, hc⟩ := List.exists_cons_of_ne_nil (padded_ne_nil k n)
  exact ⟨c, cs, hc, isDigit_of_mem_padded (hc ▸ List.mem_cons_self)⟩

/-- No blank is in front of a padded number. -/
theorem run_skip_padded (k n : Nat) (s : List Char) :
    (skip isBlank).run (padded k n ++ s) = some ((), padded k n ++ s) := by
  obtain ⟨c, cs, hc, hd⟩ := padded_eq_cons k n
  rw [hc]
  exact run_skip (stops_cons (isBlank_of_isDigit hd))

end Reader
end Wakeup.Text
