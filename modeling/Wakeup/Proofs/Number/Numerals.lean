import Wakeup.Number.Numeral
import Wakeup.Proofs.Text.Readers

/-! A numeral that is spelled out is read as that numeral. -/
namespace Wakeup.Numeral

open Text

variable {n : Numeral} {ds s : List Char}

/-- Only digits stand behind the point. -/
def IsProper (n : Numeral) : Prop := ∀ c ∈ n.fraction, c.isDigit

theorem isProper_ofInt (i : Int) : (ofInt i).IsProper := List.forall_mem_nil _

theorem isDigit_of_mem_toDigits {k : Nat} : ∀ c ∈ Nat.toDigits 10 k, c.isDigit :=
  fun _ hc => Nat.isDigit_of_mem_toDigits (by decide) (by decide) hc

/-- No digit in front of others is a zero. -/
theorem toDigits_head (k : Nat) :
    (Nat.toDigits 10 k).length = 1 ∨ (Nat.toDigits 10 k).head? ≠ some '0' := by
  by_contra h
  obtain ⟨hlen, hzero⟩ := not_or.mp h
  obtain ⟨ds, hds⟩ : ∃ ds, Nat.toDigits 10 k = '0' :: ds :=
    List.head?_eq_some_iff.mp (not_not.mp hzero)
  rw [hds, List.length_cons] at hlen
  -- without the zero it is the same number, in fewer digits than it has
  have hv : Reader.ofDigits ds = k := by
    have hk := Nat.ofDigitChars_ten_toDigits (n := k)
    rwa [hds, Nat.ofDigitChars_cons] at hk
  have hlt : k < 10 ^ ds.length := by
    rw [← hv]
    refine ofDigits_lt fun c hc => isDigit_of_mem_toDigits (k := k) c ?_
    rw [hds]
    exact List.mem_cons_of_mem _ hc
  have hle := (Nat.length_toDigits_le_iff (by decide) (by omega)).mpr hlt
  rw [hds, List.length_cons] at hle
  omega

theorem digits?_append (hne : ds ≠ []) (hd : ∀ c ∈ ds, c.isDigit) (hs : Stops Char.isDigit s) :
    digits? (ds ++ s) = some (ds, s) := by
  simp only [digits?, takeWhile_append hd hs, dropWhile_append hd hs, if_neg hne]

theorem digits?_toDigits (k : Nat) (hs : Stops Char.isDigit s) :
    digits? (Nat.toDigits 10 k ++ s) = some (Nat.toDigits 10 k, s) :=
  digits?_append Nat.toDigits_ne_nil isDigit_of_mem_toDigits hs

theorem value_toDigits (k : Nat) : value (Nat.toDigits 10 k) = k :=
  Nat.ofDigitChars_ten_toDigits

/-- Digits have no sign. -/
theorem sign_toDigits (k : Nat) (s : List Char) :
    sign (Nat.toDigits 10 k ++ s) = (false, Nat.toDigits 10 k ++ s) := by
  obtain ⟨c, cs, h⟩ := List.exists_cons_of_ne_nil (Nat.toDigits_ne_nil (n := k) (b := 10))
  have hc : c.isDigit := isDigit_of_mem_toDigits (k := k) c (h ▸ List.mem_cons_self)
  rw [h, List.cons_append, sign]
  intro t ht
  obtain ⟨rfl, _⟩ := List.cons.inj ht
  cases hc

theorem sign_spell (b : Bool) (k : Nat) (s : List Char) :
    sign ((if b then ['-'] else []) ++ (Nat.toDigits 10 k ++ s)) =
      (b, Nat.toDigits 10 k ++ s) := by
  cases b with
  | true => rfl
  | false => exact sign_toDigits k s

theorem exponent?_spellExponent (e : Int) : exponent? (spellExponent e) = some (some e) := by
  have hd := digits?_toDigits e.natAbs stops_nil
  have hv := value_toDigits e.natAbs
  have hneg : e < 0 → -(e.natAbs : Int) = e := by omega
  have hpos : ¬ e < 0 → (e.natAbs : Int) = e := by omega
  rw [List.append_nil] at hd
  unfold spellExponent
  generalize e.natAbs = k at hd hv hneg hpos ⊢
  by_cases he : e < 0
  · simp [exponent?, he, sign, hd, hv, hneg he]
  · simp [exponent?, he, hd, hv, hpos he]

theorem exponent?_spell (e : Option Int) : exponent? (e.elim [] spellExponent) = some e := by
  cases e with
  | none => rfl
  | some e => exact exponent?_spellExponent e

theorem stops_spellExponent (e : Option Int) :
    Stops Char.isDigit (e.elim [] spellExponent) := by
  cases e with
  | none => exact stops_nil
  | some e => exact stops_cons rfl

/-- The digits behind the point, with the point. -/
def spellFraction (ds : List Char) : List Char := if ds = [] then [] else '.' :: ds

theorem stops_spellFraction (ds : List Char) (hs : Stops Char.isDigit s) :
    Stops Char.isDigit (spellFraction ds ++ s) := by
  unfold spellFraction
  split
  · exact hs
  · exact stops_cons rfl

theorem fraction?_spell (hd : ∀ c ∈ ds, c.isDigit) (e : Option Int) :
    fraction? (spellFraction ds ++ e.elim [] spellExponent) =
      some (ds, e.elim [] spellExponent) := by
  unfold spellFraction
  split
  · next h =>
    subst h
    cases e <;> rfl
  · next h => exact digits?_append h hd (stops_spellExponent e)

theorem spell_eq (n : Numeral) : n.spell = (if n.negative then ['-'] else []) ++
    (Nat.toDigits 10 n.whole ++
      (spellFraction n.fraction ++ n.exponent.elim [] spellExponent)) := by
  simp only [spell, spellFraction, List.append_assoc]

/-- Reading undoes writing. -/
theorem read?_spell (h : n.IsProper) : read? n.spell = some n := by
  have hstop := stops_spellFraction n.fraction (stops_spellExponent n.exponent)
  simp only [read?, spell_eq, sign_spell, digits?_toDigits _ hstop, fraction?_spell h,
    exponent?_spell, value_toDigits, Option.bind_eq_bind, Option.bind_some, guard,
    if_pos (toDigits_head n.whole), Option.pure_def]

end Wakeup.Numeral
