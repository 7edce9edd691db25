import Mathlib.Algebra.Group.Nat.Defs
import Mathlib.Data.List.Induction
import Wakeup.Text.Padded
import Wakeup.Text.Reader

/-! A number written to a width and so many digits read as a number undo each other. -/
namespace Wakeup.Text

open Reader

variable {w v d : Nat} {s : List Char}

theorem isDigit_of_mem_padded {c : Char} (h : c ∈ padded w v) : c.isDigit := by
  rw [padded, zeros, List.mem_append, List.mem_replicate] at h
  rcases h with ⟨_, rfl⟩ | h
  · rfl
  · exact Nat.isDigit_of_mem_toDigits (by decide) (by decide) h

theorem length_padded (hw : 0 < w) (h : v < 10 ^ w) : (padded w v).length = w := by
  have hle := (Nat.length_toDigits_le_iff (by decide) hw).mpr h
  rw [padded, zeros, List.length_append, List.length_replicate]
  omega

theorem ofDigits_padded (w v : Nat) : ofDigits (padded w v) = v := by
  rw [ofDigits, padded, zeros, Nat.ofDigitChars_append, Nat.ofDigitChars_replicate_zero,
    Nat.mul_zero, Nat.ofDigitChars_ten_toDigits]

theorem padded_of_lt_ten (hd : d < 10) : padded 1 d = [d.digitChar] := by
  rw [padded, zeros, Nat.toDigits_of_lt_base hd]
  rfl

/-- The last digit comes off the end. -/
theorem padded_succ (hw : 0 < w) (hd : d < 10) :
    padded (w + 1) (10 * v + d) = padded w v ++ [d.digitChar] := by
  simp only [padded, zeros]
  rcases Nat.eq_zero_or_pos v with rfl | hv
  · rw [Nat.mul_zero, Nat.zero_add, Nat.toDigits_of_lt_base hd, Nat.toDigits_zero]
    obtain ⟨k, rfl⟩ := Nat.exists_eq_add_of_lt hw
    simp only [List.length_singleton, Nat.add_sub_cancel, Nat.zero_add, List.append_assoc,
      List.replicate_succ', List.cons_append, List.nil_append]
  · rw [← Nat.toDigits_append_toDigits (by decide) hv hd, Nat.toDigits_of_lt_base hd,
      List.length_append, List.length_singleton, Nat.add_sub_add_right, List.append_assoc]

theorem digitChar_of_isDigit {c : Char} (h : c.isDigit) :
    ∃ d < 10, c = d.digitChar ∧ c.toNat - '0'.toNat = d := by
  have hc : 48 ≤ c.toNat ∧ c.toNat ≤ 57 := Char.isDigit_iff_toNat.mp h
  have hd : c.toNat - 48 < 10 := by omega
  refine ⟨c.toNat - 48, hd, Char.toNat_inj.mp ?_, rfl⟩
  rw [Nat.toNat_digitChar_of_lt_ten hd]
  omega

theorem ofDigits_concat (s : List Char) (c : Char) :
    ofDigits (s ++ [c]) = 10 * ofDigits s + (c.toNat - '0'.toNat) := by
  rw [ofDigits, Nat.ofDigitChars_append, Nat.ofDigitChars_cons, Nat.ofDigitChars_nil]
  rfl

theorem ofDigits_lt (h : ∀ c ∈ s, c.isDigit) : ofDigits s < 10 ^ s.length := by
  induction s using List.reverseRecOn with
  | nil => decide
  | append_singleton s c ih =>
    obtain ⟨d, hd, _, hv⟩ := digitChar_of_isDigit (h c (by simp))
    have hs := ih fun x hx => h x (by simp [hx])
    rw [ofDigits_concat, hv, List.length_append, List.length_singleton, Nat.pow_succ]
    omega

theorem padded_ofDigits (hne : s ≠ []) (h : ∀ c ∈ s, c.isDigit) :
    padded s.length (ofDigits s) = s := by
  induction s using List.reverseRecOn with
  | nil => exact absurd rfl hne
  | append_singleton s c ih =>
    obtain ⟨d, hd, rfl, hv⟩ := digitChar_of_isDigit (h c (by simp))
    rw [ofDigits_concat, hv, List.length_append, List.length_singleton]
    rcases List.eq_nil_or_concat s with rfl | ⟨t, a, rfl⟩
    · rw [ofDigits, Nat.ofDigitChars_nil, Nat.mul_zero, Nat.zero_add]
      exact padded_of_lt_ten hd
    · rw [padded_succ (by simp) hd, ih (by simp) fun x hx => h x (List.mem_append_left _ hx)]

theorem digits_iff (hw : 0 < w) : s.length = w ∧ (∀ c ∈ s, c.isDigit) ∧ ofDigits s = v ↔
    v < 10 ^ w ∧ s = padded w v := by
  constructor
  · rintro ⟨rfl, hs, rfl⟩
    exact ⟨ofDigits_lt hs, (padded_ofDigits (List.ne_nil_of_length_pos hw) hs).symm⟩
  · rintro ⟨hv, rfl⟩
    exact ⟨length_padded hw hv, fun c hc => isDigit_of_mem_padded hc, ofDigits_padded w v⟩

theorem space_not_mem_padded (w v : Nat) : ' ' ∉ padded w v := fun h =>
  absurd (isDigit_of_mem_padded h) (by decide)

theorem paddedInt_of_nonneg {i : Int} (h : 0 ≤ i) : paddedInt w i = padded w i.toNat := by
  obtain ⟨n, rfl⟩ := Int.eq_ofNat_of_zero_le h
  rfl

end Wakeup.Text
