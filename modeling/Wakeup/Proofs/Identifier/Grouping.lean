import Mathlib.Data.List.Forall2
import Wakeup.Identifier
import Wakeup.Proofs.Text.Parts
import Wakeup.Proofs.Text.Utf8

/-! The grouping of an identifier, place by place: its parts, and the bytes they take, come to one
character at each of 36 places. -/
namespace Wakeup.Identifier

open Text

/-- The digits of either case. -/
def hexDigits : List Char := "0123456789abcdefABCDEF".toList

/-- Where the hyphens are, between groups of these lengths. -/
def hyphens : List Nat → List Bool
  | [] => []
  | [n] => List.replicate n false
  | n :: ns => List.replicate n false ++ true :: hyphens ns

/-- A hyphen where there is one, and a digit elsewhere. -/
def Fits (c : Char) (hyphen : Bool) : Prop := if hyphen then c = '-' else c ∈ hexDigits

variable {c : Char} {n : Nat} {ns : List Nat} {g s : List Char}

theorem lt_of_isHexDigit (h : isHexDigit c) : c.val.toNat < 128 := by
  simp only [isHexDigit, Char.isDigit, Bool.or_eq_true, Bool.and_eq_true, decide_eq_true_eq,
    Char.le_def, UInt32.le_iff_toNat_le, ge_iff_le] at h
  rcases h with (⟨_, h⟩ | ⟨_, h⟩) | ⟨_, h⟩ <;> exact Nat.lt_of_le_of_lt h (by decide)

theorem isHexDigit_iff : isHexDigit c ↔ c ∈ hexDigits := by
  constructor
  · intro h
    have hall : ∀ n < 128, isHexDigit (Char.ofNat n) → Char.ofNat n ∈ hexDigits := by decide
    have hc : Char.ofNat c.val.toNat = c := Char.ofNat_toNat c
    rw [← hc] at h ⊢
    exact hall _ (lt_of_isHexDigit (hc ▸ h)) h
  · intro h
    have hall : hexDigits.all isHexDigit := by decide
    exact List.all_eq_true.mp hall c h

theorem hyphen_not_mem (h : ∀ c ∈ g, c ∈ hexDigits) : '-' ∉ g := by
  intro hg
  exact absurd (h '-' hg) (by decide)

theorem utf8EncodeChar_of_lt (h : c.val.toNat < 128) :
    String.utf8EncodeChar c = [c.val.toUInt8] :=
  String.utf8EncodeChar_eq_singleton
    (Char.utf8Size_eq_one_iff.mpr (UInt32.le_iff_toNat_le.mpr (Nat.le_of_lt_succ h)))

theorem ofUInt8_of_lt (h : c.val.toNat < 128) : Char.ofUInt8 c.val.toUInt8 = c := by
  apply Char.toNat_inj.mp
  change c.val.toNat % 256 = c.val.toNat
  omega

theorem last_byte_mem (h : 128 ≤ c.val.toNat) :
    UInt8.ofNat (c.val.toNat % 64 + 128) ∈ String.utf8EncodeChar c := by
  unfold String.utf8EncodeChar
  simp only
  rw [if_neg (by omega)]
  split
  · simp
  · split <;> simp

/-- A character outside ASCII takes a byte that is no digit. -/
theorem forall_mem_utf8EncodeChar_iff (c : Char) :
    (∀ b ∈ String.utf8EncodeChar c, isHexDigit (.ofUInt8 b)) ↔ isHexDigit c := by
  by_cases hc : c.val.toNat < 128
  · rw [utf8EncodeChar_of_lt hc, List.forall_mem_singleton, ofUInt8_of_lt hc]
  · refine iff_of_false (fun h => ?_) fun h => hc (lt_of_isHexDigit h)
    have hlt : (c.val.toNat % 64 + 128) % 256 < 128 :=
      lt_of_isHexDigit (h _ (last_byte_mem (Nat.le_of_not_lt hc)))
    omega

theorem length_flatMap_utf8EncodeChar (h : ∀ c ∈ g, isHexDigit c) :
    (g.flatMap String.utf8EncodeChar).length = g.length := by
  induction g with
  | nil => rfl
  | cons c g ih =>
    obtain ⟨hc, hg⟩ := List.forall_mem_cons.mp h
    rw [List.flatMap_cons, utf8EncodeChar_of_lt (lt_of_isHexDigit hc), List.length_append, ih hg,
      List.length_singleton, List.length_cons, Nat.add_comm]

theorem isGroup_iff : isGroup n g ↔ g.length = n ∧ ∀ c ∈ g, c ∈ hexDigits := by
  have hbytes : (String.ofList g).toUTF8.toList = g.flatMap String.utf8EncodeChar := by
    rw [Utf8.toList_toUTF8, Utf8.bytes_eq, String.toList_ofList]
  simp only [isGroup, hbytes, Bool.and_eq_true, decide_eq_true_eq, List.all_eq_true,
    List.forall_mem_flatMap, forall_mem_utf8EncodeChar_iff, ← isHexDigit_iff]
  refine and_congr_left fun hg => ?_
  rw [length_flatMap_utf8EncodeChar hg]

theorem forall₂_replicate_iff :
    List.Forall₂ Fits g (List.replicate n false) ↔ g.length = n ∧ ∀ c ∈ g, c ∈ hexDigits := by
  induction g generalizing n with
  | nil => cases n <;> simp [List.replicate_succ]
  | cons c g ih =>
    cases n with
    | zero => simp
    | succ n =>
      rw [List.replicate_succ, List.forall₂_cons, ih, List.forall_mem_cons, List.length_cons,
        Nat.succ_inj]
      exact and_left_comm

theorem forall₂_append_iff {l l' : List Bool} : List.Forall₂ Fits s (l ++ l') ↔
    ∃ g t, s = g ++ t ∧ List.Forall₂ Fits g l ∧ List.Forall₂ Fits t l' := by
  constructor
  · intro h
    exact ⟨_, _, (List.take_append_drop l.length s).symm, List.forall₂_take_append s l l' h,
      List.forall₂_drop_append s l l' h⟩
  · rintro ⟨g, t, rfl, hg, ht⟩
    exact List.rel_append hg ht

/-- The first part is a group, and what is behind its hyphen has the others. -/
theorem areGroups_parts_iff (n m : Nat) (ns : List Nat) : areGroups (n :: m :: ns) (parts '-' s) ↔
    ∃ g t, s = g ++ '-' :: t ∧ isGroup n g ∧ areGroups (m :: ns) (parts '-' t) := by
  constructor
  · intro h
    obtain ⟨g, ps, hs⟩ := List.exists_cons_of_ne_nil (parts_ne_nil '-' s)
    rw [hs, areGroups, Bool.and_eq_true] at h
    obtain ⟨_, ⟨rfl, rfl⟩ | ⟨t, rfl, rfl⟩⟩ := parts_eq_cons hs
    · cases h.2
    · exact ⟨g, t, rfl, h⟩
  · rintro ⟨g, t, rfl, hg, ht⟩
    rw [parts_append (hyphen_not_mem (isGroup_iff.mp hg).2), areGroups, hg, ht]
    rfl

theorem areGroups_parts_singleton_iff : areGroups [n] (parts '-' s) ↔ isGroup n s := by
  constructor
  · intro h
    obtain ⟨g, ps, hs⟩ := List.exists_cons_of_ne_nil (parts_ne_nil '-' s)
    rw [hs, areGroups, Bool.and_eq_true] at h
    obtain ⟨_, ⟨rfl, rfl⟩ | ⟨t, rfl, rfl⟩⟩ := parts_eq_cons hs
    · exact h.1
    · exact absurd (List.isEmpty_iff.mp h.2) (parts_ne_nil '-' t)
  · intro h
    rw [parts_of_not_mem (hyphen_not_mem (isGroup_iff.mp h).2), areGroups, h]
    rfl

theorem hyphens_cons_cons (n m : Nat) (ns : List Nat) :
    hyphens (n :: m :: ns) = List.replicate n false ++ true :: hyphens (m :: ns) := rfl

/-- Group by group, what the parts have to be is what each place has to hold. -/
theorem areGroups_parts_iff_forall₂ (n : Nat) (ns : List Nat) (s : List Char) :
    areGroups (n :: ns) (parts '-' s) ↔ List.Forall₂ Fits s (hyphens (n :: ns)) := by
  induction ns generalizing n s with
  | nil => rw [areGroups_parts_singleton_iff, isGroup_iff, hyphens, forall₂_replicate_iff]
  | cons m ns ih =>
    rw [areGroups_parts_iff, hyphens_cons_cons, forall₂_append_iff]
    simp only [isGroup_iff, ih, forall₂_replicate_iff, List.forall₂_cons_right_iff]
    constructor
    · rintro ⟨g, t, rfl, hg, ht⟩
      exact ⟨g, _, rfl, hg, '-', t, rfl, ht, rfl⟩
    · rintro ⟨g, _, rfl, hg, c, t, hc, ht, rfl⟩
      obtain rfl : c = '-' := hc
      exact ⟨g, t, rfl, hg, ht⟩

theorem fits_hyphens_iff (i : Fin (hyphens [8, 4, 4, 4, 12]).length) :
    Fits c ((hyphens [8, 4, 4, 4, 12]).get i) ↔
      if i.val ∈ [8, 13, 18, 23] then c = '-' else c ∈ hexDigits := by
  have hplaces : ∀ i, (hyphens [8, 4, 4, 4, 12]).get i =
      decide (i.val ∈ [8, 13, 18, 23]) := by decide
  simp only [Fits, hplaces i, decide_eq_true_eq]

/-- A text has the grouping of an identifier exactly if it has 36 characters, hyphens at four places
and digits of either case at all others. -/
theorem isCanonical_iff (s : String) : isCanonical s ↔ s.length = 36 ∧
    ∀ i c, s.toList[i]? = some c → if i ∈ [8, 13, 18, 23] then c = '-' else c ∈ hexDigits := by
  rw [isCanonical, areGroups_parts_iff_forall₂, List.forall₂_iff_get, ← String.length_toList]
  change s.toList.length = 36 ∧ _ ↔ _
  refine and_congr_right fun hlength => ?_
  constructor
  · intro h i c hc
    obtain ⟨hi, rfl⟩ := List.getElem?_eq_some_iff.mp hc
    have hi' : i < 36 := hlength ▸ hi
    exact (fits_hyphens_iff ⟨i, hi'⟩).mp (h i hi hi')
  · intro h i hi hi'
    exact (fits_hyphens_iff ⟨i, hi'⟩).mpr (h i _ (List.getElem?_eq_getElem hi))

end Wakeup.Identifier
