import Wakeup.Proofs.Identifier.Grouping

/-! Sixteen bytes are spelled in 36 characters of the one grouping, and different bytes
differently. -/
namespace Wakeup.Identifier

open Text

variable {a b : UInt8} {l l' : List UInt8} {bytes bytes' : Vector UInt8 16}

theorem digitChar_inj : ∀ m < 16, ∀ n < 16, Nat.digitChar m = Nat.digitChar n → m = n := by decide

/-- A digit as they are spelled, in lowercase. -/
def IsLowerHex (c : Char) : Prop := c.isDigit ∨ 'a' ≤ c ∧ c ≤ 'f'

instance : DecidablePred IsLowerHex := fun _ => inferInstanceAs (Decidable (_ ∨ _))

theorem isLowerHex_digitChar : ∀ n < 16, IsLowerHex (Nat.digitChar n) := by decide

theorem IsLowerHex.isHexDigit {c : Char} (h : IsLowerHex c) : isHexDigit c := by
  simp only [Text.isHexDigit, Bool.or_eq_true, Bool.and_eq_true, decide_eq_true_eq]
  exact .inl h

theorem IsLowerHex.ne_hyphen {c : Char} (h : IsLowerHex c) : c ≠ '-' := by
  rintro rfl
  revert h
  decide

theorem isLowerHex_of_mem_hexByte {c : Char} (h : c ∈ hexByte b) : IsLowerHex c := by
  have hb := b.toNat_lt
  simp only [hexByte, List.mem_cons, List.not_mem_nil, or_false] at h
  rcases h with rfl | rfl
  · exact isLowerHex_digitChar _ (by omega)
  · exact isLowerHex_digitChar _ (by omega)

theorem hexByte_inj (h : hexByte a = hexByte b) : a = b := by
  have ha := a.toNat_lt
  have hb := b.toNat_lt
  simp only [hexByte, List.cons.injEq, and_true] at h
  have hhigh := digitChar_inj _ (by omega) _ (by omega) h.1
  have hlow := digitChar_inj _ (by omega) _ (by omega) h.2
  exact UInt8.toNat_inj.mp (by omega)

theorem length_flatMap_hexByte (l : List UInt8) : (l.flatMap hexByte).length = 2 * l.length := by
  induction l with
  | nil => rfl
  | cons b l ih =>
    rw [List.flatMap_cons, List.length_append, ih, List.length_cons]
    simp only [hexByte, List.length_cons, List.length_nil]
    omega

theorem flatMap_hexByte_inj (h : l.flatMap hexByte = l'.flatMap hexByte) : l = l' := by
  induction l generalizing l' with
  | nil =>
    cases l' with
    | nil => rfl
    | cons b' l' => cases h
  | cons b l ih =>
    cases l' with
    | nil => cases h
    | cons b' l' =>
      rw [List.flatMap_cons, List.flatMap_cons] at h
      obtain ⟨hb, hl⟩ := List.append_inj h rfl
      rw [hexByte_inj hb, ih hl]

/-- The digits of some of the bytes. -/
def group (bytes : Vector UInt8 16) (first count : Nat) : List Char :=
  ((bytes.toList.drop first).take count).flatMap hexByte

theorem toList_spell (bytes : Vector UInt8 16) : (spell bytes).toList =
    group bytes 0 4 ++ '-' :: (group bytes 4 2 ++ '-' :: (group bytes 6 2 ++
      '-' :: (group bytes 8 2 ++ '-' :: group bytes 10 6))) := by
  simp only [spell, group, String.toList_ofList, List.append_assoc, List.cons_append]

theorem length_group {first count : Nat} (h : first + count ≤ 16) :
    (group bytes first count).length = 2 * count := by
  rw [group, length_flatMap_hexByte, List.length_take, List.length_drop, Vector.length_toList]
  omega

theorem isLowerHex_of_mem_group {c : Char} {first count : Nat} (h : c ∈ group bytes first count) :
    IsLowerHex c := by
  obtain ⟨b, _, hc⟩ := List.mem_flatMap.mp h
  exact isLowerHex_of_mem_hexByte hc

/-- No digit is a hyphen. -/
theorem filter_group (bytes : Vector UInt8 16) (first count : Nat) :
    (group bytes first count).filter (· ≠ '-') = group bytes first count :=
  List.filter_eq_self.mpr fun _ hc => decide_eq_true (isLowerHex_of_mem_group hc).ne_hyphen

/-- The digits in one, where the hyphens are left out. -/
theorem filter_spell (bytes : Vector UInt8 16) :
    (spell bytes).toList.filter (· ≠ '-') = bytes.toList.flatMap hexByte := by
  have hcut : ∀ l : List UInt8, l.length = 16 → (l.drop 0).take 4 ++ ((l.drop 4).take 2 ++
      ((l.drop 6).take 2 ++ ((l.drop 8).take 2 ++ (l.drop 10).take 6))) = l := fun l hl => by
    rw [List.drop_zero, ← List.append_assoc, ← List.take_add, ← List.append_assoc,
      ← List.take_add, ← List.append_assoc, ← List.take_add, ← List.take_add]
    exact List.take_of_length_le (Nat.le_of_eq hl)
  have hskip : ∀ s : List Char, ('-' :: s).filter (· ≠ '-') = s.filter (· ≠ '-') := fun s =>
    List.filter_cons_of_neg (by decide)
  rw [toList_spell, List.filter_append, hskip, List.filter_append, hskip, List.filter_append,
    hskip, List.filter_append, hskip, filter_group, filter_group, filter_group, filter_group,
    filter_group]
  simp only [group, ← List.flatMap_append]
  rw [hcut _ (Vector.length_toList ..)]

theorem spell_inj (h : spell bytes = spell bytes') : bytes = bytes' := by
  have hdigits := congrArg (fun s : String => s.toList.filter (· ≠ '-')) h
  simp only [filter_spell] at hdigits
  exact Vector.toList_inj.mp (flatMap_hexByte_inj hdigits)

theorem length_spell (bytes : Vector UInt8 16) : (spell bytes).length = 36 := by
  rw [← String.length_toList, toList_spell]
  simp [length_group]

theorem isLowerHex_of_mem_spell {c : Char} (h : c ∈ (spell bytes).toList) :
    c = '-' ∨ IsLowerHex c := by
  by_cases hc : c = '-'
  · exact .inl hc
  · have hmem : c ∈ bytes.toList.flatMap hexByte :=
      filter_spell bytes ▸ List.mem_filter.mpr ⟨h, decide_eq_true hc⟩
    obtain ⟨b, _, hb⟩ := List.mem_flatMap.mp hmem
    exact .inr (isLowerHex_of_mem_hexByte hb)

theorem isGroup_group (bytes : Vector UInt8 16) {first count : Nat} (h : first + count ≤ 16) :
    isGroup (2 * count) (group bytes first count) :=
  isGroup_iff.mpr ⟨length_group h, fun _ hc =>
    isHexDigit_iff.mp (isLowerHex_of_mem_group hc).isHexDigit⟩

theorem isCanonical_spell (bytes : Vector UInt8 16) : isCanonical (spell bytes) := by
  have h0 : isGroup 8 (group bytes 0 4) := isGroup_group bytes (by decide)
  have h4 : isGroup 4 (group bytes 4 2) := isGroup_group bytes (by decide)
  have h6 : isGroup 4 (group bytes 6 2) := isGroup_group bytes (by decide)
  have h8 : isGroup 4 (group bytes 8 2) := isGroup_group bytes (by decide)
  have h10 : isGroup 12 (group bytes 10 6) := isGroup_group bytes (by decide)
  rw [isCanonical, toList_spell]
  simp only [areGroups_parts_iff, areGroups_parts_singleton_iff]
  exact ⟨_, _, rfl, h0, _, _, rfl, h4, _, _, rfl, h6, _, _, rfl, h8, h10⟩

theorem group_eq_cons (bytes : Vector UInt8 16) {first : Nat} (h : first < 16) (count : Nat) : ∃ t,
    group bytes first (count + 1) = Nat.digitChar ((bytes.get ⟨first, h⟩).toNat / 16) :: t := by
  have hl : first < bytes.toList.length := by rwa [Vector.length_toList]
  rw [group, List.drop_eq_getElem_cons hl, List.take_succ_cons, List.flatMap_cons]
  exact ⟨_, rfl⟩

/-- The fifteenth character is the upper half of byte 6. -/
theorem getElem?_spell_six (bytes : Vector UInt8 16) :
    (spell bytes).toList[14]? = some (Nat.digitChar ((bytes.get 6).toNat / 16)) := by
  obtain ⟨t, ht⟩ := group_eq_cons bytes (show 6 < 16 by decide) 1
  rw [toList_spell, ht]
  simp [List.getElem?_append, length_group]

/-- The twentieth character is the upper half of byte 8. -/
theorem getElem?_spell_eight (bytes : Vector UInt8 16) :
    (spell bytes).toList[19]? = some (Nat.digitChar ((bytes.get 8).toNat / 16)) := by
  obtain ⟨t, ht⟩ := group_eq_cons bytes (show 8 < 16 by decide) 1
  rw [toList_spell, ht]
  simp [List.getElem?_append, length_group]

end Wakeup.Identifier
