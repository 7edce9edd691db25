import Wakeup.Text.Parts

/-! A text is its parts with the marks put back, and there is one way to take it apart. -/
namespace Wakeup.Text

variable {mark : Char} {s w : List Char}

theorem afterPrefix?_eq_some_iff {r : List Char} : afterPrefix? w s = some r ↔ s = w ++ r := by
  unfold afterPrefix?
  constructor
  · intro h
    split at h
    · next hp =>
      obtain ⟨t, rfl⟩ := List.isPrefixOf_iff_prefix.mp hp
      obtain rfl : t = r := by simpa using h
      rfl
    · cases h
  · rintro rfl
    rw [if_pos (List.isPrefixOf_iff_prefix.mpr ⟨r, rfl⟩), List.drop_left]

theorem beforeSuffix?_eq_some_iff {r : List Char} : beforeSuffix? w s = some r ↔ s = r ++ w := by
  unfold beforeSuffix?
  constructor
  · intro h
    split at h
    · next hp =>
      obtain ⟨t, rfl⟩ := List.isSuffixOf_iff_suffix.mp hp
      obtain rfl : t = r := by simpa using h
      rfl
    · cases h
  · rintro rfl
    rw [if_pos (List.isSuffixOf_iff_suffix.mpr ⟨r, rfl⟩)]
    simp

theorem parts_cons (mark c : Char) (s : List Char) : parts mark (c :: s) =
    if c = mark then [] :: parts mark s
    else (c :: (parts mark s).headD []) :: (parts mark s).tail := rfl

theorem parts_ne_nil (mark : Char) (s : List Char) : parts mark s ≠ [] := by
  cases s with
  | nil => simp [parts]
  | cons c s =>
    rw [parts_cons]
    split <;> simp

theorem parts_of_not_mem (h : mark ∉ s) : parts mark s = [s] := by
  induction s with
  | nil => rfl
  | cons c s ih =>
    simp only [List.mem_cons, not_or] at h
    rw [parts_cons, if_neg (Ne.symm h.1), ih h.2]
    rfl

theorem parts_append {a : List Char} (h : mark ∉ a) (s : List Char) :
    parts mark (a ++ mark :: s) = a :: parts mark s := by
  induction a with
  | nil => rw [List.nil_append, parts_cons, if_pos rfl]
  | cons c a ih =>
    simp only [List.mem_cons, not_or] at h
    rw [List.cons_append, parts_cons, if_neg (Ne.symm h.1), ih h.2]
    rfl

/-- No part holds the mark, and with marks between them the parts are the text. -/
theorem parts_eq_cons {a : List Char} {ps : List (List Char)} (h : parts mark s = a :: ps) :
    mark ∉ a ∧ (ps = [] ∧ s = a ∨ ∃ t, ps = parts mark t ∧ s = a ++ mark :: t) := by
  induction s generalizing a ps with
  | nil =>
    cases h
    exact ⟨List.not_mem_nil, .inl ⟨rfl, rfl⟩⟩
  | cons c s ih =>
    rw [parts_cons] at h
    split at h
    · next hc =>
      cases h
      exact ⟨List.not_mem_nil, .inr ⟨s, rfl, by rw [hc, List.nil_append]⟩⟩
    · next hc =>
      obtain ⟨b, qs, hs⟩ := List.exists_cons_of_ne_nil (parts_ne_nil mark s)
      rw [hs] at h
      cases h
      obtain ⟨hb, hrest⟩ := ih hs
      refine ⟨?_, ?_⟩
      · simp only [List.headD_cons, List.mem_cons, not_or]
        exact ⟨Ne.symm hc, hb⟩
      · rcases hrest with ⟨hq, he⟩ | ⟨t, hq, he⟩
        · exact .inl ⟨hq, by rw [he]; rfl⟩
        · exact .inr ⟨t, hq, by rw [he]; rfl⟩

theorem parts_intercalate {ps : List (List Char)} (hne : ps ≠ []) (h : ∀ p ∈ ps, mark ∉ p) :
    parts mark ([mark].intercalate ps) = ps := by
  induction ps with
  | nil => exact absurd rfl hne
  | cons a ps ih =>
    have ha : mark ∉ a := h a List.mem_cons_self
    rcases ps with _ | ⟨b, ps⟩
    · rw [List.intercalate_singleton, parts_of_not_mem ha]
    · have hps := ih (List.cons_ne_nil b ps) fun p hp => h p (List.mem_cons_of_mem a hp)
      rw [List.intercalate_cons_cons, List.append_assoc]
      exact (parts_append ha _).trans (congrArg (a :: ·) hps)

theorem parts_eq_iff {ps : List (List Char)} (hne : ps ≠ []) :
    parts mark s = ps ↔ s = [mark].intercalate ps ∧ ∀ p ∈ ps, mark ∉ p := by
  constructor
  · intro h
    induction ps generalizing s with
    | nil => exact absurd rfl hne
    | cons a ps ih =>
      obtain ⟨ha, ⟨rfl, rfl⟩ | ⟨t, rfl, rfl⟩⟩ := parts_eq_cons h
      · simpa using ha
      · obtain ⟨ht, hp⟩ := ih (parts_ne_nil mark t) rfl
        obtain ⟨b, qs, hq⟩ := List.exists_cons_of_ne_nil (parts_ne_nil mark t)
        refine ⟨?_, ?_⟩
        · rw [hq] at ht ⊢
          rw [List.intercalate_cons_cons, ← ht]
          simp
        · intro p hmem
          rcases List.mem_cons.mp hmem with rfl | hmem
          · exact ha
          · exact hp p hmem
  · rintro ⟨rfl, h⟩
    exact parts_intercalate hne h

end Wakeup.Text
