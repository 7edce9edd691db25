import Wakeup.Json.Text

/-! The tokens that a value is written as are read as that value. -/
namespace Wakeup.Json

theorem tokens_eq_cons (v : Json) : ∃ t ts, v.tokens = t :: ts ∧ t ≠ .closeArray := by
  cases v with
  | null => exact ⟨_, _, rfl, by simp⟩
  | bool b => exact ⟨_, _, rfl, by simp⟩
  | number n => exact ⟨_, _, rfl, by simp⟩
  | text s => exact ⟨_, _, rfl, by simp⟩
  | array vs => cases vs <;> exact ⟨_, _, rfl, by simp⟩
  | object ms => cases ms <;> exact ⟨_, _, rfl, by simp⟩

/-- An array that is not empty starts as any place for a value does. -/
theorem foldlM_firstItem (v : Json) (outer : List Frame) (rest : List Token) :
    (v.tokens ++ rest).foldlM Stage.step? (.firstItem outer) =
      (v.tokens ++ rest).foldlM Stage.step? (.value (.array [] :: outer)) := by
  obtain ⟨t, ts, h, ht⟩ := v.tokens_eq_cons
  rw [h, List.cons_append, List.foldlM_cons, List.foldlM_cons]
  congr 1
  cases t <;> first | rfl | exact absurd rfl ht

mutual

theorem foldlM_tokens (v : Json) (outer : List Frame) (rest : List Token) :
    (v.tokens ++ rest).foldlM Stage.step? (.value outer) =
      rest.foldlM Stage.step? (.complete v outer) := by
  match v with
  | .null => rfl
  | .bool b => rfl
  | .number n => rfl
  | .text s => rfl
  | .array [] => rfl
  | .array (v :: vs) =>
    rw [tokens, List.cons_append, List.append_assoc]
    exact (foldlM_firstItem v outer (furtherItems vs ++ rest)).trans
      ((foldlM_tokens v _ _).trans (foldlM_furtherItems v vs [] outer rest))
  | .object [] => rfl
  | .object ((k, v) :: ms) =>
    rw [tokens, List.cons_append, List.cons_append, List.cons_append, List.append_assoc]
    exact (foldlM_tokens v _ _).trans (foldlM_furtherMembers k v ms [] outer rest)

theorem foldlM_furtherItems (v : Json) (vs seen : List Json) (outer : List Frame)
    (rest : List Token) :
    (furtherItems vs ++ rest).foldlM Stage.step? (.complete v (.array seen :: outer)) =
      rest.foldlM Stage.step? (.complete (.array (seen.reverse ++ v :: vs)) outer) := by
  match vs with
  | [] => simp [furtherItems, Stage.step?]
  | w :: vs =>
    rw [furtherItems, List.cons_append, List.append_assoc]
    refine ((foldlM_tokens w (.array (v :: seen) :: outer) _).trans
      (foldlM_furtherItems w vs (v :: seen) outer rest)).trans ?_
    simp

theorem foldlM_furtherMembers (k : Option String) (v : Json) (ms seen : List (Option String × Json))
    (outer : List Frame) (rest : List Token) :
    (furtherMembers ms ++ rest).foldlM Stage.step? (.complete v (.object seen k :: outer)) =
      rest.foldlM Stage.step? (.complete (.object (seen.reverse ++ (k, v) :: ms)) outer) := by
  match ms with
  | [] => simp [furtherMembers, Stage.step?]
  | (l, w) :: ms =>
    rw [furtherMembers, List.cons_append, List.cons_append, List.cons_append, List.append_assoc]
    refine ((foldlM_tokens w (.object ((k, v) :: seen) l :: outer) _).trans
      (foldlM_furtherMembers l w ms ((k, v) :: seen) outer rest)).trans ?_
    simp

end

/-- Reading undoes writing. -/
theorem ofTokens?_tokens (v : Json) : ofTokens? v.tokens = some v := by
  have := foldlM_tokens v [] []
  rw [List.append_nil] at this
  rw [ofTokens?, this]
  rfl

end Wakeup.Json
