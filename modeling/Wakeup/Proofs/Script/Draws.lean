import Wakeup.Proofs.Script.Traces

/-! What a script draws from the generator: always what the generator gives next. -/
namespace Wakeup.Script

variable {σ γ α β : Type} {service : Service σ} {generator : Generator γ} {g g' g'' : γ}
  {l l' : List (Except Failure String)} {x : Script α} {P : Call → Prop}

/-- What the generator gives to the next so many draws. -/
def upcoming (generator : Generator γ) : Nat → γ → List (Except Failure String)
  | 0, _ => []
  | n + 1, g => (generator g).1 :: upcoming generator n (generator g).2

/-- The identifiers among what is drawn; a draw that fails gives none. -/
def identifiers (l : List (Except Failure String)) : List String := l.filterMap Except.toOption

/-- However much is drawn, no identifier comes twice. -/
def GivesOnce (generator : Generator γ) (g : γ) : Prop :=
  ∀ n, (identifiers (upcoming generator n g)).Nodup

/-- What a script draws, in order. -/
def draws (service : Service σ) (generator : Generator γ) :
    Script α → World σ γ → List (Except Failure String)
  | done _, _ => []
  | call c next, w =>
    let (o, events, s) := service c w.service
    (next o).draws service generator
      { w with service := s, journal := w.journal ++ events.map .noted }
  | draw next, w =>
    let (i, g) := generator w.generator
    i :: (next i).draws service generator { w with generator := g }
  | note e next, w => next.draws service generator { w with journal := w.journal ++ [e] }

theorem draws_bind (x : Script α) (f : α → Script β) (w : World σ γ) :
    (x >>= f).draws service generator w = x.draws service generator w ++
      (f (x.run service generator w).1).draws service generator (x.run service generator w).2 := by
  induction x generalizing w with
  | done a => rfl
  | call c next ih => simp only [call_bind, draws, run, ih]
  | draw next ih => simp only [draw_bind, draws, run, ih, List.cons_append]
  | note e next ih => simp only [note_bind, draws, run, ih]

theorem OnlyCalls.draws_eq_nil (h : x.OnlyCalls P) (service : Service σ)
    (generator : Generator γ) (w : World σ γ) : x.draws service generator w = [] := by
  induction x generalizing w with
  | done a => rfl
  | call c next ih => exact ih _ (h.2 _) _
  | draw next => exact h.elim
  | note e next ih => exact ih h _

/-- Draws one after another, from one state of the generator to another. -/
inductive Yields (generator : Generator γ) : γ → List (Except Failure String) → γ → Prop where
  | nil {g : γ} : Yields generator g [] g
  | cons {g g' g'' : γ} {i : Except Failure String} {l : List (Except Failure String)}
      (h : generator g = (i, g')) (hl : Yields generator g' l g'') :
      Yields generator g (i :: l) g''

theorem yields_draws (service : Service σ) (generator : Generator γ) (x : Script α)
    (w : World σ γ) : Yields generator w.generator (x.draws service generator w)
      (x.run service generator w).2.generator := by
  induction x generalizing w with
  | done a => exact .nil
  | call c next ih =>
    rcases h : service c w.service with ⟨o, events, s⟩
    simp only [draws, run, h]
    exact ih o { w with service := s, journal := w.journal ++ events.map .noted }
  | draw next ih =>
    rcases h : generator w.generator with ⟨i, g⟩
    simp only [draws, run, h]
    exact .cons h (ih i { w with generator := g })
  | note e next ih => exact ih { w with journal := w.journal ++ [e] }

/-- Nothing that the generator gives is passed over. -/
theorem Yields.eq_upcoming (h : Yields generator g l g') : l = upcoming generator l.length g := by
  induction h with
  | nil => rfl
  | cons h _ ih => rw [List.length_cons, upcoming, h, ← ih]

theorem Yields.nodup (h : Yields generator g l g') (hg : GivesOnce generator g) :
    (identifiers l).Nodup := by
  rw [h.eq_upcoming]
  exact hg l.length

end Wakeup.Script
