import Wakeup.Script

/-! The calls of a run one by one. -/
namespace Wakeup.Script

variable {σ γ α β : Type}

/-- A call that was made: the service it found, its outcome, and the service it left. -/
structure Step (σ : Type) where
  before : σ
  call : Call
  outcome : Outcome
  after : σ

/-- The calls that a script makes, in order. -/
def steps (service : Service σ) (generator : Generator γ) : Script α → World σ γ → List (Step σ)
  | done _, _ => []
  | call c next, w =>
    let (o, events, s) := service c w.service
    ⟨w.service, c, o, s⟩ :: (next o).steps service generator
      { w with service := s, journal := w.journal ++ events.map .noted }
  | draw next, w =>
    let (i, g) := generator w.generator
    (next i).steps service generator { w with generator := g }
  | note e next, w => next.steps service generator { w with journal := w.journal ++ [e] }

variable {service : Service σ} {generator : Generator γ}

theorem steps_bind (s : Script α) (f : α → Script β) (w : World σ γ) :
    (s >>= f).steps service generator w = s.steps service generator w ++
      (f (s.run service generator w).1).steps service generator (s.run service generator w).2 := by
  induction s generalizing w with
  | done a => rfl
  | call c next ih => simp only [call_bind, steps, run, ih, List.cons_append]
  | draw next ih => simp only [draw_bind, steps, run, ih]
  | note e next ih => simp only [note_bind, steps, run, ih]

/-- Steps that lead from one state of the service to another, each by what the service does. -/
inductive Leads (service : Service σ) : σ → List (Step σ) → σ → Prop where
  | nil {s : σ} : Leads service s [] s
  | cons {s s' s'' : σ} {c : Call} {o : Outcome} {events : List Event} {later : List (Step σ)}
      (h : service c s = (o, events, s')) (hs : Leads service s' later s'') :
      Leads service s (⟨s, c, o, s'⟩ :: later) s''

theorem leads_steps (service : Service σ) (generator : Generator γ) (s : Script α)
    (w : World σ γ) : Leads service w.service (s.steps service generator w)
      (s.run service generator w).2.service := by
  induction s generalizing w with
  | done a => exact .nil
  | call c next ih =>
    rcases h : service c w.service with ⟨o, events, s'⟩
    have hlater := ih o { w with service := s', journal := w.journal ++ events.map .noted }
    simp only [steps, run, h]
    exact .cons h hlater
  | draw next ih => exact ih _ { w with generator := (generator w.generator).2 }
  | note e next ih => exact ih { w with journal := w.journal ++ [e] }

variable {s s' s'' : σ} {l l' : List (Step σ)}

theorem Leads.trans (h : Leads service s l s') (h' : Leads service s' l' s'') :
    Leads service s (l ++ l') s'' := by
  induction h with
  | nil => exact h'
  | cons h _ ih => exact .cons h (ih h')

theorem Leads.answered (h : Leads service s l s') :
    ∀ x ∈ l, ∃ events, service x.call x.before = (x.outcome, events, x.after) := by
  induction h with
  | nil => exact fun x hx => absurd hx List.not_mem_nil
  | cons h _ ih => exact List.forall_mem_cons.mpr ⟨⟨_, h⟩, ih⟩

end Wakeup.Script
