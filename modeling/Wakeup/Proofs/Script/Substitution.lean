import Wakeup.Proofs.Script.Traces

/-! A script beside the same script with other calls in the place of its own. To a service that does
not tell these from those the two are one. -/
namespace Wakeup.Script

variable {σ γ α : Type} {service : Service σ} {f : Call → Call} {R : σ → σ → Prop}

/-- The script with other calls in the place of its own. -/
def mapCalls (f : Call → Call) : Script α → Script α
  | done a => done a
  | call c next => call (f c) fun o => (next o).mapCalls f
  | draw next => draw fun i => (next i).mapCalls f
  | note e next => note e (next.mapCalls f)

/-- Where two states of the service are alike, a call to the one and the call in its place to the
other have the same outcome, are told of in the same way, and leave states that are alike. -/
def Blind (service : Service σ) (f : Call → Call) (R : σ → σ → Prop) : Prop :=
  ∀ c s t, R s t → (service (f c) t).1 = (service c s).1 ∧
    (service (f c) t).2.1 = (service c s).2.1 ∧ R (service c s).2.2 (service (f c) t).2.2

/-- Worlds that differ in the service only, and there they are alike. -/
structure World.Alike (R : σ → σ → Prop) (w w' : World σ γ) : Prop where
  service : R w.service w'.service
  generator : w'.generator = w.generator
  journal : w'.journal = w.journal

/-- The run with the other calls: the same result, the same outcomes, the same notes. -/
theorem run_mapCalls (h : Blind service f R) (generator : Generator γ) (x : Script α)
    {w w' : World σ γ} (hw : w.Alike R w') :
    ((x.mapCalls f).run service generator w').1 = (x.run service generator w).1 ∧
      (x.run service generator w).2.Alike R ((x.mapCalls f).run service generator w').2 ∧
      ((x.mapCalls f).steps service generator w').map Step.exchange =
        (x.steps service generator w).map fun s => (f s.call, s.outcome) := by
  induction x generalizing w w' with
  | done a => exact ⟨rfl, hw, rfl⟩
  | call c next ih =>
    obtain ⟨ho, he, hs⟩ := h c _ _ hw.service
    have hnext : World.Alike R
        (⟨(service c w.service).2.2, w.generator,
          w.journal ++ (service c w.service).2.1.map .noted⟩ : World σ γ)
        ⟨(service (f c) w'.service).2.2, w'.generator,
          w'.journal ++ (service (f c) w'.service).2.1.map .noted⟩ :=
      ⟨hs, hw.generator, by rw [he, hw.journal]⟩
    obtain ⟨hr, hl, hx⟩ := ih (service c w.service).1 hnext
    simp only [mapCalls, run, steps, List.map_cons, Step.exchange, ho]
    exact ⟨hr, hl, congrArg _ hx⟩
  | draw next ih =>
    have hg := hw.generator
    simp only [mapCalls, run, steps, hg]
    exact ih _ ⟨hw.service, rfl, hw.journal⟩
  | note e next ih =>
    exact ih ⟨hw.service, hw.generator, congrArg (· ++ [e]) hw.journal⟩

end Wakeup.Script
