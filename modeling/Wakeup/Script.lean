import Wakeup.Config
import Wakeup.Journal

/-! Work on triggers as scripts: what to ask of a scheduling service, step by step, with every
answer it may give. -/
namespace Wakeup

/-- A call to a scheduling service. -/
inductive Call where
  /-- create the rule or replace it -/
  | putRule (name : RuleName) (expression : String) (state : RuleState)
  /-- have the rule invoke a destination with a payload -/
  | putTarget (rule : RuleName) (id : TargetId) (destination : String) (payload : Payload)
  | removeTarget (rule : RuleName) (id : TargetId)
  | deleteRule (name : RuleName)
  deriving DecidableEq, Repr

def Call.operation : Call → Operation
  | putRule .. => .putRule
  | putTarget .. => .putTargets
  | removeTarget .. => .removeTargets
  | deleteRule .. => .deleteRule

abbrev Outcome := Except Fault Unit

inductive Script (α : Type) where
  | done (a : α)
  /-- make a call and go on by its outcome -/
  | call (c : Call) (next : Outcome → Script α)
  /-- draw a fresh identifier -/
  | draw (next : Except Failure String → Script α)
  | note (e : Entry) (next : Script α)

namespace Script

def bind (s : Script α) (f : α → Script β) : Script β :=
  match s with
  | done a => f a
  | call c next => call c fun o => (next o).bind f
  | draw next => draw fun i => (next i).bind f
  | note e next => note e (next.bind f)

instance : Monad Script where
  pure := done
  bind := bind

@[simp] theorem pure_eq_done (a : α) : (pure a : Script α) = done a := rfl

@[simp] theorem done_bind (a : α) (f : α → Script β) : (done a >>= f) = f a := rfl

@[simp] theorem call_bind (c : Call) (next : Outcome → Script α) (f : α → Script β) :
    (call c next >>= f) = call c fun o => next o >>= f := rfl

@[simp] theorem draw_bind (next : Except Failure String → Script α) (f : α → Script β) :
    (draw next >>= f) = draw fun i => next i >>= f := rfl

@[simp] theorem note_bind (e : Entry) (next : Script α) (f : α → Script β) :
    (note e next >>= f) = note e (next >>= f) := rfl

theorem bind_done (s : Script α) : (s >>= done) = s := by
  induction s with
  | done a => rfl
  | call c next ih => simp only [call_bind, ih]
  | draw next ih => simp only [draw_bind, ih]
  | note e next ih => simp only [note_bind, ih]

theorem bind_bind (s : Script α) (f : α → Script β) (g : β → Script γ) :
    ((s >>= f) >>= g) = (s >>= fun a => f a >>= g) := by
  induction s with
  | done a => rfl
  | call c next ih => simp only [call_bind, ih]
  | draw next ih => simp only [draw_bind, ih]
  | note e next ih => simp only [note_bind, ih]

instance : LawfulMonad Script := LawfulMonad.mk' Script bind_done (fun _ _ => rfl) bind_bind

/-- What a service does with a call: its outcome, what it notes, and the service after it. -/
abbrev Service (σ : Type) := Call → σ → Outcome × List Event × σ

/-- Where identifiers come from. -/
abbrev Generator (γ : Type) := γ → Except Failure String × γ

/-- What a script runs in, and what has been noted. -/
structure World (σ γ : Type) where
  service : σ
  generator : γ
  journal : Journal := []

/-- Carry out a script. -/
def run (service : Service σ) (generator : Generator γ) : Script α → World σ γ → α × World σ γ
  | done a, w => (a, w)
  | call c next, w =>
    let (o, events, s) := service c w.service
    (next o).run service generator
      { w with service := s, journal := w.journal ++ events.map .noted }
  | draw next, w =>
    let (i, g) := generator w.generator
    (next i).run service generator { w with generator := g }
  | note e next, w => next.run service generator { w with journal := w.journal ++ [e] }

/-- One script after another runs in the world that the first one leaves. -/
theorem run_bind (service : Service σ) (generator : Generator δ) (s : Script α)
    (f : α → Script β) (w : World σ δ) :
    (s >>= f).run service generator w =
      (f (s.run service generator w).1).run service generator (s.run service generator w).2 := by
  induction s generalizing w with
  | done a => rfl
  | call c next ih => simp only [call_bind, run, ih]
  | draw next ih => simp only [draw_bind, run, ih]
  | note e next ih => simp only [note_bind, run, ih]

end Script

/-- A script that may give up. -/
abbrev Action := ExceptT Failure Script

namespace Action

/-- A call that must succeed. -/
def call (c : Call) : Action Unit :=
  .mk (.call c fun
    | .ok () => .done (.ok ())
    | .error f => .done (.error (.service c.operation f)))

/-- A call that must succeed, with something to note if it fails. -/
def callOr (c : Call) (failed : Fault → Event) : Action Unit :=
  .mk (.call c fun
    | .ok () => .done (.ok ())
    | .error f => .note (.noted (failed f)) (.done (.error (.service c.operation f))))

def draw : Action String := .mk (.draw .done)

def note (e : Event) : Action Unit := .mk (.note (.noted e) (.done (.ok ())))

/-- A stretch of work on a trigger. -/
def within (work : Work) (ids : TriggerIds) (a : Action α) : Action α :=
  .mk (.note (.opened work ids) (a.run >>= fun r => .note (.closed r.isOk) (.done r)))

@[simp] theorem run_call (c : Call) :
    (call c).run = .call c fun
      | .ok () => .done (.ok ())
      | .error f => .done (.error (.service c.operation f)) := rfl

@[simp] theorem run_callOr (c : Call) (failed : Fault → Event) :
    (callOr c failed).run = .call c fun
      | .ok () => .done (.ok ())
      | .error f => .note (.noted (failed f)) (.done (.error (.service c.operation f))) := rfl

@[simp] theorem run_draw : draw.run = .draw .done := rfl

@[simp] theorem run_note (e : Event) : (note e).run = .note (.noted e) (.done (.ok ())) := rfl

@[simp] theorem run_within (work : Work) (ids : TriggerIds) (a : Action α) :
    (within work ids a).run =
      .note (.opened work ids) (a.run >>= fun r => .note (.closed r.isOk) (.done r)) := rfl

end Action
end Wakeup
