import Wakeup.Events.Client
import Wakeup.Proofs.Scheduler.Exchanges
import Wakeup.Proofs.Script.Substitution
import Wakeup.Proofs.Service.History
import Wakeup.Service.Idle

/-! A request with another payload is carried out as the first one is: nothing that is told, no
outcome and no failure shows which of the payloads it was. -/
namespace Wakeup

/-- The call with another payload, if it has one. -/
def Call.withPayload (p : Payload) : Call → Call
  | putTarget rule id destination _ => putTarget rule id destination p
  | c => c

@[simp] theorem Call.operation_withPayload (p : Payload) (c : Call) :
    (c.withPayload p).operation = c.operation := by
  cases c <;> rfl

def Request.withPayload (p : Payload) (r : Request) : Request := { r with payload := p }

def Trigger.withPayload (p : Payload) (t : Trigger) : Trigger := { t with payload := p }

namespace Scheduler

open Script

variable {σ γ τ : Type} {service : Service σ} {generator : Generator γ} {config : Config}
  {R : σ → σ → Prop} {w w' : World σ γ}

/-- An action with another payload in its calls and in what it gives. -/
def substituted (p : Payload) (a : Action Trigger) : Script (Except Failure Trigger) :=
  a.run.mapCalls (Call.withPayload p) >>= fun t => .done (t.map (Trigger.withPayload p))

theorem run_arm_withPayload (config : Config) (r : Request) (p : Payload) (ids : TriggerIds) :
    (Action.within .schedule ids (arm config (r.withPayload p) ids)).run =
      substituted p (Action.within .schedule ids (arm config r ids)) := by
  rw [substituted, Action.run_within, Action.run_within, run_arm, run_arm]
  simp only [note_bind, call_bind, mapCalls]
  congr 3
  funext o
  rcases o with f | ⟨⟩
  · rfl
  · simp only [call_bind, mapCalls]
    congr 1
    funext o
    rcases o with f | ⟨⟩ <;> rfl

theorem run_armNamed_withPayload (config : Config) (r : Request) (p : Payload)
    (ids : TriggerIds) :
    (armNamed config (r.withPayload p) ids).run = substituted p (armNamed config r ids) := by
  by_cases hn : Nameless ids
  · rw [armNamed_of_nameless hn, armNamed_of_nameless hn]
    rfl
  · rw [armNamed_of_not_nameless hn, armNamed_of_not_nameless hn]
    exact run_arm_withPayload config r p ids

/-- The payload is handed on to the target, and nothing else is made of it. -/
theorem run_schedule_withPayload (config : Config) (r : Request) (p : Payload) :
    (schedule config (r.withPayload p)).run = substituted p (schedule config r) := by
  by_cases hd : r.destination = ""
  · rw [schedule_of_noDestination hd, schedule_of_noDestination (r := r.withPayload p) hd]
    rfl
  · rw [schedule_of_destination hd, schedule_of_destination (r := r.withPayload p) hd]
    simp only [substituted, ExceptT.run_bind, run_resolve]
    by_cases hn : r.isNamed
    · have hn' : (r.withPayload p).isNamed := hn
      rw [if_pos hn, if_pos hn']
      exact run_armNamed_withPayload config r p r.ids
    · have hn' : ¬ (r.withPayload p).isNamed := hn
      rw [if_neg hn, if_neg hn']
      simp only [draw_bind, mapCalls]
      congr 1
      funext i
      rcases i with f | s
      · rfl
      · exact congrArg _ (run_armNamed_withPayload config r p (r.idsOr (.ofToken ⟨s⟩)))

/-- A request carried out in one world, and the same request with another payload in another: they
are told of in the same way, their calls differ in the payload and have the same outcomes, and so
do their results, where a failure is the same failure. -/
structure Untold (service : Service σ) (generator : Generator γ) (config : Config) (r : Request)
    (p : Payload) (w w' : World σ γ) : Prop where
  journal : ((schedule config (r.withPayload p)).run.run service generator w').2.journal =
    ((schedule config r).run.run service generator w).2.journal
  calls : ((schedule config (r.withPayload p)).run.steps service generator w').map Step.exchange =
    ((schedule config r).run.steps service generator w).map
      fun s => (s.call.withPayload p, s.outcome)
  result : ((schedule config (r.withPayload p)).run.run service generator w').1 =
    ((schedule config r).run.run service generator w).1.map (Trigger.withPayload p)

theorem untold_of_blind {p : Payload} (h : Blind service (Call.withPayload p) R)
    (hw : w.Alike R w') (r : Request) : Untold service generator config r p w w' := by
  obtain ⟨hr, hl, hx⟩ := run_mapCalls h generator (schedule config r).run hw
  constructor
  · rw [run_schedule_withPayload, substituted, run_bind]
    exact hl.journal
  · rw [run_schedule_withPayload, substituted, steps_bind]
    simp only [steps, List.append_nil]
    exact hx
  · rw [run_schedule_withPayload, substituted, run_bind]
    simp only [run, hr]

theorem blind_recorder (p : Payload) :
    Blind Recorder.service (Call.withPayload p) fun s t => t.queued = s.queued := by
  intro c s t h
  obtain ⟨ho, hq⟩ := Recorder.service_of_queued_eq h (c.operation_withPayload p)
  exact ⟨ho, rfl, hq⟩

theorem blind_idle (p : Payload) : Blind Idle.service (Call.withPayload p) Eq := by
  intro c s t _
  cases c <;> exact ⟨rfl, rfl, rfl⟩

/-- The answers come in their order, whatever the requests say. -/
theorem blind_client (client : Events.Client) (answer : τ → Events.Delivery × τ) (p : Payload) :
    Blind (client.service fun _ t => answer t) (Call.withPayload p) Eq := by
  rintro c s _ rfl
  -- the request is the one place where the payload shows, and no answer depends on it
  simp only [Events.Client.service, Call.operation_withPayload, and_self]

/-- Payloads are not told of. It makes no difference to anything but the payloads themselves which
of two a request has: neither where calls succeed or fail as they are told to, nor with the service
that does nothing, nor with the events service when the same answers come to its client. -/
theorem payload_untold (config : Config) (generator : Generator γ) (r : Request) (p : Payload) :
    (∀ (w : World Recorder γ) calls rules targets, Untold Recorder.service generator config r p w
      { w with service := ⟨w.service.queued, calls, rules, targets⟩ }) ∧
    (∀ w : World Unit γ, Untold Idle.service generator config r p w w) ∧
    ∀ (client : Events.Client) (answer : τ → Events.Delivery × τ) (w : World τ γ),
      Untold (client.service fun _ t => answer t) generator config r p w w := by
  refine ⟨fun w calls rules targets => ?_, fun w => ?_, fun client answer w => ?_⟩
  · have hw : w.Alike (fun s t => t.queued = s.queued)
        { w with service := ⟨w.service.queued, calls, rules, targets⟩ } := ⟨rfl, rfl, rfl⟩
    exact untold_of_blind (blind_recorder p) hw r
  · exact untold_of_blind (blind_idle p) ⟨rfl, rfl, rfl⟩ r
  · exact untold_of_blind (blind_client client answer p) ⟨rfl, rfl, rfl⟩ r

end Scheduler
end Wakeup
