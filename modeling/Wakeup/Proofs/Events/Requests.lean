import Wakeup.Events.Client
import Wakeup.Proofs.Json.Spelling

/-! A call is sent as one request, which says what the call says: it is read back as that call and
as no other. -/
namespace Wakeup.Events

open Text.Utf8

/-- Read back, the text is the object that the service takes for a call: each argument is the text
of its member, and nothing else is there. -/
def Says (body : String) (call : Call) : Prop :=
  Json.parseBytes? (bytes body) = some (match call with
    | .putRule name expression state => .object [(some "Name", .text (some name.text)),
        (some "ScheduleExpression", .text (some expression)),
        (some "State", .text (some (match state with
          | .enabled => "ENABLED"
          | .disabled => "DISABLED")))]
    | .putTarget rule id destination payload => .object [(some "Rule", .text (some rule.text)),
        (some "Targets", .array [.object [(some "Id", .text (some id.text)),
          (some "Arn", .text (some destination)), (some "Input", .text (some payload.text))]])]
    | .removeTarget rule id => .object [(some "Rule", .text (some rule.text)),
        (some "Ids", .array [.text (some id.text)])]
    | .deleteRule name => .object [(some "Name", .text (some name.text))])

/-- The client has what it takes to send a request. -/
def Client.CanSend (c : Client) (credentials : Credentials) : Prop :=
  c.credentials = .ok credentials ∧ credentials.canSign ∧
    ∃ address, Address.read? c.uri = some address ∧ address.isReachable

/-- A transport that takes down what it is to carry. -/
def logged (transport : Transport τ) : Transport (List HttpRequest × τ) := fun r (sent, t) =>
  let (d, t) := transport r t
  (d, sent ++ [r], t)

variable {τ : Type} {c : Client} {transport : Transport τ} {call call' : Call} {body' : String}
  {credentials : Credentials}

theorem isLegible_body (call : Call) : (body call).IsLegible := by
  cases call <;>
    simp [Json.IsLegible, body, Json.record, Json.tokens, Json.furtherMembers, Json.furtherItems,
      Tagged.toJson, RuleState.toJson, Json.ofString, Json.Token.IsLegible]

theorem says_render (call : Call) : Says (body call).render call := by
  unfold Says
  rw [Json.parseBytes?_render (isLegible_body call)]
  cases call with
  | putRule name expression state => cases state <;> rfl
  | putTarget | removeTarget | deleteRule => rfl

theorem text_inj {p : Purpose} {s t : Tagged p} : s.text = t.text ↔ s = t := by
  cases s
  cases t
  exact ⟨congrArg Tagged.mk, congrArg Tagged.text⟩

/-- The members tell the operation, and their texts its arguments. -/
theorem Says.unique (h : Says body' call) (h' : Says body' call') : call = call' := by
  have he := h.symm.trans h'
  cases call with
  | putRule name expression state =>
    cases call' with
    | putRule name' expression' state' =>
      cases state <;> cases state' <;> simp_all [text_inj]
    | _ => simp at he
  | putTarget rule id destination payload =>
    cases call' with
    | putTarget rule' id' destination' payload' => simp_all [text_inj]
    | _ => simp at he
  | removeTarget rule id =>
    cases call' with
    | removeTarget rule' id' => simp_all [text_inj]
    | _ => simp at he
  | deleteRule name =>
    cases call' with
    | deleteRule name' => simp_all [text_inj]
    | _ => simp at he

/-- A client that can send makes one request of a call, and hears what comes of it. -/
theorem service_of_canSend (h : c.CanSend credentials) (call : Call) (t : τ) :
    c.service transport call t =
      ((transport (c.request credentials call) t).1.outcome call.operation c.reasons,
        [.sending call.operation c.uri], (transport (c.request credentials call) t).2) := by
  obtain ⟨hc, hs, address, ha, hr⟩ := h
  simp only [Client.service, hc, ha, hs, hr, if_true]

/-- A client that cannot send makes none, and the call fails. -/
theorem service_of_not_canSend (h : ∀ credentials, ¬ c.CanSend credentials) (call : Call) (t : τ) :
    (∃ f, (c.service transport call t).1 = .error f) ∧ (c.service transport call t).2.2 = t := by
  unfold Client.service
  split
  · exact ⟨⟨_, rfl⟩, rfl⟩
  · exact ⟨⟨_, rfl⟩, rfl⟩
  · next credentials address hc ha =>
    split
    · next hs =>
      have hr : ¬ address.isReachable := fun hr => h credentials ⟨hc, hs, address, ha, hr⟩
      simp only [hr]
      exact ⟨⟨_, rfl⟩, rfl⟩
    · exact ⟨⟨_, rfl⟩, rfl⟩

/-- A client of a service on the same machine. -/
def loopback : Client :=
  ⟨{ endpointUrl := some "http://[::1]" }, .ok ⟨"key", none⟩, default⟩

theorem canSend_loopback : loopback.CanSend ⟨"key", none⟩ := by
  refine ⟨rfl, rfl, ⟨"http".toList, "[::1]".toList, ['/']⟩, ?_, by decide⟩
  decide +kernel

/-- A client that can send makes one request of a call, one that cannot makes none. The request
says what the call says, and two requests for the same operation with the same body are for the
same call. -/
theorem request_says_call (c : Client) (transport : Transport τ) (call : Call)
    (sent : List HttpRequest) (t : τ) :
    let after := (c.service (logged transport) call (sent, t)).2.2.1
    (∀ k, c.CanSend k → after = sent ++ [c.request k call]) ∧
    ((∀ k, ¬ c.CanSend k) → after = sent) ∧
    (∀ k, Says (c.request k call).body call) ∧
    ∀ (c' : Client) (k k' : Credentials) (call' : Call),
      (c.request k call).headers.lookup "x-amz-target" =
          (c'.request k' call').headers.lookup "x-amz-target" ∧
        (c.request k call).body = (c'.request k' call').body ↔ call = call' := by
  intro after
  refine ⟨fun k hk => ?_, fun h => ?_, fun k => says_render call, fun c' k k' call' => ?_⟩
  · simp only [after, service_of_canSend hk]
    rfl
  · exact congrArg Prod.fst (service_of_not_canSend h call (sent, t)).2
  · constructor
    · rintro ⟨_, hbody⟩
      have hsays : Says (c.request k call).body call := says_render call
      rw [hbody] at hsays
      exact hsays.unique (says_render call')
    · rintro rfl
      exact ⟨rfl, rfl⟩

/-- The payload is a quote, a backslash and a control character. -/
theorem request_says_call_escaped :
    let call : Call := .putTarget ⟨"r"⟩ ⟨""⟩ "arn" ⟨"\"\\\x01"⟩
    let silent : Transport Unit := fun _ t => (.noAnswer "", t)
    let r := loopback.request ⟨"key", none⟩ call
    (loopback.service (logged silent) call ([], ())).2.2.1 = [r] ∧
      r.body = "\x7b\"Rule\":\"r\",\"Targets\":[\x7b\"Id\":\"\",\"Arn\":\"arn\"," ++
        "\"Input\":\"\\\"\\\\\\u0001\"\x7d]\x7d" ∧
      Says r.body call := by
  intro call silent r
  obtain ⟨hsent, _, hsays, _⟩ := request_says_call loopback silent call [] ()
  refine ⟨hsent _ canSend_loopback, ?_, hsays _⟩
  decide +kernel

end Wakeup.Events
