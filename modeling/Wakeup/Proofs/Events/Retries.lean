import Wakeup.Proofs.Events.Answers
import Wakeup.Proofs.Events.Codes
import Wakeup.Proofs.Scheduler.Jobs

/-! Whether a call may succeed another time: its fault says so by the code and the status alone, and
the failure of the operation says the same. -/
namespace Wakeup.Events

open Json Script

/-- The body is an error object, or the array of its fields, and gives a type. -/
inductive GivesType (type : String) : Json → Prop where
  | object {members : List (Option String × Json)} (hm : IsErrorObject members)
      (ht : given ["__type"] members = [.text (some type)]) : GivesType type (.object members)
  | array {said : List Json} (hm : AtMostOneText said) :
      GivesType type (.array (.text (some type) :: said))

/-- The code is that of a fault that passes. -/
def HasPassingCode (f : Fault) : Prop := ∃ code ∈ passingCodes, f.code? = some code

/-- What the fault of an answer says of another try. The status has a say only without success, and
then it stands in for the code where the body gives no type. -/
structure Weighed (f : Fault) (a : Answer) : Prop where
  failed : ¬ (200 ≤ a.status ∧ a.status < 300) →
    (f.retriable ↔ a.status = 429 ∨ (500 ≤ a.status ∧ a.status < 600) ∨ HasPassingCode f)
  succeeded : 200 ≤ a.status ∧ a.status < 300 → (f.retriable ↔ HasPassingCode f)
  throttling : f.isThrottling → f.retriable
  typed : ¬ (200 ≤ a.status ∧ a.status < 300) →
    ∀ v type, parseBytes? a.body = some v → GivesType type v →
      ∃ code, EndsIn type code ∧ f.code? = some code
  untyped : ¬ (200 ≤ a.status ∧ a.status < 300) →
    (∀ v type, parseBytes? a.body = some v → ¬ GivesType type v) →
    (a.status = 404 → f.isNotFound) ∧ (a.status = 429 → f.isThrottling) ∧
      (a.status ≠ 404 → a.status ≠ 429 → f.code? = some (toString a.status))

variable {op : Operation} {a : Answer} {f : Fault} {v : Json} {type : String}
  {body : List UInt8} {why : String}

theorem errorBody?_of_givesType (h : GivesType type v) :
    ∃ said?, errorBody? v = some (some type, said?) := by
  cases h with
  | object hm ht => exact errorBody?_object hm ht
  | array hm =>
    obtain ⟨m, said?, rfl, hsaid⟩ := atMostOneText_iff.mp hm
    refine ⟨said?, errorBody?_eq_some_iff.mpr ⟨some (.text (some type)), m, ?_, rfl, hsaid⟩⟩
    exact (fields?_array rfl rfl).mpr ⟨rfl, nofun⟩

theorem givesType_of_errorBody? {said? : Option String}
    (h : errorBody? v = some (some type, said?)) : GivesType type v := by
  obtain ⟨t, m, hf, ht, hm⟩ := errorBody?_eq_some_iff.mp h
  obtain rfl : t = some (.text (some type)) := by
    cases t with
    | none => cases ht
    | some t => exact congrArg some ht
  cases v with
  | object members =>
    obtain ⟨_, hgiven, _⟩ := (fields?_object rfl rfl).mp hf
    exact .object (isErrorObject_of_errorBody? h) hgiven
  | array items =>
    obtain ⟨rfl, _⟩ := (fields?_array rfl rfl).mp hf
    exact .array (atMostOneText_iff.mpr ⟨m, said?, rfl, hm⟩)
  | _ => cases hf

theorem hasPassingCode_of_isThrottling (h : f.isThrottling) : HasPassingCode f := by
  rcases Bool.or_eq_true_iff.mp h with h | h
  · exact ⟨_, by decide, of_decide_eq_true h⟩
  · exact ⟨_, by decide, of_decide_eq_true h⟩

theorem code?_of_givesType (hv : parseBytes? a.body = some v) (ht : GivesType type v) :
    (faultOfAnswer op a).code? = some (behindHash type) := by
  obtain ⟨said?, he⟩ := errorBody?_of_givesType ht
  exact code?_faultOfAnswer (by rw [hv, Option.bind_some, he])

theorem code?_of_untyped (h : ∀ v type, parseBytes? a.body = some v → ¬ GivesType type v) :
    (faultOfAnswer op a).code? = some (codeOfStatus a.status) := by
  rw [code?_faultOfAnswer rfl]
  cases hb : (parseBytes? a.body).bind errorBody? with
  | none => rfl
  | some said =>
    rcases said with ⟨_ | type, said?⟩
    · rfl
    · obtain ⟨v, hv, he⟩ := Option.bind_eq_some_iff.mp hb
      exact absurd (givesType_of_errorBody? he) (h v type hv)

theorem retriable_faultOfAnswer : (faultOfAnswer op a).retriable ↔
    a.status = 429 ∨ (500 ≤ a.status ∧ a.status < 600) ∨ HasPassingCode (faultOfAnswer op a) := by
  have hcode : (faultOfAnswer op a).code? = some _ := code?_faultOfAnswer rfl
  rw [(classified_faultOfAnswer hcode).retriable, HasPassingCode]
  simp [hcode, passingCodes]

theorem retriable_faultOfEntries (op : Operation) (n : UInt32) (entries : List FailedEntry) :
    (faultOfEntries op n entries).retriable ↔ HasPassingCode (faultOfEntries op n entries) := by
  simp [faultOfEntries, HasPassingCode, Fault.code?]

theorem retriable_of_checkEntries (h : checkEntries op body why = .error f) :
    f.retriable ↔ HasPassingCode f := by
  unfold checkEntries at h
  split at h
  · cases h
  · split at h
    · cases h
      simp [HasPassingCode, Fault.code?]
    · split at h
      · cases h
      · cases h
        exact retriable_faultOfEntries ..

theorem checkEntries_of_succeeded (hs : 200 ≤ a.status ∧ a.status < 300)
    (h : outcomeOfAnswer op a why = .error f) : checkEntries op a.body why = .error f := by
  have hn : a.isSuccess = true := by simpa [Answer.isSuccess] using hs
  cases op with
  | putRule | deleteRule => simp [outcomeOfAnswer, hn] at h
  | putTargets | removeTargets => simpa [outcomeOfAnswer, hn] using h

theorem weighed_faultOfAnswer (hs : ¬ (200 ≤ a.status ∧ a.status < 300)) :
    Weighed (faultOfAnswer op a) a where
  failed _ := retriable_faultOfAnswer
  succeeded h := absurd h hs
  throttling h := retriable_faultOfAnswer.mpr (.inr (.inr (hasPassingCode_of_isThrottling h)))
  typed _ _ _ hv ht := ⟨_, endsIn_iff.mpr rfl, code?_of_givesType hv ht⟩
  untyped _ hu := by
    have hcode : (faultOfAnswer op a).code? = some (codeOfStatus a.status) := code?_of_untyped hu
    unfold codeOfStatus at hcode
    refine ⟨fun h => ?_, fun h => ?_, fun h h' => ?_⟩
    · rw [if_pos h] at hcode
      simp [Fault.isNotFound, hcode]
    · rw [if_neg (by omega), if_pos h] at hcode
      simp [Fault.isThrottling, hcode]
    · rw [hcode, if_neg h, if_neg h']

theorem weighed_of_checkEntries (hs : 200 ≤ a.status ∧ a.status < 300)
    (h : checkEntries op a.body why = .error f) : Weighed f a where
  failed hn := absurd hs hn
  succeeded _ := retriable_of_checkEntries h
  throttling ht := (retriable_of_checkEntries h).mpr (hasPassingCode_of_isThrottling ht)
  typed hn := absurd hs hn
  untyped hn := absurd hs hn

theorem weighed_of_outcomeOfAnswer (h : outcomeOfAnswer op a why = .error f) : Weighed f a := by
  by_cases hs : 200 ≤ a.status ∧ a.status < 300
  · exact weighed_of_checkEntries hs (checkEntries_of_succeeded hs h)
  · rw [outcomeOfAnswer_of_failed hs] at h
    obtain rfl := Except.error.inj h
    exact weighed_faultOfAnswer hs

/-- The fault of a call says by the status and the code of the answer whether another try may help:
without success some statuses alone say so, with success it is the code or nothing. What the
operation fails of is that fault, and says the same. -/
theorem retriable_of_answer {τ γ : Type} {c : Client} {credentials : Credentials}
    (hc : c.CanSend credentials) (transport : Transport τ) (generator : Generator γ)
    (config : Config) :
    (∀ call t a f, (transport (c.request credentials call) t).1 = .answered a →
      (c.service transport call t).1 = .error f → Weighed f a) ∧
    ∀ (j : Scheduler.Job) (w : World τ γ),
      ∀ x ∈ (j.script config).steps (c.service transport) generator w,
        ∀ f, (c.service transport x.call x.before).1 = .error f →
          ∃ e, ((j.script config).run (c.service transport) generator w).1.failure? = some e ∧
            e.operation? = some x.call.operation ∧ e.fault? = some f ∧
            e.isRetriable = f.retriable := by
  constructor
  · intro call t a f ha hf
    rw [service_of_canSend hc, ha] at hf
    exact weighed_of_outcomeOfAnswer hf
  · intro j w x hx f hf
    have hfollows : Scheduler.Follows (c.service transport) generator config j
        (j.script config) := Scheduler.follows_script j
    have hworks := hfollows w
    obtain ⟨events, hanswered⟩ := hworks.leads.answered x hx
    rw [hanswered] at hf
    exact ⟨_, hworks.failure?_eq hx hf, rfl, rfl, rfl⟩

/-- Too many calls, with nothing said of it in the body; the target is not taken off its rule. -/
theorem retriable_of_answer_tooMany :
    let transport : Transport Unit := fun _ t => (.answered ⟨429, [], []⟩, t)
    let generator : Generator Unit := fun g => (.ok "", g)
    let call : Call := .removeTarget ⟨"r"⟩ ⟨"t"⟩
    ∃ f, (loopback.service transport call ()).1 = .error f ∧ f.isThrottling ∧ f.retriable ∧
      ∃ e, (((Scheduler.Job.cleanup ⟨⟨"r"⟩, ⟨"t"⟩⟩).script {}).run (loopback.service transport)
        generator ⟨(), (), []⟩).1.failure? = some e ∧ e.isRetriable := by
  intro transport generator call
  obtain ⟨hanswer, hjob⟩ := retriable_of_answer canSend_loopback transport generator {}
  have hf : (loopback.service transport call ()).1 =
      .error (faultOfAnswer .removeTargets ⟨429, [], []⟩) := by
    rw [service_of_canSend canSend_loopback]
    rfl
  have hw := hanswer call () _ _ rfl hf
  have hempty : ∀ v type, parseBytes? [] = some v → ¬ GivesType type v := by
    intro v type hv
    rw [parseBytes?_nil] at hv
    cases hv
  have hthrottling := (hw.untyped (by decide) hempty).2.1 rfl
  have hretriable := hw.throttling hthrottling
  obtain ⟨e, he, _, _, hsame⟩ := hjob (.cleanup ⟨⟨"r"⟩, ⟨"t"⟩⟩) ⟨(), (), []⟩ ⟨(), call, _, _⟩
    List.mem_cons_self _ hf
  exact ⟨_, hf, hthrottling, hretriable, e, he, hsame.trans hretriable⟩

end Wakeup.Events
