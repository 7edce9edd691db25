import Wakeup.Proofs.Events.Requests
import Wakeup.Proofs.Json.Decode

/-! Answers without success: the code of the fault is in the type that the body gives if the body
is an error object, and goes by the status if it is not. -/
namespace Wakeup.Events

open Json Text.Utf8

/-- The code is behind the last `#` of the type, or all of it. -/
def EndsIn (type code : String) : Prop :=
  '#' ∉ code.toList ∧ (type = code ∨ ∃ scope, type = scope ++ "#" ++ code)

/-- The ways to give no message or one: null, or a string that is Unicode text. -/
inductive AtMostOneText : List Json → Prop where
  | absent : AtMostOneText []
  | null : AtMostOneText [.null]
  | text (m : String) : AtMostOneText [.text (some m)]

/-- But for their type, the members are those of an error object. A message goes by two names. -/
def IsErrorObject (members : List (Option String × Json)) : Prop :=
  Named members ∧ AtMostOneText (given ["message", "Message"] members)

/-- What no error object has beside its type: a name that is no text, a message that is neither null
nor text, or one name for two messages. -/
inductive Spoiled (members : List (Option String × Json)) : Prop where
  | unnamed (hn : ¬ Named members)
  | message {v : Json} (hv : v ∈ given ["message", "Message"] members) (hnull : v ≠ .null)
      (htext : ∀ m, v ≠ .text (some m))
  | repeated {name : String} (hn : name ∈ ["message", "Message"])
      (htwo : 2 ≤ (given [name] members).length)

/-- The fault has the code, and is of the kinds that the code and the status call for. -/
structure Classified (f : Fault) (status : Nat) (code : String) : Prop where
  hasCode : f.code? = some code
  retriable : f.retriable ↔ status = 429 ∨ (500 ≤ status ∧ status < 600) ∨
    code ∈ ["ThrottlingException", "TooManyRequestsException", "ConcurrentModificationException",
      "InternalException", "ServiceUnavailableException"]
  throttling : f.isThrottling ↔ code ∈ ["ThrottlingException", "TooManyRequestsException"]
  notFound : f.isNotFound ↔ code = "ResourceNotFoundException"

variable {op : Operation} {a : Answer} {members : List (Option String × Json)} {v : Json}
  {type code why : String} {type? said? : Option String} {l : List Json}

theorem takeWhile_reverse_append (h : '#' ∉ code.toList) (s : List Char) :
    (code.toList.reverse ++ s).takeWhile (· ≠ '#') =
      code.toList.reverse ++ s.takeWhile (· ≠ '#') := by
  refine List.takeWhile_append_of_pos fun c hc => ?_
  simpa using ne_of_mem_of_not_mem (List.mem_reverse.mp hc) h

theorem behindHash_of_not_mem (h : '#' ∉ code.toList) : behindHash code = code := by
  have hall := takeWhile_reverse_append h []
  rw [List.takeWhile_nil, List.append_nil] at hall
  rw [behindHash, hall, List.reverse_reverse, String.ofList_toList]

theorem behindHash_append (h : '#' ∉ code.toList) (scope : String) :
    behindHash (scope ++ "#" ++ code) = code := by
  have hrev : (scope ++ "#" ++ code).toList.reverse =
      code.toList.reverse ++ '#' :: scope.toList.reverse := by simp
  rw [behindHash, hrev, takeWhile_reverse_append h]
  simp

theorem endsIn_iff : EndsIn type code ↔ behindHash type = code := by
  constructor
  · rintro ⟨hn, rfl | ⟨scope, rfl⟩⟩
    · exact behindHash_of_not_mem hn
    · exact behindHash_append hn scope
  · rintro rfl
    by_cases h : '#' ∈ type.toList
    · obtain ⟨front, back, hs, hn⟩ := List.eq_append_cons_of_mem (List.mem_reverse.mpr h)
      have htype : type = String.ofList back.reverse ++ "#" ++ String.ofList front.reverse := by
        rw [← String.toList_inj, ← List.reverse_inj, hs]
        simp
      have hn' : '#' ∉ (String.ofList front.reverse).toList := by simpa using hn
      rw [htype, behindHash_append hn']
      exact ⟨hn', .inr ⟨_, rfl⟩⟩
    · rw [behindHash_of_not_mem h]
      exact ⟨h, .inl rfl⟩

theorem errorBody?_eq_some_iff : errorBody? v = some (type?, said?) ↔
    ∃ t m, v.fields? false [{ names := ["__type"], presence := .defaulted },
        { names := ["message", "Message"], presence := .defaulted }] = some [t, m] ∧
      t.getD .null = .ofOption .ofString type? ∧ m.getD .null = .ofOption .ofString said? := by
  refine bind_fields?_eq_some_iff.trans (exists₂_congr fun t m => and_congr_right' ?_)
  simp [Option.bind_eq_some_iff, toOption?_toText?_eq_some_iff]

theorem atMostOneText_iff : AtMostOneText l ↔
    ∃ (m : Option Json) (said? : Option String), l = m.toList ∧
      m.getD .null = .ofOption .ofString said? := by
  constructor
  · intro h
    cases h with
    | absent => exact ⟨none, none, rfl, rfl⟩
    | null => exact ⟨some .null, none, rfl, rfl⟩
    | text m => exact ⟨some (.text (some m)), some m, rfl, rfl⟩
  · rintro ⟨_ | m, said?, rfl, hm⟩
    · exact .absent
    · obtain rfl : m = .ofOption .ofString said? := hm
      cases said? with
      | none => exact .null
      | some s => exact .text s

theorem AtMostOneText.length_le (h : AtMostOneText l) : l.length ≤ 1 := by
  cases h <;> simp

theorem AtMostOneText.eq_of_mem (h : AtMostOneText l) (hv : v ∈ l) :
    v = .null ∨ ∃ m, v = .text (some m) := by
  cases h with
  | absent => cases hv
  | null => exact .inl (List.mem_singleton.mp hv)
  | text m => exact .inr ⟨m, List.mem_singleton.mp hv⟩

theorem Spoiled.not_isErrorObject (h : Spoiled members) : ¬ IsErrorObject members := by
  rintro ⟨hnamed, hone⟩
  cases h with
  | unnamed hn => exact hn hnamed
  | message hv hnull htext =>
    rcases hone.eq_of_mem hv with rfl | ⟨m, rfl⟩
    · exact hnull rfl
    · exact htext m rfl
  | @repeated name hn htwo =>
    have hle : (given [name] members).length ≤ (given ["message", "Message"] members).length :=
      length_given_le (List.cons_subset.mpr ⟨hn, List.nil_subset _⟩)
    have hlength := hone.length_le
    omega

theorem errorBody?_object (hm : IsErrorObject members)
    (ht : given ["__type"] members = [.text (some type)]) :
    ∃ said?, errorBody? (.object members) = some (some type, said?) := by
  obtain ⟨hn, hm⟩ := hm
  obtain ⟨m, said?, hgm, hm⟩ := atMostOneText_iff.mp hm
  refine ⟨said?, errorBody?_eq_some_iff.mpr ⟨some (.text (some type)), m, ?_, rfl, hm⟩⟩
  exact (fields?_object rfl rfl).mpr ⟨hn, ht, hgm⟩

theorem isErrorObject_of_errorBody? (h : errorBody? (.object members) = some (type?, said?)) :
    IsErrorObject members := by
  obtain ⟨t, m, hf, _, hm⟩ := errorBody?_eq_some_iff.mp h
  obtain ⟨hn, _, hgm⟩ := (fields?_object rfl rfl).mp hf
  exact ⟨hn, atMostOneText_iff.mpr ⟨m, said?, hgm, hm⟩⟩

theorem errorBody?_object_eq_none (h : ¬ IsErrorObject members) :
    errorBody? (.object members) = none := by
  rw [Option.eq_none_iff_forall_ne_some]
  rintro ⟨type?, said?⟩ hs
  exact h (isErrorObject_of_errorBody? hs)

theorem code?_faultOfAnswer {b : Option (Option String × Option String)}
    (hb : (parseBytes? a.body).bind errorBody? = b) : (faultOfAnswer op a).code? =
      some (((b.bind Prod.fst).map behindHash).getD (codeOfStatus a.status)) := by
  unfold faultOfAnswer
  rw [hb]
  rcases b with _ | ⟨type?, said?⟩ <;> rfl

theorem classified_faultOfAnswer (h : (faultOfAnswer op a).code? = some code) :
    Classified (faultOfAnswer op a) a.status code where
  hasCode := h
  retriable := by
    have hcode : ((faultOfAnswer op a).diagnosis.map (·.code)) = some code := h
    unfold faultOfAnswer at hcode ⊢
    simp only [Option.map_some, Option.some.injEq] at hcode
    simp [hcode, passingCodes, or_assoc]
  throttling := by simp [Fault.isThrottling, h]
  notFound := by simp [Fault.isNotFound, h]

example : faultOfAnswer .removeTargets ⟨400, [("x-amzn-requestid", bytes "req-1")],
    bytes ("\x7b\"__type\":\"ResourceNotFoundException\"," ++
      "\"message\":\"Rule r does not exist.\"\x7d")⟩ =
    ⟨"RemoveTargets returned 400: Rule r does not exist.", false,
      some ⟨"ResourceNotFoundException", "Rule r does not exist.", some "req-1"⟩⟩ := by
  decide +kernel

example : faultOfAnswer .deleteRule ⟨404, [("x-amzn-requestid", [0xe9])], bytes "not json"⟩ =
    ⟨"DeleteRule returned 404: not json", false,
      some ⟨"ResourceNotFoundException", "not json", none⟩⟩ := by
  decide +kernel

theorem code?_of_isErrorObject (hb : parseBytes? a.body = some (.object members))
    (ht : given ["__type"] members = [.text (some type)]) (hm : IsErrorObject members) :
    (faultOfAnswer op a).code? = some (behindHash type) := by
  obtain ⟨said?, he⟩ := errorBody?_object hm ht
  exact code?_faultOfAnswer (by rw [hb, Option.bind_some, he])

theorem code?_of_not_isErrorObject (hb : parseBytes? a.body = some (.object members))
    (hm : ¬ IsErrorObject members) :
    (faultOfAnswer op a).code? = some (codeOfStatus a.status) :=
  code?_faultOfAnswer (by rw [hb, Option.bind_some, errorBody?_object_eq_none hm])

theorem outcomeOfAnswer_of_failed (h : ¬ (200 ≤ a.status ∧ a.status < 300)) :
    outcomeOfAnswer op a why = .error (faultOfAnswer op a) := by
  have hn : a.isSuccess = false := by simpa [Answer.isSuccess] using h
  simp [outcomeOfAnswer, hn]

/-- An answer without success whose body gives one type is a fault with the code that the type ends
in, if the other members are those of an error object. Where they spoil it, the body says nothing,
and the code is the one for the status. In each case the fault is of the kinds that its code and the
status call for. -/
theorem code_of_type (op : Operation) (why : String) {a : Answer}
    {members : List (Option String × Json)} {type : String}
    (hs : ¬ (200 ≤ a.status ∧ a.status < 300))
    (hb : parseBytes? a.body = some (.object members))
    (ht : given ["__type"] members = [.text (some type)]) :
    ∃ f code, outcomeOfAnswer op a why = .error f ∧ Classified f a.status code ∧
      (IsErrorObject members → EndsIn type code) ∧
      (Spoiled members → code = codeOfStatus a.status) := by
  refine ⟨faultOfAnswer op a, ?_⟩
  by_cases hm : IsErrorObject members
  · refine ⟨behindHash type, outcomeOfAnswer_of_failed hs, ?_, ?_, ?_⟩
    · exact classified_faultOfAnswer (code?_of_isErrorObject hb ht hm)
    · exact fun _ => endsIn_iff.mpr rfl
    · exact fun h => absurd hm h.not_isErrorObject
  · refine ⟨codeOfStatus a.status, outcomeOfAnswer_of_failed hs, ?_, ?_, ?_⟩
    · exact classified_faultOfAnswer (code?_of_not_isErrorObject hb hm)
    · exact fun h => absurd h hm
    · exact fun _ => rfl

/-- The type names a scope, and the message is given by its other name. -/
theorem code_of_type_scoped :
    let a : Answer := ⟨400, [("x-amzn-requestid", bytes "id")], bytes ("\x7b\"Message\":\"\"," ++
      "\"__type\":\"com.amazonaws.events#ConcurrentModificationException\"\x7d")⟩
    ∃ f, outcomeOfAnswer .putRule a "" = .error f ∧
      f.code? = some "ConcurrentModificationException" ∧ f.retriable := by
  intro a
  have hparse : parseBytes? a.body = some (.object [(some "Message", .text (some "")),
      (some "__type", .text (some "com.amazonaws.events#ConcurrentModificationException"))]) := by
    rw [parseBytes?_bytes]
    with_unfolding_all rfl
  obtain ⟨f, code, hf, hc, hends, _⟩ :=
    code_of_type .putRule "" (by decide : ¬ (200 ≤ a.status ∧ a.status < 300)) hparse rfl
  have hcode : "ConcurrentModificationException" = code := by
    rw [← endsIn_iff.mp (hends ⟨by simp [Named], .text ""⟩)]
    decide
  subst hcode
  exact ⟨f, hf, hc.hasCode, hc.retriable.mpr (by simp)⟩

/-- The type tells of a fault that passes, and there are more members. -/
def answerWith (more : String) : Answer :=
  ⟨400, [], bytes ("\x7b\"__type\":\"ConcurrentModificationException\"," ++ more ++ "\x7d")⟩

/-- Beside these members the type is not heard: the fault is taken for one that stays. -/
def Unheard (more : String) : Prop :=
  (∃ members, parseBytes? (answerWith more).body = some (.object members) ∧
    given ["__type"] members = [.text (some "ConcurrentModificationException")]) ∧
  ∃ f, (∀ why, outcomeOfAnswer .putRule (answerWith more) why = .error f) ∧
    f.code? = some "400" ∧ f.retriable = false

theorem unheard_of_spoiled {more : String}
    (hp : parse? ("\x7b\"__type\":\"ConcurrentModificationException\"," ++ more ++ "\x7d") =
      some (.object members))
    (ht : given ["__type"] members = [.text (some "ConcurrentModificationException")])
    (hm : Spoiled members) : Unheard more := by
  have hb : parseBytes? (answerWith more).body = some (.object members) := by
    rw [answerWith, parseBytes?_bytes, hp]
  have hstatus : codeOfStatus 400 = "400" := by decide
  have hcode : (faultOfAnswer .putRule (answerWith more)).code? = some "400" := by
    rw [code?_of_not_isErrorObject hb hm.not_isErrorObject]
    exact congrArg some hstatus
  refine ⟨⟨members, hb, ht⟩, _, fun _ => rfl, hcode, ?_⟩
  rw [← Bool.not_eq_true, (classified_faultOfAnswer hcode).retriable]
  simp [answerWith]

/-- A message that is a number, a message and a name that are half a surrogate pair. -/
theorem unheard_beside_message :
    EndsIn "ConcurrentModificationException" "ConcurrentModificationException" ∧
      Unheard "\"message\":5" ∧ Unheard "\"message\":\"\\ud800\"" ∧
      Unheard "\"\\ud800\":null" := by
  refine ⟨endsIn_iff.mpr (by decide), ?_, ?_, ?_⟩
  · refine unheard_of_spoiled (by with_unfolding_all rfl) rfl
      (.message (v := .ofInt 5) (.head _) ?_ ?_)
    · rintro ⟨⟩
    · rintro m ⟨⟩
  · refine unheard_of_spoiled (by with_unfolding_all rfl) rfl
      (.message (v := .text none) (.head _) ?_ ?_)
    · rintro ⟨⟩
    · rintro m ⟨⟩
  · exact unheard_of_spoiled (by with_unfolding_all rfl) rfl
      (.unnamed fun h => h _ (.tail _ (.head _)) rfl)

end Wakeup.Events
