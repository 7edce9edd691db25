import Wakeup.Proofs.Events.Requests
import Wakeup.Proofs.Json.Decode

/-! Answers to calls on targets: few bodies say that nothing failed, and all others are failures. -/
namespace Wakeup.Events

open Json Text.Utf8

/-- The ways to say that nothing failed. -/
inductive NoneFailed : Json → Prop where
  | object {members : List (Option String × Json)} (hn : Named members)
      (hc : given ["FailedEntryCount"] members = [] ∨
        given ["FailedEntryCount"] members = [.ofInt 0])
      (he : given ["FailedEntries"] members = [] ∨
        given ["FailedEntries"] members = [.array []]) : NoneFailed (.object members)
  | empty : NoneFailed (.array [])
  | count : NoneFailed (.array [.ofInt 0])
  | both : NoneFailed (.array [.ofInt 0, .array []])

variable {v : Json} {n : UInt32} {entries : List FailedEntry} {a : Answer} {op : Operation}
  {why : String}

theorem failedEntries?_eq_some_iff : failedEntries? v = some (n, entries) ↔
    ∃ c e, v.fields? false [{ names := ["FailedEntryCount"], presence := .defaulted },
        { names := ["FailedEntries"], presence := .defaulted }] = some [c, e] ∧
      c.elim (some 0) Json.toUInt32? = some n ∧
      e.elim (some []) (·.toList? FailedEntry.ofJson?) = some entries := by
  refine bind_fields?_eq_some_iff.trans (exists₂_congr fun c e => and_congr_right' ?_)
  simp [Option.bind_eq_some_iff]

theorem elim_eq_zero_iff {c : Option Json} : c.elim (some 0) Json.toUInt32? = some 0 ↔
    c.toList = [] ∨ c.toList = [.ofInt 0] := by
  cases c <;> simp [toUInt32?_eq_zero_iff]

theorem elim_eq_nil_iff {e : Option Json} :
    e.elim (some []) (·.toList? FailedEntry.ofJson?) = some [] ↔
      e.toList = [] ∨ e.toList = [.array []] := by
  cases e <;> simp [toList?_eq_nil_iff]

theorem exists_toList_eq {l : List Json} {x : Json} (h : l = [] ∨ l = [x]) :
    ∃ c : Option Json, l = c.toList ∧ (c.toList = [] ∨ c.toList = [x]) := by
  rcases h with rfl | rfl
  · exact ⟨none, rfl, .inl rfl⟩
  · exact ⟨some x, rfl, .inr rfl⟩

theorem failedEntries?_eq_zero_iff : failedEntries? v = some (0, []) ↔ NoneFailed v := by
  rw [failedEntries?_eq_some_iff]
  simp only [elim_eq_zero_iff, elim_eq_nil_iff]
  constructor
  · rintro ⟨c, e, hf, hc, he⟩
    cases v with
    | object members =>
      obtain ⟨hn, hgc, hge⟩ := (fields?_object rfl rfl).mp hf
      rw [← hgc] at hc
      rw [← hge] at he
      exact .object hn hc he
    | array items =>
      obtain ⟨rfl, hce⟩ := (fields?_array rfl rfl).mp hf
      rcases hc with hc | hc
      · obtain rfl := Option.toList_eq_nil_iff.mp hc
        obtain rfl := hce rfl
        exact .empty
      · rw [hc]
        rcases he with he | he
        · rw [he]
          exact .count
        · rw [he]
          exact .both
    | _ => cases hf
  · intro h
    cases h with
    | object hn hc he =>
      obtain ⟨c, hgc, hc⟩ := exists_toList_eq hc
      obtain ⟨e, hge, he⟩ := exists_toList_eq he
      exact ⟨c, e, (fields?_object rfl rfl).mpr ⟨hn, hgc, hge⟩, hc, he⟩
    | empty => exact ⟨none, none, rfl, .inl rfl, .inl rfl⟩
    | count => exact ⟨some (.ofInt 0), none, rfl, .inr rfl, .inl rfl⟩
    | both => exact ⟨some (.ofInt 0), some (.array []), rfl, .inr rfl, .inr rfl⟩

theorem checkEntries_eq_ok_iff {body : List UInt8} : checkEntries op body why = .ok () ↔
    body = [] ∨ ∃ v, parseBytes? body = some v ∧ NoneFailed v := by
  simp only [← failedEntries?_eq_zero_iff, ← Option.bind_eq_some_iff]
  unfold checkEntries
  split
  · next h => simp [h]
  · next h =>
    split
    · next hb => simp [h, hb]
    · next n entries hb =>
      split
      · next hz =>
        obtain ⟨rfl, rfl⟩ := hz
        simp [hb]
      · next hz =>
        simpa [h, hb] using hz

/-- The body is read as an account of what failed. -/
def IsAccount (body : List UInt8) : Prop :=
  ∃ v n entries, parseBytes? body = some v ∧ failedEntries? v = some (n, entries)

/-- A body that is no account fails the call for good, and no code says why. -/
theorem checkEntries_of_not_isAccount {body : List UInt8} (h : body ≠ []) (ha : ¬ IsAccount body) :
    ∃ f, checkEntries op body why = .error f ∧ f.retriable = false ∧ f.code? = none := by
  have hnone : (parseBytes? body).bind failedEntries? = none := by
    rw [Option.eq_none_iff_forall_ne_some]
    rintro ⟨n, entries⟩ hs
    obtain ⟨v, hv, hs⟩ := Option.bind_eq_some_iff.mp hs
    exact ha ⟨v, n, entries, hv, hs⟩
  unfold checkEntries
  rw [if_neg h, hnone]
  exact ⟨_, rfl, rfl, rfl⟩

theorem outcome_of_targets (hop : op = .putTargets ∨ op = .removeTargets) :
    outcomeOfAnswer op a why =
      if 200 ≤ a.status ∧ a.status < 300 then checkEntries op a.body why
      else .error (faultOfAnswer op a) := by
  by_cases hs : 200 ≤ a.status ∧ a.status < 300
  · rcases hop with rfl | rfl <;> simp [outcomeOfAnswer, Answer.isSuccess, hs]
  · rcases hop with rfl | rfl <;> simp [outcomeOfAnswer, Answer.isSuccess, hs]

example : outcomeOfAnswer .removeTargets ⟨200, [], bytes
    ("\x7b\"FailedEntryCount\":1,\"FailedEntries\":[\x7b\"TargetId\":\"t\"," ++
      "\"ErrorCode\":\"ConcurrentModificationException\",\"ErrorMessage\":\"busy\"\x7d]\x7d")⟩ "" =
    .error ⟨"RemoveTargets failed for 1 entry (targetId=t): busy", true,
      some ⟨"ConcurrentModificationException", "busy", none⟩⟩ := by
  decide +kernel

example : outcomeOfAnswer .putTargets ⟨200, [], bytes "\x7boops"⟩ "no key" =
    .error ⟨"Failed to deserialize PutTargets response: no key", false, none⟩ := by
  decide +kernel

/-- A call on a target succeeds exactly if the answer is a success whose body is empty or says in
one of its ways that nothing failed. So it fails if anything else is said of failed entries; and a
body that cannot be read fails it for good, with no code. -/
theorem ok_iff_noneFailed {τ : Type} (transport : Transport τ) (t : τ) (call : Call) {c : Client}
    {credentials : Credentials} (hc : c.CanSend credentials)
    (hop : call.operation = .putTargets ∨ call.operation = .removeTargets)
    (ha : (transport (c.request credentials call) t).1 = .answered a) :
    let outcome := (c.service transport call t).1
    (outcome = .ok () ↔ (200 ≤ a.status ∧ a.status < 300) ∧
      (a.body = [] ∨ ∃ v, parseBytes? a.body = some v ∧ NoneFailed v)) ∧
    (∀ members, parseBytes? a.body = some (.object members) →
      ((∃ v ∈ given ["FailedEntryCount"] members, v ≠ .ofInt 0) ∨
        ∃ v ∈ given ["FailedEntries"] members, v ≠ .array []) → outcome ≠ .ok ()) ∧
    (200 ≤ a.status ∧ a.status < 300 → a.body ≠ [] → ¬ IsAccount a.body →
      ∃ f, outcome = .error f ∧ f.retriable = false ∧ f.code? = none) := by
  intro outcome
  have houtcome : outcome = if 200 ≤ a.status ∧ a.status < 300 then
      checkEntries call.operation a.body (c.reasons.unreadable a.body)
      else .error (faultOfAnswer call.operation a) := by
    simp only [outcome, service_of_canSend hc, ha, Delivery.outcome, outcome_of_targets hop]
  have hiff : outcome = .ok () ↔ (200 ≤ a.status ∧ a.status < 300) ∧
      (a.body = [] ∨ ∃ v, parseBytes? a.body = some v ∧ NoneFailed v) := by
    rw [houtcome, ← @checkEntries_eq_ok_iff call.operation (c.reasons.unreadable a.body)]
    split <;> simp_all
  refine ⟨hiff, fun members hm hfailed hok => ?_, fun hs hb hn => ?_⟩
  · obtain ⟨_, hempty | ⟨v, hv, hnone⟩⟩ := hiff.mp hok
    · rw [hempty, parseBytes?_nil] at hm
      cases hm
    · obtain rfl := Option.some.inj (hm.symm.trans hv)
      cases hnone with
      | object _ hcount hentries =>
        rcases hfailed with ⟨v, hv, hne⟩ | ⟨v, hv, hne⟩
        · rcases hcount with h | h <;> simp_all
        · rcases hentries with h | h <;> simp_all
  · rw [houtcome, if_pos hs]
    exact checkEntries_of_not_isAccount hb hn

/-- A success that tells of a count of none and, by an escaped name, of no entries. -/
theorem ok_iff_noneFailed_escaped :
    let call : Call := .removeTarget ⟨"r"⟩ ⟨"t"⟩
    let a : Answer := ⟨200, [("x-amzn-requestid", bytes "id")], bytes
      "\x7b\"FailedEntryCount\":0,\"more\":null,\"Failed\\u0045ntries\":[]\x7d"⟩
    let transport : Transport Unit := fun _ t => (.answered a, t)
    loopback.CanSend ⟨"key", none⟩ ∧ call.operation = .removeTargets ∧
      (transport (loopback.request ⟨"key", none⟩ call) ()).1 = .answered a ∧
      (loopback.service transport call ()).1 = .ok () := by
  intro call a transport
  have hparse : parseBytes? a.body = some (.object [(some "FailedEntryCount", .ofInt 0),
      (some "more", .null), (some "FailedEntries", .array [])]) := by
    rw [parseBytes?_bytes]
    with_unfolding_all rfl
  obtain ⟨hiff, _, _⟩ :=
    ok_iff_noneFailed transport () call canSend_loopback (.inr rfl) rfl
  refine ⟨canSend_loopback, rfl, rfl, hiff.mpr ⟨by decide, .inr ⟨_, hparse, ?_⟩⟩⟩
  exact .object (by simp [Named]) (.inr rfl) (.inr rfl)

end Wakeup.Events
