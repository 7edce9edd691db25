import Wakeup.Plan
import Wakeup.Proofs.Number.Binary64
import Wakeup.Proofs.Plan.Durations

/-! A delay that is waited out on the spot is over before the time that remains, rounded as it may
be, if the headroom is at least one. -/
namespace Wakeup

/-- A number that is at least one, or infinity. -/
def Binary64.AtLeastOne (x : Binary64) : Prop :=
  ¬ x.isNaN ∧ ¬ x.negative ∧ (x.isFinite → 1 ≤ x.magnitude)

theorem Binary64.AtLeastOne.one_le {x : Binary64} (h : x.AtLeastOne) {r : Rat}
    (hr : x.positivePart? = some r) : 1 ≤ r := by
  obtain ⟨hnan, hnegative, hone⟩ := h
  rw [positivePart?, if_neg (not_or.mpr ⟨hnan, hnegative⟩), Option.ite_none_right_eq_some] at hr
  obtain ⟨hfinite, heq⟩ := hr
  exact Option.some.inj heq ▸ hone hfinite

namespace Plan

variable {seconds : Nat} {headroom : Binary64} {remaining : Duration}

/-- Less than what remains is not the longest time there is. -/
theorem eq_some_of_getD_lt {o : Option Duration} (h : o.getD .longest < remaining) :
    o = some (o.getD .longest) := by
  cases o with
  | none => exact absurd remaining.le_longest (Nat.not_le.mpr h)
  | some d => rfl

/-- Where the required time is less than what remains, it comes from a product of finite numbers. -/
theorem exists_product (h : requiredTime seconds headroom < remaining) : ∃ x r y,
    Binary64.nearest? seconds = some x ∧ headroom.positivePart? = some r ∧
      Binary64.nearest? (x * r) = some y ∧
      Duration.nearest? y = some (requiredTime seconds headroom) := by
  obtain ⟨y, hproduct, hd⟩ := Option.bind_eq_some_iff.mp (eq_some_of_getD_lt h)
  obtain ⟨x, hx, hproduct⟩ := Option.bind_eq_some_iff.mp hproduct
  obtain ⟨r, hr, hy⟩ := Option.bind_eq_some_iff.mp hproduct
  exact ⟨x, r, y, hx, hr, hy, hd⟩

theorem exists_lt_remaining (hone : headroom.AtLeastOne)
    (h : requiredTime seconds headroom < remaining) :
    ∃ k : Nat, Binary64.nearest? seconds = some (k : Rat) ∧ k * 1000000000 < remaining.nanos := by
  obtain ⟨x, r, y, hx, hr, hy, hd⟩ := exists_product h
  obtain ⟨k, rfl⟩ := Binary64.exists_natCast_of_nearest? hx
  have hle : (k : Rat) ≤ k * r := le_mul_of_one_le_right (Nat.cast_nonneg k) (hone.one_le hr)
  have hproduct : (k : Rat) ≤ y := Binary64.le_nearest? (Binary64.kept_of_nearest? hx) hle hy
  exact ⟨k, hx, (Duration.le_of_nearest? hproduct hd).trans_lt h⟩

theorem choose_eq_wait {delaySeconds : Int64} {config : Config} {d : Duration}
    (h : choose delaySeconds remaining config = .wait d) :
    d = .ofSeconds (.ofNat delaySeconds.toInt.toNat) ∧ d < config.localWaitThreshold ∧
      requiredTime delaySeconds.toInt.toNat config.headroom < remaining := by
  unfold choose at h
  simp only at h
  split at h
  · next hwait =>
    obtain rfl := Plan.wait.inj h
    exact ⟨rfl, hwait⟩
  · cases h

/-- A wait is as long as the delay, if that is not below zero. It is shorter than the threshold and
over in time: the delay as binary floating point has it is less than the time that remains, and up
to `2 ^ 53` seconds that is the delay itself. -/
theorem wait_fits {delaySeconds : Int64} {config : Config} {d : Duration}
    (hone : config.headroom.AtLeastOne) (h : choose delaySeconds remaining config = .wait d) :
    ∃ (seconds : Nat) (near : Rat), (seconds : Int) = max delaySeconds.toInt 0 ∧
      d.nanos = seconds * 1000000000 ∧ d < config.localWaitThreshold ∧
      Binary64.nearest? seconds = some near ∧ near * 1000000000 < remaining.nanos ∧
      (seconds ≤ 2 ^ 53 → d < remaining) := by
  obtain ⟨rfl, hthreshold, hremaining⟩ := choose_eq_wait h
  obtain ⟨k, hnear, hlt⟩ := exists_lt_remaining hone hremaining
  have hword : delaySeconds.toInt.toNat < 18446744073709551616 := by
    have := delaySeconds.toInt_lt
    omega
  have hnanos := Duration.nanos_ofSeconds hword
  refine ⟨delaySeconds.toInt.toNat, k, Int.ofNat_toNat _, hnanos, hthreshold, hnear,
    by exact_mod_cast hlt, fun hsmall => ?_⟩
  have heq : k = delaySeconds.toInt.toNat := by
    exact_mod_cast Binary64.eq_of_nearest?_natCast hsmall hnear
  change (Duration.ofSeconds _).nanos < remaining.nanos
  rw [hnanos, ← heq]
  exact hlt

/-- Past `2 ^ 53` seconds a wait may be longer than what remains, but by less than rounding takes
off. -/
theorem wait_fits_past_53_bits :
    let config : Config := { localWaitThreshold := .longest, headroom := ⟨0x3ff0000000000000⟩ }
    let remaining : Duration := ⟨9007199254740992000000001, by decide⟩
    let d : Duration := .ofSeconds 9007199254740993
    (config.headroom.AtLeastOne ∧ choose 9007199254740993 remaining config = .wait d) ∧
      remaining < d ∧ ∃ (seconds : Nat) (near : Rat),
        (seconds : Int) = max (9007199254740993 : Int64).toInt 0 ∧
        d.nanos = seconds * 1000000000 ∧ d < config.localWaitThreshold ∧
        Binary64.nearest? seconds = some near ∧ near * 1000000000 < remaining.nanos ∧
        (seconds ≤ 2 ^ 53 → d < remaining) := by
  intro config remaining d
  have hone : config.headroom.AtLeastOne := ⟨by decide, by decide, fun _ => by decide +kernel⟩
  have hwait : choose 9007199254740993 remaining config = .wait d := by decide +kernel
  exact ⟨⟨hone, hwait⟩, by decide, wait_fits hone hwait⟩

end Plan
end Wakeup
