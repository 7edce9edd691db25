import Wakeup.Proofs.Plan.Minutes
import Wakeup.Proofs.Plan.Waits

/-! A longer delay, less time left or more headroom never turns a plan to leave a delay to a rule
into one to wait, whatever the roundings on the way. -/
namespace Wakeup

namespace Binary64

variable {x : Binary64} {r : Rat}

theorem magnitude_nonneg (x : Binary64) : 0 ≤ x.magnitude := by
  unfold magnitude
  split <;> positivity

theorem positivePart?_nonneg (h : x.positivePart? = some r) : 0 ≤ r := by
  unfold positivePart? at h
  split at h
  · exact (Option.some.inj h).le
  · rw [Option.ite_none_right_eq_some] at h
    exact Option.some.inj h.2 ▸ x.magnitude_nonneg

end Binary64

namespace Plan

variable {seconds seconds' : Nat} {headroom headroom' : Binary64} {remaining remaining' : Duration}
  {delaySeconds delaySeconds' : Int64} {config config' : Config}

theorem requiredTime_mono (hs : seconds ≤ seconds')
    (hh : AtMost headroom.positivePart? headroom'.positivePart?) :
    requiredTime seconds headroom ≤ requiredTime seconds' headroom' := by
  apply Duration.getD_longest_mono
  refine .bind ?_ fun y _ y' _ hy => Duration.nearest?_mono hy
  refine .bind (Binary64.nearest?_mono (by exact_mod_cast hs)) fun x hx x' hx' hxx' => ?_
  refine .bind hh fun r hr r' _ hrr' => Binary64.nearest?_mono ?_
  exact mul_le_mul hxx' hrr' (Binary64.positivePart?_nonneg hr) (Binary64.nearest?_nonneg hx')

theorem isWait_choose_iff : (choose delaySeconds remaining config).isWait ↔
    Duration.ofSeconds (.ofNat delaySeconds.toInt.toNat) < config.localWaitThreshold ∧
      requiredTime delaySeconds.toInt.toNat config.headroom < remaining := by
  simp only [choose]
  split
  · next h => exact iff_of_true rfl h
  · next h => exact iff_of_false Bool.false_ne_true h

theorem delay_mono (h : delaySeconds ≤ delaySeconds') :
    Duration.ofSeconds (.ofNat delaySeconds.toInt.toNat) ≤
      Duration.ofSeconds (.ofNat delaySeconds'.toInt.toNat) := by
  have hle := Int64.le_iff_toInt_le.mp h
  have hd := nanos_ofSeconds delaySeconds
  have hd' := nanos_ofSeconds delaySeconds'
  change (Duration.ofSeconds _).nanos ≤ (Duration.ofSeconds _).nanos
  omega

/-- A plan to wait stays one when the delay is shorter, more time remains, or less headroom is asked
for; the headroom counts by what is above zero, and infinity is above all. Plans that leave the
delay to a rule keep the order of the delays. -/
theorem choose_mono (hd : delaySeconds ≤ delaySeconds') (hr : remaining' ≤ remaining)
    (hh : AtMost config.headroom.positivePart? config'.headroom.positivePart?)
    (hc : { config with headroom := config'.headroom } = config') :
    ((choose delaySeconds' remaining' config').isWait →
      (choose delaySeconds remaining config).isWait) ∧
    ∀ m m', choose delaySeconds remaining config = .remote m →
      choose delaySeconds' remaining' config' = .remote m' → m ≤ m' := by
  have hthreshold : config'.localWaitThreshold = config.localWaitThreshold := hc ▸ rfl
  have hleast : config'.leastRemoteMinutes = config.leastRemoteMinutes := hc ▸ rfl
  have hseconds : delaySeconds.toInt.toNat ≤ delaySeconds'.toInt.toNat :=
    Int.toNat_le_toNat (Int64.le_iff_toInt_le.mp hd)
  constructor
  · intro hwait
    rw [isWait_choose_iff] at hwait ⊢
    rw [hthreshold] at hwait
    obtain ⟨hshort, hrequired⟩ := hwait
    constructor
    · exact Nat.lt_of_le_of_lt (delay_mono hd) hshort
    · exact Nat.lt_of_le_of_lt (requiredTime_mono hseconds hh) (Nat.lt_of_lt_of_le hrequired hr)
  · intro m m' hm hm'
    have hminutes :
        wholeMinutes delaySeconds.toInt.toNat ≤ wholeMinutes delaySeconds'.toInt.toNat :=
      Nat.div_le_div_right (Nat.add_le_add_right hseconds 59)
    rw [Int64.le_iff_toInt_le, minutes_of_remote hm, minutes_of_remote hm', hleast]
    omega

/-- Asking for what is no number is asking for no headroom. -/
theorem choose_mono_notANumber :
    let config : Config := { headroom := ⟨0x7ff8000000000000⟩ }
    let config' : Config := {}
    ((choose 49 (.ofSeconds 59) config').isWait ∧ choose 61 (.ofSeconds 59) config = .remote 2 ∧
      choose 121 (.ofSeconds 59) config' = .remote 3) ∧
    (choose 15 (.ofSeconds 60) config').isWait ∧ (choose 15 (.ofSeconds 60) config).isWait ∧
    (2 : Int64) ≤ 3 := by
  intro config config'
  have hnone : config.headroom.positivePart? = some 0 := by decide +kernel
  have hh : AtMost config.headroom.positivePart? config'.headroom.positivePart? := fun r hr =>
    ⟨0, hnone, Binary64.positivePart?_nonneg hr⟩
  have hwait : (choose 49 (.ofSeconds 59) config').isWait := by decide +kernel
  have hremote : choose 61 (.ofSeconds 59) config = .remote 2 := by decide +kernel
  have hremote' : choose 121 (.ofSeconds 59) config' = .remote 3 := by decide +kernel
  have hsooner : (choose 15 (.ofSeconds 60) config').isWait :=
    (choose_mono (by decide) (by decide) (.refl _) rfl).1 hwait
  refine ⟨⟨hwait, hremote, hremote'⟩, hsooner, ?_, ?_⟩
  · exact (choose_mono (by decide) (by decide) hh rfl).1 hsooner
  · exact (choose_mono (by decide) (by decide) hh rfl).2 2 3 hremote hremote'

end Plan
end Wakeup
