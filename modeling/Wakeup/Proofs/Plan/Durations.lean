import Wakeup.Duration
import Wakeup.Proofs.Number.Nearest

/-! Lengths of time made of seconds, of seconds and nanoseconds, and of rounded seconds. -/
namespace Wakeup.Duration

theorem ofNanos?_nanos (d : Duration) : ofNanos? d.nanos = some d := dif_pos d.nanos_lt

theorem seconds_lt (d : Duration) : d.seconds < 18446744073709551616 := by
  have hlt := d.nanos_lt
  unfold seconds
  omega

theorem subsecond_lt (d : Duration) : d.subsecond < 4294967296 := by
  unfold subsecond
  omega

theorem ofParts?_seconds_subsecond (d : Duration) :
    ofParts? (.ofNat d.seconds) (.ofNat d.subsecond) = some d := by
  have hsum : d.seconds * 1000000000 + d.subsecond = d.nanos := by
    unfold seconds subsecond
    omega
  rw [ofParts?, UInt64.toNat_ofNat_of_lt' d.seconds_lt, UInt32.toNat_ofNat_of_lt' d.subsecond_lt,
    hsum, ofNanos?_nanos]

theorem le_longest (d : Duration) : d ≤ longest := Nat.le_of_lt_succ d.nanos_lt

theorem nanos_ofSeconds {n : Nat} (h : n < 18446744073709551616) :
    (ofSeconds (.ofNat n)).nanos = n * 1000000000 :=
  congrArg (· * 1000000000) (UInt64.toNat_ofNat_of_lt' h)

theorem nanos_of_nearest? {y : Rat} {d : Duration} (h : nearest? y = some d) :
    d.nanos = (roundHalfEven (y * 1000000000)).toNat := by
  unfold nearest? ofNanos? at h
  split at h
  · obtain rfl := Option.some.inj h
    rfl
  · cases h

/-- A number of seconds is not rounded to less than a whole number that it reaches. -/
theorem le_of_nearest? {y : Rat} {d : Duration} {k : Nat} (hk : (k : Rat) ≤ y)
    (h : nearest? y = some d) : k * 1000000000 ≤ d.nanos := by
  have hle : ((k * 1000000000 : Int) : Rat) ≤ y * 1000000000 := by
    push_cast
    linarith
  have hround := le_roundHalfEven hle
  rw [nanos_of_nearest? h]
  omega

theorem roundHalfEven_nanos_nonneg {y : Rat} (hy : 0 ≤ y) :
    0 ≤ roundHalfEven (y * 1000000000) := le_roundHalfEven (by positivity)

/-- A number of seconds is rounded by half a nanosecond at most. -/
theorem abs_nanos_sub_le_half {y : Rat} {d : Duration} (hy : 0 ≤ y) (h : nearest? y = some d) :
    |(d.nanos : Rat) - y * 1000000000| ≤ 1 / 2 := by
  have hnonneg := roundHalfEven_nanos_nonneg hy
  have hnanos : (d.nanos : Int) = roundHalfEven (y * 1000000000) := by
    rw [nanos_of_nearest? h]
    omega
  rw [← Int.cast_natCast, hnanos]
  exact abs_roundHalfEven_sub_le_half _

theorem exists_nearest?_lt {y : Rat} {r : Duration} (hy : 0 ≤ y)
    (h : y * 1000000000 + 1 / 2 < r.nanos) : ∃ d, nearest? y = some d ∧ d < r := by
  have hnonneg := roundHalfEven_nanos_nonneg hy
  have hround := (abs_le.mp (abs_roundHalfEven_sub_le_half (y * 1000000000))).2
  have hlt : roundHalfEven (y * 1000000000) < r.nanos := by
    have : (roundHalfEven (y * 1000000000) : Rat) < r.nanos := by linarith
    exact_mod_cast this
  have hd : (roundHalfEven (y * 1000000000)).toNat < r.nanos := by omega
  exact ⟨⟨_, hd.trans r.nanos_lt⟩, dif_pos (hd.trans r.nanos_lt), hd⟩

theorem nearest?_mono {y z : Rat} (h : y ≤ z) : AtMost (nearest? y) (nearest? z) := by
  intro d hd
  have hround : roundHalfEven (y * 1000000000) ≤ roundHalfEven (z * 1000000000) :=
    roundHalfEven_mono (mul_le_mul_of_nonneg_right h (by norm_num))
  have hnanos := nanos_of_nearest? hd
  have hle : (roundHalfEven (y * 1000000000)).toNat ≤ d.nanos := by omega
  have hlt := hle.trans_lt d.nanos_lt
  exact ⟨⟨_, hlt⟩, dif_pos hlt, hle⟩

theorem getD_longest_mono {a b : Option Duration} (h : AtMost a b) :
    a.getD longest ≤ b.getD longest := by
  cases b with
  | none => exact le_longest _
  | some e =>
    obtain ⟨d, rfl, hle⟩ := h e rfl
    exact hle

end Wakeup.Duration
