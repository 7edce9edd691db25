import Wakeup.Json.Decode
import Wakeup.Number.Rounding

/-! Lengths of time, to the nanosecond, with a number of whole seconds of 64 bits. -/
namespace Wakeup

structure Duration where
  nanos : Nat
  nanos_lt : nanos < 18446744073709551616000000000
  deriving DecidableEq, Repr

namespace Duration

def longest : Duration := ⟨18446744073709551615999999999, by decide⟩

def ofNanos? (n : Nat) : Option Duration :=
  if h : n < 18446744073709551616000000000 then some ⟨n, h⟩ else none

def ofSeconds (s : UInt64) : Duration :=
  ⟨s.toNat * 1000000000, by have := s.toNat_lt; omega⟩

/-- Nanoseconds past a second are carried into the seconds. -/
def ofParts? (s : UInt64) (n : UInt32) : Option Duration :=
  ofNanos? (s.toNat * 1000000000 + n.toNat)

/-- Whole seconds. -/
def seconds (d : Duration) : Nat := d.nanos / 1000000000

/-- Nanoseconds past the whole seconds. -/
def subsecond (d : Duration) : Nat := d.nanos % 1000000000

/-- The length nearest to a number of seconds that is not below zero, the even one of two. -/
def nearest? (seconds : Rat) : Option Duration :=
  ofNanos? (roundHalfEven (seconds * 1000000000)).toNat

instance : LT Duration := ⟨fun a b => a.nanos < b.nanos⟩
instance : LE Duration := ⟨fun a b => a.nanos ≤ b.nanos⟩
instance (a b : Duration) : Decidable (a < b) := inferInstanceAs (Decidable (a.nanos < b.nanos))
instance (a b : Duration) : Decidable (a ≤ b) := inferInstanceAs (Decidable (a.nanos ≤ b.nanos))

def toJson (d : Duration) : Json :=
  .record [("secs", .ofInt d.seconds), ("nanos", .ofInt d.subsecond)]

def ofJson? (v : Json) : Option Duration := do
  let [s, n] ← v.record? true ["secs", "nanos"] | none
  ofParts? (← s.toUInt64?) (← n.toUInt32?)

end Duration
end Wakeup
