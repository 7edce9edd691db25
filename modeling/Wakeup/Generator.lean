import Wakeup.Identifier
import Wakeup.Script

/-! Sources of fresh identifiers. -/
namespace Wakeup.Generator

/-- The identifiers of a list one after another, and then the same failure for ever. -/
def ofList (exhausted : Failure) : Script.Generator (List String)
  | [] => (.error exhausted, [])
  | id :: ids => (.ok id, ids)

/-- Bytes from a random source. -/
def randomBytes [RandomGen γ] (count : Nat) (g : γ) : List UInt8 × γ :=
  match count with
  | 0 => ([], g)
  | n + 1 =>
    let (b, g) := randNat g 0 255
    let (bs, g) := randomBytes n g
    (.ofNat b :: bs, g)

/-- Random identifiers. -/
def random [RandomGen γ] : Script.Generator γ := fun g =>
  let (bytes, g) := randomBytes 16 g
  (.ok (Identifier.ofRandom (Vector.ofFn fun i : Fin 16 => bytes.getD i.val 0)), g)

end Wakeup.Generator
