import Wakeup.Events.Host

/-! Sites: hosts with what stands in front of them and behind them in an address. -/
namespace Wakeup.Events

structure Site where
  /-- what stands in front of the last `@` -/
  user : List Char
  host : List Char
  /-- what starts with the first colon behind the host -/
  rest : List Char
  deriving DecidableEq, Repr

namespace Site

/-- Colons in brackets belong to the host. -/
def ofText (authority : List Char) : Site :=
  let s := (authority.reverse.takeWhile (· ≠ '@')).reverse
  let inside := if s.head? = some '[' then (s.takeWhile (· ≠ ']')).length else 0
  let host := s.take inside ++ (s.drop inside).takeWhile (· ≠ ':')
  ⟨authority.take (authority.length - s.length - 1), host, s.drop host.length⟩

/-- Behind a colon there is a number of sixteen bits, or nothing. It may end in a backslash. -/
def hasNumber (s : Site) : Bool :=
  let number := (s.rest.drop 1).takeWhile (· ≠ '\\')
  number.all Char.isDigit && Nat.ofDigitChars 10 number 0 < 65536

/-- A site on the web. -/
def isProper (s : Site) : Bool := isHost s.host && s.hasNumber

/-- A site of any kind. Without a host there is nothing beside it. -/
def isLoose (s : Site) : Bool :=
  if s.host = [] then s.rest = [] && (s.user = [] || s.user = [':'])
  else Host.isLongOr Host.isOpaque s.host && s.hasNumber

end Site
end Wakeup.Events
