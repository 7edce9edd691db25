import Wakeup.Events.Site

/-! Addresses on the web: which texts are one, and which of them can be reached by HTTP. -/
namespace Wakeup.Events

/-- A scheme, a host with what stands beside it, and the rest up to a fragment. -/
structure Address where
  scheme : List Char
  authority : List Char
  path : List Char
  deriving DecidableEq, Repr

namespace Address

def isSchemeChar (c : Char) : Bool := c.isAlphanum || c = '+' || c = '-' || c = '.'

/-- Letters, digits and the marks that stand for themselves. -/
def isPlain (c : Char) : Bool :=
  c.isAlphanum || c ∈ ['!', '$', '&', '\'', '(', ')', '*', '+', ',', '-', '.', ';', '=', '_', '~']

def isPathChar (c : Char) : Bool := '!' ≤ c && c ∉ ['#', '<', '>', '?', '\x60']

def isQueryChar (c : Char) : Bool := '!' ≤ c && c ∉ ['"', '#', '<', '>']

/-- What has been seen of an authority since the start of its host. -/
structure Seen where
  colons : Nat := 0
  percent : Bool := false
  opened : Bool := false
  closed : Bool := false

/-- Brackets occur once. Colons and percent signs in front of the host or in brackets do not
count. -/
def Seen.add? (s : Seen) (c : Char) : Option Seen :=
  match c with
  | ':' => if s.colons < 8 then some { s with colons := s.colons + 1 } else none
  | '%' => some { s with percent := true }
  | '@' => some { s with colons := 0, percent := false }
  | '[' => if s.percent || s.opened then none else some { s with opened := true }
  | ']' =>
    if s.opened && !s.closed then some { s with colons := 0, percent := false, closed := true }
    else none
  | c => if isPlain c then some s else none

/-- A host, with one colon at the most behind it, and anything in front of it but nothing alone. -/
def isAuthority (a : List Char) : Bool :=
  match a.foldlM Seen.add? {} with
  | some s =>
    a ≠ [] && s.opened = s.closed && s.colons ≤ 1 && !s.percent && a.getLast? ≠ some '@'
  | none => false

/-- The rest of an address: a path and, behind a question mark, a query. A fragment may follow. -/
def isPath (s : List Char) : Bool :=
  let s := s.takeWhile (· ≠ '#')
  (s.takeWhile (· ≠ '?')).all isPathChar && ((s.dropWhile (· ≠ '?')).drop 1).all isQueryChar

def read? (text : String) : Option Address := do
  let s := text.toList
  guard (text.utf8ByteSize < 65535)
  let scheme := s.takeWhile isSchemeChar
  guard (scheme.length ≤ 64)
  let ':' :: '/' :: '/' :: s := s.dropWhile isSchemeChar | none
  let inAuthority (c : Char) := c ≠ '/' && c ≠ '?' && c ≠ '#'
  let authority := s.takeWhile inAuthority
  guard (isAuthority authority)
  let path := s.dropWhile inAuthority
  guard (isPath path)
  return ⟨scheme, authority, path.takeWhile (· ≠ '#')⟩

/-- HTTP, with or without encryption, to a site. -/
def isReachable (a : Address) : Bool :=
  String.ofList (a.scheme.map Char.toLower) ∈ ["http", "https"] &&
    (Site.ofText a.authority).isProper

/-- The schemes that ask for a site. -/
def siteSchemes : List String := ["http", "https", "ws", "wss", "ftp"]

def isSlash (c : Char) : Bool := c = '/' || c = '\\'

/-- The text up to a path, a query or a fragment. -/
def beforePath (s : List Char) : List Char := s.takeWhile fun c => !isSlash c && c ∉ ['?', '#']

/-- A letter and a colon, or a bar, as the name of a drive. -/
def isDrive : List Char → Bool
  | [a, b] => a.isAlpha && (b = ':' || b = '|')
  | _ => false

/-- Files may be on a host, which has nothing beside it. -/
def isFile : List Char → Bool
  | a :: b :: s =>
    let host := beforePath s
    !(isSlash a && isSlash b) || host = [] || isDrive host || isHost host
  | _ => true

/-- Of other things, those behind two slashes are at a site. -/
def isElsewhere : List Char → Bool
  | '/' :: '/' :: s =>
    let authority := s.takeWhile (· ∉ ['/', '?', '#'])
    (authority ≠ ['@'] || s = authority) && (Site.ofText authority).isLoose
  | _ => true

/-- An address in the widest sense starts with a scheme, and what follows goes by the scheme.
Blanks around it and line breaks in it do not count. -/
def isAbsolute (text : String) : Bool :=
  let s := (text.toList.dropWhile (· ≤ ' ')).reverse.dropWhile (· ≤ ' ')
  let s := s.reverse.filter (· ∉ ['\t', '\n', '\r'])
  let scheme := String.ofList ((s.takeWhile isSchemeChar).map Char.toLower)
  match s.dropWhile isSchemeChar with
  | ':' :: rest =>
    s.head?.any Char.isAlpha &&
      if scheme ∈ siteSchemes then (Site.ofText (beforePath (rest.dropWhile isSlash))).isProper
      else if scheme = "file" then isFile rest
      else isElsewhere rest
  | _ => false

end Address
end Wakeup.Events
