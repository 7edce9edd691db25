/-! Texts in parts. -/
namespace Wakeup.Text

/-- The parts of a text between marks. -/
def parts (mark : Char) (s : List Char) : List (List Char) :=
  s.foldr (fun c ps => if c = mark then [] :: ps else (c :: ps.headD []) :: ps.tail) [[]]

/-- What follows `w`, if the text begins with it. -/
def afterPrefix? (w s : List Char) : Option (List Char) :=
  if w.isPrefixOf s then some (s.drop w.length) else none

/-- What precedes `w`, if the text ends with it. -/
def beforeSuffix? (w s : List Char) : Option (List Char) :=
  if w.isSuffixOf s then some (s.take (s.length - w.length)) else none

end Wakeup.Text
