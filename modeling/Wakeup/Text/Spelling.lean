import Wakeup.Text.Hexadecimal
import Wakeup.Text.Parts

/-! Tables of characters that are spelled with others, written down in rows of neighbours. -/
namespace Wakeup.Text

/-- Neighbours from `first` on, each with its spelling, or with nothing if it has none. -/
structure SpellingRow where
  first : Nat
  spellings : List (List Char)
  deriving DecidableEq, Repr

/-- A word of a table: hexadecimal numbers between plus signs, or a hyphen for no spelling. -/
def spelling (w : List Char) : List Char :=
  if w = ['-'] then [] else (parts '+' w).map fun n => Char.ofNat (digitsValue 16 n)

/-- Puts a word in front of the words and rows that follow it. A word with a colon at its end is
the number a row starts at. -/
def SpellingRow.addWord (w : List Char) :
    List (List Char) × List SpellingRow → List (List Char) × List SpellingRow
  | (words, rows) =>
    if w.getLast? = some ':' then ([], ⟨digitsValue 16 w.dropLast, words⟩ :: rows)
    else (spelling w :: words, rows)

def spellingRows (table : String) : List SpellingRow :=
  let words := parts ' ' (table.toList.map fun c => if c = '\n' then ' ' else c)
  ((words.filter (· ≠ [])).foldr SpellingRow.addWord ([], [])).2

/-- The spelling of a character, if it has one. -/
def spellingOf? (rows : List SpellingRow) (c : Char) : Option (List Char) :=
  rows.findSome? fun row =>
    if row.first ≤ c.toNat then row.spellings[c.toNat - row.first]?.filter (· ≠ []) else none

/-- The character with a spelling, if there is one. -/
def spelledWith? (rows : List SpellingRow) (s : List Char) : Option Char :=
  rows.findSome? fun row => (row.spellings.idxOf? s).map fun i => Char.ofNat (row.first + i)

end Wakeup.Text
