import SchemaDiff.Text.Blank
import SchemaDiff.Text.Fold
import SchemaDiff.Text.Word
/-
Patterns at the front of a text. A pattern looks at the text ahead and says how many characters it
takes, or that it does not match. Each part takes as much as it can and never gives any back.
-/
namespace SchemaDiff.Text

abbrev Pattern := Text → Option Nat

namespace Pattern

def one (p : Char → Bool) : Pattern
  | c :: _ => if p c then some 1 else none
  | [] => none

def char (c : Char) : Pattern := one (· == c)

def many (p : Char → Bool) : Pattern := fun t => some (t.takeWhile p).length

def exactly (w : Text) : Pattern := fun t => if w.isPrefixOf t then some w.length else none

/-- A word given in capitals, in any case. -/
def keyword (w : Text) : Pattern := fun t =>
  if (t.take w.length).map fold = w then some w.length else none

def seq : List Pattern → Pattern
  | [], _ => some 0
  | p :: ps, t =>
    match p t with
    | none => none
    | some n => (seq ps (t.drop n)).map (n + ·)

def any (ps : List Pattern) : Pattern := fun t => ps.findSome? (· t)

def optional (p : Pattern) : Pattern := fun t => some ((p t).getD 0)

def many1 (p : Char → Bool) : Pattern := seq [one p, many p]

def notAhead (p : Char → Bool) : Pattern
  | c :: _ => if p c then none else some 0
  | [] => some 0

def ahead (p : Pattern) : Pattern := fun t => (p t).map fun _ => 0

def blanks : Pattern := many isBlank

def blanks1 : Pattern := many1 isBlank

def wordRun : Pattern := many1 isWord

def wordEnd : Pattern := notAhead isWord

def keywords : List Text → Pattern
  | [] => seq []
  | [w] => keyword w
  | w :: ws => seq [keyword w, blanks1, keywords ws]

end Pattern

end SchemaDiff.Text
