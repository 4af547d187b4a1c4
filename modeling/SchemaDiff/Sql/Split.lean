import SchemaDiff.Sql.Quote
import SchemaDiff.Text.Blank
/-
Splitting SQL text at top-level delimiters: those outside quotes and, where parentheses count,
outside every pair of them. The pieces are trimmed and the empty ones dropped.
-/
namespace SchemaDiff.Sql
open SchemaDiff.Text

inductive Parens where
  | ignored
  | tracked
deriving DecidableEq, Repr

/-- Where a scan stands: its quote, and how many parentheses are open. An excess of closing ones
makes the depth negative, and nothing is at top level until it is made up for. -/
structure ScanState where
  quote : QuoteState
  depth : Int
deriving DecidableEq, Repr

namespace ScanState

def start : ScanState := ⟨.start, 0⟩

def feed (parens : Parens) (s : ScanState) (c : Char) : ScanState where
  quote := s.quote.feed c
  depth :=
    if parens = .ignored ∨ (s.quote.feed c).isOpen then s.depth
    else if c = '(' then s.depth + 1
    else if c = ')' then s.depth - 1
    else s.depth

def isTopLevel (s : ScanState) : Bool := !s.quote.isOpen && s.depth == 0

end ScanState

def segments (parens : Parens) (isDelimiter : Char → Bool) : ScanState → Text → List Text
  | _, [] => [[]]
  | s, c :: rest =>
    let now := s.feed parens c
    match segments parens isDelimiter now rest with
    | [] => [[c]]
    | first :: others =>
      if now.isTopLevel && isDelimiter c then [] :: first :: others
      else (c :: first) :: others

/-- The trimmed pieces between the top-level delimiters of a text, the empty ones dropped. -/
def splitTopLevel (parens : Parens) (isDelimiter : Char → Bool) (t : Text) : List Text :=
  ((segments parens isDelimiter .start t).map trim).filter (· ≠ [])

def statements (t : Text) : List Text := splitTopLevel .ignored (· == ';') t

def definitions (t : Text) : List Text := splitTopLevel .tracked (· == ',') t

def separatesWords (c : Char) : Bool :=
  c == ' ' || c == '\t' || c == '\r' || c == '\n' || c == '\x0c' || c == '\x0b'

def definitionWords (t : Text) : List Text := splitTopLevel .tracked separatesWords t

end SchemaDiff.Sql
