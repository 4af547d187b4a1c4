import SchemaDiff.Text.Basic
/-
Quoted stretches of SQL text, followed character by character from left to right. A quote opens at
a quote character and closes at the next one of the same kind that has no backslash just before it.
-/
namespace SchemaDiff.Sql

def isQuote (c : Char) : Bool := c == '\'' || c == '"' || c == '\x60'

structure QuoteState where
  opener : Option Char
  previous : Option Char
deriving DecidableEq, Repr

namespace QuoteState

def start : QuoteState := ⟨none, none⟩

def feed (s : QuoteState) (c : Char) : QuoteState where
  opener :=
    match s.opener with
    | none => if isQuote c then some c else none
    | some q => if c = q ∧ s.previous ≠ some '\\' then none else some q
  previous := some c

def isOpen (s : QuoteState) : Bool := s.opener.isSome

def trace : QuoteState → Text → List QuoteState
  | _, [] => []
  | s, c :: rest => s.feed c :: trace (s.feed c) rest

def after (s : QuoteState) (t : Text) : QuoteState := t.foldl feed s

end QuoteState

/-- Whether a text, read from its start, leaves no quote open. -/
def Closed (t : Text) : Prop := (QuoteState.start.after t).opener = none

instance (t : Text) : Decidable (Closed t) := inferInstanceAs (Decidable (_ = none))

/-- The last position, not before `start`, of an unquoted character with the property `p`. The
closing character of a quote is unquoted; the opening one is not. -/
def lastUnquoted (p : Char → Bool) (start : Int) (t : Text) : Option Nat :=
  go QuoteState.start 0 t
where
  go (s : QuoteState) (i : Nat) : Text → Option Nat
    | [] => none
    | c :: rest =>
      (go (s.feed c) (i + 1) rest).or
        (if start ≤ i ∧ ¬ (s.feed c).isOpen ∧ p c then some i else none)

end SchemaDiff.Sql
