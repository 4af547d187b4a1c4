import SchemaDiff.Sql.Lexeme
import SchemaDiff.Text.Pattern
/-
Comments, and the literals and quoted names in which a comment mark is text like any other.
-/
namespace SchemaDiff.Sql
open SchemaDiff.Text SchemaDiff.Text.Pattern

def through (closer : Text) : Pattern := fun t => (indexOf? closer t).map (· + closer.length)

def blockComment : Pattern := seq [exactly "/*", through "*/"]

def restOfLine : Text → Nat
  | [] => 0
  | '\n' :: _ => 1
  | '\r' :: '\n' :: _ => 2
  | '\r' :: _ => 1
  | _ :: rest => restOfLine rest + 1

def lineMark : Pattern := any [exactly "--", exactly "# "]

def lineComment : Pattern := seq [lineMark, fun t => some (restOfLine t)]

def comment : Pattern := any [blockComment, lineComment]

/-- How many characters up to the quote that ends a literal, the opening one having been taken. A
doubled quote and, where `escapes` holds, a quote after a backslash stand for themselves as long as
a later quote can end the literal. -/
def literalRest (quote : Char) (escapes : Bool) : Text → Option Nat
  | [] => none
  | [c] => if c = quote then some 1 else none
  | c :: d :: rest =>
    if d = quote ∧ (c = quote ∨ (escapes ∧ c = '\\')) then
      match literalRest quote escapes rest with
      | some n => some (n + 2)
      | none => some (if c = quote then 1 else 2)
    else if c = quote then some 1
    else (literalRest quote escapes (d :: rest)).map (· + 1)

def literal (quote : Char) (escapes : Bool) : Pattern :=
  seq [char quote, literalRest quote escapes]

/-- The quotes of literals and quoted names, each with whether a backslash escapes inside. -/
def literalKinds : List (Char × Bool) :=
  [('\x60', false), ('\u00b4', false), ('\'', true), ('"', true)]

def quotedText : Pattern := any (literalKinds.map fun kind => literal kind.1 kind.2)

end SchemaDiff.Sql
