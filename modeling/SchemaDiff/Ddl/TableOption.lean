import SchemaDiff.Text.Pattern
/-
Options after the body of a table: its engine, character set and collation. An option is looked for
anywhere in the text, quoted or not; its name starts where no word is running, and an equals sign
stands before its value.
-/
namespace SchemaDiff.Ddl
open SchemaDiff.Text SchemaDiff.Text.Pattern

structure TableOptions where
  engine : Option Text := none
  charset : Option Text := none
  collation : Option Text := none
deriving DecidableEq, Repr

def inOptionValue (c : Char) : Bool := !isBlank c && c != ',' && c != ';'

def optionValueHere (option : Pattern) (t : Text) : Option Text :=
  match seq [option, blanks, char '=', blanks] t with
  | none => none
  | some n =>
    match (t.drop n).takeWhile inOptionValue with
    | [] => none
    | value => some value

/-- The value of the first such option in a text that comes after the character `previous`. -/
def optionValueAfter (option : Pattern) (previous : Option Char) : Text → Option Text
  | [] => none
  | c :: rest =>
    (if previous.any isWord then none else optionValueHere option (c :: rest)).or
      (optionValueAfter option (some c) rest)

def optionValue (option : Pattern) (t : Text) : Option Text := optionValueAfter option none t

def readTableOptions (t : Text) : TableOptions where
  engine := optionValue (keyword "ENGINE") t
  charset := optionValue (any [keywords ["CHARACTER", "SET"], keyword "CHARSET"]) t
  collation := optionValue (keyword "COLLATE") t

end SchemaDiff.Ddl
