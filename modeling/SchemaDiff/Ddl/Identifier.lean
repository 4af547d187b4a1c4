import SchemaDiff.Text.Word
/- Identifiers at the front of a text: in backticks, in double quotes, or a bare word. -/
namespace SchemaDiff.Ddl
open SchemaDiff.Text

def readQuoted (mark : Char) (t : Text) : Option (Text × Text) :=
  match cutAt mark t with
  | (c :: name, some after) => some (c :: name, after)
  | _ => none

/-- An identifier without its quotes, and the text after it. -/
def readIdentifier (t : Text) : Option (Text × Text) :=
  match t with
  | [] => none
  | c :: rest =>
    if c = '\x60' ∨ c = '"' then readQuoted c rest
    else if isWord c then some (t.takeWhile isWord, t.dropWhile isWord)
    else none

end SchemaDiff.Ddl
