import SchemaDiff.Sql.Lexeme
import SchemaDiff.Text.Blank
/-
The normal form of a script: no leading byte-order mark, one space for each comment, and one space
for each run of blanks, also inside literals.
-/
namespace SchemaDiff.Sql
open SchemaDiff.Text

def byteOrderMark : Char := '\ufeff'

def Lexeme.withoutComment (l : Lexeme) : Text := if l.isComment then [' '] else l.text

def uncommented (lexer : Lexer) (t : Text) : Text := (lexer.lexemes t).flatMap Lexeme.withoutComment

def afterMarks (t : Text) : Text := t.dropWhile (· == byteOrderMark)

def normalize (lexer : Lexer) (t : Text) : Text := trim (squeeze (uncommented lexer (afterMarks t)))

end SchemaDiff.Sql
