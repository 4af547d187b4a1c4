import SchemaDiff.Text.Range
import SchemaDiff.Text.WordTable
/- Word characters and decimal digits. -/
namespace SchemaDiff.Text

def isWord (c : Char) : Bool := inRanges wordRanges c.toNat

/-- The digits of every decimal system, not those of ASCII alone. -/
def isDigit (c : Char) : Bool :=
  decimalZeros.any fun first => first ≤ c.toNat && c.toNat ≤ first + 9

def isPlainLetter (c : Char) : Bool := c.isAlpha || c == '_'

end SchemaDiff.Text
