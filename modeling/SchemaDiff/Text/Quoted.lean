import SchemaDiff.Text.PrintTable
import SchemaDiff.Text.Range
/-
Texts in quotes, as messages show them. Single quotes are used unless the text holds one and no
double quote. What cannot be printed is escaped.
-/
namespace SchemaDiff.Text

def isPrintable (c : Char) : Bool := !inRanges unprintableRanges c.toNat

def escapeIn (quote c : Char) : Text :=
  if c = quote ∨ c = '\\' then ['\\', c]
  else if c = '\t' then ['\\', 't']
  else if c = '\n' then ['\\', 'n']
  else if c = '\r' then ['\\', 'r']
  else if isPrintable c then [c]
  else if c.toNat < 0x100 then '\\' :: 'x' :: hex 2 c.toNat
  else if c.toNat < 0x10000 then '\\' :: 'u' :: hex 4 c.toNat
  else '\\' :: 'U' :: hex 8 c.toNat

def quoted (t : Text) : Text :=
  let quote := if t.contains '\'' && !t.contains '"' then '"' else '\''
  quote :: t.flatMap (escapeIn quote) ++ [quote]

end SchemaDiff.Text
