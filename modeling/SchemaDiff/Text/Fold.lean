import SchemaDiff.Text.Basic
/-
Letters read without regard to case. Keywords are written in ASCII capitals; besides the small
ASCII letters, four letters outside ASCII count as a capital I, S or K.
-/
namespace SchemaDiff.Text

def fold (c : Char) : Char :=
  if c = '\u0130' || c = '\u0131' then 'I'
  else if c = '\u017f' then 'S'
  else if c = '\u212a' then 'K'
  else c.toUpper

/-- The letters that can start a bare identifier: those of ASCII, the Latin letters from A with
grave to U with diaeresis in both cases, and the signs that count as one of these when case is
ignored. -/
def isNameStart (c : Char) : Bool :=
  ('A' ≤ fold c && fold c ≤ 'Z') || ('\u00c0' ≤ c && c ≤ '\u00dc')
    || ('\u00e0' ≤ c && c ≤ '\u00fc' && c != '\u00f7') || c == '\u212b'

end SchemaDiff.Text
