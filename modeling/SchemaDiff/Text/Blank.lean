import SchemaDiff.Text.Range
/-
White space: which characters are blank, how a text is trimmed, and how each run of blanks is
squeezed to one space.
-/
namespace SchemaDiff.Text

def blankRanges : List (Nat × Nat) :=
  [(0x9, 0xD), (0x1C, 0x20), (0x85, 0x85), (0xA0, 0xA0), (0x1680, 0x1680), (0x2000, 0x200A),
   (0x2028, 0x2029), (0x202F, 0x202F), (0x205F, 0x205F), (0x3000, 0x3000)]

def isBlank (c : Char) : Bool := inRanges blankRanges c.toNat

def trimStart (t : Text) : Text := t.dropWhile isBlank

def trimEnd (t : Text) : Text := (t.reverse.dropWhile isBlank).reverse

def trim (t : Text) : Text := trimEnd (trimStart t)

/-- `squeezeAfter blank t` writes each run of blanks in `t` as one space; `blank` says that the
space for the current run has been written. -/
def squeezeAfter : Bool → Text → Text
  | _, [] => []
  | blank, c :: rest =>
    if isBlank c then
      if blank then squeezeAfter true rest else ' ' :: squeezeAfter true rest
    else c :: squeezeAfter false rest

def squeeze (t : Text) : Text := squeezeAfter false t

end SchemaDiff.Text
