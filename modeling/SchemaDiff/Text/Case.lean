import SchemaDiff.Text.Range
import SchemaDiff.Text.CaseTable
/-
Capital and small forms of a text. Both are the full mappings: one letter may become several, and a
capital sigma becomes the final small sigma at the end of a word.
-/
namespace SchemaDiff.Text

def CaseRun.covers (run : CaseRun) (n : Nat) : Bool :=
  run.first ≤ n && n ≤ run.last && (n - run.first) % run.stride == 0

def mapByRuns (runs : List CaseRun) (c : Char) : Char :=
  match runs.find? (·.covers c.toNat) with
  | some run => Char.ofNat (run.image + (c.toNat - run.first))
  | none => c

def upperChar (c : Char) : Text :=
  if c.toNat < 0x80 then [c.toUpper]
  else
    match upperExpansions.find? (·.1 == c.toNat) with
    | some (_, letters) => letters.map Char.ofNat
    | none => [mapByRuns upperRuns c]

def upper (t : Text) : Text := t.flatMap upperChar

def lowerChar (c : Char) : Text :=
  if c.toNat < 0x80 then [c.toLower]
  else if c = '\u0130' then ['i', '\u0307']
  else [mapByRuns lowerRuns c]

def isCased (c : Char) : Bool := inRanges casedRanges c.toNat

def isCaseIgnorable (c : Char) : Bool := inRanges caseIgnorableRanges c.toNat

def startsCased (t : Text) : Bool :=
  match t.dropWhile isCaseIgnorable with
  | c :: _ => isCased c
  | [] => false

/-- `lowerAfter inWord t` is the small form of `t` where `inWord` says that a cased letter comes
before it, marks apart. -/
def lowerAfter : Bool → Text → Text
  | _, [] => []
  | inWord, c :: rest =>
    (if c = '\u03a3' then (if inWord && !startsCased rest then ['\u03c2'] else ['\u03c3'])
      else lowerChar c)
    ++ lowerAfter (if isCaseIgnorable c then inWord else isCased c) rest

def lower (t : Text) : Text := lowerAfter false t

end SchemaDiff.Text
