import SchemaDiff.Files.Tree
/-
Patterns for file names, and the paths in a tree that a pattern of several parts leads to. In a part
`*` stands for any characters, `?` for one, and a set in brackets for one of its members; the part
`**` stands for any number of directories. Names that start with a point are passed over unless the
part itself starts with one.
-/
namespace SchemaDiff.Files
open SchemaDiff.Text

inductive Wildcard where
  | exactly (c : Char)
  | anyCharacter
  | anyCharacters
  | oneOf (negated : Bool) (ranges : List (Char × Char))
deriving DecidableEq, Repr

def setRanges : Text → List (Char × Char)
  | first :: '-' :: last :: rest => (first, last) :: setRanges rest
  | c :: rest => (c, c) :: setRanges rest
  | [] => []

/-- The set whose opening bracket comes before the text: whether it is negated, its members, and how
many characters it takes up to its closing bracket. A closing bracket at the front is a member. -/
def readSet (t : Text) : Option (Bool × Text × Nat) :=
  let negated := t.head? = some '!'
  let body := if negated then t.drop 1 else t
  match body, cutAt ']' (body.drop 1) with
  | first :: _, (others, some _) =>
    some (negated, first :: others, others.length + (if negated then 3 else 2))
  | _, _ => none

def wildcards : Text → List Wildcard
  | [] => []
  | '*' :: rest => .anyCharacters :: wildcards rest
  | '?' :: rest => .anyCharacter :: wildcards rest
  | '[' :: rest =>
    match readSet rest with
    | some (negated, members, n) => .oneOf negated (setRanges members) :: wildcards (rest.drop n)
    | none => .exactly '[' :: wildcards rest
  | c :: rest => .exactly c :: wildcards rest
termination_by t => t.length
decreasing_by all_goals simp only [List.length_cons, List.length_drop]; omega

def Wildcard.accepts (c : Char) : Wildcard → Bool
  | exactly d => c == d
  | anyCharacter => true
  | anyCharacters => true
  | oneOf negated ranges => (ranges.any fun (first, last) => first ≤ c && c ≤ last) != negated

def Wildcard.accept : List Wildcard → Text → Bool
  | [], name => name.isEmpty
  | [anyCharacters], _ => true
  | anyCharacters :: ws, [] => accept ws []
  | anyCharacters :: ws, c :: rest => accept ws (c :: rest) || accept (anyCharacters :: ws) rest
  | _ :: _, [] => false
  | w :: ws, c :: rest => w.accepts c && accept ws rest
termination_by ws name => ws.length + name.length

def isWild (t : Text) : Bool := t.any fun c => c == '*' || c == '?' || c == '['

def isHidden (name : Text) : Bool := name.head? == some '.'

def matchesPart (part name : Text) : Bool :=
  (isHidden part || !isHidden name) && Wildcard.accept (wildcards part) name

def Tree.depth (tree : Tree) : Nat :=
  ((tree.files.map Prod.fst ++ tree.directories).map List.length).foldl max 0

/-- The directories at and below one, hidden ones apart, as paths relative to it. -/
def directoriesBelow (tree : Tree) (directory : Text) : Nat → List Text
  | 0 => []
  | fuel + 1 =>
    (tree.list directory).flatMap fun name =>
      let path := join directory name
      if isHidden name ∨ !tree.isDirectory path then []
      else name :: (directoriesBelow tree path fuel).map (join name)

/-- What one part of a pattern leads to in a directory; `onlyDirectories` passes over files. -/
def expandPart (tree : Tree) (directory part : Text) (onlyDirectories : Bool) : List Text :=
  if part = "**" then
    let below := directoriesBelow tree directory (tree.depth + 1)
    if directory = [] ∨ tree.isDirectory directory then [] :: below else below
  else if isWild part then
    (tree.list directory).filter fun name =>
      matchesPart part name && (!onlyDirectories || tree.isDirectory (join directory name))
  else if part = [] then (if tree.isDirectory directory then [[]] else [])
  else if tree.holds (join directory part) then [part] else []

def expand (tree : Tree) (onlyDirectories : Bool) : Nat → Text → List Text
  | 0, _ => []
  | fuel + 1, pattern =>
    let directory := parentPart pattern
    let directories := if isWild directory then expand tree true fuel directory else [directory]
    directories.flatMap fun d =>
      (expandPart tree d (lastPart pattern) onlyDirectories).map (join d)

def glob (tree : Tree) (pattern : Text) : List Text :=
  (expand tree false (pattern.length + 1) pattern).mergeSort comesFirst

end SchemaDiff.Files
