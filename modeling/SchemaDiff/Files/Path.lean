import SchemaDiff.Text.Basic
/- Paths as texts with slashes between their parts. -/
namespace SchemaDiff.Files
open SchemaDiff.Text

def slash : Text := "/"

def dot : Text := "."

def dotDot : Text := ".."

def join (directory below : Text) : Text :=
  if directory = [] ∨ directory.getLast? = some '/' then directory ++ below
  else directory ++ "/" ++ below

def lastPart (path : Text) : Text := (path.reverse.takeWhile (· ≠ '/')).reverse

/-- The part before the last slash, without the slashes at its end unless it has nothing else. -/
def parentPart (path : Text) : Text :=
  let head := path.reverse.dropWhile (· ≠ '/')
  match head.dropWhile (· = '/') with
  | [] => head.reverse
  | kept => kept.reverse

/-- Adds a part to parts already simplified, the last one first. A step up takes the part before it
away; in front of a relative path it has to stay. -/
def addPart (absolute : Bool) (parts : List Text) (part : Text) : List Text :=
  if part = [] ∨ part = dot then parts
  else if part = dotDot then
    match parts with
    | [] => if absolute then [] else [part]
    | last :: others => if last = dotDot then part :: parts else others
  else part :: parts

def simplifiedParts (path : Text) : List Text :=
  ((splitOn '/' path).foldl (addPart (path.head? = some '/')) []).reverse

/-- The name under which an input at a path is shown: the last part of the simplified path. -/
def displayName (path : Text) : Text :=
  match (simplifiedParts path).getLast? with
  | some part => part
  | none => if path.head? = some '/' then [] else dot

end SchemaDiff.Files
