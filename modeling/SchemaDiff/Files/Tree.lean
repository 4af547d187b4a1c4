import SchemaDiff.Files.Path
import SchemaDiff.Text.Quoted
/-
A tree of files as a program sees it from its working directory: which directories there are, what
each file holds, and what a path leads to.
-/
namespace SchemaDiff.Files
open SchemaDiff.Text

/-- A place in the tree: the names from the working directory down to it. A place given from the
root has `/` as its first name, and one above the working directory begins with `..`. -/
abbrev Place := List Text

def root : Place := [slash]

structure Tree where
  files : List (Place × ByteArray) := []
  directories : List Place := []

inductive Obstacle where
  | missing
  | notADirectory
  | isADirectory
  | nullCharacter
deriving DecidableEq, Repr

def Obstacle.message (path : Text) : Obstacle → Text
  | missing => "[Errno 2] No such file or directory: " ++ quoted path
  | notADirectory => "[Errno 20] Not a directory: " ++ quoted path
  | isADirectory => "[Errno 21] Is a directory: " ++ quoted path
  | nullCharacter => "embedded null byte"

def Place.up (place : Place) : Place :=
  if place = root then root
  else if place.all (· = dotDot) then place ++ [dotDot]
  else place.dropLast

namespace Tree

def content? (tree : Tree) (place : Place) : Option ByteArray := tree.files.lookup place

def isFileAt (tree : Tree) (place : Place) : Bool := (tree.content? place).isSome

/-- Every place above a file or a directory is a directory, and so are the root, the working
directory and those above it. -/
def isDirectoryAt (tree : Tree) (place : Place) : Bool :=
  place = root || place.all (· = dotDot)
    || tree.directories.any (place.isPrefixOf ·)
    || tree.files.any fun (file, _) => place.isPrefixOf file && place.length < file.length

def names (tree : Tree) (place : Place) : List Text :=
  let places := tree.files.map Prod.fst ++ tree.directories
  let below := places.filterMap fun p => if place.isPrefixOf p then p[place.length]? else none
  (below.filter fun name => name ≠ slash ∧ name ≠ dotDot).eraseDups

/-- Follows the parts of a path down from a directory. What the last part names need not exist. -/
def follow (tree : Tree) (here : Place) : List Text → Except Obstacle Place
  | [] => .ok here
  | part :: parts =>
    let next :=
      if part = [] ∨ part = dot then here
      else if part = dotDot then here.up
      else here ++ [part]
    if parts = [] ∨ tree.isDirectoryAt next then tree.follow next parts
    else if tree.isFileAt next then .error .notADirectory
    else .error .missing

def locate (tree : Tree) (path : Text) : Except Obstacle Place :=
  if path.contains '\x00' then .error .nullCharacter
  else if path = [] then .error .missing
  else tree.follow (if path.head? = some '/' then root else []) (splitOn '/' path)

def isFile (tree : Tree) (path : Text) : Bool :=
  match tree.locate path with
  | .ok place => tree.isFileAt place
  | .error _ => false

def isDirectory (tree : Tree) (path : Text) : Bool :=
  match tree.locate path with
  | .ok place => tree.isDirectoryAt place
  | .error _ => false

def holds (tree : Tree) (path : Text) : Bool := tree.isFile path || tree.isDirectory path

def list (tree : Tree) (path : Text) : List Text :=
  match tree.locate (if path = [] then dot else path) with
  | .ok place => tree.names place
  | .error _ => []

def read (tree : Tree) (path : Text) : Except Obstacle ByteArray := do
  let place ← tree.locate path
  if tree.isDirectoryAt place then throw .isADirectory
  match tree.content? place with
  | some bytes => return bytes
  | none => throw .missing

def set (tree : Tree) (place : Place) (bytes : ByteArray) : Tree :=
  if tree.isFileAt place then
    { tree with files := tree.files.map fun file =>
        if file.1 = place then (place, bytes) else file }
  else { tree with files := tree.files ++ [(place, bytes)] }

def withoutSlashes (path : Text) : Text :=
  match path.reverse.dropWhile (· = '/') with
  | [] => path
  | kept => kept.reverse

/-- Writes a whole file, which need not have been there. A path that ends in a slash can only be
that of a directory. -/
def write (tree : Tree) (path : Text) (bytes : ByteArray) : Except Obstacle Tree := do
  let place ← tree.locate (withoutSlashes path)
  if path.getLast? = some '/' ∨ tree.isDirectoryAt place then throw .isADirectory
  return tree.set place bytes

def changedSince (tree earlier : Tree) : List (Place × ByteArray) :=
  tree.files.filter fun file => !(earlier.content? file.1).any (·.data = file.2.data)

end Tree

end SchemaDiff.Files
