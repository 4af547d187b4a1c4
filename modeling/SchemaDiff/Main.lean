import SchemaDiff.CommandLine.Run
import SchemaDiff.Sql.RuleTable
import Std.Time.DateTime
/-
The program itself: it takes what its arguments name from the file system into a tree, lets the run
work on the tree, and puts the files that the run changed back.
-/
namespace SchemaDiff.FileSystem
open SchemaDiff.Text SchemaDiff.Files

def pathString (t : Text) : String := String.ofList t

def directoryNames? (path : Text) : IO (Option (List Text)) := do
  try
    let entries ← ((← IO.currentDir) / pathString path).readDir
    return some (entries.toList.map fun entry => entry.fileName.toList)
  catch _ => return none

partial def loadAll (tree : Tree) (path : Text) (place : Place) : IO Tree := do
  match ← directoryNames? path with
  | some names =>
    let mut tree := { tree with directories := place :: tree.directories }
    for name in names do
      tree ← loadAll tree (join path name) (place ++ [name])
    return tree
  | none =>
    try
      return tree.set place (← IO.FS.readBinFile (pathString path))
    catch _ => return tree

partial def loadAlong (load : Tree → Text → Place → IO Tree) (tree : Tree) (before : Text)
    (place : Place) : List Text → IO Tree
  | [] => return tree
  | part :: parts => do
    let path := if before = [] then part else join before part
    let place :=
      if part = [] ∨ part = dot then place
      else if part = dotDot then place.up
      else place ++ [part]
    if parts = [] then load tree (if path = [] then dot else path) place
    else
      let tree :=
        if (← directoryNames? (if path = [] then slash else path)).isSome then
          { tree with directories := place :: tree.directories }
        else tree
      loadAlong load tree (if path = [] then slash else path) place parts

def loadPath (load : Tree → Text → Place → IO Tree) (tree : Tree) (path : Text) : IO Tree :=
  if path = [] then return tree
  else loadAlong load tree [] (if path.head? = some '/' then root else []) (splitOn '/' path)

def loadDirectory (tree : Tree) (path : Text) (place : Place) : IO Tree := do
  return if (← directoryNames? path).isSome then
    { tree with directories := place :: tree.directories }
  else tree

/-- The part of the file system that a run with these arguments deals with. -/
def loadTree (a : CommandLine.Arguments) : IO Tree := do
  let mut tree : Tree := {}
  let inputs := if a.command = "compare" then [a.source, a.target] else [a.target]
  for path in inputs.filterMap (·.text?) do
    tree ← loadPath loadAll tree path
  for path in ([a.jsonOut, a.sqlOut, a.reportOut].filterMap id).filterMap (·.text?) do
    tree ← loadPath loadDirectory tree path
  return tree

def placeString (place : Place) : String :=
  match place with
  | [] => "."
  | first :: rest => pathString (rest.foldl join first)

def currentInstant : IO Instant := do
  let now ← Std.Time.Timestamp.now
  return Instant.ofUnix (now.toNanosecondsSinceUnixEpoch.val.toNat / 1000)

end SchemaDiff.FileSystem

open SchemaDiff SchemaDiff.FileSystem in
def main (arguments : List String) : IO UInt32 := do
  let arguments := arguments.map String.toList
  let tree ←
    match CommandLine.readArguments arguments with
    | .ok a => loadTree a
    | .error _ => pure {}
  let outcome := CommandLine.run
    { tree
      lexer := Sql.RuleTable.lexer
      connect := fun _ => .error "No connection to a database server is available"
      now := ← currentInstant
      terminal := ← (← IO.getStderr).isTty }
    arguments
  IO.print (pathString outcome.output)
  IO.eprint (pathString outcome.messages)
  for (place, bytes) in outcome.tree.changedSince tree do
    IO.FS.writeBinFile (placeString place) bytes
  return outcome.exitCode.toUInt32
