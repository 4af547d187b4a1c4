import SchemaDiff.CommandLine.Run
import SchemaDiff.Proofs.Files.Source
import SchemaDiff.Proofs.Files.Tree
import SchemaDiff.Sql.RuleTable

/-
Runs that compare two inputs. Both are read before anything is written, and then the outputs are made
one after another, up to the first whose file cannot be opened. What is shown and what every file holds
afterwards follows from the inputs and from which paths can be opened at the start.
-/
namespace SchemaDiff.Files
open SchemaDiff.Text SchemaDiff.Log

/-- Why one of the files of an input cannot be read. -/
inductive Spoiled (tree : Tree) (file : Text) : Prop where
  | closed (obstacle : Obstacle) (stopped : tree.read file = .error obstacle)
  | notText (bytes : ByteArray) (opened : tree.read file = .ok bytes)
      (garbled : decode (withoutMark bytes) = none)

/-- Why an input cannot be read. -/
inductive Unreadable (tree : Tree) (path : Text) : Prop where
  | missing (noFile : tree.isFile path = false) (noDirectory : tree.isDirectory path = false)
  | noScripts (noFile : tree.isFile path = false) (directory : tree.isDirectory path)
      (nothing : glob tree (join path "**/*.sql") = [])
  | spoiledFile (file : tree.isFile path) (spoiled : Spoiled tree path)
  | spoiledScript (noFile : tree.isFile path = false) (directory : tree.isDirectory path)
      (script : Text) (member : script ∈ glob tree (join path "**/*.sql")) (spoiled : Spoiled tree script)

section

variable {tree : Tree}

theorem Spoiled.error {file : Text} (spoiled : Spoiled tree file) : ∃ e, readFile tree file = .error e := by
  cases spoiled with
  | closed obstacle stopped => exact ⟨.unreadable file obstacle, by simp [readFile, stopped]⟩
  | notText bytes opened garbled => exact ⟨.notText file, by simp [readFile, opened, ofFile, garbled]⟩

theorem error_readFiles {files : List Text} {file : Text} (member : file ∈ files)
    (spoiled : Spoiled tree file) : ∃ e, (readFiles tree files).result = .error e := by
  induction files with
  | nil => cases member
  | cons first others ih =>
    cases read : readFile tree first with
    | error e => exact ⟨e, by simp only [readFiles, bind, Logged.andThen, read]; rfl⟩
    | ok t =>
      rcases List.mem_cons.mp member with rfl | later
      · obtain ⟨e, failed⟩ := spoiled.error
        rw [read] at failed
        cases failed
      · obtain ⟨e, failed⟩ := ih later
        exact ⟨e, by simp only [readFiles, bind, Logged.andThen, read, failed]; rfl⟩

section

variable {path : Text}

theorem Unreadable.error (unreadable : Unreadable tree path) :
    ∃ e, (readSource tree path).result = .error e := by
  have ofFiles {files : List Text} {file : Text} (listed : sources tree path = .ok files)
      (member : file ∈ files) (spoiled : Spoiled tree file) :
      ∃ e, (readSource tree path).result = .error e := by
    obtain ⟨e, failed⟩ := error_readFiles member spoiled
    exact ⟨e, by simp only [readSource, listed, bind, Logged.andThen, failed]; rfl⟩
  cases unreadable with
  | missing noFile noDirectory =>
    exact ⟨.notFound path, by simp [readSource, sources, noFile, noDirectory, pure, Logged.just]⟩
  | noScripts noFile directory nothing =>
    exact ⟨.noScripts path, by simp [readSource, sources, noFile, directory, nothing, pure, Logged.just]⟩
  | spoiledFile file spoiled =>
    exact ofFiles (by rw [sources, if_pos file]) (List.mem_singleton_self path) spoiled
  | spoiledScript noFile directory script member spoiled =>
    exact ofFiles (sources_of_glob noFile directory (List.ne_nil_of_mem member)) member spoiled

end

end

end SchemaDiff.Files

namespace SchemaDiff.CommandLine
open SchemaDiff.Text SchemaDiff.Log SchemaDiff.Files

def Reads (tree : Tree) (given : Given) (script : Text) : Prop :=
  ∃ path, given = .text path ∧ (readSource tree path).result = .ok script

theorem Reads.unique {tree : Tree} {given : Given} {script other : Text} (read : Reads tree given script)
    (again : Reads tree given other) : other = script := by
  obtain ⟨path, rfl, found⟩ := read
  obtain ⟨_, ⟨⟩, same⟩ := again
  rw [found] at same
  cases same
  rfl

/-- A file that a run is asked to save. -/
structure Request where
  path : Text
  content : Text
  title : Text
deriving DecidableEq, Repr

namespace Request

def ofOption (title content : Text) (given : Option Given) : Option Request :=
  (present (given.bind Given.text?)).map fun path => { path, content, title }

def announcement (r : Request) : Text := r.title ++ " saved to " ++ r.path

def output (r : Request) : Output := .save r.path r.content r.announcement

def opens (tree : Tree) (r : Request) : Bool := (tree.writable? r.path).isSome

end Request

section

variable {s : Surroundings} {a : Arguments}

variable (command : a.command = lit "compare")

include command

variable {arguments : List Text} (accepted : readArguments arguments = .ok a)

include accepted

end

end SchemaDiff.CommandLine
