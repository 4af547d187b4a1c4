import SchemaDiff.Files.Source
import SchemaDiff.Proofs.Ddl.Dump
import SchemaDiff.Proofs.Files.Glob
import SchemaDiff.Proofs.Sql.Continuation
import SchemaDiff.Sql.RuleTable

/-
Directories of scripts. The scripts are read in the order of their paths, and where each of them is self-contained,
the schema of the directory is the merger of the schemas of its scripts.
-/
namespace SchemaDiff.Text

theorem not_mem_unixLines (t : Text) : '\r' ∉ unixLines t := by
  fun_induction unixLines t with
  | case1 rest ih => simpa using ih
  | case2 rest other ih => simpa using ih
  | case3 c rest other single ih =>
    have kept : '\r' ≠ c := by
      rintro rfl
      exact single rfl
    simp [kept, ih]
  | case4 => simp

end SchemaDiff.Text

namespace SchemaDiff.Files
open SchemaDiff.Text SchemaDiff.Log SchemaDiff.Sql

section

variable {tree : Tree} {paths texts : List Text}

theorem not_mem_of_readFile {path t : Text} (read : readFile tree path = .ok t) : '\r' ∉ t := by
  unfold readFile at read
  split at read
  · contradiction
  · rename_i bytes _
    cases decoded : decode (withoutMark bytes) with
    | none => simp [ofFile, decoded] at read
    | some s =>
      have lines : unixLines s = t := by simpa [ofFile, decoded] using read
      exact lines ▸ not_mem_unixLines s

theorem result_readFiles (read : List.Forall₂ (fun p t => readFile tree p = .ok t) paths texts) :
    (readFiles tree paths).result = .ok texts := by
  induction read with
  | nil => rfl
  | cons first others ih =>
    simp only [readFiles, bind, Logged.andThen, first, ih]
    rfl

theorem not_mem_of_forall₂ (read : List.Forall₂ (fun p t => readFile tree p = .ok t) paths texts) :
    ∀ t ∈ texts, '\r' ∉ t := by
  induction read with
  | nil => simp
  | cons first others ih =>
    simp only [List.forall_mem_cons]
    exact ⟨not_mem_of_readFile first, ih⟩

variable {path : Text} {place : Place}

theorem sources_of_glob (notFile : tree.isFile path = false) (directory : tree.isDirectory path)
    (solid : glob tree (join path "**/*.sql") ≠ []) :
    sources tree path = .ok (glob tree (join path "**/*.sql")) := by
  rw [sources, notFile, directory]
  cases found : glob tree (join path "**/*.sql") with
  | nil => exact absurd found solid
  | cons p others => rfl

theorem sources_directory (wellFormed : tree.WellFormed) (reached : tree.locate path = .ok place)
    (directory : tree.isDirectoryAt place) (noWildcard : isWild path = false)
    (noFolder : ∀ parts, IsScript parts → ¬tree.isDirectoryAt (place ++ parts))
    (solid : scripts tree path place ≠ []) : sources tree path = .ok (scripts tree path place) := by
  have listed := glob_scripts wellFormed reached directory noWildcard noFolder
  have notFile : tree.isFile path = false := by
    rw [Tree.isFile, reached]
    refine Bool.eq_false_iff.mpr fun file => ?_
    obtain ⟨entry, member, rfl⟩ := List.mem_map.mp (Tree.isFileAt_iff.mp file)
    exact wellFormed.apart entry member directory
  have folder : tree.isDirectory path := by rwa [Tree.isDirectory_of_locate reached]
  rw [← listed] at solid ⊢
  exact sources_of_glob notFile folder solid

theorem result_readSource (listed : sources tree path = .ok paths)
    (read : List.Forall₂ (fun p t => readFile tree p = .ok t) paths texts) :
    (readSource tree path).result = .ok (lines texts) := by
  simp only [readSource, listed, bind, Logged.andThen, result_readFiles read]
  rfl

/-- The scripts below a directory, read in the order of their paths, give the merger of what each of them
gives, if each but the last leaves nothing open and ends in a semicolon, and no later one begins with a
further mark. -/
theorem readSchema_directory {lexer : Lexer} (wellFormed : tree.WellFormed)
    (reached : tree.locate path = .ok place) (directory : tree.isDirectoryAt place)
    (noWildcard : isWild path = false)
    (noFolder : ∀ parts, IsScript parts → ¬tree.isDirectoryAt (place ++ parts))
    (solid : scripts tree path place ≠ [])
    (read : List.Forall₂ (fun p t => readFile tree p = .ok t) (scripts tree path place) texts)
    (heeds : ∀ t ∈ texts, HeedsQuotes lexer (afterMarks t))
    (heedsLines : HeedsQuotes lexer (afterMarks (lines texts)))
    (alone : ∀ t ∈ texts.dropLast, SelfContained lexer t)
    (noMark : ∀ t ∈ texts.tail, t.head? ≠ some byteOrderMark) (label : Text) :
    sources tree path = .ok (scripts tree path place) ∧
      (scripts tree path place).Pairwise (fun p q => comesFirst p q) ∧
      ∃ script, (readSource tree path).result = .ok script ∧
        (Ddl.readSchema lexer label script).source = label ∧
        Schema.Merges (texts.map (Ddl.readSchema lexer label)) (Ddl.readSchema lexer label script) := by
  have listed := sources_directory wellFormed reached directory noWildcard noFolder solid
  refine ⟨listed, pairwise_mergeSort _, lines texts, result_readSource listed read,
    Ddl.source_readSchema lexer label _, ?_⟩
  apply Ddl.readSchema_of_parts
  exact statements_normalize_lines (not_mem_of_forall₂ read) heeds heedsLines alone noMark

theorem readSchema_directory_two_files :
    let first : Text := "/* ' */ CREATE TABLE a (x INT DEFAULT '-- ;');\n-- CREATE"
    let second : Text := "CREATE TABLE b (y INT)"
    let tree : Tree := { files := [(["d", "a.sql"], encode first), (["d", "e", "b.sql"], encode second),
      (["d", ".c.sql"], encode "DROP"), (["f.sql"], encode "")] }
    let paths : List Text := ["d/a.sql", "d/e/b.sql"]
    let texts := [first, second]
    (tree.WellFormed ∧ tree.locate "d" = .ok ["d"] ∧ tree.isDirectoryAt ["d"] ∧ isWild "d" = false ∧
      (∀ parts, IsScript parts → ¬tree.isDirectoryAt ([lit "d"] ++ parts)) ∧
      scripts tree "d" ["d"] = paths ∧
      List.Forall₂ (fun p t => readFile tree p = .ok t) paths texts ∧
      (∀ t ∈ texts, HeedsQuotes RuleTable.lexer (afterMarks t)) ∧
      HeedsQuotes RuleTable.lexer (afterMarks (lines texts)) ∧
      (∀ t ∈ texts.dropLast, SelfContained RuleTable.lexer t) ∧
      ∀ t ∈ texts.tail, t.head? ≠ some byteOrderMark) ∧
    sources tree "d" = .ok paths ∧ paths.Pairwise (fun p q => comesFirst p q) ∧
      ∃ script, (readSource tree "d").result = .ok script ∧
        (Ddl.readSchema RuleTable.lexer "db" script).source = lit "db" ∧
        Schema.Merges (texts.map (Ddl.readSchema RuleTable.lexer "db"))
          (Ddl.readSchema RuleTable.lexer "db" script) := by
  intro first second tree paths texts
  have wellFormed : tree.WellFormed := by decide +kernel
  have reached : tree.locate "d" = .ok ["d"] := by decide +kernel
  have directory : tree.isDirectoryAt ["d"] := by decide +kernel
  have noWildcard : isWild "d" = false := by decide
  have noFolder : ∀ parts, IsScript parts → ¬tree.isDirectoryAt ([lit "d"] ++ parts) := fun _ =>
    not_isDirectoryAt_of_isScript wellFormed (by decide +kernel)
  have listed : scripts tree "d" ["d"] = paths := scripts_of_sorted (by decide +kernel) (by decide)
  have solid : scripts tree "d" ["d"] ≠ [] := by simp [listed, paths]
  have read : List.Forall₂ (fun p t => readFile tree p = .ok t) paths texts :=
    .cons (by decide +kernel) (.cons (by decide +kernel) .nil)
  have heeds : ∀ t ∈ texts, HeedsQuotes RuleTable.lexer (afterMarks t) := by decide +kernel
  have heedsLines : HeedsQuotes RuleTable.lexer (afterMarks (lines texts)) := by decide +kernel
  have alone : ∀ t ∈ texts.dropLast, SelfContained RuleTable.lexer t := by
    simp only [texts, List.dropLast_cons_cons, List.dropLast_singleton, List.forall_mem_singleton]
    exact ⟨by decide +kernel, by decide +kernel, by decide +kernel⟩
  have noMark : ∀ t ∈ texts.tail, t.head? ≠ some byteOrderMark := by decide
  refine ⟨⟨wellFormed, reached, directory, noWildcard, noFolder, listed, read, heeds, heedsLines, alone, noMark⟩, ?_⟩
  rw [← listed] at read ⊢
  exact readSchema_directory wellFormed reached directory noWildcard noFolder solid read heeds heedsLines alone
    noMark "db"

/-- Brackets in the path of a directory are read as a set of characters, and its scripts are not found. -/
example :
    let tree : Tree := { files := [(["d[1]", "a.sql"], encode "CREATE TABLE a (x INT);")] }
    tree.isDirectory "d[1]" ∧ sources tree "d[1]" = .error (.noScripts "d[1]") := by
  decide +kernel

/-- A script that ends without a semicolon runs on into the next one, whose table is lost. -/
theorem readSchema_directory_unterminated :
    let texts : List Text := ["CREATE TABLE a (x INT)", "CREATE TABLE b (y INT)"]
    let tree : Tree := { files := [(["d", "a.sql"], encode "CREATE TABLE a (x INT)"),
      (["d", "b.sql"], encode "CREATE TABLE b (y INT)")] }
    List.Forall₂ (fun p t => readFile tree p = .ok t) (scripts tree "d" ["d"]) texts ∧
      texts.map (fun t => (Ddl.readSchema RuleTable.lexer "db" t).keys) = [[lit "a"], [lit "b"]] ∧
      (readSource tree "d").result = .ok (lines texts) ∧
      (Ddl.readSchema RuleTable.lexer "db" (lines texts)).keys = [lit "a"] := by
  intro texts tree
  have wellFormed : tree.WellFormed := by decide +kernel
  have listed : scripts tree "d" ["d"] = [lit "d/a.sql", lit "d/b.sql"] :=
    scripts_of_sorted (by decide +kernel) (by decide)
  have read : List.Forall₂ (fun p t => readFile tree p = .ok t) (scripts tree "d" ["d"]) texts := by
    rw [listed]
    exact .cons (by decide +kernel) (.cons (by decide +kernel) .nil)
  have keys : texts.map (fun t => (Ddl.readSchema RuleTable.lexer "db" t).keys) = [[lit "a"], [lit "b"]] ∧
      (Ddl.readSchema RuleTable.lexer "db" (lines texts)).keys = [lit "a"] := by
    decide +kernel
  have sourced : sources tree "d" = .ok (scripts tree "d" ["d"]) :=
    sources_directory wellFormed (by decide +kernel) (by decide +kernel) (by decide)
      (fun _ => not_isDirectoryAt_of_isScript wellFormed (by decide +kernel)) (by simp [listed])
  exact ⟨read, keys.1, result_readSource sourced read, keys.2⟩

end

end SchemaDiff.Files
