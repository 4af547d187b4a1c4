import SchemaDiff.Proofs.Comparison.Matching
import SchemaDiff.Proofs.Comparison.Placement

/-
The statements of a comparison against its records: which columns go into which statement, when there
are statements at all, and how each one ends.
-/
namespace SchemaDiff
open Text Ddl Comparison

def Schema.nameFor (s : Schema) (name : Text) : Text := ((s.find? name).map Table.name).getD name

/-- The columns that one side lacks, in the order of their records, each with the name under which the
source has the table. -/
def filedColumns (a b : Schema) : List (Text × Column) :=
  (missingColumnsOf a b).map (fun m => (m.tableName, m.column)) ++
    (missingColumnsOf b a).map fun m => (a.nameFor m.tableName, m.column)

section

variable (style : Style) (a b : Schema)

theorem snd_filedColumns :
    (filedColumns a b).map Prod.snd = (compare style a b).missingColumns.map (·.column) := by
  simp [filedColumns, compare, Function.comp_def]

theorem map_additions :
    (additions a b).map (fun x => (x.tableName, x.column)) = filedColumns a b := by
  rw [additions, filedColumns, List.map_append, missingColumnsOf, missingColumnsOf]
  congr 1
  · simp [List.map_flatMap, Function.comp_def]
  -- The source's name for the table is that of the match.
  · rw [List.map_flatMap, List.map_flatMap]
    apply List.flatMap_congr
    rintro ⟨u, t⟩ pair
    have name : a.nameFor u.name = t.name := by
      rw [Schema.nameFor, (Schema.mem_matched.mp pair).2]
      rfl
    simp [name, Function.comp_def]

theorem additions_eq_nil : additions a b = [] ↔ (compare style a b).missingColumns = [] := by
  rw [← List.map_eq_nil_iff (f := fun x : Addition => (x.tableName, x.column)), map_additions,
    ← List.map_eq_nil_iff (f := Prod.snd), snd_filedColumns style, List.map_eq_nil_iff]

theorem map_modifications :
    (modifications a b).map (fun m => (m.declaredIn.name, m.column)) =
      (compare style a b).differentColumns.map fun d => (d.tableName, d.source) := by
  rw [modifications, compare, differencesOf, List.map_flatMap, List.map_flatMap]
  simp [Function.comp_def]

theorem modifications_eq_nil :
    modifications a b = [] ↔ (compare style a b).differentColumns = [] := by
  rw [← List.map_eq_nil_iff (f := fun m : Modification => (m.declaredIn.name, m.column)),
    map_modifications style, List.map_eq_nil_iff]

end

/-- The collation that text columns inherit in the statement that modifies some columns. -/
def inherited (group : List Modification) : Option Text := group.head?.bind (·.declaredIn.collation)

section

variable (style : Style) (a b : Schema)

theorem createStatements_eq_nil :
    (compare style a b).createStatements = [] ↔ (compare style a b).missingTables = [] :=
  List.map_eq_nil_iff

theorem addStatements_eq_nil :
    (compare style a b).addStatements = [] ↔ (compare style a b).missingColumns = [] :=
  List.map_eq_nil_iff.trans (gather_eq_nil.trans (additions_eq_nil style a b))

theorem modifyStatements_eq_nil :
    (compare style a b).modifyStatements = [] ↔ (compare style a b).differentColumns = [] :=
  List.map_eq_nil_iff.trans (gather_eq_nil.trans (modifications_eq_nil style a b))

theorem hasDifferences_eq_false {c : Comparison} :
    c.hasDifferences = false ↔
      c.missingTables = [] ∧ c.missingColumns = [] ∧ c.differentColumns = [] := by
  simp [hasDifferences, and_assoc]

theorem statements_eq_nil :
    (compare style a b).statements = [] ↔ (compare style a b).hasDifferences = false := by
  rw [statements, List.append_eq_nil_iff, List.append_eq_nil_iff, createStatements_eq_nil,
    addStatements_eq_nil, modifyStatements_eq_nil, hasDifferences_eq_false, and_assoc]

end

end SchemaDiff
