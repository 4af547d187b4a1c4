import SchemaDiff.Ddl.Render
import SchemaDiff.Schema
/-
The comparison of two schemas, called source and target. Tables and columns are matched by name up
to case, each with the first match on the other side. What one side lacks is reported in both
directions; attributes of matched columns are compared once, and the source's are the ones to keep.
With the records come the statements that bring the two sides together.
-/
namespace SchemaDiff
open Text Ddl

structure MissingTable where
  presentIn : Text
  missingFrom : Text
  table : Table
deriving DecidableEq, Repr

structure MissingColumn where
  tableName : Text
  column : Column
  missingFrom : Text
deriving DecidableEq, Repr

structure ColumnDifference where
  tableName : Text
  source : Column
  target : Column
deriving DecidableEq, Repr

def ColumnDifference.changes (d : ColumnDifference) : List Change := d.source.changes d.target

structure Comparison where
  sourceLabel : Text
  targetLabel : Text
  collations : Bool
  missingTables : List MissingTable
  missingColumns : List MissingColumn
  differentColumns : List ColumnDifference
  matchingTables : List Text
  createStatements : List Text
  addStatements : List Text
  modifyStatements : List Text
deriving DecidableEq, Repr

namespace Schema

def unmatched (a b : Schema) : List Table := a.tables.filter fun t => (b.find? t.name).isNone

def matched (a b : Schema) : List (Table × Table) :=
  a.tables.filterMap fun t => (b.find? t.name).map (t, ·)

end Schema

namespace Table

def unmatched (a b : Table) : List Column :=
  a.columns.filter fun c => (b.findColumn? c.name).isNone

def different (a b : Table) : List (Column × Column) :=
  (a.columns.filterMap fun c => (b.findColumn? c.name).map (c, ·)).filter fun pair =>
    pair.1.changes pair.2 ≠ []

end Table

/-- The items gathered by key, the keys in the order in which they first come up. -/
def gather {α : Type} (key : α → Text) (items : List α) : List (Text × List α) :=
  (items.map key).eraseDups.map fun k => (k, items.filter (key · == k))

/-- A column to be added, with the name under which the source has the table, the table that
declares the column, and the table to which it is to be added. -/
structure Addition where
  tableName : Text
  column : Column
  declaredIn : Table
  addedTo : Table
deriving DecidableEq, Repr

structure Modification where
  column : Column
  declaredIn : Table
deriving DecidableEq, Repr

namespace Comparison

def missingTablesOf (a b : Schema) : List MissingTable :=
  (a.unmatched b).map fun t => ⟨a.source, b.source, t⟩

def missingColumnsOf (a b : Schema) : List MissingColumn :=
  (a.matched b).flatMap fun (t, u) => (t.unmatched u).map fun c => ⟨t.name, c, b.source⟩

def differencesOf (a b : Schema) : List ColumnDifference :=
  (a.matched b).flatMap fun (t, u) => (t.different u).map fun (c, d) => ⟨t.name, c, d⟩

/-- The columns to add to the target, and then those to add to the source. -/
def additions (a b : Schema) : List Addition :=
  ((a.matched b).flatMap fun (t, u) => (t.unmatched u).map fun c => ⟨t.name, c, t, u⟩)
  ++ ((b.matched a).flatMap fun (u, t) => (u.unmatched t).map fun c => ⟨t.name, c, u, t⟩)

def modifications (a b : Schema) : List Modification :=
  (a.matched b).flatMap fun (t, u) => (t.different u).map fun (c, _) => ⟨c, t⟩

def addStatement (style : Style) (tableName : Text) (additions : List Addition) : Text :=
  style.addColumns tableName (additions.map fun x => (x.column, some x.declaredIn))
    (additions.head?.map (·.addedTo))

def modifyStatement (style : Style) (tableName : Text) (modifications : List Modification) : Text :=
  style.modifyColumns tableName (modifications.map (·.column))
    (modifications.head?.map (·.declaredIn))

end Comparison

open Comparison in
/-- The comparison of `a`, the source, with `b`, the target. -/
def compare (style : Style) (a b : Schema) : Comparison :=
  let missingTables := missingTablesOf a b ++ missingTablesOf b a
  { sourceLabel := a.source
    targetLabel := b.source
    collations := style.collations
    missingTables
    missingColumns := missingColumnsOf a b ++ missingColumnsOf b a
    differentColumns := differencesOf a b
    matchingTables := (a.matched b).map (·.1.name)
    createStatements := missingTables.map fun m => style.createTable m.table
    addStatements := (gather Addition.tableName (additions a b)).map fun (name, group) =>
      addStatement style name group
    modifyStatements :=
      (gather (fun m : Modification => m.declaredIn.name) (modifications a b)).map
        fun (name, group) => modifyStatement style name group }

namespace Comparison

def hasDifferences (c : Comparison) : Bool :=
  !(c.missingTables.isEmpty && c.missingColumns.isEmpty && c.differentColumns.isEmpty)

def statements (c : Comparison) : List Text :=
  c.createStatements ++ c.addStatements ++ c.modifyStatements

end Comparison

def MissingTable.toJson (m : MissingTable) : Json := .object [
  ("table_name", .text m.table.name),
  ("present_in", .text m.presentIn),
  ("missing_from", .text m.missingFrom),
  ("column_count", .number m.table.columns.length),
  ("table", m.table.toJson)]

def MissingColumn.toJson (m : MissingColumn) : Json := .object [
  ("table_name", .text m.tableName),
  ("column_name", .text m.column.name),
  ("data_type", .text m.column.dataType),
  ("missing_from", .text m.missingFrom),
  ("is_nullable", .bool m.column.isNullable),
  ("column", m.column.toJson)]

def ColumnDifference.toJson (d : ColumnDifference) : Json := .object [
  ("table_name", .text d.tableName),
  ("column_name", .text d.source.name),
  ("source_column", d.source.toJson),
  ("target_column", d.target.toJson),
  ("differences", .texts (d.changes.map Change.describe))]

def Comparison.fields (c : Comparison) : List (Text × Json) := [
  ("source_label", .text c.sourceLabel),
  ("target_label", .text c.targetLabel),
  ("include_collation", .bool c.collations),
  ("missing_tables", .list (c.missingTables.map MissingTable.toJson)),
  ("missing_columns", .list (c.missingColumns.map MissingColumn.toJson)),
  ("different_columns", .list (c.differentColumns.map ColumnDifference.toJson)),
  ("matching_tables", .texts c.matchingTables),
  ("create_table_queries", .texts c.createStatements),
  ("alter_queries", .texts c.addStatements),
  ("modify_queries", .texts c.modifyStatements)]

def Comparison.toJson (c : Comparison) : Json := .object c.fields

end SchemaDiff
