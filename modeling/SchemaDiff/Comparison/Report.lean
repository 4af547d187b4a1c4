import SchemaDiff.Comparison
import SchemaDiff.Instant
/-
Two texts about a comparison: the report, which is a script with a commented summary in front of the
statements, and the plan, which lists the differences for a reader at a console.
-/
namespace SchemaDiff
open Text

def joinStatements (statements : List Text) : Text :=
  (lit "\n\n").intercalate (statements.filter (· ≠ []))

namespace Comparison

def remark (t : Text) : Text := "-- " ++ t ++ "\n"

def counted (label : Text) (n : Nat) : Text := remark (label ++ ": " ++ ofNat n)

def createSection (c : Comparison) : Text :=
  provided (c.createStatements ≠ [])
    (remark "CREATE TABLE QUERIES FOR MISSING TABLES:"
    ++ remark "Execute these queries to create missing tables" ++ "\n"
    ++ joinStatements c.createStatements ++ "\n\n")

/-- The statements that add columns, or a note where no column has to be added or modified. -/
def addSection (c : Comparison) : Text :=
  if c.addStatements ≠ [] then
    remark "ALTER TABLE QUERIES TO ADD MISSING COLUMNS:"
    ++ remark "Execute these queries to add missing columns" ++ "\n"
    ++ joinStatements c.addStatements ++ "\n"
  else if c.modifyStatements = [] then
    remark "No ALTER TABLE queries needed." ++ remark "All column structures are in sync!"
  else []

def modifySection (c : Comparison) : Text :=
  provided (c.modifyStatements ≠ [])
    ("\n" ++ remark "ALTER TABLE QUERIES TO MODIFY DIFFERENT COLUMNS:"
    ++ remark ("Column definitions are taken from " ++ c.sourceLabel) ++ "\n"
    ++ joinStatements c.modifyStatements ++ "\n")

def report (c : Comparison) (sourceName targetName : Text) (generatedAt : Instant) : Text :=
  remark "SQompare Database Structure Comparison Report"
  ++ remark ("Generated on: " ++ generatedAt.iso "+00:00")
  ++ remark (c.sourceLabel ++ ": " ++ sourceName)
  ++ remark (c.targetLabel ++ ": " ++ targetName) ++ "\n"
  ++ remark "SUMMARY:"
  ++ counted "Missing Tables" c.missingTables.length
  ++ counted "Missing Columns" c.missingColumns.length
  ++ counted "Different Columns" c.differentColumns.length
  ++ counted "Matching Tables" c.matchingTables.length ++ "\n"
  ++ createSection c ++ addSection c ++ modifySection c

structure Palette where
  added : Text
  changed : Text
  reset : Text

def Palette.coloured : Palette := ⟨"\x1b[92m", "\x1b[93m", "\x1b[0m"⟩

def Palette.plain : Palette := ⟨[], [], []⟩

def Palette.line (p : Palette) (colour t : Text) : Text := colour ++ t ++ p.reset ++ "\n"

def missingTableLines (p : Palette) (m : MissingTable) : Text :=
  p.line p.added ("  + Create Table: " ++ m.table.name ++ " (missing from " ++ m.missingFrom ++ ")")
  ++ m.table.columns.flatMap fun c =>
    p.line p.added ("    + Column: " ++ c.name ++ " (" ++ c.dataType ++ ")")

def missingColumnLine (p : Palette) (m : MissingColumn) : Text :=
  p.line p.added ("  + Add Column: " ++ m.tableName ++ "." ++ m.column.name ++ " ("
    ++ m.column.dataType ++ ") missing from " ++ m.missingFrom)

def differenceLines (p : Palette) (d : ColumnDifference) : Text :=
  p.line p.changed ("  ~ Modify Column: " ++ d.tableName ++ "." ++ d.source.name)
  ++ d.changes.flatMap fun change => p.line p.changed ("      ~ " ++ change.describe)

def plan (c : Comparison) (p : Palette) : Text :=
  "Comparison Plan (" ++ c.sourceLabel ++ " vs " ++ c.targetLabel ++ "):\n"
  ++ c.missingTables.flatMap (missingTableLines p)
  ++ c.missingColumns.flatMap (missingColumnLine p)
  ++ c.differentColumns.flatMap (differenceLines p)
  ++ provided (c.matchingTables ≠ [])
      ("  = Matching Tables: " ++ ofNat c.matchingTables.length ++ "\n")
  ++ provided (!c.hasDifferences) "No differences detected.\n"

end Comparison

end SchemaDiff
