import SchemaDiff.Table
/-
Writing statements that create a table, add columns to one, or modify its columns. Character sets
and collations of columns, and the collations of tables, are written only where the style asks for
them. An empty name, character set, collation or engine counts as absent.
-/
namespace SchemaDiff.Ddl
open SchemaDiff.Text

inductive Quoting where
  | backticks
  | bare
deriving DecidableEq, Repr

structure Style where
  quoting : Quoting := .backticks
  collations : Bool := true
deriving DecidableEq, Repr

/-- The types that take their table's collation when they have none of their own. -/
def textTypes : List Text := ["VARCHAR", "CHAR", "TEXT", "TINYTEXT", "MEDIUMTEXT", "LONGTEXT"]

def clause (lead : Text) (value : Option Text) : Text := value.elim [] (lead ++ ·)

def clauseLines (clauses : List Text) : Text :=
  (lit ",\n").intercalate (clauses.map fun c => "  " ++ c)

namespace Style

def identifier (style : Style) (name : Text) : Text :=
  match style.quoting with
  | .backticks => '\x60' :: doubled '\x60' name ++ ['\x60']
  | .bare => name

def effectiveCollation (tableCollation : Option Text) (c : Column) : Option Text :=
  (present c.collation).or
    (if textTypes.contains c.baseType then present tableCollation else none)

/-- A column with all that is written about it. `tableCollation` is the collation that a text column
takes when it has none of its own. A column that may be null says so only if `sayNull` holds. -/
def column (style : Style) (tableCollation : Option Text) (sayNull : Bool) (c : Column) : Text :=
  style.identifier c.name ++ " " ++ c.dataType
  ++ provided style.collations
      (clause " CHARACTER SET " (present c.charset)
        ++ clause " COLLATE " (effectiveCollation tableCollation c))
  ++ (if c.isNullable then provided sayNull " NULL" else " NOT NULL")
  ++ clause " DEFAULT " c.defaultValue
  ++ provided c.autoIncrement " AUTO_INCREMENT"

def createTable (style : Style) (t : Table) : Text :=
  "CREATE TABLE " ++ style.identifier t.name ++ " (\n"
  ++ clauseLines (t.columns.map (style.column none false)) ++ "\n)"
  ++ clause " ENGINE=" (present t.engine)
  ++ clause " DEFAULT CHARSET=" (present t.charset)
  ++ provided style.collations (clause " COLLATE=" (present t.collation))
  ++ ";"

def alterTable (style : Style) (tableName : Text) (clauses : List Text) : Text :=
  "ALTER TABLE " ++ style.identifier tableName ++ "\n" ++ clauseLines clauses ++ ";"

/-- The clauses that add columns, each after the one before it; `previous` is the column that the
first one comes after. With each column comes the table that declares it. -/
def addClauses (style : Style) (previous : Option Text) :
    List (Column × Option Table) → List Text
  | [] => []
  | (c, declaredIn) :: others =>
    ("ADD COLUMN " ++ style.column (declaredIn.bind (·.collation)) true c
      ++ clause " AFTER " ((present previous).map style.identifier))
    :: addClauses style (some c.name) others

def addColumns (style : Style) (tableName : Text) (columns : List (Column × Option Table))
    (anchor : Option Table) : Text :=
  if columns = [] then []
  else
    let last := anchor.bind (·.lastColumn?)
    style.alterTable tableName (style.addClauses (last.map (·.name)) columns)

def modifyColumns (style : Style) (tableName : Text) (columns : List Column)
    (declaredIn : Option Table) : Text :=
  if columns = [] then []
  else
    style.alterTable tableName (columns.map fun c =>
      "MODIFY COLUMN " ++ style.column (declaredIn.bind (·.collation)) true c)

end Style

end SchemaDiff.Ddl
