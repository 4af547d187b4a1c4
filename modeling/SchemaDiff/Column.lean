import SchemaDiff.Json
import SchemaDiff.Text.Blank
import SchemaDiff.Text.Case
/-
Columns, and the changes between two columns of one name.
-/
namespace SchemaDiff
open Text

def present (t : Option Text) : Option Text := t.filter (· ≠ [])

structure Column where
  name : Text
  dataType : Text := "TEXT"
  isNullable : Bool := true
  defaultValue : Option Text := none
  autoIncrement : Bool := false
  charset : Option Text := none
  collation : Option Text := none
  /-- The text that the column was read from. -/
  definition : Text := []
deriving DecidableEq, Repr

/-- An attribute in which two columns differ, with its value in the one and in the other. -/
inductive Change where
  | dataType (source target : Text)
  | nullable (source target : Bool)
  | defaultValue (source target : Option Text)
  | autoIncrement (source target : Bool)
  | charset (source target : Option Text)
  | collation (source target : Option Text)
deriving DecidableEq, Repr

namespace Change

def yesNo (b : Bool) : Text := if b then "YES" else "NO"

def versus (label source target : Text) : Text := label ++ ": " ++ source ++ " vs " ++ target

def describe : Change → Text
  | dataType s t => versus "Data type" s t
  | nullable s t => versus "Nullable" (yesNo s) (yesNo t)
  | defaultValue s t => versus "Default" ((present s).getD "NULL") ((present t).getD "NULL")
  | autoIncrement s t => versus "Auto increment" (yesNo s) (yesNo t)
  | charset s t => versus "Charset" ((present s).getD "default") ((present t).getD "default")
  | collation s t => versus "Collation" ((present s).getD "default") ((present t).getD "default")

def swap : Change → Change
  | dataType s t => dataType t s
  | nullable s t => nullable t s
  | defaultValue s t => defaultValue t s
  | autoIncrement s t => autoIncrement t s
  | charset s t => charset t s
  | collation s t => collation t s

end Change

namespace Column

def changes (a b : Column) : List Change :=
  (if a.dataType = b.dataType then [] else [.dataType a.dataType b.dataType])
  ++ (if a.isNullable = b.isNullable then [] else [.nullable a.isNullable b.isNullable])
  ++ (if a.defaultValue = b.defaultValue then [] else [.defaultValue a.defaultValue b.defaultValue])
  ++ (if a.autoIncrement = b.autoIncrement then []
      else [.autoIncrement a.autoIncrement b.autoIncrement])
  ++ (if a.charset = b.charset then [] else [.charset a.charset b.charset])
  ++ (if a.collation = b.collation then [] else [.collation a.collation b.collation])

def bare (c : Column) : Column := { c with definition := [] }

/-- Equality of everything but the texts that the columns were read from. -/
def Agrees (a b : Column) : Prop := a.bare = b.bare

instance (a b : Column) : Decidable (a.Agrees b) := inferInstanceAs (Decidable (a.bare = b.bare))

def baseType (c : Column) : Text := upper (trim (c.dataType.takeWhile (· ≠ '(')))

def summary (c : Column) : Text :=
  lit "Column(name='" ++ c.name ++ "', type='" ++ c.dataType ++ "')"

def fields (c : Column) : List (Text × Json) := [
  ("name", .text c.name),
  ("data_type", .text c.dataType),
  ("is_nullable", .bool c.isNullable),
  ("default_value", .ofOption c.defaultValue),
  ("auto_increment", .bool c.autoIncrement),
  ("charset", .ofOption c.charset),
  ("collation", .ofOption c.collation),
  ("raw_definition", .text c.definition)]

def toJson (c : Column) : Json := .object c.fields

end Column

end SchemaDiff
