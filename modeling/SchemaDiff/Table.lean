import SchemaDiff.Column
/- Tables, and the two ways to look up a column: by its exact name, and without regard to case. -/
namespace SchemaDiff
open Text

structure Table where
  name : Text
  columns : List Column := []
  source : Text := []
  engine : Option Text := none
  charset : Option Text := none
  collation : Option Text := none
deriving DecidableEq, Repr

namespace Table

def getColumn? (t : Table) (name : Text) : Option Column := t.columns.find? (·.name == name)

def findColumn? (t : Table) (name : Text) : Option Column :=
  t.columns.find? fun c => lower c.name == lower name

def lastColumn? (t : Table) : Option Column := t.columns.getLast?

def bare (t : Table) : Table := { t with columns := t.columns.map Column.bare }

/-- Equality of everything but the texts that the columns were read from. -/
def Agrees (a b : Table) : Prop := a.bare = b.bare

instance (a b : Table) : Decidable (a.Agrees b) := inferInstanceAs (Decidable (a.bare = b.bare))

def toJson (t : Table) : Json := .object [
  ("name", .text t.name),
  ("columns", .list (t.columns.map Column.toJson)),
  ("source", .text t.source),
  ("engine", .ofOption t.engine),
  ("charset", .ofOption t.charset),
  ("collation", .ofOption t.collation)]

end Table

end SchemaDiff
