import SchemaDiff.Table
/-
Schemas: the tables of one input under distinct keys, in the order in which the keys first came up.
A table put under a key that is taken replaces the one there and keeps its place.
-/
namespace SchemaDiff
open Text

namespace Schema

def put (key : Text) (table : Table) : List (Text × Table) → List (Text × Table)
  | [] => [(key, table)]
  | (k, t) :: rest => if k = key then (k, table) :: rest else (k, t) :: put key table rest

theorem mem_keys_put {key k : Text} {table : Table} {entries : List (Text × Table)} :
    k ∈ (put key table entries).map Prod.fst ↔ k = key ∨ k ∈ entries.map Prod.fst := by
  induction entries with
  | nil => simp [put]
  | cons entry rest ih =>
    simp only [put]
    split
    · rename_i same
      simp [same]
    · simp only [List.map_cons, List.mem_cons, ih]
      exact or_left_comm

theorem nodup_keys_put {key : Text} {table : Table} {entries : List (Text × Table)}
    (distinct : (entries.map Prod.fst).Nodup) : ((put key table entries).map Prod.fst).Nodup := by
  induction entries with
  | nil => simp [put]
  | cons entry rest ih =>
    simp only [List.map_cons, List.nodup_cons] at distinct
    simp only [put]
    split
    · simpa using distinct
    · rename_i other
      simp only [List.map_cons, List.nodup_cons, mem_keys_put, not_or]
      exact ⟨⟨other, distinct.1⟩, ih distinct.2⟩

end Schema

structure Schema where
  source : Text
  entries : List (Text × Table)
  distinct : (entries.map Prod.fst).Nodup

namespace Schema

def empty (source : Text) : Schema := ⟨source, [], by simp⟩

def insert (s : Schema) (key : Text) (table : Table) : Schema :=
  ⟨s.source, put key table s.entries, nodup_keys_put s.distinct⟩

def ofEntries (source : Text) (entries : List (Text × Table)) : Schema :=
  entries.foldl (fun s entry => s.insert entry.1 entry.2) (empty source)

def ofTables (source : Text) (tables : List Table) : Schema :=
  ofEntries source (tables.map fun t => (t.name, t))

def keys (s : Schema) : List Text := s.entries.map Prod.fst

def tables (s : Schema) : List Table := s.entries.map Prod.snd

def size (s : Schema) : Nat := s.entries.length

def contains (s : Schema) (key : Text) : Bool := s.keys.contains key

def get? (s : Schema) (key : Text) : Option Table := s.entries.lookup key

/-- The first table whose name is the given one up to case. -/
def find? (s : Schema) (name : Text) : Option Table :=
  s.tables.find? fun t => lower t.name == lower name

/-- Whether two schemas hold the same tables under the same keys, in whatever order. -/
def SameTables (a b : Schema) : Prop :=
  a.size = b.size ∧ ∀ entry ∈ a.entries, ∃ t ∈ b.get? entry.1, entry.2.Agrees t

instance (a b : Schema) : Decidable (a.SameTables b) := by
  unfold SameTables
  infer_instance

def toJson (s : Schema) : Json := .object [
  ("source", .text s.source),
  ("tables", .list (s.tables.map Table.toJson))]

end Schema

end SchemaDiff
