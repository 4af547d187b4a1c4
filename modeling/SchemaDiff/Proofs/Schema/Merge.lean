import Mathlib.Data.List.Induction
import SchemaDiff.Proofs.Schema

/-
Merging schemas from left to right. A name that comes up again keeps its first place and takes its last
table. Tables put into one schema in turn give the merger of the schemas that hold them by stretches.
-/
namespace SchemaDiff.Schema
open Text

/-- The keys stand in the order in which the parts first bring them up, and under each key is the table
that the parts give last. -/
structure Merges (parts : List Schema) (s : Schema) : Prop where
  keys : s.keys = (parts.flatMap Schema.keys).eraseDups
  get? : ∀ key, s.get? key = (parts.flatMap Schema.entries).reverse.lookup key

section

variable {key other : Text} {table former : Table} {entries : List (Text × Table)}

theorem keys_put : (put key table entries).map Prod.fst =
    if key ∈ entries.map Prod.fst then entries.map Prod.fst else entries.map Prod.fst ++ [key] := by
  induction entries with
  | nil => simp [put]
  | cons entry rest ih =>
    simp only [put]
    by_cases same : entry.1 = key
    · simp [same]
    · simp only [same, ↓reduceIte, List.map_cons, ih, List.mem_cons, Ne.symm same, false_or]
      split <;> rfl

theorem lookup_entry (entry : Text × Table) (rest : List (Text × Table)) (key : Text) :
    (entry :: rest).lookup key = if key = entry.1 then some entry.2 else rest.lookup key := by
  obtain ⟨first, value⟩ := entry
  rw [List.lookup_cons]
  by_cases found : key = first
  · simp [found]
  · rw [if_neg found, beq_eq_false_iff_ne.mpr found]

theorem lookup_put : (put key table entries).lookup other =
    if other = key then some table else entries.lookup other := by
  induction entries with
  | nil => rw [put, lookup_entry]
  | cons entry rest ih =>
    rw [put]
    by_cases same : entry.1 = key
    · rw [if_pos same, lookup_entry, lookup_entry, same]
      split <;> rfl
    · rw [if_neg same, lookup_entry, lookup_entry, ih]
      by_cases found : other = entry.1
      · simp [found, same]
      · simp [found]

theorem put_put : put key table (put key former entries) = put key table entries := by
  induction entries with
  | nil => simp [put]
  | cons entry rest ih => by_cases same : entry.1 = key <;> simp [put, same, ih]

theorem put_comm (taken : key ∈ entries.map Prod.fst) (apart : other ≠ key) :
    put key table (put other former entries) = put other former (put key table entries) := by
  induction entries with
  | nil => simp at taken
  | cons entry rest ih =>
    by_cases first : entry.1 = key
    · have notOther : entry.1 ≠ other := fun same => apart (same.symm.trans first)
      simp [put, first, Ne.symm apart]
    · have later : key ∈ rest.map Prod.fst := by simpa [Ne.symm first] using taken
      by_cases second : entry.1 = other
      · simp [put, second, apart]
      · simp [put, first, second, ih later]

end

def putAll (entries added : List (Text × Table)) : List (Text × Table) :=
  added.foldl (fun entries entry => put entry.1 entry.2 entries) entries

section

variable {key : Text} {table : Table} {entries added : List (Text × Table)}

theorem put_putAll (taken : key ∈ entries.map Prod.fst) (absent : key ∉ added.map Prod.fst) :
    put key table (putAll entries added) = putAll (put key table entries) added := by
  induction added generalizing entries with
  | nil => rfl
  | cons entry later ih =>
    simp only [List.map_cons, List.mem_cons, not_or] at absent
    have still : key ∈ (put entry.1 entry.2 entries).map Prod.fst :=
      mem_keys_put.mpr (.inr taken)
    simp only [putAll, List.foldl_cons] at ih ⊢
    rw [ih still absent.2, put_comm taken (Ne.symm absent.1)]

theorem putAll_put (distinct : (added.map Prod.fst).Nodup) :
    putAll entries (put key table added) = put key table (putAll entries added) := by
  induction added generalizing entries with
  | nil => rfl
  | cons entry later ih =>
    rw [List.map_cons, List.nodup_cons] at distinct
    rw [put]
    by_cases same : entry.1 = key
    · subst same
      have taken : entry.1 ∈ (put entry.1 entry.2 entries).map Prod.fst := mem_keys_put.mpr (.inl rfl)
      have again : put entry.1 table (putAll (put entry.1 entry.2 entries) later) =
          putAll (put entry.1 table (put entry.1 entry.2 entries)) later := put_putAll taken distinct.1
      rw [put_put] at again
      simpa [putAll] using again.symm
    · rw [if_neg same]
      exact ih distinct.2

theorem putAll_putAll {others : List (Text × Table)} (distinct : (added.map Prod.fst).Nodup) :
    putAll entries (putAll added others) = putAll (putAll entries added) others := by
  induction others generalizing added with
  | nil => rfl
  | cons entry later ih =>
    have next : putAll entries (putAll (put entry.1 entry.2 added) later) =
        putAll (putAll entries (put entry.1 entry.2 added)) later := ih (nodup_keys_put distinct)
    rwa [putAll_put distinct] at next

end

theorem eq_of_entries {a b : Schema} (source : a.source = b.source) (entries : a.entries = b.entries) :
    a = b := by
  obtain ⟨sourceA, entriesA, distinctA⟩ := a
  obtain ⟨sourceB, entriesB, distinctB⟩ := b
  cases source
  cases entries
  rfl

section

variable (source : Text) (entries : List (Text × Table))

theorem ofEntries_concat (entry : Text × Table) :
    ofEntries source (entries ++ [entry]) = (ofEntries source entries).insert entry.1 entry.2 := by
  simp [ofEntries]

theorem entries_concat (entry : Text × Table) :
    (ofEntries source (entries ++ [entry])).entries =
      put entry.1 entry.2 (ofEntries source entries).entries := by
  rw [ofEntries_concat]
  rfl

theorem entries_ofEntries : (ofEntries source entries).entries = putAll [] entries := by
  induction entries using List.reverseRecOn with
  | nil => rfl
  | append_singleton others entry ih =>
    rw [entries_concat, ih]
    simp [putAll]

theorem source_ofEntries : (ofEntries source entries).source = source := by
  induction entries using List.reverseRecOn with
  | nil => rfl
  | append_singleton others entry ih => rwa [ofEntries_concat]

theorem keys_ofEntries : (ofEntries source entries).keys = (entries.map Prod.fst).eraseDups := by
  induction entries using List.reverseRecOn with
  | nil => rfl
  | append_singleton others entry ih =>
    rw [keys] at ih ⊢
    rw [entries_concat, keys_put, ih, List.map_append, List.eraseDups_append]
    by_cases known : entry.1 ∈ others.map Prod.fst
    · simp [List.mem_eraseDups, known, List.removeAll]
    · simp [List.mem_eraseDups, known, List.removeAll, List.eraseDups_cons]

theorem get?_ofEntries (key : Text) :
    (ofEntries source entries).get? key = entries.reverse.lookup key := by
  induction entries using List.reverseRecOn with
  | nil => rfl
  | append_singleton others entry ih =>
    rw [get?] at ih ⊢
    rw [entries_concat, lookup_put, ih, List.reverse_concat, lookup_entry]

end

theorem merges_ofEntries (source : Text) (parts : List Schema) :
    Merges parts (ofEntries source (parts.flatMap Schema.entries)) := by
  constructor
  · rw [keys_ofEntries, List.map_flatMap]
    rfl
  · intro key
    exact get?_ofEntries source _ key

theorem ofEntries_flatMap_entries (source : Text) (stretches : List (List (Text × Table))) :
    ofEntries source (stretches.flatMap fun es => (ofEntries source es).entries) =
      ofEntries source stretches.flatten := by
  apply eq_of_entries
  · rw [source_ofEntries, source_ofEntries]
  · rw [entries_ofEntries, entries_ofEntries]
    generalize [] = before
    induction stretches generalizing before with
    | nil => rfl
    | cons es later ih =>
      have merged : putAll before (ofEntries source es).entries = putAll before es := by
        have nothing : (([] : List (Text × Table)).map Prod.fst).Nodup := List.nodup_nil
        rw [entries_ofEntries, putAll_putAll nothing]
        rfl
      have appended (xs ys : List (Text × Table)) :
          putAll before (xs ++ ys) = putAll (putAll before xs) ys := List.foldl_append
      rw [List.flatMap_cons, List.flatten_cons, appended, appended, merged, ih]

theorem merges_ofTables (source : Text) (stretches : List (List Table)) :
    Merges (stretches.map (ofTables source)) (ofTables source stretches.flatten) := by
  have entries : (stretches.map (ofTables source)).flatMap Schema.entries =
      (stretches.map (List.map fun t => (t.name, t))).flatMap fun es =>
        (ofEntries source es).entries := by
    simp only [List.flatMap_map]
    rfl
  have whole := merges_ofEntries source (stretches.map (ofTables source))
  rwa [entries, ofEntries_flatMap_entries, ← List.map_flatten] at whole

end SchemaDiff.Schema
