import SchemaDiff.Proofs.Comparison.Gathering

/-
Where the statements that add columns put them. A placement is what one clause of such a statement
says; run in their order, the placements of a group put its columns at the end of the table.
-/
namespace SchemaDiff
open Text Ddl Comparison

/-- A column to add, the table that declares it, and the column that it comes right after; it goes to
the end where none is named. -/
structure Placement where
  column : Column
  declaredIn : Table
  after : Option Text
deriving DecidableEq, Repr

def Placement.clause (style : Style) (p : Placement) : Text :=
  "ADD COLUMN " ++ style.column p.declaredIn.collation true p.column
    ++ Ddl.clause " AFTER " (p.after.map style.identifier)

def placementsAfter (previous : Option Text) : List Addition → List Placement
  | [] => []
  | x :: others =>
    ⟨x.column, x.declaredIn, present previous⟩ :: placementsAfter (some x.column.name) others

def placements (group : List Addition) : List Placement :=
  placementsAfter ((group.head?.bind (·.addedTo.lastColumn?)).map (·.name)) group

theorem column_placementsAfter (previous : Option Text) (group : List Addition) :
    (placementsAfter previous group).map Placement.column = group.map Addition.column := by
  induction group generalizing previous with
  | nil => rfl
  | cons x others ih => rw [placementsAfter, List.map_cons, List.map_cons, ih]

theorem column_placements (group : List Addition) :
    (placements group).map Placement.column = group.map Addition.column :=
  column_placementsAfter _ group

theorem addClauses_eq (style : Style) (previous : Option Text) (group : List Addition) :
    style.addClauses previous (group.map fun x => (x.column, some x.declaredIn)) =
      (placementsAfter previous group).map (Placement.clause style) := by
  induction group generalizing previous with
  | nil => rfl
  | cons x others ih =>
    rw [List.map_cons, Style.addClauses, ih, placementsAfter, List.map_cons]
    rfl

theorem addStatement_eq (style : Style) (name : Text) {group : List Addition} (solid : group ≠ []) :
    addStatement style name group =
      style.alterTable name ((placements group).map (Placement.clause style)) := by
  cases group with
  | nil => contradiction
  | cons x others =>
    rw [addStatement, Style.addColumns, if_neg (by simp)]
    dsimp only
    rw [addClauses_eq]
    rfl

/-- The statements that add columns say nothing but the placements. -/
theorem addStatements_eq (style : Style) (a b : Schema) :
    (compare style a b).addStatements =
      (gather Addition.tableName (additions a b)).map fun group =>
        style.alterTable group.1 ((placements group.2).map (Placement.clause style)) := by
  apply List.map_congr_left
  intro group member
  exact addStatement_eq style group.1 (ne_nil_of_mem_gather member)

def insertAfter (name : Text) (c : Column) : List Column → Option (List Column)
  | [] => none
  | d :: rest =>
    if d.name = name then some (d :: c :: rest) else (insertAfter name c rest).map (d :: ·)

def Placement.insert (p : Placement) (t : Table) : Option Table :=
  match p.after with
  | none => some { t with columns := t.columns ++ [p.column] }
  | some name => (insertAfter name p.column t.columns).map fun columns => { t with columns }

def addColumns (group : List Addition) (t : Table) : Option Table :=
  (placements group).foldlM (fun u p => p.insert u) t

theorem insertAfter_last {front : List Column} {last : Column}
    (distinct : ((front ++ [last]).map Column.name).Nodup) (c : Column) :
    insertAfter last.name c (front ++ [last]) = some (front ++ [last] ++ [c]) := by
  induction front with
  | nil => simp [insertAfter]
  | cons d others ih =>
    rw [List.cons_append, List.map_cons, List.nodup_cons] at distinct
    have other : d.name ≠ last.name := by
      intro same
      exact distinct.1 (by simp [same])
    rw [List.cons_append, insertAfter, if_neg other, ih distinct.2]
    rfl

theorem insert_last {t : Table} (distinct : (t.columns.map Column.name).Nodup)
    {previous : Option Text} (last : ∀ name ∈ previous, ∃ d ∈ t.columns.getLast?, d.name = name)
    (c : Column) (declaredIn : Table) :
    Placement.insert ⟨c, declaredIn, present previous⟩ t =
      some { t with columns := t.columns ++ [c] } := by
  cases named : present previous with
  | none => simp [Placement.insert]
  | some name =>
    have same : previous = some name := (Option.filter_eq_some_iff.mp named).1
    obtain ⟨d, final, rfl⟩ := last name same
    obtain ⟨front, shape⟩ := List.getLast?_eq_some_iff.mp final
    rw [shape] at distinct
    simp only [Placement.insert, shape, insertAfter_last distinct, Option.map_some]

theorem foldlM_insert {group : List Addition} {t : Table}
    (distinct : ((t.columns ++ group.map Addition.column).map Column.name).Nodup)
    {previous : Option Text}
    (last : ∀ name ∈ previous, ∃ d ∈ t.columns.getLast?, d.name = name) :
    (placementsAfter previous group).foldlM (fun u p => p.insert u) t =
      some { t with columns := t.columns ++ group.map Addition.column } := by
  induction group generalizing t previous with
  | nil => simp [placementsAfter]
  | cons x others ih =>
    have distinctFront : (t.columns.map Column.name).Nodup :=
      distinct.sublist ((List.sublist_append_left _ _).map _)
    have lastNew : ∀ name ∈ some x.column.name,
        ∃ d ∈ (t.columns ++ [x.column]).getLast?, d.name = name := by simp
    have later := ih (t := { t with columns := t.columns ++ [x.column] })
      (by simpa using distinct) lastNew
    rw [placementsAfter, List.foldlM_cons, insert_last distinctFront last]
    simpa using later

theorem addColumns_eq {group : List Addition} {t : Table} (own : ∀ x ∈ group, x.addedTo = t)
    (distinct : ((t.columns ++ group.map Addition.column).map Column.name).Nodup) :
    addColumns group t = some { t with columns := t.columns ++ group.map Addition.column } := by
  apply foldlM_insert distinct
  intro name named
  cases group with
  | nil => cases named
  | cons x others =>
    rw [List.head?_cons, Option.bind_some, own x List.mem_cons_self] at named
    exact Option.map_eq_some_iff.mp named

end SchemaDiff
