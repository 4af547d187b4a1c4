import SchemaDiff.Proofs.Comparison.Order
import SchemaDiff.Proofs.Comparison.Statements

/-
The tables that the statements adding columns alter. There is one statement for each pair of matched
tables with missing columns, and it adds what either of them lacks to the one that its first column is
missing from. So it can be run if columns are missing on one side only.
-/
namespace SchemaDiff
open Text Ddl Comparison

/-- What is to be added for a pair of matched tables: what the second lacks, and then what the first
lacks. -/
def exchanged (t u : Table) : List Addition :=
  (t.unmatched u).map (fun c => ⟨t.name, c, t, u⟩) ++ (u.unmatched t).map fun c => ⟨t.name, c, u, t⟩

/-- The table that lacks the first of these columns. -/
def altered (t u : Table) : Table := if t.unmatched u = [] then t else u

section

variable {a b : Schema} {t u : Table}

theorem column_exchanged (t u : Table) :
    (exchanged t u).map Addition.column = t.unmatched u ++ u.unmatched t := by
  simp [exchanged, Function.comp_def]

theorem addedTo_exchanged (solid : exchanged t u ≠ []) :
    ∃ x, (exchanged t u).head? = some x ∧ x.addedTo = altered t u := by
  rw [altered]
  cases forward : t.unmatched u with
  | nil =>
    cases back : u.unmatched t with
    | nil => simp [exchanged, forward, back] at solid
    | cons d others => simp [exchanged, forward, back]
  | cons c others => simp [exchanged, forward]

theorem exchanged_of_mem_gather (apartA : a.Apart) (apartB : b.Apart) {group : Text × List Addition}
    (member : group ∈ gather Addition.tableName (additions a b)) :
    ∃ t u, (t, u) ∈ a.matched b ∧ group = (t.name, exchanged t u) := by
  have own {t u : Table} (pair : (t, u) ∈ a.matched b) :
      (additions a b).filter (·.tableName == t.name) = exchanged t u := by
    have toTarget := filter_flatMap_of_mem tableName_toTarget (Schema.distinct_names_matched apartA) pair
    have toSource := filter_flatMap_of_mem tableName_toSource (distinct_partners_matched apartA apartB)
      (Schema.mem_matched_symm apartA pair)
    rw [additions, List.filter_append]
    exact congrArg₂ _ toTarget toSource
  have named : ∃ t u, (t, u) ∈ a.matched b ∧ group.1 = t.name := by
    have inside : group.1 ∈ (additions a b).map Addition.tableName := by
      rw [← List.mem_eraseDups, ← fst_gather]
      exact List.mem_map_of_mem member
    obtain ⟨x, listed, same⟩ := List.mem_map.mp inside
    rcases List.mem_append.mp listed with first | second
    · obtain ⟨⟨t, u⟩, pair, inside⟩ := List.mem_flatMap.mp first
      exact ⟨t, u, pair, same.symm.trans (tableName_toTarget (t, u) x inside)⟩
    · obtain ⟨⟨u, t⟩, pair, inside⟩ := List.mem_flatMap.mp second
      exact ⟨t, u, Schema.mem_matched_symm apartB pair, same.symm.trans (tableName_toSource (u, t) x inside)⟩
  obtain ⟨t, u, pair, same⟩ := named
  refine ⟨t, u, pair, Prod.ext same ?_⟩
  rw [mem_gather member, same, own pair]

end

def Placement.run (p : Placement) (t : Table) : Option Table :=
  if (t.findColumn? p.column.name).isSome then none else p.insert t

/-- Runs the clauses of a statement in order, up to the first that cannot be run. -/
def runAll (placements : List Placement) (t : Table) : Option Table :=
  placements.foldlM (fun u p => p.run u) t

section

variable {t v : Table}

theorem findColumn?_none_iff {name : Text} :
    t.findColumn? name = none ↔ lower name ∉ t.columns.map (lower ·.name) := by
  rw [Table.findColumn?_eq_none, Lacks]
  simp

theorem runAll_distinct {group : List Addition} {previous : Option Text}
    (distinct : ((t.columns ++ group.map Addition.column).map (lower ·.name)).Nodup)
    (last : ∀ name ∈ previous, ∃ d ∈ t.columns.getLast?, d.name = name) :
    runAll (placementsAfter previous group) t =
      some { t with columns := t.columns ++ group.map Addition.column } := by
  induction group generalizing t previous with
  | nil => simp [runAll, placementsAfter]
  | cons x others ih =>
    have parts := distinct
    rw [List.map_append, List.nodup_append'] at parts
    obtain ⟨old, _, apart⟩ := parts
    have names : (t.columns.map Column.name).Nodup := by
      apply List.Nodup.of_map lower
      rwa [List.map_map]
    have new : t.findColumn? x.column.name = none :=
      findColumn?_none_iff.mpr fun inside => apart inside (by simp)
    have first : Placement.run ⟨x.column, x.declaredIn, present previous⟩ t =
        some { t with columns := t.columns ++ [x.column] } := by
      rw [Placement.run, new]
      exact insert_last names last x.column x.declaredIn
    have lastNew : ∀ name ∈ some x.column.name, ∃ d ∈ (t.columns ++ [x.column]).getLast?, d.name = name := by
      simp
    have later := ih (t := { t with columns := t.columns ++ [x.column] }) (by simpa using distinct) lastNew
    rw [runAll, placementsAfter, List.foldlM_cons, first]
    simpa [runAll] using later

theorem subset_insertAfter {name : Text} {c : Column} {columns grown : List Column}
    (inserted : insertAfter name c columns = some grown) : columns ⊆ grown := by
  induction columns generalizing grown with
  | nil => cases inserted
  | cons d rest ih =>
    rw [insertAfter] at inserted
    split at inserted
    · cases inserted
      exact List.cons_subset_cons d (List.subset_cons_self c rest)
    · obtain ⟨later, found, rfl⟩ := Option.map_eq_some_iff.mp inserted
      exact List.cons_subset_cons d (ih found)

theorem subset_run {p : Placement} (ran : p.run t = some v) : t.columns ⊆ v.columns := by
  rw [Placement.run] at ran
  split at ran
  · cases ran
  · rw [Placement.insert] at ran
    split at ran
    · cases ran
      exact List.subset_append_left _ _
    · obtain ⟨grown, inserted, rfl⟩ := Option.map_eq_some_iff.mp ran
      exact subset_insertAfter inserted

theorem absent_of_runAll {placements : List Placement} (ran : runAll placements t = some v) :
    ∀ p ∈ placements, t.findColumn? p.column.name = none := by
  induction placements generalizing t with
  | nil => simp
  | cons p others ih =>
    rw [runAll, List.foldlM_cons] at ran
    obtain ⟨w, first, later⟩ := Option.bind_eq_some_iff.mp ran
    rw [List.forall_mem_cons]
    constructor
    · rw [Placement.run] at first
      split at first
      · cases first
      · rename_i absent
        simpa using absent
    · intro q member
      have absent := ih later q member
      rw [findColumn?_none_iff] at absent ⊢
      exact fun inside => absent (List.map_subset _ (subset_run first) inside)

end

section

variable {t u : Table}

theorem after_placements (solid : exchanged t u ≠ []) :
    ∃ first ∈ (placements (exchanged t u)).head?,
      first.after = present ((altered t u).lastColumn?.map Column.name) := by
  obtain ⟨x, first, into⟩ := addedTo_exchanged solid
  cases shape : exchanged t u with
  | nil => contradiction
  | cons y others =>
    obtain rfl : y = x := by simpa [shape] using first
    exact ⟨_, rfl, by simp [into]⟩

theorem clash_iff {c : Column} (member : c ∈ t.unmatched u ++ u.unmatched t) :
    ((altered t u).findColumn? c.name).isSome ↔ t.unmatched u ≠ [] ∧ c ∈ u.unmatched t := by
  rw [altered]
  by_cases none : t.unmatched u = []
  · have back : c ∈ u.unmatched t := by simpa [none] using member
    simp [none, (Table.mem_unmatched.mp back).2]
  · rw [if_neg none]
    have present (back : c ∈ u.unmatched t) : (u.findColumn? c.name).isSome :=
      Table.findColumn?_isSome (Table.mem_unmatched.mp back).1 rfl
    constructor
    · intro found
      refine ⟨none, (List.mem_append.mp member).resolve_left fun forward => ?_⟩
      rw [(Table.mem_unmatched.mp forward).2] at found
      cases found
    · exact fun ⟨_, back⟩ => present back

theorem run_placements (solid : exchanged t u ≠ [])
    (distinct : (((altered t u).columns ++ (t.unmatched u ++ u.unmatched t)).map (lower ·.name)).Nodup) :
    runAll (placements (exchanged t u)) (altered t u) =
      some { altered t u with
        columns := (altered t u).columns ++ (t.unmatched u ++ u.unmatched t) } := by
  obtain ⟨x, first, into⟩ := addedTo_exchanged solid
  rw [← column_exchanged] at distinct ⊢
  apply runAll_distinct distinct
  intro name named
  rw [first, Option.bind_some, into] at named
  exact Option.map_eq_some_iff.mp named

theorem run_exchanged (distinctT : (t.columns.map (lower ·.name)).Nodup)
    (distinctU : (u.columns.map (lower ·.name)).Nodup) (solid : exchanged t u ≠ []) :
    runAll (placements (exchanged t u)) (altered t u) =
      if t.unmatched u = [] ∨ u.unmatched t = [] then
        some { altered t u with
          columns := (altered t u).columns ++ (t.unmatched u ++ u.unmatched t) }
      else none := by
  by_cases forward : t.unmatched u = []
  · rw [if_pos (.inl forward)]
    apply run_placements solid
    simpa [altered, forward] using Table.distinct_grown distinctU distinctT
  · by_cases back : u.unmatched t = []
    · rw [if_pos (.inr back)]
      apply run_placements solid
      simpa [altered, forward, back] using Table.distinct_grown distinctT distinctU
    · rw [if_neg (not_or.mpr ⟨forward, back⟩), Option.eq_none_iff_forall_ne_some]
      intro v ran
      obtain ⟨d, member⟩ := List.exists_mem_of_ne_nil _ back
      have added : d ∈ (placements (exchanged t u)).map Placement.column := by
        rw [column_placements, column_exchanged]
        exact List.mem_append_right _ member
      obtain ⟨p, listed, rfl⟩ := List.mem_map.mp added
      have clash := (clash_iff (List.mem_append_right _ member)).mpr ⟨forward, member⟩
      rw [absent_of_runAll ran p listed] at clash
      cases clash

end

/-- A statement that adds columns is about one pair of matched tables and adds what they lack of each
other. It alters the table that lacks the first of these columns, and it can be run just where only that
table lacks any. -/
theorem addStatements_altered (style : Style) {a b : Schema} (apartA : a.Apart) (apartB : b.Apart) :
    ∀ statement ∈ (compare style a b).addStatements, ∃ t u, (t, u) ∈ a.matched b ∧
      ∃ clauses : List Placement,
        statement = style.alterTable t.name (clauses.map (Placement.clause style)) ∧
        clauses.map Placement.column = t.unmatched u ++ u.unmatched t ∧
        (∃ first ∈ clauses.head?, first.after = present ((altered t u).lastColumn?.map Column.name)) ∧
        (∀ c ∈ clauses.map Placement.column, ((altered t u).findColumn? c.name).isSome ↔
          t.unmatched u ≠ [] ∧ c ∈ u.unmatched t) ∧
        runAll clauses (altered t u) =
          if t.unmatched u = [] ∨ u.unmatched t = [] then
            some { altered t u with
              columns := (altered t u).columns ++ clauses.map Placement.column }
          else none := by
  intro statement member
  rw [addStatements_eq] at member
  obtain ⟨group, listed, rfl⟩ := List.mem_map.mp member
  have solid := ne_nil_of_mem_gather listed
  obtain ⟨t, u, pair, rfl⟩ := exchanged_of_mem_gather apartA apartB listed
  have columns : (placements (exchanged t u)).map Placement.column = t.unmatched u ++ u.unmatched t := by
    rw [column_placements, column_exchanged]
  have distinctT := apartA.columns t (Schema.mem_matched.mp pair).1
  have distinctU := apartB.columns u (Schema.find?_of_matched apartA pair).1
  refine ⟨t, u, pair, placements (exchanged t u), rfl, columns, after_placements solid, ?_, ?_⟩
  · rw [columns]
    exact fun c => clash_iff
  · rw [columns]
    exact run_exchanged distinctT distinctU solid

theorem addStatements_altered_users :
    let added : List Column := [{ name := "age", dataType := "INT" }, { name := "Mail" }]
    let t : Table := { name := "Users", columns := { name := "id", dataType := "INT" } :: added }
    let u : Table := { name := "users", columns := [{ name := "ID", dataType := "INT" }] }
    let a := Schema.ofTables "a" [t, { name := "logs" }]
    let b := Schema.ofTables "b" [u]
    a.Apart ∧ b.Apart ∧ ∃ clauses : List Placement,
      (compare {} a b).addStatements = [Style.alterTable {} "Users" (clauses.map (Placement.clause {}))] ∧
      clauses.map Placement.column = added ∧
      runAll clauses u = some { u with columns := u.columns ++ added } := by
  intro added t u a b
  have apartA : a.Apart := by decide +kernel
  have apartB : b.Apart := by decide +kernel
  have pairs : a.matched b = [(t, u)] := by decide +kernel
  obtain ⟨statement, only⟩ : ∃ statement, (compare {} a b).addStatements = [statement] :=
    List.length_eq_one_iff.mp (by decide +kernel)
  obtain ⟨_, _, pair, clauses, rfl, columns, _, _, ran⟩ :=
    addStatements_altered {} apartA apartB statement (only ▸ List.mem_singleton_self statement)
  rw [pairs, List.mem_singleton] at pair
  cases pair
  have forward : t.unmatched u = added := by decide +kernel
  have back : u.unmatched t = [] := by decide +kernel
  have into : altered t u = u := by decide +kernel
  rw [forward, back, List.append_nil] at columns
  rw [into, if_pos (.inr back), columns] at ran
  exact ⟨apartA, apartB, clauses, only, columns, ran⟩

/-- Each side lacks a column of the other: the one statement starts behind the last column of the
target's table, and adds this column to it. -/
theorem addStatements_both_sides :
    let id : Column := { name := "id", dataType := "INT" }
    let t : Table := { name := "t", columns := [id, { name := "a", dataType := "INT" }] }
    let u : Table := { name := "t", columns := [id, { name := "b", dataType := "INT" }] }
    let a := Schema.ofTables "a" [t]
    let b := Schema.ofTables "b" [u]
    a.Apart ∧ b.Apart ∧
      (compare {} a b).addStatements =
        [lit "ALTER TABLE `t`\n  ADD COLUMN `a` INT NULL AFTER `b`,\n  ADD COLUMN `b` INT NULL AFTER `a`;"] ∧
      u.lastColumn?.map Column.name = some (lit "b") ∧ t.findColumn? "b" = none ∧
      (u.findColumn? "b").isSome := by
  decide +kernel

end SchemaDiff
