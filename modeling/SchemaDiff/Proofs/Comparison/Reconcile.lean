import SchemaDiff.Proofs.Comparison.Edit
import SchemaDiff.Proofs.Comparison.Placement
import SchemaDiff.Proofs.Comparison.Settled

/-
Running a comparison on its target: missing tables are appended, missing columns are put where the
statements say, and columns that differ are replaced. Where the source covers the target, the edited
target is in sync with the source.
-/
namespace SchemaDiff
open Text Comparison

def named (name : Text) (t : Table) : Bool := lower t.name == lower name

def replaceColumn (d : ColumnDifference) (t : Table) : Option Table :=
  (editFirst (· == d.target) (fun _ => some d.source) t.columns).map fun columns =>
    { t with columns }

/-- Fails where a table or a column that an edit is about is not there. -/
def reconcile (style : Ddl.Style) (a b : Schema) : Option Schema := do
  let result := compare style a b
  let created := b.tables ++ result.missingTables.map (·.table)
  let grown ← (gather Addition.tableName (additions a b)).foldlM
    (fun tables group => editFirst (named group.1) (addColumns group.2) tables) created
  let tables ← result.differentColumns.foldlM
    (fun tables d => editFirst (named d.tableName) (replaceColumn d) tables) grown
  return Schema.ofTables b.source tables

/-- The target's table with the columns that it lacks at its end. -/
def grow (t u : Table) : Table := { u with columns := u.columns ++ t.unmatched u }

def additionsFor : Table × Table → List Addition := fun (t, u) =>
  (t.unmatched u).map fun c => ⟨t.name, c, t, u⟩

def differencesFor : Table × Table → List ColumnDifference := fun (t, u) =>
  (t.different u).map fun (c, d) => ⟨t.name, c, d⟩

theorem tableName_additionsFor (pair : Table × Table) :
    ∀ x ∈ additionsFor pair, x.tableName = pair.1.name := by
  intro x member
  obtain ⟨c, _, rfl⟩ := List.mem_map.mp member
  rfl

theorem tableName_differencesFor (pair : Table × Table) :
    ∀ d ∈ differencesFor pair, d.tableName = pair.1.name := by
  intro d member
  obtain ⟨columns, _, rfl⟩ := List.mem_map.mp member
  rfl

theorem addColumns_additionsFor {t u : Table} (distinctT : (t.columns.map (lower ·.name)).Nodup)
    (distinctU : (u.columns.map (lower ·.name)).Nodup) :
    addColumns (additionsFor (t, u)) u = some (grow t u) := by
  have columns : (additionsFor (t, u)).map Addition.column = t.unmatched u := by
    simp [additionsFor, Function.comp_def]
  have own : ∀ x ∈ additionsFor (t, u), x.addedTo = u := by
    intro x member
    obtain ⟨c, _, rfl⟩ := List.mem_map.mp member
    rfl
  have distinct : ((u.columns ++ t.unmatched u).map Column.name).Nodup := by
    apply List.Nodup.of_map lower
    rw [List.map_map]
    exact Table.distinct_grown distinctT distinctU
  have run := addColumns_eq own (by rwa [columns])
  rwa [columns] at run

theorem replaceColumn_name {d : ColumnDifference} {t u : Table}
    (replaced : replaceColumn d t = some u) : u.name = t.name := by
  obtain ⟨columns, _, rfl⟩ := Option.map_eq_some_iff.mp replaced
  rfl

theorem foldlM_replaceColumn (group : List ColumnDifference) (t : Table) :
    group.foldlM (fun u d => replaceColumn d u) t =
      (group.foldlM (fun cs d => editFirst (· == d.target) (fun _ => some d.source) cs)
        t.columns).map fun columns => { t with columns } := by
  induction group generalizing t with
  | nil => rfl
  | cons d others ih =>
    rw [List.foldlM_cons, List.foldlM_cons, replaceColumn]
    cases editFirst (· == d.target) (fun _ => some d.source) t.columns with
    | none => rfl
    | some columns => exact ih { t with columns }

theorem replace_different {t u : Table} (distinctT : (t.columns.map (lower ·.name)).Nodup)
    (distinctU : (u.columns.map (lower ·.name)).Nodup) :
    (differencesFor (t, u)).foldlM (fun v d => replaceColumn d v) (grow t u) =
      some (t.settled u) := by
  rw [foldlM_replaceColumn, differencesFor, List.foldlM_map, Table.settled_eq distinctT]
  have apart : ((t.different u).map fun pair => lower pair.2.name).Nodup := by
    have names : (t.different u).map (fun pair => lower pair.2.name) =
        ((t.different u).map Prod.fst).map (lower ·.name) := by
      rw [List.map_map]
      apply List.map_congr_left
      rintro ⟨c, d⟩ member
      exact (Table.mem_of_findColumn? (Table.mem_different.mp member).2.1).2
    rw [names]
    exact distinctT.sublist (Table.fst_different_sublist.map _)
  have sound : ∀ (pair : Column × Column) (x : Column),
      (x == pair.2) = true → lower x.name = lower pair.2.name := by
    intro pair x same
    rw [beq_iff_eq.mp same]
  have edits : ∀ pair ∈ t.different u, ∃ x ∈ u.columns ++ t.unmatched u,
      (x == pair.2) = true ∧ some pair.1 = some (t.revised x) := by
    rintro ⟨c, d⟩ member
    obtain ⟨listed, found, differ⟩ := Table.mem_different.mp member
    obtain ⟨inside, same⟩ := Table.mem_of_findColumn? found
    refine ⟨d, List.mem_append_left _ inside, beq_self_eq_true d, ?_⟩
    rw [Table.revised, Table.findColumn?_of_distinct distinctT listed same.symm]
    exact congrArg some (if_neg differ).symm
  have rests : ∀ x ∈ u.columns ++ t.unmatched u,
      lower x.name ∉ (t.different u).map (fun pair => lower pair.2.name) → t.revised x = x := by
    intro x member free
    apply Table.revised_of_same distinctT distinctU member
    intro c listed
    exact free (List.mem_map_of_mem listed)
  have run := foldlM_editFirst sound apart (Table.distinct_grown distinctT distinctU)
    (Table.lower_revised t) edits rests
  simp only [grow, run, Option.map_some]

theorem foldlM_differencesFor {pair : Table × Table} (solid : differencesFor pair ≠ [])
    (tables : List Table) :
    (differencesFor pair).foldlM
        (fun tables d => editFirst (named d.tableName) (replaceColumn d) tables) tables =
      editFirst (named pair.1.name)
        (fun v => (differencesFor pair).foldlM (fun v d => replaceColumn d v) v) tables := by
  have keeps : ∀ (d : ColumnDifference) (v w : Table), replaceColumn d v = some w →
      named pair.1.name v → named pair.1.name w := by
    intro d v w replaced same
    rwa [named, replaceColumn_name replaced]
  rw [← foldlM_editFirst_same keeps solid]
  apply foldlM_congr
  intro d listed tables
  rw [tableName_differencesFor pair d listed]

section

variable {a b : Schema}

theorem distinct_created (cleanA : a.Clean) (cleanB : b.Clean) :
    ((b.tables ++ a.unmatched b).map (lower ·.name)).Nodup := by
  rw [List.map_append, List.nodup_append']
  refine ⟨cleanB.tables, cleanA.tables.sublist (List.filter_sublist.map _), ?_⟩
  intro k first second
  obtain ⟨u, inside, rfl⟩ := List.mem_map.mp first
  obtain ⟨t, missing, same⟩ := List.mem_map.mp second
  have found := Schema.find?_of_distinct cleanB.tables inside same.symm
  rw [(Schema.mem_unmatched.mp missing).2] at found
  contradiction

theorem partner (cleanA : a.Clean) (cleanB : b.Clean) (covered : a.Covers b) {v : Table}
    (member : v ∈ b.tables ++ a.unmatched b) :
    ∃ t, a.find? v.name = some t ∧ ((t, v) ∈ a.matched b ∨ t = v) := by
  rcases List.mem_append.mp member with old | new
  · obtain ⟨t, found, _⟩ := covered v old
    exact ⟨t, found, .inl (Schema.mem_matched_of_find? cleanB.apart old found)⟩
  · exact ⟨v, Schema.find?_of_unmatched cleanA.apart new, .inr rfl⟩

/-- What a phase does to a table, in terms of its match in the source. -/
def withMatch (a : Schema) (f : Table → Table → Table) (v : Table) : Table :=
  match a.find? v.name with
  | some t => f t v
  | none => v

theorem withMatch_eq {f : Table → Table → Table} {t v : Table} (found : a.find? v.name = some t) :
    withMatch a f v = f t v := by
  rw [withMatch, found]

theorem name_withMatch {f : Table → Table → Table} (keeps : ∀ t u, (f t u).name = u.name)
    (v : Table) : (withMatch a f v).name = v.name := by
  rw [withMatch]
  split
  · exact keeps _ v
  · rfl

theorem foldlM_pairs (cleanA : a.Clean) {keep : Table × Table → Bool}
    {edit : Table × Table → Table → Option Table} {f : Table → Table → Table}
    (keepsName : ∀ t u, (f t u).name = u.name) {tables : List Table}
    (distinct : (tables.map (lower ·.name)).Nodup)
    (edits : ∀ t u, (t, u) ∈ a.matched b → keep (t, u) → ∃ v ∈ tables,
      lower v.name = lower t.name ∧ edit (t, u) v = some (withMatch a f v))
    (rests : ∀ v ∈ tables,
      (∀ t u, (t, u) ∈ a.matched b → keep (t, u) → lower t.name ≠ lower v.name) →
        withMatch a f v = v) :
    ((a.matched b).filter keep).foldlM
        (fun tables pair => editFirst (named pair.1.name) (edit pair) tables) tables =
      some (tables.map (withMatch a f)) := by
  have sound : ∀ (pair : Table × Table) (v : Table),
      named pair.1.name v → lower v.name = lower pair.1.name := by
    intro pair v same
    exact beq_iff_eq.mp same
  have apart : (((a.matched b).filter keep).map fun pair => lower pair.1.name).Nodup :=
    (Schema.distinct_matched cleanA.apart).sublist (List.filter_sublist.map _)
  apply foldlM_editFirst sound apart distinct
  · intro v
    rw [name_withMatch keepsName]
  · rintro ⟨t, u⟩ member
    obtain ⟨pair, kept⟩ := List.mem_filter.mp member
    obtain ⟨v, inside, same, edited⟩ := edits t u pair kept
    exact ⟨v, inside, beq_iff_eq.mpr same, edited⟩
  · intro v member free
    apply rests v member
    intro t u pair kept same
    exact free (List.mem_map.mpr ⟨(t, u), List.mem_filter.mpr ⟨pair, kept⟩, same⟩)

def revise (t u : Table) : Table := { u with columns := u.columns.map t.revised }

theorem name_grow (t u : Table) : (grow t u).name = u.name := rfl

theorem name_revise (t u : Table) : (revise t u).name = u.name := rfl

theorem grow_self (t : Table) : grow t t = t := by rw [grow, Table.unmatched_self, List.append_nil]

theorem revise_grow {t v : Table} (found : a.find? v.name = some t)
    (distinct : (t.columns.map (lower ·.name)).Nodup) :
    withMatch a revise (withMatch a grow v) = t.settled v := by
  have foundGrown : a.find? (grow t v).name = some t := found
  rw [withMatch_eq found, withMatch_eq foundGrown, Table.settled_eq distinct]
  rfl

theorem unmatched_of_covers (covered : a.Covers b) {t u : Table}
    (pair : (u, t) ∈ b.matched a) : u.unmatched t = [] := by
  obtain ⟨inside, found⟩ := Schema.mem_matched.mp pair
  obtain ⟨t', found', all⟩ := covered u inside
  rw [found] at found'
  cases found'
  exact Table.unmatched_eq_nil.mpr all

theorem missingTables_of_covers (style : Ddl.Style) (covered : a.Covers b) :
    (compare style a b).missingTables.map (·.table) = a.unmatched b := by
  have noTable : b.unmatched a = [] := by
    apply Schema.unmatched_eq_nil.mpr
    intro u inside
    obtain ⟨t, found, _⟩ := covered u inside
    exact Option.isSome_of_eq_some found
  simp [compare, missingTablesOf, noTable, Function.comp_def]

theorem additions_of_covers (covered : a.Covers b) :
    additions a b = (a.matched b).flatMap additionsFor := by
  have none : ∀ pair ∈ b.matched a, pair.1.unmatched pair.2 = [] :=
    fun pair member => unmatched_of_covers covered member
  have nothing : ((b.matched a).flatMap fun (u, t) =>
      (u.unmatched t).map fun c => Addition.mk t.name c u t) = [] := by
    simpa using fun u t member => none (u, t) member
  rw [additions, nothing, List.append_nil]
  rfl

theorem gather_additions (cleanA : a.Clean) (covered : a.Covers b) :
    gather Addition.tableName (additions a b) =
      ((a.matched b).filter (additionsFor · ≠ [])).map fun pair => (pair.1.name, additionsFor pair) := by
  rw [additions_of_covers covered]
  exact gather_flatMap tableName_additionsFor (Schema.distinct_names_matched cleanA.apart)

theorem additions_run (cleanA : a.Clean) (cleanB : b.Clean) (covered : a.Covers b) :
    (gather Addition.tableName (additions a b)).foldlM
        (fun tables group => editFirst (named group.1) (addColumns group.2) tables)
        (b.tables ++ a.unmatched b) =
      some ((b.tables ++ a.unmatched b).map (withMatch a grow)) := by
  rw [gather_additions cleanA covered, List.foldlM_map]
  apply foldlM_pairs cleanA name_grow (distinct_created cleanA cleanB)
  · intro t u pair _
    obtain ⟨inside, same, found⟩ := Schema.find?_of_matched cleanA.apart pair
    have listed := (Schema.mem_matched.mp pair).1
    refine ⟨u, List.mem_append_left _ inside, same, ?_⟩
    rw [withMatch_eq found]
    exact addColumns_additionsFor (cleanA.columns t listed) (cleanB.columns u inside)
  · intro v member free
    obtain ⟨t, found, pair | rfl⟩ := partner cleanA cleanB covered member
    · have none : t.unmatched v = [] := by
        by_contra some
        refine free t v pair ?_ (Schema.mem_of_find? found).2
        simpa [additionsFor] using some
      rw [withMatch_eq found, grow, none, List.append_nil]
    · rw [withMatch_eq found, grow_self]

theorem differences_run (cleanA : a.Clean) (cleanB : b.Clean) (covered : a.Covers b) :
    (differencesOf a b).foldlM
        (fun tables d => editFirst (named d.tableName) (replaceColumn d) tables)
        ((b.tables ++ a.unmatched b).map (withMatch a grow)) =
      some (((b.tables ++ a.unmatched b).map (withMatch a grow)).map (withMatch a revise)) := by
  have distinct : (((b.tables ++ a.unmatched b).map (withMatch a grow)).map (lower ·.name)).Nodup := by
    have keeps : ∀ v, lower (withMatch a grow v).name = lower v.name := by
      intro v
      rw [name_withMatch name_grow]
    rw [keys_map keeps]
    exact distinct_created cleanA cleanB
  have split : differencesOf a b = (a.matched b).flatMap differencesFor := rfl
  have steps : ∀ pair ∈ (a.matched b).filter (differencesFor · ≠ []), ∀ tables : List Table, _ :=
    fun pair member => foldlM_differencesFor (by simpa using (List.mem_filter.mp member).2)
  rw [split, foldlM_flatMap, foldlM_congr steps]
  apply foldlM_pairs cleanA name_revise distinct
  · intro t u pair _
    obtain ⟨inside, same, found⟩ := Schema.find?_of_matched cleanA.apart pair
    have distinctT := cleanA.columns t (Schema.mem_matched.mp pair).1
    refine ⟨withMatch a grow u, List.mem_map_of_mem (List.mem_append_left _ inside), ?_, ?_⟩
    · rw [name_withMatch name_grow, same]
    · rw [revise_grow found distinctT, withMatch_eq found]
      exact replace_different distinctT (cleanB.columns u inside)
  · intro v member free
    obtain ⟨v, inside, rfl⟩ := List.mem_map.mp member
    obtain ⟨t, found, pair | rfl⟩ := partner cleanA cleanB covered inside
    · have distinctT := cleanA.columns t (Schema.mem_matched.mp pair).1
      have distinctV := cleanB.columns v (Schema.find?_of_matched cleanA.apart pair).1
      have none : t.different v = [] := by
        by_contra some
        refine free t v pair ?_ ?_
        · simpa [differencesFor] using some
        · rw [name_withMatch name_grow]
          exact (Schema.mem_of_find? found).2
      rw [revise_grow found distinctT, withMatch_eq found]
      exact Table.settled_of_same distinctT distinctV none
    · have distinct := cleanA.columns t (Schema.mem_of_find? found).1
      rw [revise_grow found distinct, withMatch_eq found, Table.settled_self distinct, grow_self]

/-- The tables of the target, each settled with its match, and after them those that it lacks. -/
def settledTables (a b : Schema) : List Table :=
  (b.matched a).map (fun (u, t) => t.settled u) ++ a.unmatched b

theorem reconcile_eq (style : Ddl.Style) (cleanA : a.Clean) (cleanB : b.Clean)
    (covered : a.Covers b) :
    reconcile style a b = some (Schema.ofTables b.source (settledTables a b)) := by
  have final : ((b.tables ++ a.unmatched b).map (withMatch a grow)).map (withMatch a revise) =
      settledTables a b := by
    rw [List.map_map, List.map_append, settledTables]
    congr 1
    · rw [Schema.matched, List.map_filterMap, ← List.filterMap_eq_map]
      apply List.filterMap_congr
      intro u inside
      obtain ⟨t, found, _⟩ := covered u inside
      have listed := (Schema.mem_of_find? found).1
      simp [found, revise_grow found (cleanA.columns t listed)]
    · have same : ∀ t ∈ a.unmatched b, (withMatch a revise ∘ withMatch a grow) t = id t := by
        intro t missing
        have distinct := cleanA.columns t (Schema.mem_unmatched.mp missing).1
        rw [Function.comp_apply, revise_grow (Schema.find?_of_unmatched cleanA.apart missing) distinct,
          Table.settled_self distinct]
        rfl
      rw [List.map_congr_left same, List.map_id]
  have differences : (compare style a b).differentColumns = differencesOf a b := rfl
  simp only [reconcile, missingTables_of_covers style covered,
    additions_run cleanA cleanB covered, differences, Option.bind_eq_bind, Option.bind_some,
    differences_run cleanA cleanB covered, final]
  rfl

theorem distinct_settledTables (cleanA : a.Clean) (cleanB : b.Clean) (covered : a.Covers b) :
    ((settledTables a b).map (lower ·.name)).Nodup := by
  have names : ((b.matched a).map fun (u, t) => t.settled u).map (lower ·.name) =
      b.tables.map (lower ·.name) := by
    rw [← Schema.fst_matched_of_covers covered, List.map_map, List.map_map]
    rfl
  rw [settledTables, List.map_append, names, ← List.map_append]
  exact distinct_created cleanA cleanB

theorem distinct_columns_settledTables (cleanA : a.Clean) (cleanB : b.Clean) :
    ∀ v ∈ settledTables a b, (v.columns.map (lower ·.name)).Nodup := by
  intro v member
  rcases List.mem_append.mp member with old | new
  · obtain ⟨⟨u, t⟩, pair, rfl⟩ := List.mem_map.mp old
    obtain ⟨inside, found⟩ := Schema.mem_matched.mp pair
    exact Table.distinct_settled (cleanA.columns t (Schema.mem_of_find? found).1)
      (cleanB.columns u inside)
  · exact cleanA.columns v (Schema.mem_unmatched.mp new).1

theorem inSync_settledTables (cleanA : a.Clean) (covered : a.Covers b) {v : Table}
    (member : v ∈ settledTables a b) : ∃ t, a.find? v.name = some t ∧ t.InSync v := by
  rcases List.mem_append.mp member with old | new
  · obtain ⟨⟨u, t⟩, pair, rfl⟩ := List.mem_map.mp old
    obtain ⟨inside, found⟩ := Schema.mem_matched.mp pair
    obtain ⟨t', found', all⟩ := covered u inside
    rw [found] at found'
    cases found'
    have distinct := cleanA.columns t (Schema.mem_of_find? found).1
    exact ⟨t, found, Table.inSync_settled distinct all⟩
  · have distinct := cleanA.columns v (Schema.mem_unmatched.mp new).1
    exact ⟨v, Schema.find?_of_unmatched cleanA.apart new, Table.inSync_self distinct⟩

theorem settledTables_complete (covered : a.Covers b) {t : Table} (listed : t ∈ a.tables) :
    ∃ v ∈ settledTables a b, lower v.name = lower t.name := by
  cases found : b.find? t.name with
  | none =>
    have missing : t ∈ a.unmatched b := Schema.mem_unmatched.mpr ⟨listed, found⟩
    exact ⟨t, List.mem_append_right _ missing, rfl⟩
  | some u =>
    obtain ⟨inside, same⟩ := Schema.mem_of_find? found
    obtain ⟨t', back, _⟩ := covered u inside
    have pair : (u, t') ∈ b.matched a := Schema.mem_matched.mpr ⟨inside, back⟩
    exact ⟨t'.settled u, List.mem_append_left _ (List.mem_map.mpr ⟨(u, t'), pair, rfl⟩), same⟩

/-- Where the source covers the target, running the comparison on the target leaves nothing to
report. The edited tables keep their columns in order, the ones that differ as the source has them,
and after those come the added columns in the source's order; each column is added where its
statement says. -/
theorem compare_reconciled (style : Ddl.Style) (cleanA : a.Clean) (cleanB : b.Clean)
    (covered : a.Covers b) :
    ∃ edited, reconcile style a b = some edited ∧ edited.Clean ∧
      (compare style a edited).hasDifferences = false ∧
      (compare style a edited).statements = [] ∧
      (b.matched a).map Prod.fst = b.tables ∧
      edited.tables = (b.matched a).map (fun (u, t) => t.settled u) ++ a.unmatched b ∧
      (compare style a b).addStatements =
        (gather Addition.tableName (additions a b)).map fun group =>
          style.alterTable group.1 ((placements group.2).map (Placement.clause style)) := by
  have distinct := distinct_settledTables cleanA cleanB covered
  have clean : (Schema.ofTables b.source (settledTables a b)).Clean :=
    Schema.clean_ofTables distinct (distinct_columns_settledTables cleanA cleanB)
  have tables : (Schema.ofTables b.source (settledTables a b)).tables = settledTables a b :=
    Schema.tables_ofTables (names_of_lower distinct)
  have found : ∀ t ∈ a.tables,
      ((Schema.ofTables b.source (settledTables a b)).find? t.name).isSome := by
    intro t listed
    obtain ⟨v, member, same⟩ := settledTables_complete covered listed
    rw [Schema.find?, List.find?_isSome, tables]
    exact ⟨v, member, by simpa using same⟩
  have synced : ∀ v ∈ (Schema.ofTables b.source (settledTables a b)).tables,
      ∃ t, a.find? v.name = some t ∧ t.InSync v := by
    rw [tables]
    exact fun v member => inSync_settledTables cleanA covered member
  obtain ⟨same, nothing⟩ := compare_inSync style cleanA clean found synced
  exact ⟨_, reconcile_eq style cleanA cleanB covered, clean, same, nothing,
    Schema.fst_matched_of_covers covered, tables, addStatements_eq style a b⟩

end

theorem compare_reconciled_users :
    let a := Schema.ofTables "a" [
      { name := "Users", columns := [{ name := "mail" }, { name := "Id", dataType := "INT" },
        { name := "name", isNullable := false }] },
      { name := "logs", columns := [{ name := "id" }] }]
    let b := Schema.ofTables "b" [
      { name := "users", columns := [{ name := "id", dataType := "BIGINT" }] }]
    (a.Clean ∧ b.Clean ∧ a.Covers b) ∧
      ∃ edited, reconcile {} a b = some edited ∧ (compare {} a edited).statements = [] ∧
        edited.tables.map (fun t => (t.name, t.columns.map Column.name)) =
          [(lit "users", [lit "Id", lit "mail", lit "name"]), (lit "logs", [lit "id"])] := by
  intro a b
  have hypotheses : a.Clean ∧ b.Clean ∧ a.Covers b := by decide +kernel
  obtain ⟨cleanA, cleanB, covered⟩ := hypotheses
  obtain ⟨edited, run, _, _, nothing, _, tables, _⟩ := compare_reconciled {} cleanA cleanB covered
  refine ⟨⟨cleanA, cleanB, covered⟩, edited, run, nothing, ?_⟩
  rw [tables]
  decide +kernel

end SchemaDiff
