import SchemaDiff.Proofs.Comparison.Statements

/-
Tables in sync, and the table that a target becomes when it is settled with its source: every column
that differs is the source's one, and the columns that it lacks stand at its end.
-/
namespace SchemaDiff
open Text

namespace Table

/-- The column that replaces `d`, a column of a target whose source is `t`. -/
def revised (t : Table) (d : Column) : Column :=
  match t.findColumn? d.name with
  | some c => if c.changes d = [] then d else c
  | none => d

def settled (t u : Table) : Table :=
  { u with columns := u.columns.map t.revised ++ t.unmatched u }

/-- Neither table lacks a column of the other one, and no two matched columns differ. -/
structure InSync (t u : Table) : Prop where
  source : t.unmatched u = []
  target : u.unmatched t = []
  same : t.different u = []

theorem lower_revised (t : Table) (d : Column) : lower (t.revised d).name = lower d.name := by
  rw [revised]
  split
  · rename_i c found
    split
    · rfl
    · exact (mem_of_findColumn? found).2
  · rfl

theorem changes_revised {t : Table} {c d : Column} (found : t.findColumn? d.name = some c) :
    c.changes (t.revised d) = [] := by
  rw [revised, found]
  dsimp only
  split
  · assumption
  · exact changes_self c

theorem revised_of_mem {t : Table} (distinct : (t.columns.map (lower ·.name)).Nodup) {c : Column}
    (member : c ∈ t.columns) : t.revised c = c := by
  rw [revised, findColumn?_of_distinct distinct member rfl]
  simp

theorem revised_of_same {t u : Table} (distinctT : (t.columns.map (lower ·.name)).Nodup)
    (distinctU : (u.columns.map (lower ·.name)).Nodup) {d : Column}
    (member : d ∈ u.columns ++ t.unmatched u) (same : ∀ c, (c, d) ∉ t.different u) :
    t.revised d = d := by
  rcases List.mem_append.mp member with old | new
  · rw [revised]
    split
    · rename_i c found
      obtain ⟨listed, names⟩ := mem_of_findColumn? found
      have back : u.findColumn? c.name = some d := findColumn?_of_distinct distinctU old names.symm
      apply if_pos
      by_contra differ
      exact same c (mem_different.mpr ⟨listed, back, differ⟩)
    · rfl
  · exact revised_of_mem distinctT (mem_unmatched.mp new).1

theorem map_revised {t : Table} (distinct : (t.columns.map (lower ·.name)).Nodup)
    {columns : List Column} (own : ∀ c ∈ columns, c ∈ t.columns) :
    columns.map t.revised = columns := by
  have same : ∀ c ∈ columns, t.revised c = id c := fun c member => revised_of_mem distinct (own c member)
  rw [List.map_congr_left same, List.map_id]

theorem settled_eq {t u : Table} (distinct : (t.columns.map (lower ·.name)).Nodup) :
    t.settled u = { u with columns := (u.columns ++ t.unmatched u).map t.revised } := by
  have new : (t.unmatched u).map t.revised = t.unmatched u :=
    map_revised distinct fun _ member => (mem_unmatched.mp member).1
  rw [settled, List.map_append, new]

theorem settled_of_same {t u : Table} (distinctT : (t.columns.map (lower ·.name)).Nodup)
    (distinctU : (u.columns.map (lower ·.name)).Nodup) (same : t.different u = []) :
    t.settled u = { u with columns := u.columns ++ t.unmatched u } := by
  have still : ∀ d ∈ u.columns ++ t.unmatched u, t.revised d = id d := fun d member =>
    revised_of_same distinctT distinctU member (by simp [same])
  rw [settled_eq distinctT, List.map_congr_left still, List.map_id]

theorem settled_self {t : Table} (distinct : (t.columns.map (lower ·.name)).Nodup) :
    t.settled t = t := by
  rw [settled, map_revised distinct fun _ member => member, unmatched_self, List.append_nil]

theorem inSync_self {t : Table} (distinct : (t.columns.map (lower ·.name)).Nodup) : InSync t t :=
  ⟨unmatched_self t, unmatched_self t, different_self distinct⟩

theorem unmatched_settled (t u : Table) : t.unmatched (t.settled u) = [] := by
  rw [unmatched_eq_nil]
  intro c member
  cases match? : u.findColumn? c.name with
  | some d =>
    obtain ⟨inside, same⟩ := mem_of_findColumn? match?
    apply findColumn?_isSome (List.mem_append_left _ (List.mem_map_of_mem inside))
    rw [lower_revised, same]
  | none => exact findColumn?_isSome (List.mem_append_right _ (mem_unmatched.mpr ⟨member, match?⟩)) rfl

theorem settled_unmatched {t u : Table}
    (covered : ∀ d ∈ u.columns, (t.findColumn? d.name).isSome) : (t.settled u).unmatched t = [] := by
  rw [unmatched_eq_nil]
  intro e member
  rcases List.mem_append.mp member with old | new
  · obtain ⟨d, inside, rfl⟩ := List.mem_map.mp old
    obtain ⟨c, found⟩ := Option.isSome_iff_exists.mp (covered d inside)
    obtain ⟨listed, same⟩ := mem_of_findColumn? found
    exact findColumn?_isSome listed (by rw [same, lower_revised])
  · exact findColumn?_isSome (mem_unmatched.mp new).1 rfl

theorem different_settled {t u : Table} (distinct : (t.columns.map (lower ·.name)).Nodup) :
    t.different (t.settled u) = [] := by
  rw [List.eq_nil_iff_forall_not_mem]
  rintro ⟨c, e⟩ member
  obtain ⟨listed, found, differ⟩ := mem_different.mp member
  obtain ⟨inside, same⟩ := mem_of_findColumn? found
  rcases List.mem_append.mp inside with old | new
  · obtain ⟨d, inside, rfl⟩ := List.mem_map.mp old
    rw [lower_revised] at same
    exact differ (changes_revised (findColumn?_of_distinct distinct listed same.symm))
  · have own := findColumn?_of_distinct distinct (mem_unmatched.mp new).1 same
    rw [findColumn?_of_distinct distinct listed rfl] at own
    cases own
    exact differ (changes_self c)

theorem inSync_settled {t u : Table} (distinct : (t.columns.map (lower ·.name)).Nodup)
    (covered : ∀ d ∈ u.columns, (t.findColumn? d.name).isSome) : InSync t (t.settled u) :=
  ⟨unmatched_settled t u, settled_unmatched covered, different_settled distinct⟩

theorem distinct_settled {t u : Table} (distinctT : (t.columns.map (lower ·.name)).Nodup)
    (distinctU : (u.columns.map (lower ·.name)).Nodup) :
    ((t.settled u).columns.map (lower ·.name)).Nodup := by
  have names : (t.settled u).columns.map (lower ·.name) =
      (u.columns ++ t.unmatched u).map (lower ·.name) := by
    rw [settled, List.map_append, List.map_append, List.map_map]
    congr 1
    exact List.map_congr_left fun d _ => lower_revised t d
  rw [names]
  exact distinct_grown distinctT distinctU

end Table

section

variable {a b : Schema}

theorem inSync_of_mem_matched (clean : a.Clean)
    (synced : ∀ u ∈ b.tables, ∃ t, a.find? u.name = some t ∧ t.InSync u) {t u : Table}
    (pair : (t, u) ∈ a.matched b) : t.InSync u := by
  obtain ⟨listed, _, found⟩ := Schema.find?_of_matched clean.apart pair
  obtain ⟨t', found', sync⟩ := synced u listed
  rw [found] at found'
  cases found'
  exact sync

theorem nothing_iff (style : Ddl.Style) : (compare style a b).hasDifferences = false ↔
    a.unmatched b = [] ∧ b.unmatched a = [] ∧
      (∀ t u, (t, u) ∈ a.matched b → t.unmatched u = [] ∧ t.different u = []) ∧
      ∀ u t, (u, t) ∈ b.matched a → u.unmatched t = [] := by
  rw [hasDifferences_eq_false]
  simp only [compare, Comparison.missingTablesOf, Comparison.missingColumnsOf,
    Comparison.differencesOf, List.append_eq_nil_iff, List.map_eq_nil_iff, List.flatMap_eq_nil_iff,
    Prod.forall]
  constructor
  · rintro ⟨⟨noTable, noTableBack⟩, ⟨noColumn, noColumnBack⟩, noDifference⟩
    exact ⟨noTable, noTableBack, fun t u pair => ⟨noColumn t u pair, noDifference t u pair⟩,
      noColumnBack⟩
  · rintro ⟨noTable, noTableBack, pairs, pairsBack⟩
    exact ⟨⟨noTable, noTableBack⟩, ⟨fun t u pair => (pairs t u pair).1, pairsBack⟩,
      fun t u pair => (pairs t u pair).2⟩

theorem nothing_iff_inSync (style : Ddl.Style) (apartA : a.Apart) (apartB : b.Apart) :
    (compare style a b).hasDifferences = false ↔
      a.unmatched b = [] ∧ b.unmatched a = [] ∧ ∀ t u, (t, u) ∈ a.matched b → t.InSync u := by
  rw [nothing_iff]
  -- Attributes are compared from the source's side only, and what is missing is looked for from both
  -- sides. Matching is mutual, so each pair of tables is seen from both.
  constructor
  · rintro ⟨noTable, noTableBack, pairs, pairsBack⟩
    refine ⟨noTable, noTableBack, ?_⟩
    intro t u pair
    obtain ⟨source, same⟩ := pairs t u pair
    exact ⟨source, pairsBack u t (Schema.mem_matched_symm apartA pair), same⟩
  · rintro ⟨noTable, noTableBack, pairs⟩
    refine ⟨noTable, noTableBack, fun t u pair => ⟨(pairs t u pair).source, (pairs t u pair).same⟩, ?_⟩
    intro u t pair
    exact (pairs t u (Schema.mem_matched_symm apartB pair)).target

theorem compare_inSync (style : Ddl.Style) (cleanA : a.Clean) (cleanB : b.Clean)
    (found : ∀ t ∈ a.tables, (b.find? t.name).isSome)
    (synced : ∀ u ∈ b.tables, ∃ t, a.find? u.name = some t ∧ t.InSync u) :
    (compare style a b).hasDifferences = false ∧ (compare style a b).statements = [] := by
  have noTableBack : b.unmatched a = [] := by
    apply Schema.unmatched_eq_nil.mpr
    intro u listed
    obtain ⟨t, found, _⟩ := synced u listed
    exact Option.isSome_of_eq_some found
  have nothing : (compare style a b).hasDifferences = false :=
    (nothing_iff_inSync style cleanA.apart cleanB.apart).mpr
      ⟨Schema.unmatched_eq_nil.mpr found, noTableBack,
        fun t u pair => inSync_of_mem_matched cleanA synced pair⟩
  exact ⟨nothing, (statements_eq_nil style a b).mpr nothing⟩

end

end SchemaDiff
