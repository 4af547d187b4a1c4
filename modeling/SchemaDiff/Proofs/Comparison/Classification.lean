import SchemaDiff.Proofs.Column
import SchemaDiff.Proofs.Comparison.Matching

/-
What a comparison lists. The tables of each side are those that the other side lacks and those that have
a first match there; the columns of a table with a match are those that the match lacks, those that
differ from their first match there, and those that do not, which are not listed. Names may be repeated,
so matching need not be mutual.
-/
namespace SchemaDiff
open Text

/-- Every item is in exactly one of the lists, and there as often as among the items. -/
def SharedOut {α : Type} (lists : List (List α)) (items : List α) : Prop :=
  lists.flatten.Perm items ∧ lists.Pairwise List.Disjoint

/-- Tables taken in turn, with the ones that `others` lacks and the ones that have a first match. -/
inductive SortedTables (others : List Table) :
    List Table → List Table → List (Table × Table) → Prop
  | nil : SortedTables others [] [] []
  | alone {t : Table} {ts alone : List Table} {pairs : List (Table × Table)}
      (lacks : Lacks Table.name others t.name) (rest : SortedTables others ts alone pairs) :
      SortedTables others (t :: ts) (t :: alone) pairs
  | paired {t u : Table} {ts alone : List Table} {pairs : List (Table × Table)}
      (first : IsFirst Table.name others t.name u) (rest : SortedTables others ts alone pairs) :
      SortedTables others (t :: ts) alone ((t, u) :: pairs)

namespace SortedTables

variable {others ts alone : List Table} {pairs : List (Table × Table)}

theorem perm (sorted : SortedTables others ts alone pairs) :
    (alone ++ pairs.map Prod.fst).Perm ts := by
  induction sorted with
  | nil => exact List.Perm.refl []
  | alone _ _ ih => exact ih.cons _
  | paired _ _ ih => exact List.perm_middle.trans (ih.cons _)

theorem classes (sorted : SortedTables others ts alone pairs) :
    (∀ t ∈ alone, Lacks Table.name others t.name) ∧
      ∀ pair ∈ pairs, IsFirst Table.name others pair.1.name pair.2 := by
  induction sorted with
  | nil => simp
  | alone lacks _ ih => exact ⟨List.forall_mem_cons.mpr ⟨lacks, ih.1⟩, ih.2⟩
  | paired first _ ih => exact ⟨ih.1, List.forall_mem_cons.mpr ⟨first, ih.2⟩⟩

theorem sharedOut (sorted : SortedTables others ts alone pairs) :
    SharedOut [alone, pairs.map Prod.fst] ts := by
  obtain ⟨lacks, first⟩ := sorted.classes
  constructor
  · simpa using sorted.perm
  · rw [List.pairwise_pair]
    intro t lacked matched
    obtain ⟨pair, member, rfl⟩ := List.mem_map.mp matched
    exact (first pair member).not_lacks (lacks pair.1 lacked)

end SortedTables

theorem Schema.sortedTables (a b : Schema) :
    SortedTables b.tables a.tables (a.unmatched b) (a.matched b) := by
  rw [unmatched, matched]
  induction a.tables with
  | nil => exact .nil
  | cons t others ih =>
    cases found : b.find? t.name with
    | none => simpa [found] using SortedTables.alone (find?_eq_none.mp found) ih
    | some u => simpa [found] using SortedTables.paired (find?_eq_some.mp found) ih

/-- Columns taken in turn: those that `others` lacks, those that differ from their first match in an
attribute, and those that agree with it in all six. -/
inductive SortedColumns (others : List Column) : List Column →
    List Column → List (Column × Column) → List (Column × Column) → Prop
  | nil : SortedColumns others [] [] [] []
  | missing {c : Column} {cs missing : List Column} {different same : List (Column × Column)}
      (lacks : Lacks Column.name others c.name)
      (rest : SortedColumns others cs missing different same) :
      SortedColumns others (c :: cs) (c :: missing) different same
  | different {c d : Column} {cs missing : List Column} {different same : List (Column × Column)}
      (first : IsFirst Column.name others c.name d) (differ : ¬c.SameAttributes d)
      (rest : SortedColumns others cs missing different same) :
      SortedColumns others (c :: cs) missing ((c, d) :: different) same
  | same {c d : Column} {cs missing : List Column} {different same : List (Column × Column)}
      (first : IsFirst Column.name others c.name d) (agree : c.SameAttributes d)
      (rest : SortedColumns others cs missing different same) :
      SortedColumns others (c :: cs) missing different ((c, d) :: same)

namespace SortedColumns

variable {others cs missing : List Column} {different same : List (Column × Column)}

theorem perm (sorted : SortedColumns others cs missing different same) :
    (missing ++ (different.map Prod.fst ++ same.map Prod.fst)).Perm cs := by
  induction sorted with
  | nil => exact List.Perm.refl []
  | missing _ _ ih => exact ih.cons _
  | different _ _ _ ih => exact List.perm_middle.trans (ih.cons _)
  | same _ _ _ ih =>
    rw [List.map_cons, ← List.append_assoc]
    exact List.perm_middle.trans (List.Perm.cons _ (by rwa [List.append_assoc]))

theorem classes (sorted : SortedColumns others cs missing different same) :
    (∀ c ∈ missing, Lacks Column.name others c.name) ∧
      (∀ pair ∈ different, IsFirst Column.name others pair.1.name pair.2 ∧
        ¬pair.1.SameAttributes pair.2) ∧
      ∀ pair ∈ same, IsFirst Column.name others pair.1.name pair.2 ∧
        pair.1.SameAttributes pair.2 := by
  induction sorted with
  | nil => simp
  | missing lacks _ ih => exact ⟨List.forall_mem_cons.mpr ⟨lacks, ih.1⟩, ih.2⟩
  | different first differ _ ih =>
    exact ⟨ih.1, List.forall_mem_cons.mpr ⟨⟨first, differ⟩, ih.2.1⟩, ih.2.2⟩
  | same first agree _ ih =>
    exact ⟨ih.1, ih.2.1, List.forall_mem_cons.mpr ⟨⟨first, agree⟩, ih.2.2⟩⟩

theorem sharedOut (sorted : SortedColumns others cs missing different same) :
    SharedOut [missing, different.map Prod.fst, same.map Prod.fst] cs := by
  obtain ⟨lacks, differs, agrees⟩ := sorted.classes
  have missingOrDifferent : missing.Disjoint (different.map Prod.fst) := by
    intro c lacked listed
    obtain ⟨pair, member, rfl⟩ := List.mem_map.mp listed
    exact (differs pair member).1.not_lacks (lacks pair.1 lacked)
  have missingOrSame : missing.Disjoint (same.map Prod.fst) := by
    intro c lacked listed
    obtain ⟨pair, member, rfl⟩ := List.mem_map.mp listed
    exact (agrees pair member).1.not_lacks (lacks pair.1 lacked)
  -- A column has one first match, and that one differs from it or does not.
  have differentOrSame : (different.map Prod.fst).Disjoint (same.map Prod.fst) := by
    intro c listed unlisted
    obtain ⟨pair, member, rfl⟩ := List.mem_map.mp listed
    obtain ⟨other, otherMember, same⟩ := List.mem_map.mp unlisted
    obtain ⟨first, differ⟩ := differs pair member
    obtain ⟨otherFirst, agree⟩ := agrees other otherMember
    rw [same] at otherFirst agree
    rw [first.unique otherFirst] at differ
    exact differ agree
  constructor
  · simpa using sorted.perm
  · simp [missingOrDifferent, missingOrSame, differentOrSame]

end SortedColumns

namespace Table

def unchanged (a b : Table) : List (Column × Column) :=
  (a.columns.filterMap fun c => (b.findColumn? c.name).map (c, ·)).filter fun pair =>
    pair.1.changes pair.2 = []

theorem sortedColumns (t u : Table) :
    SortedColumns u.columns t.columns (t.unmatched u) (t.different u) (t.unchanged u) := by
  rw [unmatched, different, unchanged]
  induction t.columns with
  | nil => exact .nil
  | cons c others ih =>
    cases found : u.findColumn? c.name with
    | none => simpa [found] using SortedColumns.missing (findColumn?_eq_none.mp found) ih
    | some d =>
      have first := findColumn?_eq_some.mp found
      by_cases same : c.changes d = []
      · simpa [found, same] using
          SortedColumns.same first (Column.changes_eq_nil.mp same) ih
      · simpa [found, same] using
          SortedColumns.different first (mt Column.changes_eq_nil.mpr same) ih

end Table

/-- Every table of either side and every column of a table with a match is in one class, and what is
listed is what the classes say: tables and columns without a match for both directions, and for the
source's columns the differences from the first match. -/
theorem compare_classified (style : Ddl.Style) (a b : Schema) :
    ∃ alone pairs aloneBack pairsBack,
      SortedTables b.tables a.tables alone pairs ∧
      SortedTables a.tables b.tables aloneBack pairsBack ∧
      SharedOut [alone, pairs.map Prod.fst] a.tables ∧
      (compare style a b).missingTables =
        alone.map (⟨a.source, b.source, ·⟩) ++ aloneBack.map (⟨b.source, a.source, ·⟩) ∧
      (compare style a b).matchingTables = pairs.map (·.1.name) ∧
      ∃ (missing : Table × Table → List Column)
        (different same : Table × Table → List (Column × Column)),
        (∀ t u, SortedColumns u.columns t.columns
          (missing (t, u)) (different (t, u)) (same (t, u))) ∧
        (∀ t u, SharedOut
          [missing (t, u), (different (t, u)).map Prod.fst, (same (t, u)).map Prod.fst] t.columns) ∧
        (compare style a b).missingColumns =
          (pairs.flatMap fun pair => (missing pair).map (⟨pair.1.name, ·, b.source⟩)) ++
          (pairsBack.flatMap fun pair => (missing pair).map (⟨pair.1.name, ·, a.source⟩)) ∧
        (compare style a b).differentColumns =
          pairs.flatMap fun pair => (different pair).map fun (c, d) => ⟨pair.1.name, c, d⟩ := by
  refine ⟨a.unmatched b, a.matched b, b.unmatched a, b.matched a, a.sortedTables b,
    b.sortedTables a, (a.sortedTables b).sharedOut, rfl, rfl, ?_⟩
  refine ⟨fun pair => pair.1.unmatched pair.2, fun pair => pair.1.different pair.2,
    fun pair => pair.1.unchanged pair.2, Table.sortedColumns, ?_, rfl, rfl⟩
  intro t u
  exact (t.sortedColumns u).sharedOut

/-- Both tables of the source match the target's only one, whose own first match is `T`: its column `y`
is missing there, although the other table has it. -/
example :
    let a := Schema.ofTables "a" [
      { name := "T", columns := [{ name := "x", dataType := "INT" }] },
      { name := "t", columns := [{ name := "y" }] }]
    let b := Schema.ofTables "b" [
      { name := "t", columns := [{ name := "X", dataType := "BIGINT" }, { name := "y" }] }]
    (compare {} a b).matchingTables = [lit "T", lit "t"] ∧
      (compare {} a b).differentColumns.map (·.source.name) = [lit "x"] ∧
      (compare {} a b).missingColumns = [⟨"t", { name := "y" }, "a"⟩] := by
  decide +kernel

end SchemaDiff
