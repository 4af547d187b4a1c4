import SchemaDiff.Proofs.Ddl.ColumnRender

/-
Columns as they are written where a table is altered: a column that may be null says so, a text column
without a collation takes that of the table that declares it, and collations can be left out.
-/
namespace SchemaDiff.Ddl
open SchemaDiff.Text SchemaDiff.Sql

def shown (collations : Bool) (tableCollation : Option Text) (c : Column) : Column :=
  { c with
    charset := if collations then present c.charset else none
    collation := if collations then Style.effectiveCollation tableCollation c else none }

theorem present_present (value : Option Text) : present (present value) = present value := by
  simp [present, Option.filter_filter]

theorem present_effectiveCollation (tableCollation : Option Text) (c : Column) :
    present (Style.effectiveCollation tableCollation c) =
      Style.effectiveCollation tableCollation c := by
  have inherited : present (if textTypes.contains c.baseType then present tableCollation else none) =
      if textTypes.contains c.baseType then present tableCollation else none := by
    split
    · exact present_present tableCollation
    · rfl
  have own := present_present c.collation
  rw [Style.effectiveCollation]
  cases shape : present c.collation with
  | none => exact inherited
  | some w =>
    rw [shape] at own
    exact own

theorem column_shown (collations : Bool) (tableCollation : Option Text) (sayNull : Bool) (c : Column) :
    (⟨.backticks, collations⟩ : Style).column tableCollation sayNull c =
      ({} : Style).column none sayNull (shown collations tableCollation c) := by
  have noTable : ∀ d : Column, Style.effectiveCollation none d = present d.collation := by
    intro d
    rw [Style.effectiveCollation, show present none = none from rfl, ite_self, Option.or_none]
  cases collations with
  | false =>
    rw [Style.column, Style.column, noTable]
    rfl
  | true =>
    rw [Style.column, Style.column, noTable]
    have charset : present (shown true tableCollation c).charset = present c.charset :=
      present_present c.charset
    have collation : present (shown true tableCollation c).collation =
        Style.effectiveCollation tableCollation c := present_effectiveCollation tableCollation c
    rw [charset, collation]
    rfl

/-- The collation that a column has in its table. -/
def collationIn (declaredIn : Option Table) (c : Column) : Option Text :=
  c.collation.or (if textTypes.contains c.baseType then declaredIn.bind (·.collation) else none)

section

variable {c : Column} {type : TypeText} {default : Option (List Text)} {declaredIn : Option Table}
  (spelled : Spelled c type default)
  (valid : ∀ t ∈ declaredIn, ∀ w ∈ t.collation, (Clause.collate w).Valid)

include spelled valid

theorem valid_collationIn : ∀ w ∈ collationIn declaredIn c, (Clause.collate w).Valid := by
  intro w value
  rw [collationIn, Option.mem_def, Option.or_eq_some_iff] at value
  rcases value with own | ⟨_, table⟩
  · exact spelled.validCollation w own
  · split at table
    · obtain ⟨t, declares, collation⟩ := Option.bind_eq_some_iff.mp table
      exact valid t declares w collation
    · cases table

theorem shown_eq (collations : Bool) : shown collations (declaredIn.bind (·.collation)) c =
    { c with
      charset := if collations then c.charset else none
      collation := if collations then collationIn declaredIn c else none } := by
  have charset : present c.charset = c.charset :=
    present_of_solid fun w value => (spelled.validCharset w value).1.solid
  have own : present c.collation = c.collation :=
    present_of_solid fun w value => (spelled.validCollation w value).1.solid
  have table : present (declaredIn.bind (·.collation)) = declaredIn.bind (·.collation) := by
    refine present_of_solid fun w value => ?_
    obtain ⟨t, declares, collation⟩ := Option.bind_eq_some_iff.mp value
    exact (valid t declares w collation).1.solid
  rw [shown, Style.effectiveCollation, charset, own, table]
  rfl

theorem spelled_shown (collations : Bool) :
    Spelled (shown collations (declaredIn.bind (·.collation)) c) type default := by
  have collation := valid_collationIn spelled valid
  rw [shown_eq spelled valid]
  cases collations with
  | false =>
    exact { spelled with
      validCharset := fun _ value => nomatch value
      validCollation := fun _ value => nomatch value }
  | true => exact { spelled with validCollation := collation }

/-- What is written for a column where a table is altered is read as that column, with the collation that
it has in the table that declares it. -/
theorem readColumn_alteration (collations : Bool) :
    let text := (⟨.backticks, collations⟩ : Style).column (declaredIn.bind (·.collation)) true c
    readColumn text = some { c with
      charset := if collations then c.charset else none
      collation := if collations then collationIn declaredIn c else none
      definition := text } := by
  intro text
  have written : text =
      ({} : Style).column none true (shown collations (declaredIn.bind (·.collation)) c) :=
    column_shown collations _ true c
  have read := readColumn_column true (spelled_shown spelled valid collations)
  rw [← written, shown_eq spelled valid] at read
  exact read

end

theorem readColumn_alteration_null :
    let c : Column := { name := "not null", dataType := "CHAR(3)", defaultValue := some "NULL" }
    let declaredIn : Option Table := some { name := "t", collation := some "latin1_bin" }
    let type : TypeText := ⟨"CHAR", .attached "3", []⟩
    let text := ({} : Style).column (declaredIn.bind (·.collation)) true c
    (Spelled c type (some ["NULL"]) ∧
        ∀ t ∈ declaredIn, ∀ w ∈ t.collation, (Clause.collate w).Valid) ∧
      text = "\x60not null\x60 CHAR(3) COLLATE latin1_bin NULL DEFAULT NULL" ∧
      readColumn text = some { c with collation := some "latin1_bin", definition := text } := by
  intro c declaredIn type text
  have spelled : Spelled c type (some ["NULL"]) := by decide +kernel
  have valid : ∀ t ∈ declaredIn, ∀ w ∈ t.collation, (Clause.collate w).Valid := by decide +kernel
  have read := readColumn_alteration spelled valid true
  have inherits : collationIn declaredIn c = some "latin1_bin" := by decide +kernel
  rw [inherits] at read
  exact ⟨⟨spelled, valid⟩, by decide +kernel, read⟩

end SchemaDiff.Ddl
