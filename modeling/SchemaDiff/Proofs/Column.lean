import SchemaDiff.Column

/-
The changes between two columns: when there are none, and what they are seen from the other column.
-/
namespace SchemaDiff
open Text

theorem present_of_solid {value : Option Text} (solid : ∀ w ∈ value, w ≠ []) : present value = value := by
  cases value with
  | none => rfl
  | some w => simpa [present] using solid w rfl

namespace Column

/-- Equality of the six attributes that a comparison looks at. -/
structure SameAttributes (c d : Column) : Prop where
  dataType : c.dataType = d.dataType
  isNullable : c.isNullable = d.isNullable
  defaultValue : c.defaultValue = d.defaultValue
  autoIncrement : c.autoIncrement = d.autoIncrement
  charset : c.charset = d.charset
  collation : c.collation = d.collation

variable {c d e : Column}

theorem changes_eq_nil : c.changes d = [] ↔ c.SameAttributes d := by
  simp only [changes, List.append_eq_nil_iff, ite_eq_left_iff, List.cons_ne_nil, imp_false,
    Decidable.not_not]
  constructor
  · rintro ⟨⟨⟨⟨⟨dataType, isNullable⟩, defaultValue⟩, autoIncrement⟩, charset⟩, collation⟩
    exact ⟨dataType, isNullable, defaultValue, autoIncrement, charset, collation⟩
  · rintro ⟨dataType, isNullable, defaultValue, autoIncrement, charset, collation⟩
    exact ⟨⟨⟨⟨⟨dataType, isNullable⟩, defaultValue⟩, autoIncrement⟩, charset⟩, collation⟩

instance : Decidable (c.SameAttributes d) := decidable_of_iff _ changes_eq_nil

theorem SameAttributes.refl (c : Column) : c.SameAttributes c := ⟨rfl, rfl, rfl, rfl, rfl, rfl⟩

theorem SameAttributes.symm (same : c.SameAttributes d) : d.SameAttributes c :=
  ⟨same.dataType.symm, same.isNullable.symm, same.defaultValue.symm, same.autoIncrement.symm,
    same.charset.symm, same.collation.symm⟩

theorem SameAttributes.trans (first : c.SameAttributes d) (second : d.SameAttributes e) :
    c.SameAttributes e :=
  ⟨first.dataType.trans second.dataType, first.isNullable.trans second.isNullable,
    first.defaultValue.trans second.defaultValue, first.autoIncrement.trans second.autoIncrement,
    first.charset.trans second.charset, first.collation.trans second.collation⟩

theorem map_swap_change {α : Type} [DecidableEq α] {change : α → α → Change}
    (swapped : ∀ x y, (change x y).swap = change y x) (x y : α) :
    (if x = y then [] else [change x y]).map Change.swap =
      if y = x then [] else [change y x] := by
  by_cases same : x = y
  · rw [if_pos same, if_pos same.symm, List.map_nil]
  · rw [if_neg same, if_neg (Ne.symm same), List.map_singleton, swapped]

theorem map_swap_changes (c d : Column) : (c.changes d).map Change.swap = d.changes c := by
  simp only [changes, List.map_append]
  rw [map_swap_change fun _ _ => rfl, map_swap_change fun _ _ => rfl,
    map_swap_change fun _ _ => rfl, map_swap_change fun _ _ => rfl,
    map_swap_change fun _ _ => rfl, map_swap_change fun _ _ => rfl]

end Column

namespace Change

def parts : Change → Text × Text × Text
  | dataType s t => ("Data type", s, t)
  | nullable s t => ("Nullable", yesNo s, yesNo t)
  | defaultValue s t => ("Default", (present s).getD "NULL", (present t).getD "NULL")
  | autoIncrement s t => ("Auto increment", yesNo s, yesNo t)
  | charset s t => ("Charset", (present s).getD "default", (present t).getD "default")
  | collation s t => ("Collation", (present s).getD "default", (present t).getD "default")

theorem describe_eq (change : Change) :
    change.describe = versus change.parts.1 change.parts.2.1 change.parts.2.2 := by
  cases change <;> rfl

theorem describe_swap (change : Change) :
    change.swap.describe = versus change.parts.1 change.parts.2.2 change.parts.2.1 := by
  cases change <;> rfl

end Change

end SchemaDiff
