import SchemaDiff.Ddl.Render
import SchemaDiff.Proofs.Ddl.OptionList

/-
Options as a table is written with them: a list of at most three, which is read back.
-/
namespace SchemaDiff.Ddl
open SchemaDiff.Text SchemaDiff.Text.Pattern SchemaDiff.Sql

def lead (name : Text) : Text := ' ' :: (name ++ ['='])

def optionsText (engine charset collation : Option Text) : Text :=
  clause (lead "ENGINE") engine ++
    (clause (lit " DEFAULT" ++ lead "CHARSET") charset ++ clause (lead "COLLATE") collation)

def writtenOptions (engine charset collation : Option Text) : List (Text × OptionItem) :=
  (engine.map fun v => (lit " ", OptionItem.given .engine none ["ENGINE"] [] [] v)).toList ++
    ((charset.map fun v => (lit " ", OptionItem.given .charset (some "DEFAULT") ["CHARSET"] [] [] v)).toList ++
      (collation.map fun v => (lit " ", OptionItem.given .collation none ["COLLATE"] [] [] v)).toList)

section

variable {engine charset collation : Option Text}

theorem itemsText_toList (front : Text) (item : Text → OptionItem)
    (spelled : ∀ v, lit " " ++ (item v).text = front ++ v) (value : Option Text) :
    itemsText (value.map fun v => (lit " ", item v)).toList = clause front value := by
  cases value with
  | none => rfl
  | some v => simp [itemsText, clause, spelled]

theorem optionsText_eq (engine charset collation : Option Text) :
    optionsText engine charset collation = itemsText (writtenOptions engine charset collation) := by
  have spelled (name v : Text) : lit " " ++ (name ++ ([] ++ '=' :: ([] ++ v))) = lead name ++ v := by
    simp [lead, lit]
  rw [optionsText, writtenOptions, itemsText_append, itemsText_append,
    itemsText_toList (lead "ENGINE") (.given .engine none ["ENGINE"] [] []) (spelled "ENGINE"),
    itemsText_toList (lit " DEFAULT" ++ lead "CHARSET") (.given .charset (some "DEFAULT") ["CHARSET"] [] [])
      (spelled "DEFAULT CHARSET"),
    itemsText_toList (lead "COLLATE") (.given .collation none ["COLLATE"] [] []) (spelled "COLLATE")]

theorem optionItems_written (validEngine : ∀ v ∈ engine, OptionValue v)
    (validCharset : ∀ v ∈ charset, OptionValue v) (validCollation : ∀ v ∈ collation, OptionValue v) :
    OptionItems (writtenOptions engine charset collation) := by
  have written : ∀ item ∈ writtenOptions engine charset collation, item.2.Valid ∧ item.1 = lit " " := by
    intro item member
    simp only [writtenOptions, List.mem_append, Option.mem_toList,
      Option.map_eq_some_iff] at member
    rcases member with ⟨v, given, rfl⟩ | ⟨v, given, rfl⟩ | ⟨v, given, rfl⟩
    · exact ⟨⟨by simp, by decide, by simp, by simp, validEngine v given⟩, rfl⟩
    · exact ⟨⟨by decide, by decide, by simp, by simp, validCharset v given⟩, rfl⟩
    · exact ⟨⟨by simp, by decide, by simp, by simp, validCollation v given⟩, rfl⟩
  refine ⟨fun item member => (written item member).1, fun item member => ?_, fun item member => ?_⟩
  · rw [(written item member).2]
    decide
  · rw [(written item (List.mem_of_mem_tail member)).2]
    decide

theorem found_written (kind : OptionKind) (engine charset collation : Option Text) :
    ((writtenOptions engine charset collation).findSome? fun item => item.2.found kind) =
      kind.value ⟨engine, charset, collation⟩ := by
  cases kind <;> cases engine <;> cases charset <;> cases collation <;> rfl

theorem endsDark_clause (front : Text) {value : Option Text} (valid : ∀ v ∈ value, OptionValue v) :
    EndsDark (clause front value) := by
  cases value with
  | none => simp [clause, EndsDark]
  | some v =>
    apply (endsDark_append (valid v rfl).solid).mpr
    intro c last
    exact dark_of_optionValue (valid v rfl) c (List.mem_of_getLast? last)

theorem tidy_clause {front : Text} (dark : EndsDark front) (tidy : Tidy front) {value : Option Text}
    (valid : ∀ v ∈ value, OptionValue v) : Tidy (clause front value) := by
  cases value with
  | none => rfl
  | some v => exact tidy_append dark tidy (tidy_of_dark (dark_of_optionValue (valid v rfl)))

theorem inert_clause {front : Text} (inert : ∀ c ∈ front, isPlain c ∧ c ≠ ';') {value : Option Text}
    (valid : ∀ v ∈ value, OptionValue v) : ∀ c ∈ clause front value, isPlain c ∧ c ≠ ';' := by
  cases value with
  | none => simp [clause]
  | some v =>
    intro c member
    rcases List.mem_append.mp member with first | second
    · exact inert c first
    · refine ⟨(valid v rfl).plain c second, ?_⟩
      rintro rfl
      exact absurd ((valid v rfl).inside ';' second) (by decide)

theorem inert_optionsText (validEngine : ∀ v ∈ engine, OptionValue v)
    (validCharset : ∀ v ∈ charset, OptionValue v) (validCollation : ∀ v ∈ collation, OptionValue v) :
    ∀ c ∈ optionsText engine charset collation, isPlain c ∧ c ≠ ';' := by
  intro c member
  rcases List.mem_append.mp member with first | later
  · exact inert_clause (by decide) validEngine c first
  · rcases List.mem_append.mp later with second | third
    · exact inert_clause (by decide) validCharset c second
    · exact inert_clause (by decide) validCollation c third

theorem tidy_optionsText (validEngine : ∀ v ∈ engine, OptionValue v)
    (validCharset : ∀ v ∈ charset, OptionValue v) (validCollation : ∀ v ∈ collation, OptionValue v) :
    Tidy (optionsText engine charset collation) := by
  apply tidy_append (endsDark_clause _ validEngine) (tidy_clause (by decide) (by decide) validEngine)
  apply tidy_append (endsDark_clause _ validCharset)
  · exact tidy_clause (by decide) (by decide) validCharset
  · exact tidy_clause (by decide) (by decide) validCollation

theorem endsDark_optionsText (validEngine : ∀ v ∈ engine, OptionValue v)
    (validCharset : ∀ v ∈ charset, OptionValue v) (validCollation : ∀ v ∈ collation, OptionValue v) :
    EndsDark (optionsText engine charset collation) :=
  endsDark_both (endsDark_clause _ validEngine)
    (endsDark_both (endsDark_clause _ validCharset) (endsDark_clause _ validCollation))

theorem readTableOptions_trim (validEngine : ∀ v ∈ engine, OptionValue v)
    (validCharset : ∀ v ∈ charset, OptionValue v) (validCollation : ∀ v ∈ collation, OptionValue v) :
    readTableOptions (trim (optionsText engine charset collation)) =
      ⟨engine, charset, collation⟩ := by
  have listed := optionItems_written validEngine validCharset validCollation
  have last := endsDark_optionsText validEngine validCharset validCollation
  apply tableOptions_ext
  intro kind
  have front : trim (optionsText engine charset collation) = trimStart (optionsText engine charset collation) :=
    trimEnd_eq_self_iff.mpr ((endsDark_trimStart last))
  rw [front, OptionKind.value_readTableOptions, optionValue_trimStart, optionsText_eq,
    optionValue_itemsText listed, found_written]

end

end SchemaDiff.Ddl
