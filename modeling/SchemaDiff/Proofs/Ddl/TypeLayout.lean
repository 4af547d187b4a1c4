import SchemaDiff.Proofs.Column
import SchemaDiff.Proofs.Ddl.ColumnRender

/-
Types in different layouts. Blanks between the name of a type and its arguments do not matter, whatever
follows. Blanks inside the parentheses are part of the type: two layouts of the same arguments declare the same
type only where these blanks are the same too.
-/
namespace SchemaDiff.Ddl
open SchemaDiff.Text SchemaDiff.Text.Pattern SchemaDiff.Sql

/-- An argument of a type, with the blanks before and after it. -/
structure Argument where
  before : Text
  value : Text
  after : Text
deriving DecidableEq, Repr

def IsNumber (v : Text) : Prop := v ≠ [] ∧ ∀ c ∈ v, c.isDigit ∨ c = '.' ∨ c = '-' ∨ c = '+'

instance (v : Text) : Decidable (IsNumber v) := inferInstanceAs (Decidable (_ ∧ _))

namespace Argument

def text (a : Argument) : Text := a.before ++ (a.value ++ a.after)

structure Valid (a : Argument) : Prop where
  before : ∀ c ∈ a.before, isBlank c
  after : ∀ c ∈ a.after, isBlank c
  value : IsNumber a.value ∨ Quoted a.value

instance : DecidablePred Valid := fun a =>
  decidable_of_iff ((∀ c ∈ a.before, isBlank c) ∧ (∀ c ∈ a.after, isBlank c) ∧
      (IsNumber a.value ∨ Quoted a.value))
    ⟨fun h => ⟨h.1, h.2.1, h.2.2⟩, fun h => ⟨h.before, h.after, h.value⟩⟩

end Argument

def argumentsText (args : List Argument) : Text := [','].intercalate (args.map Argument.text)

/-- Arguments, and the blanks between the name of the type and them. -/
structure Layout where
  gap : Text
  arguments : List Argument
deriving DecidableEq, Repr

namespace Layout

structure Valid (l : Layout) : Prop where
  gap : ∀ c ∈ l.gap, isBlank c
  arguments : ∀ a ∈ l.arguments, a.Valid

instance : DecidablePred Valid := fun l =>
  decidable_of_iff ((∀ c ∈ l.gap, isBlank c) ∧ ∀ a ∈ l.arguments, a.Valid)
    ⟨fun h => ⟨h.1, h.2⟩, fun h => ⟨h.gap, h.arguments⟩⟩

def values (l : Layout) : List Text := l.arguments.map Argument.value

end Layout

def loneWords : List Text := ["DEFAULT", "AUTO_INCREMENT", "CHARSET", "COLLATE"]

structure TypeName (name : Text) : Prop where
  solid : name ≠ []
  first : ∀ c ∈ name.head?, isPlainLetter c
  word : ∀ c ∈ name, isWord c
  free : ∀ k ∈ loneWords, upper name ≠ k

instance (name : Text) : Decidable (TypeName name) :=
  decidable_of_iff (name ≠ [] ∧ (∀ c ∈ name.head?, isPlainLetter c) ∧ (∀ c ∈ name, isWord c) ∧
      ∀ k ∈ loneWords, upper name ≠ k)
    ⟨fun h => ⟨h.1, h.2.1, h.2.2.1, h.2.2.2⟩, fun h => ⟨h.solid, h.first, h.word, h.free⟩⟩

def layoutText (identifier : Identifier) (gap name : Text) (l : Layout) (tail : Text) : Text :=
  identifier.text ++ (gap ++ (name ++ (l.gap ++ (group (argumentsText l.arguments) ++ tail))))

theorem isPlain_of_number {v : Text} (number : IsNumber v) :
    ∀ c ∈ v, isPlain c ∧ isBlank c = false ∧ upperChar c = [c] := by
  have ascii : ∀ n < 128, (Char.ofNat n).isDigit →
      isPlain (Char.ofNat n) ∧ isBlank (Char.ofNat n) = false ∧
        upperChar (Char.ofNat n) = [Char.ofNat n] := by decide +kernel
  intro c member
  rcases number.2 c member with digit | rfl | rfl | rfl
  · have bound : c.toNat ≤ '9'.toNat := by
      simp only [Char.isDigit, Bool.and_eq_true, decide_eq_true_eq] at digit
      exact digit.2
    have known := ascii c.toNat (Nat.lt_of_le_of_lt bound (by decide))
    rw [Char.ofNat_toNat] at known
    exact known digit
  all_goals decide

theorem nested_value {a : Argument} (valid : a.Valid) : Nested a.value := by
  rcases valid.value with number | quoted
  · exact nested_plain fun c member => (isPlain_of_number number c member).1
  · exact nested_quoted quoted

theorem value_front {a : Argument} (valid : a.Valid) :
    ∃ c rest, a.value = c :: rest ∧ isBlank c = false ∧ upperChar c = [c] := by
  rcases valid.value with number | quoted
  · obtain ⟨c, rest, shape⟩ := List.exists_cons_of_ne_nil number.1
    have known := isPlain_of_number number c (shape ▸ List.mem_cons_self)
    exact ⟨c, rest, shape, known.2⟩
  · obtain ⟨q, body, quote, shape, _⟩ := quoted_ends quoted
    refine ⟨q, body ++ [q], shape, ?_⟩
    simp only [isQuote, Bool.or_eq_true, beq_iff_eq] at quote
    rcases quote with (rfl | rfl) | rfl <;> decide

theorem nested_argumentsText {args : List Argument} (valid : ∀ a ∈ args, a.Valid) :
    Nested (argumentsText args) := by
  have blanks {t : Text} (all : ∀ c ∈ t, isBlank c) : Nested t :=
    nested_plain fun c member => isPlain_of_isBlank (all c member)
  induction args with
  | nil => exact nested_plain (by simp [argumentsText])
  | cons a others ih =>
    have later := ih fun b member => valid b (List.mem_cons_of_mem a member)
    have known := valid a List.mem_cons_self
    have first : Nested a.text :=
      nested_append (blanks known.before) (nested_append (nested_value known) (blanks known.after))
    cases others with
    | nil => simpa [argumentsText] using first
    | cons b others =>
      have comma : Nested (lit ",") := nested_plain (by decide)
      rw [argumentsText, List.map_cons, List.map_cons, List.intercalate_cons_cons, List.append_assoc]
      exact nested_append first (nested_append comma later)

theorem upperChar_blank {c : Char} (blank : isBlank c) : upperChar c = [c] := by
  have known : ∀ n ∈ codes blankRanges, upperChar (Char.ofNat n) = [Char.ofNat n] := by decide +kernel
  have same := known c.toNat (mem_codes_of_inRanges blank)
  rwa [Char.ofNat_toNat] at same

theorem upper_of_same {t : Text} (same : ∀ c ∈ t, upperChar c = [c]) : upper t = t := by
  induction t with
  | nil => rfl
  | cons c rest ih =>
    rw [upper_cons, same c List.mem_cons_self, ih fun d member => same d (List.mem_cons_of_mem c member)]
    rfl

theorem blanks_unique {s t u v : Text} (blanksLeft : ∀ c ∈ s, isBlank c) (blanksRight : ∀ c ∈ t, isBlank c)
    (darkLeft : StartsDark u) (darkRight : StartsDark v) (same : s ++ u = t ++ v) : s = t ∧ u = v := by
  have front : s = t := by
    rw [← takeWhile_append_stop blanksLeft darkLeft, same, takeWhile_append_stop blanksRight darkRight]
  subst front
  exact ⟨rfl, List.append_cancel_left same⟩

theorem comma_argumentsText {args : List Argument} (someArgs : args ≠ []) :
    ',' :: argumentsText args = args.flatMap fun a => ',' :: a.text := by
  induction args with
  | nil => contradiction
  | cons a others ih =>
    cases others with
    | nil => simp [argumentsText]
    | cons b more =>
      rw [List.flatMap_cons, ← ih (List.cons_ne_nil b more), argumentsText, argumentsText, List.map_cons,
        List.map_cons, List.intercalate_cons_cons]
      simp

theorem upper_text {a : Argument} (valid : a.Valid) :
    upper a.text = a.before ++ (upper a.value ++ a.after) := by
  have same {t : Text} (blanks : ∀ c ∈ t, isBlank c) : upper t = t :=
    upper_of_same fun c member => upperChar_blank (blanks c member)
  rw [Argument.text, upper_append, upper_append, same valid.before, same valid.after]

theorem startsDark_upper_value {a : Argument} (valid : a.Valid) (t : Text) :
    StartsDark (upper a.value ++ t) := by
  obtain ⟨c, rest, shape, dark, same⟩ := value_front valid
  rw [shape, upper_cons, same]
  intro d first
  cases first
  exact dark

theorem startsDark_upper_later (args : List Argument) :
    StartsDark (upper (args.flatMap fun a => ',' :: a.text)) := by
  intro c first
  cases args with
  | nil => cases first
  | cons a others =>
    rw [List.flatMap_cons, List.cons_append, upper_cons] at first
    cases first
    decide

/-- Arguments with the same values that read the same in capitals have the same blanks. -/
theorem arguments_unique {args others : List Argument} (valid : ∀ a ∈ args, a.Valid)
    (validOthers : ∀ a ∈ others, a.Valid) (values : args.map Argument.value = others.map Argument.value)
    (same : upper (argumentsText args) = upper (argumentsText others)) : args = others := by
  -- With a comma in front of each argument, the first one and those after it have the same form.
  have later : upper (args.flatMap fun a => ',' :: a.text) = upper (others.flatMap fun a => ',' :: a.text) := by
    have counts := congrArg List.length values
    rw [List.length_map, List.length_map] at counts
    by_cases empty : args = []
    · subst empty
      rw [List.length_eq_zero_iff.mp counts.symm]
    · have solid : others ≠ [] := by
        rintro rfl
        exact empty (List.length_eq_zero_iff.mp counts)
      rw [← comma_argumentsText empty, ← comma_argumentsText solid, upper_cons, upper_cons, same]
  clear same
  induction args generalizing others with
  | nil => exact (List.map_eq_nil_iff.mp values.symm).symm
  | cons a rest ih =>
    cases others with
    | nil => simp at values
    | cons b more =>
      rw [List.map_cons, List.map_cons, List.cons.injEq] at values
      obtain ⟨value, valuesRest⟩ := values
      have knownA := valid a List.mem_cons_self
      have knownB := validOthers b List.mem_cons_self
      simp only [List.flatMap_cons, List.cons_append, upper_cons, upper_append, upper_text knownA,
        upper_text knownB, List.append_assoc, List.append_cancel_left_eq] at later
      obtain ⟨before, fromValue⟩ := blanks_unique knownA.before knownB.before
        (startsDark_upper_value knownA _) (startsDark_upper_value knownB _) later
      rw [value] at fromValue
      obtain ⟨after, fromRest⟩ := blanks_unique knownA.after knownB.after (startsDark_upper_later rest)
        (startsDark_upper_later more) (List.append_cancel_left fromValue)
      have restSame := ih (fun c member => valid c (List.mem_cons_of_mem a member))
        (fun c member => validOthers c (List.mem_cons_of_mem b member)) valuesRest fromRest
      have aSame : a = b := by
        cases a
        cases b
        simp_all
      rw [aSame, restSame]

section

variable {name : Text} (typeName : TypeName name) {gap : Text} (blanks : ∀ c ∈ gap, isBlank c)

include blanks

theorem stops_layout (inside t : Text) :
    ∀ c ∈ (gap ++ (group inside ++ t)).head?, isWord c = false := by
  intro c first
  cases gap with
  | nil =>
    cases first
    decide
  | cons b others =>
    cases first
    exact isWord_of_isBlank (blanks c List.mem_cons_self)

include typeName

theorem definitionWords_layout {inside : Text} (nested : Nested inside) {tail glued : Text} {rest : List Text}
    (split : ∀ p, Token p → definitionWords (p ++ tail) = (p ++ glued) :: rest) :
    definitionWords (name ++ (gap ++ (group inside ++ tail))) =
        (name ++ (gap ++ (group inside ++ glued))) :: rest ∨
      definitionWords (name ++ (gap ++ (group inside ++ tail))) =
        name :: (group inside ++ glued) :: rest := by
  have nameToken : Token name := token_word typeName.solid typeName.word
  by_cases separated : ∃ d ∈ gap, separatesWords d
  · right
    obtain ⟨d, member, separates⟩ := separated
    obtain ⟨before, after, rfl⟩ := List.append_of_mem member
    have blanksBefore : ∀ c ∈ before, isBlank c := fun c inside => blanks c (by simp [inside])
    have blanksAfter : ∀ c ∈ after, isBlank c := fun c inside => blanks c (by simp [inside])
    have cuts : Cuts separatesWords d := ⟨separates, isPlain_of_isBlank (blanks d member)⟩
    have top : (ScanState.start.after .tracked (name ++ before)).isTopLevel := by
      apply isTopLevel_after_plain rfl
      intro c inside
      rcases List.mem_append.mp inside with ofName | ofGap
      · exact isPlain_of_isWord (typeName.word c ofName)
      · exact isPlain_of_isBlank (blanksBefore c ofGap)
    have parts : name ++ (before ++ d :: after ++ (group inside ++ tail)) =
        (name ++ before) ++ d :: (after ++ (group inside ++ tail)) := by simp
    have later : definitionWords (after ++ (group inside ++ tail)) = (group inside ++ glued) :: rest :=
      (splitTopLevel_pad blanksAfter _).trans (split _ (token_group nested))
    rw [parts, definitionWords, splitTopLevel_cut cuts top, splitTopLevel_padded nameToken blanksBefore]
    exact congrArg (name :: ·) later
  · left
    have whole : Whole .tracked separatesWords (name ++ (gap ++ group inside)) := by
      refine whole_append (whole_word typeName.word) (whole_append (gap_whole ?_) (token_group nested).toWhole)
      intro c member
      exact ⟨blanks c member, by simpa using fun separates => separated ⟨c, member, separates⟩⟩
    have dark := (trim_eq_self_iff.mp nameToken.trimmed).1
    have token : Token (name ++ (gap ++ group inside)) :=
      { toWhole := whole
        solid := by simp [typeName.solid]
        trimmed := by
          apply trim_eq_of_dark (startsDark_of_front typeName.solid dark _)
          rw [← List.append_assoc]
          exact (endsDark_append (List.cons_ne_nil _ _)).mpr (endsDark_group inside) }
    have read := split _ token
    simpa using read

def layoutType (name args : Text) (rest : List Text) : Text :=
  if isParenthesised args then typeWith (name ++ args) rest else upper name

theorem bareType_layout (inside t : Text) : bareType (name ++ (gap ++ (group inside ++ t))) = upper name := by
  obtain ⟨c, others, rfl⟩ := List.exists_cons_of_ne_nil typeName.solid
  have letter : isPlainLetter c := typeName.first c rfl
  have later : ∀ d ∈ others, isWord d := fun d member => typeName.word d (List.mem_cons_of_mem c member)
  rw [List.cons_append, bareType, if_pos letter, takeWhile_append_stop later (stops_layout blanks inside t)]

theorem readType_together (inside t : Text) (rest : List Text) :
    readType ((name ++ (gap ++ (group inside ++ t))) :: rest) = layoutType name (group inside ++ t) rest := by
  have args : trimStart (gap ++ (group inside ++ t)) = group inside ++ t := by
    rw [trimStart_pad blanks]
    exact trimStart_eq_self_iff.mpr
      (startsDark_of_front (List.cons_ne_nil _ _) (startsDark_group inside) t)
  have solid : group inside ++ t ≠ [] := by simp [group]
  have split := splitType_name typeName.solid typeName.first typeName.word (stops_layout blanks inside t)
  rw [args, if_neg solid] at split
  rw [layoutType]
  split_ifs with enclosed
  · rw [if_pos enclosed] at split
    simp [readType, split]
  · rw [if_neg enclosed] at split
    simp [readType, split, bareType_layout typeName blanks]

omit blanks

theorem readType_apart (inside t : Text) (rest : List Text) :
    readType (name :: (group inside ++ t) :: rest) = layoutType name (group inside ++ t) rest := by
  have split := splitType_word typeName.solid typeName.first typeName.word
  have noModifier : upper (group inside ++ t) ∉ typeModifiers := by
    intro known
    have member : '(' ∈ group inside ++ t := by simp [group]
    exact not_capital_of_mem member rfl (isCapital_typeModifiers _ known) rfl rfl
  rw [layoutType]
  split_ifs with enclosed
  · simp [readType, split, enclosed]
  · simp [readType, split, enclosed, typeWith, noModifier]

end

theorem columnOf_group {w : Text} (opening : '(' ∈ w) (column : Text) (rest : List Text) (t : Text) :
    columnOf column (w :: rest) t = { columnOf column rest t with dataType := readType (w :: rest) } :=
  columnOf_cons (not_attribute_of_mem opening rfl rfl) column rest t

theorem columnOf_apart {name : Text} (typeName : TypeName name) {w : Text} (opening : '(' ∈ w) (column : Text)
    (rest : List Text) (t : Text) :
    columnOf column (name :: w :: rest) t =
      { columnOf column rest t with dataType := readType (name :: w :: rest) } := by
  have second {k : Text} (capitals : ∀ d ∈ k, isCapital d) : upper w ≠ k :=
    not_capital_of_mem opening rfl capitals rfl
  have noNull : upper w ≠ "NULL" := second (by decide)
  have noSet : upper w ≠ "SET" := second (by decide)
  obtain ⟨noDefault, noIncrement, noCharset, noCollate⟩ :
      upper name ≠ "DEFAULT" ∧ upper name ≠ "AUTO_INCREMENT" ∧ upper name ≠ "CHARSET" ∧
        upper name ≠ "COLLATE" := by
    simpa [loneWords] using typeName.free
  have charset : readCharset (name :: w :: rest) = readCharset (w :: rest) := by
    cases rest <;> simp [readCharset, noCharset, noSet]
  have passed : columnOf column (name :: w :: rest) t =
      { columnOf column (w :: rest) t with dataType := readType (name :: w :: rest) } := by
    simp [columnOf, isNotNull, noNull, readDefault_cons, noDefault, isAutoIncrement_cons, noIncrement,
      charset, readCollation_cons, noCollate]
  rw [passed, columnOf_group opening]

theorem layoutType_unique {name i j : Text} {rest : List Text}
    (same : layoutType name (group i) rest = layoutType name (group j) rest) : upper i = upper j := by
  have parts (inside : Text) : upper (group inside) = '(' :: (upper inside ++ [')']) := by
    rw [group, List.cons_append, upper_cons, upper_append]
    rfl
  simp only [layoutType, isParenthesised_group, ↓reduceIte, typeWith, intercalate_cons_spaced, upper_append,
    parts, List.append_assoc, List.append_cancel_left_eq, List.cons_append, List.cons.injEq, true_and] at same
  exact List.append_cancel_right same

section

variable {identifier : Identifier} (valid : identifier.Valid) {gap : Text} (blanks : ∀ c ∈ gap, isBlank c)
  {name : Text} (typeName : TypeName name) (ends : identifier.Ends (gap ++ name))
  (declares : DeclaresColumn identifier name)

include valid blanks typeName ends declares

theorem readColumn_layoutText {l : Layout} (validLayout : l.Valid) {tail glued : Text} {rest : List Text}
    (split : ∀ p, Token p → definitionWords (p ++ tail) = (p ++ glued) :: rest) :
    readColumn (layoutText identifier gap name l tail) = some
      { columnOf identifier.name rest (trim (layoutText identifier gap name l tail)) with
        dataType := layoutType name (group (argumentsText l.arguments) ++ glued) rest } := by
  obtain ⟨blanksLayout, validArgs⟩ := validLayout
  have nested := nested_argumentsText validArgs
  have stops := stops_layout blanksLayout (argumentsText l.arguments) tail
  have dark : StartsDark name :=
    fun c first => isBlank_of_isWord (typeName.word c (List.mem_of_mem_head? first))
  have next : nextWord (gap ++ (name ++ (l.gap ++ (group (argumentsText l.arguments) ++ tail)))) = name := by
    rw [nextWord, trimStart_pad blanks,
      trimStart_eq_self_iff.mpr (startsDark_of_front typeName.solid dark _),
      takeWhile_append_stop typeName.word stops]
  have endsWhole :
      identifier.Ends (gap ++ (name ++ (l.gap ++ (group (argumentsText l.arguments) ++ tail)))) := by
    cases identifier with
    | quoted mark inner => trivial
    | word inner =>
      intro c first
      have solid : gap ++ name ≠ [] := by simp [typeName.solid]
      apply ends c
      rwa [← List.append_assoc, List.head?_append_of_ne_nil _ solid] at first
  have read := readColumn_identifier valid endsWhole (next.symm ▸ declares)
  have words := definitionWords_layout typeName blanksLayout nested split
  rw [definitionWords, splitTopLevel_pad blanks, ← definitionWords] at read
  rw [layoutText, read]
  rcases words with together | apart
  · rw [together, columnOf_group (by simp [group]), readType_together typeName blanksLayout]
  · rw [apart, columnOf_apart typeName (by simp [group]), readType_apart typeName]

/-- Two layouts of one list of arguments declare columns that differ in nothing but the type. The blanks before
the arguments do not count for that either, whereas those inside the parentheses are all kept. -/
theorem readColumn_layouts {l m : Layout} (validLeft : l.Valid) (validRight : m.Valid)
    (values : l.values = m.values) (tail : Text) :
    ∃ c d, readColumn (layoutText identifier gap name l tail) = some c ∧
      readColumn (layoutText identifier gap name m tail) = some d ∧
      c.Agrees { d with dataType := c.dataType } ∧ (l.arguments = m.arguments → c.Agrees d) ∧
      ((∀ s ∈ tail.head?, separatesWords s) → (c.changes d = [] ↔ l.arguments = m.arguments)) := by
  obtain ⟨glued, rest, split, separate⟩ := splitTopLevel_glued .tracked separatesWords tail
  have left := readColumn_layoutText valid blanks typeName ends declares validLeft split
  have right := readColumn_layoutText valid blanks typeName ends declares validRight split
  refine ⟨_, _, left, right, rfl, ?_, ?_⟩
  · intro same
    rw [same]
    rfl
  · intro separated
    have nothing : glued = [] := separate fun d first =>
      ⟨separated d first, isPlain_of_isBlank (isBlank_of_separatesWords (separated d first))⟩
    rw [Column.changes_eq_nil]
    constructor
    · intro attributes
      have types := attributes.dataType
      simp only [nothing, List.append_nil] at types
      exact arguments_unique validLeft.arguments validRight.arguments values (layoutType_unique types)
    · intro same
      rw [same]
      exact ⟨rfl, rfl, rfl, rfl, rfl, rfl⟩

end

theorem readColumn_layouts_line :
    let identifier := Identifier.quoted '\x60' "kind"
    let arguments : List Argument := [⟨[], "'a)'", []⟩, ⟨" ", "'b,'", []⟩]
    let l : Layout := ⟨[], arguments⟩
    let m : Layout := ⟨"\n\t", arguments⟩
    let tail : Text := " unsigned NOT NULL DEFAULT 'a)'"
    (identifier.Valid ∧ TypeName "enum" ∧ identifier.Ends "enum" ∧ DeclaresColumn identifier "enum" ∧
        l.Valid ∧ m.Valid ∧ l.values = m.values ∧ ∀ s ∈ tail.head?, separatesWords s) ∧
      layoutText identifier [] "enum" m tail =
        ("\x60kind\x60enum\n\t('a)', 'b,') unsigned NOT NULL DEFAULT 'a)'" : Text) ∧
      ∃ c d, readColumn (layoutText identifier [] "enum" l tail) = some c ∧
        readColumn (layoutText identifier [] "enum" m tail) = some d ∧ c.Agrees d ∧ c.changes d = [] := by
  intro identifier arguments l m tail
  have hypotheses : identifier.Valid ∧ TypeName "enum" ∧ identifier.Ends "enum" ∧
      DeclaresColumn identifier "enum" ∧ l.Valid ∧ m.Valid ∧ l.values = m.values ∧
      ∀ s ∈ tail.head?, separatesWords s := by decide +kernel
  obtain ⟨valid, typeName, ends, declares, validLeft, validRight, values, separated⟩ := hypotheses
  have noGap : ∀ c ∈ lit "", isBlank c := by decide
  obtain ⟨c, d, left, right, _, agrees, unchanged⟩ :=
    readColumn_layouts valid noGap typeName ends declares validLeft validRight values tail
  exact ⟨⟨valid, typeName, ends, declares, validLeft, validRight, values, separated⟩, by decide +kernel,
    c, d, left, right, agrees rfl, (unchanged separated).mpr rfl⟩

/-- A blank after the comma is part of the type. -/
theorem readColumn_layouts_comma :
    (readColumn "c DECIMAL(10,2)").map Column.dataType = some "DECIMAL(10,2)" ∧
      (readColumn "c DECIMAL(10, 2)").map Column.dataType = some "DECIMAL(10, 2)" ∧
      ¬∃ c d, readColumn "c DECIMAL(10,2)" = some c ∧ readColumn "c DECIMAL(10, 2)" = some d ∧
        (c.Agrees d ∨ c.changes d = []) := by
  have left : (readColumn "c DECIMAL(10,2)").map Column.dataType = some "DECIMAL(10,2)" := by decide +kernel
  have right : (readColumn "c DECIMAL(10, 2)").map Column.dataType = some "DECIMAL(10, 2)" := by
    decide +kernel
  refine ⟨left, right, ?_⟩
  rintro ⟨c, d, readC, readD, same⟩
  rw [readC] at left
  rw [readD] at right
  have types : c.dataType = d.dataType := by
    rcases same with agrees | unchanged
    · exact (congrArg Column.dataType agrees : c.bare.dataType = d.bare.dataType)
    · exact (Column.changes_eq_nil.mp unchanged).dataType
  rw [Option.some.inj left, Option.some.inj right] at types
  exact absurd types (by decide)

end SchemaDiff.Ddl
