import SchemaDiff.Proofs.Ddl.ColumnRender

/-
Columns without a type. The attributes that clauses give are those of the same column with the fallback type
written out. The type itself is the fallback only where nothing follows the name: the first word after the
name is taken for a type, even if it is the keyword of a clause.
-/
namespace SchemaDiff.Ddl
open SchemaDiff.Text SchemaDiff.Text.Pattern SchemaDiff.Sql

theorem stops_spaced (words : List Text) : ∀ c ∈ (spaced words).head?, isWord c = false := by
  intro c first
  cases words with
  | nil => cases first
  | cons w others =>
    cases first
    decide

theorem nextWord_spaced {w : Text} (solid : w ≠ []) (word : ∀ c ∈ w, isWord c) (words : List Text) :
    nextWord (spaced (w :: words)) = w := by
  have shape : spaced (w :: words) = [' '] ++ (w ++ spaced words) := by simp [spaced]
  have dark : StartsDark (w ++ spaced words) :=
    startsDark_of_front solid (fun c first => isBlank_of_isWord (word c (List.mem_of_mem_head? first))) _
  rw [nextWord, shape, trimStart_pad (by decide), trimStart_eq_self_iff.mpr dark,
    takeWhile_append_stop word (stops_spaced words)]

theorem DeclaresColumn.before {identifier : Identifier} (alone : DeclaresColumn identifier [])
    {next : Text} (other : upper next ≠ "KEY") : DeclaresColumn identifier next := by
  cases identifier with
  | quoted mark name => trivial
  | word name =>
    have seconds : ∀ head ∈ constraintHeads, ∀ k ∈ head.tail, k = "KEY" := by decide
    intro head known front
    rcases head with _ | ⟨a, _ | ⟨b, others⟩⟩
    · exact absurd known (by decide)
    · apply alone [a] known
      exact List.cons_prefix_cons.mpr ⟨(List.cons_prefix_cons.mp front).1, List.nil_prefix⟩
    · have second := (List.cons_prefix_cons.mp (List.cons_prefix_cons.mp front).2).1
      exact other (second ▸ seconds _ known b List.mem_cons_self)

theorem definitionWords_spacedWords {words : List Text} (tokens : ∀ w ∈ words, Token w) :
    definitionWords (spaced words) = words := by
  by_cases someWords : words = []
  · subst someWords
    rfl
  · rw [spaced_eq someWords, definitionWords_spaced tokens]

theorem readColumn_spaced {identifier : Identifier} (valid : identifier.Valid) {words : List Text}
    (tokens : ∀ w ∈ words, Token w) (declares : DeclaresColumn identifier (nextWord (spaced words))) :
    ∃ text, readColumn (definitionText identifier words) = some (columnOf identifier.name words text) := by
  have read := readColumn_identifier valid (Identifier.ends_of_head (stops_spaced words) _) declares
  rw [definitionWords_spacedWords tokens] at read
  rw [definitionText_spaced]
  exact ⟨_, read⟩

theorem prefix_typeWith {name t : Text} (front : name <+: t) (words : List Text) :
    upper name <+: typeWith t words := by
  obtain ⟨u, rfl⟩ := front
  rw [typeWith, intercalate_cons_spaced, List.append_assoc, upper_append]
  exact List.prefix_append _ _

theorem prefix_readType {name : Text} (solid : name ≠ []) (first : ∀ c ∈ name.head?, isPlainLetter c)
    (word : ∀ c ∈ name, isWord c) (words : List Text) : upper name <+: readType (name :: words) := by
  cases words with
  | nil =>
    simp only [readType, splitType_word solid first word, Option.getD_none, List.append_nil]
    exact prefix_typeWith List.prefix_rfl _
  | cons args others =>
    simp only [readType, splitType_word solid first word]
    split
    · exact prefix_typeWith (List.prefix_append _ _) _
    · exact prefix_typeWith List.prefix_rfl _

theorem plainLetter_of_ascii_image : ∀ n < 128, isCapital (Char.ofNat n).toUpper →
    isPlainLetter (Char.ofNat n) := by
  decide +kernel

theorem plainLetters_of_inAnyCase {w k : Text} (spelled : InAnyCase w k)
    (capitals : ∀ c ∈ k, isCapital c) : ∀ c ∈ w, isPlainLetter c := by
  intro c member
  have image : c.toUpper ∈ k := spelled ▸ List.mem_map_of_mem member
  have capital := capitals _ image
  have known := plainLetter_of_ascii_image c.toNat (ascii_of_isCapital_toUpper capital)
  rw [Char.ofNat_toNat] at known
  exact known capital

theorem not_prefix_fallbackType (clause : Clause) :
    ∀ k ∈ clause.keywords.head?, ¬k <+: fallbackType ∧ k ≠ "KEY" := by
  cases clause <;> dsimp only [Clause.keywords] <;> decide

def writtenFallback : TypeText := ⟨fallbackType, .absent, []⟩

theorem columnOf_fallback (name : Text) (words : List Text) (t u : Text) :
    (columnOf name words t).Agrees
      { columnOf name (fallbackType :: words) u with dataType := readType words } := by
  have free : upper fallbackType ∉ attributeWords := by decide
  rw [columnOf_cons free]
  rfl

section

variable {ws : List Written} (valid : ∀ w ∈ ws, w.Valid)

include valid

theorem tokens_clauses : ∀ x ∈ ws.flatMap Written.words, Token x := by
  intro x member
  obtain ⟨w, listed, inside⟩ := List.mem_flatMap.mp member
  exact tokens_clause (valid w listed) x inside

theorem words_clauses (someClauses : ws ≠ []) :
    ∃ w ∈ ws.head?, ∃ k ∈ w.clause.keywords.head?, ∃ first more,
      ws.flatMap Written.words = first :: more ∧ InAnyCase first k := by
  cases ws with
  | nil => contradiction
  | cons w others =>
    obtain ⟨first, more, k, form, front, spelled⟩ := first_word (valid w List.mem_cons_self)
    refine ⟨w, rfl, k, front, first, more ++ others.flatMap Written.words, ?_, spelled⟩
    rw [List.flatMap_cons, form, List.cons_append]

theorem declares_clauses {identifier : Identifier} (alone : DeclaresColumn identifier []) :
    DeclaresColumn identifier (nextWord (spaced (ws.flatMap Written.words))) := by
  by_cases someClauses : ws = []
  · subst someClauses
    exact alone
  · obtain ⟨w, _, k, front, first, more, form, spelled⟩ := words_clauses valid someClauses
    have capitals := isCapital_keywords w.clause k (List.mem_of_mem_head? front)
    have solid := (tokens_clauses valid first (form ▸ List.mem_cons_self)).solid
    rw [form, nextWord_spaced solid (isWord_of_inAnyCase spelled capitals)]
    apply alone.before
    rw [upper_of_inAnyCase spelled capitals]
    exact (not_prefix_fallbackType w.clause k front).2

theorem prefix_readType_clauses :
    ∀ w ∈ ws.head?, ∀ k ∈ w.clause.keywords.head?, k <+: readType (ws.flatMap Written.words) := by
  intro w head k front
  have someClauses : ws ≠ [] := by
    rintro rfl
    cases head
  obtain ⟨v, sameHead, l, sameFront, first, more, form, spelled⟩ := words_clauses valid someClauses
  obtain rfl := Option.mem_unique head sameHead
  obtain rfl := Option.mem_unique front sameFront
  have capitals := isCapital_keywords w.clause k (List.mem_of_mem_head? front)
  have letters := plainLetters_of_inAnyCase spelled capitals
  have solid := (tokens_clauses valid first (form ▸ List.mem_cons_self)).solid
  have read := prefix_readType solid (fun c begins => letters c (List.mem_of_mem_head? begins))
    (isWord_of_inAnyCase spelled capitals) more
  rwa [upper_of_inAnyCase spelled capitals, ← form] at read

theorem readType_clauses_eq_fallback : readType (ws.flatMap Written.words) = fallbackType ↔ ws = [] := by
  constructor
  · intro same
    apply Classical.byContradiction
    intro someClauses
    obtain ⟨w, head, k, front, _⟩ := words_clauses valid someClauses
    have begins := prefix_readType_clauses valid w head k front
    exact (not_prefix_fallbackType w.clause k front).1 (same ▸ begins)
  · rintro rfl
    rfl

end

/-- Clauses right after the name of a column declare the same column as with the fallback type in between,
but for the type: that is the fallback where there are no clauses, and otherwise begins with the keyword of
the first of them. -/
theorem readColumn_untyped {identifier : Identifier} (valid : identifier.Valid)
    (names : DeclaresColumn identifier []) {ws : List Written} (validClauses : ∀ w ∈ ws, w.Valid) :
    let words := ws.flatMap Written.words
    ∃ c d, readColumn (definitionText identifier words) = some c ∧
      readColumn (definitionText identifier (fallbackType :: words)) = some d ∧
      d.dataType = fallbackType ∧ c.Agrees { d with dataType := c.dataType } ∧
      (c.dataType = fallbackType ↔ ws = []) ∧
      ∀ w ∈ ws.head?, ∀ k ∈ w.clause.keywords.head?, k <+: c.dataType := by
  intro words
  have word : ∀ c ∈ fallbackType, isWord c := by decide
  have tokens : ∀ x ∈ fallbackType :: words, Token x :=
    List.forall_mem_cons.mpr ⟨token_word (by decide) word, tokens_clauses validClauses⟩
  have declares : DeclaresColumn identifier (nextWord (spaced (fallbackType :: words))) := by
    rw [nextWord_spaced (by decide) word]
    exact names.before (by decide)
  obtain ⟨t, untyped⟩ := readColumn_spaced valid (tokens_clauses validClauses)
    (declares_clauses validClauses names)
  obtain ⟨u, typed⟩ := readColumn_spaced valid tokens declares
  have validFallback : writtenFallback.Valid := by decide
  have dataType : readType (fallbackType :: words) = fallbackType :=
    (readType_type validFallback (endsType_clauses validClauses)).trans (by decide)
  exact ⟨_, _, untyped, typed, dataType, columnOf_fallback _ _ _ _,
    readType_clauses_eq_fallback validClauses, prefix_readType_clauses validClauses⟩

theorem readColumn_untyped_check :
    let identifier := Identifier.word "primary"
    let ws : List Written := [⟨.check "a > ')'", ["check"]⟩, ⟨.default ["NULL"], ["Default"]⟩]
    let words := ws.flatMap Written.words
    (identifier.Valid ∧ DeclaresColumn identifier [] ∧ ∀ w ∈ ws, w.Valid) ∧
      definitionText identifier words = ("primary check (a > ')') Default NULL" : Text) ∧
      ∃ c d, readColumn (definitionText identifier words) = some c ∧
        readColumn (definitionText identifier (fallbackType :: words)) = some d ∧
        d.dataType = fallbackType ∧ c.Agrees { d with dataType := c.dataType } ∧
        c.dataType ≠ fallbackType ∧ lit "CHECK" <+: c.dataType := by
  intro identifier ws words
  have hypotheses : identifier.Valid ∧ DeclaresColumn identifier [] ∧ ∀ w ∈ ws, w.Valid := by
    decide +kernel
  obtain ⟨valid, names, validClauses⟩ := hypotheses
  obtain ⟨c, d, untyped, typed, dataType, same, fallback, begins⟩ :=
    readColumn_untyped valid names validClauses
  exact ⟨⟨valid, names, validClauses⟩, by decide +kernel, c, d, untyped, typed, dataType, same,
    fun other => List.cons_ne_nil _ _ (fallback.mp other), begins _ rfl _ rfl⟩

/-- The keyword of the first clause becomes the type. -/
theorem readColumn_untyped_notNull :
    (readColumn "c NOT NULL").map Column.dataType = some "NOT" ∧
      ¬∃ c d, readColumn "c NOT NULL" = some c ∧ readColumn "c TEXT NOT NULL" = some d ∧ c.Agrees d := by
  have untyped : (readColumn "c NOT NULL").map Column.dataType = some "NOT" := by decide +kernel
  have typed : (readColumn "c TEXT NOT NULL").map Column.dataType = some "TEXT" := by decide +kernel
  refine ⟨untyped, ?_⟩
  rintro ⟨c, d, readC, readD, same⟩
  rw [readC] at untyped
  rw [readD] at typed
  have types : c.bare.dataType = d.bare.dataType := congrArg Column.dataType same
  change c.dataType = d.dataType at types
  rw [Option.some.inj untyped, Option.some.inj typed] at types
  exact absurd types (by decide)

end SchemaDiff.Ddl
