import Mathlib.Data.List.Infix
import SchemaDiff.Proofs.Sql.Split

/-
Statements put together from literals, names in backticks and other characters. The scan for quotes
looks at no more than the one character before a quote. It keeps in step with the quotes of a literal
as long as none of them comes right after a backslash that is itself escaped, and with those of a name
in backticks as long as none comes right after a backslash at all.
-/
namespace SchemaDiff.Sql
open SchemaDiff.Text

/-- What a literal or a quoted name is made of between its quotes. -/
inductive QuotedPart where
  | plain (c : Char)
  | escaped (c : Char)
  | quote
deriving DecidableEq, Repr

namespace QuotedPart

def write (q : Char) : QuotedPart → Text
  | plain c => [c]
  | escaped c => ['\\', c]
  | quote => [q, q]

/-- In backticks a backslash is a character like any other; elsewhere it escapes the next one. -/
def Valid (q : Char) : QuotedPart → Prop
  | plain c => c ≠ q ∧ (q = '\x60' ∨ c ≠ '\\')
  | escaped _ => q ≠ '\x60'
  | quote => True

instance (q : Char) (p : QuotedPart) : Decidable (p.Valid q) := by
  cases p <;> unfold Valid <;> infer_instance

def turning : List QuotedPart := [plain '\\', escaped '\\']

end QuotedPart

/-- No quote, be it doubled or the one that closes, comes right after a part that ends in a
backslash. -/
def InStep (parts : List QuotedPart) : Prop :=
  ∀ p ∈ QuotedPart.turning, ¬[p, .quote] <:+: parts ++ [.quote]

inductive StatementPart where
  | other (c : Char)
  | quoted (q : Char) (parts : List QuotedPart)
deriving DecidableEq, Repr

namespace StatementPart

def write : StatementPart → Text
  | other c => [c]
  | quoted q parts => q :: parts.flatMap (QuotedPart.write q) ++ [q]

def Valid : StatementPart → Prop
  | other c => isQuote c = false ∧ c ≠ ';'
  | quoted q parts => isQuote q ∧ ∀ p ∈ parts, p.Valid q

def InStep : StatementPart → Prop
  | other _ => True
  | quoted _ parts => Sql.InStep parts

instance (p : StatementPart) : Decidable p.Valid := by
  cases p <;> unfold Valid <;> infer_instance

instance (p : StatementPart) : Decidable p.InStep := by
  cases p <;> unfold InStep Sql.InStep <;> infer_instance

end StatementPart

def statementText (parts : List StatementPart) : Text := parts.flatMap StatementPart.write

section

variable {parens : Parens} {isDelimiter : Char → Bool} {q : Char}

open ScanState

theorem quote_ne (quote : isQuote q) : q ≠ '\\' ∧ q ≠ '(' ∧ q ≠ ')' := by
  refine ⟨?_, ?_, ?_⟩ <;> rintro rfl <;> exact absurd quote (by decide)

theorem depth_feed {s : ScanState} {c : Char}
    (level : (s.quote.feed c).isOpen ∨ c ≠ '(' ∧ c ≠ ')') : (s.feed parens c).depth = s.depth := by
  rcases level with inside | ⟨notOpening, notClosing⟩
  · simp [feed, inside]
  · simp [feed, notOpening, notClosing]

theorem not_top_of_inside {s : ScanState} (inside : s.quote.opener = some q) : ¬s.isTopLevel := by
  intro top
  rw [(isTopLevel_iff.mp top).1] at inside
  contradiction

theorem after_part (quote : isQuote q) (kept : isDelimiter q = false) {s : ScanState}
    (inside : s.quote.opener = some q) {p : QuotedPart} (valid : p.Valid q)
    (calm : p = .quote → s.quote.previous ≠ some '\\') :
    (s.after parens (p.write q)).quote.opener = some q ∧
      (s.after parens (p.write q)).depth = s.depth ∧
      Uncut parens isDelimiter s (p.write q) ∧
      ((s.after parens (p.write q)).quote.previous = some '\\' → p ∈ QuotedPart.turning) := by
  obtain ⟨notEscape, noParen⟩ := quote_ne quote
  cases p with
  | plain c =>
    have still : s.quote.feed c = ⟨some q, some c⟩ := QuoteState.feed_inside inside valid.1
    have openStill : (s.feed parens c).quote.opener = some q := congrArg QuoteState.opener still
    refine ⟨openStill, depth_feed (.inl (congrArg QuoteState.isOpen still)),
      ⟨fun cut => not_top_of_inside openStill cut.1, trivial⟩, ?_⟩
    intro backslash
    have last : c = '\\' := Option.some.inj backslash
    simp [QuotedPart.turning, last]
  | escaped c =>
    have first : s.quote.feed '\\' = ⟨some q, some '\\'⟩ :=
      QuoteState.feed_inside inside (Ne.symm notEscape)
    have second : (s.quote.feed '\\').feed c = ⟨some q, some c⟩ := by
      rw [first]
      simp [QuoteState.feed]
    have openFirst : (s.feed parens '\\').quote.opener = some q := congrArg QuoteState.opener first
    have openSecond : ((s.feed parens '\\').feed parens c).quote.opener = some q :=
      congrArg QuoteState.opener second
    refine ⟨openSecond, ?_, ⟨fun cut => not_top_of_inside openFirst cut.1,
      fun cut => not_top_of_inside openSecond cut.1, trivial⟩, ?_⟩
    · exact (depth_feed (.inl (congrArg QuoteState.isOpen second))).trans
        (depth_feed (.inl (congrArg QuoteState.isOpen first)))
    · intro backslash
      have last : c = '\\' := Option.some.inj backslash
      simp [QuotedPart.turning, last]
  | quote =>
    have closed : (s.feed parens q).quote.opener = none :=
      QuoteState.feed_closing inside (calm rfl)
    have openAgain : ((s.feed parens q).feed parens q).quote.opener = some q := by
      rw [feed, QuoteState.feed_of_closed closed]
      simp [QuoteState.feed, QuoteState.start, quote]
    refine ⟨openAgain, ?_, ⟨by simp [kept], fun cut => not_top_of_inside openAgain cut.1, trivial⟩, ?_⟩
    · exact (depth_feed (.inr noParen)).trans (depth_feed (.inr noParen))
    · intro backslash
      exact absurd (Option.some.inj backslash) notEscape

theorem inStep_cons {p : QuotedPart} {parts : List QuotedPart} (steps : InStep (p :: parts)) :
    InStep parts ∧ (p ∈ QuotedPart.turning → (parts ++ [QuotedPart.quote]).head? ≠ some .quote) := by
  constructor
  · intro r turns found
    exact steps r turns (List.infix_cons found)
  · intro turns next
    obtain ⟨rest, split⟩ := List.head?_eq_some_iff.mp next
    refine steps p turns ⟨[], rest, ?_⟩
    rw [List.cons_append, split]
    rfl

theorem after_parts (quote : isQuote q) (kept : isDelimiter q = false) {s : ScanState}
    (inside : s.quote.opener = some q) {parts : List QuotedPart} (valid : ∀ p ∈ parts, p.Valid q)
    (steps : InStep parts)
    (calm : s.quote.previous = some '\\' → (parts ++ [QuotedPart.quote]).head? ≠ some .quote) :
    (s.after parens (parts.flatMap (QuotedPart.write q))).quote.opener = some q ∧
      (s.after parens (parts.flatMap (QuotedPart.write q))).depth = s.depth ∧
      Uncut parens isDelimiter s (parts.flatMap (QuotedPart.write q)) ∧
      (s.after parens (parts.flatMap (QuotedPart.write q))).quote.previous ≠ some '\\' := by
  induction parts generalizing s with
  | nil => exact ⟨inside, rfl, trivial, fun backslash => calm backslash rfl⟩
  | cons p others ih =>
    have calmFirst : p = .quote → s.quote.previous ≠ some '\\' := by
      rintro rfl backslash
      exact calm backslash rfl
    obtain ⟨openFirst, depthFirst, uncutFirst, turns⟩ :
        (s.after parens (p.write q)).quote.opener = some q ∧
          (s.after parens (p.write q)).depth = s.depth ∧
          Uncut parens isDelimiter s (p.write q) ∧
          ((s.after parens (p.write q)).quote.previous = some '\\' → p ∈ QuotedPart.turning) :=
      after_part quote kept inside (valid p List.mem_cons_self) calmFirst
    obtain ⟨stepsLater, next⟩ := inStep_cons steps
    obtain ⟨openLast, depthLast, uncutLast, calmLast⟩ := ih openFirst
      (fun r member => valid r (List.mem_cons_of_mem p member)) stepsLater
      fun backslash => next (turns backslash)
    rw [List.flatMap_cons, after_append]
    exact ⟨openLast, depthLast.trans depthFirst, uncut_append.mpr ⟨uncutFirst, uncutLast⟩, calmLast⟩

theorem whole_quotedParts (quote : isQuote q) (kept : isDelimiter q = false)
    {parts : List QuotedPart} (valid : ∀ p ∈ parts, p.Valid q) (steps : InStep parts) :
    Whole parens isDelimiter (q :: parts.flatMap (QuotedPart.write q) ++ [q]) := by
  obtain ⟨notEscape, noParen⟩ := quote_ne quote
  have opened : (start.feed parens q).quote = ⟨some q, some q⟩ := by
    simp [feed, start, QuoteState.feed, QuoteState.start, quote]
  have level : (start.feed parens q).depth = 0 := depth_feed (.inr noParen)
  obtain ⟨inside, depth, uncut, calm⟩ :
      ((start.feed parens q).after parens (parts.flatMap (QuotedPart.write q))).quote.opener =
          some q ∧
        ((start.feed parens q).after parens (parts.flatMap (QuotedPart.write q))).depth =
          (start.feed parens q).depth ∧
        Uncut parens isDelimiter (start.feed parens q) (parts.flatMap (QuotedPart.write q)) ∧
        ((start.feed parens q).after parens (parts.flatMap (QuotedPart.write q))).quote.previous ≠
          some '\\' :=
    after_parts quote kept (by rw [opened]) valid steps (by simp [opened, notEscape])
  constructor
  · rw [List.cons_append, after_cons, after_append, after_cons, after_nil, isTopLevel_iff]
    refine ⟨QuoteState.feed_closing inside calm, ?_⟩
    rw [depth_feed (.inr noParen), depth, level]
  · rw [List.cons_append, Uncut, uncut_append]
    refine ⟨by simp [kept], uncut, ?_⟩
    exact uncut_of_absent (by simpa using kept) _

end

theorem whole_flatMap {α : Type} {parens : Parens} {isDelimiter : Char → Bool} {write : α → Text}
    {parts : List α} (all : ∀ p ∈ parts, Whole parens isDelimiter (write p)) :
    Whole parens isDelimiter (parts.flatMap write) := by
  induction parts with
  | nil => exact whole_plain (by simp) (by simp)
  | cons p others ih =>
    rw [List.flatMap_cons]
    exact whole_append (all p List.mem_cons_self)
      (ih fun r member => all r (List.mem_cons_of_mem p member))

theorem whole_other {c : Char} (plain : isQuote c = false) (kept : c ≠ ';') :
    Whole .ignored (· == ';') [c] := by
  constructor
  · rw [ScanState.after_cons, ScanState.after_nil, ScanState.isTopLevel_iff]
    exact ⟨QuoteState.feed_plain rfl plain, by simp [ScanState.feed, ScanState.start]⟩
  · exact uncut_of_absent (by simpa using kept) _

theorem whole_part {p : StatementPart} (valid : p.Valid) (steps : p.InStep) :
    Whole .ignored (· == ';') p.write := by
  cases p with
  | other c => exact whole_other valid.1 valid.2
  | quoted q parts =>
    have kept : (q == ';') = false := by
      rw [beq_eq_false_iff_ne]
      rintro rfl
      exact absurd valid.1 (by decide)
    exact whole_quotedParts valid.1 kept valid.2 steps

/-- Statements in step with the scan are what comes out of the script in which semicolons join them. -/
theorem statements_intercalate_statementText {statementParts : List (List StatementPart)}
    (valid : ∀ parts ∈ statementParts, ∀ p ∈ parts, p.Valid)
    (steps : ∀ parts ∈ statementParts, ∀ p ∈ parts, p.InStep)
    (trimmed : ∀ parts ∈ statementParts,
      statementText parts ≠ [] ∧ trim (statementText parts) = statementText parts) :
    statements ([';'].intercalate (statementParts.map statementText)) =
      statementParts.map statementText := by
  have pieces : ∀ t ∈ statementParts.map statementText, Piece .ignored (· == ';') t := by
    intro t member
    obtain ⟨parts, listed, rfl⟩ := List.mem_map.mp member
    have whole : Whole .ignored (· == ';') (statementText parts) :=
      whole_flatMap fun p inside => whole_part (valid parts listed p inside) (steps parts listed p inside)
    exact ⟨whole, (trimmed parts listed).1, (trimmed parts listed).2⟩
  have noGap : Gap (· == ';') [] := by decide
  exact splitTopLevel_intercalate ⟨rfl, rfl⟩ noGap pieces

theorem statements_intercalate_paths :
    let path : StatementPart :=
      .quoted '\'' [.plain 'C', .escaped '\\', .plain ';', .escaped '\'', .quote, .plain 'd']
    let name : StatementPart := .quoted '\x60' [.plain '\\', .plain ';', .quote]
    let insert := (lit "INSERT INTO p VALUES (").map .other ++ [path, .other ')']
    let create := (lit "CREATE TABLE ").map .other ++ [name] ++ (lit " (a INT)").map .other
    ((∀ parts ∈ [insert, create], ∀ p ∈ parts, p.Valid) ∧
        (∀ parts ∈ [insert, create], ∀ p ∈ parts, p.InStep) ∧
        ∀ parts ∈ [insert, create],
          statementText parts ≠ [] ∧ trim (statementText parts) = statementText parts) ∧
      let texts : List Text :=
        ["INSERT INTO p VALUES ('C\\\\;\\'''d')", "CREATE TABLE \x60\\;\x60\x60\x60 (a INT)"]
      statements ([';'].intercalate texts) = texts := by
  intro path name insert create
  have valid : ∀ parts ∈ [insert, create], ∀ p ∈ parts, p.Valid := by decide
  have steps : ∀ parts ∈ [insert, create], ∀ p ∈ parts, p.InStep := by decide
  have trimmed : ∀ parts ∈ [insert, create],
      statementText parts ≠ [] ∧ trim (statementText parts) = statementText parts := by decide
  refine ⟨⟨valid, steps, trimmed⟩, ?_⟩
  intro texts
  have written : [insert, create].map statementText = texts := by decide
  have split := statements_intercalate_statementText valid steps trimmed
  rwa [written] at split

/-- A literal whose last character is an escaped backslash is taken to be open still, and so is a name
in backticks that ends in a backslash. The statement after it is not found. -/
theorem statements_out_of_step :
    let create := (lit "CREATE TABLE u (a INT)").map StatementPart.other
    let path : StatementPart := .quoted '\'' [.plain 'C', .plain ':', .escaped '\\']
    let insert := (lit "INSERT INTO p VALUES (").map .other ++ [path, .other ')']
    let name : StatementPart := .quoted '\x60' [.plain 'a', .plain '\\']
    let drop := (lit "DROP TABLE ").map .other ++ [name]
    ∀ before ∈ [insert, drop],
      (∀ parts ∈ [before, create], (∀ p ∈ parts, p.Valid) ∧
        statementText parts ≠ [] ∧ trim (statementText parts) = statementText parts) ∧
      statements ([';'].intercalate ([before, create].map statementText)) ≠
        [before, create].map statementText := by
  decide

end SchemaDiff.Sql
