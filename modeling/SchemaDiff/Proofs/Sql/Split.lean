import SchemaDiff.Proofs.Sql.Quote
import SchemaDiff.Proofs.Text.Blank
import SchemaDiff.Sql.Split

/-
Where a text is cut. At top level a scan has no memory, so that texts which are whole, that is which
end at top level and have no delimiter there, can be put side by side without touching each other.
Trimmed whole pieces with delimiters between them are what the splitter gives back.
-/
namespace SchemaDiff.Sql
open SchemaDiff.Text

namespace ScanState

variable {parens : Parens}

def after (parens : Parens) (s : ScanState) (t : Text) : ScanState := t.foldl (feed parens) s

@[simp] theorem after_nil (s : ScanState) : s.after parens [] = s := rfl

@[simp] theorem after_cons (s : ScanState) (c : Char) (t : Text) :
    s.after parens (c :: t) = (s.feed parens c).after parens t := rfl

@[simp] theorem after_append (s : ScanState) (t u : Text) :
    s.after parens (t ++ u) = (s.after parens t).after parens u := List.foldl_append

theorem quote_after (s : ScanState) (t : Text) :
    (s.after parens t).quote = s.quote.after t := by
  induction t generalizing s with
  | nil => rfl
  | cons c rest ih => exact ih (s.feed parens c)

theorem isQuote_opener_start : ∀ q ∈ start.quote.opener, isQuote q := by
  simp [start, QuoteState.start]

theorem isQuote_opener_after {s : ScanState} (quotes : ∀ q ∈ s.quote.opener, isQuote q) (t : Text) :
    ∀ q ∈ (s.after parens t).quote.opener, isQuote q := by
  rw [quote_after]
  exact QuoteState.isQuote_opener_after quotes t

theorem isTopLevel_iff {s : ScanState} :
    s.isTopLevel ↔ s.quote.opener = none ∧ s.depth = 0 := by
  simp [isTopLevel, QuoteState.isOpen_eq_false_iff]

theorem closed_of_isTopLevel {t : Text} (top : (start.after parens t).isTopLevel) : Closed t := by
  have closed := (isTopLevel_iff.mp top).1
  rw [quote_after] at closed
  exact closed

theorem feed_of_isTopLevel {s : ScanState} (top : s.isTopLevel) (c : Char) :
    s.feed parens c = start.feed parens c := by
  obtain ⟨closed, level⟩ := isTopLevel_iff.mp top
  simp only [feed, level, QuoteState.feed_of_closed closed]
  rfl

theorem after_of_isTopLevel {s : ScanState} (top : s.isTopLevel) {t : Text} (solid : t ≠ []) :
    s.after parens t = start.after parens t := by
  cases t with
  | nil => contradiction
  | cons c rest => rw [after_cons, after_cons, feed_of_isTopLevel top]

theorem isTopLevel_after {s : ScanState} (top : s.isTopLevel) {t : Text}
    (ends : (start.after parens t).isTopLevel) : (s.after parens t).isTopLevel := by
  by_cases empty : t = []
  · subst empty
    exact top
  · rwa [after_of_isTopLevel top empty]

def deeper (k : Int) (s : ScanState) : ScanState := ⟨s.quote, k + s.depth⟩

theorem feed_deeper (k : Int) (s : ScanState) (c : Char) :
    (s.deeper k).feed parens c = (s.feed parens c).deeper k := by
  simp only [feed, deeper, mk.injEq, true_and]
  by_cases unnested : parens = .ignored ∨ (s.quote.feed c).isOpen
  · simp only [unnested, ↓reduceIte]
  · simp only [unnested, ↓reduceIte]
    split
    · omega
    · split <;> omega

theorem after_deeper (k : Int) (s : ScanState) (t : Text) :
    (s.deeper k).after parens t = (s.after parens t).deeper k := by
  induction t generalizing s with
  | nil => rfl
  | cons c rest ih => rw [after_cons, after_cons, feed_deeper, ih]

def NeverNegative : ScanState → Text → Prop
  | s, [] => 0 ≤ s.depth
  | s, c :: rest => 0 ≤ s.depth ∧ NeverNegative (s.feed .tracked c) rest

instance decidableNeverNegative : ∀ s t, Decidable (NeverNegative s t)
  | s, [] => inferInstanceAs (Decidable (0 ≤ s.depth))
  | s, c :: rest =>
    have := decidableNeverNegative (s.feed .tracked c) rest
    inferInstanceAs (Decidable (_ ∧ _))

end ScanState

open ScanState

def isPlain (c : Char) : Bool := !isQuote c && c != '(' && c != ')'

theorem isPlain_iff {c : Char} : isPlain c ↔ isQuote c = false ∧ c ≠ '(' ∧ c ≠ ')' := by
  simp [isPlain, and_assoc]

theorem isPlain_of_isBlank {c : Char} (blank : isBlank c) : isPlain c := by
  rw [isPlain_iff]
  refine ⟨?_, ?_, ?_⟩
  · by_cases quote : isQuote c
    · simp only [isQuote, Bool.or_eq_true, beq_iff_eq] at quote
      rcases quote with (rfl | rfl) | rfl <;> exact absurd blank (by decide)
    · simpa using quote
  · rintro rfl
    exact absurd blank (by decide)
  · rintro rfl
    exact absurd blank (by decide)

theorem isBlank_of_separatesWords {c : Char} (separates : separatesWords c) : isBlank c := by
  simp only [separatesWords, Bool.or_eq_true, beq_iff_eq] at separates
  rcases separates with ((((rfl | rfl) | rfl) | rfl) | rfl) | rfl <;> decide

theorem isTopLevel_feed_plain {parens : Parens} {s : ScanState} (top : s.isTopLevel) {c : Char}
    (plain : isPlain c) : (s.feed parens c).isTopLevel := by
  obtain ⟨noQuote, notOpening, notClosing⟩ := isPlain_iff.mp plain
  obtain ⟨closed, level⟩ := isTopLevel_iff.mp top
  have still := QuoteState.feed_plain closed noQuote
  rw [isTopLevel_iff]
  refine ⟨still, ?_⟩
  simp [feed, level, notOpening, notClosing]

theorem isTopLevel_of_feed_plain {parens : Parens} {s : ScanState}
    (quotes : ∀ q ∈ s.quote.opener, isQuote q) {c : Char} (plain : isPlain c)
    (top : (s.feed parens c).isTopLevel) : s.isTopLevel := by
  obtain ⟨noQuote, notOpening, notClosing⟩ := isPlain_iff.mp plain
  obtain ⟨closed, level⟩ := isTopLevel_iff.mp top
  rw [isTopLevel_iff]
  refine ⟨QuoteState.closed_of_feed_plain quotes noQuote closed, ?_⟩
  simpa [feed, notOpening, notClosing] using level

theorem isTopLevel_after_plain {parens : Parens} {s : ScanState} (top : s.isTopLevel) {t : Text}
    (plain : ∀ c ∈ t, isPlain c) : (s.after parens t).isTopLevel := by
  induction t generalizing s with
  | nil => exact top
  | cons c rest ih =>
    have first : (s.feed parens c).isTopLevel :=
      isTopLevel_feed_plain top (plain c List.mem_cons_self)
    exact ih first fun d member => plain d (List.mem_cons_of_mem c member)

theorem isTopLevel_of_after_plain {parens : Parens} {s : ScanState}
    (quotes : ∀ q ∈ s.quote.opener, isQuote q) {t : Text} (plain : ∀ c ∈ t, isPlain c)
    (top : (s.after parens t).isTopLevel) : s.isTopLevel := by
  induction t generalizing s with
  | nil => exact top
  | cons c rest ih =>
    have later : ∀ q ∈ (s.feed parens c).quote.opener, isQuote q :=
      QuoteState.isQuote_opener_feed quotes c
    have next : (s.feed parens c).isTopLevel :=
      ih later (fun d member => plain d (List.mem_cons_of_mem c member)) top
    exact isTopLevel_of_feed_plain quotes (plain c List.mem_cons_self) next

/-- No delimiter of the text is at top level, where the text comes after `s`. -/
def Uncut (parens : Parens) (isDelimiter : Char → Bool) : ScanState → Text → Prop
  | _, [] => True
  | s, c :: rest =>
    ¬((s.feed parens c).isTopLevel ∧ isDelimiter c) ∧ Uncut parens isDelimiter (s.feed parens c) rest

instance decidableUncut (parens : Parens) (isDelimiter : Char → Bool) :
    ∀ s t, Decidable (Uncut parens isDelimiter s t)
  | _, [] => isTrue trivial
  | s, c :: rest =>
    have := decidableUncut parens isDelimiter (s.feed parens c) rest
    inferInstanceAs (Decidable (_ ∧ _))

/-- A text that ends outside quotes and parentheses and is not cut anywhere. -/
structure Whole (parens : Parens) (isDelimiter : Char → Bool) (t : Text) : Prop where
  ends : (start.after parens t).isTopLevel
  uncut : Uncut parens isDelimiter start t

instance (parens : Parens) (isDelimiter : Char → Bool) (t : Text) :
    Decidable (Whole parens isDelimiter t) :=
  decidable_of_iff (_ ∧ _) ⟨fun h => ⟨h.1, h.2⟩, fun h => ⟨h.ends, h.uncut⟩⟩

section

variable {parens : Parens} {isDelimiter : Char → Bool}

theorem uncut_append {s : ScanState} {t u : Text} :
    Uncut parens isDelimiter s (t ++ u) ↔
      Uncut parens isDelimiter s t ∧ Uncut parens isDelimiter (s.after parens t) u := by
  induction t generalizing s with
  | nil => simp [Uncut]
  | cons c rest ih => simp only [List.cons_append, Uncut, ih, and_assoc, after_cons]

theorem uncut_of_isTopLevel {s : ScanState} (top : s.isTopLevel) {t : Text} :
    Uncut parens isDelimiter s t ↔ Uncut parens isDelimiter start t := by
  cases t with
  | nil => rfl
  | cons c rest => rw [Uncut, Uncut, feed_of_isTopLevel top]

theorem uncut_of_absent {t : Text} (absent : ∀ c ∈ t, isDelimiter c = false) (s : ScanState) :
    Uncut parens isDelimiter s t := by
  induction t generalizing s with
  | nil => trivial
  | cons c rest ih =>
    have first := absent c List.mem_cons_self
    exact ⟨by simp [first], ih (fun d member => absent d (List.mem_cons_of_mem c member)) _⟩

theorem whole_plain {t : Text} (plain : ∀ c ∈ t, isPlain c)
    (absent : ∀ c ∈ t, isDelimiter c = false) : Whole parens isDelimiter t :=
  ⟨isTopLevel_after_plain rfl plain, uncut_of_absent absent _⟩

theorem whole_append {t u : Text} (first : Whole parens isDelimiter t)
    (second : Whole parens isDelimiter u) : Whole parens isDelimiter (t ++ u) := by
  constructor
  · rw [after_append]
    exact isTopLevel_after first.ends second.ends
  · rw [uncut_append]
    exact ⟨first.uncut, (uncut_of_isTopLevel first.ends).mpr second.uncut⟩

end

theorem whole_intercalate {parens : Parens} {isDelimiter : Char → Bool} {separator : Text}
    (between : Whole parens isDelimiter separator) {pieces : List Text}
    (all : ∀ p ∈ pieces, Whole parens isDelimiter p) :
    Whole parens isDelimiter (separator.intercalate pieces) := by
  induction pieces with
  | nil => exact whole_plain (by simp) (by simp)
  | cons p others ih =>
    have first := all p List.mem_cons_self
    cases others with
    | nil => rwa [List.intercalate_singleton]
    | cons q others =>
      have later := ih fun r member => all r (List.mem_cons_of_mem p member)
      rw [List.intercalate_cons_cons]
      exact whole_append (whole_append first between) later

theorem inside_quote {parens : Parens} {isDelimiter : Char → Bool} {s : ScanState} {q : Char}
    (inside : s.quote.opener = some q) {t : Text} (absent : q ∉ t) :
    (s.after parens t).quote.opener = some q ∧ (s.after parens t).depth = s.depth ∧
      Uncut parens isDelimiter s t := by
  induction t generalizing s with
  | nil => exact ⟨inside, rfl, trivial⟩
  | cons c rest ih =>
    have other : c ≠ q := fun same => absent (same ▸ List.mem_cons_self)
    have next : (s.feed parens c).quote.opener = some q := by
      simp [feed, QuoteState.feed_inside inside other]
    have level : (s.feed parens c).depth = s.depth := by
      simp [feed, QuoteState.feed_inside inside other, QuoteState.isOpen]
    obtain ⟨still, depth, uncut⟩ := ih next fun member => absent (List.mem_cons_of_mem c member)
    refine ⟨still, by rw [after_cons, depth, level], ?_, uncut⟩
    rintro ⟨top, _⟩
    rw [(isTopLevel_iff.mp top).1] at next
    contradiction

theorem whole_quoted {parens : Parens} {isDelimiter : Char → Bool} {q : Char} (quote : isQuote q)
    {body : Text} (absent : q ∉ body) (unescaped : body.getLast? ≠ some '\\')
    (kept : isDelimiter q = false) : Whole parens isDelimiter (q :: body ++ [q]) := by
  have opened : (start.feed parens q).quote.opener = some q := by
    simp [feed, start, QuoteState.feed, QuoteState.start, quote]
  have level : (start.feed parens q).depth = 0 := by
    simp [feed, start, QuoteState.feed, QuoteState.start, quote, QuoteState.isOpen]
  obtain ⟨_, depth, uncut⟩ :
      ((start.feed parens q).after parens body).quote.opener = some q ∧
        ((start.feed parens q).after parens body).depth = (start.feed parens q).depth ∧
        Uncut parens isDelimiter (start.feed parens q) body := inside_quote opened absent
  have noParen : q ≠ '(' ∧ q ≠ ')' := by
    constructor <;> rintro rfl <;> exact absurd quote (by decide)
  constructor
  · rw [isTopLevel_iff]
    constructor
    · rw [quote_after]
      exact QuoteState.after_quoted rfl quote absent unescaped
    · rw [List.cons_append, after_cons, after_append, after_cons, after_nil, feed]
      simp [depth, level, noParen]
  · rw [List.cons_append, Uncut, uncut_append]
    refine ⟨by simp [kept], uncut, ?_⟩
    exact uncut_of_absent (by simpa using kept) _

/-- A text that may stand between parentheses: its quotes are closed and its own parentheses match. -/
structure Nested (t : Text) : Prop where
  ends : (start.after .tracked t).isTopLevel
  neverNegative : NeverNegative start t

instance (t : Text) : Decidable (Nested t) :=
  decidable_of_iff (_ ∧ _) ⟨fun h => ⟨h.1, h.2⟩, fun h => ⟨h.ends, h.neverNegative⟩⟩

theorem neverNegative_head {s : ScanState} {t : Text} (nonneg : NeverNegative s t) :
    0 ≤ s.depth := by
  cases t with
  | nil => exact nonneg
  | cons c rest => exact nonneg.1

theorem neverNegative_append {s : ScanState} {t u : Text} :
    NeverNegative s (t ++ u) ↔ NeverNegative s t ∧ NeverNegative (s.after .tracked t) u := by
  induction t generalizing s with
  | nil =>
    rw [List.nil_append, after_nil, NeverNegative]
    exact ⟨fun nonneg => ⟨neverNegative_head nonneg, nonneg⟩, fun both => both.2⟩
  | cons c rest ih => simp only [List.cons_append, NeverNegative, ih, and_assoc, after_cons]

theorem neverNegative_of_isTopLevel {s : ScanState} (top : s.isTopLevel) {t : Text} :
    NeverNegative s t ↔ NeverNegative start t := by
  have level := (isTopLevel_iff.mp top).2
  cases t with
  | nil => simp [NeverNegative, level, start]
  | cons c rest => simp [NeverNegative, level, start, feed_of_isTopLevel top]

theorem nested_append {t u : Text} (first : Nested t) (second : Nested u) : Nested (t ++ u) := by
  constructor
  · rw [after_append]
    exact isTopLevel_after first.ends second.ends
  · rw [neverNegative_append]
    exact ⟨first.neverNegative, (neverNegative_of_isTopLevel first.ends).mpr second.neverNegative⟩

theorem nested_plain {t : Text} (plain : ∀ c ∈ t, isPlain c) : Nested t := by
  refine ⟨isTopLevel_after_plain rfl plain, ?_⟩
  induction t with
  | nil => exact Int.le_refl 0
  | cons c rest ih =>
    have next : (start.feed .tracked c).isTopLevel :=
      isTopLevel_feed_plain rfl (plain c List.mem_cons_self)
    exact ⟨Int.le_refl 0, (neverNegative_of_isTopLevel next).mpr
      (ih fun d member => plain d (List.mem_cons_of_mem c member))⟩

theorem depth_after_hidden {s : ScanState} {t : Text} (hidden : Hidden (fun _ => true) s.quote t)
    (nonneg : 0 ≤ s.depth) : (s.after .tracked t).depth = s.depth ∧ NeverNegative s t := by
  induction t generalizing s with
  | nil => exact ⟨rfl, nonneg⟩
  | cons c rest ih =>
    have level : (s.feed .tracked c).depth = s.depth := by
      rw [feed, if_pos (.inr (hidden.1 rfl))]
    obtain ⟨depth, later⟩ := ih (s := s.feed .tracked c) hidden.2 (by rw [level]; exact nonneg)
    exact ⟨by rw [after_cons, depth, level], nonneg, later⟩

theorem nested_quoted {t : Text} (quoted : Quoted t) : Nested t := by
  obtain ⟨q, body, quote, rfl, _⟩ := quoted_ends quoted
  have inside := quoted.inside
  rw [List.dropLast_concat] at inside
  obtain ⟨depth, nonneg⟩ := depth_after_hidden (s := start) inside (Int.le_refl 0)
  have noParen : q ≠ '(' ∧ q ≠ ')' := by
    constructor <;> rintro rfl <;> exact absurd quote (by decide)
  have level : (start.after .tracked (q :: body ++ [q])).depth = 0 := by
    rw [after_append, after_cons, after_nil, feed]
    simp only [noParen.1, noParen.2, ↓reduceIte, ite_self]
    exact depth
  constructor
  · rw [isTopLevel_iff, quote_after]
    exact ⟨quoted.closed, level⟩
  · rw [after_append] at level
    rw [neverNegative_append]
    exact ⟨nonneg, Int.le_of_eq depth.symm, Int.le_of_eq level.symm⟩

theorem uncut_deeper {isDelimiter : Char → Bool} {k : Int} (inside : 0 < k) {s : ScanState}
    {t : Text} (nonneg : NeverNegative s t) :
    Uncut .tracked isDelimiter (s.deeper k) t := by
  induction t generalizing s with
  | nil => trivial
  | cons c rest ih =>
    have next := neverNegative_head nonneg.2
    rw [Uncut, feed_deeper]
    refine ⟨?_, ih nonneg.2⟩
    rintro ⟨top, _⟩
    have level := (isTopLevel_iff.mp top).2
    simp only [deeper] at level
    omega

theorem feed_opening : start.feed .tracked '(' = (⟨⟨none, some '('⟩, 0⟩ : ScanState).deeper 1 := rfl

theorem whole_group {isDelimiter : Char → Bool} {args : Text} (nested : Nested args)
    (closing : isDelimiter ')' = false) (opening : isDelimiter '(' = false) :
    Whole .tracked isDelimiter ('(' :: args ++ [')']) := by
  have top : (⟨⟨none, some '('⟩, 0⟩ : ScanState).isTopLevel := rfl
  have ends := isTopLevel_iff.mp (isTopLevel_after top nested.ends)
  have inner : Uncut .tracked isDelimiter ((⟨⟨none, some '('⟩, 0⟩ : ScanState).deeper 1) args := by
    cases args with
    | nil => trivial
    | cons c rest =>
      have later := nested.neverNegative.2
      have next := neverNegative_head later
      rw [Uncut, feed_deeper, feed_of_isTopLevel top]
      refine ⟨?_, uncut_deeper (by decide) later⟩
      rintro ⟨atTop, _⟩
      have level := (isTopLevel_iff.mp atTop).2
      simp only [deeper] at level
      omega
  constructor
  · rw [List.cons_append, after_cons, feed_opening, after_append, after_deeper, isTopLevel_iff]
    simp [deeper, feed, QuoteState.feed, QuoteState.isOpen, ends, isQuote]
  · rw [List.cons_append, Uncut, feed_opening, uncut_append]
    refine ⟨by simp [opening], inner, ?_⟩
    exact uncut_of_absent (by simpa using closing) _

section

variable {parens : Parens} {isDelimiter : Char → Bool}

theorem segments_ne_nil (s : ScanState) (t : Text) : segments parens isDelimiter s t ≠ [] := by
  cases t with
  | nil => exact List.cons_ne_nil _ _
  | cons c rest =>
    simp only [segments]
    split
    · exact List.cons_ne_nil _ _
    · split <;> exact List.cons_ne_nil _ _

theorem segments_cons (s : ScanState) (c : Char) (rest : Text) :
    segments parens isDelimiter s (c :: rest) =
      if (s.feed parens c).isTopLevel && isDelimiter c then
        [] :: segments parens isDelimiter (s.feed parens c) rest
      else (segments parens isDelimiter (s.feed parens c) rest).modifyHead (c :: ·) := by
  rw [segments]
  cases tail : segments parens isDelimiter (s.feed parens c) rest with
  | nil => exact absurd tail (segments_ne_nil _ _)
  | cons first others => rfl

theorem segments_append {s : ScanState} {t u : Text} (uncut : Uncut parens isDelimiter s t) :
    segments parens isDelimiter s (t ++ u) =
      (segments parens isDelimiter (s.after parens t) u).modifyHead (t ++ ·) := by
  induction t generalizing s with
  | nil =>
    cases tail : segments parens isDelimiter s u with
    | nil => exact absurd tail (segments_ne_nil _ _)
    | cons first others => simp [tail]
  | cons c rest ih =>
    have kept : ((s.feed parens c).isTopLevel && isDelimiter c) = false := by
      have := uncut.1
      rwa [← Bool.and_eq_true, Bool.not_eq_true] at this
    rw [List.cons_append, segments_cons, kept, ih uncut.2]
    cases tail : segments parens isDelimiter ((s.feed parens c).after parens rest) u with
    | nil => exact absurd tail (segments_ne_nil _ _)
    | cons first others => simp [tail]

theorem segments_uncut {s : ScanState} {t : Text} (uncut : Uncut parens isDelimiter s t) :
    segments parens isDelimiter s t = [t] := by
  have whole := segments_append (u := []) uncut
  rwa [List.append_nil, segments, List.modifyHead_cons, List.append_nil] at whole

def piecesAfter (parens : Parens) (isDelimiter : Char → Bool) (s : ScanState) (t : Text) :
    List Text :=
  ((segments parens isDelimiter s t).map trim).filter (· ≠ [])

/-- A piece, as it may come out of a splitter. -/
structure Piece (parens : Parens) (isDelimiter : Char → Bool) (t : Text) : Prop
    extends Whole parens isDelimiter t where
  solid : t ≠ []
  trimmed : trim t = t

instance (parens : Parens) (isDelimiter : Char → Bool) (t : Text) :
    Decidable (Piece parens isDelimiter t) :=
  decidable_of_iff (Whole parens isDelimiter t ∧ t ≠ [] ∧ trim t = t)
    ⟨fun h => ⟨h.1, h.2.1, h.2.2⟩, fun h => ⟨h.toWhole, h.solid, h.trimmed⟩⟩

def Cuts (isDelimiter : Char → Bool) (d : Char) : Prop := isDelimiter d ∧ isPlain d

/-- Blanks at which nothing is cut. -/
def Gap (isDelimiter : Char → Bool) (gap : Text) : Prop :=
  ∀ c ∈ gap, isBlank c ∧ isDelimiter c = false

instance (isDelimiter : Char → Bool) (gap : Text) : Decidable (Gap isDelimiter gap) :=
  inferInstanceAs (Decidable (∀ c ∈ gap, _))

theorem gap_whole {gap : Text} (blank : Gap isDelimiter gap) : Whole parens isDelimiter gap :=
  whole_plain (fun c member => isPlain_of_isBlank (blank c member).1)
    fun c member => (blank c member).2

theorem piecesAfter_cut {s : ScanState} (top : s.isTopLevel) {d : Char} (cuts : Cuts isDelimiter d)
    (rest : Text) :
    piecesAfter parens isDelimiter s (d :: rest) =
      piecesAfter parens isDelimiter (s.feed parens d) rest := by
  have next : (s.feed parens d).isTopLevel := isTopLevel_feed_plain top cuts.2
  simp [piecesAfter, segments_cons, next, cuts.1, trim, trimStart, trimEnd]

theorem trim_gap_piece {gap p : Text} (blank : Gap isDelimiter gap)
    (piece : Piece parens isDelimiter p) : trim (gap ++ p) = p := by
  simpa using trim_pad (fun c member => (blank c member).1) (u := []) (by simp) piece.trimmed

theorem piecesAfter_last {s : ScanState} (top : s.isTopLevel) {gap p : Text}
    (blank : Gap isDelimiter gap) (piece : Piece parens isDelimiter p) :
    piecesAfter parens isDelimiter s (gap ++ p) = [p] := by
  have uncut : Uncut parens isDelimiter s (gap ++ p) :=
    (uncut_of_isTopLevel top).mpr (whole_append (gap_whole blank) piece.toWhole).uncut
  simp [piecesAfter, segments_uncut uncut, trim_gap_piece blank piece, piece.solid]

theorem piecesAfter_cons {s : ScanState} (top : s.isTopLevel) {gap p : Text}
    (blank : Gap isDelimiter gap) (piece : Piece parens isDelimiter p) {d : Char}
    (cuts : Cuts isDelimiter d) (rest : Text) :
    ∃ next : ScanState, next.isTopLevel ∧
      piecesAfter parens isDelimiter s (gap ++ p ++ d :: rest) =
        p :: piecesAfter parens isDelimiter next rest := by
  have whole := whole_append (gap_whole blank) piece.toWhole
  have uncut : Uncut parens isDelimiter s (gap ++ p) := (uncut_of_isTopLevel top).mpr whole.uncut
  have ends : (s.after parens (gap ++ p)).isTopLevel := isTopLevel_after top whole.ends
  have next : ((s.after parens (gap ++ p)).feed parens d).isTopLevel :=
    isTopLevel_feed_plain ends cuts.2
  refine ⟨_, next, ?_⟩
  rw [piecesAfter, segments_append uncut, segments_cons, next, cuts.1]
  simp [piecesAfter, trim_gap_piece blank piece, piece.solid]

theorem piecesAfter_intercalate {d : Char} (cuts : Cuts isDelimiter d) {gap : Text}
    (blank : Gap isDelimiter gap) {pieces : List Text}
    (all : ∀ p ∈ pieces, Piece parens isDelimiter p) {s : ScanState} (top : s.isTopLevel)
    (before : Text) (blankBefore : Gap isDelimiter before) :
    piecesAfter parens isDelimiter s (before ++ (d :: gap).intercalate pieces) = pieces := by
  induction pieces generalizing s before with
  | nil =>
    have uncut : Uncut parens isDelimiter s before :=
      (uncut_of_isTopLevel top).mpr (gap_whole blankBefore).uncut
    have blanks : trim before = [] := by
      simpa using trim_pad (fun c member => (blankBefore c member).1) (t := []) (u := [])
        (by simp) rfl
    simp [piecesAfter, segments_uncut uncut, blanks]
  | cons p others ih =>
    have first := all p List.mem_cons_self
    cases others with
    | nil =>
      rw [List.intercalate_singleton]
      exact piecesAfter_last top blankBefore first
    | cons q others =>
      obtain ⟨next, topNext, split⟩ := piecesAfter_cons top blankBefore first cuts
        (gap ++ (d :: gap).intercalate (q :: others))
      have later := ih (fun r member => all r (List.mem_cons_of_mem p member)) topNext gap blank
      rw [later] at split
      simpa [List.intercalate_cons_cons] using split

theorem piecesAfter_terminated {d : Char} (cuts : Cuts isDelimiter d) {gap : Text}
    (blank : Gap isDelimiter gap) {pieces : List Text}
    (all : ∀ p ∈ pieces, Piece parens isDelimiter p) {s : ScanState} (top : s.isTopLevel)
    (before : Text) (blankBefore : Gap isDelimiter before) :
    piecesAfter parens isDelimiter s (before ++ gap.intercalate (pieces.map (· ++ [d]))) =
      pieces := by
  induction pieces generalizing s before with
  | nil =>
    have none : ∀ p ∈ ([] : List Text), Piece parens isDelimiter p := by simp
    exact piecesAfter_intercalate cuts blank none top before blankBefore
  | cons p others ih =>
    have first := all p List.mem_cons_self
    cases others with
    | nil =>
      obtain ⟨next, _, split⟩ := piecesAfter_cons top blankBefore first cuts []
      simpa [piecesAfter, segments, trim, trimStart, trimEnd] using split
    | cons q others =>
      obtain ⟨next, topNext, split⟩ := piecesAfter_cons top blankBefore first cuts
        (gap ++ gap.intercalate ((q :: others).map (· ++ [d])))
      have later := ih (fun r member => all r (List.mem_cons_of_mem p member)) topNext gap blank
      rw [later] at split
      simpa [List.intercalate_cons_cons] using split

/-- Pieces with a delimiter and a gap between them are what the splitter gives back. -/
theorem splitTopLevel_intercalate {d : Char} (cuts : Cuts isDelimiter d) {gap : Text}
    (blank : Gap isDelimiter gap) {pieces : List Text}
    (all : ∀ p ∈ pieces, Piece parens isDelimiter p) :
    splitTopLevel parens isDelimiter ((d :: gap).intercalate pieces) = pieces :=
  piecesAfter_intercalate cuts blank all rfl [] (by simp [Gap])

theorem splitTopLevel_terminated {d : Char} (cuts : Cuts isDelimiter d) {gap : Text}
    (blank : Gap isDelimiter gap) {pieces : List Text}
    (all : ∀ p ∈ pieces, Piece parens isDelimiter p) :
    splitTopLevel parens isDelimiter (gap.intercalate (pieces.map (· ++ [d]))) = pieces :=
  piecesAfter_terminated cuts blank all rfl [] (by simp [Gap])

end

end SchemaDiff.Sql
