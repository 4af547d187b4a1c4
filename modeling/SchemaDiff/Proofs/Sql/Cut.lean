import SchemaDiff.Proofs.Sql.Statements

/-
The positions at which a text is cut: those of delimiters outside quotes and, where parentheses
count, with as many of them opened as closed before. The splitter gives back what stands between
consecutive cuts, and its pieces are stable, each on its own and all of them put together again. A
text is whole up to its first cut, whatever it is, so that only the piece after the last cut can leave
a quote or a parenthesis open.
-/
namespace SchemaDiff.Sql
open SchemaDiff.Text ScanState

def unquotedCount (c : Char) (s : QuoteState) (t : Text) : Nat :=
  (t.zip (s.trace t)).countP fun (d, now) => d == c && !now.isOpen

/-- A delimiter stands at position `i`, outside quotes; and if parentheses count, as many of them are
closed as opened before it. -/
structure IsCut (parens : Parens) (isDelimiter : Char → Bool) (t : Text) (i : Nat) : Prop where
  delimits : ∃ d ∈ t[i]?, isDelimiter d
  outside : Closed (t.take i)
  level : parens = .tracked →
    unquotedCount '(' .start (t.take i) = unquotedCount ')' .start (t.take i)

instance (parens : Parens) (isDelimiter : Char → Bool) (t : Text) (i : Nat) :
    Decidable (IsCut parens isDelimiter t i) :=
  decidable_of_iff (_ ∧ _ ∧ _)
    ⟨fun h => ⟨h.1, h.2.1, h.2.2⟩, fun h => ⟨h.delimits, h.outside, h.level⟩⟩

def cutPositions (parens : Parens) (isDelimiter : Char → Bool) (t : Text) : List Nat :=
  (List.range t.length).filter (IsCut parens isDelimiter t)

/-- What stands before the first of the given positions, between any two that are consecutive, and
after the last one. -/
def stretches (t : Text) (positions : List Nat) : List Text :=
  List.zipWith (fun first next => t.extract first next)
    (0 :: positions.map (· + 1)) (positions ++ [t.length])

section

variable {parens : Parens} {isDelimiter : Char → Bool}

theorem unquotedCount_cons (c d : Char) (s : QuoteState) (rest : Text) :
    unquotedCount c s (d :: rest) =
      unquotedCount c (s.feed d) rest + if d = c ∧ (s.feed d).isOpen = false then 1 else 0 := by
  simp [unquotedCount, QuoteState.trace, List.countP_cons]

theorem depth_after_tracked (s : ScanState) (t : Text) :
    (s.after .tracked t).depth =
      s.depth + unquotedCount '(' s.quote t - unquotedCount ')' s.quote t := by
  induction t generalizing s with
  | nil => simp [unquotedCount]
  | cons c rest ih =>
    have later : (s.feed .tracked c).quote = s.quote.feed c := rfl
    rw [after_cons, ih, unquotedCount_cons, unquotedCount_cons, later]
    by_cases inside : (s.quote.feed c).isOpen
    · simp [feed, inside]
    · by_cases opening : c = '('
      · subst opening
        simp [feed, inside]
        omega
      · by_cases closing : c = ')'
        · subst closing
          simp [feed, inside]
          omega
        · simp [feed, inside, opening, closing]

theorem isCut_iff {t : Text} {i : Nat} :
    IsCut parens isDelimiter t i ↔
      t[i]?.any isDelimiter ∧ (start.after parens (t.take i)).isTopLevel := by
  have level : (start.after parens (t.take i)).depth = 0 ↔ (parens = .tracked →
      unquotedCount '(' .start (t.take i) = unquotedCount ')' .start (t.take i)) := by
    cases parens with
    | ignored => simp [depth_after_ignored, start]
    | tracked =>
      rw [depth_after_tracked]
      simp only [start, forall_const]
      omega
  rw [isTopLevel_iff, quote_after, level]
  constructor
  · rintro ⟨delimits, outside, level⟩
    exact ⟨(Option.any_eq_true _ _).mpr delimits, outside, level⟩
  · rintro ⟨delimits, outside, level⟩
    exact ⟨(Option.any_eq_true _ _).mp delimits, outside, level⟩

def cutPositionsAfter (parens : Parens) (isDelimiter : Char → Bool) (s : ScanState) (t : Text) :
    List Nat :=
  (List.range t.length).filter fun i =>
    t[i]?.any isDelimiter && (s.after parens (t.take i)).isTopLevel

theorem cutPositions_eq (t : Text) :
    cutPositions parens isDelimiter t = cutPositionsAfter parens isDelimiter start t := by
  apply List.filter_congr
  intro i _
  rw [Bool.eq_iff_iff, decide_eq_true_iff, isCut_iff, Bool.and_eq_true]

theorem cutPositionsAfter_cons (s : ScanState) (c : Char) (rest : Text) :
    cutPositionsAfter parens isDelimiter s (c :: rest) =
      if s.isTopLevel && isDelimiter c then
        0 :: (cutPositionsAfter parens isDelimiter (s.feed parens c) rest).map (· + 1)
      else (cutPositionsAfter parens isDelimiter (s.feed parens c) rest).map (· + 1) := by
  rw [cutPositionsAfter, List.length_cons, List.range_succ_eq_map, List.filter_cons, List.filter_map]
  simp only [cutPositionsAfter, List.getElem?_cons_zero, Option.any_some, List.take_zero, after_nil,
    Bool.and_comm]
  rfl

theorem zipWith_extract_cons (c : Char) (rest : Text) (firsts positions : List Nat) :
    List.zipWith (fun first next => (c :: rest).extract first next)
        (firsts.map (· + 1)) (positions.map (· + 1) ++ [(c :: rest).length]) =
      List.zipWith (fun first next => rest.extract first next) firsts (positions ++ [rest.length]) := by
  have nexts : positions.map (· + 1) ++ [(c :: rest).length] =
      (positions ++ [rest.length]).map (· + 1) := by simp
  rw [nexts, List.zipWith_map]
  simp

theorem stretches_cut (c : Char) (rest : Text) (positions : List Nat) :
    stretches (c :: rest) (0 :: positions.map (· + 1)) = [] :: stretches rest positions := by
  rw [stretches, List.cons_append, List.zipWith_cons_cons,
    zipWith_extract_cons c rest (0 :: positions.map (· + 1))]
  rfl

theorem stretches_kept (c : Char) (rest : Text) (positions : List Nat) :
    stretches (c :: rest) (positions.map (· + 1)) =
      (stretches rest positions).modifyHead (c :: ·) := by
  cases positions with
  | nil => simp [stretches]
  | cons next others =>
    rw [stretches, List.map_cons, List.cons_append, List.zipWith_cons_cons,
      zipWith_extract_cons c rest ((next + 1) :: others.map (· + 1))]
    rfl

theorem segments_eq_stretches (plain : ∀ d, isDelimiter d → isPlain d) {s : ScanState}
    (quotes : ∀ q ∈ s.quote.opener, isQuote q) (t : Text) :
    segments parens isDelimiter s t = stretches t (cutPositionsAfter parens isDelimiter s t) := by
  induction t generalizing s with
  | nil => rfl
  | cons c rest ih =>
    have later : ∀ q ∈ (s.feed parens c).quote.opener, isQuote q :=
      QuoteState.isQuote_opener_feed quotes c
    -- The splitter asks for the state after a delimiter, a cut for the state before it. They agree
    -- because the delimiter itself neither quotes nor nests.
    have same : ((s.feed parens c).isTopLevel && isDelimiter c) = (s.isTopLevel && isDelimiter c) := by
      rw [Bool.eq_iff_iff, Bool.and_eq_true, Bool.and_eq_true]
      refine and_congr_left fun delimits => ⟨?_, ?_⟩
      · exact isTopLevel_of_feed_plain quotes (plain c delimits)
      · exact fun top => isTopLevel_feed_plain top (plain c delimits)
    rw [segments_cons, cutPositionsAfter_cons, ih later, same]
    split
    · rw [stretches_cut]
    · rw [stretches_kept]

theorem splitTopLevel_eq_stretches (plain : ∀ d, isDelimiter d → isPlain d) (t : Text) :
    splitTopLevel parens isDelimiter t =
      ((stretches t (cutPositions parens isDelimiter t)).map trim).filter (· ≠ []) := by
  rw [splitTopLevel, segments_eq_stretches plain isQuote_opener_start, cutPositions_eq]

theorem uncut_or_cut (parens : Parens) (plain : ∀ d, isDelimiter d → isPlain d) {s : ScanState}
    (quotes : ∀ q ∈ s.quote.opener, isQuote q) (t : Text) :
    Uncut parens isDelimiter s t ∨ ∃ first d rest, t = first ++ d :: rest ∧ isDelimiter d ∧
      (s.after parens first).isTopLevel ∧ Uncut parens isDelimiter s first := by
  induction t generalizing s with
  | nil => exact .inl trivial
  | cons c rest ih =>
    by_cases cut : (s.feed parens c).isTopLevel ∧ isDelimiter c
    · have top : s.isTopLevel := isTopLevel_of_feed_plain quotes (plain c cut.2) cut.1
      exact .inr ⟨[], c, rest, rfl, cut.2, top, trivial⟩
    · have later : ∀ q ∈ (s.feed parens c).quote.opener, isQuote q :=
        QuoteState.isQuote_opener_feed quotes c
      rcases ih later with uncut | ⟨first, d, others, rfl, delimits, top, uncut⟩
      · exact .inl ⟨cut, uncut⟩
      · exact .inr ⟨c :: first, d, others, rfl, delimits, top, cut, uncut⟩

/-- What holds of uncut texts, and of a text with a cut as soon as it holds of the rest after the first
one, holds of every text. -/
theorem cut_induction (parens : Parens) (plain : ∀ d, isDelimiter d → isPlain d)
    {motive : Text → Prop} (uncut : ∀ t, Uncut parens isDelimiter start t → motive t)
    (cut : ∀ first d rest, Whole parens isDelimiter first → Cuts isDelimiter d → motive rest →
      motive (first ++ d :: rest)) (t : Text) : motive t := by
  induction length : t.length using Nat.strongRecOn generalizing t with
  | ind n ih =>
    rcases uncut_or_cut parens plain isQuote_opener_start t with
      kept | ⟨first, d, rest, rfl, delimits, top, kept⟩
    · exact uncut t kept
    · have shorter : rest.length < n := by
        rw [← length, List.length_append, List.length_cons]
        omega
      exact cut first d rest ⟨top, kept⟩ ⟨delimits, plain d delimits⟩ (ih _ shorter rest rfl)

theorem splitTopLevel_uncut {t : Text} (uncut : Uncut parens isDelimiter start t) :
    splitTopLevel parens isDelimiter t = [] ∨
      splitTopLevel parens isDelimiter t = [trim t] ∧
        splitTopLevel parens isDelimiter (trim t) = [trim t] := by
  rw [splitTopLevel_trim]
  by_cases empty : trim t = [] <;> simp [splitTopLevel, segments_uncut uncut, empty]

/-- A piece, split again, is just itself. -/
theorem splitTopLevel_of_mem (plain : ∀ d, isDelimiter d → isPlain d) {t p : Text}
    (member : p ∈ splitTopLevel parens isDelimiter t) : splitTopLevel parens isDelimiter p = [p] := by
  have alone {u : Text} (uncut : Uncut parens isDelimiter start u)
      (inside : p ∈ splitTopLevel parens isDelimiter u) :
      splitTopLevel parens isDelimiter p = [p] := by
    rcases splitTopLevel_uncut uncut with none | ⟨one, again⟩
    · rw [none] at inside
      contradiction
    · rw [one, List.mem_singleton] at inside
      rw [inside, again]
  induction t using cut_induction parens plain with
  | uncut t uncut => exact alone uncut member
  | cut first d rest whole cuts ih =>
    rw [splitTopLevel_cut cuts whole.ends, List.mem_append] at member
    rcases member with here | later
    · exact alone whole.uncut here
    · exact ih later

theorem isTopLevel_trim {t : Text} (top : (start.after parens t).isTopLevel) :
    (start.after parens (trim t)).isTopLevel := by
  obtain ⟨before, after, blanksBefore, blanksAfter, split⟩ := trim_split t
  have topBefore : (start.after parens before).isTopLevel :=
    isTopLevel_after_plain rfl fun c member => isPlain_of_isBlank (blanksBefore c member)
  have reached : (start.after parens (before ++ trim t)).isTopLevel := by
    apply isTopLevel_of_after_plain (isQuote_opener_after isQuote_opener_start _)
      fun c member => isPlain_of_isBlank (blanksAfter c member)
    rwa [← after_append, List.append_assoc, ← split]
  by_cases empty : trim t = []
  · rw [empty]
    rfl
  · rwa [after_append, after_of_isTopLevel topBefore empty] at reached

theorem splitTopLevel_intercalate_cons {d : Char} (cuts : Cuts isDelimiter d) {p : Text}
    (top : (start.after parens p).isTopLevel) (alone : splitTopLevel parens isDelimiter p = [p])
    (pieces : List Text) :
    splitTopLevel parens isDelimiter ([d].intercalate (p :: pieces)) =
      p :: splitTopLevel parens isDelimiter ([d].intercalate pieces) := by
  cases pieces with
  | nil =>
    rw [List.intercalate_singleton, alone]
    rfl
  | cons next others =>
    rw [List.intercalate_cons_cons, List.append_assoc, List.singleton_append, splitTopLevel_cut cuts top,
      alone]
    rfl

theorem splitTopLevel_intercalate_pieces (plain : ∀ d, isDelimiter d → isPlain d) {d : Char}
    (delimits : isDelimiter d) (t : Text) :
    splitTopLevel parens isDelimiter ([d].intercalate (splitTopLevel parens isDelimiter t)) =
      splitTopLevel parens isDelimiter t := by
  induction t using cut_induction parens plain with
  | uncut t uncut =>
    rcases splitTopLevel_uncut uncut with none | ⟨one, again⟩
    · rw [none]
      rfl
    · rw [one, List.intercalate_singleton, again]
  | cut first e rest whole cuts ih =>
    rw [splitTopLevel_cut cuts whole.ends]
    rcases splitTopLevel_uncut whole.uncut with none | ⟨one, again⟩
    · rw [none]
      exact ih
    · rw [one, List.singleton_append, splitTopLevel_intercalate_cons ⟨delimits, plain d delimits⟩
        (isTopLevel_trim whole.ends) again, ih]

end

/-- The splitter gives back what stands between consecutive cuts, trimmed and without what is empty.
Each piece is one piece again, and with any of the delimiters between them the pieces stay the same. -/
theorem splitTopLevel_between_cuts (parens : Parens) {isDelimiter : Char → Bool}
    (plain : ∀ d, isDelimiter d → isPlain d) (t : Text) :
    splitTopLevel parens isDelimiter t =
        ((stretches t (cutPositions parens isDelimiter t)).map trim).filter (· ≠ []) ∧
      (∀ p ∈ splitTopLevel parens isDelimiter t, splitTopLevel parens isDelimiter p = [p]) ∧
      ∀ d, isDelimiter d →
        splitTopLevel parens isDelimiter ([d].intercalate (splitTopLevel parens isDelimiter t)) =
          splitTopLevel parens isDelimiter t := by
  refine ⟨splitTopLevel_eq_stretches plain t, ?_, ?_⟩
  · intro p member
    exact splitTopLevel_of_mem plain member
  · intro d delimits
    exact splitTopLevel_intercalate_pieces plain delimits t

theorem splitTopLevel_between_cuts_malformed :
    let text : Text := " )a b( c\t'it\\'s so'  f(1, 2)\n(z 'open "
    let words : List Text := [")a b(", "c", "'it\\'s so'", "f(1, 2)", "(z 'open"]
    (∀ d, separatesWords d → isPlain d) ∧
      cutPositions .tracked separatesWords text = [0, 6, 8, 19, 20, 28] ∧
      definitionWords text = words ∧
      (∀ w ∈ words, definitionWords w = [w]) ∧
      ∀ d, separatesWords d → definitionWords ([d].intercalate words) = words := by
  intro text words
  have plain : ∀ d, separatesWords d → isPlain d :=
    fun d separates => isPlain_of_isBlank (isBlank_of_separatesWords separates)
  have positions : cutPositions .tracked separatesWords text = [0, 6, 8, 19, 20, 28] := by decide
  obtain ⟨between, again, joined⟩ := splitTopLevel_between_cuts .tracked plain text
  have split : splitTopLevel .tracked separatesWords text = words := by
    rw [between, positions]
    decide
  rw [split] at again joined
  exact ⟨plain, positions, split, again, joined⟩

end SchemaDiff.Sql
