import Mathlib.Data.List.Induction
import SchemaDiff.Proofs.Sql.Split

/-
Scripts put together. A delimiter at top level cuts a text into two that are split on their own, and
blanks around a text do not count, so the statements of a script are those of its parts in turn.
-/
namespace SchemaDiff.Sql
open SchemaDiff.Text ScanState

section

variable {parens : Parens} {isDelimiter : Char → Bool} {s : ScanState}

theorem segments_of_isTopLevel (top : s.isTopLevel) (t : Text) :
    segments parens isDelimiter s t = segments parens isDelimiter start t := by
  cases t with
  | nil => rfl
  | cons c rest => rw [segments_cons, segments_cons, feed_of_isTopLevel top]

theorem segments_cut {d : Char} (cuts : Cuts isDelimiter d) {t : Text}
    (top : (s.after parens t).isTopLevel) (u : Text) :
    segments parens isDelimiter s (t ++ d :: u) =
      segments parens isDelimiter s t ++ segments parens isDelimiter start u := by
  induction t generalizing s with
  | nil =>
    have next : (s.feed parens d).isTopLevel := isTopLevel_feed_plain top cuts.2
    rw [List.nil_append, segments_cons, next, cuts.1, segments_of_isTopLevel next]
    rfl
  | cons c rest ih =>
    rw [List.cons_append, segments_cons, segments_cons, ih top]
    split
    · rfl
    · cases split : segments parens isDelimiter (s.feed parens c) rest with
      | nil => exact absurd split (segments_ne_nil _ _)
      | cons first others => rfl

theorem splitTopLevel_cut {d : Char} (cuts : Cuts isDelimiter d) {t : Text}
    (top : (start.after parens t).isTopLevel) (u : Text) :
    splitTopLevel parens isDelimiter (t ++ d :: u) =
      splitTopLevel parens isDelimiter t ++ splitTopLevel parens isDelimiter u := by
  simp only [splitTopLevel, segments_cut cuts top, List.map_append, List.filter_append]

theorem segments_concat (b : Char) (t : Text) :
    ∃ before last, segments parens isDelimiter s t = before ++ [last] ∧
      (segments parens isDelimiter s (t ++ [b]) = before ++ [last ++ [b]] ∨
        segments parens isDelimiter s (t ++ [b]) = before ++ [last, []]) := by
  induction t generalizing s with
  | nil =>
    refine ⟨[], [], rfl, ?_⟩
    rw [List.nil_append, segments_cons]
    split
    · exact .inr rfl
    · exact .inl rfl
  | cons c rest ih =>
    obtain ⟨before, last, short, long⟩ := ih (s := s.feed parens c)
    rw [List.cons_append, segments_cons, segments_cons, short]
    split
    · refine ⟨[] :: before, last, rfl, ?_⟩
      rcases long with long | long <;> simp [long]
    · cases before with
      | nil =>
        refine ⟨[], c :: last, rfl, ?_⟩
        rcases long with long | long <;> simp [long]
      | cons first others =>
        refine ⟨(c :: first) :: others, last, rfl, ?_⟩
        rcases long with long | long <;> simp [long]

theorem splitTopLevel_concat {b : Char} (blank : isBlank b) (t : Text) :
    splitTopLevel parens isDelimiter (t ++ [b]) = splitTopLevel parens isDelimiter t := by
  obtain ⟨before, last, short, long⟩ :
      ∃ before last, segments parens isDelimiter start t = before ++ [last] ∧
        (segments parens isDelimiter start (t ++ [b]) = before ++ [last ++ [b]] ∨
          segments parens isDelimiter start (t ++ [b]) = before ++ [last, []]) :=
    segments_concat b t
  rw [splitTopLevel, splitTopLevel, short]
  rcases long with long | long
  · simp [long, trim_concat blank]
  · have nothing : trim [] = [] := rfl
    simp [long, nothing, List.filter_cons]

theorem splitTopLevel_blank {b : Char} (blank : isBlank b) (t : Text) :
    splitTopLevel parens isDelimiter (b :: t) = splitTopLevel parens isDelimiter t := by
  have next : (start.feed parens b).isTopLevel := isTopLevel_feed_plain rfl (isPlain_of_isBlank blank)
  rw [splitTopLevel, segments_cons, segments_of_isTopLevel next, splitTopLevel]
  split
  · simp [trim, trimStart, trimEnd]
  · cases split : segments parens isDelimiter start t with
    | nil => exact absurd split (segments_ne_nil _ _)
    | cons first others => simp [trim_cons blank]

theorem splitTopLevel_pad {pad : Text} (blanks : ∀ c ∈ pad, isBlank c) (t : Text) :
    splitTopLevel parens isDelimiter (pad ++ t) = splitTopLevel parens isDelimiter t := by
  induction pad with
  | nil => rfl
  | cons c rest ih =>
    rw [List.cons_append, splitTopLevel_blank (blanks c List.mem_cons_self)]
    exact ih fun d member => blanks d (List.mem_cons_of_mem c member)

theorem splitTopLevel_trimStart (t : Text) :
    splitTopLevel parens isDelimiter (trimStart t) = splitTopLevel parens isDelimiter t := by
  have blanks : ∀ c ∈ t.takeWhile isBlank, isBlank c := fun _ member => List.mem_takeWhile_imp member
  have padded : splitTopLevel parens isDelimiter (t.takeWhile isBlank ++ trimStart t) =
      splitTopLevel parens isDelimiter (trimStart t) := splitTopLevel_pad blanks _
  rw [trimStart, List.takeWhile_append_dropWhile] at padded
  exact padded.symm

theorem splitTopLevel_trimEnd (t : Text) :
    splitTopLevel parens isDelimiter (trimEnd t) = splitTopLevel parens isDelimiter t := by
  induction t using List.reverseRecOn with
  | nil => rfl
  | append_singleton others c ih =>
    by_cases blank : isBlank c
    · rw [splitTopLevel_concat blank, ← ih, trimEnd_pad (by simpa using blank)]
    · have dark : EndsDark (others ++ [c]) := by simpa [EndsDark] using blank
      rw [trimEnd_eq_self_iff.mpr dark]

theorem splitTopLevel_trim (t : Text) :
    splitTopLevel parens isDelimiter (trim t) = splitTopLevel parens isDelimiter t := by
  rw [trim, splitTopLevel_trimEnd, splitTopLevel_trimStart]

theorem splitTopLevel_padded {p pad : Text} (piece : Piece parens isDelimiter p)
    (blanks : ∀ c ∈ pad, isBlank c) : splitTopLevel parens isDelimiter (p ++ pad) = [p] := by
  have noGap : Gap isDelimiter [] := by simp [Gap]
  have alone : splitTopLevel parens isDelimiter ([] ++ p) = [p] := piecesAfter_last rfl noGap piece
  rw [← splitTopLevel_trimEnd, trimEnd_pad blanks, splitTopLevel_trimEnd]
  exact alone

theorem splitTopLevel_glued (parens : Parens) (isDelimiter : Char → Bool) (tail : Text) :
    ∃ glued rest, (∀ p, Piece parens isDelimiter p →
        splitTopLevel parens isDelimiter (p ++ tail) = (p ++ glued) :: rest) ∧
      ((∀ d ∈ tail.head?, Cuts isDelimiter d) → glued = []) := by
  cases split : segments parens isDelimiter start tail with
  | nil => exact absurd split (segments_ne_nil _ _)
  | cons first others =>
    refine ⟨trimEnd first, (others.map trim).filter (· ≠ []), ?_, ?_⟩
    · intro p piece
      obtain ⟨dark, last⟩ := trim_eq_self_iff.mp piece.trimmed
      have whole : trim (p ++ first) = p ++ trimEnd first := by
        rw [trim, trimStart_eq_self_iff.mpr (startsDark_of_front piece.solid dark first),
          trimEnd_append_of_endsDark last]
      simp [splitTopLevel, segments_append piece.uncut, segments_of_isTopLevel piece.ends, split, whole,
        piece.solid]
    · intro cuts
      cases tail with
      | nil =>
        obtain ⟨rfl, _⟩ := List.cons.inj split
        rfl
      | cons d tail =>
        obtain ⟨delimits, plain⟩ := cuts d rfl
        have next : (start.feed parens d).isTopLevel := isTopLevel_feed_plain rfl plain
        rw [segments_cons, next, delimits] at split
        obtain ⟨rfl, _⟩ := List.cons.inj split
        rfl

end

theorem depth_after_ignored (s : ScanState) (t : Text) : (s.after .ignored t).depth = s.depth := by
  induction t generalizing s with
  | nil => rfl
  | cons c rest ih => rw [after_cons, ih, feed, if_pos (.inl rfl)]

theorem isTopLevel_ignored_iff {t : Text} : (start.after .ignored t).isTopLevel ↔ Closed t := by
  rw [isTopLevel_iff, depth_after_ignored, quote_after]
  exact and_iff_left rfl

theorem semicolon_cuts : Cuts (· == ';') ';' := ⟨rfl, rfl⟩

theorem statements_append {a : Text} (closed : Closed a) (b : Text) :
    statements (a ++ ';' :: b) = statements a ++ statements b :=
  splitTopLevel_cut semicolon_cuts (isTopLevel_ignored_iff.mpr closed) b

theorem statements_trim (t : Text) : statements (trim t) = statements t :=
  splitTopLevel_trim t

theorem statements_blank {b : Char} (blank : isBlank b) (t : Text) :
    statements (b :: t) = statements t :=
  splitTopLevel_blank blank t

theorem statements_terminated {a : Text} (closed : Closed a) : statements (a ++ [';']) = statements a := by
  rw [statements_append closed]
  exact List.append_nil _

theorem statements_squeezeAfter (t : Text) : statements (squeezeAfter true t) = statements (squeeze t) := by
  cases t with
  | nil => rfl
  | cons c rest =>
    by_cases blank : isBlank c
    · have space : isBlank ' ' := by decide
      simp [squeeze, squeezeAfter, blank, statements_blank space]
    · simp [squeeze, squeezeAfter, blank]

theorem statements_squeeze_pad {pad : Text} (blanks : ∀ c ∈ pad, isBlank c) (t : Text) :
    statements (squeeze (pad ++ t)) = statements (squeeze t) := by
  induction pad with
  | nil => rfl
  | cons c rest ih =>
    have space : isBlank ' ' := by decide
    have first : isBlank c := blanks c List.mem_cons_self
    have later := ih fun d member => blanks d (List.mem_cons_of_mem c member)
    rw [List.cons_append, squeeze, squeezeAfter, if_pos first, if_neg (by simp), statements_blank space,
      statements_squeezeAfter, later]

/-- The last character that is no blank is a semicolon, if there is one at all. -/
def Terminated (t : Text) : Prop := ∀ c ∈ (darkOnly t).getLast?, c = ';'

instance (t : Text) : Decidable (Terminated t) := by unfold Terminated; infer_instance

theorem trim_of_terminated {t : Text} (terminated : Terminated t) (solid : trim t ≠ []) :
    ∃ front, trim t = front ++ [';'] := by
  obtain ⟨_, last⟩ := dark_trim t
  rcases List.eq_nil_or_concat (trim t) with empty | ⟨front, c, split⟩
  · contradiction
  · refine ⟨front, ?_⟩
    rw [List.concat_eq_append] at split
    have final : (darkOnly t).getLast? = some c := by
      rw [← darkOnly_trim, getLast?_darkOnly last, split, List.getLast?_concat]
    rw [split, terminated c final]

/-- Two scripts on lines of their own, the first of which is terminated and leaves no quote open, have
the statements of the one and those of the other. -/
theorem statements_squeeze_line {a b : Text} (terminated : Terminated a)
    (closed : Closed (squeeze (trim a))) :
    statements (squeeze (a ++ '\n' :: b)) = statements (squeeze (trim a)) ++ statements (squeeze b) := by
  obtain ⟨before, after, blanksBefore, blanksAfter, split⟩ := trim_split a
  have gap : ∀ c ∈ after ++ ['\n'], isBlank c := by
    intro c member
    rcases List.mem_append.mp member with blank | line
    · exact blanksAfter c blank
    · rw [List.mem_singleton.mp line]
      decide
  have parts : a ++ '\n' :: b = before ++ (trim a ++ ((after ++ ['\n']) ++ b)) := by
    conv => lhs; rw [split]
    simp
  rw [parts, statements_squeeze_pad blanksBefore]
  by_cases solid : trim a = []
  · rw [solid, List.nil_append, statements_squeeze_pad gap]
    rfl
  · obtain ⟨front, ending⟩ := trim_of_terminated terminated solid
    have semicolon : StartsDark [';'] := by decide
    have front_squeezed : squeeze (trim a) = squeeze front ++ [';'] := by
      rw [ending, squeeze_append_of_startsDark semicolon]
      rfl
    rw [front_squeezed] at closed
    have closedFront : Closed (squeeze front) := closed_of_concat (by decide) closed
    rw [squeeze_append_of_endsDark (dark_trim a).2, front_squeezed, List.append_assoc, List.singleton_append,
      statements_append closedFront, statements_terminated closedFront, statements_squeeze_pad gap]

end SchemaDiff.Sql
