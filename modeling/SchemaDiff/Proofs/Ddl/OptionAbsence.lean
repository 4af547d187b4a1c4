import SchemaDiff.Proofs.Ddl.OptionSearch
import SchemaDiff.Proofs.Text.Lookahead

/-
What the search for an option passes over: names of other options, and whatever has no equals sign, provided
that what follows does not make it the name of an option. It never looks beyond a quote.
-/
namespace SchemaDiff.Ddl
open SchemaDiff.Text SchemaDiff.Text.Pattern SchemaDiff.Sql

section

variable {kind : OptionKind}

theorem optionValueHere_not_word {c : Char} (noWord : isWord c = false) (t : Text) :
    optionValueHere kind.pattern (c :: t) = none := by
  apply Option.eq_none_iff_forall_ne_some.mpr
  intro v found
  obtain ⟨form, known, name, left, right, rest, shape, spelled, _⟩ := optionValueHere_sound found
  obtain ⟨d, others, rfl, word⟩ := names_front kind known spelled
  obtain ⟨rfl, _⟩ := List.cons.inj shape
  rw [word] at noWord
  contradiction

theorem optionValueAfter_not_words {s : Text} (noWords : ∀ c ∈ s, isWord c = false) (t : Text)
    (previous : Option Char) :
    optionValueAfter kind.pattern previous (s ++ t) =
      optionValueAfter kind.pattern (s.getLast?.or previous) t := by
  apply optionValueAfter_passed
  rintro before c after rfl _
  exact optionValueHere_not_word (noWords c (by simp)) _

theorem optionValueAfter_apart {previous : Option Char} (apart : previous.any isWord = false) (t : Text) :
    optionValueAfter kind.pattern previous t = optionValue kind.pattern t := by
  cases t with
  | nil => rfl
  | cons c rest => simp [optionValue, optionValueAfter, apart]

theorem optionValue_not_words {s : Text} (noWords : ∀ c ∈ s, isWord c = false) (t : Text) :
    optionValue kind.pattern (s ++ t) = optionValue kind.pattern t := by
  rw [optionValue, optionValueAfter_not_words noWords]
  apply optionValueAfter_apart
  cases last : s.getLast? with
  | none => rfl
  | some c => exact noWords c (List.mem_of_getLast? last)

theorem optionValue_trimStart (t : Text) :
    optionValue kind.pattern (trimStart t) = optionValue kind.pattern t := by
  have noWords : ∀ c ∈ t.takeWhile isBlank, isWord c = false :=
    fun c member => isWord_of_isBlank (List.mem_takeWhile_imp member)
  rw [← optionValue_not_words noWords, trimStart, List.takeWhile_append_dropWhile]

theorem optionValueAfter_word {w t : Text} (word : ∀ c ∈ w, isWord c)
    (silent : optionValueHere kind.pattern (w ++ t) = none) (previous : Option Char) :
    optionValueAfter kind.pattern previous (w ++ t) =
      optionValueAfter kind.pattern (w.getLast?.or previous) t := by
  apply optionValueAfter_passed
  rintro before c after rfl apart
  rcases List.eq_nil_or_concat before with rfl | ⟨front, d, rfl⟩
  · exact silent
  · have inWord : isWord d := word d (by simp)
    simp [inWord] at apart

theorem optionValueHere_apart {w k : Text} (spelled : w.map fold = k)
    (apart : ∀ form ∈ kind.names, ∀ h ∈ form.head?, ¬h <+: k ∧ ¬k <+: h) (t : Text) :
    optionValueHere kind.pattern (w ++ t) = none := by
  rw [pattern_eq_any]
  apply optionValueHere_any
  intro p member
  obtain ⟨form, known, rfl⟩ := List.mem_map.mp member
  have other : keywords form (w ++ t) = none := by
    have solid : ∀ form ∈ kind.names, form ≠ [] := by cases kind <;> decide
    obtain ⟨h, ws, rfl⟩ := List.exists_cons_of_ne_nil (solid form known)
    have first := keyword_none_of_spelled spelled (apart _ known h rfl) t
    cases ws with
    | nil => exact first
    | cons v ws => exact keywords_none_of_first first
  rw [optionValueHere_eq, other]
  rfl

/-- What stands after an item: nothing, or after blanks an item that does not go on with this one. -/
structure Follows (rest : Text) : Prop where
  blank : ∀ c ∈ rest.head?, isBlank c
  unassigned : assignedValue rest = none
  unset : optionValueHere (seq [blanks1, keyword "SET"]) rest = none

theorem optionValueAfter_blank {rest : Text} (blank : ∀ c ∈ rest.head?, isBlank c) (previous : Option Char) :
    optionValueAfter kind.pattern previous rest = optionValue kind.pattern rest := by
  cases rest with
  | nil => rfl
  | cons c rest =>
    have silent : optionValueHere kind.pattern (c :: rest) = none :=
      optionValueHere_not_word (isWord_of_isBlank (blank c rfl)) rest
    rw [optionValue, optionValueAfter_silent silent, optionValueAfter_silent silent]

theorem assignedValue_free {u : Text} (solid : u ≠ []) (noEquals : '=' ∉ u) (last : EndsDark u) (rest : Text) :
    assignedValue (u ++ rest) = none := by
  have split : u = u.takeWhile isBlank ++ trimStart u := (List.takeWhile_append_dropWhile ..).symm
  cases shape : trimStart u with
  | nil =>
    have blanks : ∀ c ∈ u, isBlank c := List.dropWhile_eq_nil_iff.mp shape
    obtain ⟨c, final⟩ := Option.isSome_iff_exists.mp (List.getLast?_isSome.mpr solid)
    have dark := last c final
    rw [blanks c (List.mem_of_getLast? final)] at dark
    contradiction
  | cons c more =>
    have dark : isBlank c = false := startsDark_trimStart u c (by rw [shape]; rfl)
    have other : c ≠ '=' := by
      rintro rfl
      apply noEquals
      rw [split, shape]
      simp
    rw [split, shape, List.append_assoc, assignedValue_pad fun d member => List.mem_takeWhile_imp member,
      List.cons_append, assignedValue_dark dark other]

theorem optionValueHere_keyword_free {k : Text} (capitals : ∀ c ∈ k, isCapital c) {s rest : Text}
    (noEquals : '=' ∉ s) (last : EndsDark s) (blank : ∀ c ∈ rest.head?, isBlank c)
    (unassigned : assignedValue rest = none) : optionValueHere (keyword k) (s ++ rest) = none := by
  have ends : ∀ c ∈ rest.head?, isWord c = false := fun c first => isWord_of_isBlank (blank c first)
  rw [optionValueHere_eq]
  cases taken : keyword k (s ++ rest) with
  | none => rfl
  | some n =>
    have short := (keyword_inside capitals ends taken).1
    rw [Option.bind_some, List.drop_append_of_le_length short]
    by_cases whole : s.drop n = []
    · rw [whole]
      exact unassigned
    · apply assignedValue_free whole fun member => noEquals (List.mem_of_mem_drop member)
      exact endsDark_drop last n

theorem optionValueHere_set_free {s rest : Text} (noEquals : '=' ∉ s) (last : EndsDark s)
    (follows : Follows rest) : optionValueHere (seq [blanks1, keyword "SET"]) (s ++ rest) = none := by
  rcases List.eq_nil_or_concat s with rfl | ⟨front, d, rfl⟩
  · exact follows.unset
  · rw [List.concat_eq_append] at noEquals last ⊢
    have dark : isBlank d = false := last d (by simp)
    rw [optionValueHere_seq, List.append_assoc, List.singleton_append]
    cases taken : blanks1 (front ++ d :: rest) with
    | none => rfl
    | some n =>
      have short : n ≤ front.length := (stops_many1 dark).short front rest n taken
      have shape : (front ++ d :: rest).drop n = (front ++ [d]).drop n ++ rest := by
        rw [List.drop_append_of_le_length short, List.drop_append_of_le_length short, List.append_assoc]
        rfl
      rw [Option.bind_some, shape, seq_singleton]
      exact optionValueHere_keyword_free (by decide) (fun member => noEquals (List.mem_of_mem_drop member))
        (endsDark_drop last n) follows.blank follows.unassigned

theorem optionValueHere_free {s rest : Text} (noEquals : '=' ∉ s) (last : EndsDark s) (follows : Follows rest) :
    optionValueHere kind.pattern (s ++ rest) = none := by
  have word {k : Text} (capitals : ∀ c ∈ k, isCapital c) : optionValueHere (keyword k) (s ++ rest) = none :=
    optionValueHere_keyword_free capitals noEquals last follows.blank follows.unassigned
  cases kind with
  | engine => exact word (by decide)
  | collation => exact word (by decide)
  | charset =>
    apply optionValueHere_any
    rw [List.forall_mem_cons, List.forall_mem_singleton]
    refine ⟨?_, word (by decide)⟩
    have ends : ∀ c ∈ rest.head?, isWord c = false :=
      fun c first => isWord_of_isBlank (follows.blank c first)
    have parts : keywords ["CHARACTER", "SET"] = seq [keyword "CHARACTER", blanks1, keyword "SET"] := rfl
    rw [parts, optionValueHere_seq]
    cases taken : keyword "CHARACTER" (s ++ rest) with
    | none => rfl
    | some n =>
      have short := (keyword_inside (by decide) ends taken).1
      rw [Option.bind_some, List.drop_append_of_le_length short]
      exact optionValueHere_set_free (fun member => noEquals (List.mem_of_mem_drop member))
        (endsDark_drop last n) follows

theorem optionValueAfter_free {s rest : Text} (noEquals : '=' ∉ s) (last : EndsDark s) (follows : Follows rest)
    (previous : Option Char) :
    optionValueAfter kind.pattern previous (s ++ rest) = optionValue kind.pattern rest := by
  rw [optionValueAfter_passed, optionValueAfter_blank follows.blank]
  rintro before c after rfl _
  have member : ∀ d ∈ c :: after, d ∈ before ++ c :: after := fun d inside => List.mem_append_right _ inside
  exact optionValueHere_free (fun inside => noEquals (member _ inside))
    ((endsDark_append (List.cons_ne_nil _ _)).mp last) follows

theorem optionValueHere_keyword_other {k : Text} (capitals : ∀ c ∈ k, isCapital c) {w t : Text}
    (word : ∀ c ∈ w, isWord c) (other : w.map fold ≠ k) (ends : ∀ c ∈ t.head?, isWord c = false) :
    optionValueHere (keyword k) (w ++ t) = none := by
  rw [optionValueHere_eq]
  cases taken : keyword k (w ++ t) with
  | none => rfl
  | some n =>
    obtain ⟨short, spelled⟩ := keyword_inside capitals ends taken
    rw [Option.bind_some, List.drop_append_of_le_length short]
    cases left : w.drop n with
    | nil =>
      rw [List.take_of_length_le (List.drop_eq_nil_iff.mp left)] at spelled
      contradiction
    | cons d others =>
      have wordNext : isWord d := word d (List.mem_of_mem_drop (left ▸ List.mem_cons_self))
      have noSign : d ≠ '=' := by
        rintro rfl
        exact absurd wordNext (by decide)
      exact assignedValue_dark (isBlank_of_isWord wordNext) noSign _

theorem isWord_of_sign {left : Text} (blanksLeft : ∀ c ∈ left, isBlank c) (u : Text) :
    ∀ c ∈ (left ++ '=' :: u).head?, isWord c = false := by
  intro c first
  cases left with
  | nil =>
    cases first
    decide
  | cons b left =>
    cases first
    exact isWord_of_isBlank (blanksLeft _ List.mem_cons_self)

theorem optionValueHere_other {w left : Text} (word : ∀ c ∈ w, isWord c)
    (other : ∀ k ∈ [lit "ENGINE", lit "CHARSET", lit "COLLATE"], w.map fold ≠ k)
    (blanksLeft : ∀ c ∈ left, isBlank c) (u : Text) :
    optionValueHere kind.pattern (w ++ (left ++ '=' :: u)) = none := by
  have alone {k : Text} (capitals : ∀ c ∈ k, isCapital c) (different : w.map fold ≠ k) :=
    optionValueHere_keyword_other capitals word different (isWord_of_sign blanksLeft u)
  cases kind with
  | engine => exact alone (by decide) (other _ (by decide))
  | collation => exact alone (by decide) (other _ (by decide))
  | charset =>
    apply optionValueHere_any
    rw [List.forall_mem_cons, List.forall_mem_singleton]
    refine ⟨?_, alone (by decide) (other _ (by decide))⟩
    have parts : keywords ["CHARACTER", "SET"] = seq [keyword "CHARACTER", blanks1, keyword "SET"] := rfl
    rw [parts, optionValueHere_seq]
    cases taken : keyword "CHARACTER" (w ++ (left ++ '=' :: u)) with
    | none => rfl
    | some n =>
      have short := (keyword_inside (by decide) (isWord_of_sign blanksLeft u) taken).1
      rw [Option.bind_some, List.drop_append_of_le_length short, optionValueHere_seq]
      cases rest : w.drop n with
      | cons d others =>
        have dark := isBlank_of_isWord (word d (List.mem_of_mem_drop (rest ▸ List.mem_cons_self)))
        have noGap : blanks1 (d :: others ++ (left ++ '=' :: u)) = none :=
          blanks1_none fun _ first => by cases first; exact dark
        rw [noGap]
        rfl
      | nil =>
        rw [List.nil_append]
        cases gap : blanks1 (left ++ '=' :: u) with
        | none => rfl
        | some m =>
          have shortGap := (stops_many1 (by decide)).short left u m gap
          rw [Option.bind_some, List.drop_append_of_le_length shortGap, seq_singleton]
          exact optionValueHere_keyword_other (w := []) (by decide) (by simp) (by decide)
            (isWord_of_sign (fun c member => blanksLeft c (List.mem_of_mem_drop member)) u)

theorem stops_pattern {d : Char} (noWord : isWord d = false) (dark : isBlank d = false) :
    Stops d kind.pattern := by
  rw [pattern_eq_any]
  apply stops_any
  intro p member
  obtain ⟨form, known, rfl⟩ := List.mem_map.mp member
  apply stops_keywords ?_ dark
  intro w listed inside
  rw [isWord_of_fold ((names_letters kind form known w listed).2 _ inside)] at noWord
  contradiction

theorem isWord_of_isQuote {q : Char} (quote : isQuote q) : isWord q = false := by
  simp only [isQuote, Bool.or_eq_true, beq_iff_eq] at quote
  rcases quote with (rfl | rfl) | rfl <;> decide

theorem optionValueHere_quote {q : Char} (quote : isQuote q) {rest : Text} (blank : ∀ c ∈ rest.head?, isBlank c)
    (t : Text) : optionValueHere kind.pattern (t ++ q :: rest) = optionValueHere kind.pattern (t ++ [q]) := by
  have known : isBlank q = false ∧ (q == '=') = false := by
    simp only [isQuote, Bool.or_eq_true, beq_iff_eq] at quote
    rcases quote with (rfl | rfl) | rfl <;> decide
  have stops : Stops q (seq [kind.pattern, blanks, char '=', blanks]) := by
    apply stops_seq
    have gap : Stops q blanks := stops_many known.1
    have sign : Stops q (char '=') := stops_one known.2
    simp [stops_pattern (isWord_of_isQuote quote) known.1, gap, sign]
  have ends : ∀ c ∈ rest.head?, inOptionValue c = false :=
    fun c first => not_inOptionValue_of_isBlank (blank c first)
  rw [optionValueHere, optionValueHere, stops.blind t rest []]
  cases taken : seq [kind.pattern, blanks, char '=', blanks] (t ++ [q]) with
  | none => rfl
  | some n =>
    have short := stops.short t [] n taken
    have whole : t ++ q :: rest = (t ++ [q]) ++ rest := by simp
    have within : n ≤ (t ++ [q]).length := by
      rw [List.length_append]
      omega
    simp only [whole, List.drop_append_of_le_length within, takeWhile_append_of_stop ends]

theorem optionValueAfter_quote {q : Char} (quote : isQuote q) {rest : Text}
    (blank : ∀ c ∈ rest.head?, isBlank c) (s : Text) (previous : Option Char) :
    optionValueAfter kind.pattern previous (s ++ q :: rest) =
      (optionValueAfter kind.pattern previous (s ++ [q])).or (optionValue kind.pattern rest) := by
  induction s generalizing previous with
  | nil =>
    have silent (t : Text) : optionValueHere kind.pattern (q :: t) = none :=
      optionValueHere_not_word (isWord_of_isQuote quote) t
    rw [List.nil_append, List.nil_append, optionValueAfter_silent (silent rest), optionValueAfter_blank blank,
      optionValueAfter_silent (silent []), optionValueAfter, Option.none_or]
  | cons c others ih =>
    have here : optionValueHere kind.pattern (c :: (others ++ q :: rest)) =
        optionValueHere kind.pattern (c :: (others ++ [q])) := optionValueHere_quote quote blank (c :: others)
    rw [List.cons_append, List.cons_append, optionValueAfter, optionValueAfter, here, ih, Option.or_assoc]

end

end SchemaDiff.Ddl
