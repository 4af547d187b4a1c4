import SchemaDiff.Proofs.Text.Blank
import SchemaDiff.Text.Pattern

/-
What a pattern takes off the front of a text. `p.Takes u t` says that of `u ++ t` the pattern takes
`u`; patterns in a row take one after another.
-/
namespace SchemaDiff.Text.Pattern

def Takes (p : Pattern) (u t : Text) : Prop := p (u ++ t) = some u.length

theorem takes_seq_cons {p : Pattern} {ps : List Pattern} {u v t : Text}
    (first : p.Takes u (v ++ t)) (others : (seq ps).Takes v t) :
    (seq (p :: ps)).Takes (u ++ v) t := by
  rw [Takes, List.append_assoc, seq, first]
  have rest : seq ps (v ++ t) = some v.length := others
  simp [rest]

theorem takes_seq_singleton {p : Pattern} {u t : Text} (taken : p.Takes u t) :
    (seq [p]).Takes u t := by
  rw [Takes, seq, taken]
  simp [seq]

theorem takes_keyword {w u : Text} (spelled : u.map fold = w) (t : Text) :
    (keyword w).Takes u t := by
  have length : w.length = u.length := by rw [← spelled, List.length_map]
  rw [Takes, keyword, length, List.take_left, if_pos spelled]

theorem takeWhile_eq_nil {α : Type} {p : α → Bool} {t : List α}
    (stops : ∀ c ∈ t.head?, p c = false) : t.takeWhile p = [] := by
  cases t with
  | nil => rfl
  | cons c rest => simp [stops c rfl]

theorem takeWhile_append_stop {α : Type} {p : α → Bool} {u t : List α} (all : ∀ c ∈ u, p c)
    (stops : ∀ c ∈ t.head?, p c = false) : (u ++ t).takeWhile p = u := by
  rw [List.takeWhile_append_of_pos all, takeWhile_eq_nil stops, List.append_nil]

theorem takeWhile_append_of_stop {α : Type} {p : α → Bool} {t : List α}
    (stops : ∀ c ∈ t.head?, p c = false) (u : List α) : (u ++ t).takeWhile p = u.takeWhile p := by
  rw [List.takeWhile_append, takeWhile_eq_nil stops, List.append_nil]
  split
  · rename_i whole
    exact ((List.takeWhile_prefix p).eq_of_length whole).symm
  · rfl

theorem dropWhile_append_stop {α : Type} {p : α → Bool} {u t : List α} (all : ∀ c ∈ u, p c)
    (stops : ∀ c ∈ t.head?, p c = false) : (u ++ t).dropWhile p = t := by
  rw [List.dropWhile_append_of_pos all]
  cases t with
  | nil => rfl
  | cons c rest => simp [stops c rfl]

theorem takes_many {p : Char → Bool} {u t : Text} (all : ∀ c ∈ u, p c)
    (stops : ∀ c ∈ t.head?, p c = false) : (many p).Takes u t := by
  rw [Takes, many, takeWhile_append_stop all stops]

theorem takes_many1 {p : Char → Bool} {u t : Text} (solid : u ≠ []) (all : ∀ c ∈ u, p c)
    (stops : ∀ c ∈ t.head?, p c = false) : (many1 p).Takes u t := by
  cases u with
  | nil => contradiction
  | cons c rest =>
    have first : (one p).Takes [c] (rest ++ t) := by
      simp [Takes, one, all c List.mem_cons_self]
    have others := takes_many (fun d member => all d (List.mem_cons_of_mem c member)) stops
    exact takes_seq_cons first (takes_seq_singleton others)

theorem takes_keywords_cons {w v : Text} {ws : List Text} {u gap rest t : Text}
    (spelled : u.map fold = w) (solid : gap ≠ []) (blanks : ∀ c ∈ gap, isBlank c)
    (dark : StartsDark (rest ++ t)) (others : (keywords (v :: ws)).Takes rest t) :
    (keywords (w :: v :: ws)).Takes (u ++ (gap ++ rest)) t := by
  apply takes_seq_cons (takes_keyword spelled _)
  exact takes_seq_cons (takes_many1 solid blanks dark) (takes_seq_singleton others)

theorem keyword_none {w t : Text} {c d : Char} (different : fold c ≠ d) :
    keyword (d :: w) (c :: t) = none := by
  rw [keyword, if_neg]
  intro same
  exact different (List.cons.inj same).1

theorem blanks1_none {t : Text} (dark : StartsDark t) : blanks1 t = none := by
  cases t with
  | nil => rfl
  | cons c rest =>
    have first : isBlank c = false := dark c rfl
    simp [blanks1, many1, seq, one, first]

theorem keywords_cons_cons (w v : Text) (ws : List Text) :
    keywords (w :: v :: ws) = seq [keyword w, blanks1, keywords (v :: ws)] := rfl

theorem keywords_none_of_first {w v t : Text} {ws : List Text} (fails : keyword w t = none) :
    keywords (w :: v :: ws) t = none := by
  rw [keywords_cons_cons, seq, fails]

theorem keywords_none_of_gap {w v t : Text} {ws : List Text}
    (fails : blanks1 (t.drop w.length) = none) : keywords (w :: v :: ws) t = none := by
  rw [keywords_cons_cons, seq]
  by_cases spelled : (t.take w.length).map fold = w
  · rw [keyword, if_pos spelled]
    simp [seq, fails]
  · rw [keyword, if_neg spelled]

theorem keywords_none_of_later {w v t : Text} {ws : List Text} {n : Nat}
    (gap : blanks1 (t.drop w.length) = some n)
    (fails : keywords (v :: ws) ((t.drop w.length).drop n) = none) :
    keywords (w :: v :: ws) t = none := by
  rw [keywords_cons_cons, seq]
  by_cases spelled : (t.take w.length).map fold = w
  · rw [keyword, if_pos spelled]
    simp only [seq, gap, fails, Option.map_none]
  · rw [keyword, if_neg spelled]

end SchemaDiff.Text.Pattern
