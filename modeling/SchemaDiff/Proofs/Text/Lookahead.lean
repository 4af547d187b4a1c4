import Mathlib.Data.List.TakeDrop
import SchemaDiff.Text.Pattern

/-
How far patterns look ahead. A pattern that stops at a character depends on nothing beyond it. That goes through
from the parts of a pattern to the whole.
-/
namespace SchemaDiff.Text.Pattern

/-- The pattern does not take the character `d`, and does not look at what comes after it. -/
structure Stops (d : Char) (p : Pattern) : Prop where
  blind : ∀ t u v, p (t ++ d :: u) = p (t ++ d :: v)
  short : ∀ t u n, p (t ++ d :: u) = some n → n ≤ t.length

theorem seq_cons_eq_some {p : Pattern} {ps : List Pattern} {t : Text} {n : Nat}
    (taken : seq (p :: ps) t = some n) : ∃ k m, p t = some k ∧ seq ps (t.drop k) = some m ∧ k + m = n := by
  rw [seq] at taken
  cases first : p t with
  | none => simp [first] at taken
  | some k =>
    simp only [first] at taken
    obtain ⟨m, others, rfl⟩ := Option.map_eq_some_iff.mp taken
    exact ⟨k, m, rfl, others, rfl⟩

section

variable {d : Char} {p : Pattern} {ps : List Pattern} {f : Char → Bool} {w : Text}

theorem stops_one (stop : f d = false) : Stops d (one f) := by
  constructor
  · intro t u v
    cases t with
    | nil => rfl
    | cons c rest => rfl
  · intro t u n taken
    cases t with
    | nil => simp [one, stop] at taken
    | cons c rest =>
      simp only [List.cons_append, one, Option.ite_none_right_eq_some, Option.some.injEq] at taken
      rw [List.length_cons]
      omega

theorem takeWhile_stop (stop : f d = false) (t u : Text) :
    (t ++ d :: u).takeWhile f = t.takeWhile f := by
  induction t with
  | nil => simp [stop]
  | cons c rest ih => simp only [List.cons_append, List.takeWhile_cons, ih]

theorem stops_many (stop : f d = false) : Stops d (many f) := by
  constructor
  · intro t u v
    rw [many, many, takeWhile_stop stop, takeWhile_stop stop]
  · intro t u n taken
    rw [many, takeWhile_stop stop, Option.some.injEq] at taken
    rw [← taken]
    exact (List.takeWhile_sublist f).length_le

theorem isPrefixOf_stop (absent : d ∉ w) (t u : Text) :
    w.isPrefixOf (t ++ d :: u) = w.isPrefixOf t := by
  induction w generalizing t with
  | nil => simp
  | cons c rest ih =>
    simp only [List.mem_cons, not_or] at absent
    cases t with
    | nil => simp [List.isPrefixOf, Ne.symm absent.1]
    | cons e t => simp [List.isPrefixOf, ih absent.2]

theorem take_stop (absent : fold d ∉ w) (t u : Text) :
    ((t ++ d :: u).take w.length).map fold = w ↔ (t.take w.length).map fold = w := by
  by_cases long : w.length ≤ t.length
  · rw [List.take_append_of_le_length long]
  · constructor
    · intro spelled
      have inside : d ∈ (t ++ d :: u).take w.length := by
        rw [List.take_append, List.mem_append, List.take_cons (by omega)]
        exact .inr List.mem_cons_self
      exact absurd (spelled ▸ List.mem_map_of_mem inside) absent
    · intro spelled
      have length := congrArg List.length spelled
      rw [List.length_map, List.length_take] at length
      omega

theorem stops_keyword (absent : fold d ∉ w) : Stops d (keyword w) := by
  constructor
  · intro t u v
    simp only [keyword, take_stop absent]
  · intro t u n taken
    simp only [keyword, take_stop absent, Option.ite_none_right_eq_some, Option.some.injEq] at taken
    have length := congrArg List.length taken.1
    rw [List.length_map, List.length_take] at length
    omega

theorem drop_stop {t u : Text} {n : Nat} (short : n ≤ t.length) :
    (t ++ d :: u).drop n = t.drop n ++ d :: u :=
  List.drop_append_of_le_length short

theorem stops_seq (all : ∀ p ∈ ps, Stops d p) : Stops d (seq ps) := by
  induction ps with
  | nil =>
    constructor
    · intro t u v
      rfl
    · intro t u n taken
      cases taken
      exact Nat.zero_le _
  | cons p ps ih =>
    have first := all p List.mem_cons_self
    have others := ih fun q member => all q (List.mem_cons_of_mem p member)
    constructor
    · intro t u v
      rw [seq, seq, ← first.blind t u v]
      cases taken : p (t ++ d :: u) with
      | none => rfl
      | some n =>
        -- What the first pattern takes ends before `d`, so that `d` is still ahead of the others.
        have short := first.short t u n taken
        simp only [drop_stop short, others.blind (t.drop n) u v]
    · intro t u n taken
      rw [seq] at taken
      cases found : p (t ++ d :: u) with
      | none => simp [found] at taken
      | some m =>
        have short := first.short t u m found
        simp only [found, drop_stop short] at taken
        obtain ⟨k, rest, rfl⟩ := Option.map_eq_some_iff.mp taken
        have later := others.short (t.drop m) u k rest
        rw [List.length_drop] at later
        omega

theorem any_congr {t u : Text} (same : ∀ p ∈ ps, p t = p u) : any ps t = any ps u := by
  induction ps with
  | nil => rfl
  | cons p ps ih =>
    have first := same p List.mem_cons_self
    have others := ih fun q member => same q (List.mem_cons_of_mem p member)
    simp only [any, List.findSome?_cons, first] at others ⊢
    rw [others]

theorem stops_any (all : ∀ p ∈ ps, Stops d p) : Stops d (any ps) := by
  constructor
  · intro t u v
    exact any_congr fun p member => (all p member).blind t u v
  · intro t u n taken
    obtain ⟨p, member, found⟩ := List.exists_of_findSome?_eq_some taken
    exact (all p member).short t u n found

theorem stops_many1 (stop : f d = false) : Stops d (many1 f) := by
  apply stops_seq
  simp [stops_one stop, stops_many stop]

theorem stops_keywords {ws : List Text} (absent : ∀ w ∈ ws, fold d ∉ w) (dark : isBlank d = false) :
    Stops d (keywords ws) := by
  induction ws with
  | nil => exact stops_seq (by simp)
  | cons w ws ih =>
    have first := stops_keyword (absent w List.mem_cons_self)
    have others := ih fun v member => absent v (List.mem_cons_of_mem w member)
    cases ws with
    | nil => exact first
    | cons v ws =>
      apply stops_seq
      simp [first, others, blanks1, stops_many1 dark]

end

end SchemaDiff.Text.Pattern
