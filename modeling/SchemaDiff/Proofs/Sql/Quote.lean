import SchemaDiff.Sql.Quote

/-
What a scan for quotes remembers. Outside quotes the scan has no memory: the character before does
not count, so that a scan may be cut at any such place and taken up again from the start. The last
unquoted character of a kind is found wherever the rest of the text hides all others in quotes.
-/
namespace SchemaDiff.Sql

namespace QuoteState

@[simp] theorem after_nil (s : QuoteState) : s.after [] = s := rfl

@[simp] theorem after_cons (s : QuoteState) (c : Char) (t : Text) :
    s.after (c :: t) = (s.feed c).after t := rfl

@[simp] theorem after_append (s : QuoteState) (t u : Text) :
    s.after (t ++ u) = (s.after t).after u := List.foldl_append

theorem isOpen_eq_false_iff {s : QuoteState} : s.isOpen = false ↔ s.opener = none := by
  simp [isOpen]

theorem feed_of_closed {s : QuoteState} (closed : s.opener = none) (c : Char) :
    s.feed c = start.feed c := by
  simp [feed, closed, start]

theorem after_of_closed {s : QuoteState} (closed : s.opener = none) {t : Text} (solid : t ≠ []) :
    s.after t = start.after t := by
  cases t with
  | nil => contradiction
  | cons c rest => rw [after_cons, after_cons, feed_of_closed closed]

theorem opener_after_of_closed {s : QuoteState} (closed : s.opener = none) (t : Text) :
    (s.after t).opener = (start.after t).opener := by
  by_cases empty : t = []
  · subst empty
    exact closed
  · rw [after_of_closed closed empty]

theorem feed_plain {s : QuoteState} (closed : s.opener = none) {c : Char}
    (plain : isQuote c = false) : (s.feed c).opener = none := by
  simp [feed, closed, plain]

theorem after_plain {s : QuoteState} (closed : s.opener = none) {t : Text}
    (plain : ∀ c ∈ t, isQuote c = false) : (s.after t).opener = none := by
  induction t generalizing s with
  | nil => exact closed
  | cons c rest ih =>
    have first := feed_plain closed (plain c List.mem_cons_self)
    exact ih first fun d member => plain d (List.mem_cons_of_mem c member)

theorem feed_inside {s : QuoteState} {q c : Char} (inside : s.opener = some q) (other : c ≠ q) :
    s.feed c = ⟨some q, some c⟩ := by
  simp [feed, inside, other]

theorem isQuote_opener_feed {s : QuoteState} (quotes : ∀ q ∈ s.opener, isQuote q) (c : Char) :
    ∀ q ∈ (s.feed c).opener, isQuote q := by
  intro q opened
  cases inside : s.opener with
  | none =>
    by_cases quote : isQuote c
    · obtain rfl : c = q := by simpa [feed, inside, quote] using opened
      exact quote
    · simp [feed, inside, quote] at opened
  | some opener =>
    by_cases closing : c = opener ∧ s.previous ≠ some '\\'
    · simp [feed, inside, closing] at opened
    · obtain rfl : opener = q := by
        simpa only [feed, inside, if_neg closing, Option.mem_some_iff] using opened
      exact quotes opener inside

theorem closed_of_feed_plain {s : QuoteState} (quotes : ∀ q ∈ s.opener, isQuote q) {c : Char}
    (plain : isQuote c = false) (closed : (s.feed c).opener = none) : s.opener = none := by
  cases opened : s.opener with
  | none => rfl
  | some q =>
    have other : c ≠ q := by
      rintro rfl
      exact absurd (quotes c opened) (by simp [plain])
    rw [feed_inside opened other] at closed
    contradiction

theorem isQuote_opener_after {s : QuoteState} (quotes : ∀ q ∈ s.opener, isQuote q) (t : Text) :
    ∀ q ∈ (s.after t).opener, isQuote q := by
  induction t generalizing s with
  | nil => exact quotes
  | cons c rest ih => exact ih (isQuote_opener_feed quotes c)

theorem feed_closing {s : QuoteState} {q : Char} (inside : s.opener = some q)
    (unescaped : s.previous ≠ some '\\') : (s.feed q).opener = none := by
  simp [feed, inside, unescaped]

theorem after_inside {s : QuoteState} {q : Char} (inside : s.opener = some q) {t : Text}
    (absent : q ∉ t) : (s.after t).opener = some q := by
  induction t generalizing s with
  | nil => exact inside
  | cons c rest ih =>
    have other : c ≠ q := fun same => absent (same ▸ List.mem_cons_self)
    have next : (s.feed c).opener = some q := by rw [feed_inside inside other]
    exact ih next fun member => absent (List.mem_cons_of_mem c member)

theorem opener_after_ne {s : QuoteState} {q : Char} (outside : s.opener ≠ some q) {t : Text}
    (absent : q ∉ t) : (s.after t).opener ≠ some q := by
  induction t generalizing s with
  | nil => exact outside
  | cons c rest ih =>
    have other : c ≠ q := fun same => absent (same ▸ List.mem_cons_self)
    apply ih ?_ fun member => absent (List.mem_cons_of_mem c member)
    cases inside : s.opener with
    | none => by_cases quote : isQuote c <;> simp [feed, inside, quote, other]
    | some r =>
      have another : r ≠ q := by rintro rfl; exact outside inside
      by_cases closing : c = r ∧ s.previous ≠ some '\\'
      · simp [feed, inside, closing]
      · simpa only [feed, inside, if_neg closing, ne_eq, Option.some.injEq] using another

theorem isOpen_feed_quote {s : QuoteState} {q : Char} (outside : s.opener ≠ some q)
    (quote : isQuote q) : (s.feed q).isOpen := by
  cases inside : s.opener with
  | none => simp [isOpen, feed, inside, quote]
  | some r =>
    have other : q ≠ r := by rintro rfl; exact outside inside
    simp [isOpen, feed_inside inside other]

theorem feed_escaped {s : QuoteState} {q : Char} (inside : s.opener = some q)
    (escaped : s.previous = some '\\') (c : Char) : (s.feed c).opener = some q := by
  simp [feed, inside, escaped]

theorem previous_after (s : QuoteState) {t : Text} (solid : t ≠ []) :
    (s.after t).previous = t.getLast? := by
  induction t generalizing s with
  | nil => contradiction
  | cons c rest ih =>
    by_cases last : rest = []
    · subst last
      rfl
    · rw [after_cons, ih _ last]
      simp [List.getLast?_cons, List.getLast?_eq_some_getLast last]

theorem after_quoted {s : QuoteState} (closed : s.opener = none) {q : Char} (quote : isQuote q)
    {body : Text} (absent : q ∉ body) (unescaped : body.getLast? ≠ some '\\') :
    (s.after (q :: body ++ [q])).opener = none := by
  have opened : (s.feed q).opener = some q := by simp [feed, closed, quote]
  have inside := after_inside opened absent
  have noBackslash : ((s.feed q).after body).previous ≠ some '\\' := by
    by_cases empty : body = []
    · subst empty
      have other : q ≠ '\\' := by
        rintro rfl
        exact absurd quote (by decide)
      simpa [feed] using other
    · rw [previous_after _ empty]
      exact unescaped
  rw [List.cons_append, after_cons, after_append]
  exact feed_closing inside noBackslash

end QuoteState

theorem closed_append {t u : Text} (first : Closed t) (second : Closed u) : Closed (t ++ u) := by
  rw [Closed, QuoteState.after_append, QuoteState.opener_after_of_closed first]
  exact second

theorem closed_of_concat {t : Text} {c : Char} (plain : isQuote c = false) (closed : Closed (t ++ [c])) :
    Closed t := by
  have quotes := QuoteState.isQuote_opener_after (s := .start) (by simp [QuoteState.start]) t
  rw [Closed, QuoteState.after_append] at closed
  exact QuoteState.closed_of_feed_plain quotes plain closed

theorem closed_intercalate {separator : Text} (closed : Closed separator) {pieces : List Text}
    (all : ∀ p ∈ pieces, Closed p) : Closed (separator.intercalate pieces) := by
  induction pieces with
  | nil => rfl
  | cons p others ih =>
    have first := all p List.mem_cons_self
    cases others with
    | nil => rwa [List.intercalate_singleton]
    | cons q others =>
      have later := ih fun r member => all r (List.mem_cons_of_mem p member)
      rw [List.intercalate_cons_cons]
      exact closed_append (closed_append first closed) later

/-- Every character with the property `p` is inside a quote, where the text comes after `s`. -/
def Hidden (p : Char → Bool) : QuoteState → Text → Prop
  | _, [] => True
  | s, c :: rest => (p c → (s.feed c).isOpen) ∧ Hidden p (s.feed c) rest

instance decidableHidden (p : Char → Bool) : ∀ s t, Decidable (Hidden p s t)
  | _, [] => isTrue trivial
  | s, c :: rest =>
    have := decidableHidden p (s.feed c) rest
    inferInstanceAs (Decidable (_ ∧ _))

theorem hidden_of_absent {p : Char → Bool} {t : Text} (absent : ∀ c ∈ t, p c = false)
    (s : QuoteState) : Hidden p s t := by
  induction t generalizing s with
  | nil => trivial
  | cons c rest ih =>
    have first := absent c List.mem_cons_self
    refine ⟨by simp [first], ih (fun d member => absent d (List.mem_cons_of_mem c member)) _⟩

theorem hidden_of_inside {p : Char → Bool} {s : QuoteState} {q : Char} (inside : s.opener = some q)
    {t : Text} (absent : q ∉ t) : Hidden p s t := by
  induction t generalizing s with
  | nil => trivial
  | cons c rest ih =>
    have other : c ≠ q := fun same => absent (same ▸ List.mem_cons_self)
    have next := QuoteState.feed_inside inside other
    refine ⟨fun _ => by rw [next]; rfl, ih (by rw [next]) fun member => ?_⟩
    exact absent (List.mem_cons_of_mem c member)

theorem hidden_of_closed {p : Char → Bool} {s : QuoteState} (closed : s.opener = none) {t : Text} :
    Hidden p s t ↔ Hidden p .start t := by
  cases t with
  | nil => rfl
  | cons c rest => rw [Hidden, Hidden, QuoteState.feed_of_closed closed]

/-- A text in quotes: from its first character on it is inside, and its last one closes it. -/
structure Quoted (t : Text) : Prop where
  opened : t.dropLast ≠ []
  inside : Hidden (fun _ => true) .start t.dropLast
  closed : Closed t

instance (t : Text) : Decidable (Quoted t) :=
  decidable_of_iff (t.dropLast ≠ [] ∧ Hidden (fun _ => true) .start t.dropLast ∧ Closed t)
    ⟨fun h => ⟨h.1, h.2.1, h.2.2⟩, fun h => ⟨h.opened, h.inside, h.closed⟩⟩

theorem opener_after_hidden {s : QuoteState} {q : Char} (opened : s.opener = some q) {t : Text}
    (hidden : Hidden (fun _ => true) s t) : (s.after t).opener = some q := by
  induction t generalizing s with
  | nil => exact opened
  | cons c rest ih =>
    apply ih ?_ hidden.2
    have still := hidden.1 rfl
    by_cases closing : c = q ∧ s.previous ≠ some '\\'
    · simp [QuoteState.isOpen, QuoteState.feed, opened, closing] at still
    · simp only [QuoteState.feed, opened, if_neg closing]

theorem quoted_ends {t : Text} (quoted : Quoted t) :
    ∃ q body, isQuote q ∧ t = q :: body ++ [q] ∧
      Hidden (fun _ => true) (QuoteState.start.feed q) body := by
  obtain ⟨front, last, rfl⟩ : ∃ front last, t = front ++ [last] := by
    rcases List.eq_nil_or_concat t with rfl | ⟨front, last, rfl⟩
    · exact absurd rfl quoted.opened
    · exact ⟨front, last, List.concat_eq_append⟩
  obtain ⟨opened, inside, closed⟩ := quoted
  rw [List.dropLast_concat] at opened inside
  cases front with
  | nil => contradiction
  | cons q body =>
    have quote : isQuote q := by
      have isOpen := inside.1 rfl
      by_cases quote : isQuote q
      · exact quote
      · simp [QuoteState.isOpen, QuoteState.feed, QuoteState.start, quote] at isOpen
    have start : (QuoteState.start.feed q).opener = some q := by
      simp [QuoteState.feed, QuoteState.start, quote]
    have still := opener_after_hidden start inside.2
    have same : last = q := by
      apply Classical.byContradiction
      intro other
      rw [Closed, QuoteState.after_append, QuoteState.after_cons, QuoteState.after_cons,
        QuoteState.feed_inside still other] at closed
      contradiction
    exact ⟨q, body, quote, by rw [same], inside.2⟩

theorem lastUnquoted_go_hidden {p : Char → Bool} {start : Int} {s : QuoteState} {t : Text}
    (hidden : Hidden p s t) (i : Nat) : lastUnquoted.go p start s i t = none := by
  induction t generalizing s i with
  | nil => rfl
  | cons c rest ih =>
    rw [lastUnquoted.go, ih hidden.2, Option.none_or, if_neg]
    rintro ⟨_, outside, found⟩
    exact outside (hidden.1 found)

theorem lastUnquoted_go_append {p : Char → Bool} {start : Int} {s : QuoteState} {t u : Text}
    {i n : Nat} (found : lastUnquoted.go p start (s.after t) (i + t.length) u = some n) :
    lastUnquoted.go p start s i (t ++ u) = some n := by
  induction t generalizing s i with
  | nil => simpa using found
  | cons c rest ih =>
    have later : lastUnquoted.go p start (s.feed c) (i + 1) (rest ++ u) = some n := by
      apply ih
      rw [List.length_cons, Nat.add_comm rest.length, ← Nat.add_assoc] at found
      exact found
    rw [List.cons_append, lastUnquoted.go, later, Option.some_or]

theorem lastUnquoted_eq {p : Char → Bool} {start : Int} {t after : Text} {c : Char}
    (reached : start ≤ t.length) (found : p c)
    (outside : ((QuoteState.start.after t).feed c).opener = none)
    (hidden : Hidden p .start after) :
    lastUnquoted p start (t ++ c :: after) = some t.length := by
  apply lastUnquoted_go_append
  rw [lastUnquoted.go, lastUnquoted_go_hidden ((hidden_of_closed outside).mpr hidden),
    Option.none_or, Nat.zero_add, if_pos]
  exact ⟨reached, by simp [QuoteState.isOpen, outside], found⟩

theorem lastUnquoted_go_bounds {p : Char → Bool} {start : Int} {s : QuoteState} {t u : Text}
    (hidden : Hidden p (s.after t) u) {i n : Nat}
    (found : lastUnquoted.go p start s i (t ++ u) = some n) : start ≤ n ∧ n < i + t.length := by
  induction t generalizing s i with
  | nil =>
    rw [QuoteState.after_nil] at hidden
    rw [List.nil_append, lastUnquoted_go_hidden hidden] at found
    contradiction
  | cons c rest ih =>
    rw [List.cons_append, lastUnquoted.go, Option.or_eq_some_iff] at found
    rw [List.length_cons]
    rcases found with later | ⟨_, here⟩
    · obtain ⟨reached, bound⟩ := ih hidden later
      omega
    · split at here
      · rename_i unquoted
        obtain rfl := Option.some.inj here
        exact ⟨unquoted.1, by omega⟩
      · contradiction

theorem lastUnquoted_bounds {p : Char → Bool} {start : Int} {t u : Text}
    (hidden : Hidden p (QuoteState.start.after t) u) {n : Nat}
    (found : lastUnquoted p start (t ++ u) = some n) : start ≤ n ∧ n < t.length := by
  have bounds := lastUnquoted_go_bounds hidden found
  rwa [Nat.zero_add] at bounds

end SchemaDiff.Sql
