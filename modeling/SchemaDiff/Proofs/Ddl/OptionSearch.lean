import SchemaDiff.Ddl.TableOption
import SchemaDiff.Proofs.Sql.Quote
import SchemaDiff.Proofs.Text.Case
import SchemaDiff.Proofs.Text.Pattern

/-
The search for an option of a table. It stops at the first place where a name of the option stands by itself,
with an equals sign and a value after it; whether that place is inside quotes does not matter.
-/
namespace SchemaDiff.Ddl
open SchemaDiff.Text SchemaDiff.Text.Pattern SchemaDiff.Sql

inductive OptionKind where
  | engine
  | charset
  | collation
deriving DecidableEq, Repr

namespace OptionKind

def names : OptionKind → List (List Text)
  | engine => [["ENGINE"]]
  | charset => [["CHARACTER", "SET"], ["CHARSET"]]
  | collation => [["COLLATE"]]

def pattern : OptionKind → Pattern
  | engine => keyword "ENGINE"
  | charset => any [keywords ["CHARACTER", "SET"], keyword "CHARSET"]
  | collation => keyword "COLLATE"

def value : OptionKind → TableOptions → Option Text
  | engine => TableOptions.engine
  | charset => TableOptions.charset
  | collation => TableOptions.collation

theorem value_readTableOptions (kind : OptionKind) (t : Text) :
    kind.value (readTableOptions t) = optionValue kind.pattern t := by
  cases kind <;> rfl

end OptionKind

theorem tableOptions_ext {first second : TableOptions}
    (same : ∀ kind : OptionKind, kind.value first = kind.value second) : first = second := by
  cases first
  cases second
  rw [TableOptions.mk.injEq]
  exact ⟨same .engine, same .charset, same .collation⟩

theorem isWord_of_fold {c : Char} (capital : isCapital (fold c)) : isWord c := by
  have others : ∀ d ∈ ['\u0130', '\u0131', '\u017f', '\u212a'], isWord d := by decide +kernel
  by_cases special : c ∈ ['\u0130', '\u0131', '\u017f', '\u212a']
  · exact others c special
  · simp only [List.mem_cons, List.not_mem_nil, or_false, not_or] at special
    have ascii : fold c = c.toUpper := by simp [fold, special]
    rw [ascii] at capital
    exact (word_of_isCapital_toUpper capital).1

theorem keyword_inside {k w t : Text} (capitals : ∀ c ∈ k, isCapital c)
    (ends : ∀ c ∈ t.head?, isWord c = false) {n : Nat} (taken : keyword k (w ++ t) = some n) :
    n ≤ w.length ∧ (w.take n).map fold = k := by
  rw [keyword, Option.ite_none_right_eq_some, Option.some.injEq] at taken
  obtain ⟨spelled, rfl⟩ := taken
  by_cases short : k.length ≤ w.length
  · rw [List.take_append_of_le_length short] at spelled
    exact ⟨short, spelled⟩
  · exfalso
    cases t with
    | nil =>
      have length := congrArg List.length spelled
      rw [List.append_nil, List.length_map, List.length_take] at length
      omega
    | cons c rest =>
      have inside : c ∈ (w ++ c :: rest).take k.length := by
        rw [List.take_append, List.mem_append, List.take_cons (by omega)]
        exact .inr List.mem_cons_self
      have word := isWord_of_fold (capitals _ (spelled ▸ List.mem_map_of_mem inside))
      rw [ends c rfl] at word
      contradiction

theorem keyword_none_of_spelled {u k w : Text} (spelled : u.map fold = k) (apart : ¬w <+: k ∧ ¬k <+: w)
    (t : Text) : keyword w (u ++ t) = none := by
  rw [keyword, if_neg]
  intro same
  rw [List.take_append, List.map_append] at same
  rcases Nat.le_total w.length u.length with short | long
  · apply apart.1
    rw [Nat.sub_eq_zero_of_le short, List.take_zero, List.map_nil, List.append_nil] at same
    rw [← same, ← spelled]
    exact (List.take_prefix _ _).map fold
  · apply apart.2
    rw [List.take_of_length_le long, spelled] at same
    exact ⟨_, same⟩

theorem isBlank_of_inOptionValue {c : Char} (inside : inOptionValue c) : isBlank c = false := by
  simp only [inOptionValue, Bool.and_eq_true, Bool.not_eq_true'] at inside
  exact inside.1.1

theorem not_inOptionValue_of_isBlank {c : Char} (blank : isBlank c) : inOptionValue c = false := by
  simp [inOptionValue, blank]

def assignedValue (t : Text) : Option Text :=
  match trimStart t with
  | '=' :: rest => Option.guard (· ≠ []) ((trimStart rest).takeWhile inOptionValue)
  | _ => none

theorem equalsSign (t : Text) :
    (∃ rest n, trimStart t = '=' :: rest ∧ seq [blanks, char '=', blanks] t = some n ∧
        t.drop n = trimStart rest) ∨
      ((∀ rest, trimStart t ≠ '=' :: rest) ∧ seq [blanks, char '=', blanks] t = none) := by
  have front : blanks t = some (t.takeWhile isBlank).length := rfl
  have dropped : t.drop (t.takeWhile isBlank).length = trimStart t := drop_takeWhile isBlank t
  rw [seq, front]
  cases shape : trimStart t with
  | nil => exact .inr ⟨by simp, by simp [dropped, shape, seq, char, one]⟩
  | cons c rest =>
    by_cases equals : c = '='
    · subst equals
      refine .inl ⟨rest, (t.takeWhile isBlank).length + (1 + (rest.takeWhile isBlank).length), rfl, ?_, ?_⟩
      · simp [dropped, shape, seq, char, one, blanks, many]
      · rw [← List.drop_drop, dropped, shape, ← List.drop_drop]
        exact drop_takeWhile isBlank rest
    · exact .inr ⟨by simp [equals], by simp [dropped, shape, seq, char, one, equals]⟩

theorem optionValueHere_eq (option : Pattern) (t : Text) :
    optionValueHere option t = (option t).bind fun n => assignedValue (t.drop n) := by
  rw [optionValueHere, seq]
  cases option t with
  | none => rfl
  | some n =>
    rw [Option.bind_some, assignedValue]
    rcases equalsSign (t.drop n) with ⟨rest, m, sign, taken, dropped⟩ | ⟨noSign, nothing⟩
    · simp only [taken, sign, Option.map_some, ← List.drop_drop, dropped, Option.guard]
      cases (trimStart rest).takeWhile inOptionValue <;> simp
    · simp only [nothing, Option.map_none]

theorem optionValueHere_seq (p : Pattern) (ps : List Pattern) (t : Text) :
    optionValueHere (seq (p :: ps)) t = (p t).bind fun n => optionValueHere (seq ps) (t.drop n) := by
  rw [optionValueHere_eq, seq]
  cases p t with
  | none => rfl
  | some n =>
    dsimp only [Option.bind_some]
    rw [optionValueHere_eq]
    cases seq ps (t.drop n) with
    | none => rfl
    | some m => simp only [Option.map_some, Option.bind_some, List.drop_drop]

theorem seq_singleton (p : Pattern) : seq [p] = p := by
  funext t
  rw [seq]
  cases p t <;> rfl

theorem optionValueHere_any {ps : List Pattern} {t : Text}
    (silent : ∀ p ∈ ps, optionValueHere p t = none) : optionValueHere (any ps) t = none := by
  rw [optionValueHere_eq]
  cases taken : any ps t with
  | none => rfl
  | some n =>
    obtain ⟨p, member, found⟩ := List.exists_of_findSome?_eq_some taken
    have here := silent p member
    rw [optionValueHere_eq, found] at here
    exact here

theorem assignedValue_pad {left : Text} (blanksLeft : ∀ c ∈ left, isBlank c) (t : Text) :
    assignedValue (left ++ t) = assignedValue t := by
  rw [assignedValue, trimStart_pad blanksLeft, assignedValue]

theorem assignedValue_dark {c : Char} (dark : isBlank c = false) (other : c ≠ '=') (t : Text) :
    assignedValue (c :: t) = none := by
  have whole : trimStart (c :: t) = c :: t := trimStart_eq_self_iff.mpr (by simpa [StartsDark] using dark)
  simp [assignedValue, whole, other]

theorem assignedValue_equals {right v rest : Text} (blanksRight : ∀ c ∈ right, isBlank c) (solid : v ≠ [])
    (inside : ∀ c ∈ v, inOptionValue c) (ends : ∀ c ∈ rest.head?, inOptionValue c = false) :
    assignedValue ('=' :: (right ++ (v ++ rest))) = some v := by
  have whole : trimStart ('=' :: (right ++ (v ++ rest))) = '=' :: (right ++ (v ++ rest)) :=
    trimStart_eq_self_iff.mpr (by intro c first; cases first; decide)
  have dark : StartsDark (v ++ rest) :=
    startsDark_of_front solid
      (fun c first => isBlank_of_inOptionValue (inside c (List.mem_of_mem_head? first))) _
  simp [assignedValue, whole, trimStart_pad blanksRight, trimStart_eq_self_iff.mpr dark,
    takeWhile_append_stop inside ends, Option.guard, solid]

theorem assignedValue_sound {t v : Text} (found : assignedValue t = some v) :
    ∃ left right rest, t = left ++ '=' :: (right ++ (v ++ rest)) ∧ (∀ c ∈ left, isBlank c) ∧
      (∀ c ∈ right, isBlank c) ∧ v ≠ [] ∧ ∀ c ∈ v, inOptionValue c := by
  have blanks (u : Text) : ∀ c ∈ u.takeWhile isBlank, isBlank c := fun c member => List.mem_takeWhile_imp member
  rw [assignedValue] at found
  split at found
  · rename_i after sign
    simp only [Option.guard, decide_eq_true_eq, Option.ite_none_right_eq_some, Option.some.injEq] at found
    obtain ⟨solid, rfl⟩ := found
    refine ⟨t.takeWhile isBlank, after.takeWhile isBlank, (trimStart after).dropWhile inOptionValue, ?_,
      blanks t, blanks after, solid, fun c member => List.mem_takeWhile_imp member⟩
    rw [List.takeWhile_append_dropWhile, trimStart, List.takeWhile_append_dropWhile, ← sign, trimStart,
      List.takeWhile_append_dropWhile]
  · contradiction

def SpelledAs : List Text → Text → Prop
  | [], t => t = []
  | [w], t => t.map fold = w
  | w :: ws, t => ∃ first gap others, t = first ++ (gap ++ others) ∧ first.map fold = w ∧ gap ≠ [] ∧
      (∀ c ∈ gap, isBlank c) ∧ SpelledAs ws others

theorem keyword_sound {w t : Text} {n : Nat} (taken : keyword w t = some n) :
    ∃ name rest, t = name ++ rest ∧ name.length = n ∧ name.map fold = w := by
  rw [keyword, Option.ite_none_right_eq_some, Option.some.injEq] at taken
  obtain ⟨spelled, rfl⟩ := taken
  refine ⟨_, _, (List.take_append_drop w.length t).symm, ?_, spelled⟩
  rw [← List.length_map (f := fold), spelled]

theorem seq_cons_sound {p : Pattern} {ps : List Pattern} {t : Text} {n : Nat}
    (taken : seq (p :: ps) t = some n) :
    ∃ a b, p t = some a ∧ seq ps (t.drop a) = some b ∧ a + b = n := by
  rw [seq] at taken
  cases first : p t with
  | none => simp [first] at taken
  | some a =>
    rw [first] at taken
    obtain ⟨b, others, rfl⟩ := Option.map_eq_some_iff.mp taken
    exact ⟨a, b, rfl, others, rfl⟩

theorem blanks1_sound {t : Text} {n : Nat} (taken : blanks1 t = some n) :
    ∃ gap rest, t = gap ++ rest ∧ gap.length = n ∧ gap ≠ [] ∧ ∀ c ∈ gap, isBlank c := by
  obtain ⟨a, b, first, others, rfl⟩ := seq_cons_sound taken
  cases t with
  | nil => contradiction
  | cons c rest =>
    simp only [one, Option.ite_none_right_eq_some, Option.some.injEq] at first
    obtain ⟨blank, rfl⟩ := first
    obtain ⟨k, m, run, nothing, rfl⟩ := seq_cons_sound others
    cases run
    cases nothing
    refine ⟨c :: rest.takeWhile isBlank, rest.dropWhile isBlank, by simp, ?_, List.cons_ne_nil _ _, ?_⟩
    · simp [Nat.add_comm]
    · exact List.forall_mem_cons.mpr ⟨blank, fun d member => List.mem_takeWhile_imp member⟩

theorem keywords_sound {ws : List Text} {t : Text} {n : Nat} (taken : keywords ws t = some n) :
    ∃ name rest, t = name ++ rest ∧ name.length = n ∧ SpelledAs ws name := by
  induction ws generalizing t n with
  | nil =>
    cases taken
    exact ⟨[], t, rfl, rfl, rfl⟩
  | cons w ws ih =>
    cases ws with
    | nil => exact keyword_sound taken
    | cons v ws =>
      obtain ⟨a, _, first, afterFirst, rfl⟩ := seq_cons_sound taken
      obtain ⟨b, _, space, afterSpace, rfl⟩ := seq_cons_sound afterFirst
      obtain ⟨c, _, later, nothing, rfl⟩ := seq_cons_sound afterSpace
      cases nothing
      obtain ⟨name, t, rfl, rfl, spelled⟩ := keyword_sound first
      rw [List.drop_left] at space later
      obtain ⟨gap, t, rfl, rfl, solid, blanks⟩ := blanks1_sound space
      rw [List.drop_left] at later
      obtain ⟨others, t, rfl, rfl, spelledLater⟩ := ih later
      exact ⟨name ++ (gap ++ others), t, by simp, by simp,
        name, gap, others, rfl, spelled, solid, blanks, spelledLater⟩

theorem front_of_spelled {w name : Text} (solid : w ≠ []) (capitals : ∀ c ∈ w, isCapital c)
    (spelled : name.map fold = w) : ∃ c rest, name = c :: rest ∧ isWord c := by
  cases name with
  | nil => exact absurd spelled.symm solid
  | cons c rest =>
    subst spelled
    exact ⟨c, rest, rfl, isWord_of_fold (capitals _ List.mem_cons_self)⟩

theorem spelledAs_front {w : Text} {ws : List Text} {name : Text} (solid : w ≠ [])
    (capitals : ∀ c ∈ w, isCapital c) (spelled : SpelledAs (w :: ws) name) : ∃ c rest, name = c :: rest ∧ isWord c := by
  cases ws with
  | nil => exact front_of_spelled solid capitals spelled
  | cons v ws =>
    obtain ⟨first, gap, others, rfl, spelledFirst, _⟩ := spelled
    obtain ⟨c, rest, rfl, word⟩ := front_of_spelled solid capitals spelledFirst
    exact ⟨c, rest ++ (gap ++ others), rfl, word⟩

theorem takes_keywords {ws : List Text} (solid : ∀ w ∈ ws, w ≠ []) (capitals : ∀ w ∈ ws, ∀ c ∈ w, isCapital c)
    {name : Text} (spelled : SpelledAs ws name) (t : Text) : (keywords ws).Takes name t := by
  induction ws generalizing name with
  | nil =>
    cases spelled
    rfl
  | cons w ws ih =>
    cases ws with
    | nil => exact takes_keyword spelled t
    | cons v ws =>
      obtain ⟨first, gap, others, rfl, spelledFirst, solidGap, blanks, spelledLater⟩ := spelled
      have later := ih (fun w member => solid w (List.mem_cons_of_mem _ member))
        (fun w member => capitals w (List.mem_cons_of_mem _ member)) spelledLater
      have dark : StartsDark (others ++ t) := by
        obtain ⟨c, rest, rfl, word⟩ := spelledAs_front (solid v (by simp)) (capitals v (by simp)) spelledLater
        intro d first
        cases first
        exact isBlank_of_isWord word
      exact takes_keywords_cons spelledFirst solidGap blanks dark later

/-- At the front of the text stand a name of the option, an equals sign and the value. -/
def OptionAt (kind : OptionKind) (t v : Text) : Prop :=
  ∃ form ∈ kind.names, ∃ name left right rest, t = name ++ (left ++ '=' :: (right ++ (v ++ rest))) ∧
    SpelledAs form name ∧ (∀ c ∈ left, isBlank c) ∧ (∀ c ∈ right, isBlank c) ∧ v ≠ [] ∧
    ∀ c ∈ v, inOptionValue c

theorem pattern_eq_any (kind : OptionKind) : kind.pattern = any (kind.names.map keywords) := by
  have alone (w : Text) : keyword w = any [keywords [w]] := by
    funext t
    rw [any, List.findSome?_cons]
    have same : keywords [w] t = keyword w t := rfl
    rw [same]
    cases keyword w t <;> rfl
  cases kind with
  | engine => exact alone _
  | charset => rfl
  | collation => exact alone _

theorem optionValueHere_sound {kind : OptionKind} {t v : Text}
    (found : optionValueHere kind.pattern t = some v) : OptionAt kind t v := by
  rw [pattern_eq_any, optionValueHere_eq, Option.bind_eq_some_iff] at found
  obtain ⟨n, taken, assigned⟩ := found
  obtain ⟨p, member, matched⟩ := List.exists_of_findSome?_eq_some taken
  obtain ⟨form, known, rfl⟩ := List.mem_map.mp member
  obtain ⟨name, after, rfl, rfl, spelled⟩ := keywords_sound matched
  rw [List.drop_left] at assigned
  obtain ⟨left, right, rest, rfl, blanksLeft, blanksRight, solid, inside⟩ := assignedValue_sound assigned
  exact ⟨form, known, name, left, right, rest, rfl, spelled, blanksLeft, blanksRight, solid, inside⟩

theorem names_letters (kind : OptionKind) : ∀ form ∈ kind.names, ∀ w ∈ form, w ≠ [] ∧ ∀ c ∈ w, isCapital c := by
  cases kind <;> decide

theorem names_front (kind : OptionKind) {form : List Text} (known : form ∈ kind.names) {name : Text}
    (spelled : SpelledAs form name) : ∃ c rest, name = c :: rest ∧ isWord c := by
  have solid : ∀ form ∈ kind.names, form ≠ [] := by cases kind <;> decide
  obtain ⟨w, ws, rfl⟩ := List.exists_cons_of_ne_nil (solid form known)
  obtain ⟨solidWord, capitals⟩ := names_letters kind _ known w List.mem_cons_self
  exact spelledAs_front solidWord capitals spelled

theorem takes_pattern {kind : OptionKind} {form : List Text} (known : form ∈ kind.names) {name : Text}
    (spelled : SpelledAs form name) (t : Text) : kind.pattern.Takes name t := by
  have taken : (keywords form).Takes name t :=
    takes_keywords (fun w member => (names_letters kind form known w member).1)
      (fun w member => (names_letters kind form known w member).2) spelled t
  cases kind with
  | engine =>
    obtain rfl := List.mem_singleton.mp known
    exact taken
  | collation =>
    obtain rfl := List.mem_singleton.mp known
    exact taken
  | charset =>
    rw [Takes] at taken
    rcases List.mem_cons.mp known with rfl | second
    · rw [Takes, OptionKind.pattern, any, List.findSome?_cons, taken]
    · obtain rfl := List.mem_singleton.mp second
      have other : keywords ["CHARACTER", "SET"] (name ++ t) = none :=
        keywords_none_of_first (keyword_none_of_spelled spelled (by decide) t)
      have own : keyword "CHARSET" (name ++ t) = some name.length := taken
      rw [Takes, OptionKind.pattern, any, List.findSome?_cons, other, List.findSome?_cons, own]

theorem optionValueHere_complete {kind : OptionKind} {form : List Text} (known : form ∈ kind.names)
    {name left right v rest : Text} (spelled : SpelledAs form name) (blanksLeft : ∀ c ∈ left, isBlank c)
    (blanksRight : ∀ c ∈ right, isBlank c) (solid : v ≠ []) (inside : ∀ c ∈ v, inOptionValue c)
    (ends : ∀ c ∈ rest.head?, inOptionValue c = false) :
    optionValueHere kind.pattern (name ++ (left ++ '=' :: (right ++ (v ++ rest)))) = some v := by
  have taken := takes_pattern known spelled (left ++ '=' :: (right ++ (v ++ rest)))
  rw [Takes] at taken
  rw [optionValueHere_eq, taken, Option.bind_some, List.drop_left, assignedValue_pad blanksLeft,
    assignedValue_equals blanksRight solid inside ends]

section

variable {option : Pattern} {previous : Option Char}

theorem optionValueAfter_silent {c : Char} {t : Text} (silent : optionValueHere option (c :: t) = none) :
    optionValueAfter option previous (c :: t) = optionValueAfter option (some c) t := by
  rw [optionValueAfter, silent, ite_self, Option.none_or]

theorem optionValueAfter_passed {s t : Text}
    (silent : ∀ before c after, s = before ++ c :: after → (before.getLast?.or previous).any isWord = false →
      optionValueHere option (c :: (after ++ t)) = none) :
    optionValueAfter option previous (s ++ t) = optionValueAfter option (s.getLast?.or previous) t := by
  induction s generalizing previous with
  | nil => rfl
  | cons d others ih =>
    have here : (if previous.any isWord then none else optionValueHere option (d :: (others ++ t))) = none := by
      by_cases word : previous.any isWord
      · rw [if_pos word]
      · rw [if_neg word]
        exact silent [] d others rfl (by simpa using word)
    have later : optionValueAfter option (some d) (others ++ t) =
        optionValueAfter option (others.getLast?.or (some d)) t := ih fun before c after split apart =>
      silent (d :: before) c after (by rw [split]; rfl) (by
        rw [List.getLast?_cons, Option.some_or]
        cases last : before.getLast? <;> simpa [last] using apart)
    rw [List.cons_append, optionValueAfter, here, Option.none_or, later, List.getLast?_cons, Option.some_or]
    cases others.getLast? <;> rfl

theorem optionValueAfter_ne_none {before after : Text}
    (apart : (before.getLast?.or previous).any isWord = false)
    (found : optionValueHere option after ≠ none) (solid : after ≠ []) :
    optionValueAfter option previous (before ++ after) ≠ none := by
  induction before generalizing previous with
  | nil =>
    cases after with
    | nil => contradiction
    | cons c rest =>
      have free : ¬previous.any isWord := by simpa using apart
      rw [List.nil_append, optionValueAfter, if_neg free]
      simp [found]
  | cons d others ih =>
    have later : optionValueAfter option (some d) (others ++ after) ≠ none := ih (by
      rw [List.getLast?_cons, Option.some_or] at apart
      cases last : others.getLast? <;> simpa [last] using apart)
    rw [List.cons_append, optionValueAfter]
    simp [later]

end

/-- Where no word is running, the option is given a value in the text. -/
def Mentions (kind : OptionKind) (t : Text) : Prop :=
  ∃ before after v, t = before ++ after ∧ before.getLast?.any isWord = false ∧ OptionAt kind after v

/-- An option is found in a text if and only if it is mentioned there, quoted or not. -/
theorem optionValue_eq_none_iff {kind : OptionKind} {t : Text} :
    optionValue kind.pattern t = none ↔ ¬Mentions kind t := by
  constructor
  · rintro nothing ⟨before, after, v, rfl, apart, at_⟩
    obtain ⟨form, known, name, left, right, rest, rfl, spelled, blanksLeft, blanksRight, solid, inside⟩ := at_
    have whole : v ++ rest = (v ++ rest.takeWhile inOptionValue) ++ rest.dropWhile inOptionValue := by simp
    have insideWhole : ∀ c ∈ v ++ rest.takeWhile inOptionValue, inOptionValue c := by
      intro c member
      rcases List.mem_append.mp member with first | later
      · exact inside c first
      · exact List.mem_takeWhile_imp later
    have ends : ∀ c ∈ (rest.dropWhile inOptionValue).head?, inOptionValue c = false := by
      intro c first
      have stops := List.head?_dropWhile_not inOptionValue rest
      rw [Option.mem_def.mp first] at stops
      simpa using stops
    have solidWhole : v ++ rest.takeWhile inOptionValue ≠ [] := by simp [solid]
    have found := optionValueHere_complete known spelled blanksLeft blanksRight solidWhole insideWhole ends
    rw [← whole] at found
    exact optionValueAfter_ne_none (by simpa using apart) (by rw [found]; exact Option.some_ne_none _)
      (by simp) nothing
  · intro unmentioned
    have passed : optionValueAfter kind.pattern none (t ++ []) =
        optionValueAfter kind.pattern (t.getLast?.or none) [] :=
      optionValueAfter_passed fun before c after split apart => by
        apply Option.eq_none_iff_forall_ne_some.mpr
        intro v found
        apply unmentioned
        refine ⟨before, c :: after, v, split, by simpa using apart, ?_⟩
        rw [List.append_nil] at found
        exact optionValueHere_sound found
    rw [List.append_nil] at passed
    exact passed

instance (kind : OptionKind) (t : Text) : Decidable (Mentions kind t) :=
  decidable_of_iff (optionValue kind.pattern t ≠ none) (by rw [ne_eq, optionValue_eq_none_iff, not_not])

end SchemaDiff.Ddl
