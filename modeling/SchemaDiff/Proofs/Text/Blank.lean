import Mathlib.Data.List.Chain
import Mathlib.Data.List.TakeWhile
import SchemaDiff.Text.Blank

/-
Trimming and squeezing. A trimmed text neither begins nor ends with a blank; a tidy text has
isolated spaces as its only blanks. Trimming takes off exactly a padding of blanks, and squeezing
leaves exactly the tidy texts as they are.
-/
namespace SchemaDiff.Text

def StartsDark (t : Text) : Prop := ∀ c ∈ t.head?, isBlank c = false

def EndsDark (t : Text) : Prop := ∀ c ∈ t.getLast?, isBlank c = false

instance (t : Text) : Decidable (StartsDark t) := by unfold StartsDark; infer_instance

instance (t : Text) : Decidable (EndsDark t) := by unfold EndsDark; infer_instance

theorem trimStart_eq_self_iff {t : Text} : trimStart t = t ↔ StartsDark t := by
  cases t with
  | nil => simp [trimStart, StartsDark]
  | cons c rest =>
    constructor
    · intro same
      by_cases blank : isBlank c
      · have shorter := (List.dropWhile_sublist isBlank (l := rest)).length_le
        have length := congrArg List.length same
        simp only [trimStart, List.dropWhile_cons, blank, ↓reduceIte, List.length_cons] at length
        omega
      · simpa [StartsDark] using blank
    · intro dark
      have first : isBlank c = false := dark c rfl
      simp [trimStart, first]

theorem trimEnd_eq_self_iff {t : Text} : trimEnd t = t ↔ EndsDark t := by
  have mirrored : trimEnd t = t ↔ trimStart t.reverse = t.reverse := by
    simp [trimEnd, trimStart, List.reverse_eq_iff]
  rw [mirrored, trimStart_eq_self_iff]
  simp [StartsDark, EndsDark]

theorem trimStart_pad {pad t : Text} (blanks : ∀ c ∈ pad, isBlank c) :
    trimStart (pad ++ t) = trimStart t :=
  List.dropWhile_append_of_pos blanks

theorem trimEnd_pad {pad t : Text} (blanks : ∀ c ∈ pad, isBlank c) :
    trimEnd (t ++ pad) = trimEnd t := by
  have reversed : ∀ c ∈ pad.reverse, isBlank c := by simpa using blanks
  simp only [trimEnd, List.reverse_append, List.dropWhile_append_of_pos reversed]

theorem endsDark_append {s t : Text} (solid : t ≠ []) : EndsDark (s ++ t) ↔ EndsDark t := by
  simp [EndsDark, solid]

theorem endsDark_both {s t : Text} (first : EndsDark s) (second : EndsDark t) : EndsDark (s ++ t) := by
  by_cases empty : t = []
  · rwa [empty, List.append_nil]
  · exact (endsDark_append empty).mpr second

theorem startsDark_append {s t : Text} (solid : s ≠ []) : StartsDark (s ++ t) ↔ StartsDark s := by
  simp [StartsDark, solid]

theorem startsDark_of_front {s : Text} (solid : s ≠ []) (dark : StartsDark s) (t : Text) :
    StartsDark (s ++ t) :=
  (startsDark_append solid).mpr dark

theorem startsDark_intercalate {separator : Text} {pieces : List Text} (someSolid : pieces ≠ [])
    (all : ∀ p ∈ pieces, p ≠ [] ∧ StartsDark p) : StartsDark (separator.intercalate pieces) := by
  cases pieces with
  | nil => contradiction
  | cons p others =>
    obtain ⟨solid, dark⟩ := all p List.mem_cons_self
    cases others with
    | nil => rwa [List.intercalate_singleton]
    | cons q others =>
      rw [List.intercalate_cons_cons, List.append_assoc]
      exact startsDark_of_front solid dark _

theorem endsDark_intercalate {separator : Text} {pieces : List Text} (someSolid : pieces ≠ [])
    (all : ∀ p ∈ pieces, p ≠ [] ∧ EndsDark p) :
    separator.intercalate pieces ≠ [] ∧ EndsDark (separator.intercalate pieces) := by
  induction pieces with
  | nil => contradiction
  | cons p others ih =>
    have first := all p List.mem_cons_self
    cases others with
    | nil => rwa [List.intercalate_singleton]
    | cons q others =>
      have later := ih (by simp) fun r member => all r (List.mem_cons_of_mem p member)
      rw [List.intercalate_cons_cons]
      refine ⟨by simp [later.1], ?_⟩
      rw [List.append_assoc, ← List.append_assoc]
      exact (endsDark_append later.1).mpr later.2

theorem endsDark_drop {s : Text} (last : EndsDark s) (n : Nat) : EndsDark (s.drop n) := by
  by_cases empty : s.drop n = []
  · rw [empty]
    simp [EndsDark]
  · rw [← List.take_append_drop n s] at last
    exact (endsDark_append empty).mp last

theorem drop_takeWhile {α : Type} (p : α → Bool) (t : List α) :
    t.drop (t.takeWhile p).length = t.dropWhile p := by
  conv => lhs; rhs; rw [← List.takeWhile_append_dropWhile (p := p) (l := t)]
  exact List.drop_left

theorem endsDark_trimStart {t : Text} (last : EndsDark t) : EndsDark (trimStart t) := by
  rw [trimStart, ← drop_takeWhile]
  exact endsDark_drop last _

theorem trim_eq_of_dark {t : Text} (first : StartsDark t) (last : EndsDark t) : trim t = t := by
  rw [trim, trimStart_eq_self_iff.mpr first, trimEnd_eq_self_iff.mpr last]

theorem trim_eq_self_iff {t : Text} : trim t = t ↔ StartsDark t ∧ EndsDark t := by
  constructor
  · intro same
    have inner : (trimStart t).length ≤ t.length := (List.dropWhile_sublist isBlank).length_le
    have outer : (trim t).length ≤ (trimStart t).length := by
      have := (List.dropWhile_sublist isBlank (l := (trimStart t).reverse)).length_le
      simpa [trim, trimEnd] using this
    have length : (trimStart t).length = t.length := by
      have := congrArg List.length same
      omega
    have start : trimStart t = t := (List.dropWhile_sublist isBlank).eq_of_length length
    rw [trim, start] at same
    exact ⟨trimStart_eq_self_iff.mp start, trimEnd_eq_self_iff.mp same⟩
  · intro dark
    exact trim_eq_of_dark dark.1 dark.2

theorem trim_intercalate {separator : Text} {pieces : List Text} (someSolid : pieces ≠ [])
    (all : ∀ p ∈ pieces, p ≠ [] ∧ trim p = p) :
    trim (separator.intercalate pieces) = separator.intercalate pieces := by
  apply trim_eq_of_dark
  · exact startsDark_intercalate someSolid fun p member =>
      ⟨(all p member).1, (trim_eq_self_iff.mp (all p member).2).1⟩
  · exact (endsDark_intercalate someSolid fun p member =>
      ⟨(all p member).1, (trim_eq_self_iff.mp (all p member).2).2⟩).2

theorem startsDark_of_isPrefix {s t : Text} (front : s <+: t) (dark : StartsDark t) : StartsDark s := by
  obtain ⟨u, rfl⟩ := front
  by_cases empty : s = []
  · simp [empty, StartsDark]
  · exact (startsDark_append empty).mp dark

theorem trimEnd_isPrefix (t : Text) : trimEnd t <+: t := by
  rw [trimEnd, ← List.reverse_suffix, List.reverse_reverse]
  exact List.dropWhile_suffix isBlank

theorem trim_isInfix (t : Text) : trim t <:+: t :=
  (trimEnd_isPrefix _).isInfix.trans (List.dropWhile_suffix isBlank).isInfix

theorem startsDark_trimStart (t : Text) : StartsDark (trimStart t) := by
  induction t with
  | nil => simp [trimStart, StartsDark]
  | cons c rest ih =>
    by_cases blank : isBlank c
    · simpa [trimStart, blank] using ih
    · simp [trimStart, blank, StartsDark]

theorem dark_trim (t : Text) : StartsDark (trim t) ∧ EndsDark (trim t) := by
  constructor
  · exact startsDark_of_isPrefix (trimEnd_isPrefix _) (startsDark_trimStart t)
  · have mirrored : StartsDark ((trimStart t).reverse.dropWhile isBlank) := startsDark_trimStart _
    simpa [EndsDark, trim, trimEnd, StartsDark] using mirrored

theorem trimEnd_split (t : Text) :
    ∃ pad, (∀ c ∈ pad, isBlank c) ∧ t = trimEnd t ++ pad ∧ EndsDark (trimEnd t) := by
  refine ⟨(t.reverse.takeWhile isBlank).reverse, ?_, ?_, ?_⟩
  · intro c member
    exact List.mem_takeWhile_imp (List.mem_reverse.mp member)
  · rw [trimEnd, ← List.reverse_append, List.takeWhile_append_dropWhile, List.reverse_reverse]
  · have mirrored : StartsDark (t.reverse.dropWhile isBlank) := startsDark_trimStart _
    simpa [EndsDark, trimEnd, StartsDark] using mirrored

theorem trimEnd_append_of_endsDark {s : Text} (dark : EndsDark s) (t : Text) :
    trimEnd (s ++ t) = s ++ trimEnd t := by
  obtain ⟨pad, blanks, split, last⟩ := trimEnd_split t
  conv => lhs; rw [split, ← List.append_assoc]
  rw [trimEnd_pad blanks, trimEnd_eq_self_iff.mpr (endsDark_both dark last)]

theorem trimEnd_cons (c : Char) (t : Text) :
    trimEnd (c :: t) = if isBlank c ∧ trimEnd t = [] then [] else c :: trimEnd t := by
  rw [trimEnd, List.reverse_cons, List.dropWhile_append]
  by_cases nothing : t.reverse.dropWhile isBlank = []
  · by_cases space : isBlank c <;> simp [trimEnd, nothing, space]
  · simp [trimEnd, nothing]

theorem trimEnd_cons_of_dark {c : Char} (dark : isBlank c = false) (t : Text) :
    trimEnd (c :: t) = c :: trimEnd t := by
  simp [trimEnd_cons, dark]

theorem trim_pad {s t u : Text} (blanksBefore : ∀ c ∈ s, isBlank c)
    (blanksAfter : ∀ c ∈ u, isBlank c) (trimmed : trim t = t) : trim (s ++ t ++ u) = t := by
  obtain ⟨first, last⟩ := trim_eq_self_iff.mp trimmed
  rw [List.append_assoc, trim, trimStart_pad blanksBefore]
  cases t with
  | nil =>
    have nothing : trimStart u = [] := by
      simpa [trimStart] using trimStart_pad blanksAfter (t := [])
    simp [nothing, trimEnd]
  | cons c rest =>
    have solid : c :: rest ≠ [] := List.cons_ne_nil c rest
    have start : trimStart (c :: rest ++ u) = c :: rest ++ u :=
      trimStart_eq_self_iff.mpr ((startsDark_append solid).mpr first)
    rw [start, trimEnd_pad blanksAfter, trimEnd_eq_self_iff.mpr last]

theorem trim_cons {t : Text} {b : Char} (blank : isBlank b) : trim (b :: t) = trim t := by
  simp [trim, trimStart, blank]

theorem trim_concat {t : Text} {b : Char} (blank : isBlank b) : trim (t ++ [b]) = trim t := by
  rw [trim, trim, trimStart, List.dropWhile_append]
  split
  · rename_i empty
    have nothing : t.dropWhile isBlank = [] := List.isEmpty_iff.mp empty
    simp [trimStart, nothing, blank]
  · exact trimEnd_pad (by simpa using blank)

/-- A text whose only blanks are isolated spaces. -/
def Tidy (t : Text) : Prop := squeeze t = t

instance (t : Text) : Decidable (Tidy t) := inferInstanceAs (Decidable (_ = _))

theorem squeezeAfter_of_startsDark {t : Text} (dark : StartsDark t) (blank : Bool) :
    squeezeAfter blank t = squeeze t := by
  cases t with
  | nil => rfl
  | cons c rest =>
    have first : isBlank c = false := dark c rfl
    simp [squeeze, squeezeAfter, first]

theorem squeezeAfter_append {t u : Text} (dark : StartsDark u) (blank : Bool) :
    squeezeAfter blank (t ++ u) = squeezeAfter blank t ++ squeeze u := by
  induction t generalizing blank with
  | nil => exact squeezeAfter_of_startsDark dark blank
  | cons c rest ih =>
    simp only [List.cons_append, squeezeAfter, ih]
    split
    · split <;> rfl
    · rfl

theorem squeeze_append_of_startsDark {t u : Text} (dark : StartsDark u) :
    squeeze (t ++ u) = squeeze t ++ squeeze u := squeezeAfter_append dark false

theorem squeezeAfter_append_of_endsDark {t : Text} (solid : t ≠ []) (dark : EndsDark t) (u : Text)
    (blank : Bool) : squeezeAfter blank (t ++ u) = squeezeAfter blank t ++ squeeze u := by
  induction t generalizing blank with
  | nil => contradiction
  | cons c rest ih =>
    rcases rest with _ | ⟨d, rest⟩
    · have last : isBlank c = false := dark c rfl
      simp [squeezeAfter, squeeze, last]
    · have later := ih (List.cons_ne_nil d rest) dark
      rw [List.cons_append, squeezeAfter, squeezeAfter]
      simp only [later]
      split
      · split <;> rfl
      · rfl

theorem squeeze_append_of_endsDark {t : Text} (dark : EndsDark t) (u : Text) :
    squeeze (t ++ u) = squeeze t ++ squeeze u := by
  by_cases empty : t = []
  · subst empty
    rfl
  · exact squeezeAfter_append_of_endsDark empty dark u false

theorem tidy_append {t u : Text} (dark : EndsDark t) (first : Tidy t) (second : Tidy u) :
    Tidy (t ++ u) := by
  rw [Tidy, squeeze_append_of_endsDark dark, show squeeze t = t from first,
    show squeeze u = u from second]

theorem tidy_of_dark {t : Text} (dark : ∀ c ∈ t, isBlank c = false) : Tidy t := by
  induction t with
  | nil => rfl
  | cons c rest ih =>
    have first := dark c List.mem_cons_self
    have later := ih fun d member => dark d (List.mem_cons_of_mem c member)
    rw [Tidy, squeeze, squeezeAfter, first]
    exact congrArg (c :: ·) later

theorem squeeze_intercalate {separator : Text} {pieces : List Text}
    (all : ∀ p ∈ pieces, p ≠ [] ∧ StartsDark p ∧ EndsDark p) :
    squeeze (separator.intercalate pieces) =
      (squeeze separator).intercalate (pieces.map squeeze) := by
  induction pieces with
  | nil => rfl
  | cons p others ih =>
    have first := all p List.mem_cons_self
    cases others with
    | nil => simp only [List.map_cons, List.map_nil, List.intercalate_singleton]
    | cons q others =>
      have allLater : ∀ r ∈ q :: others, r ≠ [] ∧ StartsDark r ∧ EndsDark r :=
        fun r member => all r (List.mem_cons_of_mem p member)
      have dark : StartsDark (separator.intercalate (q :: others)) :=
        startsDark_intercalate (List.cons_ne_nil q others) fun r member =>
          ⟨(allLater r member).1, (allLater r member).2.1⟩
      have later := ih allLater
      rw [List.map_cons] at later
      rw [List.map_cons, List.map_cons, List.intercalate_cons_cons, List.intercalate_cons_cons,
        squeeze_append_of_startsDark dark, squeeze_append_of_endsDark first.2.2, later]

theorem head?_squeeze {q : Char} (dark : isBlank q = false) {t : Text}
    (first : (squeeze t).head? = some q) : t.head? = some q := by
  cases t with
  | nil => exact first
  | cons c rest =>
    rw [squeeze, squeezeAfter] at first
    by_cases blank : isBlank c
    · obtain rfl : ' ' = q := by simpa [blank] using first
      cases dark
    · simpa [blank] using first

theorem length_squeezeAfter (blank : Bool) (t : Text) : (squeezeAfter blank t).length ≤ t.length := by
  induction t generalizing blank with
  | nil => exact Nat.le_refl 0
  | cons c rest ih =>
    have fromBlank := ih true
    have fromDark := ih false
    simp only [squeezeAfter, List.length_cons]
    split
    · split
      · omega
      · simp only [List.length_cons]
        omega
    · simp only [List.length_cons]
      omega

/-- The only blanks are spaces, and no two of them are side by side. -/
structure Isolated (t : Text) : Prop where
  spaces : ∀ c ∈ t, isBlank c → c = ' '
  apart : t.IsChain fun c d => ¬(isBlank c ∧ isBlank d)

theorem isolated_nil : Isolated [] := by
  constructor <;> simp

theorem isolated_cons {c : Char} {rest : Text} : Isolated (c :: rest) ↔
    (isBlank c → c = ' ' ∧ StartsDark rest) ∧ Isolated rest := by
  have next : (c :: rest).IsChain (fun c d => ¬(isBlank c ∧ isBlank d)) ↔
      (isBlank c → StartsDark rest) ∧ rest.IsChain fun c d => ¬(isBlank c ∧ isBlank d) := by
    cases rest with
    | nil => simp [StartsDark]
    | cons d others => simp [List.isChain_cons_cons, StartsDark]
  constructor
  · rintro ⟨spaces, apart⟩
    obtain ⟨dark, apartRest⟩ := next.mp apart
    exact ⟨fun blank => ⟨spaces c List.mem_cons_self blank, dark blank⟩,
      fun d member => spaces d (List.mem_cons_of_mem c member), apartRest⟩
  · rintro ⟨first, spaces, apart⟩
    refine ⟨?_, next.mpr ⟨fun blank => (first blank).2, apart⟩⟩
    intro d member blank
    rcases List.mem_cons.mp member with rfl | later
    · exact (first blank).1
    · exact spaces d later blank

theorem squeezeAfter_eq_self_iff {blank : Bool} {t : Text} :
    squeezeAfter blank t = t ↔ (blank → StartsDark t) ∧ Isolated t := by
  induction t generalizing blank with
  | nil => simp [squeezeAfter, StartsDark, isolated_nil]
  | cons c rest ih =>
    rw [isolated_cons, squeezeAfter]
    by_cases isSpace : isBlank c
    · cases blank with
      | true =>
        have shorter := length_squeezeAfter true rest
        simp only [isSpace, ↓reduceIte, StartsDark, List.head?_cons]
        constructor
        · intro same
          have lengths := congrArg List.length same
          rw [List.length_cons] at lengths
          omega
        · intro dark
          simp [isSpace] at dark
      | false =>
        simp only [isSpace, ↓reduceIte, Bool.false_eq_true, List.cons.injEq, ih]
        constructor
        · rintro ⟨rfl, dark, isolated⟩
          exact ⟨by simp, fun _ => ⟨rfl, dark trivial⟩, isolated⟩
        · rintro ⟨_, first, isolated⟩
          exact ⟨(first trivial).1.symm, fun _ => (first trivial).2, isolated⟩
    · have dark : StartsDark (c :: rest) := by simpa [StartsDark] using isSpace
      simp [isSpace, ih, dark]

theorem tidy_iff_isolated {t : Text} : Tidy t ↔ Isolated t := by
  rw [Tidy, squeeze, squeezeAfter_eq_self_iff]
  simp

theorem tidy_of_isInfix {s t : Text} (part : s <:+: t) (tidy : Tidy t) : Tidy s := by
  rw [tidy_iff_isolated] at tidy ⊢
  exact ⟨fun c member => tidy.spaces c (part.subset member), tidy.apart.infix part⟩

theorem startsDark_squeezeAfter (t : Text) : StartsDark (squeezeAfter true t) := by
  induction t with
  | nil => simp [squeezeAfter, StartsDark]
  | cons c rest ih =>
    by_cases isSpace : isBlank c
    · simpa [squeezeAfter, isSpace] using ih
    · simp [squeezeAfter, isSpace, StartsDark]

theorem tidy_squeezeAfter (blank : Bool) (t : Text) : Tidy (squeezeAfter blank t) := by
  induction t generalizing blank with
  | nil => rfl
  | cons c rest ih =>
    simp only [tidy_iff_isolated] at ih ⊢
    by_cases isSpace : isBlank c
    · cases blank with
      | true => simpa [squeezeAfter, isSpace] using ih true
      | false =>
        simp only [squeezeAfter, isSpace, ↓reduceIte, Bool.false_eq_true]
        exact isolated_cons.mpr ⟨fun _ => ⟨rfl, startsDark_squeezeAfter rest⟩, ih true⟩
    · simp only [squeezeAfter, isSpace, ↓reduceIte, Bool.false_eq_true]
      exact isolated_cons.mpr ⟨fun blank => absurd blank isSpace, ih false⟩

theorem tidy_squeeze (t : Text) : Tidy (squeeze t) := tidy_squeezeAfter false t

def darkOnly (t : Text) : Text := t.filter fun c => !isBlank c

theorem darkOnly_eq_nil {t : Text} : darkOnly t = [] ↔ ∀ c ∈ t, isBlank c := by
  simp [darkOnly, List.filter_eq_nil_iff]

theorem darkOnly_squeezeAfter (blank : Bool) (t : Text) : darkOnly (squeezeAfter blank t) = darkOnly t := by
  have space : isBlank ' ' := by decide
  induction t generalizing blank with
  | nil => rfl
  | cons c rest ih =>
    simp only [darkOnly] at ih ⊢
    by_cases isSpace : isBlank c
    · cases blank with
      | true => simp [squeezeAfter, isSpace, ih]
      | false => simp [squeezeAfter, isSpace, space, ih]
    · simp [squeezeAfter, isSpace, ih]

theorem not_mem_squeeze {c : Char} (dark : isBlank c = false) {t : Text} (absent : c ∉ t) :
    c ∉ squeeze t := by
  intro member
  have kept : c ∈ darkOnly (squeeze t) := List.mem_filter.mpr ⟨member, by simp [dark]⟩
  rw [squeeze, darkOnly_squeezeAfter] at kept
  exact absent (List.mem_of_mem_filter kept)

theorem darkOnly_trimStart (t : Text) : darkOnly (trimStart t) = darkOnly t := by
  induction t with
  | nil => rfl
  | cons c rest ih =>
    by_cases blank : isBlank c
    · simpa [trimStart, darkOnly, blank] using ih
    · simp [trimStart, blank]

theorem darkOnly_trim (t : Text) : darkOnly (trim t) = darkOnly t := by
  have back : darkOnly (trimEnd (trimStart t)) = darkOnly (trimStart t) := by
    have mirrored := darkOnly_trimStart (trimStart t).reverse
    rw [darkOnly, darkOnly, List.filter_reverse] at mirrored
    rw [trimEnd, darkOnly, List.filter_reverse, ← trimStart, mirrored, List.reverse_reverse, darkOnly]
  rw [trim, back, darkOnly_trimStart]

theorem head?_darkOnly {t : Text} (dark : StartsDark t) : (darkOnly t).head? = t.head? := by
  cases t with
  | nil => rfl
  | cons c rest =>
    have first : isBlank c = false := dark c rfl
    simp [darkOnly, first]

theorem getLast?_darkOnly {t : Text} (dark : EndsDark t) : (darkOnly t).getLast? = t.getLast? := by
  rcases List.eq_nil_or_concat t with rfl | ⟨front, c, rfl⟩
  · rfl
  · have last : isBlank c = false := dark c (by simp)
    simp [darkOnly, last]

theorem trim_split (t : Text) : ∃ before after : Text,
    (∀ c ∈ before, isBlank c) ∧ (∀ c ∈ after, isBlank c) ∧ t = before ++ (trim t ++ after) := by
  have blanks (u : Text) : ∀ c ∈ u.takeWhile isBlank, isBlank c := fun c member =>
    List.mem_takeWhile_imp member
  refine ⟨t.takeWhile isBlank, ((trimStart t).reverse.takeWhile isBlank).reverse, blanks t, ?_, ?_⟩
  · intro c member
    exact blanks _ c (List.mem_reverse.mp member)
  · have back : trimEnd (trimStart t) ++ ((trimStart t).reverse.takeWhile isBlank).reverse = trimStart t := by
      rw [trimEnd, ← List.reverse_append, List.takeWhile_append_dropWhile, List.reverse_reverse]
    rw [trim, back]
    exact (List.takeWhile_append_dropWhile).symm

theorem blanks_squeeze {t : Text} (blanks : ∀ c ∈ t, isBlank c) : ∀ c ∈ squeeze t, isBlank c := by
  rw [← darkOnly_eq_nil] at blanks ⊢
  rw [squeeze, darkOnly_squeezeAfter, blanks]

theorem trim_squeeze_of_dark {t : Text} (first : StartsDark t) (last : EndsDark t) :
    trim (squeeze t) = squeeze t := by
  apply trim_eq_of_dark
  · cases t with
    | nil => exact first
    | cons c rest =>
      have dark : isBlank c = false := first c rfl
      simp [squeeze, squeezeAfter, dark, StartsDark]
  · rcases List.eq_nil_or_concat t with rfl | ⟨front, c, rfl⟩
    · exact last
    · have dark : isBlank c = false := last c (by simp)
      have single : StartsDark [c] := by simpa [StartsDark] using dark
      rw [List.concat_eq_append, squeeze_append_of_startsDark single]
      simp [squeeze, squeezeAfter, dark, EndsDark]

theorem trim_squeeze (t : Text) : trim (squeeze t) = squeeze (trim t) := by
  obtain ⟨before, after, blanksBefore, blanksAfter, split⟩ := trim_split t
  obtain ⟨first, last⟩ := dark_trim t
  by_cases empty : trim t = []
  · have blanks : ∀ c ∈ t, isBlank c := by
      rw [← darkOnly_eq_nil, ← darkOnly_trim, empty]
      rfl
    have nothing : trim (squeeze t ++ [] ++ []) = [] := trim_pad (blanks_squeeze blanks) (by simp) rfl
    rw [List.append_nil, List.append_nil] at nothing
    rw [empty, nothing]
    rfl
  · have parts : squeeze t = squeeze before ++ squeeze (trim t) ++ squeeze after := by
      have solid := startsDark_of_front empty first after
      rw [List.append_assoc, ← squeeze_append_of_endsDark last, ← squeeze_append_of_startsDark solid,
        ← split]
    rw [parts]
    exact trim_pad (blanks_squeeze blanksBefore) (blanks_squeeze blanksAfter)
      (trim_squeeze_of_dark first last)

theorem map_squeeze {pieces : List Text} (all : ∀ p ∈ pieces, Tidy p) :
    pieces.map squeeze = pieces := by
  rw [List.map_congr_left (g := id) all, List.map_id]

end SchemaDiff.Text
