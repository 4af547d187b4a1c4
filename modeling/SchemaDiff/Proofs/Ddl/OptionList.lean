import SchemaDiff.Proofs.Ddl.DefinitionWords
import SchemaDiff.Proofs.Ddl.OptionAbsence

/-
Lists of options. Of the items of such a list, each option gets what the first item gives that gives anything:
an option of that name with an equals sign and a value, or a comment in which such an option is mentioned. So
comments that mention no option do not count.
-/
namespace SchemaDiff.Ddl
open SchemaDiff.Text SchemaDiff.Text.Pattern SchemaDiff.Sql

/-- The characters of a value that is read back wherever it stands. -/
structure OptionValue (v : Text) : Prop where
  solid : v ≠ []
  inside : ∀ c ∈ v, inOptionValue c
  plain : ∀ c ∈ v, isPlain c
  noEquals : '=' ∉ v

instance (v : Text) : Decidable (OptionValue v) :=
  decidable_of_iff (v ≠ [] ∧ (∀ c ∈ v, inOptionValue c) ∧ (∀ c ∈ v, isPlain c) ∧ '=' ∉ v)
    ⟨fun h => ⟨h.1, h.2.1, h.2.2.1, h.2.2.2⟩, fun h => ⟨h.solid, h.inside, h.plain, h.noEquals⟩⟩

theorem dark_of_optionValue {v : Text} (valid : OptionValue v) : ∀ c ∈ v, isBlank c = false :=
  fun c member => isBlank_of_inOptionValue (valid.inside c member)

inductive OptionItem where
  | given (kind : OptionKind) (default : Option Text) (name : List Text) (left right value : Text)
  | other (name left right value : Text)
  | comment (name left right literal : Text)
  | bare (text : Text)
deriving DecidableEq, Repr

def soughtWords : List Text := ["ENGINE", "CHARSET", "COLLATE", "SET"]

namespace OptionItem

def text : OptionItem → Text
  | given _ default name left right value =>
    [' '].intercalate (default.toList ++ name) ++ (left ++ '=' :: (right ++ value))
  | other name left right value | comment name left right value => name ++ (left ++ '=' :: (right ++ value))
  | bare text => text

def Valid : OptionItem → Prop
  | given kind default name left right value =>
    (∀ d ∈ default, d.map fold = "DEFAULT") ∧ name.map (·.map fold) ∈ kind.names ∧
      (∀ c ∈ left, isBlank c) ∧ (∀ c ∈ right, isBlank c) ∧ OptionValue value
  | other name left right value =>
    name ≠ [] ∧ (∀ c ∈ name, isWord c) ∧ name.map fold ∉ soughtWords ∧
      (∀ c ∈ left, isBlank c) ∧ (∀ c ∈ right, isBlank c) ∧ OptionValue value
  | comment name left right literal =>
    name.map fold = "COMMENT" ∧ (∀ c ∈ left, isBlank c) ∧ (∀ c ∈ right, isBlank c) ∧ Quoted literal
  | bare text => text ≠ [] ∧ StartsDark text ∧ EndsDark text ∧ '=' ∉ text

instance : DecidablePred Valid
  | given _ _ _ _ _ _ | other _ _ _ _ | comment _ _ _ _ | bare _ => inferInstanceAs (Decidable (_ ∧ _))

def value? (kind : OptionKind) : OptionItem → Option Text
  | given k _ _ _ _ value => if k = kind then some value else none
  | other _ _ _ _ | comment _ _ _ _ | bare _ => none

/-- What is found in the item, be it in the literal of a comment. -/
def found (kind : OptionKind) : OptionItem → Option Text
  | comment _ _ _ literal => optionValue kind.pattern literal
  | item => item.value? kind

def literal? : OptionItem → Option Text
  | comment _ _ _ literal => some literal
  | given _ _ _ _ _ _ | other _ _ _ _ | bare _ => none

def withoutLiteral : OptionItem → OptionItem
  | comment name left right _ => comment name left right []
  | item => item

end OptionItem

def itemsText (items : List (Text × OptionItem)) : Text := items.flatMap fun item => item.1 ++ item.2.text

theorem itemsText_append (items others : List (Text × OptionItem)) :
    itemsText (items ++ others) = itemsText items ++ itemsText others :=
  List.flatMap_append

/-- Blanks stand in front of an item, and without any only in front of the first. -/
structure OptionItems (items : List (Text × OptionItem)) : Prop where
  valid : ∀ item ∈ items, item.2.Valid
  blanks : ∀ item ∈ items, ∀ c ∈ item.1, isBlank c
  apart : ∀ item ∈ items.tail, item.1 ≠ []

instance (items : List (Text × OptionItem)) : Decidable (OptionItems items) :=
  decidable_of_iff ((∀ item ∈ items, item.2.Valid) ∧ (∀ item ∈ items, ∀ c ∈ item.1, isBlank c) ∧
      ∀ item ∈ items.tail, item.1 ≠ [])
    ⟨fun h => ⟨h.1, h.2.1, h.2.2⟩, fun h => ⟨h.valid, h.blanks, h.apart⟩⟩

theorem OptionItems.tail {item : Text × OptionItem} {items : List (Text × OptionItem)}
    (listed : OptionItems (item :: items)) : OptionItems items where
  valid := fun next member => listed.valid next (List.mem_cons_of_mem _ member)
  blanks := fun next member => listed.blanks next (List.mem_cons_of_mem _ member)
  apart := fun next member => listed.apart next (List.mem_of_mem_tail member)

section

variable {kind : OptionKind} {previous : Option Char}

theorem optionValueAfter_words {words : List Text}
    (passed : ∀ w ∈ words, (∀ c ∈ w, isWord c) ∧ ∀ t, optionValueHere kind.pattern (w ++ t) = none)
    (previous : Option Char) (t : Text) :
    ∃ last, optionValueAfter kind.pattern previous ([' '].intercalate words ++ t) =
      optionValueAfter kind.pattern last t := by
  induction words generalizing previous with
  | nil => exact ⟨previous, rfl⟩
  | cons w others ih =>
    obtain ⟨word, silent⟩ := passed w List.mem_cons_self
    cases others with
    | nil =>
      rw [List.intercalate_singleton]
      exact ⟨_, optionValueAfter_word word (silent t) previous⟩
    | cons v others =>
      obtain ⟨last, later⟩ := ih (fun u member => passed u (List.mem_cons_of_mem w member)) (some ' ')
      refine ⟨last, ?_⟩
      rw [List.intercalate_cons_cons, List.append_assoc, List.append_assoc,
        optionValueAfter_word word (silent _), optionValueAfter_not_words (by decide)]
      exact later

theorem optionValueAfter_sign (kind : OptionKind) {left right : Text} (blanksLeft : ∀ c ∈ left, isBlank c)
    (blanksRight : ∀ c ∈ right, isBlank c) (previous : Option Char) (t : Text) :
    ∃ last, optionValueAfter kind.pattern previous (left ++ '=' :: (right ++ t)) =
      optionValueAfter kind.pattern last t := by
  have noWords : ∀ c ∈ left ++ '=' :: right, isWord c = false := by
    intro c member
    rcases List.mem_append.mp member with before | after
    · exact isWord_of_isBlank (blanksLeft c before)
    · rcases List.mem_cons.mp after with rfl | after
      · decide
      · exact isWord_of_isBlank (blanksRight c after)
  refine ⟨(left ++ '=' :: right).getLast?.or previous, ?_⟩
  rw [← optionValueAfter_not_words noWords, List.append_assoc, List.cons_append]

theorem isWord_of_spelled {w k : Text} (spelled : w.map fold = k) (capitals : ∀ c ∈ k, isCapital c) :
    ∀ c ∈ w, isWord c :=
  fun _ member => isWord_of_fold (capitals _ (spelled ▸ List.mem_map_of_mem member))

theorem spelledAs_intercalate (name : List Text) :
    SpelledAs (name.map (·.map fold)) ([' '].intercalate name) := by
  induction name with
  | nil => rfl
  | cons w others ih =>
    cases others with
    | nil =>
      rw [List.intercalate_singleton]
      exact rfl
    | cons v others =>
      refine ⟨w, [' '], [' '].intercalate (v :: others), ?_, rfl, by simp, by decide, ih⟩
      rw [List.intercalate_cons_cons, List.append_assoc]

theorem names_apart {k : OptionKind} (other : k ≠ kind) : ∀ words ∈ k.names, ∀ w ∈ words,
    ∀ form ∈ kind.names, ∀ h ∈ form.head?, ¬h <+: w ∧ ¬w <+: h := by
  revert other
  cases kind <;> cases k <;> decide

theorem default_apart (kind : OptionKind) :
    ∀ form ∈ kind.names, ∀ h ∈ form.head?, ¬h <+: lit "DEFAULT" ∧ ¬lit "DEFAULT" <+: h := by
  cases kind <;> decide

theorem comment_apart (kind : OptionKind) :
    ∀ form ∈ kind.names, ∀ h ∈ form.head?, ¬h <+: lit "COMMENT" ∧ ¬lit "COMMENT" <+: h := by
  cases kind <;> decide

theorem optionValueAfter_own {name : List Text} (known : name.map (·.map fold) ∈ kind.names)
    {left right value rest : Text} (blanksLeft : ∀ c ∈ left, isBlank c) (blanksRight : ∀ c ∈ right, isBlank c)
    (valid : OptionValue value) (blank : ∀ c ∈ rest.head?, isBlank c) (apart : previous.any isWord = false) :
    optionValueAfter kind.pattern previous
      ([' '].intercalate name ++ (left ++ '=' :: (right ++ (value ++ rest)))) = some value := by
  have spelled := spelledAs_intercalate name
  have ends : ∀ c ∈ rest.head?, inOptionValue c = false :=
    fun c first => not_inOptionValue_of_isBlank (blank c first)
  have here := optionValueHere_complete known spelled blanksLeft blanksRight valid.solid valid.inside ends
  obtain ⟨c, more, shape, _⟩ := names_front kind known spelled
  have free : ¬previous.any isWord := by simpa using apart
  rw [shape] at here ⊢
  rw [List.cons_append, optionValueAfter, if_neg free, ← List.cons_append, here, Option.some_or]

theorem optionValueAfter_defaulted {default : Option Text} (isDefault : ∀ d ∈ default, d.map fold = "DEFAULT")
    {name : List Text} (known : name.map (·.map fold) ∈ kind.names) {left right value rest : Text}
    (blanksLeft : ∀ c ∈ left, isBlank c) (blanksRight : ∀ c ∈ right, isBlank c) (valid : OptionValue value)
    (blank : ∀ c ∈ rest.head?, isBlank c) (apart : previous.any isWord = false) :
    optionValueAfter kind.pattern previous
      ([' '].intercalate (default.toList ++ name) ++ (left ++ '=' :: (right ++ (value ++ rest)))) =
        some value := by
  cases default with
  | none => exact optionValueAfter_own known blanksLeft blanksRight valid blank apart
  | some d =>
    have spelled := isDefault d rfl
    have word := isWord_of_spelled spelled (by decide)
    have solid : name ≠ [] := by
      rintro rfl
      cases kind <;> exact absurd known (by decide)
    have space : ([' '].getLast?.or (d.getLast?.or previous)).any isWord = false := rfl
    obtain ⟨w, ws, rfl⟩ := List.exists_cons_of_ne_nil solid
    rw [Option.toList_some, List.singleton_append, List.intercalate_cons_cons, List.append_assoc,
      List.append_assoc, optionValueAfter_word word (optionValueHere_apart spelled (default_apart kind) _),
      optionValueAfter_not_words (by decide)]
    exact optionValueAfter_own known blanksLeft blanksRight valid blank space

theorem optionValueAfter_assigned {last : Option Char} {left right value rest : Text}
    (blanksLeft : ∀ c ∈ left, isBlank c) (blanksRight : ∀ c ∈ right, isBlank c) (valid : OptionValue value)
    (follows : Follows rest) :
    optionValueAfter kind.pattern last (left ++ '=' :: (right ++ (value ++ rest))) =
      optionValue kind.pattern rest := by
  obtain ⟨_, passed⟩ := optionValueAfter_sign kind blanksLeft blanksRight last (value ++ rest)
  rw [passed]
  exact optionValueAfter_free valid.noEquals
    (fun c final => dark_of_optionValue valid c (List.mem_of_getLast? final)) follows _

theorem optionValueAfter_literal {literal rest : Text} (quoted : Quoted literal)
    (blank : ∀ c ∈ rest.head?, isBlank c) (last : Option Char) :
    optionValueAfter kind.pattern last (literal ++ rest) =
      (optionValue kind.pattern literal).or (optionValue kind.pattern rest) := by
  obtain ⟨q, body, quote, rfl, _⟩ := quoted_ends quoted
  have start : optionValueAfter kind.pattern last (q :: body ++ [q]) =
      optionValue kind.pattern (q :: body ++ [q]) := by
    have silent : optionValueHere kind.pattern (q :: (body ++ [q])) = none :=
      optionValueHere_not_word (isWord_of_isQuote quote) _
    rw [List.cons_append, optionValue, optionValueAfter_silent silent, optionValueAfter_silent silent]
  rw [← start, ← optionValueAfter_quote quote blank, List.append_assoc, List.singleton_append]

/-- Of an item and what follows it, the search finds what the item gives, or else goes on behind it. -/
theorem optionValue_item {item : OptionItem} (valid : item.Valid) {rest : Text} (follows : Follows rest) :
    optionValue kind.pattern (item.text ++ rest) = (item.found kind).or (optionValue kind.pattern rest) := by
  rw [optionValue]
  cases item with
  | bare text =>
    obtain ⟨_, _, last, noEquals⟩ := valid
    exact optionValueAfter_free noEquals last follows none
  | other name left right value =>
    obtain ⟨_, word, other, blanksLeft, blanksRight, validValue⟩ := valid
    have sought : ∀ k ∈ [lit "ENGINE", lit "CHARSET", lit "COLLATE"], k ∈ soughtWords := by decide
    have silent : optionValueHere kind.pattern (name ++ (left ++ '=' :: (right ++ (value ++ rest)))) = none :=
      optionValueHere_other word (fun k known same => other (same ▸ sought k known)) blanksLeft _
    have shape : (OptionItem.other name left right value).text ++ rest =
        name ++ (left ++ '=' :: (right ++ (value ++ rest))) := by simp [OptionItem.text]
    rw [shape, optionValueAfter_word word silent]
    exact optionValueAfter_assigned blanksLeft blanksRight validValue follows
  | comment name left right literal =>
    obtain ⟨spelled, blanksLeft, blanksRight, quoted⟩ := valid
    have word := isWord_of_spelled spelled (by decide)
    have silent := optionValueHere_apart spelled (comment_apart kind)
      (left ++ '=' :: (right ++ (literal ++ rest)))
    have shape : (OptionItem.comment name left right literal).text ++ rest =
        name ++ (left ++ '=' :: (right ++ (literal ++ rest))) := by simp [OptionItem.text]
    obtain ⟨last, passed⟩ := optionValueAfter_sign kind blanksLeft blanksRight (name.getLast?.or none)
      (literal ++ rest)
    rw [shape, optionValueAfter_word word silent, passed]
    exact optionValueAfter_literal quoted follows.blank last
  | given k default name left right value =>
    obtain ⟨isDefault, known, blanksLeft, blanksRight, validValue⟩ := valid
    have shape : (OptionItem.given k default name left right value).text ++ rest =
        [' '].intercalate (default.toList ++ name) ++ (left ++ '=' :: (right ++ (value ++ rest))) := by
      simp [OptionItem.text]
    rw [shape]
    by_cases own : k = kind
    · subst own
      have found : (OptionItem.given k default name left right value).found k = some value := if_pos rfl
      rw [found, Option.some_or]
      exact optionValueAfter_defaulted isDefault known blanksLeft blanksRight validValue follows.blank rfl
    · have nothing : (OptionItem.given k default name left right value).found kind = none := if_neg own
      have words : ∀ w ∈ default.toList ++ name,
          (∀ c ∈ w, isWord c) ∧ ∀ t, optionValueHere kind.pattern (w ++ t) = none := by
        intro w member
        rcases List.mem_append.mp member with front | inName
        · have spelled := isDefault w (Option.mem_toList.mp front)
          exact ⟨isWord_of_spelled spelled (by decide), optionValueHere_apart spelled (default_apart kind)⟩
        · have listed : w.map fold ∈ name.map (·.map fold) := List.mem_map_of_mem inName
          exact ⟨isWord_of_spelled rfl (names_letters k _ known _ listed).2,
            optionValueHere_apart rfl (names_apart own _ known _ listed)⟩
      obtain ⟨last, passed⟩ := optionValueAfter_words words none
        (left ++ '=' :: (right ++ (value ++ rest)))
      rw [nothing, Option.none_or, passed]
      exact optionValueAfter_assigned blanksLeft blanksRight validValue follows

def openingWords : List Text := ["DEFAULT", "ENGINE", "CHARACTER", "CHARSET", "COLLATE", "COMMENT"]

theorem openingWords_apart : ∀ k ∈ openingWords,
    k ≠ [] ∧ (∀ c ∈ k, isCapital c) ∧ ¬lit "SET" <+: k ∧ ¬k <+: lit "SET" := by decide

theorem opening_of_given {default : Option Text} (isDefault : ∀ d ∈ default, d.map fold = "DEFAULT")
    {name : List Text} (known : name.map (·.map fold) ∈ kind.names) :
    ∃ w t, [' '].intercalate (default.toList ++ name) = w ++ t ∧ w.map fold ∈ openingWords := by
  cases default with
  | some d =>
    refine ⟨d, _, intercalate_cons_spaced d name, ?_⟩
    rw [isDefault d rfl]
    decide
  | none =>
    have opening : ∀ form ∈ kind.names, form ≠ [] ∧ ∀ k ∈ form.head?, k ∈ openingWords := by
      cases kind <;> decide
    obtain ⟨solid, listed⟩ := opening _ known
    cases name with
    | nil => contradiction
    | cons w ws => exact ⟨w, _, intercalate_cons_spaced w ws, listed _ rfl⟩

theorem opening_of_valid {item : OptionItem} (valid : item.Valid) :
    (∃ w t, item.text = w ++ t ∧ w.map fold ∈ openingWords) ∨
      (∃ name left right value, item = .other name left right value) ∨ ∃ text, item = .bare text := by
  cases item with
  | bare text => exact .inr (.inr ⟨text, rfl⟩)
  | other name left right value => exact .inr (.inl ⟨name, left, right, value, rfl⟩)
  | comment name left right literal =>
    have listed : lit "COMMENT" ∈ openingWords := by decide
    exact .inl ⟨name, _, rfl, valid.1 ▸ listed⟩
  | given k default name left right value =>
    obtain ⟨w, t, shape, listed⟩ := opening_of_given valid.1 valid.2.1
    exact .inl ⟨w, t ++ (left ++ '=' :: (right ++ value)), by simp [OptionItem.text, shape], listed⟩

theorem front_of_valid {item : OptionItem} (valid : item.Valid) :
    ∃ c rest, item.text = c :: rest ∧ isBlank c = false ∧ c ≠ '=' := by
  have ofWord {c : Char} (word : isWord c) : isBlank c = false ∧ c ≠ '=' := by
    refine ⟨isBlank_of_isWord word, ?_⟩
    rintro rfl
    exact absurd word (by decide)
  rcases opening_of_valid valid with ⟨w, t, shape, listed⟩ | ⟨name, left, right, value, rfl⟩ | ⟨text, rfl⟩
  · obtain ⟨solid, capitals, _⟩ := openingWords_apart _ listed
    obtain ⟨c, others, rfl, word⟩ := front_of_spelled solid capitals rfl
    exact ⟨c, others ++ t, shape, ofWord word⟩
  · obtain ⟨solid, word, _⟩ := valid
    obtain ⟨c, others, rfl⟩ := List.exists_cons_of_ne_nil solid
    exact ⟨c, _, rfl, ofWord (word c List.mem_cons_self)⟩
  · obtain ⟨solid, dark, _, noEquals⟩ := valid
    obtain ⟨c, others, rfl⟩ := List.exists_cons_of_ne_nil solid
    refine ⟨c, others, rfl, dark c rfl, ?_⟩
    rintro rfl
    exact noEquals List.mem_cons_self

theorem optionValueHere_set {item : OptionItem} (valid : item.Valid) {rest : Text} (follows : Follows rest) :
    optionValueHere (keyword "SET") (item.text ++ rest) = none := by
  rcases opening_of_valid valid with ⟨w, t, shape, listed⟩ | ⟨name, left, right, value, rfl⟩ | ⟨text, rfl⟩
  · have other := keyword_none_of_spelled rfl (openingWords_apart _ listed).2.2 (t ++ rest)
    rw [shape, List.append_assoc, optionValueHere_eq, other, Option.bind_none]
  · obtain ⟨_, word, other, blanksLeft, _⟩ := valid
    have different : name.map fold ≠ lit "SET" := by
      intro same
      rw [same] at other
      exact other (by decide)
    have whole : (OptionItem.other name left right value).text ++ rest =
        name ++ (left ++ '=' :: (right ++ (value ++ rest))) := by simp [OptionItem.text]
    rw [whole]
    exact optionValueHere_keyword_other (by decide) word different (isWord_of_sign blanksLeft _)
  · obtain ⟨_, _, last, noEquals⟩ := valid
    exact optionValueHere_keyword_free (by decide) noEquals last follows.blank follows.unassigned

theorem follows_itemsText {items : List (Text × OptionItem)} (listed : OptionItems items)
    (apart : ∀ item ∈ items, item.1 ≠ []) : Follows (itemsText items) := by
  induction items with
  | nil => exact ⟨by simp [itemsText], rfl, rfl⟩
  | cons item items ih =>
    have follows := ih listed.tail fun next member => apart next (List.mem_cons_of_mem _ member)
    have blanks := listed.blanks item List.mem_cons_self
    have valid := listed.valid item List.mem_cons_self
    obtain ⟨b, gap, shape⟩ := List.exists_cons_of_ne_nil (apart item List.mem_cons_self)
    obtain ⟨c, more, text, dark, other⟩ := front_of_valid valid
    have split : itemsText (item :: items) = item.1 ++ (item.2.text ++ itemsText items) := by
      simp [itemsText]
    rw [split]
    refine ⟨?_, ?_, ?_⟩
    · intro d first
      rw [shape] at first
      cases first
      exact blanks _ (shape ▸ List.mem_cons_self)
    · rw [assignedValue_pad blanks, text]
      exact assignedValue_dark dark other _
    · have taken : blanks1.Takes item.1 (item.2.text ++ itemsText items) := by
        apply takes_many1 (apart item List.mem_cons_self) blanks
        intro d first
        rw [text] at first
        cases first
        exact dark
      rw [Takes] at taken
      rw [optionValueHere_seq, taken, Option.bind_some, List.drop_left, seq_singleton]
      exact optionValueHere_set valid follows

theorem optionValue_itemsText {items : List (Text × OptionItem)} (listed : OptionItems items) :
    optionValue kind.pattern (itemsText items) = items.findSome? fun item => item.2.found kind := by
  induction items with
  | nil => rfl
  | cons item items ih =>
    have blanks := listed.blanks item List.mem_cons_self
    have split : itemsText (item :: items) = item.1 ++ (item.2.text ++ itemsText items) := by
      simp [itemsText]
    rw [split, optionValue_not_words fun c member => isWord_of_isBlank (blanks c member),
      optionValue_item (listed.valid item List.mem_cons_self) (follows_itemsText listed.tail listed.apart),
      ih listed.tail, List.findSome?_cons]
    cases item.2.found kind <;> rfl

end

/-- No comment mentions the option before it is given. -/
def GivenFirst (kind : OptionKind) : List (Text × OptionItem) → Prop
  | [] => True
  | item :: items => (item.2.value? kind).isSome ∨
      (∀ literal ∈ item.2.literal?, ¬Mentions kind literal) ∧ GivenFirst kind items

instance decidableGivenFirst (kind : OptionKind) : DecidablePred (GivenFirst kind)
  | [] => inferInstanceAs (Decidable True)
  | _ :: items =>
    have : Decidable (GivenFirst kind items) := decidableGivenFirst kind items
    inferInstanceAs (Decidable (_ ∨ _))

section

variable {kind : OptionKind} {items : List (Text × OptionItem)}

theorem found_of_given {item : OptionItem} (given : (item.value? kind).isSome) :
    item.found kind = item.value? kind := by
  cases item with
  | comment name left right literal => contradiction
  | given | other | bare => rfl

theorem found_of_unmentioned {item : OptionItem}
    (unmentioned : ∀ literal ∈ item.literal?, ¬Mentions kind literal) : item.found kind = item.value? kind := by
  cases item with
  | comment name left right literal => exact optionValue_eq_none_iff.mpr (unmentioned literal rfl)
  | given | other | bare => rfl

theorem found_of_givenFirst (first : GivenFirst kind items) :
    (items.findSome? fun item => item.2.found kind) = items.findSome? fun item => item.2.value? kind := by
  induction items with
  | nil => rfl
  | cons item items ih =>
    rw [List.findSome?_cons, List.findSome?_cons]
    rcases first with given | ⟨unmentioned, later⟩
    · obtain ⟨v, value⟩ := Option.isSome_iff_exists.mp given
      rw [found_of_given given, value]
    · rw [found_of_unmentioned unmentioned, ih later]

theorem value?_withoutLiteral (item : OptionItem) : item.withoutLiteral.value? kind = item.value? kind := by
  cases item <;> rfl

theorem value?_congr {others : List (Text × OptionItem)}
    (same : items.map (fun item => item.2.withoutLiteral) = others.map fun item => item.2.withoutLiteral) :
    (items.findSome? fun item => item.2.value? kind) = others.findSome? fun item => item.2.value? kind := by
  have given (list : List (Text × OptionItem)) :
      (list.map fun item => item.2.withoutLiteral).findSome? (OptionItem.value? kind) =
        list.findSome? fun item => item.2.value? kind := by
    rw [List.findSome?_map]
    simp only [Function.comp_def, value?_withoutLiteral]
  rw [← given items, same, given others]

end

/-- Of a list of options, each option gets the first value that is given to it or that stands after its name
in a comment. So where no comment mentions an option before it is given, the comments do not count. -/
theorem readTableOptions_items {items : List (Text × OptionItem)} (listed : OptionItems items) :
    (∀ kind : OptionKind, kind.value (readTableOptions (itemsText items)) =
      items.findSome? fun item => item.2.found kind) ∧
    (∀ kind : OptionKind, GivenFirst kind items → kind.value (readTableOptions (itemsText items)) =
      items.findSome? fun item => item.2.value? kind) ∧
    ∀ others, OptionItems others → (∀ kind, GivenFirst kind items ∧ GivenFirst kind others) →
      items.map (fun item => item.2.withoutLiteral) = others.map (fun item => item.2.withoutLiteral) →
      readTableOptions (itemsText items) = readTableOptions (itemsText others) := by
  have found {list : List (Text × OptionItem)} (listed : OptionItems list) (kind : OptionKind) :
      kind.value (readTableOptions (itemsText list)) = list.findSome? fun item => item.2.found kind := by
    rw [OptionKind.value_readTableOptions, optionValue_itemsText listed]
  refine ⟨found listed, fun kind first => ?_, fun others listedOthers first same => ?_⟩
  · rw [found listed, found_of_givenFirst first]
  · apply tableOptions_ext
    intro kind
    obtain ⟨firstHere, firstThere⟩ := first kind
    rw [found listed, found listedOthers, found_of_givenFirst firstHere, found_of_givenFirst firstThere,
      value?_congr same]

def remarked (remark : Text) : List (Text × OptionItem) :=
  [([], .other "AUTO_INCREMENT" [] [] "7"), (" ", .comment "COMMENT" [] [] remark),
    (" ", .given .engine none ["Engine"] " " " " "InnoDB"), (" ", .bare "COLLATE utf8_bin"),
    (" ", .given .charset (some "DEFAULT") ["CHARACTER", "SET"] [] [] "utf8mb4")]

theorem readTableOptions_items_remarked :
    itemsText (remarked "'ENGINE; no CHARSET yet'") =
      lit "AUTO_INCREMENT=7 COMMENT='ENGINE; no CHARSET yet' Engine = InnoDB COLLATE utf8_bin " ++
        lit "DEFAULT CHARACTER SET=utf8mb4" ∧
      readTableOptions (itemsText (remarked "'ENGINE; no CHARSET yet'")) =
        ⟨some "InnoDB", some "utf8mb4", none⟩ ∧
      readTableOptions (itemsText (remarked "''")) = ⟨some "InnoDB", some "utf8mb4", none⟩ := by
  have listed : OptionItems (remarked "'ENGINE; no CHARSET yet'") := by decide +kernel
  have listedEmpty : OptionItems (remarked "''") := by decide +kernel
  have first : ∀ kind, GivenFirst kind (remarked "'ENGINE; no CHARSET yet'") ∧
      GivenFirst kind (remarked "''") := by
    intro kind
    cases kind <;> decide +kernel
  obtain ⟨_, given, steady⟩ := readTableOptions_items listed
  have options : readTableOptions (itemsText (remarked "'ENGINE; no CHARSET yet'")) =
      ⟨some "InnoDB", some "utf8mb4", none⟩ := by
    apply tableOptions_ext
    intro kind
    rw [given kind (first kind).1]
    cases kind <;> rfl
  have same := steady _ listedEmpty first (by rfl)
  exact ⟨by decide +kernel, options, same.symm.trans options⟩

/-- An option that a comment mentions is found there, although it is given behind the comment. -/
theorem readTableOptions_items_mentioned :
    OptionItems (remarked "'was ENGINE=MyISAM before'") ∧ OptionItems (remarked "''") ∧
      itemsText (remarked "'was ENGINE=MyISAM before'") =
        lit "AUTO_INCREMENT=7 COMMENT='was ENGINE=MyISAM before' Engine = InnoDB COLLATE utf8_bin " ++
          lit "DEFAULT CHARACTER SET=utf8mb4" ∧
      ((remarked "'was ENGINE=MyISAM before'").findSome? fun item => item.2.value? .engine) = some "InnoDB" ∧
      readTableOptions (itemsText (remarked "'was ENGINE=MyISAM before'")) =
        ⟨some "MyISAM", some "utf8mb4", none⟩ ∧
      readTableOptions (itemsText (remarked "''")) = ⟨some "InnoDB", some "utf8mb4", none⟩ := by
  decide +kernel

end SchemaDiff.Ddl
