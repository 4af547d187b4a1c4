import SchemaDiff.Proofs.Ddl.DefinitionWords

/-
Written types: a name, arguments that follow it at once or after a space, and modifiers. Reading
gives the capital form without that space, whatever other words follow.
-/
namespace SchemaDiff.Ddl
open SchemaDiff.Text SchemaDiff.Text.Pattern SchemaDiff.Sql

inductive Arguments where
  | absent
  | attached (inside : Text)
  | apart (inside : Text)
deriving DecidableEq, Repr

def Arguments.inside? : Arguments → Option Text
  | absent => none
  | attached inside | apart inside => some inside

structure TypeText where
  name : Text
  arguments : Arguments
  modifiers : List Text
deriving DecidableEq, Repr

/-- The words at which attributes of a column are looked for. -/
def attributeWords : List Text :=
  ["DEFAULT", "NOT", "AUTO_INCREMENT", "CHARACTER", "CHARSET", "COLLATE"]

namespace TypeText

def words (type : TypeText) : List Text :=
  match type.arguments with
  | .absent => type.name :: type.modifiers
  | .attached inside => (type.name ++ group inside) :: type.modifiers
  | .apart inside => type.name :: group inside :: type.modifiers

def joined (type : TypeText) : Text :=
  match type.arguments with
  | .absent => [' '].intercalate (type.name :: type.modifiers)
  | .attached inside | .apart inside =>
    [' '].intercalate ((type.name ++ group inside) :: type.modifiers)

/-- A type name in ASCII letters, digits and low lines may hold other word characters too; it is none
of the words at which attributes are looked for. -/
structure Valid (type : TypeText) : Prop where
  solid : type.name ≠ []
  first : ∀ c ∈ type.name.head?, isPlainLetter c
  word : ∀ c ∈ type.name, isWord c
  free : upper type.name ∉ attributeWords
  nested : ∀ inside ∈ type.arguments.inside?, Nested inside
  modifiers : ∀ m ∈ type.modifiers, ∃ k ∈ typeModifiers, InAnyCase m k

instance (type : TypeText) : Decidable type.Valid :=
  decidable_of_iff (type.name ≠ [] ∧ (∀ c ∈ type.name.head?, isPlainLetter c) ∧
      (∀ c ∈ type.name, isWord c) ∧ upper type.name ∉ attributeWords ∧
      (∀ inside ∈ type.arguments.inside?, Nested inside) ∧
      ∀ m ∈ type.modifiers, ∃ k ∈ typeModifiers, InAnyCase m k)
    ⟨fun h => ⟨h.1, h.2.1, h.2.2.1, h.2.2.2.1, h.2.2.2.2.1, h.2.2.2.2.2⟩,
      fun h => ⟨h.solid, h.first, h.word, h.free, h.nested, h.modifiers⟩⟩

end TypeText

theorem isCapital_typeModifiers : ∀ k ∈ typeModifiers, ∀ c ∈ k, isCapital c := by decide

theorem isWord_modifier {m k : Text} (member : k ∈ typeModifiers) (spelled : InAnyCase m k) :
    ∀ c ∈ m, isWord c :=
  isWord_of_inAnyCase spelled (isCapital_typeModifiers k member)

theorem upper_modifier {m k : Text} (member : k ∈ typeModifiers) (spelled : InAnyCase m k) :
    upper m = k :=
  upper_of_inAnyCase spelled (isCapital_typeModifiers k member)

theorem modifier_ne_nil {m k : Text} (member : k ∈ typeModifiers) (spelled : InAnyCase m k) :
    m ≠ [] := by
  rintro rfl
  have empty : k = [] := spelled.symm
  subst empty
  exact absurd member (by decide)

theorem words_ne_nil (type : TypeText) : type.words ≠ [] := by
  unfold TypeText.words
  split <;> simp

theorem mem_typeWords {type : TypeText} (valid : type.Valid) {w : Text} (member : w ∈ type.words) :
    (w ≠ [] ∧ ∀ c ∈ w, isWord c) ∨
      ∃ inside, Nested inside ∧ (w = type.name ++ group inside ∨ w = group inside) := by
  have modifiers : ∀ m ∈ type.modifiers, m ≠ [] ∧ ∀ c ∈ m, isWord c := by
    intro m member
    obtain ⟨k, known, spelled⟩ := valid.modifiers m member
    exact ⟨modifier_ne_nil known spelled, isWord_modifier known spelled⟩
  unfold TypeText.words at member
  split at member
  · rcases List.mem_cons.mp member with rfl | member
    · exact .inl ⟨valid.solid, valid.word⟩
    · exact .inl (modifiers w member)
  · rename_i inside shape
    rcases List.mem_cons.mp member with rfl | member
    · exact .inr ⟨inside, valid.nested inside (by rw [shape]; rfl), .inl rfl⟩
    · exact .inl (modifiers w member)
  · rename_i inside shape
    rcases List.mem_cons.mp member with rfl | member
    · exact .inl ⟨valid.solid, valid.word⟩
    · rcases List.mem_cons.mp member with rfl | member
      · exact .inr ⟨inside, valid.nested inside (by rw [shape]; rfl), .inr rfl⟩
      · exact .inl (modifiers w member)

theorem tokens_type {type : TypeText} (valid : type.Valid) : ∀ w ∈ type.words, Token w := by
  intro w member
  obtain ⟨solid, word⟩ | ⟨inside, nested, rfl | rfl⟩ := mem_typeWords valid member
  · exact token_word solid word
  · exact token_word_group valid.solid valid.word nested
  · exact token_group nested

theorem whole_type {isDelimiter : Char → Bool} (kept : ∀ c, isWord c → isDelimiter c = false)
    (opening : isDelimiter '(' = false) (closing : isDelimiter ')' = false) {type : TypeText}
    (valid : type.Valid) : ∀ w ∈ type.words, Whole .tracked isDelimiter w := by
  intro w member
  obtain ⟨_, word⟩ | ⟨inside, nested, rfl | rfl⟩ := mem_typeWords valid member
  · exact whole_of_isWord kept word
  · exact whole_append (whole_of_isWord kept valid.word) (whole_group nested closing opening)
  · exact whole_group nested closing opening

theorem not_capital_of_mem {w k : Text} {c : Char} (member : c ∈ w) (same : upperChar c = [c])
    (capitals : ∀ d ∈ k, isCapital d) (other : isCapital c = false) : upper w ≠ k := by
  rintro rfl
  have image : c ∈ upper w := List.mem_flatMap.mpr ⟨c, member, by simp [same]⟩
  have := capitals c image
  rw [other] at this
  contradiction

theorem isCapital_attributeWords : ∀ k ∈ attributeWords, ∀ c ∈ k, isCapital c := by decide

theorem not_attribute_of_mem {w : Text} {c : Char} (member : c ∈ w) (same : upperChar c = [c])
    (other : isCapital c = false) : upper w ∉ attributeWords := by
  intro known
  exact not_capital_of_mem member same (isCapital_attributeWords _ known) other rfl

theorem not_attribute_group (w inside : Text) : upper (w ++ group inside) ∉ attributeWords := by
  have member : '(' ∈ w ++ group inside := by simp [group]
  exact not_attribute_of_mem member rfl rfl

theorem not_attribute_type {type : TypeText} (valid : type.Valid) :
    ∀ w ∈ type.words, upper w ∉ attributeWords := by
  have modifiers : ∀ m ∈ type.modifiers, upper m ∉ attributeWords := by
    intro m member
    obtain ⟨k, known, spelled⟩ := valid.modifiers m member
    rw [upper_modifier known spelled]
    have apart : ∀ k ∈ typeModifiers, k ∉ attributeWords := by decide
    exact apart k known
  intro w member
  unfold TypeText.words at member
  split at member
  · rcases List.mem_cons.mp member with rfl | member
    · exact valid.free
    · exact modifiers w member
  · rcases List.mem_cons.mp member with rfl | member
    · exact not_attribute_group _ _
    · exact modifiers w member
  · rcases List.mem_cons.mp member with rfl | member
    · exact valid.free
    · rcases List.mem_cons.mp member with rfl | member
      · exact not_attribute_group [] _
      · exact modifiers w member

theorem splitType_name {name : Text} (solid : name ≠ [])
    (first : ∀ c ∈ name.head?, isPlainLetter c) (word : ∀ c ∈ name, isWord c) {t : Text}
    (stops : ∀ c ∈ t.head?, isWord c = false) :
    splitType (name ++ t) =
      if trimStart t = [] then some (name, none)
      else if isParenthesised (trimStart t) then some (name, some (trimStart t))
      else none := by
  cases name with
  | nil => contradiction
  | cons c others =>
    have letter : isPlainLetter c := first c rfl
    have later : ∀ d ∈ others, isWord d := fun d member => word d (List.mem_cons_of_mem c member)
    simp only [List.cons_append, splitType, letter, ↓reduceIte, takeWhile_append_stop later stops,
      dropWhile_append_stop later stops]

theorem splitType_word {name : Text} (solid : name ≠ [])
    (first : ∀ c ∈ name.head?, isPlainLetter c) (word : ∀ c ∈ name, isWord c) :
    splitType name = some (name, none) := by
  have split := splitType_name solid first word (t := []) (by simp)
  rw [List.append_nil] at split
  exact split

theorem splitType_group {name : Text} (solid : name ≠ [])
    (first : ∀ c ∈ name.head?, isPlainLetter c) (word : ∀ c ∈ name, isWord c) (inside : Text) :
    splitType (name ++ group inside) = some (name, some (group inside)) := by
  have stops : ∀ c ∈ (group inside).head?, isWord c = false := by
    intro c front
    cases front
    decide
  have whole : trimStart (group inside) = group inside :=
    trimStart_eq_self_iff.mpr (startsDark_group inside)
  have solidGroup : group inside ≠ [] := List.cons_ne_nil _ _
  rw [splitType_name solid first word stops, whole, if_neg solidGroup,
    if_pos (isParenthesised_group inside)]

theorem isParenthesised_word {w : Text} (all : ∀ c ∈ w, isWord c) : isParenthesised w = false := by
  cases w with
  | nil => rfl
  | cons c rest =>
    have other : c ≠ '(' := by
      rintro rfl
      exact absurd (all '(' List.mem_cons_self) (by decide)
    simp [isParenthesised, other]

def EndsType (rest : List Text) : Prop :=
  ∀ w ∈ rest.head?, isParenthesised w = false ∧ upper w ∉ typeModifiers

theorem typeWith_modifiers {type : TypeText} (valid : type.Valid) (front : Text)
    {rest : List Text} (ends : EndsType rest) :
    typeWith front (type.modifiers ++ rest) = upper ([' '].intercalate (front :: type.modifiers)) := by
  have all : ∀ m ∈ type.modifiers, typeModifiers.contains (upper m) := by
    intro m member
    obtain ⟨k, known, spelled⟩ := valid.modifiers m member
    rw [upper_modifier known spelled, List.contains_iff_mem]
    exact known
  have stops : ∀ w ∈ rest.head?, typeModifiers.contains (upper w) = false := by
    intro w front
    have := (ends w front).2
    simpa using this
  rw [typeWith, takeWhile_append_stop all stops]

theorem readType_type {type : TypeText} (valid : type.Valid) {rest : List Text}
    (ends : EndsType rest) : readType (type.words ++ rest) = upper type.joined := by
  have named := splitType_word valid.solid valid.first valid.word
  have modified := typeWith_modifiers valid
  cases shape : type.arguments with
  | absent =>
    have read := modified type.name ends
    simp only [TypeText.words, TypeText.joined, shape, List.cons_append, readType, named]
    cases following : type.modifiers ++ rest with
    | nil =>
      rw [following] at read
      simpa using read
    | cons w others =>
      rw [following] at read
      have noGroup : isParenthesised w = false := by
        cases known : type.modifiers with
        | nil =>
          rw [known, List.nil_append] at following
          exact (ends w (by rw [following]; rfl)).1
        | cons m more =>
          rw [known] at following
          obtain ⟨rfl, _⟩ := List.cons.inj following
          obtain ⟨k, listed, spelled⟩ := valid.modifiers m (known ▸ List.mem_cons_self)
          exact isParenthesised_word (isWord_modifier listed spelled)
      simpa [noGroup] using read
  | attached inside =>
    simp only [TypeText.words, TypeText.joined, shape, List.cons_append, readType,
      splitType_group valid.solid valid.first valid.word inside, Option.getD_some]
    exact modified _ ends
  | apart inside =>
    simp only [TypeText.words, TypeText.joined, shape, List.cons_append, readType, named,
      isParenthesised_group, ↓reduceIte]
    exact modified _ ends

end SchemaDiff.Ddl
