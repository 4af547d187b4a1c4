/-
Texts. A text is the list of its characters, so that every length and position counts code points.
String literals stand for texts wherever a text is expected.
-/
namespace SchemaDiff

abbrev Text := List Char

namespace Text

def lit (s : String) : Text := s.toList

instance : Coe String Text := ⟨lit⟩

/-- What holds of each character of a text is decided by going through the text, not through all the
characters that there are. -/
instance decidableForallMem (p : Char → Prop) [DecidablePred p] (t : Text) :
    Decidable (∀ c ∈ t, p c) :=
  List.decidableBAll p t

instance decidableForallMemOption (p : Char → Prop) [DecidablePred p] (o : Option Char) :
    Decidable (∀ c ∈ o, p c) :=
  Option.decidableForallMem o

instance decidableExistsMemOption (p : Char → Prop) [DecidablePred p] (o : Option Char) :
    Decidable (∃ c ∈ o, p c) :=
  Option.decidableExistsMem o

def ofNat (n : Nat) : Text := Nat.toDigits 10 n

def ofInt : Int → Text
  | .ofNat n => ofNat n
  | .negSucc n => '-' :: ofNat (n + 1)

def padded (width n : Nat) : Text :=
  List.replicate (width - (ofNat n).length) '0' ++ ofNat n

def hex (width n : Nat) : Text :=
  let digits := Nat.toDigits 16 n
  List.replicate (width - digits.length) '0' ++ digits

def indexOf? (part : Text) : Text → Option Nat
  | [] => if part = [] then some 0 else none
  | c :: rest =>
    if part.isPrefixOf (c :: rest) then some 0 else (indexOf? part rest).map (· + 1)

/-- The stretches of a text between the characters equal to `mark`; there is one more stretch than
there are marks. -/
def splitOn (mark : Char) : Text → List Text
  | [] => [[]]
  | c :: rest =>
    match splitOn mark rest with
    | [] => [[c]]
    | first :: others => if c = mark then [] :: first :: others else (c :: first) :: others

def cutAt (mark : Char) (t : Text) : Text × Option Text :=
  match t.dropWhile (· ≠ mark) with
  | [] => (t, none)
  | _ :: after => (t.takeWhile (· ≠ mark), some after)

def doubled (mark : Char) (t : Text) : Text :=
  t.flatMap fun c => if c = mark then [c, c] else [c]

def provided (p : Prop) [Decidable p] (t : Text) : Text := if p then t else []

/-- The order of texts by their first different characters; a text comes before any longer one that
it begins. -/
def comesFirst : Text → Text → Bool
  | [], _ => true
  | _ :: _, [] => false
  | c :: s, d :: t => if c = d then comesFirst s t else c.toNat < d.toNat

def lines (parts : List Text) : Text := ['\n'].intercalate parts

end Text

end SchemaDiff
