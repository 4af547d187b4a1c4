import SchemaDiff.Column
import SchemaDiff.Ddl.Identifier
import SchemaDiff.Sql.Split
/-
Reading one definition from the body of a table. A definition that declares a key or a constraint
is none of a column; any other that begins with an identifier is. Each attribute of the column is
looked for among the words after the identifier on its own, wherever its clause stands.
-/
namespace SchemaDiff.Ddl
open SchemaDiff.Text

def constraintHeads : List (List Text) := [
  ["PRIMARY", "KEY"], ["FOREIGN", "KEY"], ["UNIQUE"], ["KEY"], ["INDEX"], ["FULLTEXT"],
  ["SPATIAL"], ["CONSTRAINT"], ["CHECK"]]

def leadingWords (t : Text) : List Text :=
  let after := t.dropWhile isWord
  let second := (trimStart after).takeWhile isWord
  let separate := after.head?.any isBlank
  match t.takeWhile isWord with
  | [] => []
  | first => if separate ∧ second ≠ [] then [first, second] else [first]

def isConstraint (t : Text) : Bool :=
  let head := (leadingWords t).map upper
  constraintHeads.any fun words => words.isPrefixOf head

def fallbackType : Text := "TEXT"

def typeModifiers : List Text := ["UNSIGNED", "SIGNED", "ZEROFILL"]

def isParenthesised (t : Text) : Bool := t.head? == some '(' && t.getLast? == some ')'

/-- The name and the arguments in one word that is all type: a name alone, or a name and then
arguments in parentheses, with blanks between them or none. -/
def splitType (word : Text) : Option (Text × Option Text) :=
  match word with
  | [] => none
  | c :: rest =>
    if isPlainLetter c then
      let name := c :: rest.takeWhile isWord
      let args := trimStart (rest.dropWhile isWord)
      if args = [] then some (name, none)
      else if isParenthesised args then some (name, some args)
      else none
    else none

def bareType (word : Text) : Text :=
  match word with
  | [] => fallbackType
  | c :: rest => if isPlainLetter c then upper (c :: rest.takeWhile isWord) else fallbackType

def typeWith (type : Text) (words : List Text) : Text :=
  upper ([' '].intercalate (type :: words.takeWhile fun w => typeModifiers.contains (upper w)))

def readType : List Text → Text
  | [] => fallbackType
  | word :: words =>
    match splitType word, words with
    | none, _ => bareType word
    | some (name, none), args :: others =>
      if isParenthesised args then typeWith (name ++ args) others else typeWith name words
    | some (name, args), _ => typeWith (name ++ args.getD []) words

def defaultEnds : List Text := [
  "NOT", "NULL", "AUTO_INCREMENT", "COMMENT", "COLLATE", "CHARACTER", "CHARSET", "PRIMARY",
  "UNIQUE", "KEY", "REFERENCES", "CHECK", "CONSTRAINT", "GENERATED", "VIRTUAL", "STORED",
  "INVISIBLE", "VISIBLE", "COLUMN_FORMAT", "STORAGE"]

/-- The words of a default's value. A leading `NULL` is the value; a later one ends it. -/
def defaultWords (words : List Text) : List Text :=
  let ends := fun w => defaultEnds.contains (upper w)
  match words with
  | [] => []
  | first :: others =>
    if upper first = "NULL" ∨ ¬ ends first then first :: others.takeWhile (¬ ends ·) else []

def readDefault (words : List Text) : Option Text :=
  match words.dropWhile (upper · ≠ "DEFAULT") with
  | [] => none
  | _ :: after =>
    match defaultWords after with
    | [] => none
    | value => some ([' '].intercalate value)

def readCharset : List Text → Option Text
  | [] => none
  | [_] => none
  | [word, value] => if upper word = "CHARSET" then some value else none
  | word :: next :: value :: others =>
    if upper word = "CHARACTER" ∧ upper next = "SET" then some value
    else if upper word = "CHARSET" then some next
    else readCharset (next :: value :: others)

def readCollation : List Text → Option Text
  | word :: next :: others =>
    if upper word = "COLLATE" then some next else readCollation (next :: others)
  | _ => none

def isNotNull : List Text → Bool
  | word :: next :: others =>
    (upper word == "NOT" && upper next == "NULL") || isNotNull (next :: others)
  | _ => false

def isAutoIncrement (words : List Text) : Bool := words.any (upper · == "AUTO_INCREMENT")

/-- The column that a definition declares, unless it declares none. -/
def readColumn (definition : Text) : Option Column :=
  let text := trim definition
  if isConstraint text then none
  else
    match readIdentifier text with
    | none => none
    | some (name, after) =>
      let words := Sql.definitionWords after
      some {
        name
        dataType := readType words
        isNullable := !isNotNull words
        defaultValue := readDefault words
        autoIncrement := isAutoIncrement words
        charset := readCharset words
        collation := readCollation words
        definition := text }

end SchemaDiff.Ddl
