import SchemaDiff.Sql.Comment
/-
A lexer with a table of rules. A comment comes before everything else; of the rules, the first one
that matches decides, and a character that none takes is a lexeme of its own.
-/
namespace SchemaDiff.Sql.RuleTable
open SchemaDiff.Text SchemaDiff.Text.Pattern

abbrev Rule := Option Char → Pattern

def always (p : Pattern) : Rule := fun _ => p

def notAfter (q : Char → Bool) (p : Pattern) : Rule := fun previous =>
  if previous.any q then fun _ => none else p

def dollarMark : Pattern :=
  seq [char '$',
    any [char '$', seq [one fun c => isNameStart c || c == '_', many isWord, char '$']]]

def dollarQuote : Rule :=
  notAfter (fun c => isWord c || c == '"' || c == '$') fun t =>
    match dollarMark t with
    | none => none
    | some n => (through (t.take n) (t.drop n)).map (n + ·)

def bracketName : Rule :=
  let inside := fun c => c != '[' && c != ']'
  notAfter (fun c => isWord c || c == ']' || c == ')') <|
    seq [char '[', many1 inside, char ']']

def placeholder : Pattern :=
  seq [char '%',
    any [seq [char '(', wordRun, char ')', keyword "S"], keyword "S"]]

def sign : Pattern := optional (char '-')

def digits : Pattern := many1 isDigit

def isHexDigit (c : Char) : Bool :=
  isDigit c || ('A' ≤ c && c ≤ 'F') || ('a' ≤ c && c ≤ 'f')

def hexNumber : Pattern := seq [sign, char '0', keyword "X", many1 isHexDigit]

def exponentNumber : Pattern :=
  seq [sign, digits, optional (seq [char '.', digits]), keyword "E", sign, digits]

/-- A number does not run into a name: where a name would start right after `p`, the last digit is
left over, provided that at least `kept` characters remain. -/
def apartFromName (kept : Nat) (p : Pattern) : Pattern := fun t =>
  match p t with
  | none => none
  | some n =>
    match t.drop n with
    | c :: _ =>
      if isNameStart c || c == '_' then (if kept < n then some (n - 1) else none) else some n
    | [] => some n

def taken (p : Pattern) (t : Text) : Nat := (p t).getD 0

def decimalNumber : Pattern := fun t =>
  any [apartFromName (taken (seq [sign, digits, char '.']) t)
      (seq [sign, digits, char '.', many isDigit]),
    apartFromName (taken sign t + 2) (seq [sign, char '.', digits])] t

def wholeNumber : Pattern := fun t => apartFromName (taken sign t + 1) (seq [sign, digits]) t

def name : Pattern := seq [one isNameStart, many isWord]

def nameBeforePoint : Pattern :=
  seq [name, ahead (seq [blanks, char '.', notAhead isDigit])]

def oneOfWords (ws : List Text) : Pattern := any (ws.map fun w => seq [keyword w, wordEnd])

def phrase (ws : List Text) : Pattern := seq [keywords ws, wordEnd]

def extended (p q : Pattern) : Pattern := any [seq [p, blanks1, q, wordEnd], seq [p, wordEnd]]

def joinPhrase : Pattern :=
  let oneOf := fun ws : List Text => optional (seq [any (ws.map keyword), blanks1])
  any [seq [oneOf ["LEFT", "RIGHT", "FULL"], oneOf ["INNER", "OUTER", "STRAIGHT"],
      keyword "JOIN", wordEnd],
    seq [oneOf ["CROSS", "NATURAL"], keyword "JOIN", wordEnd]]

def nullsOrder : Pattern := seq [keyword "NULLS", blanks1, any [keyword "FIRST", keyword "LAST"]]

def existsPhrase : Pattern :=
  seq [keyword "IF", blanks1, optional (seq [keyword "NOT", blanks1]), keyword "EXISTS", wordEnd]

def batchPhrase : Pattern := seq [keyword "GO", one isBlank, digits, wordEnd]

def lateralPhrase : Pattern :=
  seq [keywords ["LATERAL", "VIEW"], blanks1,
    oneOfWords ["EXPLODE", "INLINE", "PARSE_URL_TUPLE", "POSEXPLODE", "STACK"]]

def timeZonePhrase : Pattern :=
  seq [any [keyword "AT", keyword "WITH'"], blanks1, keywords ["TIME", "ZONE"], blanks1,
    char '\'', many1 (· != '\''), char '\'']

def matchPhrase : Pattern :=
  seq [optional (seq [keyword "NOT", blanks1]), oneOfWords ["LIKE", "ILIKE", "RLIKE"]]

def regexpPhrase : Pattern :=
  seq [optional (seq [keyword "NOT", blanks1]), extended (keyword "REGEXP") (keyword "BINARY")]

def isOneOf (chars : Text) (c : Char) : Bool := chars.contains c

/-- The rules for everything but comments and dollar quotes; the first one that matches decides. -/
def rules : List Rule := [
  always (any [exactly "\r\n", one isBlank]),
  always (exactly ":="),
  always (exactly "::"),
  always (char '*'),
  always (literal '\x60' false),
  always (literal '\u00b4' false),
  always (char '?'),
  always placeholder,
  notAfter isWord (seq [one (isOneOf "$:"), wordRun]),
  always (seq [char '\\', wordRun]),
  always (oneOfWords ["CASE", "IN", "VALUES", "USING", "FROM", "AS"]),
  always (seq [any [char '@', exactly "##", char '#'], one isNameStart, wordRun]),
  always nameBeforePoint,
  fun previous => if previous = some '.' then name else fun _ => none,
  always (seq [name, ahead (char '(')]),
  always hexNumber,
  always exponentNumber,
  always decimalNumber,
  always wholeNumber,
  always (literal '\'' true),
  always (literal '"' true),
  bracketName,
  always joinPhrase,
  always (extended (keyword "END")
    (any [keyword "IF", keyword "LOOP", keyword "WHILE", keyword "FOR", keyword "CASE"])),
  always existsPhrase,
  always (phrase ["NOT", "NULL"]),
  always (extended (any [keyword "ASC", keyword "DESC"]) nullsOrder),
  always (seq [nullsOrder, wordEnd]),
  always (phrase ["UNION", "ALL"]),
  always (extended (keyword "CREATE") (keywords ["OR", "REPLACE"])),
  always (phrase ["DOUBLE", "PRECISION"]),
  always (phrase ["GROUP", "BY"]),
  always (phrase ["ORDER", "BY"]),
  always (phrase ["PRIMARY", "KEY"]),
  always (phrase ["HANDLER", "FOR"]),
  always batchPhrase,
  always lateralPhrase,
  always timeZonePhrase,
  always matchPhrase,
  always regexpPhrase,
  always (seq [one isWord, many fun c => isWord c || c == '$' || c == '#']),
  always (one (isOneOf ";:()[],.")),
  always (any [exactly "->>", exactly "->", exactly "#>>", exactly "#>", exactly "@>",
    exactly "<@", exactly "-", exactly "#-"]),
  always (many1 (isOneOf "<>=~!")),
  always (many1 (isOneOf "+/@#%^&|-"))]

def firstLexeme : FirstLexeme := fun previous t =>
  match comment t with
  | some n => (true, n)
  | none => (false, ((dollarQuote :: rules).findSome? fun rule => rule previous t).getD 1)

def lexer : Lexer := FirstLexeme.lexer firstLexeme

end SchemaDiff.Sql.RuleTable
