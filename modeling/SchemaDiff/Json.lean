import SchemaDiff.Text.Basic
/-
JSON values and their two written layouts: on one line, and indented with one entry per line. The
written form is ASCII; every other character is escaped by its UTF-16 units. Object fields keep the
order in which they are given.
-/
namespace SchemaDiff
open Text

inductive Json where
  | null
  | bool (b : Bool)
  | number (n : Int)
  | text (t : Text)
  | list (items : List Json)
  | object (fields : List (Text × Json))
deriving Repr

namespace Json

def ofOption (t : Option Text) : Json := t.elim null text

def texts (ts : List Text) : Json := list (ts.map text)

def units16 (c : Char) : List Nat :=
  if c.toNat < 0x10000 then [c.toNat]
  else [0xD800 + (c.toNat - 0x10000) / 0x400, 0xDC00 + (c.toNat - 0x10000) % 0x400]

def unitEscape (n : Nat) : Text := '\\' :: 'u' :: hex 4 n

def escape (c : Char) : Text :=
  if c = '"' then ['\\', '"']
  else if c = '\\' then ['\\', '\\']
  else if c = '\n' then ['\\', 'n']
  else if c = '\r' then ['\\', 'r']
  else if c = '\t' then ['\\', 't']
  else if c = '\x0c' then ['\\', 'f']
  else if c = '\x08' then ['\\', 'b']
  else if ' ' ≤ c ∧ c ≤ '~' then [c]
  else (units16 c).flatMap unitEscape

def quoted (t : Text) : Text := '"' :: t.flatMap escape ++ ['"']

inductive Layout where
  | oneLine
  | indented (step : Nat)

def Layout.lead : Layout → Nat → Text
  | oneLine, _ => []
  | indented step, depth => '\n' :: List.replicate (step * depth) ' '

def Layout.separator : Layout → Nat → Text
  | oneLine, _ => [',', ' ']
  | indented step, depth => ',' :: (indented step).lead depth

mutual

def writeAt (layout : Layout) (depth : Nat) : Json → Text
  | null => "null"
  | bool b => if b then "true" else "false"
  | number n => ofInt n
  | text t => quoted t
  | list [] => "[]"
  | list (item :: items) =>
    '[' :: layout.lead (depth + 1) ++ writeAt layout (depth + 1) item
      ++ writeItems layout (depth + 1) items ++ layout.lead depth ++ [']']
  | object [] => ['{', '}']
  | object ((key, value) :: fields) =>
    '{' :: layout.lead (depth + 1) ++ quoted key ++ [':', ' '] ++ writeAt layout (depth + 1) value
      ++ writeFields layout (depth + 1) fields ++ layout.lead depth ++ ['}']

def writeItems (layout : Layout) (depth : Nat) : List Json → Text
  | [] => []
  | item :: items =>
    layout.separator depth ++ writeAt layout depth item ++ writeItems layout depth items

def writeFields (layout : Layout) (depth : Nat) : List (Text × Json) → Text
  | [] => []
  | (key, value) :: fields =>
    layout.separator depth ++ quoted key ++ [':', ' '] ++ writeAt layout depth value
      ++ writeFields layout depth fields

end

def write (layout : Layout) (value : Json) : Text := writeAt layout 0 value

end Json

end SchemaDiff
