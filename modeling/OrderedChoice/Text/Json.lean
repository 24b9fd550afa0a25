/-!
# JSON text

The part of JSON that forests and statements need, written on one line or indented by two spaces.
An empty list is `[]` in both forms.
-/

namespace OrderedChoice.Text

/-- A JSON value without numbers below zero, fractions, truth values or null. -/
inductive Json where
  | text (content : String)
  | number (value : Nat)
  | list (items : List Json)
  | object (fields : List (String × Json))

namespace Json

/-- The characters that stand for `c` in a JSON string. -/
def stringChar (c : Char) : List Char :=
  if c = '"' then ['\\', '"']
  else if c = '\\' then ['\\', '\\']
  else if c = '\x08' then ['\\', 'b']
  else if c = '\x0c' then ['\\', 'f']
  else if c = '\n' then ['\\', 'n']
  else if c = '\r' then ['\\', 'r']
  else if c = '\t' then ['\\', 't']
  else if c.toNat < 0x20 then
    ['\\', 'u', '0', '0', Nat.digitChar (c.toNat / 16), Nat.digitChar (c.toNat % 16)]
  else [c]

/-- A JSON string. -/
def string (content : String) : String :=
  String.ofList ('"' :: content.toList.flatMap stringChar ++ ['"'])

mutual

/-- The value on one line, without blanks. -/
def compact : Json → String
  | .text content => string content
  | .number value => toString value
  | .list items => "[" ++ compactItems items ++ "]"
  | .object fields => "\x7b" ++ compactFields fields ++ "\x7d"

def compactItems : List Json → String
  | [] => ""
  | [item] => item.compact
  | item :: items => item.compact ++ "," ++ compactItems items

def compactFields : List (String × Json) → String
  | [] => ""
  | [(name, value)] => string name ++ ":" ++ value.compact
  | (name, value) :: fields => string name ++ ":" ++ value.compact ++ "," ++ compactFields fields

end

/-- A new line, indented to the given depth. -/
def lineBreak (depth : Nat) : String :=
  String.ofList ('\n' :: List.replicate (2 * depth) ' ')

mutual

/-- The value with one item or field a line, nested `depth` deep. -/
def prettyAt (depth : Nat) : Json → String
  | .text content => string content
  | .number value => toString value
  | .list [] => "[]"
  | .list items => "[" ++ prettyItems (depth + 1) items ++ lineBreak depth ++ "]"
  | .object [] => "\x7b\x7d"
  | .object fields => "\x7b" ++ prettyFields (depth + 1) fields ++ lineBreak depth ++ "\x7d"

def prettyItems (depth : Nat) : List Json → String
  | [] => ""
  | [item] => lineBreak depth ++ item.prettyAt depth
  | item :: items => lineBreak depth ++ item.prettyAt depth ++ "," ++ prettyItems depth items

def prettyFields (depth : Nat) : List (String × Json) → String
  | [] => ""
  | [(name, value)] => lineBreak depth ++ string name ++ ": " ++ value.prettyAt depth
  | (name, value) :: fields =>
    lineBreak depth ++ string name ++ ": " ++ value.prettyAt depth ++ "," ++
      prettyFields depth fields

end

/-- The value with one item or field a line. -/
def pretty (value : Json) : String :=
  value.prettyAt 0

end Json

end OrderedChoice.Text
