import Screencast.Decimal.Shortest
import Screencast.Json.Basic
import Screencast.Text.Hex

/-!
# Written JSON

The compact form has no white space. The indented form puts every item and every field on a line
of its own, two spaces further in than the bracket that holds it.
-/

namespace Screencast

namespace Number

/-- The text of a number. -/
def text : Number → String
  | integer value => toString value
  | double value => value.text

end Number

namespace Json

/-- The written form of one character between quotes. -/
def stringChar (char : Char) : List Char :=
  if char = '"' then ['\\', '"']
  else if char = '\\' then ['\\', '\\']
  else if char = '\x08' then ['\\', 'b']
  else if char = '\x0c' then ['\\', 'f']
  else if char = '\n' then ['\\', 'n']
  else if char = '\r' then ['\\', 'r']
  else if char = '\t' then ['\\', 't']
  else if char.toNat < 0x20 then
    ['\\', 'u', '0', '0', Text.hexDigit (Text.lowDigit (char.toNat / 16)),
      Text.hexDigit (Text.lowDigit char.toNat)]
  else [char]

/-- A text as a JSON string. -/
def stringText (text : String) : String :=
  String.ofList ('"' :: text.toList.flatMap stringChar ++ ['"'])

mutual

/-- The compact text of a JSON value. -/
def compact : Json → String
  | null => "null"
  | bool true => "true"
  | bool false => "false"
  | number value => value.text
  | string text => stringText text
  | array items => "[" ++ compactItems items ++ "]"
  | object fields => "\x7b" ++ compactFields fields ++ "\x7d"

/-- The compact texts of items, with commas between them. -/
def compactItems : List Json → String
  | [] => ""
  | [item] => compact item
  | item :: rest => compact item ++ "," ++ compactItems rest

/-- The compact texts of fields, with commas between them. -/
def compactFields : List (String × Json) → String
  | [] => ""
  | [(name, field)] => stringText name ++ ":" ++ compact field
  | (name, field) :: rest =>
    stringText name ++ ":" ++ compact field ++ "," ++ compactFields rest

end

/-- A line break followed by the blanks of an indentation level. -/
def lineBreak (level : Nat) : String := "\n" ++ String.ofList (List.replicate (2 * level) ' ')

mutual

/-- The indented text of a JSON value that starts at an indentation level. -/
def indented (level : Nat) : Json → String
  | array [] => "[]"
  | array items => "[" ++ indentedItems (level + 1) items ++ lineBreak level ++ "]"
  | object [] => "\x7b\x7d"
  | object fields => "\x7b" ++ indentedFields (level + 1) fields ++ lineBreak level ++ "\x7d"
  | null => "null"
  | bool true => "true"
  | bool false => "false"
  | number value => value.text
  | string text => stringText text

/-- The indented texts of items, each on its line. -/
def indentedItems (level : Nat) : List Json → String
  | [] => ""
  | [item] => lineBreak level ++ indented level item
  | item :: rest => lineBreak level ++ indented level item ++ "," ++ indentedItems level rest

/-- The indented texts of fields, each on its line. -/
def indentedFields (level : Nat) : List (String × Json) → String
  | [] => ""
  | [(name, field)] => lineBreak level ++ stringText name ++ ": " ++ indented level field
  | (name, field) :: rest =>
    lineBreak level ++ stringText name ++ ": " ++ indented level field ++ "," ++
      indentedFields level rest

end

/-- The indented text of a JSON value. -/
def pretty (value : Json) : String := indented 0 value

end Json

end Screencast
