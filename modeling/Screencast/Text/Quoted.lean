import Screencast.Text.Hex
import Screencast.Text.Unprintable

/-!
# Quoted texts

A quoted text stands between double quotes. A quote, a backslash, the tab, the line breaks and the
zero character have short escapes; any other character that cannot be shown is written as its code
point in hexadecimal digits between braces.
-/

namespace Screencast

namespace Text

/-- The written form of one character between quotes. -/
def quotedChar (char : Char) : List Char :=
  if char = '\x00' then ['\\', '0']
  else if char = '\t' then ['\\', 't']
  else if char = '\r' then ['\\', 'r']
  else if char = '\n' then ['\\', 'n']
  else if char = '"' then ['\\', '"']
  else if char = '\\' then ['\\', '\\']
  else if isUnprintable char then
    ['\\', 'u', '\x7b'] ++ Nat.toDigits 16 char.toNat ++ ['\x7d']
  else [char]

/-- A text between quotes, with escapes. -/
def quoted (text : String) : String :=
  String.ofList ('"' :: text.toList.flatMap quotedChar ++ ['"'])

end Text

end Screencast
