import Screencast.Text.Split
import Screencast.Text.Utf8

/-!
# Methods and headers

Which bytes may stand in a method, in the name of a header and in its value.
-/

namespace Screencast

namespace Http

/-- Whether a character may stand in a method: a letter, a digit or one of a few marks. -/
def isMethodChar (char : Char) : Bool :=
  char.isAlphanum || "!*+-.^_|~".toList.contains char || char.toNat = 0x60

/-- Whether a text is a method. -/
def isMethod (text : String) : Bool := text ≠ "" && text.toList.all isMethodChar

/-- Whether a character may stand in the name of a header, which admits more marks than a method. -/
def isNameChar (char : Char) : Bool := isMethodChar char || "\"#$%&'".toList.contains char

/-- The greatest length of the name of a header. -/
def maxNameLength : Nat := 65535

/-- Whether a text is the name of a header. -/
def isName (text : String) : Bool :=
  text ≠ "" && text.toList.all isNameChar && text.length ≤ maxNameLength

/-- Whether a byte may stand in the value of a header. -/
def isValueByte (byte : UInt8) : Bool := byte = 9 || (32 ≤ byte && byte ≠ 127)

/-- Whether bytes are a value of a header. -/
def isValue (bytes : Bytes) : Bool := bytes.all isValueByte

/-- Whether a byte is a visible ASCII character, a blank or a tab. -/
def isVisibleByte (byte : UInt8) : Bool := byte = 9 || (32 ≤ byte && byte < 127)

/-- The text of the value of a header, if it is visible ASCII. -/
def visibleText? (bytes : Bytes) : Option String :=
  if bytes.all isVisibleByte then some (String.ofList (bytes.map fun byte => Char.ofNat byte.toNat))
  else none

/-- A name in lower case. -/
def lowerName (name : String) : String := String.ofList (name.toList.map Char.toLower)

end Http

end Screencast
