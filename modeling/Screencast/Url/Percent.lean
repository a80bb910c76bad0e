import Screencast.Text.Hex
import Screencast.Text.Split

/-!
# Percent-encoding

Every byte of a text's UTF-8 form that is not an unreserved character is written as a percent sign
with two hexadecimal digits. When an encoded text is read, a percent sign without two digits after
it stands for itself.
-/

namespace Screencast

namespace Url

/-- Whether a byte is an unreserved character. -/
def isUnreserved (byte : UInt8) : Bool :=
  let char := Char.ofNat byte.toNat
  char.isAlphanum || char = '-' || char = '.' || char = '_' || char = '~'

/-- The encoded form of one byte. -/
def encodeByte (byte : UInt8) : List Char :=
  if isUnreserved byte then [Char.ofNat byte.toNat]
  else ['%', Text.hexCapital (Text.nibbles byte).1, Text.hexCapital (Text.nibbles byte).2]

/-- The percent-encoded form of a text. -/
def percentEncode (text : String) : String := String.ofList ((Text.encode text).flatMap encodeByte)

/-- The value of a byte that is a hexadecimal digit. -/
def hexByte? (byte : UInt8) : Option (Fin 16) := Text.hexValue? (Char.ofNat byte.toNat)

/-- The byte that a percent sign, the byte after it and the byte after that stand for. -/
def escape? (first second third : UInt8) : Option UInt8 :=
  if first = '%'.toUInt8 then do
    let high ← hexByte? second
    let low ← hexByte? third
    pure (Text.ofNibbles high low)
  else none

/-- Replace the escapes in a sequence of bytes. -/
def decodeBytes : Bytes → Bytes
  | first :: second :: third :: rest =>
    match escape? first second third with
    | some byte => byte :: decodeBytes rest
    | none => first :: decodeBytes (second :: third :: rest)
  | bytes => bytes

/-- Replace the escapes in a text. Bytes that are no UTF-8 afterwards become replacement
characters. -/
def percentDecode (text : String) : String := Text.decodeLossy (decodeBytes (Text.encode text))

/-- One pair of a query: a name and a value, where a plus sign is a blank. -/
def readPair (pair : String) : String × String :=
  let (name, value) := (Text.cut '=' pair).getD (pair, "")
  (percentDecode (Text.replaceChar '+' ' ' name), percentDecode (Text.replaceChar '+' ' ' value))

/-- The names and values of a query. -/
def queryParams (query : String) : List (String × String) :=
  ((Text.split '&' query).filter (· ≠ "")).map readPair

/-- A path with those parameters that have a value. -/
def withQuery (path : String) (params : List (String × Option String)) : String :=
  let pairs := params.filterMap fun (name, value) =>
    value.map fun value => name ++ "=" ++ percentEncode value
  match pairs with
  | [] => path
  | pairs => path ++ "?" ++ "&".intercalate pairs

/-- Whether a decoded destination is a path on this site: it starts with exactly one slash and holds
no control character. -/
def isLocalPath (chars : List Char) : Bool :=
  match chars with
  | '/' :: '/' :: _ => false
  | '/' :: '\\' :: _ => false
  | '/' :: _ => !chars.any Text.isControl
  | _ => false

/-- Where a visitor goes after signing in: the decoded origin if it is a local path, and the home
page otherwise. -/
def safeDestination (origin : String) : String :=
  let decoded := percentDecode origin
  if isLocalPath decoded.toList then decoded else "/"

end Url

end Screencast
