/-!
# UTF-8

Encoding of texts as bytes, and a decoder that marks what is not valid. An invalid sequence is
reported once per longest prefix of a valid one, so that a reader that replaces it writes one
replacement character for a character that was cut short.
-/

namespace Screencast

/-- A sequence of bytes. -/
abbrev Bytes := List UInt8

namespace Text

/-- The UTF-8 bytes of a text. -/
def encode (text : String) : Bytes := text.toList.flatMap String.utf8EncodeChar

/-- Whether a byte continues a multi-byte character. -/
def isContinuation (byte : UInt8) : Bool := 0x80 ≤ byte && byte ≤ 0xBF

/-- The payload of a continuation byte. -/
def payload (byte : UInt8) : Nat := byte.toNat % 64

/-- Whether a second byte may follow the lead byte of a three-byte character. -/
def followsThree (lead second : UInt8) : Bool :=
  if lead = 0xE0 then 0xA0 ≤ second && second ≤ 0xBF
  else if lead = 0xED then 0x80 ≤ second && second ≤ 0x9F
  else isContinuation second

/-- Whether a second byte may follow the lead byte of a four-byte character. -/
def followsFour (lead second : UInt8) : Bool :=
  if lead = 0xF0 then 0x90 ≤ second && second ≤ 0xBF
  else if lead = 0xF4 then 0x80 ≤ second && second ≤ 0x8F
  else isContinuation second

/-- The character that starts with a byte, or `none` for an invalid sequence, and the number of
further bytes that belong to it. -/
def decodeFirst (lead : UInt8) (rest : Bytes) : Option Char × Nat :=
  if lead < 0x80 then (some (Char.ofNat lead.toNat), 0)
  else if 0xC2 ≤ lead && lead ≤ 0xDF then
    match rest with
    | second :: _ =>
      if isContinuation second then
        (some (Char.ofNat ((lead.toNat - 0xC0) * 64 + payload second)), 1)
      else (none, 0)
    | [] => (none, 0)
  else if 0xE0 ≤ lead && lead ≤ 0xEF then
    match rest with
    | second :: third :: _ =>
      if followsThree lead second then
        if isContinuation third then
          (some (Char.ofNat (((lead.toNat - 0xE0) * 64 + payload second) * 64 + payload third)), 2)
        else (none, 1)
      else (none, 0)
    | [second] => (none, if followsThree lead second then 1 else 0)
    | [] => (none, 0)
  else if 0xF0 ≤ lead && lead ≤ 0xF4 then
    match rest with
    | second :: third :: fourth :: _ =>
      if followsFour lead second then
        if isContinuation third then
          if isContinuation fourth then
            let high := ((lead.toNat - 0xF0) * 64 + payload second) * 64 + payload third
            (some (Char.ofNat (high * 64 + payload fourth)), 3)
          else (none, 2)
        else (none, 1)
      else (none, 0)
    | [second, third] =>
      (none, if followsFour lead second then if isContinuation third then 2 else 1 else 0)
    | [second] => (none, if followsFour lead second then 1 else 0)
    | [] => (none, 0)
  else (none, 0)

/-- The characters of a sequence of bytes, with `none` for each invalid sequence. -/
def scan : Bytes → List (Option Char)
  | [] => []
  | lead :: rest =>
    let (char, used) := decodeFirst lead rest
    char :: scan (rest.drop used)
termination_by bytes => bytes.length
decreasing_by
  simp only [List.length_cons, List.length_drop]
  omega

/-- Decode bytes, with the replacement character for each invalid sequence. -/
def decodeLossy (bytes : Bytes) : String :=
  String.ofList ((scan bytes).map fun char => char.getD '\uFFFD')

/-- Decode bytes that are valid throughout. -/
def decode? (bytes : Bytes) : Option String :=
  let chars := scan bytes
  if chars.all Option.isSome then some (String.ofList (chars.filterMap id)) else none

end Text

end Screencast
