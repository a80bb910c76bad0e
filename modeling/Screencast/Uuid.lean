import Screencast.Text.Hex

/-!
# Universally unique identifiers

An identifier is 32 hexadecimal digits. It is written in lower case with hyphens after 8, 12, 16 and
20 digits. It is read in either case with these hyphens or without any; the hyphenated form may also
stand between braces or behind `urn:uuid:`.
-/

namespace Screencast

/-- A universally unique identifier. -/
structure Uuid where
  digits : List (Fin 16)
  length_digits : digits.length = 32 := by decide
  deriving DecidableEq

namespace Uuid

/-- The identifier of zeros. -/
def nil : Uuid where
  digits := List.replicate 32 (Text.lowDigit 0)

instance : Inhabited Uuid := ⟨nil⟩

/-- Characters with hyphens after the 8th, 12th, 16th and 20th of them. -/
def hyphenate (chars : List Char) : List Char :=
  chars.take 8 ++ '-' :: (chars.drop 8).take 4 ++ '-' :: (chars.drop 12).take 4 ++
    '-' :: (chars.drop 16).take 4 ++ '-' :: chars.drop 20

/-- The written form of an identifier. -/
def text (id : Uuid) : String := String.ofList (hyphenate (id.digits.map Text.hexDigit))

/-- Read exactly 32 digits. -/
def ofPlain? (chars : List Char) : Option Uuid := do
  let digits ← chars.mapM Text.hexValue?
  if isWhole : digits.length = 32 then pure ⟨digits, isWhole⟩ else none

/-- Read 32 digits with hyphens in their places. -/
def ofHyphenated? (chars : List Char) : Option Uuid :=
  let digits :=
    chars.take 8 ++ (chars.drop 9).take 4 ++ (chars.drop 14).take 4 ++ (chars.drop 19).take 4 ++
      chars.drop 24
  if chars = hyphenate digits then ofPlain? digits else none

/-- Drop a beginning given in lower case, whatever the case in which it is written. -/
def dropIgnoringCase? : List Char → List Char → Option (List Char)
  | [], chars => some chars
  | wanted :: wanteds, char :: rest =>
    if wanted = char.toLower then dropIgnoringCase? wanteds rest else none
  | _ :: _, [] => none

/-- Read an identifier in any of its forms. -/
def ofChars? (chars : List Char) : Option Uuid :=
  if chars.length = 32 then ofPlain? chars
  else if chars.length = 36 then ofHyphenated? chars
  else if chars.length = 38 then
    match chars with
    | '\x7b' :: rest =>
      if rest.getLast? = some '\x7d' then ofHyphenated? rest.dropLast else none
    | _ => none
  else if chars.length = 45 then
    dropIgnoringCase? ['u', 'r', 'n', ':', 'u', 'u', 'i', 'd', ':'] chars >>= ofHyphenated?
  else none

/-- Read the text of an identifier. -/
def parse? (text : String) : Option Uuid := ofChars? text.toList

/-- The lowest `count` hexadecimal digits of a number, most significant first. -/
def lowDigits : Nat → Nat → List (Fin 16)
  | 0, _ => []
  | count + 1, number => lowDigits count (number / 16) ++ [Text.lowDigit number]

@[simp] theorem length_lowDigits (count number : Nat) :
    (lowDigits count number).length = count := by
  induction count generalizing number with
  | zero => rfl
  | succ count inductionHypothesis => simp [lowDigits, inductionHypothesis]

/-- The identifier that is drawn as the given one of a sequence: of version 4, with the number in
its last twelve digits. -/
def drawn (number : Nat) : Uuid where
  digits :=
    [0, 0, 0, 0, 0, 0, 0, 0, 0, 0, 0, 0, 4, 0, 0, 0, 8, 0, 0, 0].map Text.lowDigit ++
      lowDigits 12 number
  length_digits := by simp

end Uuid

end Screencast
