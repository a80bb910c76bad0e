/-!
# Splitting and trimming

Texts are cut at a separator character and stripped of unwanted characters at both ends. All
functions work on lists of characters; the versions on texts wrap them.
-/

namespace Screencast

namespace Text

/-- The pieces between the separators of a list of characters, empty ones included. -/
def splitChars (separator : Char) : List Char → List (List Char)
  | [] => [[]]
  | char :: rest =>
    if char = separator then [] :: splitChars separator rest
    else
      match splitChars separator rest with
      | [] => [[char]]
      | piece :: pieces => (char :: piece) :: pieces

@[simp] theorem splitChars_nil (separator : Char) : splitChars separator [] = [[]] := rfl

/-- A list of characters has at least one piece. -/
theorem splitChars_ne_nil (separator : Char) (chars : List Char) :
    splitChars separator chars ≠ [] := by
  cases chars with
  | nil => simp
  | cons char rest =>
    unfold splitChars
    split
    · simp
    · split <;> simp

/-- The parts before and after the first separator, if there is one. -/
def cutChars (separator : Char) : List Char → Option (List Char × List Char)
  | [] => none
  | char :: rest =>
    if char = separator then some ([], rest)
    else (cutChars separator rest).map fun (before, after) => (char :: before, after)

/-- Putting the separator back between the two parts gives the characters that were cut. -/
theorem cutChars_eq_some {separator : Char} {chars before after : List Char}
    (cut : cutChars separator chars = some (before, after)) :
    chars = before ++ separator :: after := by
  induction chars generalizing before with
  | nil => simp [cutChars] at cut
  | cons char rest inductionHypothesis =>
    unfold cutChars at cut
    split at cut
    · next isSeparator =>
      simp only [Option.some.injEq, Prod.mk.injEq] at cut
      simp [← cut.1, ← cut.2, isSeparator]
    · obtain ⟨⟨first, second⟩, found, same⟩ := Option.map_eq_some_iff.1 cut
      simp only [Prod.mk.injEq] at same
      obtain ⟨rfl, rfl⟩ := same
      simp [inductionHypothesis found]

/-- Drop the unwanted characters at both ends. -/
def trimChars (isUnwanted : Char → Bool) (chars : List Char) : List Char :=
  ((chars.dropWhile isUnwanted).reverse.dropWhile isUnwanted).reverse

/-- The pieces between the separators of a text, empty ones included. -/
def split (separator : Char) (text : String) : List String :=
  (splitChars separator text.toList).map String.ofList

/-- The parts of a text before and after the first separator, if there is one. -/
def cut (separator : Char) (text : String) : Option (String × String) :=
  (cutChars separator text.toList).map fun (before, after) =>
    (String.ofList before, String.ofList after)

/-- Whether a character is white space, by the Unicode property of that name. -/
def isSpace (char : Char) : Bool :=
  let code := char.toNat
  (0x09 ≤ code && code ≤ 0x0D) || code = 0x20 || code = 0x85 || code = 0xA0 || code = 0x1680 ||
    (0x2000 ≤ code && code ≤ 0x200A) || code = 0x2028 || code = 0x2029 || code = 0x202F ||
    code = 0x205F || code = 0x3000

/-- Whether a character is a control character. -/
def isControl (char : Char) : Bool :=
  char.toNat < 0x20 || (0x7F ≤ char.toNat && char.toNat < 0xA0)

/-- Drop the white space at both ends of a text. -/
def trim (text : String) : String := String.ofList (trimChars isSpace text.toList)

/-- Drop the leading occurrences of a character. -/
def trimLeading (unwanted : Char) (text : String) : String :=
  String.ofList (text.toList.dropWhile (· = unwanted))

/-- Drop the trailing occurrences of a character. -/
def trimTrailing (unwanted : Char) (text : String) : String :=
  String.ofList (text.toList.reverse.dropWhile (· = unwanted)).reverse

/-- Replace every occurrence of one character by another. -/
def replaceChar (old new : Char) (text : String) : String :=
  String.ofList (text.toList.map fun char => if char = old then new else char)

/-- Whether two texts agree up to the case of ASCII letters. -/
def equalIgnoringCase (left right : String) : Bool :=
  left.toList.map Char.toLower = right.toList.map Char.toLower

/-- Pad a decimal number with zeros on the left to a given width. -/
def padded (width number : Nat) : String :=
  let digits := Nat.toDigits 10 number
  String.ofList (List.replicate (width - digits.length) '0' ++ digits)

end Text

end Screencast
