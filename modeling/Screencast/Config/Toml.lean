import Screencast.Decimal.Bounds
import Screencast.Text.Hex
import Screencast.Text.Split

/-!
# Settings files

The flat part of TOML: keys with texts and integers, one on each line, and comments. Tables, arrays
and other values are refused, because no setting has such a value.
-/

namespace Screencast

namespace Toml

/-- The value of a setting. -/
inductive Value
  | text (value : String)
  | integer (value : Int)
  deriving DecidableEq, Repr

/-- Whether a character is a blank. -/
def isBlank (char : Char) : Bool := char = ' ' || char = '\t'

/-- Whether a character may stand in a comment or between quotes as it is. -/
def isPlain (char : Char) : Bool := char = '\t' || (0x20 ≤ char.toNat && char.toNat ≠ 0x7F)

/-- Drop leading blanks. -/
def skipBlanks (chars : List Char) : List Char := chars.dropWhile isBlank

/-- Drop a line break. -/
def dropBreak? : List Char → Option (List Char)
  | '\n' :: rest => some rest
  | '\r' :: '\n' :: rest => some rest
  | _ => none

/-- Drop leading blanks and line breaks. -/
def skipSpace : List Char → List Char
  | '\r' :: '\n' :: rest => skipSpace rest
  | char :: rest => if isBlank char || char = '\n' then skipSpace rest else char :: rest
  | [] => []

/-! ## Texts -/

/-- The character whose code point is written by hexadecimal digits. -/
def charOfDigits? (digits : List Char) : Option Char := do
  let values ← digits.mapM Text.hexValue?
  let code := values.foldl (fun code digit => code * 16 + digit.val) 0
  if isValid : code.isValidChar then pure (Char.ofNatAux code isValid) else none

/-- The character that an escape stands for, and the number of characters it is written with after
the backslash. -/
def escape? (chars : List Char) : Option (Char × Nat) :=
  match chars with
  | 'b' :: _ => some ('\x08', 1)
  | 't' :: _ => some ('\t', 1)
  | 'n' :: _ => some ('\n', 1)
  | 'f' :: _ => some ('\x0c', 1)
  | 'r' :: _ => some ('\r', 1)
  | '"' :: _ => some ('"', 1)
  | '\\' :: _ => some ('\\', 1)
  | 'u' :: rest =>
    if rest.length < 4 then none else (charOfDigits? (rest.take 4)).map (·, 5)
  | 'U' :: rest =>
    if rest.length < 8 then none else (charOfDigits? (rest.take 8)).map (·, 9)
  | _ => none

/-- The rest of a text after its opening quote, and what follows the closing one. -/
def readBasic : List Char → Option (List Char × List Char)
  | [] => none
  | char :: rest =>
    if char = '"' then some ([], rest)
    else if char = '\\' then
      match escape? rest with
      | some (escaped, used) =>
        (readBasic (rest.drop used)).map fun (text, rest) => (escaped :: text, rest)
      | none => none
    else if isPlain char then (readBasic rest).map fun (text, rest) => (char :: text, rest)
    else none
termination_by chars => chars.length
decreasing_by
  all_goals simp only [List.length_cons, List.length_drop]
  all_goals omega

/-- The rest of a literal text after its opening quote, and what follows the closing one. -/
def readLiteral : List Char → Option (List Char × List Char)
  | [] => none
  | char :: rest =>
    if char = '\'' then some ([], rest)
    else if isPlain char then (readLiteral rest).map fun (text, rest) => (char :: text, rest)
    else none

/-- The end of a text over several lines: up to two quotes of the text, and three that close it. -/
def closing? (quote : Char) (chars : List Char) : Option (List Char × List Char) :=
  let quotes := (chars.takeWhile (· = quote)).length
  if quotes < 3 then none
  else
    let own := min (quotes - 3) 2
    some (List.replicate own quote, chars.drop (own + 3))

/-- Skipping space does not make a list longer. -/
theorem length_skipSpace_le (chars : List Char) : (skipSpace chars).length ≤ chars.length := by
  fun_induction skipSpace chars <;> simp_all <;> omega

/-- The rest of a text over several lines after its opening quotes, and what follows the closing
ones. A backslash at the end of a line joins it to the next text. -/
def readBasicLines : List Char → Option (List Char × List Char)
  | [] => none
  | char :: rest =>
    match closing? '"' (char :: rest) with
    | some (own, rest) => some (own, rest)
    | none =>
      if char = '\\' then
        if (dropBreak? (skipBlanks rest)).isSome then readBasicLines (skipSpace rest)
        else
          match escape? rest with
          | some (escaped, used) =>
            (readBasicLines (rest.drop used)).map fun (text, rest) => (escaped :: text, rest)
          | none => none
      else if char = '\r' then
        match rest with
        | '\n' :: after => (readBasicLines after).map fun (text, rest) => ('\n' :: text, rest)
        | _ => none
      else if isPlain char || char = '\n' then
        (readBasicLines rest).map fun (text, rest) => (char :: text, rest)
      else none
termination_by chars => chars.length
decreasing_by
  all_goals simp only [List.length_cons, List.length_drop]
  · exact Nat.lt_succ_of_le (length_skipSpace_le _)
  all_goals omega

/-- The rest of a literal text over several lines after its opening quotes, and what follows the
closing ones. -/
def readLiteralLines : List Char → Option (List Char × List Char)
  | [] => none
  | char :: rest =>
    match closing? '\'' (char :: rest) with
    | some (own, rest) => some (own, rest)
    | none =>
      if char = '\r' then
        match rest with
        | '\n' :: after => (readLiteralLines after).map fun (text, rest) => ('\n' :: text, rest)
        | _ => none
      else if isPlain char || char = '\n' then
        (readLiteralLines rest).map fun (text, rest) => (char :: text, rest)
      else none
termination_by chars => chars.length
decreasing_by
  all_goals simp only [List.length_cons]
  all_goals omega

/-- Drop the line break right after the opening quotes of a text over several lines. -/
def dropFirstBreak (chars : List Char) : List Char := (dropBreak? chars).getD chars

/-- Read a text in any of the four kinds of quotes. -/
def readText (chars : List Char) : Option (List Char × List Char) :=
  match chars with
  | '"' :: '"' :: '"' :: rest => readBasicLines (dropFirstBreak rest)
  | '"' :: rest => readBasic rest
  | '\'' :: '\'' :: '\'' :: rest => readLiteralLines (dropFirstBreak rest)
  | '\'' :: rest => readLiteral rest
  | _ => none

/-! ## Integers -/

/-- The digits of a number without the underscores between them. An underscore needs a digit on
both sides. -/
def joinDigits? : List Char → Option (List Char)
  | [] => none
  | [char] => if char = '_' then none else some [char]
  | char :: '_' :: next :: rest =>
    if char = '_' ∨ next = '_' then none else (joinDigits? (next :: rest)).map (char :: ·)
  | char :: rest => if char = '_' then none else (joinDigits? rest).map (char :: ·)

/-- The value of digits in a base of at most sixteen. -/
def valueOfDigits? (base : Nat) (digits : List Char) : Option Nat :=
  digits.foldlM (fun value char => do
    let digit ← Text.hexValue? char
    if digit.val < base then pure (value * base + digit.val) else none) 0

/-- The value of an unsigned decimal number, which has no leading zero. -/
def decimalValue? (chars : List Char) : Option Nat := do
  let digits ← joinDigits? chars
  if 1 < digits.length ∧ digits.head? = some '0' then none else valueOfDigits? 10 digits

/-- The value of a number in a base of its own. -/
def basedValue? (base : Nat) (chars : List Char) : Option Nat := do
  let digits ← joinDigits? chars
  valueOfDigits? base digits

/-- The value of an integer that fits 64 bits. -/
def integer? (chars : List Char) : Option Int := do
  let value : Int ←
    match chars with
    | '0' :: 'x' :: rest => (basedValue? 16 rest).map Int.ofNat
    | '0' :: 'o' :: rest => (basedValue? 8 rest).map Int.ofNat
    | '0' :: 'b' :: rest => (basedValue? 2 rest).map Int.ofNat
    | '+' :: rest => (decimalValue? rest).map Int.ofNat
    | '-' :: rest => (decimalValue? rest).map fun value => -(value : Int)
    | _ => (decimalValue? chars).map Int.ofNat
  if Bounds.leastSigned ≤ value ∧ value ≤ Bounds.greatestSigned then pure value else none

/-! ## Files -/

/-- Whether a character may stand in a key without quotes. -/
def isKeyChar (char : Char) : Bool := char.isAlphanum || char = '_' || char = '-'

/-- Read a key. -/
def readKey (chars : List Char) : Option (String × List Char) :=
  match chars with
  | '"' :: rest => (readBasic rest).map fun (key, rest) => (String.ofList key, rest)
  | '\'' :: rest => (readLiteral rest).map fun (key, rest) => (String.ofList key, rest)
  | _ =>
    let key := chars.takeWhile isKeyChar
    if key.isEmpty then none else some (String.ofList key, chars.drop key.length)

/-- Whether a character may stand in an integer. -/
def isIntegerChar (char : Char) : Bool :=
  char.isAlphanum || char = '_' || char = '+' || char = '-'

/-- Read a value. -/
def readValue (chars : List Char) : Option (Value × List Char) :=
  match chars with
  | '"' :: _ => (readText chars).map fun (text, rest) => (Value.text (String.ofList text), rest)
  | '\'' :: _ => (readText chars).map fun (text, rest) => (Value.text (String.ofList text), rest)
  | _ => do
    let literal := chars.takeWhile isIntegerChar
    let value ← integer? literal
    pure (Value.integer value, chars.drop literal.length)

/-- Drop the rest of a line that holds nothing but blanks and a comment. -/
def endLine (chars : List Char) : Option (List Char) :=
  let rest :=
    match skipBlanks chars with
    | '#' :: comment => comment.dropWhile isPlain
    | rest => rest
  match rest with
  | [] => some []
  | rest => dropBreak? rest

/-- Read the key and the value of a line, and drop the line. -/
def readEntry (chars : List Char) : Option ((String × Value) × List Char) := do
  let (key, rest) ← readKey chars
  match skipBlanks rest with
  | '=' :: rest =>
    let (value, rest) ← readValue (skipBlanks rest)
    let rest ← endLine rest
    pure ((key, value), rest)
  | _ => none

/-- Read lines, of which there are at most as many as the fuel says. -/
def readLines : Nat → List Char → Option (List (String × Value))
  | 0, chars => if chars.isEmpty then some [] else none
  | fuel + 1, chars =>
    match skipBlanks chars with
    | [] => some []
    | rest =>
      match endLine rest with
      | some rest => readLines fuel rest
      | none => do
        let (entry, rest) ← readEntry rest
        let entries ← readLines fuel rest
        if (entries.map (·.1)).contains entry.1 then none else pure (entry :: entries)

/-- The keys and values of a settings file. A mark at its start that tells the order of bytes is
passed over. -/
def read? (text : String) : Option (List (String × Value)) :=
  let chars :=
    match text.toList with
    | '\uFEFF' :: rest => rest
    | chars => chars
  readLines chars.length chars

end Toml

end Screencast
