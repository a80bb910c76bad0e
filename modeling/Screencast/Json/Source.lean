import Screencast.Json.Basic
import Screencast.Text.Hex

/-!
# JSON texts

A JSON text is read into a tree that keeps what the text says: numbers as their digits, strings as
their bytes and escapes, and every field of an object, repeated names included. Whether a number is
in range and a string is valid is decided only when a value is taken from the tree, so that a part
nobody looks at may hold either.
-/

namespace Screencast

/-- A number as it is written. -/
structure NumberSource where
  negative : Bool
  whole : List Nat
  fraction : List Nat
  exponent : Option (Bool × List Nat)
  deriving DecidableEq, Repr

/-- A part of a written string: a byte that stands for itself or a short escape, or an escape by
the number of a UTF-16 code unit. -/
inductive StringPart
  | byte (value : UInt8)
  | unit (value : Nat)
  deriving DecidableEq, Repr

/-- A JSON text as a tree. -/
inductive JsonSource
  | null
  | bool (value : Bool)
  | number (literal : NumberSource)
  | string (parts : List StringPart)
  | array (items : List JsonSource)
  | object (fields : List (List StringPart × JsonSource))

namespace JsonSource

/-- Drop leading blanks, tabs and line breaks. -/
def skipSpace : Bytes → Bytes
  | [] => []
  | byte :: rest =>
    if byte = 0x20 ∨ byte = 0x0A ∨ byte = 0x09 ∨ byte = 0x0D then skipSpace rest else byte :: rest

/-- The value of a decimal digit. -/
def digit? (byte : UInt8) : Option Nat :=
  if 0x30 ≤ byte && byte ≤ 0x39 then some (byte.toNat - 0x30) else none

/-- The leading decimal digits and what follows them. -/
def takeDigits : Bytes → List Nat × Bytes
  | [] => ([], [])
  | byte :: rest =>
    match digit? byte with
    | none => ([], byte :: rest)
    | some value =>
      let (digits, after) := takeDigits rest
      (value :: digits, after)

/-- The value of four hexadecimal digits. -/
def hexUnit? (first second third fourth : UInt8) : Option Nat := do
  let value (byte : UInt8) : Option Nat :=
    (Text.hexValue? (Char.ofNat byte.toNat)).map (·.val)
  let first ← value first
  let second ← value second
  let third ← value third
  let fourth ← value fourth
  pure (((first * 16 + second) * 16 + third) * 16 + fourth)

/-- The byte that a short escape stands for. -/
def shortEscape? (byte : UInt8) : Option UInt8 :=
  if byte = 0x22 then some 0x22
  else if byte = 0x5C then some 0x5C
  else if byte = 0x2F then some 0x2F
  else if byte = 0x62 then some 0x08
  else if byte = 0x66 then some 0x0C
  else if byte = 0x6E then some 0x0A
  else if byte = 0x72 then some 0x0D
  else if byte = 0x74 then some 0x09
  else none

/-- Read a string from behind its opening quote. -/
def readString : Bytes → Option (List StringPart × Bytes)
  | [] => none
  | byte :: rest =>
    if byte = 0x22 then some ([], rest)
    else if byte = 0x5C then
      match rest with
      | [] => none
      | escape :: rest =>
        if escape = 0x75 then
          match rest with
          | first :: second :: third :: fourth :: rest => do
            let unit ← hexUnit? first second third fourth
            let (parts, after) ← readString rest
            pure (StringPart.unit unit :: parts, after)
          | _ => none
        else do
          let byte ← shortEscape? escape
          let (parts, after) ← readString rest
          pure (StringPart.byte byte :: parts, after)
    else if byte < 0x20 then none
    else do
      let (parts, after) ← readString rest
      pure (StringPart.byte byte :: parts, after)

/-- Read the optional part of a number that follows the point. -/
def readFraction : Bytes → Option (List Nat × Bytes)
  | 0x2E :: rest =>
    match takeDigits rest with
    | ([], _) => none
    | (digits, after) => some (digits, after)
  | bytes => some ([], bytes)

/-- Read the digits of an exponent. -/
def readExponentDigits (negative : Bool) (bytes : Bytes) :
    Option (Option (Bool × List Nat) × Bytes) :=
  match takeDigits bytes with
  | ([], _) => none
  | (digits, after) => some (some (negative, digits), after)

/-- Read the optional exponent of a number. -/
def readExponent : Bytes → Option (Option (Bool × List Nat) × Bytes)
  | [] => some (none, [])
  | byte :: rest =>
    if byte = 0x65 ∨ byte = 0x45 then
      match rest with
      | 0x2B :: rest => readExponentDigits false rest
      | 0x2D :: rest => readExponentDigits true rest
      | rest => readExponentDigits false rest
    else some (none, byte :: rest)

/-- Read a number from behind its sign. -/
def readNumber (negative : Bool) (bytes : Bytes) : Option (NumberSource × Bytes) := do
  let (whole, rest) := takeDigits bytes
  match whole with
  | [] => none
  | 0 :: _ :: _ => none
  | _ =>
    let (fraction, rest) ← readFraction rest
    let (exponent, rest) ← readExponent rest
    pure (⟨negative, whole, fraction, exponent⟩, rest)

/-- Drop a given beginning. -/
def expect? : Bytes → Bytes → Option Bytes
  | [], bytes => some bytes
  | wanted :: wanteds, byte :: rest => if wanted = byte then expect? wanteds rest else none
  | _ :: _, [] => none

mutual

/-- Read one value. The first argument bounds the number of nested steps; the length of the text
is always enough. -/
def readValue : Nat → Bytes → Option (JsonSource × Bytes)
  | 0, _ => none
  | fuel + 1, bytes =>
    match skipSpace bytes with
    | [] => none
    | byte :: rest =>
      if byte = 0x22 then (readString rest).map fun (parts, after) => (string parts, after)
      else if byte = 0x5B then
        match skipSpace rest with
        | 0x5D :: after => some (array [], after)
        | rest => (readItems fuel rest).map fun (items, after) => (array items, after)
      else if byte = 0x7B then
        match skipSpace rest with
        | 0x7D :: after => some (object [], after)
        | rest => (readFields fuel rest).map fun (fields, after) => (object fields, after)
      else if byte = 0x6E then
        (expect? [0x75, 0x6C, 0x6C] rest).map fun after => (null, after)
      else if byte = 0x74 then
        (expect? [0x72, 0x75, 0x65] rest).map fun after => (bool true, after)
      else if byte = 0x66 then
        (expect? [0x61, 0x6C, 0x73, 0x65] rest).map fun after => (bool false, after)
      else if byte = 0x2D then
        (readNumber true rest).map fun (literal, after) => (number literal, after)
      else
        (readNumber false (byte :: rest)).map fun (literal, after) => (number literal, after)

/-- Read items up to the closing bracket. -/
def readItems : Nat → Bytes → Option (List JsonSource × Bytes)
  | 0, _ => none
  | fuel + 1, bytes => do
    let (item, rest) ← readValue fuel bytes
    match skipSpace rest with
    | 0x5D :: after => pure ([item], after)
    | 0x2C :: rest =>
      let (items, after) ← readItems fuel rest
      pure (item :: items, after)
    | _ => none

/-- Read fields up to the closing brace. -/
def readFields : Nat → Bytes → Option (List (List StringPart × JsonSource) × Bytes)
  | 0, _ => none
  | fuel + 1, bytes => do
    match skipSpace bytes with
    | 0x22 :: rest =>
      let (name, rest) ← readString rest
      match skipSpace rest with
      | 0x3A :: rest =>
        let (field, rest) ← readValue fuel rest
        match skipSpace rest with
        | 0x7D :: after => pure ([(name, field)], after)
        | 0x2C :: rest =>
          let (fields, after) ← readFields fuel rest
          pure ((name, field) :: fields, after)
        | _ => none
      | _ => none
    | _ => none

end

/-- Read a text that holds one value and nothing else but white space. -/
def read? (bytes : Bytes) : Option JsonSource :=
  match readValue (bytes.length + 1) bytes with
  | some (value, rest) => if (skipSpace rest).isEmpty then some value else none
  | none => none

end JsonSource

end Screencast
