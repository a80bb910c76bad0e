import Screencast.Text.Utf8

/-!
# Hexadecimal digits
-/

namespace Screencast

namespace Text

/-- The lowest hexadecimal digit of a number. -/
def lowDigit (number : Nat) : Fin 16 := ⟨number % 16, Nat.mod_lt number (Nat.zero_lt_succ 15)⟩

/-- The value of a hexadecimal digit in either case. -/
def hexValue? (char : Char) : Option (Fin 16) :=
  if '0' ≤ char ∧ char ≤ '9' then some (lowDigit (char.toNat - '0'.toNat))
  else if 'a' ≤ char ∧ char ≤ 'f' then some (lowDigit (char.toNat - 'a'.toNat + 10))
  else if 'A' ≤ char ∧ char ≤ 'F' then some (lowDigit (char.toNat - 'A'.toNat + 10))
  else none

/-- The lower-case digit of a value. -/
def hexDigit (value : Fin 16) : Char :=
  if value.val < 10 then Char.ofNat ('0'.toNat + value.val)
  else Char.ofNat ('a'.toNat + (value.val - 10))

/-- The upper-case digit of a value. -/
def hexCapital (value : Fin 16) : Char :=
  if value.val < 10 then Char.ofNat ('0'.toNat + value.val)
  else Char.ofNat ('A'.toNat + (value.val - 10))

@[simp] theorem hexValue?_hexDigit (value : Fin 16) : hexValue? (hexDigit value) = some value := by
  revert value; decide

@[simp] theorem hexValue?_hexCapital (value : Fin 16) :
    hexValue? (hexCapital value) = some value := by
  revert value; decide

/-- The upper and the lower half of a byte. -/
def nibbles (byte : UInt8) : Fin 16 × Fin 16 :=
  (lowDigit (byte.toNat / 16), lowDigit (byte.toNat % 16))

/-- The byte with the given halves. -/
def ofNibbles (high low : Fin 16) : UInt8 := UInt8.ofNat (high.val * 16 + low.val)

@[simp] theorem ofNibbles_nibbles (byte : UInt8) :
    ofNibbles (nibbles byte).1 (nibbles byte).2 = byte := by
  have bound := byte.toNat_lt
  apply UInt8.toNat_inj.1
  simp only [ofNibbles, nibbles, lowDigit, UInt8.toNat_ofNat']
  omega

/-- The lower-case hexadecimal text of a number, without leading zeros. -/
def hexText (number : Nat) : String := String.ofList (Nat.toDigits 16 number)

/-- The two-digit lower-case text of each byte. -/
def hexOfBytes (bytes : Bytes) : String :=
  String.ofList (bytes.flatMap fun byte => [hexDigit (nibbles byte).1, hexDigit (nibbles byte).2])

/-- Read pairs of hexadecimal digits as bytes. -/
def bytesOfHexChars? : List Char → Option Bytes
  | [] => some []
  | [_] => none
  | high :: low :: rest => do
    let high ← hexValue? high
    let low ← hexValue? low
    let bytes ← bytesOfHexChars? rest
    pure (ofNibbles high low :: bytes)

end Text

end Screencast
