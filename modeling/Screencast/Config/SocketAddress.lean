import Screencast.Text.Hex

/-!
# Addresses to listen on

An address is an IPv4 or IPv6 address with a port. Of an IPv6 address the longest run of zero groups
is left out when it is written, and a mapped IPv4 address is written as such.
-/

namespace Screencast

/-- An address with a port. -/
inductive SocketAddress
  | v4 (octets : List Nat) (port : Nat)
  | v6 (groups : List Nat) (scope port : Nat)
  deriving DecidableEq, Repr, Inhabited

namespace SocketAddress

/-! ## Reading -/

/-- The value of a digit in a base of at most sixteen. -/
def digit? (base : Nat) (char : Char) : Option Nat :=
  (Text.hexValue? char).bind fun digit => if digit.val < base then some digit.val else none

/-- Read a number below a bound, of at most the given count of digits. -/
def readNumber (base bound : Nat) (maxDigits : Option Nat) (chars : List Char) :
    Option (Nat × List Char) :=
  let digits := chars.takeWhile fun char => (digit? base char).isSome
  let value := digits.foldl (fun value char => value * base + (digit? base char).getD 0) 0
  if digits.isEmpty || maxDigits.any (· < digits.length) || bound ≤ value then none
  else some (value, chars.drop digits.length)

/-- Drop a character. -/
def dropChar? (wanted : Char) : List Char → Option (List Char)
  | [] => none
  | char :: rest => if char = wanted then some rest else none

/-- Read a byte in decimal digits without a leading zero. -/
def readOctet (chars : List Char) : Option (Nat × List Char) :=
  match chars with
  | '0' :: rest => if (rest.head?.any Char.isDigit) then none else some (0, rest)
  | _ => readNumber 10 256 (some 3) chars

/-- Read the four bytes of an IPv4 address. -/
def readOctets (chars : List Char) : Option (List Nat × List Char) := do
  let (first, rest) ← readOctet chars
  let rest ← dropChar? '.' rest
  let (second, rest) ← readOctet rest
  let rest ← dropChar? '.' rest
  let (third, rest) ← readOctet rest
  let rest ← dropChar? '.' rest
  let (fourth, rest) ← readOctet rest
  pure ([first, second, third, fourth], rest)

/-- The two groups that the bytes of an IPv4 address make up. -/
def groupsOfOctets : List Nat → List Nat
  | [first, second, third, fourth] => [first * 256 + second, third * 256 + fourth]
  | _ => []

/-- Read at most the given number of groups, of which the last two may be an IPv4 address. The
truth value says whether they are. -/
def readGroups (isFirst : Bool) : Nat → List Char → List Nat × Bool × List Char
  | 0, chars => ([], false, chars)
  | limit + 1, chars =>
    match if isFirst then some chars else dropChar? ':' chars with
    | none => ([], false, chars)
    | some rest =>
      match if limit = 0 then none else readOctets rest with
      | some (octets, rest) => (groupsOfOctets octets, true, rest)
      | none =>
        match readNumber 16 65536 (some 4) rest with
        | none => ([], false, chars)
        | some (group, rest) =>
          let (groups, isMapped, rest) := readGroups false limit rest
          (group :: groups, isMapped, rest)

/-- Read the eight groups of an IPv6 address, of which one run of zeros may be left out. -/
def readIpv6 (chars : List Char) : Option (List Nat × List Char) :=
  let (head, isMapped, rest) := readGroups true 8 chars
  if head.length = 8 then some (head, rest)
  else if isMapped then none
  else do
    let rest ← dropChar? ':' rest
    let rest ← dropChar? ':' rest
    let (tail, _, rest) := readGroups true (7 - head.length) rest
    pure (head ++ List.replicate (8 - head.length - tail.length) 0 ++ tail, rest)

/-- Read a port at the end of an address. -/
def readPort (chars : List Char) : Option Nat := do
  let rest ← dropChar? ':' chars
  let (port, rest) ← readNumber 10 65536 none rest
  if rest.isEmpty then pure port else none

/-- Read the number of a scope, which may be left out. -/
def readScope (chars : List Char) : Option (Nat × List Char) :=
  match chars with
  | '%' :: rest => readNumber 10 4294967296 none rest
  | _ => some (0, chars)

/-- Read an IPv4 address with a port. -/
def readV4 (chars : List Char) : Option SocketAddress := do
  let (octets, rest) ← readOctets chars
  let port ← readPort rest
  pure (v4 octets port)

/-- Read an IPv6 address in brackets with a port. -/
def readV6 (chars : List Char) : Option SocketAddress := do
  let rest ← dropChar? '[' chars
  let (groups, rest) ← readIpv6 rest
  let (scope, rest) ← readScope rest
  let rest ← dropChar? ']' rest
  let port ← readPort rest
  pure (v6 groups scope port)

/-- Read an address. -/
def parse? (text : String) : Option SocketAddress :=
  (readV4 text.toList).or (readV6 text.toList)

/-! ## Writing -/

/-- The text of the bytes of an IPv4 address. -/
def octetsText (octets : List Nat) : String := ".".intercalate (octets.map toString)

/-- The text of groups. -/
def groupsText (groups : List Nat) : String := ":".intercalate (groups.map Text.hexText)

/-- The number of zeros at the start of groups. -/
def leadingZeros (groups : List Nat) : Nat := (groups.takeWhile (· = 0)).length

/-- The start and the length of the longest run of zeros, the first one of equal length. -/
def longestZeros (position : Nat) : List Nat → Nat × Nat
  | [] => (0, 0)
  | group :: rest =>
    let here := leadingZeros (group :: rest)
    let (start, length) := longestZeros (position + 1) rest
    if here ≠ 0 ∧ length ≤ here then (position, here) else (start, length)

/-- The text of an IPv6 address. -/
def ipv6Text (groups : List Nat) : String :=
  match groups with
  | [0, 0, 0, 0, 0, 0xFFFF, high, low] =>
    "::ffff:" ++ octetsText [high / 256, high % 256, low / 256, low % 256]
  | _ =>
    let (start, length) := longestZeros 0 groups
    if 1 < length then
      groupsText (groups.take start) ++ "::" ++ groupsText (groups.drop (start + length))
    else groupsText groups

/-- The text of an address. -/
def text : SocketAddress → String
  | v4 octets port => octetsText octets ++ ":" ++ toString port
  | v6 groups scope port =>
    let zone := if scope = 0 then "" else "%" ++ toString scope
    "[" ++ ipv6Text groups ++ zone ++ "]:" ++ toString port

end SocketAddress

end Screencast
