import Screencast.Text.Split
import Screencast.Text.Utf8

/-!
# Request targets

A request names what it wants by a path with a query, by a star, by an authority alone, or by an
absolute address with a scheme. A part after a number sign is dropped.
-/

namespace Screencast

namespace Http

/-- The path and the query of a request. -/
structure Target where
  path : String
  query : Option String
  deriving DecidableEq, Repr, Inhabited

namespace Target

/-- Whether a character may stand in a path. -/
def isPathChar (char : Char) : Bool :=
  let code := char.toNat
  code = 0x21 || code = 0x22 || (0x24 ≤ code && code ≤ 0x3B) || code = 0x3D ||
    (0x40 ≤ code && code ≤ 0x5F) || (0x61 ≤ code && code ≤ 0x7E)

/-- Whether a character may stand in a query. -/
def isQueryChar (char : Char) : Bool :=
  let code := char.toNat
  code = 0x21 || (0x24 ≤ code && code ≤ 0x3B) || code = 0x3D || (0x3F ≤ code && code ≤ 0x7E)

/-- Read a path and its query. -/
def readPath (chars : List Char) : Option Target :=
  let chars := chars.takeWhile (· ≠ '#')
  let path := chars.takeWhile (· ≠ '?')
  let rest := chars.drop path.length
  if !path.all isPathChar then none
  else
    match rest with
    | [] => some { path := String.ofList path, query := none }
    | _ :: query =>
      if query.all isQueryChar then
        some { path := String.ofList path, query := some (String.ofList query) }
      else none

/-- Whether a character may stand in an authority. -/
def isAuthorityChar (char : Char) : Bool :=
  char.isAlphanum || "!$&'()*+,-.:;=@[]_~".toList.contains char

/-- What has been seen of an authority. -/
structure Authority where
  length : Nat := 0
  colons : Nat := 0
  opened : Bool := false
  closed : Bool := false
  percent : Bool := false
  endsWithAt : Bool := false

/-- Read one more character of an authority. -/
def Authority.read (seen : Authority) (char : Char) : Option Authority :=
  let seen := { seen with length := seen.length + 1, endsWithAt := char = '@' }
  if char = ':' then
    if 8 ≤ seen.colons then none else some { seen with colons := seen.colons + 1 }
  else if char = '[' then
    if seen.percent || seen.opened then none else some { seen with opened := true }
  else if char = ']' then
    if !seen.opened || seen.closed then none
    else some { seen with closed := true, colons := 0, percent := false }
  else if char = '@' then some { seen with colons := 0, percent := false }
  else if char = '%' then some { seen with percent := true }
  else if isAuthorityChar char then some seen
  else none

/-- The length of the authority at the start of an address. -/
def authorityLength? (chars : List Char) : Option Nat := do
  let authority := chars.takeWhile fun char => char ≠ '/' && char ≠ '?' && char ≠ '#'
  let seen ← authority.foldlM Authority.read {}
  if seen.opened ≠ seen.closed || 1 < seen.colons || seen.endsWithAt || seen.percent then none
  else pure seen.length

/-- Whether a character may stand in a scheme. -/
def isSchemeChar (char : Char) : Bool :=
  char.isAlphanum || "+-.~".toList.contains char

/-- What follows the scheme of an absolute address. -/
def afterScheme? (chars : List Char) : Option (List Char) :=
  let scheme := chars.takeWhile isSchemeChar
  match chars.drop scheme.length with
  | ':' :: '/' :: '/' :: rest => some rest
  | _ => none

/-- Read an absolute address, or an authority alone. -/
def readAddress (chars : List Char) : Option Target :=
  match afterScheme? chars with
  | some rest => do
    if 64 < (chars.takeWhile isSchemeChar).length then none
    else
      let length ← authorityLength? rest
      if length = 0 then none
      else
        let target ← readPath (rest.drop length)
        pure (if target.path = "" then { target with path := "/" } else target)
  | none => do
    let length ← authorityLength? chars
    if length = chars.length then pure { path := "", query := none } else none

/-- The greatest number of bytes of a target. -/
def maxLength : Nat := 65534

/-- Read a target. -/
def parse? (text : String) : Option Target :=
  if maxLength < (Text.encode text).length then none
  else
    match text.toList with
    | [] => none
    | ['*'] => some { path := "*", query := none }
    | '/' :: rest => readPath ('/' :: rest)
    | chars => readAddress chars

end Target

end Http

end Screencast
