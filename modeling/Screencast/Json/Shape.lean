import Screencast.Json.Reader

/-!
# Typed values of JSON texts

Readers for the values that files and payloads are made of. A structure may be written as an object
or as the array of its fields in order. In an object unknown fields are passed over whatever they
hold, and a known field may stand only once.
-/

namespace Screencast

/-- A reader of a typed value from a tree, within a nesting allowance. -/
abbrev Shape (value : Type) := Nat → JsonSource → Option value

namespace Shape

variable {value : Type}

/-- A text. -/
def text : Shape String
  | _, JsonSource.string parts => StringPart.text? parts
  | _, _ => none

/-- A truth value. -/
def bool : Shape Bool
  | _, JsonSource.bool value => some value
  | _, _ => none

/-- An integer between two bounds, both included. -/
def integer (low high : Int) : Shape Int
  | _, JsonSource.number literal =>
    match literal.toNumber? with
    | some (Number.integer value) => if low ≤ value ∧ value ≤ high then some value else none
    | _ => none
  | _, _ => none

/-- An unsigned integer of 32 bits. -/
def word : Shape Nat := fun allowance source =>
  (integer 0 Bounds.greatestWord allowance source).map Int.toNat

/-- A signed integer of 64 bits. -/
def long : Shape Int := integer Bounds.leastSigned Bounds.greatestSigned

/-- A text that a function accepts. -/
def parsed (parse : String → Option value) : Shape value := fun allowance source =>
  text allowance source >>= parse

/-- A value, or nothing where the text says `null`. -/
def optional (shape : Shape value) : Shape (Option value)
  | _, JsonSource.null => some none
  | allowance, source => (shape allowance source).map some

/-- An array of values. -/
def list (shape : Shape value) : Shape (List value)
  | allowance, JsonSource.array items => do
    let allowance ← JsonSource.enter? allowance
    items.mapM (shape allowance)
  | _, _ => none

/-- An object as a map, in which the last of equal names wins. -/
def map (shape : Shape value) : Shape (KeyMap value)
  | allowance, JsonSource.object fields => do
    let allowance ← JsonSource.enter? allowance
    let pairs ← fields.mapM fun (name, source) => do
      let name ← StringPart.text? name
      let entry ← shape allowance source
      pure (name, entry)
    pure (KeyMap.ofList pairs)
  | _, _ => none

/-- An object as a row: any values under any names. -/
def row : Shape (KeyMap Json)
  | allowance, JsonSource.object fields =>
    match JsonSource.toJson? allowance (JsonSource.object fields) with
    | some (Json.object row) => some row
    | _ => none
  | _, _ => none

end Shape

/-- The fields of a structure, as they are found in an object or in an array. -/
structure Members where
  allowance : Nat
  isObject : Bool
  found : List (String × JsonSource)

namespace Members

variable {value : Type}

/-- The fields of an object, by their names. A known name may stand only once. -/
def ofFields (names : List String) :
    List (List StringPart × JsonSource) → Option (List (String × JsonSource))
  | [] => some []
  | (name, source) :: rest => do
    let name ← StringPart.text? name
    let others ← ofFields names rest
    if names.contains name then
      if (others.map (·.1)).contains name then none else pure ((name, source) :: others)
    else pure others

/-- The fields of a structure with the given names. -/
def of (names : List String) (allowance : Nat) : JsonSource → Option Members
  | JsonSource.object fields => do
    let allowance ← JsonSource.enter? allowance
    let found ← ofFields names fields
    pure ⟨allowance, true, found⟩
  | JsonSource.array items => do
    let allowance ← JsonSource.enter? allowance
    if names.length < items.length then none else pure ⟨allowance, false, names.zip items⟩
  | _ => none

/-- A field that has to be there. -/
def required (members : Members) (name : String) (shape : Shape value) : Option value :=
  match members.found.lookup name with
  | some source => shape members.allowance source
  | none => none

/-- A field with a value for when it is missing. -/
def withDefault (members : Members) (name : String) (shape : Shape value) (default : value) :
    Option value :=
  match members.found.lookup name with
  | some source => shape members.allowance source
  | none => some default

/-- A field that may be `null`, and that may be missing from an object but not from an array. -/
def optional (members : Members) (name : String) (shape : Shape value) : Option (Option value) :=
  match members.found.lookup name with
  | some source => Shape.optional shape members.allowance source
  | none => if members.isObject then some none else none

end Members

end Screencast
