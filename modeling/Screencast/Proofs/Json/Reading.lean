import Screencast.Proofs.Json.Literals

/-!
# Reading written JSON

The compact and the indented form of a value differ in their blanks only. Whatever blanks there are,
a value whose numbers are integers is read up to its end, as a tree that has the digits of the
numbers and the parts of the strings.
-/

namespace Screencast

namespace JsonSource

/-! ## Blanks -/

/-- Nothing but blanks, tabs and line breaks. -/
def IsBlank (bytes : Bytes) : Prop :=
  ∀ byte ∈ bytes, byte = 0x20 ∨ byte = 0x0A ∨ byte = 0x09 ∨ byte = 0x0D

variable {blank bytes rest after : Bytes} {fuel : Nat}

attribute [local simp] readValue readItems readFields

/-- Leading blanks are dropped. -/
theorem skipSpace_append (isBlank : IsBlank blank) (bytes : Bytes) :
    skipSpace (blank ++ bytes) = skipSpace bytes := by
  induction blank with
  | nil => rfl
  | cons byte others inductionHypothesis =>
      obtain ⟨isSpace, areBlank⟩ := List.forall_mem_cons.1 isBlank
      rw [List.cons_append, skipSpace, if_pos isSpace, inductionHypothesis areBlank]

/-- What is left when leading blanks are dropped does not begin with a blank. -/
theorem skipSpace_skipSpace (bytes : Bytes) : skipSpace (skipSpace bytes) = skipSpace bytes := by
  induction bytes with
  | nil => rfl
  | cons byte rest inductionHypothesis =>
      rw [skipSpace]
      split
      next => exact inductionHypothesis
      next notSpace => rw [skipSpace, if_neg notSpace]

/-- Nothing is left exactly of blanks. -/
theorem skipSpace_eq_nil_iff (bytes : Bytes) : skipSpace bytes = [] ↔ IsBlank bytes := by
  induction bytes with
  | nil => exact ⟨fun _ => List.forall_mem_nil _, fun _ => rfl⟩
  | cons byte rest inductionHypothesis =>
      rw [skipSpace, IsBlank, List.forall_mem_cons]
      split
      next isSpace => exact inductionHypothesis.trans (and_iff_right isSpace).symm
      next notSpace =>
        constructor
        · rintro ⟨⟩
        · rintro ⟨isSpace, _⟩
          exact absurd isSpace notSpace

theorem readValue_skipSpace (fuel : Nat) (bytes : Bytes) :
    readValue fuel (skipSpace bytes) = readValue fuel bytes := by
  cases fuel with
  | zero => simp only [readValue]
  | succ fuel => simp only [readValue, skipSpace_skipSpace]

theorem readValue_append (isBlank : IsBlank blank) (fuel : Nat) (bytes : Bytes) :
    readValue fuel (blank ++ bytes) = readValue fuel bytes := by
  rw [← readValue_skipSpace, skipSpace_append isBlank, readValue_skipSpace]

theorem readItems_skipSpace (fuel : Nat) (bytes : Bytes) :
    readItems fuel (skipSpace bytes) = readItems fuel bytes := by
  cases fuel with
  | zero => simp only [readItems]
  | succ fuel => simp only [readItems, readValue_skipSpace]

theorem readFields_skipSpace (fuel : Nat) (bytes : Bytes) :
    readFields fuel (skipSpace bytes) = readFields fuel bytes := by
  cases fuel with
  | zero => simp only [readFields]
  | succ fuel => simp only [readFields, skipSpace_skipSpace]

/-! ## One value -/

theorem readValue_null (fuel : Nat) (rest : Bytes) :
    readValue (fuel + 1) (0x6E :: 0x75 :: 0x6C :: 0x6C :: rest) = some (null, rest) := by
  simp [readValue, skipSpace, expect?]

theorem readValue_true (fuel : Nat) (rest : Bytes) :
    readValue (fuel + 1) (0x74 :: 0x72 :: 0x75 :: 0x65 :: rest) = some (bool true, rest) := by
  simp [readValue, skipSpace, expect?]

theorem readValue_false (fuel : Nat) (rest : Bytes) :
    readValue (fuel + 1) (0x66 :: 0x61 :: 0x6C :: 0x73 :: 0x65 :: rest) =
      some (bool false, rest) := by
  simp [readValue, skipSpace, expect?]

theorem readValue_string
    {parts : List StringPart}
    (isRead : readString rest = some (parts, after)) :
    readValue (fuel + 1) (0x22 :: rest) = some (string parts, after) := by
  simp [readValue, skipSpace, isRead]

theorem readValue_negative
    {literal : NumberSource}
    (isRead : readNumber true rest = some (literal, after)) :
    readValue (fuel + 1) (0x2D :: rest) = some (number literal, after) := by
  simp [readValue, skipSpace, isRead]

/-- A digit is none of the bytes that begin other values. -/
theorem ne_of_isDigit
    {byte other : UInt8}
    {digit : Nat}
    (isDigit : digit? byte = some digit)
    (isOther : digit? other = none) :
    byte ≠ other := by
  rintro rfl
  cases isDigit.symm.trans isOther

/-- A number without a sign is read from its first digit. -/
theorem readValue_number
    {byte : UInt8}
    {digit : Nat}
    {literal : NumberSource}
    (isDigit : digit? byte = some digit)
    (isRead : readNumber false (byte :: rest) = some (literal, after)) :
    readValue (fuel + 1) (byte :: rest) = some (number literal, after) := by
  have notSpace : ¬(byte = 0x20 ∨ byte = 0x0A ∨ byte = 0x09 ∨ byte = 0x0D) := by
    simp only [ne_of_isDigit isDigit (rfl : digit? 0x20 = none),
      ne_of_isDigit isDigit (rfl : digit? 0x0A = none),
      ne_of_isDigit isDigit (rfl : digit? 0x09 = none),
      ne_of_isDigit isDigit (rfl : digit? 0x0D = none), or_self, not_false_eq_true]
  rw [readValue, skipSpace, if_neg notSpace]
  simp only [ne_of_isDigit isDigit (rfl : digit? 0x22 = none),
    ne_of_isDigit isDigit (rfl : digit? 0x5B = none),
    ne_of_isDigit isDigit (rfl : digit? 0x7B = none),
    ne_of_isDigit isDigit (rfl : digit? 0x6E = none),
    ne_of_isDigit isDigit (rfl : digit? 0x74 = none),
    ne_of_isDigit isDigit (rfl : digit? 0x66 = none),
    ne_of_isDigit isDigit (rfl : digit? 0x2D = none), if_false, isRead, Option.map_some]

theorem readValue_array_nil (fuel : Nat) (rest : Bytes) :
    readValue (fuel + 1) (0x5B :: 0x5D :: rest) = some (array [], rest) := by
  simp [readValue, skipSpace]

theorem readValue_object_nil (fuel : Nat) (rest : Bytes) :
    readValue (fuel + 1) (0x7B :: 0x7D :: rest) = some (object [], rest) := by
  simp [readValue, skipSpace]

theorem readValue_bracket (fuel : Nat) (rest : Bytes) : readValue fuel (0x5D :: rest) = none := by
  cases fuel with
  | zero => simp only [readValue]
  | succ fuel => simp [readValue, skipSpace, readNumber, takeDigits, digit?]

/-- An array whose items are read is read. -/
theorem readValue_array
    {items : List JsonSource}
    (isRead : readItems fuel rest = some (items, after)) :
    readValue (fuel + 1) (0x5B :: rest) = some (array items, after) := by
  have isItem : ∀ others, skipSpace rest ≠ 0x5D :: others := by
    intro others closes
    rw [← readItems_skipSpace, closes] at isRead
    cases fuel with
    | zero => simp [readItems] at isRead
    | succ fuel => simp [readItems, readValue_bracket] at isRead
  rw [← readItems_skipSpace] at isRead
  -- The match takes its second way because of `isItem`.
  simp [readValue, skipSpace, isRead]

/-- An object whose fields are read is read. -/
theorem readValue_object
    {fields : List (List StringPart × JsonSource)}
    (isRead : readFields fuel rest = some (fields, after)) :
    readValue (fuel + 1) (0x7B :: rest) = some (object fields, after) := by
  have isField : ∀ others, skipSpace rest ≠ 0x7D :: others := by
    intro others closes
    rw [← readFields_skipSpace, closes] at isRead
    cases fuel with
    | zero => simp [readFields] at isRead
    | succ fuel => simp [readFields, skipSpace] at isRead
  rw [← readFields_skipSpace] at isRead
  -- The match takes its second way because of `isField`.
  simp [readValue, skipSpace, isRead]

/-! ## Items and fields -/

theorem readItems_singleton
    {item : JsonSource}
    (isRead : readValue fuel bytes = some (item, rest))
    (closes : skipSpace rest = 0x5D :: after) :
    readItems (fuel + 1) bytes = some ([item], after) := by
  simp [readItems, isRead, closes]

/-- An item is read up to the comma, and the others behind it. -/
theorem readItems_cons
    {item : JsonSource}
    {items : List JsonSource}
    {more : Bytes}
    (isRead : readValue fuel bytes = some (item, rest))
    (goesOn : skipSpace rest = 0x2C :: more)
    (areRead : readItems fuel more = some (items, after)) :
    readItems (fuel + 1) bytes = some (item :: items, after) := by
  simp [readItems, isRead, goesOn, areRead]

/-- The last field is read up to the closing brace. -/
theorem readFields_singleton
    {name : List StringPart}
    {field : JsonSource}
    {quoted colon gap : Bytes}
    (begins : skipSpace bytes = 0x22 :: quoted)
    (isNamed : readString quoted = some (name, colon))
    (hasColon : skipSpace colon = 0x3A :: gap)
    (isRead : readValue fuel gap = some (field, rest))
    (closes : skipSpace rest = 0x7D :: after) :
    readFields (fuel + 1) bytes = some ([(name, field)], after) := by
  simp [readFields, begins, isNamed, hasColon, isRead, closes]

/-- A field is read up to the comma, and the others behind it. -/
theorem readFields_cons
    {name : List StringPart}
    {field : JsonSource}
    {fields : List (List StringPart × JsonSource)}
    {quoted colon gap more : Bytes}
    (begins : skipSpace bytes = 0x22 :: quoted)
    (isNamed : readString quoted = some (name, colon))
    (hasColon : skipSpace colon = 0x3A :: gap)
    (isRead : readValue fuel gap = some (field, rest))
    (goesOn : skipSpace rest = 0x2C :: more)
    (areRead : readFields fuel more = some (fields, after)) :
    readFields (fuel + 1) bytes = some ((name, field) :: fields, after) := by
  simp [readFields, begins, isNamed, hasColon, isRead, goesOn, areRead]

end JsonSource

end Screencast
