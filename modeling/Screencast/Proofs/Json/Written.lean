import Screencast.Proofs.Json.Reading

/-!
# Reading what was written

The compact and the indented form of a value differ in their blanks only. Whatever blanks there are,
a value whose numbers are integers is read up to its end, as a tree that has the digits of the
numbers and the parts of the strings.
-/

namespace Screencast

/-- Where a written value has blanks: before every item at a level, and behind a colon. -/
structure Layout where
  lineBreak : Nat → String
  colon : String

namespace Layout

/-- No blanks at all. -/
def dense : Layout := { lineBreak := fun _ => "", colon := ":" }

/-- Every item on a line of its own. -/
def lined : Layout := { lineBreak := Json.lineBreak, colon := ": " }

/-- There are only blanks where there may be some. -/
structure IsBlank (layout : Layout) : Prop where
  lineBreak : ∀ level, JsonSource.IsBlank (Text.encode (layout.lineBreak level))
  colon : ∃ gap, Text.encode layout.colon = 0x3A :: gap ∧ JsonSource.IsBlank gap

theorem isBlank_dense : dense.IsBlank :=
  ⟨fun _ => List.forall_mem_nil _, [], rfl, List.forall_mem_nil _⟩

/-- Line breaks and indentations are blanks. -/
theorem isBlank_lined : lined.IsBlank := by
  constructor
  case lineBreak =>
    intro level byte present
    obtain ⟨char, isThere, inChar⟩ := List.mem_flatMap.1 present
    have isLineBreak : char ∈ '\n' :: List.replicate (2 * level) ' ' := by
      simpa [lined, Json.lineBreak] using isThere
    rcases List.mem_cons.1 isLineBreak with rfl | isIndentation
    · exact Or.inr (Or.inl (List.mem_singleton.1 inChar))
    · obtain rfl := List.eq_of_mem_replicate isIndentation
      exact Or.inl (List.mem_singleton.1 inChar)
  case colon => exact ⟨[0x20], rfl, List.forall_mem_singleton.2 (Or.inl rfl)⟩

end Layout

namespace Json

/-! ## Layouts -/

mutual

/-- The text of a value that starts at a level of a layout. -/
def written (layout : Layout) (level : Nat) : Json → String
  | null => "null"
  | bool true => "true"
  | bool false => "false"
  | number value => value.text
  | string text => stringText text
  | array [] => "[]"
  | array items =>
    "[" ++ writtenItems layout (level + 1) items ++ layout.lineBreak level ++ "]"
  | object [] => "\x7b\x7d"
  | object fields =>
    "\x7b" ++ writtenFields layout (level + 1) fields ++ layout.lineBreak level ++ "\x7d"

/-- The texts of items, with commas between them. -/
def writtenItems (layout : Layout) (level : Nat) : List Json → String
  | [] => ""
  | [item] => layout.lineBreak level ++ written layout level item
  | item :: rest =>
    layout.lineBreak level ++ written layout level item ++ "," ++ writtenItems layout level rest

/-- The texts of fields, with commas between them. -/
def writtenFields (layout : Layout) (level : Nat) : List (String × Json) → String
  | [] => ""
  | [(name, field)] =>
    layout.lineBreak level ++ stringText name ++ layout.colon ++ written layout level field
  | (name, field) :: rest =>
    layout.lineBreak level ++ stringText name ++ layout.colon ++ written layout level field ++
      "," ++ writtenFields layout level rest

end

mutual

/-- The indented form is the one with every item on a line of its own. -/
theorem indented_eq_written (level : Nat) :
    ∀ value : Json, indented level value = written Layout.lined level value
  | null => by simp only [indented, written]
  | bool true => by simp only [indented, written]
  | bool false => by simp only [indented, written]
  | number value => by simp only [indented, written]
  | string text => by simp only [indented, written]
  | array [] => by simp only [indented, written]
  | array (item :: rest) => by
      simp only [indented, written, indentedItems_eq_written (level + 1) (item :: rest)]
      rfl
  | object [] => by simp only [indented, written]
  | object (field :: rest) => by
      simp only [indented, written, indentedFields_eq_written (level + 1) (field :: rest)]
      rfl

/-- The indented items are those with every item on a line of its own. -/
theorem indentedItems_eq_written (level : Nat) :
    ∀ items : List Json, indentedItems level items = writtenItems Layout.lined level items
  | [] => by simp only [indentedItems, writtenItems]
  | [item] => by
      simp only [indentedItems, writtenItems, indented_eq_written level item]
      rfl
  | item :: other :: rest => by
      simp only [indentedItems, writtenItems, indented_eq_written level item,
        indentedItems_eq_written level (other :: rest)]
      rfl

/-- The indented fields are those with every field on a line of its own. -/
theorem indentedFields_eq_written (level : Nat) :
    ∀ fields : List (String × Json),
      indentedFields level fields = writtenFields Layout.lined level fields
  | [] => by simp only [indentedFields, writtenFields]
  | [(name, field)] => by
      simp only [indentedFields, writtenFields, indented_eq_written level field]
      rfl
  | (name, field) :: other :: rest => by
      simp only [indentedFields, writtenFields, indented_eq_written level field,
        indentedFields_eq_written level (other :: rest)]
      rfl

end

mutual

/-- The compact form is the one without blanks. -/
theorem compact_eq_written (level : Nat) :
    ∀ value : Json, compact value = written Layout.dense level value
  | null => by simp only [compact, written]
  | bool true => by simp only [compact, written]
  | bool false => by simp only [compact, written]
  | number value => by simp only [compact, written]
  | string text => by simp only [compact, written]
  | array [] => by simp only [compact, written, compactItems]; rfl
  | array (item :: rest) => by
      simp only [compact, written, compactItems_eq_written (level + 1) (item :: rest)]
      simp only [Layout.dense, String.append_empty]
  | object [] => by simp only [compact, written, compactFields]; rfl
  | object (field :: rest) => by
      simp only [compact, written, compactFields_eq_written (level + 1) (field :: rest)]
      simp only [Layout.dense, String.append_empty]

/-- The compact items are those without blanks. -/
theorem compactItems_eq_written (level : Nat) :
    ∀ items : List Json, compactItems items = writtenItems Layout.dense level items
  | [] => by simp only [compactItems, writtenItems]
  | [item] => by
      simp only [compactItems, writtenItems, compact_eq_written level item]
      simp only [Layout.dense, String.empty_append]
  | item :: other :: rest => by
      simp only [compactItems, writtenItems, compact_eq_written level item,
        compactItems_eq_written level (other :: rest)]
      simp only [Layout.dense, String.empty_append]

/-- The compact fields are those without blanks. -/
theorem compactFields_eq_written (level : Nat) :
    ∀ fields : List (String × Json),
      compactFields fields = writtenFields Layout.dense level fields
  | [] => by simp only [compactFields, writtenFields]
  | [(name, field)] => by
      simp only [compactFields, writtenFields, compact_eq_written level field]
      simp only [Layout.dense, String.empty_append]
  | (name, field) :: other :: rest => by
      simp only [compactFields, writtenFields, compact_eq_written level field,
        compactFields_eq_written level (other :: rest)]
      simp only [Layout.dense, String.empty_append]

end

/-! ## Trees -/

mutual

/-- The tree that a value is read as. There is none for a double, which is left out. -/
def source : Json → JsonSource
  | null => JsonSource.null
  | bool value => JsonSource.bool value
  | number (Number.integer value) => JsonSource.number (NumberSource.ofInt value)
  | number (Number.double _) => JsonSource.null
  | string text => JsonSource.string (StringPart.ofText text)
  | array items => JsonSource.array (sourceItems items)
  | object fields => JsonSource.object (sourceFields fields)

/-- The trees that items are read as. -/
def sourceItems : List Json → List JsonSource
  | [] => []
  | item :: rest => source item :: sourceItems rest

/-- The names and the trees that fields are read as. -/
def sourceFields : List (String × Json) → List (List StringPart × JsonSource)
  | [] => []
  | (name, field) :: rest => (StringPart.ofText name, source field) :: sourceFields rest

end

theorem sourceItems_eq_map (items : List Json) : sourceItems items = items.map source := by
  induction items with
  | nil => rfl
  | cons item rest inductionHypothesis => simp [sourceItems, inductionHypothesis]

theorem sourceFields_eq_map (fields : List (String × Json)) :
    sourceFields fields =
      fields.map fun (name, field) => (StringPart.ofText name, source field) := by
  induction fields with
  | nil => rfl
  | cons pair rest inductionHypothesis => simp [sourceFields, inductionHypothesis]

/-- All numbers in a value are integers of at most 64 bits. -/
inductive IsIntegral : Json → Prop
  | null : IsIntegral null
  | bool (value : Bool) : IsIntegral (bool value)
  | integer {value : Int} (least : Bounds.leastSigned ≤ value)
      (greatest : value ≤ Bounds.greatestLong) : IsIntegral (integer value)
  | string (text : String) : IsIntegral (string text)
  | array {items : List Json} (all : ∀ item ∈ items, IsIntegral item) : IsIntegral (array items)
  | object {fields : List (String × Json)} (all : ∀ field ∈ fields, IsIntegral field.2) :
      IsIntegral (object fields)

/-! ## Reading -/

open JsonSource

variable {layout : Layout} {level fuel : Nat} {rest : Bytes}

/-- The text of a value is read as its tree, whatever follows that does not go on with a number. -/
def ReadsBack (layout : Layout) (level : Nat) (value : Json) : Prop :=
  ∀ {fuel rest}, (Text.encode (written layout level value)).length < fuel → EndsNumber rest →
    readValue fuel (Text.encode (written layout level value) ++ rest) = some (source value, rest)

/-- Blanks do not go on with a number. -/
theorem endsNumber_append
    {blank : Bytes}
    (isBlank : JsonSource.IsBlank blank)
    (ends : EndsNumber rest) :
    EndsNumber (blank ++ rest) := by
  cases blank with
  | nil => exact ends
  | cons byte others =>
      intro first isFirst
      obtain rfl := Option.some.inj isFirst
      rcases isBlank byte List.mem_cons_self with rfl | rfl | rfl | rfl <;> decide

/-- A byte that cannot stand in a number ends it. -/
theorem endsNumber_cons
    {byte : UInt8}
    (isOther : digit? byte = none ∧ byte ≠ 0x2E ∧ byte ≠ 0x65 ∧ byte ≠ 0x45)
    (rest : Bytes) :
    EndsNumber (byte :: rest) := by
  intro first isFirst
  obtain rfl := Option.some.inj isFirst
  exact isOther

theorem encode_comma : Text.encode "," = [0x2C] := rfl

theorem skipSpace_comma (rest : Bytes) : skipSpace (0x2C :: rest) = 0x2C :: rest := rfl

/-- Items that are read back one by one are read up to the closing bracket. -/
theorem readItems_writtenItems
    {items : List Json}
    (isBlank : layout.IsBlank)
    (nonempty : items ≠ [])
    (readBack : ∀ item ∈ items, ReadsBack layout level item)
    (enough : (Text.encode (writtenItems layout level items)).length + 1 < fuel)
    (closingLevel : Nat)
    (rest : Bytes) :
    readItems fuel (Text.encode (writtenItems layout level items) ++
        (Text.encode (layout.lineBreak closingLevel) ++ 0x5D :: rest)) =
      some (sourceItems items, rest) := by
  have isBreak := isBlank.lineBreak closingLevel
  have isIndentation := isBlank.lineBreak level
  induction items generalizing fuel with
  | nil => exact absurd rfl nonempty
  | cons item others inductionHypothesis =>
      obtain ⟨readsBack, readBackToo⟩ := List.forall_mem_cons.1 readBack
      obtain ⟨fuel, rfl⟩ := Nat.exists_eq_add_one_of_ne_zero (Nat.ne_zero_of_lt enough)
      cases others with
      | nil =>
          simp only [writtenItems, Text.encode_append, List.length_append, List.append_assoc]
            at enough ⊢
          refine readItems_singleton ?_ (skipSpace_append isBreak (0x5D :: rest))
          rw [readValue_append isIndentation]
          exact readsBack (by omega) (endsNumber_append isBreak (endsNumber_cons (by decide) rest))
      | cons other others =>
          simp only [writtenItems, Text.encode_append, List.length_append, List.append_assoc,
            encode_comma, List.singleton_append, List.length_cons] at enough ⊢
          refine readItems_cons ?_ (skipSpace_comma _)
            (inductionHypothesis (List.cons_ne_nil _ _) readBackToo (by omega))
          rw [readValue_append isIndentation]
          exact readsBack (by omega) (endsNumber_cons (by decide) _)

/-- Fields whose values are read back one by one are read up to the closing brace. -/
theorem readFields_writtenFields
    {fields : List (String × Json)}
    (isBlank : layout.IsBlank)
    (nonempty : fields ≠ [])
    (readBack : ∀ field ∈ fields, ReadsBack layout level field.2)
    (enough : (Text.encode (writtenFields layout level fields)).length + 1 < fuel)
    (closingLevel : Nat)
    (rest : Bytes) :
    readFields fuel (Text.encode (writtenFields layout level fields) ++
        (Text.encode (layout.lineBreak closingLevel) ++ 0x7D :: rest)) =
      some (sourceFields fields, rest) := by
  have isBreak := isBlank.lineBreak closingLevel
  have isIndentation := isBlank.lineBreak level
  obtain ⟨gap, isColon, isGap⟩ := isBlank.colon
  induction fields generalizing fuel with
  | nil => exact absurd rfl nonempty
  | cons pair others inductionHypothesis =>
      obtain ⟨name, field⟩ := pair
      have readsBack : ReadsBack layout level field := readBack _ List.mem_cons_self
      have readBackToo := (List.forall_mem_cons.1 readBack).2
      obtain ⟨fuel, rfl⟩ := Nat.exists_eq_add_one_of_ne_zero (Nat.ne_zero_of_lt enough)
      obtain ⟨quoted, isQuoted, isNamed⟩ := exists_encode_stringText name
      cases others with
      | nil =>
          simp only [writtenFields, Text.encode_append, List.length_append, List.append_assoc,
            isColon, isQuoted, List.cons_append, List.length_cons] at enough ⊢
          refine readFields_singleton (skipSpace_append isIndentation _) (isNamed _) rfl ?_
            (skipSpace_append isBreak (0x7D :: rest))
          rw [readValue_append isGap]
          exact readsBack (by omega) (endsNumber_append isBreak (endsNumber_cons (by decide) rest))
      | cons other others =>
          simp only [writtenFields, Text.encode_append, List.length_append, List.append_assoc,
            encode_comma, isColon, isQuoted, List.cons_append, List.nil_append, List.length_cons]
            at enough ⊢
          refine readFields_cons (skipSpace_append isIndentation _) (isNamed _) rfl ?_
            (skipSpace_comma _) (inductionHypothesis (List.cons_ne_nil _ _) readBackToo (by omega))
          rw [readValue_append isGap]
          exact readsBack (by omega) (endsNumber_cons (by decide) _)

theorem toString_eq_ite (value : Int) :
    toString value = if value < 0 then "-" ++ toString value.natAbs else toString value.natAbs := by
  cases value with
  | ofNat number => rfl
  | negSucc number => exact (if_pos (Int.negSucc_lt_zero number)).symm

/-- An integer is read back. -/
theorem readsBack_integer (layout : Layout) (level : Nat) (value : Int) :
    ReadsBack layout level (integer value) := by
  intro fuel rest enough ends
  obtain ⟨fuel, rfl⟩ := Nat.exists_eq_add_one_of_ne_zero (Nat.ne_zero_of_lt enough)
  have isText : written layout level (integer value) = toString value := by
    simp only [integer, written, Number.text]
  have isTree : source (integer value) = JsonSource.number (NumberSource.ofInt value) := by
    simp only [integer, source]
  rw [isText, isTree, toString_eq_ite, NumberSource.ofInt]
  split
  next isNegative =>
    have isRead := readNumber_append true value.natAbs ends
    rw [decide_eq_true isNegative, Text.encode_append, List.append_assoc]
    exact readValue_negative isRead
  next isNatural =>
    have isRead := readNumber_append false value.natAbs ends
    obtain ⟨byte, digit, bytes, isCons, isDigit⟩ := exists_encode_toString_eq_cons value.natAbs
    rw [isCons] at isRead
    rw [decide_eq_false isNatural, isCons]
    exact readValue_number isDigit isRead

/-- An array is read back, whatever follows, if its items are. -/
theorem readValue_written_array
    {items : List Json}
    (isBlank : layout.IsBlank)
    (readBack : ∀ item ∈ items, ReadsBack layout (level + 1) item)
    (enough : (Text.encode (written layout level (array items))).length < fuel)
    (rest : Bytes) :
    readValue fuel (Text.encode (written layout level (array items)) ++ rest) =
      some (source (array items), rest) := by
  obtain ⟨fuel, rfl⟩ := Nat.exists_eq_add_one_of_ne_zero (Nat.ne_zero_of_lt enough)
  cases items with
  | nil =>
      simp only [written, source, sourceItems]
      exact readValue_array_nil fuel rest
  | cons item others =>
      have opening : Text.encode "[" = [0x5B] := rfl
      have closing : Text.encode "]" = [0x5D] := rfl
      simp only [written, source, Text.encode_append, List.append_assoc, opening, closing,
        List.length_append, List.singleton_append, List.length_cons, List.length_nil]
        at enough ⊢
      exact readValue_array
        (readItems_writtenItems isBlank (List.cons_ne_nil _ _) readBack (by omega) level rest)

/-- An object is read back, whatever follows, if the values of its fields are. -/
theorem readValue_written_object
    {fields : List (String × Json)}
    (isBlank : layout.IsBlank)
    (readBack : ∀ field ∈ fields, ReadsBack layout (level + 1) field.2)
    (enough : (Text.encode (written layout level (object fields))).length < fuel)
    (rest : Bytes) :
    readValue fuel (Text.encode (written layout level (object fields)) ++ rest) =
      some (source (object fields), rest) := by
  obtain ⟨fuel, rfl⟩ := Nat.exists_eq_add_one_of_ne_zero (Nat.ne_zero_of_lt enough)
  cases fields with
  | nil =>
      simp only [written, source, sourceFields]
      exact readValue_object_nil fuel rest
  | cons field others =>
      have opening : Text.encode "\x7b" = [0x7B] := rfl
      have closing : Text.encode "\x7d" = [0x7D] := rfl
      simp only [written, source, Text.encode_append, List.append_assoc, opening, closing,
        List.length_append, List.singleton_append, List.length_cons, List.length_nil]
        at enough ⊢
      exact readValue_object
        (readFields_writtenFields isBlank (List.cons_ne_nil _ _) readBack (by omega) level rest)

/-- A value whose numbers are integers is read back. -/
theorem readsBack_of_isIntegral
    {value : Json}
    (isBlank : layout.IsBlank)
    (integral : value.IsIntegral) :
    ReadsBack layout level value := by
  induction integral generalizing level with
  | null =>
      intro fuel rest enough _
      obtain ⟨fuel, rfl⟩ := Nat.exists_eq_add_one_of_ne_zero (Nat.ne_zero_of_lt enough)
      simp only [written, source]
      exact readValue_null fuel rest
  | bool value =>
      intro fuel rest enough _
      obtain ⟨fuel, rfl⟩ := Nat.exists_eq_add_one_of_ne_zero (Nat.ne_zero_of_lt enough)
      cases value <;> simp only [written, source]
      case false => exact readValue_false fuel rest
      case true => exact readValue_true fuel rest
  | integer _ _ => exact readsBack_integer layout level _
  | string text =>
      intro fuel rest enough _
      obtain ⟨fuel, rfl⟩ := Nat.exists_eq_add_one_of_ne_zero (Nat.ne_zero_of_lt enough)
      obtain ⟨quoted, isQuoted, isRead⟩ := exists_encode_stringText text
      simp only [written, source, isQuoted, List.cons_append]
      exact readValue_string (isRead rest)
  | array all inductionHypothesis =>
      intro fuel rest enough ends
      exact readValue_written_array isBlank (fun item present => inductionHypothesis item present)
        enough rest
  | object all inductionHypothesis =>
      intro fuel rest enough ends
      exact readValue_written_object isBlank (fun field present => inductionHypothesis field present)
        enough rest

end Json

namespace JsonSource

variable {layout : Layout} {bytes : Bytes}

theorem read?_of_readValue
    {value : JsonSource}
    {rest : Bytes}
    (isRead : readValue (bytes.length + 1) bytes = some (value, rest)) :
    read? bytes = if (skipSpace rest).isEmpty then some value else none := by
  rw [read?, isRead]

/-- A written value is a text. -/
theorem read?_written
    {value : Json}
    (isBlank : layout.IsBlank)
    (integral : value.IsIntegral)
    (level : Nat) :
    read? (Text.encode (value.written layout level)) = some value.source := by
  have nothing : EndsNumber [] := fun byte isFirst => nomatch isFirst
  have readsBack : Json.ReadsBack layout level value :=
    Json.readsBack_of_isIntegral isBlank integral
  have isRead := readsBack (Nat.lt_succ_self _) nothing
  rw [List.append_nil] at isRead
  exact read?_of_readValue isRead

/-- A written object is not a text if anything but blanks follows it. -/
theorem read?_written_object_append
    {fields : List (String × Json)}
    {trailing : Bytes}
    (layoutIsBlank : layout.IsBlank)
    (integral : (Json.object fields).IsIntegral)
    (level : Nat)
    (notBlank : ¬IsBlank trailing) :
    read? (Text.encode ((Json.object fields).written layout level) ++ trailing) = none := by
  have readBack : ∀ field ∈ fields, Json.ReadsBack layout (level + 1) field.2 := by
    cases integral with
    | object all => exact fun field present =>
        Json.readsBack_of_isIntegral layoutIsBlank (all field present)
  have isRead := Json.readValue_written_object layoutIsBlank readBack
    (Nat.lt_succ_of_le (Nat.le_add_right _ trailing.length)) trailing
  rw [← List.length_append] at isRead
  rw [read?_of_readValue isRead, if_neg]
  rwa [List.isEmpty_iff, skipSpace_eq_nil_iff]

end JsonSource

end Screencast
