import Screencast.Json.Shape
import Screencast.Proofs.Json.Written
import Screencast.Proofs.Store.Sorted

/-!
# Values of what was written

The value of a tree is read from it as it is, and a reader of typed values undoes what wrote them:
if it reads each item as it was written, it reads all of them, and so does a reader of a map.
-/

namespace Screencast

/-! ## The value of what was written

A value is read from its tree as it is, if its numbers are integers of 64 bits, the fields of its
objects are in order, and it is not nested more deeply than a text may be.
-/

namespace Json

/-- The fields of all objects in a value are in order. -/
inductive IsOrdered : Json → Prop
  | null : IsOrdered null
  | bool (value : Bool) : IsOrdered (bool value)
  | number (value : Number) : IsOrdered (number value)
  | string (text : String) : IsOrdered (string text)
  | array {items : List Json} (all : ∀ item ∈ items, IsOrdered item) : IsOrdered (array items)
  | object {fields : List (String × Json)} (sorted : KeyMap.IsSorted fields)
      (all : ∀ field ∈ fields, IsOrdered field.2) : IsOrdered (object fields)

mutual

/-- How many arrays and objects stand in each other in a value. -/
def depth : Json → Nat
  | null => 0
  | bool _ => 0
  | number _ => 0
  | string _ => 0
  | array items => depthItems items + 1
  | object fields => depthFields fields + 1

/-- The depth of the deepest item. -/
def depthItems : List Json → Nat
  | [] => 0
  | item :: rest => max (depth item) (depthItems rest)

/-- The depth of the deepest field. -/
def depthFields : List (String × Json) → Nat
  | [] => 0
  | (_, field) :: rest => max (depth field) (depthFields rest)

end

/-- No item is deeper than the deepest. -/
theorem depth_le_depthItems
    {items : List Json}
    {item : Json}
    (present : item ∈ items) :
    depth item ≤ depthItems items := by
  induction items with
  | nil => cases present
  | cons first rest inductionHypothesis =>
      rw [depthItems]
      rcases List.mem_cons.1 present with rfl | inRest
      · exact Nat.le_max_left _ _
      · exact Nat.le_trans (inductionHypothesis inRest) (Nat.le_max_right _ _)

/-- No field is deeper than the deepest. -/
theorem depth_le_depthFields
    {fields : List (String × Json)}
    {field : String × Json}
    (present : field ∈ fields) :
    depth field.2 ≤ depthFields fields := by
  induction fields with
  | nil => cases present
  | cons first rest inductionHypothesis =>
      obtain ⟨name, value⟩ := first
      rw [depthFields]
      rcases List.mem_cons.1 present with rfl | inRest
      · exact Nat.le_max_left _ _
      · exact Nat.le_trans (inductionHypothesis inRest) (Nat.le_max_right _ _)

/-! ## Trees as values -/

open JsonSource

variable {allowance : Nat}

theorem enter?_of_lt
    (isAllowed : 1 < allowance) :
    enter? allowance = some (allowance - 1) :=
  if_neg (Nat.not_le.2 isAllowed)

/-- Items are read from their trees if each of them is. -/
theorem toItems?_sourceItems
    {items : List Json}
    (readBack : ∀ item ∈ items, toJson? allowance (source item) = some item) :
    toItems? allowance (sourceItems items) = some items := by
  induction items with
  | nil => rfl
  | cons item rest inductionHypothesis =>
      obtain ⟨isRead, readBackToo⟩ := List.forall_mem_cons.1 readBack
      simp [sourceItems, toItems?, isRead, inductionHypothesis readBackToo]

/-- Fields are read from their trees if each of them is. -/
theorem toFields?_sourceFields
    {fields : List (String × Json)}
    (readBack : ∀ field ∈ fields, toJson? allowance (source field.2) = some field.2) :
    toFields? allowance (sourceFields fields) = some fields := by
  induction fields with
  | nil => rfl
  | cons field rest inductionHypothesis =>
      obtain ⟨name, value⟩ := field
      have isRead : toJson? allowance (source value) = some value := readBack _ List.mem_cons_self
      have areRead := inductionHypothesis (List.forall_mem_cons.1 readBack).2
      simp [sourceFields, toFields?, StringPart.text?_ofText, isRead, areRead]

/-- A value is read from its tree. -/
theorem toJson?_source
    {value : Json}
    (integral : value.IsIntegral)
    (ordered : value.IsOrdered)
    (isShallow : value.depth < allowance) :
    toJson? allowance (source value) = some value := by
  induction integral generalizing allowance with
  | null => simp [source, toJson?]
  | bool value => simp [source, toJson?]
  | integer least greatest =>
      simp [integer, source, toJson?, NumberSource.toNumber?_ofInt least greatest]
  | string text => simp [source, toJson?, StringPart.text?_ofText]
  | array all inductionHypothesis =>
      rw [depth] at isShallow
      obtain _ | _ | _ | _ | areOrdered := ordered
      have areRead := toItems?_sourceItems fun item present =>
        inductionHypothesis item present (areOrdered item present)
          (by have := depth_le_depthItems present; omega : depth item < allowance - 1)
      simp [source, toJson?, enter?_of_lt (by omega : 1 < allowance), areRead]
  | object all inductionHypothesis =>
      rw [depth] at isShallow
      obtain _ | _ | _ | _ | _ | ⟨sorted, areOrdered⟩ := ordered
      have areRead := toFields?_sourceFields fun field present =>
        inductionHypothesis field present (areOrdered field present)
          (by have := depth_le_depthFields present; omega : depth field.2 < allowance - 1)
      simp [source, toJson?, enter?_of_lt (by omega : 1 < allowance), areRead, sorted.ofList_eq]

end Json

/-! ## Typed values of what was written -/

namespace Shape

variable {origin value written : Type} {shape : Shape value} {allowance : Nat}

/-- What is read as what it tells one by one is read as that as a whole. -/
theorem mapM_map_eq_some_map
    {read : written → Option value}
    {write : origin → written}
    {tell : origin → value}
    {origins : List origin}
    (readBack : ∀ origin ∈ origins, read (write origin) = some (tell origin)) :
    (origins.map write).mapM read = some (origins.map tell) := by
  induction origins with
  | nil => rfl
  | cons origin rest inductionHypothesis =>
      obtain ⟨isRead, readBackToo⟩ := List.forall_mem_cons.1 readBack
      rw [List.map_cons, List.mapM_cons, isRead, inductionHypothesis readBackToo]
      rfl

/-- What is read back one by one is read back as a whole. -/
theorem mapM_map_eq_some
    {read : written → Option value}
    {write : value → written}
    {values : List value}
    (readBack : ∀ value ∈ values, read (write value) = some value) :
    (values.map write).mapM read = some values := by
  have areRead : (values.map write).mapM read = some (values.map id) :=
    mapM_map_eq_some_map readBack
  rwa [List.map_id] at areRead

/-- If a whole is read, each part is. -/
theorem exists_eq_some_of_mapM
    {read : written → Option value}
    {parts : List written}
    {values : List value}
    (areRead : parts.mapM read = some values) :
    ∀ part ∈ parts, ∃ value, read part = some value := by
  induction parts generalizing values with
  | nil => exact List.forall_mem_nil _
  | cons part rest inductionHypothesis =>
      rw [List.mapM_cons] at areRead
      obtain ⟨value, isRead, areReadThen⟩ := Option.bind_eq_some_iff.1 areRead
      obtain ⟨others, restIsRead, _⟩ := Option.bind_eq_some_iff.1 areReadThen
      exact List.forall_mem_cons.2 ⟨⟨value, isRead⟩, inductionHypothesis restIsRead⟩

/-- If a whole is read, each value is that of a part. -/
theorem exists_of_mem_of_mapM
    {read : written → Option value}
    {parts : List written}
    {values : List value}
    (areRead : parts.mapM read = some values) :
    ∀ value ∈ values, ∃ part ∈ parts, read part = some value := by
  induction parts generalizing values with
  | nil =>
      obtain rfl := Option.some.inj areRead
      exact List.forall_mem_nil _
  | cons part rest inductionHypothesis =>
      rw [List.mapM_cons] at areRead
      obtain ⟨value, isRead, areReadThen⟩ := Option.bind_eq_some_iff.1 areRead
      obtain ⟨others, restIsRead, same⟩ := Option.bind_eq_some_iff.1 areReadThen
      obtain rfl := Option.some.inj same
      have isFirst : ∃ source ∈ part :: rest, read source = some value :=
        ⟨part, List.mem_cons_self, isRead⟩
      refine List.forall_mem_cons.2 ⟨isFirst, fun other present => ?_⟩
      obtain ⟨source, inRest, otherIsRead⟩ := inductionHypothesis restIsRead other present
      exact ⟨source, List.mem_cons_of_mem part inRest, otherIsRead⟩

@[simp] theorem text_source (allowance : Nat) (content : String) :
    text allowance (Json.string content).source = some content := by
  simp only [Json.source, text, StringPart.text?_ofText]

@[simp] theorem bool_source (allowance : Nat) (value : Bool) :
    bool allowance (Json.bool value).source = some value := by
  simp only [Json.source, bool]

/-- An unsigned integer of 32 bits is read from its tree. -/
theorem word_source
    {number : Nat}
    (fits : number ≤ Bounds.greatestWord)
    (allowance : Nat) :
    word allowance (Json.integer number).source = some number := by
  have isRead : (NumberSource.ofInt number).toNumber? = some (Number.integer number) := by
    simp only [Bounds.greatestWord] at fits
    refine NumberSource.toNumber?_ofInt ?_ ?_
    · simp only [Bounds.leastSigned]
      omega
    · simp only [Bounds.greatestLong]
      omega
  have inBounds : (0 : Int) ≤ number ∧ (number : Int) ≤ Bounds.greatestWord :=
    ⟨Int.natCast_nonneg number, Int.ofNat_le.2 fits⟩
  simp only [Json.integer, Json.source, word, integer, isRead, if_pos inBounds, Option.map_some,
    Int.toNat_natCast]

/-- A value that is read from its tree is read as one that may be missing, if it is not written as
nothing. -/
theorem optional_source
    {tree : JsonSource}
    {result : value}
    (isThere : tree ≠ JsonSource.null)
    (isRead : shape allowance tree = some result) :
    optional shape allowance tree = some (some result) := by
  cases tree with
  | null => exact absurd rfl isThere
  | bool | number | string | array | object =>
      exact congrArg (Option.map some) isRead

/-- What is read from trees one by one is read from the tree of an array of them. -/
theorem list_source_map
    (write : origin → Json)
    (tell : origin → value)
    {origins : List origin}
    (isAllowed : 1 < allowance)
    (readBack : ∀ origin ∈ origins,
      shape (allowance - 1) (write origin).source = some (tell origin)) :
    list shape allowance (Json.array (origins.map write)).source = some (origins.map tell) := by
  have areRead : (origins.map fun origin => (write origin).source).mapM (shape (allowance - 1)) =
      some (origins.map tell) := mapM_map_eq_some_map readBack
  simp only [Json.source, Json.sourceItems_eq_map, List.map_map, list]
  rw [Json.enter?_of_lt isAllowed]
  exact areRead

/-- Values that are read from their trees are read from the tree of an array of them. -/
theorem list_source
    (write : value → Json)
    {values : List value}
    (isAllowed : 1 < allowance)
    (readBack : ∀ value ∈ values, shape (allowance - 1) (write value).source = some value) :
    list shape allowance (Json.array (values.map write)).source = some values := by
  simpa using list_source_map write id isAllowed readBack

/-- Values that are read from their trees are read from the tree of an object of them. -/
theorem map_source
    (write : value → Json)
    {pairs : List (String × value)}
    (isAllowed : 1 < allowance)
    (readBack : ∀ pair ∈ pairs, shape (allowance - 1) (write pair.2).source = some pair.2) :
    map shape allowance (Json.object (pairs.map fun (name, value) => (name, write value))).source =
      some (KeyMap.ofList pairs) := by
  simp only [Json.source, Json.sourceFields_eq_map, List.map_map, map]
  rw [Json.enter?_of_lt isAllowed]
  refine congrArg (· >>= fun pairs => some (KeyMap.ofList pairs)) (mapM_map_eq_some ?_)
  intro pair present
  simp [StringPart.text?_ofText, readBack pair present]

/-- A row is read from its tree. -/
theorem row_source
    {fields : KeyMap Json}
    (integral : (Json.object fields).IsIntegral)
    (ordered : (Json.object fields).IsOrdered)
    (isShallow : (Json.object fields).depth < allowance) :
    row allowance (Json.object fields).source = some fields := by
  have isRead := Json.toJson?_source integral ordered isShallow
  simp only [Json.source] at isRead ⊢
  simp only [row, isRead]

/-! ## What can be read -/

variable {source : JsonSource}

/-- What is read as a list is an array, and each of its items is read. -/
theorem exists_array_of_list
    {values : List value}
    (isRead : list shape allowance source = some values) :
    ∃ items, source = JsonSource.array items ∧
      ∀ item ∈ items, ∃ allowance value, shape allowance item = some value := by
  cases source with
  | array items =>
      obtain ⟨allowance, _, areRead⟩ := Option.bind_eq_some_iff.1 isRead
      exact ⟨items, rfl, fun item present =>
        ⟨allowance, exists_eq_some_of_mapM areRead item present⟩⟩
  | _ => cases isRead

/-- Each value of a list was read. -/
theorem exists_of_mem_of_list
    {values : List value}
    (isRead : list shape allowance source = some values) :
    ∀ value ∈ values, ∃ allowance item, shape allowance item = some value := by
  intro value present
  cases source with
  | array items =>
      obtain ⟨allowance, _, areRead⟩ := Option.bind_eq_some_iff.1 isRead
      obtain ⟨item, _, itemIsRead⟩ := exists_of_mem_of_mapM areRead value present
      exact ⟨allowance, item, itemIsRead⟩
  | _ => cases isRead

/-- An unsigned integer that was read has 32 bits. -/
theorem le_greatestWord_of_word
    {number : Nat}
    (isRead : word allowance source = some number) :
    number ≤ Bounds.greatestWord := by
  obtain ⟨value, isInteger, rfl⟩ := Option.map_eq_some_iff.1 isRead
  unfold integer at isInteger
  split at isInteger
  · split at isInteger
    · split at isInteger
      next inBounds =>
        obtain rfl := Option.some.inj isInteger
        simp only [Bounds.greatestWord] at inBounds ⊢
        omega
      next => cases isInteger
    · cases isInteger
  · cases isInteger

/-- An optional value that was read was read by the reader of the value. -/
theorem eq_some_of_optional
    {result : value}
    (read : Shape.optional shape allowance source = some (some result)) :
    shape allowance source = some result := by
  cases source with
  | null => cases read
  | bool | number | string | array | object =>
      obtain ⟨found, isFound, same⟩ := Option.map_eq_some_iff.1 read
      rwa [Option.some.inj same] at isFound

/-- A value that was read by a function was read from a text. -/
theorem exists_text_of_parsed
    {parse : String → Option value}
    {result : value}
    (read : Shape.parsed parse allowance source = some result) :
    ∃ text, parse text = some result := by
  obtain ⟨text, _, isParsed⟩ := Option.bind_eq_some_iff.1 read
  exact ⟨text, isParsed⟩

/-- A field that has to be there was read from the text. -/
theorem exists_of_required
    {members : Members}
    {name : String}
    {result : value}
    (read : members.required name shape = some result) :
    ∃ source, shape members.allowance source = some result := by
  unfold Members.required at read
  split at read
  next source _ => exact ⟨source, read⟩
  next => cases read

/-- An optional field that was read was read from the text by the reader of its value. -/
theorem exists_of_withDefault_optional
    {members : Members}
    {name : String}
    {result : value}
    (read : members.withDefault name (Shape.optional shape) none = some (some result)) :
    ∃ source, shape members.allowance source = some result := by
  unfold Members.withDefault at read
  split at read
  next source _ => exact ⟨source, eq_some_of_optional read⟩
  next => cases Option.some.inj read

/-- Each value of a list that may be missing was read, if none are there by default. -/
theorem exists_of_mem_of_withDefault_list
    {members : Members}
    {name : String}
    {values : List value}
    (read : members.withDefault name (list shape) [] = some values) :
    ∀ value ∈ values, ∃ allowance source, shape allowance source = some value := by
  unfold Members.withDefault at read
  split at read
  next => exact exists_of_mem_of_list read
  next =>
    obtain rfl := Option.some.inj read
    exact List.forall_mem_nil _

/-- What is read as a map is an object, and each of its fields is read. -/
theorem exists_object_of_map
    {pairs : KeyMap value}
    (isRead : map shape allowance source = some pairs) :
    ∃ fields, source = JsonSource.object fields ∧
      ∀ field ∈ fields, ∃ allowance value, shape allowance field.2 = some value := by
  cases source with
  | object fields =>
      obtain ⟨allowance, _, fieldsAreRead⟩ := Option.bind_eq_some_iff.1 isRead
      obtain ⟨_, areRead, _⟩ := Option.bind_eq_some_iff.1 fieldsAreRead
      refine ⟨fields, rfl, fun field present => ⟨allowance, ?_⟩⟩
      obtain ⟨_, fieldIsRead⟩ := exists_eq_some_of_mapM areRead field present
      obtain ⟨_, _, entryIsRead⟩ := Option.bind_eq_some_iff.1 fieldIsRead
      obtain ⟨entry, isEntry, _⟩ := Option.bind_eq_some_iff.1 entryIsRead
      exact ⟨entry, isEntry⟩
  | _ => cases isRead

/-- What is read as a row is an object. -/
theorem exists_object_of_row
    {fields : KeyMap Json}
    (isRead : row allowance source = some fields) :
    ∃ columns, source = JsonSource.object columns := by
  cases source with
  | object columns => exact ⟨columns, rfl⟩
  | _ => cases isRead

end Shape

namespace Members

variable {names : List String} {allowance : Nat}

/-- Fields with known names, no two of them the same, are found in their trees. -/
theorem ofFields_source
    {fields : List (String × Json)}
    (known : ∀ field ∈ fields, field.1 ∈ names)
    (apart : (fields.map Prod.fst).Nodup) :
    ofFields names (Json.sourceFields fields) =
      some (fields.map fun (name, field) => (name, field.source)) := by
  induction fields with
  | nil => rfl
  | cons field rest inductionHypothesis =>
      obtain ⟨isKnown, restKnown⟩ := List.forall_mem_cons.1 known
      obtain ⟨isNew, restApart⟩ := List.nodup_cons.1 apart
      have found := inductionHypothesis restKnown restApart
      have isNewThere : field.1 ∉
          (rest.map fun (name, field) => (name, Json.source field)).map (·.1) := by
        rw [List.map_map]
        exact isNew
      simp only [Json.sourceFields, ofFields, StringPart.text?_ofText, found, Option.bind_eq_bind,
        Option.bind_some, List.contains_eq_mem, decide_eq_true isKnown, if_true,
        decide_eq_false isNewThere, Bool.false_eq_true, if_false]
      rfl

/-- A field that was found is read. -/
theorem required_eq_some
    {value : Type}
    {shape : Shape value}
    {members : Members}
    {name : String}
    {source : JsonSource}
    {result : value}
    (found : members.found.lookup name = some source)
    (isRead : shape members.allowance source = some result) :
    members.required name shape = some result := by
  rw [required, found]
  exact isRead

/-- A field that was found is read, whatever it would be if it were missing. -/
theorem withDefault_eq_some
    {value : Type}
    {shape : Shape value}
    {members : Members}
    {name : String}
    {source : JsonSource}
    {result default : value}
    (found : members.found.lookup name = some source)
    (isRead : shape members.allowance source = some result) :
    members.withDefault name shape default = some result := by
  rw [withDefault, found]
  exact isRead

/-- The fields of an object with known names are found in its tree. -/
theorem of_source
    {fields : List (String × Json)}
    (isAllowed : 1 < allowance)
    (known : ∀ field ∈ fields, field.1 ∈ names)
    (apart : (fields.map Prod.fst).Nodup) :
    Members.of names allowance (Json.object fields).source =
      some
        { allowance := allowance - 1
          isObject := true
          found := fields.map fun (name, field) => (name, field.source) } := by
  simp only [Json.source, Members.of, Json.enter?_of_lt isAllowed, ofFields_source known apart,
    Option.bind_eq_bind, Option.bind_some]
  rfl

end Members

end Screencast
