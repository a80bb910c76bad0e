import Screencast.Html.Node
import Screencast.Proofs.Text.Split

/-!
# Markup cut at its tags

Markup is read in three steps. It is cut at the left angle brackets, each piece is cut at its first
right angle bracket, and what stands between the two is read as a tag. Texts and attribute values
are unescaped only after that. What is rendered from nodes without raw markup is cut where the
nodes put their tags and nowhere else, because an escaped text holds neither angle brackets nor
quotes.
-/

namespace Screencast

namespace Html

/-! ## Escaped texts -/

/-- The characters that have an escaped form, each by what stands between `&` and `;`. -/
def entities : List (List Char × Char) :=
  [(['a', 'm', 'p'], '&'), (['l', 't'], '<'), (['g', 't'], '>'), (['q', 'u', 'o', 't'], '"'),
    (['#', '3', '9'], '\'')]

/-- What a piece behind an `&` stands for. A piece that does not begin with an entity is left as
it is. -/
def unescapedPiece (piece : List Char) : List Char :=
  match Text.cutChars ';' piece with
  | none => '&' :: piece
  | some (entity, behind) =>
    match entities.lookup entity with
    | none => '&' :: piece
    | some char => char :: behind

/-- The text that an escaped text stands for. -/
def unescape (chars : List Char) : List Char :=
  match Text.splitChars '&' chars with
  | [] => []
  | first :: pieces => first ++ pieces.flatMap unescapedPiece

/-- The characters that an escaped text cannot hold. -/
def isDelimiter (char : Char) : Bool := ['<', '>', '"', '\''].contains char

/-- A character has an entity, or it is written as it is. -/
theorem escapedChar_cases (char : Char) :
    (∃ entity, (entity, char) ∈ entities ∧ escapedChar char = '&' :: (entity ++ [';'])) ∨
      (char ≠ '&' ∧ isDelimiter char = false ∧ escapedChar char = [char]) := by
  by_cases special : char ∈ ['&', '<', '>', '"', '\'']
  · have known : ∀ char ∈ ['&', '<', '>', '"', '\''], ∃ entry ∈ entities,
        entry.2 = char ∧ escapedChar char = '&' :: (entry.1 ++ [';']) := by
      simp [entities, escapedChar]
    obtain ⟨⟨entity, _⟩, present, rfl, form⟩ := known char special
    exact Or.inl ⟨entity, present, form⟩
  · right
    simp only [List.mem_cons, List.not_mem_nil, or_false, not_or] at special
    obtain ⟨notAmpersand, notLess, notGreater, notQuote, notApostrophe⟩ := special
    refine ⟨notAmpersand, ?_, ?_⟩
    · simp [isDelimiter, notLess, notGreater, notQuote, notApostrophe]
    · simp [escapedChar, notAmpersand, notLess, notGreater, notQuote, notApostrophe]

/-- An entity is found under its own letters, which hold neither a delimiter nor what stands around
an entity. -/
theorem lookup_of_mem_entities :
    ∀ entry ∈ entities, entities.lookup entry.1 = some entry.2 ∧
      '&' ∉ entry.1 ∧ ';' ∉ entry.1 ∧ ∀ char ∈ entry.1, isDelimiter char = false := by
  simp [entities, isDelimiter, List.lookup_cons]

/-- A character that is not escaped stands for itself. -/
theorem unescape_cons
    {char : Char}
    (plain : char ≠ '&')
    (chars : List Char) :
    unescape (char :: chars) = char :: unescape chars := by
  cases pieces : Text.splitChars '&' chars with
  | nil => exact absurd pieces (Text.splitChars_ne_nil '&' chars)
  | cons first others => simp [unescape, Text.splitChars, plain, pieces]

/-- An entity stands for its character. -/
theorem unescape_entity
    {entity : List Char}
    {char : Char}
    (known : (entity, char) ∈ entities)
    (chars : List Char) :
    unescape ('&' :: (entity ++ ';' :: chars)) = char :: unescape chars := by
  obtain ⟨found, noAmpersand, noSemicolon, -⟩ := lookup_of_mem_entities _ known
  cases pieces : Text.splitChars '&' chars with
  | nil => exact absurd pieces (Text.splitChars_ne_nil '&' chars)
  | cons first others =>
    have absent : '&' ∉ entity ++ [';'] := by simpa using noAmpersand
    have split : Text.splitChars '&' ('&' :: (entity ++ ';' :: chars)) =
        [] :: (entity ++ ';' :: first) :: others := by
      simpa using Text.splitChars_cons_append absent pieces
    have piece : unescapedPiece (entity ++ ';' :: first) = char :: first := by
      simp [unescapedPiece, Text.cutChars_append_cons noSemicolon, found]
    simp [unescape, split, pieces, piece]

/-- The escaped form of a character stands for the character, whatever follows it. -/
theorem unescape_escapedChar_append
    (char : Char)
    (chars : List Char) :
    unescape (escapedChar char ++ chars) = char :: unescape chars := by
  rcases escapedChar_cases char with ⟨entity, known, form⟩ | ⟨notAmpersand, -, form⟩
  · rw [form, List.cons_append, List.append_assoc, List.singleton_append,
      unescape_entity known]
  · rw [form, List.singleton_append, unescape_cons notAmpersand]

/-- An escaped text stands for the text, whatever follows it. -/
theorem unescape_escape_append
    (text : String)
    (chars : List Char) :
    unescape ((escape text).toList ++ chars) = text.toList ++ unescape chars := by
  rw [escape, String.toList_ofList]
  induction text.toList with
  | nil => rfl
  | cons char rest inductionHypothesis =>
    rw [List.flatMap_cons, List.append_assoc, unescape_escapedChar_append, inductionHypothesis,
      List.cons_append]

theorem unescape_escape (text : String) : unescape (escape text).toList = text.toList := by
  simpa [unescape] using unescape_escape_append text []

/-- An escaped text holds no angle brackets and no quotes. -/
theorem isDelimiter_of_mem_escape
    {text : String}
    {char : Char}
    (present : char ∈ (escape text).toList) :
    isDelimiter char = false := by
  rw [escape, String.toList_ofList, List.mem_flatMap] at present
  obtain ⟨original, -, inForm⟩ := present
  rcases escapedChar_cases original with ⟨entity, known, form⟩ | ⟨-, plain, form⟩
  · rw [form, List.mem_cons, List.mem_append, List.mem_singleton] at inForm
    rcases inForm with rfl | inEntity | rfl
    · rfl
    · exact (lookup_of_mem_entities _ known).2.2.2 char inEntity
    · rfl
  · rw [form, List.mem_singleton] at inForm
    exact inForm ▸ plain

/-- A delimiter is not in an escaped text. -/
theorem not_mem_escape
    {char : Char}
    (delimiter : isDelimiter char = true)
    (text : String) :
    char ∉ (escape text).toList := by
  intro present
  simp [isDelimiter_of_mem_escape present] at delimiter

/-! ## Names -/

/-- Whether a character may stand in the name of an element or of an attribute. -/
def isNameChar (char : Char) : Bool :=
  !Text.isSpace char && !(['<', '>', '/', '=', '"', '\'', '&'].contains char)

/-- A text that can stand in markup as the name of an element or of an attribute. -/
structure IsName (name : String) : Prop where
  nonempty : name ≠ ""
  chars : ∀ char ∈ name.toList, isNameChar char = true

instance (name : String) : Decidable (IsName name) :=
  decidable_of_iff (name ≠ "" ∧ name.toList.all isNameChar = true)
    ⟨fun ⟨nonempty, chars⟩ => ⟨nonempty, List.all_eq_true.1 chars⟩,
      fun ⟨nonempty, chars⟩ => ⟨nonempty, List.all_eq_true.2 chars⟩⟩

/-- A character that is not one of a name's is not in a name. -/
theorem IsName.not_mem
    {name : String}
    (isName : IsName name)
    (char : Char)
    (foreign : isNameChar char = false) :
    char ∉ name.toList := by
  intro present
  simp [isName.chars char present] at foreign

theorem bracket_is_foreign
    {bracket : Char}
    (isBracket : bracket = '<' ∨ bracket = '>') :
    isNameChar bracket = false ∧ isDelimiter bracket = true ∧
      bracket ≠ ' ' ∧ bracket ≠ '=' ∧ bracket ≠ '"' := by
  rcases isBracket with rfl | rfl <;> decide

/-- Attributes whose keys are names. -/
def AreNamed (attributes : List (String × String)) : Prop :=
  ∀ entry ∈ attributes, IsName entry.1

/-! ## Tags -/

/-- A tag of markup. -/
inductive Tag
  | opening (name : String) (attributes : List (String × String))
  | closing (name : String)
  deriving DecidableEq, Repr

namespace Tag

/-- The key in front of an attribute's value, which stands between a space and an equals sign. -/
def key? : List Char → Option String
  | ' ' :: chars =>
    match Text.cutChars '=' chars with
    | some (key, []) => some (String.ofList key)
    | _ => none
  | _ => none

/-- The attributes in the pieces between the quotes of a tag. -/
def attributes? : List (List Char) → Option (List (String × String))
  | key :: value :: rest => do
    let name ← key? key
    let attributes ← attributes? rest
    some ((name, String.ofList (unescape value)) :: attributes)
  | [[]] => some []
  | _ => none

/-- The tag that stands between two angle brackets. -/
def read? : List Char → Option Tag
  | '/' :: name => some (closing (String.ofList name))
  | chars =>
    (attributes? (Text.splitChars '"' (chars.dropWhile (· ≠ ' ')))).map
      (opening (String.ofList (chars.takeWhile (· ≠ ' '))))

@[simp] theorem read?_closing (name : String) :
    read? ('/' :: name.toList) = some (closing name) := by
  simp [read?]

theorem key?_of_isName
    {key : String}
    (isName : IsName key) :
    key? (' ' :: (key.toList ++ ['='])) = some key := by
  simp [key?, Text.cutChars_append_cons (isName.not_mem '=' rfl)]

/-- The characters of rendered attributes. -/
theorem toList_renderAttributes_cons
    (key value : String)
    (attributes : List (String × String)) :
    (Node.renderAttributes ((key, value) :: attributes)).toList =
      ' ' :: (key.toList ++ ['=']) ++
        '"' :: ((escape value).toList ++
          '"' :: (Node.renderAttributes attributes).toList) := by
  simp [Node.renderAttributes]

/-- Attributes are read back. -/
theorem attributes?_renderAttributes
    {attributes : List (String × String)}
    (named : AreNamed attributes) :
    attributes? (Text.splitChars '"' (Node.renderAttributes attributes).toList) =
      some attributes := by
  induction attributes with
  | nil => rfl
  | cons entry rest inductionHypothesis =>
    obtain ⟨key, value⟩ := entry
    have keyNamed : IsName key := named (key, value) List.mem_cons_self
    have restNamed : AreNamed rest :=
      fun other present => named other (List.mem_cons_of_mem _ present)
    have noQuote : '"' ∉ ' ' :: (key.toList ++ ['=']) := by
      simpa using keyNamed.not_mem '"' rfl
    rw [toList_renderAttributes_cons, Text.splitChars_append_cons noQuote,
      Text.splitChars_append_cons (not_mem_escape rfl value), attributes?,
      key?_of_isName keyNamed, inductionHypothesis restNamed, unescape_escape]
    simp

/-- The characters between the angle brackets of an opening tag. -/
def openingChars
    (name : String)
    (attributes : List (String × String)) :
    List Char :=
  name.toList ++ (Node.renderAttributes attributes).toList

/-- An opening tag is read back. -/
theorem read?_openingChars
    {name : String}
    {attributes : List (String × String)}
    (isName : IsName name)
    (named : AreNamed attributes) :
    read? (openingChars name attributes) = some (opening name attributes) := by
  have noSpace : ∀ char ∈ name.toList, decide (char ≠ ' ') = true := by
    intro char present
    have different : char ≠ ' ' := fun same => isName.not_mem ' ' rfl (same ▸ present)
    exact decide_eq_true different
  have behind : (Node.renderAttributes attributes).toList.takeWhile (· ≠ ' ') = [] ∧
      (Node.renderAttributes attributes).toList.dropWhile (· ≠ ' ') =
        (Node.renderAttributes attributes).toList := by
    cases attributes with
    | nil => exact ⟨rfl, rfl⟩
    | cons entry rest =>
      rw [toList_renderAttributes_cons]
      exact ⟨rfl, rfl⟩
  have notClosing : ∀ rest, openingChars name attributes ≠ '/' :: rest := by
    intro rest same
    cases chars : name.toList with
    | nil => exact isName.nonempty (String.toList_eq_nil_iff.1 chars)
    | cons first others =>
      rw [openingChars, chars, List.cons_append, List.cons.injEq] at same
      exact isName.not_mem '/' rfl (same.1 ▸ chars ▸ List.mem_cons_self)
  rw [read?.eq_2 _ notClosing, openingChars, List.takeWhile_append_of_pos noSpace,
    List.dropWhile_append_of_pos noSpace, behind.1, behind.2,
    attributes?_renderAttributes named]
  simp

end Tag

/-! ## Layouts -/

/-- Markup cut at its tags: the text in front of the first tag, and each tag with the text behind
it. The texts are as they are written. -/
structure Layout where
  lead : List Char
  strips : List (Tag × List Char)
  deriving DecidableEq, Repr

namespace Layout

/-- The tag and the text in a piece behind a left angle bracket. -/
def strip? (piece : List Char) : Option (Tag × List Char) := do
  let (inside, behind) ← Text.cutChars '>' piece
  let tag ← Tag.read? inside
  some (tag, behind)

/-- Cut markup at its tags. -/
def read? (chars : List Char) : Option Layout :=
  match Text.splitChars '<' chars with
  | [] => none
  | lead :: pieces => (pieces.mapM strip?).map (Layout.mk lead)

/-- The layout of no markup. -/
def empty : Layout := { lead := [], strips := [] }

/-- The tags of a layout. -/
def tags (layout : Layout) : List Tag := layout.strips.map Prod.fst

@[simp] theorem tags_empty : empty.tags = [] := rfl

/-- A layout with a text in front of it. -/
def withText
    (chars : List Char)
    (layout : Layout) :
    Layout :=
  { layout with lead := chars ++ layout.lead }

/-- A layout with a tag in front of it. -/
def withTag
    (tag : Tag)
    (layout : Layout) :
    Layout :=
  { lead := [], strips := (tag, layout.lead) :: layout.strips }

@[simp] theorem tags_withText (chars : List Char) (layout : Layout) :
    (layout.withText chars).tags = layout.tags := rfl

@[simp] theorem tags_withTag (tag : Tag) (layout : Layout) :
    (layout.withTag tag).tags = tag :: layout.tags := rfl

/-- A text in front of markup is in front of its layout. -/
theorem read?_text_append
    {chars : List Char}
    (noTag : '<' ∉ chars)
    (rest : List Char) :
    read? (chars ++ rest) = (read? rest).map (withText chars) := by
  cases pieces : Text.splitChars '<' rest with
  | nil => exact absurd pieces (Text.splitChars_ne_nil '<' rest)
  | cons lead others =>
    rw [read?, read?, Text.splitChars_append noTag pieces, pieces]
    simp [Option.map_map, Function.comp_def, withText]

/-- A tag in front of markup is in front of its layout. -/
theorem read?_tag_append
    {inside : List Char}
    {tag : Tag}
    (readable : Tag.read? inside = some tag)
    (noOpening : '<' ∉ inside)
    (noClosing : '>' ∉ inside)
    (rest : List Char) :
    read? ('<' :: (inside ++ '>' :: rest)) = (read? rest).map (withTag tag) := by
  cases pieces : Text.splitChars '<' rest with
  | nil => exact absurd pieces (Text.splitChars_ne_nil '<' rest)
  | cons lead others =>
    have absent : '<' ∉ inside ++ ['>'] := by simpa using noOpening
    have split : Text.splitChars '<' ('<' :: (inside ++ '>' :: rest)) =
        [] :: (inside ++ '>' :: lead) :: others := by
      simpa using Text.splitChars_cons_append absent pieces
    have first : strip? (inside ++ '>' :: lead) = some (tag, lead) := by
      simp [strip?, Text.cutChars_append_cons noClosing, readable]
    rw [read?, read?, split, pieces]
    cases strips : others.mapM strip? <;> simp [first, strips, withTag]

end Layout

/-! ## Nodes one after another -/

namespace Node

theorem linkTargetsOfAll_eq_flatMap (nodes : List Node) :
    linkTargetsOfAll nodes = nodes.flatMap linkTargets := by
  induction nodes with
  | nil => simp [linkTargetsOfAll]
  | cons node nodes inductionHypothesis => simp [linkTargetsOfAll, inductionHypothesis]

theorem inputsOfAll_eq_flatMap (nodes : List Node) :
    inputsOfAll nodes = nodes.flatMap inputs := by
  induction nodes with
  | nil => simp [inputsOfAll]
  | cons node nodes inductionHypothesis => simp [inputsOfAll, inductionHypothesis]

theorem formsOfAll_eq_flatMap (nodes : List Node) :
    formsOfAll nodes = nodes.flatMap forms := by
  induction nodes with
  | nil => simp [formsOfAll]
  | cons node nodes inductionHypothesis => simp [formsOfAll, inductionHypothesis]

end Node

/-! ## The layout of rendered nodes -/

namespace Node

/-- A node without raw markup whose elements and attributes are called by names. -/
inductive IsPlain : Node → Prop
  | text (content : String) : IsPlain (text content)
  | element {name : String} {attributes : List (String × String)} {children : List Node}
      (isName : IsName name)
      (named : AreNamed attributes)
      (plain : ∀ child ∈ children, IsPlain child) :
      IsPlain (element name attributes children)

/-- An element is plain if its names are names and its children are plain. -/
theorem isPlain_element_iff
    {name : String}
    {attributes : List (String × String)}
    {children : List Node} :
    (element name attributes children).IsPlain ↔
      IsName name ∧ AreNamed attributes ∧ ∀ child ∈ children, child.IsPlain := by
  constructor
  · intro plain
    cases plain with
    | element isName named plain => exact ⟨isName, named, plain⟩
  · exact fun ⟨isName, named, plain⟩ => IsPlain.element isName named plain

mutual

/-- The layout of a node and of what is behind it. Raw markup is taken for a text. -/
def layout : Node → Layout → Layout
  | text content, behind => behind.withText (escape content).toList
  | raw markup, behind => behind.withText markup.toList
  | element name attributes children, behind =>
    if isVoid name then behind.withTag (Tag.opening name attributes)
    else
      (layoutAll children (behind.withTag (Tag.closing name))).withTag
        (Tag.opening name attributes)

/-- The layout of nodes one after another and of what is behind them. -/
def layoutAll : List Node → Layout → Layout
  | [], behind => behind
  | node :: rest, behind => layout node (layoutAll rest behind)

end

mutual

/-- The tags of a node, in the order of the page. -/
def tags : Node → List Tag
  | text _ => []
  | raw _ => []
  | element name attributes children =>
    let inner := if isVoid name then [] else tagsOfAll children ++ [Tag.closing name]
    Tag.opening name attributes :: inner

/-- The tags of nodes one after another. -/
def tagsOfAll : List Node → List Tag
  | [] => []
  | node :: rest => tags node ++ tagsOfAll rest

end

mutual

/-- The tags of a node's layout are those of the node and those behind it. -/
theorem tags_layout :
    (node : Node) → (behind : Layout) →
      (node.layout behind).tags = node.tags ++ behind.tags
  | text _, _ => by simp [layout, tags]
  | raw _, _ => by simp [layout, tags]
  | element name attributes children, behind => by
    unfold layout tags
    split
    · simp
    · simp [tags_layoutAll children]

theorem tags_layoutAll :
    (nodes : List Node) → (behind : Layout) →
      (layoutAll nodes behind).tags = tagsOfAll nodes ++ behind.tags
  | [], _ => by simp [layoutAll, tagsOfAll]
  | node :: rest, behind => by
    simp [layoutAll, tagsOfAll, tags_layout node, tags_layoutAll rest]

end

/-- The characters between the angle brackets of an opening tag hold no angle bracket. -/
theorem not_mem_openingChars
    {name : String}
    {attributes : List (String × String)}
    (isName : IsName name)
    (named : AreNamed attributes)
    {bracket : Char}
    (isBracket : bracket = '<' ∨ bracket = '>') :
    bracket ∉ Tag.openingChars name attributes := by
  obtain ⟨foreign, delimiter, others⟩ := bracket_is_foreign isBracket
  have inAttributes : bracket ∉ (renderAttributes attributes).toList := by
    induction attributes with
    | nil => exact List.not_mem_nil
    | cons entry rest inductionHypothesis =>
      obtain ⟨key, value⟩ := entry
      have keyNamed : IsName key := named (key, value) List.mem_cons_self
      have restPlain := inductionHypothesis fun other present =>
        named other (List.mem_cons_of_mem _ present)
      rw [Tag.toList_renderAttributes_cons]
      simp [keyNamed.not_mem bracket foreign, not_mem_escape delimiter, restPlain, others]
  simp [Tag.openingChars, isName.not_mem bracket foreign, inAttributes]

/-- The characters of a rendered element. -/
theorem toList_render_element
    (name : String)
    (attributes : List (String × String))
    (children : List Node) :
    (render (element name attributes children)).toList =
      '<' :: (Tag.openingChars name attributes ++ '>' ::
        if isVoid name then []
        else (renderAll children).toList ++ '<' :: (('/' :: name.toList) ++ ['>'])) := by
  cases isVoid : isVoid name <;> simp [render, isVoid, Tag.openingChars]

/-- What is rendered from nodes one after another is cut as what is rendered from each of them. -/
theorem read?_renderAll_append
    {nodes : List Node}
    (each : ∀ node ∈ nodes, ∀ rest,
      Layout.read? (node.render.toList ++ rest) = (Layout.read? rest).map node.layout)
    (rest : List Char) :
    Layout.read? ((renderAll nodes).toList ++ rest) =
      (Layout.read? rest).map (layoutAll nodes) := by
  induction nodes with
  | nil => simp [layoutAll]
  | cons node others inductionHypothesis =>
    have first := each node List.mem_cons_self
    have behind := inductionHypothesis
      fun other isOther => each other (List.mem_cons_of_mem _ isOther)
    rw [renderAll_cons, String.toList_append, List.append_assoc, first, behind, Option.map_map]
    rfl

/-- What is rendered from a node is cut where the node has its tags. -/
theorem IsPlain.read?_render_append
    {node : Node}
    (plain : node.IsPlain)
    (rest : List Char) :
    Layout.read? (node.render.toList ++ rest) = (Layout.read? rest).map node.layout := by
  induction plain generalizing rest with
  | text content =>
    rw [render_text, Layout.read?_text_append (not_mem_escape rfl content)]
    rfl
  | @element name attributes children isName named plain inductionHypothesis =>
    have opened := Layout.read?_tag_append (Tag.read?_openingChars isName named)
      (not_mem_openingChars isName named (Or.inl rfl))
      (not_mem_openingChars isName named (Or.inr rfl))
    have closed := Layout.read?_tag_append (Tag.read?_closing name)
      (by simpa using isName.not_mem '<' rfl)
      (by simpa using isName.not_mem '>' rfl)
    rw [toList_render_element]
    cases void : isVoid name with
    | true =>
      simp only [List.cons_append, List.append_assoc, if_true, List.nil_append]
      rw [opened]
      simp [layout, void]
    | false =>
      simp only [List.cons_append, List.append_assoc, Bool.false_eq_true, if_false,
        List.nil_append]
      rw [opened, read?_renderAll_append inductionHypothesis, ← List.cons_append, closed]
      simp [layout, void, Function.comp_def]

end Node

end Html

end Screencast
