import Screencast.Proofs.Html.Markup

/-!
# Attributes in markup

The markup of a page holds `key="value"` only where one of its elements has such an attribute. Texts
cannot bring it about, because an escaped text holds no quote, and the values of other attributes
cannot either, because they stand between the only two quotes of theirs.
-/

namespace Screencast

namespace Html

/-! ## What holds a list of characters -/

section Infix

variable {needle before : List Char} {separator : Char}

/-- What does not hold a separator is found on one side of it. -/
theorem infix_append_cons_iff
    (solid : separator ∉ needle)
    (before behind : List Char) :
    needle <:+: before ++ separator :: behind ↔ needle <:+: before ∨ needle <:+: behind := by
  constructor
  · rintro ⟨front, back, whole⟩
    rcases List.append_eq_append_iff.1 whole with ⟨rest, inBefore, -⟩ | ⟨rest, crosses, atBack⟩
    · exact Or.inl ⟨front, rest, inBefore.symm⟩
    · cases rest with
      | nil => exact Or.inl ⟨front, [], by simpa using crosses⟩
      | cons first others =>
          obtain ⟨rfl, rfl⟩ := List.cons.inj atBack
          rcases List.append_eq_append_iff.1 crosses with ⟨part, -, inNeedle⟩ | ⟨part, -, inRest⟩
          · exact absurd (inNeedle ▸ List.mem_append_right part List.mem_cons_self) solid
          · cases part with
            | nil =>
                rw [List.nil_append] at inRest
                exact absurd (inRest ▸ List.mem_cons_self) solid
            | cons other part =>
                obtain ⟨rfl, rfl⟩ := List.cons.inj inRest
                exact Or.inr ⟨part, back, rfl⟩
  · rintro (inBefore | inBehind)
    · exact inBefore.trans (List.infix_append' [] before (separator :: behind))
    · exact inBehind.trans ((List.suffix_cons separator behind).isInfix.trans
        (List.suffix_append before (separator :: behind)).isInfix)

/-- What does not hold a separator is found before it or behind it, if it is found at all. -/
theorem infix_append_iff_of_leading
    {behind : List Char}
    (solid : separator ∉ needle)
    (nonempty : needle ≠ [])
    (leading : ∀ char rest, behind = char :: rest → char = separator)
    (before : List Char) :
    needle <:+: before ++ behind ↔ needle <:+: before ∨ needle <:+: behind := by
  cases behind with
  | nil => simp [nonempty]
  | cons char rest =>
      obtain rfl := leading char rest rfl
      have inBehind := infix_append_cons_iff solid [] rest
      rw [List.nil_append] at inBehind
      rw [infix_append_cons_iff solid, inBehind]
      simp [nonempty]

end Infix

/-! ## Attributes -/

/-- An attribute as it is written. -/
def attributeChars (key value : String) : List Char :=
  key.toList ++ '=' :: '"' :: ((escape value).toList ++ ['"'])

theorem quote_mem_attributeChars (key value : String) : '"' ∈ attributeChars key value := by
  simp [attributeChars]

/-- An attribute whose key is a name is written without angle brackets. -/
theorem bracket_not_mem_attributeChars
    {key : String}
    {bracket : Char}
    (named : IsName key)
    (isBracket : bracket = '<' ∨ bracket = '>')
    (value : String) :
    bracket ∉ attributeChars key value := by
  obtain ⟨foreign, delimiter, -, others⟩ := bracket_is_foreign isBracket
  simp [attributeChars, named.not_mem bracket foreign, not_mem_escape delimiter, others]

theorem not_isInfix_attributeChars
    {chars : List Char}
    (unquoted : '"' ∉ chars)
    (key value : String) :
    ¬ attributeChars key value <:+: chars :=
  fun present => unquoted (present.subset (quote_mem_attributeChars key value))

theorem toList_renderAttributes_eq_cons
    (key value : String)
    (attributes : List (String × String)) :
    (Node.renderAttributes ((key, value) :: attributes)).toList =
      ' ' :: (attributeChars key value ++ (Node.renderAttributes attributes).toList) := by
  simp [Tag.toList_renderAttributes_cons, attributeChars]

/-- If rendered attributes begin with anything, they begin with a space. -/
theorem eq_space_of_renderAttributes_eq_cons
    {attributes : List (String × String)}
    {char : Char}
    {rest : List Char}
    (chars : (Node.renderAttributes attributes).toList = char :: rest) :
    char = ' ' := by
  cases attributes with
  | nil => simp [Node.renderAttributes] at chars
  | cons entry attributes =>
      rw [toList_renderAttributes_eq_cons entry.1 entry.2] at chars
      exact (List.cons.inj chars).1.symm

/-- An attribute whose key is a name is written with two quotes. -/
theorem count_quote_attributeChars
    {key : String}
    (named : IsName key)
    (value : String) :
    (attributeChars key value).count '"' = 2 := by
  have inKey : key.toList.count '"' = 0 := List.count_eq_zero.2 (named.not_mem '"' rfl)
  have inValue : (escape value).toList.count '"' = 0 :=
    List.count_eq_zero.2 (not_mem_escape rfl value)
  simp [attributeChars, inKey, inValue]

/-- Of two attributes, one as it is written holds the other only if they have the same value and the
key of the one ends with that of the other. -/
theorem attributeChars_infix_attributeChars_iff
    {key other : String}
    (named : IsName key)
    (otherNamed : IsName other)
    (value otherValue : String) :
    attributeChars key value <:+: attributeChars other otherValue ↔
      key.toList <:+ other.toList ∧ otherValue = value := by
  constructor
  · rintro ⟨front, back, whole⟩
    have quotes := congrArg (List.count '"') whole
    simp only [List.count_append, count_quote_attributeChars named,
      count_quote_attributeChars otherNamed] at quotes
    have inFront : '"' ∉ front := List.count_eq_zero.1 (by omega)
    have beforeQuote : '"' ∉ front ++ key.toList ++ ['='] := by
      simp [inFront, named.not_mem '"' rfl]
    have beforeOther : '"' ∉ other.toList ++ ['='] := by simp [otherNamed.not_mem '"' rfl]
    have cut : Text.cutChars '"' (front ++ key.toList ++ ['='] ++
          '"' :: ((escape value).toList ++ '"' :: back)) =
        Text.cutChars '"' (other.toList ++ ['='] ++
          '"' :: ((escape otherValue).toList ++ '"' :: [])) := by
      refine congrArg (Text.cutChars '"') ?_
      simpa [attributeChars] using whole
    rw [Text.cutChars_append_cons beforeQuote, Text.cutChars_append_cons beforeOther] at cut
    obtain ⟨keys, values⟩ := Prod.mk.inj (Option.some.inj cut)
    have cutValue := congrArg (Text.cutChars '"') values
    rw [Text.cutChars_append_cons (not_mem_escape rfl value),
      Text.cutChars_append_cons (not_mem_escape rfl otherValue)] at cutValue
    have sameValue := (Prod.mk.inj (Option.some.inj cutValue)).1
    refine ⟨⟨front, List.append_cancel_right keys⟩, String.toList_inj.1 ?_⟩
    rw [← unescape_escape otherValue, ← sameValue, unescape_escape]
  · rintro ⟨⟨front, whole⟩, rfl⟩
    exact ⟨front, [], by simp [attributeChars, ← whole]⟩

section Holding

variable {key value : String}

/-- Rendered attributes hold an attribute as it is written only if one of them has its value, and a
key that ends with its key. -/
theorem attributeChars_infix_renderAttributes_iff
    {attributes : List (String × String)}
    (named : IsName key)
    (solid : ' ' ∉ attributeChars key value)
    (areNamed : AreNamed attributes) :
    attributeChars key value <:+: (Node.renderAttributes attributes).toList ↔
      ∃ entry ∈ attributes, key.toList <:+ entry.1.toList ∧ entry.2 = value := by
  have nonempty : attributeChars key value ≠ [] := by simp [attributeChars]
  induction attributes with
  | nil => simp [Node.renderAttributes, nonempty]
  | cons entry rest inductionHypothesis =>
      obtain ⟨other, otherValue⟩ := entry
      have otherNamed : IsName other := areNamed (other, otherValue) List.mem_cons_self
      have restNamed : AreNamed rest :=
        fun later present => areNamed later (List.mem_cons_of_mem _ present)
      have inRest : attributeChars key value <:+: (Node.renderAttributes rest).toList ↔
          ∃ entry ∈ rest, key.toList <:+ entry.1.toList ∧ entry.2 = value :=
        inductionHypothesis restNamed
      rw [toList_renderAttributes_eq_cons, ← List.nil_append (' ' :: _),
        infix_append_cons_iff solid,
        infix_append_iff_of_leading solid nonempty
          (fun _ _ => eq_space_of_renderAttributes_eq_cons),
        attributeChars_infix_attributeChars_iff named otherNamed, inRest]
      simp [nonempty]

/-- What a tag is written as between its angle brackets. -/
def Tag.chars : Tag → List Char
  | Tag.opening name attributes => Tag.openingChars name attributes
  | Tag.closing name => '/' :: name.toList

/-- A tag whose element and whose attributes are called by names. -/
def Tag.IsNamed : Tag → Prop
  | Tag.opening name attributes => IsName name ∧ AreNamed attributes
  | Tag.closing name => IsName name

/-- A tag has an attribute with a value, whose key ends with the given one. -/
def Tag.HasAttribute (key value : String) : Tag → Prop
  | Tag.opening _ attributes =>
    ∃ entry ∈ attributes, key.toList <:+ entry.1.toList ∧ entry.2 = value
  | Tag.closing _ => False

/-- A tag holds an attribute as it is written only if it has the attribute. -/
theorem attributeChars_infix_chars_iff
    {tag : Tag}
    (named : IsName key)
    (solid : ' ' ∉ attributeChars key value)
    (tagNamed : tag.IsNamed) :
    attributeChars key value <:+: tag.chars ↔ tag.HasAttribute key value := by
  have nonempty : attributeChars key value ≠ [] := by simp [attributeChars]
  cases tag with
  | opening name attributes =>
      have notInName := not_isInfix_attributeChars (tagNamed.1.not_mem '"' rfl) key value
      rw [Tag.chars, Tag.openingChars,
        infix_append_iff_of_leading solid nonempty
          (fun _ _ => eq_space_of_renderAttributes_eq_cons),
        attributeChars_infix_renderAttributes_iff named solid tagNamed.2]
      exact or_iff_right notInName
  | closing name =>
      have unquoted : '"' ∉ '/' :: name.toList := by
        simpa using IsName.not_mem tagNamed '"' rfl
      exact iff_of_false (not_isInfix_attributeChars unquoted key value) id

end Holding

/-! ## Layouts as they are written -/

namespace Layout

/-- The markup that a layout was cut from. -/
def written (layout : Layout) : List Char :=
  layout.lead ++ layout.strips.flatMap fun (tag, text) => '<' :: (tag.chars ++ '>' :: text)

/-- The texts of a layout as they are written. -/
def texts (layout : Layout) : List (List Char) := layout.lead :: layout.strips.map Prod.snd

/-- No text of a layout holds a quote. -/
def IsUnquoted (layout : Layout) : Prop := ∀ text ∈ layout.texts, '"' ∉ text

/-- If no text holds a quote, written markup holds an attribute only if one of its tags does. -/
theorem attributeChars_infix_written_iff
    {key : String}
    {layout : Layout}
    (named : IsName key)
    (unquoted : layout.IsUnquoted)
    (value : String) :
    attributeChars key value <:+: layout.written ↔
      ∃ tag ∈ layout.tags, attributeChars key value <:+: tag.chars := by
  obtain ⟨lead, strips⟩ := layout
  induction strips generalizing lead with
  | nil =>
      have noLead := unquoted lead List.mem_cons_self
      simpa [written, tags] using not_isInfix_attributeChars noLead key value
  | cons strip rest inductionHypothesis =>
      obtain ⟨tag, text⟩ := strip
      have noLead := unquoted lead List.mem_cons_self
      have restUnquoted : IsUnquoted ⟨text, rest⟩ :=
        fun other present => unquoted other (List.mem_cons_of_mem lead present)
      have split : written ⟨lead, (tag, text) :: rest⟩ =
          lead ++ '<' :: (tag.chars ++ '>' :: written ⟨text, rest⟩) := by
        simp [written]
      rw [split, infix_append_cons_iff (bracket_not_mem_attributeChars named (Or.inl rfl) value),
        infix_append_cons_iff (bracket_not_mem_attributeChars named (Or.inr rfl) value),
        inductionHypothesis text restUnquoted,
        or_iff_right (not_isInfix_attributeChars noLead key value)]
      simp [tags]

@[simp] theorem written_empty : empty.written = [] := rfl

@[simp] theorem written_withText (chars : List Char) (layout : Layout) :
    (layout.withText chars).written = chars ++ layout.written := by
  simp [written, withText]

@[simp] theorem written_withTag (tag : Tag) (layout : Layout) :
    (layout.withTag tag).written = '<' :: (tag.chars ++ '>' :: layout.written) := by
  simp [written, withTag]

/-- A text without a quote brings none into a layout. -/
theorem IsUnquoted.withText
    {layout : Layout}
    {chars : List Char}
    (unquoted : layout.IsUnquoted)
    (noQuote : '"' ∉ chars) :
    (layout.withText chars).IsUnquoted := by
  obtain ⟨lead, strips⟩ := layout
  intro text present
  rcases List.mem_cons.1 present with rfl | later
  · have noLead := unquoted lead List.mem_cons_self
    simpa [Layout.withText] using And.intro noQuote noLead
  · exact unquoted text (List.mem_cons_of_mem lead later)

/-- A tag brings no quote into the texts of a layout. -/
theorem IsUnquoted.withTag
    {layout : Layout}
    (unquoted : layout.IsUnquoted)
    (tag : Tag) :
    (layout.withTag tag).IsUnquoted := by
  intro text present
  rcases List.mem_cons.1 present with rfl | later
  · exact List.not_mem_nil
  · exact unquoted text later

end Layout

namespace Node

mutual

/-- The layout of a node is written as the node is rendered. -/
theorem written_layout :
    (node : Node) → (behind : Layout) →
      (node.layout behind).written = node.render.toList ++ behind.written
  | text _, _ => by simp [layout]
  | raw _, _ => by simp [layout]
  | element name attributes children, behind => by
    rw [toList_render_element]
    cases void : isVoid name with
    | true => simp [layout, void, Tag.chars]
    | false => simp [layout, void, Tag.chars, written_layoutAll children]

theorem written_layoutAll :
    (nodes : List Node) → (behind : Layout) →
      (layoutAll nodes behind).written = (renderAll nodes).toList ++ behind.written
  | [], _ => by simp [layoutAll]
  | node :: rest, behind => by
    simp [layoutAll, written_layout node, written_layoutAll rest]

end

/-- Nodes that bring no quotes into the texts of a layout do so together. -/
theorem isUnquoted_layoutAll
    {nodes : List Node}
    (each : ∀ node ∈ nodes, ∀ behind : Layout, behind.IsUnquoted →
      (node.layout behind).IsUnquoted)
    {behind : Layout}
    (unquoted : behind.IsUnquoted) :
    (layoutAll nodes behind).IsUnquoted := by
  induction nodes with
  | nil => simpa [layoutAll] using unquoted
  | cons node rest inductionHypothesis =>
      rw [layoutAll]
      refine each node List.mem_cons_self _ (inductionHypothesis fun other present => ?_)
      exact each other (List.mem_cons_of_mem node present)

/-- A plain node brings no quotes into the texts of a layout. -/
theorem IsPlain.isUnquoted_layout
    {node : Node}
    (plain : node.IsPlain)
    {behind : Layout}
    (unquoted : behind.IsUnquoted) :
    (node.layout behind).IsUnquoted := by
  induction plain generalizing behind with
  | text content =>
      rw [layout]
      exact unquoted.withText (not_mem_escape rfl content)
  | @element name attributes children isName named plain inductionHypothesis =>
      rw [layout]
      split
      · exact unquoted.withTag _
      · refine Layout.IsUnquoted.withTag (isUnquoted_layoutAll ?_ (unquoted.withTag _)) _
        exact fun child present _ => inductionHypothesis child present

theorem tagsOfAll_eq_flatMap (nodes : List Node) : tagsOfAll nodes = nodes.flatMap tags := by
  induction nodes with
  | nil => simp [tagsOfAll]
  | cons node rest inductionHypothesis => simp [tagsOfAll, inductionHypothesis]

/-- The tags of an element are its own and those of its children, unless it is void. -/
theorem mem_tags_element_iff
    {tag : Tag}
    {name : String}
    {attributes : List (String × String)}
    {children : List Node} :
    tag ∈ (element name attributes children).tags ↔
      tag = Tag.opening name attributes ∨
        (isVoid name = false ∧
          ((∃ child ∈ children, tag ∈ child.tags) ∨ tag = Tag.closing name)) := by
  cases void : isVoid name <;> simp [tags, void, tagsOfAll_eq_flatMap]

/-- The tags of a plain node are called by names. -/
theorem IsPlain.isNamed_of_mem_tags
    {node : Node}
    (plain : node.IsPlain) :
    ∀ tag ∈ node.tags, tag.IsNamed := by
  induction plain with
  | text content => simp [tags]
  | @element name attributes children isName named plain inductionHypothesis =>
      intro tag present
      rcases mem_tags_element_iff.1 present with rfl | ⟨_, ⟨child, isChild, ofChild⟩ | rfl⟩
      · exact ⟨isName, named⟩
      · exact inductionHypothesis child isChild tag ofChild
      · exact isName

/-- A node or a node inside it has an attribute with a value, whose key ends with the given one. -/
def Shows (key value : String) (node : Node) : Prop := ∃ tag ∈ node.tags, tag.HasAttribute key value

section Shows

variable {key value : String}

@[simp] theorem not_shows_text (content : String) : ¬ (text content).Shows key value := by
  simp [Shows, tags]

/-- An element has the attributes of its own and those of its children, unless it is void. -/
@[simp] theorem shows_element_iff
    {name : String}
    {attributes : List (String × String)}
    {children : List Node} :
    (element name attributes children).Shows key value ↔
      (∃ entry ∈ attributes, key.toList <:+ entry.1.toList ∧ entry.2 = value) ∨
        (isVoid name = false ∧ ∃ child ∈ children, child.Shows key value) := by
  constructor
  · rintro ⟨tag, present, has⟩
    rcases mem_tags_element_iff.1 present with rfl | ⟨notVoid, ⟨child, isChild, ofChild⟩ | rfl⟩
    · exact Or.inl has
    · exact Or.inr ⟨notVoid, child, isChild, tag, ofChild, has⟩
    · exact has.elim
  · rintro (has | ⟨notVoid, child, isChild, tag, ofChild, has⟩)
    · exact ⟨_, mem_tags_element_iff.2 (Or.inl rfl), has⟩
    · have inner : (∃ child ∈ children, tag ∈ child.tags) ∨ tag = Tag.closing name :=
        Or.inl ⟨child, isChild, ofChild⟩
      exact ⟨tag, mem_tags_element_iff.2 (Or.inr ⟨notVoid, inner⟩), has⟩

end Shows

/-- The markup of a plain node holds an attribute as it is written exactly if the node has it. -/
theorem IsPlain.attributeChars_infix_render_iff
    {node : Node}
    {key value : String}
    (plain : node.IsPlain)
    (named : IsName key)
    (solid : ' ' ∉ attributeChars key value) :
    attributeChars key value <:+: node.render.toList ↔ node.Shows key value := by
  have nothing : Layout.empty.IsUnquoted := List.forall_mem_singleton.2 List.not_mem_nil
  have rendered : node.render.toList = (node.layout Layout.empty).written := by
    rw [written_layout, Layout.written_empty, List.append_nil]
  have sameTags : (node.layout Layout.empty).tags = node.tags := by
    rw [tags_layout, Layout.tags_empty, List.append_nil]
  rw [rendered, Layout.attributeChars_infix_written_iff named (plain.isUnquoted_layout nothing),
    sameTags]
  refine exists_congr fun tag => and_congr_right fun present => ?_
  exact attributeChars_infix_chars_iff named solid (plain.isNamed_of_mem_tags tag present)

/-- The document type of a page holds no attribute. -/
theorem attributeChars_infix_renderDocument_iff
    {key : String}
    (named : IsName key)
    (value : String)
    (node : Node) :
    attributeChars key value <:+: node.renderDocument.toList ↔
      attributeChars key value <:+: node.render.toList := by
  unfold renderDocument
  split
  · next attributes children =>
      have notInType : ¬ attributeChars key value <:+: "<!DOCTYPE html".toList :=
        not_isInfix_attributeChars (by decide) key value
      rw [String.toList_append, show "<!DOCTYPE html>".toList = "<!DOCTYPE html".toList ++ ['>'] by
          decide, List.append_assoc, List.singleton_append,
        infix_append_cons_iff (bracket_not_mem_attributeChars named (Or.inr rfl) value)]
      exact or_iff_right notInType
  · rfl

end Node

end Html

end Screencast
