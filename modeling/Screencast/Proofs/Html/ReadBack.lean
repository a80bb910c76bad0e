import Screencast.Proofs.Html.Markup

/-!
# Rendered markup is read back

Nodes are put together from the end of the markup to its beginning: a closing tag opens a new level
of siblings, and the opening tag that belongs to it makes them the children of one element. What is
read from rendered nodes is their normal form, in which void elements have no children, texts that
stand next to each other are one text, and no text is empty. The normal form is rendered as the
nodes were, so that two plain nodes look alike exactly if they have the same normal form.
-/

namespace Screencast

namespace Html

namespace Node

/-! ## Normal forms -/

/-- A text in front of siblings. An empty text is left out, and a text in front of a text is joined
with it. -/
def consText (content : String) : List Node → List Node
  | text next :: rest => text (content ++ next) :: rest
  | siblings => if content = "" then siblings else text content :: siblings

mutual

/-- The normal form of a node in front of siblings in normal form. -/
def normalOnto : Node → List Node → List Node
  | text content, siblings => consText content siblings
  | raw markup, siblings => raw markup :: siblings
  | element name attributes children, siblings =>
    element name attributes (if isVoid name then [] else normalForm children) :: siblings

/-- The normal form of nodes one after another. -/
def normalForm : List Node → List Node
  | [] => []
  | node :: rest => normalOnto node (normalForm rest)

end

@[simp] theorem normalOnto_text (content : String) (siblings : List Node) :
    normalOnto (text content) siblings = consText content siblings := by simp [normalOnto]

@[simp] theorem normalForm_nil : normalForm [] = [] := by simp [normalForm]

@[simp] theorem normalForm_cons (node : Node) (rest : List Node) :
    normalForm (node :: rest) = normalOnto node (normalForm rest) := by simp [normalForm]

@[simp] theorem consText_empty (siblings : List Node) : consText "" siblings = siblings := by
  unfold consText
  split <;> simp

/-- Two texts in front of siblings are as good as one. -/
theorem consText_consText
    (first second : String)
    (siblings : List Node) :
    consText first (consText second siblings) = consText (first ++ second) siblings := by
  by_cases empty : second = ""
  · simp [empty]
  · fun_cases consText second siblings with
    | case1 next rest => simp [consText, String.append_assoc]
    | case2 siblings noText isEmpty => exact absurd isEmpty empty
    | case3 siblings noText notEmpty => simp [consText, empty]

/-- Nodes in normal form. -/
inductive AreNormal : List Node → Prop
  | nil : AreNormal []
  | text {content : String} {rest : List Node}
      (nonempty : content ≠ "")
      (alone : ∀ next others, rest ≠ text next :: others)
      (normal : AreNormal rest) :
      AreNormal (text content :: rest)
  | raw {markup : String} {rest : List Node}
      (normal : AreNormal rest) :
      AreNormal (raw markup :: rest)
  | element {name : String} {attributes : List (String × String)} {children rest : List Node}
      (childless : isVoid name = true → children = [])
      (inner : AreNormal children)
      (normal : AreNormal rest) :
      AreNormal (element name attributes children :: rest)

/-- A text in front of nodes in normal form leaves them in normal form. -/
theorem AreNormal.consText
    {siblings : List Node}
    (normal : AreNormal siblings)
    (content : String) :
    AreNormal (consText content siblings) := by
  fun_cases Node.consText content siblings with
  | case1 next rest =>
    cases normal with
    | text nonempty alone normal => exact AreNormal.text (by simp [nonempty]) alone normal
  | case2 siblings noText isEmpty => exact normal
  | case3 siblings noText notEmpty => exact AreNormal.text notEmpty noText normal

mutual

/-- The normal form of a node leaves nodes in normal form. -/
theorem AreNormal.normalOnto :
    (node : Node) → {siblings : List Node} → AreNormal siblings →
      AreNormal (normalOnto node siblings)
  | text content, _, normal => by simpa using normal.consText content
  | raw markup, _, normal => by simpa [Node.normalOnto] using AreNormal.raw normal
  | element name attributes children, _, normal => by
    unfold Node.normalOnto
    refine AreNormal.element (fun void => by simp [void]) ?_ normal
    split
    · exact AreNormal.nil
    · exact areNormal_normalForm children

theorem areNormal_normalForm : (nodes : List Node) → AreNormal (normalForm nodes)
  | [] => by simpa using AreNormal.nil
  | node :: rest => by
    simpa using AreNormal.normalOnto node (areNormal_normalForm rest)

end

/-- Nodes in normal form are their own normal form. -/
theorem normalForm_of_areNormal
    {nodes : List Node}
    (normal : AreNormal nodes) :
    normalForm nodes = nodes := by
  induction normal with
  | nil => simp
  | @text content rest nonempty alone normal inductionHypothesis =>
    rw [normalForm_cons, inductionHypothesis, normalOnto_text, consText.eq_2 _ _ alone,
      if_neg nonempty]
  | raw normal inductionHypothesis =>
    rw [normalForm_cons, inductionHypothesis, normalOnto]
  | @element name attributes children rest childless inner normal innerHypothesis
      inductionHypothesis =>
    rw [normalForm_cons, inductionHypothesis, normalOnto, innerHypothesis]
    cases void : isVoid name with
    | true => simp [childless void]
    | false => simp

/-- A text in front of siblings is rendered in front of them. -/
theorem renderAll_consText
    (content : String)
    (siblings : List Node) :
    renderAll (consText content siblings) = escape content ++ renderAll siblings := by
  fun_cases consText content siblings with
  | case1 next rest => simp [escape, String.append_assoc]
  | case2 siblings noText isEmpty => simp [isEmpty, escape]
  | case3 siblings noText notEmpty => simp

mutual

/-- The normal form of a node is rendered as the node. -/
theorem renderAll_normalOnto :
    (node : Node) → (siblings : List Node) →
      renderAll (normalOnto node siblings) = render node ++ renderAll siblings
  | text content, siblings => by simp [renderAll_consText]
  | raw markup, siblings => by simp [normalOnto]
  | element name attributes children, siblings => by
    cases void : isVoid name with
    | true => simp [normalOnto, render, void]
    | false => simp [normalOnto, render, void, renderAll_normalForm children]

theorem renderAll_normalForm :
    (nodes : List Node) → renderAll (normalForm nodes) = renderAll nodes
  | [] => by simp
  | node :: rest => by
    simp [renderAll_normalOnto node, renderAll_normalForm rest]

end

end Node

/-! ## Reading -/

/-- Nodes that are put together from the end of the markup to its beginning: those inside the
innermost open level, and the levels around it, each with the name that it is closed with and the
nodes behind it. -/
structure Nest where
  siblings : List Node
  enclosing : List (String × List Node)
  deriving Inhabited

namespace Nest

/-- What stands at the end of markup. -/
def ending : Nest := { siblings := [], enclosing := [] }

/-- A nest with nodes put in front of its siblings. -/
def onto
    (change : List Node → List Node)
    (nest : Nest) :
    Nest :=
  { nest with siblings := change nest.siblings }

/-- A nest with a written text in front of it. -/
def withText
    (chars : List Char)
    (nest : Nest) :
    Nest :=
  nest.onto (Node.consText (String.ofList (unescape chars)))

/-- A nest with a tag in front of it, if the tag fits. -/
def withTag? (nest : Nest) : Tag → Option Nest
  | Tag.closing name =>
    some { siblings := [], enclosing := (name, nest.siblings) :: nest.enclosing }
  | Tag.opening name attributes =>
    if Node.isVoid name then some (nest.onto (Node.element name attributes [] :: ·))
    else
      match nest.enclosing with
      | [] => none
      | (closed, behind) :: enclosing =>
        if closed = name then
          some { siblings := Node.element name attributes nest.siblings :: behind, enclosing }
        else none

/-- Put the nodes of tags and the texts behind them together. -/
def ofStrips? : List (Tag × List Char) → Option Nest
  | [] => some ending
  | (tag, chars) :: rest => do
    let nest ← ofStrips? rest
    (nest.withText chars).withTag? tag

/-- Put the nodes of a layout together. -/
def ofLayout? (layout : Layout) : Option Nest :=
  (ofStrips? layout.strips).map (withText layout.lead)

@[simp] theorem onto_self : onto (fun siblings => siblings) = id := rfl

@[simp] theorem withText_nil : withText [] = id := by
  funext nest
  simp [withText, onto, unescape]

/-- A written text in front of another is the first text in front of the second. -/
theorem withText_escape_append
    (content : String)
    (chars : List Char)
    (nest : Nest) :
    nest.withText ((escape content).toList ++ chars) =
      (nest.withText chars).onto (Node.consText content) := by
  simp [withText, onto, unescape_escape_append, Node.consText_consText]

/-- A text in front of a layout is a text in front of its nodes. -/
theorem ofLayout?_withText
    (content : String)
    (layout : Layout) :
    ofLayout? (layout.withText (escape content).toList) =
      (ofLayout? layout).map (onto (Node.consText content)) := by
  have lead := withText_escape_append content layout.lead
  cases strips : ofStrips? layout.strips with
  | none => simp [ofLayout?, Layout.withText, strips]
  | some nest => simp [ofLayout?, Layout.withText, strips, lead]

/-- A tag in front of a layout is a tag in front of its nodes. -/
theorem ofLayout?_withTag
    (tag : Tag)
    (layout : Layout) :
    ofLayout? (layout.withTag tag) = (ofLayout? layout).bind (·.withTag? tag) := by
  cases strips : ofStrips? layout.strips with
  | none => simp [ofLayout?, Layout.withTag, ofStrips?, strips]
  | some nest => simp [ofLayout?, Layout.withTag, ofStrips?, strips]

/-- An element is put together from its two tags and from what stands between them. -/
theorem withTag?_element
    {name : String}
    (attributes : List (String × String))
    (notVoid : Node.isVoid name = false)
    (inner : List Node → List Node)
    (nest : Nest) :
    (((nest.withTag? (Tag.closing name)).map (onto inner)).bind
        (·.withTag? (Tag.opening name attributes))) =
      some (nest.onto (Node.element name attributes (inner []) :: ·)) := by
  simp [withTag?, notVoid, onto]

end Nest

namespace Node

/-- The nodes of layouts one after another are put together from each of them. -/
theorem ofLayout?_layoutAll
    {nodes : List Node}
    (each : ∀ node ∈ nodes, ∀ behind,
      Nest.ofLayout? (node.layout behind) =
        (Nest.ofLayout? behind).map (Nest.onto node.normalOnto))
    (behind : Layout) :
    Nest.ofLayout? (layoutAll nodes behind) =
      (Nest.ofLayout? behind).map (Nest.onto (nodes.foldr normalOnto)) := by
  induction nodes with
  | nil => simp [layoutAll]
  | cons node others inductionHypothesis =>
    have first := each node List.mem_cons_self
    have later := inductionHypothesis
      fun other isOther => each other (List.mem_cons_of_mem _ isOther)
    rw [layoutAll, first, later, Option.map_map]
    rfl

theorem normalForm_eq_foldr (nodes : List Node) : normalForm nodes = nodes.foldr normalOnto [] := by
  induction nodes with
  | nil => simp
  | cons node rest inductionHypothesis => simp [inductionHypothesis]

/-- What is put together from the layout of a plain node is its normal form. -/
theorem IsPlain.ofLayout?_layout
    {node : Node}
    (plain : node.IsPlain)
    (behind : Layout) :
    Nest.ofLayout? (node.layout behind) =
      (Nest.ofLayout? behind).map (Nest.onto node.normalOnto) := by
  induction plain generalizing behind with
  | text content =>
    have same : normalOnto (Node.text content) = consText content := funext fun _ => by simp
    rw [layout, Nest.ofLayout?_withText, same]
  | @element name attributes children isName named plain inductionHypothesis =>
    cases void : isVoid name with
    | true =>
      rw [layout, if_pos void, Nest.ofLayout?_withTag]
      simp only [Nest.withTag?, void, normalOnto, Option.map_eq_bind]
      rfl
    | false =>
      have inner := Nest.withTag?_element attributes void (children.foldr normalOnto)
      rw [layout, if_neg (by simp [void]), Nest.ofLayout?_withTag,
        ofLayout?_layoutAll inductionHypothesis, Nest.ofLayout?_withTag]
      cases Nest.ofLayout? behind with
      | none => rfl
      | some nest =>
        rw [Option.bind_some, inner nest, ← normalForm_eq_foldr]
        simp [normalOnto, void]

end Node

/-- The nodes of markup. -/
def readMarkup? (markup : String) : Option (List Node) := do
  let layout ← Layout.read? markup.toList
  let nest ← Nest.ofLayout? layout
  if nest.enclosing.isEmpty then some nest.siblings else none

/-- The tags of markup. -/
def tagsOfMarkup? (markup : String) : Option (List Tag) :=
  (Layout.read? markup.toList).map Layout.tags

theorem Node.IsPlain.read?_render
    {node : Node}
    (plain : node.IsPlain) :
    Layout.read? node.render.toList = some (node.layout Layout.empty) := by
  simpa [Layout.read?, Layout.empty] using plain.read?_render_append []

/-- The normal form of a plain node is read from its markup. -/
theorem Node.IsPlain.readMarkup?_render
    {node : Node}
    (plain : node.IsPlain) :
    readMarkup? node.render = some (normalForm [node]) := by
  have nest := plain.ofLayout?_layout Layout.empty
  have ending : Nest.ofLayout? Layout.empty = some Nest.ending := by
    simp [Nest.ofLayout?, Nest.ofStrips?, Layout.empty]
  rw [ending, Option.map_some] at nest
  simp [readMarkup?, plain.read?_render, nest, Nest.onto, Nest.ending]

theorem Node.IsPlain.tagsOfMarkup?_render
    {node : Node}
    (plain : node.IsPlain) :
    tagsOfMarkup? node.render = some node.tags := by
  rw [tagsOfMarkup?, plain.read?_render, Option.map_some, tags_layout, Layout.tags_empty,
    List.append_nil]

/-- Markup of plain nodes is read back as their normal form, whatever their texts and attribute
values are: its tags are those of the elements alone, and two nodes are rendered alike exactly if
they have the same normal form. -/
theorem markup_is_read_back
    {left right : Node}
    (leftPlain : left.IsPlain)
    (rightPlain : right.IsPlain) :
    readMarkup? left.render = some (Node.normalForm [left]) ∧
      tagsOfMarkup? left.render = some left.tags ∧
      (left.render = right.render ↔ Node.normalForm [left] = Node.normalForm [right]) := by
  refine ⟨leftPlain.readMarkup?_render, leftPlain.tagsOfMarkup?_render, ?_, ?_⟩
  · intro alike
    have readLeft := leftPlain.readMarkup?_render
    rw [alike, rightPlain.readMarkup?_render] at readLeft
    exact (Option.some.inj readLeft).symm
  · intro same
    have rendered := congrArg Node.renderAll same
    simpa only [Node.renderAll_normalForm, Node.renderAll_cons, Node.renderAll_nil,
      String.append_empty] using rendered

/-- The attributes of a paragraph whose title looks like markup. -/
def confusingTitle : List (String × String) := [("title", "\"><script x='&quot;")]

/-- A paragraph whose title and whose texts look like markup. -/
def confusingParagraph : Node :=
  Node.element "p" confusingTitle
    [Node.text "</p>", Node.text "", Node.text "&lt;b>", Node.element "br" [] [Node.text "lost"]]

/-- The same paragraph with one text and an empty line break. -/
def joinedParagraph : Node :=
  Node.element "p" confusingTitle [Node.text "</p>&lt;b>", Node.element "br" [] []]

/-- Markup in texts and in a title is read back as texts and a title. -/
theorem markup_of_confusing_texts_is_read_back :
    confusingParagraph.IsPlain ∧ joinedParagraph.IsPlain ∧
      readMarkup? confusingParagraph.render = some (Node.normalForm [confusingParagraph]) ∧
      tagsOfMarkup? confusingParagraph.render = some confusingParagraph.tags ∧
      (confusingParagraph.render = joinedParagraph.render ↔
        Node.normalForm [confusingParagraph] = Node.normalForm [joinedParagraph]) := by
  have titleNamed : AreNamed confusingTitle := by
    intro entry present
    rw [List.mem_singleton.1 present]
    decide
  have breakPlain : ∀ children, (∀ child ∈ children, ∃ content, child = Node.text content) →
      (Node.element "br" [] children).IsPlain := by
    intro children texts
    refine Node.IsPlain.element (by decide) (fun _ absent => nomatch absent) ?_
    intro child present
    obtain ⟨content, rfl⟩ := texts child present
    exact Node.IsPlain.text content
  have confusingPlain : confusingParagraph.IsPlain := by
    refine Node.IsPlain.element (by decide) titleNamed ?_
    simp [Node.IsPlain.text, breakPlain]
  have joinedPlain : joinedParagraph.IsPlain := by
    refine Node.IsPlain.element (by decide) titleNamed ?_
    simp [Node.IsPlain.text, breakPlain]
  exact ⟨confusingPlain, joinedPlain, markup_is_read_back confusingPlain joinedPlain⟩

end Html

end Screencast
