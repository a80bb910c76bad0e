import Screencast.Proofs.Html.Attributes
import Screencast.Proofs.Html.ReadBack

/-!
# Tags and texts of markup

Markup behind its declaration is read as tags with the texts behind them, each text as it was before
it was escaped. Whatever is written from tags that are called by names, with any texts behind them,
is read as these tags and texts again.
-/

namespace Screencast

namespace Html

namespace Tag

/-- A tag that is called by names is read back. -/
theorem read?_chars
    {tag : Tag}
    (named : tag.IsNamed) :
    read? tag.chars = some tag := by
  cases tag with
  | opening name attributes => exact read?_openingChars named.1 named.2
  | closing name => exact read?_closing name

/-- A tag that is called by names holds no angle bracket between those around it. -/
theorem not_mem_chars
    {tag : Tag}
    (named : tag.IsNamed)
    {bracket : Char}
    (isBracket : bracket = '<' ∨ bracket = '>') :
    bracket ∉ tag.chars := by
  cases tag with
  | opening name attributes => exact Node.not_mem_openingChars named.1 named.2 isBracket
  | closing name =>
      have notSlash : bracket ≠ '/' := by
        rcases isBracket with rfl | rfl <;> decide
      have notInName := IsName.not_mem named bracket (bracket_is_foreign isBracket).1
      simp [chars, notSlash, notInName]

/-- The target of the link that a tag opens. -/
def target? : Tag → Option String
  | opening name attributes => if name = "a" then Node.attribute? attributes "href" else none
  | closing _ => none

end Tag

namespace Layout

/-- Markup whose texts hold no left angle bracket is cut at the tags that it was written from. -/
theorem read?_written
    {layout : Layout}
    (named : ∀ tag ∈ layout.tags, tag.IsNamed)
    (noTag : ∀ text ∈ layout.texts, '<' ∉ text) :
    read? layout.written = some layout := by
  obtain ⟨lead, strips⟩ := layout
  induction strips generalizing lead with
  | nil =>
      have noLead := noTag lead List.mem_cons_self
      simp [written, read?, Text.splitChars_of_not_mem noLead]
  | cons strip rest inductionHypothesis =>
      obtain ⟨tag, text⟩ := strip
      have noLead := noTag lead List.mem_cons_self
      have tagNamed := named tag List.mem_cons_self
      have split : written ⟨lead, (tag, text) :: rest⟩ =
          lead ++ '<' :: (tag.chars ++ '>' :: written ⟨text, rest⟩) := by
        simp [written]
      have behind : read? (written ⟨text, rest⟩) = some ⟨text, rest⟩ :=
        inductionHypothesis text
          (fun other present => named other (List.mem_cons_of_mem tag present))
          (fun other present => noTag other (List.mem_cons_of_mem lead present))
      rw [split, read?_text_append noLead, read?_tag_append (Tag.read?_chars tagNamed)
        (Tag.not_mem_chars tagNamed (Or.inl rfl)) (Tag.not_mem_chars tagNamed (Or.inr rfl)), behind]
      simp [withTag, withText]

/-- The layout of tags with texts behind them. -/
def ofStrips (strips : List (Tag × String)) : Layout where
  lead := []
  strips := strips.map fun (tag, text) => (tag, (escape text).toList)

/-- The tags of a layout with the texts behind them, as they were before they were escaped. -/
def unescaped (layout : Layout) : List (Tag × String) :=
  layout.strips.map fun (tag, chars) => (tag, String.ofList (unescape chars))

@[simp] theorem written_ofStrips_nil : (ofStrips []).written = [] := rfl

@[simp] theorem written_ofStrips_cons (tag : Tag) (text : String) (rest : List (Tag × String)) :
    (ofStrips ((tag, text) :: rest)).written =
      '<' :: (tag.chars ++ '>' :: ((escape text).toList ++ (ofStrips rest).written)) := by
  simp [ofStrips, written]

@[simp] theorem written_ofStrips_append (first second : List (Tag × String)) :
    (ofStrips (first ++ second)).written =
      (ofStrips first).written ++ (ofStrips second).written := by
  simp [ofStrips, written]

@[simp] theorem unescaped_ofStrips (strips : List (Tag × String)) :
    (ofStrips strips).unescaped = strips := by
  simp [ofStrips, unescaped, Function.comp_def, unescape_escape]

/-- Tags that are called by names are found where they were written. -/
theorem read?_written_ofStrips
    {strips : List (Tag × String)}
    (named : ∀ strip ∈ strips, strip.1.IsNamed) :
    read? (ofStrips strips).written = some (ofStrips strips) := by
  refine read?_written ?tags ?texts
  case tags => simpa [ofStrips, tags] using named
  case texts =>
    intro text present
    rcases List.mem_cons.1 present with rfl | behind
    · exact List.not_mem_nil
    · obtain ⟨strip, inStrips, rfl⟩ := List.mem_map.1 behind
      obtain ⟨⟨tag, content⟩, _, rfl⟩ := List.mem_map.1 inStrips
      exact not_mem_escape rfl content

end Layout

/-! ## Documents -/

/-- The tags of a document behind its declaration, and the texts behind them. -/
def strips? (document : String) : Option (List (Tag × String)) := do
  let (_, markup) ← Text.cutChars '>' document.toList
  let layout ← Layout.read? markup
  some layout.unescaped

/-- Tags that are called by names, and any texts behind them, are read back from a document. -/
theorem strips?_of_written
    {document : String}
    {declaration : List Char}
    {strips : List (Tag × String)}
    (isWritten : document.toList = declaration ++ '>' :: (Layout.ofStrips strips).written)
    (isDeclaration : '>' ∉ declaration)
    (named : ∀ strip ∈ strips, strip.1.IsNamed) :
    strips? document = some strips := by
  rw [strips?, isWritten, Text.cutChars_append_cons isDeclaration]
  simp [Layout.read?_written_ofStrips named]

/-- The targets of the links of a document, in their order. -/
def links? (document : String) : Option (List String) :=
  (strips? document).map fun strips => strips.filterMap fun (tag, _) => tag.target?

namespace Node

/-- The targets of the links that are written for a node, in their order. -/
def writtenTargets (node : Node) : List String := node.tags.filterMap Tag.target?

@[simp] theorem writtenTargets_text (content : String) : (text content).writtenTargets = [] := by
  simp [writtenTargets, tags]

/-- For an element that is no link, those are written that are written for its children. -/
theorem writtenTargets_element
    {name : String}
    (notLink : name ≠ "a")
    (attributes : List (String × String))
    (children : List Node) :
    (element name attributes children).writtenTargets =
      if isVoid name then [] else children.flatMap writtenTargets := by
  have inside : (children.flatMap tags).filterMap Tag.target? =
      children.flatMap writtenTargets := by
    rw [List.filterMap_flatMap]
    rfl
  cases void : isVoid name <;>
    simp [writtenTargets, tags, void, Tag.target?, notLink, tagsOfAll_eq_flatMap, inside]

@[simp] theorem writtenTargets_link (target content : String) :
    (link target [text content]).writtenTargets = [target] := by
  simp [writtenTargets, link, tags, tagsOfAll, isVoid, Tag.target?, attribute?]

/-- The links of a page are read back from its markup. -/
theorem links?_renderDocument
    {attributes : List (String × String)}
    {children : List Node}
    (plain : (element "html" attributes children).IsPlain) :
    links? (element "html" attributes children).renderDocument =
      some (element "html" attributes children).writtenTargets := by
  have written : (element "html" attributes children).renderDocument.toList =
      "<!DOCTYPE html".toList ++ '>' :: (element "html" attributes children).render.toList := by
    simp [renderDocument]
  have tagsThere := tags_layout (element "html" attributes children) Layout.empty
  rw [Layout.tags_empty, List.append_nil] at tagsThere
  rw [links?, strips?, written, Text.cutChars_append_cons (by decide)]
  simp only [Option.bind_eq_bind, Option.bind_some, plain.read?_render, Option.map_some,
    Layout.unescaped, writtenTargets, ← tagsThere, Layout.tags, List.filterMap_map]
  rfl

end Node

end Html

end Screencast
