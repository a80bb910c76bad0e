import Mathlib.Data.List.Flatten
import Mathlib.Data.List.Perm.Basic
import Screencast.Proofs.Html.Strips

/-!
# Links and forms of markup

A page is looked at without reading its markup: all nodes of the tree are visited, those below void
elements too, though these have no content in the markup. Here links and forms are read from markup,
and what is read is compared with what is found in the tree. The two are the same exactly if nothing
that counts stands below a void element.
-/

namespace Screencast

namespace Html

/-! ## Reading -/

/-- The form with some attributes and some named inputs. -/
def Form.ofAttributes
    (attributes : List (String × String))
    (inputs : List (String × String)) :
    Form where
  action := (Node.attribute? attributes "action").getD ""
  method := Text.lower ((Node.attribute? attributes "method").getD "get")
  inputs := inputs

namespace Tag

/-- The named input that a tag puts on the page. -/
def input? : Tag → Option (String × String)
  | opening name attributes =>
    if name = "input" then
      (Node.attribute? attributes "name").map fun key =>
        (key, (Node.attribute? attributes "value").getD "")
    else none
  | closing _ => none

/-- The tags in front of the end tag of an element, inside which so many elements of the same name
are open. -/
def upToEnd (name : String) : Nat → List Tag → List Tag
  | _, [] => []
  | depth, opening other attributes :: rest =>
    opening other attributes :: upToEnd name (if other = name then depth + 1 else depth) rest
  | depth, closing other :: rest =>
    if other = name then
      match depth with
      | 0 => []
      | outer + 1 => closing other :: upToEnd name outer rest
    else closing other :: upToEnd name depth rest

/-- The forms that tags put on the page, each with the named inputs up to its end tag. -/
def forms : List Tag → List Form
  | [] => []
  | opening name attributes :: rest =>
    let own : List Form :=
      if name = "form" then
        [Form.ofAttributes attributes ((upToEnd "form" 0 rest).filterMap input?)]
      else []
    own ++ forms rest
  | closing _ :: rest => forms rest

end Tag

/-- The targets of the links in markup, in their order. -/
def linksOfMarkup? (markup : String) : Option (List String) :=
  (tagsOfMarkup? markup).map (List.filterMap Tag.target?)

/-- The forms in markup, in their order. -/
def formsOfMarkup? (markup : String) : Option (List Form) :=
  (tagsOfMarkup? markup).map Tag.forms

namespace Node

/-- What holds of texts and of raw markup, and of every element if it holds of its children, holds
of all nodes. -/
@[elab_as_elim]
theorem inductionOn
    {motive : Node → Prop}
    (node : Node)
    (text : ∀ content, motive (text content))
    (raw : ∀ markup, motive (raw markup))
    (element : ∀ name attributes children, (∀ child ∈ children, motive child) →
      motive (element name attributes children)) :
    motive node :=
  Node.rec (motive_1 := motive) (motive_2 := fun nodes => ∀ child ∈ nodes, motive child)
    element text raw (fun _ absent => nomatch absent)
    (fun _ _ first others => List.forall_mem_cons.2 ⟨first, others⟩) node

/-! ## Visited nodes -/

mutual

/-- A node and the nodes that are reached in it, if only some elements are entered. -/
def reached (enters : String → Bool) : Node → List Node
  | text content => [text content]
  | raw markup => [raw markup]
  | element name attributes children =>
    element name attributes children :: if enters name then reachedInAll enters children else []

/-- What is reached in nodes one after another. -/
def reachedInAll (enters : String → Bool) : List Node → List Node
  | [] => []
  | node :: rest => reached enters node ++ reachedInAll enters rest

end

/-- A node and all nodes inside it. -/
def visited : Node → List Node := reached fun _ => true

/-- A node and the nodes inside it that are rendered. -/
def shown : Node → List Node := reached fun name => !isVoid name

/-- The nodes that are inside a void element. -/
def veiled : Node → List Node
  | element name _ children => if isVoid name then children.flatMap visited else []
  | _ => []

/-- The nodes inside a node that are not rendered. -/
def hidden (node : Node) : List Node := node.shown.flatMap veiled

theorem reachedInAll_eq_flatMap (enters : String → Bool) (nodes : List Node) :
    reachedInAll enters nodes = nodes.flatMap (reached enters) := by
  induction nodes with
  | nil => simp [reachedInAll]
  | cons node rest inductionHypothesis => simp [reachedInAll, inductionHypothesis]

@[simp] theorem visited_text (content : String) : (text content).visited = [text content] := by
  simp [visited, reached]

@[simp] theorem visited_raw (markup : String) : (raw markup).visited = [raw markup] := by
  simp [visited, reached]

@[simp] theorem visited_element
    (name : String) (attributes : List (String × String)) (children : List Node) :
    (element name attributes children).visited =
      element name attributes children :: children.flatMap visited := by
  simp [visited, reached, reachedInAll_eq_flatMap]

@[simp] theorem shown_text (content : String) : (text content).shown = [text content] := by
  simp [shown, reached]

@[simp] theorem shown_raw (markup : String) : (raw markup).shown = [raw markup] := by
  simp [shown, reached]

@[simp] theorem shown_element
    (name : String) (attributes : List (String × String)) (children : List Node) :
    (element name attributes children).shown =
      element name attributes children ::
        if isVoid name then [] else children.flatMap shown := by
  cases void : isVoid name <;> simp [shown, reached, void, reachedInAll_eq_flatMap]

@[simp] theorem hidden_text (content : String) : (text content).hidden = [] := by
  simp [hidden, veiled]

@[simp] theorem hidden_raw (markup : String) : (raw markup).hidden = [] := by
  simp [hidden, veiled]

@[simp] theorem hidden_element
    (name : String) (attributes : List (String × String)) (children : List Node) :
    (element name attributes children).hidden =
      if isVoid name then children.flatMap visited else children.flatMap hidden := by
  cases void : isVoid name with
  | true => simp [hidden, veiled, void]
  | false =>
      simp only [hidden, shown_element, void, Bool.false_eq_true, if_false, List.flatMap_cons,
        veiled, List.nil_append, List.flatMap_assoc]
      rfl

/-- The rendered nodes are visited in the same order. -/
theorem shown_sublist_visited (node : Node) : node.shown.Sublist node.visited := by
  induction node using inductionOn with
  | text content => simp
  | raw markup => simp
  | element name attributes children inductionHypothesis =>
      rw [shown_element, visited_element]
      refine List.Sublist.cons_cons _ ?_
      split
      · exact List.nil_sublist _
      · exact List.Sublist.flatMap_right children inductionHypothesis

/-- The visited nodes are those that are rendered and those that are not. -/
theorem visited_perm (node : Node) : node.visited.Perm (node.shown ++ node.hidden) := by
  induction node using inductionOn with
  | text content => simp
  | raw markup => simp
  | element name attributes children inductionHypothesis =>
      rw [visited_element, shown_element, hidden_element, List.cons_append]
      refine List.Perm.cons _ ?_
      split
      · exact List.Perm.refl _
      · calc children.flatMap visited
            |>.Perm (children.flatMap fun child => child.shown ++ child.hidden) :=
              List.Perm.flatMap_left children inductionHypothesis
          _ |>.Perm (children.flatMap shown ++ children.flatMap hidden) :=
              (List.flatMap_append_perm children shown hidden).symm

/-- What is taken from the rendered nodes is what is taken from all of them exactly if nothing is
taken from those that are not rendered. -/
theorem filterMap_visited_eq_iff
    {part : Type}
    (take : Node → Option part)
    (node : Node) :
    node.shown.filterMap take = node.visited.filterMap take ↔
      ∀ inner ∈ node.hidden, take inner = none := by
  have together := (node.visited_perm.filterMap take).length_eq
  rw [List.filterMap_append, List.length_append] at together
  rw [← List.filterMap_eq_nil_iff, ← List.length_eq_zero_iff]
  constructor
  · intro same
    rw [same] at together
    omega
  · intro nothing
    exact (node.shown_sublist_visited.filterMap take).eq_of_length (by omega)

/-- What is taken from an element is taken from itself and from its children. -/
theorem filterMap_visited_element
    {part : Type}
    (take : Node → Option part)
    (name : String)
    (attributes : List (String × String))
    (children : List Node) :
    (element name attributes children).visited.filterMap take =
      (take (element name attributes children)).toList ++
        children.flatMap fun child => child.visited.filterMap take := by
  rw [visited_element, ← List.filterMap_flatMap, ← List.singleton_append, List.filterMap_append]
  cases taken : take (element name attributes children) <;> simp [taken]

/-- What is taken from the rendered nodes of an element is taken from itself and, unless it is void,
from its children. -/
theorem filterMap_shown_element
    {part : Type}
    (take : Node → Option part)
    (name : String)
    (attributes : List (String × String))
    (children : List Node) :
    (element name attributes children).shown.filterMap take =
      (take (element name attributes children)).toList ++
        if isVoid name then [] else children.flatMap fun child => child.shown.filterMap take := by
  rw [shown_element, ← List.filterMap_flatMap, ← List.singleton_append, List.filterMap_append]
  cases isVoid name <;> cases taken : take (element name attributes children) <;> simp [taken]

/-! ## What is looked for -/

/-- The tag that opens an element. -/
def opening? : Node → Option Tag
  | element name attributes _ => some (Tag.opening name attributes)
  | _ => none

/-- The target of a link. -/
def target? (node : Node) : Option String := node.opening?.bind Tag.target?

/-- A named input. -/
def input? (node : Node) : Option (String × String) := node.opening?.bind Tag.input?

/-- The attributes and the children of a form. -/
def form? : Node → Option (List (String × String) × List Node)
  | element name attributes children =>
    if name = "form" then some (attributes, children) else none
  | _ => none

/-- A form is an element with its name. -/
theorem form?_eq_some_iff
    {node : Node}
    {form : List (String × String) × List Node} :
    node.form? = some form ↔ node = element "form" form.1 form.2 := by
  cases node with
  | element name attributes children =>
      by_cases isForm : name = "form" <;> simp [form?, isForm, Prod.ext_iff]
  | text content => simp [form?]
  | raw markup => simp [form?]

/-- The targets of links are found among all visited nodes. -/
theorem linkTargets_eq (node : Node) : node.linkTargets = node.visited.filterMap target? := by
  induction node using inductionOn with
  | text content => simp [linkTargets, target?, opening?]
  | raw markup => simp [linkTargets, target?, opening?]
  | element name attributes children inductionHypothesis =>
      have inside := List.flatMap_congr inductionHypothesis
      rw [linkTargets, linkTargetsOfAll_eq_flatMap, inside, filterMap_visited_element]
      by_cases isLink : name = "a" <;> simp [target?, opening?, Tag.target?, isLink]

/-- The named inputs are found among all visited nodes. -/
theorem inputs_eq (node : Node) : node.inputs = node.visited.filterMap input? := by
  induction node using inductionOn with
  | text content => simp [inputs, input?, opening?]
  | raw markup => simp [inputs, input?, opening?]
  | element name attributes children inductionHypothesis =>
      have inside := List.flatMap_congr inductionHypothesis
      rw [inputs, inputsOfAll_eq_flatMap, inside, filterMap_visited_element]
      by_cases isInput : name = "input" <;>
        simp [input?, opening?, Tag.input?, isInput, Option.toList_map]

/-- The forms are found among all visited nodes. -/
theorem forms_eq (node : Node) :
    node.forms = (node.visited.filterMap form?).map fun (attributes, children) =>
      Form.ofAttributes attributes (inputsOfAll children) := by
  induction node using inductionOn with
  | text content => simp [forms, form?]
  | raw markup => simp [forms, form?]
  | element name attributes children inductionHypothesis =>
      have inside := List.flatMap_congr inductionHypothesis
      rw [forms, formsOfAll_eq_flatMap, inside, filterMap_visited_element, List.map_append,
        List.map_flatMap]
      by_cases isForm : name = "form"
      · subst isForm
        simp [form?, inputs, Form.ofAttributes]
      · simp [form?, isForm]

/-! ## Tags of rendered nodes -/

/-- What is taken from the opening tags of a node is taken from the elements that are rendered. -/
theorem filterMap_tags
    {part : Type}
    {take : Tag → Option part}
    (notClosing : ∀ name, take (Tag.closing name) = none)
    (node : Node) :
    node.tags.filterMap take = node.shown.filterMap fun inner => inner.opening?.bind take := by
  induction node using inductionOn with
  | text content => simp [tags, opening?]
  | raw markup => simp [tags, opening?]
  | element name attributes children inductionHypothesis =>
      have inside := List.flatMap_congr inductionHypothesis
      rw [filterMap_shown_element, ← inside, tags, tagsOfAll_eq_flatMap]
      cases taken : take (Tag.opening name attributes) <;> cases isVoid name <;>
        simp [opening?, taken, notClosing, List.filterMap_flatMap]

/-- Tags after which as many elements of a name are open as before. -/
def Balances (name : String) (tags : List Tag) : Prop :=
  ∀ depth rest, Tag.upToEnd name depth (tags ++ rest) = tags ++ Tag.upToEnd name depth rest

/-- Balanced tags one after another are balanced. -/
theorem Balances.flatMap
    {name : String}
    {nodes : List Node}
    (each : ∀ node ∈ nodes, Balances name node.tags) :
    Balances name (nodes.flatMap tags) := by
  induction nodes with
  | nil => exact fun depth rest => rfl
  | cons node others inductionHypothesis =>
      intro depth rest
      have later := inductionHypothesis
        fun other isOther => each other (List.mem_cons_of_mem _ isOther)
      rw [List.flatMap_cons, List.append_assoc, each node List.mem_cons_self, later,
        List.append_assoc]

/-- The tags of a node are balanced. -/
theorem balances_tags
    {name : String}
    (notVoid : isVoid name = false)
    (node : Node) :
    Balances name node.tags := by
  induction node using inductionOn with
  | text content => exact fun depth rest => by simp [tags]
  | raw markup => exact fun depth rest => by simp [tags]
  | element other attributes children inductionHypothesis =>
      have inside := Balances.flatMap inductionHypothesis
      intro depth rest
      rw [tags, tagsOfAll_eq_flatMap]
      by_cases same : other = name
      · subst same
        simp [notVoid, Tag.upToEnd, inside (depth + 1)]
      · cases isVoid other <;> simp [Tag.upToEnd, same, inside depth]

/-- The forms that are rendered, each with the inputs that are rendered in it. -/
def shownForms (node : Node) : List Form :=
  (node.shown.filterMap form?).map fun (attributes, children) =>
    Form.ofAttributes attributes ((children.flatMap shown).filterMap input?)

/-- The rendered forms of an element are itself and, unless it is void, those of its children. -/
theorem shownForms_element
    (name : String)
    (attributes : List (String × String))
    (children : List Node) :
    (element name attributes children).shownForms =
      (if name = "form" then
          [Form.ofAttributes attributes ((children.flatMap shown).filterMap input?)]
        else []) ++
        if isVoid name then [] else children.flatMap shownForms := by
  have inside : children.flatMap shownForms =
      (children.flatMap fun child => child.shown.filterMap form?).map
        fun (attributes, children) =>
          Form.ofAttributes attributes ((children.flatMap shown).filterMap input?) := by
    rw [List.map_flatMap]
    rfl
  rw [inside, shownForms, filterMap_shown_element, List.map_append]
  by_cases isForm : name = "form" <;> cases isVoid name <;> simp [form?, isForm]

/-- The tags of nodes one after another put the forms of each of them on the page. -/
theorem forms_flatMap_append
    {nodes : List Node}
    (each : ∀ node ∈ nodes, ∀ rest,
      Tag.forms (node.tags ++ rest) = node.shownForms ++ Tag.forms rest)
    (rest : List Tag) :
    Tag.forms (nodes.flatMap tags ++ rest) = nodes.flatMap shownForms ++ Tag.forms rest := by
  induction nodes with
  | nil => rfl
  | cons node others inductionHypothesis =>
      have later := inductionHypothesis
        fun other isOther => each other (List.mem_cons_of_mem _ isOther)
      rw [List.flatMap_cons, List.append_assoc, each node List.mem_cons_self, later,
        List.flatMap_cons, List.append_assoc]

/-- The tags of a node put the forms on the page that are rendered. -/
theorem forms_tags_append
    (node : Node)
    (rest : List Tag) :
    Tag.forms (node.tags ++ rest) = node.shownForms ++ Tag.forms rest := by
  induction node using inductionOn generalizing rest with
  | text content => simp [tags, shownForms, form?]
  | raw markup => simp [tags, shownForms, form?]
  | element name attributes children inductionHypothesis =>
      have forms := forms_flatMap_append inductionHypothesis
      rw [tags, tagsOfAll_eq_flatMap, shownForms_element]
      by_cases isForm : name = "form"
      · subst isForm
        have notVoid : isVoid "form" = false := by decide
        have balanced : Balances "form" (children.flatMap tags) :=
          Balances.flatMap fun child _ => balances_tags notVoid child
        have inputs : (children.flatMap tags).filterMap Tag.input? =
            (children.flatMap shown).filterMap input? := by
          rw [List.filterMap_flatMap, List.filterMap_flatMap]
          exact List.flatMap_congr fun child _ => filterMap_tags (fun _ => rfl) child
        simp [notVoid, Tag.forms, forms, balanced 0, Tag.upToEnd, inputs]
      · cases isVoid name <;> simp [Tag.forms, isForm, forms]

/-! ## Comparing -/

/-- The links in the markup of a plain node are those that are rendered. -/
theorem IsPlain.linksOfMarkup?_render
    {node : Node}
    (plain : node.IsPlain) :
    linksOfMarkup? node.render = some (node.shown.filterMap target?) := by
  rw [linksOfMarkup?, plain.tagsOfMarkup?_render, Option.map_some,
    filterMap_tags fun _ => rfl]
  rfl

/-- The forms in the markup of a plain node are those that are rendered. -/
theorem IsPlain.formsOfMarkup?_render
    {node : Node}
    (plain : node.IsPlain) :
    formsOfMarkup? node.render = some node.shownForms := by
  have forms := forms_tags_append node []
  rw [List.append_nil] at forms
  rw [formsOfMarkup?, plain.tagsOfMarkup?_render, Option.map_some, forms]
  simp [Tag.forms]

/-- The rendered inputs of a form are all of its inputs exactly if no named input is hidden in
it. -/
theorem filterMap_input?_shown_eq_iff
    (attributes : List (String × String))
    (children : List Node) :
    (children.flatMap shown).filterMap input? = inputsOfAll children ↔
      ∀ inner ∈ (element "form" attributes children).hidden, inner.input? = none := by
  have notVoid : isVoid "form" = false := by decide
  have noInput : (element "form" attributes children).input? = none := by
    simp [input?, opening?, Tag.input?]
  have inputs : inputsOfAll children =
      children.flatMap fun child => child.visited.filterMap input? :=
    (inputsOfAll_eq_flatMap children).trans (List.flatMap_congr fun child _ => inputs_eq child)
  rw [← filterMap_visited_eq_iff, filterMap_shown_element, filterMap_visited_element, inputs,
    List.filterMap_flatMap, noInput, notVoid]
  rfl

/-- The rendered forms are all forms exactly if no form is hidden, and no named input is hidden in a
form. -/
theorem shownForms_eq_iff (node : Node) :
    node.shownForms = node.forms ↔
      (∀ inner ∈ node.hidden, inner.form? = none) ∧
        ∀ attributes children, element "form" attributes children ∈ node.shown →
          ∀ inner ∈ (element "form" attributes children).hidden, inner.input? = none := by
  have each : (∀ form ∈ node.shown.filterMap form?,
      Form.ofAttributes form.1 ((form.2.flatMap shown).filterMap input?) =
        Form.ofAttributes form.1 (inputsOfAll form.2)) ↔
      ∀ attributes children, element "form" attributes children ∈ node.shown →
        ∀ inner ∈ (element "form" attributes children).hidden, inner.input? = none := by
    simp only [List.mem_filterMap, form?_eq_some_iff, Prod.forall, exists_eq_right,
      Form.ofAttributes, Form.mk.injEq, true_and]
    exact forall₂_congr fun attributes children => imp_congr_right fun _ =>
      filterMap_input?_shown_eq_iff attributes children
  rw [← filterMap_visited_eq_iff, ← each, shownForms, forms_eq]
  constructor
  · intro same
    have lengths := congrArg List.length same
    rw [List.length_map, List.length_map] at lengths
    have alike := (node.shown_sublist_visited.filterMap form?).eq_of_length lengths
    rw [← alike] at same
    exact ⟨alike, List.map_inj_left.1 same⟩
  · rintro ⟨alike, same⟩
    rw [← alike]
    exact List.map_inj_left.2 same

end Node

/-- What is found in the tree of a plain node is compared with its markup. The links and the forms
in the markup are those of the nodes that are rendered. The links of the tree are the same exactly
if no link with a target stands below a void element. The forms of the tree are the same exactly if
no form stands below a void element, and no named input stands below a void element in a form. -/
theorem introspection_agrees_iff
    {node : Node}
    (plain : node.IsPlain) :
    linksOfMarkup? node.render = some (node.shown.filterMap Node.target?) ∧
      formsOfMarkup? node.render = some node.shownForms ∧
      (linksOfMarkup? node.render = some node.linkTargets ↔
        ∀ inner ∈ node.hidden, inner.target? = none) ∧
      (formsOfMarkup? node.render = some node.forms ↔
        (∀ inner ∈ node.hidden, inner.form? = none) ∧
          ∀ attributes children, Node.element "form" attributes children ∈ node.shown →
            ∀ inner ∈ (Node.element "form" attributes children).hidden, inner.input? = none) := by
  have links := plain.linksOfMarkup?_render
  have forms := plain.formsOfMarkup?_render
  refine ⟨links, forms, ?sameLinks, ?sameForms⟩
  case sameLinks =>
    rw [links, Option.some_inj, Node.linkTargets_eq, Node.filterMap_visited_eq_iff]
  case sameForms =>
    rw [forms, Option.some_inj, Node.shownForms_eq_iff]

/-- A form with an input in it, and with a link and an input below a line break. -/
def leakyForm : Node :=
  Node.form "/login" "GET"
    [Node.input "hidden" "origin" "/a&b",
      Node.element "br" [] [Node.link "/lost" [], Node.input "hidden" "lost" ""]]

theorem isPlain_leakyForm : leakyForm.IsPlain := by
  simp only [leakyForm, Node.form, Node.input, Node.link, Node.isPlain_element_iff, AreNamed,
    List.forall_mem_cons, List.not_mem_nil, false_imp_iff, implies_true, and_true]
  decide

/-- Below the line break there are a link and an input that are found in the tree alone. -/
theorem introspection_of_leakyForm :
    leakyForm.IsPlain ∧
      linksOfMarkup? leakyForm.render = some [] ∧
      leakyForm.linkTargets = ["/lost"] ∧
      formsOfMarkup? leakyForm.render =
        some [{ action := "/login", method := "get", inputs := [("origin", "/a&b")] }] ∧
      leakyForm.forms =
        [{ action := "/login", method := "get", inputs := [("origin", "/a&b"), ("lost", "")] }] := by
  refine ⟨isPlain_leakyForm, ?_, ?_, ?_, ?_⟩
  · rw [isPlain_leakyForm.linksOfMarkup?_render]
    decide
  · decide
  · rw [isPlain_leakyForm.formsOfMarkup?_render]
    decide +kernel
  · decide +kernel

/-- What is found in this form is compared with its markup. -/
theorem introspection_agrees_iff_for_leakyForm :
    leakyForm.IsPlain ∧
      linksOfMarkup? leakyForm.render = some (leakyForm.shown.filterMap Node.target?) ∧
      formsOfMarkup? leakyForm.render = some leakyForm.shownForms ∧
      (linksOfMarkup? leakyForm.render = some leakyForm.linkTargets ↔
        ∀ inner ∈ leakyForm.hidden, inner.target? = none) ∧
      (formsOfMarkup? leakyForm.render = some leakyForm.forms ↔
        (∀ inner ∈ leakyForm.hidden, inner.form? = none) ∧
          ∀ attributes children, Node.element "form" attributes children ∈ leakyForm.shown →
            ∀ inner ∈ (Node.element "form" attributes children).hidden, inner.input? = none) :=
  ⟨isPlain_leakyForm, introspection_agrees_iff isPlain_leakyForm⟩

end Html

end Screencast
