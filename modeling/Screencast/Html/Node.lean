import Screencast.Text.Lowercase
import Screencast.Text.Split

/-!
# HTML pages

A page is kept as a tree until it is written, so that its links and forms can be looked at without
reading markup. Texts and attribute values are escaped when the tree is rendered.
-/

namespace Screencast

namespace Html

/-- The escaped form of one character. -/
def escapedChar (char : Char) : List Char :=
  if char = '&' then ['&', 'a', 'm', 'p', ';']
  else if char = '<' then ['&', 'l', 't', ';']
  else if char = '>' then ['&', 'g', 't', ';']
  else if char = '"' then ['&', 'q', 'u', 'o', 't', ';']
  else if char = '\'' then ['&', '#', '3', '9', ';']
  else [char]

/-- Escape a text for use in markup and in attribute values. -/
def escape (text : String) : String := String.ofList (text.toList.flatMap escapedChar)

/-- A node of a page. -/
inductive Node
  | element (name : String) (attributes : List (String × String)) (children : List Node)
  | text (content : String)
  | raw (markup : String)
  deriving Inhabited

/-- A form of a page, with its named inputs. -/
structure Form where
  action : String
  method : String
  inputs : List (String × String)
  deriving DecidableEq, Repr

namespace Node

/-! ## Building -/

/-- A link. -/
def link (target : String) (children : List Node) : Node := element "a" [("href", target)] children

/-- A block of a class. -/
def div (kind : String) (children : List Node) : Node := element "div" [("class", kind)] children

/-- A paragraph. -/
def paragraph (children : List Node) : Node := element "p" [] children

/-- A heading of the first level. -/
def heading (title : String) : Node := element "h1" [] [text title]

/-- A heading of the second level. -/
def subheading (title : String) : Node := element "h2" [] [text title]

/-- A list with one entry for each item. -/
def bullets (items : List Node) : Node :=
  element "ul" [] (items.map fun item => element "li" [] [item])

/-- A form that is sent to an address with a method. -/
def form (action method : String) (children : List Node) : Node :=
  element "form" [("action", action), ("method", method)] children

/-- An input of a form. -/
def input (kind name value : String) : Node :=
  element "input" [("type", kind), ("name", name), ("value", value)] []

/-- The button that sends a form. -/
def submit (label : String) : Node := element "button" [("type", "submit")] [text label]

/-- A whole page with a title. -/
def document (title : String) (body : List Node) : Node :=
  element "html" []
    [element "head" [] [element "meta" [("charset", "utf-8")] [], element "title" [] [text title]],
      element "body" [] body]

/-! ## Rendering -/

/-- Whether an element has neither content nor an end tag. -/
def isVoid (name : String) : Bool := ["input", "meta", "link", "br", "img"].contains name

/-- The markup of attributes. -/
def renderAttributes : List (String × String) → String
  | [] => ""
  | (key, value) :: rest =>
    " " ++ key ++ "=\"" ++ escape value ++ "\"" ++ renderAttributes rest

mutual

/-- The markup of a node. -/
def render : Node → String
  | text content => escape content
  | raw markup => markup
  | element name attributes children =>
    let start := "<" ++ name ++ renderAttributes attributes ++ ">"
    if isVoid name then start else start ++ renderAll children ++ "</" ++ name ++ ">"

/-- The markup of nodes one after another. -/
def renderAll : List Node → String
  | [] => ""
  | node :: rest => render node ++ renderAll rest

end

@[simp] theorem render_text (content : String) : render (text content) = escape content := by
  simp [render]

@[simp] theorem render_raw (markup : String) : render (raw markup) = markup := by
  simp [render]

@[simp] theorem renderAll_nil : renderAll [] = "" := by simp [renderAll]

@[simp] theorem renderAll_cons (node : Node) (rest : List Node) :
    renderAll (node :: rest) = render node ++ renderAll rest := by simp [renderAll]

/-- The markup of a page, which begins with a document type if it is a whole one. -/
def renderDocument : Node → String
  | element "html" attributes children =>
    "<!DOCTYPE html>" ++ render (element "html" attributes children)
  | node => render node

/-! ## Looking at a page -/

/-- The value of the first attribute with a name. -/
def attribute? (attributes : List (String × String)) (key : String) : Option String :=
  attributes.lookup key

mutual

/-- The targets of all links, in the order of the page. -/
def linkTargets : Node → List String
  | text _ => []
  | raw _ => []
  | element name attributes children =>
    let own := if name = "a" then (attribute? attributes "href").toList else []
    own ++ linkTargetsOfAll children

/-- The targets of all links in nodes one after another. -/
def linkTargetsOfAll : List Node → List String
  | [] => []
  | node :: rest => linkTargets node ++ linkTargetsOfAll rest

end

mutual

/-- The named inputs, in the order of the page. -/
def inputs : Node → List (String × String)
  | text _ => []
  | raw _ => []
  | element name attributes children =>
    let own :=
      if name = "input" then
        (attribute? attributes "name").toList.map fun key =>
          (key, (attribute? attributes "value").getD "")
      else []
    own ++ inputsOfAll children

/-- The named inputs in nodes one after another. -/
def inputsOfAll : List Node → List (String × String)
  | [] => []
  | node :: rest => inputs node ++ inputsOfAll rest

end

mutual

/-- The forms of a page, each with all inputs inside it. -/
def forms : Node → List Form
  | text _ => []
  | raw _ => []
  | element name attributes children =>
    let own : List Form :=
      if name = "form" then
        [{ action := (attribute? attributes "action").getD ""
           method := Text.lower ((attribute? attributes "method").getD "get")
           inputs := inputs (element name attributes children) }]
      else []
    own ++ formsOfAll children

/-- The forms in nodes one after another. -/
def formsOfAll : List Node → List Form
  | [] => []
  | node :: rest => forms node ++ formsOfAll rest

end

end Node

/-- The page that reports an error. -/
def errorPage (message : String) : Node :=
  Node.document "Error"
    [Node.div "error" [Node.heading "Error", Node.paragraph [Node.text message]]]

end Html

end Screencast
