import Screencast.Proofs.Html.Attributes
import Screencast.Site.Page

/-!
# The player on the page of an episode

The page of an episode holds the mark of the player exactly if the episode is not closed to the
visitor. Nothing in the catalog and nothing about a user can bring the mark into a page without a
player.
-/

namespace Screencast

namespace Page

open Html

/-- What the player is marked with. -/
def playerMark : List Char := "class=\"player\"".toList

theorem playerMark_eq : playerMark = attributeChars "class" "player" := by decide

theorem solid_playerMark : ' ' ∉ attributeChars "class" "player" := by decide

variable (site : Site) (session : Option Session) (shown : Episode) (progress : Option Nat)

theorem isName_of_mem :
    ∀ name ∈ ["html", "head", "meta", "title", "body", "link", "nav", "a", "main", "h1", "p", "div",
        "charset", "rel", "href", "class", "data-episode", "data-start"], IsName name := by
  decide

theorem not_class_suffix_href : ¬ ['c', 'l', 'a', 's', 's'] <:+ ['h', 'r', 'e', 'f'] := by decide

/-- A page is plain if its content is. -/
theorem isPlain_layout
    {content : List Node}
    (plain : ∀ node ∈ content, node.IsPlain)
    (current : Route)
    (title : String) :
    (layout site session current title content).IsPlain := by
  have names := isName_of_mem
  simp only [List.forall_mem_cons] at names
  have account : (accountNode session current).IsPlain := by
    cases session <;>
      simp [accountNode, Node.link, Node.isPlain_element_iff, AreNamed, Node.IsPlain.text, names]
  simp [layout, Node.document, stylesheetNode, navigation, account, Node.link,
    Node.isPlain_element_iff, AreNamed, Node.IsPlain.text, names]
  exact plain

/-- A page has a player exactly if its content has one. -/
theorem shows_layout_iff
    (current : Route)
    (title : String)
    (content : List Node) :
    (layout site session current title content).Shows "class" "player" ↔
      ∃ node ∈ content, node.Shows "class" "player" := by
  have account : ¬ (accountNode session current).Shows "class" "player" := by
    cases session <;> simp [accountNode, Node.link, not_class_suffix_href]
  simp [layout, Node.document, stylesheetNode, navigation, account, Node.link,
    not_class_suffix_href, Node.isVoid]

/-- The page of an episode is plain. -/
theorem isPlain_episode : (episode site session shown progress).IsPlain := by
  have names := isName_of_mem
  simp only [List.forall_mem_cons] at names
  refine isPlain_layout site session ?_ _ _
  cases locked : isLocked session shown <;>
    simp [Node.heading, sentence, Node.paragraph, Node.link, player, locked,
      Node.isPlain_element_iff, AreNamed, Node.IsPlain.text, names]

/-- The page of an episode has a player exactly if the episode is not closed to the visitor. -/
theorem shows_player_iff :
    (episode site session shown progress).Shows "class" "player" ↔
      isLocked session shown = false := by
  rw [episode, shows_layout_iff]
  cases locked : isLocked session shown <;>
    simp [Node.heading, sentence, Node.paragraph, Node.link, player, locked,
      not_class_suffix_href]

/-- The markup of the page of an episode holds the mark of the player exactly if the episode is not
closed to the visitor. -/
theorem playerMark_infix_episode_iff :
    playerMark <:+: (episode site session shown progress).renderDocument.toList ↔
      isLocked session shown = false := by
  have named : IsName "class" := by decide
  rw [playerMark_eq, Node.attributeChars_infix_renderDocument_iff named,
    (isPlain_episode site session shown progress).attributeChars_infix_render_iff named
      solid_playerMark,
    shows_player_iff]

end Page

end Screencast
