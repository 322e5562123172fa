import ScopedHtml.Node.Render
import ScopedHtml.Node.Walk

/-!
# ScopedHtml.Node.Outline

A summary of a page: its text with its length, the tags of its direct children
and of its traversal, and the contents met on the way.
-/

namespace ScopedHtml

/-- What there is to see of a page. -/
structure Outline where
  html : String
  /-- The number of characters of the text. -/
  length : Nat
  tag : String
  /-- The tag of each direct child; a value that is no element has none. -/
  children : List (Option String)
  /-- The tags of the traversal, or why there is none. -/
  walk : Except Fault (List String)
  /-- The contents of the leaves met by the traversal. -/
  texts : List Value
  deriving Inhabited

/-- The outline of a page. -/
def Node.outline (node : Node) : Outline :=
  let html := node.render
  let visited := node.walk
  { html
    length := html.length
    tag := node.tag
    children := node.parts.map Value.tag?
    walk := visited.map fun nodes => nodes.map Node.tag
    texts := (visited.toOption.getD []).filterMap Node.content? }

end ScopedHtml
