import ScopedHtml.Fault
import ScopedHtml.Node

/-!
# ScopedHtml.Node.Walk

Depth-first traversal.

`Node.walk` lists an element and then, child by child, everything below it. A
slot that holds no element cannot be entered: the traversal fails there, with the
first such slot in document order.
-/

namespace ScopedHtml

mutual

/-- The element and all its descendants, depth first, each parent before its
children. -/
def Node.walk : Node → Except Fault (List Node)
  | .title content => .ok [.title content]
  | .paragraph content => .ok [.paragraph content]
  | .head inner => return .head inner :: (← inner.walk)
  | .body children => return .body children :: (← walkAll children)
  | .division children ident className =>
      return .division children ident className :: (← walkAll children)
  | .document first second => do
      let before ← first.walk
      let after ← second.walk
      return .document first second :: (before ++ after)

/-- The traversal of a value in a slot. -/
def Value.walk : Value → Except Fault (List Node)
  | .node element => element.walk
  | other => .error (.noAttribute other.typeName "walk")

/-- The traversals of slots in a row, one after the other. -/
def walkAll : List Value → Except Fault (List Node)
  | [] => .ok []
  | value :: rest => do
      let first ← value.walk
      let others ← walkAll rest
      return first ++ others

end

end ScopedHtml
