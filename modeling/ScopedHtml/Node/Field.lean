import ScopedHtml.Signature
import ScopedHtml.Value

/-!
# ScopedHtml.Node.Field

Elements by their field names.

Every kind of element has named fields in a fixed order. `NodeKind.construct`
makes an element from values given by name and checks the names, and that
children have items, but nothing else; `Value.field` reads a field back, and the
tag with it. A finished element cannot be changed: assigning or deleting any
name is a fault.
-/

namespace ScopedHtml

namespace NodeKind

/-- The fields of a kind. -/
def fields : NodeKind → List Parameter
  | title => [⟨"content", true⟩]
  | paragraph => [⟨"content", true⟩]
  | head => [⟨"title", true⟩]
  | body => [⟨"children", false⟩]
  | division => [⟨"children", false⟩, ⟨"id", false⟩, ⟨"class_name", false⟩]
  | document => [⟨"head", true⟩, ⟨"body", true⟩]

/-- What making an element of a kind takes. -/
def signature (kind : NodeKind) : Signature where
  callee := kind.name ++ ".__init__"
  parameters := kind.fields

/-- The children among the given values: none when there is no such field. -/
def childrenOf (given : List (String × Value)) : Except Fault (List Value) :=
  match given.lookup "children" with
  | none => .ok []
  | some value =>
      match value.items? with
      | some items => .ok items
      | none => .error (.notIterable value.typeName)

/-- The element of a kind with the given fields; an unknown field is found
before a missing one. -/
def construct (kind : NodeKind) (given : List (String × Value)) : Except Fault Node := do
  let given ← kind.signature.bind none given
  let value := fun (name : String) => (given.lookup name).getD .null
  match kind with
  | title => return .title (value "content")
  | paragraph => return .paragraph (value "content")
  | head => return .head (value "title")
  | body => return .body (← childrenOf given)
  | division => return .division (← childrenOf given) (value "id") (value "class_name")
  | document => return .document (value "head") (value "body")

end NodeKind

namespace Node

/-- The value of a field, by name. -/
def field? : Node → String → Option Value
  | .title content, "content" => some content
  | .paragraph content, "content" => some content
  | .head inner, "title" => some inner
  | .body children, "children" => some (.tuple children)
  | .division children _ _, "children" => some (.tuple children)
  | .division _ ident _, "id" => some ident
  | .division _ _ className, "class_name" => some className
  | .document first _, "head" => some first
  | .document _ second, "body" => some second
  | _, _ => none

/-- The names under which an element has something that can be called. -/
def methods : List String := ["iter_children", "walk"]

end Node

namespace Value

/-- The value of a field or the tag of an element, by name; nothing under the name
of something that can be called. -/
def field (value : Value) (name : String) : Except Fault (Option Value) :=
  if name ∈ inherent then .ok none
  else match value with
    | node element =>
        if name = "tag" then .ok (some (text element.tag))
        else if name ∈ Node.methods then .ok none
        else match element.field? name with
          | some found => .ok (some found)
          | none => .error (.noAttribute value.typeName name)
    | _ => .error (.noAttribute value.typeName name)

/-- The fault of assigning a field: an element cannot be changed, and other values
have no fields. -/
def assignmentFault (value : Value) (name : String) : Fault :=
  match value with
  | node _ => .frozenAssignment name
  | _ => .noAttribute value.typeName name

/-- The fault of deleting a field. -/
def deletionFault (value : Value) (name : String) : Fault :=
  match value with
  | node _ => .frozenDeletion name
  | _ => .noAttribute value.typeName name

end Value

end ScopedHtml
