import ScopedHtml.Node.Field

/-!
# ScopedHtml.Node.Spec

Descriptions of pages.

A `Spec` says how an element is to be made: the kind and its fields, each of
which is a value, a list, a further description, or the name of an element
that exists already. `Spec.make` follows the description. Fields are made
before the element that holds them, in the order in which they are given, so
the first fault inside wins.
-/

namespace ScopedHtml

/-- How to make an element or a value of one of its fields. -/
inductive Spec
  | value (value : Value)
  /-- The element bound to a name. -/
  | named (name : String)
  /-- An element of a kind with its fields. -/
  | element (kind : NodeKind) (fields : List (String × Spec))
  | list (items : List Spec)
  deriving Inhabited

mutual

/-- The value that a description stands for. -/
def Spec.read (named : String → Option Node) : Spec → Except Fault Value
  | .value value => .ok value
  | .named name =>
      match named name with
      | some node => .ok (.node node)
      | none => .error (.unbound name)
  | .element kind fields => do
      let given ← fieldValues named fields
      return .node (← kind.construct given)
  | .list items => return .list (← values named items)

/-- The values of fields in the order given. -/
def fieldValues (named : String → Option Node) :
    List (String × Spec) → Except Fault (List (String × Value))
  | [] => .ok []
  | (name, spec) :: rest => do
      let value ← spec.read named
      return (name, value) :: (← fieldValues named rest)

/-- The values of descriptions in a row. -/
def values (named : String → Option Node) : List Spec → Except Fault (List Value)
  | [] => .ok []
  | spec :: rest => do
      let value ← spec.read named
      return value :: (← values named rest)

end

/-- The element that a description stands for. -/
def Spec.make (named : String → Option Node) (spec : Spec) : Except Fault Node := do
  match ← spec.read named with
  | .node node => return node
  | other => throw (.noAttribute other.typeName "tag")

end ScopedHtml
