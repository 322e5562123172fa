import ScopedHtml.Builder.Attribute

/-!
# ScopedHtml.Builder.Element

What a builder gathers and the element made of it.

Children, slots and the required names are attributes like any other, so each of
these operations reads and assigns them by name. `Caller.build` finalizes a builder:
nothing may be missing, the element is made, and that it was made is recorded.
-/

namespace ScopedHtml.Caller

variable {ρ : Type}

open BuildM

/-! ### Gathering -/

/-- Puts a value behind the children of a builder. -/
def push (call : Caller ρ) (b : BuilderRef) (value : Value) : BuildM ρ Unit := do
  let children ← call.read b "_children"
  perform fun store => store.push b children value

/-- Does with a finished element what an opener named `element` does. -/
def attach (call : Caller ρ) (b : BuilderRef) (element : String) (made : Value) :
    Attachment → BuildM ρ Unit
  | .append => call.push b made
  | .slot => perform fun store => store.write b (slotAttribute element) made
  | .discard => return ()

/-- Adds a paragraph to the children of a builder. -/
def paragraph (call : Caller ρ) (b : BuilderRef) (content : Value) : BuildM ρ Node := do
  call.push b (.node (.paragraph content))
  return .paragraph content

/-- Sets the title of a builder; a later one replaces it. The answer is what the
builder then has as its title. -/
def title (call : Caller ρ) (b : BuilderRef) (content : Value) : BuildM ρ Value := do
  perform fun store => store.write b "_title" (.node (.title content))
  call.readValue b "_title"

/-- Adds a finished element to the children of a builder. -/
def append (call : Caller ρ) (b : BuilderRef) (node : Node) : BuildM ρ Node := do
  call.push b (.node node)
  return node

/-- Adds an argument to the children of a builder if it is an element. -/
def appendGiven (call : Caller ρ) (b : BuilderRef) (given : Given ρ) : BuildM ρ Node := do
  match given with
  | .value (.node node) => return ← call.append b node
  | .builder other =>
      match ← observe fun store => store.foreign? other with
      | some (.node node) => return ← call.append b node
      | some _ => pure ()
      | none => call.inspect other
  | _ => pure ()
  throw (← observe fun store => .invalidChild (store.className b) (given.typeName store))

/-! ### Completeness -/

/-- Those of the names whose slot is empty. A name without a slot is a fault. -/
def unsetAmong (call : Caller ρ) (b : BuilderRef) : List Value → BuildM ρ (List Value)
  | [] => return []
  | name :: rest => do
      let found ← call.read b (slotAttribute name.written)
      let others ← call.unsetAmong b rest
      return if found.isNull then name :: others else others

/-- The required names that are not set yet. -/
def missing (call : Caller ρ) (b : BuilderRef) : BuildM ρ (List Value) := do
  call.unsetAmong b (← call.readItems b "_required")

/-! ### The element -/

/-- The element that a builder's attributes describe. -/
def make (call : Caller ρ) (b : BuilderRef) : Product → BuildM ρ Node
  | .head => return .head (← call.readValue b "_title")
  | .body => return .body (← call.readItems b "_children")
  | .division => do
      let children ← call.readItems b "_children"
      let ident ← call.readValue b "id"
      let className ← call.readValue b "class_name"
      return .division children ident className
  | .document => do
      let head ← call.readValue b "_head"
      let body ← call.readValue b "_body"
      return .document head body

/-- Finalizes a builder: nothing may be missing, and its element is recorded. -/
def build (call : Caller ρ) (b : BuilderRef) : BuildM ρ Value := do
  let absent ← call.own b "missing"
  unless absent.isEmpty do throw (← observe fun store => store.lacking b absent)
  let element ← call.own b "_make_node"
  perform fun store => store.finalize b
  perform fun store => store.record b element
  return element

end ScopedHtml.Caller
