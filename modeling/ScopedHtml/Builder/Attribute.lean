import ScopedHtml.Builder.Program

/-!
# ScopedHtml.Builder.Attribute

Reading the attributes of builders.

A name is looked up in this order: a computed attribute of the class, the builder's
own attributes, any other member of the class. A class may have a member that is
asked for every name instead (`Hook.read`), and one that is asked for a name of
which the first look-up says that it is not there (`Hook.unknown`). All builders
have the latter: for a private name its answer is a plain fault, for a public one a
fault that says which elements the builder supports (`Caller.report`).
-/

namespace ScopedHtml.Caller

variable {ρ α : Type}

open BuildM

/-- Calls the member of a builder's class that was found under a name. -/
def dispatch (call : Caller ρ) (b : BuilderRef) (name : String) (origin : ClassId × Member)
    (arguments : Arguments ρ) : BuildM ρ Value := do
  call b (← observe fun store => store.found name origin) arguments

/-- What the member for an occasion answers when it is asked for a name. -/
def ask (call : Caller ρ) (b : BuilderRef) (hook : Hook) (origin : ClassId × Member)
    (name : String) : BuildM ρ Found := do
  return .value (← call.dispatch b hook.name origin { first := some (.value (.text name)) })

/-- Reads a name that `lookup` looks up, unless the class looks up in a way of its
own. -/
def reading (call : Caller ρ) (b : BuilderRef) (name : String) (lookup : BuildM ρ Found) :
    BuildM ρ Found := do
  let first := match ← observe fun store => store.hook? b .read with
    | none => lookup
    | some origin => call.ask b .read origin name
  match ← outcome first with
  | .ok found => return found
  | .error fault =>
      match fault.isAttribute, ← observe fun store => store.hook? b .unknown with
      | true, some origin => call.ask b .unknown origin name
      | _, _ => throw fault

/-- Reads a name that a builder keeps something under. -/
def readKept (call : Caller ρ) (b : BuilderRef) (name : String) : BuildM ρ Found :=
  call.reading b name (query fun store => store.kept b name)

/-- The value of a computed attribute. -/
def computed (call : Caller ρ) (b : BuilderRef) : Property → BuildM ρ Found
  | .isFinalized => call.readKept b "_finalized"
  | .children => do
      let found ← call.readKept b "_children"
      return .value (.tuple (← settle found.items))

/-- What a builder has under a name. -/
def read (call : Caller ρ) (b : BuilderRef) (name : String) : BuildM ρ Found :=
  call.reading b name do
    match ← observe fun store => store.property? b name with
    | some property => call.computed b property
    | none => query fun store => store.kept b name

/-- The items of what a builder has under a name. -/
def readItems (call : Caller ρ) (b : BuilderRef) (name : String) : BuildM ρ (List Value) := do
  settle (← call.read b name).items

/-- What a builder has under a name, as a value. -/
def readValue (call : Caller ρ) (b : BuilderRef) (name : String) : BuildM ρ Value := do
  return (← call.read b name).toValue

/-- Calls what a builder has under a name, without arguments. -/
def own (call : Caller ρ) (b : BuilderRef) (name : String) : BuildM ρ Value := do
  call b (← call.read b name) {}

/-- Fails because a builder does not have a name. The elements that it supports it
is asked for itself. -/
def report (call : Caller ρ) (b : BuilderRef) (name : String) : BuildM ρ α := do
  let className ← observe fun store => store.className b
  if isPrivate name then throw (.noPrivateAttribute className name)
  match (← call.own b "elements").items? with
  | some items => throw (.noElement className name (items.map Value.written))
  | none => throw .notJoinable

/-- Asks a builder for its class. That it has none to show is no fault here. -/
def inspect (call : Caller ρ) (b : BuilderRef) : BuildM ρ Unit := do
  match ← outcome (call.read b kindName) with
  | .ok _ => return ()
  | .error fault => unless fault.isAttribute do throw fault

/-- Whether a builder counts as one of a class. One that hides its class cannot be
asked. -/
def isOf (call : Caller ρ) (b : BuilderRef) (base : ClassId) : BuildM ρ Bool := do
  if ← observe fun store => store.isMasked b then
    discard <| call.read b kindName
    throw .notAClass
  observe fun store => store.isOf b base

end ScopedHtml.Caller
