import ScopedHtml.Builder.Element

/-!
# ScopedHtml.Builder.Scope

Opening scopes.

Opening a scope has five stages: the class is resolved, a builder is created
with the options, the caller's function runs on it, the builder is finalized
(`Caller.scope`), and its element is attached to the parent (`Caller.openScope`).
A stage that fails is the last one.

Creating a builder has three: an instance is made, the class must make elements, and
the instance is started. A class may have a member of its own that makes instances.
What it makes is no builder: it is not started, and it has nothing that a builder
has.

Starting goes along the line of the class: a starter of the library first lets the next
class behind its own start the builder, whichever that is in this line, and then assigns
its own attributes (`Caller.startWith`). So a builder of several of the library's
classes starts with what each of them keeps.
-/

namespace ScopedHtml.Caller

variable {ρ : Type}

open BuildM

/-! ### Functions -/

/-- Runs an argument on a builder. A builder can be run if its class has a member for
being called. -/
def run (call : Caller ρ) (given : Given ρ) (b : BuilderRef) : BuildM ρ Unit := do
  match given with
  | .function init => init b
  | .value held => throw (.notCallable held.typeName)
  | .builder callee =>
      match ← observe fun store => store.hook? callee .call with
      | none => throw (← observe fun store => .notCallable (store.className callee))
      | some origin =>
          discard <| call.dispatch callee Hook.call.name origin { first := some (.builder b) }

/-! ### Starting -/

/-- Lets the first class in a row that has a member for it start a builder. What that
answers does not matter. -/
def startAlong (call : Caller ρ) (b : BuilderRef) : List ClassId → BuildM ρ Unit
  | [] => return ()
  | next :: rest => do
      match ← observe fun store => (store.classes.get next).members.find? Hook.start.name with
      | none => call.startAlong b rest
      | some (.starter starter) => do
          if starter.home.isSome then call.startAlong b rest
          perform fun store => store.start b starter []
      | some member => discard <| call.dispatch b Hook.start.name (next, member) {}

/-- Starts a builder with the options that are bound, behind the class that stands next in
the line of the builder. -/
def startWith (call : Caller ρ) (b : BuilderRef) (starter : Starter) (given : Options) :
    BuildM ρ Unit := do
  match starter.home with
  | none => pure ()
  | some home =>
      call.startAlong b
        (← observe fun store => store.classes.lineBehind (store.get b).classId home)
  perform fun store => store.start b starter given

/-! ### Creating -/

/-- Starts a new instance. What is called for it must not answer anything. -/
def start (call : Caller ρ) (b : BuilderRef) (origin : ClassId × Member) (options : Options) :
    BuildM ρ Unit := do
  let answer ← call.dispatch b Hook.start.name origin { options }
  unless answer.isNull do throw (.startAnswered answer.typeName)

/-- Makes and starts a builder of a class in the ordinary way. -/
def createBuilder (call : Caller ρ) (id : ClassId) (options : Options) :
    BuildM ρ BuilderRef := do
  match ← query fun store => store.initializer id with
  | none => transact fun store => store.createBare id options
  | some (owner, .starter starter) =>
      let given ← query fun store => store.bindOptions owner starter options
      let b ← transact fun store => store.createBare id []
      call.startWith b starter given
      return b
  | some origin =>
      let b ← transact fun store => store.createBare id []
      call.start b origin options
      return b

/-- Creates a builder of a class. If the class has a member that makes instances, what
it makes is taken in as it is. -/
def create (call : Caller ρ) (id : ClassId) (options : Options) : BuildM ρ BuilderRef := do
  match ← observe fun store => store.classes.hook? id .make with
  | none => call.createBuilder id options
  | some origin =>
      let b ← transact fun store => store.createBare id []
      let made ← call.dispatch b Hook.make.name origin { options }
      transact fun store => .ok (store.createForeign made)

/-! ### Opening -/

/-- The scope of an opener named `element`, from its class to its element. -/
def scope (call : Caller ρ) (element : String) (target : Target) (init : Option (Given ρ))
    (options : Options) : BuildM ρ Value := do
  let id ← query fun store => store.target element target
  let child ← call.create id options
  match init with
  | some given => call.run given child
  | none => pure ()
  call.own child "build"

/-- Opens a scope for the opener `element` of a builder. -/
def openScope (call : Caller ρ) (b : BuilderRef) (element : String) (target : Target)
    (attachment : Attachment) (init : Option (Given ρ)) (options : Options) :
    BuildM ρ Value := do
  let made ← call.scope element target init options
  call.attach b element made attachment
  return made

/-- Opens a scope for the opener `element` of a class, which is called on the class
itself. -/
def openScopeOn (call : Caller ρ) (id : ClassId) (element : String) (target : Target)
    (attachment : Attachment) (init : Option (Given ρ)) (options : Options) :
    BuildM ρ Value := do
  let made ← call.scope element target init options
  perform fun store => store.onClasses fun classes => classes.attach id element made attachment
  return made

/-- Builds a whole document by a function on its builder. -/
def html (call : Caller ρ) (init : Given ρ) : BuildM ρ Value := do
  let document ← call.create Standard.documentBuilder []
  call.run init document
  call.own document "build"

end ScopedHtml.Caller
