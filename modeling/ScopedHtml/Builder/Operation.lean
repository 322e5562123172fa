import ScopedHtml.Builder.Store
import ScopedHtml.Node.Field

/-!
# ScopedHtml.Builder.Operation

The operations on builders that happen in one step.

Each is a function from a store to a result and a new store. A failing
operation gives no store at all: it has changed nothing.

Assigning an attribute is one of them (`Store.write`). A class may have a member of
its own for it: a plain function takes the value and forgets it, anything else
cannot be called with a name and a value.
-/

namespace ScopedHtml

/-- Options of a call, by name. -/
abbrev Options := List (String × Value)

namespace Starter

/-- What starting a builder takes: options, none of them required. -/
def parameters (starter : Starter) : List Parameter :=
  starter.options.map fun option => ⟨option.1, false⟩

/-- The attributes of a builder that has just been started with options, which
are kept as attributes. -/
def started (starter : Starter) (given : Options) : Bindings String Value :=
  starter.options.foldl
    (fun held option =>
      match given.lookup option.1 with
      | some value => held.bind option.2 value
      | none => held)
    starter.initial

end Starter

namespace Store

/-! ### Attributes -/

/-- Assigns an attribute in the ordinary way. Computed attributes refuse; the class
of a builder and all its attributes at once cannot become just any value. A value in
the place of a builder has nothing to assign. -/
def set (store : Store) (b : BuilderRef) (name : String) (value : Value) : Except Fault Store :=
  match store.foreign? b, store.member? b name with
  | some held, _ => .error (held.assignmentFault name)
  | none, some (_, .property _) => .error (.noSetter (store.className b) name)
  | none, some _ => .ok (store.assign b name value)
  | none, none =>
      if name = kindName then .error (.invalidClass value.typeName)
      else if name = attributesName then
        match value with
        | .record members => .ok (store.replace b ⟨members⟩)
        | other => .error (.invalidAttributes other.typeName)
      else .ok (store.assign b name value)

/-- Assigns an attribute. -/
def write (store : Store) (b : BuilderRef) (name : String) (value : Value) :
    Except Fault Store :=
  match store.hook? b .write with
  | none => store.set b name value
  | some (_, .plain) => .ok store
  | some (_, .data held) => .error (.notCallable held.typeName)
  | some _ => .error (.tooManyArguments Hook.write.name 3)

/-- Assigns attributes in order. -/
def writeAll (store : Store) (b : BuilderRef) : List (String × Value) → Except Fault Store
  | [] => .ok store
  | (name, value) :: rest => do (← store.write b name value).writeAll b rest

/-! ### New builders -/

/-- Assigns what a builder starts with and the options that are bound. -/
def start (store : Store) (b : BuilderRef) (starter : Starter) (given : Options) :
    Except Fault Store :=
  store.writeAll b (starter.started given).entries

/-- The options of a new builder. One that is not taken is a fault of the class `owner`
that decides about options. -/
def bindOptions (store : Store) (owner : ClassId) (starter : Starter) (options : Options) :
    Except Fault Options :=
  let signature : Signature :=
    { callee := (store.classes.get owner).name ++ "." ++ Hook.start.name
      parameters := starter.parameters }
  signature.bind none options

/-- Makes an instance of a class that nothing starts. It takes no options. -/
def createBare (store : Store) (id : ClassId) (options : Options) :
    Except Fault (BuilderRef × Store) := do
  unless options.isEmpty do throw (.takesNoOptions (store.classes.get id).name)
  return store.add { classId := id, held := .empty }

/-- Takes in a value in the place of a builder. -/
def createForeign (store : Store) (value : Value) : BuilderRef × Store :=
  store.add { classId := Standard.root, held := .empty, foreign := some value }

/-- What starts a new instance of a class, and the class it comes from. A class
that makes no element has no instances. -/
def initializer (store : Store) (id : ClassId) : Except Fault (Option (ClassId × Member)) :=
  match store.classes.resolve id "_make_node" with
  | some (_, .maker none) => .error (.abstractBuilder (store.classes.get id).name)
  | _ => .ok (store.classes.hook? id .start)

/-! ### Elements -/

/-- The fault of a builder that was to be finalized while something is missing. -/
def lacking (store : Store) (b : BuilderRef) (absent : Value) : Fault :=
  match absent.items? with
  | some items => .missingChildren (store.className b) items
  | none => .notIterable absent.typeName

/-- Marks a builder as finalized. -/
def finalize (store : Store) (b : BuilderRef) : Except Fault Store :=
  store.write b "_finalized" (.bool true)

/-- Records that a builder was finalized. Only an element can be recorded. -/
def record (store : Store) (b : BuilderRef) : Value → Except Fault Store
  | .node node => .ok (store.logged (.finalized (store.className b) node.tag))
  | other => .error (.noAttribute other.typeName "tag")

/-- Puts a value behind the children that were found for a builder. -/
def push (store : Store) (b : BuilderRef) (children : Found) (value : Value) :
    Except Fault Store :=
  match children with
  | .value (.list items) => .ok (store.assign b "_children" (.list (items ++ [value])))
  | other => .error (.noAttribute other.attributeTypeName "append")

/-! ### Classes -/

/-- Applies an operation to the classes. -/
def onClasses (store : Store) (operation : ClassTable → Except Fault ClassTable) :
    Except Fault Store := do
  return { store with classes := ← operation store.classes }

/-- Adds a class, which no name is bound to. -/
def addClass (store : Store) (new : BuilderClass) : ClassId × Store :=
  let (id, classes) := store.classes.push new
  (id, { store with classes })

end Store

end ScopedHtml
