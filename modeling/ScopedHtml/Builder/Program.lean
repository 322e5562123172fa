import ScopedHtml.Builder.Operation

/-!
# ScopedHtml.Builder.Program

Programs that use builders.

They run in `BuildM`: they fail with a `Fault`, and what they did before they
failed stays done. Besides the store they may carry a state of their own, which
the operations on builders never touch.

A class may have its own idea of how its builders start, what they are missing,
how they make their element, even of how their attributes are read. So most
operations call whatever the builder has under a name. How a call is carried out is
a parameter of each of them (`Caller`).
-/

namespace ScopedHtml

/-- The store together with what a program carries besides it. -/
structure Session (ρ : Type) where
  store : Store
  extra : ρ

/-- Programs on builders. -/
abbrev BuildM (ρ : Type) := EStateM Fault (Session ρ)

/-- A function on the builder of an open scope. -/
abbrev Init (ρ : Type) := BuilderRef → BuildM ρ Unit

variable {ρ α : Type}

namespace BuildM

/-! ### Single steps -/

/-- Reads the store. -/
def query (read : Store → Except Fault α) : BuildM ρ α := fun session =>
  match read session.store with
  | .ok a => .ok a session
  | .error fault => .error fault session

/-- Looks at the store. -/
def observe (view : Store → α) : BuildM ρ α := query fun store => .ok (view store)

/-- Goes on with a result, if it is one. -/
def settle (result : Except Fault α) : BuildM ρ α := query fun _ => result

/-- Runs an operation that gives a result. -/
def transact (operation : Store → Except Fault (α × Store)) : BuildM ρ α := fun session =>
  match operation session.store with
  | .ok (a, store) => .ok a { session with store }
  | .error fault => .error fault session

/-- Runs an operation without a result. -/
def perform (operation : Store → Except Fault Store) : BuildM ρ Unit := fun session =>
  match operation session.store with
  | .ok store => .ok () { session with store }
  | .error fault => .error fault session

/-- Runs a program and gives its fault, if any, as a result. -/
def outcome (program : BuildM ρ α) : BuildM ρ (Except Fault α) := fun session =>
  match program session with
  | .ok a after => .ok (.ok a) after
  | .error fault after => .ok (.error fault) after

end BuildM

/-! ### Arguments -/

/-- An argument of a call. -/
inductive Given (ρ : Type)
  | value (value : Value)
  | function (init : Init ρ)
  | builder (ref : BuilderRef)

namespace Given

/-- The argument as a value; a function or builder is none. -/
def toValue : Given ρ → Value
  | value held => held
  | _ => .null

/-- The name of the type of an argument. -/
def typeName (store : Store) : Given ρ → String
  | value held => held.typeName
  | function _ => "function"
  | builder ref => store.className ref

end Given

/-- What a call is given: at most one argument without a name, and options. -/
structure Arguments (ρ : Type) where
  first : Option (Given ρ) := none
  options : Options := []

namespace Arguments

/-- What an opener is to run; neither an absent argument nor the absent value is
run. -/
def init? (arguments : Arguments ρ) : Option (Given ρ) :=
  match arguments.first with
  | some (.value .null) => none
  | other => other

/-- The arguments by parameter. -/
def bind (arguments : Arguments ρ) (signature : Signature) :
    Except Fault (List (String × Given ρ)) :=
  signature.bind arguments.first
    (arguments.options.map fun option => (option.1, .value option.2))

/-- The argument of a call with one parameter; the absent value of one without. -/
def bindOnly (arguments : Arguments ρ) (signature : Signature) : Except Fault (Given ρ) := do
  match ← arguments.bind signature with
  | [] => return .value .null
  | (_, given) :: _ => return given

/-- The options of a call that takes any options but nothing else. -/
def bindOptions (arguments : Arguments ρ) (signature : Signature) : Except Fault Options := do
  if arguments.options.any (·.1 = signature.receiver) then
    throw (.repeatedArgument signature.callee signature.receiver)
  if arguments.first.isSome then throw (.unexpectedArgument signature.callee)
  return arguments.options

end Arguments

/-! ### Calls -/

/-- Carries out a call of what was found on a builder. -/
abbrev Caller (ρ : Type) := BuilderRef → Found → Arguments ρ → BuildM ρ Value

end ScopedHtml
