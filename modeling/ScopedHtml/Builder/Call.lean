import ScopedHtml.Builder.Heir

/-!
# ScopedHtml.Builder.Call

Calling what an attribute look-up found, and the operations of a builder.

`Caller.step` carries out one call with a caller for the calls inside it;
`Caller.upTo` ties the knot for calls that are nested at most so deep, and `call`
is the caller that everything else uses. Nested are only the calls that builders
make on each other by themselves, so the depth does not bound scopes inside
scopes. For the library's own classes it never grows beyond three: an opener
finalizes a builder, which asks what is missing and makes its element.
-/

namespace ScopedHtml

variable {ρ : Type}

open BuildM

namespace Caller

/-! ### Calls -/

/-- Calls a method with its argument, if it takes one. -/
def method (call : Caller ρ) (b : BuilderRef) (argument : Given ρ) :
    Method → BuildM ρ Value
  | .build => call.build b
  | .missing => return .list (← call.missing b)
  | .elements => return .ofNames (← query fun store => store.classes.listed (store.get b).classId)
  | .paragraph => return .node (← call.paragraph b argument.toValue)
  | .title => call.title b argument.toValue
  | .append => return .node (← call.appendGiven b argument)
  | .report => do
      match argument with
      | .value (.text name) => call.report b name
      | other => throw (← observe fun store => .noAttribute (other.typeName store) "startswith")
  | .register => return .null

/-- Calls a member of the class `owner` on a builder. Some functions work on the class
of the builder instead. -/
def member (call : Caller ρ) (b : BuilderRef) (owner name : String) (arguments : Arguments ρ)
    (called : Member) : BuildM ρ Value := do
  let signature := fun (parameters : List Parameter) (receiver : String) =>
    ({ callee := owner ++ "." ++ name, parameters, receiver } : Signature)
  let id ← observe fun store => (store.get b).classId
  match called with
  | .opener target attachment =>
      if name ∈ Hook.ofClass then
        call.openScopeOn id name target attachment arguments.init? arguments.options
      else call.openScope b name target attachment arguments.init? arguments.options
  | .plain => return plainAnswer name
  | .method .register =>
      let options ← settle (arguments.bindOptions (signature [] Method.register.receiver))
      call.announce id options (← observe fun store => store.classes.line id)
  | .method method =>
      let signature := signature method.parameters method.receiver
      call.method b (← settle (arguments.bindOnly signature)) method
  | .maker (some product) =>
      discard <| settle (arguments.bind (signature [] "self"))
      return .node (← call.make b product)
  | .starter starter =>
      let given ← settle (arguments.bind (signature starter.parameters "self"))
      call.startWith b starter (given.map fun (n, g) => (n, g.toValue))
      return .null
  | _ => return .null

/-- Carries out one call; `call` carries out the calls inside it. -/
def step (call : Caller ρ) : Caller ρ := fun b found arguments =>
  match found with
  | .value held => throw (.notCallable held.typeName)
  | .callable owner name called => call.member b owner name arguments called

/-- Carries out calls that are nested at most `depth` deep. -/
def upTo : Nat → Caller ρ
  | 0 => fun _ _ _ => throw .endlessCalls
  | depth + 1 => (upTo depth).step

/-- The depth of nested calls that is taken for endless. -/
def depthLimit : Nat := 1000

end Caller

/-- Carries out a call. -/
def call : Caller ρ := Caller.upTo Caller.depthLimit

/-! ### The operations of a builder -/

/-- Creates a builder of a class. -/
def create (id : ClassId) (options : Options) : BuildM ρ BuilderRef := call.create id options

/-- Builds a whole document by a function on its builder. -/
def html (init : Init ρ) : BuildM ρ Value := call.html (.function init)

/-- Builds a whole document by a function given as an argument. -/
def htmlOf (arguments : Arguments ρ) : BuildM ρ Value := do
  let signature : Signature := { callee := "html", parameters := [⟨"init", true⟩] }
  call.html (← settle (arguments.bindOnly signature))

/-- Defines a class on the bases of these names. -/
def define (name : String) (bases : List String) (body : ClassBody) : BuildM ρ ClassId :=
  call.define name bases body

namespace BuilderRef

/-- What a builder has under a name. -/
def read (b : BuilderRef) (name : String) : BuildM ρ Found := call.read b name

/-- Assigns an attribute of a builder. -/
def write (b : BuilderRef) (name : String) (value : Value) : BuildM ρ Unit :=
  perform fun store => store.write b name value

/-- Calls what a builder has under a name, without arguments. -/
def callOwn (b : BuilderRef) (name : String) : BuildM ρ Value := call.own b name

/-- Asks a builder for its class, which it need not show. -/
def inspect (b : BuilderRef) : BuildM ρ Unit := call.inspect b

/-- Whether this is a builder and not an instance of a plain class. -/
def isBuilder (b : BuilderRef) : BuildM ρ Bool := call.isOf b Standard.builderBase

/-- Whether a builder keeps a list of children. -/
def isFlow (b : BuilderRef) : BuildM ρ Bool := call.isOf b Standard.flowBuilder

/-- Adds a paragraph. -/
def p (b : BuilderRef) (content : Value) : BuildM ρ Node := call.paragraph b content

/-- Sets the title. -/
def title (b : BuilderRef) (content : Value) : BuildM ρ Value := call.title b content

/-- Adds a finished element. -/
def append (b : BuilderRef) (node : Node) : BuildM ρ Node := call.append b node

/-- Finalizes a builder. -/
def build (b : BuilderRef) : BuildM ρ Value := call.build b

/-- Opens a scope for the opener `element` of a builder. -/
def openScope (b : BuilderRef) (element : String) (target : Target) (attachment : Attachment)
    (init : Option (Init ρ)) (options : Options) : BuildM ρ Value :=
  call.openScope b element target attachment (init.map .function) options

/-- Opens a division. -/
def div (b : BuilderRef) (init : Option (Init ρ)) (options : Options) : BuildM ρ Value :=
  b.openScope "div" (.fixed Standard.divBuilder) .append init options

/-- Opens the head of a document. -/
def head (b : BuilderRef) (init : Option (Init ρ)) (options : Options) : BuildM ρ Value :=
  b.openScope "head" (.fixed Standard.headBuilder) .slot init options

/-- Opens the body of a document. -/
def body (b : BuilderRef) (init : Option (Init ρ)) (options : Options) : BuildM ρ Value :=
  b.openScope "body" (.fixed Standard.bodyBuilder) .slot init options

end BuilderRef

end ScopedHtml
