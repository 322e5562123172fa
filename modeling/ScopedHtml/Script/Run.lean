import ScopedHtml.Page
import ScopedHtml.Script.Step
import ScopedHtml.Value.Equality

/-!
# ScopedHtml.Script.Run

Running scripts.

Every step leaves an entry in the trace when it ends, so the steps of a block
come before the step that opened it. A failure leaves the blocks around it up to
the nearest attempt; at the top the script goes on with the next step.
-/

namespace ScopedHtml.Script

/-- The names that a script has bound, and its trace. -/
structure Names where
  builders : Bindings String BuilderRef := .empty
  nodes : Bindings String Node := .empty
  trace : List Entry := []

/-- Scripts run on builders and names. -/
abbrev ScriptM := BuildM Names

open BuildM

/-! ### Names -/

/-- The builder bound to a name. -/
def builderNamed (name : String) : ScriptM BuilderRef := do
  match (← get).extra.builders.find? name with
  | some b => return b
  | none => throw (.unbound name)

/-- Binds a builder. -/
def bindBuilder (name : String) (b : BuilderRef) : ScriptM Unit :=
  modify fun session =>
    { session with
      extra := { session.extra with builders := session.extra.builders.bind name b } }

/-- Binds an element. -/
def bindNode (name : String) (node : Node) : ScriptM Unit :=
  modify fun session =>
    { session with extra := { session.extra with nodes := session.extra.nodes.bind name node } }

/-- The value of a description. -/
def read (spec : Spec) : ScriptM Value := do
  let nodes := (← get).extra.nodes
  settle (spec.read nodes.find?)

/-- Makes the element of a description. -/
def make (spec : Spec) : ScriptM Node := do
  let nodes := (← get).extra.nodes
  settle (spec.make nodes.find?)

/-- The position of the first equal element for each of the elements in hand and then
of the descriptions. Every element is made when those before it are done with. -/
def findEqual (seen : List Value) : List Spec → ScriptM (List Nat)
  | [] => return firstEqual seen
  | spec :: rest => do
      let value ← read spec
      if let some part := value.changeable? then throw (.changeable part.typeName)
      findEqual (seen ++ [value]) rest

/-! ### Entries -/

/-- Asks a builder what there is to see of it. What it says is missing comes before
what it has, since saying so may add to that. -/
def glimpse (b : BuilderRef) : ScriptM Glimpse := do
  let isFlow ← b.isFlow
  let missing ← outcome (b.callOwn "missing")
  let finalized ← b.read "is_finalized"
  let count ← if isFlow then do
      let children ← b.read "children"
      pure (some (← settle children.count))
    else pure none
  return { finalized, missing, count }

/-- The builder that a step is about at this moment, if its name is bound. -/
def Step.target? (step : Step) (names : Names) : Option BuilderRef :=
  step.on?.bind names.builders.find?

/-- Runs the body of a step, leaves its entry and gives its fault, if any. A
builder that cannot be asked is a failure without an entry. -/
def recorded (path : List Nat) (step : Step) (body : ScriptM Answer) :
    ScriptM (Option Fault) := do
  let target := step.target? (← get).extra
  let result ← outcome body
  let seen ← match step.target? (← get).extra with
    | some b => some <$> glimpse b
    | none => pure none
  let entry : Entry := { path, step, target, result, glimpse := seen }
  modify fun session =>
    { session with extra := { session.extra with trace := session.extra.trace ++ [entry] } }
  match result with
  | .ok _ => return none
  | .error fault => return some fault

/-! ### Steps -/

/-- Names that an argument uses and that are resolved before the member is
looked up. -/
def Argument.check : Argument → ScriptM Unit
  | .builder name => discard (builderNamed name)
  | _ => return ()

/-- An answer that is a value. -/
def Answer.value (value : Value) : Answer := .found (.value value)

/-- A new builder as an answer. -/
def present (b : BuilderRef) : ScriptM Answer := do
  if let some value ← observe fun store => store.foreign? b then return .value value
  b.inspect
  let className ← observe fun store => store.className b
  if ← b.isBuilder then return .builder b className
  if ← observe fun store => store.canBeCalled b then return .method
  return .object className

/-- Binds the element that a step answered with. -/
def bindAnswer (name : String) : Answer → ScriptM Unit
  | .found (.value (.node node)) => bindNode name node
  | _ => return ()

mutual

/-- The answer of a step. -/
def Step.answer (path : List Nat) : Step → ScriptM Answer
  | .named name step => do
      let answer ← step.answer path
      bindAnswer name answer
      return answer
  | .about _ step => step.answer path
  | .new name className options => do
      let id ← query fun store => store.classes.named className
      let b ← create id options
      bindBuilder name b
      present b
  | .call on member argument options => do
      let b ← builderNamed on
      argument.check
      let found ← b.read member
      let first ← argument.given path
      return .value (← call b found { first, options })
  | .html argument => do
      let first ← argument.given path
      return .value (← htmlOf { first })
  | .sample => return .value (← samplePage)
  | .elements className => do
      let id ← query fun store => store.classes.named className
      return .value (← query fun store => store.classes.listing id)
  | .get on name => do
      let b ← builderNamed on
      return .found (← b.read name)
  | .set on name value => do
      let b ← builderNamed on
      b.write name value
      return .nothing
  | .node spec => return .value (← read spec)
  | .outline spec => return .outline (← make spec).outline
  | .compare first second => do
      let a ← read first
      let b ← read second
      return .equality (a.same b)
  | .distinct specs => return .positions (← findEqual [] specs)
  | .getField spec name => do
      let value ← read spec
      match ← settle (value.field name) with
      | some found => return .value found
      | none => return .method
  | .setField spec name => do throw ((← read spec).assignmentFault name)
  | .deleteField spec name => do throw ((← read spec).deletionFault name)
  | .fail message => throw (.raised message)
  | .attempt steps => do
      match ← outcome (runBlock path 0 steps) with
      | .ok _ => return .nothing
      | .error fault => return .caught fault
  | .define name bases body => do
      let id ← define name bases body
      return .value (← query fun store => store.classes.listing id)
  | .defineMixin name body => do
      discard <| define name [] body
      return .nothing

/-- The argument of a call, if there is one. -/
def Argument.given (path : List Nat) : Argument → ScriptM (Option (Given Names))
  | .absent => return none
  | .value value => return some (.value value)
  | .block inner steps =>
      return some <| .function fun b => do
        bindBuilder inner b
        runBlock path 0 steps
  | .builder name => return some (.builder (← builderNamed name))
  | .node spec => return some (.value (← read spec))

/-- Runs the steps of a block up to the first failure. -/
def runBlock (path : List Nat) (position : Nat) : List Step → ScriptM Unit
  | [] => return ()
  | step :: rest => do
      match ← recorded (path ++ [position]) step (step.answer (path ++ [position])) with
      | none => runBlock path (position + 1) rest
      | some fault => throw fault

end

/-- Runs the steps at the top, whether they fail or not. -/
def runTop (position : Nat) : List Step → ScriptM Unit
  | [] => return ()
  | step :: rest => do
      discard <| recorded [position] step (step.answer [position])
      runTop (position + 1) rest

/-! ### Reports -/

/-- What a script left of a builder. -/
structure BuilderReport where
  className : String
  glimpse : Glimpse
  /-- The texts of the children of a flow builder. -/
  children : Option (List String)
  deriving Inhabited

/-- What a script did and left. -/
structure Report where
  trace : List Entry
  /-- The builders by name, in code point order. -/
  builders : List (String × BuilderReport)
  nodes : List (String × String)
  log : List Log.Event

/-- The session in which a script starts. -/
def start : Session Names where
  store := .initial
  extra := {}

/-- Asks a builder what there is to report of it. -/
def reportBuilder (b : BuilderRef) : ScriptM BuilderReport := do
  let glimpse ← glimpse b
  let children ← if ← b.isFlow then do
      let children ← b.read "children"
      pure (some ((← settle children.items).map Value.written))
    else pure none
  return { className := ← observe fun store => store.className b, glimpse, children }

/-- Asks the builders bound to names what there is to report of them. -/
def reportBuilders : List (String × BuilderRef) → ScriptM (List (String × BuilderReport))
  | [] => return []
  | (name, b) :: rest => do
      let report ← reportBuilder b
      return (name, report) :: (← reportBuilders rest)

/-- The report of what has been done so far. What the builders do when they are
asked for it is not part of it. -/
def report : ScriptM Report := do
  let session ← get
  let names := session.extra.builders.entries.mergeSort fun a b => decide (a.1 ≤ b.1)
  return {
    trace := session.extra.trace
    builders := ← reportBuilders names
    nodes := session.extra.nodes.entries.map fun (name, node) => (name, node.render)
    log := session.store.log }

/-- A report whose answers can all be written down. -/
def Report.checked (report : Report) : Except Fault Report :=
  match report.trace.findSome? Entry.unwritable? with
  | some type => .error (.unwritable type)
  | none => .ok report

/-- Runs a script from the start. A builder that cannot be asked at the top or at
the end leaves no report, and neither does an answer that cannot be written down. -/
def run (steps : List Step) : Except Fault Report :=
  match (do runTop 0 steps; settle (← report).checked : ScriptM Report) start with
  | .ok report _ => .ok report
  | .error fault _ => .error fault

end ScopedHtml.Script
