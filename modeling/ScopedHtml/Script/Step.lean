import ScopedHtml.Builder.Call
import ScopedHtml.Node.Outline
import ScopedHtml.Node.Spec

/-!
# ScopedHtml.Script.Step

Scripts: programs on builders as data.

A script is a list of steps. Builders, elements and classes go by names; a block
is a list of steps that runs on the builder of an open scope, which it finds
under a name of its own.
-/

namespace ScopedHtml.Script

mutual

/-- One step of a script. -/
inductive Step
  /-- The step, whose element, if that is its answer, is then bound to a name. -/
  | named (name : String) (step : Step)
  /-- The step, which is about the builder bound to a name. -/
  | about (on : String) (step : Step)
  /-- Create a builder of the class of this name and bind it. -/
  | new (name className : String) (options : Options)
  /-- Look a member of the bound builder up and call it. -/
  | call (on member : String) (argument : Argument) (options : Options)
  /-- Build a whole document. -/
  | html (argument : Argument)
  /-- Build the sample page. -/
  | sample
  /-- The registered openers of the class of this name. -/
  | elements (className : String)
  /-- Read an attribute of the bound builder. -/
  | get (on name : String)
  /-- Assign an attribute of the bound builder. -/
  | set (on name : String) (value : Value)
  /-- Make an element. -/
  | node (spec : Spec)
  /-- Make an element and outline it. -/
  | outline (spec : Spec)
  /-- Compare two elements. -/
  | compare (first second : Spec)
  /-- Find the first equal of each element. -/
  | distinct (specs : List Spec)
  /-- Read a field of an element. -/
  | getField (spec : Spec) (name : String)
  /-- Assign a field of an element. -/
  | setField (spec : Spec) (name : String)
  /-- Delete a field of an element. -/
  | deleteField (spec : Spec) (name : String)
  /-- Fail on purpose. -/
  | fail (message : String)
  /-- Run steps and keep their failure from leaving. -/
  | attempt (steps : List Step)
  /-- Define a builder class. -/
  | define (name : String) (bases : List String) (body : ClassBody)
  /-- Define a plain class. -/
  | defineMixin (name : String) (body : ClassBody)

/-- The argument of a call in a script. -/
inductive Argument
  | absent
  | value (value : Value)
  /-- The steps to run on the builder of the scope, bound to `inner`. -/
  | block (inner : String) (steps : List Step)
  /-- The builder bound to a name. -/
  | builder (name : String)
  /-- An element yet to be made. -/
  | node (spec : Spec)

end

instance : Inhabited Step := ⟨.sample⟩
instance : Inhabited Argument := ⟨.absent⟩

/-- The name of the builder that a step is about: the one that is said or the one
that the step works on. -/
def Step.on? : Step → Option String
  | .named _ step => step.on?
  | .about on _ => some on
  | .call on _ _ _ => some on
  | .get on _ => some on
  | .set on _ _ => some on
  | _ => none

/-! ### Traces -/

/-- What a step that succeeds answers. -/
inductive Answer
  | nothing
  | found (found : Found)
  /-- Something that can be called. -/
  | method
  | builder (ref : BuilderRef) (className : String)
  /-- An instance of a plain class, which cannot be written down. -/
  | object (className : String)
  /-- Whether two elements are equal. -/
  | equality (equal : Bool)
  | positions (positions : List Nat)
  | outline (outline : Outline)
  /-- The fault that ended an attempt. -/
  | caught (fault : Fault)
  deriving Inhabited

/-- The type of an answer that cannot be written down. -/
def Answer.unwritable? : Answer → Option String
  | .object className => some className
  | _ => none

/-- What is seen of a builder by asking it. -/
structure Glimpse where
  finalized : Found
  /-- What it says is missing, or why it does not say. -/
  missing : Except Fault Value
  /-- The number of children of a flow builder. -/
  count : Option Nat
  deriving Inhabited

/-- The record of a step that has ended. -/
structure Entry where
  /-- The positions of the enclosing steps and of the step, outermost first. -/
  path : List Nat
  step : Step
  /-- The builder that the step is about, as its name was bound at the start. -/
  target : Option BuilderRef
  result : Except Fault Answer
  /-- What the step left of the builder that its name is bound to at the end. -/
  glimpse : Option Glimpse

/-- The type of the answer of a step, if it cannot be written down. -/
def Entry.unwritable? (entry : Entry) : Option String :=
  entry.result.toOption.bind Answer.unwritable?

end ScopedHtml.Script
