import ScopedHtml.Fault

/-!
# ScopedHtml.Signature

What a call may be given.

Besides its receiver a call takes named parameters. An argument without a name
goes to the first of them; every other argument says its name. `Signature.bind`
puts each argument to its parameter. What it finds wrong is reported in a fixed
order: first the names as they come, then an argument for which there is no
parameter, then the required parameters that are left.
-/

namespace ScopedHtml

/-- A parameter of a call. -/
structure Parameter where
  name : String
  /-- Whether an argument has to be given. -/
  required : Bool
  deriving DecidableEq, Repr, Inhabited

/-- The parameters of a call. -/
structure Signature where
  /-- The name under which messages speak of the call. -/
  callee : String
  parameters : List Parameter
  /-- The name of the receiver. It is always given and cannot be given again. -/
  receiver : String := "self"
  deriving DecidableEq, Repr, Inhabited

namespace Signature

variable {α : Type}

/-- Whether a parameter has this name. -/
def knows (signature : Signature) (name : String) : Bool :=
  signature.parameters.any fun parameter => parameter.name = name

/-- Puts named arguments behind those that are bound already. -/
def bindNamed (signature : Signature) (bound : List (String × α)) :
    List (String × α) → Except Fault (List (String × α))
  | [] => .ok bound
  | (name, value) :: rest =>
      if name = signature.receiver || bound.any (·.1 = name) then
        .error (.repeatedArgument signature.callee name)
      else if signature.knows name then signature.bindNamed (bound ++ [(name, value)]) rest
      else .error (.unexpectedOption signature.callee name)

/-- The argument without a name, bound to the first parameter. -/
def bindFirst (signature : Signature) : Option α → List (String × α)
  | none => []
  | some value => (signature.parameters.take 1).map fun parameter => (parameter.name, value)

/-- The names of required parameters that nothing is bound to. -/
def absent (signature : Signature) (bound : List (String × α)) : List String :=
  (signature.parameters.filter fun parameter =>
    parameter.required && !bound.any (·.1 = parameter.name)).map Parameter.name

/-- Binds arguments to parameters. -/
def bind (signature : Signature) (first : Option α) (named : List (String × α)) :
    Except Fault (List (String × α)) := do
  let bound ← signature.bindNamed (signature.bindFirst first) named
  if first.isSome && signature.parameters.isEmpty then
    throw (.unexpectedArgument signature.callee)
  let absent := signature.absent bound
  unless absent.isEmpty do throw (.missingArguments signature.callee absent)
  return bound

end Signature

end ScopedHtml
