import ScopedHtml.Proofs.History

/-!
# ScopedHtml.Proofs.Moments

**What can be seen of a run.** A script on builders of the library's classes
(`AllLibrary`) comes, while it runs, to moments in which a step is about to begin or has
just ended, at any depth of blocks inside blocks, and to moments in which a builder is
created (`Moment`).

`Step.Meets` follows the program that a step is, up to the first failure in it, and
`TopMeets` a whole script. `Tracked` is to hold at every moment of the first kind, with
those of the second kind for what its builders were created with.
-/

namespace ScopedHtml

/-- Builders are never taken away and keep their classes. -/
structure Store.Grown (before after : Store) : Prop where
  length : before.builders.length ≤ after.builders.length
  classId : ∀ b : BuilderRef, b.index < before.builders.length →
    (after.get b).classId = (before.get b).classId

namespace Store.Grown

variable {before after later : Store}

theorem refl (store : Store) : Grown store store := ⟨Nat.le_refl _, fun _ _ => rfl⟩

theorem trans (first : Grown before after) (second : Grown after later) : Grown before later where
  length := Nat.le_trans first.length second.length
  classId := fun b inside =>
    (second.classId b (Nat.lt_of_lt_of_le inside first.length)).trans (first.classId b inside)

theorem isA (grown : Grown before after) {b : BuilderRef} {product : Product}
    (isA : before.IsA b product) : after.IsA b product where
  inside := Nat.lt_of_lt_of_le isA.inside grown.length
  classId := (grown.classId b isA.inside).trans isA.classId

theorem assign (store : Store) (b : BuilderRef) (name : String) (value : Value) :
    Grown store (store.assign b name value) where
  length := Nat.le_of_eq (length_builders_assign store b name value).symm
  classId := fun c _ => classId_assign store b c name value

theorem add (store : Store) (builder : Builder) : Grown store (store.add builder).2 where
  length := by
    show store.builders.length ≤ (store.builders ++ [builder]).length
    rw [List.length_append]
    exact Nat.le_add_right _ _
  classId := fun b inside => by rw [get_add_of_lt inside]

theorem finalizedInto (store : Store) (b : BuilderRef) (node : Node) :
    Grown store (store.finalizedInto b node) where
  length := (assign store b "_finalized" (.bool true)).length
  classId := (assign store b "_finalized" (.bool true)).classId

theorem of_gathered {b : BuilderRef} {content : Content} {member : String} {made : Value}
    (gathered : before.Gathered b content member made after) : Grown before after := by
  obtain ⟨name, value, rfl⟩ := gathered.one
  exact assign before b name value

end Store.Grown

namespace Script

open BuildM

/-! ### Scripts on the library's builders -/

mutual

/-- A step on builders of the library's classes. It calls their public members and assigns
the attributes of divisions; besides, it may look at anything, fail and catch failures. -/
def Step.Library : Step → Prop
  | .named _ step => step.Library
  | .call _ member argument _ => isPrivate member = false ∧ argument.Library
  | .html argument => argument.Library
  | .set _ name _ => name = "id" ∨ name = "class_name"
  | .attempt steps => AllLibrary steps
  | .about _ _ => False
  | .sample => False
  | .define _ _ _ => False
  | .defineMixin _ _ => False
  | _ => True

/-- An argument whose block, if it is one, has only such steps. -/
def Argument.Library : Argument → Prop
  | .block _ steps => AllLibrary steps
  | _ => True

/-- Steps in a row of this kind. -/
def AllLibrary : List Step → Prop
  | [] => True
  | step :: rest => step.Library ∧ AllLibrary rest

end

/-! ### Moments of a run -/

/-- Something that can be seen of a run. -/
inductive Moment
  /-- Between two steps: one has ended or the next one is about to begin. -/
  | rest (s : Session Names)
  /-- A builder of a class has been created with options. -/
  | made (b : BuilderRef) (id : ClassId) (options : Options)

/-- Calling a member of `b` in `s` is opening a scope, and a builder is created for it. -/
structure Opens (s : Session Names) (b : BuilderRef) (member : String) (options : Options)
    (id : ClassId) (child : BuilderRef) (u : Session Names) : Prop where
  found : ∃ owner target attachment,
    b.read member s = .ok (.callable owner member (.opener target attachment)) s ∧
      s.store.target member target = .ok id
  created : create id options s = .ok child u

mutual

/-- `step.Meets path s m`: the step, begun in `s`, comes to the moment `m` before it
ends. -/
inductive Step.Meets : List Nat → Step → Session Names → Moment → Prop
  | named {path : List Nat} {name : String} {step : Step} {s : Session Names} {m : Moment}
      (meets : step.Meets path s m) : Step.Meets path (.named name step) s m
  | new {path : List Nat} {name className : String} {options : Options} {s t : Session Names}
      {id : ClassId} {b : BuilderRef} (named : s.store.classes.named className = .ok id)
      (created : create id options s = .ok b t) :
      Step.Meets path (.new name className options) s (.made b id options)
  | opened {path : List Nat} {on member : String} {argument : Argument} {options : Options}
      {s u : Session Names} {b child : BuilderRef} {first : Option (Given Names)}
      {id : ClassId} (bound : s.extra.builders.find? on = some b)
      (given : argument.given path s = .ok first s)
      (opens : Opens s b member options id child u) :
      Step.Meets path (.call on member argument options) s (.made child id options)
  | inside {path : List Nat} {on member : String} {argument : Argument} {options : Options}
      {s u : Session Names} {b child : BuilderRef} {id : ClassId} {m : Moment}
      (bound : s.extra.builders.find? on = some b)
      (opens : Opens s b member options id child u) (meets : argument.Meets path child u m) :
      Step.Meets path (.call on member argument options) s m
  | document {path : List Nat} {argument : Argument} {s u : Session Names}
      {first : Given Names} {doc : BuilderRef}
      (given : argument.given path s = .ok (some first) s)
      (created : create Standard.documentBuilder [] s = .ok doc u) :
      Step.Meets path (.html argument) s (.made doc Standard.documentBuilder [])
  | insideDocument {path : List Nat} {argument : Argument} {s u : Session Names}
      {doc : BuilderRef} {m : Moment}
      (created : create Standard.documentBuilder [] s = .ok doc u)
      (meets : argument.Meets path doc u m) : Step.Meets path (.html argument) s m
  | attempt {path : List Nat} {steps : List Step} {s : Session Names} {m : Moment}
      (meets : BlockMeets path 0 steps s m) : Step.Meets path (.attempt steps) s m

/-- The block that an argument is, run on a new builder. -/
inductive Argument.Meets : List Nat → Argument → BuilderRef → Session Names → Moment → Prop
  | block {path : List Nat} {inner : String} {steps : List Step} {child : BuilderRef}
      {u v : Session Names} {m : Moment} (bound : bindBuilder inner child u = .ok () v)
      (meets : BlockMeets path 0 steps v m) : Argument.Meets path (.block inner steps) child u m

/-- Steps in a row, up to the first failure. -/
inductive BlockMeets : List Nat → Nat → List Step → Session Names → Moment → Prop
  | start {path : List Nat} {position : Nat} {steps : List Step} {s : Session Names} :
      BlockMeets path position steps s (.rest s)
  | step {path : List Nat} {position : Nat} {step : Step} {rest : List Step}
      {s : Session Names} {m : Moment} (meets : step.Meets (path ++ [position]) s m) :
      BlockMeets path position (step :: rest) s m
  | ended {path : List Nat} {position : Nat} {step : Step} {rest : List Step}
      {s t : Session Names} {fault : Option Fault}
      (run : recorded (path ++ [position]) step (step.answer (path ++ [position])) s =
        .ok fault t) : BlockMeets path position (step :: rest) s (.rest t)
  | next {path : List Nat} {position : Nat} {step : Step} {rest : List Step}
      {s t : Session Names} {m : Moment}
      (run : recorded (path ++ [position]) step (step.answer (path ++ [position])) s =
        .ok none t)
      (meets : BlockMeets path (position + 1) rest t m) :
      BlockMeets path position (step :: rest) s m

end

/-- Steps at the top, which go on after a failure. -/
inductive TopMeets : Nat → List Step → Session Names → Moment → Prop
  | start {position : Nat} {steps : List Step} {s : Session Names} :
      TopMeets position steps s (.rest s)
  | step {position : Nat} {step : Step} {rest : List Step} {s : Session Names} {m : Moment}
      (meets : step.Meets [position] s m) : TopMeets position (step :: rest) s m
  | next {position : Nat} {step : Step} {rest : List Step} {s t : Session Names} {m : Moment}
      {fault : Option Fault}
      (run : recorded [position] step (step.answer [position]) s = .ok fault t)
      (meets : TopMeets (position + 1) rest t m) : TopMeets position (step :: rest) s m

end Script

end ScopedHtml
