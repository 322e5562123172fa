import ScopedHtml.Proofs.Trail

/-!
# ScopedHtml.Proofs.Told

**What a script does to classes and to the builders that it holds, in order.** What is told of a run
is a list of `Occurrence`s: the moments between two steps, classes that are defined, builders that
are finalized, and calls of the script that have answered, each with the builder that was called. It
is told of scopes inside scopes and of builders that are run by being called. It is not told of
builders that no script comes to hold: those of the sample page, and those of scopes that a class
opens to answer a question. They are finalized once, by their scope.

* `Opening.told`, `Caller.told`, `documentTold`, `definitionTold` — of a scope, a call, a document
  and a definition;
* `Script.Step.told`, `Script.blockTold`, `Script.topTold` — of a script.
-/

namespace ScopedHtml

open BuildM

variable {ρ α : Type}

/-! ### Occurrences -/

/-- Something that is told of a run. -/
inductive Occurrence (ρ : Type)
  /-- A moment between two steps: one has ended or the next one is about to begin. -/
  | rest (s : Session ρ)
  /-- A builder was finalized into an element. -/
  | built (b : BuilderRef) (made : Value) (s t : Session ρ)
  /-- A call of what a builder has under a name has answered. -/
  | called (b : BuilderRef) (member : String) (answer : Value) (s : Session ρ)
  /-- A class was defined by a body. -/
  | defined (name : String) (body : ClassBody) (id : ClassId) (s t : Session ρ)

/-- The members by which children are gathered. -/
def gatherers : List String := ["div", "p", "append"]

namespace Occurrence

/-- The session in which it begins. -/
def before : Occurrence ρ → Session ρ
  | rest s => s
  | built _ _ s _ => s
  | called _ _ _ s => s
  | defined _ _ _ s _ => s

/-- The session that it leaves. -/
def after : Occurrence ρ → Session ρ
  | rest s => s
  | built _ _ _ t => t
  | called _ _ _ s => s
  | defined _ _ _ _ t => t

/-- Whether a builder was started over by it. -/
def Restarts (b : BuilderRef) : Occurrence ρ → Prop
  | called c member _ _ => c = b ∧ member = Hook.start.name
  | _ => False

instance (b : BuilderRef) : DecidablePred fun o : Occurrence ρ => o.Restarts b
  | rest _ => .isFalse id
  | built _ _ _ _ => .isFalse id
  | called c member _ _ => inferInstanceAs (Decidable (c = b ∧ member = Hook.start.name))
  | defined _ _ _ _ _ => .isFalse id

/-- What a builder has gathered by it, if it was a call that gathers. -/
def gathered? (b : BuilderRef) : Occurrence ρ → Option Value
  | called c member answer _ => if c = b ∧ member ∈ gatherers then some answer else none
  | _ => none

end Occurrence

/-- What is told when a program has ended well. -/
def uponDone (m : BuildM ρ α) (s : Session ρ) (next : α → Session ρ → List (Occurrence ρ)) :
    List (Occurrence ρ) :=
  match m s with
  | .ok a t => next a t
  | .error _ _ => []

theorem uponDone_of_ok {m : BuildM ρ α} {s t : Session ρ} {a : α} (run : m s = .ok a t)
    (next : α → Session ρ → List (Occurrence ρ)) : uponDone m s next = next a t := by
  rw [uponDone, run]

theorem uponDone_of_error {m : BuildM ρ α} {s t : Session ρ} {fault : Fault}
    (run : m s = .error fault t) (next : α → Session ρ → List (Occurrence ρ)) :
    uponDone m s next = [] := by
  rw [uponDone, run]

@[simp] theorem uponDone_nil (m : BuildM ρ α) (s : Session ρ) :
    uponDone m s (fun _ _ => []) = [] := by
  unfold uponDone
  cases m s <;> rfl

/-! ### Calls -/

/-- What is told of what runs on the builder of a scope. -/
abbrev Telling (ρ : Type) := BuilderRef → Session ρ → List (Occurrence ρ)

/-- What is told of a scope up to where its element is attached, if `tells` is told of what the
caller's function does. -/
def Opening.told (call : Caller ρ) (tells : Telling ρ) (opening : Opening ρ) (s : Session ρ) :
    List (Occurrence ρ) :=
  uponDone (query fun store => store.target opening.element opening.target) s fun id s =>
    uponDone (call.create id opening.options) s fun child t =>
      tells child t ++ uponDone (opening.prepare call child) t fun _ u =>
        uponDone (call.own child "build") u fun made v => [.built child made u v]

/-- What is told of an argument that runs on a builder. A builder that is run is called with the
other one; `calls` is told of that. -/
def Given.told (tells : Telling ρ) (calls : BuilderRef → Found → Arguments ρ → Session ρ →
    List (Occurrence ρ)) (child : BuilderRef) (s : Session ρ) : Given ρ → List (Occurrence ρ)
  | .value _ => []
  | .function _ => tells child s
  | .builder callee =>
      match s.store.hook? callee .call with
      | none => []
      | some origin =>
          calls callee (s.store.found Hook.call.name origin) { first := some (.builder child) } s

/-- What is told of a call before it answers, if `tells` is told of the function that it is
given. -/
def Caller.told (tells : Telling ρ) :
    Nat → BuilderRef → Found → Arguments ρ → Session ρ → List (Occurrence ρ)
  | depth + 1, b, .callable _ name (.opener target attachment), arguments, s =>
      (Opening.ofCall s.store b name target attachment arguments).told (upTo depth)
        (fun child t => match arguments.init? with
          | some given => given.told tells (Caller.told tells depth) child t
          | none => []) s
  | depth + 1, b, .callable owner name (.method .build), arguments, s =>
      uponDone (upTo (depth + 1) b (.callable owner name (.method .build)) arguments) s
        fun made t => [.built b made s t]
  | _, _, _, _, _ => []

/-- What is told of building a document by running an argument on its builder. -/
def documentTold (tells : Telling ρ) (init : Given ρ) (s : Session ρ) : List (Occurrence ρ) :=
  uponDone (call.create Standard.documentBuilder []) s fun document t =>
    init.told tells (Caller.told tells Caller.depthLimit) document t ++
      uponDone (call.run init document) t fun _ u =>
        uponDone (call.own document "build") u fun made v => [.built document made u v]

/-- The same with the argument of a call. -/
def htmlTold (tells : Telling ρ) (arguments : Arguments ρ) (s : Session ρ) : List (Occurrence ρ) :=
  uponDone (settle (arguments.bindOnly { callee := "html", parameters := [⟨"init", true⟩] })) s
    fun init s => documentTold tells init s

/-- What is told of defining a class. -/
def definitionTold (name : String) (bases : List String) (body : ClassBody) (s : Session ρ) :
    List (Occurrence ρ) :=
  uponDone (define name bases body) s fun id t => [.defined name body id s t]

/-! ### Scripts -/

namespace Script

mutual

/-- What is told of a step. -/
def Step.told (path : List Nat) : Step → Session Names → List (Occurrence Names)
  | .named _ step, s => step.told path s
  | .about _ step, s => step.told path s
  | .call on member argument options, s =>
      uponDone (builderNamed on) s fun b s =>
        uponDone argument.check s fun _ s =>
          uponDone (b.read member) s fun found s =>
            uponDone (argument.given path) s fun first s =>
              Caller.told (argument.told path) Caller.depthLimit b found { first, options } s ++
                uponDone (call b found { first, options }) s fun answer t =>
                  [.called b member answer t]
  | .html argument, s =>
      uponDone (argument.given path) s fun first s => htmlTold (argument.told path) { first } s
  | .attempt steps, s => blockTold path 0 steps s
  | .define name bases body, s => definitionTold name bases body s
  | .defineMixin name body, s => definitionTold name [] body s
  | _, _ => []

/-- What is told of the block that an argument is when it runs on a builder. -/
def Argument.told (path : List Nat) : Argument → Telling Names
  | .block inner steps, child, s =>
      uponDone (bindBuilder inner child) s fun _ s => blockTold path 0 steps s
  | _, _, _ => []

/-- What is told of the steps of a block, up to the first failure. -/
def blockTold (path : List Nat) (position : Nat) : List Step → Session Names →
    List (Occurrence Names)
  | [], s => [.rest s]
  | step :: rest, s =>
      .rest s :: (step.told (path ++ [position]) s ++
        uponDone (recorded (path ++ [position]) step (step.answer (path ++ [position]))) s
          fun fault t => match fault with
            | none => blockTold path (position + 1) rest t
            | some _ => [.rest t])

end

/-- What is told of a script, whether its steps fail or not. -/
def topTold (position : Nat) : List Step → Session Names → List (Occurrence Names)
  | [], s => [.rest s]
  | step :: rest, s =>
      .rest s :: (step.told [position] s ++
        uponDone (discard <| recorded [position] step (step.answer [position])) s fun _ t =>
          topTold (position + 1) rest t)

end Script

end ScopedHtml
