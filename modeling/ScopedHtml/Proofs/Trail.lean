import ScopedHtml.Proofs.Calls
import ScopedHtml.Script.Run

/-!
# ScopedHtml.Proofs.Trail

**What happens while a script runs, in order.** The trail of a run is the list of its
`Happening`s: the moments between two steps, builders that are finalized, elements that are
attached or appended, and what calls have answered. It goes on where the run goes on, so it
ends at a failure that nothing catches.

* `Opening.trail` — while a scope is opened: what happens while the caller's function
  runs, that the new builder is finalized, and that its element is attached;
* `Caller.trail` — while a call is carried out, with the calls that are nested in it;
* `htmlTrail` — while a document is built;
* `Script.Step.trail`, `Script.blockTrail`, `Script.topTrail` — while a script runs.

The functions follow those that carry the programs out and take the states from them.
-/

namespace ScopedHtml

open BuildM

variable {ρ α : Type}

/-- A list, parted at one of its entries. -/
theorem take_append_getD_drop {entries : List α} {position : Nat}
    (inside : position < entries.length) (otherwise : α) :
    entries = entries.take position ++
      entries.getD position otherwise :: entries.drop (position + 1) := by
  rw [List.getD_eq_getElem?_getD, List.getElem?_eq_getElem inside, Option.getD_some,
    ← List.drop_eq_getElem_cons, List.take_append_drop]

/-! ### Happenings -/

/-- Something that happens while a program runs. -/
inductive Happening (ρ : Type)
  /-- A moment between two steps: one has ended or the next one is about to begin. -/
  | rest (s : Session ρ)
  /-- A builder was finalized into an element. -/
  | built (b : BuilderRef) (made : Value) (s t : Session ρ)
  /-- The element of a scope was attached to what the opener was called on. -/
  | attached (parent : Parent) (element : String) (made : Value) (s t : Session ρ)
  /-- An element was given to a builder and added to its children. -/
  | appended (b : BuilderRef) (node : Node) (s t : Session ρ)
  /-- A call of something of this name has answered. -/
  | answered (member : String) (answer : Value) (s : Session ρ)

namespace Happening

/-- The session in which it begins. -/
def before : Happening ρ → Session ρ
  | rest s => s
  | built _ _ s _ => s
  | attached _ _ _ s _ => s
  | appended _ _ s _ => s
  | answered _ _ s => s

/-- The session that it leaves. -/
def after : Happening ρ → Session ρ
  | rest s => s
  | built _ _ _ t => t
  | attached _ _ _ _ t => t
  | appended _ _ _ t => t
  | answered _ _ s => s

/-- Whether a builder is finalized by it. -/
def Builds (b : BuilderRef) : Happening ρ → Prop
  | built c _ _ _ => c = b
  | _ => False

/-- Whether an opener of this name has attached its element to a builder by it. -/
def Attaches (b : BuilderRef) (element : String) : Happening ρ → Prop
  | attached (.builder c) other _ _ _ => c = b ∧ other = element
  | _ => False

end Happening

/-- What happens when a program has ended well. -/
def whenDone (m : BuildM ρ α) (s : Session ρ) (next : α → Session ρ → List (Happening ρ)) :
    List (Happening ρ) :=
  match m s with
  | .ok a t => next a t
  | .error _ _ => []

theorem whenDone_of_ok {m : BuildM ρ α} {s t : Session ρ} {a : α} (run : m s = .ok a t)
    (next : α → Session ρ → List (Happening ρ)) : whenDone m s next = next a t := by
  rw [whenDone, run]

theorem whenDone_of_error {m : BuildM ρ α} {s t : Session ρ} {fault : Fault}
    (run : m s = .error fault t) (next : α → Session ρ → List (Happening ρ)) :
    whenDone m s next = [] := by
  rw [whenDone, run]

@[simp] theorem whenDone_nil (m : BuildM ρ α) (s : Session ρ) :
    whenDone m s (fun _ _ => []) = [] := by
  unfold whenDone
  cases m s <;> rfl

/-! ### Calls -/

/-- What happens while something runs on the builder of a scope. -/
abbrev Runs (ρ : Type) := BuilderRef → Session ρ → List (Happening ρ)

/-- What happens while a builder is asked to finalize itself. -/
def Caller.builtBy (call : Caller ρ) (b : BuilderRef) (s : Session ρ) : List (Happening ρ) :=
  whenDone (call.own b "build") s fun made t => [.built b made s t]

/-- What happens while a scope is opened, if `runs` tells what does while the caller's
function runs. -/
def Opening.trail (call : Caller ρ) (runs : Runs ρ) (opening : Opening ρ) (s : Session ρ) :
    List (Happening ρ) :=
  whenDone (query fun store => store.target opening.element opening.target) s fun id s =>
    whenDone (call.create id opening.options) s fun child t =>
      runs child t ++ whenDone (opening.prepare call child) t fun _ u =>
        whenDone (call.own child "build") u fun made v =>
          .built child made u v :: whenDone (opening.attach call made) v fun _ w =>
            [.attached opening.parent opening.element made v w]

/-- What happens while an argument runs on a builder. A builder that is run is called with
the other one; `calls` tells what happens then. -/
def Given.trail (runs : Runs ρ) (calls : BuilderRef → Found → Arguments ρ → Session ρ →
    List (Happening ρ)) (child : BuilderRef) (s : Session ρ) : Given ρ → List (Happening ρ)
  | .value _ => []
  | .function _ => runs child s
  | .builder callee =>
      match s.store.hook? callee .call with
      | none => []
      | some origin =>
          calls callee (s.store.found Hook.call.name origin) { first := some (.builder child) } s

/-- What happens while a call is carried out, if `runs` tells what does while the function
runs that it is given. Only openers run anything, and only builders that are called call
others in turn. -/
def Caller.trail (runs : Runs ρ) :
    Nat → BuilderRef → Found → Arguments ρ → Session ρ → List (Happening ρ)
  | depth + 1, b, .callable _ name (.opener target attachment), arguments, s =>
      (Opening.ofCall s.store b name target attachment arguments).trail (upTo depth)
        (fun child t => match arguments.init? with
          | some given => given.trail runs (Caller.trail runs depth) child t
          | none => []) s
  | depth + 1, b, .callable owner name (.method .build), arguments, s =>
      whenDone (upTo (depth + 1) b (.callable owner name (.method .build)) arguments) s
        fun made t => [.built b made s t]
  | depth + 1, b, .callable owner name (.method .append), arguments, s =>
      whenDone (upTo (depth + 1) b (.callable owner name (.method .append)) arguments) s
        fun answer t => match answer with
          | .node node => [.appended b node s t]
          | _ => []
  | _, _, _, _, _ => []

/-- What happens while a document is built by running an argument on its builder. -/
def documentTrail (runs : Runs ρ) (init : Given ρ) (s : Session ρ) : List (Happening ρ) :=
  whenDone (call.create Standard.documentBuilder []) s fun document t =>
    init.trail runs (Caller.trail runs Caller.depthLimit) document t ++
      whenDone (call.run init document) t fun _ u => call.builtBy document u

/-- The same with the argument of a call. -/
def htmlTrail (runs : Runs ρ) (arguments : Arguments ρ) (s : Session ρ) : List (Happening ρ) :=
  whenDone (settle (arguments.bindOnly { callee := "html", parameters := [⟨"init", true⟩] })) s
    fun init s => documentTrail runs init s

/-! ### The sample page -/

namespace Sample

/-- Sets the title. -/
def head : Init ρ := fun head => do
  discard <| head.title (.text "my web page")

/-- Fills the first division. -/
def header : Init ρ := fun div => do
  discard <| div.p (.text "welcome to my web site")

/-- Fills the second one. -/
def content : Init ρ := fun div => do
  discard <| div.p (.text "this is the start of my site")
  discard <| div.p (.text "this was rendered")

/-- The openings in the order of the page: those of the divisions are in that of the body. -/
def headerOpening (body : BuilderRef) : Opening ρ :=
  Opener.div.opening body (some (.function header))
    [("id", .text "header"), ("class_", .text "main-header")]

def contentOpening (body : BuilderRef) : Opening ρ :=
  Opener.div.opening body (some (.function content)) []

/-- Opens the divisions. -/
def body : Init ρ := fun body => do
  discard <| (headerOpening body).run call
  discard <| (contentOpening body).run call

def headOpening (document : BuilderRef) : Opening ρ :=
  Opener.head.opening document (some (.function head)) []

def bodyOpening (document : BuilderRef) : Opening ρ :=
  Opener.body.opening document (some (.function body)) []

/-- Opens the head and the body. -/
def document : Init ρ := fun document => do
  discard <| (headOpening document).run call
  discard <| (bodyOpening document).run call

/-- What happens while one scope is opened after another. -/
def bothTrail (first second : Opening ρ) (runs : Runs ρ) (s : Session ρ) : List (Happening ρ) :=
  first.trail call (fun _ _ => []) s ++
    whenDone (discard <| first.run call) s fun _ t => second.trail call runs t

/-- What happens while the body of the page is filled. -/
def bodyTrail : Runs ρ := fun body =>
  bothTrail (headerOpening body) (contentOpening body) fun _ _ => []

/-- What happens while the document of the page is filled. -/
def trail : Runs ρ := fun document =>
  bothTrail (headOpening document) (bodyOpening document) bodyTrail

end Sample

/-! ### Scripts -/

namespace Script

mutual

/-- What happens while a step is carried out. -/
def Step.trail (path : List Nat) : Step → Session Names → List (Happening Names)
  | .named _ step, s => step.trail path s
  | .about _ step, s => step.trail path s
  | .call on member argument options, s =>
      whenDone (builderNamed on) s fun b s =>
        whenDone argument.check s fun _ s =>
          whenDone (b.read member) s fun found s =>
            whenDone (argument.given path) s fun first s =>
              Caller.trail (argument.trail path) Caller.depthLimit b found { first, options } s ++
                whenDone (call b found { first, options }) s fun answer t =>
                  [.answered member answer t]
  | .html argument, s =>
      whenDone (argument.given path) s fun first s =>
        htmlTrail (argument.trail path) { first } s ++
          whenDone (htmlOf { first }) s fun answer t => [.answered "html" answer t]
  | .sample, s =>
      documentTrail Sample.trail (.function Sample.document) s ++
        whenDone samplePage s fun answer t => [.answered "html" answer t]
  | .attempt steps, s => blockTrail path 0 steps s
  | _, _ => []

/-- What happens while the block that an argument is runs on a builder. -/
def Argument.trail (path : List Nat) : Argument → Runs Names
  | .block inner steps, child, s =>
      whenDone (bindBuilder inner child) s fun _ s => blockTrail path 0 steps s
  | _, _, _ => []

/-- What happens while the steps of a block run, up to the first failure. -/
def blockTrail (path : List Nat) (position : Nat) : List Step → Session Names →
    List (Happening Names)
  | [], s => [.rest s]
  | step :: rest, s =>
      .rest s :: (step.trail (path ++ [position]) s ++
        whenDone (recorded (path ++ [position]) step (step.answer (path ++ [position]))) s
          fun fault t => match fault with
            | none => blockTrail path (position + 1) rest t
            | some _ => [.rest t])

end

end Script

end ScopedHtml
