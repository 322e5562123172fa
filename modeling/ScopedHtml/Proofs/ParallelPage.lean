import ScopedHtml.Page
import ScopedHtml.Proofs.ParallelMembers

/-!
# ScopedHtml.Proofs.ParallelPage

**Whole documents in parallel.** A document is built by a function given as an argument
(`Bridge.parallel_htmlOf`), or it is the sample page (`Bridge.parallel_samplePage`), whose scopes
are all of the library's classes: what a swap does to other classes is not seen there
(`Bridge.Plainly`).
-/

namespace ScopedHtml

open BuildM

variable {ρ : Type}

namespace Bridge

variable {bridge : Bridge ρ} {s t : Session ρ} {b b' : BuilderRef}

theorem parallel_htmlOf {arguments arguments' : Arguments ρ}
    (gives : bridge.Gives s t arguments arguments') :
    bridge.Parallel s t Same (htmlOf arguments) (htmlOf arguments') :=
  .settle_bind (gives.bindOnly _) fun _ _ givens =>
    (Caller.alike_call.html givens).mono fun _ _ _ _ made => made.1

/-! ### The sample page -/

/-- Builders of one class. They have the same under all names. -/
def Plainly (bridge : Bridge ρ) (s t : Session ρ) (b b' : BuilderRef) : Prop :=
  bridge.Paired s.store t.store b b' ∧ ∀ name, bridge.Shown s t b b' name

theorem Plainly.later {u v : Session ρ} (plainly : bridge.Plainly s t b b') (later : Later s t u v) :
    bridge.Plainly u v b b' :=
  ⟨plainly.1.mono later.left.builders later.right.builders,
    fun name => (plainly.2 name).later later⟩

/-- Functions that run in parallel on builders of one class. -/
def Runs (bridge : Bridge ρ) (init : Init ρ) : Prop :=
  ∀ u v b b', bridge.Plainly u v b b' → bridge.Parallel u v Same (init b) (init b')

/-- A builder of one of the library's classes is made, and a function is run on it. -/
theorem parallel_created {opened : ClassId} {init : Init ρ} (runs : bridge.Runs init)
    (library : opened.index < Standard.classes.classes.length) (options : Options) :
    bridge.Parallel s t (fun _ _ made made' => made' = made ∧ made.Built)
      (do
        let child ← call.create opened options
        call.run (.function init) child
        call.own child "build")
      (do
        let child ← call.create opened options
        call.run (.function init) child
        call.own child "build") := by
  intro beside
  have alike := Caller.alike_call (ρ := ρ)
  refine (alike.create (beside.stores.tables.twins_of_library library) options).bind ?_ beside
  rintro u v child child' first ⟨paired, _, kin⟩ beside
  have plainly : bridge.Plainly u v child child' :=
    ⟨paired, fun name => beside.shown paired (.inl (kin rfl))⟩
  refine (Parallel.bind (R := Same) (runs u v child child' plainly) ?_) beside
  exact fun _ _ _ _ later _ => alike.ownBuild (plainly.later later).1

/-- A scope of one of the library's classes in a builder. -/
theorem parallel_openScope (plainly : bridge.Plainly s t b b') {element : String}
    (other : element ≠ "required") {opened : ClassId} {init : Init ρ} (runs : bridge.Runs init)
    (library : opened.index < Standard.classes.classes.length) (attachment : Attachment)
    (options : Options) :
    bridge.Parallel s t Same
      (b.openScope element (.fixed opened) attachment (some init) options)
      (b'.openScope element (.fixed opened) attachment (some init) options) := by
  have scope := parallel_created (s := s) (t := t) runs library options
  refine Parallel.bind (R := fun _ _ made made' => made' = made ∧ made.Built) ?_ ?_
  · exact .query_bind (S := fun id id' => id = opened ∧ id' = opened) (fun _ => .ok ⟨rfl, rfl⟩) (by
      rintro _ _ _ ⟨rfl, rfl⟩
      exact scope)
  · rintro u v _ made later ⟨rfl, built⟩
    have plainly := plainly.later later
    exact (Caller.alike_call.attach plainly.1 built (fun _ => plainly.2 _)
      fun _ same => absurd same other).map fun _ _ _ _ _ => rfl

/-- A row of two programs that answer nothing. -/
theorem Runs.seq {init rest : Init ρ} (first : bridge.Runs init) (second : bridge.Runs rest) :
    bridge.Runs (fun b => do init b; rest b) :=
  fun u v b b' plainly => (first u v b b' plainly).bind
    fun _ _ _ _ later _ => second _ _ b b' (plainly.later later)

theorem runs_p (content : Value) : bridge.Runs fun div => discard (div.p content) :=
  fun _ _ _ _ plainly => .discard (Caller.alike_call.paragraph plainly.1 (plainly.2 _) content)

theorem runs_title (content : Value) : bridge.Runs fun head => discard (head.title content) :=
  fun _ _ _ _ plainly => .discard (Caller.alike_call.title plainly.1 (plainly.2 _) content)

theorem runs_div {init : Init ρ} (runs : bridge.Runs init) (options : Options) :
    bridge.Runs fun body => discard (body.div (some init) options) :=
  fun _ _ _ _ plainly => .discard (parallel_openScope plainly (by decide) runs (by decide) _ _)

theorem parallel_samplePage : bridge.Parallel s t Same samplePage samplePage := by
  have head : bridge.Runs fun document => discard (document.head
      (some fun head => do discard <| head.title (.text "my web page")) []) :=
    fun _ _ _ _ plainly => .discard
      (parallel_openScope plainly (by decide) (runs_title _) (by decide) _ _)
  have body : bridge.Runs fun document => discard (document.body (some fun body => do
      discard <| body.div (some fun div => do
          discard <| div.p (.text "welcome to my web site"))
        [("id", .text "header"), ("class_", .text "main-header")]
      discard <| body.div (some fun div => do
          discard <| div.p (.text "this is the start of my site")
          discard <| div.p (.text "this was rendered")) []) []) :=
    fun _ _ _ _ plainly => .discard (parallel_openScope plainly (by decide)
      ((runs_div (runs_p _) _).seq (runs_div ((runs_p _).seq (runs_p _)) _)) (by decide) _ _)
  exact (parallel_created (head.seq body) (by decide) []).mono fun _ _ _ _ made => made.1

end Bridge

end ScopedHtml
