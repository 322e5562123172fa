import ScopedHtml.Proofs.ParallelScripts

/-!
# ScopedHtml.Proofs.Apart

**What a step leaves alone.** A script whose classes keep no elements themselves (`Script.Loose`)
only comes to sessions that are settled (`Session.Settled`, `settled_runTop`): the classes are tidy
and the names are bound to different builders.

From such a session, a step that defines no class changes only what it operates on
(`Step.Operates`), and builders of its own: all others are what they were, and so are the names
that it does not bind (`Step.leaves_top`). If another session differs only in what a step that is
apart from it operates on (`Apart`), it runs there as it does here (`Step.ends_top`).
-/

namespace ScopedHtml.Script

open BuildM

/-! ### Settled sessions -/

/-- No class that the steps define keeps elements itself. -/
def Loose (steps : List Step) : Prop :=
  ∀ name body, .defines name body ∈ usesOf steps → body.Loose

/-- A session to which scripts come. -/
structure Settled (session : Session Names) : Prop where
  tidy : session.store.classes.Tidy
  usable : ∀ b : BuilderRef, b.index < session.store.builders.length →
    session.store.classes.Usable (session.store.get b).classId
  names : session.extra.Sound session.store.builders.length

/-- Two runs from the start of one script. -/
def starting : Setting where
  left := Store.initial
  right := Store.initial
  linked := fun _ _ => False
  seen := fun _ _ => False
  inside := by rintro _ _ (absurd | absurd) <;> exact absurd.elim
  unique := fun absurd => absurd.elim
  apart := fun absurd => absurd.elim
  swap := .idle
  classes := fun _ _ => True
  leftNames := {}
  rightNames := {}
  leftPath := []
  rightPath := []
  works := fun _ => True
  passes := fun _ => True
  keeps := fun _ => True
  reads := fun _ => True
  ordered := True

theorem starts_starting : starting.Starts start start where
  left := rfl
  right := rfl
  leftNames := rfl
  rightNames := rfl
  tables := Swap.still_idle.tables ClassTable.tidy_standard
  classes := trivial
  alike := by rintro _ _ (absurd | absurd) <;> exact absurd.elim
  silent := False.elim
  builders := fun _ _ => .none
  passed := fun _ _ => .none
  nodes := fun _ _ => rfl
  sound := ⟨nofun, nofun⟩
  sound' := ⟨nofun, nofun⟩
  ordered := fun _ => ⟨.nil, rfl⟩

section Reached

variable {steps : List Step} {session : Session Names}

/-- What a script comes to is beside itself. -/
theorem beside_runTop (loose : Loose steps) (reached : runTop 0 steps start = .ok () session) :
    starting.bridge.Beside session session := by
  have allowed : ∀ use ∈ usesOf steps, starting.Allows use := by
    intro use among
    cases use with
    | works name => exact trivial
    | passes name => exact .inl trivial
    | keeps name => exact ⟨trivial, trivial⟩
    | reads name => exact trivial
    | looks name => exact Swap.still_idle.shown name
    | assigns name value =>
        exact ⟨fun _ => Swap.still_idle.clean _, fun _ _ _ _ _ => Swap.still_idle.clean _⟩
    | defines name body =>
        exact ⟨fun _ _ => trivial, loose name body among, Swap.still_idle.suits body,
          .inl Swap.still_idle⟩
  have ends := Setting.parallel_runTop rfl rfl steps allowed 0 start start starts_starting.beside
  have same : starting.swap.steps steps = steps := Swap.still_idle.steps steps
  rw [same, reached] at ends
  cases ends with
  | ok beside later related => exact beside

/-- A script comes to settled sessions. -/
theorem settled_runTop (loose : Loose steps) (reached : runTop 0 steps start = .ok () session) :
    Settled session := by
  have beside := beside_runTop loose reached
  refine ⟨beside.stores.tables.tidy, fun b inside => ?_, beside.extras.sound⟩
  have paired : starting.Paired session.store session.store b b :=
    .fresh b.index (Nat.zero_add _).symm (Nat.zero_add _).symm inside inside
  exact (beside.stores.alike (.paired paired)).twins.usable

end Reached

/-! ### What a step operates on -/

namespace Step

variable (session : Session Names) (step : Step) (name : String)

/-- A step mentions the name of a builder. -/
def Mentions : Prop := .works name ∈ step.uses ∨ .passes name ∈ step.uses

/-- A step operates on the builder of a name: it works on it or binds it, or it passes it on and it
can be called. -/
def Operates : Prop :=
  .works name ∈ step.uses ∨ .passes name ∈ step.uses ∧
    ∃ b, session.extra.builders.find? name = some b ∧ session.store.canBeCalled b = true

/-- A step binds an element to a name. -/
def Keeps : Prop := .keeps name ∈ step.uses

/-- A step mentions the name of an element. -/
def Reads : Prop := .keeps name ∈ step.uses ∨ .reads name ∈ step.uses

/-- A step that defines no class, however deep. -/
def DefinesNothing (step : Step) : Prop := ∀ name body, .defines name body ∉ step.uses

/-- A step at the top. -/
def top (step : Step) (position : Nat) : ScriptM (Option Fault) :=
  recorded [position] step (step.answer [position])

variable {session step name}

theorem Operates.mentions (operates : step.Operates session name) : step.Mentions name :=
  operates.imp_right And.left

end Step

/-- Neither step mentions what the other operates on or binds. -/
structure Apart (session : Session Names) (first second : Step) : Prop where
  builders : ∀ name, first.Operates session name → ¬ second.Mentions name
  builders' : ∀ name, second.Operates session name → ¬ first.Mentions name
  nodes : ∀ name, first.Keeps name → ¬ second.Reads name
  nodes' : ∀ name, second.Keeps name → ¬ first.Reads name

theorem Apart.symm {session : Session Names} {first second : Step}
    (apart : Apart session first second) : Apart session second first :=
  ⟨apart.builders', apart.builders, apart.nodes', apart.nodes⟩

/-- One session is what another is, apart from what is operated on under some names and from
further builders. -/
structure Spares (works keeps : String → Prop) (before after : Session Names) : Prop where
  classes : after.store.classes = before.store.classes
  length : before.store.builders.length ≤ after.store.builders.length
  names : before.extra.Spares works keeps after.extra
  builders : ∀ b : BuilderRef, b.index < before.store.builders.length →
    (∀ name, works name → before.extra.builders.find? name ≠ some b) →
      after.store.get b = before.store.get b

theorem Spares.refl {works keeps : String → Prop} (session : Session Names) :
    Spares works keeps session session :=
  ⟨rfl, Nat.le_refl _, .refl _, fun _ _ _ => rfl⟩

/-- The builder of a name that is spared is what it was, and still has the name. -/
theorem Spares.builder {works keeps : String → Prop} {before after : Session Names}
    (spares : Spares works keeps before after) (settled : Settled before) {name : String}
    (spared : ¬ works name) {b : BuilderRef} (bound : before.extra.builders.find? name = some b) :
    after.extra.builders.find? name = some b ∧ after.store.get b = before.store.get b := by
  refine ⟨(spares.names.builders name spared).trans bound, ?_⟩
  refine spares.builders b (settled.names.inside name b bound) fun other worked bound' => ?_
  rw [settled.names.single name other b bound bound'] at worked
  exact spared worked

/-! ### A step in two sessions -/

/-- One step in two sessions of which the second has all the builders of the first. -/
def Step.setting (step : Step) {before after : Session Names} (settled : Settled before)
    (length : before.store.builders.length ≤ after.store.builders.length) (position other : Nat) :
    Setting where
  left := before.store
  right := after.store
  linked := fun b b' => b' = b ∧ ∃ name, step.Operates before name ∧
    before.extra.builders.find? name = some b
  seen := fun b b' => b' = b ∧ ∃ name, .passes name ∈ step.uses ∧ ¬ step.Operates before name ∧
    before.extra.builders.find? name = some b
  inside := by
    rintro b _ (⟨rfl, name, _, bound⟩ | ⟨rfl, name, _, _, bound⟩)
    all_goals
      have inside := settled.names.inside name _ bound
      exact ⟨inside, Nat.lt_of_lt_of_le inside length⟩
  unique := by
    rintro b _ c _ ⟨rfl, _⟩ ⟨rfl, _⟩
    exact .rfl
  apart := by
    rintro _ b _ c ⟨rfl, name, operates, bound⟩ ⟨rfl, other, _, passed, bound'⟩
    have different : c ≠ b := by
      rintro rfl
      rw [settled.names.single name other _ bound bound'] at passed
      exact passed operates
    exact ⟨different, different⟩
  swap := .idle
  classes := fun left right => left = before.store.classes ∧ right = before.store.classes
  leftNames := before.extra
  rightNames := after.extra
  leftPath := [position]
  rightPath := [other]
  works := step.Operates before
  passes := fun name => .passes name ∈ step.uses ∧ ¬ step.Operates before name
  keeps := step.Keeps
  reads := step.Reads
  ordered := False

variable {before after : Session Names} {step second : Step} {works keeps : String → Prop}
  {position other : Nat}

theorem Step.allows (settled : Settled before)
    (length : before.store.builders.length ≤ after.store.builders.length)
    (nothing : step.DefinesNothing) (position other : Nat) :
    ∀ use ∈ step.uses, (step.setting settled length position other).Allows use := by
  intro use among
  cases use with
  | works name => exact .inl among
  | passes name =>
      by_cases operates : step.Operates before name
      · exact .inl operates
      · exact .inr ⟨among, operates⟩
  | keeps name => exact ⟨among, .inl among⟩
  | reads name => exact .inr among
  | looks name => exact Swap.still_idle.shown name
  | assigns name value =>
      exact ⟨fun _ => Swap.still_idle.clean _, fun _ _ _ _ _ => Swap.still_idle.clean _⟩
  | defines name body => exact absurd among (nothing name body)

/-- A step can start in a session in which only names are operated on that it does not mention. -/
theorem Step.starts (settled : Settled before) (settled' : Settled after)
    (spares : Spares works keeps before after)
    (builders : ∀ name, step.Mentions name → ¬ works name)
    (nodes : ∀ name, step.Reads name → ¬ keeps name) (position other : Nat) :
    (step.setting settled spares.length position other).Starts before after := by
  have same : ∀ {b : BuilderRef} {name : String}, step.Mentions name →
      before.extra.builders.find? name = some b →
        Swap.idle.Builders before.store.classes after.store.classes (before.store.get b)
          (after.store.get b) := by
    intro b name mentions bound
    rw [spares.classes, (spares.builder settled (builders name mentions) bound).2]
    have usable := settled.usable b (settled.names.inside name b bound)
    exact ⟨⟨.inl rfl, usable, usable⟩, rfl, rfl, fun _ _ => Swap.still_idle.clean _⟩
  have bound : ∀ {R : BuilderRef → BuilderRef → Prop} {name : String}, step.Mentions name →
      (∀ b, before.extra.builders.find? name = some b → R b b) →
        Option.Rel R (before.extra.builders.find? name) (after.extra.builders.find? name) := by
    intro R name mentions related
    rw [spares.names.builders name (builders name mentions)]
    cases bound : before.extra.builders.find? name with
    | none => exact .none
    | some b => exact .some (related b bound)
  exact {
    left := rfl
    right := rfl
    leftNames := rfl
    rightNames := rfl
    tables := by
      rw [spares.classes]
      exact Swap.still_idle.tables settled.tidy
    classes := ⟨rfl, spares.classes⟩
    alike := by
      rintro b _ (⟨rfl, name, operates, bound⟩ | ⟨rfl, name, passed, _, bound⟩)
      · exact same operates.mentions bound
      · exact same (.inr passed) bound
    silent := by
      rintro _ b ⟨rfl, name, passed, spared, bound⟩
      have callable : before.store.canBeCalled b ≠ true :=
        fun callable => spared (.inr ⟨passed, b, bound, callable⟩)
      exact Option.not_isSome_iff_eq_none.1 callable
    builders := fun name operates => bound operates.mentions fun b bound =>
      ⟨rfl, name, operates, bound⟩
    passed := fun name passed => bound (.inr passed.1) fun b bound =>
      ⟨rfl, name, passed.1, passed.2, bound⟩
    nodes := fun name reads => spares.names.nodes name (nodes name reads)
    sound := settled.names
    sound' := settled'.names
    ordered := False.elim }

/-- A step runs in two sessions alike that differ in nothing that it mentions. -/
theorem Step.ends_top (settled : Settled before) (settled' : Settled after)
    (spares : Spares works keeps before after)
    (builders : ∀ name, step.Mentions name → ¬ works name)
    (nodes : ∀ name, step.Reads name → ¬ keeps name) (nothing : step.DefinesNothing)
    (position other : Nat) :
    (step.setting settled spares.length position other).bridge.Ends before after
      (fun _ _ => Option.Rel Swap.idle.Faults) (step.top position before)
      (step.top other after) := by
  have allowed := step.allows settled spares.length nothing position other
  have ends := Setting.parallel_recorded allowed
    (Setting.parallel_answer step allowed [] before after) []
    (step.starts settled settled' spares builders nodes position other).beside
  have same : Swap.idle.step step = step := Swap.still_idle.step step
  have swap : (step.setting settled spares.length position other).swap = .idle := rfl
  rw [swap, same] at ends
  exact ends

/-- What a step leaves of what was there. -/
structure Step.Leaves (step : Step) (before after : Session Names) : Prop where
  spares : Spares (step.Operates before) step.Keeps before after
  settled : Settled after

/-- A step that defines nothing spares what it does not operate on, whether it ends well or
fails. -/
theorem Step.leaves_top (settled : Settled before) (nothing : step.DefinesNothing)
    (position : Nat) : step.Leaves before (left (step.top position) before) := by
  have same : Spares (fun _ => False) (fun _ => False) before before := .refl before
  have ends := step.ends_top settled settled same (fun _ _ => id) (fun _ _ => id) nothing position
    position
  obtain ⟨beside, later⟩ := ends.beside
  generalize left (step.top position) before = after at beside later ⊢
  refine ⟨⟨beside.classes.1, later.left.builders, beside.extras.spares, ?_⟩,
    beside.stores.tables.tidy, ?_, beside.extras.sound⟩
  · intro b inside spared
    refine beside.stores.others b inside ?_
    rintro _ ⟨rfl, name, operates, bound⟩
    exact spared name operates bound
  · intro b inside
    by_cases old : b.index < before.store.builders.length
    · rw [later.left.grown.classId b old]
      exact later.left.classes.usable (settled.usable b old)
    · have count : b.index = before.store.builders.length +
          (b.index - before.store.builders.length) := by omega
      have paired : (step.setting settled (Nat.le_refl _) position position).Paired after.store
          after.store b b := .fresh _ count count inside inside
      exact (beside.stores.alike (.paired paired)).twins.usable

end ScopedHtml.Script
