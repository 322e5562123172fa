import ScopedHtml.Proofs.Runs

/-!
# ScopedHtml.Proofs.Fold

**Builder state is the fold of the completed calls.** The statement about all moments of a
whole run is `runTop_builders`. A builder is created at one moment of the run only, so that
it makes sense to speak of the options that it was created with (`runTop_creates`): what is
created while a program runs is new, and is still there when the program ends (`Creates`).
-/

namespace ScopedHtml.Script

open BuildM

variable {s t u v : Session Names} {path : List Nat}

/-! ### Creations -/

/-- What is created from one session to another one: it is new in the first, still there in
the second, and created only once. -/
structure Creates (s t : Session Names) (created : BuilderRef → ClassId → Options → Prop) :
    Prop where
  new : ∀ b id options, created b id options → s.store.builders.length ≤ b.index
  kept : ∀ b id options, created b id options → b.index < t.store.builders.length
  once : ∀ b id options other others, created b id options → created b other others →
    other = id ∧ others = options

namespace Creates

variable {created others both : BuilderRef → ClassId → Options → Prop}

theorem none (nothing : ∀ b id options, ¬created b id options) : Creates s t created where
  new := fun b id options made => absurd made (nothing b id options)
  kept := fun b id options made => absurd made (nothing b id options)
  once := fun b id options _ _ made => absurd made (nothing b id options)

theorem one {child : BuilderRef} (id : ClassId) (options : Options)
    (new : child.index = s.store.builders.length) (kept : child.index < t.store.builders.length) :
    Creates s t fun b other others => b = child ∧ other = id ∧ others = options where
  new := by rintro _ _ _ ⟨rfl, _, _⟩; exact Nat.le_of_eq new.symm
  kept := by rintro _ _ _ ⟨rfl, _, _⟩; exact kept
  once := by rintro _ _ _ _ _ ⟨_, rfl, rfl⟩ ⟨_, rfl, rfl⟩; exact ⟨rfl, rfl⟩

/-- What has happened before and afterwards does not matter. -/
theorem mono (creates : Creates u v created) (before : s.store.Grown u.store)
    (after : v.store.Grown t.store)
    (among : ∀ b id options, others b id options → created b id options) :
    Creates s t others where
  new := fun b id options made =>
    Nat.le_trans before.length (creates.new b id options (among _ _ _ made))
  kept := fun b id options made =>
    Nat.lt_of_lt_of_le (creates.kept b id options (among _ _ _ made)) after.length
  once := fun b id options _ _ made again =>
    creates.once b id options _ _ (among _ _ _ made) (among _ _ _ again)

/-- What is created in one part of a run cannot be created again in a later one. -/
theorem seq (first : Creates s u created) (second : Creates u t others)
    (before : s.store.Grown u.store) (after : u.store.Grown t.store)
    (either : ∀ b id options, both b id options → created b id options ∨ others b id options) :
    Creates s t both where
  new := by
    intro b id options made
    rcases either b id options made with made | made
    · exact first.new b id options made
    · exact Nat.le_trans before.length (second.new b id options made)
  kept := by
    intro b id options made
    rcases either b id options made with made | made
    · exact Nat.lt_of_lt_of_le (first.kept b id options made) after.length
    · exact second.kept b id options made
  once := by
    intro b id options id' options' made again
    -- What is created first is there when the second part begins, and what that creates is not.
    rcases either b id options made with made | made <;>
      rcases either b id' options' again with again | again
    · exact first.once b id options _ _ made again
    · exact absurd (Nat.lt_of_lt_of_le (first.kept b id options made)
        (second.new b id' options' again)) (Nat.lt_irrefl _)
    · exact absurd (Nat.lt_of_lt_of_le (first.kept b id' options' again)
        (second.new b id options made)) (Nat.lt_irrefl _)
    · exact second.once b id options _ _ made again

end Creates

/-- A session that its trace explains, whatever its builders were created with. -/
abbrev Sound (s : Session Names) : Prop := Tracked (fun _ _ _ => True) s.extra.trace s

/-- What the block of an opener leaves is still there at the end of the call. -/
theorem Opens.grown {b child : BuilderRef} {member : String} {options : Options} {id : ClassId}
    {found : Found} {first : Option (Given Names)} (opens : Opens s b member options id child u)
    (sound : Sound s) (inside : b.index < s.store.builders.length)
    (shown : isPrivate member = false) (read : b.read member s = .ok found s)
    (block : InStep (fun _ _ _ => True) u (leftBy first child u)) :
    (leftBy first child u).store.Grown (left (call b found { first, options }) s).store := by
  obtain ⟨_, _, _, shows⟩ := sound.shows b inside
  obtain ⟨opener, owner, has, rfl, rfl, again⟩ := opens.exists_opener shows shown
  cases read.symm.trans again
  obtain ⟨after, _, isA⟩ := inStep_of_create sound opener.product trivial opens.created
  have goes := (opener.call_eq s b owner { first, options }).trans
    ((opening_eq opener sound.library).trans (bind_of_ok opens.created))
  have same := leftBy_init? { first, options } child u
  rw [left_congr goes]
  rw [← same] at block ⊢
  exact (fromInit_explained opener has after.tracked (after.grown.isA shows.isA) isA block).2

/-- Binding the answer of a step to a name creates nothing. -/
theorem store_left_named (path : List Nat) (name : String) (step : Step) (s : Session Names) :
    (left (Step.answer path (.named name step)) s).store = (left (step.answer path) s).store := by
  rw [Step.answer]
  cases run : step.answer path s with
  | error fault t => rw [left_of_error run, left_of_error (bind_of_error run)]
  | ok answer t =>
      rw [left_of_ok run, left_congr (bind_of_ok run)]
      unfold bindAnswer
      split <;> rfl

/-- Catching the failure of a block creates nothing. -/
theorem left_attempt (path : List Nat) (steps : List Step) (s : Session Names) :
    left (Step.answer path (.attempt steps)) s = left (runBlock path 0 steps) s := by
  rw [Step.answer, left, bind_apply, outcome_apply, left]
  cases runBlock path 0 steps s <;> rfl

/-- When the builder is created, what is left is to bind and present it. -/
theorem answer_new {name className : String} {options : Options} {id : ClassId} {b : BuilderRef}
    (named : s.store.classes.named className = .ok id) (created : create id options s = .ok b u) :
    Step.answer path (.new name className options) s =
      (bindBuilder name b >>= fun _ => present b) u := by
  rw [Step.answer, bind_of_ok (query_eq_ok.2 ⟨named, rfl⟩), bind_of_ok created]

/-- When its parts are there, a step that calls a member is the call. -/
theorem left_call {on member : String} {argument : Argument} {options : Options}
    {b : BuilderRef} {found : Found} {first : Option (Given Names)}
    (bound : s.extra.builders.find? on = some b) (given : argument.given path s = .ok first s)
    (read : b.read member s = .ok found s) :
    left (Step.answer path (.call on member argument options)) s =
      left (call b found { first, options }) s := by
  have checked : argument.check s = .ok () s := by
    cases argument with
    | builder name =>
        obtain ⟨other, t, named, _⟩ := bind_eq_ok.1 given
        rw [(quiet_builderNamed name).eq_of_ok named] at named
        show (discard (builderNamed name) : ScriptM Unit) s = _
        rw [discard_apply, named]
    | _ => rfl
  rw [Step.answer]
  refine (left_congr ((bind_of_ok (builderNamed_of_bound bound)).trans ((bind_of_ok checked).trans
    ((bind_of_ok read).trans (bind_of_ok given))))).trans ?_
  exact left_map _ _ s

/-- When its argument is there and the builder is created, a step that builds a document
goes on with it. -/
theorem left_html {argument : Argument} {given : Given Names} {doc : BuilderRef}
    (argued : argument.given path s = .ok (some given) s)
    (created : create Standard.documentBuilder [] s = .ok doc u) :
    left (Step.answer path (.html argument)) s =
      left (call.run given doc >>= fun _ => call.own doc "build") u := by
  have goes := (htmlOf_eq (s := s) given).trans (bind_of_ok created)
  rw [Step.answer]
  refine (left_congr (bind_of_ok argued)).trans ?_
  rw [← left_congr goes]
  exact left_map _ _ s

/-- A step that creates a builder creates that one. -/
theorem creates_new (sound : Sound s) (name className : String) (options : Options) :
    Creates s (left (Step.answer path (.new name className options)) s)
      fun b id given => (Step.new name className options).Meets path s (.made b id given) := by
  by_cases some : ∃ id b u, s.store.classes.named className = .ok id ∧
      create id options s = .ok b u
  · obtain ⟨id, b, u, named, created⟩ := some
    rcases named_cases sound.classes named with ⟨product, rfl⟩ | abstract
    · obtain ⟨after, new, isA⟩ := inStep_of_create sound product trivial created
      have ends := (present_explained after.tracked isA.inside name
        fun _ _ (told : False) => told.elim).grown_left
      rw [left_congr (answer_new named created)]
      refine (Creates.one product.builderId options new isA.inside).mono (.refl s.store) ends ?_
      intro other id' options' meets
      cases meets with
      | new named' created' =>
          cases named.symm.trans named'
          cases created.symm.trans created'
          exact ⟨rfl, rfl, rfl⟩
    · obtain ⟨fault, refused⟩ := create_abstract sound.classes abstract options
      cases refused.symm.trans created
  · refine .none fun b id _ meets => some ?_
    cases meets with
    | new named created => exact ⟨_, _, _, named, created⟩

section Given

variable {argument : Argument} (library : argument.Library)
  (block : ∀ (child : BuilderRef) (u : Session Names) (first : Option (Given Names)),
    argument.given path s = .ok first s → child.index < u.store.builders.length → Sound u →
      Creates u (leftBy first child u)
        fun b id options => argument.Meets path child u (.made b id options))

include library block

/-- A step that opens a scope creates the builder of the scope, and after that its block creates
builders. -/
theorem creates_call (sound : Sound s) {on member : String} (shown : isPrivate member = false)
    (options : Options) :
    Creates s (left (Step.answer path (.call on member argument options)) s)
      fun b id given => (Step.call on member argument options).Meets path s (.made b id given) := by
  by_cases some : ∃ b child id u first, s.extra.builders.find? on = some b ∧
      argument.given path s = .ok first s ∧ Opens s b member options id child u
  · obtain ⟨b, child, id, u, first, bound, given, opens⟩ := some
    have inside := sound.bound on b bound
    obtain ⟨_, _, _, read, _⟩ := opens.found
    obtain ⟨after, new, there⟩ := opens.inStep sound inside shown trivial
    have ran := Argument.inStep argument path s u library given there after.tracked
      fun _ _ _ _ => trivial
    have ends := opens.grown sound inside shown read ran
    rw [left_call bound given read]
    refine .seq (.one id options new there)
      ((block child u first given there after.tracked).mono (.refl u.store) ends
        fun _ _ _ made => made)
      after.grown (ran.grown.trans ends) ?_
    intro other id' options' meets
    cases meets with
    | opened bound' _ opens' =>
        cases bound.symm.trans bound'
        obtain ⟨rfl, rfl, rfl⟩ := opens.unique opens'
        exact .inl ⟨rfl, rfl, rfl⟩
    | inside bound' opens' meets =>
        cases bound.symm.trans bound'
        obtain ⟨rfl, rfl, rfl⟩ := opens.unique opens'
        exact .inr meets
  · refine .none fun b id _ meets => some ?_
    cases meets with
    | opened bound given opens => exact ⟨_, _, _, _, _, bound, given, opens⟩
    | inside bound opens meets =>
        obtain ⟨first, given⟩ := meets.exists_given s
        exact ⟨_, _, _, _, _, bound, given, opens⟩

/-- A step that builds a document creates the builder of the document, and after that its block
creates builders. When the argument cannot be given or no builder is created, nothing runs
inside. -/
theorem creates_html (sound : Sound s) :
    Creates s (left (Step.answer path (.html argument)) s)
      fun b id options => (Step.html argument).Meets path s (.made b id options) := by
  by_cases some : ∃ doc u first, argument.given path s = .ok (some first) s ∧
      create Standard.documentBuilder [] s = .ok doc u
  · obtain ⟨doc, u, first, given, created⟩ := some
    obtain ⟨after, new, isA⟩ := inStep_of_create sound .document trivial created
    have ran := Argument.inStep argument path s u library given isA.inside after.tracked
      fun _ _ _ _ => trivial
    have ends := (document_explained first after.tracked isA ran
      fun _ _ (told : False) => told.elim).2
    rw [left_html given created]
    refine .seq (.one Standard.documentBuilder [] new isA.inside)
      ((block doc u _ given isA.inside after.tracked).mono (.refl u.store) ends
        fun _ _ _ made => made)
      after.grown (ran.grown.trans ends) ?_
    intro other id' options' meets
    cases meets with
    | document _ created' =>
        cases created.symm.trans created'
        exact .inl ⟨rfl, rfl, rfl⟩
    | insideDocument created' meets =>
        cases created.symm.trans created'
        exact .inr meets
  · refine .none fun b id _ meets => some ?_
    cases meets with
    | document given created => exact ⟨_, _, _, given, created⟩
    | insideDocument created meets =>
        obtain ⟨first, given⟩ := meets.exists_given s
        exact ⟨_, _, _, given, created⟩

end Given

mutual

/-- While a step runs, each builder is created once. -/
theorem Step.creates : ∀ (step : Step) (path : List Nat) (s : Session Names), step.Library →
    Sound s → Creates s (left (step.answer path) s)
      fun b id options => step.Meets path s (.made b id options)
  | .named name step, path, s, library, sound => by
      refine (Step.creates step path s library sound).mono (.refl s.store) ?_ ?_
      · rw [store_left_named]
        exact .refl _
      · intro b id options meets
        cases meets with
        | named meets => exact meets
  | .new name className options, path, s, _, sound => creates_new sound name className options
  | .call on member argument options, path, s, library, sound =>
      creates_call library.2 (fun child u first given inside reached =>
        Argument.creates argument path child s u first library.2 given inside reached) sound
        library.1 options
  | .html argument, path, s, library, sound =>
      creates_html library (fun child u first given inside reached =>
        Argument.creates argument path child s u first library given inside reached) sound
  | .attempt steps, path, s, library, sound => by
      refine (runBlock_creates steps path 0 s library sound).mono (.refl s.store) ?_ ?_
      · rw [left_attempt]
        exact .refl _
      · intro b id options meets
        cases meets with
        | attempt meets => exact meets
  | .about _ _, _, _, library, _ => library.elim
  | .sample, _, _, library, _ => library.elim
  | .define _ _ _, _, _, library, _ => library.elim
  | .defineMixin _ _, _, _, library, _ => library.elim
  | .elements _, _, _, _, _ => .none nofun
  | .get _ _, _, _, _, _ => .none nofun
  | .set _ _ _, _, _, _, _ => .none nofun
  | .node _, _, _, _, _ => .none nofun
  | .outline _, _, _, _, _ => .none nofun
  | .compare _ _, _, _, _, _ => .none nofun
  | .distinct _, _, _, _, _ => .none nofun
  | .getField _ _, _, _, _, _ => .none nofun
  | .setField _ _, _, _, _, _ => .none nofun
  | .deleteField _ _, _, _, _, _ => .none nofun
  | .fail _, _, _, _, _ => .none nofun

/-- While a block that is given as an argument runs as well. -/
theorem Argument.creates : ∀ (argument : Argument) (path : List Nat) (child : BuilderRef)
    (s u : Session Names) (first : Option (Given Names)), argument.Library →
    argument.given path s = .ok first s → child.index < u.store.builders.length → Sound u →
    Creates u (leftBy first child u)
      fun b id options => argument.Meets path child u (.made b id options)
  | .block inner steps, path, child, s, u, first, library, given, inside, sound => by
      obtain ⟨v, bound, store, sound⟩ := exists_bindBuilder sound inside inner
      rw [leftBy_block given bound]
      refine (runBlock_creates steps path 0 v library sound).mono (store ▸ .refl u.store)
        (.refl _) ?_
      intro b id options meets
      cases meets with
      | block bound' meets =>
          cases bound.symm.trans bound'
          exact meets
  | .absent, _, _, _, _, _, _, _, _, _ => .none nofun
  | .value _, _, _, _, _, _, _, _, _, _ => .none nofun
  | .builder _, _, _, _, _, _, _, _, _, _ => .none nofun
  | .node _, _, _, _, _, _, _, _, _, _ => .none nofun

/-- While steps in a row run as well. -/
theorem runBlock_creates : ∀ (steps : List Step) (path : List Nat) (position : Nat)
    (s : Session Names), AllLibrary steps → Sound s →
    Creates s (left (runBlock path position steps) s)
      fun b id options => BlockMeets path position steps s (.made b id options)
  | [], path, position, s, _, _ => .none nofun
  | step :: rest, path, position, s, library, sound => by
      have first := Step.creates step (path ++ [position]) s library.1 sound
      obtain ⟨fault, t, run, after, store⟩ := recorded_of_explained sound
        (Step.explained step (path ++ [position]) s library.1 sound fun _ _ _ _ => trivial)
      have grown : (left (step.answer (path ++ [position])) s).store.Grown t.store :=
        store ▸ .refl _
      have first := first.mono (.refl s.store) grown fun _ _ _ made => made
      -- A step that fails is the last one of its block.
      cases fault with
      | some fault =>
          have ended : left (runBlock path position (step :: rest)) s = t := by
            rw [runBlock]
            exact left_of_error (bind_of_ok run)
          rw [ended]
          refine first.mono (.refl s.store) (.refl t.store) ?_
          intro b id options meets
          cases meets with
          | step meets => exact meets
          | next ran _ => cases run.symm.trans ran
      | none =>
          have goes : left (runBlock path position (step :: rest)) s =
              left (runBlock path (position + 1) rest) t := by
            rw [runBlock]
            exact left_congr (bind_of_ok run)
          have others := runBlock_creates rest path (position + 1) t library.2 after.tracked
          have ran := runBlock_inStep rest path (position + 1) t library.2 after.tracked
            fun _ _ _ _ => trivial
          rw [goes]
          refine first.seq others after.grown ran.grown ?_
          intro b id options meets
          cases meets with
          | step meets => exact .inl meets
          | next ran meets =>
              cases run.symm.trans ran
              exact .inr meets

end

/-! ### Whole runs -/

/-- A run goes on when its first step has been recorded. -/
theorem runTop_cons {position : Nat} {step : Step} (rest : List Step) {fault : Option Fault}
    (run : recorded [position] step (step.answer [position]) s = .ok fault t) :
    runTop position (step :: rest) s = runTop (position + 1) rest t := by
  have done : (discard (recorded [position] step (step.answer [position])) : ScriptM Unit) s =
      .ok () t := by
    rw [discard_apply, run]
  rw [runTop, bind_of_ok done]

variable {made : BuilderRef → ClassId → Options → Prop}

/-- A run goes on to its end, whichever steps fail, and its end is one of its moments. -/
theorem exists_runTop : ∀ (steps : List Step) (position : Nat) (s : Session Names),
    AllLibrary steps → Tracked made s.extra.trace s →
    (∀ b id options, TopMeets position steps s (.made b id options) → made b id options) →
    ∃ t, runTop position steps s = .ok () t ∧ InStep made s t ∧
      TopMeets position steps s (.rest t)
  | [], position, s, _, tracked, _ => ⟨s, rfl, .refl tracked, .start⟩
  | step :: rest, position, s, library, tracked, known => by
      obtain ⟨fault, u, run, after, _⟩ := recorded_of_explained tracked
        (Step.explained step [position] s library.1 tracked
          fun b id options meets => known b id options (.step meets))
      obtain ⟨t, ran, ended, meets⟩ := exists_runTop rest (position + 1) u library.2 after.tracked
        fun b id options meets => known b id options (.next run meets)
      refine ⟨t, ?_, .trans after.grown ended, .next run meets⟩
      rw [runTop_cons rest run]
      exact ran

/-- At every moment of a run the builders are as the trace says. -/
theorem tracked_of_topMeets : ∀ (steps : List Step) (position : Nat) (s t : Session Names),
    AllLibrary steps → Tracked made s.extra.trace s →
    (∀ b id options, TopMeets position steps s (.made b id options) → made b id options) →
    TopMeets position steps s (.rest t) → Tracked made t.extra.trace t
  | [], position, s, t, _, tracked, _, meets => by
      cases meets
      exact tracked
  | step :: rest, position, s, t, library, tracked, known, meets => by
      have first : ∀ b id options, step.Meets [position] s (.made b id options) →
          made b id options := fun b id options meets => known b id options (.step meets)
      obtain ⟨fault, u, run, after, _⟩ := recorded_of_explained tracked
        (Step.explained step [position] s library.1 tracked first)
      cases meets with
      | start => exact tracked
      | step meets => exact Step.tracked_of_meets step _ s t library.1 tracked first meets
      | next ran meets =>
          cases run.symm.trans ran
          exact tracked_of_topMeets rest (position + 1) u t library.2 after.tracked
            (fun b id options meets => known b id options (.next ran meets)) meets

/-- While a whole run goes on, each builder is created once. -/
theorem runTop_creates : ∀ (steps : List Step) (position : Nat) (s : Session Names),
    AllLibrary steps → Sound s → Creates s (left (runTop position steps) s)
      fun b id options => TopMeets position steps s (.made b id options)
  | [], position, s, _, _ => .none nofun
  | step :: rest, position, s, library, sound => by
      have first := Step.creates step [position] s library.1 sound
      obtain ⟨fault, t, run, after, store⟩ := recorded_of_explained sound
        (Step.explained step [position] s library.1 sound fun _ _ _ _ => trivial)
      have grown : (left (step.answer [position]) s).store.Grown t.store := store ▸ .refl _
      have others := runTop_creates rest (position + 1) t library.2 after.tracked
      obtain ⟨v, ran, ended, _⟩ := exists_runTop rest (position + 1) t library.2 after.tracked
        fun _ _ _ _ => trivial
      -- A failure does not end the run, so all that is created stays to its end.
      rw [left_of_ok ran] at others
      rw [left_of_ok ((runTop_cons rest run).trans ran)]
      refine (first.mono (.refl s.store) grown fun _ _ _ made => made).seq others after.grown
        ended.grown ?_
      intro b id options meets
      cases meets with
      | step meets => exact .inl meets
      | next ran meets =>
          cases run.symm.trans ran
          exact .inr meets

/-- At the start there are no builders. -/
theorem tracked_start : Tracked made start.extra.trace start where
  classes := rfl
  shows := fun b inside => absurd inside (Nat.not_lt_zero b.index)
  bound := fun name b found => by cases found
  old := fun entry inside => by cases inside

/-- **Builder state is the fold of the completed calls.** A script on the library's builders
runs to its end. At every moment of it, in whichever blocks, every builder that is there was
created at one moment of the run only, and what it holds is what it was created with and its
history in the trace come to. -/
theorem runTop_builders (steps : List Step) (library : AllLibrary steps) :
    (∃ t, runTop 0 steps start = .ok () t ∧ TopMeets 0 steps start (.rest t)) ∧
      ∀ t, TopMeets 0 steps start (.rest t) →
        ∀ b : BuilderRef, b.index < t.store.builders.length →
          ∃ (product : Product) (options : Options),
            (∀ id others, TopMeets 0 steps start (.made b id others) ↔
              id = product.builderId ∧ others = options) ∧
            (t.store.get b).classId = product.builderId ∧
            t.store.HoldsFold b options (history b t.extra.trace) product := by
  constructor
  · obtain ⟨t, run, _, meets⟩ : ∃ t, runTop 0 steps start = .ok () t ∧
        InStep (fun _ _ _ => True) start t ∧ TopMeets 0 steps start (.rest t) :=
      exists_runTop steps 0 start library tracked_start fun _ _ _ _ => trivial
    exact ⟨t, run, meets⟩
  intro t meets b inside
  have tracked := tracked_of_topMeets steps 0 start t library tracked_start
    (fun _ _ _ meets => meets) meets
  obtain ⟨product, options, made, shows⟩ := tracked.shows b inside
  refine ⟨product, options, fun id others => ⟨fun again => ?_, ?_⟩, ?_, shows.holdsFold⟩
  · exact (runTop_creates steps 0 start library tracked_start).once b _ options id others made again
  · rintro ⟨rfl, rfl⟩
    exact made
  · rw [shows.classId]
    simp

/-- A block that adds to the builder around its own and assigns the identifier of the latter,
and a call that fails. -/
def reentrant : List Step :=
  [.new "b" "BodyBuilder" [],
    .call "b" "div" (.block "d"
      [.call "b" "p" (.value (.text "inside")) [], .set "d" "id" (.text "late")])
      [("class_", .text "main")],
    .call "b" "append" (.value .null) []]

/-- The history of the first builder when all has been done. -/
theorem history_reentrant :
    history ⟨0⟩ (left (runTop 0 reentrant) start).extra.trace =
      [.got "p" (.paragraph (.text "inside")),
        .got "div" (.division [] (.text "late") (.text "main"))] := rfl

/-- The paragraph comes before the division in whose block it was added. -/
theorem runTop_builders_reentrant :
    AllLibrary reentrant ∧ ∃ t, runTop 0 reentrant start = .ok () t ∧
      t.store.held? ⟨0⟩ "_children" = some (.list [.node (.paragraph (.text "inside")),
        .node (.division [] (.text "late") (.text "main"))]) := by
  have library : AllLibrary reentrant := by
    simp [AllLibrary, reentrant, Step.Library, Argument.Library, isPrivate]
  obtain ⟨⟨t, run, meets⟩, builders⟩ := runTop_builders reentrant library
  obtain rfl : left (runTop 0 reentrant) start = t := left_of_ok run
  have inside : 0 < (left (runTop 0 reentrant) start).store.builders.length := by decide +kernel
  have body : ((left (runTop 0 reentrant) start).store.get ⟨0⟩).classId = Product.body.builderId := by
    decide +kernel
  refine ⟨library, _, run, ?_⟩
  obtain ⟨product, options, _, isA, holds⟩ := builders _ meets ⟨0⟩ inside
  obtain rfl := Product.builderId_injective (body.symm.trans isA)
  rw [history_reentrant] at holds
  exact holds

end ScopedHtml.Script
