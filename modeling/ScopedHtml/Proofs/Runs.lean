import ScopedHtml.Proofs.Steps

/-!
# ScopedHtml.Proofs.Runs

**At every moment of a script the builders are what the trace says.** A step does what an
entry of it tells (`Step.explained`), whatever is in its blocks, so steps in a row keep the
builders in step with the trace (`runBlock_inStep`), up to the one that fails. What holds
where a step or a block begins holds at every moment inside it (`Step.tracked_of_meets`).
-/

namespace ScopedHtml.Script

open BuildM

variable {made : BuilderRef → ClassId → Options → Prop} {s t u : Session Names}
  {path : List Nat}

/-! ### Runs of steps -/

/-- An entry of a step that works on no builder is silent. -/
theorem Records.silent {step : Step} {answer : Answer} {entry : Entry}
    (recorded : Records step s answer entry) (tracked : Tracked made s.extra.trace s)
    (passive : step.core.acts = false) : entry.Silent s where
  idle := .of_passive (recorded.core ▸ passive)
  old := fun _ target => tracked.inside_of_target (recorded.target ▸ target)

/-- A step that only looks does what an entry of it tells. -/
theorem Step.explained_of_looks {step : Step} (looks : step.looks = true)
    (tracked : Tracked made s.extra.trace s) :
    Explained made s (Records step s) (step.answer path s) := by
  refine .of_quiet tracked (Step.quiet_answer looks fun _ _ _ b => (tracked.plain b).1.readable) ?_
  intro _ _ recorded
  refine recorded.silent tracked ?_
  cases step <;> first | rfl | cases looks

/-- An entry of a call tells of it. -/
theorem Records.tells {on member : String} {argument : Argument} {options : Options}
    {value : Value} {entry : Entry} {b : BuilderRef}
    (recorded : Records (.call on member argument options) s (.value value) entry)
    (bound : s.extra.builders.find? on = some b) : Tells b member value entry := by
  have target : entry.target = some b := recorded.target.trans bound
  refine ⟨target, fun c => ?_⟩
  unfold Entry.deed?
  rw [recorded.core, target, recorded.result]
  rfl

/-- An entry of an assignment tells of it. -/
theorem Records.assigns {on name : String} {value : Value} {answer : Answer} {entry : Entry}
    {b : BuilderRef} (recorded : Records (.set on name value) s answer entry)
    (bound : s.extra.builders.find? on = some b) : entry.target = some b ∧
      ∀ c, entry.deed? c = if b = c then some (.set name value) else none := by
  have target : entry.target = some b := recorded.target.trans bound
  refine ⟨target, fun c => ?_⟩
  unfold Entry.deed?
  rw [recorded.core, target, recorded.result]
  rfl

/-- Binding the answer of a step to a name changes nothing about builders. -/
theorem bindAnswer_explained {name : String} {step : Step}
    (explained : Explained made s (Records step s) (step.answer path s)) :
    Explained made s (Records (.named name step) s) ((do
      let answer ← step.answer path
      bindAnswer name answer
      return answer : ScriptM Answer) s) := by
  generalize ended : step.answer path s = result at explained
  cases explained with
  | failed fault after =>
      rw [bind_of_error ended]
      exact .failed fault after
  | @answered t answer grown told =>
      have told : ∀ entry, Records (.named name step) s answer entry →
          Tracked made (t.extra.trace ++ [entry]) t := fun entry recorded =>
        told entry ⟨recorded.core, recorded.target, recorded.result⟩
      rw [bind_of_ok ended]
      unfold bindAnswer
      split
      · exact .answered _ grown fun entry recorded =>
          (told entry recorded).names (told entry recorded).bound
      · exact .answered _ grown told

/-- A block runs on the builder that it is given, under a name of its own. -/
theorem leftBy_block {inner : String} {steps : List Step} {first : Option (Given Names)}
    {child : BuilderRef} (given : (Argument.block inner steps).given path s = .ok first s)
    (bound : bindBuilder inner child u = .ok () t) :
    leftBy first child u = left (runBlock path 0 steps) t := by
  cases given
  exact left_congr (bind_of_ok bound)

/-- What is no block leaves everything as it is. -/
theorem leftBy_of_no_block {argument : Argument} {first : Option (Given Names)}
    {child : BuilderRef} (other : ∀ inner steps, argument ≠ .block inner steps)
    (given : argument.given path s = .ok first s) : leftBy first child u = u := by
  unfold leftBy
  split
  · next init => exact absurd rfl (Argument.ne_function_of_given other given init)
  · rfl

mutual

/-- A step does what an entry of it tells. -/
theorem Step.explained : ∀ (step : Step) (path : List Nat) (s : Session Names), step.Library →
    Tracked made s.extra.trace s →
    (∀ b id options, step.Meets path s (.made b id options) → made b id options) →
    Explained made s (Records step s) (step.answer path s)
  -- On the steps, the blocks in them and what comes behind them. A block is begun in a session
  -- that its trace explains, even though the call around it is not recorded yet.
  | .named name step, path, s, library, tracked, known => by
      have explained := Step.explained step path s library tracked fun b id options meets =>
        known b id options (.named meets)
      rw [Step.answer]
      exact bindAnswer_explained explained
  | .new name className options, path, s, library, tracked, known => by
      rw [Step.answer]
      refine new_explained tracked className options ?_ fun _ _ recorded =>
        recorded.silent tracked rfl
      exact fun id child u named created => known child id options (.new named created)
  | .call on member argument options, path, s, library, tracked, known => by
      rw [Step.answer]
      refine .after_looking tracked (quiet_builderNamed on) ?_
      intro b named
      have bound := bound_of_builderNamed named
      refine .after_looking tracked argument.quiet_check ?_
      intro _ _
      refine .after_looking tracked (Caller.quiet_read _ (tracked.plain b).1.readable member) ?_
      intro found read
      refine .after_looking tracked (argument.quiet_given path) ?_
      intro first given
      refine .map (call_explained tracked (tracked.bound on b bound) library.1 read ?_ ?_) ?_
      · exact fun id child u opens => known child id options (.opened bound given opens)
      · intro id child u opens tracked inside
        exact Argument.inStep argument path s u library.2 given inside tracked
          fun b id options meets => known b id options (.inside bound opens meets)
      · exact fun value entry recorded => recorded.tells bound
  | .html argument, path, s, library, tracked, known => by
      rw [Step.answer]
      refine .after_looking tracked (argument.quiet_given path) ?_
      intro first given
      have silent : ∀ (value : Value) entry, Records (.html argument) s (.value value) entry →
          entry.Silent s := fun _ _ recorded => recorded.silent tracked rfl
      refine .map (htmlOf_explained tracked first ?_ ?_ silent) fun _ _ recorded => recorded
      · intro doc u some created
        obtain ⟨first, rfl⟩ := Option.isSome_iff_exists.1 some
        exact known doc _ [] (.document given created)
      · intro doc u created tracked inside
        exact Argument.inStep argument path s u library given inside tracked
          fun b id options meets => known b id options (.insideDocument created meets)
  | .set on name value, path, s, library, tracked, known => by
      rw [Step.answer]
      refine .after_looking tracked (quiet_builderNamed on) ?_
      intro b named
      have bound := bound_of_builderNamed named
      exact .map (write_explained tracked (tracked.bound on b bound) library value)
        fun _ entry recorded => recorded.assigns bound
  | .attempt steps, path, s, library, tracked, known => by
      have ran := runBlock_inStep steps path 0 s library tracked fun b id options meets =>
        known b id options (.attempt meets)
      have silent : ∀ answer entry, Records (.attempt steps) s answer entry → entry.Silent s :=
        fun _ _ recorded => recorded.silent tracked rfl
      rw [Step.answer, bind_apply, outcome_apply]
      -- What has failed is not undone, so the entries of the block count in either case.
      cases ended : runBlock path 0 steps s with
      | ok _ t =>
          rw [left_of_ok ended] at ran
          exact .of_silent ran (silent _)
      | error fault t =>
          rw [left_of_error ended] at ran
          exact .of_silent ran (silent _)
  | .about _ _, _, _, library, _, _ => library.elim
  | .sample, _, _, library, _, _ => library.elim
  | .define _ _ _, _, _, library, _, _ => library.elim
  | .defineMixin _ _, _, _, library, _, _ => library.elim
  | .elements _, _, _, _, tracked, _ => Step.explained_of_looks rfl tracked
  | .get _ _, _, _, _, tracked, _ => Step.explained_of_looks rfl tracked
  | .node _, _, _, _, tracked, _ => Step.explained_of_looks rfl tracked
  | .outline _, _, _, _, tracked, _ => Step.explained_of_looks rfl tracked
  | .compare _ _, _, _, _, tracked, _ => Step.explained_of_looks rfl tracked
  | .distinct _, _, _, _, tracked, _ => Step.explained_of_looks rfl tracked
  | .getField _ _, _, _, _, tracked, _ => Step.explained_of_looks rfl tracked
  | .setField _ _, _, _, _, tracked, _ => Step.explained_of_looks rfl tracked
  | .deleteField _ _, _, _, _, tracked, _ => Step.explained_of_looks rfl tracked
  | .fail _, _, _, _, tracked, _ => Step.explained_of_looks rfl tracked

/-- What is given as an argument keeps the builders in step with the trace. -/
theorem Argument.inStep : ∀ (argument : Argument) (path : List Nat) {child : BuilderRef}
    (s u : Session Names) {first : Option (Given Names)}, argument.Library →
    argument.given path s = .ok first s → child.index < u.store.builders.length →
    Tracked made u.extra.trace u →
    (∀ b id options, argument.Meets path child u (.made b id options) → made b id options) →
    InStep made u (leftBy first child u)
  | .block inner steps, path, child, s, u, first, library, given, inside, tracked, known => by
      obtain ⟨v, bound, store, tracked⟩ := exists_bindBuilder tracked inside inner
      have ran := runBlock_inStep steps path 0 v library tracked fun b id options meets =>
        known b id options (.block bound meets)
      rw [leftBy_block given bound]
      exact .trans (store ▸ .refl u.store) ran
  | .absent, _, _, _, _, _, _, given, _, tracked, _ => by
      rw [leftBy_of_no_block (by simp) given]
      exact .refl tracked
  | .value _, _, _, _, _, _, _, given, _, tracked, _ => by
      rw [leftBy_of_no_block (by simp) given]
      exact .refl tracked
  | .builder _, _, _, _, _, _, _, given, _, tracked, _ => by
      rw [leftBy_of_no_block (by simp) given]
      exact .refl tracked
  | .node _, _, _, _, _, _, _, given, _, tracked, _ => by
      rw [leftBy_of_no_block (by simp) given]
      exact .refl tracked

/-- Steps in a row keep the builders in step with the trace, up to the one that fails. -/
theorem runBlock_inStep : ∀ (steps : List Step) (path : List Nat) (position : Nat)
    (s : Session Names), AllLibrary steps → Tracked made s.extra.trace s →
    (∀ b id options, BlockMeets path position steps s (.made b id options) → made b id options) →
    InStep made s (left (runBlock path position steps) s)
  | [], path, position, s, _, tracked, _ => by
      rw [runBlock]
      exact .refl tracked
  | step :: rest, path, position, s, library, tracked, known => by
      have explained := Step.explained step (path ++ [position]) s library.1 tracked
        fun b id options meets => known b id options (.step meets)
      obtain ⟨fault, t, run, after, _⟩ := recorded_of_explained tracked explained
      rw [runBlock, left, bind_of_ok run]
      cases fault with
      | some fault => exact after
      | none =>
          have ran := runBlock_inStep rest path (position + 1) t library.2 after.tracked
            fun b id options meets => known b id options (.next run meets)
          exact .trans after.grown ran

end

/-! ### Moments of a run -/

/-- What creating a builder leaves. -/
theorem inStep_of_create (tracked : Tracked made s.extra.trace s) (product : Product)
    {options : Options} {child : BuilderRef}
    (known : made child product.builderId options)
    (created : create product.builderId options s = .ok child u) :
    InStep made s u ∧ child.index = s.store.builders.length ∧ u.store.IsA child product := by
  have known : ∀ other v, create product.builderId options s = .ok other v →
      made other product.builderId options := by
    intro other v again
    cases created.symm.trans again
    exact known
  rcases create_inStep tracked product known with ⟨fault, eq⟩ | ⟨_, _, eq, added, new, isA⟩
  · cases eq.symm.trans created
  · cases eq.symm.trans created
    exact ⟨added, new, isA⟩

namespace Opens

variable {b child : BuilderRef} {member : String} {options : Options} {id : ClassId}

/-- Scopes are opened with the library's openers only. -/
theorem exists_opener (opens : Opens s b member options id child u) {content : Content}
    (shows : s.store.Shows b content) (shown : isPrivate member = false) :
    ∃ (opener : Opener) (owner : String), opener.entry ∈ content.members ∧
      member = opener.name ∧ id = opener.product.builderId ∧
      b.read member s = .ok (.callable owner opener.name opener.entry.2) s := by
  obtain ⟨owner, target, attachment, read, resolved⟩ := opens.found
  rcases Caller.read_public Caller.depthLimit shows shown with
    ⟨fault, eq⟩ | ⟨value, eq⟩ | ⟨_, _, has, eq⟩
  · cases eq.symm.trans read
  · cases eq.symm.trans read
  · cases eq.symm.trans read
    obtain ⟨opener, same⟩ := Content.opener_of_mem has
    cases same
    cases resolved
    exact ⟨opener, _, has, rfl, rfl, read⟩

/-- What a scope is opened with is a new builder. -/
theorem inStep (opens : Opens s b member options id child u)
    (tracked : Tracked made s.extra.trace s)
    (inside : b.index < s.store.builders.length) (shown : isPrivate member = false)
    (known : made child id options) :
    InStep made s u ∧ child.index = s.store.builders.length ∧
      child.index < u.store.builders.length := by
  obtain ⟨_, _, _, shows⟩ := tracked.shows b inside
  obtain ⟨opener, _, _, rfl, rfl, _⟩ := opens.exists_opener shows shown
  obtain ⟨after, new, isA⟩ := inStep_of_create tracked opener.product known opens.created
  exact ⟨after, new, isA.inside⟩

/-- What a scope is opened with is determined by the call. -/
theorem unique {other : ClassId} {builder : BuilderRef} {v : Session Names}
    (opens : Opens s b member options id child u)
    (again : Opens s b member options other builder v) : other = id ∧ builder = child ∧ v = u := by
  obtain ⟨_, _, _, read, resolved⟩ := opens.found
  obtain ⟨_, _, _, read', resolved'⟩ := again.found
  cases read.symm.trans read'
  cases resolved.symm.trans resolved'
  cases opens.created.symm.trans again.created
  exact ⟨rfl, rfl, rfl⟩

end Opens

/-- What has moments of its own is a block, and is given as it stands. -/
theorem Argument.Meets.exists_given {argument : Argument} {child : BuilderRef} {m : Moment}
    (meets : argument.Meets path child u m) (s : Session Names) :
    ∃ first, argument.given path s = .ok (some first) s := by
  cases meets with
  | block bound meets => exact ⟨_, rfl⟩

mutual

/-- At every moment inside a step the builders are as the trace says. -/
theorem Step.tracked_of_meets : ∀ (step : Step) (path : List Nat) (s t : Session Names),
    step.Library → Tracked made s.extra.trace s →
    (∀ b id options, step.Meets path s (.made b id options) → made b id options) →
    step.Meets path s (.rest t) → Tracked made t.extra.trace t
  | .named _ step, path, s, t, library, tracked, known, .named meets =>
      Step.tracked_of_meets step path s t library tracked
        (fun b id options meets => known b id options (.named meets)) meets
  | .call on member argument options, path, s, t, library, tracked, known, meets => by
      cases meets with
      | inside bound opens meets =>
          obtain ⟨first, given⟩ := meets.exists_given s
          obtain ⟨after, _, inside⟩ := opens.inStep tracked (tracked.bound on _ bound) library.1
            (known _ _ _ (.opened bound given opens))
          exact Argument.tracked_of_meets argument path _ _ t library.2 inside after.tracked
            (fun b id options meets => known b id options (.inside bound opens meets)) meets
  | .html argument, path, s, t, library, tracked, known, .insideDocument created meets => by
      obtain ⟨first, given⟩ := meets.exists_given s
      obtain ⟨after, _, isA⟩ := inStep_of_create tracked .document
        (known _ _ _ (.document given created)) created
      exact Argument.tracked_of_meets argument path _ _ t library isA.inside after.tracked
        (fun b id options meets => known b id options (.insideDocument created meets)) meets
  | .attempt steps, path, s, t, library, tracked, known, .attempt meets =>
      tracked_of_blockMeets steps path 0 s t library tracked
        (fun b id options meets => known b id options (.attempt meets)) meets

/-- At every moment inside a block that is given as an argument as well. -/
theorem Argument.tracked_of_meets : ∀ (argument : Argument) (path : List Nat)
    (child : BuilderRef) (u t : Session Names), argument.Library →
    child.index < u.store.builders.length → Tracked made u.extra.trace u →
    (∀ b id options, argument.Meets path child u (.made b id options) → made b id options) →
    argument.Meets path child u (.rest t) → Tracked made t.extra.trace t
  | .block inner steps, path, child, u, t, library, inside, tracked, known, .block bound meets => by
      obtain ⟨_, same, _, tracked⟩ := exists_bindBuilder tracked inside inner
      cases same.symm.trans bound
      exact tracked_of_blockMeets steps path 0 _ t library tracked
        (fun b id options meets => known b id options (.block bound meets)) meets

/-- At every moment of steps in a row as well. -/
theorem tracked_of_blockMeets : ∀ (steps : List Step) (path : List Nat) (position : Nat)
    (s t : Session Names), AllLibrary steps → Tracked made s.extra.trace s →
    (∀ b id options, BlockMeets path position steps s (.made b id options) → made b id options) →
    BlockMeets path position steps s (.rest t) → Tracked made t.extra.trace t
  | [], path, position, s, t, _, tracked, _, meets => by
      cases meets
      exact tracked
  | step :: rest, path, position, s, t, library, tracked, known, meets => by
      have first : ∀ b id options, step.Meets (path ++ [position]) s (.made b id options) →
          made b id options := fun b id options meets => known b id options (.step meets)
      obtain ⟨fault, u, run, after, _⟩ := recorded_of_explained tracked
        (Step.explained step (path ++ [position]) s library.1 tracked first)
      -- Before the step, inside it, right behind it or further on.
      cases meets with
      | start => exact tracked
      | step meets => exact Step.tracked_of_meets step _ s t library.1 tracked first meets
      | ended ran =>
          cases run.symm.trans ran
          exact after.tracked
      | next ran meets =>
          cases run.symm.trans ran
          exact tracked_of_blockMeets rest path (position + 1) u t library.2 after.tracked
            (fun b id options meets => known b id options (.next ran meets)) meets

end

end ScopedHtml.Script
