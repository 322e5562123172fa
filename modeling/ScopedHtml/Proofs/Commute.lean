import ScopedHtml.Proofs.Apart

/-!
# ScopedHtml.Proofs.Commute

**Steps that are apart commute.** Two steps that define nothing and are apart (`Apart`) are run one
after the other, in both orders (`Crossed`). Each step runs in its second place as it does in its
first, and it spares what the other has done. So both orders leave the same
(`Crossed.reordered`), and what a step does not mention it leaves alone
(`independent_steps_commute`).

The classes have to be loose. A class may keep an element that one of its builders makes, and then
the builders of that class are not independent of each other (`not_commute_of_kept`).
-/

namespace ScopedHtml

open BuildM

/-- Builders of two stores that are in one state. -/
def Store.Matches (s t : Store) (b b' : BuilderRef) : Prop := t.get b' = s.get b

namespace Script

/-- Answers that are equal but for the positions of builders. -/
inductive Answer.Matches (s t : Store) : Answer → Answer → Prop
  | same {answer : Answer} (other : ∀ b className, answer ≠ .builder b className) :
      Matches s t answer answer
  | builder {b b' : BuilderRef} (state : s.Matches t b b') (className : String) :
      Matches s t (.builder b className) (.builder b' className)

/-- Entries of one step at two positions at the top. -/
structure Entry.Matches (s t : Store) (position other : Nat) (entry entry' : Entry) : Prop where
  path : ∃ inner, entry.path = position :: inner ∧ entry'.path = other :: inner
  step : entry'.step = entry.step
  target : Option.Rel (s.Matches t) entry.target entry'.target
  result : Outcomes (fun fault fault' => fault' = fault) (Answer.Matches s t) entry.result
    entry'.result
  glimpse : entry'.glimpse = entry.glimpse

/-- Two steps have been run in both orders from `before`, the first of them at `position` and at
the next position, and have left the same: `one` if they are run in their order and `two` if not. -/
structure Reordered (position : Nat) (before one two : Session Names) : Prop where
  classes : two.store.classes = one.store.classes
  builders : ∀ name, Option.Rel (one.store.Matches two.store) (one.extra.builders.find? name)
    (two.extra.builders.find? name)
  nodes : ∀ name, two.extra.nodes.find? name = one.extra.nodes.find? name
  log : ∃ events events', one.store.log = before.store.log ++ events ++ events' ∧
    two.store.log = before.store.log ++ events' ++ events
  trace : ∃ entries others entries' others',
    one.extra.trace = before.extra.trace ++ entries ++ others ∧
    two.extra.trace = before.extra.trace ++ others' ++ entries' ∧
    List.Forall₂ (Entry.Matches one.store two.store position (position + 1)) entries entries' ∧
    List.Forall₂ (Entry.Matches two.store one.store position (position + 1)) others' others

/-! ### Swaps that change nothing -/

theorem events_eq_of_still {swap : Swap} (still : swap.Still) {events events' : List Log.Event}
    (alike : List.Forall₂ swap.Events events events') : events' = events := by
  induction alike with
  | nil => rfl
  | cons here _ ih => rw [here.eq_of_still still, ih]

/-- Builders that stand for each other are in one state if the swap changes nothing. -/
theorem Setting.matches_of_known {setting : Setting} (still : setting.swap.Still) {s t : Store}
    (beside : setting.Beside setting.swap s t) {b b' : BuilderRef}
    (known : setting.Known s t b b') : s.Matches t b b' := by
  obtain ⟨twins, held, foreign, _⟩ := beside.alike known
  have classId : (t.get b').classId = (s.get b).classId := by
    rcases twins.stands with same | ⟨old, new⟩
    · exact same
    · exact new.trans (still.id.trans old.symm)
  unfold Store.Matches
  revert classId held foreign
  generalize s.get b = builder
  generalize t.get b' = builder'
  rcases builder with ⟨_, _, _⟩
  rcases builder' with ⟨_, _, _⟩
  rintro rfl rfl rfl
  rfl

/-- Entries of a step in two sessions that differ in nothing that it mentions, if the builders that
stand for each other end in one state. -/
theorem Entry.matches_of_entries {step : Step} {before after : Session Names}
    {settled : Settled before}
    {length : before.store.builders.length ≤ after.store.builders.length} {position other : Nat}
    {s t u v : Store} {entry entry' : Entry}
    (entries : (step.setting settled length position other).Entries s t entry entry')
    (state : ∀ b b', (step.setting settled length position other).Paired s t b b' →
      u.Matches v b b') : Entry.Matches u v position other entry entry' where
  path := entries.path
  step := entries.step.trans (Swap.still_idle.step entry.step)
  target := rel_mono entries.target fun paired => state _ _ paired
  result := by
    refine entries.result.imp (fun _ _ alike => alike.eq_of_still Swap.still_idle) ?_
    intro answer answer' answers
    cases answers with
    | same other => exact .same other
    | found alike =>
        rw [alike.eq_of_still Swap.still_idle]
        exact .same nofun
    | listed asked equal =>
        rw [equal rfl]
        exact .same nofun
    | builder paired titles =>
        rw [titles.eq_of_still Swap.still_idle]
        exact .builder (state _ _ paired) _
    | caught alike =>
        rw [alike.eq_of_still Swap.still_idle]
        exact .same nofun
  glimpse := by
    rcases rel_cases entries.glimpse with ⟨none, none'⟩ | ⟨seen, seen', eq, eq', alike⟩
    · rw [none, none']
    · obtain ⟨finalized, missing, count⟩ := alike
      have finalized := finalized.eq_of_still Swap.still_idle
      have missing : seen'.missing = seen.missing := by
        revert missing
        generalize seen.missing = result
        generalize seen'.missing = result'
        rintro (same | alike)
        · rw [same]
        · rw [alike.eq_of_still Swap.still_idle]
      rw [eq, eq']
      cases seen
      cases seen'
      cases finalized
      cases missing
      cases count
      rfl

/-! ### Both orders -/

/-- Two steps have been run in both orders from `before`. The first leads to `y` and the second
from there to `u`; the second leads to `z` and the first from there to `v`. -/
structure Crossed (position : Nat) (before : Session Names) (first second : Step)
    (y u z v : Session Names) : Prop where
  settled : Settled before
  apart : Apart before first second
  leaves : first.Leaves before y
  leaves' : second.Leaves before z
  ahead : (first.setting settled leaves'.spares.length position (position + 1)).bridge.Beside y v
  behind : (second.setting settled leaves.spares.length position (position + 1)).bridge.Beside z u

namespace Crossed

variable {position : Nat} {before y u z v : Session Names} {first second : Step} {name : String}

theorem symm (crossed : Crossed position before first second y u z v) :
    Crossed position before second first z v y u :=
  ⟨crossed.settled, crossed.apart.symm, crossed.leaves', crossed.leaves, crossed.behind,
    crossed.ahead⟩

/-- What a name is bound to that the second step does not operate on, and the builder. -/
theorem spared (crossed : Crossed position before first second y u z v) {b : BuilderRef}
    (inside : b.index < y.store.builders.length)
    (apart : ∀ name, second.Operates before name → before.extra.builders.find? name ≠ some b) :
    u.store.get b = y.store.get b := by
  refine crossed.behind.stores.others' b inside ?_
  rintro _ ⟨rfl, name, operates, bound⟩
  exact apart name operates bound

/-- Builders that the first step has worked on in its two places are in one state in the end. -/
theorem state (crossed : Crossed position before first second y u z v) {b b' : BuilderRef}
    (paired : (first.setting crossed.settled crossed.leaves'.spares.length position
      (position + 1)).Paired y.store v.store b b') : u.store.Matches v.store b b' := by
  have alike : y.store.Matches v.store b b' :=
    Setting.matches_of_known Swap.still_idle crossed.ahead.stores (.paired paired)
  refine alike.trans
    (crossed.spared (crossed.ahead.stores.inside paired).1 ?_).symm
  intro name operates bound
  cases paired with
  | linked linked =>
      obtain ⟨rfl, other, worked, bound'⟩ := linked
      have same := crossed.settled.names.single name other _ bound bound'
      subst same
      exact crossed.apart.builders _ worked operates.mentions
  | fresh more left =>
      have inside := crossed.settled.names.inside name b bound
      have : b.index = before.store.builders.length + more := left
      omega

/-- What the first step operates on. -/
theorem builders_of_operates (crossed : Crossed position before first second y u z v)
    (operates : first.Operates before name) :
    Option.Rel (u.store.Matches v.store) (u.extra.builders.find? name)
      (v.extra.builders.find? name) := by
  rw [crossed.behind.extras.spares'.builders name fun operates' =>
    crossed.apart.builders name operates operates'.mentions]
  exact rel_mono (crossed.ahead.extras.builders name operates) crossed.state

theorem nodes_of_keeps (crossed : Crossed position before first second y u z v)
    (keeps : first.Keeps name) : v.extra.nodes.find? name = u.extra.nodes.find? name := by
  rw [crossed.behind.extras.spares'.nodes name fun keeps' =>
    crossed.apart.nodes name keeps (.inl keeps')]
  exact crossed.ahead.extras.nodes name (.inl keeps)

/-- What neither step operates on is what it was. -/
theorem builder_of_spared (crossed : Crossed position before first second y u z v)
    (spared : ¬ first.Operates before name) (spared' : ¬ second.Operates before name) :
    u.extra.builders.find? name = before.extra.builders.find? name ∧
      ∀ b, before.extra.builders.find? name = some b →
        u.store.get b = before.store.get b := by
  have names := crossed.behind.extras.spares'.builders name spared'
  refine ⟨names.trans (crossed.leaves.spares.names.builders name spared), fun b bound => ?_⟩
  have old := crossed.leaves.spares.builder crossed.settled spared bound
  refine (crossed.spared (crossed.leaves.settled.names.inside name b old.1) ?_).trans old.2
  intro other operates bound'
  rw [crossed.settled.names.single name other b bound bound'] at operates
  exact spared' operates

theorem node_of_spared (crossed : Crossed position before first second y u z v)
    (spared : ¬ first.Keeps name) (spared' : ¬ second.Keeps name) :
    u.extra.nodes.find? name = before.extra.nodes.find? name :=
  (crossed.behind.extras.spares'.nodes name spared').trans
    (crossed.leaves.spares.names.nodes name spared)

/-- Both orders leave the same. -/
theorem reordered (crossed : Crossed position before first second y u z v) :
    Reordered position before u v where
  classes := crossed.ahead.classes.2.trans crossed.behind.classes.2.symm
  builders := by
    intro name
    by_cases operates : first.Operates before name
    · exact crossed.builders_of_operates operates
    by_cases operates' : second.Operates before name
    · have alike := crossed.symm.builders_of_operates operates'
      revert alike
      generalize v.extra.builders.find? name = found
      generalize u.extra.builders.find? name = found'
      rintro (same | _)
      · exact .some same.symm
      · exact .none
    · have one := crossed.builder_of_spared operates operates'
      have two := crossed.symm.builder_of_spared operates' operates
      rw [one.1, two.1]
      cases bound : before.extra.builders.find? name with
      | none => exact .none
      | some b => exact .some ((two.2 b bound).trans (one.2 b bound).symm)
  nodes := by
    intro name
    by_cases keeps : first.Keeps name
    · exact crossed.nodes_of_keeps keeps
    by_cases keeps' : second.Keeps name
    · exact (crossed.symm.nodes_of_keeps keeps').symm
    · exact (crossed.symm.node_of_spared keeps' keeps).trans
        (crossed.node_of_spared keeps keeps').symm
  log := by
    obtain ⟨_, events, log, log', same⟩ := crossed.ahead.stores.log
    obtain ⟨_, others, more, more', same'⟩ := crossed.behind.stores.log
    obtain rfl := events_eq_of_still Swap.still_idle same
    obtain rfl := events_eq_of_still Swap.still_idle same'
    refine ⟨events, others, ?_, ?_⟩
    · exact more'.trans (congrArg (· ++ others) log)
    · exact log'.trans (congrArg (· ++ events) more)
  trace := by
    obtain ⟨entries, entries', trace, trace', same⟩ := crossed.ahead.extras.trace
    obtain ⟨others', others, more, more', same'⟩ := crossed.behind.extras.trace
    refine ⟨entries, others, entries', others', ?_, ?_, ?_, ?_⟩
    · exact more'.trans (congrArg (· ++ others) trace)
    · exact trace'.trans (congrArg (· ++ entries') more)
    · exact same.imp fun _ _ alike => Entry.matches_of_entries alike fun _ _ => crossed.state
    · exact same'.imp fun _ _ alike => Entry.matches_of_entries alike fun _ _ => crossed.symm.state

end Crossed

/-! ### Any two steps -/

section Pairs

variable {first second : Step} {position : Nat} {s t u : Session Names}
  {fault fault' : Option Fault} {failure : Fault}

theorem runTop_pair (run : first.top position s = .ok fault t)
    (run' : second.top (position + 1) t = .ok fault' u) :
    runTop position [first, second] s = .ok () u :=
  (bind_of_ok (discard_of_ok run)).trans (bind_of_ok (discard_of_ok run'))

theorem runTop_pair_of_first (run : first.top position s = .error failure t) :
    runTop position [first, second] s = .error failure t :=
  bind_of_error (discard_eq_error.2 run)

theorem runTop_pair_of_second (run : first.top position s = .ok fault t)
    (run' : second.top (position + 1) t = .error failure u) :
    runTop position [first, second] s = .error failure u :=
  (bind_of_ok (discard_of_ok run)).trans (bind_of_error (discard_eq_error.2 run'))

end Pairs

/-- A step that is apart from another runs after it as it does before it. -/
theorem Apart.ends_again {before after : Session Names} {first second : Step}
    (apart : Apart before first second) (settled : Settled before)
    (nothing : second.DefinesNothing) (leaves : first.Leaves before after) (position : Nat) :
    (second.setting settled leaves.spares.length position (position + 1)).bridge.Ends before after
      (fun _ _ => Option.Rel Swap.idle.Faults) (second.top position before)
      (second.top (position + 1) after) :=
  second.ends_top settled leaves.settled leaves.spares
    (fun name mentions operates => apart.builders name operates mentions)
    (fun name reads keeps => apart.nodes name keeps reads) nothing position (position + 1)

/-- Both orders of two steps that are apart give no report, or they leave the same. -/
theorem Apart.both_orders {before : Session Names} {first second : Step}
    (apart : Apart before first second) (settled : Settled before)
    (nothing : first.DefinesNothing) (nothing' : second.DefinesNothing) (position : Nat) :
    (∃ fault u, runTop position [first, second] before = .error fault u) ∧
        (∃ fault v, runTop position [second, first] before = .error fault v) ∨
      ∃ u v, runTop position [first, second] before = .ok () u ∧
        runTop position [second, first] before = .ok () v ∧ Reordered position before u v := by
  have leaves := first.leaves_top settled nothing position
  have leaves' := second.leaves_top settled nothing' position
  cases run : first.top position before with
  | error failure y =>
      refine .inl ⟨⟨failure, y, runTop_pair_of_first run⟩, ?_⟩
      cases run' : second.top position before with
      | error failure' z => exact ⟨failure', z, runTop_pair_of_first run'⟩
      | ok fault' z =>
          rw [left_of_ok run'] at leaves'
          have ends := apart.symm.ends_again settled nothing leaves' position
          rw [run] at ends
          generalize again : first.top (position + 1) z = result at ends
          cases ends with
          | error _ _ _ => exact ⟨_, _, runTop_pair_of_second run' again⟩
  | ok fault y =>
      rw [left_of_ok run] at leaves
      have ends := apart.ends_again settled nothing' leaves position
      generalize again : second.top (position + 1) y = result at ends
      cases run' : second.top position before with
      | error failure' z =>
          rw [run'] at ends
          cases ends with
          | error _ _ _ =>
              exact .inl ⟨⟨_, _, runTop_pair_of_second run again⟩, _, z, runTop_pair_of_first run'⟩
      | ok fault' z =>
          rw [left_of_ok run'] at leaves'
          have ends' := apart.symm.ends_again settled nothing leaves' position
          rw [run'] at ends
          rw [run] at ends'
          generalize again' : first.top (position + 1) z = result' at ends'
          cases ends with
          | @ok _ _ _ u behind _ _ =>
              cases ends' with
              | @ok _ _ _ v ahead _ _ =>
                  have crossed : Crossed position before first second y u z v :=
                    ⟨settled, apart, leaves, leaves', ahead, behind⟩
                  exact .inr ⟨u, v, runTop_pair run again, runTop_pair run' again',
                    crossed.reordered⟩

/-- **Independent steps commute.** From a session to which a script of loose classes has come, take
two steps that define nothing and of which neither mentions what the other operates on or binds. If
running them in their order gives no report, neither does running them the other way round.
Otherwise both orders leave the same under all names, in the log the records of the one step come
before those of the other, and each step leaves the same entries. And whatever becomes of a step,
the builders that it does not mention are what they were. -/
theorem independent_steps_commute {steps : List Step} (loose : Loose steps)
    {before : Session Names} (reached : runTop 0 steps start = .ok () before)
    {first second : Step} (nothing : first.DefinesNothing) (nothing' : second.DefinesNothing)
    (apart : Apart before first second) (position : Nat) :
    ((∃ fault u, runTop position [first, second] before = .error fault u) ∧
        (∃ fault v, runTop position [second, first] before = .error fault v) ∨
      ∃ u v, runTop position [first, second] before = .ok () u ∧
        runTop position [second, first] before = .ok () v ∧ Reordered position before u v) ∧
      ∀ step ∈ [first, second], ∀ name, ¬ step.Mentions name →
        (left (step.top position) before).extra.builders.find? name =
            before.extra.builders.find? name ∧
          ∀ b, before.extra.builders.find? name = some b →
            (left (step.top position) before).store.get b = before.store.get b := by
  have settled := settled_runTop loose reached
  refine ⟨apart.both_orders settled nothing nothing' position, ?_⟩
  intro step among name unmentioned
  have leaves : step.Leaves before (left (step.top position) before) := by
    rcases List.mem_cons.1 among with rfl | among
    · exact step.leaves_top settled nothing position
    · rw [List.mem_singleton.1 among]
      exact second.leaves_top settled nothing' position
  have spared : ¬ step.Operates before name := fun operates => unmentioned operates.mentions
  exact ⟨leaves.spares.names.builders name spared, fun b bound =>
    (leaves.spares.builder settled spared bound).2⟩

/-- Steps that create two bodies and a division. -/
def twoBodies : List Step :=
  [.new "b" "BodyBuilder" [], .new "c" "BodyBuilder" [], .new "e" "DivBuilder" []]

/-- A step that passes the division on in a block and fails there. -/
def passingOn : Step :=
  .call "b" "div" (.block "d" [.call "d" "p" (.value (.text "x")) [],
    .call "d" "append" (.builder "e") []]) []

/-- A step that adds a paragraph to the other body and passes the division on as well. -/
def passingToo : Step :=
  .attempt [.call "c" "p" (.value (.text "y")) [], .call "c" "append" (.builder "e") []]

/-- Two steps on two bodies that pass one builder on. -/
theorem independent_steps_commute_passed :
    ∃ before, runTop 0 twoBodies start = .ok () before ∧ Apart before passingOn passingToo ∧
      ∃ u v, runTop 3 [passingOn, passingToo] before = .ok () u ∧
        runTop 3 [passingToo, passingOn] before = .ok () v ∧ Reordered 3 before u v := by
  have loose : Loose twoBodies := by simp [Loose, twoBodies, usesOf, Step.uses]
  have nothing : passingOn.DefinesNothing := by
    simp [Step.DefinesNothing, passingOn, Step.uses, Argument.uses, usesOf]
  have nothing' : passingToo.DefinesNothing := by
    simp [Step.DefinesNothing, passingToo, Step.uses, Argument.uses, usesOf]
  obtain ⟨before, reached, bound, silent, ends⟩ :
      ∃ before, runTop 0 twoBodies start = .ok () before ∧
        before.extra.builders.find? "e" = some ⟨2⟩ ∧ before.store.canBeCalled ⟨2⟩ = false ∧
          ((runTop 3 [passingOn, passingToo]).run' before).isSome = true :=
    ⟨_, rfl, rfl, rfl, by decide +kernel⟩
  have operates : ∀ {step : Step} {name : String}, step.Operates before name →
      (.passes name ∈ step.uses → name = "e") → .works name ∈ step.uses := by
    rintro step name (works | ⟨passes, b, found, callable⟩) only
    · exact works
    · rw [only passes, bound] at found
      cases found
      cases silent.symm.trans callable
  have apart : Apart before passingOn passingToo := by
    constructor
    · intro name worked
      have names : name = "b" ∨ name = "d" := by
        have works := operates worked (by simp [passingOn, Step.uses, Argument.uses, usesOf])
        simpa [passingOn, Step.uses, Argument.uses, usesOf] using works
      rcases names with rfl | rfl <;>
        simp [passingToo, Step.Mentions, Step.uses, Argument.uses, usesOf]
    · intro name worked
      obtain rfl : name = "c" := by
        have works := operates worked (by simp [passingToo, Step.uses, Argument.uses, usesOf])
        simpa [passingToo, Step.uses, Argument.uses, usesOf] using works
      simp [passingOn, Step.Mentions, Step.uses, Argument.uses, usesOf]
    · simp [passingOn, passingToo, Step.Keeps, Step.uses, Argument.uses, usesOf]
    · simp [passingOn, passingToo, Step.Keeps, Step.uses, Argument.uses, usesOf]
  refine ⟨before, reached, apart, ?_⟩
  rcases (independent_steps_commute loose reached nothing nothing' apart 3).1 with
    ⟨⟨fault, u, failed⟩, _⟩ | both
  · obtain ⟨_, u, ended⟩ := exists_ok_of_run' ends
    cases failed.symm.trans ended
  · exact both

/-- Steps that define a class of bodies with an opener that works on the class, and create two
builders of it. -/
def keptTwice : List Step :=
  [.define "Keeper" ["BodyBuilder"]
      { openers := [⟨"__class_getitem__", "DivBuilder", false, .slot⟩] },
    .new "b" "Keeper" [], .new "c" "Keeper" []]

/-- A step that opens a division for the one builder. -/
def keeping : Step := .call "b" "__class_getitem__" .absent []

/-- A step that looks at the other builder. -/
def looking : Step := .get "c" "___class_getitem__"

/-- A class that keeps what one of its builders makes makes it known to the others. -/
theorem not_commute_of_kept :
    keeping.DefinesNothing ∧ looking.DefinesNothing ∧
      Apart (left (runTop 0 keptTwice) start) keeping looking ∧
      (left (runTop 0 (keptTwice ++ [keeping, looking])) start).extra.trace.map
          (fun entry => (entry.path, entry.result.toOption.isSome)) =
        [([0], true), ([1], true), ([2], true), ([3], true), ([4], true)] ∧
      (left (runTop 0 (keptTwice ++ [looking, keeping])) start).extra.trace.map
          (fun entry => (entry.path, entry.result.toOption.isSome)) =
        [([0], true), ([1], true), ([2], true), ([3], false), ([4], true)] := by
  refine ⟨?_, ?_, ?_, by decide +kernel, by decide +kernel⟩
  · simp [Step.DefinesNothing, keeping, Step.uses, Argument.uses]
  · simp [Step.DefinesNothing, looking, Step.uses]
  · constructor <;>
      simp [keeping, looking, Step.Operates, Step.Mentions, Step.Keeps, Step.uses, Argument.uses]

end Script

end ScopedHtml
