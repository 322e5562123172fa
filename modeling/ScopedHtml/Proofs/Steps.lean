import ScopedHtml.Proofs.Moments

/-!
# ScopedHtml.Proofs.Steps

**What one step does to the builders of a session that its trace explains.** A step that
fails leaves such a session, and so does one that has answered once there is an entry of
it (`Explained`). Most steps only look; the others are taken apart here down to the blocks
in them.

* `recorded_of_explained` — the entry is always written and brings the trace up to date;
* `opening_explained`, `htmlOf_explained` — opening a scope and building a document, if the
  block does its part;
* `call_explained` — calling any public member.
-/

namespace ScopedHtml.Script

open BuildM

/-! ### Steps that only look -/

section Looking

variable {s : Session Names} {b : BuilderRef}

theorem builderNamed_of_bound {name : String} (bound : s.extra.builders.find? name = some b) :
    builderNamed name s = .ok b s := by
  unfold builderNamed
  have here : (get : ScriptM (Session Names)) s = .ok s s := rfl
  rw [bind_of_ok here, bound]
  rfl

theorem builderNamed_of_unbound {name : String} (unbound : s.extra.builders.find? name = none) :
    builderNamed name s = .error (.unbound name) s := by
  unfold builderNamed
  have here : (get : ScriptM (Session Names)) s = .ok s s := rfl
  rw [bind_of_ok here, unbound]
  rfl

theorem quiet_builderNamed (name : String) : Quiet (builderNamed name) s := by
  cases found : s.extra.builders.find? name with
  | some b => exact quiet_of_ok (builderNamed_of_bound found)
  | none => exact quiet_of_error (builderNamed_of_unbound found)

/-- A name that is resolved is bound to what it is resolved to. -/
theorem bound_of_builderNamed {name : String} (h : builderNamed name s = .ok b s) :
    s.extra.builders.find? name = some b := by
  cases found : s.extra.builders.find? name with
  | some c =>
      cases (builderNamed_of_bound found).symm.trans h
      rfl
  | none => cases (builderNamed_of_unbound found).symm.trans h

theorem quiet_readSpec (spec : Spec) : Quiet (read spec) s :=
  quiet_settle (spec.read s.extra.nodes.find?)

theorem quiet_makeSpec (spec : Spec) : Quiet (make spec) s :=
  quiet_settle (spec.make s.extra.nodes.find?)

theorem quiet_findEqual (seen : List Value) (specs : List Spec) :
    Quiet (findEqual seen specs) s := by
  induction specs generalizing seen with
  | nil => exact quiet_pure _
  | cons spec rest ih =>
      refine (quiet_readSpec spec).bind ?_
      intro value _
      cases value.changeable? with
      | some part => exact quiet_throw _
      | none => exact ih _

theorem Argument.quiet_check (argument : Argument) : Quiet argument.check s := by
  cases argument with
  | builder name => exact (quiet_builderNamed name).discard
  | _ => exact quiet_pure ()

theorem Argument.quiet_given (path : List Nat) (argument : Argument) :
    Quiet (argument.given path) s := by
  cases argument with
  | builder name => exact (quiet_builderNamed name).bind fun b _ => quiet_pure _
  | node spec => exact (quiet_readSpec spec).bind fun value _ => quiet_pure _
  | _ => exact quiet_pure _

/-- Whether it is a builder of some class can be asked of every builder that can be
read. -/
theorem quiet_isOf (readable : s.store.Readable b) (base : ClassId) :
    Quiet (call.isOf b base) s := by
  unfold Caller.isOf
  refine quiet_observe_bind ?_
  cases s.store.isMasked b with
  | true =>
      show Quiet (discard _ >>= _) s
      exact (Caller.quiet_read _ readable kindName).discard.bind fun _ _ => quiet_throw _
  | false => exact quiet_observe _

/-- What is given as an argument is run only if it is a block. -/
theorem Argument.ne_function_of_given {argument : Argument} {path : List Nat}
    {given : Option (Given Names)} {t : Session Names}
    (other : ∀ inner steps, argument ≠ .block inner steps)
    (run : argument.given path s = .ok given t) (init : Init Names) :
    given ≠ some (.function init) := by
  rintro rfl
  cases argument with
  | block inner steps => exact other inner steps rfl
  | builder name =>
      obtain ⟨b, u, _, ended⟩ := bind_eq_ok.1 run
      cases ended
  | node spec =>
      obtain ⟨value, u, _, ended⟩ := bind_eq_ok.1 run
      cases ended
  | absent => cases run
  | value held => cases run

theorem quiet_present (readable : s.store.Readable b) : Quiet (present b) s := by
  unfold present
  refine quiet_observe_bind ?_
  cases s.store.foreign? b with
  | some value => exact quiet_pure _
  | none =>
      refine (Caller.quiet_inspect _ readable).bind ?_
      intro _ _
      refine quiet_observe_bind ?_
      refine (quiet_isOf readable _).bind ?_
      intro isBuilder _
      cases isBuilder with
      | true => exact quiet_pure _
      | false =>
          refine quiet_observe_bind ?_
          cases s.store.canBeCalled b <;> exact quiet_pure _

/-- Whether a step only looks at what there is. -/
def Step.looks : Step → Bool
  | .elements _ => true
  | .get _ _ => true
  | .node _ => true
  | .outline _ => true
  | .compare _ _ => true
  | .distinct _ => true
  | .getField _ _ => true
  | .setField _ _ => true
  | .deleteField _ _ => true
  | .fail _ => true
  | _ => false

/-- Looking changes nothing; what an attribute is read of has to be readable. -/
theorem Step.quiet_answer {step : Step} {path : List Nat} (looks : step.looks = true)
    (readable : ∀ on name, step = .get on name → ∀ b, s.store.Readable b) :
    Quiet (step.answer path) s := by
  cases step with
  | elements className =>
      rw [Step.answer]
      exact (quiet_query _).bind fun id _ => (quiet_query _).bind fun value _ => quiet_pure _
  | get on name =>
      rw [Step.answer]
      refine (quiet_builderNamed on).bind ?_
      intro b _
      exact (Caller.quiet_read _ (readable on name rfl b) name).bind fun found _ => quiet_pure _
  | node spec =>
      rw [Step.answer]
      exact (quiet_readSpec spec).bind fun value _ => quiet_pure _
  | outline spec =>
      rw [Step.answer]
      exact (quiet_makeSpec spec).bind fun node _ => quiet_pure _
  | compare first second =>
      rw [Step.answer]
      refine (quiet_readSpec first).bind ?_
      intro a _
      exact (quiet_readSpec second).bind fun b _ => quiet_pure _
  | distinct specs =>
      rw [Step.answer]
      exact (quiet_findEqual [] specs).bind fun positions _ => quiet_pure _
  | getField spec name =>
      rw [Step.answer]
      refine (quiet_readSpec spec).bind ?_
      intro value _
      refine (quiet_settle _).bind ?_
      intro found _
      cases found <;> exact quiet_pure _
  | setField spec name =>
      rw [Step.answer]
      exact (quiet_readSpec spec).bind fun value _ => quiet_throw _
  | deleteField spec name =>
      rw [Step.answer]
      exact (quiet_readSpec spec).bind fun value _ => quiet_throw _
  | fail message =>
      rw [Step.answer]
      exact quiet_throw _
  | _ => cases looks

/-- A builder that shows what it has gathered can be asked for all there is to see. -/
theorem exists_glimpse {content : Content} (shows : s.store.Shows b content) :
    ∃ seen, glimpse b s = .ok seen s := by
  have isFlow : b.isFlow s = .ok (s.store.isOf b Standard.flowBuilder) s := by
    have unmasked : s.store.isMasked b = false := by
      unfold Store.isMasked Store.hook?
      rw [shows.member?, shows.member?]
      cases content <;> rfl
    show Caller.isOf call b _ s = _
    unfold Caller.isOf
    rw [observe_bind, unmasked]
    rfl
  have missing : outcome (b.callOwn "missing") s =
      .ok (.ok (.list (Value.texts content.missing))) s := by
    have own : b.callOwn "missing" s = .ok (.list (Value.texts content.missing)) s :=
      Caller.own_missing 999 shows
    rw [outcome_apply, own]
  obtain ⟨finalized, read, _⟩ : ∃ value, b.read "is_finalized" s = .ok (.value value) s ∧ _ := by
    obtain ⟨owner, member⟩ : ∃ owner,
        s.store.member? b "is_finalized" = some (owner, .property .isFinalized) := by
      rw [shows.member?]
      cases content <;> exact ⟨_, rfl⟩
    exact call.read_property shows (by decide) member
  unfold glimpse
  rw [bind_of_ok isFlow, bind_of_ok missing, bind_of_ok read]
  cases flow : s.store.isOf b Standard.flowBuilder with
  | false => exact ⟨_, rfl⟩
  | true =>
      obtain ⟨owner, member⟩ : ∃ owner,
          s.store.member? b "children" = some (owner, .property .children) := by
        unfold Store.isOf ClassTable.inherits at flow
        rw [shows.classId, shows.library.line content.product.inside] at flow
        rw [shows.member?]
        cases content with
        | document first second => exact absurd flow (by decide : ¬decide
            (Standard.flowBuilder ∈ Standard.classes.line Standard.documentBuilder) = true)
        | head title => exact absurd flow (by decide : ¬decide
            (Standard.flowBuilder ∈ Standard.classes.line Standard.headBuilder) = true)
        | body children => exact ⟨_, rfl⟩
        | division children ident className => exact ⟨_, rfl⟩
      obtain ⟨_, read, items⟩ := call.read_property shows (by decide) member
      obtain ⟨children, rfl⟩ := items rfl
      rw [if_pos rfl]
      exact ⟨_, bind_of_ok read⟩

end Looking

/-! ### What programs come to -/

variable {made : BuilderRef → ClassId → Options → Prop} {s t u : Session Names}

/-- A session that its trace explains, with all the builders of an earlier one. -/
structure InStep (made : BuilderRef → ClassId → Options → Prop) (s t : Session Names) :
    Prop where
  tracked : Tracked made t.extra.trace t
  grown : s.store.Grown t.store

/-- What a program that is begun in `s` comes to. When it fails, the trace explains the
session; when it has answered, the trace does so with any entry about that answer. -/
inductive Explained {α : Type} (made : BuilderRef → ClassId → Options → Prop)
    (s : Session Names) (about : α → Entry → Prop) :
    EStateM.Result Fault (Session Names) α → Prop
  | failed {t : Session Names} (fault : Fault) (after : InStep made s t) :
      Explained made s about (.error fault t)
  | answered {t : Session Names} (a : α) (grown : s.store.Grown t.store)
      (tracked : ∀ entry, about a entry → Tracked made (t.extra.trace ++ [entry]) t) :
      Explained made s about (.ok a t)

/-- An entry that tells of nothing done to builders, and of no builder but those there. -/
structure Entry.Silent (entry : Entry) (s : Session Names) : Prop where
  idle : entry.Idle
  old : ∀ b, entry.target = some b → b.index < s.store.builders.length

theorem Entry.Silent.later {entry : Entry} (silent : entry.Silent s)
    (grown : s.store.Grown t.store) : entry.Silent t :=
  ⟨silent.idle, fun b target => Nat.lt_of_lt_of_le (silent.old b target) grown.length⟩

namespace InStep

theorem refl (tracked : Tracked made s.extra.trace s) : InStep made s s :=
  ⟨tracked, .refl s.store⟩

theorem trans (first : s.store.Grown u.store) (second : InStep made u t) : InStep made s t :=
  ⟨second.tracked, first.trans second.grown⟩

end InStep

namespace Explained

variable {α β : Type} {about : α → Entry → Prop} {other : β → Entry → Prop}

/-- What was done before does not matter. -/
theorem trans {result : EStateM.Result Fault (Session Names) α} (first : s.store.Grown u.store)
    (second : Explained made u about result) : Explained made s about result := by
  cases second with
  | failed fault after => exact .failed fault (.trans first after)
  | answered a grown tracked => exact .answered a (first.trans grown) tracked

/-- All builders are still there at the end. -/
theorem grown_left {m : ScriptM α} (explained : Explained made s about (m u)) :
    s.store.Grown (left m u).store := by
  unfold left
  generalize m u = result at explained ⊢
  cases explained with
  | failed fault after => exact after.grown
  | answered a grown tracked => exact grown

/-- The answer may be put another way. -/
theorem map {m : ScriptM α} {f : α → β} (explained : Explained made s about (m s))
    (same : ∀ a entry, other (f a) entry → about a entry) :
    Explained made s other ((m >>= fun a => pure (f a)) s) := by
  generalize run : m s = result at explained
  cases explained with
  | failed fault after =>
      rw [bind_of_error run]
      exact .failed fault after
  | answered a grown tracked =>
      rw [bind_of_ok run]
      exact .answered (f a) grown fun entry told => tracked entry (same a entry told)

/-- A program may look first. -/
theorem after_looking {m : ScriptM β} {k : β → ScriptM α} (tracked : Tracked made s.extra.trace s)
    (quiet : Quiet m s) (next : ∀ b, m s = .ok b s → Explained made s about (k b s)) :
    Explained made s about ((m >>= k) s) := by
  rcases quiet.cases with ⟨fault, eq⟩ | ⟨b, eq⟩
  · rw [bind_of_error eq]
    exact .failed fault (.refl tracked)
  · rw [bind_of_ok eq]
    exact next b eq

/-- A program may run another one first, and what has come of that is still there at its
end. -/
theorem after_run {m : ScriptM β} {k : β → ScriptM α} (first : InStep made s (left m u))
    (next : ∀ b t, m u = .ok b t → InStep made s t → Explained made t about (k b t)) :
    Explained made s about ((m >>= k) u) ∧
      (left m u).store.Grown (left (m >>= k) u).store := by
  cases run : m u with
  | error fault t =>
      have failed := bind_of_error (k := k) run
      rw [left_of_error run] at first ⊢
      rw [failed, left_of_error failed]
      exact ⟨.failed fault first, .refl t.store⟩
  | ok b t =>
      have goes := bind_of_ok (k := k) run
      rw [left_of_ok run] at first ⊢
      have explained := next b t run first
      rw [goes, left_congr goes]
      exact ⟨.trans first.grown explained, explained.grown_left⟩

/-- A program may answer when there is nothing to tell about its answer. -/
theorem of_silent {a : α} (after : InStep made s t)
    (silent : ∀ entry, about a entry → entry.Silent s) : Explained made s about (.ok a t) :=
  .answered a after.grown fun entry told =>
    have silent := (silent entry told).later after.grown
    after.tracked.idle silent.idle silent.old

/-- A program may do nothing but look. -/
theorem of_quiet {m : ScriptM α} (tracked : Tracked made s.extra.trace s) (quiet : Quiet m s)
    (silent : ∀ a entry, about a entry → entry.Silent s) : Explained made s about (m s) := by
  rcases quiet.cases with ⟨fault, eq⟩ | ⟨a, eq⟩
  · rw [eq]
    exact .failed fault (.refl tracked)
  · rw [eq]
    exact .of_silent (.refl tracked) (silent a)

end Explained

/-! ### Entries -/

/-- An entry of a step that was begun in `s` and has so answered. -/
structure Records (step : Step) (s : Session Names) (answer : Answer) (entry : Entry) : Prop where
  core : entry.step.core = step.core
  target : entry.target = step.target? s.extra
  result : entry.result = .ok answer

/-- The entry of a step is written if the builder that it is about can be asked. -/
theorem recorded_eq (path : List Nat) {step : Step} {body : ScriptM Answer}
    {result : Except Fault Answer} (run : outcome body s = .ok result t)
    (asked : ∀ b, step.target? t.extra = some b → ∃ seen, glimpse b t = .ok seen t) :
    ∃ fault seen, recorded path step body s = .ok fault { t with
      extra := { t.extra with
        trace := t.extra.trace ++
          [{ path, step, target := step.target? s.extra, result, glimpse := seen }] } } := by
  show ∃ fault seen, (outcome body >>= _) s = _
  rw [bind_of_ok run]
  have here : (get : ScriptM (Session Names)) t = .ok t t := rfl
  rw [bind_of_ok here]
  cases target : step.target? t.extra with
  | none => cases result <;> exact ⟨_, none, rfl⟩
  | some b =>
      obtain ⟨seen, eq⟩ := asked b target
      have looked : (some <$> glimpse b : ScriptM _) t = .ok (some seen) t := by
        rw [← bind_pure_comp, bind_of_ok eq]
        rfl
      show ∃ fault seen, ((some <$> glimpse b) >>= _) t = _
      rw [bind_of_ok looked]
      cases result <;> exact ⟨_, some seen, rfl⟩

/-- A step is recorded, and then the trace explains the session again. -/
theorem recorded_of_explained {path : List Nat} {step : Step} {body : ScriptM Answer}
    (tracked : Tracked made s.extra.trace s)
    (explained : Explained made s (Records step s) (body s)) :
    ∃ fault t, recorded path step body s = .ok fault t ∧ InStep made s t ∧
      t.store = (left body s).store := by
  obtain ⟨result, t, run, store, grown, told⟩ : ∃ result t, outcome body s = .ok result t ∧
      t.store = (left body s).store ∧ s.store.Grown t.store ∧ ∀ seen, Tracked made (t.extra.trace ++
        [{ path, step, target := step.target? s.extra, result, glimpse := seen }]) t := by
    rw [outcome_apply, left]
    generalize body s = ended at explained
    cases explained with
    | answered a grown tracked =>
        exact ⟨_, _, rfl, rfl, grown, fun seen => tracked _ ⟨rfl, rfl, rfl⟩⟩
    | failed fault after =>
        -- The entry of a failure tells of nothing that has been done.
        refine ⟨_, _, rfl, rfl, after.grown, fun seen => after.tracked.idle (.of_error rfl) ?_⟩
        intro b target
        exact Nat.lt_of_lt_of_le (tracked.inside_of_target target) after.grown.length
  -- The entry shows the builder as well, and a builder that the trace explains can be asked.
  have asked : ∀ b, step.target? t.extra = some b → ∃ seen, glimpse b t = .ok seen t := by
    intro b target
    obtain ⟨_, _, _, shows⟩ := (told none).shows b ((told none).inside_of_target target)
    exact exists_glimpse shows
  obtain ⟨fault, seen, eq⟩ := recorded_eq path run asked
  exact ⟨fault, _, eq, ⟨(told seen).names (told seen).bound, grown⟩, store⟩

/-! ### Blocks inside calls -/

/-- An entry of a call of a member of `b` that has answered with a value. -/
structure Tells (b : BuilderRef) (member : String) (value : Value) (entry : Entry) : Prop where
  target : entry.target = some b
  deed : ∀ c, entry.deed? c = if b = c then Deed.ofAnswer? member value else none

variable {b child : BuilderRef} {content : Content} {name : String}

/-- Creating a builder of a class that has builders is refused or comes to a new one. -/
theorem create_inStep (tracked : Tracked made s.extra.trace s) (product : Product)
    {options : Options}
    (known : ∀ child u, create product.builderId options s = .ok child u →
      made child product.builderId options) :
    (∃ fault, (create product.builderId options : ScriptM BuilderRef) s = .error fault s) ∨
      ∃ child u, (create product.builderId options : ScriptM BuilderRef) s = .ok child u ∧
        InStep made s u ∧ child.index = s.store.builders.length ∧ u.store.IsA child product := by
  have created := call.create_eq tracked.library product options
  cases bound : product.signature.bind none options with
  | error fault =>
      rw [bound] at created
      exact .inl ⟨fault, created⟩
  | ok bindings =>
      rw [bound] at created
      have added := tracked.add (known _ _ created)
      have new := (Store.shows_add_new tracked.library product options).isA
      rw [Content.product_start] at new
      exact .inr ⟨_, _, created, ⟨added, .add _ _⟩, rfl, new⟩

/-- What is left when something that was given, if it was, has run on a builder. -/
def leftBy (given : Option (Given Names)) (child : BuilderRef) (s : Session Names) :
    Session Names :=
  match given with
  | some (.function init) => left (init child) s
  | _ => s

/-- Only functions can be run. -/
theorem left_run (call : Caller Names) (tracked : Tracked made s.extra.trace s)
    (given : Given Names) (child : BuilderRef) :
    left (call.run given child) s = leftBy (some given) child s := by
  cases given with
  | builder callee =>
      have uncalled := tracked.uncalled callee
      have refused : call.run (.builder callee) child s =
          .error (.notCallable (s.store.className callee)) s := by
        show (observe _ >>= _) s = _
        rw [observe_bind, uncalled]
        rfl
      exact left_of_error refused
  | _ => rfl

/-- The absent value runs as nothing does. -/
theorem leftBy_init? (arguments : Arguments Names) (child : BuilderRef) (s : Session Names) :
    leftBy arguments.init? child s = leftBy arguments.first child s := by
  unfold Arguments.init?
  split
  · next given => rw [given]; rfl
  · rfl

/-- An element that a member has answered with and that was gathered is what an entry of the
call tells of. -/
theorem Explained.of_gathered (after : InStep made s t) {product : Product} {options : Options}
    {node : Node} {store : Store} (known : made b product.builderId options)
    (gathered : t.store.Gathered b ((product.start options).after (history b t.extra.trace)) name
      (.node node) store) :
    Explained made s (Tells b name) (.ok (.node node) { t with store }) := by
  refine .answered _ (after.grown.trans (.of_gathered gathered)) ?_
  intro entry told
  exact after.tracked.deed known told.target told.deed gathered.shows gathered.one

variable {given : Option (Given Names)} {options : Options}

/-- Finalizing and attaching does what an entry of the call tells. -/
theorem fromBuild_explained (opener : Opener) (has : opener.entry ∈ content.members)
    (tracked : Tracked made s.extra.trace s) (parent : s.store.IsA b content.product)
    (opened : s.store.IsA child opener.product) :
    Explained made s (Tells b opener.name)
      ((opener.opening b given options).fromBuild (.upTo 999) child s) := by
  obtain ⟨start, known, shown⟩ := tracked.shows_of_isA parent
  obtain ⟨taken, _, built⟩ := tracked.shows_of_isA opened
  have same : ((content.product.start start).after (history b s.extra.trace)).product =
      content.product := by
    rw [Content.product_after, Content.product_start]
  have member : opener.entry ∈ ((content.product.start start).after
      (history b s.extra.trace)).members := by
    rw [Content.members_congr same]
    exact has
  -- The parent may have got more while the block ran. It shows that too, since the trace tells
  -- of it.
  by_cases complete :
      ((opener.product.start taken).after (history child s.extra.trace)).missing = []
  · obtain ⟨store, eq, gathered⟩ := Opening.fromBuild_of_complete
      (opener.opening b given options) 997 rfl member shown built complete
    rw [eq]
    refine .of_gathered (t := { s with store := s.store.finalizedInto child _ }) ?_ known gathered
    exact ⟨tracked.finalizedInto child _, .finalizedInto s.store child _⟩
  · rw [Opening.fromBuild_of_missing (opener.opening b given options) 997 built complete]
    exact .failed _ (.refl tracked)

/-- Once the builder is created, opening its scope does what an entry of the call tells, if
the block does its part. What the block leaves is still there at the end. -/
theorem fromInit_explained (opener : Opener) (has : opener.entry ∈ content.members)
    (tracked : Tracked made s.extra.trace s) (parent : s.store.IsA b content.product)
    (opened : s.store.IsA child opener.product) (block : InStep made s (leftBy given child s)) :
    Explained made s (Tells b opener.name)
        ((opener.opening b given options).fromInit (.upTo 999) child s) ∧
      (leftBy given child s).store.Grown
        (left ((opener.opening b given options).fromInit (.upTo 999) child) s).store := by
  have prepared : left ((opener.opening b given options).prepare (.upTo 999) child) s =
      leftBy given child s := by
    cases given with
    | none => rfl
    | some given => exact left_run _ tracked given child
  rw [← prepared] at block ⊢
  exact Explained.after_run block fun _ t _ after => fromBuild_explained opener has after.tracked
    (after.grown.isA parent) (after.grown.isA opened)

/-- Opening a scope is creating a builder and going on with it. -/
theorem opening_eq (opener : Opener) (library : s.store.classes.HasLibrary) :
    (opener.opening b given options).run (.upTo 999) s =
      (create opener.product.builderId options >>=
        (opener.opening b given options).fromInit (.upTo 999)) s := by
  rw [opener.run_eq _ library, bind_apply]
  have created := call.create_eq library opener.product options
  cases bound : opener.product.signature.bind none options with
  | error fault =>
      rw [bound] at created
      rw [show create opener.product.builderId options s = _ from created]
  | ok bindings =>
      rw [bound] at created
      rw [show create opener.product.builderId options s = _ from created]

/-- Opening a scope does what an entry of the call tells, if the block does its part. -/
theorem opening_explained (opener : Opener) (tracked : Tracked made s.extra.trace s)
    (shows : s.store.Shows b content) (has : opener.entry ∈ content.members)
    (known : ∀ child u, create opener.product.builderId options s = .ok child u →
      made child opener.product.builderId options)
    (block : ∀ child u, create opener.product.builderId options s = .ok child u →
      Tracked made u.extra.trace u → child.index < u.store.builders.length →
      InStep made u (leftBy given child u)) :
    Explained made s (Tells b opener.name)
      ((opener.opening b given options).run (.upTo 999) s) := by
  rw [opening_eq opener tracked.library]
  rcases create_inStep tracked opener.product known with
    ⟨fault, eq⟩ | ⟨child, u, eq, added, _, opened⟩
  · rw [bind_of_error eq]
    exact .failed fault (.refl tracked)
  rw [bind_of_ok eq]
  exact .trans added.grown (fromInit_explained opener has added.tracked
    (added.grown.isA shows.isA) opened (block child u eq added.tracked opened.inside)).1

/-- Finalizing a builder by itself does nothing that others would show. -/
theorem own_build_explained {about : Value → Entry → Prop} (tracked : Tracked made s.extra.trace s)
    {product : Product} (isA : s.store.IsA child product)
    (silent : ∀ value entry, about value entry → entry.Silent s) :
    Explained made s about (call.own child "build" s) := by
  obtain ⟨taken, _, shows⟩ := tracked.shows_of_isA isA
  show Explained made s about (Caller.own (.upTo (998 + 2)) child "build" s)
  rw [Caller.own_build 998 shows]
  by_cases complete :
      ((product.start taken).after (history child s.extra.trace)).missing = []
  · rw [Caller.build_of_complete 998 shows complete]
    exact .of_silent ⟨tracked.finalizedInto child _, .finalizedInto s.store child _⟩ (silent _)
  · rw [Caller.build_of_missing 998 shows complete]
    exact .failed _ (.refl tracked)

/-- Once its builder is created, building a document does nothing to other builders, if the
block does its part. What the block leaves is still there at the end. -/
theorem document_explained {about : Value → Entry → Prop} (given : Given Names)
    (tracked : Tracked made s.extra.trace s) (opened : s.store.IsA child .document)
    (block : InStep made s (leftBy (some given) child s))
    (silent : ∀ value entry, about value entry → entry.Silent s) :
    Explained made s about ((call.run given child >>= fun _ => call.own child "build") s) ∧
      (leftBy (some given) child s).store.Grown
        (left (call.run given child >>= fun _ => call.own child "build") s).store := by
  rw [← left_run call tracked given child] at block ⊢
  exact Explained.after_run block fun _ t _ after =>
    own_build_explained after.tracked (after.grown.isA opened) fun value entry told =>
      (silent value entry told).later after.grown

/-- Building a document is creating its builder and going on with it. -/
theorem htmlOf_eq (given : Given Names) : htmlOf { first := some given } s =
    (create Product.document.builderId [] >>= fun doc =>
      call.run given doc >>= fun _ => call.own doc "build") s := rfl

/-- Building a document does nothing to other builders, if the block does its part. -/
theorem htmlOf_explained {about : Value → Entry → Prop} (tracked : Tracked made s.extra.trace s)
    (first : Option (Given Names))
    (known : ∀ doc u, first.isSome → create Standard.documentBuilder [] s = .ok doc u →
      made doc Standard.documentBuilder [])
    (block : ∀ doc u, create Standard.documentBuilder [] s = .ok doc u →
      Tracked made u.extra.trace u → doc.index < u.store.builders.length →
      InStep made u (leftBy first doc u))
    (silent : ∀ value entry, about value entry → entry.Silent s) :
    Explained made s about (htmlOf { first } s) := by
  cases first with
  | none => exact .failed _ (.refl tracked)
  | some given =>
      rw [htmlOf_eq]
      rcases create_inStep tracked .document fun doc u => known doc u rfl with
        ⟨fault, eq⟩ | ⟨doc, u, eq, added, _, opened⟩
      · rw [bind_of_error eq]
        exact .failed fault (.refl tracked)
      rw [bind_of_ok eq]
      exact .trans added.grown (document_explained given added.tracked opened
        (block doc u eq added.tracked opened.inside)
        fun value entry told => (silent value entry told).later added.grown).1

/-! ### Calls -/

/-- An answer that is no element tells of nothing. -/
theorem Tells.silent {entry : Entry} {value : Value} (told : Tells b name value entry)
    (inside : b.index < s.store.builders.length)
    (nothing : ∀ (content : Content), content.after (Deed.ofAnswer? name value).toList = content) :
    entry.Silent s where
  idle := by
    intro c content
    rw [told.deed c]
    split
    · exact nothing content
    · rfl
  old := by
    intro c target
    rw [told.target] at target
    cases target
    exact inside

/-- Calling a public member does what an entry of it tells, if the block does its part. -/
theorem call_explained {found : Found} {first : Option (Given Names)} {options : Options}
    (tracked : Tracked made s.extra.trace s) (inside : b.index < s.store.builders.length)
    (shown : isPrivate name = false) (read : b.read name s = .ok found s)
    (known : ∀ id child u, Opens s b name options id child u → made child id options)
    (block : ∀ id child u, Opens s b name options id child u → Tracked made u.extra.trace u →
      child.index < u.store.builders.length → InStep made u (leftBy first child u)) :
    Explained made s (Tells b name) (call b found { first, options } s) := by
  obtain ⟨product, start, created, shows⟩ := tracked.shows b inside
  rcases Caller.read_public Caller.depthLimit shows shown with
    ⟨fault, eq⟩ | ⟨value, eq⟩ | ⟨owner, member, has, eq⟩
  · cases eq.symm.trans read
  · cases eq.symm.trans read
    exact .failed _ (.refl tracked)
  cases eq.symm.trans read
  -- A method runs no block, an opener runs the one that is given, and what is computed cannot
  -- be called.
  rcases Content.called_of_mem has with ⟨method, rfl⟩ | ⟨opener, same⟩ | ⟨property, rfl⟩
  · have ends := call_method_ends owner shows has ⟨first, options⟩ tracked.plain
    generalize call b _ _ s = ended at ends
    cases ends with
    | failed fault => exact .failed fault (.refl tracked)
    | looked answer other =>
        refine .of_silent (.refl tracked) fun entry told => told.silent inside fun content => ?_
        cases answer with
        | node node => exact absurd rfl (other node)
        | _ => rfl
    | built build =>
        subst build
        refine .of_silent ⟨tracked.finalizedInto b _, .finalizedInto s.store b _⟩
          fun entry told => told.silent inside fun content => ?_
        cases content <;> rfl
    | gathered node after gathered => exact .of_gathered (.refl tracked) created gathered
  · cases same
    have opens : ∀ child u, create opener.product.builderId options s = .ok child u →
        Opens s b opener.name options opener.product.builderId child u := fun child u created =>
      ⟨⟨owner, _, _, read, rfl⟩, created⟩
    show Explained made s _ (call b (.callable owner opener.name opener.entry.2) _ s)
    rw [opener.call_eq]
    refine opening_explained opener tracked shows has
      (fun child u created => known _ child u (opens child u created)) ?_
    intro child u created tracked inside
    rw [leftBy_init?]
    exact block _ child u (opens child u created) tracked inside
  · exact .of_silent (.refl tracked) fun entry told => told.silent inside fun content => rfl

/-! ### Other steps -/

/-- Assigning an identifier or a class does what an entry of it tells. -/
theorem write_explained (tracked : Tracked made s.extra.trace s)
    (inside : b.index < s.store.builders.length) (own : name = "id" ∨ name = "class_name")
    (value : Value) :
    Explained made s (fun _ entry => entry.target = some b ∧
      ∀ c, entry.deed? c = if b = c then some (.set name value) else none)
      (b.write name value s) := by
  obtain ⟨product, options, known, shows⟩ := tracked.shows b inside
  have mine : name ∈ attributeNames := by rcases own with rfl | rfl <;> decide
  have written : b.write name value s = .ok () _ := Caller.perform_write shows mine value
  rw [written]
  refine .answered () (.assign s.store b name value) ?_
  intro entry told
  exact tracked.deed known told.1 told.2 (shows.assigned own value) ⟨_, _, rfl⟩

/-- Binding a builder to a name changes nothing about it. -/
theorem exists_bindBuilder (tracked : Tracked made s.extra.trace s)
    (inside : b.index < s.store.builders.length) (name : String) :
    ∃ t, bindBuilder name b s = .ok () t ∧ t.store = s.store ∧ Tracked made t.extra.trace t := by
  refine ⟨_, rfl, rfl, tracked.names fun other c found => ?_⟩
  -- The name is the only one that is bound anew.
  by_cases same : other = name
  · subst same
    rw [Bindings.find?_bind_self] at found
    cases found
    exact inside
  · rw [Bindings.find?_bind_of_ne _ same] at found
    exact tracked.bound other c found

/-- The classes that names are bound to have builders or are abstract. -/
theorem named_cases (classes : s.store.classes = Standard.classes) {className : String} {id : ClassId}
    (named : s.store.classes.named className = .ok id) :
    (∃ product : Product, id = product.builderId) ∨
      id = Standard.builderBase ∨ id = Standard.flowBuilder := by
  have all : ∀ entry ∈ Standard.classes.names.entries,
      (∃ product : Product, entry.2 = product.builderId) ∨
        entry.2 = Standard.builderBase ∨ entry.2 = Standard.flowBuilder := by
    intro entry inside
    simp only [Standard.classes, List.mem_cons, List.not_mem_nil, or_false] at inside
    rcases inside with rfl | rfl | rfl | rfl | rfl | rfl
    · exact .inr (.inl rfl)
    · exact .inr (.inr rfl)
    · exact .inl ⟨.document, rfl⟩
    · exact .inl ⟨.head, rfl⟩
    · exact .inl ⟨.body, rfl⟩
    · exact .inl ⟨.division, rfl⟩
  unfold ClassTable.named at named
  rw [classes] at named
  split at named
  · next found =>
      cases named
      exact all _ (Bindings.mem_of_findIn found)
  · cases named

/-- Abstract classes have no builders. -/
theorem create_abstract (classes : s.store.classes = Standard.classes) {id : ClassId}
    (abstract : id = Standard.builderBase ∨ id = Standard.flowBuilder) (options : Options) :
    ∃ fault, (create id options : ScriptM BuilderRef) s = .error fault s := by
  have make : s.store.classes.hook? id .make = none := by
    rw [classes]
    rcases abstract with rfl | rfl <;> rfl
  obtain ⟨fault, refused⟩ : ∃ fault, s.store.initializer id = .error fault := by
    unfold Store.initializer
    rw [classes]
    rcases abstract with rfl | rfl <;> exact ⟨_, rfl⟩
  refine ⟨fault, ?_⟩
  show (observe _ >>= _) s = _
  rw [observe_bind, make]
  have failed : (query fun store => store.initializer id : ScriptM _) s = .error fault s := by
    rw [query_apply, refused]
  exact bind_of_error failed

/-- Binding and presenting a new builder changes nothing about it. -/
theorem present_explained {about : Answer → Entry → Prop} (tracked : Tracked made s.extra.trace s)
    (inside : b.index < s.store.builders.length) (name : String)
    (silent : ∀ answer entry, about answer entry → entry.Silent s) :
    Explained made s about ((bindBuilder name b >>= fun _ => present b) s) := by
  obtain ⟨t, bound, store, tracked⟩ := exists_bindBuilder tracked inside name
  have grown : s.store.Grown t.store := store ▸ .refl s.store
  rw [bind_of_ok bound]
  exact .trans grown (.of_quiet tracked (quiet_present (tracked.plain b).1.readable)
    fun answer entry told => (silent answer entry told).later grown)

/-- Creating a builder of a class of some name is refused or comes to a new builder. -/
theorem new_explained {about : Answer → Entry → Prop} (tracked : Tracked made s.extra.trace s)
    (className : String) (options : Options)
    (known : ∀ id child u, s.store.classes.named className = .ok id →
      create id options s = .ok child u → made child id options)
    (silent : ∀ answer entry, about answer entry → entry.Silent s) :
    Explained made s about ((do
      let id ← query fun store => store.classes.named className
      let b ← create id options
      bindBuilder name b
      present b : ScriptM Answer) s) := by
  refine .after_looking tracked (quiet_query _) ?_
  intro id named
  have named := (query_eq_ok.1 named).1
  rcases named_cases tracked.classes named with ⟨product, rfl⟩ | abstract
  · rcases create_inStep tracked product fun child u => known _ child u named with
      ⟨fault, eq⟩ | ⟨child, u, eq, added, _, isA⟩
    · rw [bind_of_error eq]
      exact .failed fault (.refl tracked)
    · rw [bind_of_ok eq]
      exact .trans added.grown (present_explained added.tracked isA.inside name
        fun answer entry told => (silent answer entry told).later added.grown)
  · obtain ⟨fault, refused⟩ := create_abstract tracked.classes abstract options
    rw [bind_of_error refused]
    exact .failed fault (.refl tracked)

end ScopedHtml.Script
