import ScopedHtml.Proofs.ParallelArguments

/-!
# ScopedHtml.Proofs.ParallelReads

**Reading and asking in parallel.** A caller carries calls out alike (`Caller.Alike`) if on every
bridge, calls of what builders have that stand for each other run in parallel when they are given
arguments that are alike. Then reading the builders' attributes runs in parallel, and so does
asking builders that are only passed on for their class.
-/

namespace ScopedHtml

open BuildM

variable {ρ α : Type}

/-! ### Answers -/

/-- What a builder answers when it is built: an element, or what something else says that is
called instead. -/
def Value.Built (value : Value) : Prop :=
  (∃ node, value = .node node) ∨ value = plainAnswer "build" ∨ value = .null

namespace Swap

/-- What calls of a member of this name answer. Lists of supported elements may differ. -/
structure Answers (swap : Swap) (name : String) (answer answer' : Value) : Prop where
  alike : answer' = answer ∨ name = "elements" ∧ ∃ names names', answer = .ofNames names ∧
    answer' = .ofNames names' ∧ (swap.newId = swap.oldId → names' = names)
  built : name = "build" → answer.Built

/-- What calls answer. Values cannot be called. -/
def Answered (swap : Swap) (answer answer' : Value) : Found → Prop
  | .value _ => False
  | .callable _ name _ => swap.Answers name answer answer'

variable {swap : Swap} {name : String} {answer answer' : Value}

theorem Answers.same (other : name ≠ "build") (answer : Value) : swap.Answers name answer answer :=
  ⟨.inl rfl, fun same => absurd same other⟩

theorem Answers.eq (answers : swap.Answers name answer answer') (other : name ≠ "elements") :
    answer' = answer :=
  answers.alike.resolve_right fun lists => other lists.1

theorem Answered.of_found {store : Store} {origin : ClassId × Member}
    (answered : swap.Answered answer answer' (store.found name origin)) :
    swap.Answers name answer answer' := by
  obtain ⟨owner, member⟩ := origin
  cases member with
  | data held => exact answered.elim
  | _ => exact answered

end Swap

/-- What an occasion's member answers is found as a value. -/
def Found.SameValue {ρ : Type} (_ _ : Session ρ) (found found' : Found) : Prop :=
  ∃ held, found = .value held ∧ found' = .value held

namespace Bridge

/-- Builders have the same under a name, now and later. -/
def Shown (bridge : Bridge ρ) (s t : Session ρ) (b b' : BuilderRef) (name : String) : Prop :=
  ∀ u v : Session ρ, Later s t u v →
    bridge.swap.Shown (u.store.get b).classId (v.store.get b').classId name

variable {bridge : Bridge ρ} {s t u v : Session ρ} {b b' : BuilderRef} {name : String}

theorem Shown.later (shown : bridge.Shown s t b b' name) (later : Later s t u v) :
    bridge.Shown u v b b' name :=
  fun x y more => shown x y (later.trans more)

theorem shown (bridge : Bridge ρ) (s t : Session ρ) (b b' : BuilderRef)
    (library : name ∈ libraryNames) : bridge.Shown s t b b' name :=
  fun _ _ _ => bridge.swap.shown _ _ library

/-- The classes of builders stay. -/
theorem Beside.shown (beside : bridge.Beside s t) (paired : bridge.Paired s.store t.store b b')
    (shown : bridge.swap.Shown (s.store.get b).classId (t.store.get b').classId name) :
    bridge.Shown s t b b' name := by
  intro u v later
  have inside := beside.stores.inside paired
  rw [later.left.grown.classId b inside.1, later.right.grown.classId b' inside.2]
  exact shown

end Bridge

/-! ### Calls -/

/-- A caller that carries calls out alike. A builder that is only passed on may be asked for
its class. -/
structure Caller.Alike (call : Caller ρ) : Prop where
  calls : ∀ (bridge : Bridge ρ) {s t : Session ρ} {b b' : BuilderRef} {found found' : Found}
    {arguments arguments' : Arguments ρ}, bridge.Paired s.store t.store b b' →
      bridge.swap.Founds found found' → s.store.Offers b found → t.store.Offers b' found' →
        bridge.Gives s t arguments arguments' →
          bridge.Parallel s t (fun _ _ answer answer' => bridge.swap.Answered answer answer' found)
            (call b found arguments) (call b' found' arguments')
  asks : ∀ (bridge : Bridge ρ) {s t : Session ρ} {b b' : BuilderRef} {hook : Hook}
    {origin origin' : ClassId × Member}, bridge.seen b b' → hook = .read ∨ hook = .unknown →
      s.store.hook? b hook = some origin → t.store.hook? b' hook = some origin' →
        bridge.swap.Origins origin origin' →
          bridge.Parallel s t Found.SameValue (call.ask b hook origin kindName)
            (call.ask b' hook origin' kindName)

namespace Caller

variable {call : Caller ρ} {bridge : Bridge ρ} {s t : Session ρ} {b b' : BuilderRef}
  {name : String}

/-- Reading runs in parallel if looking a name up does, where nothing is asked in its place, and
what is asked does. -/
theorem parallel_reading {R : Session ρ → Session ρ → Found → Found → Prop}
    {lookup lookup' : BuildM ρ Found} (known : bridge.Known s.store t.store b b')
    (values : ∀ u v held, R u v (.value held) (.value held))
    (asks : ∀ {u v hook origin origin'}, Later s t u v → hook = .read ∨ hook = .unknown →
      u.store.hook? b hook = some origin → v.store.hook? b' hook = some origin' →
        bridge.swap.Origins origin origin' → bridge.Parallel u v Found.SameValue
          (call.ask b hook origin name) (call.ask b' hook origin' name))
    (look : s.store.hook? b .read = none → bridge.Parallel s t R lookup lookup') :
    bridge.Parallel s t R (call.reading b name lookup) (call.reading b' name lookup') := by
  have ask : ∀ {u v hook origin origin'}, Later s t u v → hook = .read ∨ hook = .unknown →
      u.store.hook? b hook = some origin → v.store.hook? b' hook = some origin' →
        bridge.swap.Origins origin origin' → bridge.Parallel u v R
          (call.ask b hook origin name) (call.ask b' hook origin' name) := by
    intro u v hook origin origin' later which has has' origins
    refine (asks later which has has' origins).mono ?_
    rintro u v _ _ ⟨held, rfl, rfl⟩
    exact values u v held
  unfold Caller.reading
  refine .observe_bind fun beside => ?_
  have hook := beside.stores.hook? known .read
  refine .bind (R := fun u v => Outcomes bridge.swap.Faults (R u v)) (.outcome ?_) ?_
  · rcases rel_cases hook with ⟨has, has'⟩ | ⟨origin, origin', has, has', origins⟩
    · rw [has, has']
      exact look has
    · rw [has, has']
      exact ask (.refl s t) (.inl rfl) has has' origins
  · rintro u v result result' later (related | @⟨fault, fault', alike⟩)
    · exact .pure related
    · dsimp only
      refine .observe_bind fun beside => ?_
      have known := known.mono later.left.builders later.right.builders
      have hook := beside.stores.hook? known .unknown
      rw [alike.isAttribute]
      cases fault.isAttribute with
      | false => exact .throw alike
      | true =>
          rcases rel_cases hook with ⟨has, has'⟩ | ⟨origin, origin', has, has', origins⟩
          · rw [has, has']
            exact .throw alike
          · rw [has, has']
            exact ask later (.inr rfl) has has' origins

end Caller

namespace Caller.Alike

variable {call : Caller ρ} (alike : call.Alike) {bridge : Bridge ρ} {s t : Session ρ}
  {b b' : BuilderRef} {name : String}

include alike

/-- What builders that stand for each other provide is called alike. -/
theorem dispatch_offered (paired : bridge.Paired s.store t.store b b')
    {origin origin' : ClassId × Member} (offers : s.store.Offers b (s.store.found name origin))
    (offers' : t.store.Offers b' (t.store.found name origin'))
    (origins : bridge.swap.Origins origin origin') {arguments arguments' : Arguments ρ}
    (gives : bridge.Gives s t arguments arguments') :
    bridge.Parallel s t (fun _ _ => bridge.swap.Answers name)
      (call.dispatch b name origin arguments) (call.dispatch b' name origin' arguments') :=
  .observe_bind fun beside =>
    (alike.calls bridge paired (beside.stores.found name origins) offers offers' gives).mono
      fun _ _ _ _ answered => answered.of_found

theorem dispatch (paired : bridge.Paired s.store t.store b b') {origin origin' : ClassId × Member}
    (has : s.store.member? b name = some origin) (has' : t.store.member? b' name = some origin')
    (origins : bridge.swap.Origins origin origin') {arguments arguments' : Arguments ρ}
    (gives : bridge.Gives s t arguments arguments') :
    bridge.Parallel s t (fun _ _ => bridge.swap.Answers name)
      (call.dispatch b name origin arguments) (call.dispatch b' name origin' arguments') :=
  alike.dispatch_offered paired (Store.offers_member has) (Store.offers_member has') origins gives

theorem ask (paired : bridge.Paired s.store t.store b b') {hook : Hook}
    {origin origin' : ClassId × Member} (has : s.store.hook? b hook = some origin)
    (has' : t.store.hook? b' hook = some origin') (origins : bridge.swap.Origins origin origin')
    (asked : String) :
    bridge.Parallel s t Found.SameValue (call.ask b hook origin asked)
      (call.ask b' hook origin' asked) :=
  (alike.dispatch paired has has' origins (bridge.gives_value s t (.text asked))).map
    fun _ _ answer _ answers =>
      ⟨answer, rfl, congrArg Found.value (answers.eq (by cases hook <;> decide))⟩

theorem reading (paired : bridge.Paired s.store t.store b b') {lookup lookup' : BuildM ρ Found}
    (look : s.store.hook? b .read = none → bridge.Parallel s t
      (fun u v => bridge.swap.Reads u.store v.store b b' name) lookup lookup') :
    bridge.Parallel s t (fun u v => bridge.swap.Reads u.store v.store b b' name)
      (call.reading b name lookup) (call.reading b' name lookup') :=
  parallel_reading (.paired paired) (fun _ _ held => .value held)
    (fun later _ has has' origins => alike.ask
      (paired.mono later.left.builders later.right.builders) has has' origins name) look

theorem readKept (paired : bridge.Paired s.store t.store b b')
    (shown : s.store.hook? b .read = none → bridge.Shown s t b b' name) :
    bridge.Parallel s t (fun u v => bridge.swap.Reads u.store v.store b b' name)
      (call.readKept b name) (call.readKept b' name) :=
  alike.reading paired fun plain =>
    .query fun beside => beside.stores.kept (.paired paired) (shown plain _ _ (.refl s t))

theorem computed (paired : bridge.Paired s.store t.store b b') (property : Property)
    (named : Member.inPlace name (.property property))
    (looks : ∀ other ∈ Member.looks (.property property), bridge.Shown s t b b' other) :
    bridge.Parallel s t (fun u v => bridge.swap.Reads u.store v.store b b' name)
      (call.computed b property) (call.computed b' property) := by
  cases property with
  | isFinalized =>
      obtain rfl := of_decide_eq_true named
      refine (alike.readKept paired fun _ => bridge.shown s t b b' (by decide)).mono ?_
      rintro u v found found' ⟨alike, offers, offers', named⟩
      refine ⟨alike, offers, offers', fun owner other member same => .inr ⟨rfl, ?_⟩⟩
      exact (named owner other member same).resolve_right fun other => by simp at other
  | children =>
      refine (alike.readKept paired fun _ => looks "_children" (by decide)).bind ?_
      intro u v found found' later reads
      rw [reads.alike.items]
      refine (Bridge.Parallel.settle (R := Bridge.Same) (.of_eq .same fun _ => rfl)).map ?_
      rintro _ _ _ items rfl
      exact .value (.tuple items)

/-- What builders have under a name that is not hidden. -/
theorem read (paired : bridge.Paired s.store t.store b b')
    (shown : s.store.hook? b .read = none → bridge.Shown s t b b' name) :
    bridge.Parallel s t (fun u v => bridge.swap.Reads u.store v.store b b' name)
      (call.read b name) (call.read b' name) := by
  refine alike.reading paired fun plain => .observe_bind fun beside => ?_
  have shown := shown plain _ _ (.refl s t)
  have known := Links.Known.paired paired
  have twins := (beside.stores.alike known).twins
  have kept : bridge.Parallel s t (fun u v => bridge.swap.Reads u.store v.store b b' name)
      (query fun store => store.kept b name) (query fun store => store.kept b' name) :=
    .query fun _ => beside.stores.kept known shown
  unfold Store.property?
  rcases rel_cases (beside.stores.member? known shown) with
    ⟨has, has'⟩ | ⟨_, _, has, has', @⟨owner, member, member', members⟩⟩
  · rw [has, has']
    exact kept
  · rw [has, has']
    cases members with
    | opener attachment targets => exact kept
    | same =>
        cases member with
        | property property =>
            exact alike.computed paired property
              (beside.stores.tables.tidy.placed twins.usable.inside
                (ClassTable.has_of_resolve has) id)
              fun other among => beside.shown paired
                (beside.stores.tables.looks twins.stands (ClassTable.has_of_resolve has) among)
        | _ => exact kept

theorem readItems (paired : bridge.Paired s.store t.store b b')
    (shown : s.store.hook? b .read = none → bridge.Shown s t b b' name) :
    bridge.Parallel s t Bridge.Same (call.readItems b name) (call.readItems b' name) :=
  (alike.read paired shown).bind fun _ _ _ _ _ reads => by
    rw [reads.alike.items]
    exact .settle (.of_eq .same fun _ => rfl)

theorem readValue (paired : bridge.Paired s.store t.store b b')
    (shown : s.store.hook? b .read = none → bridge.Shown s t b b' name) :
    bridge.Parallel s t Bridge.Same (call.readValue b name) (call.readValue b' name) :=
  (alike.read paired shown).map fun _ _ _ _ reads => reads.alike.toValue

/-- Builders call alike what they have under the library's names. -/
theorem own (paired : bridge.Paired s.store t.store b b') (library : name ∈ libraryNames)
    (single : name ≠ "is_finalized") :
    bridge.Parallel s t (fun _ _ => bridge.swap.Answers name) (call.own b name)
      (call.own b' name) := by
  refine (alike.read paired fun _ => bridge.shown s t b b' library).bind ?_
  intro u v found found' later reads
  refine (alike.calls bridge (paired.mono later.left.builders later.right.builders) reads.alike
    reads.offers reads.offers' (bridge.gives_options u v [])).mono ?_
  intro _ _ answer answer' answered
  cases found with
  | value held => exact answered.elim
  | callable owner other member =>
      obtain rfl := (reads.named owner other member rfl).resolve_right fun same => single same.1
      exact answered

theorem report {β : Type} {R : Session ρ → Session ρ → α → β → Prop}
    (paired : bridge.Paired s.store t.store b b') (name : String) :
    bridge.Parallel s t R (call.report b name) (call.report b' name) := by
  unfold Caller.report
  refine .observe_bind fun beside => ?_
  have titles := beside.stores.titles (.paired paired)
  split
  · exact .throw (.noPrivateAttribute name titles)
  · refine (alike.own paired (by decide) (by decide)).bind ?_
    rintro u v answer answer' later ⟨same | ⟨_, names, names', rfl, rfl, equal⟩, _⟩
    · obtain rfl := same
      cases answer'.items? with
      | some items => exact .throw (.noElement name titles fun _ => rfl)
      | none => exact .throw (.same _)
    · exact .throw (.noElement name titles fun still => by rw [equal still])

/-- Builders can be asked for their class even if they are only passed on. -/
theorem inspect (known : bridge.Known s.store t.store b b') :
    bridge.Parallel s t Bridge.Same (call.inspect b) (call.inspect b') := by
  have read : bridge.Parallel s t (fun _ _ _ _ => True) (call.read b kindName)
      (call.read b' kindName) := by
    cases known with
    | paired paired =>
        exact (alike.read paired fun _ => bridge.shown s t b b' (by decide)).mono
          fun _ _ _ _ _ => trivial
    | seen seen =>
        refine parallel_reading (.seen seen) (fun _ _ _ => trivial)
          (fun _ which has has' origins => alike.asks bridge seen which has has' origins)
          fun _ => .observe_bind fun beside => ?_
        have known : bridge.Known s.store t.store b b' := .seen seen
        have plain := beside.stores.property?_kindName known
        rw [plain.1, plain.2]
        refine .query fun _ => ?_
        exact (beside.stores.kept known (bridge.swap.shown _ _ (by decide))).mono
          fun _ _ _ => trivial
  unfold Caller.inspect
  refine read.outcome.bind ?_
  rintro u v result result' later (_ | @⟨fault, fault', alike⟩)
  · exact .pure rfl
  · dsimp only
    rw [alike.isAttribute]
    split
    · exact .pure rfl
    · exact .throw alike

/-- Whether builders count as those of one of the library's classes. -/
theorem isOf (paired : bridge.Paired s.store t.store b b') {base : ClassId}
    (library : base.index < Standard.classes.classes.length) :
    bridge.Parallel s t (fun u _ counts counts' => counts' = counts ∧ counts = u.store.isOf b base)
      (call.isOf b base) (call.isOf b' base) := by
  unfold Caller.isOf
  refine .observe_bind fun beside => ?_
  have known := Links.Known.paired paired
  rw [beside.stores.isMasked known]
  split
  · refine (Bridge.Parallel.discard (alike.read paired fun _ =>
      bridge.shown s t b b' (by decide))).bind fun _ _ _ _ _ _ => .throw (.same _)
  · exact .observe fun beside =>
      ⟨beside.stores.tables.inherits (beside.stores.stands known) library, rfl⟩

end Caller.Alike

end ScopedHtml
