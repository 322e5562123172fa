import ScopedHtml.Proofs.ParallelReads

/-!
# ScopedHtml.Proofs.ParallelCalls

**What is called runs in parallel.** Whatever a caller does that carries out alike the calls inside
(`Caller.Alike`) runs in parallel: gathering children, telling what is missing, making elements,
opening scopes and telling classes of others.

A builder that is made is new to all that is carried (`Caller.Alike.create`), since nothing that is
called for it is given a function.
-/

namespace ScopedHtml

open BuildM

variable {ρ : Type}

/-- Builders that stand for each other and that have been made meanwhile; they are of one class in
that case. -/
structure Bridge.Fresh (bridge : Bridge ρ) (kin : Prop) (s t u v : Session ρ) (b b' : BuilderRef) :
    Prop where
  paired : bridge.Paired u.store v.store b b'
  left : s.store.builders.length ≤ b.index
  right : t.store.builders.length ≤ b'.index
  kin : kin → (v.store.get b').classId = (u.store.get b).classId

theorem Bridge.Fresh.mono {bridge : Bridge ρ} {kin : Prop} {s t u v x y : Session ρ}
    {b b' : BuilderRef} (fresh : bridge.Fresh kin s t u v b b')
    (inside : b.index < u.store.builders.length ∧ b'.index < v.store.builders.length)
    (later : Later u v x y) : bridge.Fresh kin s t x y b b' where
  paired := fresh.paired.mono later.left.builders later.right.builders
  left := fresh.left
  right := fresh.right
  kin := fun same => (later.right.grown.classId _ inside.2).trans
    ((fresh.kin same).trans (later.left.grown.classId _ inside.1).symm)

/-- Targets of openers that are alike and can be used. -/
structure Bridge.Targets (bridge : Bridge ρ) (s t : Session ρ) (target target' : Target) : Prop where
  alike : bridge.swap.Targets target target'
  usable : ∀ opened, target = .fixed opened → s.store.classes.Usable opened
  usable' : ∀ opened, target' = .fixed opened → t.store.classes.Usable opened

namespace Caller.Alike

variable {call : Caller ρ} (alike : call.Alike) {bridge : Bridge ρ} {s t : Session ρ}
  {b b' : BuilderRef} {name : String}

include alike

/-! ### Elements -/

theorem push (paired : bridge.Paired s.store t.store b b')
    (shown : bridge.Shown s t b b' "_children") (value : Value) :
    bridge.Parallel s t Bridge.Same (call.push b value) (call.push b' value) :=
  (alike.read paired fun _ => shown).bind
    fun _ _ _ _ later reads => .perform fun beside => beside.stores.push
      (paired.mono later.left.builders later.right.builders) reads.alike value

/-- A builder gets in a slot what another has answered when it was built. -/
theorem attach (paired : bridge.Paired s.store t.store b b') {element : String} {made : Value}
    (built : made.Built) {attachment : Attachment}
    (shown : attachment = .append → bridge.Shown s t b b' "_children")
    (answer : attachment = .slot → element = "required" →
      bridge.swap.Clean (plainAnswer "build")) :
    bridge.Parallel s t Bridge.Same (call.attach b element made attachment)
      (call.attach b' element made attachment) := by
  cases attachment with
  | append => exact alike.push paired (shown rfl) made
  | discard => exact .pure rfl
  | slot =>
      refine .write paired ⟨fun required => ?_, fun _ => ?_⟩
      · have name : slotAttribute element = slotAttribute "required" := required
        rcases built with ⟨node, rfl⟩ | rfl | rfl
        · exact nofun
        · exact answer rfl (slotAttribute_injective name)
        · exact nofun
      · rintro members rfl
        rcases built with ⟨node, absurd⟩ | absurd | absurd <;> cases absurd

theorem paragraph (paired : bridge.Paired s.store t.store b b')
    (shown : bridge.Shown s t b b' "_children") (content : Value) :
    bridge.Parallel s t Bridge.Same (call.paragraph b content) (call.paragraph b' content) :=
  (alike.push paired shown _).map fun _ _ _ _ _ => rfl

theorem title (paired : bridge.Paired s.store t.store b b')
    (shown : bridge.Shown s t b b' "_title") (content : Value) :
    bridge.Parallel s t Bridge.Same (call.title b content) (call.title b' content) :=
  (Bridge.Parallel.write paired (.of_other (by decide) (by decide) _)).bind
    fun _ _ _ _ later _ => alike.readValue
      (paired.mono later.left.builders later.right.builders) fun _ => shown.later later

theorem append (paired : bridge.Paired s.store t.store b b')
    (shown : bridge.Shown s t b b' "_children") (node : Node) :
    bridge.Parallel s t Bridge.Same (call.append b node) (call.append b' node) :=
  (alike.push paired shown _).map fun _ _ _ _ _ => rfl

theorem appendGiven (paired : bridge.Paired s.store t.store b b')
    (shown : bridge.Shown s t b b' "_children") {given given' : Given ρ}
    (givens : bridge.Givens s t given given') :
    bridge.Parallel s t Bridge.Same (call.appendGiven b given) (call.appendGiven b' given') := by
  have refused : ∀ {u v}, Later s t u v → bridge.Parallel u v Bridge.Same
      (do throw (← observe fun store => Fault.invalidChild (store.className b)
        (given.typeName store)) : BuildM ρ Node)
      (do throw (← observe fun store => Fault.invalidChild (store.className b')
        (given'.typeName store)) : BuildM ρ Node) := by
    intro u v later
    have paired := paired.mono later.left.builders later.right.builders
    exact .observe_bind fun beside => .throw (.invalidChild (beside.stores.titles (.paired paired))
      ((givens.later later).typeName beside))
  unfold Caller.appendGiven
  cases givens with
  | value held =>
      cases held with
      | node node => exact alike.append paired shown node
      | _ => exact refused (.refl s t)
  | function runs => exact refused (.refl s t)
  | builder known =>
      refine .observe_bind fun beside => ?_
      rw [beside.stores.foreign? known]
      split
      · exact alike.append paired shown _
      · exact refused (.refl s t)
      · exact (alike.inspect known).bind fun _ _ _ _ later _ => refused later

/-! ### Completeness -/

theorem unsetAmong (names : List Value) : ∀ {s t : Session ρ},
    bridge.Paired s.store t.store b b' →
      (s.store.hook? b .read = none → ∀ item ∈ names,
        ¬ bridge.swap.hidden (slotAttribute item.written)) →
          bridge.Parallel s t Bridge.Same (call.unsetAmong b names) (call.unsetAmong b' names) := by
  induction names with
  | nil => exact fun _ _ => .pure rfl
  | cons name rest ih =>
      intro s t paired shown beside
      have read := alike.read paired fun plain _ _ _ => .inr (shown plain name List.mem_cons_self)
      refine read.bind ?_ beside
      intro u v found found' later reads
      have usable := (beside.stores.alike (.paired paired)).twins.usable
      have same := later.left.hook? (beside.stores.inside paired).1 usable .read
      rw [reads.alike.isNull]
      refine (ih (paired.mono later.left.builders later.right.builders) fun plain item there =>
        shown (same ▸ plain) item (List.mem_cons_of_mem _ there)).bind ?_
      rintro _ _ _ others _ rfl
      exact .pure rfl

/-- No hidden names are read as the required ones, unless they are asked for. -/
theorem readRequired (paired : bridge.Paired s.store t.store b b')
    (kept : s.store.member? b "_required" ≠ none) :
    bridge.Parallel s t (fun _ _ names names' => names' = names ∧
        (s.store.hook? b .read = none → ∀ item ∈ names,
          ¬ bridge.swap.hidden (slotAttribute item.written)))
      (call.readItems b "_required") (call.readItems b' "_required") := by
  refine (alike.readItems paired fun _ => bridge.shown s t b b' (by decide)).with_left ?_
  intro beside names u read plain
  have known := Links.Known.paired paired
  obtain ⟨origin, has⟩ := Option.ne_none_iff_exists'.1 kept
  obtain ⟨found, keeps⟩ : ∃ found, s.store.kept? b "_required" = some found := by
    unfold Store.kept?
    rw [has]
    cases s.store.held? b "_required" <;> exact ⟨_, rfl⟩
  have uncomputed : s.store.property? b "_required" = none :=
    Store.property?_of_uncomputed fun _ _ computed => by
      have := beside.stores.property_name known (.inl computed)
      simp at this
  unfold Caller.readItems at read
  rw [bind_of_ok (read_of_unhooked plain uncomputed keeps)] at read
  cases found with
  | callable owner name member => cases read
  | value held =>
      have clean := beside.stores.clean_of_kept known (Store.kept_eq_ok.2 keeps)
      unfold Found.items Found.items? at read
      cases items : held.items? with
      | none =>
          simp only [items] at read
          cases read
      | some required =>
          simp only [items] at read
          cases read
          exact clean _ items

theorem missing (paired : bridge.Paired s.store t.store b b')
    (kept : s.store.member? b "_required" ≠ none) :
    bridge.Parallel s t Bridge.Same (call.missing b) (call.missing b') := by
  intro beside
  refine (alike.readRequired paired kept).bind ?_ beside
  rintro u v _ names later ⟨rfl, shown⟩
  have usable := (beside.stores.alike (.paired paired)).twins.usable
  have same := later.left.hook? (beside.stores.inside paired).1 usable .read
  exact alike.unsetAmong names (paired.mono later.left.builders later.right.builders)
    fun plain => shown (same ▸ plain)

/-! ### The element -/

theorem make (paired : bridge.Paired s.store t.store b b') (product : Product)
    (looks : ∀ other ∈ Member.looks (.maker (some product)), bridge.Shown s t b b' other) :
    bridge.Parallel s t Bridge.Same (call.make b product) (call.make b' product) := by
  have value : ∀ {u v name}, Later s t u v → bridge.Shown s t b b' name →
      bridge.Parallel u v Bridge.Same (call.readValue b name) (call.readValue b' name) :=
    fun later shown => alike.readValue (paired.mono later.left.builders later.right.builders)
      fun _ => shown.later later
  have items : bridge.Shown s t b b' "_children" → bridge.Parallel s t Bridge.Same
      (call.readItems b "_children") (call.readItems b' "_children") :=
    fun shown => alike.readItems paired fun _ => shown
  cases product with
  | head =>
      refine (value (.refl s t) (looks _ (by decide))).map ?_
      rintro _ _ _ _ rfl
      rfl
  | body =>
      refine (items (looks _ (by decide))).map ?_
      rintro _ _ _ _ rfl
      rfl
  | division =>
      refine (items (looks _ (by decide))).bind ?_
      rintro u v children _ first rfl
      refine (value first (looks _ (by decide))).bind ?_
      rintro x y ident _ second rfl
      refine (value (first.trans second) (looks _ (by decide))).map ?_
      rintro _ _ _ _ rfl
      rfl
  | document =>
      refine (value (.refl s t) (looks _ (by decide))).bind ?_
      rintro u v head _ first rfl
      refine (value first (looks _ (by decide))).map ?_
      rintro _ _ _ _ rfl
      rfl

/-- What a builder answers when it is built is an element. -/
theorem build (paired : bridge.Paired s.store t.store b b') :
    bridge.Parallel s t (fun _ _ => bridge.swap.Answers "build") (call.build b)
      (call.build b') := by
  unfold Caller.build
  refine (alike.own paired (by decide) (by decide)).bind ?_
  intro u v absent absent' first answers
  obtain rfl := answers.eq (by decide)
  have paired₁ := paired.mono first.left.builders first.right.builders
  have rest : bridge.Parallel u v (fun _ _ => bridge.swap.Answers "build")
      (do
        let element ← call.own b "_make_node"
        perform fun store => store.finalize b
        perform fun store => store.record b element
        return element)
      (do
        let element ← call.own b' "_make_node"
        perform fun store => store.finalize b'
        perform fun store => store.record b' element
        return element) := by
    refine (alike.own paired₁ (by decide) (by decide)).bind ?_
    intro u v element element' second answers
    obtain rfl := answers.eq (by decide)
    have paired₂ := paired₁.mono second.left.builders second.right.builders
    refine (Bridge.Parallel.perform fun beside => beside.stores.finalize paired₂).bind ?_
    intro u v _ _ third _
    have paired₃ := paired₂.mono third.left.builders third.right.builders
    refine ((Bridge.Parallel.perform fun beside => beside.stores.record paired₃
      element').with_left (P := fun _ => ∃ node, element' = .node node) ?_).map ?_
    · intro _ _ _ recorded
      cases element' with
      | node node => exact ⟨node, rfl⟩
      | _ => cases recorded
    · exact fun _ _ _ _ node => ⟨.inl rfl, fun _ => .inl node.2⟩
  split
  · exact rest
  · exact .observe_bind fun beside => .throw (beside.stores.lacking (.paired paired₁) _)

/-! ### New builders -/

/-- Runs an argument on a builder that nothing speaks of yet. -/
theorem run (paired : bridge.Paired s.store t.store b b') (new : bridge.New s t b b')
    {given given' : Given ρ} (givens : bridge.Givens s t given given') :
    bridge.Parallel s t Bridge.Same (call.run given b) (call.run given' b') := by
  unfold Caller.run
  cases givens with
  | function runs => exact runs (.refl s t) paired new
  | value held => exact .throw (.same _)
  | @builder callee callee' known =>
      refine .observe_bind fun beside => ?_
      have refused : bridge.Parallel s t Bridge.Same
          (do throw (← observe fun store => Fault.notCallable (store.className callee)) :
            BuildM ρ Unit)
          (do throw (← observe fun store => Fault.notCallable (store.className callee'))) :=
        .observe_bind fun beside => .throw (.notCallable (beside.stores.titles known))
      rcases rel_cases (beside.stores.hook? known .call) with
        ⟨has, has'⟩ | ⟨origin, origin', has, has', origins⟩
      · rw [has, has']
        exact refused
      · rw [has, has']
        cases known with
        | seen seen =>
            rw [beside.stores.silent seen] at has
            cases has
        | paired callees =>
            exact .discard (alike.dispatch callees has has' origins
              ⟨.some (.builder (.paired paired)), rfl⟩)

omit alike in
/-- What the library's classes start builders with is assigned alike. -/
theorem assignStart (paired : bridge.Paired s.store t.store b b') {starter : Starter}
    (known : starter.Known) (given : Options) :
    bridge.Parallel s t Bridge.Same (perform fun store => store.start b starter given)
      (perform fun store => store.start b' starter given) :=
  .perform fun beside => beside.stores.start paired known given

/-- Starting builders by the classes in a row. -/
theorem startAlong : ∀ {row : List ClassId} {s t : Session ρ},
    bridge.Paired s.store t.store b b' →
      (∀ c ∈ row, c ∈ s.store.classes.line (s.store.get b).classId) →
      (∀ c ∈ row, c ∈ t.store.classes.line (t.store.get b').classId) →
        bridge.Parallel s t Bridge.Same (call.startAlong b row) (call.startAlong b' row)
  | [], s, t, _, _, _ => .pure rfl
  | next :: rest, s, t, paired, within, within' => by
      have there := within next List.mem_cons_self
      have there' := within' next List.mem_cons_self
      have others : bridge.Parallel s t Bridge.Same (call.startAlong b rest)
          (call.startAlong b' rest) :=
        startAlong paired (fun c among => within c (List.mem_cons_of_mem next among))
          fun c among => within' c (List.mem_cons_of_mem next among)
      unfold Caller.startAlong
      refine .observe_bind fun beside => ?_
      rcases rel_cases ((beside.stores.tables.classes next).members.find? Hook.start.name) with
        ⟨has, has'⟩ | ⟨member, member', has, has', members⟩
      · rw [has, has']
        exact others
      have called : bridge.Parallel s t Bridge.Same
          (discard <| call.dispatch b Hook.start.name (next, member) {})
          (discard <| call.dispatch b' Hook.start.name (next, member') {}) :=
        .discard (alike.dispatch_offered paired (Store.offers_start there has)
          (Store.offers_start there' has') (.mk next members) (bridge.gives_options s t []))
      rw [has, has']
      cases members with
      | opener attachment targets => exact called
      | same =>
          cases member with
          | starter starter =>
              have usable := (beside.stores.alike (.paired paired)).twins.usable
              have known : starter.Known :=
                (beside.stores.tables.tidy.resolved usable.inside ⟨next, there, has⟩).resolve_right
                  not_false
              dsimp only
              split
              · exact others.bind fun u v _ _ later _ => assignStart
                  (paired.mono later.left.builders later.right.builders) known []
              · exact assignStart paired known []
          | _ => exact called

/-- Starting builders by one of the library's classes, behind the classes that stand next. -/
theorem startWith (paired : bridge.Paired s.store t.store b b') {starter : Starter}
    (known : starter.Known) (given : Options) :
    bridge.Parallel s t Bridge.Same (call.startWith b starter given)
      (call.startWith b' starter given) := by
  unfold Caller.startWith
  cases passes : starter.home with
  | none => exact assignStart paired known given
  | some home =>
      refine .observe_bind fun beside => ?_
      have row := beside.stores.tables.lineBehind (beside.stores.stands (.paired paired))
        (known.home_inside passes)
      rw [row]
      refine (alike.startAlong paired ?_ ?_).bind fun u v _ _ later _ => assignStart
        (paired.mono later.left.builders later.right.builders) known given
      · exact fun c => ClassTable.mem_line_of_lineBehind
      · rw [← row]
        exact fun c => ClassTable.mem_line_of_lineBehind

/-- Starts a new instance. -/
theorem start (paired : bridge.Paired s.store t.store b b') {origin origin' : ClassId × Member}
    (has : s.store.hook? b .start = some origin) (has' : t.store.hook? b' .start = some origin')
    (origins : bridge.swap.Origins origin origin') (options : Options) :
    bridge.Parallel s t Bridge.Same (call.start b origin options)
      (call.start b' origin' options) := by
  unfold Caller.start
  refine (alike.dispatch paired has has' origins (bridge.gives_options s t options)).bind ?_
  intro u v answer answer' later answers
  obtain rfl := answers.eq (by decide)
  split
  · exact .pure rfl
  · exact .throw (.same _)

omit alike in
/-- An instance that has nothing yet has what its class has. -/
theorem createBlank {id id' : ClassId}
    (twins : bridge.swap.Twins s.store.classes t.store.classes id id') :
    bridge.Parallel s t
      (fun u v b b' => bridge.Fresh (id' = id) s t u v b b' ∧
        (∀ name, u.store.member? b name = s.store.classes.resolve id name) ∧
        ∀ name, v.store.member? b' name = t.store.classes.resolve id' name)
      (transact fun store => store.createBare id [])
      (transact fun store => store.createBare id' []) := by
  refine .transact fun beside => ?_
  have makes := beside.stores.makes_add (Links.Beside.blank twins) fun same => same
  refine .ok ⟨makes.onward, ⟨makes.paired, makes.new, makes.new', makes.kin⟩, fun name => ?_,
    fun name => ?_⟩
  · show ClassTable.resolve _ (Store.get _ _).classId name = _
    rw [Store.get_add_new]
    rfl
  · show ClassTable.resolve _ (Store.get _ _).classId name = _
    rw [Store.get_add_new]
    rfl

omit alike in
theorem createBare {id id' : ClassId}
    (twins : bridge.swap.Twins s.store.classes t.store.classes id id') (options : Options) :
    bridge.Parallel s t (bridge.Fresh (id' = id) s t)
      (transact fun store => store.createBare id options)
      (transact fun store => store.createBare id' options) :=
  .transact fun beside => (beside.stores.createBare twins options).mono
    fun _ _ makes => ⟨makes.onward, makes.paired, makes.new, makes.new', makes.kin⟩

theorem createBuilder {id id' : ClassId}
    (twins : bridge.swap.Twins s.store.classes t.store.classes id id') (options : Options) :
    bridge.Parallel s t (bridge.Fresh (id' = id) s t) (call.createBuilder id options)
      (call.createBuilder id' options) := by
  unfold Caller.createBuilder
  refine .query_bind (fun beside => beside.stores.initializer twins.stands) ?_
  rintro beside _ _ ⟨rfl, rfl⟩
  rcases rel_cases (beside.stores.tables.hook? twins.stands .start) with
    ⟨has, has'⟩ | ⟨_, _, has, has', @⟨owner, member, member', members⟩⟩
  · rw [has, has']
    exact createBare twins options
  · have started : bridge.Parallel s t (bridge.Fresh (id' = id) s t)
        (do
          let b ← transact fun store => store.createBare id []
          call.start b (owner, member) options
          return b)
        (do
          let b ← transact fun store => store.createBare id' []
          call.start b (owner, member') options
          return b) := by
      refine (createBlank twins).bind ?_
      rintro u v b b' later ⟨fresh, own, own'⟩ beside
      refine (alike.start fresh.paired ((own _).trans has) ((own' _).trans has')
        (.mk owner members) options).bind (fun x y _ _ more _ => .pure ?_) beside
      exact fresh.mono (beside.stores.inside fresh.paired) more
    rw [has, has']
    cases members with
    | opener attachment targets => exact started
    | same =>
        cases member with
        | starter starter =>
            have known : starter.Known := (beside.stores.tables.tidy.resolved twins.usable.inside
              (ClassTable.has_of_resolve has)).resolve_right not_false
            refine .query_bind (fun beside => beside.stores.bindOptions owner starter options) ?_
            rintro beside given _ rfl
            refine (createBlank twins).bind ?_
            rintro u v b b' later ⟨fresh, _, _⟩ beside
            refine (alike.startWith fresh.paired known _).bind
              (fun x y _ _ more _ => .pure ?_) beside
            exact fresh.mono (beside.stores.inside fresh.paired) more
        | _ => exact started

/-- Creates builders. A class may have a member that makes its instances. -/
theorem createFresh {id id' : ClassId}
    (twins : bridge.swap.Twins s.store.classes t.store.classes id id') (options : Options) :
    bridge.Parallel s t (bridge.Fresh (id' = id) s t) (call.create id options)
      (call.create id' options) := by
  unfold Caller.create
  refine .observe_bind fun beside => ?_
  rcases rel_cases (beside.stores.tables.hook? twins.stands .make) with
    ⟨has, has'⟩ | ⟨origin, origin', has, has', origins⟩
  · rw [has, has']
    exact alike.createBuilder twins options
  · rw [has, has']
    refine (createBlank twins).bind ?_
    rintro u v b b' first ⟨fresh, own, own'⟩
    refine (alike.dispatch fresh.paired ((own _).trans has) ((own' _).trans has') origins
      (bridge.gives_options u v options)).bind ?_
    intro x y made made' second answers
    obtain rfl := answers.eq (by decide)
    refine .transact fun beside => .ok ?_
    have makes := beside.stores.createForeign made' (id' = id)
    have later := first.trans second
    exact ⟨makes.onward, makes.paired, Nat.le_trans later.left.builders makes.new,
      Nat.le_trans later.right.builders makes.new', makes.kin⟩

/-- Nothing that is carried speaks of builders that have just been created. -/
theorem create {id id' : ClassId}
    (twins : bridge.swap.Twins s.store.classes t.store.classes id id') (options : Options) :
    bridge.Parallel s t
      (fun u v b b' => bridge.Paired u.store v.store b b' ∧ bridge.New u v b b' ∧
        (id' = id → (v.store.get b').classId = (u.store.get b).classId))
      (call.create id options) (call.create id' options) := by
  intro beside
  have twins : (bridge.pinned s t).swap.Twins s.store.classes t.store.classes id id' := twins
  refine ((alike.createFresh twins options).unpin beside).mono ?_
  rintro u v b b' ⟨fresh, unmoved⟩
  refine ⟨fresh.paired, ⟨s.store, t.store, ?_, fresh.left, fresh.right⟩, fresh.kin⟩
  rw [unmoved.left, unmoved.right]
  exact beside.extras

/-! ### Scopes -/

/-- What builders answer when they are built. -/
theorem ownBuild (paired : bridge.Paired s.store t.store b b') :
    bridge.Parallel s t (fun _ _ made made' => made' = made ∧ made.Built) (call.own b "build")
      (call.own b' "build") :=
  (alike.own paired (by decide) (by decide)).mono
    fun _ _ _ _ answers => ⟨answers.eq (by decide), answers.built rfl⟩

theorem scope {element : String} {target target' : Target}
    (targets : bridge.Targets s t target target') {init init' : Option (Given ρ)}
    (givens : Option.Rel (bridge.Givens s t) init init') (options : Options) :
    bridge.Parallel s t (fun _ _ made made' => made' = made ∧ made.Built)
      (call.scope element target init options) (call.scope element target' init' options) := by
  unfold Caller.scope
  refine .query_bind (fun beside => beside.stores.tables.target targets.alike targets.usable
    targets.usable' element rfl rfl) fun beside id id' twins => ?_
  refine (alike.create twins options).bind ?_
  rintro u v child child' first ⟨paired, new, _⟩
  cases givens with
  | none => exact alike.ownBuild paired
  | some givens =>
      exact (alike.run paired new (givens.later first)).bind fun _ _ _ _ later _ =>
        alike.ownBuild (paired.mono later.left.builders later.right.builders)

/-- A scope in which a value is to be run is never finalized. -/
theorem scope_of_value {element : String} {target target' : Target}
    (targets : bridge.Targets s t target target') (held : Value) (options : Options) :
    bridge.Parallel s t Bridge.Never
      (call.scope element target (some (.value held)) options)
      (call.scope element target' (some (.value held)) options) := by
  unfold Caller.scope
  refine .query_bind (fun beside => beside.stores.tables.target targets.alike targets.usable
    targets.usable' element rfl rfl) fun beside id id' twins => ?_
  refine (alike.create twins options).bind fun u v child child' _ _ => ?_
  exact (Bridge.Parallel.throw (R := Bridge.Never) (.same _)).bind
    fun _ _ _ _ _ never => never.elim

theorem openScope (paired : bridge.Paired s.store t.store b b') {element : String}
    {target target' : Target} (targets : bridge.Targets s t target target')
    {attachment : Attachment} (shown : attachment = .append → bridge.Shown s t b b' "_children")
    (answer : attachment = .slot → element = "required" → bridge.swap.Clean (plainAnswer "build"))
    {init init' : Option (Given ρ)} (givens : Option.Rel (bridge.Givens s t) init init')
    (options : Options) :
    bridge.Parallel s t (fun _ _ made made' => made' = made ∧ made.Built)
      (call.openScope b element target attachment init options)
      (call.openScope b' element target' attachment init' options) := by
  refine (alike.scope targets givens options).bind ?_
  rintro u v _ made later ⟨rfl, built⟩
  exact (alike.attach (paired.mono later.left.builders later.right.builders) built
    (fun append => (shown append).later later) answer).map
    fun _ _ _ _ _ => ⟨rfl, built⟩

/-- What openers make that are called on a class is not kept by the class. -/
theorem openScopeOn {id id' : ClassId} (stands : bridge.swap.Stands id id') {element : String}
    {target target' : Target} (targets : bridge.Targets s t target target')
    {attachment : Attachment} (loose : attachment ≠ .slot)
    (shown : attachment = .append → bridge.swap.Shown id id' "_children")
    {init init' : Option (Given ρ)} (givens : Option.Rel (bridge.Givens s t) init init')
    (options : Options) :
    bridge.Parallel s t (fun _ _ made made' => made' = made ∧ made.Built)
      (call.openScopeOn id element target attachment init options)
      (call.openScopeOn id' element target' attachment init' options) := by
  refine (alike.scope targets givens options).bind ?_
  rintro u v _ made later ⟨rfl, built⟩
  refine (Bridge.Parallel.perform fun beside => ?_).map fun _ _ _ _ _ => ⟨rfl, built⟩
  have attached := beside.stores.tables.attach stands element made loose shown
  show Outcomes _ _ (u.store.classes.attach id element made attachment >>= _)
    (v.store.classes.attach id' element made attachment >>= _)
  revert attached
  generalize u.store.classes.attach id element made attachment = result
  generalize v.store.classes.attach id' element made attachment = result'
  rintro (⟨rfl, rfl⟩ | alike)
  · exact .ok (.refl beside.stores)
  · exact .error alike

theorem html {init init' : Given ρ} (givens : bridge.Givens s t init init') :
    bridge.Parallel s t (fun _ _ made made' => made' = made ∧ made.Built) (call.html init)
      (call.html init') := by
  intro beside
  have library : Standard.documentBuilder.index < Standard.classes.classes.length := by decide
  refine (alike.create (beside.stores.tables.twins_of_library library) []).bind ?_ beside
  rintro u v document document' first ⟨paired, new, _⟩
  exact (alike.run paired new (givens.later first)).bind fun x y _ _ second _ =>
    alike.ownBuild (paired.mono second.left.builders second.right.builders)

/-! ### Classes -/

/-- An opener of a class that is told of another opens a scope on that class. -/
theorem heir_opener {id id' : ClassId} (stands : bridge.swap.Stands id id') {target target' : Target}
    {attachment : Attachment} (targets : bridge.swap.Targets target target')
    (defined : Member.Defined s.store.classes Hook.heir.name (.opener target attachment))
    (defined' : Member.Defined t.store.classes Hook.heir.name (.opener target' attachment))
    (shown : attachment = .append → bridge.swap.Shown id id' "_children") (options : Options) :
    bridge.Parallel s t Bridge.Same
      (call.openScopeOn id Hook.heir.name target attachment none options)
      (call.openScopeOn id' Hook.heir.name target' attachment none options) :=
  (alike.openScopeOn stands ⟨targets, defined.2, defined'.2⟩ (defined.1 (by decide)) shown .none
    options).mono fun _ _ _ _ answers => answers.1

/-- Classes in a row are told of a class. What registering it establishes holds if the row is
one in which that is done first. -/
theorem announce {id id' : ClassId} (stands : bridge.swap.Stands id id') (options : Options)
    {P : Session ρ → Session ρ → Prop} (row : List ClassId) : ∀ {s t : Session ρ},
    (∀ c ∈ row, c.index < s.store.classes.classes.length) →
    (∀ c ∈ row, ∀ member, (s.store.classes.get c).members.find? Hook.heir.name = some member →
      ∀ other ∈ member.looks, bridge.swap.Shown id id' other) →
    ((∃ owner, s.store.classes.resolveAlong Hook.heir.name row = some (owner, .method .register)) →
      ∀ {u v}, Later s t u v → bridge.Parallel u v (fun u v _ _ => P u v)
        (perform fun store => store.onClasses fun classes => classes.registered id)
        (perform fun store => store.onClasses fun classes => classes.registered id')) →
    bridge.Parallel s t (fun u v answer answer' => answer' = answer ∧
        ((∃ owner, s.store.classes.resolveAlong Hook.heir.name row =
          some (owner, .method .register)) → P u v))
      (call.announce id options row) (call.announce id' options row) := by
  induction row with
  | nil =>
      intro s t _ _ _
      unfold Caller.announce
      split
      · refine .pure ⟨rfl, ?_⟩
        rintro ⟨owner, other⟩
        cases other
      · exact .observe_bind fun beside =>
          .throw (.noOptions _ (beside.stores.tables.titles stands))
  | cons next rest ih =>
      intro s t inside looks register
      unfold Caller.announce
      refine .observe_bind fun beside => ?_
      have tables := beside.stores.tables
      have here := (tables.classes next).members.find? Hook.heir.name
      have further := fun c there => inside c (List.mem_cons_of_mem next there)
      have others := fun c there => looks c (List.mem_cons_of_mem next there)
      rcases rel_cases here with ⟨has, has'⟩ | ⟨member, member', has, has', members⟩
      · have same : s.store.classes.resolveAlong Hook.heir.name (next :: rest) =
            s.store.classes.resolveAlong Hook.heir.name rest :=
          ClassTable.resolveAlong_of_absent has
        rw [has, has']
        rw [same] at register ⊢
        exact ih further others register
      · have same : s.store.classes.resolveAlong Hook.heir.name (next :: rest) =
            some (next, member) :=
          ClassTable.resolveAlong_of_own has
        have there := inside next List.mem_cons_self
        have there' : next.index < t.store.classes.classes.length := tables.length ▸ there
        have heir := tables.tidy.heir there has
        have heir' := tables.tidy'.heir there' has'
        -- Only what registers the class establishes what registering it does.
        have unregistered : ∀ {m n : BuildM ρ Value}, member ≠ .method .register →
            bridge.Parallel s t Bridge.Same m n →
              bridge.Parallel s t (fun u v answer answer' => answer' = answer ∧
                ((∃ owner, some (next, member) = some (owner, .method .register)) → P u v)) m n := by
          refine fun other parallel => parallel.mono fun _ _ _ _ same => ⟨same, ?_⟩
          rintro ⟨owner, told⟩
          exact absurd (congrArg Prod.snd (Option.some.inj told)) other
        have children : ∀ {target attachment}, member = .opener target attachment →
            attachment = .append → bridge.swap.Shown id id' "_children" := by
          rintro target attachment rfl rfl
          exact looks next List.mem_cons_self _ has _ List.mem_cons_self
        rw [has, has']
        rw [same] at register ⊢
        cases members with
        | opener attachment targets =>
            exact unregistered Member.noConfusion (alike.heir_opener stands targets (heir.resolve_right Member.noConfusion)
              (heir'.resolve_right Member.noConfusion) (children rfl) options)
        | same =>
            cases member with
            | opener target attachment =>
                exact unregistered Member.noConfusion (alike.heir_opener stands (.same target)
                  (heir.resolve_right Member.noConfusion) (heir'.resolve_right Member.noConfusion) (children rfl) options)
            | plain => exact unregistered Member.noConfusion (.pure rfl)
            | data held => exact .throw (.same _)
            | method called =>
                obtain rfl : called = .register := by
                  rcases heir with absurd | same
                  · exact absurd.elim
                  · cases same; rfl
                have register := fun {u v} => register ⟨next, rfl⟩ (u := u) (v := v)
                refine (Bridge.Parallel.discard (ih further others fun _ => register)).bind ?_
                intro u v _ _ later _
                exact (register later).map fun _ _ _ _ done => ⟨rfl, fun _ => done⟩
            | _ =>
                rcases heir with absurd | same
                · exact absurd.elim
                · cases same

/-! ### Calls -/

theorem method (paired : bridge.Paired s.store t.store b b') {given given' : Given ρ}
    (givens : bridge.Givens s t given given') (called : Method)
    (looks : ∀ other ∈ Member.looks (.method called), bridge.Shown s t b b' other)
    (required : called = .missing → s.store.member? b "_required" ≠ none) :
    bridge.Parallel s t (fun _ _ => bridge.swap.Answers called.name) (call.method b given called)
      (call.method b' given' called) := by
  have same : ∀ {answer answer' : Value}, answer' = answer → called.name ≠ "build" →
      bridge.swap.Answers called.name answer answer' := by
    rintro _ answer rfl other
    exact .same other answer
  cases called with
  | build => exact alike.build paired
  | missing =>
      exact (alike.missing paired (required rfl)).map
        fun _ _ _ _ names => same (congrArg Value.list names) (by decide)
  | elements =>
      refine .query_bind (fun beside => beside.stores.tables.listed
        (beside.stores.stands (.paired paired))) fun _ names names' equal => .pure ?_
      exact ⟨.inr ⟨rfl, names, names', rfl, rfl, equal⟩, fun other => absurd other (by decide)⟩
  | paragraph =>
      rw [Caller.method, Caller.method, givens.toValue]
      exact (alike.paragraph paired (looks _ (by decide)) _).map
        fun _ _ _ _ made => same (congrArg Value.node made) (by decide)
  | title =>
      rw [Caller.method, Caller.method, givens.toValue]
      exact (alike.title paired (looks _ (by decide)) _).mono fun _ _ _ _ answers =>
        same answers (by decide)
  | append =>
      exact (alike.appendGiven paired (looks _ (by decide)) givens).map
        fun _ _ _ _ made => same (congrArg Value.node made) (by decide)
  | report =>
      have refused : bridge.Parallel s t
          (fun _ _ => bridge.swap.Answers Method.report.name)
          (do throw (← observe fun store => Fault.noAttribute (given.typeName store) "startswith") :
            BuildM ρ Value)
          (do throw (← observe fun store =>
            Fault.noAttribute (given'.typeName store) "startswith")) :=
        .observe_bind fun beside => .throw (.noAttribute _ (givens.typeName beside))
      cases givens with
      | value held =>
          cases held with
          | text asked => exact alike.report paired asked
          | _ => exact refused
      | function runs => exact refused
      | builder known => exact refused
  | register => exact .pure (.same (by decide) _)

omit alike in
/-- A class that can be used has been registered for good. -/
theorem registered {id id' : ClassId}
    (twins : bridge.swap.Twins s.store.classes t.store.classes id id')
    (told : ∃ owner, s.store.classes.resolve id Hook.heir.name = some (owner, .method .register)) :
    bridge.Parallel s t (fun _ _ _ _ => True)
      (perform fun store => store.onClasses fun classes => classes.registered id)
      (perform fun store => store.onClasses fun classes => classes.registered id') := by
  obtain ⟨owner, told⟩ := told
  refine (Bridge.Parallel.perform fun beside => ?_).mono fun _ _ _ _ _ => trivial
  have told' : t.store.classes.resolve id' Hook.heir.name = some (owner, .method .register) := by
    have alike := beside.stores.tables.resolve twins.stands (bridge.swap.shown _ _
      (by decide : Hook.heir.name ∈ libraryNames))
    rw [told] at alike
    revert alike
    generalize t.store.classes.resolve id' Hook.heir.name = found
    rintro (@⟨_, _, ⟨_, ⟨⟩⟩⟩)
    rfl
  have done := beside.stores.tables.registered twins told told'
  show Outcomes _ _ (s.store.classes.registered id >>= _) (t.store.classes.registered id' >>= _)
  rw [done.1, done.2]
  exact .ok (.refl beside.stores)

/-- A class is told of itself, and so are those behind it. -/
theorem register {id id' : ClassId}
    (twins : bridge.swap.Twins s.store.classes t.store.classes id id') (options : Options)
    (told : ∃ owner, s.store.classes.resolve id Hook.heir.name = some (owner, .method .register)) :
    bridge.Parallel s t Bridge.Same
      (do call.announce id options (← observe fun store => store.classes.line id))
      (do call.announce id' options (← observe fun store => store.classes.line id')) := by
  refine .observe_bind fun beside => ?_
  have tables := beside.stores.tables
  have row : bridge.Parallel s t Bridge.Same (call.announce id options (s.store.classes.line id))
      (call.announce id' options (s.store.classes.line id)) := by
    refine (alike.announce twins.stands options (P := fun _ _ => True) _
      (tables.tidy.closed.line twins.usable.inside)
      (fun c there member has other among => tables.looks twins.stands ⟨c, there, has⟩ among) ?_).mono
        fun _ _ _ _ answers => answers.1
    intro _ u v later
    obtain ⟨owner, told⟩ := told
    exact registered (twins.grows later.left.classes later.right.classes)
      ⟨owner, (later.left.classes.resolve twins.usable _).trans told⟩
  rcases tables.stands_cases twins.stands with rfl | ⟨rfl, rfl, _, replaces⟩
  · rw [tables.line]
    exact row
  · -- The new class itself has nothing that is called.
    have none : (t.store.classes.get bridge.swap.newId).members.find? Hook.heir.name = none :=
      Classical.byContradiction fun own =>
        bridge.swap.library _ (by decide) (replaces.own _ own)
    intro beside
    have skip : call.announce bridge.swap.newId options
        (bridge.swap.newId :: s.store.classes.line bridge.swap.oldId) t =
          call.announce bridge.swap.newId options (s.store.classes.line bridge.swap.oldId) t := by
      rw [Caller.announce, observe_bind, none]
    rw [replaces.line, tables.line, skip]
    exact row beside

end Caller.Alike

end ScopedHtml
