import ScopedHtml.Proofs.Leads
import ScopedHtml.Proofs.ParallelDefine
import ScopedHtml.Proofs.ParallelPage
import ScopedHtml.Proofs.Settings

/-!
# ScopedHtml.Proofs.ParallelScripts

**Scripts in parallel.** A step that uses only what a setting allows runs in parallel to what it is
after the swap (`Setting.parallel_answer`), and so does every script of such steps
(`Setting.parallel_runTop`).
-/

namespace ScopedHtml

open BuildM

/-! ### What programs carry -/

namespace Bridge.Parallel

variable {ρ α α' : Type} {bridge : Bridge ρ} {s t : Session ρ}

/-- Looking at the session. -/
theorem get_bind {R : Session ρ → Session ρ → α → α' → Prop} {k : Session ρ → BuildM ρ α}
    {k' : Session ρ → BuildM ρ α'}
    (next : bridge.Beside s t → bridge.Parallel s t R (k s) (k' t)) :
    bridge.Parallel s t R (get >>= k) (get >>= k') := by
  intro beside
  rw [bind_apply, bind_apply]
  exact next beside beside

/-- What follows programs that change nothing. -/
theorem bind_quiet {β β' : Type} {R : Session ρ → Session ρ → α → α' → Prop}
    {Q : Session ρ → Session ρ → β → β' → Prop} {m : BuildM ρ α} {n : BuildM ρ α'}
    {k : α → BuildM ρ β} {k' : α' → BuildM ρ β'} (quiet : Quiet m s) (quiet' : Quiet n t)
    (first : bridge.Parallel s t R m n)
    (next : ∀ a a', R s t a a' → bridge.Parallel s t Q (k a) (k' a')) :
    bridge.Parallel s t Q (m >>= k) (n >>= k') := by
  intro beside
  have ends := first beside
  rw [bind_apply, bind_apply]
  rcases quiet.cases with ⟨fault, run⟩ | ⟨a, run⟩ <;>
    rcases quiet'.cases with ⟨fault', run'⟩ | ⟨a', run'⟩ <;> rw [run, run'] at ends ⊢
  · cases ends with
    | error beside later alike => exact .error beside later alike
  · cases ends
  · cases ends
  · cases ends with
    | ok _ _ related => exact next a a' related beside

/-- Changing what is carried. -/
theorem carry (f f' : ρ → ρ)
    (extras : bridge.Beside s t → bridge.extras s.store t.store (f s.extra) (f' t.extra)) :
    bridge.Parallel s t Same (modify fun session => { session with extra := f session.extra })
      (modify fun session => { session with extra := f' session.extra }) :=
  fun beside => .ok ⟨beside.stores, beside.classes, extras beside⟩ ⟨.refl _, .refl _⟩ rfl

end Bridge.Parallel

namespace Script.Setting

variable {setting : Setting}

/-! ### Names and descriptions in parallel -/

variable {s t u v : Session Names} {name : String} {b b' : BuilderRef} {step : Step}

theorem parallel_builderNamed (allowed : setting.works name) :
    setting.bridge.Parallel s t (fun u v b b' => setting.Paired u.store v.store b b')
      (builderNamed name) (builderNamed name) := by
  refine .get_bind fun beside => ?_
  rcases rel_cases (beside.extras.builders name allowed) with
    ⟨free, free'⟩ | ⟨b, b', bound, bound', paired⟩
  · rw [free, free']
    exact .throw (.same _)
  · rw [bound, bound']
    exact .pure paired

theorem parallel_builderPassed (allowed : setting.works name ∨ setting.passes name) :
    setting.bridge.Parallel s t (fun u v b b' => setting.Known u.store v.store b b')
      (builderNamed name) (builderNamed name) := by
  rcases allowed with allowed | allowed
  · exact (parallel_builderNamed allowed).mono fun _ _ _ _ paired => .paired paired
  · refine .get_bind fun beside => ?_
    rcases rel_cases (beside.extras.passed name allowed) with
      ⟨free, free'⟩ | ⟨b, b', bound, bound', known⟩
    · rw [free, free']
      exact .throw (.same _)
    · rw [bound, bound']
      exact .pure known

theorem parallel_bindBuilder (allowed : setting.works name)
    (paired : setting.Paired s.store t.store b b') (new : setting.bridge.New s t b b') :
    setting.bridge.Parallel s t Bridge.Same (bindBuilder name b) (bindBuilder name b') := by
  obtain ⟨x, y, carried, left, right⟩ := new
  refine .carry (fun names : Names => { names with builders := names.builders.bind name b })
    (fun names : Names => { names with builders := names.builders.bind name b' }) fun beside => ?_
  have before : setting.Carries x y s.extra t.extra := carried
  refine Carries.bindBuilder beside.extras allowed paired (beside.stores.inside paired) ?_ ?_
  · intro other bound
    have := before.sound.inside other b bound
    omega
  · intro other bound
    have := before.sound'.inside other b' bound
    omega

theorem parallel_bindNode (allowed : setting.keeps name) (node : Node) :
    setting.bridge.Parallel s t Bridge.Same (bindNode name node) (bindNode name node) :=
  .carry (fun names : Names => { names with nodes := names.nodes.bind name node })
    (fun names : Names => { names with nodes := names.nodes.bind name node })
    fun beside => Carries.bindNode beside.extras allowed node

theorem parallel_read (spec : Spec) (allowed : ∀ name ∈ spec.names, setting.reads name) :
    setting.bridge.Parallel s t Bridge.Same (read spec) (read spec) := by
  refine .get_bind fun beside => ?_
  dsimp only
  rw [spec.read_congr fun name among => beside.extras.nodes name (allowed name among)]
  exact .settle (.of_eq .same fun _ => rfl)

theorem parallel_make (spec : Spec) (allowed : ∀ name ∈ spec.names, setting.reads name) :
    setting.bridge.Parallel s t Bridge.Same (make spec) (make spec) := by
  refine .get_bind fun beside => ?_
  dsimp only
  rw [spec.make_congr fun name among => beside.extras.nodes name (allowed name among)]
  exact .settle (.of_eq .same fun _ => rfl)

theorem parallel_findEqual : ∀ (specs : List Spec) (seen : List Value) {s t : Session Names},
    (∀ name ∈ namesAmong specs, setting.reads name) →
      setting.bridge.Parallel s t Bridge.Same (findEqual seen specs) (findEqual seen specs)
  | [], _, _, _, _ => .pure rfl
  | spec :: rest, seen, s, t, allowed => by
      rw [namesAmong] at allowed
      refine (parallel_read spec fun name among =>
        allowed name (List.mem_append_left _ among)).bind ?_
      rintro u v _ value _ rfl
      have others := parallel_findEqual rest (seen ++ [value]) (s := u) (t := v)
        fun name among => allowed name (List.mem_append_right _ among)
      dsimp only
      split
      · exact (Bridge.Parallel.throw (R := Bridge.Same) (.same _)).bind
          fun _ _ _ _ _ _ => parallel_findEqual rest _
            fun name among => allowed name (List.mem_append_right _ among)
      · exact others

/-! ### Builders that are looked at -/

/-- What a builder of the library's class has as its children is not hidden. -/
theorem shown_children (beside : setting.bridge.Beside s t)
    (paired : setting.Paired s.store t.store b b')
    (flow : s.store.isOf b Standard.flowBuilder = true) :
    setting.bridge.Shown s t b b' "children" := by
  have tables := beside.stores.tables
  have own : (s.store.classes.get Standard.flowBuilder).members.find? "children" =
      some (.property .children) := by
    rw [tables.tidy.library Standard.flowBuilder (by decide)]
    rfl
  exact beside.shown paired (tables.looks (beside.stores.stands (.paired paired))
    ⟨_, of_decide_eq_true flow, own⟩ List.mem_cons_self)

theorem parallel_glimpse (paired : setting.Paired s.store t.store b b') :
    setting.bridge.Parallel s t (fun _ _ => Glimpse.Alike setting.swap) (glimpse b)
      (glimpse b') := by
  have alike := Caller.alike_call (ρ := Names)
  have later : ∀ {u v}, Later s t u v → setting.bridge.Paired u.store v.store b b' :=
    fun more => paired.mono more.left.builders more.right.builders
  unfold glimpse
  refine (alike.isOf (later (.refl s t)) (by decide)).bind ?_
  rintro u v _ flow first ⟨rfl, counts⟩ beside
  have shown : flow = true → setting.bridge.Shown u v b b' "children" :=
    fun flow => shown_children beside (later first) (counts.symm.trans flow)
  refine (alike.own (later first) (by decide) (by decide)).outcome.bind ?_ beside
  intro u v missing missing' second missings
  have missings : Outcomes setting.swap.Faults (fun names names' => names' = names) missing
      missing' := missings.mono fun _ _ answers => answers.eq (by decide)
  refine (alike.read (later (first.trans second)) fun _ =>
    setting.bridge.shown _ _ _ _ (by decide)).bind ?_
  intro u v finalized finalized' third finals
  dsimp only
  split
  · next flow =>
      refine (alike.read (later ((first.trans second).trans third)) fun _ =>
        (shown flow).later (second.trans third)).bind ?_
      intro u v children children' fourth reads
      rw [reads.alike.count]
      refine .bind (R := Bridge.Same) (.settle (.of_eq .same fun _ => rfl)) ?_
      rintro _ _ _ count _ rfl
      exact .pure ⟨finals.alike, missings, rfl⟩
  · exact .pure ⟨finals.alike, missings, rfl⟩

/-- A swap concerns builders only: what is no builder has a class of one name. -/
theorem className_eq (beside : setting.bridge.Beside s t)
    (paired : setting.Paired s.store t.store b b')
    (plain : s.store.isOf b Standard.builderBase = false) :
    t.store.className b' = s.store.className b := by
  have known : setting.Known s.store t.store b b' := .paired paired
  have tables := beside.stores.tables
  rcases tables.stands_cases (beside.stores.stands known) with same | ⟨old, _, replaces, _⟩
  · unfold Store.className
    rw [beside.stores.foreign? known, same, (tables.classes _).name]
  · unfold Store.isOf ClassTable.inherits at plain
    rw [old] at plain
    exact absurd replaces.builder (of_decide_eq_false plain)

/-- New builders are presented alike. -/
theorem parallel_present (paired : setting.Paired s.store t.store b b') :
    setting.bridge.Parallel s t (fun u v => setting.Answers step u.store v.store) (present b)
      (present b') := by
  have alike := Caller.alike_call (ρ := Names)
  have later : ∀ {u v}, Later s t u v → setting.bridge.Paired u.store v.store b b' :=
    fun more => paired.mono more.left.builders more.right.builders
  unfold present
  refine .observe_bind fun beside => ?_
  rw [beside.stores.foreign? (.paired paired)]
  split
  · exact .pure (.same nofun)
  · refine (alike.inspect (.paired (later (.refl s t)))).bind ?_
    intro u v _ _ first _
    refine .observe_bind fun beside => ?_
    have known := Links.Known.paired (later first)
    have titles := beside.stores.titles known
    have plain := className_eq beside (later first)
    have inside := (beside.stores.inside (later first)).1
    have usable := (beside.stores.alike known).twins.usable
    refine (alike.isOf (later first) (by decide)).bind ?_
    rintro x y _ builder second ⟨rfl, counts⟩
    have here := later (first.trans second)
    split
    · exact .pure (.builder here titles)
    · next other =>
        have other : u.store.isOf b Standard.builderBase = false :=
          (second.left.isOf inside usable _).symm.trans (counts ▸ Bool.eq_false_iff.2 other)
        rw [plain other]
        refine .observe_bind fun beside => ?_
        have callable : y.store.canBeCalled b' = x.store.canBeCalled b := by
          unfold Store.canBeCalled
          rcases rel_cases (beside.stores.hook? (.paired here) .call) with
            ⟨has, has'⟩ | ⟨_, _, has, has', _⟩
          · rw [has, has']
          · rw [has, has']
            rfl
        rw [callable]
        split
        · exact .pure (.same nofun)
        · exact .pure (.same nofun)

theorem parallel_bindAnswer (allowed : setting.keeps name) {answer answer' : Answer}
    (answers : setting.Answers step s.store t.store answer answer') :
    setting.bridge.Parallel s t Bridge.Same (bindAnswer name answer) (bindAnswer name answer') := by
  have itself : setting.bridge.Parallel s t Bridge.Same (bindAnswer name answer)
      (bindAnswer name answer) := by
    unfold bindAnswer
    split
    · exact parallel_bindNode allowed _
    · exact .pure rfl
  cases answers with
  | same other => exact itself
  | found alike =>
      cases alike with
      | value held => exact itself
      | callable owner other members => exact .pure rfl
  | listed asked equal => exact .pure rfl
  | builder paired titles => exact .pure rfl
  | caught alike => exact .pure rfl

/-! ### Entries in parallel -/

theorem target? (allowed : ∀ use ∈ step.uses, setting.Allows use)
    {names names' : Names} {s t : Store} (carries : setting.Carries s t names names') :
    Option.Rel (setting.Paired s t) (step.target? names)
      ((setting.swap.step step).target? names') := by
  unfold Step.target?
  rw [Swap.on?_step]
  cases on : step.on? with
  | none => exact .none
  | some name => exact carries.builders name (allowed _ (step.works_of_on? on))

theorem parallel_enter {path path' : List Nat} {target target' : Option BuilderRef}
    {result result' : Except Fault Answer} {seen seen' : Option Glimpse}
    (entries : setting.Entries s.store t.store ⟨path, step, target, result, seen⟩
      ⟨path', setting.swap.step step, target', result', seen'⟩) :
    setting.bridge.Parallel s t (fun _ _ => Option.Rel setting.swap.Faults)
      (enter path step target result seen)
      (enter path' (setting.swap.step step) target' result' seen') := by
  refine (Bridge.Parallel.carry
    (fun names : Names => { names with
      trace := names.trace ++ [⟨path, step, target, result, seen⟩] })
    (fun names : Names => { names with
      trace := names.trace ++ [⟨path', setting.swap.step step, target', result', seen'⟩] })
    fun beside => Carries.enter beside.extras entries).bind ?_
  intro u v _ _ _ _
  cases entries.result with
  | ok answers => exact .pure .none
  | error alike => exact .pure (.some alike)

/-- Recording a step. -/
theorem parallel_recorded (allowed : ∀ use ∈ step.uses, setting.Allows use)
    {body body' : ScriptM Answer}
    (parallel : setting.bridge.Parallel s t (fun u v => setting.Answers step u.store v.store) body
      body')
    (path : List Nat) :
    setting.bridge.Parallel s t (fun _ _ => Option.Rel setting.swap.Faults)
      (recorded (setting.leftPath ++ path) step body)
      (recorded (setting.rightPath ++ path) (setting.swap.step step) body') := by
  unfold recorded
  refine .get_bind fun beside => ?_
  have target := target? allowed beside.extras
  refine parallel.outcome.bind ?_
  intro u v result result' first results
  refine .get_bind fun beside => ?_
  have entered : ∀ {x y seen seen'}, Later u v x y →
      Option.Rel (Glimpse.Alike setting.swap) seen seen' →
      setting.bridge.Parallel x y (fun _ _ => Option.Rel setting.swap.Faults)
        (enter (setting.leftPath ++ path) step (step.target? s.extra) result seen)
        (enter (setting.rightPath ++ path) (setting.swap.step step)
          ((setting.swap.step step).target? t.extra) result' seen') := by
    intro x y seen seen' second glimpses
    have later := first.trans second
    exact parallel_enter {
      path := ⟨path, rfl, rfl⟩
      step := rfl
      target := rel_mono target fun paired => paired.mono later.left.builders later.right.builders
      result := results.mono fun _ _ answers =>
        answers.mono fun paired => paired.mono second.left.builders second.right.builders
      glimpse := glimpses }
  dsimp only
  rcases rel_cases (target? allowed beside.extras) with
    ⟨free, free'⟩ | ⟨b, b', bound, bound', paired⟩
  · rw [free, free']
    exact entered (.refl u v) .none
  · rw [bound, bound']
    refine .bind (R := fun _ _ => Option.Rel (Glimpse.Alike setting.swap))
      ((parallel_glimpse paired).map fun _ _ _ _ glimpses => .some glimpses) ?_
    exact fun _ _ _ _ second glimpses => entered second glimpses

/-! ### Steps in parallel -/

theorem reads_of_allowed {names : List String}
    (allowed : ∀ use ∈ names.map Use.reads, setting.Allows use) :
    ∀ name ∈ names, setting.reads name :=
  fun _ among => allowed _ (List.mem_map_of_mem among)

theorem parallel_named (name : String) :
    setting.bridge.Parallel s t Bridge.Same (query fun store => store.classes.named name)
      (query fun store => store.classes.named name) :=
  .query fun beside => by
    unfold ClassTable.named
    rw [beside.stores.tables.names]
    exact .of_eq .same fun _ => rfl

theorem parallel_listing (id : ClassId) :
    setting.bridge.Parallel s t Bridge.Same (query fun store => store.classes.listing id)
      (query fun store => store.classes.listing id) :=
  .query fun beside => by
    rw [beside.stores.tables.listing_self]
    exact .of_eq .same fun _ => rfl

/-- What calls answer is an answer of the step. -/
theorem answers_of_call {on member : String} {argument : Argument} {options : Options}
    {x y : Store} {found found' : Found}
    (reads : setting.swap.Reads x y b b' member found found') {answer answer' : Value}
    (answered : setting.swap.Answered answer answer' found) {s t : Store} :
    setting.Answers (.call on member argument options) s t (.value answer) (.value answer') := by
  cases found with
  | value held => exact answered.elim
  | callable owner name called =>
      rcases answered.alike with rfl | ⟨rfl, names, names', rfl, rfl, equal⟩
      · exact .same nofun
      · rcases reads.named owner _ called rfl with asked | ⟨_, other⟩
        · exact .listed asked.symm equal
        · exact absurd other (by decide)

theorem parallel_check (argument : Argument) (allowed : ∀ use ∈ argument.uses, setting.Allows use) :
    setting.bridge.Parallel s t Bridge.Same argument.check
      (setting.swap.argument argument).check := by
  cases argument with
  | builder name =>
      rw [Argument.uses, List.forall_mem_cons] at allowed
      exact .discard (parallel_builderPassed allowed.1)
  | _ => exact .pure rfl

/-- Programs with equal results answer a step alike if it does not answer with a builder. -/
theorem parallel_answering {α : Type} {m n : ScriptM α} {answer : α → Answer}
    (plain : ∀ a b className, answer a ≠ .builder b className)
    (parallel : setting.bridge.Parallel s t Bridge.Same m n) :
    setting.bridge.Parallel s t (fun u v => setting.Answers step u.store v.store)
      (m >>= fun a => pure (answer a)) (n >>= fun a => pure (answer a)) := by
  refine parallel.bind ?_
  rintro _ _ _ a _ rfl
  exact .pure (.same (plain a))

/-- Creating a builder. -/
theorem parallel_new {className : String} {options : Options} (allowed : setting.works name)
    (path path' : List Nat) :
    setting.bridge.Parallel s t
      (fun u v => setting.Answers (.new name className options) u.store v.store)
      ((Step.new name className options).answer path)
      ((setting.swap.step (.new name className options)).answer path') := by
  simp only [Swap.step, Step.answer]
  refine .query_bind (fun beside => beside.stores.tables.named className) ?_
  intro beside id id' twins
  have twins : setting.bridge.swap.Twins s.store.classes t.store.classes id id' := twins
  refine (Caller.alike_call.create twins options).bind ?_
  rintro u v b b' _ ⟨paired, new, _⟩
  refine (parallel_bindBuilder allowed paired new).bind ?_
  intro x y _ _ later _
  exact parallel_present (paired.mono later.left.builders later.right.builders)

/-- Calling a member, if the argument is given alike. -/
theorem parallel_call {on member : String} {argument : Argument} {options : Options}
    (works : setting.works on) (looks : ¬ setting.swap.hidden member)
    (rest : ∀ use ∈ argument.uses, setting.Allows use) {path path' : List Nat}
    (gives : ∀ u v : Session Names,
      setting.bridge.Parallel u v (fun u v => Option.Rel (setting.bridge.Givens u v))
        (argument.given path) ((setting.swap.argument argument).given path')) :
    setting.bridge.Parallel s t
      (fun u v => setting.Answers (.call on member argument options) u.store v.store)
      ((Step.call on member argument options).answer path)
      ((setting.swap.step (.call on member argument options)).answer path') := by
  rw [Swap.step, Step.answer, Step.answer]
  have alike := Caller.alike_call (ρ := Names)
  refine (parallel_builderNamed works).bind ?_
  intro u v b b' _ paired
  refine (parallel_check argument rest).bind ?_
  intro x y _ _ first _
  have paired : setting.bridge.Paired x.store y.store b b' :=
    paired.mono first.left.builders first.right.builders
  refine (alike.read paired fun _ _ _ _ => .inr looks).bind ?_
  intro u v found found' second reads
  have paired := paired.mono second.left.builders second.right.builders
  refine Bridge.Parallel.bind_quiet (argument.quiet_given _) (Argument.quiet_given _ _) (gives u v) ?_
  intro given given' givens
  have gives : setting.bridge.Gives u v { first := given, options }
    { first := given', options } := ⟨givens, rfl⟩
  refine (alike.calls setting.bridge paired reads.alike reads.offers reads.offers' gives).bind ?_
  intro _ _ answer answer' _ answered
  exact .pure (answers_of_call reads answered)

/-- Reading an attribute. -/
theorem parallel_get {on : String} (works : setting.works on) (looks : ¬ setting.swap.hidden name)
    (path path' : List Nat) :
    setting.bridge.Parallel s t (fun u v => setting.Answers (.get on name) u.store v.store)
      ((Step.get on name).answer path) ((setting.swap.step (.get on name)).answer path') := by
  simp only [Swap.step, Step.answer]
  refine (parallel_builderNamed works).bind ?_
  intro u v b b' _ paired
  have paired : setting.bridge.Paired u.store v.store b b' := paired
  refine (Caller.alike_call.read paired fun _ _ _ _ => .inr looks).bind ?_
  intro x y found found' _ reads
  exact .pure (.found reads.alike)

/-- Assigning an attribute. -/
theorem parallel_set {on : String} {value : Value} (works : setting.works on)
    (assigns : setting.swap.Assigned name value) (path path' : List Nat) :
    setting.bridge.Parallel s t (fun u v => setting.Answers (.set on name value) u.store v.store)
      ((Step.set on name value).answer path)
      ((setting.swap.step (.set on name value)).answer path') := by
  simp only [Swap.step, Step.answer]
  refine (parallel_builderNamed works).bind ?_
  intro u v b b' _ paired
  have assigns : setting.bridge.swap.Assigned name value := assigns
  exact parallel_answering (fun _ => nofun) (Bridge.Parallel.write paired assigns)

/-- Defining a class. -/
theorem parallel_define {bases : List String} {body : ClassBody}
    (allowed : setting.Allows (.defines name body)) :
    setting.bridge.Parallel s t Bridge.Same (define name bases body)
      (define name bases (setting.swap.body body)) := by
  obtain ⟨any, loose, suits, apart⟩ := allowed
  exact Caller.alike_call.define any apart bases loose suits

mutual

/-- A step runs in parallel to what it is after the swap. -/
theorem parallel_answer : ∀ (step : Step), (∀ use ∈ step.uses, setting.Allows use) →
    ∀ (path : List Nat) (s t : Session Names),
      setting.bridge.Parallel s t (fun u v => setting.Answers step u.store v.store)
        (step.answer (setting.leftPath ++ path))
        ((setting.swap.step step).answer (setting.rightPath ++ path))
  | .named name step, allowed, path, s, t => by
      rw [Step.uses, List.forall_mem_cons] at allowed
      rw [Swap.step, Step.answer, Step.answer]
      refine (parallel_answer step allowed.2 path s t).bind ?_
      intro u v answer answer' _ answers
      refine (parallel_bindAnswer allowed.1.1 answers).bind ?_
      intro _ _ _ _ later _
      exact .pure (answers.mono fun paired => paired.mono later.left.builders later.right.builders)
  | .about on step, allowed, path, s, t => by
      rw [Step.uses, List.forall_mem_cons] at allowed
      rw [Swap.step, Step.answer, Step.answer]
      exact parallel_answer step allowed.2 path s t
  | .new name className options, allowed, path, s, t => by
      rw [Step.uses, List.forall_mem_cons] at allowed
      exact parallel_new allowed.1 _ _
  | .call on member argument options, allowed, path, s, t => by
      rw [Step.uses, List.forall_mem_cons, List.forall_mem_cons] at allowed
      obtain ⟨works, looks, rest⟩ := allowed
      exact parallel_call works looks rest (parallel_given argument rest path)
  | .html argument, allowed, path, s, t => by
      rw [Step.uses] at allowed
      rw [Swap.step, Step.answer, Step.answer]
      refine (parallel_given argument allowed path s t).bind ?_
      intro u v first first' _ givens
      have gives : setting.bridge.Gives u v { first } { first := first' } := ⟨givens, rfl⟩
      exact parallel_answering (fun _ => nofun) (Bridge.parallel_htmlOf gives)
  | .sample, _, path, s, t => by
      simp only [Swap.step, Step.answer]
      exact parallel_answering (fun _ => nofun) Bridge.parallel_samplePage
  | .elements className, _, path, s, t => by
      simp only [Swap.step, Step.answer]
      refine (parallel_named className).bind ?_
      rintro u v _ id _ rfl
      exact parallel_answering (fun _ => nofun) (parallel_listing id)
  | .get on name, allowed, path, s, t => by
      rw [Step.uses, List.forall_mem_cons, List.forall_mem_cons] at allowed
      exact parallel_get allowed.1 allowed.2.1 _ _
  | .set on name value, allowed, path, s, t => by
      rw [Step.uses, List.forall_mem_cons, List.forall_mem_cons] at allowed
      exact parallel_set allowed.1 allowed.2.1 _ _
  | .node spec, allowed, path, s, t => by
      simp only [Swap.step, Step.answer]
      exact parallel_answering (fun _ => nofun) (parallel_read spec (reads_of_allowed allowed))
  | .outline spec, allowed, path, s, t => by
      simp only [Swap.step, Step.answer]
      exact parallel_answering (fun _ => nofun) (parallel_make spec (reads_of_allowed allowed))
  | .compare first second, allowed, path, s, t => by
      have reads := reads_of_allowed allowed
      simp only [Swap.step, Step.answer]
      refine (parallel_read first fun name among =>
        reads name (List.mem_append_left _ among)).bind ?_
      rintro _ _ _ a _ rfl
      exact parallel_answering (fun _ => nofun) (parallel_read second fun name among =>
        reads name (List.mem_append_right _ among))
  | .distinct specs, allowed, path, s, t => by
      simp only [Swap.step, Step.answer]
      exact parallel_answering (fun _ => nofun)
        (parallel_findEqual specs [] (reads_of_allowed allowed))
  | .getField spec name, allowed, path, s, t => by
      simp only [Swap.step, Step.answer]
      refine (parallel_read spec (reads_of_allowed allowed)).bind ?_
      rintro u v _ value _ rfl
      refine .bind (R := Bridge.Same) (.settle (.of_eq .same fun _ => rfl)) ?_
      rintro _ _ _ found _ rfl
      cases found with
      | none => exact .pure (.same nofun)
      | some held => exact .pure (.same nofun)
  | .setField spec name, allowed, path, s, t => by
      simp only [Swap.step, Step.answer]
      refine (parallel_read spec (reads_of_allowed allowed)).bind ?_
      rintro _ _ _ value _ rfl
      exact .throw (.same _)
  | .deleteField spec name, allowed, path, s, t => by
      simp only [Swap.step, Step.answer]
      refine (parallel_read spec (reads_of_allowed allowed)).bind ?_
      rintro _ _ _ value _ rfl
      exact .throw (.same _)
  | .fail message, _, path, s, t => by
      simp only [Swap.step, Step.answer]
      exact .throw (.same _)
  | .attempt steps, allowed, path, s, t => by
      rw [Step.uses] at allowed
      rw [Swap.step, Step.answer, Step.answer]
      refine (parallel_runBlock steps allowed path 0 s t).outcome.bind ?_
      rintro u v result result' _ (_ | alike)
      · exact .pure (.same nofun)
      · exact .pure (.caught alike)
  | .define name bases body, allowed, path, s, t => by
      rw [Step.uses, List.forall_mem_cons] at allowed
      simp only [Swap.step, Step.answer]
      refine (parallel_define allowed.1).bind ?_
      rintro u v _ id _ rfl
      exact parallel_answering (fun _ => nofun) (parallel_listing id)
  | .defineMixin name body, allowed, path, s, t => by
      rw [Step.uses, List.forall_mem_cons] at allowed
      simp only [Swap.step, Step.answer]
      exact parallel_answering (fun _ => nofun) (parallel_define allowed.1).discard

/-- What is given as an argument. -/
theorem parallel_given : ∀ (argument : Argument), (∀ use ∈ argument.uses, setting.Allows use) →
    ∀ (path : List Nat) (s t : Session Names),
      setting.bridge.Parallel s t (fun u v => Option.Rel (setting.bridge.Givens u v))
        (argument.given (setting.leftPath ++ path))
        ((setting.swap.argument argument).given (setting.rightPath ++ path))
  | .absent, _, path, s, t => by
      simp only [Swap.argument, Argument.given]
      exact .pure .none
  | .value held, _, path, s, t => by
      simp only [Swap.argument, Argument.given]
      exact .pure (.some (.value held))
  | .block inner steps, allowed, path, s, t => by
      rw [Argument.uses, List.forall_mem_cons] at allowed
      rw [Swap.argument, Argument.given, Argument.given]
      refine .pure (.some (.function fun {u v b b'} _ paired new => ?_))
      exact (parallel_bindBuilder allowed.1 paired new).bind fun x y _ _ _ _ =>
        parallel_runBlock steps allowed.2 path 0 x y
  | .builder name, allowed, path, s, t => by
      rw [Argument.uses, List.forall_mem_cons] at allowed
      simp only [Swap.argument, Argument.given]
      refine (parallel_builderPassed allowed.1).bind ?_
      intro u v b b' _ known
      exact .pure (.some (.builder known))
  | .node spec, allowed, path, s, t => by
      simp only [Swap.argument, Argument.given]
      refine (parallel_read spec (reads_of_allowed allowed)).bind ?_
      rintro _ _ _ value _ rfl
      exact .pure (.some (.value value))

/-- The steps of a block. -/
theorem parallel_runBlock : ∀ (steps : List Step), (∀ use ∈ usesOf steps, setting.Allows use) →
    ∀ (path : List Nat) (position : Nat) (s t : Session Names),
      setting.bridge.Parallel s t Bridge.Same
        (runBlock (setting.leftPath ++ path) position steps)
        (runBlock (setting.rightPath ++ path) position (setting.swap.steps steps))
  | [], _, path, position, s, t => by
      rw [Swap.steps, runBlock, runBlock]
      exact .pure rfl
  | step :: rest, allowed, path, position, s, t => by
      rw [usesOf, List.forall_mem_append] at allowed
      rw [Swap.steps, runBlock, runBlock, List.append_assoc, List.append_assoc]
      refine (parallel_recorded allowed.1
        (parallel_answer step allowed.1 (path ++ [position]) s t) _).bind ?_
      rintro u v _ _ _ (alike | _)
      · exact .throw alike
      · exact parallel_runBlock rest allowed.2 path (position + 1) u v

end

/-- The steps at the top. -/
theorem parallel_runTop (none : setting.leftPath = []) (none' : setting.rightPath = []) :
    ∀ (steps : List Step), (∀ use ∈ usesOf steps, setting.Allows use) →
      ∀ (position : Nat) (s t : Session Names), setting.bridge.Parallel s t Bridge.Same
        (runTop position steps) (runTop position (setting.swap.steps steps))
  | [], _, position, s, t => by
      rw [Swap.steps]
      exact .pure rfl
  | step :: rest, allowed, position, s, t => by
      rw [usesOf, List.forall_mem_append] at allowed
      have first := parallel_recorded allowed.1
        (parallel_answer step allowed.1 [position] s t) [position]
      rw [none, none'] at first
      rw [Swap.steps, runTop, runTop]
      exact first.discard.bind fun u v _ _ _ _ =>
        parallel_runTop none none' rest allowed.2 (position + 1) u v

end Script.Setting

end ScopedHtml
