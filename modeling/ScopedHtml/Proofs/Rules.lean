import ScopedHtml.Proofs.Frame
import ScopedHtml.Proofs.Steps

/-!
# ScopedHtml.Proofs.Rules

**What every program obeys.** A `Rule` says of some stores that they are good and of two stores
that one leads to the other. It is given by what it says of the few changes that operations make:
an attribute is assigned, a builder or a record is added, a class is drafted and added, registered,
named or given an element to keep.

Whatever a program does, whether it ends well or fails, is a row of such changes. So every program
of the library obeys every rule if what it calls does (`Caller.Obeys`), calls of any depth do
(`Caller.obeys_upTo`), whatever classes may have been defined, and so do the steps of a script
(`Script.Step.obeys_answer`) and a whole script (`Script.obeys_runTop`). The induction over programs is
made here once. What a rule is good for is said where it is made.
-/

namespace ScopedHtml

/-! ### Rules -/

/-- What single changes of good stores lead to. -/
structure Rule where
  good : Store → Prop
  leads : Store → Store → Prop
  refl : ∀ {store}, good store → leads store store
  trans : ∀ {before mid after}, leads before mid → leads mid after → leads before after
  still : ∀ {before after}, leads before after → good after
  length : ∀ {before after}, leads before after →
    before.classes.classes.length ≤ after.classes.classes.length
  assign : ∀ {store}, good store → ∀ b name value, leads store (store.assign b name value)
  replace : ∀ {store}, good store → ∀ b held, leads store (store.replace b held)
  add : ∀ {store}, good store → ∀ builder, leads store (store.add builder).2
  logged : ∀ {store}, good store → ∀ event, leads store (store.logged event)
  keep : ∀ {store}, good store → ∀ id {element}, element ∈ Hook.ofClass → ∀ made,
    leads store
      { store with classes := store.classes.assign id (slotAttribute element) (.data made) }
  register : ∀ {store}, good store → ∀ {id classes}, store.classes.registered id = .ok classes →
    leads store { store with classes }
  push : ∀ {store}, good store → ∀ {bases ids name body new},
    store.classes.namedAll bases = .ok ids → store.classes.draft name ids body = .ok new →
    leads store { store with classes := (store.classes.push new).2 }
  bindName : ∀ {store}, good store → ∀ name {id : ClassId},
    id.index < store.classes.classes.length →
    leads store { store with classes := store.classes.bindName name id }

namespace Rule

variable (rule : Rule) {store after : Store} {b : BuilderRef}

/-- Assigning an attribute, in whichever way the class has it. -/
theorem write (good : rule.good store) {name : String} {value : Value}
    (written : store.write b name value = .ok after) : rule.leads store after := by
  obtain rfl | rfl | ⟨members, _, _, rfl⟩ := Store.write_eq_ok written
  · exact rule.refl good
  · exact rule.assign good b name value
  · exact rule.replace good b _

theorem writeAll : ∀ {entries : List (String × Value)} {store : Store}, rule.good store →
    store.writeAll b entries = .ok after → rule.leads store after
  | [], store, good, written => by cases written; exact rule.refl good
  | (name, value) :: rest, store, good, written => by
      obtain ⟨next, first, others⟩ := Store.writeAll_cons_eq_ok written
      have leads : rule.leads store next := rule.write good first
      exact rule.trans leads (writeAll (rule.still leads) others)

theorem createBare (good : rule.good store) {id : ClassId} {options : Options}
    (created : store.createBare id options = .ok (b, after)) : rule.leads store after := by
  obtain ⟨_, rfl⟩ := Store.createBare_eq_ok created
  exact rule.add good _

theorem gather (good : rule.good store) {children : Found} {value : Value}
    (pushed : store.push b children value = .ok after) : rule.leads store after := by
  obtain ⟨items, _, rfl⟩ := Store.push_eq_ok pushed
  exact rule.assign good b _ _

theorem record (good : rule.good store) {element : Value}
    (recorded : store.record b element = .ok after) : rule.leads store after := by
  obtain ⟨node, _, rfl⟩ := Store.record_eq_ok recorded
  exact rule.logged good _

/-- A class may get a register of its own at any time. -/
theorem registered (good : rule.good store) {id : ClassId}
    (done : store.onClasses (·.registered id) = .ok after) : rule.leads store after := by
  obtain ⟨classes, registered, rfl⟩ := Store.onClasses_eq_ok done
  exact rule.register good registered

/-- Openers that work on a class may keep their elements there. -/
theorem attached (good : rule.good store) {id : ClassId} {element : String} {made : Value}
    {attachment : Attachment} (ofClass : element ∈ Hook.ofClass)
    (done : store.onClasses (·.attach id element made attachment) = .ok after) :
    rule.leads store after := by
  obtain rfl | rfl := Store.attach_eq_ok done
  · exact rule.refl good
  · exact rule.keep good id ofClass made

end Rule

/-! ### Programs -/

variable {ρ α β : Type} {rule : Rule}

namespace BuildM

variable {m : BuildM ρ α} {k : α → BuildM ρ β} {s t : Session ρ}

/-- The store of `s` leads to that which running `m` from `s` leaves, if it is good. -/
def Obeys (rule : Rule) (m : BuildM ρ α) (s : Session ρ) : Prop :=
  rule.good s.store → rule.leads s.store (left m s).store

theorem Obeys.of_ok (h : Obeys rule m s) {a : α} (run : m s = .ok a t) (good : rule.good s.store) :
    rule.leads s.store t.store := by
  have leads := h good
  rwa [left_of_ok run] at leads

theorem Quiet.obeys (h : Quiet m s) : Obeys rule m s := by
  intro good
  rw [h.left_eq]
  exact rule.refl good

theorem obeys_pure (a : α) : Obeys rule (pure a : BuildM ρ α) s := (quiet_pure a).obeys

theorem obeys_throw (fault : Fault) : Obeys rule (throw fault : BuildM ρ α) s :=
  (quiet_throw fault).obeys

theorem obeys_query (read : Store → Except Fault α) : Obeys rule (query read : BuildM ρ α) s :=
  (quiet_query read).obeys

theorem obeys_observe (view : Store → α) : Obeys rule (observe view : BuildM ρ α) s :=
  (quiet_observe view).obeys

theorem obeys_settle (result : Except Fault α) : Obeys rule (settle result : BuildM ρ α) s :=
  (quiet_settle result).obeys

/-- A sequence obeys a rule if its first part does and the second does from there. -/
theorem Obeys.seq (first : Obeys rule m s)
    (second : ∀ a t, m s = .ok a t → rule.leads s.store t.store → Obeys rule (k a) t) :
    Obeys rule (m >>= k) s := by
  intro good
  have here := first good
  obtain ⟨fault, _, eq⟩ | ⟨a, run, eq⟩ := left_bind m k s
  · rwa [eq]
  · rw [eq]
    exact rule.trans here (second a _ run here (rule.still here))

/-- A sequence obeys a rule if its parts do. -/
theorem Obeys.bind (first : Obeys rule m s) (second : ∀ a t, m s = .ok a t → Obeys rule (k a) t) :
    Obeys rule (m >>= k) s :=
  first.seq fun a t run _ => second a t run

theorem obeys_observe_bind {view : Store → α} (h : Obeys rule (k (view s.store)) s) :
    Obeys rule (observe view >>= k) s := h

theorem Obeys.outcome (h : Obeys rule m s) : Obeys rule (outcome m) s := by
  intro good
  rw [left_outcome]
  exact h good

theorem Obeys.discard (h : Obeys rule m s) : Obeys rule (discard m : BuildM ρ Unit) s := by
  intro good
  rw [left_discard]
  exact h good

/-- Putting an answer in another way is no matter of rules. -/
theorem Obeys.map (h : Obeys rule m s) (f : α → β) : Obeys rule (m >>= fun a => pure (f a)) s :=
  h.bind fun _ _ _ => obeys_pure _

theorem obeys_perform {operation : Store → Except Fault Store}
    (h : ∀ after, rule.good s.store → operation s.store = .ok after → rule.leads s.store after) :
    Obeys rule (perform operation : BuildM ρ Unit) s := by
  intro good
  obtain eq | ⟨after, done, eq⟩ := left_perform operation s
  · rw [eq]
    exact rule.refl good
  · rw [eq]
    exact h after good done

theorem obeys_transact {operation : Store → Except Fault (α × Store)}
    (h : ∀ a after, rule.good s.store → operation s.store = .ok (a, after) → rule.leads s.store after) :
    Obeys rule (transact operation : BuildM ρ α) s := by
  intro good
  obtain eq | ⟨a, after, done, eq⟩ := left_transact operation s
  · rw [eq]
    exact rule.refl good
  · rw [eq]
    exact h a after good done

/-- What a program carries besides the store is no matter of the store. -/
theorem obeys_modify (f : Session ρ → Session ρ) (same : ∀ s, (f s).store = s.store) :
    Obeys rule (modify f : BuildM ρ Unit) s := by
  intro good
  show rule.leads s.store (f s).store
  rw [same]
  exact rule.refl good

end BuildM

open BuildM

/-! ### Operations on builders -/

/-- An argument that obeys a rule when it is run. -/
def Given.Obeys (rule : Rule) : Given ρ → Prop
  | .function init => ∀ b s, (init b).Obeys rule s
  | _ => True

/-- Arguments of which what is given to be run obeys a rule. -/
def Arguments.Obeys (rule : Rule) (arguments : Arguments ρ) : Prop :=
  ∀ given, arguments.first = some given → given.Obeys rule

/-- A caller that obeys a rule, whatever it calls. -/
def Caller.Obeys (rule : Rule) (call : Caller ρ) : Prop :=
  ∀ (b : BuilderRef) (found : Found) (arguments : Arguments ρ) (s : Session ρ),
    arguments.Obeys rule → (call b found arguments).Obeys rule s

theorem Arguments.obeys_empty (options : Options) : Arguments.Obeys rule ({ options } : Arguments ρ) :=
  nofun

theorem Arguments.obeys_of_value (value : Value) :
    Arguments.Obeys rule ({ first := some (.value value) } : Arguments ρ) := by
  rintro given ⟨⟩
  trivial

theorem Arguments.Obeys.of_no_function {arguments : Arguments ρ}
    (other : ∀ init, arguments.first ≠ some (.function init)) : arguments.Obeys rule := by
  intro given first
  cases given with
  | function init => exact absurd first (other init)
  | _ => trivial

theorem Arguments.Obeys.init? {arguments : Arguments ρ} (obeys : arguments.Obeys rule) {given : Given ρ}
    (init : arguments.init? = some given) : given.Obeys rule := by
  unfold Arguments.init? at init
  split at init
  · cases init
  · exact obeys given init

namespace Caller

variable {call : Caller ρ} {s : Session ρ} {b : BuilderRef} {name : String}

/-! #### Reading -/

theorem Obeys.dispatch (obeys : call.Obeys rule) {origin : ClassId × Member}
    {arguments : Arguments ρ} (given : arguments.Obeys rule) :
    (call.dispatch b name origin arguments).Obeys rule s :=
  obeys_observe_bind (obeys _ _ _ _ given)

theorem Obeys.ask (obeys : call.Obeys rule) {hook : Hook} {origin : ClassId × Member} :
    (call.ask b hook origin name).Obeys rule s :=
  (obeys.dispatch (Arguments.obeys_of_value _)).map _

theorem Obeys.reading (obeys : call.Obeys rule) {lookup : BuildM ρ Found} (h : lookup.Obeys rule s) :
    (call.reading b name lookup).Obeys rule s := by
  unfold Caller.reading
  refine obeys_observe_bind ?_
  refine Obeys.bind (Obeys.outcome ?_) ?_
  · split
    · exact h
    · exact obeys.ask
  · intro result t _
    cases result with
    | ok found => exact obeys_pure _
    | error fault =>
        refine obeys_observe_bind ?_
        split
        · exact obeys.ask
        · exact obeys_throw _

theorem Obeys.readKept (obeys : call.Obeys rule) : (call.readKept b name).Obeys rule s :=
  obeys.reading (obeys_query _)

theorem Obeys.computed (obeys : call.Obeys rule) (property : Property) :
    (call.computed b property).Obeys rule s := by
  cases property with
  | isFinalized => exact obeys.readKept
  | children =>
      refine obeys.readKept.bind ?_
      intro found t _
      exact (obeys_settle _).map _

theorem Obeys.read (obeys : call.Obeys rule) : (call.read b name).Obeys rule s := by
  refine obeys.reading (obeys_observe_bind ?_)
  split
  · exact obeys.computed _
  · exact obeys_query _

theorem Obeys.readItems (obeys : call.Obeys rule) : (call.readItems b name).Obeys rule s :=
  obeys.read.bind fun _ _ _ => obeys_settle _

theorem Obeys.readValue (obeys : call.Obeys rule) : (call.readValue b name).Obeys rule s :=
  obeys.read.map _

theorem Obeys.own (obeys : call.Obeys rule) : (call.own b name).Obeys rule s :=
  obeys.read.bind fun _ _ _ => obeys _ _ _ _ (Arguments.obeys_empty [])

theorem Obeys.report (obeys : call.Obeys rule) :
    (call.report b name : BuildM ρ α).Obeys rule s := by
  unfold Caller.report
  refine obeys_observe_bind ?_
  split
  · exact obeys_throw _
  · refine obeys.own.bind ?_
    intro names t _
    split <;> exact obeys_throw _

theorem Obeys.inspect (obeys : call.Obeys rule) : (call.inspect b).Obeys rule s := by
  unfold Caller.inspect
  refine obeys.read.outcome.bind ?_
  intro result t _
  cases result with
  | ok found => exact obeys_pure _
  | error fault =>
      dsimp only
      split
      · exact obeys_pure _
      · exact obeys_throw _

theorem Obeys.isOf (obeys : call.Obeys rule) (base : ClassId) : (call.isOf b base).Obeys rule s := by
  unfold Caller.isOf
  refine obeys_observe_bind ?_
  split
  · exact obeys.read.discard.bind fun _ _ _ => (obeys_throw _)
  · exact obeys_observe _

/-! #### Elements -/

theorem obeys_write (value : Value) :
    (perform fun store => store.write b name value : BuildM ρ Unit).Obeys rule s :=
  obeys_perform fun _ good written => rule.write good written

theorem Obeys.push (obeys : call.Obeys rule) (value : Value) : (call.push b value).Obeys rule s :=
  obeys.read.bind fun _ _ _ => obeys_perform fun _ good pushed => rule.gather good pushed

theorem Obeys.attach (obeys : call.Obeys rule) (made : Value) (attachment : Attachment) :
    (call.attach b name made attachment).Obeys rule s := by
  cases attachment with
  | append => exact obeys.push made
  | slot => exact obeys_write made
  | discard => exact obeys_pure _

theorem Obeys.paragraph (obeys : call.Obeys rule) (content : Value) :
    (call.paragraph b content).Obeys rule s :=
  (obeys.push _).map _

theorem Obeys.title (obeys : call.Obeys rule) (content : Value) : (call.title b content).Obeys rule s :=
  (obeys_write _).bind fun _ _ _ => obeys.readValue

theorem Obeys.append (obeys : call.Obeys rule) (node : Node) : (call.append b node).Obeys rule s :=
  (obeys.push _).map _

theorem Obeys.appendGiven (obeys : call.Obeys rule) (given : Given ρ) :
    (call.appendGiven b given).Obeys rule s := by
  have refused : ∀ {t}, (do throw (← observe fun store => Fault.invalidChild
      (store.className b) (given.typeName store)) : BuildM ρ Node).Obeys rule t :=
    obeys_observe_bind (obeys_throw _)
  unfold Caller.appendGiven
  split
  · exact obeys.append _
  · refine obeys_observe_bind ?_
    split
    · exact obeys.append _
    · exact refused
    · exact obeys.inspect.bind fun _ _ _ => refused
  · exact refused

theorem Obeys.unsetAmong (obeys : call.Obeys rule) (names : List Value) :
    ∀ {s}, (call.unsetAmong b names).Obeys rule s := by
  induction names with
  | nil => exact obeys_pure _
  | cons name rest ih =>
      intro s
      exact obeys.read.bind fun _ _ _ => ih.map _

theorem Obeys.missing (obeys : call.Obeys rule) : (call.missing b).Obeys rule s :=
  obeys.readItems.bind fun names _ _ => obeys.unsetAmong names

theorem Obeys.make (obeys : call.Obeys rule) (product : Product) : (call.make b product).Obeys rule s := by
  cases product with
  | head => exact obeys.readValue.map _
  | body => exact obeys.readItems.map _
  | division =>
      exact obeys.readItems.bind fun _ _ _ => obeys.readValue.bind fun _ _ _ =>
        obeys.readValue.map _
  | document => exact obeys.readValue.bind fun _ _ _ => obeys.readValue.map _

theorem Obeys.build (obeys : call.Obeys rule) : (call.build b).Obeys rule s := by
  unfold Caller.build
  refine obeys.own.bind ?_
  intro absent t _
  have rest : ∀ {t}, (do
      let element ← call.own b "_make_node"
      perform fun store => store.finalize b
      perform fun store => store.record b element
      return element : BuildM ρ Value).Obeys rule t := by
    intro t
    refine obeys.own.bind ?_
    intro element t _
    refine (obeys_write _).bind ?_
    intro _ t _
    refine Obeys.map (obeys_perform ?_) _
    exact fun _ good recorded => rule.record good recorded
  split
  · exact rest
  · exact obeys_observe_bind (obeys_throw _)

/-! #### Scopes -/

theorem Obeys.run (obeys : call.Obeys rule) {given : Given ρ} (h : given.Obeys rule) :
    (call.run given b).Obeys rule s := by
  unfold Caller.run
  cases given with
  | function init => exact h b s
  | value held => exact obeys_throw _
  | builder callee =>
      refine obeys_observe_bind ?_
      split
      · exact obeys_observe_bind (obeys_throw _)
      · refine Obeys.discard (obeys.dispatch ?_)
        rintro given ⟨⟩
        trivial

/-- A builder may be started at any time. -/
theorem obeys_assignStart (starter : Starter) (given : Options) :
    (perform fun store => store.start b starter given : BuildM ρ Unit).Obeys rule s :=
  obeys_perform fun _ good started => rule.writeAll good started

theorem Obeys.startAlong (obeys : call.Obeys rule) (row : List ClassId) :
    ∀ {s}, (call.startAlong b row).Obeys rule s := by
  induction row with
  | nil => exact obeys_pure _
  | cons next rest ih =>
      intro s
      unfold Caller.startAlong
      refine obeys_observe_bind ?_
      split
      · exact ih
      · dsimp only
        split
        · exact ih.bind fun _ _ _ => obeys_assignStart _ _
        · exact obeys_assignStart _ _
      · exact (obeys.dispatch (Arguments.obeys_empty [])).discard

theorem Obeys.startWith (obeys : call.Obeys rule) (starter : Starter) (given : Options) :
    (call.startWith b starter given).Obeys rule s := by
  unfold Caller.startWith
  dsimp only
  split
  · exact obeys_assignStart starter given
  · exact obeys_observe_bind ((obeys.startAlong _).bind fun _ _ _ => obeys_assignStart starter given)

theorem Obeys.start (obeys : call.Obeys rule) (origin : ClassId × Member) (options : Options) :
    (call.start b origin options).Obeys rule s := by
  unfold Caller.start
  refine (obeys.dispatch (Arguments.obeys_empty options)).bind ?_
  intro answer t _
  split
  · exact obeys_pure _
  · exact obeys_throw _

theorem obeys_createBare (id : ClassId) (options : Options) :
    (transact fun store => store.createBare id options : BuildM ρ BuilderRef).Obeys rule s :=
  obeys_transact fun _ _ good created => rule.createBare good created

theorem Obeys.createBuilder (obeys : call.Obeys rule) (id : ClassId) (options : Options) :
    (call.createBuilder id options).Obeys rule s := by
  unfold Caller.createBuilder
  refine (obeys_query _).bind ?_
  intro initializer t _
  split
  · exact obeys_createBare id options
  · refine (obeys_query _).bind ?_
    intro given t _
    refine (obeys_createBare id []).bind ?_
    intro b t _
    exact (obeys.startWith _ given).map _
  · refine (obeys_createBare id []).bind ?_
    intro b t _
    exact (obeys.start _ _).map _

theorem Obeys.create (obeys : call.Obeys rule) (id : ClassId) (options : Options) :
    (call.create id options).Obeys rule s := by
  unfold Caller.create
  refine obeys_observe_bind ?_
  split
  · exact obeys.createBuilder id options
  · refine (obeys_createBare id []).bind ?_
    intro b t _
    refine (obeys.dispatch (Arguments.obeys_empty options)).bind ?_
    intro made t _
    refine obeys_transact ?_
    rintro _ _ good ⟨⟩
    exact rule.add good _

theorem Obeys.scope (obeys : call.Obeys rule) (element : String) (target : Target)
    {init : Option (Given ρ)} (h : ∀ given, init = some given → given.Obeys rule)
    (options : Options) : (call.scope element target init options).Obeys rule s := by
  unfold Caller.scope
  refine (obeys_query _).bind ?_
  intro id t _
  refine (obeys.create id options).bind ?_
  intro child t _
  split
  · exact (obeys.run (h _ rfl)).bind fun _ _ _ => obeys.own
  · exact obeys.own

theorem Obeys.openScope (obeys : call.Obeys rule) (element : String) (target : Target)
    (attachment : Attachment) {init : Option (Given ρ)}
    (h : ∀ given, init = some given → given.Obeys rule) (options : Options) :
    (call.openScope b element target attachment init options).Obeys rule s :=
  (obeys.scope element target h options).bind fun made _ _ =>
    (obeys.attach made attachment).map _

theorem Obeys.openScopeOn (obeys : call.Obeys rule) (id : ClassId) {element : String}
    (ofClass : element ∈ Hook.ofClass) (target : Target) (attachment : Attachment)
    {init : Option (Given ρ)} (h : ∀ given, init = some given → given.Obeys rule)
    (options : Options) :
    (call.openScopeOn id element target attachment init options).Obeys rule s := by
  refine (obeys.scope element target h options).bind ?_
  intro made t _
  refine Obeys.map (obeys_perform ?_) _
  exact fun _ good attached => rule.attached good ofClass attached

theorem Obeys.html (obeys : call.Obeys rule) {init : Given ρ} (h : init.Obeys rule) :
    (call.html init).Obeys rule s :=
  (obeys.create _ _).bind fun _ _ _ => (obeys.run h).bind fun _ _ _ => obeys.own

/-! #### Classes -/

theorem Obeys.announce (obeys : call.Obeys rule) (id : ClassId) (options : Options)
    (row : List ClassId) : ∀ {s}, (call.announce id options row).Obeys rule s := by
  induction row with
  | nil =>
      intro s
      unfold Caller.announce
      dsimp only
      split
      · exact obeys_pure _
      · exact obeys_observe_bind (obeys_throw _)
  | cons next rest ih =>
      intro s
      unfold Caller.announce
      refine obeys_observe_bind ?_
      split
      · exact ih
      · exact obeys.openScopeOn id (by decide) _ _ (fun given none => by cases none) options
      · exact obeys_pure _
      · exact obeys_throw _
      · refine ih.discard.bind ?_
        intro _ t _
        refine Obeys.map (obeys_perform ?_) _
        exact fun _ good registered => rule.registered good registered

/-- Binding a name to a class that is there. -/
theorem obeys_bindName {id : ClassId} (there : id.index < s.store.classes.classes.length)
    (name : String) :
    (perform fun store => store.onClasses fun classes => .ok (classes.bindName name id) :
      BuildM ρ Unit).Obeys rule s := by
  refine obeys_perform ?_
  intro after good bound
  obtain ⟨classes, named, rfl⟩ := Store.onClasses_eq_ok bound
  cases named
  exact rule.bindName good name there

theorem Obeys.define (obeys : call.Obeys rule) (name : String) (bases : List String)
    (body : ClassBody) : (call.define name bases body).Obeys rule s := by
  unfold Caller.define
  refine (obeys_query _).bind ?_
  intro baseIds t named
  obtain ⟨named, rfl⟩ := query_eq_ok.1 named
  refine (obeys_query _).bind ?_
  intro new t drafted
  obtain ⟨drafted, rfl⟩ := query_eq_ok.1 drafted
  refine Obeys.bind (obeys_transact ?_) ?_
  · rintro id after good ⟨⟩
    exact rule.push good named drafted
  intro id t added
  -- The name is bound to the class that has been added, which stays.
  have there : id.index < t.store.classes.classes.length := by
    cases added
    simp
  refine (obeys.announce id [] _).discard.seq ?_
  intro _ u _ announced
  have there : id.index < u.store.classes.classes.length :=
    Nat.lt_of_lt_of_le there (rule.length announced)
  refine obeys_observe_bind ?_
  split
  · refine Obeys.bind ((obeys_observe _).bind fun _ _ _ => obeys_settle _) ?_
    intro _ v checked
    obtain rfl : v = u :=
      ((quiet_observe _).bind fun _ _ => quiet_settle _ : Quiet _ u).eq_of_ok checked
    exact (obeys_bindName there name).map _
  · exact (obeys_bindName there name).map _

/-! ### Calls -/

theorem Obeys.method (obeys : call.Obeys rule) (given : Given ρ) (method : Method) :
    (call.method b given method).Obeys rule s := by
  cases method with
  | build => exact obeys.build
  | missing => exact obeys.missing.map _
  | elements => exact (obeys_query _).map _
  | paragraph => exact (obeys.paragraph _).map _
  | title => exact obeys.title _
  | append => exact (obeys.appendGiven _).map _
  | report =>
      cases given with
      | value held =>
          cases held with
          | text name => exact obeys.report
          | _ => exact obeys_observe_bind (obeys_throw _)
      | _ => exact obeys_observe_bind (obeys_throw _)
  | register => exact obeys_pure _

theorem Obeys.member (obeys : call.Obeys rule) {arguments : Arguments ρ} (given : arguments.Obeys rule)
    (owner : String) (called : Member) : (call.member b owner name arguments called).Obeys rule s := by
  unfold Caller.member
  refine obeys_observe_bind ?_
  split
  · split
    · next ofClass => exact obeys.openScopeOn _ ofClass _ _ (fun _ => given.init?) _
    · exact obeys.openScope _ _ _ (fun _ => given.init?) _
  · exact obeys_pure _
  · refine (obeys_settle _).bind ?_
    intro options t _
    refine obeys_observe_bind ?_
    exact obeys.announce _ _ _
  · refine (obeys_settle _).bind ?_
    intro argument t _
    exact obeys.method argument _
  · refine (obeys_settle _).discard.bind ?_
    intro _ t _
    exact (obeys.make _).map _
  · refine (obeys_settle _).bind ?_
    intro bound t _
    exact (obeys.startWith _ _).map _
  · exact obeys_pure _

theorem Obeys.step (obeys : call.Obeys rule) : call.step.Obeys rule := by
  intro b found arguments s given
  cases found with
  | value held => exact obeys_throw _
  | callable owner name called => exact obeys.member given owner called

/-- Calls that are nested so deep obey every rule, whatever is called. -/
theorem obeys_upTo : ∀ depth, (upTo depth : Caller ρ).Obeys rule
  | 0 => fun _ _ _ _ _ => obeys_throw _
  | depth + 1 => (obeys_upTo depth).step

end Caller

theorem obeys_call : (call : Caller ρ).Obeys rule := Caller.obeys_upTo Caller.depthLimit

/-- What the only parameter of a call is bound to has been given, or is a value. -/
theorem Arguments.bindOnly_cases {arguments : Arguments ρ} {signature : Signature}
    {given : Given ρ} (bound : arguments.bindOnly signature = .ok given) :
    arguments.first = some given ∨ ∃ value, given = .value value := by
  obtain ⟨entries, all, bound⟩ := ok_of_bind bound
  have every : ∀ entry ∈ entries, arguments.first = some entry.2 ∨
      ∃ value, entry.2 = .value value := by
    intro entry inside
    rw [Signature.bind_eq_ok all] at inside
    rcases List.mem_append.1 inside with inside | inside
    · cases first : arguments.first with
      | none => rw [first] at inside; cases inside
      | some given =>
          rw [first] at inside
          obtain ⟨parameter, _, rfl⟩ := List.mem_map.1 inside
          exact .inl rfl
    · obtain ⟨option, _, rfl⟩ := List.mem_map.1 inside
      exact .inr ⟨_, rfl⟩
  cases entries with
  | nil => cases bound; exact .inr ⟨_, rfl⟩
  | cons entry rest =>
      cases bound
      exact every entry (List.mem_cons_self ..)

theorem Arguments.Obeys.bindOnly {arguments : Arguments ρ} (obeys : arguments.Obeys rule)
    {signature : Signature} {given : Given ρ} (bound : arguments.bindOnly signature = .ok given) :
    given.Obeys rule := by
  rcases Arguments.bindOnly_cases bound with first | ⟨value, rfl⟩
  · exact obeys given first
  · trivial

variable {s : Session ρ}

theorem obeys_htmlOf {arguments : Arguments ρ} (given : arguments.Obeys rule) :
    (htmlOf arguments).Obeys rule s := by
  unfold htmlOf
  refine (obeys_settle _).bind ?_
  intro init t bound
  exact obeys_call.html (given.bindOnly (query_eq_ok.1 bound).1)

/-- An opener of the library, with a function that obeys a rule. -/
theorem BuilderRef.obeys_openScope (b : BuilderRef) (element : String) (target : Target)
    (attachment : Attachment) {init : Option (Init ρ)}
    (h : ∀ f, init = some f → ∀ child s, (f child).Obeys rule s) (options : Options) :
    (b.openScope element target attachment init options).Obeys rule s := by
  refine obeys_call.openScope element target attachment ?_ options
  intro given some
  cases init with
  | none => cases some
  | some f => cases some; exact h f rfl

theorem obeys_samplePage : (samplePage : BuildM ρ Value).Obeys rule s := by
  have paragraph : ∀ (b : BuilderRef) (content : Value) (s : Session ρ),
      (do discard <| b.p content : BuildM ρ Unit).Obeys rule s := fun b content s =>
    (obeys_call.paragraph content).discard
  refine obeys_call.html ?_
  intro document s
  refine Obeys.bind (Obeys.discard (document.obeys_openScope _ _ _ ?_ _)) ?_
  · rintro f ⟨⟩ head s
    exact (obeys_call.title _).discard
  intro _ s _
  refine Obeys.discard (document.obeys_openScope _ _ _ ?_ _)
  rintro f ⟨⟩ body s
  refine Obeys.bind (Obeys.discard (body.obeys_openScope _ _ _ ?_ _)) ?_
  · rintro f ⟨⟩ division s
    exact paragraph division _ s
  intro _ s _
  refine Obeys.discard (body.obeys_openScope _ _ _ ?_ _)
  rintro f ⟨⟩ division s
  exact (paragraph division _ s).bind fun _ _ _ => paragraph division _ _

/-! ### Scripts -/

namespace Script

variable {s : Session Names}

theorem obeys_bindBuilder (name : String) (b : BuilderRef) : (bindBuilder name b).Obeys rule s :=
  obeys_modify _ fun _ => rfl

theorem obeys_bindAnswer (name : String) (answer : Answer) : (bindAnswer name answer).Obeys rule s := by
  unfold bindAnswer
  split
  · exact obeys_modify _ fun _ => rfl
  · exact obeys_pure _

theorem obeys_glimpse (b : BuilderRef) : (glimpse b).Obeys rule s := by
  unfold glimpse
  refine (obeys_call.isOf _).bind ?_
  intro isFlow t _
  refine obeys_call.own.outcome.bind ?_
  intro missing t _
  refine obeys_call.read.bind ?_
  intro finalized t _
  split
  · refine obeys_call.read.bind ?_
    intro children t _
    exact (obeys_settle _).bind fun _ _ _ => obeys_pure _
  · exact obeys_pure _

theorem obeys_get : (get : ScriptM (Session Names)).Obeys rule s :=
  Quiet.obeys (quiet_of_ok (a := s) rfl)

/-- The end of recording a step: what has come of it is added to the trace, and what it failed
with is told. -/
def enter (path : List Nat) (step : Step) (target : Option BuilderRef)
    (result : Except Fault Answer) (seen : Option Glimpse) : ScriptM (Option Fault) := do
  let entry : Entry := { path, step, target, result, glimpse := seen }
  modify fun session =>
    { session with extra := { session.extra with trace := session.extra.trace ++ [entry] } }
  match result with
  | .ok _ => return none
  | .error fault => return some fault

theorem obeys_enter {path : List Nat} {step : Step} {target : Option BuilderRef}
    {result : Except Fault Answer} {seen : Option Glimpse} :
    (enter path step target result seen).Obeys rule s := by
  unfold enter
  refine Obeys.bind (obeys_modify _ fun _ => rfl) ?_
  intro _ t _
  split <;> exact obeys_pure _

/-- Recording a step obeys a rule if the step does. -/
theorem obeys_recorded {path : List Nat} {step : Step} {body : ScriptM Answer}
    (h : body.Obeys rule s) : (recorded path step body).Obeys rule s := by
  unfold recorded
  refine obeys_get.bind ?_
  rintro before t ⟨⟩
  refine h.outcome.bind ?_
  intro result t _
  refine obeys_get.bind ?_
  rintro after t ⟨⟩
  dsimp only
  split
  · refine Obeys.bind ?_ fun seen u _ => show (enter path step _ result seen).Obeys rule u from obeys_enter
    rw [← bind_pure_comp]
    exact (obeys_glimpse _).map _
  · exact show (enter path step _ result none).Obeys rule t from obeys_enter

theorem obeys_present (b : BuilderRef) : (present b).Obeys rule s := by
  unfold present
  refine obeys_observe_bind ?_
  split
  · exact obeys_pure _
  · refine obeys_call.inspect.bind ?_
    intro _ t _
    refine obeys_observe_bind ?_
    refine (obeys_call.isOf _).bind ?_
    intro isBuilder t _
    split
    · exact obeys_pure _
    · refine obeys_observe_bind ?_
      split <;> exact obeys_pure _

mutual

/-- Whatever a step does, it obeys a rule. -/
theorem Step.obeys_answer : ∀ (step : Step) (path : List Nat) (s : Session Names),
    (step.answer path).Obeys rule s
  | .named name step, path, s => by
      rw [Step.answer]
      refine (Step.obeys_answer step path s).bind ?_
      intro answer t _
      exact (obeys_bindAnswer name answer).bind fun _ _ _ => obeys_pure _
  | .about _ step, path, s => by
      rw [Step.answer]
      exact Step.obeys_answer step path s
  | .new name className options, path, s => by
      rw [Step.answer]
      refine (obeys_query _).bind ?_
      intro id t _
      refine (obeys_call.create id options).bind ?_
      intro b t _
      exact (obeys_bindBuilder name b).bind fun _ _ _ => obeys_present b
  | .call on member argument options, path, s => by
      rw [Step.answer]
      refine (quiet_builderNamed on).obeys.bind ?_
      intro b t _
      refine argument.quiet_check.obeys.bind ?_
      intro _ t _
      refine obeys_call.read.bind ?_
      intro found t _
      refine (argument.quiet_given path).obeys.bind ?_
      intro first u given
      exact (obeys_call b found _ u (Argument.obeys_given argument path given)).map _
  | .html argument, path, s => by
      rw [Step.answer]
      refine (argument.quiet_given path).obeys.bind ?_
      intro first t given
      exact (obeys_htmlOf (Argument.obeys_given argument path given)).map _
  | .sample, path, s => by
      rw [Step.answer]
      exact obeys_samplePage.map _
  | .elements className, path, s => by
      rw [Step.answer]
      exact (obeys_query _).bind fun _ _ _ => (obeys_query _).map _
  | .get on name, path, s => by
      rw [Step.answer]
      exact (quiet_builderNamed on).obeys.bind fun _ _ _ => obeys_call.read.map _
  | .set on name value, path, s => by
      rw [Step.answer]
      refine (quiet_builderNamed on).obeys.bind ?_
      intro b t _
      exact (Caller.obeys_write value).map _
  | .node spec, path, s => by
      rw [Step.answer]
      exact (quiet_readSpec spec).obeys.map _
  | .outline spec, path, s => by
      rw [Step.answer]
      exact (quiet_makeSpec spec).obeys.map _
  | .compare first second, path, s => by
      rw [Step.answer]
      exact (quiet_readSpec first).obeys.bind fun _ _ _ => (quiet_readSpec second).obeys.map _
  | .distinct specs, path, s => by
      rw [Step.answer]
      exact (quiet_findEqual [] specs).obeys.map _
  | .getField spec name, path, s => by
      rw [Step.answer]
      refine (quiet_readSpec spec).obeys.bind ?_
      intro value t _
      refine (obeys_settle _).bind ?_
      intro found t _
      split <;> exact obeys_pure _
  | .setField spec name, path, s => by
      rw [Step.answer]
      exact (quiet_readSpec spec).obeys.bind fun _ _ _ => obeys_throw _
  | .deleteField spec name, path, s => by
      rw [Step.answer]
      exact (quiet_readSpec spec).obeys.bind fun _ _ _ => obeys_throw _
  | .fail message, path, s => by
      rw [Step.answer]
      exact obeys_throw _
  | .attempt steps, path, s => by
      rw [Step.answer]
      refine (obeys_runBlock steps path 0 s).outcome.bind ?_
      intro result t _
      split <;> exact obeys_pure _
  | .define name bases body, path, s => by
      rw [Step.answer]
      exact (obeys_call.define name bases body).bind fun _ _ _ => (obeys_query _).map _
  | .defineMixin name body, path, s => by
      rw [Step.answer]
      exact (obeys_call.define name [] body).discard.map _

/-- What is given as an argument obeys a rule. -/
theorem Argument.obeys_given : ∀ (argument : Argument) (path : List Nat) {s t : Session Names}
    {first : Option (Given Names)} {options : Options},
    argument.given path s = .ok first t → Arguments.Obeys rule { first, options }
  | .block inner steps, path, s, t, first, options, given => by
      cases given
      rintro given ⟨⟩ b s
      exact (obeys_bindBuilder inner b).bind fun _ t _ => obeys_runBlock steps path 0 t
  | .absent, _, _, _, _, _, given => .of_no_function (Argument.ne_function_of_given (by simp) given)
  | .value _, _, _, _, _, _, given => .of_no_function (Argument.ne_function_of_given (by simp) given)
  | .builder _, _, _, _, _, _, given => .of_no_function (Argument.ne_function_of_given (by simp) given)
  | .node _, _, _, _, _, _, given => .of_no_function (Argument.ne_function_of_given (by simp) given)

/-- Whatever the steps of a block do, they obey a rule. -/
theorem obeys_runBlock : ∀ (steps : List Step) (path : List Nat) (position : Nat)
    (s : Session Names), (runBlock path position steps).Obeys rule s
  | [], path, position, s => by
      rw [runBlock]
      exact obeys_pure _
  | step :: rest, path, position, s => by
      rw [runBlock]
      refine (obeys_recorded (Step.obeys_answer step _ s)).bind ?_
      intro fault t _
      split
      · exact obeys_runBlock rest path (position + 1) t
      · exact obeys_throw _

end

/-- Whatever a script does, it obeys a rule. -/
theorem obeys_runTop : ∀ (steps : List Step) (position : Nat) (s : Session Names),
    (runTop position steps).Obeys rule s
  | [], position, s => obeys_pure _
  | step :: rest, position, s => by
      refine (obeys_recorded (Step.obeys_answer step _ s)).discard.bind ?_
      intro _ t _
      exact obeys_runTop rest (position + 1) t

end Script

end ScopedHtml
