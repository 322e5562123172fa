import ScopedHtml.Proofs.Drift
import ScopedHtml.Proofs.Shifts

/-!
# ScopedHtml.Proofs.Shifting

**Programs are rows of small changes.** Every operation on builders changes the store in a row of
small changes (`BuildM.Shifts`), whether it ends well or fails, if the calls in it do
(`Caller.Shifts`), whatever classes have been defined. Here this is shown of reading attributes and of
what a builder gathers.

Watched builders are spared by an operation that is not one of theirs. It may be given one of them
as an argument if that is a builder of the library (`Given.Calm`), since those only answer what they
are asked. What a function does that an opener runs is up to the function (`Given.Shifts`).
-/

namespace ScopedHtml

variable {ρ α β : Type} {watched : BuilderRef → Prop}

/-! ### Programs -/

namespace BuildM

variable {m : BuildM ρ α} {k : α → BuildM ρ β} {s t : Session ρ}

/-- What running `m` from `s` leaves comes about by small changes that spare the watched
builders. -/
def Shifts (watched : BuilderRef → Prop) (m : BuildM ρ α) (s : Session ρ) : Prop :=
  s.store.Guards watched → s.store.Shifts watched (left m s).store

theorem Shifts.of_ok (h : m.Shifts watched s) {a : α} (run : m s = .ok a t)
    (guards : s.store.Guards watched) : s.store.Shifts watched t.store := by
  have shifts := h guards
  rwa [left_of_ok run] at shifts

theorem Shifts.of_guards (h : s.store.Guards watched → m.Shifts watched s) :
    m.Shifts watched s := fun guards => h guards guards

theorem Quiet.shifts (h : Quiet m s) : m.Shifts watched s := by
  intro _
  rw [h.left_eq]
  exact .refl _

theorem shifts_pure (a : α) : (pure a : BuildM ρ α).Shifts watched s := (quiet_pure a).shifts

theorem shifts_throw (fault : Fault) : (throw fault : BuildM ρ α).Shifts watched s :=
  (quiet_throw fault).shifts

theorem shifts_query (read : Store → Except Fault α) : (query read : BuildM ρ α).Shifts watched s :=
  (quiet_query read).shifts

theorem shifts_settle (result : Except Fault α) :
    (settle result : BuildM ρ α).Shifts watched s :=
  (quiet_settle result).shifts

/-- A sequence is a row of changes if its first part is and the second is from there. -/
theorem Shifts.seq (first : m.Shifts watched s)
    (second : ∀ a t, m s = .ok a t → s.store.Guards watched → s.store.Shifts watched t.store →
      (k a).Shifts watched t) : (m >>= k).Shifts watched s := by
  intro guards
  have here := first guards
  obtain ⟨fault, _, eq⟩ | ⟨a, run, eq⟩ := left_bind m k s
  · rwa [eq]
  · rw [eq]
    exact here.trans (second a _ run guards here (here.guards guards))

/-- A sequence is a row of changes if its parts are. -/
theorem Shifts.bind (first : m.Shifts watched s)
    (second : ∀ a t, m s = .ok a t → (k a).Shifts watched t) : (m >>= k).Shifts watched s :=
  first.seq fun a t run _ _ => second a t run

theorem shifts_observe_bind {view : Store → α} (h : (k (view s.store)).Shifts watched s) :
    (observe view >>= k).Shifts watched s := h

theorem Shifts.outcome (h : m.Shifts watched s) : (outcome m).Shifts watched s := by
  intro guards
  rw [left_outcome]
  exact h guards

theorem Shifts.discard (h : m.Shifts watched s) :
    (discard m : BuildM ρ Unit).Shifts watched s := by
  intro guards
  rw [left_discard]
  exact h guards

/-- Putting an answer in another way changes nothing. -/
theorem Shifts.map (h : m.Shifts watched s) (f : α → β) :
    (m >>= fun a => pure (f a)).Shifts watched s :=
  h.bind fun _ _ _ => shifts_pure _

theorem shifts_perform {operation : Store → Except Fault Store}
    (h : ∀ after, s.store.Guards watched → operation s.store = .ok after →
      s.store.Shifts watched after) :
    (perform operation : BuildM ρ Unit).Shifts watched s := by
  intro guards
  obtain eq | ⟨after, done, eq⟩ := left_perform operation s
  · rw [eq]
    exact .refl _
  · rw [eq]
    exact h after guards done

theorem shifts_transact {operation : Store → Except Fault (α × Store)}
    (h : ∀ a after, s.store.Guards watched → operation s.store = .ok (a, after) →
      s.store.Shifts watched after) :
    (transact operation : BuildM ρ α).Shifts watched s := by
  intro guards
  obtain eq | ⟨a, after, done, eq⟩ := left_transact operation s
  · rw [eq]
    exact .refl _
  · rw [eq]
    exact h a after guards done

end BuildM

open BuildM

/-! ### Operations on stores -/

namespace Store

variable {store after : Store} {b : BuilderRef} {name : String}

namespace Shifts

/-- Assigning an attribute, in whichever way the class has it. -/
theorem write (free : ¬ watched b) {value : Value}
    (written : store.write b name value = .ok after) : store.Shifts watched after := by
  obtain rfl | rfl | ⟨members, _, _, rfl⟩ := write_eq_ok written
  · exact .refl _
  · exact .one (.assigned free name value)
  · exact .one (.replaced free _)

theorem writeAll (free : ¬ watched b) : ∀ {entries : List (String × Value)} {store : Store},
    store.writeAll b entries = .ok after → store.Shifts watched after
  | [], store, written => by cases written; exact .refl _
  | (name, value) :: rest, store, written => by
      obtain ⟨next, first, others⟩ := writeAll_cons_eq_ok written
      exact (Shifts.write free first).trans (writeAll free others)

/-- A builder that has not been there is not watched. -/
theorem unwatched (guards : store.Guards watched) (new : store.builders.length ≤ b.index) :
    ¬ watched b :=
  fun here => Nat.not_lt.2 new (guards.inside b here)

theorem createBare {id : ClassId} {options : Options} (usable : store.classes.Usable id)
    (created : store.createBare id options = .ok (b, after)) : store.Shifts watched after := by
  obtain ⟨_, rfl⟩ := createBare_eq_ok created
  exact .one (.added usable)

theorem push (free : ¬ watched b) {children : Found} {value : Value}
    (pushed : store.push b children value = .ok after) : store.Shifts watched after := by
  obtain ⟨items, _, rfl⟩ := push_eq_ok pushed
  exact .one (.assigned free _ _)

theorem record {element : Value} (recorded : store.record b element = .ok after) :
    store.Shifts watched after := by
  obtain ⟨node, _, rfl⟩ := record_eq_ok recorded
  exact .one (.logged _)

/-- Openers that work on a class keep their elements there. -/
theorem attached {id : ClassId} (further : Standard.classes.classes.length ≤ id.index)
    {element : String} {made : Value} {attachment : Attachment} (ofClass : element ∈ Hook.ofClass)
    (done : store.onClasses (·.attach id element made attachment) = .ok after) :
    store.Shifts watched after := by
  obtain rfl | rfl := attach_eq_ok done
  · exact .refl _
  · exact .one (.kept further ofClass made)

end Shifts

/-- What an opener opens can be used, whether it was chosen before or goes by a name. -/
theorem Guards.usable_target (guards : store.Guards watched) {element : String} {target : Target}
    {id : ClassId} (opens : ∀ id, target = .fixed id → store.classes.Usable id)
    (found : store.target element target = .ok id) : store.classes.Usable id := by
  cases target with
  | fixed other => cases found; exact opens _ rfl
  | late name =>
      unfold Store.target at found
      dsimp only at found
      split at found
      · next bound => cases found; exact guards.classes.names name _ bound
      · cases found

end Store

/-! ### What can be called -/

/-- Openers of a builder open classes that can be used, and what works on its class works on none
of the library's. -/
theorem Store.Regular.opener {store : Store} (regular : store.Regular) {b : BuilderRef}
    {name : String} {target : Target} {attachment : Attachment}
    (provides : store.Provides b name (.opener target attachment)) :
    (∀ id, target = .fixed id → store.classes.Usable id) ∧
      (name ∈ Hook.ofClass → Standard.classes.classes.length ≤ (store.get b).classId.index) := by
  have usable := regular.builders b
  obtain ⟨owner, there, has⟩ := provides.has
  have inside := (regular.classes.line usable owner there).inside
  refine ⟨?_, fun ofClass => Nat.le_of_not_lt fun library => ?_⟩
  · rintro id rfl
    exact regular.classes.usable_target inside has
  · have further := regular.classes.further_of_opener inside has ofClass
    rw [regular.classes.library.line library] at there
    exact Nat.not_lt.2 further (ClassTable.line_of_library _ library owner there)

/-- What registers the openers of a class has the name that the library gives it, and the class
finds it there. -/
theorem Store.Regular.told_of_register {store : Store} (regular : store.Regular) {b : BuilderRef}
    {name : String} (provides : store.Provides b name (.method .register)) :
    ∃ owner, store.member? b Hook.heir.name = some (owner, .method .register) := by
  obtain ⟨owner, there, has⟩ := provides.has
  obtain rfl : name = Hook.heir.name := regular.classes.name_of_register
    (regular.classes.line (regular.builders b) owner there).inside has
  exact provides.exists_member (by decide)

/-- What an opener is to run is what it is given. -/
theorem Arguments.first_of_init? {arguments : Arguments ρ} {given : Given ρ}
    (init : arguments.init? = some given) : arguments.first = some given := by
  unfold Arguments.init? at init
  split at init
  · cases init
  · exact init

/-- An argument that may be passed on: if it is a watched builder, it is one of the library's. -/
def Given.Calm (watched : BuilderRef → Prop) (store : Store) : Given ρ → Prop
  | .builder other => watched other →
      ∃ product : Product, (store.get other).classId = product.builderId
  | _ => True

/-- An argument that spares the watched builders when it is run on another one. -/
def Given.Shifts (watched : BuilderRef → Prop) : Given ρ → Prop
  | .function init => ∀ c s, ¬ watched c → (init c).Shifts watched s
  | _ => True

theorem Given.Calm.later {store after : Store} {given : Given ρ}
    (calm : given.Calm watched store) (guards : store.Guards watched) (leads : store.Leads after) :
    given.Calm watched after := by
  cases given with
  | builder other =>
      intro here
      rw [leads.grown.classId other (guards.inside other here)]
      exact calm here
  | _ => trivial

/-- A call that spares the watched builders. -/
structure Caller.Permits (watched : BuilderRef → Prop) (store : Store) (b : BuilderRef)
    (found : Found) (arguments : Arguments ρ) : Prop where
  free : ¬ watched b
  offers : store.Offers b found
  calm : ∀ given, arguments.first = some given → given.Calm watched store
  runs : ∀ owner name target attachment,
    found = .callable owner name (.opener target attachment) →
      ∀ given, arguments.first = some given → given.Shifts watched

/-- A caller whose calls are rows of small changes. -/
def Caller.Shifts (watched : BuilderRef → Prop) (call : Caller ρ) : Prop :=
  ∀ (b : BuilderRef) (found : Found) (arguments : Arguments ρ) (s : Session ρ),
    Caller.Permits watched s.store b found arguments →
      (call b found arguments).Shifts watched s

theorem Caller.Permits.without {store : Store} {b : BuilderRef} {found : Found}
    (free : ¬ watched b) (offers : store.Offers b found) (options : Options) :
    Caller.Permits watched store b found ({ options } : Arguments ρ) :=
  ⟨free, offers, nofun, fun _ _ _ _ _ => nofun⟩

namespace Caller

variable {call : Caller ρ} {s t : Session ρ} {b : BuilderRef} {name : String}

/-! #### Reading -/

theorem offers_of_reading {lookup : BuildM ρ Found} {found : Found}
    (looked : ∀ {found t}, lookup s = .ok found t → t.store.Offers b found)
    (run : call.reading b name lookup s = .ok found t) : t.store.Offers b found := by
  -- What a class answers in a way of its own is a value.
  have asked : ∀ {hook origin u found t}, call.ask b hook origin name u = .ok found t →
      t.store.Offers b found := by
    intro hook origin u found t asked
    obtain ⟨value, rfl⟩ := exists_value_of_ask asked
    exact Store.offers_value _
  unfold reading at run
  rw [observe_bind] at run
  obtain ⟨result, u, first, run⟩ := bind_eq_ok.1 run
  cases result with
  | ok other =>
      cases run
      cases hook : s.store.hook? b .read with
      | none =>
          rw [hook, outcome_apply] at first
          dsimp only at first
          cases ended : lookup s with
          | ok answer u => rw [ended] at first; cases first; exact looked ended
          | error fault u => rw [ended] at first; cases first
      | some origin =>
          rw [hook, outcome_apply] at first
          dsimp only at first
          cases ended : call.ask b .read origin name s with
          | ok answer u => rw [ended] at first; cases first; exact asked ended
          | error fault u => rw [ended] at first; cases first
  | error fault =>
      dsimp only at run
      rw [observe_bind] at run
      cases absent : fault.isAttribute <;> cases hook : u.store.hook? b .unknown <;>
        rw [absent, hook] at run
      case true.some origin => exact asked run
      all_goals cases run

/-- What is read can be called if the class has it. -/
theorem offers_found {found : Found} (run : call.read b name s = .ok found t) :
    t.store.Offers b found := by
  have plain : ∀ {name found t}, (query fun store => store.kept b name : BuildM ρ Found) s =
      .ok found t → t.store.Offers b found := by
    intro name found t run
    obtain ⟨kept, rfl⟩ := query_eq_ok.1 run
    exact Store.offers_of_kept? (Store.kept_eq_ok.1 kept)
  refine offers_of_reading ?_ ((read_eq_reading call b name) ▸ run)
  intro found t looked
  unfold lookUp at looked
  rw [observe_bind] at looked
  cases property : s.store.property? b name with
  | none =>
      rw [property] at looked
      exact plain looked
  | some property' =>
      rw [property] at looked
      cases property' with
      | isFinalized => exact offers_of_reading plain looked
      | children =>
          obtain ⟨_, _, _, ended⟩ := bind_eq_ok.1 looked
          obtain ⟨_, _, _, ended⟩ := bind_eq_ok.1 ended
          cases ended
          exact Store.offers_value _

theorem Shifts.dispatch (shifts : call.Shifts watched) {origin : ClassId × Member}
    {arguments : Arguments ρ}
    (permits : Permits watched s.store b (s.store.found name origin) arguments) :
    (call.dispatch b name origin arguments).Shifts watched s :=
  shifts_observe_bind (shifts _ _ _ _ permits)

/-- A member that something else calls, with options only. -/
theorem Shifts.dispatch_options (shifts : call.Shifts watched) (free : ¬ watched b)
    {origin : ClassId × Member} (member : s.store.member? b name = some origin)
    (options : Options) : (call.dispatch b name origin { options }).Shifts watched s :=
  shifts.dispatch (.without free (Store.offers_member member) options)

theorem Shifts.ask (shifts : call.Shifts watched) (free : ¬ watched b) {hook : Hook}
    {origin : ClassId × Member} (member : s.store.hook? b hook = some origin) :
    (call.ask b hook origin name).Shifts watched s := by
  refine (shifts.dispatch ⟨free, Store.offers_member member, ?_, ?_⟩).map _
  · rintro given ⟨⟩
    trivial
  · rintro _ _ _ _ _ given ⟨⟩
    trivial

theorem Shifts.reading (shifts : call.Shifts watched) (free : ¬ watched b)
    {lookup : BuildM ρ Found} (h : lookup.Shifts watched s) :
    (call.reading b name lookup).Shifts watched s := by
  unfold Caller.reading
  refine shifts_observe_bind ?_
  refine Shifts.bind (Shifts.outcome ?_) ?_
  · cases hook : s.store.hook? b .read with
    | none => exact h
    | some origin => exact shifts.ask free hook
  · intro result t _
    cases result with
    | ok found => exact shifts_pure _
    | error fault =>
        refine shifts_observe_bind ?_
        cases hook : t.store.hook? b .unknown <;> cases fault.isAttribute
        case some.true => exact shifts.ask free hook
        all_goals exact shifts_throw _

theorem Shifts.readKept (shifts : call.Shifts watched) (free : ¬ watched b) :
    (call.readKept b name).Shifts watched s :=
  shifts.reading free (shifts_query _)

theorem Shifts.computed (shifts : call.Shifts watched) (free : ¬ watched b)
    (property : Property) : (call.computed b property).Shifts watched s := by
  cases property with
  | isFinalized => exact shifts.readKept free
  | children =>
      refine (shifts.readKept free).bind ?_
      intro found t _
      exact (shifts_settle _).map _

theorem Shifts.read (shifts : call.Shifts watched) (free : ¬ watched b) :
    (call.read b name).Shifts watched s := by
  refine shifts.reading free (shifts_observe_bind ?_)
  split
  · exact shifts.computed free _
  · exact shifts_query _

theorem Shifts.readItems (shifts : call.Shifts watched) (free : ¬ watched b) :
    (call.readItems b name).Shifts watched s :=
  (shifts.read free).bind fun _ _ _ => shifts_settle _

theorem Shifts.readValue (shifts : call.Shifts watched) (free : ¬ watched b) :
    (call.readValue b name).Shifts watched s :=
  (shifts.read free).map _

theorem Shifts.own (shifts : call.Shifts watched) (free : ¬ watched b) :
    (call.own b name).Shifts watched s :=
  (shifts.read free).bind fun _ _ run => shifts _ _ _ _ (.without free (offers_found run) [])

theorem Shifts.report (shifts : call.Shifts watched) (free : ¬ watched b) :
    (call.report b name : BuildM ρ α).Shifts watched s := by
  unfold Caller.report
  refine shifts_observe_bind ?_
  split
  · exact shifts_throw _
  · refine (shifts.own free).bind ?_
    intro names t _
    split <;> exact shifts_throw _

theorem Shifts.inspect (shifts : call.Shifts watched) (free : ¬ watched b) :
    (call.inspect b).Shifts watched s := by
  unfold Caller.inspect
  refine (shifts.read free).outcome.bind ?_
  intro result t _
  cases result with
  | ok found => exact shifts_pure _
  | error fault =>
      dsimp only
      split
      · exact shifts_pure _
      · exact shifts_throw _

theorem Shifts.isOf (shifts : call.Shifts watched) (free : ¬ watched b) (base : ClassId) :
    (call.isOf b base).Shifts watched s := by
  unfold Caller.isOf
  refine shifts_observe_bind ?_
  split
  · exact (shifts.read free).discard.bind fun _ _ _ => shifts_throw _
  · exact shifts_query _

/-! #### Elements -/

theorem shifts_write (free : ¬ watched b) (value : Value) :
    (perform fun store => store.write b name value : BuildM ρ Unit).Shifts watched s :=
  shifts_perform fun _ _ written => .write free written

theorem Shifts.push (shifts : call.Shifts watched) (free : ¬ watched b) (value : Value) :
    (call.push b value).Shifts watched s :=
  (shifts.read free).bind fun _ _ _ => shifts_perform fun _ _ pushed => .push free pushed

theorem Shifts.attach (shifts : call.Shifts watched) (free : ¬ watched b) (made : Value)
    (attachment : Attachment) : (call.attach b name made attachment).Shifts watched s := by
  cases attachment with
  | append => exact shifts.push free made
  | slot => exact shifts_write free made
  | discard => exact shifts_pure _

theorem Shifts.paragraph (shifts : call.Shifts watched) (free : ¬ watched b) (content : Value) :
    (call.paragraph b content).Shifts watched s :=
  (shifts.push free _).map _

theorem Shifts.title (shifts : call.Shifts watched) (free : ¬ watched b) (content : Value) :
    (call.title b content).Shifts watched s :=
  (shifts_write free _).bind fun _ _ _ => shifts.readValue free

theorem Shifts.append (shifts : call.Shifts watched) (free : ¬ watched b) (node : Node) :
    (call.append b node).Shifts watched s :=
  (shifts.push free _).map _

theorem Shifts.unsetAmong (shifts : call.Shifts watched) (free : ¬ watched b)
    (names : List Value) : ∀ {s}, (call.unsetAmong b names).Shifts watched s := by
  induction names with
  | nil => exact shifts_pure _
  | cons name rest ih =>
      intro s
      exact (shifts.read free).bind fun _ _ _ => ih.map _

theorem Shifts.missing (shifts : call.Shifts watched) (free : ¬ watched b) :
    (call.missing b).Shifts watched s :=
  (shifts.readItems free).bind fun names _ _ => shifts.unsetAmong free names

theorem Shifts.make (shifts : call.Shifts watched) (free : ¬ watched b) (product : Product) :
    (call.make b product).Shifts watched s := by
  cases product with
  | head => exact (shifts.readValue free).map _
  | body => exact (shifts.readItems free).map _
  | division =>
      exact (shifts.readItems free).bind fun _ _ _ => (shifts.readValue free).bind fun _ _ _ =>
        (shifts.readValue free).map _
  | document =>
      exact (shifts.readValue free).bind fun _ _ _ => (shifts.readValue free).map _

theorem Shifts.build (shifts : call.Shifts watched) (free : ¬ watched b) :
    (call.build b).Shifts watched s := by
  unfold Caller.build
  refine (shifts.own free).bind ?_
  intro absent t _
  have rest : ∀ {t}, (do
      let element ← call.own b "_make_node"
      perform fun store => store.finalize b
      perform fun store => store.record b element
      return element : BuildM ρ Value).Shifts watched t := by
    intro t
    refine (shifts.own free).bind ?_
    intro element t _
    refine (shifts_write free _).bind ?_
    intro _ t _
    exact Shifts.map (shifts_perform fun _ _ recorded => .record recorded) _
  split
  · exact rest
  · exact shifts_observe_bind (shifts_throw _)

/-! #### Arguments -/

/-- Builders of the library are not called like functions. -/
theorem hook?_call_library {store : Store} (regular : store.Regular) {product : Product}
    (library : (store.get b).classId = product.builderId) : store.hook? b .call = none := by
  unfold Store.hook? Store.member?
  rw [library, regular.classes.library.resolve product.inside]
  cases product <;> decide

/-- Builders of the library show their class when they are asked for it. -/
theorem quiet_inspect_library (call : Caller ρ) (regular : s.store.Regular) {product : Product}
    (library : (s.store.get b).classId = product.builderId) : Quiet (call.inspect b) s := by
  have plain : s.store.ReadsPlainly b := by
    unfold Store.ReadsPlainly
    rw [library]
    exact (regular.sound.ordinary product).toReadsPlainly
  have member : s.store.member? b kindName = none := by
    rw [Store.member?_of_classId library, regular.classes.library.resolve product.inside]
    cases product <;> decide
  -- Whatever hides its class, there is something under the name.
  obtain ⟨found, kept⟩ : ∃ found, s.store.kept? b kindName = some found := by
    cases held : s.store.held? b kindName with
    | some value => exact ⟨_, Store.kept?_of_held held⟩
    | none =>
        refine ⟨.callable Standard.rootClass.name kindName .inherent, ?_⟩
        unfold Store.kept?
        rw [held, member]
        dsimp only
        unfold Store.inherent?
        rw [if_neg (by decide), if_pos (by decide)]
  have read : call.read b kindName s = .ok found s :=
    read_of_kept plain (Store.property?_of_not_member member) kept
  unfold inspect
  refine (quiet_of_ok read).outcome.bind ?_
  intro result run
  rw [outcome_apply, read] at run
  cases run
  exact quiet_pure _

theorem Shifts.inspect_calm (shifts : call.Shifts watched) {other : BuilderRef}
    (calm : (Given.builder other : Given ρ).Calm watched s.store) :
    (call.inspect other).Shifts watched s := by
  by_cases here : watched other
  · obtain ⟨product, library⟩ := calm here
    exact .of_guards fun guards => (quiet_inspect_library call guards.toRegular library).shifts
  · exact shifts.inspect here

theorem Shifts.appendGiven (shifts : call.Shifts watched) (free : ¬ watched b) {given : Given ρ}
    (calm : given.Calm watched s.store) : (call.appendGiven b given).Shifts watched s := by
  have refused : ∀ {t}, (do throw (← observe fun store => Fault.invalidChild
      (store.className b) (given.typeName store)) : BuildM ρ Node).Shifts watched t :=
    shifts_observe_bind (shifts_throw _)
  unfold Caller.appendGiven
  split
  · exact shifts.append free _
  · refine shifts_observe_bind ?_
    split
    · exact shifts.append free _
    · exact refused
    · exact (shifts.inspect_calm calm).bind fun _ _ _ => refused
  · exact refused

/-- A builder that runs on another one is called with it. -/
theorem Shifts.run_builder (shifts : call.Shifts watched) {callee : BuilderRef}
    (calm : (Given.builder callee : Given ρ).Calm watched s.store)
    (passed : (Given.builder b : Given ρ).Calm watched s.store) :
    (call.run (.builder callee) b).Shifts watched s := by
  unfold Caller.run
  refine .of_guards fun guards => shifts_observe_bind ?_
  cases hook : s.store.hook? callee .call with
  | none => exact shifts_observe_bind (shifts_throw _)
  | some origin =>
      have free : ¬ watched callee := by
        intro here
        obtain ⟨product, library⟩ := calm here
        rw [hook?_call_library guards.toRegular library] at hook
        cases hook
      refine Shifts.discard (shifts.dispatch ⟨free, Store.offers_member hook, ?_, ?_⟩)
      · rintro given ⟨⟩
        exact passed
      · rintro _ _ _ _ _ given ⟨⟩
        trivial

theorem Shifts.run (shifts : call.Shifts watched) (free : ¬ watched b) {given : Given ρ}
    (calm : given.Calm watched s.store) (runs : given.Shifts watched) :
    (call.run given b).Shifts watched s := by
  cases given with
  | function init => exact runs b s free
  | value held => exact shifts_throw _
  | builder callee => exact shifts.run_builder calm fun here => absurd here free

end Caller

end ScopedHtml
