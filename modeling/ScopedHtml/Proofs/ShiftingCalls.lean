import ScopedHtml.Proofs.Shifting

/-!
# ScopedHtml.Proofs.ShiftingCalls

**Scopes, definitions and calls are rows of small changes.** Opening a scope makes a builder that was
not there before (`Caller.new_of_create`), so it spares all builders that are watched, but for the
one that the opener is called on. A definition adds a class, tells the classes behind it
(`Caller.Shifts.announce`) and binds a name; by then the class has a register if they give it one
(`Caller.registered_of_announce`).

Calls of any depth are rows of small changes (`Caller.shifts_upTo`).
-/

namespace ScopedHtml

open BuildM

variable {ρ α β : Type} {watched : BuilderRef → Prop}

namespace Caller

variable {call : Caller ρ} {s t : Session ρ} {b : BuilderRef} {name : String}

/-! ### Scopes -/

/-- A builder may be started at any time. -/
theorem shifts_assignStart (free : ¬ watched b) (starter : Starter) (given : Options) :
    (perform fun store => store.start b starter given : BuildM ρ Unit).Shifts watched s :=
  shifts_perform fun _ _ started => .writeAll free started

/-- Starting a builder by classes in its line. -/
theorem Shifts.startAlong (shifts : call.Shifts watched) (free : ¬ watched b) :
    ∀ {row : List ClassId} {s : Session ρ},
      (∀ c ∈ row, c ∈ s.store.classes.line (s.store.get b).classId) →
        (call.startAlong b row).Shifts watched s
  | [], s, _ => shifts_pure _
  | next :: rest, s, within => by
      have others : (call.startAlong b rest).Shifts watched s :=
        shifts.startAlong free fun c among => within c (List.mem_cons_of_mem next among)
      unfold Caller.startAlong
      refine shifts_observe_bind ?_
      split
      · exact others
      · dsimp only
        split
        · exact others.bind fun _ _ _ => shifts_assignStart free _ []
        · exact shifts_assignStart free _ []
      · next member _ found =>
        exact (shifts.dispatch (.without free
          (Store.offers_start (within next (List.mem_cons_self ..)) found) [])).discard

/-- Starting a builder behind the classes that stand next in its line. -/
theorem Shifts.startWith (shifts : call.Shifts watched) (free : ¬ watched b) (starter : Starter)
    (given : Options) : (call.startWith b starter given).Shifts watched s := by
  unfold Caller.startWith
  cases starter.home with
  | none => exact shifts_assignStart free starter given
  | some home =>
      exact shifts_observe_bind ((shifts.startAlong free fun _ =>
        ClassTable.mem_line_of_lineBehind).bind fun _ _ _ => shifts_assignStart free starter given)

theorem Shifts.start (shifts : call.Shifts watched) (free : ¬ watched b)
    {origin : ClassId × Member} (member : s.store.member? b Hook.start.name = some origin)
    (options : Options) : (call.start b origin options).Shifts watched s := by
  unfold Caller.start
  refine (shifts.dispatch_options free member options).bind ?_
  intro answer t _
  split
  · exact shifts_pure _
  · exact shifts_throw _

theorem shifts_createBare {id : ClassId} (usable : s.store.classes.Usable id)
    (options : Options) :
    (transact fun store => store.createBare id options : BuildM ρ BuilderRef).Shifts watched s :=
  shifts_transact fun _ _ _ created => .createBare usable created

/-- A bare instance of a class has the members of the class. -/
theorem member?_of_createBare {id : ClassId} {options : Options}
    (made : (transact fun store => store.createBare id options : BuildM ρ BuilderRef) s =
      .ok b t) (name : String) :
    b.index = s.store.builders.length ∧
      t.store.member? b name = s.store.classes.resolve id name := by
  obtain ⟨after, created, rfl⟩ := transact_eq_ok.1 made
  obtain ⟨rfl, rfl⟩ := Store.createBare_eq_ok created
  have own := Store.get_add_new s.store { classId := id, held := .empty }
  exact ⟨rfl, Store.member?_of_classId (congrArg Builder.classId own) name⟩

theorem Shifts.createBuilder (shifts : call.Shifts watched) {id : ClassId}
    (usable : s.store.classes.Usable id) (options : Options) :
    (call.createBuilder id options).Shifts watched s := by
  unfold Caller.createBuilder
  refine (shifts_query _).bind ?_
  intro initializer t found
  obtain ⟨found, rfl⟩ := query_eq_ok.1 found
  obtain ⟨_, start⟩ := Store.initializer_eq_ok found
  split
  · exact shifts_createBare usable options
  · refine (shifts_query _).bind ?_
    intro given t bound
    obtain ⟨_, rfl⟩ := query_eq_ok.1 bound
    refine (shifts_createBare usable []).seq ?_
    intro b t made guards _
    have new := (member?_of_createBare made Hook.start.name).1
    exact (shifts.startWith (Store.Shifts.unwatched guards (Nat.le_of_eq new.symm)) _ given).map _
  · refine (shifts_createBare usable []).seq ?_
    intro b t made guards _
    obtain ⟨new, members⟩ := member?_of_createBare made Hook.start.name
    have free : ¬ watched b := Store.Shifts.unwatched guards (Nat.le_of_eq new.symm)
    exact (shifts.start free (members.trans start) _).map _

theorem Shifts.create (shifts : call.Shifts watched) {id : ClassId}
    (usable : s.store.classes.Usable id) (options : Options) :
    (call.create id options).Shifts watched s := by
  unfold Caller.create
  refine shifts_observe_bind ?_
  cases hook : s.store.classes.hook? id .make with
  | none => exact shifts.createBuilder usable options
  | some origin =>
      refine (shifts_createBare usable []).seq ?_
      intro b t made guards _
      obtain ⟨new, members⟩ := member?_of_createBare made Hook.make.name
      have free : ¬ watched b := Store.Shifts.unwatched guards (Nat.le_of_eq new.symm)
      refine (shifts.dispatch_options free (members.trans hook) options).bind ?_
      intro made u _
      refine shifts_transact ?_
      rintro _ _ guards ⟨⟩
      exact .one (.added (guards.classes.usable_library
        (by decide : Standard.root.index < Standard.classes.classes.length)))

/-- How a builder has come to be created: as a bare instance that nothing starts, started by the
library or by what its class has for that, or as what its class makes in the place of instances. -/
inductive Created (call : Caller ρ) (id : ClassId) (options : Options) (s : Session ρ) :
    BuilderRef → Session ρ → Prop
  | bare {b : BuilderRef} {t : Session ρ}
      (made : (transact fun store => store.createBare id options : BuildM ρ BuilderRef) s =
        .ok b t) : Created call id options s b t
  | started {b : BuilderRef} {starter : Starter} {given : Options} {t u : Session ρ}
      (made : (transact fun store => store.createBare id [] : BuildM ρ BuilderRef) s = .ok b t)
      (started : call.startWith b starter given t = .ok () u) : Created call id options s b u
  | called {b : BuilderRef} {origin : ClassId × Member} {t u : Session ρ}
      (made : (transact fun store => store.createBare id [] : BuildM ρ BuilderRef) s = .ok b t)
      (answered : call.start b origin options t = .ok () u) : Created call id options s b u
  | foreign {b : BuilderRef} {origin : ClassId × Member} {value : Value} {t u : Session ρ}
      (made : (transact fun store => store.createBare id [] : BuildM ρ BuilderRef) s = .ok b t)
      (answered : call.dispatch b Hook.make.name origin { options } t = .ok value u) :
      Created call id options s (u.store.createForeign value).1
        { u with store := (u.store.createForeign value).2 }

theorem created_of_create {id : ClassId} {options : Options}
    (made : call.create id options s = .ok b t) : Created call id options s b t := by
  unfold Caller.create at made
  rw [observe_bind] at made
  cases hook : s.store.classes.hook? id .make with
  | none =>
      rw [hook] at made
      dsimp only at made
      unfold Caller.createBuilder at made
      obtain ⟨initializer, u, found, started⟩ := bind_eq_ok.1 made
      obtain ⟨_, rfl⟩ := query_eq_ok.1 found
      split at started
      · exact .bare started
      · obtain ⟨given, v, bound, making⟩ := bind_eq_ok.1 started
        obtain ⟨_, rfl⟩ := query_eq_ok.1 bound
        obtain ⟨other, w, created, starting⟩ := bind_eq_ok.1 making
        obtain ⟨_, _, assigned, ended⟩ := bind_eq_ok.1 starting
        cases ended
        exact .started created assigned
      · obtain ⟨other, v, created, started⟩ := bind_eq_ok.1 started
        obtain ⟨_, _, answered, ended⟩ := bind_eq_ok.1 started
        cases ended
        exact .called created answered
  | some origin =>
      rw [hook] at made
      dsimp only at made
      obtain ⟨other, u, created, made⟩ := bind_eq_ok.1 made
      obtain ⟨value, v, answered, ended⟩ := bind_eq_ok.1 made
      cases ended
      exact .foreign created answered

/-- What has been created was not there before. -/
theorem new_of_create (leads : call.Obeys Rule.sound) {id : ClassId} {options : Options}
    (sound : s.store.Sound) (made : call.create id options s = .ok b t) :
    s.store.builders.length ≤ b.index := by
  cases created_of_create made with
  | bare begun => exact Nat.le_of_eq (member?_of_createBare begun "").1.symm
  | started begun assigned => exact Nat.le_of_eq (member?_of_createBare begun "").1.symm
  | called begun answered => exact Nat.le_of_eq (member?_of_createBare begun "").1.symm
  | foreign begun answered =>
      have first := (obeys_createBare id []).leads.of_ok begun sound
      have second := (leads.dispatch (Arguments.obeys_empty options)).leads.of_ok answered first.sound
      exact (first.trans second).grown.length

/-- A scope of a class that can be used. -/
theorem Shifts.scope (shifts : call.Shifts watched) (leads : call.Obeys Rule.sound) {element : String}
    {target : Target} (opens : ∀ id, target = .fixed id → s.store.classes.Usable id)
    {init : Option (Given ρ)} (calm : ∀ given, init = some given → given.Calm watched s.store)
    (runs : ∀ given, init = some given → given.Shifts watched) (options : Options) :
    (call.scope element target init options).Shifts watched s := by
  unfold Caller.scope
  refine (shifts_query _).seq ?_
  intro id t found guards _
  obtain ⟨found, rfl⟩ := query_eq_ok.1 found
  have usable : t.store.classes.Usable id := guards.usable_target opens found
  refine (shifts.create usable options).seq ?_
  intro child u created _ between
  have free : ¬ watched child := Store.Shifts.unwatched guards
    (new_of_create leads guards.toRegular.sound created)
  split
  · next given =>
      have calm' := (calm given rfl).later guards (between.leads guards.toRegular)
      refine (shifts.run free calm' (runs given rfl)).bind ?_
      intro _ v _
      exact shifts.own free
  · exact shifts.own free

theorem Shifts.openScope (shifts : call.Shifts watched) (leads : call.Obeys Rule.sound) (free : ¬ watched b)
    {element : String} {target : Target}
    (opens : ∀ id, target = .fixed id → s.store.classes.Usable id) (attachment : Attachment)
    {init : Option (Given ρ)} (calm : ∀ given, init = some given → given.Calm watched s.store)
    (runs : ∀ given, init = some given → given.Shifts watched) (options : Options) :
    (call.openScope b element target attachment init options).Shifts watched s :=
  (shifts.scope leads opens calm runs options).bind fun made _ _ =>
    (shifts.attach free made attachment).map _

theorem shifts_attachOn {id : ClassId} (further : Standard.classes.classes.length ≤ id.index)
    {element : String} (ofClass : element ∈ Hook.ofClass) (made : Value)
    (attachment : Attachment) : (perform fun store => store.onClasses fun classes =>
      classes.attach id element made attachment : BuildM ρ Unit).Shifts watched s :=
  shifts_perform fun _ _ attached => .attached further ofClass attached

theorem Shifts.openScopeOn (shifts : call.Shifts watched) (leads : call.Obeys Rule.sound) {id : ClassId}
    (further : Standard.classes.classes.length ≤ id.index) {element : String}
    (ofClass : element ∈ Hook.ofClass) {target : Target}
    (opens : ∀ id, target = .fixed id → s.store.classes.Usable id) (attachment : Attachment)
    {init : Option (Given ρ)} (calm : ∀ given, init = some given → given.Calm watched s.store)
    (runs : ∀ given, init = some given → given.Shifts watched) (options : Options) :
    (call.openScopeOn id element target attachment init options).Shifts watched s :=
  (shifts.scope leads opens calm runs options).bind fun made _ _ =>
    (shifts_attachOn further ofClass made attachment).map _

theorem Shifts.html (shifts : call.Shifts watched) (leads : call.Obeys Rule.sound) {init : Given ρ}
    (calm : init.Calm watched s.store) (runs : init.Shifts watched) :
    (call.html init).Shifts watched s := by
  refine .of_guards fun guards => ?_
  refine (shifts.create (guards.classes.usable_library (by decide)) _).seq ?_
  intro document t created _ between
  have free : ¬ watched document := Store.Shifts.unwatched guards
    (new_of_create leads guards.toRegular.sound created)
  refine (shifts.run free (calm.later guards (between.leads guards.toRegular)) runs).bind ?_
  exact fun _ _ _ => shifts.own free

/-! ### Classes -/

/-- Telling a row of classes, of which the class hears if they tell it of new ones. -/
theorem Shifts.announce (shifts : call.Shifts watched) (leads : call.Obeys Rule.sound) {id : ClassId}
    (options : Options) (row : List ClassId) : ∀ {s : Session ρ},
    id.index < s.store.classes.classes.length →
    (∀ c ∈ row, c.index < s.store.classes.classes.length) →
    (id.index < Standard.classes.classes.length →
      ∀ c ∈ row, c.index < Standard.classes.classes.length) →
    (∀ owner, s.store.classes.resolveAlong Hook.heir.name row = some (owner, .method .register) →
      s.store.classes.Heard id) →
    (call.announce id options row).Shifts watched s := by
  induction row with
  | nil =>
      intro s _ _ _ _
      unfold Caller.announce
      dsimp only
      split
      · exact shifts_pure _
      · exact shifts_observe_bind (shifts_throw _)
  | cons next rest ih =>
      intro s inside there library heard
      unfold Caller.announce
      refine .of_guards fun guards => shifts_observe_bind ?_
      have inside' := there next List.mem_cons_self
      have there' : ∀ c ∈ rest, c.index < s.store.classes.classes.length :=
        fun c among => there c (List.mem_cons_of_mem _ among)
      have library' : id.index < Standard.classes.classes.length →
          ∀ c ∈ rest, c.index < Standard.classes.classes.length :=
        fun first c among => library first c (List.mem_cons_of_mem _ among)
      cases found : (s.store.classes.get next).members.find? Hook.heir.name with
      | none =>
          exact ih inside there' library' fun owner told =>
            heard owner ((ClassTable.resolveAlong_of_absent found).trans told)
      | some member =>
          have known := guards.classes.heir inside' found
          cases member with
          | opener target attachment =>
              have ofClass : Hook.heir.name ∈ Hook.ofClass := by decide
              have further : Standard.classes.classes.length ≤ id.index := by
                refine Nat.le_of_not_lt fun first => ?_
                exact absurd (library first next List.mem_cons_self)
                  (Nat.not_lt.2 (guards.classes.further_of_opener inside' found ofClass))
              refine shifts.openScopeOn leads further ofClass ?_ attachment ?_ ?_ options
              · rintro opened rfl
                exact guards.classes.usable_target inside' found
              · rintro _ ⟨⟩
              · rintro _ ⟨⟩
          | plain => exact shifts_pure _
          | data value => exact shifts_throw _
          | method method =>
              obtain rfl : method = .register := by
                rcases known with absurd | same
                · exact absurd.elim
                · exact Member.method.inj same
              have hears : s.store.classes.Heard id :=
                heard next (ClassTable.resolveAlong_of_own found)
              refine (ih inside there' library' fun _ _ => hears).discard.seq ?_
              intro _ t _ _ between
              have kept := (between.leads guards.toRegular).classes
              refine Shifts.map (shifts_perform ?_) _
              intro after _ registered
              obtain ⟨classes, done, rfl⟩ := Store.onClasses_eq_ok registered
              exact .one (.registered (Nat.lt_of_lt_of_le inside kept.length)
                (hears.kept kept guards.classes.closed inside) done)
          | _ => rcases known with ⟨⟨⟩⟩ | ⟨⟨⟩⟩

/-- Telling the classes behind that of a builder, which they do tell of new classes. -/
theorem Shifts.announceOf (shifts : call.Shifts watched) (leads : call.Obeys Rule.sound) {owner : ClassId}
    (told : s.store.member? b Hook.heir.name = some (owner, .method .register))
    (options : Options) :
    ((observe fun store => store.classes.line (s.store.get b).classId) >>=
      call.announce (s.store.get b).classId options).Shifts watched s := by
  refine .of_guards fun guards => shifts_observe_bind ?_
  have usable := guards.builders b
  refine shifts.announce leads options _ usable.inside
    (guards.classes.closed.line usable.inside) ?_ fun _ _ => .inl ⟨owner, told⟩
  intro library
  rw [guards.classes.library.line library]
  exact ClassTable.line_of_library _ library

/-- A class that the row told of has a register. -/
theorem registered_of_announce (call : Caller ρ) {id : ClassId} {options : Options} {value : Value}
    {row : List ClassId} : ∀ {s t : Session ρ} {owner : ClassId},
    (call.announce id options row s = .ok value t) → call.Obeys Rule.sound → s.store.Sound →
    id.index < s.store.classes.classes.length →
    s.store.classes.resolveAlong Hook.heir.name row = some (owner, .method .register) →
    t.store.classes.Registered id := by
  induction row with
  | nil => intro s t owner _ _ _ _ told; cases told
  | cons next rest ih =>
      intro s t owner run leads sound inside told
      unfold Caller.announce at run
      rw [observe_bind] at run
      rw [ClassTable.resolveAlong] at told
      cases found : (s.store.classes.get next).members.find? Hook.heir.name with
      | none =>
          rw [found] at run told
          exact ih run leads sound inside told
      | some member =>
          rw [found] at run told
          cases told
          obtain ⟨_, u, before, run⟩ := bind_eq_ok.1 run
          obtain ⟨_, v, registered, ended⟩ := bind_eq_ok.1 run
          cases ended
          have further := ((leads.announce id options rest).discard).leads.of_ok before sound
          obtain ⟨after, done, rfl⟩ := perform_eq_ok.1 registered
          obtain ⟨classes, assigned, rfl⟩ := Store.onClasses_eq_ok done
          obtain ⟨inherited, _, rfl⟩ := ClassTable.registered_eq_ok assigned
          unfold ClassTable.Registered
          rw [ClassTable.get_assign_self (Nat.lt_of_lt_of_le inside further.classes.length)]
          exact ⟨_, Bindings.find?_bind_self _ _ _⟩

/-- A class that a body describes may be defined. -/
theorem shifts_addClass {title : String} {bases : List String} {body : ClassBody}
    {baseIds : List ClassId} {new : BuilderClass}
    (named : s.store.classes.namedAll bases = .ok baseIds)
    (drafted : s.store.classes.draft title baseIds body = .ok new) :
    (transact fun store => .ok (store.addClass new) : BuildM ρ ClassId).Shifts watched s := by
  refine shifts_transact ?_
  rintro id after guards ⟨⟩
  have regular := guards.classes
  have usable : ∀ base ∈ baseIds, s.store.classes.Usable base := by
    intro base among
    obtain ⟨name, bound⟩ := ClassTable.exists_name_of_namedAll named base among
    exact regular.names name base bound
  refine .one (.defined ?_ ?_ ?_)
  · exact regular.usable_ancestors usable (ClassTable.draft_eq_ok drafted).1
  · intro name member found
    exact (ClassTable.lists_of_draft drafted found).listed regular
  · intro names found
    cases ClassTable.lists_of_draft drafted found

theorem Shifts.define (shifts : call.Shifts watched) (leads : call.Obeys Rule.sound) (name : String)
    (bases : List String) (body : ClassBody) :
    (call.define name bases body).Shifts watched s := by
  unfold Caller.define
  refine (shifts_query _).bind ?_
  intro baseIds t named
  obtain ⟨named, rfl⟩ := query_eq_ok.1 named
  refine (shifts_query _).bind ?_
  intro new t drafted
  obtain ⟨drafted, rfl⟩ := query_eq_ok.1 drafted
  refine (shifts_addClass named drafted).seq ?_
  intro id u added guards between
  have regular := between.regular guards.toRegular
  have ⟨inside, further, behind⟩ : id.index < u.store.classes.classes.length ∧
      Standard.classes.classes.length ≤ id.index ∧
      (u.store.classes.get id).ancestors = new.ancestors := by
    cases added
    refine ⟨by simp, guards.classes.length, ?_⟩
    exact congrArg BuilderClass.ancestors (ClassTable.get_push_new t.store.classes new)
  refine (Shifts.discard (shifts.announce leads [] new.ancestors inside ?_ ?_ ?_)).seq ?_
  · rw [← behind]
    exact regular.classes.closed.ancestors id inside
  · exact fun first => absurd first (Nat.not_lt.2 further)
  · rintro owner told
    exact .inr ⟨owner, by rw [behind, told]⟩
  intro _ v announced _ later
  -- The name is bound to a class that has a register if the classes behind it give it one.
  have kept := (later.leads regular).classes
  have usable : v.store.classes.Usable id := by
    refine ⟨Nat.lt_of_lt_of_le inside kept.length, fun owner told => ?_⟩
    rw [kept.ancestors id inside,
      kept.resolveAlong (regular.classes.closed.ancestors id inside) (by decide), behind] at told
    rw [discard_apply] at announced
    split at announced
    · next run =>
        cases announced
        exact registered_of_announce call run leads regular.sound inside told
    · cases announced
  have bound : (perform fun store => store.onClasses fun classes =>
      .ok (classes.bindName name id) : BuildM ρ Unit).Shifts watched v := by
    refine shifts_perform ?_
    intro after _ done
    obtain ⟨classes, named, rfl⟩ := Store.onClasses_eq_ok done
    cases named
    exact .one (.named name usable)
  refine shifts_observe_bind ?_
  split
  · refine Shifts.bind ((shifts_query _).bind fun _ _ _ => shifts_settle _) ?_
    intro _ w checked
    obtain rfl : w = v :=
      ((quiet_observe _).bind fun _ _ => quiet_settle _ : Quiet _ v).eq_of_ok checked
    exact bound.map _
  · exact bound.map _

/-! ### Calls -/

theorem Shifts.method (shifts : call.Shifts watched) (free : ¬ watched b) {given : Given ρ}
    (calm : given.Calm watched s.store) (method : Method) :
    (call.method b given method).Shifts watched s := by
  cases method with
  | build => exact shifts.build free
  | missing => exact (shifts.missing free).map _
  | elements => exact (shifts_query _).map _
  | paragraph => exact (shifts.paragraph free _).map _
  | title => exact shifts.title free _
  | append => exact (shifts.appendGiven free calm).map _
  | report =>
      cases given with
      | value held =>
          cases held with
          | text name => exact shifts.report free
          | _ => exact shifts_observe_bind (shifts_throw _)
      | _ => exact shifts_observe_bind (shifts_throw _)
  | register => exact shifts_pure _

theorem Shifts.member (shifts : call.Shifts watched) (leads : call.Obeys Rule.sound) {owner : String}
    {called : Member} {arguments : Arguments ρ}
    (permits : Permits watched s.store b (.callable owner name called) arguments) :
    (call.member b owner name arguments called).Shifts watched s := by
  unfold Caller.member
  refine .of_guards fun guards => shifts_observe_bind ?_
  have calm : ∀ given, arguments.init? = some given → given.Calm watched s.store :=
    fun given init => permits.calm given (Arguments.first_of_init? init)
  split
  · next target attachment =>
      have runs : ∀ given, arguments.init? = some given → given.Shifts watched :=
        fun given init => permits.runs _ _ _ _ rfl given (Arguments.first_of_init? init)
      obtain ⟨opens, further⟩ : (∀ id, target = .fixed id → s.store.classes.Usable id) ∧
          (name ∈ Hook.ofClass →
            Standard.classes.classes.length ≤ (s.store.get b).classId.index) := by
        rcases permits.offers _ _ _ rfl with provides | absurd
        · exact guards.toRegular.opener provides
        · cases absurd
      split
      · next ofClass =>
          exact shifts.openScopeOn leads (further ofClass) ofClass opens _ calm runs _
      · exact shifts.openScope leads permits.free opens _ calm runs _
  · exact shifts_pure _
  · refine (shifts_settle _).bind ?_
    intro options t settled
    obtain rfl := (quiet_settle _).eq_of_ok settled
    rcases permits.offers _ _ _ rfl with provides | absurd
    · obtain ⟨owner, told⟩ := guards.toRegular.told_of_register provides
      exact shifts.announceOf leads told options
    · cases absurd
  · refine (shifts_settle _).bind ?_
    intro given t settled
    obtain ⟨bound, rfl⟩ := query_eq_ok.1 settled
    refine shifts.method permits.free ?_ _
    rcases Arguments.bindOnly_cases bound with first | ⟨value, rfl⟩
    · exact permits.calm given first
    · trivial
  · refine (shifts_settle _).discard.bind ?_
    intro _ t _
    exact (shifts.make permits.free _).map _
  · refine (shifts_settle _).bind ?_
    intro bound t _
    exact (shifts.startWith permits.free _ _).map _
  · exact shifts_pure _

theorem Shifts.step (shifts : call.Shifts watched) (leads : call.Obeys Rule.sound) :
    call.step.Shifts watched := by
  intro b found arguments s permits
  cases found with
  | value held => exact shifts_throw _
  | callable owner name called => exact shifts.member leads permits

/-- Calls that are nested so deep are rows of small changes, whatever is called. -/
theorem shifts_upTo : ∀ depth, (upTo depth : Caller ρ).Shifts watched
  | 0 => fun _ _ _ _ _ => shifts_throw _
  | depth + 1 => (shifts_upTo depth).step (leads_upTo depth)

end Caller

theorem shifts_call : (call : Caller ρ).Shifts watched := Caller.shifts_upTo Caller.depthLimit

/-- An opener of the library, with a function that is a row of small changes. -/
theorem BuilderRef.shifts_openScope {s : Session ρ} {b : BuilderRef} (free : ¬ watched b)
    (element : String) (product : Product) (attachment : Attachment) {init : Init ρ}
    (h : ∀ child s, ¬ watched child → (init child).Shifts watched s) (options : Options) :
    (b.openScope element (.fixed product.builderId) attachment (some init) options).Shifts
      watched s := by
  refine .of_guards fun guards =>
    shifts_call.openScope leads_call free ?_ attachment ?_ ?_ options
  · rintro id ⟨⟩
    exact guards.classes.usable_library product.inside
  · rintro given ⟨⟩
    trivial
  · rintro given ⟨⟩
    exact h

theorem shifts_samplePage {s : Session ρ} :
    (samplePage : BuildM ρ Value).Shifts watched s := by
  have paragraph : ∀ {b : BuilderRef} {s : Session ρ} (content : Value), ¬ watched b →
      (do discard <| b.p content : BuildM ρ Unit).Shifts watched s :=
    fun content free => (shifts_call.paragraph free content).discard
  refine shifts_call.html leads_call trivial ?_
  intro document s free
  refine Shifts.bind (Shifts.discard (BuilderRef.shifts_openScope free _ .head _ ?_ _)) ?_
  · exact fun head s free => (shifts_call.title free _).discard
  intro _ s _
  refine Shifts.discard (BuilderRef.shifts_openScope free _ .body _ ?_ _)
  intro body s free
  refine Shifts.bind (Shifts.discard (BuilderRef.shifts_openScope free _ .division _ ?_ _)) ?_
  · exact fun division s free => paragraph _ free
  intro _ s _
  refine Shifts.discard (BuilderRef.shifts_openScope free _ .division _ ?_ _)
  exact fun division s free => (paragraph _ free).bind fun _ _ _ => paragraph _ free

end ScopedHtml
