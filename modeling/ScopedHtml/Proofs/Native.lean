import ScopedHtml.Proofs.Change

/-!
# ScopedHtml.Proofs.Native

**Stores with nothing but the library's classes.** If no class has been defined, every
builder is of one of the four classes that make elements. `Store.Native` says so, and that
every builder can still be worked (`Store.Working`): it says whether it is finalized, and one
with children keeps them in a list. Otherwise builders may hold whatever has been assigned
to them, also in the place of the library's own members.

Everything that the library does to a store keeps this (`Store.Native.assign`,
`Store.Native.start` and their like); an assignment from outside does unless it takes the list
of children away (`Store.Native.write`).
-/

namespace ScopedHtml

open BuildM

/-- A builder of one of the library's classes that says whether it is finalized and keeps its
children, if it has some, in a list. -/
structure Store.Working (store : Store) (b : BuilderRef) : Prop where
  genuine : store.foreign? b = none
  product : ∃ product : Product, (store.get b).classId = product.builderId
  flag : ∃ value, store.held? b "_finalized" = some value
  children : store.isOf b Standard.flowBuilder →
    ∃ items, store.held? b "_children" = some (.list items)

/-- A store with the library's classes alone, of which all builders can be worked. -/
structure Store.Native (store : Store) : Prop where
  classes : store.classes = Standard.classes
  builders : ∀ b : BuilderRef, b.index < store.builders.length → store.Working b

namespace Product

/-- Registering a class of the library again changes nothing. -/
theorem registered_eq (product : Product) :
    Standard.classes.registered product.builderId = .ok Standard.classes := by
  cases product <;> rfl

/-- In the library's classes there is exactly one opener of a name, and builders have it that
keep its elements. -/
theorem opener_of_resolve {product : Product} {name : String} {owner : ClassId} {target : Target}
    {attachment : Attachment}
    (resolved : Standard.classes.resolve product.builderId name =
      some (owner, .opener target attachment)) :
    ∃ opener : Opener, (name, .opener target attachment) = opener.entry ∧
      (attachment = .append → product = .body ∨ product = .division) := by
  obtain ⟨behind, found⟩ := ClassTable.resolveAlong_eq_some resolved
  have all : ∀ id ∈ Standard.classes.line product.builderId,
      ∀ entry ∈ (Standard.classes.get id).members.entries,
        entry.2.isOpener = true → isPrivate entry.1 = false := by
    cases product <;> decide
  have shown : isPrivate name = false :=
    all owner behind _ (Bindings.mem_of_findIn found) rfl
  rw [← Content.product_start product []] at resolved
  have has := Content.mem_members shown resolved
  obtain ⟨opener, entry⟩ := Content.opener_of_mem has
  refine ⟨opener, entry, ?_⟩
  rintro rfl
  have name : name = "div" := by
    cases opener <;> cases entry
    rfl
  have flow := Content.isFlow_of_mem has (by rw [name]; decide)
  unfold Content.IsFlow at flow
  rwa [Content.product_start] at flow

end Product

namespace Store

variable {store : Store} {b c : BuilderRef} {name : String} {value : Value}

theorem native_initial : Store.initial.Native :=
  ⟨rfl, fun b inside => absurd inside (Nat.not_lt_zero b.index)⟩

/-- A builder that shows what it has gathered can be worked. -/
theorem Shows.working {content : Content} (shows : store.Shows b content) : store.Working b where
  genuine := shows.builder
  product := ⟨content.product, shows.classId⟩
  flag := by
    obtain ⟨finalized, flag⟩ := shows.flag
    exact ⟨_, flag⟩
  children := by
    intro flow
    unfold Store.isOf ClassTable.inherits at flow
    rw [shows.classId, shows.library.line content.product.inside] at flow
    cases content with
    | document first second => exact absurd flow (by decide : ¬ decide
        (Standard.flowBuilder ∈ Standard.classes.line Standard.documentBuilder) = true)
    | head title => exact absurd flow (by decide : ¬ decide
        (Standard.flowBuilder ∈ Standard.classes.line Standard.headBuilder) = true)
    | body children => exact ⟨children, shows.held _ _ (.head _)⟩
    | division children ident className => exact ⟨children, shows.held _ _ (.head _)⟩

/-- Whether a builder can be worked depends on its class and two of its attributes. -/
theorem Working.of_eq {after : Store} (working : store.Working b)
    (classes : after.classes = store.classes) (genuine : after.foreign? b = store.foreign? b)
    (classId : (after.get b).classId = (store.get b).classId)
    (flag : ∀ value, store.held? b "_finalized" = some value →
      ∃ value, after.held? b "_finalized" = some value)
    (children : ∀ items, store.held? b "_children" = some (.list items) →
      ∃ items, after.held? b "_children" = some (.list items)) : after.Working b where
  genuine := genuine.trans working.genuine
  product := by rw [classId]; exact working.product
  flag := by
    obtain ⟨value, held⟩ := working.flag
    exact flag value held
  children := by
    have isOf : after.isOf b Standard.flowBuilder = store.isOf b Standard.flowBuilder := by
      unfold Store.isOf
      rw [classes, classId]
    rw [isOf]
    intro flow
    obtain ⟨items, held⟩ := working.children flow
    exact children items held

theorem Working.of_get_eq {after : Store} (working : store.Working b)
    (classes : after.classes = store.classes) (same : after.get b = store.get b) :
    after.Working b := by
  refine working.of_eq classes (foreign?_of_get same) (by rw [same]) ?_ ?_
  · intro value held
    exact ⟨value, (held?_of_get same _).trans held⟩
  · intro items held
    exact ⟨items, (held?_of_get same _).trans held⟩

namespace Native

variable (native : store.Native)

include native

theorem library : store.classes.HasLibrary := by
  rw [native.classes]
  exact ClassTable.hasLibrary_standard

/-- Every builder, and whatever is not there, reads plainly. -/
theorem readsPlainly (b : BuilderRef) : store.ReadsPlainly b := by
  unfold Store.ReadsPlainly
  by_cases inside : b.index < store.builders.length
  · obtain ⟨product, classId⟩ := (native.builders b inside).product
    rw [classId]
    exact (product.ordinary native.library).toReadsPlainly
  · rw [get_of_outside inside, native.classes]
    exact ⟨rfl, ⟨_, rfl⟩, ⟨_, rfl⟩⟩

theorem foreign? (b : BuilderRef) : store.foreign? b = none := by
  by_cases inside : b.index < store.builders.length
  · exact (native.builders b inside).genuine
  · exact foreign?_of_get (get_of_outside inside)

theorem member? {product : Product} (classId : (store.get b).classId = product.builderId)
    (name : String) : store.member? b name = Standard.classes.resolve product.builderId name := by
  rw [member?_of_classId classId, native.classes]

theorem ordinary (inside : b.index < store.builders.length) : store.Ordinary b := by
  obtain ⟨product, classId⟩ := (native.builders b inside).product
  refine ⟨native.foreign? b, ?_, ?_⟩
  · rw [classId]
    exact (product.ordinary native.library)
  · refine ⟨product.builderId, product, (native.member? classId _).trans ?_⟩
    cases product <;> rfl

/-- The attributes that the library keeps are no members of a class. -/
theorem member?_attribute (own : name ∈ attributeNames) (inside : b.index < store.builders.length) :
    store.member? b name = none := by
  obtain ⟨product, classId⟩ := (native.builders b inside).product
  rw [native.member? classId]
  exact product.resolve_attribute name own

/-- Nothing can be called like a function. -/
theorem uncalled (b : BuilderRef) : store.hook? b .call = none := by
  by_cases inside : b.index < store.builders.length
  · obtain ⟨product, classId⟩ := (native.builders b inside).product
    refine (native.member? classId _).trans ?_
    cases product <;> rfl
  · unfold Store.hook? Store.member?
    rw [get_of_outside inside, native.classes]
    rfl

/-- What a builder is one of does not change. -/
theorem isOf {after : Store} (still : after.Native) (grown : store.Grown after)
    (inside : b.index < store.builders.length) (base : ClassId) :
    after.isOf b base = store.isOf b base := by
  unfold Store.isOf
  rw [grown.classId b inside, still.classes, native.classes]

/-! #### What keeps a store native -/

/-- An attribute may be assigned if it is not the list of children, or is a list again. -/
theorem assign (keeps : name = "_children" → ∃ items, value = .list items) (b : BuilderRef) :
    (store.assign b name value).Native where
  classes := native.classes
  builders := by
    intro c inside
    rw [length_builders_assign] at inside
    by_cases outside : ¬ b.index < store.builders.length
    · rw [assign_of_outside outside]
      exact native.builders c inside
    have there := Decidable.not_not.1 outside
    refine (native.builders c inside).of_eq rfl (foreign?_assign store b c name value)
      (classId_assign store b c name value) ?_ ?_
    · intro flag held
      rw [held?_assign there]
      split
      · exact ⟨value, rfl⟩
      · exact ⟨flag, held⟩
    · intro items held
      rw [held?_assign there]
      split
      · next same =>
          obtain ⟨others, rfl⟩ := keeps same.2.symm
          exact ⟨others, rfl⟩
      · exact ⟨items, held⟩

theorem logged (event : Log.Event) : (store.logged event).Native where
  classes := native.classes
  builders := fun c inside => (native.builders c inside).of_get_eq rfl rfl

theorem finalizedInto (b : BuilderRef) (node : Node) : (store.finalizedInto b node).Native :=
  (native.assign (fun same => absurd same (by decide)) b).logged _

/-- A new builder may be added. -/
theorem add (product : Product) (options : Options) :
    (store.add (product.builder options)).2.Native where
  classes := native.classes
  builders := by
    intro c inside
    rcases add_cases _ inside with old | rfl
    · exact (native.builders c old).of_get_eq rfl (get_add_of_lt old _)
    · exact (shows_add_new native.library product options).working

/-- All attributes of a builder may be replaced if the new ones say whether it is finalized and
keep its children in a list. -/
theorem replace {held : Bindings String Value} (flag : (held.find? "_finalized").isSome)
    (children : ∃ items, held.find? "_children" = some (.list items)) (b : BuilderRef) :
    (store.replace b held).Native where
  classes := native.classes
  builders := by
    intro c inside
    have old : c.index < store.builders.length := by simpa [Store.replace] using inside
    by_cases here : c.index = b.index
    · have new : (store.replace b held).get c = { store.get c with held } := by
        simp [Store.replace, get, List.getD_eq_getElem?_getD, ← here, old]
      refine (native.builders c old).of_eq rfl ?_ (by rw [new]) ?_ ?_
      · exact (foreign?_of_get new).trans rfl
      · intro _ _
        rw [held?_of_get new]
        exact Option.isSome_iff_exists.1 flag
      · intro _ _
        rw [held?_of_get new]
        exact children
    · exact (native.builders c old).of_get_eq rfl
        (by simp [Store.replace, get, List.getD_eq_getElem?_getD, Ne.symm here])

end Native

/-! #### Writing -/

/-- What may be assigned from outside if builders are to keep their children in a list: a list
in the place of the list, and attributes all at once only with a list among them. -/
structure KeepsChildren (name : String) (value : Value) : Prop where
  one : name = "_children" → ∃ items, value = .list items
  all : name = attributesName → ∀ members, value = .record members →
    (Bindings.findIn "_finalized" members).isSome ∧
      ∃ items, Bindings.findIn "_children" members = some (.list items)

/-- What the library's builders start with may be assigned at any time. -/
theorem keepsChildren_of_startsWith (starts : StartsWith name value) : KeepsChildren name value where
  one := by
    rintro rfl
    exact (keepable_of_startsWith starts).children rfl
  all := by
    rintro rfl
    exact absurd starts.mem_attributeNames (by decide)

/-- What an operation leaves that has kept these records and defines no classes. -/
structure Worked (records : List Log.Event) (before after : Store) : Prop where
  native : after.Native
  grown : before.Grown after
  log : after.log = before.log ++ records

namespace Worked

variable {records more : List Log.Event} {mid after : Store}

theorem refl (native : store.Native) : Worked [] store store :=
  ⟨native, .refl _, (List.append_nil _).symm⟩

theorem trans (first : Worked records store mid) (second : Worked more mid after) :
    Worked (records ++ more) store after where
  native := second.native
  grown := first.grown.trans second.grown
  log := by rw [second.log, first.log, List.append_assoc]

/-- What is assigned to a builder that then shows what it has gathered. -/
theorem of_gathered {content : Content} {member : String} {made : Value} (native : store.Native)
    (gathered : store.Gathered b content member made after) : Worked [] store after := by
  have grown := Grown.of_gathered gathered
  obtain ⟨name, value, rfl⟩ := gathered.one
  refine ⟨⟨native.classes, fun c inside => ?_⟩, grown, (List.append_nil _).symm⟩
  by_cases same : c = b
  · rw [same]
    exact gathered.shows.working
  · rw [length_builders_assign] at inside
    exact (native.builders c inside).of_get_eq rfl (get_assign_of_ne store same name value)

end Worked

namespace Native

variable {after : Store}

theorem worked_assign (native : store.Native)
    (keeps : name = "_children" → ∃ items, value = .list items) (b : BuilderRef) :
    Worked [] store (store.assign b name value) :=
  ⟨native.assign keeps b, .assign store b name value, (List.append_nil _).symm⟩

theorem worked_add (native : store.Native) (product : Product) (options : Options) :
    Worked [] store (store.add (product.builder options)).2 :=
  ⟨native.add product options, .add store _, (List.append_nil _).symm⟩

theorem worked_finalizedInto (native : store.Native) (b : BuilderRef) (node : Node) :
    Worked [.finalized (store.className b) node.tag] store (store.finalizedInto b node) :=
  ⟨native.finalizedInto b node, .finalizedInto store b node, rfl⟩

theorem worked_replace (native : store.Native) {held : Bindings String Value}
    (flag : (held.find? "_finalized").isSome)
    (children : ∃ items, held.find? "_children" = some (.list items)) (b : BuilderRef) :
    Worked [] store (store.replace b held) where
  native := native.replace flag children b
  grown := by
    refine ⟨by simp [Store.replace], fun c _ => ?_⟩
    by_cases here : c.index = b.index
    · by_cases inside : c.index < store.builders.length <;>
        simp [Store.replace, get, List.getD_eq_getElem?_getD, ← here, inside]
    · simp [Store.replace, get, List.getD_eq_getElem?_getD, Ne.symm here]
  log := (List.append_nil _).symm

/-- Assigning an attribute is refused, or changes it and nothing else. -/
theorem worked_write (native : store.Native) (keeps : KeepsChildren name value)
    (written : store.write b name value = .ok after) : Worked [] store after := by
  obtain rfl | rfl | ⟨members, all, same, rfl⟩ := write_eq_ok written
  · exact .refl native
  · exact native.worked_assign keeps.one b
  · obtain ⟨flag, children⟩ := keeps.all all _ same
    exact native.worked_replace flag children b

/-- Starting a builder again gives it what its kind starts with. -/
theorem worked_start (native : store.Native) {starter : Starter} (known : starter.Known)
    (given : Options) (started : store.start b starter given = .ok after) :
    Worked [] store after := by
  have starts := known.startsWith given
  unfold Store.start at started
  generalize (starter.started given).entries = entries at starts started
  induction entries generalizing store with
  | nil =>
      cases started
      exact .refl native
  | cons entry rest ih =>
      obtain ⟨next, first, others⟩ := writeAll_cons_eq_ok started
      have worked := native.worked_write (keepsChildren_of_startsWith (starts entry (.head _))) first
      exact worked.trans (ih worked.native (fun other among => starts other (.tail _ among)) others)

/-- A value put behind the children leaves them a list. -/
theorem worked_push (native : store.Native) {children : Found} {made : Value}
    (pushed : store.push b children made = .ok after) : Worked [] store after := by
  obtain ⟨items, _, rfl⟩ := push_eq_ok pushed
  exact native.worked_assign (fun _ => ⟨_, rfl⟩) b

/-- The library's classes have been registered already. -/
theorem worked_registered (native : store.Native) (product : Product)
    (registered : store.onClasses (·.registered product.builderId) = .ok after) :
    Worked [] store after := by
  obtain ⟨classes, done, rfl⟩ := onClasses_eq_ok registered
  rw [native.classes, product.registered_eq] at done
  cases done
  rw [← native.classes]
  exact .refl native

end Native

end Store

end ScopedHtml
