import Mathlib.Logic.Relation
import ScopedHtml.Proofs.Orderly

/-!
# ScopedHtml.Proofs.Change

**What can change while nothing is finalized, attached or appended.** `Store.Change` says it
once for all operations on an orderly store: a public attribute is assigned, a title is set, a
paragraph is gathered, a builder is started, a class is defined, registered or named. A class
is defined, and a builder that is there started over again, only with a `Licence` for it.
Whatever changes, the store stays orderly (`Store.Change.orderly`) and what there was is still
there (`Store.Change.leads`).

A program drifts (`BuildM.Drifts`) if it only makes such changes. Creating a builder does,
and so do setting titles, adding paragraphs and defining classes.
-/

namespace ScopedHtml

open BuildM

/-! ### Changes -/

/-- What programs may do besides working the builders that they make. -/
structure Licence where
  /-- They may define classes. -/
  classes : Prop
  /-- They may start builders over again. -/
  restarts : Prop

/-- What is started stays so; classes may be defined if `custom` holds. -/
def Licence.lasting (custom : Prop) : Licence := ⟨custom, False⟩

/-- A value that may be assigned to an attribute of this name, to keep a builder in order. -/
structure Store.Keepable (name : String) (value : Value) : Prop where
  required : name ≠ "_required"
  making : name ≠ "_make_node"
  flag : name = "_finalized" → ∃ finalized, value = .bool finalized
  children : name = "_children" → ∃ items, value = .list items

/-- What one operation of the library, or an assignment from outside, does to a store. Some are
only done with a licence. -/
inductive Store.Change (licence : Licence) (store : Store) : Store → Prop
  /-- An attribute with a public name was assigned. -/
  | assigned (b : BuilderRef) (name : String) (value : Value) (shown : isPrivate name = false) :
      Change licence store (store.assign b name value)
  | titled (b : BuilderRef) (content : Value) :
      Change licence store (store.assign b "_title" (.node (.title content)))
  /-- A paragraph was put behind the children. -/
  | gathered (b : BuilderRef) (items : List Value) (content : Value)
      (held : store.held? b "_children" = some (.list items)) :
      Change licence store
        (store.assign b "_children" (.list (items ++ [.node (.paragraph content)])))
  /-- A builder was made and started. -/
  | started (id owner : ClassId) (starter : Starter) (given : Options)
      (inside : id.index < store.classes.classes.length)
      (start : store.classes.resolve id Hook.start.name = some (owner, .starter starter))
      (makes : ∀ owner, store.classes.resolve id "_make_node" ≠ some (owner, .maker none)) :
      Change licence store (store.add ⟨id, store.classes.startHeld id starter given, none⟩).2
  /-- An instance of a plain class was made. -/
  | made (id : ClassId) (inside : id.index < store.classes.classes.length)
      (start : store.classes.resolve id Hook.start.name = none) :
      Change licence store (store.add ⟨id, .empty, none⟩).2
  /-- A class was defined. -/
  | defined (new : BuilderClass) (allowed : licence.classes)
      (members : ∀ name member, new.members.find? name = some member →
        member.Orderly store.classes.classes.length name)
      (ancestors : ∀ c ∈ new.ancestors, c.index < store.classes.classes.length)
      (lines : (store.classes.push new).2.Lined) :
      Change licence store { store with classes := (store.classes.push new).2 }
  /-- The openers of a class were registered. -/
  | registered (id : ClassId) (names : List String) :
      Change licence store
        { store with classes := store.classes.assign id registerName (.data (.tags names)) }
  /-- A name was bound to a class. -/
  | named (name : String) (id : ClassId) (inside : id.index < store.classes.classes.length) :
      Change licence store { store with classes := store.classes.bindName name id }
  /-- An attribute of a builder that is started over again was set. -/
  | restarted (b : BuilderRef) (name : String) (value : Value) (allowed : licence.restarts)
      (keepable : Keepable name value) : Change licence store (store.assign b name value)

/-- Any number of changes. -/
def Store.Drifts (licence : Licence) : Store → Store → Prop :=
  Relation.ReflTransGen (Store.Change licence)

namespace Store

variable {licence : Licence} {store before after : Store} {b c : BuilderRef} {name : String}

/-- What a builder holds when an attribute has been assigned. -/
theorem held?_assign (inside : b.index < store.builders.length) (name : String) (value : Value)
    (c : BuilderRef) (other : String) :
    (store.assign b name value).held? c other =
      if c = b ∧ other = name then some value else store.held? c other := by
  split
  · next same =>
      obtain ⟨rfl, rfl⟩ := same
      exact held?_assign_self inside other value
  · next different =>
      by_cases same : c = b
      · subst same
        exact held?_assign_of_ne_name store c (fun eq => different ⟨rfl, eq⟩) value
      · exact held?_assign_of_ne store same name other value

/-- An assignment leaves all attributes of other names alone. -/
theorem held?_assign_of_other (store : Store) (b c : BuilderRef) {name other : String}
    (different : other ≠ name) (value : Value) :
    (store.assign b name value).held? c other = store.held? c other := by
  by_cases same : c = b
  · subst same
    exact held?_assign_of_ne_name store c different value
  · exact held?_assign_of_ne store same name other value

/-- Assigning to what is not there changes nothing. -/
theorem assign_of_outside (outside : ¬ b.index < store.builders.length) (name : String)
    (value : Value) : store.assign b name value = store := by
  have same : store.builders.modify b.index
      (fun builder => { builder with held := builder.held.bind name value }) = store.builders :=
    List.modify_eq_self (Nat.not_lt.1 outside)
  unfold assign
  rw [same]

/-! #### What stays in order -/

theorem keepable_of_free (free : name ∉ reservedNames) (value : Value) : Keepable name value where
  required := fun same => free (by rw [same]; decide)
  making := fun same => free (by rw [same]; decide)
  flag := fun same => absurd (by rw [same]; decide) free
  children := fun same => absurd (by rw [same]; decide) free

/-- Public attributes are no matter of the library, but for what is reserved. -/
theorem keepable_of_public (shown : isPrivate name = false) (value : Value) :
    Keepable name value where
  required := by rintro rfl; exact absurd shown (by decide)
  making := by rintro rfl; exact absurd shown (by decide)
  flag := by rintro rfl; exact absurd shown (by decide)
  children := by rintro rfl; exact absurd shown (by decide)

theorem keepable_children (items : List Value) : Keepable "_children" (.list items) where
  required := by decide
  making := by decide
  flag := fun same => absurd same (by decide)
  children := fun _ => ⟨items, rfl⟩

/-- What a builder starts with keeps it in order. -/
theorem keepable_of_startsWith {value : Value} (starts : StartsWith name value) :
    Keepable name value := by
  have free : ∀ name ∈ ["_title", "_head", "_body"] ++ ["id", "class_name"], name ∉ reservedNames := by
    decide
  cases starts with
  | unfinished =>
      exact ⟨by decide, by decide, fun _ => ⟨false, rfl⟩, fun same => absurd same (by decide)⟩
  | childless => exact keepable_children []
  | slot among => exact keepable_of_free (free _ (List.mem_append_left _ among)) _
  | option among value => exact keepable_of_free (free _ (List.mem_append_right _ among)) _

theorem InOrder.assign (inOrder : store.InOrder c) {value : Value} (keepable : Keepable name value)
    (b : BuilderRef) : (store.assign b name value).InOrder c := by
  by_cases outside : ¬ b.index < store.builders.length
  · rwa [assign_of_outside outside]
  have inside := Decidable.not_not.1 outside
  have isOf : (store.assign b name value).isOf c Standard.builderBase =
      store.isOf c Standard.builderBase := by
    unfold Store.isOf
    rw [classId_assign, classes_assign]
  have member : (store.assign b name value).member? c "_make_node" =
      store.member? c "_make_node" :=
    member?_of_classId (store.classId_assign b c name value) _
  constructor
  · rw [classId_assign]
    exact inOrder.there
  · rw [foreign?_assign]
    exact inOrder.genuine
  · rw [isOf, member]
    exact inOrder.maker
  · rw [isOf, held?_assign inside]
    intro builder
    split
    · next same =>
        obtain ⟨finalized, rfl⟩ := keepable.flag same.2.symm
        exact ⟨finalized, rfl⟩
    · exact inOrder.flag builder
  · rw [held?_assign inside, if_neg fun same => keepable.required same.2.symm]
    exact inOrder.required
  · rw [held?_assign inside, if_neg fun same => keepable.making same.2.symm]
    exact inOrder.making
  · intro kept
    rw [held?_assign inside]
    split
    · next same =>
        obtain ⟨items, rfl⟩ := keepable.children same.2.symm
        rintro ⟨⟩
        exact ⟨items, rfl⟩
    · exact inOrder.children kept

/-- What a builder holds apart, only its class matters for its being in order. -/
theorem InOrder.leads (inOrder : before.InOrder b) (sound : before.Sound)
    (inside : b.index < before.builders.length) (leads : before.Leads after)
    (same : after.get b = before.get b) : after.InOrder b := by
  have there := inOrder.there
  have isOf := leads.isOf inside there Standard.builderBase
  have held : ∀ name, after.held? b name = before.held? b name := held?_of_get same
  constructor
  · rw [same]
    exact Nat.lt_of_lt_of_le there leads.classes.length
  · exact (leads.foreign b inside).trans inOrder.genuine
  · rw [isOf, leads.member? sound inside there (by decide)]
    exact inOrder.maker
  · rw [isOf, held]
    exact inOrder.flag
  · rw [held]
    exact inOrder.required
  · rw [held]
    exact inOrder.making
  · rw [held]
    exact inOrder.children

namespace Orderly

variable (orderly : store.Orderly)

include orderly

theorem assign {value : Value} (keepable : Keepable name value) (b : BuilderRef) :
    (store.assign b name value).Orderly where
  sound := (Leads.assign orderly.sound b name value).sound
  lines := orderly.lines
  classes := orderly.classes
  builders := fun c inside =>
    (orderly.builders c (by simpa using inside)).assign keepable b

theorem logged (event : Log.Event) : (store.logged event).Orderly where
  sound := (Leads.logged orderly.sound event).sound
  lines := orderly.lines
  classes := orderly.classes
  builders := fun c inside => (orderly.builders c inside).leads orderly.sound inside
    (.logged orderly.sound event) rfl

theorem onClasses {classes : ClassTable} (kept : store.classes.Kept classes)
    (closed : classes.Closed) (lines : classes.Lined) (still : classes.Orderly) :
    ({ store with classes }).Orderly where
  sound := (Leads.onClasses orderly.sound kept closed).sound
  lines := lines
  classes := still
  builders := fun c inside => (orderly.builders c inside).leads orderly.sound inside
    (.onClasses orderly.sound kept closed) rfl

/-- A builder may be added that is in order. -/
theorem add {builder : Builder}
    (inOrder : (store.add builder).2.InOrder ⟨store.builders.length⟩) :
    (store.add builder).2.Orderly where
  sound := (Leads.add orderly.sound builder).sound
  lines := orderly.lines
  classes := orderly.classes
  builders := by
    intro c inside
    rcases add_cases builder inside with old | rfl
    · exact (orderly.builders c old).leads orderly.sound old (.add orderly.sound builder)
        (get_add_of_lt old builder)
    · exact inOrder

/-- What a class has for starting builders it has always had. -/
theorem standard_of_start {c : ClassId} (there : c.index < store.classes.classes.length)
    {member : Member}
    (found : (store.classes.get c).members.find? Hook.start.name = some member) :
    c.index < Standard.classes.classes.length ∧
      (Standard.classes.get c).members.find? Hook.start.name = some member := by
  have known := orderly.classes c there _ _ found
  split at known
  · next standard =>
      rcases known with found | ⟨free, _⟩
      · exact ⟨standard, found⟩
      · exact absurd (by decide) free
  · obtain ⟨same, _⟩ := known.of_reserved (by decide)
    exact absurd same (by decide)

/-- Builders are started by the library's starters, and nothing is in their way. -/
theorem startsPlainly {id : ClassId} (inside : id.index < store.classes.classes.length) :
    store.classes.StartsPlainly id where
  write := (orderly.classes.clear orderly.sound.closed inside).resolve_eq_none (by decide)
    (by rw [Standard.forall_classes]; decide)
  starters := by
    intro c behind member found
    obtain ⟨standard, found⟩ := orderly.standard_of_start (orderly.sound.closed.line inside c behind) found
    exact ⟨_, Standard.get_mem standard, found⟩
  uncomputed := by
    intro name own owner property resolved
    rcases orderly.classes.computed_cases orderly.sound.closed inside resolved with
      ⟨rfl, _⟩ | ⟨rfl, _⟩ <;> exact absurd own (by decide)

/-- Whatever class in the line of a builder has a starter, the attributes of that are assigned when
the builder is started. -/
theorem held_of_starter {id owner c : ClassId} {starter other : Starter} {name : String}
    (inside : id.index < store.classes.classes.length)
    (start : store.classes.resolve id Hook.start.name = some (owner, .starter starter))
    (there : c ∈ store.classes.line id)
    (found : (store.classes.get c).members.find? Hook.start.name = some (.starter other))
    (own : name ∈ (other.started []).entries.map Prod.fst) (given : Options) :
    ((store.classes.startHeld id starter given).find? name).isSome := by
  have plain := orderly.startsPlainly inside
  -- All that have a starter inherit from the class of all builders and so stand before it.
  have homes : ∀ d ∈ store.classes.line id, ∀ starter,
      (store.classes.get d).members.find? Hook.start.name = some (.starter starter) →
        Standard.builderBase ∈ store.classes.line d ∧
          (d = Standard.builderBase ∨ starter.home = some d) := by
    intro d among starter has
    obtain ⟨standard, has⟩ :=
      orderly.standard_of_start (orderly.sound.closed.line inside d among) has
    rw [orderly.sound.library.line standard]
    exact Standard.home_cases standard has
  refine Bindings.find?_bindAll_isSome (.inl ?_)
  unfold ClassTable.startEntries
  rw [List.map_append]
  rcases ClassTable.split_of_resolveAlong there found start with rfl | ⟨front, rest, split, behind⟩
  · cases found.symm.trans (ClassTable.resolveAlong_eq_some start).2
    refine List.mem_append_right _ ?_
    rwa [(plain.known_of_resolve start).names_started given]
  · refine List.mem_append_left _ ?_
    obtain ⟨among, has⟩ := ClassTable.resolveAlong_eq_some start
    have base := (homes c there other found).1
    rcases (homes owner among starter has).2 with rfl | home
    · exact absurd behind (orderly.lines.not_behind inside split base)
    rw [home]
    dsimp only
    rw [ClassTable.lineBehind_eq (orderly.lines.once id inside) split]
    have within : ∀ d ∈ rest, d ∈ store.classes.line id := fun d among =>
      split ▸ List.mem_append_right _ (List.mem_cons_of_mem _ among)
    obtain ⟨entry, assigned, rfl⟩ := List.mem_map.1 own
    refine List.mem_map_of_mem (ClassTable.mem_entriesAlong_of_starter found behind ?_ ?_ entry assigned)
    · intro d among member has
      obtain ⟨_, standard, has⟩ := plain.starters d (within d among) member has
      exact Standard.exists_starter standard has
    · intro before above others st again has homeless
      rcases (homes above (within above (again ▸ List.mem_append_right _ (List.mem_cons_self ..))) st has).2
        with rfl | home
      · have early : store.classes.line id = (front ++ owner :: before) ++ Standard.builderBase :: others := by
          rw [split, again, List.append_assoc]
          rfl
        exact orderly.lines.not_behind inside early base
      · cases homeless.symm.trans home

/-- A new builder is in order. -/
theorem inOrder_started {id owner : ClassId} {starter : Starter}
    (inside : id.index < store.classes.classes.length)
    (start : store.classes.resolve id Hook.start.name = some (owner, .starter starter))
    (makes : ∀ owner, store.classes.resolve id "_make_node" ≠ some (owner, .maker none))
    (given : Options) :
    (store.add ⟨id, store.classes.startHeld id starter given, none⟩).2.InOrder
      ⟨store.builders.length⟩ := by
  have plain := orderly.startsPlainly inside
  have known := plain.known_of_resolve start
  have new : (store.add ⟨id, store.classes.startHeld id starter given, none⟩).2.get
      ⟨store.builders.length⟩ = ⟨id, store.classes.startHeld id starter given, none⟩ :=
    get_add_new store _
  have holds := held?_of_get new
  have keepable : ∀ name value, (store.classes.startHeld id starter given).find? name = some value →
      Keepable name value := fun name value held =>
    keepable_of_startsWith (plain.startsWith_held known held)
  constructor
  · rw [new]
    exact inside
  · exact foreign?_of_get new
  · intro builder
    have builder := isOf_builderBase.1 builder
    rw [new] at builder
    -- A builder class has something that makes its element, and it makes one.
    obtain ⟨owner, _, resolved, product, rfl⟩ := (orderly.classes.keepsClear orderly.sound.closed
      orderly.sound.library inside builder).resolve_of_base (by decide : "_make_node" ∈ solidNames)
      (fun member => ∃ product, member = .maker product)
      (fun _ among _ found => Standard.exists_maker among found) rfl
    cases product with
    | none => exact absurd resolved (makes owner)
    | some product =>
        refine ⟨owner, product, ?_⟩
        rw [member?_of_classId (congrArg Builder.classId new)]
        exact resolved
  · intro builder
    have base := isOf_builderBase.1 builder
    rw [new] at base
    have first : (store.classes.get Standard.builderBase).members.find? Hook.start.name = _ :=
      orderly.sound.library.members Standard.builderBase (by decide) _ (by decide)
    obtain ⟨value, held⟩ := Option.isSome_iff_exists.1
      (orderly.held_of_starter inside start base first (.head _) given)
    obtain ⟨finalized, rfl⟩ := (keepable _ _ held).flag rfl
    exact ⟨finalized, (holds _).trans held⟩
  · rw [holds]
    exact Option.eq_none_iff_forall_ne_some.2 fun value held => (keepable _ _ held).required rfl
  · rw [holds]
    exact Option.eq_none_iff_forall_ne_some.2 fun value held => (keepable _ _ held).making rfl
  · intro value held
    exact (keepable _ _ ((holds _).symm.trans held)).children rfl

end Orderly

/-! #### What changes lead to -/

theorem Change.leads (orderly : store.Orderly) (change : store.Change licence after) :
    store.Leads after := by
  have sound := orderly.sound
  cases change with
  | assigned b name value shown => exact .assign sound b name value
  | titled b content => exact .assign sound b _ _
  | gathered b items content held => exact .assign sound b _ _
  | started id owner starter given inside start makes => exact .add sound _
  | made id inside start => exact .add sound _
  | defined new allowed members ancestors lines =>
      exact .onClasses sound (.push _ _) (sound.closed.push ancestors)
  | registered id names =>
      exact .onClasses sound (.assign _ id (by decide) _) (sound.closed.assign id _ _)
  | named name id inside =>
      exact .onClasses sound (.bindName _ _ _) (sound.closed.bindName name inside)
  | restarted b name value allowed keepable => exact .assign sound b name value

/-- Whatever changes, the store stays orderly. -/
theorem Change.orderly (orderly : store.Orderly) (change : store.Change licence after) :
    after.Orderly := by
  have sound := orderly.sound
  cases change with
  | assigned b name value shown => exact orderly.assign (keepable_of_public shown value) b
  | titled b content => exact orderly.assign (keepable_of_free (by decide) _) b
  | gathered b items content held => exact orderly.assign (keepable_children _) b
  | started id owner starter given inside start makes =>
      exact orderly.add (orderly.inOrder_started inside start makes given)
  | made id inside start =>
      have new : (store.add ⟨id, .empty, none⟩).2.get ⟨store.builders.length⟩ =
          ⟨id, .empty, none⟩ := get_add_new store _
      -- What nothing starts is no builder.
      have plain : ¬ (store.add ⟨id, .empty, none⟩).2.isOf ⟨store.builders.length⟩
          Standard.builderBase := by
        intro builder
        have builder := isOf_builderBase.1 builder
        rw [new] at builder
        obtain ⟨owner, starter, started⟩ := (orderly.classes.ordinary sound.closed sound.library
          inside builder).start
        cases started.symm.trans start
      have holds : ∀ name, (store.add ⟨id, .empty, none⟩).2.held? ⟨store.builders.length⟩ name =
          none := held?_of_get new
      refine orderly.add ⟨?_, ?_, fun builder => absurd builder plain,
        fun builder => absurd builder plain, holds _, holds _, ?_⟩
      · rw [new]
        exact inside
      · exact foreign?_of_get new
      · intro value kept
        rw [holds] at kept
        cases kept
  | defined new allowed members ancestors lines =>
      exact orderly.onClasses (.push _ _) (sound.closed.push ancestors) lines
        (orderly.classes.push sound.library.length members)
  | registered id names =>
      have kept := ClassTable.Kept.assign store.classes id (by decide : registerName ∈ looseNames)
        (.data (.tags names))
      exact orderly.onClasses kept (sound.closed.assign id _ _)
        (orderly.lines.still sound.closed kept (ClassTable.length_classes_assign ..)) (orderly.classes.assign id (by decide) _)
  | named name id inside =>
      exact orderly.onClasses (.bindName _ _ _) (sound.closed.bindName name inside)
        (orderly.lines.still sound.closed (.bindName _ name id) rfl) orderly.classes
  | restarted b name value allowed keepable => exact orderly.assign keepable b

namespace Drifts

theorem refl (store : Store) : store.Drifts licence store := Relation.ReflTransGen.refl

theorem one (change : before.Change licence after) : before.Drifts licence after :=
  Relation.ReflTransGen.single change

theorem trans {later : Store} (first : before.Drifts licence after)
    (second : after.Drifts licence later) : before.Drifts licence later :=
  Relation.ReflTransGen.trans first second

theorem orderly (drifts : before.Drifts licence after) (orderly : before.Orderly) :
    after.Orderly := by
  induction drifts with
  | refl => exact orderly
  | tail _ change ih => exact change.orderly ih

theorem leads (drifts : before.Drifts licence after) (orderly : before.Orderly) :
    before.Leads after := by
  induction drifts with
  | refl => exact .refl orderly.sound
  | tail drifts change ih => exact ih.trans (change.leads (Drifts.orderly drifts orderly))

end Drifts

end Store

end ScopedHtml
