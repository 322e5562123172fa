import ScopedHtml.Proofs.Definitions
import ScopedHtml.Proofs.Drafts
import ScopedHtml.Proofs.ParallelMembers

/-!
# ScopedHtml.Proofs.ParallelDefine

**Defining classes in parallel.** While classes are told of a new one, nobody can use it yet: no
name is bound to it and no opener opens it. So all that can happen to the classes is that the new
one is registered (`Bridge.Registering`), and what is called meanwhile is carried out alike as ever
(`Caller.Alike.define`).
-/

namespace ScopedHtml

open BuildM

variable {ρ : Type}

/-- Builders stay alike when the classes grow alike. -/
theorem Links.Beside.onClasses {links : Links} {swap : Swap} {s t : Store}
    (beside : links.Beside swap s t) {left right : ClassTable} (tables : swap.Tables left right)
    (grows : s.classes.Grows left) (grows' : t.classes.Grows right) :
    links.Beside swap { s with classes := left } { t with classes := right } where
  tables := tables
  grown := beside.grown
  count := beside.count
  alike := by
    intro b b' known
    have alike := beside.alike (known.mono (Nat.le_refl _) (Nat.le_refl _))
    exact { alike with twins := alike.twins.grows grows grows' }
  silent := by
    intro b b' seen
    have usable := (beside.alike (.seen seen)).twins.usable
    exact (grows.resolve usable _).trans (beside.silent seen)
  others := beside.others
  others' := beside.others'
  log := beside.log

namespace Bridge

variable {bridge : Bridge ρ} {s t u v : Session ρ}

/-! ### Sessions with other classes -/

/-- The classes of two runs change alike. -/
structure Reclassed (bridge : Bridge ρ) (s t : Session ρ) (left right : ClassTable) : Prop where
  tables : bridge.swap.Tables left right
  grows : s.store.classes.Grows left
  grows' : t.store.classes.Grows right
  classes : bridge.classes left right

theorem Beside.onClasses (beside : bridge.Beside s t) {left right : ClassTable}
    (classes : bridge.Reclassed s t left right) :
    bridge.Beside (s.onClasses left) (t.onClasses right) ∧
      Later s t (s.onClasses left) (t.onClasses right) := by
  have grown : ∀ (store : Store) (classes : ClassTable), store.Grown { store with classes } :=
    fun store classes => ⟨Nat.le_refl _, fun _ _ => rfl⟩
  have later : Later s t (s.onClasses left) (t.onClasses right) :=
    ⟨⟨grown _ _, classes.grows⟩, ⟨grown _ _, classes.grows'⟩⟩
  exact ⟨⟨beside.stores.onClasses classes.tables classes.grows classes.grows', classes.classes,
    bridge.extras_mono beside.extras later.left later.right⟩, later⟩

namespace Parallel

/-- An operation on the classes. -/
theorem onClasses {operation operation' : ClassTable → Except Fault ClassTable}
    {Q : ClassTable → ClassTable → Prop}
    (outcomes : bridge.Beside s t → Outcomes bridge.swap.Faults
      (fun left right => bridge.Reclassed s t left right ∧ Q left right)
      (operation s.store.classes) (operation' t.store.classes)) :
    bridge.Parallel s t (fun u v _ _ => Q u.store.classes v.store.classes)
      (BuildM.perform fun store => store.onClasses operation)
      (BuildM.perform fun store => store.onClasses operation') := by
  intro beside
  have outcomes := outcomes beside
  rw [perform_apply, perform_apply, Store.onClasses, Store.onClasses]
  revert outcomes
  generalize operation s.store.classes = result
  generalize operation' t.store.classes = result'
  rintro (⟨classes, related⟩ | alike)
  · have after := beside.onClasses classes
    exact .ok after.1 after.2 related
  · exact .error beside (.refl s t) alike

/-- A class is added. -/
theorem addClass {new new' : BuilderClass}
    (classes : bridge.Beside s t → bridge.Reclassed s t (s.store.classes.push new).2
      (t.store.classes.push new').2) :
    bridge.Parallel s t
      (fun u v id id' => id' = id ∧ id = (s.store.classes.push new).1 ∧
        u.store.classes = (s.store.classes.push new).2 ∧
        v.store.classes = (t.store.classes.push new').2)
      (BuildM.transact fun store => .ok (store.addClass new))
      (BuildM.transact fun store => .ok (store.addClass new')) := by
  intro beside
  have after := beside.onClasses (classes beside)
  exact .ok after.1 after.2 ⟨congrArg ClassId.mk beside.stores.tables.length, rfl, rfl, rfl⟩

/-- A name is bound to a class that can be used. -/
theorem bindName (any : ∀ left right, bridge.classes left right) {name : String}
    (apart : bridge.swap.Still ∨ name ≠ bridge.swap.oldName ∧ name ≠ bridge.swap.newName)
    {id : ClassId} (usable : s.store.classes.Usable id) (usable' : t.store.classes.Usable id) :
    bridge.Parallel s t Same
      (do
        BuildM.perform fun store => store.onClasses fun classes => .ok (classes.bindName name id)
        return id)
      (do
        BuildM.perform fun store => store.onClasses fun classes => .ok (classes.bindName name id)
        return id) := by
  refine (Parallel.onClasses (Q := fun _ _ => True) fun beside => ?_).map fun _ _ _ _ _ => rfl
  exact .ok ⟨⟨beside.stores.tables.bindName apart usable usable', .bindName _ _ _,
    .bindName _ _ _, any _ _⟩, trivial⟩

/-- What runs in parallel where what is carried may not change leaves it alone. -/
theorem release {α β : Type} {R : Session ρ → Session ρ → α → β → Prop} {m : BuildM ρ α}
    {n : BuildM ρ β} {classes : ClassTable → ClassTable → Prop}
    (here : classes s.store.classes t.store.classes)
    (any : ∀ left right, bridge.classes left right)
    (parallel : (bridge.holding classes s t).Parallel s t R m n) :
    bridge.Parallel s t
      (fun u v a a' => R u v a a' ∧ classes u.store.classes v.store.classes) m n := by
  intro beside
  have held : (bridge.holding classes s t).Beside s t := ⟨beside.stores, here, rfl, rfl⟩
  have released : ∀ {u v}, (bridge.holding classes s t).Beside u v → Later s t u v →
      bridge.Beside u v := by
    intro u v after later
    obtain ⟨extra, extra'⟩ := after.extras
    refine ⟨after.stores, any _ _, ?_⟩
    rw [extra, extra']
    exact bridge.extras_mono beside.extras later.left later.right
  have ends := parallel held
  revert ends
  generalize m s = result
  generalize n t = result'
  rintro (⟨after, later, related⟩ | ⟨after, later, alike⟩)
  · exact .ok (released after later) later ⟨related, after.classes⟩
  · exact .error (released after later) later alike

end Parallel

/-! ### Registering -/

/-- Nothing has happened to the classes, or a new one has been registered. -/
def Registering (left right : ClassTable) (id : ClassId) (after after' : ClassTable) : Prop :=
  after = left ∧ after' = right ∨ left.Registers id after ∧ right.Registers id after'

end Bridge

namespace ClassTable

variable {table after : ClassTable} {id : ClassId}

/-- A new class can be used when it has been registered, if those behind it ask for that. -/
theorem usable_of_registering (inside : id.index < table.classes.length)
    (registering : after = table ∨ table.Registers id after)
    (told : (∃ owner, table.resolveAlong Hook.heir.name (table.get id).ancestors =
      some (owner, .method .register)) → after.Registered id) : after.Usable id := by
  rcases registering with rfl | registers
  · exact ⟨inside, fun owner heir => told ⟨owner, heir⟩⟩
  · exact ⟨Nat.lt_of_lt_of_le inside registers.grows.length, fun _ _ => registers.registered⟩

end ClassTable

namespace Caller.Alike

variable {call : Caller ρ} (alike : call.Alike) {bridge : Bridge ρ} {s t : Session ρ}
include alike

/-- Classes are told of a new class that nothing inherits from. -/
theorem announceNew (any : ∀ left right, bridge.classes left right) {id : ClassId}
    {ancestors : List ClassId} (further : Standard.classes.classes.length ≤ id.index)
    (inside : id.index < s.store.classes.classes.length)
    (behind : (s.store.classes.get id).ancestors = ancestors)
    (closed : ∀ c ∈ ancestors, c.index < s.store.classes.classes.length)
    (unheard : ∀ c : ClassId, c.index < s.store.classes.classes.length →
      id ∉ (s.store.classes.get c).ancestors) :
    bridge.Parallel s t
      (fun u v _ _ => u.store.classes.Usable id ∧ v.store.classes.Usable id)
      (call.announce id [] ancestors) (call.announce id [] ancestors) := by
  intro beside
  subst behind
  have tables := beside.stores.tables
  have inside' : id.index < t.store.classes.classes.length := tables.length ▸ inside
  have parallel : (bridge.holding
      (Bridge.Registering s.store.classes t.store.classes id) s t).Parallel s t _
        (call.announce id [] (s.store.classes.get id).ancestors)
        (call.announce id [] (s.store.classes.get id).ancestors) :=
    alike.announce (P := fun u v => u.store.classes.Registered id ∧ v.store.classes.Registered id)
      (.inl rfl) [] _ closed (fun _ _ _ _ _ _ => .inl rfl) (by
        rintro ⟨owner, told⟩ u v later
        refine .onClasses (Q := fun left right => left.Registered id ∧ right.Registered id) ?_
        intro beside
        have now := beside.stores.tables
        rcases beside.classes with ⟨same, same'⟩ | ⟨registers, registers'⟩
        · rw [same, same']
          refine (tables.register further inside unheard told).mono ?_
          rintro left right ⟨tables, registers, registers'⟩
          refine ⟨⟨tables, ?_, ?_, .inr ⟨registers, registers'⟩⟩, registers.registered,
            registers'.registered⟩
          · rw [same]
            exact registers.grows
          · rw [same']
            exact registers'.grows
        · -- The class has been registered already.
          rw [now.tidy.registered_eq registers.registered,
            now.tidy'.registered_eq registers'.registered]
          exact .ok ⟨⟨now, .refl _, .refl _, .inr ⟨registers, registers'⟩⟩, registers.registered,
            registers'.registered⟩)
  refine ((Bridge.Parallel.release (.inl ⟨rfl, rfl⟩) any parallel) beside).mono ?_
  rintro u v answer answer' ⟨⟨_, registered⟩, registering⟩
  have ancestors : (t.store.classes.get id).ancestors = (s.store.classes.get id).ancestors :=
    (tables.classes id).ancestors
  refine ⟨ClassTable.usable_of_registering inside ?_ fun told => (registered told).1,
    ClassTable.usable_of_registering inside' ?_ fun told => ?_⟩
  · exact registering.imp And.left And.left
  · exact registering.imp And.right And.right
  · rw [ancestors] at told
    exact (registered (told.imp fun _ => tables.told.1)).2

/-- Adding a class that has been described. -/
theorem defineNew (any : ∀ left right, bridge.classes left right) {name : String}
    (apart : bridge.swap.Still ∨ name ≠ bridge.swap.oldName ∧ name ≠ bridge.swap.newName)
    (baseIds : List ClassId) {new new' : BuilderClass} (classes : bridge.swap.Classes new new')
    (drafted : bridge.swap.Drafted s.store.classes new)
    (drafted' : bridge.swap.Drafted t.store.classes new') :
    bridge.Parallel s t Bridge.Same
      (do
        let id ← transact fun store => .ok (store.addClass new)
        discard <| call.announce id [] new.ancestors
        if ← observe fun store => store.classes.isBuilder id then
          settle =<< observe fun store => store.classes.checkAbstract baseIds
        perform fun store => store.onClasses fun classes => .ok (classes.bindName name id)
        return id)
      (do
        let id ← transact fun store => .ok (store.addClass new')
        discard <| call.announce id [] new'.ancestors
        if ← observe fun store => store.classes.isBuilder id then
          settle =<< observe fun store => store.classes.checkAbstract baseIds
        perform fun store => store.onClasses fun classes => .ok (classes.bindName name id)
        return id) := by
  intro beside
  have tables := beside.stores.tables
  have pushed : bridge.Reclassed s t (s.store.classes.push new).2 (t.store.classes.push new').2 :=
    ⟨tables.push classes drafted drafted', .push tables.tidy.closed new,
      .push tables.tidy'.closed new', any _ _⟩
  refine (Bridge.Parallel.addClass fun _ => pushed).bind ?_ beside
  rintro u v _ id later ⟨rfl, last, here, _⟩
  rw [classes.ancestors]
  have own : u.store.classes.get id = new := by rw [here, last, ClassTable.get_push_new]
  have index : id.index = s.store.classes.classes.length := congrArg ClassId.index last
  have length : u.store.classes.classes.length = s.store.classes.classes.length + 1 := by
    rw [here]
    simp [ClassTable.push]
  have unheard := Swap.unheard_push tables.tidy.closed drafted.ancestors
  rw [← here, ← last] at unheard
  have told : bridge.Parallel u v
      (fun x y _ _ => x.store.classes.Usable id ∧ y.store.classes.Usable id)
      (call.announce id [] new.ancestors) (call.announce id [] new.ancestors) :=
    alike.announceNew any (index ▸ tables.tidy.length) (by omega)
      (congrArg BuilderClass.ancestors own)
      (fun c there => by have := drafted.ancestors c there; omega) unheard
  refine (told.map (Q := fun x y _ _ => x.store.classes.Usable id ∧ y.store.classes.Usable id)
    fun _ _ _ _ usable => usable).bind ?_
  rintro x y _ _ _ ⟨usable, usable'⟩
  have bound := fun {u v} (later : Later x y u v) =>
    Bridge.Parallel.bindName any apart (later.left.classes.usable usable)
      (later.right.classes.usable usable')
  refine .observe_bind fun beside => ?_
  have builder : y.store.classes.isBuilder id = x.store.classes.isBuilder id :=
    beside.stores.tables.inherits (.inl rfl) (by decide)
  rw [builder]
  split
  · refine .bind (R := Bridge.Same) ?_ fun _ _ _ _ later _ => bound later
    refine .observe_bind fun beside => ?_
    rw [beside.stores.tables.checkAbstract]
    exact .settle (.of_eq .same fun _ => rfl)
  · exact bound (.refl x y)

/-- Defining classes. -/
theorem define (any : ∀ left right, bridge.classes left right) {name : String}
    (apart : bridge.swap.Still ∨ name ≠ bridge.swap.oldName ∧ name ≠ bridge.swap.newName)
    (bases : List String) {body : ClassBody} (loose : body.Loose)
    (suits : bridge.swap.Suits body) :
    bridge.Parallel s t Bridge.Same (call.define name bases body)
      (call.define name bases (bridge.swap.body body)) := by
  unfold Caller.define
  refine .query_bind (S := fun ids ids' => ids' = ids ∧ s.store.classes.namedAll bases = .ok ids)
    ?_ ?_
  · intro beside
    rw [beside.stores.tables.namedAll]
    cases s.store.classes.namedAll bases with
    | error fault => exact .error (.same _)
    | ok ids => exact .ok ⟨rfl, rfl⟩
  rintro beside ids _ ⟨rfl, named⟩
  have tables := beside.stores.tables
  refine .query_bind
    (fun _ => tables.drafts name (tables.tidy.closed.namedAll named) loose suits) ?_
  rintro _ new new' ⟨classes, drafted, drafted'⟩
  exact alike.defineNew any apart _ classes drafted drafted'

end Caller.Alike

end ScopedHtml
