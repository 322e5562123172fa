import ScopedHtml.Proofs.Beside

/-!
# ScopedHtml.Proofs.Parallel

**Two programs in step.** A `Bridge` adds to the links of two runs what holds of all that they
carry. Two programs run in parallel (`Bridge.Parallel`) if from sessions that are side by side
they both succeed, with related results, or both fail, with faults that are alike, and leave
sessions that are side by side again. There is a rule for each way to put programs together.

What programs do that are given no function can be said more exactly: neither the classes nor
what is carried changes (`Bridge.pinned`, `Bridge.Parallel.unpin`).
-/

namespace ScopedHtml

open BuildM

/-! ### Sessions side by side -/

/-- What there is of builders and of classes that can be used stays. -/
structure Store.Grows (before after : Store) : Prop where
  grown : before.Grown after
  classes : before.classes.Grows after.classes

namespace Store

variable {before after later store : Store}

theorem Grows.refl (store : Store) : store.Grows store := ⟨.refl _, .refl _⟩

theorem Grows.trans (first : before.Grows after) (second : after.Grows later) :
    before.Grows later :=
  ⟨first.grown.trans second.grown, first.classes.trans second.classes⟩

theorem Grows.builders (grows : before.Grows after) :
    before.builders.length ≤ after.builders.length := grows.grown.length

theorem Moves.grows (moves : before.Moves after) : before.Grows after :=
  ⟨moves.grown, moves.classes ▸ .refl _⟩

/-- A builder whose class can be used keeps what is called on occasions. -/
theorem Grows.hook? (grows : before.Grows after) {b : BuilderRef}
    (inside : b.index < before.builders.length)
    (usable : before.classes.Usable (before.get b).classId) (hook : Hook) :
    after.hook? b hook = before.hook? b hook := by
  unfold Store.hook? Store.member?
  rw [grows.grown.classId b inside]
  exact grows.classes.resolve usable hook.name

theorem Grows.isOf (grows : before.Grows after) {b : BuilderRef}
    (inside : b.index < before.builders.length)
    (usable : before.classes.Usable (before.get b).classId) (base : ClassId) :
    after.isOf b base = before.isOf b base := by
  unfold Store.isOf ClassTable.inherits
  rw [grows.grown.classId b inside, grows.classes.line usable]

end Store

variable {ρ α α' β β' : Type}

/-- The links of two runs, with what holds of the classes and of what the runs carry. -/
structure Bridge (ρ : Type) extends Links where
  swap : Swap
  classes : ClassTable → ClassTable → Prop
  extras : Store → Store → ρ → ρ → Prop
  extras_mono : ∀ {s t u v extra extra'}, extras s t extra extra' → s.Grows u → t.Grows v →
    extras u v extra extra'

/-- Two runs have gone on from two sessions to two others. -/
structure Later (s t u v : Session ρ) : Prop where
  left : s.store.Grows u.store
  right : t.store.Grows v.store

theorem Later.refl (s t : Session ρ) : Later s t s t := ⟨.refl _, .refl _⟩

theorem Later.trans {s t u v x y : Session ρ} (first : Later s t u v) (second : Later u v x y) :
    Later s t x y :=
  ⟨first.left.trans second.left, first.right.trans second.right⟩

namespace Bridge

variable (bridge : Bridge ρ)

/-- Two runs have come to these sessions. -/
structure Beside (s t : Session ρ) : Prop where
  stores : bridge.toLinks.Beside bridge.swap s.store t.store
  classes : bridge.classes s.store.classes t.store.classes
  extras : bridge.extras s.store t.store s.extra t.extra

/-- Two runs that have started side by side end so. -/
inductive Ends (s t : Session ρ) (R : Session ρ → Session ρ → α → β → Prop) :
    EStateM.Result Fault (Session ρ) α → EStateM.Result Fault (Session ρ) β → Prop
  | ok {a : α} {b : β} {u v : Session ρ} (beside : bridge.Beside u v) (later : Later s t u v)
      (related : R u v a b) : Ends s t R (.ok a u) (.ok b v)
  | error {fault fault' : Fault} {u v : Session ρ} (beside : bridge.Beside u v)
      (later : Later s t u v) (alike : bridge.swap.Faults fault fault') :
      Ends s t R (.error fault u) (.error fault' v)

/-- Two programs that run in parallel. -/
def Parallel (s t : Session ρ) (R : Session ρ → Session ρ → α → β → Prop) (m : BuildM ρ α)
    (n : BuildM ρ β) : Prop :=
  bridge.Beside s t → bridge.Ends s t R (m s) (n t)

/-- The results are equal. -/
def Same (_ _ : Session ρ) (a b : α) : Prop := b = a

/-- There are no results. -/
def Never (_ _ : Session ρ) (_ : α) (_ : β) : Prop := False

variable {bridge} {s t u v : Session ρ} {R : Session ρ → Session ρ → α → α' → Prop}
  {Q : Session ρ → Session ρ → β → β' → Prop} {m : BuildM ρ α} {n : BuildM ρ α'}
  {k : α → BuildM ρ β} {k' : α' → BuildM ρ β'}

theorem Ends.mono {R' : Session ρ → Session ρ → α → α' → Prop}
    {result : EStateM.Result Fault (Session ρ) α} {result' : EStateM.Result Fault (Session ρ) α'}
    (ends : bridge.Ends s t R result result') (more : ∀ u v a a', R u v a a' → R' u v a a') :
    bridge.Ends s t R' result result' := by
  cases ends with
  | ok beside later related => exact .ok beside later (more _ _ _ _ related)
  | error beside later alike => exact .error beside later alike

/-- What two runs leave, whether they end well or fail. -/
theorem Ends.beside (ends : bridge.Ends s t R (m u) (n v)) :
    bridge.Beside (left m u) (left n v) ∧ Later s t (left m u) (left n v) := by
  unfold left
  revert ends
  generalize m u = result
  generalize n v = result'
  rintro (⟨beside, later, _⟩ | ⟨beside, later, _⟩)
  · exact ⟨beside, later⟩
  · exact ⟨beside, later⟩

theorem Ends.trans {result : EStateM.Result Fault (Session ρ) α}
    {result' : EStateM.Result Fault (Session ρ) α'} (later : Later s t u v)
    (ends : bridge.Ends u v R result result') : bridge.Ends s t R result result' := by
  cases ends with
  | ok beside more related => exact .ok beside (later.trans more) related
  | error beside more alike => exact .error beside (later.trans more) alike

namespace Parallel

theorem mono {R' : Session ρ → Session ρ → α → α' → Prop} (parallel : bridge.Parallel s t R m n)
    (more : ∀ u v a a', R u v a a' → R' u v a a') : bridge.Parallel s t R' m n :=
  fun beside => (parallel beside).mono more

theorem pure {a : α} {a' : α'} (related : R s t a a') :
    bridge.Parallel s t R (pure a) (pure a') :=
  fun beside => .ok beside (.refl s t) related

theorem throw {fault fault' : Fault} (alike : bridge.swap.Faults fault fault') :
    bridge.Parallel s t R (throw fault) (throw fault') :=
  fun beside => .error beside (.refl s t) alike

/-- What follows may depend on what has been done. -/
theorem bind (first : bridge.Parallel s t R m n)
    (next : ∀ u v a a', Later s t u v → R u v a a' → bridge.Parallel u v Q (k a) (k' a')) :
    bridge.Parallel s t Q (m >>= k) (n >>= k') := by
  intro beside
  have ends := first beside
  rw [bind_apply, bind_apply]
  revert ends
  generalize m s = result
  generalize n t = result'
  rintro (@⟨a, a', u, v, beside, later, related⟩ | ⟨beside, later, alike⟩)
  · exact (next u v a a' later related beside).trans later
  · exact .error beside later alike

theorem map {f : α → β} {f' : α' → β'} (first : bridge.Parallel s t R m n)
    (related : ∀ u v a a', R u v a a' → Q u v (f a) (f' a')) :
    bridge.Parallel s t Q (m >>= fun a => Pure.pure (f a)) (n >>= fun a => Pure.pure (f' a)) :=
  first.bind fun u v a a' _ here => .pure (related u v a a' here)

/-- What is known of the results of the first program is known of those of both. -/
theorem with_left {P : α → Prop} (parallel : bridge.Parallel s t R m n)
    (known : bridge.Beside s t → ∀ a u, m s = .ok a u → P a) :
    bridge.Parallel s t (fun u v a a' => R u v a a' ∧ P a) m n := by
  intro beside
  have ends := parallel beside
  have known := known beside
  revert ends known
  generalize m s = result
  generalize n t = result'
  rintro (⟨beside, later, related⟩ | ⟨beside, later, alike⟩) known
  · exact .ok beside later ⟨related, known _ _ rfl⟩
  · exact .error beside later alike

theorem discard (first : bridge.Parallel s t R m n) :
    bridge.Parallel s t Same (discard m) (discard n) :=
  first.map fun _ _ _ _ _ => rfl

theorem outcome (first : bridge.Parallel s t R m n) :
    bridge.Parallel s t (fun u v => Outcomes bridge.swap.Faults (R u v)) (outcome m)
      (outcome n) := by
  intro beside
  have ends := first beside
  rw [outcome_apply, outcome_apply]
  revert ends
  generalize m s = result
  generalize n t = result'
  rintro (⟨beside, later, related⟩ | ⟨beside, later, alike⟩)
  · exact .ok beside later (.ok related)
  · exact .ok beside later (.error alike)

/-! ### Single steps -/

theorem query {look : Store → Except Fault α} {look' : Store → Except Fault α'}
    (outcomes : bridge.Beside s t →
      Outcomes bridge.swap.Faults (R s t) (look s.store) (look' t.store)) :
    bridge.Parallel s t R (query look) (query look') := by
  intro beside
  have outcomes := outcomes beside
  rw [query_apply, query_apply]
  revert outcomes
  generalize look s.store = result
  generalize look' t.store = result'
  rintro (related | alike)
  · exact .ok beside (.refl s t) related
  · exact .error beside (.refl s t) alike

/-- Looking leaves the sessions as they are. -/
theorem query_bind {S : α → α' → Prop} {look : Store → Except Fault α}
    {look' : Store → Except Fault α'}
    (outcomes : bridge.Beside s t → Outcomes bridge.swap.Faults S (look s.store) (look' t.store))
    (next : bridge.Beside s t → ∀ a a', S a a' → bridge.Parallel s t Q (k a) (k' a')) :
    bridge.Parallel s t Q (BuildM.query look >>= k) (BuildM.query look' >>= k') := by
  intro beside
  have outcomes := outcomes beside
  rw [bind_apply, bind_apply, query_apply, query_apply]
  revert outcomes
  generalize look s.store = result
  generalize look' t.store = result'
  rintro (related | alike)
  · exact next beside _ _ related beside
  · exact .error beside (.refl s t) alike

theorem settle_bind {S : α → α' → Prop} {result : Except Fault α} {result' : Except Fault α'}
    (outcomes : Outcomes bridge.swap.Faults S result result')
    (next : ∀ a a', S a a' → bridge.Parallel s t Q (k a) (k' a')) :
    bridge.Parallel s t Q (BuildM.settle result >>= k) (BuildM.settle result' >>= k') :=
  query_bind (fun _ => outcomes) fun _ => next

theorem settle {result : Except Fault α} {result' : Except Fault α'}
    (outcomes : Outcomes bridge.swap.Faults (R s t) result result') :
    bridge.Parallel s t R (settle result) (settle result') :=
  query fun _ => outcomes

theorem observe {view : Store → α} {view' : Store → α'}
    (related : bridge.Beside s t → R s t (view s.store) (view' t.store)) :
    bridge.Parallel s t R (observe view) (observe view') :=
  query fun beside => .ok (related beside)

theorem observe_bind {view : Store → α} {view' : Store → α'}
    (next : bridge.Beside s t → bridge.Parallel s t Q (k (view s.store)) (k' (view' t.store))) :
    bridge.Parallel s t Q (BuildM.observe view >>= k) (BuildM.observe view' >>= k') := by
  intro beside
  rw [BuildM.observe_bind, BuildM.observe_bind]
  exact next beside beside

/-- Operations on stores that are side by side leave what is carried alone. -/
theorem after_onward {store store' : Store} (beside : bridge.Beside s t)
    (onward : bridge.toLinks.Onward bridge.swap s.store t.store store store') :
    bridge.Beside { s with store } { t with store := store' } ∧
      Later s t { s with store } { t with store := store' } := by
  have later : Later s t { s with store } { t with store := store' } :=
    ⟨onward.left.grows, onward.right.grows⟩
  refine ⟨⟨onward.beside, ?_, bridge.extras_mono beside.extras later.left later.right⟩, later⟩
  rw [onward.left.classes, onward.right.classes]
  exact beside.classes

theorem perform {operation operation' : Store → Except Fault Store}
    (outcomes : bridge.Beside s t →
      Outcomes bridge.swap.Faults (bridge.toLinks.Onward bridge.swap s.store t.store)
        (operation s.store) (operation' t.store)) :
    bridge.Parallel s t Same (perform operation) (perform operation') := by
  intro beside
  have outcomes := outcomes beside
  rw [perform_apply, perform_apply]
  revert outcomes
  generalize operation s.store = result
  generalize operation' t.store = result'
  rintro (onward | alike)
  · have after := after_onward beside onward
    exact .ok after.1 after.2 rfl
  · exact .error beside (.refl s t) alike

theorem write {b b' : BuilderRef} (paired : bridge.Paired s.store t.store b b') {name : String}
    {value : Value} (assigned : bridge.swap.Assigned name value) :
    bridge.Parallel s t Same (BuildM.perform fun store => store.write b name value)
      (BuildM.perform fun store => store.write b' name value) :=
  perform fun beside => beside.stores.write paired assigned

theorem transact {operation : Store → Except Fault (α × Store)}
    {operation' : Store → Except Fault (α' × Store)}
    (outcomes : bridge.Beside s t → Outcomes bridge.swap.Faults
      (fun made made' => bridge.toLinks.Onward bridge.swap s.store t.store made.2 made'.2 ∧
        R { s with store := made.2 } { t with store := made'.2 } made.1 made'.1)
      (operation s.store) (operation' t.store)) :
    bridge.Parallel s t R (transact operation) (transact operation') := by
  intro beside
  have outcomes := outcomes beside
  rw [transact_apply, transact_apply]
  revert outcomes
  generalize operation s.store = result
  generalize operation' t.store = result'
  rintro (⟨onward, related⟩ | alike)
  · have after := after_onward beside onward
    exact .ok after.1 after.2 related
  · exact .error beside (.refl s t) alike

end Parallel

/-! ### Programs that leave alone what is carried -/

/-- The bridge on which what is carried may not change, and the classes only so. -/
def holding (bridge : Bridge ρ) (classes : ClassTable → ClassTable → Prop) (s t : Session ρ) :
    Bridge ρ where
  toLinks := bridge.toLinks
  swap := bridge.swap
  classes := classes
  extras := fun _ _ extra extra' => extra = s.extra ∧ extra' = t.extra
  extras_mono := fun same _ _ => same

/-- The bridge on which neither the classes nor what is carried may change. -/
def pinned (bridge : Bridge ρ) (s t : Session ρ) : Bridge ρ :=
  bridge.holding (fun left right => left = s.store.classes ∧ right = t.store.classes) s t

theorem Beside.pinned (beside : bridge.Beside s t) : (bridge.pinned s t).Beside s t :=
  ⟨beside.stores, ⟨rfl, rfl⟩, ⟨rfl, rfl⟩⟩

/-- What is carried after a program is what was carried before it. -/
structure Unmoved (s t u v : Session ρ) : Prop where
  left : u.extra = s.extra
  right : v.extra = t.extra
  classes : u.store.classes = s.store.classes
  classes' : v.store.classes = t.store.classes

theorem Beside.unpin (beside : bridge.Beside s t) (after : (bridge.pinned s t).Beside u v)
    (later : Later s t u v) : bridge.Beside u v ∧ Unmoved s t u v := by
  obtain ⟨classes, classes'⟩ := after.classes
  obtain ⟨extra, extra'⟩ := after.extras
  refine ⟨⟨after.stores, ?_, ?_⟩, extra, extra', classes, classes'⟩
  · rw [classes, classes']
    exact beside.classes
  · rw [extra, extra']
    exact bridge.extras_mono beside.extras later.left later.right

/-- What runs in parallel on any bridge leaves alone what is carried. -/
theorem Parallel.unpin (parallel : (bridge.pinned s t).Parallel s t R m n) :
    bridge.Parallel s t (fun u v a a' => R u v a a' ∧ Unmoved s t u v) m n := by
  intro beside
  have ends := parallel beside.pinned
  revert ends
  generalize m s = result
  generalize n t = result'
  rintro (⟨after, later, related⟩ | ⟨after, later, alike⟩)
  · have unpinned := beside.unpin after later
    exact .ok unpinned.1 later ⟨related, unpinned.2⟩
  · exact .error (beside.unpin after later).1 later alike

end Bridge

end ScopedHtml
