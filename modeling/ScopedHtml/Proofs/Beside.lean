import ScopedHtml.Proofs.Change
import ScopedHtml.Proofs.Tables

/-!
# ScopedHtml.Proofs.Beside

**Two stores side by side.** Two runs start in two stores. `Links` says which of the builders
there stand for each other; the builders that the runs make stand for each other in the order in
which they are made (`Links.Paired`). Some builders may only be passed on (`Links.seen`).

`Links.Beside` says that two stores have got so far: builders that stand for each other are
alike, all other builders are what they were, and what has been logged is alike. Every operation
on two such stores turns out alike, and if it succeeds the stores are side by side again
(`Links.Onward`).
-/

namespace ScopedHtml

/-! ### What operations on builders leave alone -/

namespace Store

variable {store before after later : Store} {b c : BuilderRef} {name : String}

/-- A store has the classes that it had, and its builders and perhaps more. -/
structure Moves (before after : Store) : Prop where
  classes : after.classes = before.classes
  grown : before.Grown after

namespace Moves

theorem refl (store : Store) : store.Moves store := ⟨rfl, .refl store⟩

theorem trans (first : before.Moves after) (second : after.Moves later) : before.Moves later :=
  ⟨second.classes.trans first.classes, first.grown.trans second.grown⟩

theorem length (moves : before.Moves after) : before.builders.length ≤ after.builders.length :=
  moves.grown.length

end Moves

/-- Assigning an attribute replaces all of them by these with one more. -/
theorem assign_eq_replace (store : Store) (b : BuilderRef) (name : String) (value : Value) :
    store.assign b name value = store.replace b ((store.get b).held.bind name value) := by
  unfold assign replace get
  congr 1
  refine List.ext_getElem (by simp) fun index there _ => ?_
  rw [List.length_modify] at there
  rw [List.getElem_modify, List.getElem_modify]
  split
  · next same =>
      subst same
      simp [List.getD_eq_getElem?_getD, there]
  · rfl

theorem get_replace_self (inside : b.index < store.builders.length) (held : Bindings String Value) :
    (store.replace b held).get b = { store.get b with held } := by
  simp [replace, get, List.getD_eq_getElem?_getD, inside]

theorem get_replace_of_ne (store : Store) (other : c ≠ b) (held : Bindings String Value) :
    (store.replace b held).get c = store.get c := by
  have index : b.index ≠ c.index := fun eq => other (by cases b; cases c; simp_all)
  simp [replace, get, List.getD_eq_getElem?_getD, index]

theorem property?_of_uncomputed
    (uncomputed : ∀ owner property, store.member? b name ≠ some (owner, .property property)) :
    store.property? b name = none := by
  unfold property?
  split
  · next owner property computed => exact absurd computed (uncomputed owner property)
  · rfl

theorem moves_replace (store : Store) (b : BuilderRef) (held : Bindings String Value) :
    store.Moves (store.replace b held) where
  classes := rfl
  grown := by
    refine ⟨by simp [replace], fun c inside => ?_⟩
    by_cases same : c = b
    · subst same
      rw [get_replace_self inside]
    · rw [get_replace_of_ne store same]

theorem moves_add (store : Store) (builder : Builder) : store.Moves (store.add builder).2 :=
  ⟨rfl, .add store builder⟩

theorem moves_logged (store : Store) (event : Log.Event) : store.Moves (store.logged event) :=
  ⟨rfl, Nat.le_refl _, fun _ _ => rfl⟩

end Store

/-! ### Builders that stand for each other -/

/-- Builders. -/
structure Swap.Builders (swap : Swap) (left right : ClassTable) (builder builder' : Builder) :
    Prop where
  twins : swap.Twins left right builder.classId builder'.classId
  held : builder'.held = builder.held
  foreign : builder'.foreign = builder.foreign
  clean : ∀ value, builder.held.find? "_required" = some value → swap.Clean value

/-- A value that may be assigned under a name. If it counts as required names, none of them is
hidden. -/
structure Swap.Assigned (swap : Swap) (name : String) (value : Value) : Prop where
  required : name = "_required" → swap.Clean value
  all : name = attributesName → ∀ members, value = .record members →
    ∀ required, Bindings.findIn "_required" members = some required → swap.Clean required

theorem Swap.Assigned.of_other {swap : Swap} {name : String} (other : name ≠ "_required")
    (single : name ≠ attributesName) (value : Value) : swap.Assigned name value :=
  ⟨fun same => absurd same other, fun same => absurd same single⟩

/-- What builders have that stand for each other. -/
structure Swap.Reads (swap : Swap) (s t : Store) (b b' : BuilderRef) (name : String)
    (found found' : Found) : Prop where
  alike : swap.Founds found found'
  offers : s.Offers b found
  offers' : t.Offers b' found'
  named : ∀ owner other member, found = .callable owner other member →
    other = name ∨ name = "is_finalized" ∧ other = "_finalized"

theorem Swap.Reads.value {swap : Swap} {s t : Store} {b b' : BuilderRef} {name : String}
    (held : Value) : swap.Reads s t b b' name (.value held) (.value held) :=
  ⟨.value held, s.offers_value held, t.offers_value held, nofun⟩

/-- Two stores in which runs start, and the builders there that stand for each other. -/
structure Links where
  left : Store
  right : Store
  /-- The builders that the runs may work on. -/
  linked : BuilderRef → BuilderRef → Prop
  /-- The builders that the runs may only pass on. -/
  seen : BuilderRef → BuilderRef → Prop
  inside : ∀ {b b'}, linked b b' ∨ seen b b' →
    b.index < left.builders.length ∧ b'.index < right.builders.length
  unique : ∀ {b b' c c'}, linked b b' → linked c c' → (c = b ↔ c' = b')
  apart : ∀ {b b' c c'}, linked b b' → seen c c' → c ≠ b ∧ c' ≠ b'

namespace Links

variable (links : Links) {swap : Swap} {s t u v : Store} {b b' c c' : BuilderRef} {name : String}

/-- Builders that the runs may work on: those that there were, and those that both have made
after as many others. -/
inductive Paired (s t : Store) (b b' : BuilderRef) : Prop
  | linked (linked : links.linked b b')
  | fresh (more : Nat) (left : b.index = links.left.builders.length + more)
      (right : b'.index = links.right.builders.length + more)
      (inside : b.index < s.builders.length) (inside' : b'.index < t.builders.length)

/-- Builders that the runs may pass on. -/
inductive Known (s t : Store) (b b' : BuilderRef) : Prop
  | paired (paired : links.Paired s t b b')
  | seen (seen : links.seen b b')

/-- Two runs have come to these stores. -/
structure Beside (swap : Swap) (s t : Store) : Prop where
  tables : swap.Tables s.classes t.classes
  grown : links.left.builders.length ≤ s.builders.length
  /-- Both have made as many builders. -/
  count : s.builders.length + links.right.builders.length =
    t.builders.length + links.left.builders.length
  alike : ∀ {b b'}, links.Known s t b b' →
    swap.Builders s.classes t.classes (s.get b) (t.get b')
  silent : ∀ {b b'}, links.seen b b' → s.hook? b .call = none
  others : ∀ b : BuilderRef, b.index < links.left.builders.length →
    (∀ b', ¬ links.linked b b') → s.get b = links.left.get b
  others' : ∀ b' : BuilderRef, b'.index < links.right.builders.length →
    (∀ b, ¬ links.linked b b') → t.get b' = links.right.get b'
  log : ∃ events events', s.log = links.left.log ++ events ∧ t.log = links.right.log ++ events' ∧
    List.Forall₂ swap.Events events events'

/-- Two runs go on from two stores to two others by operations on builders. -/
structure Onward (swap : Swap) (s t u v : Store) : Prop where
  beside : links.Beside swap u v
  left : s.Moves u
  right : t.Moves v

/-- Builders have been made that stand for each other, and they are of one class in that case. -/
structure Makes (swap : Swap) (kin : Prop) (s t : Store) (made made' : BuilderRef × Store) :
    Prop where
  onward : links.Onward swap s t made.2 made'.2
  paired : links.Paired made.2 made'.2 made.1 made'.1
  new : s.builders.length ≤ made.1.index
  new' : t.builders.length ≤ made'.1.index
  kin : kin → (made'.2.get made'.1).classId = (made.2.get made.1).classId

variable {links}

theorem Paired.mono (paired : links.Paired s t b b')
    (length : s.builders.length ≤ u.builders.length)
    (length' : t.builders.length ≤ v.builders.length) : links.Paired u v b b' := by
  cases paired with
  | linked linked => exact .linked linked
  | fresh more left right inside inside' =>
      exact .fresh more left right (Nat.lt_of_lt_of_le inside length)
        (Nat.lt_of_lt_of_le inside' length')

theorem Known.mono (known : links.Known s t b b')
    (length : s.builders.length ≤ u.builders.length)
    (length' : t.builders.length ≤ v.builders.length) : links.Known u v b b' := by
  cases known with
  | paired paired => exact .paired (paired.mono length length')
  | seen seen => exact .seen seen

/-- Builders that the runs may only pass on are not among those that they may work on. -/
theorem Paired.ne_seen (paired : links.Paired s t b b') (seen : links.seen c c') :
    c ≠ b ∧ c' ≠ b' := by
  cases paired with
  | linked linked => exact links.apart linked seen
  | fresh more left right _ _ =>
      have := links.inside (.inr seen)
      constructor <;> rintro rfl <;> omega

/-- A builder of the start that no other stands for is not among those that the runs may work on. -/
theorem Paired.ne_alone (paired : links.Paired s t b b')
    (old : c.index < links.left.builders.length) (alone : ∀ c', ¬ links.linked c c') : c ≠ b := by
  rintro rfl
  cases paired with
  | linked linked => exact alone _ linked
  | fresh more left _ _ _ => omega

theorem Paired.ne_alone' (paired : links.Paired s t b b')
    (old : c'.index < links.right.builders.length) (alone : ∀ c, ¬ links.linked c c') : c' ≠ b' := by
  rintro rfl
  cases paired with
  | linked linked => exact alone _ linked
  | fresh more _ right _ _ => omega

theorem Paired.unique_of_fresh {more : Nat} (left : b.index = links.left.builders.length + more)
    (right : b'.index = links.right.builders.length + more) (paired : links.Paired s t c c') :
    c = b ↔ c' = b' := by
  cases b
  cases b'
  cases paired with
  | linked linked =>
      have := links.inside (.inl linked)
      constructor <;> rintro rfl <;> dsimp only at * <;> omega
  | fresh others left' right' _ _ =>
      cases c
      cases c'
      simp only [BuilderRef.mk.injEq] at *
      omega

/-- What stands for a builder is one builder only. -/
theorem Paired.unique (paired : links.Paired s t b b') (known : links.Known s t c c') :
    c = b ↔ c' = b' := by
  cases known with
  | seen seen => exact iff_of_false (paired.ne_seen seen).1 (paired.ne_seen seen).2
  | paired other =>
      cases paired with
      | fresh more left right _ _ => exact other.unique_of_fresh left right
      | linked linked =>
          cases other with
          | linked other => exact links.unique linked other
          | fresh more left right _ _ =>
              exact eq_comm.trans (((Paired.linked linked : links.Paired s t b b').unique_of_fresh
                left right).trans eq_comm)

namespace Onward

theorem refl (beside : links.Beside swap s t) : links.Onward swap s t s t :=
  ⟨beside, .refl s, .refl t⟩

theorem trans {x y : Store} (first : links.Onward swap s t u v)
    (second : links.Onward swap u v x y) :
    links.Onward swap s t x y :=
  ⟨second.beside, first.left.trans second.left, first.right.trans second.right⟩

end Onward

namespace Beside

theorem grown' (beside : links.Beside swap s t) :
    links.right.builders.length ≤ t.builders.length := by
  have := beside.grown
  have := beside.count
  omega

theorem inside (beside : links.Beside swap s t) (paired : links.Paired s t b b') :
    b.index < s.builders.length ∧ b'.index < t.builders.length := by
  cases paired with
  | linked linked =>
      have inside := links.inside (.inl linked)
      exact ⟨Nat.lt_of_lt_of_le inside.1 beside.grown, Nat.lt_of_lt_of_le inside.2 beside.grown'⟩
  | fresh _ _ _ inside inside' => exact ⟨inside, inside'⟩

theorem inside_of_known (beside : links.Beside swap s t) (known : links.Known s t b b') :
    b.index < s.builders.length ∧ b'.index < t.builders.length := by
  cases known with
  | paired paired => exact beside.inside paired
  | seen seen =>
      have inside := links.inside (.inr seen)
      exact ⟨Nat.lt_of_lt_of_le inside.1 beside.grown, Nat.lt_of_lt_of_le inside.2 beside.grown'⟩

/-! ### What builders have -/

theorem stands (beside : links.Beside swap s t) (known : links.Known s t b b') :
    swap.Stands (s.get b).classId (t.get b').classId := (beside.alike known).twins.stands

theorem foreign? (beside : links.Beside swap s t) (known : links.Known s t b b') :
    t.foreign? b' = s.foreign? b := (beside.alike known).foreign

theorem held? (beside : links.Beside swap s t) (known : links.Known s t b b') (name : String) :
    t.held? b' name = s.held? b name := by
  unfold Store.held?
  rw [(beside.alike known).held]

theorem member? (beside : links.Beside swap s t) (known : links.Known s t b b')
    (shown : swap.Shown (s.get b).classId (t.get b').classId name) :
    Option.Rel swap.Origins (s.member? b name) (t.member? b' name) :=
  beside.tables.resolve (beside.stands known) shown

theorem hook? (beside : links.Beside swap s t) (known : links.Known s t b b') (hook : Hook) :
    Option.Rel swap.Origins (s.hook? b hook) (t.hook? b' hook) :=
  beside.tables.hook? (beside.stands known) hook

theorem titles (beside : links.Beside swap s t) (known : links.Known s t b b') :
    swap.Titles (s.className b) (t.className b') := by
  unfold Store.className
  rw [beside.foreign? known]
  cases s.foreign? b with
  | some value => exact .inl rfl
  | none => exact beside.tables.titles (beside.stands known)

/-- Whether a builder answers with something else when it is asked for its class. -/
theorem isMasked (beside : links.Beside swap s t) (known : links.Known s t b b') :
    t.isMasked b' = s.isMasked b := by
  have there : ∀ {x y : Option (ClassId × Member)}, Option.Rel swap.Origins x y →
      y.isSome = x.isSome := by
    rintro _ _ (_ | _) <;> rfl
  unfold Store.isMasked
  rw [there (beside.hook? known .read),
    there (beside.member? known (swap.shown _ _ (by decide : kindName ∈ libraryNames)))]

/-! ### Reading -/

/-- What is computed stands where the library has it. -/
theorem placed_property (beside : links.Beside swap s t) (known : links.Known s t b b')
    {owner : ClassId} {property : Property}
    (computed : s.member? b name = some (owner, .property property) ∨
      t.member? b' name = some (owner, .property property)) :
    Member.inPlace name (.property property) = true := by
  have twins := (beside.alike known).twins
  rcases computed with computed | computed
  · exact beside.tables.tidy.placed twins.usable.inside (ClassTable.has_of_resolve computed) id
  · exact beside.tables.tidy'.placed twins.usable'.inside (ClassTable.has_of_resolve computed) id

theorem property_name (beside : links.Beside swap s t) (known : links.Known s t b b')
    {owner : ClassId} {property : Property}
    (computed : s.member? b name = some (owner, .property property) ∨
      t.member? b' name = some (owner, .property property)) :
    name = "is_finalized" ∨ name = "children" := by
  have placed := beside.placed_property known computed
  cases property with
  | isFinalized => exact .inl (of_decide_eq_true placed)
  | children => exact .inr (of_decide_eq_true placed)

/-- What is computed is so for both. -/
theorem property_shown (beside : links.Beside swap s t) (known : links.Known s t b b')
    {owner : ClassId} {property : Property}
    (computed : s.member? b name = some (owner, .property property) ∨
      t.member? b' name = some (owner, .property property)) :
    swap.Shown (s.get b).classId (t.get b').classId name := by
  have placed := beside.placed_property known computed
  cases property with
  | isFinalized =>
      obtain rfl : name = "is_finalized" := of_decide_eq_true placed
      exact swap.shown _ _ (by decide)
  | children =>
      obtain rfl : name = "children" := of_decide_eq_true placed
      have among : "children" ∈ Member.looks (.property .children) := List.mem_cons_self
      rcases computed with computed | computed
      · exact beside.tables.looks (beside.stands known) (ClassTable.has_of_resolve computed) among
      · exact beside.tables.looks' (beside.stands known)
          (beside.alike known).twins.usable'.inside (ClassTable.has_of_resolve computed) not_false
          among

theorem property?_kindName (beside : links.Beside swap s t) (known : links.Known s t b b') :
    s.property? b kindName = none ∧ t.property? b' kindName = none := by
  have other : ¬ (kindName = "is_finalized" ∨ kindName = "children") := by decide
  constructor
  · exact Store.property?_of_uncomputed fun owner property computed =>
      other (beside.property_name known (.inl computed))
  · exact Store.property?_of_uncomputed fun owner property computed =>
      other (beside.property_name known (.inr computed))

/-- What is found for a member. -/
theorem found (beside : links.Beside swap s t) (name : String) {origin origin' : ClassId × Member}
    (origins : swap.Origins origin origin') :
    swap.Founds (s.found name origin) (t.found name origin') := by
  obtain @⟨owner, member, member', alike⟩ := origins
  unfold Store.found
  dsimp only
  rw [(beside.tables.classes owner).name]
  cases alike with
  | opener attachment targets => exact .callable _ _ (.opener attachment targets)
  | same =>
      cases member with
      | data held => exact .value held
      | _ => exact .callable _ _ (.same _)

/-- What everything has. -/
theorem inherent? (beside : links.Beside swap s t) (known : links.Known s t b b') (name : String) :
    t.inherent? b' name = s.inherent? b name := by
  unfold Store.inherent?
  rw [(beside.alike known).held]

theorem kept? (beside : links.Beside swap s t) (known : links.Known s t b b')
    (shown : swap.Shown (s.get b).classId (t.get b').classId name) :
    Option.Rel swap.Founds (s.kept? b name) (t.kept? b' name) := by
  have member := beside.member? known shown
  unfold Store.kept?
  rw [beside.held? known, beside.inherent? known]
  cases s.held? b name with
  | some value => exact .some (.value value)
  | none =>
      revert member
      generalize s.member? b name = origin
      generalize t.member? b' name = origin'
      rintro (origins | _)
      · exact .some (beside.found name origins)
      · dsimp only
        cases s.inherent? b name with
        | none => exact .none
        | some found => exact .some (.refl found)

/-- What is kept under a name. -/
theorem kept (beside : links.Beside swap s t) (known : links.Known s t b b')
    (shown : swap.Shown (s.get b).classId (t.get b').classId name) :
    Outcomes swap.Faults (swap.Reads s t b b' name) (s.kept b name) (t.kept b' name) := by
  have alike := beside.kept? known shown
  unfold Store.kept
  cases kept : s.kept? b name with
  | none =>
      rw [kept] at alike
      revert alike
      generalize t.kept? b' name = found'
      rintro ⟨⟩
      exact .error (.noAttribute name (beside.titles known))
  | some found =>
      cases kept' : t.kept? b' name with
      | none =>
          rw [kept, kept'] at alike
          cases alike
      | some found' =>
          rw [kept, kept'] at alike
          cases alike with
          | some alike =>
              refine .ok ⟨alike, Store.offers_of_kept? kept, Store.offers_of_kept? kept', ?_⟩
              rintro owner other member rfl
              exact .inl (Store.name_of_kept? kept)

/-- What is kept as the required names mentions none that are hidden. -/
theorem clean_of_kept (beside : links.Beside swap s t) (known : links.Known s t b b')
    {value : Value} (kept : s.kept b "_required" = .ok (.value value)) : swap.Clean value := by
  unfold Store.kept Store.kept? at kept
  cases held : s.held? b "_required" with
  | some own =>
      rw [held] at kept
      cases kept
      exact (beside.alike known).clean value held
  | none =>
      rw [held] at kept
      cases has : s.member? b "_required" with
      | some origin =>
          obtain ⟨owner, member⟩ := origin
          rw [has] at kept
          cases member with
          | data own =>
              cases kept
              exact beside.tables.clean (ClassTable.resolveAlong_eq_some has).2
          | _ => cases kept
      | none =>
          rw [has] at kept
          have nothing : s.inherent? b "_required" = none := by
            unfold Store.inherent?
            rw [if_neg (by decide), if_neg (by decide)]
          simp only [nothing] at kept
          cases kept

/-! ### Operations -/

/-- Builders that stand for each other get the same attributes. -/
theorem replace (beside : links.Beside swap s t) (paired : links.Paired s t b b')
    {held : Bindings String Value}
    (clean : ∀ value, held.find? "_required" = some value → swap.Clean value) :
    links.Onward swap s t (s.replace b held) (t.replace b' held) where
  left := s.moves_replace b held
  right := t.moves_replace b' held
  beside := by
    have inside := beside.inside paired
    have length : (s.replace b held).builders.length = s.builders.length := by
      simp [Store.replace]
    have length' : (t.replace b' held).builders.length = t.builders.length := by
      simp [Store.replace]
    constructor
    case tables => exact beside.tables
    case grown => exact length ▸ beside.grown
    case count => exact length ▸ length' ▸ beside.count
    case alike =>
      intro c c' known
      have known := known.mono (Nat.le_of_eq length) (Nat.le_of_eq length')
      have alike := beside.alike known
      by_cases same : c = b
      · obtain rfl := (paired.unique known).1 same
        subst same
        rw [Store.get_replace_self inside.1, Store.get_replace_self inside.2]
        exact ⟨alike.twins, rfl, alike.foreign, clean⟩
      · rw [Store.get_replace_of_ne s same,
          Store.get_replace_of_ne t fun same' => same ((paired.unique known).2 same')]
        exact alike
    case silent =>
      intro c c' seen
      unfold Store.hook? Store.member?
      rw [Store.get_replace_of_ne s (paired.ne_seen seen).1]
      exact beside.silent seen
    case others =>
      intro c old alone
      rw [Store.get_replace_of_ne s (paired.ne_alone old alone)]
      exact beside.others c old alone
    case others' =>
      intro c old alone
      rw [Store.get_replace_of_ne t (paired.ne_alone' old alone)]
      exact beside.others' c old alone
    case log => exact beside.log

theorem assign (beside : links.Beside swap s t) (paired : links.Paired s t b b') {value : Value}
    (assigned : name = "_required" → swap.Clean value) :
    links.Onward swap s t (s.assign b name value) (t.assign b' name value) := by
  have alike := beside.alike (.paired paired)
  rw [Store.assign_eq_replace, Store.assign_eq_replace, alike.held]
  refine beside.replace paired fun required found => ?_
  rcases Bindings.find?_bind_eq_some found with ⟨same, rfl⟩ | old
  · exact assigned same.symm
  · exact alike.clean required old

/-- New builders stand for each other. -/
theorem add (beside : links.Beside swap s t) {builder builder' : Builder}
    (alike : swap.Builders s.classes t.classes builder builder') :
    links.Onward swap s t (s.add builder).2 (t.add builder').2 where
  left := s.moves_add builder
  right := t.moves_add builder'
  beside := by
    have length := s.length_add builder
    have length' := t.length_add builder'
    have count := beside.count
    have grown := beside.grown
    have old : ∀ {c c'}, links.Known s t c c' →
        swap.Builders s.classes t.classes ((s.add builder).2.get c) ((t.add builder').2.get c') := by
      intro c c' known
      have inside := beside.inside_of_known known
      rw [Store.get_add_of_lt inside.1, Store.get_add_of_lt inside.2]
      exact beside.alike known
    constructor
    case tables => exact beside.tables
    case grown => omega
    case count => omega
    case alike =>
      intro c c' known
      cases known with
      | seen seen => exact old (.seen seen)
      | paired paired =>
          cases paired with
          | linked linked => exact old (.paired (.linked linked))
          | fresh more left right inside inside' =>
              rcases Store.add_cases builder inside with before | rfl
              · exact old (.paired (.fresh more left right before (by omega)))
              rcases Store.add_cases builder' inside' with before' | rfl
              · have last : (s.add builder).1.index = s.builders.length := rfl
                omega
              -- Both are the ones that have just been made.
              rw [Store.get_add_new, Store.get_add_new]
              exact alike
    case silent =>
      intro c c' seen
      unfold Store.hook? Store.member?
      rw [Store.get_add_of_lt (beside.inside_of_known (.seen seen)).1]
      exact beside.silent seen
    case others =>
      intro c inside alone
      rw [Store.get_add_of_lt (Nat.lt_of_lt_of_le inside grown)]
      exact beside.others c inside alone
    case others' =>
      intro c inside alone
      rw [Store.get_add_of_lt (Nat.lt_of_lt_of_le inside beside.grown')]
      exact beside.others' c inside alone
    case log => exact beside.log

theorem paired_add (beside : links.Beside swap s t) (builder builder' : Builder) :
    links.Paired (s.add builder).2 (t.add builder').2 (s.add builder).1 (t.add builder').1 := by
  have count := beside.count
  have grown := beside.grown
  refine .fresh (s.builders.length - links.left.builders.length) ?_ ?_ ?_ ?_ <;>
    simp [Store.add] <;> omega

theorem logged (beside : links.Beside swap s t) {event event' : Log.Event}
    (alike : swap.Events event event') :
    links.Onward swap s t (s.logged event) (t.logged event') where
  left := s.moves_logged event
  right := t.moves_logged event'
  beside := by
    obtain ⟨events, events', log, log', all⟩ := beside.log
    refine { beside with
      alike := fun known => beside.alike (known.mono (Nat.le_refl _) (Nat.le_refl _))
      log := ⟨events ++ [event], events' ++ [event'], ?_, ?_, ?_⟩ }
    · exact (congrArg (· ++ [event]) log).trans (List.append_assoc _ _ _)
    · exact (congrArg (· ++ [event']) log').trans (List.append_assoc _ _ _)
    · exact List.rel_append all (.cons alike .nil)

/-- Assigning an attribute in the ordinary way. -/
theorem set (beside : links.Beside swap s t) (paired : links.Paired s t b b') {value : Value}
    (assigned : swap.Assigned name value) :
    Outcomes swap.Faults (links.Onward swap s t) (s.set b name value) (t.set b' name value) := by
  have known := Known.paired paired
  have assign := beside.assign paired assigned.required
  cases builder : s.foreign? b with
  | some held =>
      unfold Store.set
      rw [beside.foreign? known, builder]
      exact .error (.same _)
  | none =>
      by_cases shown : swap.Shown (s.get b).classId (t.get b').classId name
      case neg =>
        have single : name ≠ kindName ∧ name ≠ attributesName := by
          constructor <;> rintro rfl <;> exact shown (swap.shown _ _ (by decide))
        have uncomputed : s.property? b name = none := Store.property?_of_uncomputed
          fun _ _ computed => shown (beside.property_shown known (.inl computed))
        have uncomputed' : t.property? b' name = none := Store.property?_of_uncomputed
          fun _ _ computed => shown (beside.property_shown known (.inr computed))
        rw [Store.set_eq_assign (beside.foreign? known ▸ builder) uncomputed' single.1 single.2 value,
          Store.set_eq_assign builder uncomputed single.1 single.2 value]
        exact .ok assign
      case pos =>
        have member := beside.member? known shown
        unfold Store.set
        rw [beside.foreign? known, builder]
        revert member
        generalize s.member? b name = found
        generalize t.member? b' name = found'
        rintro (@⟨_, _, @⟨owner, member, member', alike⟩⟩ | _)
        · cases alike with
          | opener attachment targets => exact .ok assign
          | same =>
              cases member with
              | property property => exact .error (.noSetter name (beside.titles known))
              | _ => exact .ok assign
        · dsimp only
          split
          · exact .error (.same _)
          · split
            · next all =>
                cases value with
                | record members =>
                    exact .ok (beside.replace paired (assigned.all all members rfl))
                | _ => exact .error (.same _)
            · exact .ok assign

/-- Assigning an attribute. -/
theorem write (beside : links.Beside swap s t) (paired : links.Paired s t b b') {value : Value}
    (assigned : swap.Assigned name value) :
    Outcomes swap.Faults (links.Onward swap s t) (s.write b name value)
      (t.write b' name value) := by
  have hook := beside.hook? (.paired paired) .write
  have set := beside.set paired assigned
  unfold Store.write
  revert hook
  generalize s.hook? b .write = found
  generalize t.hook? b' .write = found'
  rintro (@⟨_, _, @⟨owner, member, member', alike⟩⟩ | _)
  · cases alike with
    | opener attachment targets => exact .error (.same _)
    | same =>
        cases member with
        | plain => exact .ok (.refl beside)
        | _ => exact .error (.same _)
  · exact set

/-- Assigning attributes in order. -/
theorem writeAll : ∀ {entries : List (String × Value)} {s t : Store}, links.Beside swap s t →
    links.Paired s t b b' → (∀ entry ∈ entries, swap.Assigned entry.1 entry.2) →
      Outcomes swap.Faults (links.Onward swap s t) (s.writeAll b entries) (t.writeAll b' entries)
  | [], s, t, beside, _, _ => .ok (.refl beside)
  | (name, value) :: rest, s, t, beside, paired, assigned => by
      have first := beside.write paired (assigned (name, value) List.mem_cons_self)
      unfold Store.writeAll
      revert first
      generalize s.write b name value = result
      generalize t.write b' name value = result'
      rintro (@⟨u, v, onward⟩ | alike)
      · have others := writeAll onward.beside
          (paired.mono onward.left.length onward.right.length)
          fun entry there => assigned entry (List.mem_cons_of_mem _ there)
        exact others.mono fun _ _ more => onward.trans more
      · exact .error alike

/-- Puts a value behind the children that were found. -/
theorem push (beside : links.Beside swap s t) (paired : links.Paired s t b b')
    {children children' : Found} (alike : swap.Founds children children') (value : Value) :
    Outcomes swap.Faults (links.Onward swap s t) (s.push b children value)
      (t.push b' children' value) := by
  cases alike with
  | callable owner name members => exact .error (.same _)
  | value held =>
      cases held with
      | list items => exact .ok (beside.assign paired (by simp))
      | _ => exact .error (.same _)

theorem finalize (beside : links.Beside swap s t) (paired : links.Paired s t b b') :
    Outcomes swap.Faults (links.Onward swap s t) (s.finalize b) (t.finalize b') :=
  beside.write paired (.of_other (by decide) (by decide) _)

theorem record (beside : links.Beside swap s t) (paired : links.Paired s t b b') (value : Value) :
    Outcomes swap.Faults (links.Onward swap s t) (s.record b value) (t.record b' value) := by
  cases value with
  | node node => exact .ok (beside.logged (.finalized _ (beside.titles (.paired paired))))
  | _ => exact .error (.same _)

theorem lacking (beside : links.Beside swap s t) (known : links.Known s t b b') (absent : Value) :
    swap.Faults (s.lacking b absent) (t.lacking b' absent) := by
  unfold Store.lacking
  cases absent.items? with
  | some items => exact .missingChildren items (beside.titles known)
  | none => exact .same _

/-! ### New builders -/

/-- What starts a builder of a class is its member for that, if it makes elements. -/
theorem initializer (beside : links.Beside swap s t) {id id' : ClassId}
    (stands : swap.Stands id id') :
    Outcomes swap.Faults (fun origin origin' => origin = s.classes.hook? id .start ∧
        origin' = t.classes.hook? id' .start)
      (s.initializer id) (t.initializer id') := by
  have make := beside.tables.resolve stands
    (swap.shown _ _ (by decide : "_make_node" ∈ libraryNames))
  have titles := beside.tables.titles stands
  unfold Store.initializer
  revert make
  generalize s.classes.resolve id "_make_node" = found
  generalize t.classes.resolve id' "_make_node" = found'
  rintro (@⟨_, _, @⟨owner, member, member', alike⟩⟩ | _)
  · cases alike with
    | opener attachment targets => exact .ok ⟨rfl, rfl⟩
    | same =>
        cases member with
        | maker product =>
            cases product with
            | none => exact .error (.abstractBuilder titles)
            | some product => exact .ok ⟨rfl, rfl⟩
        | _ => exact .ok ⟨rfl, rfl⟩
  · exact .ok ⟨rfl, rfl⟩

/-- A new builder that has nothing yet. -/
theorem blank {id id' : ClassId} (twins : swap.Twins s.classes t.classes id id') :
    swap.Builders s.classes t.classes { classId := id, held := .empty }
      { classId := id', held := .empty } :=
  ⟨twins, rfl, rfl, nofun⟩

theorem makes_add (beside : links.Beside swap s t) {builder builder' : Builder} {kin : Prop}
    (alike : swap.Builders s.classes t.classes builder builder')
    (same : kin → builder'.classId = builder.classId) :
    links.Makes swap kin s t (s.add builder) (t.add builder') := by
  refine ⟨beside.add alike, beside.paired_add builder builder', Nat.le_refl _, Nat.le_refl _, ?_⟩
  rw [Store.get_add_new, Store.get_add_new]
  exact same

theorem createBare (beside : links.Beside swap s t) {id id' : ClassId}
    (twins : swap.Twins s.classes t.classes id id') (options : Options) :
    Outcomes swap.Faults (links.Makes swap (id' = id) s t) (s.createBare id options)
      (t.createBare id' options) := by
  unfold Store.createBare
  cases options with
  | nil => exact .ok (beside.makes_add (blank twins) fun same => same)
  | cons option rest => exact .error (.takesNoOptions (beside.tables.titles twins.stands))

theorem createForeign (beside : links.Beside swap s t) (value : Value) (kin : Prop) :
    links.Makes swap kin s t (s.createForeign value) (t.createForeign value) := by
  have library : Standard.root.index < Standard.classes.classes.length := by decide
  exact beside.makes_add ⟨beside.tables.twins_of_library library, rfl, rfl, nofun⟩ fun _ => rfl

/-- Starting a builder as one of the library's classes does. -/
theorem start (beside : links.Beside swap s t) (paired : links.Paired s t b b') {starter : Starter}
    (known : starter.Known) (given : Options) :
    Outcomes swap.Faults (links.Onward swap s t) (s.start b starter given)
      (t.start b' starter given) := by
  refine beside.writeAll paired fun entry there => ?_
  have own := (known.startsWith given entry there).mem_attributeNames
  have other : ∀ name ∈ attributeNames, name ≠ "_required" ∧ name ≠ attributesName := by decide
  exact .of_other (other _ own).1 (other _ own).2 _

/-- The options that a starter takes. -/
theorem bindOptions (beside : links.Beside swap s t) (owner : ClassId) (starter : Starter)
    (options : Options) : Outcomes swap.Faults (fun given given' => given' = given)
      (s.bindOptions owner starter options) (t.bindOptions owner starter options) := by
  unfold Store.bindOptions
  rw [(beside.tables.classes owner).name]
  exact .of_eq .same fun _ => rfl

end Beside

end Links

end ScopedHtml
