import ScopedHtml.Proofs.Moments

/-!
# ScopedHtml.Proofs.Frame

**What no operation can change.** Programs may define classes with members of any names,
assign any attribute and make builders do anything that they can do. Even so a class
keeps its ancestors and its members, but for a few of private names (`looseNames`), and a
builder keeps its class. `Store.Leads before after` says that nothing else has happened
to what there was; every change that an operation makes to a store leads on.

Stores begin `Sound`, and what they lead to is: classes and names refer only to classes
that are there, and the library's classes are what they were.
-/

namespace ScopedHtml

/-! ### Classes that are kept -/

/-- The names of members that a class may get or change after it has been defined: its
register, and what is kept by openers that are called on the class itself. -/
def looseNames : List String := registerName :: Hook.ofClass.map slotAttribute

theorem isPrivate_slotAttribute (name : String) : isPrivate (slotAttribute name) = true := by
  simp [isPrivate, slotAttribute]

theorem slotAttribute_injective {name other : String}
    (same : slotAttribute name = slotAttribute other) : name = other := by
  have chars := congrArg String.toList same
  simp only [slotAttribute, String.toList_append, List.append_cancel_left_eq] at chars
  exact String.toList_injective chars

/-- What there was of classes is still there. -/
structure ClassTable.Kept (before after : ClassTable) : Prop where
  length : before.classes.length ≤ after.classes.length
  name : ∀ id : ClassId, id.index < before.classes.length →
    (after.get id).name = (before.get id).name
  ancestors : ∀ id : ClassId, id.index < before.classes.length →
    (after.get id).ancestors = (before.get id).ancestors
  members : ∀ id : ClassId, id.index < before.classes.length → ∀ name, name ∉ looseNames →
    (after.get id).members.find? name = (before.get id).members.find? name

/-- Classes refer to classes that are there, and so do names. -/
structure ClassTable.Closed (table : ClassTable) : Prop where
  ancestors : ∀ id : ClassId, id.index < table.classes.length →
    ∀ c ∈ (table.get id).ancestors, c.index < table.classes.length
  names : ∀ name id, table.names.find? name = some id → id.index < table.classes.length

namespace ClassTable

variable {table before after later : ClassTable} {id : ClassId} {name : String}

namespace Kept

theorem refl (table : ClassTable) : Kept table table :=
  ⟨Nat.le_refl _, fun _ _ => rfl, fun _ _ => rfl, fun _ _ _ _ => rfl⟩

theorem trans (first : Kept before after) (second : Kept after later) : Kept before later where
  length := Nat.le_trans first.length second.length
  name := fun id inside =>
    (second.name id (Nat.lt_of_lt_of_le inside first.length)).trans (first.name id inside)
  ancestors := fun id inside =>
    (second.ancestors id (Nat.lt_of_lt_of_le inside first.length)).trans
      (first.ancestors id inside)
  members := fun id inside name tight =>
    (second.members id (Nat.lt_of_lt_of_le inside first.length) name tight).trans
      (first.members id inside name tight)

theorem push (table : ClassTable) (new : BuilderClass) : Kept table (table.push new).2 where
  length := by simp
  name := fun id inside => by rw [get_push_of_lt inside]
  ancestors := fun id inside => by rw [get_push_of_lt inside]
  members := fun id inside name _ => by rw [get_push_of_lt inside]

theorem bindName (table : ClassTable) (name : String) (id : ClassId) :
    Kept table (table.bindName name id) :=
  ⟨Nat.le_refl _, fun _ _ => rfl, fun _ _ => rfl, fun _ _ _ _ => rfl⟩

end Kept

@[simp] theorem length_classes_assign (table : ClassTable) (id : ClassId) (name : String)
    (member : Member) :
    (table.assign id name member).classes.length = table.classes.length := by
  simp [ClassTable.assign]

theorem get_assign_self {table : ClassTable} {id : ClassId}
    (inside : id.index < table.classes.length) (name : String) (member : Member) :
    (table.assign id name member).get id =
      { table.get id with members := (table.get id).members.bind name member } := by
  simp [assign, get, List.getD_eq_getElem?_getD, inside]

/-- An assignment changes nothing about classes but one member. -/
theorem get_assign_cases (table : ClassTable) (id other : ClassId) (name : String)
    (member : Member) :
    (table.assign id name member).get other = table.get other ∨
      (table.assign id name member).get other =
        { table.get other with members := (table.get other).members.bind name member } := by
  by_cases same : other = id
  · subst same
    -- Assigning to a class that is not there changes nothing.
    by_cases inside : other.index < table.classes.length
    · exact .inr (get_assign_self inside name member)
    · exact .inl (by simp [assign, get, List.getD_eq_getElem?_getD, inside])
  · exact .inl (get_assign_of_ne table same name member)

theorem Kept.assign (table : ClassTable) (id : ClassId) {name : String} (loose : name ∈ looseNames)
    (member : Member) : Kept table (table.assign id name member) where
  length := by simp
  name := fun other _ => by
    rcases table.get_assign_cases id other name member with eq | eq <;> rw [eq]
  ancestors := fun other _ => by
    rcases table.get_assign_cases id other name member with eq | eq <;> rw [eq]
  members := fun other _ tight outside => by
    have ne : tight ≠ name := fun same => outside (same ▸ loose)
    rcases table.get_assign_cases id other name member with eq | eq <;> rw [eq]
    exact Bindings.find?_bind_of_ne _ ne member

/-- The line of a new class. -/
theorem line_push_new (table : ClassTable) (new : BuilderClass) :
    (table.push new).2.line (table.push new).1 = (table.push new).1 :: new.ancestors := by
  rw [ClassTable.line, get_push_new]

/-- In the line of a class there are only classes that are there. -/
theorem Closed.line (closed : table.Closed) (inside : id.index < table.classes.length) :
    ∀ c ∈ table.line id, c.index < table.classes.length := by
  intro c behind
  rcases List.mem_cons.1 behind with rfl | behind
  · exact inside
  · exact closed.ancestors id inside c behind

/-- The line of a class that is kept stays what it was. -/
theorem Kept.line (kept : before.Kept after) (inside : id.index < before.classes.length) :
    after.line id = before.line id := by
  unfold ClassTable.line
  rw [kept.ancestors id inside]

/-- A class that is kept has the members that it had, but for loose names. -/
theorem Kept.resolve (kept : before.Kept after) (closed : before.Closed)
    (inside : id.index < before.classes.length) (tight : name ∉ looseNames) :
    after.resolve id name = before.resolve id name := by
  unfold ClassTable.resolve
  rw [kept.line inside]
  exact resolveAlong_congr fun c behind =>
    kept.members c (closed.line inside c behind) name tight

namespace Closed

theorem push (closed : table.Closed) {new : BuilderClass}
    (ancestors : ∀ c ∈ new.ancestors, c.index < table.classes.length) :
    (table.push new).2.Closed where
  ancestors := by
    intro id inside c behind
    have more : table.classes.length < (table.push new).2.classes.length := by simp
    rcases push_cases new inside with old | rfl
    · rw [get_push_of_lt old] at behind
      exact Nat.lt_trans (closed.ancestors id old c behind) more
    · rw [get_push_new] at behind
      exact Nat.lt_trans (ancestors c behind) more
  names := fun name id bound =>
    Nat.lt_of_lt_of_le (closed.names name id bound) (by simp)

theorem bindName (closed : table.Closed) (name : String)
    (inside : id.index < table.classes.length) : (table.bindName name id).Closed where
  ancestors := closed.ancestors
  names := by
    intro other c bound
    by_cases same : other = name
    · subst same
      have now : (table.bindName other id).names.find? other = some id :=
        Bindings.find?_bind_self _ _ _
      cases now.symm.trans bound
      exact inside
    · have now : (table.bindName name id).names.find? other = table.names.find? other :=
        Bindings.find?_bind_of_ne _ same _
      exact closed.names other c (now.symm.trans bound)

theorem assign (closed : table.Closed) (id : ClassId) (name : String) (member : Member) :
    (table.assign id name member).Closed where
  ancestors := by
    intro other inside c behind
    rw [length_classes_assign] at inside ⊢
    refine closed.ancestors other inside c ?_
    rcases table.get_assign_cases id other name member with eq | eq
    · rwa [eq] at behind
    · rw [eq] at behind
      exact behind
  names := by
    intro other c bound
    rw [length_classes_assign]
    exact closed.names other c bound

end Closed

end ClassTable

/-! ### Stores that lead to others -/

/-- A store in which the library's classes are what they were, and all else refers to classes
that are there. -/
structure Store.Sound (store : Store) : Prop where
  library : Standard.classes.Kept store.classes
  closed : store.classes.Closed

/-- What there was of classes and builders is still there. -/
structure Store.Leads (before after : Store) : Prop where
  sound : after.Sound
  classes : before.classes.Kept after.classes
  grown : before.Grown after
  foreign : ∀ b : BuilderRef, b.index < before.builders.length →
    after.foreign? b = before.foreign? b

namespace Store

variable {store before after later : Store} {b : BuilderRef}

theorem sound_initial : Store.initial.Sound where
  library := .refl _
  closed := by
    constructor
    · intro id inside c behind
      exact ClassTable.line_of_library id.index inside c (List.mem_cons_of_mem _ behind)
    · intro name id bound
      have all : ∀ entry ∈ Standard.classes.names.entries,
          entry.2.index < Standard.classes.classes.length := by decide
      exact all (name, id) (Bindings.mem_of_findIn bound)

namespace Leads

theorem refl (sound : store.Sound) : store.Leads store :=
  ⟨sound, .refl _, .refl _, fun _ _ => rfl⟩

theorem trans (first : before.Leads after) (second : after.Leads later) : before.Leads later where
  sound := second.sound
  classes := first.classes.trans second.classes
  grown := first.grown.trans second.grown
  foreign := fun b inside =>
    (second.foreign b (Nat.lt_of_lt_of_le inside first.grown.length)).trans
      (first.foreign b inside)

theorem assign (sound : store.Sound) (b : BuilderRef) (name : String) (value : Value) :
    store.Leads (store.assign b name value) :=
  ⟨⟨sound.library, sound.closed⟩, .refl _, .assign store b name value,
    fun c _ => foreign?_assign store b c name value⟩

/-- What a builder holds is no matter of classes. -/
theorem replace (sound : store.Sound) (b : BuilderRef) (held : Bindings String Value) :
    store.Leads (store.replace b held) := by
  have same : ∀ c : BuilderRef, ∃ others,
      (store.replace b held).get c = { store.get c with held := others } := by
    intro c
    by_cases here : c.index = b.index
    · by_cases inside : c.index < store.builders.length
      · exact ⟨held, by simp [Store.replace, get, List.getD_eq_getElem?_getD, ← here, inside]⟩
      · exact ⟨(store.get c).held, by
          simp [Store.replace, get, List.getD_eq_getElem?_getD, ← here, inside]⟩
    · exact ⟨(store.get c).held, by
        simp [Store.replace, get, List.getD_eq_getElem?_getD, Ne.symm here]⟩
  refine ⟨⟨sound.library, sound.closed⟩, .refl _, ⟨by simp [Store.replace], fun c _ => ?_⟩,
    fun c _ => ?_⟩
  · obtain ⟨others, eq⟩ := same c
    rw [eq]
  · obtain ⟨others, eq⟩ := same c
    exact (foreign?_of_get eq).trans rfl

theorem add (sound : store.Sound) (builder : Builder) : store.Leads (store.add builder).2 where
  sound := ⟨sound.library, sound.closed⟩
  classes := .refl _
  grown := .add store builder
  foreign := fun _ inside => foreign?_of_get (get_add_of_lt inside builder)

theorem logged (sound : store.Sound) (event : Log.Event) : store.Leads (store.logged event) :=
  ⟨⟨sound.library, sound.closed⟩, .refl _, ⟨Nat.le_refl _, fun _ _ => rfl⟩, fun _ _ => rfl⟩

/-- Classes are no matter of builders. -/
theorem onClasses (sound : store.Sound) {classes : ClassTable} (kept : store.classes.Kept classes)
    (closed : classes.Closed) : store.Leads { store with classes } where
  sound := ⟨sound.library.trans kept, closed⟩
  classes := kept
  grown := ⟨Nat.le_refl _, fun _ _ => rfl⟩
  foreign := fun _ _ => rfl

end Leads

end Store

/-! ### Ordinary classes -/

namespace ClassTable

variable {before after : ClassTable} {id : ClassId}

theorem closed_standard : Standard.classes.Closed := Store.sound_initial.closed

/-- A class that is kept reads plainly if it did. -/
theorem ReadsPlainly.kept (plain : before.ReadsPlainly id) (kept : before.Kept after)
    (closed : before.Closed) (inside : id.index < before.classes.length) :
    after.ReadsPlainly id where
  read := (kept.resolve closed inside (by decide)).trans plain.read
  unknown := by
    obtain ⟨owner, unknown⟩ := plain.unknown
    exact ⟨owner, (kept.resolve closed inside (by decide)).trans unknown⟩
  elements := by
    obtain ⟨owner, elements⟩ := plain.elements
    exact ⟨owner, (kept.resolve closed inside (by decide)).trans elements⟩

/-- A class that is kept starts its builders plainly if it did. -/
theorem StartsPlainly.kept (plain : before.StartsPlainly id) (kept : before.Kept after)
    (closed : before.Closed) (inside : id.index < before.classes.length) :
    after.StartsPlainly id where
  write := (kept.resolve closed inside (by decide)).trans plain.write
  starters := by
    intro c behind member found
    rw [kept.line inside] at behind
    rw [kept.members c (closed.line inside c behind) _ (by decide)] at found
    exact plain.starters c behind member found
  uncomputed := by
    intro name own
    have tight : name ∉ looseNames := by
      revert name
      decide
    rw [kept.resolve closed inside tight]
    exact plain.uncomputed name own

/-- A class that is kept is ordinary if it was. -/
theorem Ordinary.kept (ordinary : before.Ordinary id) (kept : before.Kept after)
    (closed : before.Closed) (inside : id.index < before.classes.length) : after.Ordinary id where
  toReadsPlainly := ordinary.toReadsPlainly.kept kept closed inside
  toStartsPlainly := ordinary.toStartsPlainly.kept kept closed inside
  make := (kept.resolve closed inside (by decide)).trans ordinary.make
  flag := (kept.resolve closed inside (by decide)).trans ordinary.flag
  start := by
    obtain ⟨owner, starter, start⟩ := ordinary.start
    exact ⟨owner, starter, (kept.resolve closed inside (by decide)).trans start⟩
  build := by
    obtain ⟨owner, build⟩ := ordinary.build
    exact ⟨owner, (kept.resolve closed inside (by decide)).trans build⟩
  missing := by
    obtain ⟨owner, missing⟩ := ordinary.missing
    exact ⟨owner, (kept.resolve closed inside (by decide)).trans missing⟩

end ClassTable

namespace Store

variable {store before after : Store} {b : BuilderRef} {name : String}

/-- In a sound store the library's classes have the members that they have at the start, but
for loose names. -/
theorem Sound.resolve (sound : store.Sound) {id : ClassId}
    (inside : id.index < Standard.classes.classes.length) (tight : name ∉ looseNames) :
    store.classes.resolve id name = Standard.classes.resolve id name :=
  sound.library.resolve ClassTable.closed_standard inside tight

/-- In a sound store the library's classes that make elements are ordinary. -/
theorem Sound.ordinary (sound : store.Sound) (product : Product) :
    store.classes.Ordinary product.builderId :=
  (product.ordinary ClassTable.hasLibrary_standard).kept sound.library
    ClassTable.closed_standard product.inside

/-- A builder has the members that it had, but for loose names. -/
theorem Leads.member? (leads : before.Leads after) (sound : before.Sound)
    (inside : b.index < before.builders.length)
    (there : (before.get b).classId.index < before.classes.classes.length)
    (tight : name ∉ looseNames) : after.member? b name = before.member? b name := by
  rw [member?_of_classId (leads.grown.classId b inside)]
  exact leads.classes.resolve sound.closed there tight

/-- What a builder is one of does not change. -/
theorem Leads.isOf (leads : before.Leads after) (inside : b.index < before.builders.length)
    (there : (before.get b).classId.index < before.classes.classes.length) (base : ClassId) :
    after.isOf b base = before.isOf b base := by
  unfold Store.isOf ClassTable.inherits
  rw [leads.grown.classId b inside, leads.classes.line there]

/-- A builder that is ordinary stays so. -/
theorem Ordinary.leads (ordinary : before.Ordinary b) (leads : before.Leads after)
    (sound : before.Sound) (inside : b.index < before.builders.length)
    (there : (before.get b).classId.index < before.classes.classes.length) :
    after.Ordinary b where
  builder := (leads.foreign b inside).trans ordinary.builder
  ordinary := by
    rw [leads.grown.classId b inside]
    exact ordinary.ordinary.kept leads.classes sound.closed there
  product := by
    obtain ⟨owner, product, make⟩ := ordinary.product
    exact ⟨owner, product, (leads.member? sound inside there (by decide)).trans make⟩

end Store

/-! ### Definitions -/

/-- What names are bound to is what each of them is bound to. -/
theorem ClassTable.exists_name_of_namedAll {table : ClassTable} :
    ∀ {names : List String} {ids : List ClassId}, table.namedAll names = .ok ids →
      ∀ id ∈ ids, ∃ name, table.names.find? name = some id
  | [], ids, h, id, inside => by cases h; cases inside
  | name :: rest, ids, h, id, inside => by
      obtain ⟨first, bound, h⟩ := ok_of_bind h
      obtain ⟨tail, others, h⟩ := ok_of_bind h
      cases h
      rcases List.mem_cons.1 inside with rfl | behind
      · exact ⟨name, named_eq_ok.1 bound⟩
      · exact exists_name_of_namedAll others id behind

/-- Ancestors that have been checked are the merged ones. -/
theorem ClassTable.checkedAncestors_eq_ok {table : ClassTable} {bases line : List ClassId}
    (h : table.checkedAncestors bases = .ok line) : table.ancestorsOf bases = .ok line := by
  unfold checkedAncestors at h
  cases merged : table.ancestorsOf bases with
  | ok other =>
      cases twice : repeated? bases with
      | some id => simp only [merged, twice] at h; cases h
      | none =>
          simp only [merged, twice] at h
          exact congrArg Except.ok (Except.ok.inj h)
  | error heads =>
      cases twice : repeated? bases with
      | some id => simp only [merged, twice] at h; cases h
      | none => simp only [merged, twice] at h; cases h

/-- What is merged comes from the rows. -/
theorem mem_flatten_of_mergeRows : ∀ {steps : Nat} {rows : List (List ClassId)}
    {line : List ClassId}, mergeRows steps rows = .ok line → ∀ c ∈ line, c ∈ rows.flatten
  | 0, rows, line, h, c, inside => by cases h; cases inside
  | steps + 1, rows, line, h, c, inside => by
      unfold mergeRows at h
      split at h
      · cases h; cases inside
      · cases h
      · next id found _ =>
          cases others : mergeRows steps (dropHead id rows) with
          | error heads => rw [others] at h; cases h
          | ok rest =>
              rw [others] at h
              cases h
              rcases List.mem_cons.1 inside with rfl | behind
              · -- The next class is the head of a row.
                obtain ⟨row, among, head⟩ :=
                  List.mem_filterMap.1 (List.mem_of_find?_eq_some found)
                exact List.mem_flatten.2 ⟨row, among, List.mem_of_head? head⟩
              · obtain ⟨row, among, there⟩ :=
                  List.mem_flatten.1 (mem_flatten_of_mergeRows others c behind)
                obtain ⟨whole, whole_among, rfl⟩ := List.mem_map.1 among
                refine List.mem_flatten.2 ⟨whole, whole_among, ?_⟩
                split at there
                · exact List.mem_of_mem_tail there
                · exact there

namespace ClassTable

/-- The classes from which a class on these bases inherits directly. -/
def directBases (ids : List ClassId) : List ClassId := if ids.isEmpty then [Standard.root] else ids

variable {table : ClassTable} {ids line : List ClassId}

theorem forall_directBases {P : ClassId → Prop} (root : P Standard.root) (all : ∀ id ∈ ids, P id) :
    ∀ base ∈ directBases ids, P base := by
  intro base direct
  unfold directBases at direct
  split at direct
  · exact List.mem_singleton.1 direct ▸ root
  · exact all base direct

/-- What stands behind a class is a merge of the lines of its bases and of the bases. -/
theorem merge_of_checked (checked : table.checkedAncestors ids = .ok line) :
    mergeRows ((directBases ids).map table.line ++ [directBases ids]).flatten.length
      ((directBases ids).map table.line ++ [directBases ids]) = .ok line :=
  checkedAncestors_eq_ok checked

/-- It comes from the line of a base. -/
theorem exists_base_of_mem (checked : table.checkedAncestors ids = .ok line) {c : ClassId}
    (behind : c ∈ line) : ∃ base ∈ directBases ids, c ∈ table.line base := by
  obtain ⟨row, among, there⟩ :=
    List.mem_flatten.1 (mem_flatten_of_mergeRows (merge_of_checked checked) c behind)
  rcases List.mem_append.1 among with among | among
  · obtain ⟨base, direct, rfl⟩ := List.mem_map.1 among
    exact ⟨base, direct, there⟩
  · rw [List.mem_singleton.1 among] at there
    exact ⟨c, there, List.mem_cons_self⟩

end ClassTable

namespace ClassTable.Closed

variable {table : ClassTable}

/-- What a name is bound to is there. -/
theorem named (closed : table.Closed) {name : String} {id : ClassId}
    (bound : table.named name = .ok id) : id.index < table.classes.length :=
  closed.names name id (named_eq_ok.1 bound)

theorem namedAll (closed : table.Closed) {names : List String} {ids : List ClassId}
    (bound : table.namedAll names = .ok ids) : ∀ id ∈ ids, id.index < table.classes.length := by
  intro id inside
  obtain ⟨name, found⟩ := exists_name_of_namedAll bound id inside
  exact closed.names name id found

/-- Behind a new class there are only classes that are there. -/
theorem checkedAncestors (closed : table.Closed) (root : Standard.root.index < table.classes.length)
    {bases line : List ClassId} (inside : ∀ id ∈ bases, id.index < table.classes.length)
    (checked : table.checkedAncestors bases = .ok line) :
    ∀ c ∈ line, c.index < table.classes.length := by
  intro c behind
  obtain ⟨base, direct, there⟩ := exists_base_of_mem checked behind
  exact closed.line (forall_directBases root inside base direct) c there

end ClassTable.Closed

theorem Store.Sound.inside {store : Store} (sound : store.Sound) {id : ClassId}
    (library : id.index < Standard.classes.classes.length) :
    id.index < store.classes.classes.length :=
  Nat.lt_of_lt_of_le library sound.library.length

end ScopedHtml
