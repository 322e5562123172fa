import ScopedHtml.Proofs.Tables

/-!
# ScopedHtml.Proofs.Drafts

**Defining a class before and after a swap.** In the body of a class the swap concerns the names of
the builder classes that openers open (`Swap.body`). The classes that such bodies describe are
alike (`Swap.Tables.draft`), and tables that are alike stay so when both get a further class
(`Swap.Tables.push`), when it is registered (`Swap.Tables.register`) and when a name is bound to it
(`Swap.Tables.bindName`).

What a body may list is as little as needed: its openers keep nothing on classes
(`ClassBody.Loose`), and it requires no hidden names (`Swap.Suits`).
-/

namespace ScopedHtml

/-! ### What bodies list -/

/-- No opener of the body keeps on a class what it makes. -/
def ClassBody.Loose (body : ClassBody) : Prop :=
  ∀ opener ∈ body.openers, opener.name ∈ Hook.ofClass → opener.attachment ≠ .slot

/-- What a body defines under a name. -/
inductive ClassBody.Lists (table : ClassTable) (body : ClassBody) (name : String) : Member → Prop
  | opener {opener : OpenerSpec} {target : Target} (among : opener ∈ body.openers)
      (named : opener.name = name) (opens : table.target opener = .ok target) :
      Lists table body name (.opener target opener.attachment)
  | plain : Lists table body name .plain
  | blank : Lists table body name (.data .null)
  | required {names : List String} (listed : body.required = some names)
      (named : name = "_required") : Lists table body name (.data (.ofNames names))

namespace ClassTable

variable {table : ClassTable} {name : String} {member : Member}

theorem opens_of_bindOpeners : ∀ {openers : List OpenerSpec} {before after : Bindings String Member},
    table.bindOpeners openers before = .ok after → after.find? name = some member →
      before.find? name = some member ∨ ∃ opener ∈ openers, opener.name = name ∧
        ∃ target, table.target opener = .ok target ∧ member = .opener target opener.attachment
  | [], _, _, bound, found => by
      cases bound
      exact .inl found
  | opener :: rest, before, after, bound, found => by
      obtain ⟨target, opens, bound⟩ := bindOpeners_cons_eq_ok bound
      rcases opens_of_bindOpeners bound found with old | ⟨other, among, rest⟩
      · rcases Bindings.find?_bind_eq_some old with ⟨same, rfl⟩ | old
        · exact .inr ⟨opener, List.mem_cons_self, same.symm, target, opens, rfl⟩
        · exact .inl old
      · exact .inr ⟨other, List.mem_cons_of_mem _ among, rest⟩

/-- The members of a class that has been described are what the body lists. -/
theorem lists_of_draft {bases : List ClassId} {body : ClassBody} {new : BuilderClass} {title : String}
    (drafted : table.draft title bases body = .ok new)
    (found : new.members.find? name = some member) : body.Lists table name member := by
  obtain ⟨_, members, defined, own⟩ := draft_eq_ok drafted
  obtain ⟨_, openers, bound, looked⟩ := find?_of_bodyMembers defined
  have listed : members.find? name = some member → body.Lists table name member := by
    intro found
    rcases looked name with ⟨names, required, same, listed⟩ | listed
    · rw [listed] at found
      cases found
      exact .required required same
    · rw [listed] at found
      split at found
      · cases found
        exact .blank
      · split at found
        · cases found
          exact .plain
        · rcases opens_of_bindOpeners bound found with absurd |
            ⟨opener, among, same, target, opens, rfl⟩
          · cases absurd
          · exact .opener among same opens
  rcases own with same | ⟨_, same⟩
  · exact listed (same ▸ found)
  · rw [same] at found
    rcases Bindings.find?_bind_eq_some found with ⟨_, rfl⟩ | old
    · exact .blank
    · exact listed old

/-- An opener of a body opens a class that can be used. -/
theorem Tidy.usable_of_target (tidy : table.Tidy) {opener : OpenerSpec} {id : ClassId}
    (opens : table.target opener = .ok (.fixed id)) : table.Usable id :=
  tidy.names _ _ (find?_of_target opens)

end ClassTable

theorem ClassBody.Lists.defined {table : ClassTable} {body : ClassBody} {name : String}
    {member : Member} (lists : body.Lists table name member) (tidy : table.Tidy)
    (loose : body.Loose) : member.Defined table name := by
  cases lists with
  | opener among named opens =>
      subst named
      exact ⟨loose _ among, fun id fixed => tidy.usable_of_target (fixed ▸ opens)⟩
  | plain => trivial
  | blank => trivial
  | required listed named => trivial

/-- A class has been registered, and nothing else has happened to those in use. -/
structure ClassTable.Registers (table : ClassTable) (id : ClassId) (after : ClassTable) : Prop where
  grows : table.Grows after
  registered : after.Registered id

namespace Swap

variable {swap : Swap}

/-! ### Bodies before and after a swap -/

/-- An opener after the swap. -/
def opener (swap : Swap) (opener : OpenerSpec) : OpenerSpec :=
  { opener with builder := swap.named opener.builder }

/-- A body after the swap. -/
def body (swap : Swap) (body : ClassBody) : ClassBody :=
  { body with openers := body.openers.map swap.opener }

/-- A body that requires nothing hidden. -/
structure Suits (swap : Swap) (body : ClassBody) : Prop where
  required : ∀ names, body.required = some names → swap.Clean (.ofNames names)
  answer : ∀ opener ∈ body.openers, opener.name = "required" → opener.attachment = .slot →
    swap.Clean (plainAnswer "build")

theorem Still.named (still : swap.Still) (name : String) : swap.named name = name := by
  unfold Swap.named
  split
  · next same => rw [still.name, same]
  · rfl

theorem Still.body (still : swap.Still) (body : ClassBody) : swap.body body = body := by
  have openers : body.openers.map swap.opener = body.openers := by
    refine List.map_id'' (fun opener => ?_) _
    unfold Swap.opener
    rw [still.named]
  unfold Swap.body
  rw [openers]

theorem Still.suits (still : swap.Still) (body : ClassBody) : swap.Suits body :=
  ⟨fun _ _ => still.clean _, fun _ _ _ _ => still.clean _⟩

theorem loose_body {body : ClassBody} (loose : body.Loose) : (swap.body body).Loose := by
  intro other among
  obtain ⟨opener, listed, rfl⟩ := List.mem_map.1 among
  exact loose opener listed

theorem Suits.body {body : ClassBody} (suits : swap.Suits body) : swap.Suits (swap.body body) where
  required := suits.required
  answer := by
    intro other among
    obtain ⟨opener, listed, rfl⟩ := List.mem_map.1 among
    exact suits.answer opener listed

/-- A class that may be added. -/
structure Drafted (swap : Swap) (table : ClassTable) (new : BuilderClass) : Prop where
  ancestors : ∀ c ∈ new.ancestors, c.index < table.classes.length
  defined : ∀ name member, new.members.find? name = some member → member.Defined table name
  unregistered : ∀ names, new.members.find? registerName ≠ some (.data (.tags names))
  clean : ∀ value, new.members.find? "_required" = some (.data value) → swap.Clean value
  answer : ∀ target, new.members.find? "required" = some (.opener target .slot) →
    swap.Clean (plainAnswer "build")

theorem answer_of_lists {table : ClassTable} {body : ClassBody} (suits : swap.Suits body)
    {member : Member} (lists : body.Lists table "required" member) {target : Target}
    (slot : member = .opener target .slot) : swap.Clean (plainAnswer "build") := by
  cases lists with
  | @opener opener _ among named opens =>
      injection slot with _ attached
      exact suits.answer opener among named attached
  | _ => cases slot

theorem drafted_of_draft {table : ClassTable} (tidy : table.Tidy) {name : String}
    {bases : List ClassId} (inside : ∀ id ∈ bases, id.index < table.classes.length)
    {body : ClassBody} (loose : body.Loose) (suits : swap.Suits body) {new : BuilderClass}
    (drafted : table.draft name bases body = .ok new) : swap.Drafted table new where
  ancestors :=
    tidy.closed.checkedAncestors
      (Nat.lt_of_lt_of_le (by decide) tidy.length) inside (ClassTable.draft_eq_ok drafted).1
  defined := fun _ _ found => (ClassTable.lists_of_draft drafted found).defined tidy loose
  unregistered := by
    intro names found
    cases ClassTable.lists_of_draft drafted found
  clean := by
    intro value found
    cases ClassTable.lists_of_draft drafted found with
    | blank => exact nofun
    | required listed named => exact suits.required _ listed
  answer := by
    intro target found
    exact answer_of_lists suits (ClassTable.lists_of_draft drafted found) rfl

/-! ### Classes that bodies describe -/

namespace Tables

variable {left right : ClassTable} {id : ClassId}

theorem bindOpeners (tables : swap.Tables left right) : ∀ (openers : List OpenerSpec)
    {members members' : Bindings String Member}, swap.Rows members members' →
      Outcomes swap.Faults swap.Rows (left.bindOpeners openers members)
        (right.bindOpeners (openers.map swap.opener) members')
  | [], members, members', rows => .ok rows
  | opener :: rest, members, members', rows => by
      have target : Outcomes swap.Faults swap.Targets (left.target opener)
          (right.target (swap.opener opener)) := by
        unfold ClassTable.target
        show Outcomes _ _ (if opener.late then _ else _) (if opener.late then _ else _)
        split
        · refine .ok ?_
          show swap.Targets (.late opener.builder) (.late (swap.named opener.builder))
          unfold Swap.named
          split
          · next same =>
              rw [same]
              exact .late
          · exact .same _
        · have named := tables.named opener.builder
          show Outcomes _ _ (left.named opener.builder >>= _)
            (right.named (swap.named opener.builder) >>= _)
          revert named
          generalize left.named opener.builder = result
          generalize right.named (swap.named opener.builder) = result'
          rintro (⟨rfl | ⟨rfl, rfl⟩, _, _⟩ | alike)
          · exact .ok (.same _)
          · exact .ok .fixed
          · exact .error alike
      show Outcomes _ _ (left.target opener >>= _) (right.target (swap.opener opener) >>= _)
      revert target
      generalize left.target opener = result
      generalize right.target (swap.opener opener) = result'
      rintro (alike | alike)
      · exact tables.bindOpeners rest (rows.bind opener.name (.opener opener.attachment alike))
      · exact .error alike

theorem foldl_bind {α : Type} (place : α → String) (member : Member) : ∀ (keys : List α)
    {members members' : Bindings String Member}, swap.Rows members members' →
      swap.Rows (keys.foldl (fun members key => members.bind (place key) member) members)
        (keys.foldl (fun members key => members.bind (place key) member) members')
  | [], _, _, rows => rows
  | key :: rest, _, _, rows =>
      foldl_bind place member rest (rows.bind (place key) (.same member))

theorem bodyMembers (tables : swap.Tables left right) (body : ClassBody) :
    Outcomes swap.Faults swap.Rows (left.bodyMembers body) (right.bodyMembers (swap.body body)) := by
  have openers := tables.bindOpeners body.openers (Rows.refl .empty)
  unfold ClassTable.bodyMembers
  show Outcomes _ _ (left.bindOpeners body.openers .empty >>= _)
    (right.bindOpeners (body.openers.map swap.opener) .empty >>= _)
  revert openers
  generalize left.bindOpeners body.openers .empty = result
  generalize right.bindOpeners (body.openers.map swap.opener) .empty = result'
  rintro (rows | alike)
  · have slots := foldl_bind slotAttribute (.data .null) body.slots
      (foldl_bind (fun name => name) .plain body.plain rows)
    cases required : body.required with
    | none =>
        simp only [Swap.body, required]
        exact .ok slots
    | some names =>
        simp only [Swap.body, required]
        exact .ok (slots.bind _ (.same _))
  · exact .error alike

theorem checkReserved (name : String) {members members' : Bindings String Member}
    (rows : swap.Rows members members') :
    ScopedHtml.checkReserved name members' = ScopedHtml.checkReserved name members := by
  have rel := fun key => rel_cases (rows.find? key)
  unfold ScopedHtml.checkReserved
  rcases rel "__slots__" with ⟨s, s'⟩ | ⟨_, _, s, s', alike⟩
  · rcases rel "__qualname__" with ⟨q, q'⟩ | ⟨_, _, q, q', alike⟩
    · rcases rel "__classcell__" with ⟨c, c'⟩ | ⟨_, _, c, c', alike⟩
      · rw [s, s', q, q', c, c']
      · rw [s, s', q, q', c, c']
        cases alike <;> rfl
    · rw [s, s', q, q']
      cases alike <;> rfl
  · rw [s, s']
    cases alike <;> rfl

theorem checkedAncestors (tables : swap.Tables left right) (bases : List ClassId) :
    right.checkedAncestors bases = left.checkedAncestors bases := by
  have lines : right.line = left.line := funext tables.line
  have titles : ∀ id, (right.get id).name = (left.get id).name := fun id => (tables.classes id).name
  unfold ClassTable.checkedAncestors ClassTable.ancestorsOf
  rw [lines]
  simp only [titles]

/-- The classes that a body describes before and after the swap. -/
theorem draft (tables : swap.Tables left right) (name : String) (bases : List ClassId)
    (body : ClassBody) :
    Outcomes swap.Faults swap.Classes (left.draft name bases body)
      (right.draft name bases (swap.body body)) := by
  have members := tables.bodyMembers body
  unfold ClassTable.draft
  rw [tables.checkedAncestors]
  revert members
  generalize left.bodyMembers body = result
  generalize right.bodyMembers (swap.body body) = result'
  rintro (@⟨members, members', rows⟩ | alike)
  · show Outcomes _ _ (ScopedHtml.checkReserved name members >>= _)
      (ScopedHtml.checkReserved name members' >>= _)
    rw [checkReserved name rows]
    cases ScopedHtml.checkReserved name members with
    | error fault => exact .error (.same _)
    | ok _ =>
        show Outcomes _ _ (left.checkedAncestors bases >>= _) (left.checkedAncestors bases >>= _)
        cases left.checkedAncestors bases with
        | error fault => exact .error (.same _)
        | ok ancestors =>
            refine .ok ⟨rfl, rfl, ?_⟩
            dsimp only
            rcases rel_cases (rows.find? docName) with ⟨has, has'⟩ | ⟨_, _, has, has', _⟩
            · rw [has, has']
              exact rows.bind docName (.same _)
            · rw [has, has']
              exact rows
  · exact .error alike

/-- The classes that a body describes may be added. -/
theorem drafts (tables : swap.Tables left right) (name : String) {bases : List ClassId}
    (inside : ∀ id ∈ bases, id.index < left.classes.length) {body : ClassBody} (loose : body.Loose)
    (suits : swap.Suits body) :
    Outcomes swap.Faults
      (fun new new' => swap.Classes new new' ∧ swap.Drafted left new ∧ swap.Drafted right new')
      (left.draft name bases body) (right.draft name bases (swap.body body)) := by
  have draft := tables.draft name bases body
  have drafted : ∀ new, left.draft name bases body = .ok new → swap.Drafted left new :=
    fun new drafted => drafted_of_draft tables.tidy inside loose suits drafted
  have drafted' : ∀ new, right.draft name bases (swap.body body) = .ok new →
      swap.Drafted right new := fun new drafted =>
    drafted_of_draft tables.tidy' (tables.length ▸ inside) (loose_body loose) suits.body drafted
  revert draft drafted drafted'
  generalize left.draft name bases body = result
  generalize right.draft name bases (swap.body body) = result'
  rintro (alike | alike) drafted drafted'
  · exact .ok ⟨alike, drafted _ rfl, drafted' _ rfl⟩
  · exact .error alike

end Tables

/-! ### Tables that grow -/

theorem Replaces.grows {table after : ClassTable} (replaces : swap.Replaces table)
    (grows : table.Grows after)
    (names : ∀ name, name = swap.oldName ∨ name = swap.newName →
      after.names.find? name = table.names.find? name)
    (clean : ∀ id value, (after.get id).members.find? "_required" = some (.data value) →
      swap.Clean value)
    (answer : ∀ id target, (after.get id).members.find? "required" = some (.opener target .slot) →
      swap.Clean (plainAnswer "build")) : swap.Replaces after where
  old := grows.usable replaces.old
  new := grows.usable replaces.new
  further := replaces.further
  builder := by
    rw [grows.line replaces.old]
    exact replaces.builder
  line := by
    rw [grows.line replaces.old, grows.line replaces.new]
    exact replaces.line
  own := by
    rw [grows.get replaces.new]
    exact replaces.own
  looks := by
    rw [grows.line replaces.old]
    intro c there name member has
    rw [grows.same _ replaces.old c there] at has
    exact replaces.looks c there name member has
  register := by
    rw [grows.get replaces.new]
    exact replaces.register
  oldTitle := by
    rw [grows.get replaces.old]
    exact replaces.oldTitle
  newTitle := by
    rw [grows.get replaces.new]
    exact replaces.newTitle
  oldName := (names _ (.inl rfl)).trans replaces.oldName
  newName := (names _ (.inr rfl)).trans replaces.newName
  clean := clean
  answer := answer

/-- A new class leaves the others alone. -/
theorem get_push_of_ne (table : ClassTable) (new : BuilderClass) {id : ClassId}
    (other : id ≠ (table.push new).1) : (table.push new).2.get id = table.get id := by
  rcases Nat.lt_trichotomy id.index table.classes.length with old | same | beyond
  · exact ClassTable.get_push_of_lt old new
  · exact absurd (congrArg ClassId.mk same) other
  · have none : (table.push new).2.classes.length ≤ id.index := by
      simp only [ClassTable.push, List.length_append, List.length_singleton]
      exact beyond
    rw [ClassTable.get, ClassTable.get, List.getD_eq_getElem?_getD, List.getD_eq_getElem?_getD,
      List.getElem?_eq_none none, List.getElem?_eq_none (Nat.le_of_lt beyond)]

/-- Nothing stands on a class that has just been added. -/
theorem unheard_push {table : ClassTable} (closed : table.Closed) {new : BuilderClass}
    (ancestors : ∀ c ∈ new.ancestors, c.index < table.classes.length) :
    ∀ c : ClassId, c.index < (table.push new).2.classes.length →
      (table.push new).1 ∉ ((table.push new).2.get c).ancestors := by
  intro c there heard
  have older : (table.push new).1.index < table.classes.length := by
    by_cases same : c = (table.push new).1
    · rw [same, ClassTable.get_push_new] at heard
      exact ancestors _ heard
    · have old : c.index < table.classes.length := by
        have other : c.index ≠ table.classes.length := fun eq => same (congrArg ClassId.mk eq)
        simp only [ClassTable.push, List.length_append, List.length_singleton] at there
        omega
      rw [get_push_of_ne table new same] at heard
      exact closed.ancestors c old _ heard
  exact Nat.lt_irrefl _ older

theorem Replaces.push {table : ClassTable} (replaces : swap.Replaces table) (closed : table.Closed)
    {new : BuilderClass} (drafted : swap.Drafted table new) :
    swap.Replaces (table.push new).2 := by
  refine replaces.grows (.push closed new) (fun _ _ => rfl) ?_ ?_
  · intro id value found
    by_cases same : id = (table.push new).1
    · rw [same, ClassTable.get_push_new] at found
      exact drafted.clean value found
    · rw [get_push_of_ne table new same] at found
      exact replaces.clean id value found
  · intro id target found
    by_cases same : id = (table.push new).1
    · rw [same, ClassTable.get_push_new] at found
      exact drafted.answer target found
    · rw [get_push_of_ne table new same] at found
      exact replaces.answer id target found

/-- A register is nothing that is required. -/
theorem Replaces.registered {table after : ClassTable} (replaces : swap.Replaces table)
    (grows : table.Grows after) {id : ClassId} {names : List String}
    (assigned : after = table.assign id registerName (.data (.tags names))) :
    swap.Replaces after := by
  subst assigned
  have others : ∀ c name, name ≠ registerName →
      ((table.assign id registerName (.data (.tags names))).get c).members.find? name =
        (table.get c).members.find? name := by
    intro c name other
    rcases ClassTable.get_assign_cases table id c registerName (.data (.tags names)) with
      same | same
    · rw [same]
    · rw [same]
      exact Bindings.find?_bind_of_ne _ other _
  refine replaces.grows grows (fun _ _ => rfl) ?_ ?_
  · intro c value found
    rw [others c _ (by decide)] at found
    exact replaces.clean c value found
  · intro c target found
    rw [others c _ (by decide)] at found
    exact replaces.answer c target found

namespace Tables

variable {left right : ClassTable} {id : ClassId}

theorem push (tables : swap.Tables left right) {new new' : BuilderClass}
    (alike : swap.Classes new new') (drafted : swap.Drafted left new)
    (drafted' : swap.Drafted right new') :
    swap.Tables (left.push new).2 (right.push new').2 where
  tidy := tables.tidy.push drafted.ancestors drafted.defined drafted.unregistered
  tidy' := tables.tidy'.push drafted'.ancestors drafted'.defined drafted'.unregistered
  names := tables.names
  length := by simp [ClassTable.push, tables.length]
  classes := by
    intro id
    have last : (right.push new').1 = (left.push new).1 := congrArg ClassId.mk tables.length
    by_cases same : id = (left.push new).1
    · rw [same, ClassTable.get_push_new, ← last, ClassTable.get_push_new]
      exact alike
    · rw [get_push_of_ne left new same, get_push_of_ne right new' (last ▸ same)]
      exact tables.classes id
  swapped := tables.swapped.imp id fun replaces =>
    ⟨replaces.1.push tables.tidy.closed drafted, replaces.2.push tables.tidy'.closed drafted'⟩

/-- What registers new classes stands in the same place. -/
theorem told (tables : swap.Tables left right) {row : List ClassId} {owner : ClassId} :
    right.resolveAlong Hook.heir.name row = some (owner, .method .register) ↔
      left.resolveAlong Hook.heir.name row = some (owner, .method .register) := by
  rcases rel_cases (tables.resolveAlong Hook.heir.name row) with
    ⟨has, has'⟩ | ⟨_, _, has, has', @⟨first, _, _, members⟩⟩
  · rw [has, has']
  · rw [has, has']
    constructor
    · rintro ⟨⟩
      cases members
      rfl
    · rintro ⟨⟩
      cases members
      rfl

theorem inheritedRegistry (tables : swap.Tables left right) (row : List ClassId) :
    right.inheritedRegistry row = left.inheritedRegistry row := by
  unfold ClassTable.inheritedRegistry
  rcases rel_cases (tables.resolveAlong registerName row) with
    ⟨has, has'⟩ | ⟨_, _, has, has', @⟨_, _, _, members⟩⟩
  · rw [has, has']
  · rw [has, has']
    exact registerNames members

/-- A class may get the same register in both tables, if that keeps both in order. -/
theorem assignRegister (tables : swap.Tables left right) (inside : id.index < left.classes.length)
    {names : List String}
    (tidy : (left.assign id registerName (.data (.tags names))).Tidy)
    (tidy' : (right.assign id registerName (.data (.tags names))).Tidy)
    (grows : left.Grows (left.assign id registerName (.data (.tags names))))
    (grows' : right.Grows (right.assign id registerName (.data (.tags names)))) :
    swap.Tables (left.assign id registerName (.data (.tags names)))
      (right.assign id registerName (.data (.tags names))) where
  tidy := tidy
  tidy' := tidy'
  names := tables.names
  length := by
    rw [ClassTable.length_classes_assign, ClassTable.length_classes_assign, tables.length]
  classes := by
    intro c
    by_cases same : c = id
    · subst same
      rw [ClassTable.get_assign_self inside, ClassTable.get_assign_self (tables.length ▸ inside)]
      have alike := tables.classes c
      exact ⟨alike.name, alike.ancestors, alike.members.bind registerName (.same _)⟩
    · rw [ClassTable.get_assign_of_ne left same, ClassTable.get_assign_of_ne right same]
      exact tables.classes c
  swapped := tables.swapped.imp (fun still => still) fun replaces =>
    ⟨replaces.1.registered grows rfl, replaces.2.registered grows' rfl⟩

/-- Registering a new class that nothing inherits from. -/
theorem register (tables : swap.Tables left right)
    (further : Standard.classes.classes.length ≤ id.index) (inside : id.index < left.classes.length)
    (unheard : ∀ c : ClassId, c.index < left.classes.length → id ∉ (left.get c).ancestors)
    {owner : ClassId} (told : left.resolveAlong Hook.heir.name (left.get id).ancestors =
      some (owner, .method .register)) :
    Outcomes swap.Faults (fun after after' => swap.Tables after after' ∧
        left.Registers id after ∧ right.Registers id after')
      (left.registered id) (right.registered id) := by
  have ancestors : ∀ c, (right.get c).ancestors = (left.get c).ancestors :=
    fun c => (tables.classes c).ancestors
  have told' := tables.told.2 told
  rw [← ancestors] at told'
  have inherited : right.inheritedRegistry (right.get id).ancestors =
      left.inheritedRegistry (left.get id).ancestors := by
    rw [ancestors]
    exact tables.inheritedRegistry _
  have openers : ∀ names, extendRegistry names (right.get id).members =
      extendRegistry names (left.get id).members := fun names => by
    rw [extendRegistry, extendRegistry, (tables.classes id).members.openerNames]
  cases known : left.inheritedRegistry (left.get id).ancestors with
  | error fault =>
      rw [ClassTable.registered_eq_map, ClassTable.registered_eq_map, inherited, known]
      exact .error (.same _)
  | ok names =>
      have done : left.registered id = .ok (left.assign id registerName
          (.data (.tags (extendRegistry names (left.get id).members)))) := by
        rw [ClassTable.registered_eq_map, known]
        rfl
      have done' : right.registered id = .ok (right.assign id registerName
          (.data (.tags (extendRegistry names (left.get id).members)))) := by
        rw [ClassTable.registered_eq_map, inherited, known, ← openers]
        rfl
      have after := tables.tidy.register further inside unheard told done
      have after' := tables.tidy'.register further (tables.length ▸ inside)
        (fun c there => by rw [ancestors]; exact unheard c (tables.length ▸ there)) told' done'
      rw [done, done']
      exact .ok ⟨tables.assignRegister inside after.1 after'.1 after.2.1 after'.2.1,
        ⟨after.2.1, after.2.2⟩, ⟨after'.2.1, after'.2.2⟩⟩

/-- What bases leave to be defined. -/
theorem checkAbstract (tables : swap.Tables left right) : ∀ bases : List ClassId,
    right.checkAbstract bases = left.checkAbstract bases
  | [] => rfl
  | base :: rest => by
      have builder : right.isBuilder base = left.isBuilder base :=
        tables.inherits (.inl rfl) (by decide)
      unfold ClassTable.checkAbstract
      rw [builder, tables.checkAbstract rest]
      rcases rel_cases ((tables.classes base).members.find? abstractName) with
        ⟨has, has'⟩ | ⟨_, _, has, has', alike⟩
      · rw [has, has']
      · rw [has, has']
        cases left.isBuilder base with
        | true => rfl
        | false => exact congrArg (fun type => Except.error (Fault.notIterable type)) alike.typeName

theorem namedAll (tables : swap.Tables left right) : ∀ names : List String,
    right.namedAll names = left.namedAll names
  | [] => rfl
  | name :: rest => by
      unfold ClassTable.namedAll ClassTable.named
      rw [tables.names, tables.namedAll rest]

/-- Binding a name that the swap does not use. -/
theorem bindName (tables : swap.Tables left right) {name : String}
    (apart : swap.Still ∨ name ≠ swap.oldName ∧ name ≠ swap.newName) (usable : left.Usable id)
    (usable' : right.Usable id) :
    swap.Tables (left.bindName name id) (right.bindName name id) where
  tidy := tables.tidy.bindName usable name
  tidy' := tables.tidy'.bindName usable' name
  names := by
    unfold ClassTable.bindName
    rw [tables.names]
  length := tables.length
  classes := tables.classes
  swapped := by
    rcases apart with still | ⟨old, new⟩
    · exact .inl still
    · have kept : ∀ table : ClassTable, swap.Replaces table →
          swap.Replaces (table.bindName name id) := by
        intro table replaces
        refine replaces.grows (.bindName table name id) ?_ replaces.clean replaces.answer
        rintro _ (rfl | rfl)
        · exact Bindings.find?_bind_of_ne _ (Ne.symm old) _
        · exact Bindings.find?_bind_of_ne _ (Ne.symm new) _
      exact tables.swapped.imp (fun still => still) fun replaces =>
        ⟨kept _ replaces.1, kept _ replaces.2⟩

end Tables

end Swap

end ScopedHtml
