import ScopedHtml.Proofs.Drafts

/-!
# ScopedHtml.Proofs.Regular

**Classes that keep elements.** Classes may have openers that work on the class they are called on
and keep their element there, under one of a few names (`keptNames`). So even a class in use may
change, but no more than that: what it has under one of these names may be replaced by a value.

A table is regular (`ClassTable.Regular`) if the library's classes are what they are at the start,
what stands behind a class or is bound to a name can be used, and every register is what registering
the class again would give. Whatever happens to classes keeps a table regular and what could be used
as it was (`ClassTable.Stays`): a further class (`ClassTable.Regular.push`), a name bound to one
(`ClassTable.Regular.bindName`), a register (`ClassTable.Regular.register`) and an element
(`ClassTable.Regular.keep`).
-/

namespace ScopedHtml

/-- The names under which openers that work on a class keep their elements there. -/
def keptNames : List String := Hook.ofClass.map slotAttribute

theorem mem_looseNames {name : String} :
    name ∈ looseNames ↔ name = registerName ∨ name ∈ keptNames :=
  List.mem_cons

/-- What a body defines under a name. An opener opens what can be used. -/
def Member.Listed (table : ClassTable) : Member → Prop
  | .opener target _ => ∀ id, target = .fixed id → table.Usable id
  | .plain => True
  | .data _ => True
  | _ => False

namespace ClassTable

/-- The classes of a state, which may keep elements. -/
structure Regular (table : ClassTable) : Prop where
  library : table.HasLibrary
  length : Standard.classes.classes.length ≤ table.classes.length
  ancestors : ∀ id : ClassId, id.index < table.classes.length →
    ∀ c ∈ (table.get id).ancestors, table.Usable c
  listed : ∀ id : ClassId, Standard.classes.classes.length ≤ id.index →
    id.index < table.classes.length → ∀ name member,
      (table.get id).members.find? name = some member → member.Listed table
  names : ∀ name id, table.names.find? name = some id → table.Usable id
  settled : ∀ id names, (table.get id).members.find? registerName = some (.data (.tags names)) →
    ∃ inherited, table.inheritedRegistry (table.get id).ancestors = .ok inherited ∧
      names = extendRegistry inherited (table.get id).members

/-- What can be used in one table is in the other what it was, but for elements that it keeps. -/
structure Stays (before after : ClassTable) : Prop where
  kept : before.Kept after
  register : ∀ id, before.Usable id →
    (after.get id).members.find? registerName = (before.get id).members.find? registerName
  replaced : ∀ id : ClassId, id.index < before.classes.length → ∀ name,
    (after.get id).members.find? name = (before.get id).members.find? name ∨
      ∃ value, (after.get id).members.find? name = some (.data value)

/-- Telling the classes of a class of it registers its openers: it does when the class is defined,
or when a builder of the class is asked to. -/
def Heard (table : ClassTable) (id : ClassId) : Prop :=
  (∃ owner, table.resolve id Hook.heir.name = some (owner, .method .register)) ∨
    ∃ owner, table.resolveAlong Hook.heir.name (table.get id).ancestors =
      some (owner, .method .register)

variable {table before after later : ClassTable} {id : ClassId} {name : String}

/-- What a row of classes has under a name that nothing replaces it has later. -/
theorem Kept.resolveAlong (kept : before.Kept after) {row : List ClassId}
    (inside : ∀ c ∈ row, c.index < before.classes.length) (tight : name ∉ looseNames) :
    after.resolveAlong name row = before.resolveAlong name row :=
  resolveAlong_congr fun c there => kept.members c (inside c there) name tight

/-- A class that has heard of new classes goes on hearing of them. -/
theorem Heard.kept (heard : before.Heard id) (kept : before.Kept after) (closed : before.Closed)
    (inside : id.index < before.classes.length) : after.Heard id := by
  refine heard.imp (fun ⟨owner, told⟩ => ⟨owner, ?_⟩) fun ⟨owner, told⟩ => ⟨owner, ?_⟩
  · rw [kept.resolve closed inside (by decide), told]
  · rw [kept.ancestors id inside, kept.resolveAlong (closed.ancestors id inside) (by decide), told]

/-! ### Regular tables -/

namespace Regular

theorem closed (regular : table.Regular) : table.Closed where
  ancestors := fun id inside c behind => (regular.ancestors id inside c behind).inside
  names := fun name id bound => (regular.names name id bound).inside

theorem usable_library (regular : table.Regular)
    (library : id.index < Standard.classes.classes.length) : table.Usable id :=
  regular.library.usable regular.length library

/-- Whatever stands in the line of a class that can be used can be used. -/
theorem line (regular : table.Regular) (usable : table.Usable id) :
    ∀ c ∈ table.line id, table.Usable c := by
  intro c there
  rcases List.mem_cons.1 there with rfl | behind
  · exact usable
  · exact regular.ancestors id usable.inside c behind

/-- What a class has under a name is one of the library's members or what a body defines. -/
theorem member (regular : table.Regular) {owner : ClassId} {found : Member}
    (inside : owner.index < table.classes.length)
    (has : (table.get owner).members.find? name = some found) :
    (owner.index < Standard.classes.classes.length ∧
        ∃ c ∈ Standard.classes.classes, c.members.find? name = some found) ∨
      Standard.classes.classes.length ≤ owner.index ∧ found.Listed table := by
  exact (regular.library.member has).imp_right fun further =>
    ⟨further, regular.listed owner further inside name found has⟩

/-- A class that is opened early can be used. -/
theorem usable_target (regular : table.Regular) {owner opened : ClassId} {attachment : Attachment}
    (inside : owner.index < table.classes.length)
    (has : (table.get owner).members.find? name = some (.opener (.fixed opened) attachment)) :
    table.Usable opened := by
  rcases regular.member inside has with ⟨_, c, among, found⟩ | ⟨_, listed⟩
  · exact regular.usable_library (Standard.opens_library among found)
  · exact listed opened rfl

/-- Only classes that are not the library's have openers that work on classes. -/
theorem further_of_opener (regular : table.Regular) {owner : ClassId} {target : Target}
    {attachment : Attachment} (inside : owner.index < table.classes.length)
    (has : (table.get owner).members.find? name = some (.opener target attachment))
    (ofClass : name ∈ Hook.ofClass) : Standard.classes.classes.length ≤ owner.index := by
  rcases regular.member inside has with ⟨_, c, among, found⟩ | ⟨further, _⟩
  · have outside := Standard.inPlace among found
    rw [Member.inPlace, decide_eq_true_eq] at outside
    exact absurd ofClass outside
  · exact further

/-- What registers openers stands where the library has it. -/
theorem name_of_register (regular : table.Regular) {owner : ClassId}
    (inside : owner.index < table.classes.length)
    (has : (table.get owner).members.find? name = some (.method .register)) :
    name = Hook.heir.name := by
  rcases regular.member inside has with ⟨_, c, among, found⟩ | ⟨_, absurd⟩
  · exact of_decide_eq_true (Standard.inPlace among found)
  · exact absurd.elim

/-- What is called when a class is defined is what a body defines, or registers its openers. -/
theorem heir (regular : table.Regular) {owner : ClassId} {found : Member}
    (inside : owner.index < table.classes.length)
    (has : (table.get owner).members.find? Hook.heir.name = some found) :
    found.Listed table ∨ found = .method .register := by
  rcases regular.member inside has with ⟨_, c, among, known⟩ | ⟨_, listed⟩
  · exact .inr (Standard.heir_eq among known)
  · exact .inl listed

/-- Registering a class that has a register once more changes nothing. -/
theorem registered_eq (regular : table.Regular) (registered : table.Registered id) :
    table.registered id = .ok table := by
  obtain ⟨names, found⟩ := registered
  exact registered_of_settled found (regular.settled id names found)

/-- A class that can be used and hears of new classes has a register. -/
theorem registered_of_heard (regular : table.Regular) (usable : table.Usable id)
    (heard : table.Heard id) : table.Registered id := by
  rcases heard with ⟨owner, told⟩ | ⟨owner, told⟩
  · exact usable.registered_of_told regular.library
      (fun further found => regular.listed _ further usable.inside _ _ found) told
  · exact usable.registered owner told

/-- A class that cannot be used has a register if one of its ancestors can give it. -/
theorem told_of_heard (regular : table.Regular) (inside : id.index < table.classes.length)
    (unregistered : ¬ table.Registered id) (heard : table.Heard id) :
    Standard.classes.classes.length ≤ id.index ∧
      ∃ owner, table.resolveAlong Hook.heir.name (table.get id).ancestors =
        some (owner, .method .register) := by
  have further : Standard.classes.classes.length ≤ id.index := by
    refine Nat.le_of_not_lt fun library => unregistered ?_
    exact regular.registered_of_heard (regular.usable_library library) heard
  refine ⟨further, ?_⟩
  rcases heard with ⟨owner, told⟩ | told
  · rcases own_or_inherited told with ⟨_, found⟩ | told
    · exact (regular.listed _ further inside _ _ found).elim
    · exact ⟨owner, told⟩
  · exact told

end Regular

namespace Regular

/-- What stands behind a new class can be used if its bases can. -/
theorem usable_ancestors (regular : table.Regular) {bases line : List ClassId}
    (usable : ∀ id ∈ bases, table.Usable id) (checked : table.checkedAncestors bases = .ok line) :
    ∀ c ∈ line, table.Usable c := by
  intro c behind
  obtain ⟨base, direct, there⟩ := exists_base_of_mem checked behind
  exact regular.line (forall_directBases (regular.usable_library (by decide)) usable base direct) c
    there

end Regular

/-! ### What stays -/

namespace Stays

theorem refl (table : ClassTable) : table.Stays table :=
  ⟨.refl table, fun _ _ => rfl, fun _ _ _ => .inl rfl⟩

theorem usable (stays : before.Stays after) (closed : before.Closed) (usable : before.Usable id) :
    after.Usable id where
  inside := Nat.lt_of_lt_of_le usable.inside stays.kept.length
  registered := by
    intro owner told
    rw [stays.kept.ancestors id usable.inside,
      stays.kept.resolveAlong (closed.ancestors id usable.inside) (by decide)] at told
    obtain ⟨names, found⟩ := usable.registered owner told
    exact ⟨names, (stays.register id usable).trans found⟩

theorem trans (closed : before.Closed) (first : before.Stays after) (second : after.Stays later) :
    before.Stays later where
  kept := first.kept.trans second.kept
  register := fun id usable =>
    (second.register id (first.usable closed usable)).trans (first.register id usable)
  replaced := by
    intro id inside name
    rcases second.replaced id (Nat.lt_of_lt_of_le inside first.kept.length) name with same | value
    · rw [same]
      exact first.replaced id inside name
    · exact .inr value

/-- What a class that can be used has under a name under which it keeps no elements. -/
theorem members (stays : before.Stays after) (usable : before.Usable id) (tight : name ∉ keptNames) :
    (after.get id).members.find? name = (before.get id).members.find? name := by
  by_cases register : name = registerName
  · rw [register]
    exact stays.register id usable
  · refine stays.kept.members id usable.inside name ?_
    rw [mem_looseNames]
    exact fun loose => loose.elim register tight

theorem resolve (stays : before.Stays after) (regular : before.Regular) (usable : before.Usable id)
    (tight : name ∉ keptNames) : after.resolve id name = before.resolve id name := by
  unfold ClassTable.resolve
  rw [stays.kept.line usable.inside]
  exact resolveAlong_congr fun c there => stays.members (regular.line usable c there) tight

theorem inheritedRegistry (stays : before.Stays after) {row : List ClassId}
    (usable : ∀ c ∈ row, before.Usable c) :
    after.inheritedRegistry row = before.inheritedRegistry row :=
  inheritedRegistry_congr fun c there => stays.register c (usable c there)

/-- A class that can be used supports the elements that it did. -/
theorem listing (stays : before.Stays after) (regular : before.Regular)
    (usable : before.Usable id) : after.listing id = before.listing id := by
  unfold ClassTable.listing ClassTable.listed
  rw [stays.resolve regular usable (by decide), stays.resolve regular usable (by decide),
    stays.kept.name id usable.inside]

/-- A register is still what registering the class again would give. -/
theorem settled (stays : before.Stays after) (regular : before.Regular)
    (inside : id.index < before.classes.length)
    (openers : openerNames (after.get id).members = openerNames (before.get id).members)
    {names : List String}
    (found : (before.get id).members.find? registerName = some (.data (.tags names))) :
    ∃ inherited, after.inheritedRegistry (after.get id).ancestors = .ok inherited ∧
      names = extendRegistry inherited (after.get id).members := by
  obtain ⟨inherited, continued, rfl⟩ := regular.settled id names found
  refine ⟨inherited, ?_, ?_⟩
  · rw [stays.kept.ancestors id inside, stays.inheritedRegistry (regular.ancestors id inside),
      continued]
  · unfold extendRegistry
    rw [openers]

end Stays

end ClassTable

theorem Member.Listed.stays {before after : ClassTable} {member : Member}
    (listed : member.Listed before) (stays : before.Stays after) (closed : before.Closed) :
    member.Listed after := by
  cases member with
  | opener target attachment => exact fun id same => stays.usable closed (listed id same)
  | plain => trivial
  | data value => trivial
  | _ => exact listed.elim

/-- What a body lists is what it defines. -/
theorem ClassBody.Lists.listed {table : ClassTable} {body : ClassBody} {name : String}
    {member : Member} (lists : body.Lists table name member) (regular : table.Regular) :
    member.Listed table := by
  cases lists with
  | @opener opener _ among named opens =>
      rintro id rfl
      exact regular.names _ _ (ClassTable.find?_of_target opens)
  | plain => trivial
  | blank => trivial
  | required listed named => trivial

namespace ClassTable

variable {table after : ClassTable} {id : ClassId} {name : String}

/-! ### Definitions -/

theorem Stays.push (table : ClassTable) (new : BuilderClass) :
    table.Stays (table.push new).2 where
  kept := .push table new
  register := fun id usable => by rw [get_push_of_lt usable.inside]
  replaced := fun id inside name => .inl (by rw [get_push_of_lt inside])

theorem Stays.bindName (table : ClassTable) (name : String) (id : ClassId) :
    table.Stays (table.bindName name id) :=
  ⟨.bindName table name id, fun _ _ => rfl, fun _ _ _ => .inl rfl⟩

namespace Regular

theorem push (regular : table.Regular) {new : BuilderClass}
    (ancestors : ∀ c ∈ new.ancestors, table.Usable c)
    (listed : ∀ name member, new.members.find? name = some member → member.Listed table)
    (unregistered : ∀ names, new.members.find? registerName ≠ some (.data (.tags names))) :
    (table.push new).2.Regular := by
  have stays := Stays.push table new
  constructor
  case library =>
    intro id library
    rw [get_push_of_lt (Nat.lt_of_lt_of_le library regular.length), regular.library id library]
  case length => exact Nat.le_trans regular.length stays.kept.length
  case ancestors =>
    intro id inside c there
    rcases push_cases new inside with old | rfl
    · rw [get_push_of_lt old] at there
      exact stays.usable regular.closed (regular.ancestors id old c there)
    · rw [get_push_new] at there
      exact stays.usable regular.closed (ancestors c there)
  case listed =>
    intro id further inside name member found
    rcases push_cases new inside with old | rfl
    · rw [get_push_of_lt old] at found
      exact (regular.listed id further old name member found).stays stays regular.closed
    · rw [get_push_new] at found
      exact (listed name member found).stays stays regular.closed
  case names => exact fun name id bound => stays.usable regular.closed (regular.names name id bound)
  case settled =>
    intro id names found
    rcases push_cases new (inside_of_find? found) with old | rfl
    · rw [get_push_of_lt old] at found
      exact stays.settled regular old (by rw [get_push_of_lt old]) found
    · rw [get_push_new] at found
      exact absurd found (unregistered names)

theorem bindName (regular : table.Regular) (usable : table.Usable id) (name : String) :
    (table.bindName name id).Regular := by
  have stays := Stays.bindName table name id
  constructor
  case library => exact regular.library
  case length => exact regular.length
  case ancestors =>
    exact fun other inside c there =>
      stays.usable regular.closed (regular.ancestors other inside c there)
  case listed =>
    exact fun other further inside name member found =>
      (regular.listed other further inside name member found).stays stays regular.closed
  case names =>
    intro other c bound
    rcases Bindings.find?_bind_eq_some bound with ⟨_, rfl⟩ | old
    · exact stays.usable regular.closed usable
    · exact stays.usable regular.closed (regular.names other c old)
  case settled =>
    exact fun other register found => stays.settled regular (inside_of_find? found) rfl found

/-- What an assignment to a class must be that a table allows. The class is none of the library's,
nothing is registered by it, and it puts a value under a private name. -/
theorem assign (regular : table.Regular) (further : Standard.classes.classes.length ≤ id.index)
    {value : Value} (hidden : isPrivate name = true)
    (stays : table.Stays (table.assign id name (.data value)))
    (settled : id.index < table.classes.length → ∀ names, name = registerName →
      value = .tags names → ∃ inherited,
        table.inheritedRegistry (table.get id).ancestors = .ok inherited ∧
          names = extendRegistry inherited (table.get id).members) :
    (table.assign id name (.data value)).Regular := by
  have length := length_classes_assign table id name (.data value)
  have others : ∀ c, c ≠ id → (table.assign id name (.data value)).get c = table.get c :=
    fun c ne => get_assign_of_ne table ne _ _
  have own : id.index < table.classes.length → (table.assign id name (.data value)).get id =
      { table.get id with members := (table.get id).members.bind name (.data value) } :=
    fun inside => get_assign_self inside _ _
  have bound : (table.assign id name (.data value)).names = table.names := rfl
  generalize table.assign id name (.data value) = after at length others own bound stays
  constructor
  case library =>
    intro c library
    rw [others c (by rintro rfl; omega), regular.library c library]
  case length => exact length ▸ regular.length
  case ancestors =>
    intro c inside d there
    rw [length] at inside
    rw [stays.kept.ancestors c inside] at there
    exact stays.usable regular.closed (regular.ancestors c inside d there)
  case listed =>
    intro c further inside other member found
    rw [length] at inside
    rcases stays.replaced c inside other with same | ⟨data, put⟩
    · rw [same] at found
      exact (regular.listed c further inside other member found).stays stays regular.closed
    · rw [put] at found
      cases found
      trivial
  case names =>
    exact fun other c found =>
      stays.usable regular.closed (regular.names other c (bound ▸ found))
  case settled =>
    intro c names found
    have inside : c.index < table.classes.length := length ▸ inside_of_find? found
    by_cases same : c = id
    · subst same
      have openers : openerNames (after.get c).members = openerNames (table.get c).members := by
        rw [own inside]
        exact openerNames_bind hidden
      rw [own inside] at found
      rcases Bindings.find?_bind_eq_some found with ⟨put, eq⟩ | old
      · cases eq
        obtain ⟨inherited, continued, rfl⟩ := settled inside names put.symm rfl
        refine ⟨inherited, ?_, ?_⟩
        · rw [stays.kept.ancestors c inside,
            stays.inheritedRegistry (regular.ancestors c inside), continued]
        · unfold extendRegistry
          rw [openers]
      · exact stays.settled regular inside openers old
    · rw [others c same] at found
      exact stays.settled regular inside (by rw [others c same]) found

end Regular

/-- Putting a value under a private name of a class, if that is not the register of one that can be
used, leaves what can be used as it was. -/
theorem Stays.assign (loose : name ∈ looseNames) (value : Value)
    (register : name = registerName → ¬ table.Usable id) :
    table.Stays (table.assign id name (.data value)) where
  kept := .assign table id loose _
  register := by
    intro c usable
    by_cases own : c = id
    · subst own
      rw [get_assign_self usable.inside]
      exact Bindings.find?_bind_of_ne _ (fun same => register same.symm usable) _
    · rw [get_assign_of_ne table own]
  replaced := by
    intro c _ other
    rcases table.get_assign_cases id c name (.data value) with same | put
    · exact .inl (by rw [same])
    · by_cases here : other = name
      · subst here
        exact .inr ⟨value, by rw [put]; exact Bindings.find?_bind_self _ _ _⟩
      · exact .inl (by rw [put]; exact Bindings.find?_bind_of_ne _ here _)

namespace Regular

/-- A class that is none of the library's may keep an element. -/
theorem keep (regular : table.Regular) (further : Standard.classes.classes.length ≤ id.index)
    {element : String} (ofClass : element ∈ Hook.ofClass) (made : Value) :
    (table.assign id (slotAttribute element) (.data made)).Regular ∧
      table.Stays (table.assign id (slotAttribute element) (.data made)) := by
  have kept : slotAttribute element ∈ keptNames := List.mem_map_of_mem ofClass
  have other : slotAttribute element ≠ registerName := by
    intro same
    rw [same] at kept
    revert kept
    decide
  have stays : table.Stays (table.assign id (slotAttribute element) (.data made)) :=
    .assign (mem_looseNames.2 (.inr kept)) made fun same => absurd same other
  exact ⟨regular.assign further (isPrivate_slotAttribute element) stays
    fun _ _ same => absurd same other, stays⟩

/-- Registering a class of which the classes behind it have heard gives it a register, and changes
nothing else. -/
theorem register (regular : table.Regular) (inside : id.index < table.classes.length)
    (heard : table.Heard id) (registered : table.registered id = .ok after) :
    after.Regular ∧ table.Stays after ∧ after.Registered id := by
  by_cases before : table.Registered id
  · obtain rfl := Except.ok.inj ((regular.registered_eq before).symm.trans registered)
    exact ⟨regular, .refl _, before⟩
  obtain ⟨further, owner, told⟩ := regular.told_of_heard inside before heard
  obtain ⟨inherited, continued, rfl⟩ := registered_eq_ok registered
  -- It cannot be used yet, so it is behind no other class.
  have stays : table.Stays (table.assign id registerName
      (.data (.tags (extendRegistry inherited (table.get id).members)))) :=
    .assign (by decide) _ fun _ usable => before (usable.registered owner told)
  refine ⟨regular.assign further (by decide) stays ?_, stays, ?_⟩
  · rintro _ names _ ⟨⟩
    exact ⟨inherited, continued, rfl⟩
  · unfold Registered
    rw [get_assign_self inside]
    exact ⟨_, Bindings.find?_bind_self _ _ _⟩

end Regular

/-- The classes at the start are regular. -/
theorem regular_standard : Standard.classes.Regular where
  library := hasLibrary_standard
  length := Nat.le_refl _
  ancestors := fun _ inside c behind => hasLibrary_standard.usable (Nat.le_refl _)
    (line_of_library _ inside c (List.mem_cons_of_mem _ behind))
  listed := fun _ further inside => absurd inside (Nat.not_lt.2 further)
  names := tidy_standard.names
  settled := tidy_standard.settled

end ClassTable

end ScopedHtml
