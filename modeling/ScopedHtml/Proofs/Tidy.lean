import ScopedHtml.Proofs.Inheritance

/-!
# ScopedHtml.Proofs.Tidy

**What holds of the classes in every state.** A table of classes is tidy (`ClassTable.Tidy`) if
the library's classes are what they are at the start, the others have what a body can define,
and every register is what registering the class again would give. What a name is bound to, or an
opener opens, can be used (`ClassTable.Usable`): it has a register if what is behind it asks
for one. So nothing that happens to a class in use changes it (`ClassTable.Tidy.registered_eq`).

A class keeps no elements itself (`Member.Defined`): an opener that works on its class, which is
one under a name of `Hook.ofClass`, does not keep its element in a slot.

Definitions keep tables tidy (`ClassTable.Tidy.push`, `ClassTable.Tidy.register`,
`ClassTable.Tidy.bindName`), and they leave the classes that can be used as they are
(`ClassTable.Grows`).
-/

namespace ScopedHtml

namespace ClassTable

/-- Whether a class has a register of its own. -/
def Registered (table : ClassTable) (id : ClassId) : Prop :=
  ∃ names, (table.get id).members.find? registerName = some (.data (.tags names))

/-- A class that has been told of: it has a register if that is what the classes behind it do
when they are told of a class. -/
structure Usable (table : ClassTable) (id : ClassId) : Prop where
  inside : id.index < table.classes.length
  registered : ∀ owner, table.resolveAlong Hook.heir.name (table.get id).ancestors =
    some (owner, .method .register) → table.Registered id

end ClassTable

/-- What a body can define under a name. -/
def Member.Defined (table : ClassTable) (name : String) : Member → Prop
  | .opener target attachment => (name ∈ Hook.ofClass → attachment ≠ .slot) ∧
      ∀ id, target = .fixed id → table.Usable id
  | .plain => True
  | .data _ => True
  | _ => False

namespace ClassTable

/-- The classes of a state. -/
structure Tidy (table : ClassTable) : Prop where
  library : table.HasLibrary
  length : Standard.classes.classes.length ≤ table.classes.length
  closed : table.Closed
  behind : ∀ id : ClassId, Standard.classes.classes.length ≤ id.index →
    id.index < table.classes.length → ∀ c ∈ (table.get id).ancestors, c.index < id.index
  defined : ∀ id : ClassId, Standard.classes.classes.length ≤ id.index →
    id.index < table.classes.length → ∀ name member,
      (table.get id).members.find? name = some member → member.Defined table name
  names : ∀ name id, table.names.find? name = some id → table.Usable id
  settled : ∀ id names, (table.get id).members.find? registerName = some (.data (.tags names)) →
    ∃ inherited, table.inheritedRegistry (table.get id).ancestors = .ok inherited ∧
      names = extendRegistry inherited (table.get id).members

/-- One table comes from another in which what could be used is what it was. -/
structure Grows (before after : ClassTable) : Prop where
  length : before.classes.length ≤ after.classes.length
  same : ∀ id, before.Usable id → ∀ c ∈ before.line id, after.get c = before.get c

variable {table before after later : ClassTable} {id : ClassId} {name : String}

/-! ### Growing -/

namespace Grows

theorem refl (table : ClassTable) : table.Grows table := ⟨Nat.le_refl _, fun _ _ _ _ => rfl⟩

theorem get (grows : before.Grows after) (usable : before.Usable id) :
    after.get id = before.get id :=
  grows.same id usable id List.mem_cons_self

theorem line (grows : before.Grows after) (usable : before.Usable id) :
    after.line id = before.line id :=
  line_congr (grows.get usable)

theorem resolve (grows : before.Grows after) (usable : before.Usable id) (name : String) :
    after.resolve id name = before.resolve id name := by
  unfold ClassTable.resolve
  rw [grows.line usable]
  exact resolveAlong_congr fun c there => by rw [grows.same id usable c there]

theorem usable (grows : before.Grows after) (usable : before.Usable id) : after.Usable id where
  inside := Nat.lt_of_lt_of_le usable.inside grows.length
  registered := by
    intro owner told
    unfold Registered
    rw [grows.get usable] at told ⊢
    have same : after.resolveAlong Hook.heir.name (before.get id).ancestors =
        before.resolveAlong Hook.heir.name (before.get id).ancestors :=
      resolveAlong_congr fun c there => by
        rw [grows.same id usable c (List.mem_cons_of_mem _ there)]
    exact usable.registered owner (same.symm.trans told)

theorem trans (first : before.Grows after) (second : after.Grows later) : before.Grows later where
  length := Nat.le_trans first.length second.length
  same := by
    intro id usable c there
    have there' : c ∈ after.line id := by rwa [first.line usable]
    rw [second.same id (first.usable usable) c there', first.same id usable c there]

end Grows

end ClassTable

theorem Member.Defined.grows {before after : ClassTable} {name : String} {member : Member}
    (defined : member.Defined before name) (grows : before.Grows after) :
    member.Defined after name := by
  cases member with
  | opener target attachment =>
      exact ⟨defined.1, fun id same => grows.usable (defined.2 id same)⟩
  | plain => exact defined
  | data value => exact defined
  | _ => exact defined.elim

namespace ClassTable

variable {table after : ClassTable} {id : ClassId} {name : String}

/-! ### Assigning what is there -/

/-- Assigning a member that a class has changes nothing. -/
theorem assign_of_found {member : Member}
    (found : (table.get id).members.find? name = some member) :
    table.assign id name member = table := by
  have bound : (table.get id).members.bind name member = (table.get id).members :=
    Bindings.bind_of_find? found
  unfold ClassTable.assign
  unfold ClassTable.get at bound
  have classes : table.classes.modify id.index (fun owner =>
      { owner with members := owner.members.bind name member }) = table.classes := by
    refine List.ext_getElem (by simp) fun index there there' => ?_
    rw [List.getElem_modify]
    split
    · next same =>
        subst same
        rw [List.getD_eq_getElem?_getD, List.getElem?_eq_getElem there'] at bound
        simp only [Option.getD_some] at bound
        rw [bound]
    · rfl
  rw [classes]

/-- Registering a class once more changes nothing if its register is what that gives. -/
theorem registered_of_settled {names : List String}
    (found : (table.get id).members.find? registerName = some (.data (.tags names)))
    (settled : ∃ inherited, table.inheritedRegistry (table.get id).ancestors = .ok inherited ∧
      names = extendRegistry inherited (table.get id).members) :
    table.registered id = .ok table := by
  obtain ⟨inherited, continued, rfl⟩ := settled
  rw [registered_eq_map, continued]
  exact congrArg Except.ok (assign_of_found found)

/-! ### What tidy tables have -/

/-- What a class has under a name is one of the library's members, unless it is a further class. -/
theorem HasLibrary.member (library : table.HasLibrary) {found : Member}
    (has : (table.get id).members.find? name = some found) :
    (id.index < Standard.classes.classes.length ∧
        ∃ c ∈ Standard.classes.classes, c.members.find? name = some found) ∨
      Standard.classes.classes.length ≤ id.index := by
  by_cases inside : id.index < Standard.classes.classes.length
  · rw [library id inside] at has
    exact .inl ⟨inside, _, Standard.get_mem inside, has⟩
  · exact .inr (Nat.le_of_not_lt inside)

namespace Tidy

/-- What a class has under a name is one of the library's members or what a body can define. -/
theorem member (tidy : table.Tidy) {owner : ClassId} {found : Member}
    (inside : owner.index < table.classes.length)
    (has : (table.get owner).members.find? name = some found) :
    (owner.index < Standard.classes.classes.length ∧
        ∃ c ∈ Standard.classes.classes, c.members.find? name = some found) ∨
      found.Defined table name := by
  exact (tidy.library.member has).imp_right fun further =>
    tidy.defined owner further inside name found has

theorem resolved (tidy : table.Tidy) (inside : id.index < table.classes.length)
    {found : Member} (has : table.Has id name found) :
    (∃ c ∈ Standard.classes.classes, c.members.find? name = some found) ∨
      found.Defined table name := by
  obtain ⟨owner, there, member⟩ := has
  exact (tidy.member (tidy.closed.line inside owner there) member).imp_left And.right

end Tidy

end ClassTable

/-- The name under which the library has a method. -/
def Method.name : Method → String
  | .build => "build"
  | .missing => "missing"
  | .elements => "elements"
  | .paragraph => "p"
  | .append => "append"
  | .title => "title"
  | .report => Hook.unknown.name
  | .register => Hook.heir.name

/-- Whether a member stands under a name that the library has for members like it. -/
def Member.inPlace (name : String) : Member → Bool
  | .method called => name = called.name
  | .property .isFinalized => name = "is_finalized"
  | .property .children => name = "children"
  | .starter _ => name = Hook.start.name
  | .maker _ => name = "_make_node"
  | .opener _ _ => name ∉ Hook.ofClass
  | .inherent => false
  | _ => true

/-- Whether a member, if it opens a class of its own choice, opens one of the library's. -/
def Member.opensLibrary : Member → Bool
  | .opener (.fixed id) _ => id.index < Standard.classes.classes.length
  | _ => true

/-- In the library's classes all members are in place. -/
theorem Standard.inPlace {c : BuilderClass} (among : c ∈ Standard.classes.classes) {name : String}
    {member : Member} (found : c.members.find? name = some member) : member.inPlace name = true := by
  have all : ∀ c ∈ Standard.classes.classes, ∀ entry ∈ c.members.entries,
      entry.2.inPlace entry.1 = true := by decide
  exact all c among _ (Bindings.mem_of_findIn found)

/-- The openers of the library's classes open the library's classes. -/
theorem Standard.opens_library {c : BuilderClass} (among : c ∈ Standard.classes.classes)
    {name : String} {opened : ClassId} {attachment : Attachment}
    (found : c.members.find? name = some (.opener (.fixed opened) attachment)) :
    opened.index < Standard.classes.classes.length := by
  have all : ∀ c ∈ Standard.classes.classes, ∀ entry ∈ c.members.entries,
      entry.2.opensLibrary = true := by decide
  exact of_decide_eq_true (all c among _ (Bindings.mem_of_findIn found))

namespace ClassTable

variable {table after : ClassTable} {id : ClassId} {name : String}

/-- The library's classes of builders have registers. -/
theorem HasLibrary.registered (library : table.HasLibrary)
    (inside : id.index < Standard.classes.classes.length) (other : id ≠ Standard.root) :
    table.Registered id := by
  unfold Registered
  rw [library id inside]
  revert other
  refine forall_library ?_ ?_ ?_ ?_ ?_ ?_ ?_ inside
  case refine_7 => exact fun other => absurd rfl other
  all_goals exact fun _ => ⟨_, rfl⟩

/-- The library's classes can be used. -/
theorem HasLibrary.usable (library : table.HasLibrary)
    (length : Standard.classes.classes.length ≤ table.classes.length)
    (inside : id.index < Standard.classes.classes.length) : table.Usable id where
  inside := Nat.lt_of_lt_of_le inside length
  registered := by
    intro owner told
    refine library.registered inside ?_
    rintro rfl
    rw [library _ inside] at told
    cases told

/-- A class that can be used and hears of new classes has a register. Only the library has members
that register. -/
theorem Usable.registered_of_told (usable : table.Usable id) (library : table.HasLibrary)
    (further : Standard.classes.classes.length ≤ id.index →
      (table.get id).members.find? Hook.heir.name ≠ some (.method .register)) {owner : ClassId}
    (told : table.resolve id Hook.heir.name = some (owner, .method .register)) :
    table.Registered id := by
  rcases own_or_inherited told with ⟨_, found⟩ | told
  · rcases library.member found with ⟨inside, _⟩ | outside
    · refine library.registered inside ?_
      rintro rfl
      rw [library _ inside] at found
      cases found
    · exact absurd found (further outside)
  · exact usable.registered owner told

namespace Tidy

/-- What works on classes keeps nothing in a slot of them. -/
theorem attachment_ne_slot (tidy : table.Tidy) (inside : id.index < table.classes.length)
    {target : Target} {attachment : Attachment}
    (has : table.Has id name (.opener target attachment))
    (ofClass : name ∈ Hook.ofClass) : attachment ≠ .slot := by
  rcases tidy.resolved inside has with ⟨c, among, found⟩ | defined
  · have outside := Standard.inPlace among found
    rw [Member.inPlace, decide_eq_true_eq] at outside
    exact absurd ofClass outside
  · exact defined.1 ofClass

/-- What no body can define stands where the library has it. -/
theorem placed (tidy : table.Tidy) (inside : id.index < table.classes.length)
    {found : Member} (has : table.Has id name found)
    (foreign : ¬ found.Defined table name) : found.inPlace name = true := by
  rcases tidy.resolved inside has with ⟨c, among, found⟩ | defined
  · exact Standard.inPlace among found
  · exact absurd defined foreign

/-- What is called when a class is defined has been defined, or registers its openers. -/
theorem heir (tidy : table.Tidy) {owner : ClassId} {found : Member}
    (inside : owner.index < table.classes.length)
    (has : (table.get owner).members.find? Hook.heir.name = some found) :
    found.Defined table Hook.heir.name ∨ found = .method .register := by
  rcases tidy.member inside has with ⟨_, c, among, known⟩ | defined
  · exact .inr (Standard.heir_eq among known)
  · exact .inl defined

/-- A class that tells what is missing has required names. -/
theorem required (tidy : table.Tidy) (inside : id.index < table.classes.length)
    (has : table.Has id name (.method .missing)) :
    table.resolve id "_required" ≠ none := by
  have placed : name = "missing" := of_decide_eq_true (tidy.placed inside has not_false)
  obtain ⟨owner, there, member⟩ := has
  rcases tidy.member (tidy.closed.line inside owner there) member with ⟨library, _⟩ | absurd
  · have all : ∀ c ∈ Standard.classes.classes, (c.members.find? "missing").isSome →
        (c.members.find? "_required").isSome := by decide
    rw [tidy.library owner library, placed] at member
    obtain ⟨names, found⟩ := Option.isSome_iff_exists.1
      (all _ (Standard.get_mem library) (by rw [member]; rfl))
    exact resolveAlong_ne_none there ((congrArg (fun c => c.members.find? "_required")
      (tidy.library owner library)).trans found)
  · exact absurd.elim

/-- A class that is opened early can be used. -/
theorem usable_target (tidy : table.Tidy) (inside : id.index < table.classes.length)
    {opened : ClassId} {attachment : Attachment}
    (has : table.Has id name (.opener (.fixed opened) attachment)) : table.Usable opened := by
  rcases tidy.resolved inside has with ⟨c, among, found⟩ | defined
  · exact tidy.library.usable tidy.length (Standard.opens_library among found)
  · exact defined.2 opened rfl

/-- A class that hears of new classes itself has a register. -/
theorem registered_of_told (tidy : table.Tidy) (usable : table.Usable id) {owner : ClassId}
    (told : table.resolve id Hook.heir.name = some (owner, .method .register)) :
    table.Registered id :=
  usable.registered_of_told tidy.library
    (fun further found => tidy.defined _ further usable.inside _ _ found) told

/-- Registering a class that can be used once more changes nothing. -/
theorem registered_eq (tidy : table.Tidy) (registered : table.Registered id) :
    table.registered id = .ok table := by
  obtain ⟨names, found⟩ := registered
  exact registered_of_settled found (tidy.settled id names found)

end Tidy

/-! ### Definitions -/

theorem Grows.push (closed : table.Closed) (new : BuilderClass) :
    table.Grows (table.push new).2 where
  length := by simp
  same := fun _ usable c there => get_push_of_lt (closed.line usable.inside c there) new

theorem Grows.bindName (table : ClassTable) (name : String) (id : ClassId) :
    table.Grows (table.bindName name id) := ⟨Nat.le_refl _, fun _ _ _ _ => rfl⟩

/-- Binding a private name registers nothing. -/
theorem openerNames_bind {members : Bindings String Member} {value : Member}
    (hidden : isPrivate name = true) :
    openerNames (members.bind name value) = openerNames members := by
  obtain ⟨entries⟩ := members
  unfold openerNames Bindings.bind
  dsimp only
  induction entries with
  | nil => simp [Bindings.bindIn, hidden]
  | cons entry rest ih =>
      rw [Bindings.bindIn]
      split
      · next same => simp [← same, same ▸ hidden]
      · rw [List.filter_cons, List.filter_cons]
        split
        · rw [List.map_cons, List.map_cons, ih]
        · exact ih

namespace Tidy

theorem push (tidy : table.Tidy) {new : BuilderClass}
    (ancestors : ∀ c ∈ new.ancestors, c.index < table.classes.length)
    (defined : ∀ name member, new.members.find? name = some member → member.Defined table name)
    (unregistered : ∀ names, new.members.find? registerName ≠ some (.data (.tags names))) :
    (table.push new).2.Tidy := by
  have grows := Grows.push tidy.closed new
  constructor
  case library =>
    intro id library
    rw [get_push_of_lt (Nat.lt_of_lt_of_le library tidy.length), tidy.library id library]
  case length => exact Nat.le_trans tidy.length grows.length
  case closed => exact tidy.closed.push ancestors
  case behind =>
    intro id further inside c there
    rcases push_cases new inside with old | rfl
    · rw [get_push_of_lt old] at there
      exact tidy.behind id further old c there
    · rw [get_push_new] at there
      exact ancestors c there
  case defined =>
    intro id further inside name member found
    rcases push_cases new inside with old | rfl
    · rw [get_push_of_lt old] at found
      exact (tidy.defined id further old name member found).grows grows
    · rw [get_push_new] at found
      exact (defined name member found).grows grows
  case names => exact fun name id bound => grows.usable (tidy.names name id bound)
  case settled =>
    intro id names found
    rcases push_cases new (inside_of_find? found) with old | rfl
    · rw [get_push_of_lt old] at found ⊢
      have same : (table.push new).2.inheritedRegistry (table.get id).ancestors =
          table.inheritedRegistry (table.get id).ancestors := inheritedRegistry_congr fun c there => by
        rw [get_push_of_lt (tidy.closed.ancestors id old c there)]
      rw [same]
      exact tidy.settled id names found
    · rw [get_push_new] at found
      exact absurd found (unregistered names)

theorem bindName (tidy : table.Tidy) (usable : table.Usable id) (name : String) :
    (table.bindName name id).Tidy where
  library := tidy.library
  length := tidy.length
  closed := tidy.closed.bindName name usable.inside
  behind := tidy.behind
  defined := fun id further inside other member found =>
    (tidy.defined id further inside other member found).grows (Grows.bindName table name _)
  names := by
    intro other c bound
    rcases Bindings.find?_bind_eq_some bound with ⟨_, rfl⟩ | old
    · exact (Grows.bindName table name _).usable usable
    · exact (Grows.bindName table name _).usable (tidy.names other c old)
  settled := by
    intro other register found
    have same : (table.bindName name id).inheritedRegistry (table.get other).ancestors =
        table.inheritedRegistry (table.get other).ancestors :=
      inheritedRegistry_congr fun _ _ => rfl
    obtain ⟨inherited, continued, eq⟩ := tidy.settled other register found
    exact ⟨inherited, same.trans continued, eq⟩

/-- The classes that can be used stay what they are when another one is registered that nothing
inherits from. -/
theorem grows_register (unregistered : ¬ table.Registered id)
    (unheard : ∀ c : ClassId, c.index < table.classes.length → id ∉ (table.get c).ancestors)
    {owner : ClassId} (told : table.resolveAlong Hook.heir.name (table.get id).ancestors =
      some (owner, .method .register)) (register : Member) :
    table.Grows (table.assign id registerName register) := by
  refine ⟨Nat.le_of_eq (length_classes_assign table id registerName register).symm,
    fun c usable d there => get_assign_of_ne table ?_ _ _⟩
  rintro rfl
  rcases List.mem_cons.1 there with rfl | there
  · exact unregistered (usable.registered owner told)
  · exact unheard c usable.inside there

/-- When a class has been registered that nothing inherits from, every register is what registering
its class again would give. -/
theorem settled_register (tidy : table.Tidy) (inside : id.index < table.classes.length)
    (unheard : ∀ c : ClassId, c.index < table.classes.length → id ∉ (table.get c).ancestors)
    {inherited : List String}
    (continued : table.inheritedRegistry (table.get id).ancestors = .ok inherited)
    (registered : after = table.assign id registerName
      (.data (.tags (extendRegistry inherited (table.get id).members))))
    (c : ClassId) {register : List String}
    (found : (after.get c).members.find? registerName = some (.data (.tags register))) :
    ∃ inherited, after.inheritedRegistry (after.get c).ancestors = .ok inherited ∧
      register = extendRegistry inherited (after.get c).members := by
  have others : ∀ c, c ≠ id → after.get c = table.get c := fun c ne =>
    registered ▸ get_assign_of_ne table ne _ _
  -- Nothing stands on the class, so what is looked up behind others is what it was.
  have behind : ∀ c : ClassId, c.index < table.classes.length →
      after.inheritedRegistry (table.get c).ancestors =
        table.inheritedRegistry (table.get c).ancestors := fun c there =>
    inheritedRegistry_congr fun d ancestor => by
      rw [others d fun same => unheard c there (same ▸ ancestor)]
  by_cases same : c = id
  · subst same
    have own := get_assign_self inside registerName
      (.data (.tags (extendRegistry inherited (table.get c).members)))
    rw [← registered] at own
    rw [own] at found ⊢
    dsimp only at found ⊢
    rw [Bindings.find?_bind_self] at found
    cases found
    refine ⟨inherited, (behind c inside).trans continued, ?_⟩
    unfold extendRegistry
    rw [openerNames_bind (by decide)]
  · rw [others c same] at found ⊢
    rw [behind c (inside_of_find? found)]
    exact tidy.settled c register found

/-- Registering a new class that nothing inherits from keeps a table tidy. -/
theorem register (tidy : table.Tidy) (further : Standard.classes.classes.length ≤ id.index)
    (inside : id.index < table.classes.length)
    (unheard : ∀ c : ClassId, c.index < table.classes.length → id ∉ (table.get c).ancestors)
    {owner : ClassId} (told : table.resolveAlong Hook.heir.name (table.get id).ancestors =
      some (owner, .method .register)) (registered : table.registered id = .ok after) :
    after.Tidy ∧ table.Grows after ∧ after.Registered id := by
  by_cases before : table.Registered id
  · obtain rfl := Except.ok.inj ((tidy.registered_eq before).symm.trans registered)
    exact ⟨tidy, .refl _, before⟩
  obtain ⟨inherited, continued, rfl⟩ := registered_eq_ok registered
  have settled := tidy.settled_register inside unheard continued rfl
  generalize extendRegistry inherited (table.get id).members = names at settled ⊢
  have grows := grows_register before unheard told (.data (.tags names))
  have own := get_assign_self inside registerName (.data (.tags names))
  have others : ∀ c, c ≠ id → (table.assign id registerName (.data (.tags names))).get c =
      table.get c := fun c ne => get_assign_of_ne table ne _ _
  have closed := tidy.closed.assign id registerName (.data (.tags names))
  have length := length_classes_assign table id registerName (.data (.tags names))
  have bound : (table.assign id registerName (.data (.tags names))).names = table.names := rfl
  generalize table.assign id registerName (.data (.tags names)) = after
    at own others closed length bound grows settled ⊢
  have ancestors : ∀ c, (after.get c).ancestors = (table.get c).ancestors := by
    intro c
    by_cases same : c = id
    · subst same
      rw [own]
    · rw [others c same]
  refine ⟨?_, grows, ?_⟩
  · constructor
    case library =>
      intro c library
      rw [others c (by rintro rfl; omega), tidy.library c library]
    case length => exact length ▸ tidy.length
    case closed => exact closed
    case behind =>
      intro c further there
      rw [ancestors c]
      exact tidy.behind c further (length ▸ there)
    case defined =>
      intro c further there name member found
      by_cases same : c = id
      · subst same
        rw [own] at found
        rcases Bindings.find?_bind_eq_some found with ⟨_, rfl⟩ | old
        · trivial
        · exact (tidy.defined c further inside name member old).grows grows
      · rw [others c same] at found
        exact (tidy.defined c further (length ▸ there) name member found).grows grows
    case names => exact fun name c found => grows.usable (tidy.names name c (bound ▸ found))
    case settled => exact fun c _ found => settled c found
  · refine ⟨names, ?_⟩
    rw [own]
    exact Bindings.find?_bind_self _ _ _

end Tidy

/-- The classes at the start are tidy. -/
theorem tidy_standard : Standard.classes.Tidy where
  library := hasLibrary_standard
  length := Nat.le_refl _
  closed := closed_standard
  behind := fun id further inside => absurd inside (Nat.not_lt.2 further)
  defined := fun id further inside => absurd inside (Nat.not_lt.2 further)
  names := by
    intro name id bound
    have all : ∀ entry ∈ Standard.classes.names.entries,
        entry.2.index < Standard.classes.classes.length := by decide
    exact hasLibrary_standard.usable (Nat.le_refl _) (all _ (Bindings.mem_of_findIn bound))
  settled := by
    intro id names found
    have inside := inside_of_find? found
    revert found
    refine forall_library ?_ ?_ ?_ ?_ ?_ ?_ ?_ inside
    case refine_7 =>
      intro found
      cases found
    all_goals
      rintro ⟨⟩
      exact ⟨_, rfl, rfl⟩

end ClassTable

end ScopedHtml
