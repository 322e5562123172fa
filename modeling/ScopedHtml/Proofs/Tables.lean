import Mathlib.Data.List.Forall2
import ScopedHtml.Proofs.Swap
import ScopedHtml.Proofs.Tidy

/-!
# ScopedHtml.Proofs.Tables

**Classes before and after a swap.** `Swap.Tables left right` says of the classes of two runs that
they are alike, class by class, and that the swap is one: either it changes nothing, or its new
class stands directly on the old one and has only hidden names of its own (`Swap.Replaces`). Then
classes that stand for each other (`Swap.Twins`) have the same under every name that is not hidden
(`Swap.Tables.resolve`), and what the library asks a class for turns out alike.
-/

namespace ScopedHtml

/-! ### Members -/

namespace Swap

variable {swap : Swap}

/-- Tables of members. -/
def Rows (swap : Swap) (members members' : Bindings String Member) : Prop :=
  List.Forall₂ (fun entry entry' => entry'.1 = entry.1 ∧ swap.Members entry.2 entry'.2)
    members.entries members'.entries

theorem Rows.refl (members : Bindings String Member) : swap.Rows members members :=
  List.forall₂_same.2 fun entry _ => ⟨rfl, .same entry.2⟩

theorem Rows.find? {members members' : Bindings String Member} (rows : swap.Rows members members')
    (name : String) : Option.Rel swap.Members (members.find? name) (members'.find? name) := by
  obtain ⟨entries⟩ := members
  obtain ⟨entries'⟩ := members'
  unfold Rows at rows
  unfold Bindings.find?
  dsimp only at rows ⊢
  induction rows with
  | nil => exact .none
  | cons alike _ ih =>
      rw [Bindings.findIn, Bindings.findIn, alike.1]
      split
      · exact .some alike.2
      · exact ih

theorem Rows.bind {members members' : Bindings String Member} (rows : swap.Rows members members')
    (name : String) {member member' : Member} (alike : swap.Members member member') :
    swap.Rows (members.bind name member) (members'.bind name member') := by
  obtain ⟨entries⟩ := members
  obtain ⟨entries'⟩ := members'
  unfold Rows at rows ⊢
  unfold Bindings.bind
  dsimp only at rows ⊢
  induction rows with
  | nil => exact .cons ⟨rfl, alike⟩ .nil
  | cons here rest ih =>
      rw [Bindings.bindIn, Bindings.bindIn, here.1]
      split
      · exact .cons ⟨rfl, alike⟩ rest
      · exact .cons ⟨rfl, here.2⟩ ih

theorem Members.isOpener {member member' : Member} (alike : swap.Members member member') :
    member'.isOpener = member.isOpener := by
  cases alike <;> rfl

theorem Rows.openerNames {members members' : Bindings String Member}
    (rows : swap.Rows members members') : openerNames members' = openerNames members := by
  obtain ⟨entries⟩ := members
  obtain ⟨entries'⟩ := members'
  unfold Rows at rows
  unfold ScopedHtml.openerNames
  dsimp only at rows ⊢
  induction rows with
  | nil => rfl
  | cons here _ ih =>
      rw [List.filter_cons, List.filter_cons, here.1, here.2.isOpener]
      split
      · rw [List.map_cons, List.map_cons, here.1, ih]
      · exact ih

/-! ### Classes -/

/-- Classes. -/
structure Classes (swap : Swap) (owner owner' : BuilderClass) : Prop where
  name : owner'.name = owner.name
  ancestors : owner'.ancestors = owner.ancestors
  members : swap.Rows owner.members owner'.members

theorem Classes.refl (owner : BuilderClass) : swap.Classes owner owner := ⟨rfl, rfl, .refl _⟩

/-- The new class of a swap stands directly on the old one and has nothing of its own but under
hidden names, none of which is required of any builder. -/
structure Replaces (swap : Swap) (table : ClassTable) : Prop where
  old : table.Usable swap.oldId
  new : table.Usable swap.newId
  further : Standard.classes.classes.length ≤ swap.newId.index
  builder : Standard.builderBase ∈ table.line swap.oldId
  line : table.line swap.newId = swap.newId :: table.line swap.oldId
  own : ∀ name, (table.get swap.newId).members.find? name ≠ Option.none → swap.hidden name
  /-- What the members of the old class make the library look up is not hidden. -/
  looks : ∀ c ∈ table.line swap.oldId, ∀ name member,
    (table.get c).members.find? name = some member → ∀ other ∈ member.looks, ¬ swap.hidden other
  register : ∀ member, (table.get swap.newId).members.find? registerName = some member →
    ∃ names, member = .data (.tags names)
  oldTitle : (table.get swap.oldId).name = swap.oldTitle
  newTitle : (table.get swap.newId).name = swap.newTitle
  oldName : table.names.find? swap.oldName = some swap.oldId
  newName : table.names.find? swap.newName = some swap.newId
  clean : ∀ id value, (table.get id).members.find? "_required" = some (.data value) →
    swap.Clean value
  /-- What is kept as the required names by an opener may be what another class answers instead
  of being built. -/
  answer : ∀ id target, (table.get id).members.find? "required" = some (.opener target .slot) →
    swap.Clean (plainAnswer "build")

/-- The classes of two runs that differ in the swap. -/
structure Tables (swap : Swap) (left right : ClassTable) : Prop where
  tidy : left.Tidy
  tidy' : right.Tidy
  names : right.names = left.names
  length : right.classes.length = left.classes.length
  classes : ∀ id, swap.Classes (left.get id) (right.get id)
  swapped : swap.Still ∨ swap.Replaces left ∧ swap.Replaces right

/-- Classes that stand for each other and can be used. -/
structure Twins (swap : Swap) (left right : ClassTable) (id id' : ClassId) : Prop where
  stands : swap.Stands id id'
  usable : left.Usable id
  usable' : right.Usable id'

theorem Twins.grows {left right left' right' : ClassTable} {id id' : ClassId}
    (twins : swap.Twins left right id id') (grows : left.Grows left') (grows' : right.Grows right') :
    swap.Twins left' right' id id' :=
  ⟨twins.stands, grows.usable twins.usable, grows'.usable twins.usable'⟩

/-- Classes are alike to themselves if the swap changes nothing. -/
theorem Still.tables (still : swap.Still) {table : ClassTable} (tidy : table.Tidy) :
    swap.Tables table table :=
  ⟨tidy, tidy, rfl, rfl, fun _ => .refl _, .inl still⟩

/-- What the library looks up itself on all builders is not hidden. -/
theorem shown (swap : Swap) (id id' : ClassId) {name : String} (library : name ∈ libraryNames) :
    swap.Shown id id' name := .inr (swap.library name library)

namespace Tables

variable {left right : ClassTable} {id id' : ClassId} {name : String}

theorem line (tables : swap.Tables left right) (id : ClassId) : right.line id = left.line id := by
  unfold ClassTable.line
  rw [(tables.classes id).ancestors]

theorem resolveAlong (tables : swap.Tables left right) (name : String) (row : List ClassId) :
    Option.Rel swap.Origins (left.resolveAlong name row) (right.resolveAlong name row) := by
  induction row with
  | nil => exact .none
  | cons first rest ih =>
      rw [ClassTable.resolveAlong, ClassTable.resolveAlong]
      have here := (tables.classes first).members.find? name
      revert here
      generalize (left.get first).members.find? name = found
      generalize (right.get first).members.find? name = found'
      rintro (⟨alike⟩ | _)
      · exact .some (.mk _ alike)
      · exact ih

/-- A class stands for itself, or the swap replaces it. -/
theorem stands_cases (tables : swap.Tables left right) (stands : swap.Stands id id') :
    id' = id ∨ id = swap.oldId ∧ id' = swap.newId ∧ swap.Replaces left ∧ swap.Replaces right := by
  rcases stands with same | ⟨old, new⟩
  · exact .inl same
  · rcases tables.swapped with still | ⟨replaces, replaces'⟩
    · exact .inl (new.trans (still.id.trans old.symm))
    · exact .inr ⟨old, new, replaces, replaces'⟩

/-- Classes that stand for each other have the same under every name that is not hidden. -/
theorem resolve (tables : swap.Tables left right) (stands : swap.Stands id id')
    (shown : swap.Shown id id' name) :
    Option.Rel swap.Origins (left.resolve id name) (right.resolve id' name) := by
  unfold ClassTable.resolve
  rcases tables.stands_cases stands with rfl | ⟨rfl, rfl, _, replaces⟩
  · rw [tables.line]
    exact tables.resolveAlong name _
  · rw [replaces.line, ClassTable.resolveAlong]
    cases own : (right.get swap.newId).members.find? name with
    | some member =>
        rcases shown with same | shown
        · exact absurd (same ▸ replaces.line) (List.cons_ne_self _ _).symm
        · exact absurd (replaces.own name (by rw [own]; exact Option.some_ne_none _)) shown
    | none =>
        rw [tables.line]
        exact tables.resolveAlong name _

/-- What members in the line of a class make the library look up turns out alike. -/
theorem looks (tables : swap.Tables left right) (stands : swap.Stands id id') {member : Member}
    (has : left.Has id name member) {other : String} (among : other ∈ member.looks) :
    swap.Shown id id' other := by
  obtain ⟨owner, there, has⟩ := has
  rcases tables.stands_cases stands with same | ⟨rfl, _, replaces, _⟩
  · exact .inl same
  · exact .inr (replaces.looks owner there name member has other among)

/-- The new class has nothing of its own that no body can define. -/
theorem looks' (tables : swap.Tables left right) (stands : swap.Stands id id')
    (inside : id'.index < right.classes.length) {member : Member}
    (has : right.Has id' name member) (foreign : ¬ member.Defined right name)
    {other : String} (among : other ∈ member.looks) : swap.Shown id id' other := by
  rcases tables.stands_cases stands with same | ⟨rfl, rfl, _, replaces⟩
  · exact .inl same
  · obtain ⟨owner, there, has⟩ := has
    rw [replaces.line] at there
    rcases List.mem_cons.1 there with rfl | there
    · exact absurd (tables.tidy'.defined _ replaces.further inside name member has) foreign
    · exact .inr (replaces.looks owner there name member has other among)

theorem hook? (tables : swap.Tables left right) (stands : swap.Stands id id') (hook : Hook) :
    Option.Rel swap.Origins (left.hook? id hook) (right.hook? id' hook) :=
  tables.resolve stands (swap.shown _ _ (by cases hook <;> decide))

theorem titles (tables : swap.Tables left right) (stands : swap.Stands id id') :
    swap.Titles (left.get id).name (right.get id').name := by
  rcases tables.stands_cases stands with rfl | ⟨rfl, rfl, replaces, replaces'⟩
  · exact .inl (tables.classes _).name
  · exact .inr ⟨replaces.oldTitle, replaces'.newTitle⟩

theorem inherits (tables : swap.Tables left right) (stands : swap.Stands id id')
    {base : ClassId} (library : base.index < Standard.classes.classes.length) :
    right.inherits id' base = left.inherits id base := by
  unfold ClassTable.inherits
  rcases tables.stands_cases stands with rfl | ⟨rfl, rfl, _, replaces⟩
  · rw [tables.line]
  · have other : base ≠ swap.newId := by
      rintro rfl
      exact absurd library (Nat.not_lt.2 replaces.further)
    rw [replaces.line, tables.line]
    exact decide_eq_decide.2 ⟨fun there => (List.mem_cons.1 there).resolve_left other,
      List.mem_cons_of_mem _⟩

/-- Behind one of the library's classes, classes that stand for each other have the same. -/
theorem lineBehind (tables : swap.Tables left right) (stands : swap.Stands id id')
    {home : ClassId} (library : home.index < Standard.classes.classes.length) :
    right.lineBehind id' home = left.lineBehind id home := by
  unfold ClassTable.lineBehind
  rcases tables.stands_cases stands with rfl | ⟨rfl, rfl, _, replaces⟩
  · rw [tables.line]
  · have other : swap.newId ≠ home := by
      rintro rfl
      exact absurd library (Nat.not_lt.2 replaces.further)
    rw [replaces.line, tables.line, List.dropWhile_cons, if_pos (decide_eq_true other)]

/-- Twins that hear of new classes have been registered for good. -/
theorem registered (tables : swap.Tables left right) (twins : swap.Twins left right id id')
    {owner owner' : ClassId}
    (told : left.resolve id Hook.heir.name = some (owner, .method .register))
    (told' : right.resolve id' Hook.heir.name = some (owner', .method .register)) :
    left.registered id = .ok left ∧ right.registered id' = .ok right :=
  ⟨tables.tidy.registered_eq (tables.tidy.registered_of_told twins.usable told),
    tables.tidy'.registered_eq (tables.tidy'.registered_of_told twins.usable' told')⟩

/-! ### What is listed -/

theorem registerNames {member member' : Member} (alike : swap.Members member member') :
    ClassTable.registerNames member' = ClassTable.registerNames member := by
  cases alike <;> rfl

/-- What a class lists itself. -/
theorem listed_self (tables : swap.Tables left right) (id : ClassId) :
    right.listed id = left.listed id := by
  unfold ClassTable.listed ClassTable.resolve
  rw [tables.line, (tables.classes id).name]
  have along := tables.resolveAlong registerName (left.line id)
  revert along
  generalize left.resolveAlong registerName (left.line id) = found
  generalize right.resolveAlong registerName (left.line id) = found'
  rintro (⟨owner, alike⟩ | _)
  · exact registerNames alike
  · rfl

/-- What the new class of a swap lists. -/
theorem listed_new {table : ClassTable} (tidy : table.Tidy) (replaces : swap.Replaces table) :
    (∃ names names', table.listed swap.oldId = .ok names ∧ table.listed swap.newId = .ok names') ∨
      table.listed swap.newId = table.listed swap.oldId := by
  have known : table.resolve swap.oldId registerName ≠ Option.none := by
    have own : (table.get Standard.builderBase).members.find? registerName =
        some (.data (.tags [])) := by
      rw [tidy.library Standard.builderBase (by decide)]
      rfl
    exact ClassTable.resolveAlong_ne_none replaces.builder own
  have ancestors : (table.get swap.newId).ancestors = table.line swap.oldId :=
    (List.cons.inj replaces.line).2
  have resolved : table.resolve swap.newId registerName =
      table.resolveAlong registerName (swap.newId :: table.line swap.oldId) :=
    congrArg (table.resolveAlong registerName) replaces.line
  rw [ClassTable.resolveAlong] at resolved
  unfold ClassTable.listed
  rw [resolved]
  cases origin : table.resolve swap.oldId registerName with
  | none => exact absurd origin known
  | some origin =>
      unfold ClassTable.resolve at origin
      cases own : (table.get swap.newId).members.find? registerName with
      | none =>
          dsimp only
          rw [origin]
          exact .inr rfl
      | some member =>
          -- The register of the new class continues the one that the old class has.
          obtain ⟨names', rfl⟩ := replaces.register member own
          obtain ⟨inherited, continued, _⟩ := tidy.settled _ names' own
          unfold ClassTable.inheritedRegistry at continued
          rw [ancestors, origin] at continued
          exact .inl ⟨inherited, names', continued, rfl⟩

/-- What classes list that stand for each other. -/
theorem listed (tables : swap.Tables left right) (stands : swap.Stands id id') :
    Outcomes swap.Faults (fun names names' => swap.newId = swap.oldId → names' = names)
      (left.listed id) (right.listed id') := by
  rcases tables.stands_cases stands with rfl | ⟨rfl, rfl, _, replaces⟩
  · rw [tables.listed_self]
    exact .of_eq .same fun names _ => rfl
  · rcases listed_new tables.tidy' replaces with ⟨names, names', old, new⟩ | same
    · rw [← tables.listed_self, old, new]
      exact .ok fun same => absurd (same ▸ replaces.line) (List.cons_ne_self _ _).symm
    · rw [same, tables.listed_self]
      exact .of_eq .same fun names _ => rfl

/-- What a class answers itself. -/
theorem listing_self (tables : swap.Tables left right) (id : ClassId) :
    right.listing id = left.listing id := by
  unfold ClassTable.listing
  rw [tables.listed_self, (tables.classes id).name]
  have along : Option.Rel swap.Origins (left.resolve id "elements") (right.resolve id "elements") :=
    tables.resolve (.inl rfl) (.inl rfl)
  revert along
  generalize left.resolve id "elements" = found
  generalize right.resolve id "elements" = found'
  rintro (⟨owner, alike⟩ | _)
  · cases alike <;> rfl
  · rfl

/-! ### Names and targets -/

/-- What a name is bound to is its own twin. -/
theorem twins_of_bound (tables : swap.Tables left right)
    (bound : left.names.find? name = some id) : swap.Twins left right id id :=
  ⟨.inl rfl, tables.tidy.names name id bound,
    tables.tidy'.names name id (by rw [tables.names, bound])⟩

/-- The library's classes are their own twins. -/
theorem twins_of_library (tables : swap.Tables left right)
    (inside : id.index < Standard.classes.classes.length) : swap.Twins left right id id :=
  ⟨.inl rfl, tables.tidy.library.usable tables.tidy.length inside,
    tables.tidy'.library.usable tables.tidy'.length inside⟩

/-- What the swapped name of a class is bound to. -/
theorem named (tables : swap.Tables left right) (name : String) :
    Outcomes swap.Faults (swap.Twins left right) (left.named name)
      (right.named (swap.named name)) := by
  have itself : ∀ name, Outcomes swap.Faults (swap.Twins left right) (left.named name)
      (right.named name) := by
    intro name
    unfold ClassTable.named
    rw [tables.names]
    cases bound : left.names.find? name with
    | none => exact .error (.same _)
    | some id => exact .ok (tables.twins_of_bound bound)
  unfold Swap.named
  split
  · next same =>
      subst same
      rcases tables.swapped with still | ⟨replaces, replaces'⟩
      · rw [still.name]
        exact itself _
      · unfold ClassTable.named
        rw [replaces.oldName, replaces'.newName]
        exact .ok ⟨.inr ⟨rfl, rfl⟩, replaces.old, replaces'.new⟩
  · exact itself name

/-- What targets open that are alike. -/
theorem target (tables : swap.Tables left right) {target target' : Target}
    (alike : swap.Targets target target')
    (usable : ∀ opened, target = .fixed opened → left.Usable opened)
    (usable' : ∀ opened, target' = .fixed opened → right.Usable opened) (element : String)
    {s t : Store} (classes : s.classes = left) (classes' : t.classes = right) :
    Outcomes swap.Faults (swap.Twins left right) (s.target element target)
      (t.target element target') := by
  subst classes classes'
  have itself : ∀ name, Outcomes swap.Faults (swap.Twins s.classes t.classes)
      (s.target element (.late name)) (t.target element (.late name)) := by
    intro name
    unfold Store.target
    dsimp only
    rw [tables.names]
    cases bound : s.classes.names.find? name with
    | none => exact .error (.same _)
    | some id => exact .ok (tables.twins_of_bound bound)
  cases alike with
  | same target =>
      cases target with
      | fixed opened => exact .ok ⟨.inl rfl, usable _ rfl, usable' _ rfl⟩
      | late name => exact itself name
  | fixed => exact .ok ⟨.inr ⟨rfl, rfl⟩, usable _ rfl, usable' _ rfl⟩
  | late =>
      unfold Store.target
      dsimp only
      rcases tables.swapped with still | ⟨replaces, replaces'⟩
      · rw [still.name]
        exact itself _
      · rw [replaces.oldName, replaces'.newName]
        exact .ok ⟨.inr ⟨rfl, rfl⟩, replaces.old, replaces'.new⟩

/-! ### Elements of classes -/

/-- An opener that is called on a class leaves the class alone. -/
theorem attach (tables : swap.Tables left right) (stands : swap.Stands id id') (element : String)
    (made : Value) {attachment : Attachment} (loose : attachment ≠ .slot)
    (shown : attachment = .append → swap.Shown id id' "_children") :
    Outcomes swap.Faults (fun after after' => after = left ∧ after' = right)
      (left.attach id element made attachment) (right.attach id' element made attachment) := by
  cases attachment with
  | discard => exact .ok ⟨rfl, rfl⟩
  | slot => exact absurd rfl loose
  | append =>
      have children := tables.resolve stands (shown rfl)
      have titles := tables.titles stands
      unfold ClassTable.attach
      dsimp only
      revert children
      generalize left.resolve id "_children" = found
      generalize right.resolve id' "_children" = found'
      rintro (⟨owner, alike⟩ | _)
      · dsimp only
        rw [alike.typeName]
        exact .error (.same _)
      · exact .error (.noClassAttribute _ titles)

/-- Required names that a class has of its own are no hidden ones. -/
theorem clean (tables : swap.Tables left right) {value : Value}
    (own : (left.get id).members.find? "_required" = some (.data value)) : swap.Clean value := by
  rcases tables.swapped with still | ⟨replaces, _⟩
  · exact still.clean value
  · exact replaces.clean id value own

/-- What an opener of the required names may keep. -/
theorem answer (tables : swap.Tables left right) {target : Target}
    (own : (left.get id).members.find? "required" = some (.opener target .slot)) :
    swap.Clean (plainAnswer "build") := by
  rcases tables.swapped with still | ⟨replaces, _⟩
  · exact still.clean _
  · exact replaces.answer id target own

end Tables

end Swap

end ScopedHtml
