import ScopedHtml.Proofs.Registers

/-!
# ScopedHtml.Proofs.Swap

**What changes when a class is swapped for one that inherits from it.** A `Swap` names two
classes, the new one to stand for the old one, and the names that the new class has of its own
(`Swap.hidden`). Things of a run with the old class and of one with the new class are alike if
they differ in the swap only: targets of openers (`Swap.Targets`), members (`Swap.Members`), what
is found (`Swap.Founds`), and in faults and records the name of the class (`Swap.Faults`,
`Swap.Events`).

A swap may change nothing (`Swap.Still`). Then to be alike is to be equal, and two runs that are
alike are two runs of the same program from states that differ elsewhere.
-/

namespace ScopedHtml

/-- The names that the library looks up itself on all builders. -/
def libraryNames : List String :=
  [Hook.heir, .make, .start, .read, .unknown, .write, .call].map Hook.name ++
    [kindName, attributesName, "elements", "build", "missing", "_make_node", "_required",
      "_finalized", "is_finalized"]

/-- The names that a member makes the library look up besides. -/
def Member.looks : Member → List String
  | .opener _ .append => ["_children"]
  | .method .paragraph => ["_children"]
  | .method .append => ["_children"]
  | .method .title => ["_title"]
  | .property .children => ["children", "_children"]
  | .maker (some .head) => ["_title"]
  | .maker (some .body) => ["_children"]
  | .maker (some .division) => ["_children", "id", "class_name"]
  | .maker (some .document) => ["_head", "_body"]
  | _ => []

/-- A class, and another that is to stand for it. -/
structure Swap where
  oldId : ClassId
  newId : ClassId
  /-- The names that the classes are bound to. -/
  oldName : String
  newName : String
  /-- The names that messages have for them. -/
  oldTitle : String
  newTitle : String
  /-- The names under which the new class has something of its own. The library does not look
  them up itself on all builders. -/
  hidden : String → Prop
  library : ∀ name ∈ libraryNames, ¬ hidden name

/-! ### Results -/

/-- Two results that are both there and related or both faults and related. -/
inductive Outcomes {α β : Type} (faults : Fault → Fault → Prop) (R : α → β → Prop) :
    Except Fault α → Except Fault β → Prop
  | ok {a : α} {b : β} : R a b → Outcomes faults R (.ok a) (.ok b)
  | error {fault fault' : Fault} : faults fault fault' →
      Outcomes faults R (.error fault) (.error fault')

/-- What is related is there on both sides or on none. -/
theorem rel_cases {α β : Type} {R : α → β → Prop} {x : Option α} {y : Option β}
    (rel : Option.Rel R x y) :
    (x = none ∧ y = none) ∨ ∃ a b, x = some a ∧ y = some b ∧ R a b := by
  cases rel with
  | none => exact .inl ⟨rfl, rfl⟩
  | some related => exact .inr ⟨_, _, rfl, rfl, related⟩

namespace Outcomes

variable {α β : Type} {faults : Fault → Fault → Prop} {R : α → β → Prop}

theorem imp {faults' : Fault → Fault → Prop} {S : α → β → Prop} {result : Except Fault α}
    {result' : Except Fault β} (outcomes : Outcomes faults R result result')
    (alike : ∀ fault fault', faults fault fault' → faults' fault fault')
    (more : ∀ a b, R a b → S a b) : Outcomes faults' S result result' := by
  cases outcomes with
  | ok related => exact .ok (more _ _ related)
  | error same => exact .error (alike _ _ same)

theorem mono {S : α → β → Prop} {result : Except Fault α} {result' : Except Fault β}
    (outcomes : Outcomes faults R result result') (more : ∀ a b, R a b → S a b) :
    Outcomes faults S result result' :=
  outcomes.imp (fun _ _ => id) more

theorem of_eq {S : α → α → Prop} (same : ∀ fault, faults fault fault) {result : Except Fault α}
    (refl : ∀ a, S a a) : Outcomes faults S result result := by
  cases result with
  | ok a => exact .ok (refl a)
  | error fault => exact .error (same fault)

end Outcomes

namespace Swap

variable (swap : Swap)

/-! ### What is alike -/

/-- The name under which a class is used after the swap. -/
def named (name : String) : String := if name = swap.oldName then swap.newName else name

/-- Classes: each for itself, and the new one for the old one. -/
def Stands (id id' : ClassId) : Prop := id' = id ∨ id = swap.oldId ∧ id' = swap.newId

/-- Names under which classes that stand for each other have the same. -/
def Shown (id id' : ClassId) (name : String) : Prop := id' = id ∨ ¬ swap.hidden name

/-- Names of classes, in messages. -/
def Titles (title title' : String) : Prop :=
  title' = title ∨ title = swap.oldTitle ∧ title' = swap.newTitle

/-- Targets of openers. -/
inductive Targets : Target → Target → Prop
  | same (target : Target) : Targets target target
  | fixed : Targets (.fixed swap.oldId) (.fixed swap.newId)
  | late : Targets (.late swap.oldName) (.late swap.newName)

/-- Members of classes. -/
inductive Members : Member → Member → Prop
  | same (member : Member) : Members member member
  | opener {target target' : Target} (attachment : Attachment) : swap.Targets target target' →
      Members (.opener target attachment) (.opener target' attachment)

/-- Members with the classes that they come from. -/
inductive Origins : ClassId × Member → ClassId × Member → Prop
  | mk (owner : ClassId) {member member' : Member} : swap.Members member member' →
      Origins (owner, member) (owner, member')

/-- What is found under a name. -/
inductive Founds : Found → Found → Prop
  | value (held : Value) : Founds (.value held) (.value held)
  | callable (owner name : String) {member member' : Member} : swap.Members member member' →
      Founds (.callable owner name member) (.callable owner name member')

/-- Faults: those that name a class, and those that list what a class supports. -/
inductive Faults : Fault → Fault → Prop
  | same (fault : Fault) : Faults fault fault
  | missingChildren {title title' : String} (names : List Value) : swap.Titles title title' →
      Faults (.missingChildren title names) (.missingChildren title' names)
  | invalidChild {title title' type type' : String} : swap.Titles title title' →
      swap.Titles type type' → Faults (.invalidChild title type) (.invalidChild title' type')
  | noAttribute {title title' : String} (field : String) : swap.Titles title title' →
      Faults (.noAttribute title field) (.noAttribute title' field)
  | noClassAttribute {title title' : String} (field : String) : swap.Titles title title' →
      Faults (.noClassAttribute title field) (.noClassAttribute title' field)
  | noPrivateAttribute {title title' : String} (field : String) : swap.Titles title title' →
      Faults (.noPrivateAttribute title field) (.noPrivateAttribute title' field)
  | noElement {title title' : String} (element : String) {supported supported' : List String} :
      swap.Titles title title' → (swap.newId = swap.oldId → supported' = supported) →
      Faults (.noElement title element supported) (.noElement title' element supported')
  | noSetter {title title' : String} (field : String) : swap.Titles title title' →
      Faults (.noSetter title field) (.noSetter title' field)
  | notCallable {title title' : String} : swap.Titles title title' →
      Faults (.notCallable title) (.notCallable title')
  | abstractBuilder {title title' : String} : swap.Titles title title' →
      Faults (.abstractBuilder title) (.abstractBuilder title')
  | takesNoOptions {title title' : String} : swap.Titles title title' →
      Faults (.takesNoOptions title) (.takesNoOptions title')
  | noOptions {title title' : String} (member : String) : swap.Titles title title' →
      Faults (.noOptions (title ++ "." ++ member)) (.noOptions (title' ++ "." ++ member))

/-- Records of what was done. -/
inductive Events : Log.Event → Log.Event → Prop
  | same (event : Log.Event) : Events event event
  | finalized {title title' : String} (tag : String) : swap.Titles title title' →
      Events (.finalized title tag) (.finalized title' tag)

/-- A value of which nothing hidden is required when it stands for a list of required names. -/
def Clean (value : Value) : Prop :=
  ∀ items, value.items? = some items → ∀ item ∈ items, ¬ swap.hidden (slotAttribute item.written)

/-! ### Swaps that change nothing -/

/-- The two classes are one, and nothing is hidden. -/
structure Still : Prop where
  id : swap.newId = swap.oldId
  name : swap.newName = swap.oldName
  title : swap.newTitle = swap.oldTitle
  shown : ∀ name, ¬ swap.hidden name

variable {swap}

theorem Targets.eq_of_still (still : swap.Still) {target target' : Target}
    (alike : swap.Targets target target') : target' = target := by
  cases alike with
  | same => rfl
  | fixed => rw [still.id]
  | late => rw [still.name]

theorem Members.eq_of_still (still : swap.Still) {member member' : Member}
    (alike : swap.Members member member') : member' = member := by
  cases alike with
  | same => rfl
  | opener attachment targets => rw [targets.eq_of_still still]

theorem Founds.eq_of_still (still : swap.Still) {found found' : Found}
    (alike : swap.Founds found found') : found' = found := by
  cases alike with
  | value => rfl
  | callable owner name members => rw [members.eq_of_still still]

theorem Titles.eq_of_still (still : swap.Still) {title title' : String}
    (alike : swap.Titles title title') : title' = title := by
  rcases alike with same | ⟨rfl, rfl⟩
  · exact same
  · exact still.title

theorem Faults.eq_of_still (still : swap.Still) {fault fault' : Fault}
    (alike : swap.Faults fault fault') : fault' = fault := by
  cases alike with
  | same => rfl
  | invalidChild titles types => rw [titles.eq_of_still still, types.eq_of_still still]
  | noElement element titles supported => rw [titles.eq_of_still still, supported still.id]
  | missingChildren _ titles => rw [titles.eq_of_still still]
  | noAttribute _ titles => rw [titles.eq_of_still still]
  | noClassAttribute _ titles => rw [titles.eq_of_still still]
  | noPrivateAttribute _ titles => rw [titles.eq_of_still still]
  | noSetter _ titles => rw [titles.eq_of_still still]
  | notCallable titles => rw [titles.eq_of_still still]
  | abstractBuilder titles => rw [titles.eq_of_still still]
  | takesNoOptions titles => rw [titles.eq_of_still still]
  | noOptions _ titles => rw [titles.eq_of_still still]

theorem Events.eq_of_still (still : swap.Still) {event event' : Log.Event}
    (alike : swap.Events event event') : event' = event := by
  cases alike with
  | same => rfl
  | finalized _ titles => rw [titles.eq_of_still still]

theorem Still.clean (still : swap.Still) (value : Value) : swap.Clean value :=
  fun _ _ _ _ => still.shown _

/-- A swap of a class for itself. -/
def idle : Swap := ⟨Standard.root, Standard.root, "", "", "", "", fun _ => False, fun _ _ => id⟩

theorem still_idle : idle.Still := ⟨rfl, rfl, rfl, fun _ => id⟩

/-! ### What is alike in all faults -/

/-- Faults that are alike are both faults of attributes or both are not. -/
theorem Faults.isAttribute {fault fault' : Fault} (alike : swap.Faults fault fault') :
    fault'.isAttribute = fault.isAttribute := by
  cases alike <;> rfl

theorem Founds.refl (found : Found) : swap.Founds found found := by
  cases found with
  | value held => exact .value held
  | callable owner name member => exact .callable owner name (.same member)

theorem Members.typeName {member member' : Member} (alike : swap.Members member member') :
    member'.typeName = member.typeName := by
  cases alike <;> rfl

theorem Founds.toValue {found found' : Found} (alike : swap.Founds found found') :
    found'.toValue = found.toValue := by
  cases alike <;> rfl

theorem Founds.isNull {found found' : Found} (alike : swap.Founds found found') :
    found'.isNull = found.isNull := by
  cases alike <;> rfl

theorem Founds.items {found found' : Found} (alike : swap.Founds found found') :
    found'.items = found.items := by
  cases alike <;> rfl

theorem Founds.count {found found' : Found} (alike : swap.Founds found found') :
    found'.count = found.count := by
  cases alike <;> rfl

end Swap

end ScopedHtml
