import ScopedHtml.Builder.Define
import ScopedHtml.Builder.Standard
import ScopedHtml.Log
import ScopedHtml.Node.Render

/-!
# ScopedHtml.Builder.Store

Builders and their attributes.

A `Store` holds the classes, every builder made so far and the log. A builder is
a class and attributes of its own; it is referred to by its position, which
never changes. What it keeps under a name is an attribute of its own or else a
member of its class (`Store.kept?`); an attribute that is assigned is its own from
then on (`Store.assign`).

A plain class has instances too. They are kept like builders, but have only what
their class defines. A class that makes its instances in a way of its own may make a
value instead; it stands in the place of a builder and has nothing.
-/

namespace ScopedHtml

/-- The position of a builder in the store. -/
structure BuilderRef where
  index : Nat
  deriving DecidableEq, Repr, Inhabited

/-- A builder: its class and the attributes of its own. -/
structure Builder where
  classId : ClassId
  held : Bindings String Value
  /-- The value that this is, if it is no builder at all. -/
  foreign : Option Value := none
  deriving Inhabited

/-- Everything that operations on builders read and change. -/
structure Store where
  classes : ClassTable
  builders : List Builder
  log : List Log.Event
  deriving Inhabited

/-- What looking an attribute up finds. -/
inductive Found
  | value (value : Value)
  /-- Something that can be called: the member of this name of the class `owner`. -/
  | callable (owner name : String) (member : Member)
  deriving Inhabited

namespace Found

/-- What a member of a class amounts to when it is read from a builder. -/
def ofMember (owner name : String) : Member → Found
  | .data held => .value held
  | member => .callable owner name member

/-- What was found as a value; something callable has none. -/
def toValue : Found → Value
  | .value held => held
  | .callable _ _ _ => .null

/-- Whether the absent value was found. -/
def isNull : Found → Bool
  | .value held => held.isNull
  | .callable _ _ _ => false

/-- The items of what was found, if it has some. -/
def items? : Found → Option (List Value)
  | .value held => held.items?
  | .callable _ _ _ => none

/-- The name of the type of what was found. -/
def typeName : Found → String
  | .value held => held.typeName
  | .callable _ _ _ => "method"

/-- The name of the type that is asked for the attributes of what was found: a
method asks the function behind it. -/
def attributeTypeName : Found → String
  | .value held => held.typeName
  | .callable _ _ _ => "function"

/-- The items of what was found. -/
def items (found : Found) : Except Fault (List Value) :=
  match found.items? with
  | some items => .ok items
  | none => .error (.notIterable found.typeName)

/-- The number of items of what was found. -/
def count (found : Found) : Except Fault Nat :=
  match found.items? with
  | some items => .ok items.length
  | none => .error (.noLength found.typeName)

end Found

/-- The name under which every object has its class. -/
def kindName : String := "__class__"

/-- The name under which every object has all attributes of its own. -/
def attributesName : String := "__dict__"

namespace Store

/-- The store at the start. -/
def initial : Store where
  classes := Standard.classes
  builders := []
  log := []

/-! ### Reading -/

/-- The builder at a position. -/
def get (store : Store) (b : BuilderRef) : Builder := store.builders.getD b.index default

/-- The value that stands in the place of a builder, if one does. -/
def foreign? (store : Store) (b : BuilderRef) : Option Value := (store.get b).foreign

/-- The name of a builder's class. -/
def className (store : Store) (b : BuilderRef) : String :=
  match store.foreign? b with
  | some value => value.typeName
  | none => (store.classes.get (store.get b).classId).name

/-- An attribute of a builder's own. -/
def held? (store : Store) (b : BuilderRef) (name : String) : Option Value :=
  (store.get b).held.find? name

/-- The member of a builder's class under a name, and the class it comes from. -/
def member? (store : Store) (b : BuilderRef) (name : String) : Option (ClassId × Member) :=
  store.classes.resolve (store.get b).classId name

theorem foreign?_of_get {store : Store} {b : BuilderRef} {builder : Builder}
    (h : store.get b = builder) : store.foreign? b = builder.foreign := by
  rw [foreign?, h]

theorem held?_of_get {store : Store} {b : BuilderRef} {builder : Builder}
    (h : store.get b = builder) (name : String) :
    store.held? b name = builder.held.find? name := by
  rw [held?, h]

theorem member?_of_classId {store : Store} {b : BuilderRef} {id : ClassId}
    (h : (store.get b).classId = id) (name : String) :
    store.member? b name = store.classes.resolve id name := by
  rw [member?, h]

/-- The member of a builder's class for an occasion, and the class it comes from. -/
def hook? (store : Store) (b : BuilderRef) (hook : Hook) : Option (ClassId × Member) :=
  store.member? b hook.name

/-- How a builder computes what it has under a name, if it does. -/
def property? (store : Store) (b : BuilderRef) (name : String) : Option Property :=
  match store.member? b name with
  | some (_, .property property) => some property
  | _ => none

/-- What a member of a class is for those that ask a builder. -/
def found (store : Store) (name : String) (origin : ClassId × Member) : Found :=
  .ofMember (store.classes.get origin.1).name name origin.2

/-- What a builder has under a name like everything else. -/
def inherent? (store : Store) (b : BuilderRef) (name : String) : Option Found :=
  if name = attributesName then some (.value (.record (store.get b).held.entries))
  else if name ∈ Value.inherent then some (.callable Standard.rootClass.name name .inherent)
  else none

/-- What a builder keeps under a name: an attribute of its own, or a member of its
class, or what every object has. -/
def kept? (store : Store) (b : BuilderRef) (name : String) : Option Found :=
  match store.held? b name, store.member? b name with
  | some value, _ => some (.value value)
  | none, some origin => some (store.found name origin)
  | none, none => store.inherent? b name

/-- What a builder keeps under a name; nothing is a fault. -/
def kept (store : Store) (b : BuilderRef) (name : String) : Except Fault Found :=
  match store.kept? b name with
  | some found => .ok found
  | none => .error (.noAttribute (store.className b) name)

/-- Whether a builder's class is another or inherits from it. -/
def isOf (store : Store) (b : BuilderRef) (base : ClassId) : Bool :=
  store.classes.inherits (store.get b).classId base

/-- Whether a builder answers with something else when it is asked for its class. -/
def isMasked (store : Store) (b : BuilderRef) : Bool :=
  (store.hook? b .read).isSome || (store.member? b kindName).isSome

/-- Whether a builder can be called like a function. -/
def canBeCalled (store : Store) (b : BuilderRef) : Bool := (store.hook? b .call).isSome

/-- The class that an opener named `element` opens now. -/
def target (store : Store) (element : String) : Target → Except Fault ClassId
  | .fixed id => .ok id
  | .late name =>
      match store.classes.names.find? name with
      | some id => .ok id
      | none => .error (.undefinedBuilder name element)

/-! ### Writing -/

/-- The store in which a builder's own attribute is `value`. -/
def assign (store : Store) (b : BuilderRef) (name : String) (value : Value) : Store :=
  { store with
    builders := store.builders.modify b.index fun builder =>
      { builder with held := builder.held.bind name value } }

@[simp] theorem classes_assign (store : Store) (b : BuilderRef) (name : String) (value : Value) :
    (store.assign b name value).classes = store.classes := rfl

@[simp] theorem length_builders_assign (store : Store) (b : BuilderRef) (name : String)
    (value : Value) : (store.assign b name value).builders.length = store.builders.length := by
  simp [assign]

theorem get_assign_self {store : Store} {b : BuilderRef} (h : b.index < store.builders.length)
    (name : String) (value : Value) :
    (store.assign b name value).get b =
      { store.get b with held := (store.get b).held.bind name value } := by
  simp [assign, get, List.getD_eq_getElem?_getD, h]

theorem get_assign_of_ne (store : Store) {b c : BuilderRef} (h : c ≠ b) (name : String)
    (value : Value) : (store.assign b name value).get c = store.get c := by
  have index : b.index ≠ c.index := fun eq => h (by cases b; cases c; simp_all)
  simp [assign, get, List.getD_eq_getElem?_getD, index]

/-- An assigned attribute holds the value. -/
theorem held?_assign_self {store : Store} {b : BuilderRef} (h : b.index < store.builders.length)
    (name : String) (value : Value) :
    (store.assign b name value).held? b name = some value := by
  simp [held?, get_assign_self h]

/-- An assignment leaves the builder's other attributes alone. -/
theorem held?_assign_of_ne_name (store : Store) (b : BuilderRef) {name other : String}
    (h : other ≠ name) (value : Value) :
    (store.assign b name value).held? b other = store.held? b other := by
  by_cases inside : b.index < store.builders.length
  · simp [held?, get_assign_self inside, Bindings.find?_bind_of_ne _ h]
  · simp [held?, assign, get, List.getD_eq_getElem?_getD, inside]

/-- An assignment leaves other builders alone. -/
theorem held?_assign_of_ne (store : Store) {b c : BuilderRef} (h : c ≠ b) (name other : String)
    (value : Value) : (store.assign b name value).held? c other = store.held? c other := by
  simp [held?, get_assign_of_ne store h]

/-- The store in which the attributes of a builder's own are these. -/
def replace (store : Store) (b : BuilderRef) (held : Bindings String Value) : Store :=
  { store with
    builders := store.builders.modify b.index fun builder => { builder with held } }

/-- The store with one more builder. -/
def add (store : Store) (builder : Builder) : BuilderRef × Store :=
  (⟨store.builders.length⟩, { store with builders := store.builders ++ [builder] })

@[simp] theorem get_add_new (store : Store) (builder : Builder) :
    (store.add builder).2.get (store.add builder).1 = builder := by
  simp [add, get, List.getD_eq_getElem?_getD]

theorem get_add_of_lt {store : Store} {b : BuilderRef} (h : b.index < store.builders.length)
    (builder : Builder) : (store.add builder).2.get b = store.get b := by
  simp [add, get, List.getD_eq_getElem?_getD, List.getElem?_append_left h]

@[simp] theorem length_add (store : Store) (builder : Builder) :
    (store.add builder).2.builders.length = store.builders.length + 1 := by
  simp [add]

/-- A position in a store with one more builder is an old one or that of the new builder. -/
theorem add_cases {store : Store} {b : BuilderRef} (builder : Builder)
    (inside : b.index < (store.add builder).2.builders.length) :
    b.index < store.builders.length ∨ b = (store.add builder).1 := by
  rw [length_add] at inside
  rcases Nat.lt_or_ge b.index store.builders.length with old | last
  · exact .inl old
  · have index : b.index = store.builders.length := by omega
    cases b
    exact .inr (congrArg BuilderRef.mk index)

/-- What is not there counts as a builder of the class of all builders. -/
theorem get_of_outside {store : Store} {b : BuilderRef}
    (outside : ¬ b.index < store.builders.length) : store.get b = default := by
  simp [get, List.getD_eq_getElem?_getD, outside]

/-- Only a builder that is there holds anything. -/
theorem inside_of_held {store : Store} {b : BuilderRef} {name : String} {value : Value}
    (held : store.held? b name = some value) : b.index < store.builders.length := by
  refine Decidable.byContradiction fun outside => ?_
  rw [held?_of_get (get_of_outside outside)] at held
  cases held

/-- The store with one more record. -/
def logged (store : Store) (event : Log.Event) : Store :=
  { store with log := store.log ++ [event] }

end Store

end ScopedHtml
