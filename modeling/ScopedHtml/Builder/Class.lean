import ScopedHtml.Bindings
import ScopedHtml.Builder.Hook
import ScopedHtml.Signature
import ScopedHtml.Value

/-!
# ScopedHtml.Builder.Class

Builder classes and the table that holds them.

A class is data: a name, the classes it inherits from in the order in which a
member is looked for, and its own members. Classes are known by their position
in the table (`ClassId`), which never changes; names are bound to positions
separately and may be bound again. A member that refers to a class by position
therefore always means that class, while one that refers to a name means
whatever the name is bound to at the moment.

* `Member` — what a class can have under a name;
* `ClassTable.resolve` — the first member of a name along the inheritance order,
  with the class it comes from;
* `ClassTable.push`, `ClassTable.assign` — a further class, and a further member.
-/

namespace ScopedHtml

/-- The position of a class in the table. -/
structure ClassId where
  index : Nat
  deriving DecidableEq, Repr, Inhabited

/-! ### Members -/

/-- The builder class whose scope an opener opens. -/
inductive Target
  /-- A class, chosen when the opener was defined. -/
  | fixed (id : ClassId)
  /-- Whatever class has this name when the opener is called. -/
  | late (name : String)
  deriving DecidableEq, Repr, Inhabited

/-- What an opener does with the finished element. -/
inductive Attachment
  /-- Put it behind the children. -/
  | append
  /-- Keep it in the slot named like the opener. -/
  | slot
  /-- Hand it to the caller only. -/
  | discard
  deriving DecidableEq, Repr, Inhabited

/-- The methods that builders have besides openers. -/
inductive Method
  | build | missing | elements | paragraph | append | title
  /-- What is asked for a name that a builder does not have. -/
  | report
  /-- What registers the openers of a new class. -/
  | register
  deriving DecidableEq, Repr, Inhabited

namespace Method

/-- What calls of a method take. -/
def parameters : Method → List Parameter
  | build => []
  | missing => []
  | elements => []
  | paragraph => [⟨"content", true⟩]
  | append => [⟨"node", true⟩]
  | title => [⟨"content", true⟩]
  | report => [⟨"name", true⟩]
  | register => []

/-- The name of a method's receiver: a builder, or its class. -/
def receiver : Method → String
  | elements => "cls"
  | register => "cls"
  | _ => "self"

end Method

/-- The attributes of a builder that are computed. -/
inductive Property
  | isFinalized | children
  deriving DecidableEq, Repr, Inhabited

/-- The elements that builders make. -/
inductive Product
  | head | body | division | document
  deriving DecidableEq, Repr, Inhabited

/-- How a new builder starts. -/
structure Starter where
  /-- The class that has it, if it lets the class next in the line of the builder start
  first. -/
  home : Option ClassId
  /-- The options it takes, each with the attribute that keeps it. -/
  options : List (String × String)
  /-- Its attributes before the options are kept. -/
  initial : Bindings String Value
  deriving Inhabited

/-- What a class has under a name. -/
inductive Member
  | opener (target : Target) (attachment : Attachment)
  /-- A function that takes anything and answers with its own name. -/
  | plain
  /-- A value that stands for an attribute until an instance has one of its own. -/
  | data (value : Value)
  | method (method : Method)
  | property (property : Property)
  | starter (starter : Starter)
  /-- How the element is made; nothing in a class that makes none. -/
  | maker (product : Option Product)
  /-- Something that everything has and that can be called. -/
  | inherent
  deriving Inhabited

namespace Member

/-- Whether a member opens a scope. -/
def isOpener : Member → Bool
  | .opener _ _ => true
  | _ => false

/-- The name of the type of what a class keeps. -/
def typeName : Member → String
  | .data value => value.typeName
  | .property _ => "property"
  | _ => "function"

end Member

/-! ### Classes -/

/-- A builder class, or a plain class mixed into one. -/
structure BuilderClass where
  name : String
  /-- The classes behind this one in the inheritance order. -/
  ancestors : List ClassId
  /-- The members of its own. -/
  members : Bindings String Member
  deriving Inhabited

/-- All classes, and what their names are bound to. -/
structure ClassTable where
  classes : List BuilderClass
  names : Bindings String ClassId
  deriving Inhabited

/-- The name of the attribute that keeps a builder class's register of openers. -/
def registerName : String := "_element_tags"

/-- The name of the attribute that keeps the description of a class. -/
def docName : String := "__doc__"

/-- The name of the attribute that keeps what a class leaves to be defined. -/
def abstractName : String := "__abstractmethods__"

namespace ClassTable

/-- The class at a position. -/
def get (table : ClassTable) (id : ClassId) : BuilderClass :=
  table.classes.getD id.index default

/-- The inheritance order of a class, itself first. -/
def line (table : ClassTable) (id : ClassId) : List ClassId := id :: (table.get id).ancestors

/-- The classes that stand behind another in the inheritance order of a class. -/
def lineBehind (table : ClassTable) (id home : ClassId) : List ClassId :=
  ((table.line id).dropWhile (· ≠ home)).tail

/-- The class with the first member of this name, and the member. -/
def resolveAlong (table : ClassTable) (name : String) : List ClassId → Option (ClassId × Member)
  | [] => none
  | id :: rest =>
      match (table.get id).members.find? name with
      | some member => some (id, member)
      | none => resolveAlong table name rest

/-- The member that a class has under a name, and the class it comes from. -/
def resolve (table : ClassTable) (id : ClassId) (name : String) : Option (ClassId × Member) :=
  table.resolveAlong name (table.line id)

/-- Whether a class inherits from another or is it. -/
def inherits (table : ClassTable) (id base : ClassId) : Bool := base ∈ table.line id

/-- The member of a class for an occasion, and the class it comes from. -/
def hook? (table : ClassTable) (id : ClassId) (hook : Hook) : Option (ClassId × Member) :=
  table.resolve id hook.name

variable {table other : ClassTable} {id : ClassId} {name : String} {member : Member}
  {rest : List ClassId}

theorem resolveAlong_of_own (own : (table.get id).members.find? name = some member) :
    table.resolveAlong name (id :: rest) = some (id, member) := by
  rw [resolveAlong, own]

theorem resolveAlong_of_absent (absent : (table.get id).members.find? name = none) :
    table.resolveAlong name (id :: rest) = table.resolveAlong name rest := by
  rw [resolveAlong, absent]

theorem resolve_of_own (own : (table.get id).members.find? name = some member) :
    table.resolve id name = some (id, member) :=
  resolveAlong_of_own own

/-- What a class has under a name is its own, or it is what its row of ancestors has. -/
theorem own_or_inherited {owner : ClassId} (found : table.resolve id name = some (owner, member)) :
    owner = id ∧ (table.get id).members.find? name = some member ∨
      table.resolveAlong name (table.get id).ancestors = some (owner, member) := by
  cases own : (table.get id).members.find? name with
  | none => exact .inr ((resolveAlong_of_absent own).symm.trans found)
  | some first =>
      cases (resolve_of_own own).symm.trans found
      exact .inl ⟨rfl, rfl⟩

/-- What a row of classes has under a name one of them has. -/
theorem resolveAlong_eq_some {owner : ClassId} :
    ∀ {row : List ClassId}, table.resolveAlong name row = some (owner, member) →
      owner ∈ row ∧ (table.get owner).members.find? name = some member
  | id :: rest, h => by
      rw [resolveAlong] at h
      split at h
      · next found => cases h; exact ⟨by simp, found⟩
      · obtain ⟨inside, found⟩ := resolveAlong_eq_some h
        exact ⟨List.mem_cons_of_mem id inside, found⟩

/-- What one class of a row has, the row has. -/
theorem resolveAlong_ne_none {owner : ClassId} :
    ∀ {row : List ClassId}, owner ∈ row →
      (table.get owner).members.find? name = some member → table.resolveAlong name row ≠ none
  | id :: rest, inside, found => by
      rw [resolveAlong]
      split
      · exact Option.some_ne_none _
      · next none =>
          rcases List.mem_cons.1 inside with rfl | inside
          · rw [none] at found; cases found
          · exact resolveAlong_ne_none inside found

theorem line_congr (same : other.get id = table.get id) : other.line id = table.line id := by
  rw [line, line, same]

/-! ### Growing -/

/-- The table with one more class, which no name is bound to. -/
def push (table : ClassTable) (new : BuilderClass) : ClassId × ClassTable :=
  (⟨table.classes.length⟩, { table with classes := table.classes ++ [new] })

/-- The table in which a name is bound to a class. -/
def bindName (table : ClassTable) (name : String) (id : ClassId) : ClassTable :=
  { table with names := table.names.bind name id }

/-- The table in which a class has a member of its own. -/
def assign (table : ClassTable) (id : ClassId) (name : String) (member : Member) : ClassTable :=
  { table with
    classes := table.classes.modify id.index fun owner =>
      { owner with members := owner.members.bind name member } }

@[simp] theorem get_push_new (table : ClassTable) (new : BuilderClass) :
    (table.push new).2.get (table.push new).1 = new := by
  simp [push, get, List.getD_eq_getElem?_getD]

theorem get_push_of_lt {table : ClassTable} {id : ClassId} (h : id.index < table.classes.length)
    (new : BuilderClass) : (table.push new).2.get id = table.get id := by
  simp [push, get, List.getD_eq_getElem?_getD, List.getElem?_append_left h]

@[simp] theorem length_push (table : ClassTable) (new : BuilderClass) :
    (table.push new).2.classes.length = table.classes.length + 1 := by
  simp [push]

/-- A position in a table with one more class is an old one or that of the new class. -/
theorem push_cases {table : ClassTable} {id : ClassId} (new : BuilderClass)
    (inside : id.index < (table.push new).2.classes.length) :
    id.index < table.classes.length ∨ id = (table.push new).1 := by
  rw [length_push] at inside
  rcases Nat.lt_or_ge id.index table.classes.length with old | last
  · exact .inl old
  · have index : id.index = table.classes.length := by omega
    cases id
    exact .inr (congrArg ClassId.mk index)

/-- There is nothing where there is no class. -/
theorem get_of_outside {table : ClassTable} {id : ClassId}
    (outside : ¬ id.index < table.classes.length) : table.get id = default := by
  simp [get, List.getD_eq_getElem?_getD, outside]

/-- Only a class that is there has members. -/
theorem inside_of_find? {table : ClassTable} {id : ClassId} {name : String} {member : Member}
    (found : (table.get id).members.find? name = some member) : id.index < table.classes.length := by
  refine Decidable.byContradiction fun outside => ?_
  rw [get_of_outside outside] at found
  cases found

theorem get_assign_of_ne (table : ClassTable) {id other : ClassId} (h : other ≠ id)
    (name : String) (member : Member) :
    (table.assign id name member).get other = table.get other := by
  have index : id.index ≠ other.index := fun eq => h (by cases id; cases other; simp_all)
  simp [assign, get, List.getD_eq_getElem?_getD, index]

end ClassTable

end ScopedHtml
