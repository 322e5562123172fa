import ScopedHtml.Fault
import ScopedHtml.Builder.Linearize

/-!
# ScopedHtml.Builder.Define

Further classes.

The body of a definition lists openers, plain functions, slots and perhaps the
required names, in this order; a later entry of one name replaces an earlier
one. Names of bases, and of builder classes that an opener is to open early,
are resolved when the class is defined. A few names cannot stand in a body for
anything that a body can list (`checkReserved`).

* `ClassTable.draft` — the class that a definition describes, if it describes one;
* `ClassTable.registered` — the table in which a class has a register of its own,
  which continues that of the next class with one;
* `ClassTable.attach` — what an opener does to a class that it is called on;
* `ClassTable.listing` — what a class answers when it is asked for its openers.
-/

namespace ScopedHtml

/-- An opener as a definition describes it. -/
structure OpenerSpec where
  name : String
  /-- The name of the builder class it opens. -/
  builder : String
  /-- Whether that name is resolved at each call and not now. -/
  late : Bool
  attachment : Attachment
  deriving Inhabited

/-- The body of a class. -/
structure ClassBody where
  openers : List OpenerSpec := []
  plain : List String := []
  slots : List String := []
  required : Option (List String) := none
  deriving Inhabited

/-- The name of the attribute behind a slot or a required name. -/
def slotAttribute (name : String) : String := "_" ++ name

/-- Whether a name is private to its owner. -/
def isPrivate (name : String) : Bool := name.toList.head? = some '_'

/-- The answer of a plain function. -/
def plainAnswer (name : String) : Value := .text ("plain:" ++ name)

/-- The name under which messages speak of a plain function. -/
def plainCallee : String := "Script.body.<locals>.<lambda>"

/-! ### Registers -/

/-- The names with one more at its place in code point order. -/
def insertName (name : String) : List String → List String
  | [] => [name]
  | other :: rest =>
      if name < other then name :: other :: rest
      else if name = other then other :: rest
      else other :: insertName name rest

/-- The names that a body registers: its openers, private names apart. -/
def openerNames (members : Bindings String Member) : List String :=
  (members.entries.filter fun entry => !isPrivate entry.1 && entry.2.isOpener).map (·.1)

/-- The register of a class with these members behind the register of its base. -/
def extendRegistry (inherited : List String) (members : Bindings String Member) : List String :=
  (openerNames members).foldr insertName inherited

/-! ### Reserved names -/

/-- Whether a class of this name can have these members. The faults are found in this
order; that of the name itself stands behind the first. -/
def checkReserved (name : String) (members : Bindings String Member) : Except Fault Unit := do
  if let some member := members.find? "__slots__" then throw (.notIterable member.typeName)
  if '\x00' ∈ name.toList then throw .invalidClassName
  if let some member := members.find? "__qualname__" then
    throw (.invalidFullName member.typeName)
  if let some member := members.find? "__classcell__" then
    throw (.invalidClassCell member.typeName)

namespace ClassTable

/-- The names in a register. -/
def registerNames : Member → Except Fault (List String)
  | .data (.tags names) => .ok names
  | other => .error (.notIterable other.typeName)

/-- The register that a class with these ancestors continues: that of the first
class that has an attribute of its name. -/
def inheritedRegistry (table : ClassTable) (ancestors : List ClassId) :
    Except Fault (List String) :=
  match table.resolveAlong registerName ancestors with
  | none => .ok []
  | some (_, member) => registerNames member

/-- The table in which a class has a register of its own. -/
def registered (table : ClassTable) (id : ClassId) : Except Fault ClassTable := do
  let owner := table.get id
  let register := extendRegistry (← table.inheritedRegistry owner.ancestors) owner.members
  return table.assign id registerName (.data (.tags register))

/-- The names of the registered openers of a class, which must have a register. -/
def listed (table : ClassTable) (id : ClassId) : Except Fault (List String) :=
  match table.resolve id registerName with
  | none => .error (.noClassAttribute (table.get id).name registerName)
  | some (_, member) => registerNames member

theorem listed_of_own {table : ClassTable} {id : ClassId} {names : List String}
    (own : (table.get id).members.find? registerName = some (.data (.tags names))) :
    table.listed id = .ok names := by
  rw [listed, resolve_of_own own]
  rfl

/-- What a class answers when it is asked for its registered openers. -/
def listing (table : ClassTable) (id : ClassId) : Except Fault Value :=
  match table.resolve id "elements" with
  | none => .error (.noClassAttribute (table.get id).name "elements")
  | some (_, .plain) => .error (.missingArguments plainCallee ["self"])
  | some (_, .opener _ _) => .error (.missingArguments "elements" ["self"])
  | some (_, .data value) => .error (.notCallable value.typeName)
  | some _ => return .ofNames (← table.listed id)

/-! ### Openers called on a class -/

/-- The table after an opener named `element` has made something for a class. -/
def attach (table : ClassTable) (id : ClassId) (element : String) (made : Value) :
    Attachment → Except Fault ClassTable
  | .discard => .ok table
  | .slot => .ok (table.assign id (slotAttribute element) (.data made))
  | .append =>
      match table.resolve id "_children" with
      | none => .error (.noClassAttribute (table.get id).name "_children")
      | some (_, member) => .error (.noAttribute member.typeName "append")

/-! ### Bodies -/

/-- The class a name is bound to. -/
def named (table : ClassTable) (name : String) : Except Fault ClassId :=
  match table.names.find? name with
  | some id => .ok id
  | none => .error (.unbound name)

/-- The classes that names are bound to. -/
def namedAll (table : ClassTable) : List String → Except Fault (List ClassId)
  | [] => .ok []
  | name :: rest => do
      let id ← table.named name
      return id :: (← table.namedAll rest)

/-- The builder class that an opener of a body opens. -/
def target (table : ClassTable) (opener : OpenerSpec) : Except Fault Target :=
  if opener.late then .ok (.late opener.builder)
  else return .fixed (← table.named opener.builder)

/-- The openers of a body as members, put into a table of members. -/
def bindOpeners (table : ClassTable) :
    List OpenerSpec → Bindings String Member → Except Fault (Bindings String Member)
  | [], members => .ok members
  | opener :: rest, members => do
      let target ← table.target opener
      table.bindOpeners rest (members.bind opener.name (.opener target opener.attachment))

/-- The members that a body defines. -/
def bodyMembers (table : ClassTable) (body : ClassBody) :
    Except Fault (Bindings String Member) := do
  let openers ← table.bindOpeners body.openers .empty
  let plain := body.plain.foldl (fun members name => members.bind name .plain) openers
  let slots := body.slots.foldl
    (fun members name => members.bind (slotAttribute name) (.data .null)) plain
  return match body.required with
    | none => slots
    | some names => slots.bind "_required" (.data (.ofNames names))

/-! ### Definitions -/

/-- The first class listed twice. -/
def repeated? : List ClassId → Option ClassId
  | [] => none
  | id :: rest => if id ∈ rest then some id else repeated? rest

/-- The classes behind a new class, if its bases allow it. -/
def checkedAncestors (table : ClassTable) (bases : List ClassId) :
    Except Fault (List ClassId) := do
  if let some id := repeated? bases then throw (.repeatedBase (table.get id).name)
  match table.ancestorsOf bases with
  | .ok line => return line
  | .error heads => throw (.inconsistentBases (heads.map fun id => (table.get id).name))

/-- A class on bases, of which nothing has been told yet. It does not inherit a
description. -/
def draft (table : ClassTable) (name : String) (bases : List ClassId) (body : ClassBody) :
    Except Fault BuilderClass := do
  let members ← table.bodyMembers body
  checkReserved name members
  let ancestors ← table.checkedAncestors bases
  return {
    name, ancestors
    members := match members.find? docName with
      | some _ => members
      | none => members.bind docName (.data .null) }

/-- Whether a class is one of builders. -/
def isBuilder (table : ClassTable) (id : ClassId) : Bool := table.inherits id Standard.builderBase

/-- A builder class takes over from its bases what they leave to be defined. A plain
class that keeps something else under the name of that is a fault. -/
def checkAbstract (table : ClassTable) : List ClassId → Except Fault Unit
  | [] => .ok ()
  | base :: rest =>
      match table.isBuilder base, (table.get base).members.find? abstractName with
      | false, some member => .error (.notIterable member.typeName)
      | _, _ => table.checkAbstract rest

end ClassTable

end ScopedHtml
