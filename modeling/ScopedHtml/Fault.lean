import ScopedHtml.Files.Fault
import ScopedHtml.Text.Cut
import ScopedHtml.Value.Quoted

/-!
# ScopedHtml.Fault

Everything that can go wrong, as causes.

A fault records why an operation failed; `Fault.message` is the only place where
causes become words. Faults of values in general show no more of a long type
name than its first bytes, faults of builders show all of it.
-/

namespace ScopedHtml

/-- The cause of a failed operation. -/
inductive Fault
  /-- A builder was finalized while required children were not set. -/
  | missingChildren (builder : String) (names : List Value)
  /-- Something that is no node was appended as a child. -/
  | invalidChild (builder type : String)
  /-- A value of type `type` has no attribute of this name. -/
  | noAttribute (type field : String)
  /-- A class that is no builder class has no attribute of this name. -/
  | noClassAttribute (name field : String)
  /-- A builder has no attribute of this private name. -/
  | noPrivateAttribute (builder field : String)
  /-- A builder supports no element of this name. -/
  | noElement (builder element : String) (supported : List String)
  /-- A computed attribute was assigned. -/
  | noSetter (builder field : String)
  /-- An opener names a builder class that is not defined. -/
  | undefinedBuilder (name element : String)
  /-- A value that is no function was called. -/
  | notCallable (type : String)
  /-- A value without items was given for one with items. -/
  | notIterable (type : String)
  /-- A value without items was given to be joined. -/
  | notJoinable
  /-- A value without a length was to be counted. -/
  | noLength (type : String)
  /-- A value that can change was to be found again. -/
  | changeable (type : String)
  /-- A class that makes no node was instantiated. -/
  | abstractBuilder (name : String)
  /-- A class that takes no options was given some. -/
  | takesNoOptions (name : String)
  /-- What starts a new builder answered with a value of this type. -/
  | startAnswered (type : String)
  /-- A call was given an option that the callee does not know. -/
  | unexpectedOption (callee option : String)
  /-- A call was given one argument twice. -/
  | repeatedArgument (callee argument : String)
  /-- A call that takes no argument was given one. -/
  | unexpectedArgument (callee : String)
  /-- A call that takes one argument at most was given more, the receiver counted. -/
  | tooManyArguments (callee : String) (given : Nat)
  /-- A call that takes no options was given some. -/
  | noOptions (callee : String)
  /-- A call lacks arguments. -/
  | missingArguments (callee : String) (names : List String)
  /-- Calls went on calling each other. -/
  | endlessCalls
  /-- A field of a finished node was assigned. -/
  | frozenAssignment (field : String)
  /-- A field of a finished node was deleted. -/
  | frozenDeletion (field : String)
  /-- A class was given a name that cannot name a class. -/
  | invalidClassName
  /-- The body of a class sets its full name to something else than a text. -/
  | invalidFullName (type : String)
  /-- The body of a class sets what only the making of a class sets. -/
  | invalidClassCell (type : String)
  /-- A class lists one base twice. -/
  | repeatedBase (name : String)
  /-- The bases of a class have no common resolution order. -/
  | inconsistentBases (names : List String)
  /-- An object was asked for its class and answered with something else. -/
  | notAClass
  /-- The class of an object was assigned something else. -/
  | invalidClass (type : String)
  /-- The attributes of an object were assigned something else at once. -/
  | invalidAttributes (type : String)
  /-- A script uses a name that is not bound. -/
  | unbound (name : String)
  /-- A script answered with an object that cannot be written down. -/
  | unwritable (type : String)
  /-- A script failed on purpose. -/
  | raised (message : String)
  /-- A value that is no path was given for one. -/
  | notAPath (type : String)
  /-- The file system refused a request. -/
  | file (fault : Files.Fault)
  deriving Inhabited

namespace Fault

/-- Whether a fault says that an attribute is not there or cannot be changed. -/
def isAttribute : Fault → Bool
  | noAttribute _ _ => true
  | noClassAttribute _ _ => true
  | noPrivateAttribute _ _ => true
  | noElement _ _ _ => true
  | noSetter _ _ => true
  | frozenAssignment _ => true
  | frozenDeletion _ => true
  | _ => false

/-! ### Limits -/

/-- The most bytes of a type name that a message about an attribute shows. -/
def attributeLimit : Nat := 50

/-- The most bytes of a type name that a message about a call or items shows. -/
def typeLimit : Nat := 200

/-- The most bytes of a message about the order of bases. -/
def basesLimit : Nat := 999

/-- A type name in a message about a call or items. -/
def shownType (type : String) : String := Text.cut typeLimit type

/-! ### Wording -/

/-- Names in apostrophes, the last two joined by `and`. -/
def enumerated : List String → String
  | [] => ""
  | [name] => "'" ++ name ++ "'"
  | [first, last] => "'" ++ first ++ "' and '" ++ last ++ "'"
  | name :: rest => "'" ++ name ++ "', " ++ enumeratedTail rest
where
  /-- What follows the first of three or more names. -/
  enumeratedTail : List String → String
    | [] => ""
    | [name] => "and '" ++ name ++ "'"
    | name :: rest => "'" ++ name ++ "', " ++ enumeratedTail rest

/-- The supported elements as a list, or the word for an empty one. -/
def supportedList (names : List String) : String :=
  let listed := ", ".intercalate names
  if listed = "" then "none" else listed

/-- The words for a fault. -/
def message : Fault → String
  | missingChildren builder names =>
      builder ++ " cannot be built: missing required " ++
        ", ".intercalate (names.map Value.quoted)
  | invalidChild builder type =>
      builder ++ " accepts only Element children, got " ++ type
  | noAttribute type field =>
      "'" ++ Text.cut attributeLimit type ++ "' object has no attribute '" ++ field ++ "'"
  | noClassAttribute name field =>
      "type object '" ++ Text.cut attributeLimit name ++ "' has no attribute '" ++ field ++ "'"
  | noPrivateAttribute builder field =>
      "'" ++ builder ++ "' object has no attribute '" ++ field ++ "'"
  | noElement builder element supported =>
      "'" ++ builder ++ "' has no element '" ++ element ++ "'. Supported elements: " ++
        supportedList supported
  | noSetter builder field =>
      "property " ++ Text.quoted field ++ " of " ++ Text.quoted builder ++
        " object has no setter"
  | undefinedBuilder name element =>
      "Builder '" ++ name ++ "' for element '" ++ element ++ "' is not defined"
  | notCallable type => "'" ++ shownType type ++ "' object is not callable"
  | notIterable type => "'" ++ shownType type ++ "' object is not iterable"
  | notJoinable => "can only join an iterable"
  | noLength type => "object of type '" ++ shownType type ++ "' has no len()"
  | changeable type => "unhashable type: '" ++ shownType type ++ "'"
  | abstractBuilder name =>
      "Can't instantiate abstract class " ++ name ++ " with abstract method _make_node"
  | takesNoOptions name => shownType name ++ "() takes no arguments"
  | startAnswered type => "__init__() should return None, not '" ++ shownType type ++ "'"
  | unexpectedOption callee option =>
      callee ++ "() got an unexpected keyword argument '" ++ option ++ "'"
  | repeatedArgument callee argument =>
      callee ++ "() got multiple values for argument '" ++ argument ++ "'"
  | unexpectedArgument callee =>
      callee ++ "() takes 1 positional argument but 2 were given"
  | tooManyArguments callee given =>
      callee ++ "() takes from 1 to 2 positional arguments but " ++ toString given ++
        " were given"
  | noOptions callee => callee ++ "() takes no keyword arguments"
  | missingArguments callee names =>
      callee ++ "() missing " ++ toString names.length ++ " required positional argument" ++
        (if names.length = 1 then "" else "s") ++ ": " ++ enumerated names
  | endlessCalls => "maximum recursion depth exceeded"
  | frozenAssignment field => "cannot assign to field " ++ Text.quoted field
  | frozenDeletion field => "cannot delete field " ++ Text.quoted field
  | invalidClassName => "type name must not contain null characters"
  | invalidFullName type => "type __qualname__ must be a str, not " ++ type
  | invalidClassCell type =>
      "__classcell__ must be a nonlocal cell, not <class '" ++ type ++ "'>"
  | repeatedBase name => "duplicate base class " ++ name
  | inconsistentBases names =>
      Text.cutOrNothing basesLimit ("Cannot create a consistent method resolution\n" ++
        "order (MRO) for bases " ++ ", ".intercalate names)
  | notAClass => "issubclass() arg 1 must be a class"
  | invalidClass type => "__class__ must be set to a class, not '" ++ type ++ "' object"
  | invalidAttributes type =>
      "__dict__ must be set to a dictionary, not a '" ++ shownType type ++ "'"
  | unbound name => name
  | unwritable type => "Object of type " ++ type ++ " is not JSON serializable"
  | raised text => text
  | notAPath type => "expected str, bytes or os.PathLike object, not " ++ type
  | file fault => fault.message

end Fault

end ScopedHtml
