/-!
# ScopedHtml.Builder.Hook

Members that are not called by name.

A class may have members that something else calls: making an instance, starting
it, reading or assigning its attributes, calling it, and defining a class behind
it. Which member is meant is a matter of its name (`Hook.name`). A class that has
none under the name is treated in the ordinary way.
-/

namespace ScopedHtml

/-- An occasion on which a member is called, if there is one. -/
inductive Hook
  /-- A class is defined that inherits from this one. -/
  | heir
  /-- An instance is to be made. -/
  | make
  /-- An instance has been made and is to be started. -/
  | start
  /-- An attribute is read. -/
  | read
  /-- An attribute was read and found nowhere. -/
  | unknown
  /-- An attribute is assigned. -/
  | write
  /-- A builder is called like a function. -/
  | call
  deriving DecidableEq, Repr, Inhabited

namespace Hook

/-- The name of the member that is called. -/
def name : Hook → String
  | heir => "__init_subclass__"
  | make => "__new__"
  | start => "__init__"
  | read => "__getattribute__"
  | unknown => "__getattr__"
  | write => "__setattr__"
  | call => "__call__"

/-- The names of functions that work on a class also when a builder is asked for them. -/
def ofClass : List String := [heir.name, make.name, "__class_getitem__"]

end Hook

end ScopedHtml
