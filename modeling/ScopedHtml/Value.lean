import ScopedHtml.Fraction
import ScopedHtml.Node

/-!
# ScopedHtml.Value

What can be asked of a value.

* `Value.typeName` — the name of its type, as messages cite it;
* `Value.items?` — its items, if it has some: the characters of a text, the
  items of a list, the names of a record;
* `Value.whole?` — the whole number it counts as: a truth value counts as zero or
  one, a fraction without a remainder as its whole number;
* `Value.isEmpty` — whether it counts as nothing.
-/

namespace ScopedHtml.Value

/-- The name of a value's type. -/
def typeName : Value → String
  | null => "NoneType"
  | bool _ => "bool"
  | int _ => "int"
  | text _ => "str"
  | fraction _ => "float"
  | list _ => "list"
  | tuple _ => "tuple"
  | tags _ => "frozenset"
  | record _ => "dict"
  | node element => element.kind.name

/-- Whether a value is the absent one. -/
def isNull : Value → Bool
  | null => true
  | _ => false

@[simp] theorem isNull_eq_true {value : Value} : value.isNull = true ↔ value = null := by
  cases value <;> simp [isNull]

/-- The tag of a value that is an element. -/
def tag? : Value → Option String
  | node element => some element.tag
  | _ => none

/-! ### Items -/

/-- Texts as values. -/
def texts (names : List String) : List Value := names.map text

/-- Names in a fixed order. -/
def ofNames (names : List String) : Value := tuple (texts names)

/-- The items of a value that has some. -/
def items? : Value → Option (List Value)
  | text s => some (texts (s.toList.map String.singleton))
  | list items => some items
  | tuple items => some items
  | tags names => some (texts names)
  | record members => some (texts (members.map (·.1)))
  | _ => none

@[simp] theorem items?_ofNames (names : List String) :
    (ofNames names).items? = some (texts names) := rfl

/-! ### Numbers -/

/-- The number a truth value counts as. -/
def ofBool (value : Bool) : Int := if value then 1 else 0

/-- The whole number that a value counts as. -/
def whole? : Value → Option Int
  | bool value => some (ofBool value)
  | int n => some n
  | fraction digits => Fraction.whole? digits
  | _ => none

/-- Whether a value counts as nothing. -/
def isEmpty : Value → Bool
  | null => true
  | text s => s == ""
  | list items => items.isEmpty
  | tuple items => items.isEmpty
  | tags names => names.isEmpty
  | record members => members.isEmpty
  | other => other.whole? == some 0

/-! ### Operations -/

/-- The names under which everything, a value or a builder, has something that can be
called. -/
def inherent : List String :=
  ["__class__", "__delattr__", "__dir__", "__eq__", "__format__", "__ge__",
    "__getattribute__", "__getstate__", "__gt__", "__hash__", "__init__",
    "__init_subclass__", "__le__", "__lt__", "__ne__", "__new__", "__reduce__",
    "__reduce_ex__", "__repr__", "__setattr__", "__sizeof__", "__str__",
    "__subclasshook__"]

end ScopedHtml.Value
