import ScopedHtml.Value

/-!
# ScopedHtml.Value.Equality

When two values, and so two pages, count as equal.

Elements are equal when they are of one kind and their fields are equal in
order. Values that count as whole numbers are equal when the numbers are, so a
page with `true` equals the page with 1 in its place although the two are written
differently. Lists are equal item by item, records name by name in any order.
All else is equal only to what is of its type and the same.

Finding the first equal of a value needs values that cannot change: lists that
can grow and records are refused, also inside elements.
-/

namespace ScopedHtml

mutual

/-- Equality of elements. -/
def Node.same : Node → Node → Bool
  | .title a, .title b => a.same b
  | .paragraph a, .paragraph b => a.same b
  | .head a, .head b => a.same b
  | .body as, .body bs => sameItems as bs
  | .division as i c, .division bs j d => sameItems as bs && i.same j && c.same d
  | .document h b, .document h' b' => h.same h' && b.same b'
  | _, _ => false

/-- Equality of values. -/
def Value.same : Value → Value → Bool
  | .null, .null => true
  | .text s, .text t => s == t
  | .list items, .list others => sameItems items others
  | .tuple items, .tuple others => sameItems items others
  | .tags names, .tags others => names == others
  | .record members, .record others =>
      members.length == others.length && sameMembers members others
  | .node a, .node b => a.same b
  | .fraction s, .fraction t =>
      s == t || ((Fraction.whole? s).isSome && Fraction.whole? s == Fraction.whole? t)
  | a, b => a.whole?.isSome && a.whole? == b.whole?

/-- Equality of values in a row. -/
def sameItems : List Value → List Value → Bool
  | [], [] => true
  | a :: as, b :: bs => a.same b && sameItems as bs
  | _, _ => false

/-- Whether others hold equal values under the same names. -/
def sameMembers : List (String × Value) → List (String × Value) → Bool
  | [], _ => true
  | (name, value) :: rest, others =>
      (match others.lookup name with
        | some other => value.same other
        | none => false) && sameMembers rest others

end

mutual

/-- The first thing in an element that can change. -/
def Node.changeable? : Node → Option Value
  | .title content => content.changeable?
  | .paragraph content => content.changeable?
  | .head inner => inner.changeable?
  | .body children => changeableAmong? children
  | .division children ident className =>
      (changeableAmong? children).or (ident.changeable?.or className.changeable?)
  | .document first second => first.changeable?.or second.changeable?

/-- The value itself or the first thing in it, if it can change. -/
def Value.changeable? : Value → Option Value
  | .list items => some (.list items)
  | .record members => some (.record members)
  | .tuple items => changeableAmong? items
  | .node element => element.changeable?
  | _ => none

/-- The first thing in a row of values that can change. -/
def changeableAmong? : List Value → Option Value
  | [] => none
  | value :: rest => value.changeable?.or (changeableAmong? rest)

end

/-- For each value the position of the first one that equals it. -/
def firstEqual (values : List Value) : List Nat :=
  values.map fun value => values.findIdx fun other => other.same value

end ScopedHtml
