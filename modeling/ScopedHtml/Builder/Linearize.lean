import ScopedHtml.Builder.Standard

/-!
# ScopedHtml.Builder.Linearize

The inheritance order of a class with several bases.

The order keeps the order of every base and the order in which the bases are
listed. It is found by merging: the next class is the first head of a row that
stands behind no other row's head. When there is none the bases contradict each
other and the class cannot be defined.
-/

namespace ScopedHtml

/-- Whether `id` stands behind the head of some row. -/
def waits (id : ClassId) (rows : List (List ClassId)) : Bool :=
  rows.any fun row => id ∈ row.tail

/-- The first head that stands behind no head. -/
def nextHead? (rows : List (List ClassId)) : Option ClassId :=
  (rows.filterMap List.head?).find? fun id => !waits id rows

/-- The rows without `id` at their heads. -/
def dropHead (id : ClassId) (rows : List (List ClassId)) : List (List ClassId) :=
  rows.map fun row => if row.head? = some id then row.tail else row

/-- Merges rows, at most `steps` classes. A contradiction gives the heads that
are left. -/
def mergeRows : Nat → List (List ClassId) → Except (List ClassId) (List ClassId)
  | 0, _ => .ok []
  | steps + 1, rows =>
      match rows.filterMap List.head?, nextHead? rows with
      | [], _ => .ok []
      | heads, none => .error heads.eraseDups
      | _, some id => do return id :: (← mergeRows steps (dropHead id rows))

namespace ClassTable

/-- The classes behind a new class with these bases; without any, the root. -/
def ancestorsOf (table : ClassTable) (bases : List ClassId) :
    Except (List ClassId) (List ClassId) :=
  let bases := if bases.isEmpty then [Standard.root] else bases
  let rows := bases.map table.line ++ [bases]
  mergeRows rows.flatten.length rows

end ClassTable

end ScopedHtml
