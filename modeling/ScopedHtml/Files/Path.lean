/-!
# ScopedHtml.Files.Path

Paths as written.

A path is a root and components. Reading a text drops empty components and
single dots but keeps double dots, since what they mean depends on the
directories that exist; exactly two slashes at the start are a root of their
own. The path without root and components is the current directory.
-/

namespace ScopedHtml.Files

/-- A path: its root, empty for a relative one, and its components. -/
structure Path where
  root : String
  parts : List String
  deriving DecidableEq, Repr, Inhabited

namespace Path

/-! ### Reading -/

/-- The pieces between slashes. -/
def pieces : List Char → List (List Char)
  | [] => [[]]
  | c :: rest =>
      if c = '/' then [] :: pieces rest
      else match pieces rest with
        | [] => [[c]]
        | piece :: others => (c :: piece) :: others

/-- Whether a piece between slashes is a component. -/
def isPart (piece : String) : Bool := piece ≠ "" && piece ≠ "."

/-- The root of a path that starts with these characters. -/
def rootOf : List Char → String
  | '/' :: '/' :: '/' :: _ => "/"
  | '/' :: '/' :: _ => "//"
  | '/' :: _ => "/"
  | _ => ""

/-- The path that a text denotes. -/
def ofText (text : String) : Path where
  root := rootOf text.toList
  parts := ((pieces text.toList).map String.ofList).filter isPart

/-! ### Operations -/

/-- A path seen from another; an absolute path stays itself. -/
def join (base path : Path) : Path :=
  if path.root = "" then { root := base.root, parts := base.parts ++ path.parts } else path

/-- The path of the directory that a path lies in, as written. -/
def parent (path : Path) : Path := { path with parts := path.parts.dropLast }

/-- Whether a path starts at the root of the file system. -/
def isAbsolute (path : Path) : Bool := path.root ≠ ""

/-- The text of a path. -/
def toText (path : Path) : String :=
  if path.root = "" ∧ path.parts = [] then "."
  else path.root ++ "/".intercalate path.parts

end Path

end ScopedHtml.Files
