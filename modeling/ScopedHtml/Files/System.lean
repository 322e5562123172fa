import ScopedHtml.Bindings
import ScopedHtml.Files.Encoding
import ScopedHtml.Files.Path

/-!
# ScopedHtml.Files.System

A file system of directories and regular files.

Every entry stands at a `Location`, the names that lead to it from the root.
A path is followed one component at a time from the root or from the current
directory: what lies on the way has to be a directory, a single dot stays at the
directory reached so far and a double dot goes up from it. There are no links and
no permissions.
-/

namespace ScopedHtml.Files

/-- The names that lead from the root to an entry. -/
abbrev Location := List String

/-- What stands at a location. -/
inductive Item
  | directory
  | file (bytes : List UInt8)
  deriving DecidableEq, Repr, Inhabited

/-- All entries, the root directory apart. -/
structure System where
  items : Bindings Location Item := .empty
  deriving Repr, Inhabited

namespace System

/-! ### Entries -/

/-- What stands at a location; the root is a directory. -/
def at? (system : System) (location : Location) : Option Item :=
  if location = [] then some .directory else system.items.find? location

/-- The system with an item at a location. -/
def put (system : System) (location : Location) (item : Item) : System :=
  { items := system.items.bind location item }

/-! ### Following paths -/

/-- The most bytes that a component may have. -/
def componentLimit : Nat := 255

/-- The number of bytes from which on a path is too long. -/
def pathLimit : Nat := 4096

/-- Goes from a location along components. The last one need not exist. -/
def follow (system : System) : Location → List String → Except Fault Location
  | location, [] => .ok location
  | location, name :: rest =>
      match system.at? location with
      | none => .error .notFound
      | some (.file _) => .error .notADirectory
      | some .directory =>
          if name = "." then system.follow location rest
          else if name = ".." then system.follow location.dropLast rest
          else if componentLimit < name.utf8ByteSize then .error .nameTooLong
          else system.follow (location ++ [name]) rest

/-- Why the text of a path is refused before it is followed. -/
def refusal? (text : String) : Option Fault :=
  if '\x00' ∈ text.toList then some .nullCharacter
  else if text = "" then some .notFound
  else if pathLimit ≤ text.utf8ByteSize then some .nameTooLong
  else none

/-- The location that a path denotes, seen from the current directory. -/
def locate (system : System) (current : Location) (path : Path) : Except Fault Location :=
  match refusal? path.toText with
  | some fault => .error fault
  | none => system.follow (if path.isAbsolute then [] else current) path.parts

end System

/-- The path of a location from the root. -/
def locationPath (location : Location) : Path := ⟨"/", location⟩

/-! ### Requests -/

/-- Requests to a file system. What was done before a request failed stays. -/
abbrev FilesM := EStateM Fault System

/-- Where a path leads. -/
def locate (current : Location) (path : Path) : FilesM Location := fun system =>
  match system.locate current path with
  | .ok location => .ok location system
  | .error fault => .error fault system

/-- Makes one directory. -/
def makeDirectory (current : Location) (path : Path) : FilesM Unit := do
  let location ← locate current path
  match (← get).at? location with
  | some _ => throw .alreadyExists
  | none => modify fun system => system.put location .directory

/-- Whether a path leads to a directory. A path that is too long is a fault. -/
def isDirectory (current : Location) (path : Path) : FilesM Bool := fun system =>
  match system.locate current path with
  | .ok location => .ok (decide (system.at? location = some .directory)) system
  | .error .nameTooLong => .error .nameTooLong system
  | .error _ => .ok false system

/-- Makes one directory unless it is there. -/
def makeDirectoryIfAbsent (current : Location) (path : Path) : FilesM Unit := do
  try makeDirectory current path
  catch fault =>
    match fault with
    | .notFound | .nullCharacter | .unencodable _ _ _ => throw fault
    | _ => unless ← isDirectory current path do throw fault

/-- Makes the directory with this root and these components, the last one first,
and what is missing on the way to it. -/
def ensureParts (current : Location) (root : String) : List String → FilesM Unit
  | [] => makeDirectoryIfAbsent current ⟨root, []⟩
  | name :: before => do
      let path : Path := ⟨root, (name :: before).reverse⟩
      try makeDirectoryIfAbsent current path
      catch fault =>
        if fault = .notFound then
          ensureParts current root before
          makeDirectoryIfAbsent current path
        else throw fault

/-- Makes a directory and what is missing on the way to it. -/
def ensureDirectory (current : Location) (path : Path) : FilesM Unit :=
  ensureParts current path.root path.parts.reverse

/-- Opens a file for writing, which leaves it empty: an old one is emptied, a new one
made. -/
def openEmpty (current : Location) (path : Path) : FilesM Location := do
  let location ← locate current path
  match (← get).at? location with
  | some .directory => throw .isADirectory
  | _ =>
      modify fun system => system.put location (.file [])
      return location

/-- Writes a file that holds a text, in place of an old one if there is one. The text is
encoded when the file has been opened, so one that cannot be encoded leaves an empty
file. -/
def writeText (current : Location) (path : Path) (text : List CodePoint) : FilesM Unit := do
  let location ← openEmpty current path
  match encoded text with
  | .error fault => throw fault
  | .ok bytes => modify fun system => system.put location (.file bytes)

end ScopedHtml.Files
