import ScopedHtml.Text.Quoted

/-!
# ScopedHtml.Files.Fault

The reasons for which a file system refuses a request, and the one for which a
text cannot go into a file.
-/

namespace ScopedHtml.Files

/-- Why a directory was not made or a file not written. -/
inductive Fault
  /-- A directory on the way is missing. -/
  | notFound
  /-- Something already stands where a directory was to be made. -/
  | alreadyExists
  /-- A component on the way is a file. -/
  | notADirectory
  /-- The file to be written is a directory. -/
  | isADirectory
  /-- A component, or the whole path, exceeds the system's limit. -/
  | nameTooLong
  /-- The path holds the character that ends a path. -/
  | nullCharacter
  /-- The text has a surrogate at the position `first`, which has this number; none of
  the positions from there to `last` holds a character. -/
  | unencodable (number first last : Nat)
  deriving DecidableEq, Repr, Inhabited

/-- The place of a run of surrogates in a text, with the surrogate if there is only one. -/
def runText (number first last : Nat) : String :=
  if first = last then
    "character '" ++ String.ofList (Text.escaped number) ++ "' in position " ++ toString first
  else "characters in position " ++ toString first ++ "-" ++ toString last

/-- The system's wording, or that of the encoding. -/
def Fault.message : Fault → String
  | notFound => "No such file or directory"
  | alreadyExists => "File exists"
  | notADirectory => "Not a directory"
  | isADirectory => "Is a directory"
  | nameTooLong => "File name too long"
  | nullCharacter => "embedded null byte"
  | unencodable number first last =>
      "'utf-8' codec can't encode " ++ runText number first last ++ ": surrogates not allowed"

end ScopedHtml.Files
