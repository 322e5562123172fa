import ScopedHtml.Files.System
import ScopedHtml.Log
import ScopedHtml.Node.Render

/-!
# ScopedHtml.Files.Write

Writing a page to a file.

The file name is seen from the output directory, which is the current directory
unless one is given. The directory that the file lies in is made first, with all
that is missing on the way. The page's text may hold surrogates; it is encoded last.
-/

namespace ScopedHtml.Files

/-- The path of a page's file. -/
def outputPath (current : Location) (filename : String) (directory : Option String) : Path :=
  let base := match directory with
    | some text => Path.ofText text
    | none => locationPath current
  base.join (Path.ofText filename)

/-- The text of a page's file: the page and a line feed. -/
def fileText (node : Node) : String := node.render ++ "\n"

/-- A page with its text. What a `Node` holds are texts of characters; a page whose texts
hold surrogates is given by the node with the replacement character in their place and by
the text that shows them. Texts go out verbatim, so the two differ in nothing else. -/
structure Rendering where
  node : Node
  text : List CodePoint
  shown : text.map CodePoint.shown = node.render.toList

/-- A page whose texts hold no surrogates. -/
def Rendering.ofNode (node : Node) : Rendering where
  node := node
  text := codePoints node.render
  shown := by simp [codePoints, Function.comp_def, CodePoint.shown]

/-- The code points of a page's file: the page and a line feed. -/
def Rendering.filed (page : Rendering) : List CodePoint := page.text ++ codePoints "\n"

/-- Writes a page and gives the path of its file. -/
def writePage (current : Location) (page : Rendering) (filename : String)
    (directory : Option String) : FilesM Path := do
  let path := outputPath current filename directory
  ensureDirectory current path.parent
  writeText current path page.filed
  return path

/-- The record of a page that was written. -/
def wroteEvent (node : Node) (path : Path) : Log.Event := .wrote node.tag path.toText

end ScopedHtml.Files
