import ScopedHtml.Command.Run

/-!
# ScopedHtml.Main

The command on a real file system.

Everything but the requests to the system is decided by `ScopedHtml.Command`.
-/

namespace ScopedHtml.Command

/-- The variable of the environment that overrides the level. -/
def levelVariable : String := "GENRO_HTMLTAGS_LOG_LEVEL"

/-- Prints the records shown at a level. -/
def printRecords (level : Log.Severity) (events : List Log.Event) : IO Unit := do
  (← IO.getStderr).putStr (shownLines level events)

/-- Writes a page on the system and gives the path of its file. -/
def writeOut (page : Node) (filename : String) (directory : Option String) :
    IO Files.Path := do
  let here := Files.Path.ofText (← IO.currentDir).toString
  let path := Files.outputPath here.parts filename directory
  IO.FS.createDirAll path.parent.toText
  IO.FS.writeFile path.toText (Files.fileText page)
  return path

/-- Does what the settings ask for on the system. -/
def execute (level : Log.Severity) (settings : Settings) : IO UInt32 := do
  printRecords level [.configured "genro_htmltags.__main__" level]
  match builtSample, settings.output with
  | .error fault, _ =>
      (← IO.getStderr).putStrLn fault.message
      return 1
  | .ok (page, events), none =>
      printRecords level events
      (← IO.getStdout).putStr (Files.fileText page)
      return 0
  | .ok (page, events), some filename =>
      printRecords level events
      match settings.directory.text? with
      | .error fault =>
          (← IO.getStderr).putStrLn fault.message
          return 1
      | .ok directory =>
          let path ← writeOut page filename directory
          printRecords level [Files.wroteEvent page path]
          (← IO.getStdout).putStr (writtenNotice path)
          return 0

end ScopedHtml.Command

open ScopedHtml.Command in
/-- Runs the command with these words. -/
def main (words : List String) : IO UInt32 := do
  match parse words with
  | .error stop =>
      let ended := stop.ended
      (← IO.getStdout).putStr ended.stdout
      (← IO.getStderr).putStr ended.stderr
      return (ended.exit.getD 1).toUInt32
  | .ok settings =>
      let level := effectiveLevel (← IO.getEnv levelVariable) settings.level
      execute level settings
