import ScopedHtml.Command.Arguments
import ScopedHtml.Fault
import ScopedHtml.Files.Write
import ScopedHtml.Page

/-!
# ScopedHtml.Command.Run

What the command does.

It builds the sample page and prints it, or writes it to the output file. A
variable of the environment overrides the level of the command line; neither
influences anything but which records are shown.
-/

namespace ScopedHtml.Command

/-! ### Levels -/

/-- The capital letter of a character. Of the letters outside the alphabet only
the dotless i has a capital that the name of a level can contain. -/
def capital (c : Char) : Char := if c = 'ı' then 'I' else c.toUpper

/-- The name of the level asked for: that of the environment unless it is unset or
empty, else that of the command line. -/
def requestedLevel (override : Option String) (option : Log.Severity) : String :=
  match override with
  | none => levelName option
  | some text => if text = "" then levelName option else text

/-- The level from which records are shown: the one asked for, in capital
letters, or warnings if there is none of that name. -/
def effectiveLevel (override : Option String) (option : Log.Severity) : Log.Severity :=
  let name := String.ofList ((requestedLevel override option).toList.map capital)
  (Log.Severity.ofName? name).getD .warning

/-! ### Running -/

/-- The surroundings of a run. -/
structure Surroundings where
  /-- The variable that overrides the level. -/
  override : Option String
  /-- The name under which the command itself keeps records. -/
  source : String
  /-- The current directory. -/
  current : Files.Location
  deriving Repr, Inhabited

/-- How a run ended. -/
structure Ended where
  /-- The exit status; a fault leaves none. -/
  exit : Option Nat
  stdout : String
  stderr : String
  /-- The level from which records were shown, if it came to that. -/
  level : Option Log.Severity
  fault : Option Fault
  deriving Inhabited

/-- The end of a run that does nothing but print. -/
def Stop.ended : Stop → Ended
  | .help => ⟨some 0, Command.help, "", none, none⟩
  | .version => ⟨some 0, Command.version, "", none, none⟩
  | .error problem => ⟨some 2, "", problem.report, none, none⟩

/-- What a run did: its standard output, its events, and its fault. -/
structure Performed where
  stdout : String
  events : List Log.Event
  fault : Option Fault
  deriving Inhabited

/-- What is printed when the page has been written. -/
def writtenNotice (path : Files.Path) : String := "HTML written to " ++ path.toText ++ "\n"

/-- The directory to write to, if one is named. A switch that was left without one
names none, and not the current one either. -/
def Directory.text? : Directory → Except Fault (Option String)
  | .unset => .ok none
  | .named text => .ok (some text)
  | .emptied => .error (.notAPath "list")

/-- Builds the page and prints or writes it. -/
def perform (current : Files.Location) (output : Option String) (directory : Directory)
    (system : Files.System) : Performed × Files.System :=
  match builtSample, output with
  | .error fault, _ => (⟨"", [], some fault⟩, system)
  | .ok (page, events), none => (⟨Files.fileText page, events, none⟩, system)
  | .ok (page, events), some filename =>
      match directory.text? with
      | .error fault => (⟨"", events, some fault⟩, system)
      | .ok directory =>
          match Files.writePage current (.ofNode page) filename directory system with
          | .ok path system =>
              (⟨writtenNotice path, events ++ [Files.wroteEvent page path], none⟩, system)
          | .error fault system => (⟨"", events, some (.file fault)⟩, system)

/-- The lines of the records shown at a level. -/
def shownLines (level : Log.Severity) (events : List Log.Event) : String :=
  String.join ((Log.shown level events).map Log.Event.line)

/-- Does what the settings ask for. -/
def runWith (surroundings : Surroundings) (settings : Settings) (system : Files.System) :
    Ended × Files.System :=
  let level := effectiveLevel surroundings.override settings.level
  let (performed, after) :=
    perform surroundings.current settings.output settings.directory system
  let events := .configured surroundings.source level :: performed.events
  ({ exit := if performed.fault.isNone then some 0 else none
     stdout := performed.stdout
     stderr := shownLines level events
     level := some level
     fault := performed.fault }, after)

/-- Runs the command. -/
def run (surroundings : Surroundings) (words : List String) (system : Files.System) :
    Ended × Files.System :=
  match parse words with
  | .error stop => (stop.ended, system)
  | .ok settings => runWith surroundings settings system

end ScopedHtml.Command
