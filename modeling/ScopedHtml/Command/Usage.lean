import ScopedHtml.Log
import ScopedHtml.Text.Quoted

/-!
# ScopedHtml.Command.Usage

The switches of the command line, and what it says about itself.
-/

namespace ScopedHtml.Command

/-- What the command line can be told. -/
inductive Switch
  | help | outputDirectory | logLevel | version
  deriving DecidableEq, Repr, Inhabited

/-- The spellings of the switches, in the order in which they are offered. -/
def spellings : List (String × Switch) := [
  ("-h", .help),
  ("--help", .help),
  ("-d", .outputDirectory),
  ("--output-dir", .outputDirectory),
  ("--log-level", .logLevel),
  ("--version", .version)]

namespace Switch

/-- The switch with exactly this spelling. -/
def ofSpelling? (text : String) : Option Switch := spellings.lookup text

/-- The spellings of a switch. -/
def spelled (switch : Switch) : List String :=
  (spellings.filter fun entry => entry.2 = switch).map (·.1)

/-- Whether a switch is followed by a value. -/
def takesValue : Switch → Bool
  | outputDirectory => true
  | logLevel => true
  | help => false
  | version => false

end Switch

/-! ### Levels -/

/-- The name of a severity as a value on the command line. -/
def levelName : Log.Severity → String
  | .critical => "critical"
  | .error => "error"
  | .warning => "warning"
  | .info => "info"
  | .debug => "debug"

/-- The severity that a value names. -/
def levelOf? (name : String) : Option Log.Severity :=
  Log.Severity.all.find? fun severity => levelName severity = name

/-! ### Texts -/

/-- How the command is called. -/
def usage : String :=
  "usage: genro-htmltags [-h] [-d OUTPUT_DIR]\n" ++
  "                      [--log-level \x7bcritical,error,warning,info,debug\x7d]\n" ++
  "                      [--version]\n" ++
  "                      [output]\n"

/-- The help text. -/
def help : String :=
  usage ++
  "\n" ++
  "Render the sample HtmlTags page.\n" ++
  "\n" ++
  "positional arguments:\n" ++
  "  output                File to write; prints to stdout when omitted\n" ++
  "\n" ++
  "options:\n" ++
  "  -h, --help            show this help message and exit\n" ++
  "  -d OUTPUT_DIR, --output-dir OUTPUT_DIR\n" ++
  "                        Directory for OUTPUT (default: current directory)\n" ++
  "  --log-level \x7bcritical,error,warning,info,debug\x7d\n" ++
  "                        Logging level (overridden by\n" ++
  "                        $GENRO_HTMLTAGS_LOG_LEVEL)\n" ++
  "  --version             show program's version number and exit\n"

/-- The version text. -/
def version : String := "genro-htmltags 0.1.0\n"

/-! ### Errors -/

/-- What is wrong with a command line. -/
inductive UsageError
  /-- A word begins several spellings. -/
  | ambiguous (word : String) (candidates : List String)
  /-- No value follows a switch that takes one. -/
  | noValue (switch : Switch)
  /-- A value is attached to a switch that takes none. -/
  | strayValue (switch : Switch) (value : String)
  /-- A value is not among those that a switch takes. -/
  | invalidChoice (switch : Switch) (value : String)
  /-- Words are left over. -/
  | unrecognized (words : List String)
  deriving DecidableEq, Repr, Inhabited

/-- A remark about a switch. -/
def aboutSwitch (switch : Switch) (remark : String) : String :=
  "argument " ++ "/".intercalate switch.spelled ++ ": " ++ remark

/-- The words for an error. -/
def UsageError.message : UsageError → String
  | ambiguous word candidates =>
      "ambiguous option: " ++ word ++ " could match " ++ ", ".intercalate candidates
  | noValue switch => aboutSwitch switch "expected one argument"
  | strayValue switch value =>
      aboutSwitch switch ("ignored explicit argument " ++ Text.quoted value)
  | invalidChoice switch value =>
      aboutSwitch switch ("invalid choice: " ++ Text.quoted value ++ " (choose from " ++
        Text.quotedList (Log.Severity.all.map levelName) ++ ")")
  | unrecognized words => "unrecognized arguments: " ++ " ".intercalate words

/-- What is printed for an error. -/
def UsageError.report (error : UsageError) : String :=
  usage ++ "genro-htmltags: error: " ++ error.message ++ "\n"

end ScopedHtml.Command
