import ScopedHtml.Command.Usage
import ScopedHtml.Text.Digit

/-!
# ScopedHtml.Command.Arguments

Reading a command line.

Reading has two stages. First every word is classified: a switch, perhaps with a
value attached, an operand, or something that looks like a switch and is none;
after the first `--` every word is an operand. A long switch may be cut short as
long as it stays unambiguous. Then the words are taken in order: switches with
their values, one operand as the output file, and the rest is left over.
-/

namespace ScopedHtml.Command

/-! ### Words -/

/-- The word that separates operands from switches. As a value it stands for
nothing. -/
def separator : String := "--"

/-- A word of the command line. -/
inductive Word
  | operand (text : String)
  /-- The first `--`. -/
  | separator
  /-- A switch, perhaps with characters attached to it; `short` ones have a single
  hyphen and may be followed by others in the same word. -/
  | switch (switch : Switch) (short : Bool) (attached : Option (List Char))
  /-- Like a switch, but none. -/
  | unknown (text : String)
  deriving DecidableEq, Repr, Inhabited

/-- The characters before the first equals sign, and those behind it. -/
def splitEquals : List Char → List Char × Option (List Char)
  | [] => ([], none)
  | c :: rest =>
      if c = '=' then ([], some rest)
      else
        let (before, behind) := splitEquals rest
        (c :: before, behind)

/-- The long and short spellings that begin with these characters. -/
def candidates (start : List Char) : List (String × Switch) :=
  spellings.filter fun entry => start.isPrefixOf entry.1.toList

/-- Whether the characters behind a hyphen are a number: digits, or digits around
a point with at least one behind it. A final line feed does not count. -/
def isNumber (chars : List Char) : Bool :=
  let chars := if chars.getLast? = some '\n' then chars.dropLast else chars
  let whole := chars.takeWhile Text.isDecimalDigit
  match chars.dropWhile Text.isDecimalDigit with
  | [] => whole ≠ []
  | c :: behind => c = '.' && behind ≠ [] && behind.all Text.isDecimalDigit

/-- Whether a spelling has a single hyphen. -/
def isShort (spelling : List Char) : Bool := spelling[1]? ≠ some '-'

/-- A word that begins with a hyphen and spells no switch, as an operand or an
unknown switch. -/
def notASwitch (word : String) (behindHyphen : List Char) : Word :=
  if isNumber behindHyphen || ' ' ∈ behindHyphen then .operand word else .unknown word

/-- A word that begins with two hyphens: perhaps a switch cut short. -/
def classifyLong (word : String) : Except UsageError Word :=
  let (start, behind) := splitEquals word.toList
  match candidates start with
  | [] => .ok (notASwitch word word.toList.tail)
  | [(_, switch)] => .ok (.switch switch false behind)
  | several => .error (.ambiguous word (several.map (·.1)))

/-- A word of a hyphen, another character and more: perhaps a short switch with
something attached. -/
def classifyShort (word : String) (c : Char) (rest : List Char) : Word :=
  match Switch.ofSpelling? (String.ofList ['-', c]) with
  | some switch => .switch switch true (some rest)
  | none => notASwitch word (c :: rest)

/-- What a word is that stands before any `--`. -/
def classify (word : String) : Except UsageError Word :=
  match Switch.ofSpelling? word with
  | some switch => .ok (.switch switch (isShort word.toList) none)
  | none =>
      match splitEquals word.toList with
      | (start, some value) =>
          match Switch.ofSpelling? (String.ofList start) with
          | some switch => .ok (.switch switch (isShort start) (some value))
          | none => byHyphens word
      | (_, none) => byHyphens word
where
  /-- What a word is that spells no whole switch. -/
  byHyphens (word : String) : Except UsageError Word :=
    match word.toList with
    | '-' :: '-' :: _ => classifyLong word
    | '-' :: c :: rest => .ok (classifyShort word c rest)
    | _ => .ok (.operand word)

/-- What the words of a command line are. -/
def classifyAll : List String → Except UsageError (List Word)
  | [] => .ok []
  | word :: rest =>
      if word = separator then .ok (.separator :: rest.map .operand)
      else do
        let first ← classify word
        return first :: (← classifyAll rest)

/-! ### Taking words -/

/-- The output directory that a command line asks for. -/
inductive Directory
  /-- None, which means the current one. -/
  | unset
  | named (text : String)
  /-- A switch without a directory: its value was a separator, which stands for
  nothing. -/
  | emptied
  deriving DecidableEq, Repr, Inhabited

/-- What a command line asks for. -/
structure Settings where
  output : Option String := none
  directory : Directory := .unset
  level : Log.Severity := .warning
  deriving DecidableEq, Repr, Inhabited

/-- Why reading ends before the last word, or after it without settings. -/
inductive Stop
  | help
  | version
  | error (error : UsageError)
  deriving DecidableEq, Repr, Inhabited

/-- Switches of one word, of which the last waits for its value. -/
structure Waiting where
  before : List Switch
  last : Switch
  deriving DecidableEq, Repr, Inhabited

/-- The words taken so far. -/
structure Taken where
  settings : Settings := {}
  /-- Whether the operand has been taken. -/
  operand : Bool := false
  /-- Whether the operand was the word before. -/
  justOperand : Bool := false
  /-- The switches whose value has to come next. -/
  waiting : Option Waiting := none
  /-- The words that nothing takes. -/
  extras : List String := []
  deriving Repr, Inhabited

/-- How a word of switches ends. -/
inductive Ending
  /-- With a switch to which nothing is attached. -/
  | bare (switch : Switch)
  /-- With a switch and the value attached to it. -/
  | valued (switch : Switch) (value : String)
  deriving DecidableEq, Repr, Inhabited

/-- What is attached to a short switch when these characters follow its letter. -/
def attachedTo (behind : List Char) : Option (List Char) :=
  if behind.isEmpty then none else some behind

/-- The switches of one word: those that take no value, and how the word ends.
Behind a short switch without a value the next letter is a switch again. `steps`
bounds the number of letters. -/
def expand :
    Nat → Switch → Bool → Option (List Char) → Except UsageError (List Switch × Ending)
  | _, switch, _, none => .ok ([], .bare switch)
  | steps, switch, short, some attached =>
      let stray := UsageError.strayValue switch (String.ofList attached)
      if switch.takesValue then .ok ([], .valued switch (String.ofList attached))
      else match steps, short, attached with
        | steps + 1, true, c :: rest =>
            match Switch.ofSpelling? (String.ofList ['-', c]) with
            | none => .error stray
            | some next => do
                let (switches, ending) ← expand steps next true (attachedTo rest)
                return (switch :: switches, ending)
        | _, _, _ => .error stray

/-- Does what a switch asks for. -/
def Taken.apply (taken : Taken) (switch : Switch) (value : String) : Except Stop Taken :=
  match switch with
  | .help => .error .help
  | .version => .error .version
  | .outputDirectory =>
      let directory := if value = separator then .emptied else .named value
      .ok { taken with settings := { taken.settings with directory } }
  | .logLevel =>
      if value = separator then
        .ok { taken with settings := { taken.settings with level := .warning } }
      else match levelOf? value with
        | some level => .ok { taken with settings := { taken.settings with level } }
        | none => .error (.error (.invalidChoice .logLevel value))

/-- Does what switches without values ask for. -/
def Taken.applyAll (taken : Taken) : List Switch → Except Stop Taken
  | [] => .ok taken
  | switch :: rest => do (← taken.apply switch "").applyAll rest

/-- Takes an operand; a second one is left over. -/
def Taken.take (taken : Taken) (text : String) : Taken :=
  if taken.operand then { taken with extras := taken.extras ++ [text], justOperand := false }
  else
    { taken with
      settings := { taken.settings with output := some text }
      operand := true
      justOperand := true }

/-- Takes a `--`, which goes with an operand beside it. -/
def Taken.separate (taken : Taken) : Taken :=
  if taken.operand && !taken.justOperand then { taken with extras := taken.extras ++ [separator] }
  else { taken with justOperand := false }

/-- Leaves a word over. -/
def Taken.leave (taken : Taken) (text : String) : Taken :=
  { taken with extras := taken.extras ++ [text], justOperand := false }

/-- Takes a word of switches. -/
def Taken.switches (taken : Taken) (switch : Switch) (short : Bool)
    (attached : Option (List Char)) : Except Stop Taken := do
  let taken := { taken with justOperand := false }
  match expand (attached.getD []).length switch short attached with
  | .error error => throw (.error error)
  | .ok (before, .valued last value) => (← taken.applyAll before).apply last value
  | .ok (before, .bare last) =>
      if last.takesValue then return { taken with waiting := some ⟨before, last⟩ }
      else taken.applyAll (before ++ [last])

/-- Takes one word. While switches wait for a value, it has to be an operand. -/
def Taken.word (taken : Taken) (word : Word) : Except Stop Taken :=
  match taken.waiting, word with
  | some waiting, .operand text => do
      (← { taken with waiting := none }.applyAll waiting.before).apply waiting.last text
  | some waiting, _ => throw (.error (.noValue waiting.last))
  | none, .operand text => return taken.take text
  | none, .separator => return taken.separate
  | none, .unknown text => return taken.leave text
  | none, .switch switch short attached => taken.switches switch short attached

/-- What has been taken when the words end. -/
def Taken.finish (taken : Taken) : Except Stop Settings :=
  match taken.waiting, taken.extras with
  | some waiting, _ => .error (.error (.noValue waiting.last))
  | none, [] => .ok taken.settings
  | none, extras => .error (.error (.unrecognized extras))

/-- What a command line asks for, unless it asks for help or the version or has
an error. -/
def parse (words : List String) : Except Stop Settings := do
  match classifyAll words with
  | .error error => throw (.error error)
  | .ok classified =>
      let taken ← classified.foldlM Taken.word {}
      taken.finish

end ScopedHtml.Command
