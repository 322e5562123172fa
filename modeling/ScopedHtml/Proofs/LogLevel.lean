import ScopedHtml.Command.Run
import ScopedHtml.Proofs.Writes

/-!
# ScopedHtml.Proofs.LogLevel

**The level of the records decides nothing else.** A run has two inputs that choose a level, the
switch of the command line and the variable of the environment. Reading the command line does
not look at the level it has taken (`Blind`, one lemma for each way to take a word), so command
lines that differ in the level alone ask for the same (`AskAlike`), and runs that are asked for
the same agree in everything but the records they show (`Agree`). The records of a run are told in
full: which there are (`pageRecords`, `writeRecords`), which of them a level shows (`isShown`), and
how they read (`shownText`).
-/

namespace ScopedHtml.Command

/-! ### Words that are taken -/

/-- Settings without the level they ask for. -/
def Settings.unleveled (settings : Settings) : Settings := { settings with level := .warning }

/-- The words taken so far, without the level they ask for. -/
def Taken.unleveled (taken : Taken) : Taken :=
  { taken with settings := taken.settings.unleveled }

/-- Whether what is taken next does not depend on the level taken before. -/
def Blind (take : Taken → Except Stop Taken) : Prop :=
  ∀ taken, (take taken).map Taken.unleveled = (take taken.unleveled).map Taken.unleveled

theorem blind_ok {take : Taken → Taken}
    (same : ∀ taken, (take taken).unleveled = (take taken.unleveled).unleveled) :
    Blind fun taken => .ok (take taken) := by
  intro taken
  exact congrArg Except.ok (same taken)

theorem blind_error (stop : Stop) : Blind fun _ => .error stop := by
  intro taken
  rfl

/-- Sequences agree up to a view if their first parts do, and their second parts do wherever the
first parts end alike. -/
theorem bind_map_congr {α β γ δ : Type} {see : α → β} {see' : γ → δ}
    {first other : Except Stop α} {next next' : α → Except Stop γ}
    (same : first.map see = other.map see)
    (further : ∀ a b, see a = see b → (next a).map see' = (next' b).map see') :
    (first.bind next).map see' = (other.bind next').map see' := by
  cases first with
  | error stop =>
      cases other with
      | error stop' =>
          cases same
          rfl
      | ok b => cases same
  | ok a =>
      cases other with
      | error stop' => cases same
      | ok b => exact further a b (Except.ok.inj same)

/-- One after the other, what follows sees what came before without its level. -/
theorem Blind.bind {take next : Taken → Except Stop Taken} (first : Blind take)
    (second : Blind next) : Blind fun taken => (take taken).bind next := by
  intro taken
  refine bind_map_congr (first taken) fun taken₁ taken₂ same => ?_
  calc (next taken₁).map Taken.unleveled
      = (next taken₁.unleveled).map Taken.unleveled := second taken₁
    _ = (next taken₂.unleveled).map Taken.unleveled := by rw [same]
    _ = (next taken₂).map Taken.unleveled := (second taken₂).symm

theorem blind_apply (switch : Switch) (value : String) :
    Blind fun taken => taken.apply switch value := by
  cases switch with
  | help => exact blind_error _
  | version => exact blind_error _
  | outputDirectory => exact blind_ok fun _ => rfl
  | logLevel =>
      intro taken
      simp only [Taken.apply]
      split
      · rfl
      · cases levelOf? value <;> rfl

theorem blind_applyAll (switches : List Switch) : Blind fun taken => taken.applyAll switches := by
  induction switches with
  | nil => exact blind_ok fun _ => rfl
  | cons switch rest ih => exact (blind_apply switch "").bind ih

/-- Taking a word of switches forgets first whether an operand came before. -/
theorem blind_switches (switch : Switch) (short : Bool) (attached : Option (List Char)) :
    Blind fun taken => taken.switches switch short attached := by
  have moved : Blind fun taken => .ok { taken with justOperand := false } := blind_ok fun _ => rfl
  unfold Taken.switches
  cases expand (attached.getD []).length switch short attached with
  | error error => exact blind_error _
  | ok ending =>
      obtain ⟨before, ending⟩ := ending
      cases ending with
      | valued last value => exact moved.bind ((blind_applyAll before).bind (blind_apply last value))
      | bare last =>
          cases takes : last.takesValue with
          | true =>
              simp only [takes]
              exact blind_ok fun _ => rfl
          | false =>
              simp only [takes]
              exact moved.bind (blind_applyAll (before ++ [last]))

theorem blind_word (word : Word) : Blind fun taken => taken.word word := by
  rintro ⟨settings, operand, justOperand, waiting, extras⟩
  cases waiting with
  | some waiting =>
      cases word with
      | operand text =>
          exact (blind_applyAll waiting.before).bind (blind_apply waiting.last text)
            ⟨settings, operand, justOperand, none, extras⟩
      | separator => rfl
      | switch switch short attached => rfl
      | unknown text => rfl
  | none =>
      cases word with
      | operand text => cases operand <;> rfl
      | separator => cases operand <;> cases justOperand <;> rfl
      | switch switch short attached =>
          exact blind_switches switch short attached ⟨settings, operand, justOperand, none, extras⟩
      | unknown text => rfl

theorem blind_words (words : List Word) : Blind fun taken => words.foldlM Taken.word taken := by
  induction words with
  | nil => exact blind_ok fun _ => rfl
  | cons word rest ih => exact (blind_word word).bind ih

/-- What has been taken when the words end, without the level. -/
theorem finish_unleveled (taken : Taken) :
    taken.finish.map Settings.unleveled = taken.unleveled.finish.map Settings.unleveled := by
  obtain ⟨settings, operand, justOperand, waiting, extras⟩ := taken
  cases waiting <;> cases extras <;> rfl

/-- What is read to the end from there on. -/
def Taken.readOn (taken : Taken) (words : List Word) : Except Stop Settings :=
  (words.foldlM Taken.word taken).bind Taken.finish

theorem Taken.readOn_append (taken : Taken) (first rest : List Word) :
    taken.readOn (first ++ rest) =
      (first.foldlM Taken.word taken).bind fun further => further.readOn rest := by
  unfold Taken.readOn
  rw [List.foldlM_append]
  change Except.bind (Except.bind _ _) _ = _
  cases first.foldlM Taken.word taken <;> rfl

theorem Taken.readOn_waiting {taken : Taken} {waiting : Waiting}
    (waits : taken.waiting = some waiting) (switch : Switch) (short : Bool)
    (attached : Option (List Char)) (rest : List Word) :
    taken.readOn (.switch switch short attached :: rest) =
      .error (.error (.noValue waiting.last)) := by
  obtain ⟨settings, operand, justOperand, _, extras⟩ := taken
  cases waits
  rfl

/-- Reading on from where only the level differs ends with settings in which only the level
differs, or stops alike. -/
theorem Taken.readOn_unleveled {taken taken' : Taken} (same : taken.unleveled = taken'.unleveled)
    (words : List Word) :
    (taken.readOn words).map Settings.unleveled = (taken'.readOn words).map Settings.unleveled := by
  have blind : (words.foldlM Taken.word taken).map Taken.unleveled =
      (words.foldlM Taken.word taken').map Taken.unleveled :=
    (blind_words words taken).trans (same ▸ (blind_words words taken').symm)
  refine bind_map_congr blind fun taken₁ taken₂ alike => ?_
  calc taken₁.finish.map Settings.unleveled
      = taken₁.unleveled.finish.map Settings.unleveled := finish_unleveled taken₁
    _ = taken₂.unleveled.finish.map Settings.unleveled := by rw [alike]
    _ = taken₂.finish.map Settings.unleveled := (finish_unleveled taken₂).symm

/-! ### Command lines -/

theorem parse_eq (words : List String) :
    parse words =
      match classifyAll words with
      | .error error => .error (.error error)
      | .ok classified => Taken.readOn {} classified := rfl

/-- The words before a switch are classified by themselves. -/
theorem classifyAll_append {before : List String} (inside : separator ∉ before)
    (after : List String) :
    classifyAll (before ++ after) =
      (classifyAll before).bind fun first => (classifyAll after).map fun rest => first ++ rest := by
  induction before with
  | nil => cases found : classifyAll after <;> simp [classifyAll, found, Except.bind, Except.map]
  | cons word rest ih =>
      obtain ⟨other, further⟩ := List.ne_and_not_mem_of_not_mem_cons inside
      rw [List.cons_append, classifyAll, classifyAll, if_neg (Ne.symm other), if_neg (Ne.symm other),
        ih further]
      cases classify word <;> cases classifyAll rest <;> cases classifyAll after <;> rfl

theorem classify_levelSwitch : classify "--log-level" = .ok (.switch .logLevel false none) := by
  rfl

theorem classify_levelName (level : Log.Severity) :
    classify (levelName level) = .ok (.operand (levelName level)) := by
  cases level <;> rfl

/-- Whether two command lines stop for the same reason or ask for the same output file and the
same output directory. -/
def AskAlike (words words' : List String) : Prop :=
  (parse words).map Settings.unleveled = (parse words').map Settings.unleveled

theorem askAlike_of_settings {words words' : List String} {settings settings' : Settings}
    (asked : parse words = .ok settings) (asked' : parse words' = .ok settings')
    (output : settings.output = settings'.output)
    (directory : settings.directory = settings'.directory) : AskAlike words words' := by
  obtain ⟨_, _, _⟩ := settings
  obtain ⟨_, _, _⟩ := settings'
  cases output
  cases directory
  unfold AskAlike
  rw [asked, asked']
  rfl

/-- The words from a level on, classified. -/
theorem classifyAll_level (level : Log.Severity) (after : List String) :
    classifyAll ("--log-level" :: levelName level :: after) =
      (classifyAll after).map fun rest =>
        .switch .logLevel false none :: .operand (levelName level) :: rest := by
  have named : levelName level ≠ separator := by cases level <;> decide
  rw [classifyAll, classifyAll, if_neg (by decide), if_neg named, classify_levelSwitch,
    classify_levelName]
  cases classifyAll after <;> rfl

/-- Taking a level takes nothing else. -/
theorem readOn_level {taken : Taken} (free : taken.waiting = none) (level : Log.Severity)
    (words : List Word) :
    taken.readOn (.switch .logLevel false none :: .operand (levelName level) :: words) =
      Taken.readOn { taken with
        settings := { taken.settings with level }, justOperand := false } words := by
  obtain ⟨settings, operand, justOperand, waiting, extras⟩ := taken
  cases free
  cases level <;> rfl

/-- A level in front of a command line changes nothing else. -/
theorem askAlike_cons (level : Log.Severity) (words : List String) :
    AskAlike words ("--log-level" :: levelName level :: words) := by
  unfold AskAlike
  rw [parse_eq, parse_eq, classifyAll_level]
  cases classifyAll words with
  | error error => rfl
  | ok classified =>
      have taken := @readOn_level {} rfl level classified
      change (Taken.readOn {} classified).map _ = (Taken.readOn {} (_ :: _ :: classified)).map _
      rw [taken]
      refine Taken.readOn_unleveled ?_ classified
      rfl

/-- One level in place of another changes nothing else, as long as the switch is one. -/
theorem askAlike_of_levels {before : List String} (inside : separator ∉ before)
    (after : List String) (level level' : Log.Severity) :
    AskAlike (before ++ "--log-level" :: levelName level :: after)
      (before ++ "--log-level" :: levelName level' :: after) := by
  unfold AskAlike
  rw [parse_eq, parse_eq, classifyAll_append inside, classifyAll_append inside,
    classifyAll_level, classifyAll_level]
  cases classifyAll before with
  | error error => rfl
  | ok first =>
      cases classifyAll after with
      | error error => rfl
      | ok rest =>
          change (Taken.readOn {} (first ++ _)).map _ = (Taken.readOn {} (first ++ _)).map _
          rw [Taken.readOn_append, Taken.readOn_append]
          cases first.foldlM Taken.word {} with
          | error stop => rfl
          | ok taken =>
              cases free : taken.waiting with
              | some waiting =>
                  -- The switch itself comes where a value has to.
                  change (Taken.readOn taken _).map _ = (Taken.readOn taken _).map _
                  rw [Taken.readOn_waiting free, Taken.readOn_waiting free]
              | none =>
                  change (Taken.readOn taken _).map _ = (Taken.readOn taken _).map _
                  rw [readOn_level free, readOn_level free]
                  refine Taken.readOn_unleveled ?_ rest
                  rfl

/-! ### Runs -/

/-- Whether two runs agree in everything but the records they show: what they print, the file
system they leave, and how they end. Runs that do nothing but print, and show no records, do so
alike. -/
structure Agree (one other : Ended × Files.System) : Prop where
  stdout : one.1.stdout = other.1.stdout
  exit : one.1.exit = other.1.exit
  fault : one.1.fault = other.1.fault
  system : one.2 = other.2
  shows : one.1.level = none ↔ other.1.level = none
  stderr : one.1.level = none → one.1.stderr = other.1.stderr

theorem agree_runWith (override override' : Option String) (source : String)
    (current : Files.Location) {settings settings' : Settings}
    (same : settings.unleveled = settings'.unleveled) (system : Files.System) :
    Agree (runWith ⟨override, source, current⟩ settings system)
      (runWith ⟨override', source, current⟩ settings' system) := by
  obtain ⟨output, directory, level⟩ := settings
  obtain ⟨output', directory', level'⟩ := settings'
  unfold Settings.unleveled at same
  obtain ⟨rfl, rfl, _⟩ := Settings.mk.inj same
  unfold runWith
  dsimp only
  generalize perform current output directory system = performed
  exact
    { stdout := rfl
      exit := rfl
      fault := rfl
      system := rfl
      shows := ⟨fun none => absurd none (Option.some_ne_none _),
        fun none => absurd none (Option.some_ne_none _)⟩
      stderr := fun none => absurd none (Option.some_ne_none _) }

/-- Runs agree if their command lines ask for the same, whatever the environment says of the
level. -/
theorem agree_of_askAlike {words words' : List String} (alike : AskAlike words words')
    (override override' : Option String) (source : String) (current : Files.Location)
    (system : Files.System) :
    Agree (run ⟨override, source, current⟩ words system)
      (run ⟨override', source, current⟩ words' system) := by
  unfold AskAlike at alike
  unfold run
  cases asked : parse words with
  | error stop =>
      cases asked' : parse words' with
      | error stop' =>
          rw [asked, asked'] at alike
          cases alike
          exact ⟨rfl, rfl, rfl, rfl, Iff.rfl, fun _ => rfl⟩
      | ok settings' =>
          rw [asked, asked'] at alike
          cases alike
  | ok settings =>
      cases asked' : parse words' with
      | error stop' =>
          rw [asked, asked'] at alike
          cases alike
      | ok settings' =>
          rw [asked, asked'] at alike
          exact agree_runWith override override' source current (Except.ok.inj alike) system

/-! ### Levels -/

/-- A text in capital letters, as far as names of levels go. -/
def capitals (text : String) : String := String.ofList (text.toList.map capital)

/-- In capital letters a level is called on the command line as it is in records. -/
theorem capitals_levelName (level : Log.Severity) : capitals (levelName level) = level.name := by
  apply String.toList_injective
  unfold capitals
  cases level <;> simp [levelName, Log.Severity.name] <;> decide

theorem ofName?_eq_some {name : String} {level : Log.Severity} :
    Log.Severity.ofName? name = some level ↔ level.name = name := by
  constructor
  · intro found
    unfold Log.Severity.ofName? at found
    simpa using List.find?_some found
  · rintro rfl
    cases level <;> decide

/-- The level that is asked for is the one shown from, if there is one of that name. -/
theorem effectiveLevel_of_name {override : Option String} {option level : Log.Severity}
    (named : capitals (requestedLevel override option) = level.name) :
    effectiveLevel override option = level := by
  have found := ofName?_eq_some.2 named.symm
  unfold capitals at found
  unfold effectiveLevel
  dsimp only
  rw [found]
  rfl

theorem effectiveLevel_of_no_name {override : Option String} {option : Log.Severity}
    (none : ∀ level : Log.Severity, capitals (requestedLevel override option) ≠ level.name) :
    effectiveLevel override option = .warning := by
  unfold effectiveLevel
  dsimp only
  cases found : Log.Severity.ofName?
      (String.ofList ((requestedLevel override option).toList.map capital)) with
  | none => rfl
  | some level => exact absurd (ofName?_eq_some.1 found).symm (none level)

/-! ### Records -/

/-- What is recorded while the page is built: its scopes, in the order in which they end. -/
def pageRecords : List Log.Event := [
  .finalized "HeadBuilder" "head",
  .finalized "DivBuilder" "div",
  .finalized "DivBuilder" "div",
  .finalized "BodyBuilder" "body",
  .finalized "DocumentBuilder" "html"]

/-- The directory that the command line names. -/
def Directory.named? : Directory → Option String
  | .named text => some text
  | _ => none

theorem Directory.eq_named? {directory : Directory} {given : Option String}
    (asked : directory.text? = .ok given) : given = directory.named? := by
  cases directory <;> cases asked <;> rfl

/-- What is recorded after that: where the page was written, if it was and nothing failed. -/
def writeRecords (current : Files.Location) (settings : Settings) (fault : Option Fault) :
    List Log.Event :=
  match settings.output, fault with
  | some filename, none =>
      [.wrote "html" (Files.outputPath current filename settings.directory.named?).toText]
  | _, _ => []

/-- Whether a record is shown at a level: that a page was written at the two lowest ones, and
everything else at the lowest one only. -/
def isShown (level : Log.Severity) : Log.Event → Bool
  | .wrote _ _ => level = .debug || level = .info
  | _ => level = .debug

/-- How a record reads when it is shown: its level, its source and its words. -/
def shownText : Log.Event → String
  | .configured source threshold =>
      "[DEBUG] " ++ source ++ ": " ++ ("Logging configured at " ++ threshold.name) ++ "\n"
  | .finalized builder tag =>
      "[DEBUG] genro_htmltags.builders.base: " ++
        (builder ++ " finalized into <" ++ tag ++ ">") ++ "\n"
  | .wrote tag path =>
      "[INFO] genro_htmltags.output: " ++ ("Wrote <" ++ tag ++ "> to " ++ path) ++ "\n"

theorem line_eq_shownText (event : Log.Event) : event.line = shownText event := by
  unfold Log.Event.line shownText
  cases event with
  | configured source threshold =>
      have head : "[" ++ "DEBUG" ++ "] " = "[DEBUG] " := by decide
      exact congrArg (· ++ source ++ ": " ++ _ ++ "\n") head
  | finalized builder tag =>
      have head : "[" ++ "DEBUG" ++ "] " ++ "genro_htmltags.builders.base" ++ ": " =
          "[DEBUG] genro_htmltags.builders.base: " := by decide
      exact congrArg (· ++ _ ++ "\n") head
  | wrote tag path =>
      have head : "[" ++ "INFO" ++ "] " ++ "genro_htmltags.output" ++ ": " =
          "[INFO] genro_htmltags.output: " := by decide
      exact congrArg (· ++ _ ++ "\n") head

theorem shown_eq_filter (level : Log.Severity) (events : List Log.Event) :
    Log.shown level events = events.filter (isShown level) := by
  unfold Log.shown
  refine List.filter_congr fun event _ => ?_
  cases event <;> cases level <;> rfl

/-- The tag of a page and what was recorded while it was built. -/
def looks (built : Except Fault (Node × List Log.Event)) : Option (String × List Log.Event) :=
  built.toOption.map fun made => (made.1.tag, made.2)

theorem looks_builtSample : looks builtSample = some ("html", pageRecords) := by
  decide +kernel

theorem exists_of_looks {built : Except Fault (Node × List Log.Event)} {tag : String}
    {events : List Log.Event} (look : looks built = some (tag, events)) :
    ∃ page, built = .ok (page, events) ∧ page.tag = tag := by
  cases built with
  | error fault => cases look
  | ok made =>
      obtain ⟨page, recorded⟩ := made
      cases look
      exact ⟨page, rfl, rfl⟩

/-- Which records there are does not depend on a level. -/
theorem perform_events (current : Files.Location) (settings : Settings) (system : Files.System) :
    (perform current settings.output settings.directory system).1.events =
      pageRecords ++ writeRecords current settings
        (perform current settings.output settings.directory system).1.fault := by
  obtain ⟨page, built, html⟩ := exists_of_looks looks_builtSample
  obtain ⟨output, directory, level⟩ := settings
  unfold perform writeRecords
  rw [built]
  cases output with
  | none => simp
  | some filename =>
      cases named : directory.text? with
      | error fault => simp
      | ok given =>
          obtain rfl := Directory.eq_named? named
          dsimp only
          cases ran : Files.writePage current (.ofNode page) filename directory.named? system with
          | error fault after => simp
          | ok path after =>
              dsimp only
              have written := Files.path_of_writePage ran
              rw [Files.wroteEvent, html, written]

/-- What a run shows, and from which level. -/
theorem runWith_shows (surroundings : Surroundings) (settings : Settings)
    (system : Files.System) :
    let level := effectiveLevel surroundings.override settings.level
    let ended := (runWith surroundings settings system).1
    ended.level = some level ∧
    ended.stderr = String.join (((.configured surroundings.source level :: (pageRecords ++
      writeRecords surroundings.current settings ended.fault)).filter (isShown level)).map
        shownText) := by
  have events := perform_events surroundings.current settings system
  unfold runWith shownLines
  dsimp only
  rw [events, shown_eq_filter, funext line_eq_shownText]
  exact ⟨rfl, rfl⟩

/-- More urgent records only are some of the records. -/
theorem shown_sublist {level level' : Log.Severity} (higher : level.rank ≤ level'.rank)
    (events : List Log.Event) :
    (events.filter (isShown level')).Sublist (events.filter (isShown level)) := by
  rw [← shown_eq_filter, ← shown_eq_filter]
  refine List.monotone_filter_right events fun event urgent => ?_
  rw [decide_eq_true_eq] at urgent ⊢
  exact Nat.le_trans higher urgent

/-- **The level of the records decides nothing else.** Runs agree in everything but the records
shown if their command lines ask for the same but the level, whatever the environment says; a
level in front of a command line, or in place of another, is no other request. What is shown is
what is urgent enough among the record of the level itself, those of the page and the one of its
file, in this order; but for the first of them, the records do not depend on the level. The level
is the one that the environment names unless it is silent, or else the command line, in any case
of letters; another name stands for warnings. Above a higher level only some of the records are
shown. -/
theorem level_decides_records_only :
    (∀ words words' : List String, AskAlike words words' →
      ∀ (override override' : Option String) (source : String) (current : Files.Location)
        (system : Files.System),
        Agree (run ⟨override, source, current⟩ words system)
          (run ⟨override', source, current⟩ words' system)) ∧
    (∀ (level : Log.Severity) (words : List String),
      AskAlike words ("--log-level" :: levelName level :: words)) ∧
    (∀ before after : List String, separator ∉ before → ∀ level level' : Log.Severity,
      AskAlike (before ++ "--log-level" :: levelName level :: after)
        (before ++ "--log-level" :: levelName level' :: after)) ∧
    (∀ (words : List String) (settings : Settings), parse words = .ok settings →
      ∀ (surroundings : Surroundings) (system : Files.System),
        let level := effectiveLevel surroundings.override settings.level
        let ended := (run surroundings words system).1
        ended.level = some level ∧
        ended.stderr = String.join (((.configured surroundings.source level :: (pageRecords ++
          writeRecords surroundings.current settings ended.fault)).filter (isShown level)).map
            shownText)) ∧
    (∀ option : Log.Severity,
      effectiveLevel none option = option ∧ effectiveLevel (some "") option = option) ∧
    (∀ (text : String) (option : Log.Severity), text ≠ "" →
      (∀ level : Log.Severity, capitals text = level.name →
        effectiveLevel (some text) option = level) ∧
      ((∀ level : Log.Severity, capitals text ≠ level.name) →
        effectiveLevel (some text) option = .warning)) ∧
    (∀ (level level' : Log.Severity) (events : List Log.Event), level.rank ≤ level'.rank →
      (events.filter (isShown level')).Sublist (events.filter (isShown level))) := by
  refine ⟨fun _ _ => agree_of_askAlike, askAlike_cons, fun _ after inside =>
    askAlike_of_levels inside after, ?_, ?_, ?_, fun _ _ events higher =>
    shown_sublist higher events⟩
  · intro words settings asked surroundings system
    have ran : run surroundings words system = runWith surroundings settings system := by
      unfold run
      rw [asked]
    rw [ran]
    exact runWith_shows surroundings settings system
  · intro option
    have silent : requestedLevel none option = levelName option := rfl
    have empty : requestedLevel (some "") option = levelName option := by
      unfold requestedLevel
      exact if_pos rfl
    exact ⟨effectiveLevel_of_name (silent ▸ capitals_levelName option),
      effectiveLevel_of_name (empty ▸ capitals_levelName option)⟩
  · intro text option given
    have requested : requestedLevel (some text) option = text := if_neg given
    constructor
    · intro level named
      exact effectiveLevel_of_name (requested.symm ▸ named)
    · intro unnamed
      exact effectiveLevel_of_no_name (requested.symm ▸ unnamed)

theorem parse_eq_ok {words : List String} {settings : Settings}
    (asked : (parse words).toOption = some settings) : parse words = .ok settings := by
  cases parsed : parse words with
  | error stop =>
      rw [parsed] at asked
      cases asked
  | ok other =>
      rw [parsed] at asked
      exact congrArg Except.ok (Option.some.inj asked)

/-- A file where the output directory would have to be: two ways to ask for the same page fail
alike there, whatever level each of them asks for. Where there is none, one record is shown. -/
theorem level_decides_records_only_failing :
    Agree
      (run ⟨some "Debug", "main", []⟩ ["--log-level=info", "-d", "site", "page.html"]
        ⟨⟨[(["site"], .file [])]⟩⟩)
      (run ⟨none, "main", []⟩ ["page.html", "--output-dir", "site"]
        ⟨⟨[(["site"], .file [])]⟩⟩) ∧
    (run ⟨none, "main", []⟩ ["page.html", "--output-dir", "site"]
        ⟨⟨[(["site"], .file [])]⟩⟩).1.fault.isSome ∧
    (run ⟨none, "main", []⟩ ["page.html", "--output-dir", "site"]
        ⟨⟨[(["site"], .file [])]⟩⟩).1.level = some .warning ∧
    (run ⟨some "info", "main", []⟩ ["page.html", "--output-dir", "site"] {}).1.stderr =
      "[INFO] genro_htmltags.output: Wrote <html> to site/page.html\n" ∧
    AskAlike ["-d", "site", "--log-level", "critical", "page.html"]
      ["-d", "site", "--log-level", "debug", "page.html"] ∧
    effectiveLevel (some "Debug") .critical = .debug ∧
    (pageRecords.filter (isShown .info)).Sublist (pageRecords.filter (isShown .debug)) := by
  have asked : parse ["--log-level=info", "-d", "site", "page.html"] =
      .ok ⟨some "page.html", .named "site", .info⟩ := parse_eq_ok (by decide +kernel)
  have asked' : parse ["page.html", "--output-dir", "site"] =
      .ok ⟨some "page.html", .named "site", .warning⟩ := parse_eq_ok (by decide +kernel)
  obtain ⟨agree, _, levels, shows, silent, named, urgent⟩ := level_decides_records_only
  refine ⟨agree _ _ (askAlike_of_settings asked asked' rfl rfl) _ _ _ _ _, by decide +kernel, ?_, ?_,
    levels ["-d", "site"] ["page.html"] (by decide) .critical .debug, ?_,
    urgent .debug .info _ (by decide)⟩
  · rw [(shows _ _ asked' ⟨none, "main", []⟩ ⟨⟨[(["site"], .file [])]⟩⟩).1]
    exact congrArg some (silent .warning).1
  · rw [(shows _ _ asked' ⟨some "info", "main", []⟩ {}).2]
    decide +kernel
  · exact (named "Debug" .critical (by decide)).1 .debug (by decide +kernel)

end ScopedHtml.Command
