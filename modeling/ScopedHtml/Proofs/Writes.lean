import ScopedHtml.Files.Write
import ScopedHtml.Proofs.Directories

/-!
# ScopedHtml.Proofs.Writes

**Writing pages touches the targets only, and the last write wins.** One call to write a page
(`Request.run`) makes directories above its path and then either is refused, with every file as
it was, or opens the file at the one location that the path denotes (`Request.Opens`). What it
leaves there is the page in UTF-8, or nothing if the page has no bytes in UTF-8
(`Request.run_cases`). Over a sequence of calls (`runAll`), each of which goes on with what the one
before it left, a file holds what the last call that opened it left, or what it held at the start
(`runAll_file`). A call that has succeeded can be repeated, and changes nothing then
(`Request.run_again`).
-/

namespace ScopedHtml.Files

variable {current : Location} {system mid after : System}

/-! ### Encoding -/

theorem encodedFrom_characters (position : Nat) (chars : List Char) :
    encodedFrom position (chars.map .character) = .ok (chars.flatMap String.utf8EncodeChar) := by
  induction chars generalizing position with
  | nil => rfl
  | cons c rest ih =>
      rw [List.map_cons, encodedFrom, ih, List.flatMap_cons]
      rfl

/-- Encoding stops at the first surrogate. -/
theorem encodedFrom_surrogate (position : Nat) {text : List CodePoint}
    (broken : ∃ point ∈ text, point.isSurrogate = true) :
    ∃ number first last, encodedFrom position text = .error (.unencodable number first last) := by
  induction text generalizing position with
  | nil =>
      obtain ⟨point, among, _⟩ := broken
      cases among
  | cons point rest ih =>
      cases point with
      | surrogate offset => exact ⟨_, _, _, rfl⟩
      | character c =>
          obtain ⟨point, among, surrogate⟩ := broken
          cases among with
          | head => cases surrogate
          | tail _ among =>
              obtain ⟨number, first, last, refused⟩ := ih (position + 1) ⟨point, among, surrogate⟩
              exact ⟨number, first, last, by rw [encodedFrom, refused]; rfl⟩

/-- A text is encoded as its characters are. -/
theorem encoded_codePoints (text : String) :
    encoded (codePoints text) = .ok text.toUTF8.data.toList := by
  unfold encoded codePoints
  rw [encodedFrom_characters]
  obtain ⟨chars, rfl⟩ : ∃ chars, String.ofList chars = text := ⟨text.toList, String.ofList_toList⟩
  simp [List.utf8Encode]

namespace Rendering

/-- Whether a page has bytes in UTF-8: its text has no surrogates. -/
def Encodable (page : Rendering) : Prop := ∀ point ∈ page.text, point.isSurrogate = false

instance (page : Rendering) : Decidable page.Encodable :=
  inferInstanceAs (Decidable (∀ point ∈ page.text, point.isSurrogate = false))

/-- The bytes of a page and a line feed, in UTF-8. -/
def bytes (page : Rendering) : List UInt8 := (page.node.render ++ "\n").toUTF8.data.toList

/-- Without surrogates the text of a page is that of its node. -/
theorem filed_of_encodable {page : Rendering} (plain : page.Encodable) :
    page.filed = codePoints (page.node.render ++ "\n") := by
  have characters : page.text.map (CodePoint.character ∘ CodePoint.shown) = page.text.map id := by
    refine List.map_congr_left fun point among => ?_
    cases point with
    | character c => rfl
    | surrogate offset => cases plain _ among
  have text : page.text = codePoints page.node.render := by
    rw [codePoints, ← page.shown, List.map_map, characters, List.map_id]
  rw [filed, text]
  simp [codePoints]

theorem encoded_filed {page : Rendering} (plain : page.Encodable) :
    encoded page.filed = .ok page.bytes := by
  rw [filed_of_encodable plain, encoded_codePoints]
  rfl

theorem encoded_filed_of_not {page : Rendering} (broken : ¬page.Encodable) :
    ∃ number first last, encoded page.filed = .error (.unencodable number first last) := by
  refine encodedFrom_surrogate 0 ?_
  unfold Encodable at broken
  obtain ⟨point, among, surrogate⟩ : ∃ point ∈ page.text, point.isSurrogate = true := by
    simpa using broken
  exact ⟨point, List.mem_append_left _ among, surrogate⟩

end Rendering

/-! ### Opening and writing a file -/

/-- A file is opened where no directory stands, or nothing is done. -/
theorem openEmpty_cases (current : Location) (path : Path) (system : System) :
    (∃ fault, fault.isRefusal = true ∧ openEmpty current path system = .error fault system) ∨
    system.locate current path = .ok (path.target current) ∧
      system.at? (path.target current) ≠ some .directory := by
  unfold openEmpty
  cases led : system.locate current path with
  | error fault =>
      exact .inl ⟨fault, System.isRefusal_of_locate led, bind_of_error (locate_of_error led)⟩
  | ok location =>
      obtain rfl := System.eq_of_locate led
      by_cases there : system.at? (path.target current) = some .directory
      · refine .inl ⟨.isADirectory, rfl, ?_⟩
        rw [bind_of_ok (locate_of_ok led), get_bind, there]
        rfl
      · exact .inr ⟨rfl, there⟩

theorem openEmpty_of_free {path : Path} {location : Location}
    (led : system.locate current path = .ok location)
    (free : system.at? location ≠ some .directory) :
    openEmpty current path system = .ok location (system.put location (.file [])) := by
  unfold openEmpty
  rw [bind_of_ok (locate_of_ok led), get_bind]
  cases there : system.at? location with
  | none => rfl
  | some item =>
      cases item with
      | directory => exact absurd there free
      | file bytes => rfl

theorem writeText_of_refused {path : Path} {fault : Fault}
    (refused : openEmpty current path system = .error fault system) (text : List CodePoint) :
    writeText current path text system = .error fault system := bind_of_error refused

theorem writeText_of_encoded {path : Path} {location : Location}
    (led : system.locate current path = .ok location)
    (free : system.at? location ≠ some .directory) {text : List CodePoint} {bytes : List UInt8}
    (encodes : encoded text = .ok bytes) :
    writeText current path text system = .ok () (system.put location (.file bytes)) := by
  unfold writeText
  rw [bind_of_ok (openEmpty_of_free led free), encodes]
  change EStateM.Result.ok () ((system.put location _).put location _) = _
  rw [System.put_put]

theorem writeText_of_unencodable {path : Path} {location : Location}
    (led : system.locate current path = .ok location)
    (free : system.at? location ≠ some .directory) {text : List CodePoint} {fault : Fault}
    (fails : encoded text = .error fault) :
    writeText current path text system = .error fault (system.put location (.file [])) := by
  unfold writeText
  rw [bind_of_ok (openEmpty_of_free led free), fails]
  rfl

/-! ### What a call does -/

/-- A call to write a page. -/
structure Request where
  page : Rendering
  filename : String
  directory : Option String := none

namespace Request

variable {request : Request}

/-- The path of the file to be written: the file name, seen from the directory unless it is
absolute, and from the current directory if no other one is given. -/
def path (current : Location) (request : Request) : Path :=
  let name := Path.ofText request.filename
  let base : Path := match request.directory with
    | none => ⟨"/", current⟩
    | some text => Path.ofText text
  if name.root = "" then ⟨base.root, base.parts ++ name.parts⟩ else name

theorem path_eq_outputPath (current : Location) (request : Request) :
    request.path current = outputPath current request.filename request.directory := by
  obtain ⟨page, filename, directory⟩ := request
  cases directory <;> rfl

/-- The location of the file to be written. -/
def target (current : Location) (request : Request) : Location :=
  (request.path current).target current

/-- Writes the page. -/
def run (current : Location) (request : Request) : FilesM Path :=
  writePage current request.page request.filename request.directory

theorem run_apply (current : Location) (request : Request) (system : System) :
    request.run current system =
      (ensureDirectory current (request.path current).parent >>= fun _ =>
        writeText current (request.path current) request.page.filed >>= fun _ =>
          pure (request.path current)) system := by
  rw [path_eq_outputPath]
  rfl

/-- Whether a location is that of a directory above the file to be written, as its path is
written. -/
def Above (current : Location) (request : Request) (location : Location) : Prop :=
  ∃ above ∈ (request.path current).parents, location = Path.target current above

/-- What becomes of a system until a call opens its file: there are the directories above it,
and no directory stands at its target. -/
structure Opens (current : Location) (request : Request) (before mid : System) : Prop where
  made : System.Made (request.Above current) before mid
  reaches : mid.Reaches current (request.path current).parent
  led : mid.locate current (request.path current) = .ok (request.target current)
  free : mid.at? (request.target current) ≠ some .directory

theorem Opens.inside (opens : request.Opens current system mid) : request.target current ≠ [] := by
  intro root
  have free := opens.free
  rw [root] at free
  exact free System.at?_root

theorem ensureDirectory_above (current : Location) (request : Request) (system : System) :
    System.Made (request.Above current) system
        (left (ensureDirectory current (request.path current).parent) system) ∧
      ∀ after, ensureDirectory current (request.path current).parent system = .ok () after →
        after.Reaches current (request.path current).parent := by
  obtain ⟨made, reaches⟩ := ensureDirectory_made current (request.path current).parent system
  refine ⟨made.mono ?_, reaches⟩
  rintro location ⟨front, start, same⟩
  exact ⟨_, Path.mem_parents.2 ⟨front, start, rfl⟩, same⟩

/-- What a call does: it makes directories above the file, and then it is refused, or it opens
the file and leaves there the page, or nothing if the page cannot be encoded. -/
theorem run_cases (current : Location) (request : Request) (system : System) :
    (∃ fault after, fault.isRefusal = true ∧ request.run current system = .error fault after ∧
      System.Made (request.Above current) system after) ∨
    ∃ mid, request.Opens current system mid ∧
      (request.page.Encodable ∧ request.run current system = .ok (request.path current)
          (mid.put (request.target current) (.file request.page.bytes)) ∨
        ¬request.page.Encodable ∧ ∃ fault, fault.isRefusal = false ∧
          request.run current system =
            .error fault (mid.put (request.target current) (.file []))) := by
  obtain ⟨made, reaches⟩ := ensureDirectory_above current request system
  rw [run_apply]
  cases ensured : ensureDirectory current (request.path current).parent system with
  | error fault after =>
      rw [left_of_error ensured] at made
      exact .inl ⟨fault, after, Refusing.ensureDirectory _ _ _ _ _ ensured, bind_of_error ensured,
        made⟩
  | ok done mid =>
      rw [left_of_ok ensured] at made
      rw [bind_of_ok ensured]
      rcases openEmpty_cases current (request.path current) mid with
        ⟨fault, refusal, refused⟩ | ⟨led, free⟩
      · exact .inl ⟨fault, mid, refusal, bind_of_error (writeText_of_refused refused _), made⟩
      · refine .inr ⟨mid, ⟨made, reaches _ ensured, led, free⟩, ?_⟩
        by_cases plain : request.page.Encodable
        · have encodes := Rendering.encoded_filed plain
          exact .inl ⟨plain, bind_of_ok (writeText_of_encoded led free encodes)⟩
        · obtain ⟨number, first, last, fails⟩ := Rendering.encoded_filed_of_not plain
          exact .inr ⟨plain, _, rfl, bind_of_error (writeText_of_unencodable led free fails)⟩

/-- A call that succeeds has opened its file and left the page there. -/
theorem run_eq_ok {written : Path} (done : request.run current system = .ok written after) :
    request.page.Encodable ∧ written = request.path current ∧
      ∃ mid, request.Opens current system mid ∧
        after = mid.put (request.target current) (.file request.page.bytes) := by
  rcases run_cases current request system with
    ⟨fault, other, _, refused, _⟩ | ⟨mid, opens, ⟨plain, ran⟩ | ⟨_, fault, _, ran⟩⟩
  · rw [refused] at done
    cases done
  · rw [ran] at done
    cases done
    exact ⟨plain, rfl, mid, opens, rfl⟩
  · rw [ran] at done
    cases done

/-- A call that fails was refused, or it has opened its file and left nothing there. -/
theorem run_eq_error {fault : Fault} (failed : request.run current system = .error fault after) :
    fault.isRefusal = true ∧ System.Made (request.Above current) system after ∨
      fault.isRefusal = false ∧ ¬request.page.Encodable ∧
        ∃ mid, request.Opens current system mid ∧
          after = mid.put (request.target current) (.file []) := by
  rcases run_cases current request system with
    ⟨other, mid, refusal, refused, made⟩ | ⟨mid, opens, ⟨_, ran⟩ | ⟨broken, other, encoding, ran⟩⟩
  · rw [refused] at failed
    cases failed
    exact .inl ⟨refusal, made⟩
  · rw [ran] at failed
    cases failed
  · rw [ran] at failed
    cases failed
    exact .inr ⟨encoding, broken, mid, opens, rfl⟩

/-! ### One call -/

/-- A file put at a location where no directory stands is the only file that changes. -/
theorem file?_put {location : Location} (free : system.at? location ≠ some .directory)
    (bytes : List UInt8) (other : Location) :
    (system.put location (.file bytes)).file? other =
      if location = other then some bytes else system.file? other := by
  have inside : location ≠ [] := by
    rintro rfl
    exact free System.at?_root
  unfold System.file?
  split
  · next same =>
      subst same
      rw [System.at?_put_self inside]
      rfl
  · next different => rw [System.at?_put_of_ne (Ne.symm different)]

theorem keeps_put {location : Location} (free : system.at? location ≠ some .directory)
    (item : Item) : system.Keeps (system.put location item) := by
  intro other there
  have different : other ≠ location := by
    rintro rfl
    exact free there
  rw [System.at?_put_of_ne different]
  exact there

/-- What a call that ended so left in its file, if it opened it. -/
def leaves? (request : Request) : Except Fault Path → Option (List UInt8)
  | .ok _ => some request.page.bytes
  | .error fault => if fault.isRefusal then none else some []

/-- After a call that succeeded the target holds the page, and other files what they held. -/
theorem file?_of_ok {written : Path} (done : request.run current system = .ok written after)
    (location : Location) :
    after.file? location =
      if request.target current = location then some request.page.bytes
      else system.file? location := by
  obtain ⟨_, _, mid, opens, rfl⟩ := run_eq_ok done
  rw [file?_put opens.free, opens.made.files]

/-- After a call that was refused every file holds what it held. -/
theorem file?_of_refused {fault : Fault} (failed : request.run current system = .error fault after)
    (refusal : fault.isRefusal = true) (location : Location) :
    after.file? location = system.file? location := by
  rcases run_eq_error failed with ⟨_, made⟩ | ⟨encoding, _⟩
  · exact made.files location
  · exact absurd refusal (ne_true_of_eq_false encoding)

/-- After a call whose page could not be encoded the target is empty, and other files hold what
they held. -/
theorem file?_of_unencodable {fault : Fault}
    (failed : request.run current system = .error fault after) (encoding : fault.isRefusal = false) :
    ¬request.page.Encodable ∧ ∀ location, after.file? location =
      if request.target current = location then some [] else system.file? location := by
  rcases run_eq_error failed with ⟨refusal, _⟩ | ⟨_, broken, mid, opens, rfl⟩
  · exact absurd refusal (ne_true_of_eq_false encoding)
  · refine ⟨broken, fun location => ?_⟩
    rw [file?_put opens.free, opens.made.files]

/-- What a call leaves: it was refused, or it opened its file and put something there. -/
theorem left_cases (current : Location) (request : Request) (system : System) :
    System.Made (request.Above current) system (left (request.run current) system) ∨
    ∃ mid bytes, request.Opens current system mid ∧
      left (request.run current) system = mid.put (request.target current) (.file bytes) := by
  cases ran : request.run current system with
  | ok written after =>
      obtain ⟨_, _, mid, opens, rfl⟩ := run_eq_ok ran
      exact .inr ⟨mid, _, opens, left_of_ok ran⟩
  | error fault after =>
      rcases run_eq_error ran with ⟨_, made⟩ | ⟨_, _, mid, opens, rfl⟩
      · exact .inl (left_of_error ran ▸ made)
      · exact .inr ⟨mid, _, opens, left_of_error ran⟩

theorem keeps_left (current : Location) (request : Request) (system : System) :
    system.Keeps (left (request.run current) system) := by
  rcases left_cases current request system with made | ⟨mid, bytes, opens, leaves⟩
  · exact made.keeps
  · rw [leaves]
    intro location there
    exact keeps_put opens.free _ location (opens.made.keeps location there)

/-- A directory that is there after a call and was not before is one above the file. -/
theorem fresh_left (current : Location) (request : Request) (system : System)
    {location : Location}
    (there : (left (request.run current) system).at? location = some .directory) :
    system.at? location = some .directory ∨ request.Above current location := by
  rcases left_cases current request system with made | ⟨mid, bytes, opens, leaves⟩
  · exact made.fresh location there
  · rw [leaves] at there
    have different : location ≠ request.target current := by
      rintro rfl
      rw [System.at?_put_self opens.inside] at there
      cases there
    rw [System.at?_put_of_ne different] at there
    exact opens.made.fresh location there

/-- A call that has succeeded succeeds again and changes nothing. -/
theorem run_again {written : Path} (done : request.run current system = .ok written after) :
    request.run current after = .ok written after := by
  obtain ⟨plain, rfl, mid, opens, rfl⟩ := run_eq_ok done
  have keeps := keeps_put opens.free (.file request.page.bytes)
  have there : (mid.put (request.target current) (.file request.page.bytes)).at?
      (request.target current) = some (.file request.page.bytes) :=
    System.at?_put_self opens.inside _
  have free : (mid.put (request.target current) (.file request.page.bytes)).at?
      (request.target current) ≠ some .directory := by
    rw [there]
    simp
  rw [run_apply, bind_of_ok (ensureDirectory_of_reaches (opens.reaches.of_keeps keeps)),
    bind_of_ok (writeText_of_encoded (System.locate_of_keeps keeps opens.led) free
      (Rendering.encoded_filed plain))]
  change EStateM.Result.ok _ _ = _
  rw [System.put_of_at? opens.inside there]

end Request

/-- Writing a page gives the path of its file. -/
theorem path_of_writePage {page : Rendering} {filename : String} {directory : Option String}
    {written : Path} (done : writePage current page filename directory system = .ok written after) :
    written = outputPath current filename directory := by
  let request : Request := ⟨page, filename, directory⟩
  have ran : request.run current system = .ok written after := done
  exact (request.run_eq_ok ran).2.1.trans (request.path_eq_outputPath current)

/-! ### Calls one after the other -/

namespace Request

/-- The path that a call gives or why it fails, and what it leaves. -/
def attempt (current : Location) (request : Request) (system : System) :
    Except Fault Path × System :=
  match request.run current system with
  | .ok written after => (.ok written, after)
  | .error fault after => (.error fault, after)

theorem exists_ok_of_attempt (current : Location) (request : Request) (system : System)
    (ended : (request.attempt current system).1.isOk = true) :
    ∃ written after, request.run current system = .ok written after := by
  unfold attempt at ended
  cases ran : request.run current system with
  | ok written after => exact ⟨written, after, rfl⟩
  | error fault after =>
      rw [ran] at ended
      cases ended

theorem exists_error_of_attempt (fault : Fault) (current : Location) (request : Request)
    (system : System) (ended : (request.attempt current system).1 = .error fault) :
    ∃ after, request.run current system = .error fault after := by
  unfold attempt at ended
  cases ran : request.run current system with
  | ok written after =>
      rw [ran] at ended
      cases ended
  | error other after =>
      rw [ran] at ended
      cases ended
      exact ⟨after, rfl⟩

theorem attempt_snd (current : Location) (request : Request) (system : System) :
    (request.attempt current system).2 = left (request.run current) system := by
  unfold attempt left
  cases request.run current system <;> rfl

end Request

/-- Calls one after the other, each of which goes on with what the one before it left, failed
or not: how each of them ended, and what the last one left. -/
def runAll (current : Location) : List Request → System → List (Except Fault Path) × System
  | [], system => ([], system)
  | request :: rest, system =>
      let (outcome, mid) := request.attempt current system
      let (outcomes, after) := runAll current rest mid
      (outcome :: outcomes, after)

/-- What the calls among these that opened a file at a location left there, in order. -/
def leftAt (current location : Location) :
    List (Request × Except Fault Path) → List (List UInt8)
  | [] => []
  | (request, outcome) :: rest =>
      if request.target current = location then
        (request.leaves? outcome).toList ++ leftAt current location rest
      else leftAt current location rest

/-- A file holds what a call left there, or what it held before. -/
theorem Request.file?_of_attempt (current location : Location) (request : Request)
    (system : System) :
    (request.attempt current system).2.file? location =
      if request.target current = location then
        (request.leaves? (request.attempt current system).1).or (system.file? location)
      else system.file? location := by
  unfold attempt
  cases ran : request.run current system with
  | ok written after => exact file?_of_ok ran location
  | error fault after =>
      cases refusal : fault.isRefusal with
      | true =>
          dsimp only [leaves?]
          rw [file?_of_refused ran refusal, refusal]
          split <;> rfl
      | false =>
          dsimp only [leaves?]
          rw [(file?_of_unencodable ran refusal).2, refusal]
          rfl

/-- A file holds what the last call that opened it left there, or what it held at the start. -/
theorem runAll_file (current location : Location) (requests : List Request) (system : System) :
    (runAll current requests system).2.file? location =
      (leftAt current location
        (requests.zip (runAll current requests system).1)).getLast?.or (system.file? location) := by
  induction requests generalizing system with
  | nil => rfl
  | cons request rest ih =>
      rw [runAll]
      dsimp only
      rw [ih, request.file?_of_attempt, List.zip_cons_cons, leftAt]
      split
      · cases request.leaves? (request.attempt current system).1 with
        | none => rfl
        | some bytes =>
            rw [Option.toList_some, List.singleton_append, List.getLast?_cons]
            cases (leftAt current location _).getLast? <;> rfl
      · rfl

theorem runAll_cons_snd (current : Location) (request : Request) (rest : List Request)
    (system : System) :
    (runAll current (request :: rest) system).2 =
      (runAll current rest (left (request.run current) system)).2 := by
  rw [runAll, ← Request.attempt_snd]

theorem runAll_keeps (current : Location) (requests : List Request) (system : System) :
    system.Keeps (runAll current requests system).2 := by
  induction requests generalizing system with
  | nil => exact fun _ there => there
  | cons request rest ih =>
      rw [runAll_cons_snd]
      exact fun location there => ih _ location (request.keeps_left current system location there)

theorem runAll_fresh (current : Location) (requests : List Request) (system : System)
    {location : Location}
    (there : (runAll current requests system).2.at? location = some .directory) :
    system.at? location = some .directory ∨ ∃ request ∈ requests, request.Above current location := by
  induction requests generalizing system with
  | nil => exact .inl there
  | cons request rest ih =>
      rw [runAll_cons_snd] at there
      rcases ih _ there with before | ⟨other, among, above⟩
      · exact (request.fresh_left current system before).imp_right fun above =>
          ⟨request, List.mem_cons_self, above⟩
      · exact .inr ⟨other, List.mem_cons_of_mem _ among, above⟩

/-- **Writing pages touches the targets only, and the last write wins.** After any calls a file
holds what the last call that opened it left, or what it held before: the page of that call and a
line feed in UTF-8 if the call succeeded, and nothing if the page has no bytes in UTF-8. No
directory is gone, and a directory that is new is one above the target of a call. Unless the
path of the target goes up, these are directories on the way to it. A call that the file system
refuses leaves all files as they were; one whose page cannot be encoded empties its target and
leaves the others as they were; a call that succeeds gives its path, leaves its page at the
target, and can be repeated with no effect. -/
theorem writes_touch_targets (current : Location) (requests : List Request) (system : System) :
    (∀ location, (runAll current requests system).2.file? location =
      (leftAt current location
        (requests.zip (runAll current requests system).1)).getLast?.or (system.file? location)) ∧
    (∀ location, system.at? location = some .directory →
      (runAll current requests system).2.at? location = some .directory) ∧
    (∀ location, (runAll current requests system).2.at? location = some .directory →
      system.at? location = some .directory ∨ ∃ request ∈ requests, request.Above current location) ∧
    (∀ (request : Request) (location : Location), request.Above current location →
      (∀ name ∈ (request.path current).parts, name ≠ "." ∧ name ≠ "..") →
      (request.path current).parts ≠ [] →
      location <+: request.target current ∧ location ≠ request.target current) ∧
    (∀ (request : Request) (fault : Fault) (after : System),
      request.run current system = .error fault after →
      (fault.isRefusal = true → ∀ location, after.file? location = system.file? location) ∧
      (fault.isRefusal = false → ¬request.page.Encodable ∧ ∀ location, after.file? location =
        if request.target current = location then some [] else system.file? location)) ∧
    (∀ (request : Request) (written : Path) (after : System),
      request.run current system = .ok written after →
      request.page.Encodable ∧ written = request.path current ∧
      after.file? (request.target current) =
        some (request.page.node.render ++ "\n").toUTF8.data.toList ∧
      request.run current after = .ok written after) := by
  refine ⟨fun location => runAll_file current location requests system,
    runAll_keeps current requests system, fun _ => runAll_fresh current requests system, ?_, ?_, ?_⟩
  · rintro request location ⟨above, among, rfl⟩ plain some
    exact Path.target_of_mem_parents plain some among
  · intro request fault after failed
    exact ⟨request.file?_of_refused failed, request.file?_of_unencodable failed⟩
  · intro request written after done
    obtain ⟨plain, same, _⟩ := request.run_eq_ok done
    refine ⟨plain, same, ?_, request.run_again done⟩
    rw [request.file?_of_ok done, if_pos rfl]
    rfl

/-- A paragraph of a single surrogate. -/
def brokenPage : Rendering where
  node := .paragraph (.text "\ufffd")
  text := codePoints "<p>" ++ [.surrogate 0] ++ codePoints "</p>"
  shown := by decide +kernel

/-- A page is written, a second one fails below it, a third one fails at a directory, a fourth
one cannot be encoded, and a fifth one takes the place of the first. -/
def replacedPage : List Request :=
  [⟨.ofNode (.paragraph (.text "one")), "site/page", none⟩,
   ⟨.ofNode (.paragraph (.text "two")), "page/more", some "site"⟩,
   ⟨.ofNode (.paragraph (.text "three")), "/work/site", some "site"⟩,
   ⟨brokenPage, "broken", none⟩,
   ⟨.ofNode (.paragraph (.text "four")), "../work//site/./page", none⟩]

/-- A directory to work in, with a file. -/
def workSystem : System := ⟨⟨[(["work"], .directory), (["work", "kept"], .file [0xff])]⟩⟩

example : (runAll ["work"] replacedPage workSystem).1.map Except.isOk =
    [true, false, false, false, true] := by
  decide +kernel

theorem writes_touch_targets_replacedPage :
    (runAll ["work"] replacedPage workSystem).2.file? ["work", "site", "page"] =
      some "<p>four</p>\n".toUTF8.data.toList ∧
    (runAll ["work"] replacedPage workSystem).2.file? ["work", "broken"] = some [] ∧
    (runAll ["work"] replacedPage workSystem).2.file? ["work", "kept"] = some [0xff] ∧
    (runAll ["work"] replacedPage workSystem).2.at? ["work"] = some .directory ∧
    (∃ after, Request.run ["work"]
        ⟨.ofNode (.paragraph .null), "kept/page", none⟩ workSystem = .error .alreadyExists after ∧
      after.file? ["work", "kept"] = some [0xff]) ∧
    (∃ fault after,
      Request.run ["work"] ⟨brokenPage, "broken", none⟩ workSystem = .error fault after ∧
      ¬brokenPage.Encodable ∧ after.file? ["work", "kept"] = some [0xff]) ∧
    (∃ written after, Request.run ["work"]
        ⟨.ofNode (.paragraph .null), "site/page", none⟩ workSystem = .ok written after ∧
      Request.run ["work"] ⟨.ofNode (.paragraph .null), "site/page", none⟩ after =
        .ok written after) := by
  obtain ⟨files, keeps, _, _, failing, again⟩ :=
    writes_touch_targets ["work"] replacedPage workSystem
  refine ⟨?_, ?_, ?_, keeps ["work"] (by decide), ?_, ?_, ?_⟩
  · rw [files]
    decide +kernel
  · rw [files]
    decide +kernel
  · rw [files]
    decide +kernel
  · obtain ⟨after, failed⟩ := Request.exists_error_of_attempt .alreadyExists
      ["work"] ⟨.ofNode (.paragraph .null), "kept/page", none⟩ workSystem (by decide +kernel)
    exact ⟨after, failed, ((failing _ _ after failed).1 rfl _).trans (by decide)⟩
  · obtain ⟨after, failed⟩ := Request.exists_error_of_attempt (.unencodable 0xd800 3 3)
      ["work"] ⟨brokenPage, "broken", none⟩ workSystem (by decide +kernel)
    obtain ⟨broken, others⟩ := (failing _ _ after failed).2 rfl
    exact ⟨_, after, failed, broken, (others _).trans (by decide +kernel)⟩
  · obtain ⟨written, after, done⟩ := Request.exists_ok_of_attempt ["work"]
      ⟨.ofNode (.paragraph .null), "site/page", none⟩ workSystem (by decide +kernel)
    exact ⟨written, after, done, (again _ written after done).2.2.2⟩

/-- A call whose page has no bytes in UTF-8 fails and empties the file that was there. A call that
succeeds makes a directory that its path only passes through. -/
theorem failing_write_may_empty :
    ((Request.attempt ["work"] ⟨brokenPage, "kept", none⟩ workSystem).1 =
        .error (.unencodable 0xd800 3 3) ∧
      workSystem.file? ["work", "kept"] = some [0xff] ∧
      (Request.attempt ["work"] ⟨brokenPage, "kept", none⟩ workSystem).2.file? ["work", "kept"] =
        some []) ∧
    (Request.attempt ["work"] ⟨.ofNode (.paragraph .null), "a/../b/page", none⟩ workSystem).1.isOk ∧
      Request.target ["work"] ⟨.ofNode (.paragraph .null), "a/../b/page", none⟩ =
        ["work", "b", "page"] ∧
      workSystem.at? ["work", "a"] = none ∧
      (Request.attempt ["work"] ⟨.ofNode (.paragraph .null), "a/../b/page", none⟩ workSystem).2.at?
        ["work", "a"] = some .directory := by
  decide +kernel

end ScopedHtml.Files
