import Mathlib.Data.List.Infix
import ScopedHtml.Files.System

/-!
# ScopedHtml.Proofs.Directories

**Making directories touches no file.** Where a path leads depends on the directories that are
there, but it leads to one location only, the one that its names tell (`Path.target`). Making a
directory with all that is missing on the way leaves every file and every directory as it was
and makes directories at the locations of the path and of the paths above it as written, and
nowhere else, also when it fails half-way (`Made`, one lemma a request). When it succeeds the
path leads to a directory (`System.Reaches`), and then making it again does nothing. When it
fails the fault is one of the file system (`Refusing`, one lemma a request): encoding a text
comes later.
-/

namespace ScopedHtml.Files

/-! ### What names tell -/

/-- Goes along one component as far as its name tells. -/
def enter (location : Location) (name : String) : Location :=
  if name = "." then location
  else if name = ".." then location.dropLast
  else location ++ [name]

namespace Path

/-- Where a path starts. -/
def start (current : Location) (path : Path) : Location :=
  if path.isAbsolute then [] else current

/-- The location that a path denotes as far as its names tell. -/
def target (current : Location) (path : Path) : Location :=
  path.parts.foldl enter (path.start current)

/-- The directory that a path lies in and all above it, as written. -/
def parents (path : Path) : List Path :=
  path.parts.dropLast.inits.map fun front => ⟨path.root, front⟩

theorem mem_parents {path above : Path} :
    above ∈ path.parents ↔ ∃ front, front <+: path.parts.dropLast ∧ above = ⟨path.root, front⟩ := by
  unfold parents
  constructor
  · intro among
    obtain ⟨front, inits, rfl⟩ := List.mem_map.1 among
    exact ⟨front, (List.mem_inits _ _).1 inits, rfl⟩
  · rintro ⟨front, start, rfl⟩
    exact List.mem_map.2 ⟨front, (List.mem_inits _ _).2 start, rfl⟩

end Path

/-- Names that neither stay nor go up lead downwards. -/
theorem foldl_enter_of_plain {parts : List String} (plain : ∀ name ∈ parts, name ≠ "." ∧ name ≠ "..")
    (location : Location) : parts.foldl enter location = location ++ parts := by
  induction parts generalizing location with
  | nil => simp
  | cons name rest ih =>
      obtain ⟨dot, dots⟩ := plain name List.mem_cons_self
      rw [List.foldl_cons, ih fun other among => plain other (List.mem_cons_of_mem _ among)]
      simp [enter, dot, dots]

/-- Without components that stay or go up, the paths above one denote locations above its. -/
theorem Path.target_of_mem_parents {current : Location} {path above : Path}
    (plain : ∀ name ∈ path.parts, name ≠ "." ∧ name ≠ "..") (some : path.parts ≠ [])
    (among : above ∈ path.parents) :
    above.target current <+: path.target current ∧ above.target current ≠ path.target current := by
  obtain ⟨front, start, rfl⟩ := mem_parents.1 among
  obtain ⟨back, parts⟩ := start
  have whole : path.parts = front ++ (back ++ [path.parts.getLast some]) := by
    rw [← List.append_assoc, parts, List.dropLast_append_getLast]
  have plainFront : ∀ name ∈ front, name ≠ "." ∧ name ≠ ".." := fun name inside =>
    plain name (whole ▸ List.mem_append_left _ inside)
  unfold target
  rw [foldl_enter_of_plain plain, foldl_enter_of_plain plainFront]
  change (path.start current ++ front) <+: _ ∧ path.start current ++ front ≠ _
  rw [whole, ← List.append_assoc]
  refine ⟨List.prefix_append _ _, fun same => ?_⟩
  have lengths := congrArg List.length same
  simp at lengths

/-! ### Systems -/

/-- What a file holds. -/
def Item.bytes? : Item → Option (List UInt8)
  | .directory => none
  | .file bytes => some bytes

namespace System

variable {system before mid after : System} {location other : Location}

/-- What the file at a location holds, if there is one. -/
def file? (system : System) (location : Location) : Option (List UInt8) :=
  (system.at? location).bind Item.bytes?

@[simp] theorem at?_root : system.at? [] = some .directory := if_pos rfl

theorem at?_of_ne (inside : location ≠ []) : system.at? location = system.items.find? location :=
  if_neg inside

theorem at?_put_self (inside : location ≠ []) (item : Item) :
    (system.put location item).at? location = some item := by
  rw [at?_of_ne inside, put, Bindings.find?_bind_self]

theorem at?_put_of_ne (different : other ≠ location) (item : Item) :
    (system.put location item).at? other = system.at? other := by
  unfold at? put
  rw [Bindings.find?_bind_of_ne _ different]

/-- Putting at a location what stands there changes nothing. -/
theorem put_of_at? {item : Item} (inside : location ≠ []) (there : system.at? location = some item) :
    system.put location item = system := by
  rw [at?_of_ne inside] at there
  unfold put
  rw [Bindings.bind_of_find? there]

theorem put_put (location : Location) (first second : Item) :
    (system.put location first).put location second = system.put location second := by
  unfold put
  rw [Bindings.bind_bind]

/-- Whether every directory of one system is one of another. -/
def Keeps (before after : System) : Prop :=
  ∀ location, before.at? location = some .directory → after.at? location = some .directory

/-! ### Following paths -/

/-- A component can be followed in a directory and leads where its name tells, which must not be
too long if it is the name of something. -/
theorem follow_cons_eq_ok {name : String} {rest : List String} :
    system.follow location (name :: rest) = .ok other ↔
      system.at? location = some .directory ∧
        (name ≠ "." → name ≠ ".." → name.utf8ByteSize ≤ componentLimit) ∧
        system.follow (enter location name) rest = .ok other := by
  rw [follow, enter]
  cases system.at? location with
  | none => simp
  | some item =>
      cases item with
      | file bytes => simp
      | directory =>
          by_cases dot : name = "."
          · simp [dot]
          by_cases dots : name = ".."
          · simp [dots]
          by_cases long : componentLimit < name.utf8ByteSize
          · simp [dot, dots, long, Nat.not_le_of_lt long]
          · simp [dot, dots, long, Nat.le_of_not_lt long]

/-- A path that leads anywhere leads where its names tell. -/
theorem eq_of_follow {parts : List String} (led : system.follow location parts = .ok other) :
    other = parts.foldl enter location := by
  induction parts generalizing location with
  | nil =>
      rw [follow] at led
      exact (Except.ok.inj led).symm
  | cons name rest ih =>
      exact ih (follow_cons_eq_ok.1 led).2.2

theorem eq_of_locate {current : Location} {path : Path}
    (led : system.locate current path = .ok location) : location = path.target current := by
  unfold locate at led
  split at led
  · cases led
  · exact eq_of_follow led

/-- A path that leads anywhere leads there as long as no directory is lost. -/
theorem follow_of_keeps (keeps : before.Keeps after) {parts : List String}
    (led : before.follow location parts = .ok other) : after.follow location parts = .ok other := by
  induction parts generalizing location with
  | nil => rw [follow] at led ⊢; exact led
  | cons name rest ih =>
      obtain ⟨there, short, led⟩ := follow_cons_eq_ok.1 led
      exact follow_cons_eq_ok.2 ⟨keeps _ there, short, ih led⟩

theorem locate_of_keeps (keeps : before.Keeps after) {current : Location} {path : Path}
    (led : before.locate current path = .ok location) :
    after.locate current path = .ok location := by
  unfold locate at led ⊢
  split at led
  · cases led
  · exact follow_of_keeps keeps led

/-- Whether a path leads to a directory. -/
def Reaches (system : System) (current : Location) (path : Path) : Prop :=
  ∃ location, system.locate current path = .ok location ∧
    system.at? location = some .directory

theorem Reaches.of_keeps {current : Location} {path : Path} (reaches : before.Reaches current path)
    (keeps : before.Keeps after) : after.Reaches current path := by
  obtain ⟨location, led, there⟩ := reaches
  exact ⟨location, locate_of_keeps keeps led, keeps location there⟩

/-! ### Directories that are made -/

/-- What becomes of a system in which directories are made, at certain places only. -/
structure Made (places : Location → Prop) (before after : System) : Prop where
  files : ∀ location, after.file? location = before.file? location
  keeps : before.Keeps after
  fresh : ∀ location, after.at? location = some .directory →
    before.at? location = some .directory ∨ places location

namespace Made

variable {places further : Location → Prop}

theorem refl (system : System) : Made places system system :=
  ⟨fun _ => rfl, fun _ there => there, fun _ there => .inl there⟩

theorem trans (first : Made places before mid) (second : Made places mid after) :
    Made places before after where
  files := fun location => (second.files location).trans (first.files location)
  keeps := fun location there => second.keeps location (first.keeps location there)
  fresh := fun location there => (second.fresh location there).elim (first.fresh location) .inr

theorem mono (made : Made places before after) (wider : ∀ location, places location → further location) :
    Made further before after :=
  ⟨made.files, made.keeps, fun location there => (made.fresh location there).imp_right (wider location)⟩

/-- A directory is made where nothing stands. -/
theorem directory (free : system.at? location = none) :
    Made (· = location) system (system.put location .directory) := by
  have inside : location ≠ [] := by
    rintro rfl
    cases free
  refine ⟨fun other => ?_, fun other there => ?_, fun other there => ?_⟩
  · by_cases same : other = location
    · subst same
      unfold file?
      rw [at?_put_self inside, free]
      rfl
    · unfold file?
      rw [at?_put_of_ne same]
  · have different : other ≠ location := by
      rintro rfl
      rw [free] at there
      cases there
    rw [at?_put_of_ne different]
    exact there
  · by_cases same : other = location
    · exact .inr same
    · rw [at?_put_of_ne same] at there
      exact .inl there

end Made

end System

/-! ### Requests -/

variable {α β : Type} {system : System} {current : Location}

theorem bind_of_ok {request : FilesM α} {next : α → FilesM β} {a : α} {after : System}
    (granted : request system = .ok a after) : (request >>= next) system = next a after := by
  change EStateM.bind request next system = _
  unfold EStateM.bind
  rw [granted]

theorem bind_of_error {request : FilesM α} {next : α → FilesM β} {fault : Fault} {after : System}
    (refused : request system = .error fault after) :
    (request >>= next) system = .error fault after := by
  change EStateM.bind request next system = _
  unfold EStateM.bind
  rw [refused]

theorem get_bind {next : System → FilesM β} : (get >>= next) system = next system system := rfl

theorem catch_of_ok {request : FilesM α} {otherwise : Fault → FilesM α} {a : α} {after : System}
    (granted : request system = .ok a after) :
    (tryCatch request otherwise) system = .ok a after := by
  change EStateM.tryCatch request otherwise system = _
  unfold EStateM.tryCatch
  rw [granted]

theorem catch_of_error {request : FilesM α} {otherwise : Fault → FilesM α} {fault : Fault}
    {after : System} (refused : request system = .error fault after) :
    (tryCatch request otherwise) system = otherwise fault after := by
  change EStateM.tryCatch request otherwise system = _
  unfold EStateM.tryCatch
  rw [refused]
  rfl

theorem locate_of_ok {path : Path} {location : Location}
    (led : system.locate current path = .ok location) :
    locate current path system = .ok location system := by
  unfold locate
  rw [led]

theorem locate_of_error {path : Path} {fault : Fault}
    (refused : system.locate current path = .error fault) :
    locate current path system = .error fault system := by
  unfold locate
  rw [refused]

/-- Either a directory is made where nothing stands, or nothing is done. -/
theorem makeDirectory_cases (current : Location) (path : Path) (system : System) :
    (∃ fault, makeDirectory current path system = .error fault system) ∨
    ∃ location, system.locate current path = .ok location ∧ system.at? location = none ∧
      makeDirectory current path system = .ok () (system.put location .directory) := by
  unfold makeDirectory
  cases led : system.locate current path with
  | error fault => exact .inl ⟨fault, bind_of_error (locate_of_error led)⟩
  | ok location =>
      rw [bind_of_ok (locate_of_ok led)]
      cases there : system.at? location with
      | none =>
          refine .inr ⟨location, rfl, there, ?_⟩
          rw [get_bind, there]
          rfl
      | some item =>
          refine .inl ⟨.alreadyExists, ?_⟩
          rw [get_bind, there]
          rfl

theorem makeDirectory_of_there {path : Path} {location : Location} {item : Item}
    (led : system.locate current path = .ok location) (there : system.at? location = some item) :
    makeDirectory current path system = .error .alreadyExists system := by
  unfold makeDirectory
  rw [bind_of_ok (locate_of_ok led), get_bind, there]
  rfl

/-- Asking for a directory does nothing. -/
theorem isDirectory_cases (current : Location) (path : Path) (system : System) :
    (∃ fault, isDirectory current path system = .error fault system) ∨
    isDirectory current path system = .ok false system ∨
    system.Reaches current path ∧ isDirectory current path system = .ok true system := by
  unfold isDirectory
  cases led : system.locate current path with
  | ok location =>
      by_cases there : system.at? location = some .directory
      · exact .inr (.inr ⟨⟨location, led, there⟩, by simp [there]⟩)
      · exact .inr (.inl (by simp [there]))
  | error fault => cases fault <;> simp

theorem isDirectory_of_reaches {path : Path} (reaches : system.Reaches current path) :
    isDirectory current path system = .ok true system := by
  obtain ⟨location, led, there⟩ := reaches
  unfold isDirectory
  rw [led]
  simp [there]

/-- Either nothing is done and the request fails, or a directory is made where nothing stands,
or nothing is done and there is a directory. -/
theorem makeDirectoryIfAbsent_cases (current : Location) (path : Path) (system : System) :
    (∃ fault, makeDirectoryIfAbsent current path system = .error fault system) ∨
    (∃ location, system.locate current path = .ok location ∧ system.at? location = none ∧
      makeDirectoryIfAbsent current path system = .ok () (system.put location .directory)) ∨
    system.Reaches current path ∧ makeDirectoryIfAbsent current path system = .ok () system := by
  unfold makeDirectoryIfAbsent
  rcases makeDirectory_cases current path system with ⟨fault, refused⟩ | ⟨location, led, free, made⟩
  · rw [catch_of_error refused]
    have asked : ∀ (rest : Bool → FilesM Unit), rest true system = .ok () system →
        rest false system = .error fault system →
        (∃ fault, (isDirectory current path >>= rest) system = .error fault system) ∨
        (∃ location, system.locate current path = .ok location ∧ system.at? location = none ∧
          (isDirectory current path >>= rest) system = .ok () (system.put location .directory)) ∨
        system.Reaches current path ∧ (isDirectory current path >>= rest) system = .ok () system := by
      intro rest done failed
      rcases isDirectory_cases current path system with ⟨other, asked⟩ | asked | ⟨reaches, asked⟩
      · exact .inl ⟨other, bind_of_error asked⟩
      · exact .inl ⟨fault, (bind_of_ok asked).trans failed⟩
      · exact .inr (.inr ⟨reaches, (bind_of_ok asked).trans done⟩)
    cases fault with
    | notFound => exact .inl ⟨_, rfl⟩
    | nullCharacter => exact .inl ⟨_, rfl⟩
    | unencodable number first last => exact .inl ⟨_, rfl⟩
    | alreadyExists => exact asked _ rfl rfl
    | notADirectory => exact asked _ rfl rfl
    | isADirectory => exact asked _ rfl rfl
    | nameTooLong => exact asked _ rfl rfl
  · exact .inr (.inl ⟨location, led, free, catch_of_ok made⟩)

theorem makeDirectoryIfAbsent_of_reaches {path : Path} (reaches : system.Reaches current path) :
    makeDirectoryIfAbsent current path system = .ok () system := by
  obtain ⟨location, led, there⟩ := reaches
  unfold makeDirectoryIfAbsent
  rw [catch_of_error (makeDirectory_of_there led there)]
  change (isDirectory current path >>= _) system = _
  rw [bind_of_ok (isDirectory_of_reaches ⟨location, led, there⟩)]
  rfl

/-! ### What requests leave -/

/-- What a request leaves, granted or not. -/
def left (request : FilesM α) (system : System) : System :=
  match request system with
  | .ok _ after => after
  | .error _ after => after

theorem left_of_ok {request : FilesM α} {a : α} {after : System}
    (granted : request system = .ok a after) : left request system = after := by
  unfold left
  rw [granted]

theorem left_of_error {request : FilesM α} {fault : Fault} {after : System}
    (refused : request system = .error fault after) : left request system = after := by
  unfold left
  rw [refused]

/-- Making one directory makes it where the path leads, and the path leads to it then. -/
theorem makeDirectoryIfAbsent_made (current : Location) (path : Path) (system : System) :
    System.Made (· = path.target current) system
        (left (makeDirectoryIfAbsent current path) system) ∧
      ∀ after, makeDirectoryIfAbsent current path system = .ok () after →
        after.Reaches current path := by
  rcases makeDirectoryIfAbsent_cases current path system with
    ⟨fault, refused⟩ | ⟨location, led, free, made⟩ | ⟨reaches, done⟩
  · rw [left_of_error refused]
    refine ⟨.refl system, fun after granted => ?_⟩
    rw [refused] at granted
    cases granted
  · rw [left_of_ok made]
    have directory := System.Made.directory free
    refine ⟨System.eq_of_locate led ▸ directory, fun after granted => ?_⟩
    rw [made] at granted
    cases granted
    have inside : location ≠ [] := by
      rintro rfl
      cases free
    exact ⟨location, System.locate_of_keeps directory.keeps led, System.at?_put_self inside _⟩
  · rw [left_of_ok done]
    refine ⟨.refl system, fun after granted => ?_⟩
    rw [done] at granted
    cases granted
    exact reaches

/-- A path with a root and components, the last one first, or one above it. -/
def Upwards (current : Location) (root : String) (parts : List String) (location : Location) : Prop :=
  ∃ front, front <+: parts.reverse ∧ location = Path.target current ⟨root, front⟩

theorem ensureParts_made (current : Location) (root : String) (parts : List String) :
    ∀ system, System.Made (Upwards current root parts) system
        (left (ensureParts current root parts) system) ∧
      ∀ after, ensureParts current root parts system = .ok () after →
        after.Reaches current ⟨root, parts.reverse⟩ := by
  induction parts with
  | nil =>
      intro system
      unfold ensureParts
      obtain ⟨made, reaches⟩ := makeDirectoryIfAbsent_made current ⟨root, []⟩ system
      exact ⟨made.mono fun location same => ⟨[], List.prefix_rfl, same⟩, reaches⟩
  | cons name before ih =>
      intro system
      let path : Path := ⟨root, (name :: before).reverse⟩
      obtain ⟨here, reaches⟩ := makeDirectoryIfAbsent_made current path system
      have wider : ∀ location, location = path.target current →
          Upwards current root (name :: before) location :=
        fun location same => ⟨_, List.prefix_rfl, same⟩
      unfold ensureParts
      cases first : makeDirectoryIfAbsent current path system with
      | ok done after =>
          rw [left_of_ok first] at here
          rw [left_of_ok (catch_of_ok first), catch_of_ok first]
          refine ⟨here.mono wider, fun other granted => ?_⟩
          cases granted
          exact reaches _ first
      | error fault after =>
          rw [left_of_error first] at here
          rw [left, catch_of_error first]
          by_cases missing : fault = .notFound
          · rw [if_pos missing]
            obtain ⟨above, _⟩ := ih after
            have up : ∀ location, Upwards current root before location →
                Upwards current root (name :: before) location := by
              rintro location ⟨front, start, same⟩
              refine ⟨front, start.trans ?_, same⟩
              rw [List.reverse_cons]
              exact List.prefix_append _ _
            cases second : ensureParts current root before after with
            | error other mid =>
                rw [left_of_error second] at above
                rw [bind_of_error second]
                exact ⟨(here.mono wider).trans (above.mono up), fun _ granted => by cases granted⟩
            | ok done mid =>
                rw [left_of_ok second] at above
                rw [bind_of_ok second]
                obtain ⟨last, reached⟩ := makeDirectoryIfAbsent_made current path mid
                exact ⟨((here.mono wider).trans (above.mono up)).trans (last.mono wider), reached⟩
          · rw [if_neg missing]
            exact ⟨here.mono wider, fun _ granted => by cases granted⟩

theorem ensureParts_of_reaches {root : String} {parts : List String}
    (reaches : system.Reaches current ⟨root, parts.reverse⟩) :
    ensureParts current root parts system = .ok () system := by
  unfold ensureParts
  cases parts with
  | nil => exact makeDirectoryIfAbsent_of_reaches reaches
  | cons name before => exact catch_of_ok (makeDirectoryIfAbsent_of_reaches reaches)

/-- **Making a directory touches no file.** It makes directories where the path and the paths
above it lead and nowhere else, and when it succeeds the path leads to a directory. -/
theorem ensureDirectory_made (current : Location) (path : Path) (system : System) :
    System.Made (fun location => ∃ front, front <+: path.parts ∧
        location = Path.target current ⟨path.root, front⟩) system
        (left (ensureDirectory current path) system) ∧
      ∀ after, ensureDirectory current path system = .ok () after →
        after.Reaches current path := by
  have made := ensureParts_made current path.root path.parts.reverse system
  unfold Upwards at made
  rw [List.reverse_reverse] at made
  exact made

/-! ### Refusals -/

/-- Whether a fault is one of the file system. -/
def Fault.isRefusal : Fault → Bool
  | .unencodable _ _ _ => false
  | _ => true

/-- Whether a request fails with faults of the file system only. -/
def Refusing (request : FilesM α) : Prop :=
  ∀ system fault after, request system = .error fault after → fault.isRefusal = true

theorem System.isRefusal_of_follow {location : Location} {parts : List String} {fault : Fault}
    (refused : system.follow location parts = .error fault) : fault.isRefusal = true := by
  induction parts generalizing location with
  | nil =>
      rw [follow] at refused
      cases refused
  | cons name rest ih =>
      rw [follow] at refused
      split at refused
      · cases refused
        rfl
      · cases refused
        rfl
      · split at refused
        · exact ih refused
        split at refused
        · exact ih refused
        split at refused
        · cases refused
          rfl
        · exact ih refused

theorem System.isRefusal_of_refusal? {text : String} {fault : Fault}
    (refused : refusal? text = some fault) : fault.isRefusal = true := by
  unfold refusal? at refused
  split at refused
  · cases refused
    rfl
  split at refused
  · cases refused
    rfl
  split at refused
  · cases refused
    rfl
  · cases refused

theorem System.isRefusal_of_locate {path : Path} {fault : Fault}
    (refused : system.locate current path = .error fault) : fault.isRefusal = true := by
  unfold locate at refused
  split at refused
  · next given =>
      cases refused
      exact isRefusal_of_refusal? given
  · exact isRefusal_of_follow refused

namespace Refusing

theorem pure (a : α) : Refusing (Pure.pure a) := fun _ _ _ failed => by cases failed

theorem throw {fault : Fault} (refusal : fault.isRefusal = true) :
    Refusing (MonadExcept.throw fault : FilesM α) := by
  intro system other after failed
  cases failed
  exact refusal

theorem bind {request : FilesM α} {next : α → FilesM β} (first : Refusing request)
    (rest : ∀ a, Refusing (next a)) : Refusing (request >>= next) := by
  intro system fault after failed
  cases ran : request system with
  | ok a mid =>
      rw [bind_of_ok ran] at failed
      exact rest a mid fault after failed
  | error other mid =>
      rw [bind_of_error ran] at failed
      cases failed
      exact first system fault after ran

theorem tryCatch {request : FilesM α} {otherwise : Fault → FilesM α} (first : Refusing request)
    (rest : ∀ fault, fault.isRefusal = true → Refusing (otherwise fault)) :
    Refusing (MonadExcept.tryCatch request otherwise) := by
  intro system fault after failed
  cases ran : request system with
  | ok a mid =>
      rw [catch_of_ok ran] at failed
      cases failed
  | error other mid =>
      rw [catch_of_error ran] at failed
      exact rest other (first system other mid ran) mid fault after failed

theorem locate (current : Location) (path : Path) : Refusing (Files.locate current path) := by
  intro system fault after failed
  cases led : system.locate current path with
  | ok location =>
      rw [locate_of_ok led] at failed
      cases failed
  | error other =>
      rw [locate_of_error led] at failed
      cases failed
      exact System.isRefusal_of_locate led

theorem makeDirectory (current : Location) (path : Path) :
    Refusing (Files.makeDirectory current path) := by
  refine (locate current path).bind fun location => bind (fun _ _ _ failed => by cases failed) ?_
  intro system
  split
  · exact throw rfl
  · exact fun _ _ _ failed => by cases failed

theorem isDirectory (current : Location) (path : Path) :
    Refusing (Files.isDirectory current path) := by
  intro system fault after failed
  unfold Files.isDirectory at failed
  split at failed
  · cases failed
  · cases failed
    rfl
  · cases failed

theorem makeDirectoryIfAbsent (current : Location) (path : Path) :
    Refusing (Files.makeDirectoryIfAbsent current path) := by
  refine (makeDirectory current path).tryCatch fun fault refusal => ?_
  split
  · exact throw rfl
  · exact throw rfl
  · exact throw refusal
  · refine (isDirectory current path).bind fun there => ?_
    cases there with
    | true => exact pure ()
    | false => exact throw refusal

theorem ensureParts (current : Location) (root : String) (parts : List String) :
    Refusing (Files.ensureParts current root parts) := by
  induction parts with
  | nil => exact makeDirectoryIfAbsent current ⟨root, []⟩
  | cons name before ih =>
      refine (makeDirectoryIfAbsent current _).tryCatch fun fault refusal => ?_
      split
      · exact ih.bind fun _ => makeDirectoryIfAbsent current _
      · exact throw refusal

theorem ensureDirectory (current : Location) (path : Path) :
    Refusing (Files.ensureDirectory current path) := ensureParts current _ _

end Refusing

/-! ### Directories that are there -/

/-- Where a path leads to a directory already, nothing is made. -/
theorem ensureDirectory_of_reaches {path : Path} (reaches : system.Reaches current path) :
    ensureDirectory current path system = .ok () system := by
  refine ensureParts_of_reaches ?_
  rw [List.reverse_reverse]
  exact reaches

end ScopedHtml.Files
