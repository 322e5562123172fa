import ScopedHtml.Proofs.Course

/-!
# ScopedHtml.Proofs.CallCourse

**The course of calls.** On orderly stores, opening a scope and calling a member take the
courses of their trails, at every depth of nested calls:

* `Opening.courses_run` — opening a scope whose opener is offered there (`Opening.Offered`);
* `Caller.courses_upTo` — calling what can be called of a builder (`Store.Callable`);
* `Caller.node_of_answer` — where the elements come from that calls answer with.
-/

namespace ScopedHtml

open BuildM

variable {ρ : Type}

/-! ### Opening scopes -/

namespace Opening

variable {licence : Licence} {opening : Opening ρ} {s t : Session ρ}

/-- The opener comes from a class in the line of that of the parent, what it opens is there,
and it may keep what it makes where it does. -/
structure Offered (opening : Opening ρ) (store : Store) : Prop where
  opener : ∃ owner ∈ store.classes.line (opening.parent.classId store),
    owner.index < Standard.classes.classes.length →
      (Standard.classes.get owner).members.find? opening.element =
        some (.opener opening.target opening.attachment)
  inside : (opening.parent.classId store).index < store.classes.classes.length
  there : ∀ b, opening.parent = .builder b → b.index < store.builders.length
  free : opening.attachment = .slot → slotAttribute opening.element ∉ reservedNames
  ofClass : ∀ id, opening.parent = .ofClass id → opening.element ∈ Hook.ofClass
  target : ∀ id, opening.target = .fixed id → id.index < store.classes.classes.length

/-- It still does later. -/
theorem Offered.opener_later (offered : opening.Offered s.store) (leads : s.store.Leads t.store) :
    ∃ owner ∈ t.store.classes.line (opening.parent.classId t.store),
      owner.index < Standard.classes.classes.length →
        (Standard.classes.get owner).members.find? opening.element =
          some (.opener opening.target opening.attachment) := by
  obtain ⟨owner, behind, opener⟩ := offered.opener
  have same : opening.parent.classId t.store = opening.parent.classId s.store := by
    unfold Parent.classId
    cases parent : opening.parent with
    | builder b => exact leads.grown.classId b (offered.there b parent)
    | ofClass id => rfl
  refine ⟨owner, ?_, opener⟩
  rw [same, leads.classes.line offered.inside]
  exact behind

/-- Attaching an element fails and changes nothing, or does what the opener does with it. -/
theorem attach_cases (depth : Nat) (orderly : s.store.Orderly)
    (free : opening.attachment = .slot → slotAttribute opening.element ∉ reservedNames)
    (ofClass : ∀ id, opening.parent = .ofClass id → opening.element ∈ Hook.ofClass) (node : Node) :
    (∃ fault, opening.attach (.upTo depth) (.node node) s = .error fault s) ∨
      ∃ after, opening.attach (.upTo depth) (.node node) s = .ok () { s with store := after } ∧
        s.store.Attached opening.element (.node node) opening.parent opening.attachment after := by
  unfold Opening.attach
  cases parent : opening.parent with
  | builder b =>
      cases attachment : opening.attachment with
      | append =>
          rcases orderly.push_cases depth b (.node node) with ⟨fault, eq⟩ | ⟨items, held, eq⟩
          · exact .inl ⟨fault, eq⟩
          · exact .inr ⟨_, eq, .gathered b items held⟩
      | discard => exact .inr ⟨s.store, rfl, .discarded _⟩
      | slot =>
          dsimp only [Caller.attach]
          rw [perform_apply]
          have single : ∀ members, Value.node node ≠ .record members := fun _ same => by cases same
          rcases orderly.write_cases b (.inr single) with ⟨fault, eq⟩ | eq
          · rw [eq]
            exact .inl ⟨fault, rfl⟩
          · rw [eq]
            exact .inr ⟨_, rfl, .kept b (free attachment)⟩
  | ofClass id =>
      dsimp only
      rw [perform_apply]
      cases attachment : opening.attachment with
      | discard => exact .inr ⟨s.store, rfl, .discarded _⟩
      | slot =>
          exact .inr ⟨_, rfl, .keptByClass id (free attachment)
            (List.mem_cons_of_mem _ (List.mem_map_of_mem (ofClass id parent)))⟩
      | append =>
          -- A class is asked for its children in vain.
          obtain ⟨fault, refused⟩ : ∃ fault, (s.store.onClasses fun classes =>
              classes.attach id opening.element (.node node) .append) = .error fault := by
            unfold Store.onClasses ClassTable.attach
            dsimp only
            cases s.store.classes.resolve id "_children" <;> exact ⟨_, rfl⟩
          rw [refused]
          exact .inl ⟨fault, rfl⟩

/-- Attaching the element of a builder that has been finalized. -/
theorem course_fromAttach (depth : Nat) {earlier : List (Happening ρ)} {child : BuilderRef}
    {node : Node} {u v : Session ρ} (made : .built child (.node node) u v ∈ earlier)
    (opened : ∀ id, opening.target = .fixed id → (u.store.get child).classId = id)
    (offered : opening.Offered s.store) (leads : s.store.Leads v.store)
    (orderly : v.store.Orderly) :
    Course licence earlier v.store
      (whenDone (opening.attach (.upTo depth) (.node node)) v fun _ w =>
        [.attached opening.parent opening.element (.node node) v w])
      (left (opening.fromAttach (.upTo depth) (.node node)) v).store := by
  obtain ⟨owner, behind, opener⟩ := offered.opener_later leads
  have goes : left (opening.fromAttach (.upTo depth) (.node node)) v =
      left (opening.attach (.upTo depth) (.node node)) v := left_map _ (fun _ => Value.node node) v
  rw [goes]
  rcases opening.attach_cases depth orderly offered.free offered.ofClass node with
    ⟨fault, eq⟩ | ⟨after, eq, attached⟩
  · rw [left_of_error eq, whenDone_of_error eq]
    exact .refl _ _
  · rw [left_of_ok eq, whenDone_of_ok eq]
    exact .next (.refl _) (.attached made opened behind opener attached) (.refl _ _)

/-- Finalizing the new builder and attaching its element. -/
theorem courses_fromBuild (depth : Nat) {child : BuilderRef}
    (opened : ∀ id, opening.target = .fixed id → (t.store.get child).classId = id)
    (offered : opening.Offered s.store) (leads : s.store.Leads t.store) :
    (opening.fromBuild (.upTo depth) child).Courses licence
      (whenDone ((Caller.upTo depth).own child "build") t fun made v =>
        .built child made t v :: whenDone (opening.attach (.upTo depth) made) v fun _ w =>
          [.attached opening.parent opening.element made v w]) t := by
  intro earlier orderly
  unfold fromBuild
  rcases orderly.own_build_cases depth child with ⟨fault, eq⟩ | ⟨d, node, done, eq⟩
  · rw [left_of_error (bind_of_error eq), whenDone_of_error eq]
    exact .refl _ _
  have built := eq.trans done
  have fits : (Happening.built child (.node node) t
      { t with store := t.store.finalizedInto child node }).Fits earlier := .built done
  have goes : left ((Caller.upTo depth).own child "build" >>= opening.fromAttach (.upTo depth)) t =
      left (opening.fromAttach (.upTo depth) (.node node))
        { t with store := t.store.finalizedInto child node } := left_congr (bind_of_ok built)
  rw [goes, whenDone_of_ok built]
  exact .next (.refl _) fits (course_fromAttach depth
    (List.mem_append_right _ (List.mem_singleton.2 rfl)) opened offered
    (leads.trans (fits.leads orderly)) (fits.orderly orderly))

/-- Opening a scope, if what runs on the builder of the scope takes its course. -/
theorem courses_run (depth : Nat) {runs : Runs ρ} (offered : opening.Offered s.store)
    (prepared : ∀ child t, child.index < t.store.builders.length →
      (∀ id, opening.target = .fixed id → (t.store.get child).classId = id) →
      (opening.prepare (.upTo depth) child).Courses licence (runs child t) t) :
    (opening.run (.upTo depth)).Courses licence (opening.trail (.upTo depth) runs s) s := by
  rw [run_eq_remaining]
  refine Courses.after_looking (fun _ => quiet_query _) ?_
  intro id resolved orderly
  have inside : id.index < s.store.classes.classes.length := by
    have resolved := (query_eq_ok.1 resolved).1
    unfold Store.target at resolved
    split at resolved
    · next fixed =>
        cases resolved
        exact offered.target _ fixed
    · split at resolved
      · next named =>
          cases resolved
          exact orderly.sound.closed.names _ _ named
      · cases resolved
  have target : ∀ other, opening.target = .fixed other → id = other := by
    intro other fixed
    have resolved := (query_eq_ok.1 resolved).1
    rw [fixed] at resolved
    exact (Except.ok.inj resolved).symm
  unfold fromCreate
  refine Courses.after (Caller.drifts_create inside opening.options).courses ?_
  intro child t created _ leads
  obtain ⟨there, class_⟩ := orderly.created inside created
  have opened : ∀ other, opening.target = .fixed other → (t.store.get child).classId = other :=
    fun other fixed => class_.trans (target other fixed)
  unfold fromInit
  refine (prepared child t there opened).seq ?_
  intro _ u _ _ more
  refine courses_fromBuild depth ?_ offered (leads.trans more)
  intro other fixed
  rw [more.grown.classId child there]
  exact opened other fixed

end Opening

/-! ### Calling members -/

/-- What has a member that is no value and that not all builders have is there. -/
theorem Store.Orderly.inside_of_member {store : Store} (orderly : store.Orderly) {b : BuilderRef}
    {name : String} {owner : ClassId} {called : Member}
    (member : store.member? b name = some (owner, called))
    (data : ∀ value, called ≠ .data value)
    (other : ∀ entry ∈ Standard.builderBaseClass.members.entries, entry.2 ≠ called) :
    b.index < store.builders.length := by
  rcases Nat.lt_or_ge b.index store.builders.length with inside | outside
  · exact inside
  -- What is not there counts as a builder that all builders are like.
  have there : Standard.builderBase.index < store.classes.classes.length :=
    orderly.sound.inside (by decide)
  have line : store.classes.line Standard.builderBase = [Standard.builderBase, Standard.root] :=
    orderly.sound.library.line (by decide)
  unfold Store.member? at member
  rw [Store.get_of_outside (Nat.not_lt.2 outside)] at member
  rcases orderly.classes.resolve_cases orderly.sound.closed there member with
    ⟨behind, _, found⟩ | ⟨_, value, same⟩ | ⟨behind, further, _⟩
  · have behind : owner ∈ store.classes.line Standard.builderBase := behind
    rw [line, List.mem_cons, List.mem_singleton] at behind
    rcases behind with rfl | rfl
    · exact absurd rfl (other _ (Bindings.mem_of_findIn found))
    · cases found
  · exact absurd same (data value)
  · have behind : owner ∈ store.classes.line Standard.builderBase := behind
    rw [line] at behind
    have known : ∀ c ∈ [Standard.builderBase, Standard.root],
        c.index < Standard.classes.classes.length := by decide
    exact absurd (known owner behind) (Nat.not_lt.2 further)

/-- The library's classes have no openers but these. -/
theorem Standard.exists_opener {c : BuilderClass} (among : c ∈ Standard.classes.classes)
    {name : String} {target : Target} {attachment : Attachment}
    (found : c.members.find? name = some (.opener target attachment)) :
    ∃ opener : Opener, (name, Member.opener target attachment) = opener.entry := by
  have all : ∀ c ∈ Standard.classes.classes, ∀ entry ∈ c.members.entries,
      entry.2.isOpener = true → ∃ opener : Opener, entry = opener.entry := by
    rw [Standard.forall_classes]
    have absent : ∀ c ∈ [builderBaseClass, headBuilderClass, bodyBuilderClass, divBuilderClass,
        rootClass], ∀ entry ∈ c.members.entries, entry.2.isOpener = false := by decide
    have none : ∀ c ∈ [builderBaseClass, headBuilderClass, bodyBuilderClass, divBuilderClass,
        rootClass], ∀ entry ∈ c.members.entries, entry.2.isOpener = true →
          ∃ opener : Opener, entry = opener.entry := fun c among entry inside opener => by
      rw [absent c among entry inside] at opener
      cases opener
    refine ⟨none _ (by simp), ?_, ?_, none _ (by simp), none _ (by simp), none _ (by simp),
      none _ (by simp)⟩
    · simp [flowBuilderClass, Member.isOpener]
      exact ⟨.div, rfl⟩
    · simp [documentBuilderClass, Member.isOpener]
      exact ⟨⟨.head, rfl⟩, ⟨.body, rfl⟩⟩
  exact all c among _ (Bindings.mem_of_findIn found) rfl

namespace Opening

variable {s : Session ρ} {b : BuilderRef} {element : String} {owner : ClassId} {target : Target}
  {attachment : Attachment}

/-- An opener that a builder has is offered when it is called. -/
theorem offered_ofCall {store : Store} (orderly : store.Orderly)
    (member : store.member? b element = some (owner, .opener target attachment))
    (arguments : Arguments ρ) :
    (Opening.ofCall store b element target attachment arguments).Offered store := by
  have class_ : (Opening.ofCall store b element target attachment arguments).parent.classId store =
      (store.get b).classId := by
    unfold Opening.ofCall
    dsimp only
    split <;> rfl
  have member : store.classes.resolve (store.get b).classId element =
      some (owner, .opener target attachment) := member
  have behind := (ClassTable.resolveAlong_eq_some member).1
  have ofClass : ∀ id, (Opening.ofCall store b element target attachment arguments).parent =
      .ofClass id → element ∈ Hook.ofClass := by
    intro id same
    unfold Opening.ofCall at same
    dsimp only at same
    split at same
    · next special => exact special
    · cases same
  have there : ∀ c, (Opening.ofCall store b element target attachment arguments).parent =
      .builder c → c.index < store.builders.length := by
    intro c same
    unfold Opening.ofCall at same
    dsimp only at same
    split at same
    · cases same
    · cases same
      exact orderly.inside_of_member member (by simp) (by simp [Standard.builderBaseClass])
  rcases orderly.classes.resolve_cases orderly.sound.closed (orderly.there b) member with
    ⟨_, standard, found⟩ | ⟨_, value, same⟩ | ⟨_, further, _, free, known⟩
  · -- The library's openers keep what they make under names that are free.
    obtain ⟨opener, entry⟩ := Standard.exists_opener (Standard.get_mem standard) found
    have free : attachment = .slot → slotAttribute element ∉ reservedNames := by
      cases opener <;> cases entry <;> decide
    have known : ∀ id, target = .fixed id → id.index < store.classes.classes.length := by
      rintro id rfl
      refine orderly.sound.inside ?_
      cases opener <;> cases entry <;> decide
    exact ⟨⟨owner, by rw [class_]; exact behind, fun _ => found⟩,
      by rw [class_]; exact orderly.there b, there, free, ofClass, known⟩
  · cases same
  · exact ⟨⟨owner, by rw [class_]; exact behind, fun near => absurd near (Nat.not_lt.2 further)⟩,
      by rw [class_]; exact orderly.there b, there, free, ofClass, known⟩

end Opening

/-- The one name under which the library's classes have what starts builders, or makes
elements. -/
def Member.home? : Member → Option String
  | .starter _ => some Hook.start.name
  | .maker _ => some "_make_node"
  | _ => none

/-- What has such a name is had under no other. -/
theorem Store.Orderly.name_of_member {store : Store} {b : BuilderRef} (orderly : store.Orderly)
    {name home : String} {owner : ClassId} {called : Member}
    (member : store.member? b name = some (owner, called))
    (lives : called.home? = some home) : name = home := by
  have member : store.classes.resolve (store.get b).classId name = some (owner, called) := member
  obtain ⟨c, among, entry⟩ := orderly.classes.exists_entry orderly.sound.closed (orderly.there b)
    member (by rintro size; cases called <;> cases lives <;> exact id)
    (by rintro value rfl; cases lives)
  have homes : ∀ c ∈ Standard.classes.classes, ∀ entry ∈ c.members.entries,
      ∀ home ∈ entry.2.home?, entry.1 = home := by
    rw [Standard.forall_classes]
    decide
  exact homes c among _ entry home lives

/-- What starts the builders of a class has always been there. -/
theorem Store.Orderly.starts_known {store : Store} {b : BuilderRef} (orderly : store.Orderly)
    {found : Found} (offers : store.Offers b found) {owner name : String} {starter : Starter}
    (starts : found = .callable owner name (.starter starter)) : starter.Known := by
  have plain := orderly.startsPlainly (orderly.there b)
  rcases offers owner name _ starts with (member | ⟨rfl, c, there, has⟩) | same
  · obtain rfl := orderly.name_of_member member rfl
    exact plain.known_of_resolve member
  · exact plain.known there has
  · cases same

/-- What a builder provides is found by its class unless it starts builders. -/
theorem Store.Orderly.exists_member {store : Store} {b : BuilderRef} (orderly : store.Orderly)
    {name : String} {called : Member} (provides : store.Provides b name called)
    (other : ∀ starter, called ≠ .starter starter) :
    ∃ owner, store.member? b name = some (owner, called) := by
  rcases provides with member | ⟨rfl, c, there, has⟩
  · exact ⟨_, member⟩
  · obtain ⟨standard, found⟩ :=
      orderly.standard_of_start (orderly.sound.closed.line (orderly.there b) c there) has
    obtain ⟨starter, same⟩ := Standard.exists_starter (Standard.get_mem standard) found
    exact absurd same (other starter)

/-- What can be called of a builder; what starts it only with a licence. -/
def Store.Callable (licence : Licence) (store : Store) (b : BuilderRef) (found : Found) : Prop :=
  store.Offers b found ∧
    ∀ owner name starter, found = .callable owner name (.starter starter) → licence.restarts

/-- Arguments of which a function takes its course; `runs` tells what happens then. -/
def Arguments.Courses (licence : Licence) (runs : Runs ρ) (arguments : Arguments ρ) : Prop :=
  ∀ init, arguments.first = some (.function init) →
    ∀ child s, (init child).Courses licence (runs child s) s

namespace Caller

variable {licence : Licence} {runs : Runs ρ} {arguments : Arguments ρ} {s t : Session ρ}
  {b : BuilderRef}

/-- What is called when a builder is called can be called, and starts nothing. -/
theorem callable_of_hook (orderly : s.store.Orderly) {origin : ClassId × Member}
    (hook : s.store.hook? b .call = some origin) :
    s.store.Callable licence b (s.store.found Hook.call.name origin) := by
  refine ⟨Store.offers_member hook, ?_⟩
  obtain ⟨owner, called⟩ := origin
  intro className name starter same
  have starts : called = .starter starter := by
    cases called <;> cases same
    rfl
  subst starts
  exact absurd (orderly.name_of_member hook rfl) (by decide)

/-- Running an argument on a builder, if functions take their course and so do calls. -/
theorem courses_run (depth : Nat)
    (calls : ∀ b found (arguments : Arguments ρ) s, arguments.Courses licence runs →
      (s.store.Orderly → s.store.Callable licence b found) →
      (upTo depth b found arguments).Courses licence (Caller.trail runs depth b found arguments s) s)
    {given : Given ρ} (function : ∀ init, given = .function init →
      ∀ child s, (init child).Courses licence (runs child s) s) (child : BuilderRef)
    (s : Session ρ) :
    ((upTo depth).run given child).Courses licence
      (given.trail runs (Caller.trail runs depth) child s) s := by
  unfold run Given.trail
  cases given with
  | value held => exact Quiet.courses fun _ => quiet_throw _
  | function init => exact function init rfl child s
  | builder callee =>
      refine Courses.observe_bind (k := fun hook => _) ?_
      dsimp only
      cases hook : s.store.hook? callee .call with
      | none => exact Quiet.courses fun _ => quiet_observe_bind (quiet_throw _)
      | some origin =>
          exact Courses.discard
            (calls callee _ _ s (by rintro init ⟨⟩) fun orderly => callable_of_hook orderly hook)

/-- Asking a builder to finalize itself. -/
theorem courses_own_build (depth : Nat) (b : BuilderRef) (s : Session ρ) :
    ((upTo depth).own b "build").Courses licence ((upTo depth).builtBy b s) s := by
  refine Courses.of_whenDone fun orderly => ?_
  rcases orderly.own_build_cases depth b with ⟨fault, eq⟩ | ⟨d, node, done, eq⟩
  · exact .inl ⟨fault, eq⟩
  · exact .inr ⟨_, _, eq.trans done, fun _ => .next (.refl _) (.built done) (.refl _ _)⟩

/-- Calling what finalizes builders. -/
theorem courses_build (depth : Nat) (b : BuilderRef) (owner name : String)
    (arguments : Arguments ρ) (s : Session ρ) :
    (upTo (depth + 1) b (.callable owner name (.method .build)) arguments).Courses licence
      (whenDone (upTo (depth + 1) b (.callable owner name (.method .build)) arguments) s
        fun made t => [.built b made s t]) s := by
  refine Courses.of_whenDone fun orderly => ?_
  have run := upTo_method depth s b owner name .build (by decide) arguments
  cases bound : arguments.bindOnly
      ⟨owner ++ "." ++ name, Method.build.parameters, Method.build.receiver⟩ with
  | error fault => exact .inl ⟨fault, run.trans (bind_of_error (by rw [bound]; rfl))⟩
  | ok given =>
      have run : _ = (upTo depth).build b s := run.trans (bind_of_ok (by rw [bound]; rfl))
      rcases orderly.build_cases depth b with ⟨fault, eq⟩ | ⟨_, _, node, eq⟩
      · exact .inl ⟨fault, run.trans eq⟩
      · exact .inr ⟨_, _, run.trans eq, fun _ => .next (.refl _) (.built eq) (.refl _ _)⟩

/-- Calling what appends elements. -/
theorem courses_append (depth : Nat) (b : BuilderRef) (owner name : String)
    (arguments : Arguments ρ) (s : Session ρ) :
    (upTo (depth + 1) b (.callable owner name (.method .append)) arguments).Courses licence
      (whenDone (upTo (depth + 1) b (.callable owner name (.method .append)) arguments) s
        fun answer t => match answer with
          | .node node => [.appended b node s t]
          | _ => []) s := by
  refine Courses.of_whenDone fun orderly => ?_
  have run := upTo_method depth s b owner name .append (by decide) arguments
  cases bound : arguments.bindOnly
      ⟨owner ++ "." ++ name, Method.append.parameters, Method.append.receiver⟩ with
  | error fault => exact .inl ⟨fault, run.trans (bind_of_error (by rw [bound]; rfl))⟩
  | ok given =>
      have run : _ = (do return .node (← (upTo depth).appendGiven b given) : BuildM ρ Value) s :=
        run.trans (bind_of_ok (by rw [bound]; rfl))
      rcases appendGiven_cases (b := b) depth given
          (fun other => ⟨orderly.readable other, orderly.genuine other⟩) with
        ⟨node, rfl⟩ | ⟨fault, eq⟩
      · rcases orderly.push_cases depth b (.node node) with ⟨fault, eq⟩ | ⟨items, held, eq⟩
        · exact .inl ⟨fault, run.trans (bind_of_error (bind_of_error eq))⟩
        · exact .inr ⟨_, _, run.trans (bind_of_ok (bind_of_ok eq)),
            fun _ => .next (.refl _) (.appended held) (.refl _ _)⟩
      · exact .inl ⟨fault, run.trans (bind_of_error eq)⟩

/-- Calling what can be called of a builder takes the course of its trail. -/
theorem courses_upTo (runs : Runs ρ) : ∀ (depth : Nat) (b : BuilderRef) (found : Found)
    (arguments : Arguments ρ) (s : Session ρ), arguments.Courses licence runs →
      (s.store.Orderly → s.store.Callable licence b found) →
      (upTo depth b found arguments).Courses licence (Caller.trail runs depth b found arguments s) s
  | 0, b, found, arguments, s, _, _ => by
      unfold Caller.trail
      exact Quiet.courses fun _ => quiet_throw _
  | depth + 1, b, .value held, arguments, s, _, _ => by
      unfold Caller.trail
      exact Quiet.courses fun _ => quiet_throw _
  | depth + 1, b, .callable owner name called, arguments, s, function, callable => by
      have drifting : called.isOpener = false → called ≠ .method .build →
          called ≠ .method .append → (upTo (depth + 1) b (.callable owner name called)
            arguments).Courses licence [] s := by
        intro opener build append earlier orderly
        refine (drifts_member (depth + 1) b owner name arguments opener build append ?_).courses
          earlier orderly
        rintro starter rfl
        obtain ⟨offers, allowed⟩ := callable orderly
        exact ⟨allowed owner name starter rfl, orderly.starts_known offers rfl⟩
      cases called with
      | opener target attachment =>
          intro earlier orderly
          rcases (callable orderly).1 owner name _ rfl with provides | same
          · obtain ⟨origin, member⟩ := orderly.exists_member provides (by simp)
            have goes := left_congr (upTo_opener depth s b owner name target attachment arguments)
            rw [goes]
            unfold Caller.trail
            refine Opening.courses_run depth (Opening.offered_ofCall orderly member arguments) ?_
              earlier orderly
            intro child t _ _
            unfold Opening.prepare Opening.ofCall
            dsimp only
            cases init : arguments.init? with
            | none => exact Quiet.courses fun _ => quiet_pure _
            | some given =>
                refine courses_run depth (courses_upTo runs depth) ?_ child t
                rintro f rfl child t
                refine function f ?_ child t
                unfold Arguments.init? at init
                split at init
                · cases init
                · exact init
          · cases same
      | method method =>
          by_cases build : method = .build
          · subst build
            exact courses_build depth b owner name arguments s
          by_cases append : method = .append
          · subst append
            exact courses_append depth b owner name arguments s
          have trail : Caller.trail runs (depth + 1) b (.callable owner name (.method method))
              arguments s = [] := by
            cases method <;> first | rfl | exact absurd rfl build | exact absurd rfl append
          rw [trail]
          exact drifting rfl (by simpa using build) (by simpa using append)
      | _ => exact drifting rfl (by simp) (by simp)

end Caller

/-! ### Elements that are answered -/

/-- The element that opening a scope answers with has been made meanwhile. -/
theorem Opening.carries_of_run {call : Caller ρ} {opening : Opening ρ} {s t : Session ρ} {node : Node}
    (run : opening.run call s = .ok (.node node) t) (runs : Runs ρ) :
    ∃ h ∈ opening.trail call runs s, h.Carries node := by
  rw [run_eq_remaining] at run
  obtain ⟨id, u, resolved, run⟩ := bind_eq_ok.1 run
  obtain ⟨child, v, created, run⟩ := bind_eq_ok.1 run
  obtain ⟨_, w, prepared, run⟩ := bind_eq_ok.1 run
  obtain ⟨made, x, built, run⟩ := bind_eq_ok.1 run
  obtain ⟨_, y, _, run⟩ := bind_eq_ok.1 run
  cases run
  unfold Opening.trail
  rw [whenDone_of_ok resolved, whenDone_of_ok created, whenDone_of_ok prepared,
    whenDone_of_ok built]
  exact ⟨_, List.mem_append_right _ (List.mem_cons_self ..), rfl⟩

namespace Caller

variable {s t : Session ρ} {b : BuilderRef} {node : Node}

/-- What setting a title answers with, if it is an element, is the title. -/
theorem node_of_title {depth : Nat} {content : Value} (orderly : s.store.Orderly)
    (inside : b.index < s.store.builders.length)
    (run : (upTo depth).title b content s = .ok (.node node) t) : node = .title content := by
  obtain ⟨_, u, written, run⟩ := bind_eq_ok.1 run
  rw [perform_apply, orderly.write_title] at written
  cases written
  have still : (s.store.assign b "_title" (.node (.title content))).Orderly :=
    (show s.store.Change (.lasting False) _ from .titled b content).orderly orderly
  obtain ⟨found, v, read, run⟩ := bind_eq_ok.1 run
  have kept := (kept?_of_read (s := { s with store := _ }) (still.readable b)
    (still.property?_private (by decide)) read).2
  have held : (s.store.assign b "_title" (.node (.title content))).held? b "_title" =
      some (.node (.title content)) := Store.held?_assign_self inside _ _
  cases (Store.kept?_of_held held).symm.trans kept
  cases run
  rfl

/-- Telling classes of a new one answers no element. -/
theorem announce_ne_node {call : Caller ρ} {id : ClassId} {options : Options}
    (orderly : s.store.Orderly) {row : List ClassId}
    (inside : ∀ c ∈ row, c.index < s.store.classes.classes.length) :
    call.announce id options row s ≠ .ok (.node node) t := by
  induction row with
  | nil =>
      intro run
      unfold announce at run
      cases empty : options.isEmpty <;> rw [empty] at run <;> cases run
  | cons next rest ih =>
      intro run
      unfold announce at run
      rw [observe_bind] at run
      cases heir : (s.store.classes.get next).members.find? Hook.heir.name with
      | none =>
          rw [heir] at run
          exact ih (fun c among => inside c (List.mem_cons_of_mem next among)) run
      | some member =>
          rw [heir, orderly.classes.heir (inside next (List.mem_cons_self ..)) heir] at run
          obtain ⟨_, _, _, ended⟩ := bind_eq_ok.1 run
          obtain ⟨_, _, _, ended⟩ := bind_eq_ok.1 ended
          cases ended

/-- Calling what registers openers answers no element. -/
theorem register_ne_node {depth : Nat} {owner name : String} {arguments : Arguments ρ}
    (orderly : s.store.Orderly) :
    upTo (depth + 1) b (.callable owner name (.method .register)) arguments s ≠
      .ok (.node node) t := by
  intro run
  obtain ⟨id, u, looked, run⟩ := bind_eq_ok.1 run
  cases looked
  obtain ⟨options, u, bound, run⟩ := bind_eq_ok.1 run
  obtain rfl := (quiet_settle _).eq_of_ok bound
  exact announce_ne_node orderly (orderly.sound.closed.line (orderly.there b)) run

/-- An element that a method answers with is a title or a paragraph, or it has been made or appended
meanwhile. -/
theorem node_of_method (runs : Runs ρ) {depth : Nat} {owner name : String} {method : Method}
    {arguments : Arguments ρ} (orderly : s.store.Orderly)
    (callable : s.store.Callable licence b (.callable owner name (.method method)))
    (run : upTo (depth + 1) b (.callable owner name (.method method)) arguments s =
      .ok (.node node) t) :
    (∃ content, node = .title content ∨ node = .paragraph content) ∨
      ∃ h ∈ Caller.trail runs (depth + 1) b (.callable owner name (.method method)) arguments s,
        h.Carries node := by
  by_cases register : method = .register
  · subst register
    exact absurd run (register_ne_node orderly)
  have called := run
  rw [upTo_method depth s b owner name method register] at called
  obtain ⟨given, u, bound, ended⟩ := bind_eq_ok.1 called
  obtain rfl := (quiet_settle _).eq_of_ok bound
  clear called
  cases method with
  | register => exact absurd rfl register
  | build =>
      unfold Caller.trail
      rw [whenDone_of_ok run]
      exact .inr ⟨_, List.mem_singleton.2 rfl, rfl⟩
  | append =>
      unfold Caller.trail
      rw [whenDone_of_ok run]
      exact .inr ⟨_, List.mem_singleton.2 rfl, rfl⟩
  | paragraph =>
      obtain ⟨_, _, made, ended⟩ := bind_eq_ok.1 ended
      cases ended
      obtain ⟨_, _, _, ended⟩ := bind_eq_ok.1 made
      cases ended
      exact .inl ⟨_, .inr rfl⟩
  | title =>
      rcases callable.1 owner name _ rfl with provides | same
      · obtain ⟨origin, member⟩ := orderly.exists_member provides (by simp)
        have inside := orderly.inside_of_member member (by simp)
          (by simp [Standard.builderBaseClass])
        exact .inl ⟨_, .inl (node_of_title orderly inside ended)⟩
      · cases same
  | report =>
      cases given with
      | value held =>
          cases held with
          | text name => exact absurd ended report_ne_ok
          | _ => cases ended
      | _ => cases ended
  | missing =>
      obtain ⟨_, _, _, ended⟩ := bind_eq_ok.1 ended
      cases ended
  | elements =>
      obtain ⟨_, _, _, ended⟩ := bind_eq_ok.1 ended
      cases ended

/-- An element that a call answers with is what a builder was asked to make, or a title or a
paragraph, or it has been made or appended meanwhile. -/
theorem node_of_answer (runs : Runs ρ) {depth : Nat} {found : Found} {arguments : Arguments ρ}
    (orderly : s.store.Orderly) (callable : s.store.Callable licence b found)
    (run : upTo depth b found arguments s = .ok (.node node) t) :
    (∃ owner name product, found = .callable owner name (.maker product)) ∨
      (∃ content, node = .title content ∨ node = .paragraph content) ∨
      ∃ h ∈ Caller.trail runs depth b found arguments s, h.Carries node := by
  cases depth with
  | zero => cases run
  | succ depth =>
      cases found with
      | value held => cases run
      | callable owner name called =>
          cases called with
          | maker product => exact .inl ⟨owner, name, product, rfl⟩
          | opener target attachment =>
              rw [upTo_opener] at run
              exact .inr (.inr (Opening.carries_of_run run _))
          | starter starter =>
              obtain ⟨_, _, _, run⟩ := bind_eq_ok.1 run
              obtain ⟨_, _, _, run⟩ := bind_eq_ok.1 run
              obtain ⟨_, _, _, ended⟩ := bind_eq_ok.1 run
              cases ended
          | method method => exact .inr (node_of_method runs orderly callable run)
          | _ => cases run

/-- What is read of a builder under another name than that of what starts it can be called, and
what starts it if that may be done; only under its own name something makes an element. -/
theorem callable_of_read {depth : Nat} (orderly : s.store.Orderly) {name : String} {found : Found}
    (read : (upTo depth).read b name s = .ok found t)
    (start : name = Hook.start.name → licence.restarts) :
    s.store.Callable licence b found ∧ (name ≠ "_make_node" →
      ∀ owner other product, found ≠ .callable owner other (.maker product)) := by
  have offers := offers_of_read (orderly.readable b) read
  refine ⟨⟨offers, ?_⟩, ?_⟩
  · rintro owner other starter rfl
    rcases offers owner other _ rfl with provides | same
    · have named : other = Hook.start.name := by
        rcases provides with member | ⟨start, _⟩
        · exact orderly.name_of_member member rfl
        · exact start
      rcases name_of_read (orderly.readable b) read with rfl | rfl
      · exact start named
      · exact absurd named (by decide)
    · cases same
  · rintro make owner other product rfl
    rcases offers owner other _ rfl with provides | same
    · obtain ⟨origin, member⟩ := orderly.exists_member provides (by simp)
      have named := orderly.name_of_member member rfl
      rcases name_of_read (orderly.readable b) read with rfl | rfl
      · exact make named
      · exact absurd named (by decide)
    · cases same

end Caller

end ScopedHtml
