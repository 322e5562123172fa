import ScopedHtml.Proofs.Ordinary

/-!
# ScopedHtml.Proofs.Unwind

**Failing scopes.** Opening a scope goes through five stages (`Stage`). The first one
that fails decides the fault and is the last one (`Opening.run_eq_error`), and nothing
is rolled back: what is left is what that stage has left.

* `Opening.Reaches` — a stage is reached from a session, all earlier ones done;
* `Opening.perform_eq_of_error` — where the classes involved are ordinary, a stage
  other than the caller's function that fails has changed nothing;
* `Inside` — a program comes to run another one, with any number of opened scopes and
  of things done before and left to do after around it, and nothing that catches;
* `Inside.eq_error` — a failure leaves all of them with the same fault and session.
-/

namespace ScopedHtml

open BuildM

/-- What an opener attaches its element to. -/
inductive Parent
  | builder (ref : BuilderRef)
  /-- A class, on which a few openers work also when a builder is asked for them. -/
  | ofClass (id : ClassId)

/-- A call of an opener: the parent and the name, what the opener opens and does with
the element, and what the caller gives. -/
structure Opening (ρ : Type) where
  parent : Parent
  element : String
  target : Target
  attachment : Attachment
  init : Option (Given ρ)
  options : Options

/-- The stages of opening a scope, with what the stages before have made. -/
inductive Stage
  /-- The class to open is resolved. -/
  | resolve
  /-- A builder of the class is created with the options. -/
  | create (id : ClassId)
  /-- The caller's function runs on the new builder. -/
  | init (child : BuilderRef)
  /-- The new builder is finalized. -/
  | build (child : BuilderRef)
  /-- The element is attached to the parent. -/
  | attach (child : BuilderRef) (made : Value)

namespace Opening

variable {ρ : Type} {call : Caller ρ} {opening : Opening ρ} {s t : Session ρ}

/-- Carries the call out. -/
def run (call : Caller ρ) (opening : Opening ρ) : BuildM ρ Value :=
  match opening.parent with
  | .builder b =>
      call.openScope b opening.element opening.target opening.attachment opening.init
        opening.options
  | .ofClass id =>
      call.openScopeOn id opening.element opening.target opening.attachment opening.init
        opening.options

/-- Attaches the element to the parent. -/
def attach (call : Caller ρ) (opening : Opening ρ) (made : Value) : BuildM ρ Unit :=
  match opening.parent with
  | .builder b => call.attach b opening.element made opening.attachment
  | .ofClass id => perform fun store => store.onClasses fun classes =>
      classes.attach id opening.element made opening.attachment

/-- Runs what the caller gives on the new builder. -/
def prepare (call : Caller ρ) (opening : Opening ρ) (child : BuilderRef) : BuildM ρ Unit :=
  match opening.init with
  | some given => call.run given child
  | none => pure ()

/-- What is done at a stage. -/
def perform (call : Caller ρ) (opening : Opening ρ) : Stage → BuildM ρ Unit
  | .resolve => discard <| query fun store => store.target opening.element opening.target
  | .create id => discard <| call.create id opening.options
  | .init child => opening.prepare call child
  | .build child => discard <| call.own child "build"
  | .attach _ made => opening.attach call made

/-- The call, begun in session `s`, comes to a stage in some session: all stages before
have ended well. -/
inductive Reaches (call : Caller ρ) (opening : Opening ρ) (s : Session ρ) :
    Stage → Session ρ → Prop
  | resolve : Reaches call opening s .resolve s
  | create {id : ClassId} (resolved : s.store.target opening.element opening.target = .ok id) :
      Reaches call opening s (.create id) s
  | init {id : ClassId} {child : BuilderRef} {t : Session ρ}
      (before : Reaches call opening s (.create id) s)
      (created : call.create id opening.options s = .ok child t) :
      Reaches call opening s (.init child) t
  | build {child : BuilderRef} {t u : Session ρ}
      (before : Reaches call opening s (.init child) t)
      (prepared : opening.prepare call child t = .ok () u) :
      Reaches call opening s (.build child) u
  | attach {child : BuilderRef} {made : Value} {u v : Session ρ}
      (before : Reaches call opening s (.build child) u)
      (built : call.own child "build" u = .ok made v) :
      Reaches call opening s (.attach child made) v

/-! The call from each stage on, the last one first. -/

/-- What is still to be done once the element is made. -/
def fromAttach (call : Caller ρ) (opening : Opening ρ) (made : Value) : BuildM ρ Value := do
  opening.attach call made
  return made

/-- What is still to be done once the caller's function has run. -/
def fromBuild (call : Caller ρ) (opening : Opening ρ) (child : BuilderRef) :
    BuildM ρ Value := do
  let made ← call.own child "build"
  opening.fromAttach call made

/-- What is still to be done once the builder is created. -/
def fromInit (call : Caller ρ) (opening : Opening ρ) (child : BuilderRef) :
    BuildM ρ Value := do
  opening.prepare call child
  opening.fromBuild call child

/-- What is still to be done once the class is resolved. -/
def fromCreate (call : Caller ρ) (opening : Opening ρ) (id : ClassId) : BuildM ρ Value := do
  let child ← call.create id opening.options
  opening.fromInit call child

/-- What is still to be done at a stage. -/
def remaining (call : Caller ρ) (opening : Opening ρ) : Stage → BuildM ρ Value
  | .resolve => do
      let id ← query fun store => store.target opening.element opening.target
      opening.fromCreate call id
  | .create id => opening.fromCreate call id
  | .init child => opening.fromInit call child
  | .build child => opening.fromBuild call child
  | .attach _ made => opening.fromAttach call made

/-- The call as the sequence of its stages. -/
theorem run_eq_remaining (call : Caller ρ) (opening : Opening ρ) :
    opening.run call = opening.remaining call .resolve := by
  unfold run Caller.openScope Caller.openScopeOn Caller.scope
  simp only [remaining, fromCreate, fromInit, fromBuild, fromAttach, prepare, attach]
  cases opening.parent <;> cases opening.init <;> simp only [bind_assoc] <;> rfl

/-- The call goes on from any stage that it comes to. -/
theorem Reaches.run_eq {stage : Stage} (reached : opening.Reaches call s stage t) :
    opening.run call s = opening.remaining call stage t := by
  induction reached with
  | resolve => rw [run_eq_remaining]
  | create resolved =>
      rw [run_eq_remaining, remaining, bind_of_ok (query_eq_ok.2 ⟨resolved, rfl⟩)]
      rfl
  | init _ created ih => exact ih.trans (bind_of_ok created)
  | build _ prepared ih => exact ih.trans (bind_of_ok prepared)
  | attach _ built ih => exact ih.trans (bind_of_ok built)

/-- A stage that fails is the last one. -/
theorem remaining_eq_error {stage : Stage} {fault : Fault}
    (h : opening.perform call stage s = .error fault t) :
    opening.remaining call stage s = .error fault t := by
  cases stage with
  | resolve => exact bind_of_error (discard_eq_error.1 h)
  | create id => exact bind_of_error (discard_eq_error.1 h)
  | init child => exact bind_of_error h
  | build child => exact bind_of_error (discard_eq_error.1 h)
  | attach child made => exact bind_of_error h

/-- The call fails exactly when a stage that it comes to fails, with the fault of that
stage and with what that stage has left. -/
theorem run_eq_error {fault : Fault} :
    opening.run call s = .error fault t ↔
      ∃ stage u, opening.Reaches call s stage u ∧
        opening.perform call stage u = .error fault t := by
  constructor
  · intro h
    -- A sequence fails in its first part, which is a stage, or comes to the next stage.
    rw [run_eq_remaining] at h
    rcases bind_eq_error.1 h with h | ⟨id, _, h, hcreate⟩
    · exact ⟨_, _, .resolve, discard_eq_error.2 h⟩
    obtain ⟨resolved, rfl⟩ := query_eq_ok.1 h
    have reached : opening.Reaches call _ (.create id) _ := .create resolved
    rcases bind_eq_error.1 hcreate with h | ⟨child, _, created, hinit⟩
    · exact ⟨_, _, reached, discard_eq_error.2 h⟩
    have reached := reached.init created
    rcases bind_eq_error.1 hinit with h | ⟨_, _, prepared, hbuild⟩
    · exact ⟨_, _, reached, h⟩
    have reached := reached.build prepared
    rcases bind_eq_error.1 hbuild with h | ⟨made, _, built, hattach⟩
    · exact ⟨_, _, reached, discard_eq_error.2 h⟩
    rcases bind_eq_error.1 hattach with h | ⟨_, _, _, h⟩
    · exact ⟨_, _, reached.attach built, h⟩
    · cases h
  · rintro ⟨stage, u, reached, h⟩
    -- From a stage that is reached the call is what remains of it.
    rw [reached.run_eq]
    exact remaining_eq_error h

/-! ### What a failing stage leaves -/

/-- The classes that a stage involves are ordinary: that of a builder which is created or
finalized, and that of a parent as far as its attributes are read. -/
def OrdinaryAt (opening : Opening ρ) (store : Store) : Stage → Prop
  | .resolve => True
  | .create id => store.classes.Ordinary id
  | .init _ => False
  | .build child => store.Ordinary child
  | .attach _ _ => match opening.parent with
    | .builder b => store.ReadsPlainly b
    | .ofClass _ => True

end Opening

namespace Caller

variable {ρ : Type} {s t : Session ρ} {b : BuilderRef}

/-- A builder of an ordinary class that cannot be created changes nothing. -/
theorem create_eq_of_error {call : Caller ρ} {id : ClassId} {options : Options} {fault : Fault}
    (ordinary : s.store.classes.Ordinary id)
    (h : call.create id options s = .error fault t) : t = s := by
  obtain ⟨owner, starter, start⟩ := ordinary.start
  cases initializer : s.store.initializer id with
  | error refused =>
      have failed : (query fun store => store.initializer id : BuildM ρ _) s = .error refused s := by
        rw [query_apply, initializer]
      unfold create createBuilder at h
      rw [observe_bind, ordinary.make] at h
      cases (bind_of_error failed).symm.trans h
      rfl
  | ok origin =>
      -- A class that has builders starts them with what it has for that.
      have same : origin = some (owner, .starter starter) := by
        unfold Store.initializer at initializer
        split at initializer
        · cases initializer
        · rw [← start]
          exact (Except.ok.inj initializer).symm
      subst same
      rw [call.create_of_plain ordinary.toStartsPlainly ordinary.make initializer] at h
      split at h
      · cases h
      · cases h
        rfl

/-- What cannot be attached to a parent changes nothing about it. -/
theorem attach_eq_of_error {depth : Nat} {element : String} {made : Value}
    {attachment : Attachment} {fault : Fault} (plain : s.store.ReadsPlainly b)
    (h : (upTo depth).attach b element made attachment s = .error fault t) : t = s := by
  cases attachment with
  | append =>
      -- The list of children is read first, and then pushed to all at once.
      have read := quiet_read depth plain.readable "_children"
      rw [attach, push] at h
      rcases bind_eq_error.1 h with failed | ⟨found, _, ok, failed⟩
      · exact read.eq_of_error failed
      · obtain rfl := read.eq_of_ok ok
        exact perform_eq_of_error failed
  | slot =>
      rw [attach] at h
      exact perform_eq_of_error h
  | discard => cases h

end Caller

namespace Opening

variable {ρ : Type} {opening : Opening ρ} {s t u : Session ρ} {depth : Nat}

/-- A stage that fails has changed nothing, if it is not the caller's function that fails
and the classes involved are ordinary. -/
theorem perform_eq_of_error {stage : Stage} {fault : Fault}
    (ordinary : opening.OrdinaryAt s.store stage)
    (h : opening.perform (Caller.upTo depth) stage s = .error fault t) : t = s := by
  cases stage with
  | resolve => exact (quiet_query _).eq_of_error (discard_eq_error.1 h)
  | create id => exact Caller.create_eq_of_error ordinary (discard_eq_error.1 h)
  | init child => exact ordinary.elim
  | build child =>
      have h := discard_eq_error.1 h
      rcases Caller.own_build_cases depth ordinary with ⟨_, eq⟩ | ⟨node, eq⟩
      · rw [eq] at h; cases h; rfl
      · rw [eq] at h; cases h
  | attach child made =>
      unfold perform attach at h
      unfold OrdinaryAt at ordinary
      cases parent : opening.parent with
      | builder b =>
          rw [parent] at h ordinary
          exact Caller.attach_eq_of_error ordinary h
      | ofClass id =>
          rw [parent] at h
          exact BuildM.perform_eq_of_error h

/-- When the element is about to be attached, all that has happened since the caller's
function ended is that the new builder was finalized into it. -/
theorem Reaches.attach_inv {child : BuilderRef} {made : Value}
    (reached : opening.Reaches (Caller.upTo depth) s (.attach child made) t) :
    ∃ u, opening.Reaches (Caller.upTo depth) s (.build child) u ∧
      (u.store.Ordinary child → ∃ node, made = .node node ∧
        t = { u with store := u.store.finalizedInto child node }) := by
  cases reached with
  | @attach _ _ u _ before built =>
      refine ⟨u, before, fun ordinary => ?_⟩
      rcases Caller.own_build_cases depth ordinary with ⟨_, eq⟩ | ⟨node, eq⟩
      · rw [eq] at built; cases built
      · rw [eq] at built; cases built
        exact ⟨node, rfl, rfl⟩

end Opening

/-! ### Scopes around a failure -/

/-- `Inside call m s inner t`: running `m` from `s` comes to running `inner` from `t`.
Around `inner` there are only opened scopes, things done before and things left to do;
nothing catches what it fails with. -/
inductive Inside {ρ : Type} (call : Caller ρ) : {α β : Type} →
    BuildM ρ α → Session ρ → BuildM ρ β → Session ρ → Prop
  /-- The program itself. -/
  | here {α : Type} (m : BuildM ρ α) (s : Session ρ) : Inside call m s m s
  /-- The first part of a sequence. -/
  | first {α β γ : Type} {m : BuildM ρ α} {k : α → BuildM ρ γ} {s t : Session ρ}
      {inner : BuildM ρ β} (inside : Inside call m s inner t) : Inside call (m >>= k) s inner t
  /-- The second part of a sequence whose first part has ended well. -/
  | next {α β γ : Type} {m : BuildM ρ α} {k : α → BuildM ρ γ} {a : α} {s t u : Session ρ}
      {inner : BuildM ρ β} (done : m s = .ok a u) (inside : Inside call (k a) u inner t) :
      Inside call (m >>= k) s inner t
  /-- What the caller gives to run on the builder of a scope. -/
  | scope {β : Type} {opening : Opening ρ} {child : BuilderRef} {s t u : Session ρ}
      {inner : BuildM ρ β} (reached : opening.Reaches call s (.init child) u)
      (inside : Inside call (opening.prepare call child) u inner t) :
      Inside call (opening.run call) s inner t

/-- A failure leaves everything around it, with the same fault and at once: no scope
around it is finalized or attached. -/
theorem Inside.eq_error {ρ : Type} {call : Caller ρ} {α β : Type} {m : BuildM ρ α}
    {s t u : Session ρ} {inner : BuildM ρ β} {fault : Fault}
    (inside : Inside call m s inner t) (h : inner t = .error fault u) :
    m s = .error fault u := by
  -- On the layers around `inner`. None of them runs anything once the layer in it has failed.
  induction inside with
  | here m s => exact h
  | first _ ih => exact bind_of_error (ih h)
  | next done _ ih => rw [bind_of_ok done]; exact ih h
  | scope reached _ ih => exact Opening.run_eq_error.2 ⟨_, _, reached, ih h⟩

/-- The opening that calling an opener found on a builder amounts to. -/
def Opening.ofCall {ρ : Type} (store : Store) (b : BuilderRef) (element : String)
    (target : Target) (attachment : Attachment) (arguments : Arguments ρ) : Opening ρ where
  parent := if element ∈ Hook.ofClass then .ofClass (store.get b).classId else .builder b
  element := element
  target := target
  attachment := attachment
  init := arguments.init?
  options := arguments.options

/-- Calling an opener is carrying its opening out, one level of calls further down. -/
theorem Caller.upTo_opener {ρ : Type} (depth : Nat) (s : Session ρ) (b : BuilderRef)
    (owner element : String) (target : Target) (attachment : Attachment)
    (arguments : Arguments ρ) :
    upTo (depth + 1) b (.callable owner element (.opener target attachment)) arguments s =
      (Opening.ofCall s.store b element target attachment arguments).run (upTo depth) s := by
  show (upTo depth).member b owner element arguments (.opener target attachment) s = _
  unfold member Opening.run Opening.ofCall
  rw [observe_bind]
  by_cases special : element ∈ Hook.ofClass
  · simp only [special, if_true]
  · simp only [special, if_false]

/-- **Failing scopes.** An opener fails exactly when one of its stages does that is
reached with all earlier stages done, and then with the fault of that stage and with what
that stage has left. A stage other than the caller's function that fails has changed
nothing, where the classes involved are ordinary, and before the element is attached
nothing but the finalization of the new builder has happened since the caller's function.
Whatever runs around the opener fails with the same fault and leaves the same session, up
to whoever catches it. -/
theorem Opening.failing_run_unwinds {ρ : Type} (depth : Nat) (opening : Opening ρ)
    (s : Session ρ) :
    (∀ fault t, opening.run (.upTo depth) s = .error fault t ↔
      ∃ stage u, opening.Reaches (.upTo depth) s stage u ∧
        opening.perform (.upTo depth) stage u = .error fault t) ∧
    (∀ stage u fault t, opening.Reaches (.upTo depth) s stage u →
      opening.perform (.upTo depth) stage u = .error fault t →
      opening.OrdinaryAt u.store stage → t = u) ∧
    (∀ child made u, opening.Reaches (.upTo depth) s (.attach child made) u →
      ∃ v, opening.Reaches (.upTo depth) s (.build child) v ∧
        (v.store.Ordinary child → ∃ node, made = .node node ∧
          u = { v with store := v.store.finalizedInto child node })) ∧
    (∀ (α : Type) (m : BuildM ρ α) (s₀ : Session ρ) (fault : Fault) (t : Session ρ),
      Inside (.upTo depth) m s₀ (opening.run (.upTo depth)) s →
      opening.run (.upTo depth) s = .error fault t →
      m s₀ = .error fault t ∧ outcome m s₀ = .ok (.error fault) t) := by
  refine ⟨fun fault t => run_eq_error, ?_, ?_, ?_⟩
  · intro stage u fault t _ failed ordinary
    exact perform_eq_of_error ordinary failed
  · intro child made u reached
    exact reached.attach_inv
  · intro α m s₀ fault t inside failed
    have left := inside.eq_error failed
    exact ⟨left, by rw [outcome_apply, left]⟩

/-! ### A failure seen from inside, and one that leaves a mark -/

/-- A session with builders of some classes, in which nothing is recorded yet. -/
def sessionOf (classes : ClassTable) (builders : List Builder) : Session Unit :=
  ⟨⟨classes, builders, []⟩, ()⟩

/-- A builder of bodies that has gathered some children. -/
def bodyWith (children : List Value) : Builder where
  classId := Standard.bodyBuilder
  held := Standard.fresh [("_children", .list children)]

/-- A builder of documents that has gathered nothing. -/
def emptyDocument : Builder where
  classId := Standard.documentBuilder
  held := Standard.fresh [("_head", .null), ("_body", .null)]

/-- A builder of heads without a title. -/
def untitledHead : Builder where
  classId := Standard.headBuilder
  held := Standard.fresh [("_title", .null)]

/-- A head without a title, opened on the document from inside the body and behind a
paragraph: the body keeps the paragraph, and neither body nor head reaches the
document. -/
theorem Opening.head_without_title_unwinds :
    (BuilderRef.body ⟨0⟩ (some fun body => do
        discard <| body.p (.text "kept")
        discard <| BuilderRef.head ⟨0⟩ none []) [] : BuildM Unit Value)
        (sessionOf Standard.classes [emptyDocument]) =
      .error (.missingChildren "HeadBuilder" [.text "title"])
        (sessionOf Standard.classes
          [emptyDocument, bodyWith [.node (.paragraph (.text "kept"))], untitledHead]) := by
  let init : Init Unit := fun body => do
    discard <| body.p (.text "kept")
    discard <| BuilderRef.head ⟨0⟩ none []
  let outer : Opening Unit :=
    ⟨.builder ⟨0⟩, "body", .fixed Standard.bodyBuilder, .slot, some (.function init), []⟩
  let inner : Opening Unit :=
    ⟨.builder ⟨0⟩, "head", .fixed Standard.headBuilder, .slot, none, []⟩
  let opened := sessionOf Standard.classes [emptyDocument, bodyWith []]
  let written := sessionOf Standard.classes
    [emptyDocument, bodyWith [.node (.paragraph (.text "kept"))]]
  have created : call.create Standard.bodyBuilder []
      (sessionOf Standard.classes [emptyDocument]) = .ok ⟨1⟩ opened := rfl
  have reached : outer.Reaches call _ (.init ⟨1⟩) opened := .init (.create rfl) created
  have paragraph : (discard (BuilderRef.p ⟨1⟩ (.text "kept")) : BuildM Unit Unit) opened =
      .ok () written := rfl
  have inside : Inside call (outer.run call) _ (inner.run call) written :=
    .scope reached (.next paragraph (.first (.here _ _)))
  have failed : inner.run call written =
      .error (.missingChildren "HeadBuilder" [.text "title"])
        (sessionOf Standard.classes
          [emptyDocument, bodyWith [.node (.paragraph (.text "kept"))], untitledHead]) := rfl
  exact ((Opening.failing_run_unwinds Caller.depthLimit inner written).2.2.2
    Value (outer.run call) _ _ _ inside failed).1

/-- A class of divisions with a plain function in the place of what makes the element. -/
def oddDivisionClass : BuilderClass where
  name := "D"
  ancestors := Standard.divBuilder :: Standard.divBuilderClass.ancestors
  members := ⟨[("_make_node", .plain)]⟩

/-- A session with that class, the builder of a body and further builders. -/
def oddSession (others : List Builder) : Session Unit :=
  sessionOf (Standard.classes.push oddDivisionClass).2 (bodyWith [] :: others)

/-- A builder of that class, finalized or not. -/
def oddDivision (finalized : Bool) : Builder where
  classId := ⟨7⟩
  held := ⟨[("_finalized", .bool finalized), ("_children", .list []), ("id", .null),
    ("class_name", .null)]⟩

/-- Where a class is not ordinary, a failing stage can leave a mark: the builder is
finalized before it turns out that what it has made is no element. -/
theorem Opening.failing_build_may_finalize :
    ¬ ∀ (opening : Opening Unit) (s u t : Session Unit) (child : BuilderRef) (fault : Fault),
      opening.Reaches call s (.build child) u →
      opening.perform call (.build child) u = .error fault t →
      ∀ b name, t.store.held? b name = u.store.held? b name := by
  intro unchanged
  let opening : Opening Unit := ⟨.builder ⟨0⟩, "box", .fixed ⟨7⟩, .append, none, []⟩
  have created : call.create ⟨7⟩ [] (oddSession []) = .ok ⟨1⟩ (oddSession [oddDivision false]) :=
    rfl
  have reached : opening.Reaches call (oddSession []) (.build ⟨1⟩)
      (oddSession [oddDivision false]) := .build (.init (.create rfl) created) rfl
  have failed : opening.perform call (.build ⟨1⟩) (oddSession [oddDivision false]) =
      .error (.noAttribute "str" "tag") (oddSession [oddDivision true]) := rfl
  have same := unchanged opening _ _ _ _ _ reached failed ⟨1⟩ "_finalized"
  have before : (oddSession [oddDivision false]).store.held? ⟨1⟩ "_finalized" =
      some (.bool false) := rfl
  have after : (oddSession [oddDivision true]).store.held? ⟨1⟩ "_finalized" =
      some (.bool true) := rfl
  rw [before, after] at same
  cases same

end ScopedHtml
