import ScopedHtml.Proofs.ShiftingCalls
import ScopedHtml.Proofs.Told

/-!
# ScopedHtml.Proofs.Bodies

**What can be done to a builder of bodies.** Whatever classes have been defined, a builder of the
library's class for bodies (`Store.IsBody`) has what the library gave it. So of all that can be
called on it, only the gathering members change its children, which they do by putting what they
answer behind them (`Store.Collects`), and what starts it over again (`Caller.ends_member`). What it is
finalized into has the children that it keeps at that moment (`Caller.body_of_build`).
-/

namespace ScopedHtml

open BuildM

variable {ρ : Type}

/-! ### Builders of bodies -/

/-- A builder of the library's class for bodies. -/
structure Store.IsBody (store : Store) (b : BuilderRef) : Prop extends store.IsA b .body where
  genuine : store.foreign? b = none

/-- What a builder has gathered in a call of this name that has given an answer: a gathering call
has put the answer behind the children; others, if they do not start the builder over, have not
touched them. -/
def Store.Collects (before : Store) (b : BuilderRef) (name : String) (answer : Value)
    (after : Store) : Prop :=
  if name ∈ gatherers then ∃ items, before.held? b "_children" = some (.list items) ∧
    after.held? b "_children" = some (.list (items ++ [answer]))
  else name = Hook.start.name ∨ after.held? b "_children" = before.held? b "_children"

/-- What a builder keeps as its children, as a list. -/
def Store.children? (store : Store) (b : BuilderRef) : Option (List Value) :=
  (store.held? b "_children").bind Value.items?

namespace Store

variable {watched : BuilderRef → Prop} {store before after : Store} {b : BuilderRef}
  {name : String}

theorem gathers_of_same {answer : Value} (other : name ∉ gatherers)
    (same : after.held? b "_children" = before.held? b "_children") :
    before.Collects b name answer after := by
  unfold Collects
  rw [if_neg other]
  exact .inr same

theorem IsBody.later (body : before.IsBody b) (shifts : before.Shifts watched after)
    (regular : before.Regular) : after.IsBody b where
  toIsA := (shifts.leads regular).grown.isA body.toIsA
  genuine := ((shifts.leads regular).foreign b body.inside).trans body.genuine

theorem IsBody.earlier (body : after.IsBody b) (shifts : before.Shifts watched after)
    (regular : before.Regular) (inside : b.index < before.builders.length) : before.IsBody b where
  inside := inside
  classId := ((shifts.leads regular).grown.classId b inside).symm.trans body.classId
  genuine := ((shifts.leads regular).foreign b inside).symm.trans body.genuine

/-- All builders of bodies can be watched. -/
theorem Regular.guards (regular : store.Regular) : store.Guards store.IsBody :=
  ⟨regular, fun _ body => body.inside⟩

namespace IsBody

variable (body : store.IsBody b) (regular : store.Regular)

include body regular

theorem member?_eq (name : String) :
    store.member? b name = Standard.classes.resolve Standard.bodyBuilder name := by
  rw [member?_of_classId body.classId]
  exact regular.classes.library.resolve Product.body.inside name

theorem ordinary : store.Ordinary b where
  builder := body.genuine
  ordinary := by
    rw [body.classId]
    exact regular.sound.ordinary .body
  product := ⟨Standard.bodyBuilder, .body, body.member?_eq regular "_make_node"⟩

theorem readable : store.Readable b := (body.ordinary regular).readsPlainly.readable

end IsBody

end Store

theorem Found.items_eq_ok {found : Found} {items : List Value} :
    found.items = .ok items ↔ found.items? = some items := by
  unfold Found.items
  cases found.items? <;> simp

/-! ### Members -/

/-- Whether builders of bodies may have a member under a name: only these open scopes, start
builders or are methods. -/
def Member.fitsBodies (name : String) : Member → Bool
  | .opener target attachment =>
      name = "div" && target = .fixed Standard.divBuilder && attachment = .append
  | .starter _ => name = Hook.start.name
  | .method called => (name, called) ∈ [("p", Method.paragraph), ("append", .append),
      ("build", .build), ("missing", .missing), ("elements", .elements),
      (Hook.heir.name, .register), (Hook.unknown.name, .report)]
  | _ => name ∉ gatherers

namespace Store.IsBody

variable {store : Store} {b : BuilderRef} {name : String}

theorem fits (body : store.IsBody b) (regular : store.Regular) {called : Member}
    (has : store.classes.Has (store.get b).classId name called) :
    called.fitsBodies name = true := by
  obtain ⟨owner, behind, found⟩ := has
  rw [body.classId, regular.classes.library.line Product.body.inside] at behind
  rw [regular.classes.library owner
    (ClassTable.line_of_library _ Product.body.inside owner behind)] at found
  have all : ∀ id ∈ Standard.classes.line Standard.bodyBuilder,
      ∀ entry ∈ (Standard.classes.get id).members.entries, entry.2.fitsBodies entry.1 = true := by
    decide
  exact all owner behind _ (Bindings.mem_of_findIn found)

/-- What a builder of bodies keeps that can be called is one of its members, or what everything
has. -/
theorem fits_of_kept (body : store.IsBody b) (regular : store.Regular) {owner other : String}
    {called : Member} (kept : store.kept? b name = some (.callable owner other called)) :
    other = name ∧ called.fitsBodies name = true := by
  refine ⟨name_of_kept? kept, ?_⟩
  unfold Store.kept? at kept
  split at kept
  · cases kept
  · next origin _ member =>
      obtain ⟨id, member'⟩ := origin
      have fits := body.fits regular (ClassTable.has_of_resolve member)
      cases member' <;> cases kept <;> exact fits
  · unfold inherent? at kept
    split at kept
    · cases kept
    · split at kept
      · next among =>
          cases kept
          have others : ∀ name ∈ Value.inherent, name ∉ gatherers := by decide
          exact decide_eq_true (others name among)
      · cases kept

/-- What starts a builder of bodies is a starter of the library's. -/
theorem known_of_kept (body : store.IsBody b) (regular : store.Regular) {owner : String}
    {starter : Starter}
    (kept : store.kept? b Hook.start.name =
      some (.callable owner Hook.start.name (.starter starter))) : starter.Known := by
  unfold Store.kept? at kept
  split at kept
  · cases kept
  · next origin _ member =>
      obtain ⟨id, member'⟩ := origin
      cases member' <;> cases kept
      exact (body.ordinary regular).ordinary.known_of_resolve member
  · cases kept

end Store.IsBody

namespace Caller

variable {s t : Session ρ} {b : BuilderRef} {name : String}

section Bodies

variable (body : s.store.IsBody b) (regular : s.store.Regular)

include body regular

/-! ### Children -/

/-- What is read as the children of a builder of bodies is what it holds as such. -/
theorem held_of_read_children {depth : Nat} {found : Found}
    (read : (upTo depth).read b "_children" s = .ok found t) :
    t = s ∧ ∃ value, found = .value value ∧ s.store.held? b "_children" = some value := by
  have member : s.store.member? b "_children" = none := body.member?_eq regular _
  obtain ⟨rfl, kept⟩ := kept?_of_read (body.readable regular)
    (Store.property?_of_not_member member) read
  exact ⟨rfl, Store.held?_of_kept member rfl kept⟩

/-- Putting a value behind the children fails and changes nothing, or does that and no more. -/
theorem push_cases (depth : Nat) (value : Value) :
    (∃ fault, (upTo depth).push b value s = .error fault s) ∨
      ∃ items, s.store.held? b "_children" = some (.list items) ∧
        (upTo depth).push b value s = .ok ()
          { s with store := s.store.assign b "_children" (.list (items ++ [value])) } :=
  push_cases_of_read (quiet_read depth (body.readable regular) "_children")
    (fun _ read => (held_of_read_children body regular read).2) value

/-- What a gathering call comes to that puts its answer behind the children. -/
theorem ends_push (depth : Nat) (gathers : name ∈ gatherers) (value : Value) :
    (∃ fault, (upTo depth).push b value s = .error fault s) ∨
      ∃ t, (upTo depth).push b value s = .ok () t ∧ s.store.Collects b name value t.store := by
  rcases push_cases body regular depth value with failed | ⟨items, held, eq⟩
  · exact .inl failed
  · refine .inr ⟨_, eq, ?_⟩
    unfold Store.Collects
    rw [if_pos gathers]
    exact ⟨items, held, Store.held?_assign_self body.inside _ _⟩

/-! ### Finalizing -/

/-- A body is made of the children that are kept. -/
theorem body_of_own_make {depth : Nat} {made : Value}
    (run : (upTo depth).own b "_make_node" s = .ok made t) :
    ∃ items, s.store.children? b = some items ∧ made = .node (.body items) := by
  have member : s.store.member? b "_make_node" = some (Standard.bodyBuilder, .maker (some .body)) :=
    body.member?_eq regular _
  obtain ⟨_, node, make, rfl⟩ := make_of_own (body.ordinary regular).readsPlainly member run
  obtain ⟨items, _, read, ended⟩ := bind_eq_ok.1 make
  cases ended
  obtain ⟨found, _, read, settled⟩ := bind_eq_ok.1 read
  obtain ⟨rfl, value, rfl, held⟩ := held_of_read_children body regular read
  obtain ⟨listed, rfl⟩ := query_eq_ok.1 settled
  refine ⟨items, ?_, rfl⟩
  unfold Store.children?
  rw [held]
  exact Found.items_eq_ok.1 listed

/-- A builder of bodies is finalized into a body of the children that it keeps, or not at all. -/
theorem body_of_build (depth : Nat) :
    (∃ fault, (upTo depth).build b s = .error fault s) ∨
      ∃ items, s.store.children? b = some items ∧ (upTo depth).build b s = .ok (.node (.body items))
        { s with store := s.store.finalizedInto b (.body items) } := by
  rcases build_cases depth (body.ordinary regular) with failed | ⟨node, run⟩
  · exact .inl failed
  · refine .inr ?_
    have ended := run
    unfold build at ended
    obtain ⟨absent, u, missing, ended⟩ := bind_eq_ok.1 ended
    obtain rfl := (quiet_own_missing depth (body.ordinary regular).ordinary).eq_of_ok missing
    cases empty : absent.isEmpty with
    | false => rw [empty] at ended; cases ended
    | true =>
        rw [empty] at ended
        obtain ⟨made, v, make, ended⟩ := bind_eq_ok.1
          (show ((upTo depth).own b "_make_node" >>= _) u = _ from ended)
        obtain ⟨items, gathered, rfl⟩ := body_of_own_make body regular make
        obtain ⟨_, _, _, ended⟩ := bind_eq_ok.1 ended
        obtain ⟨_, _, _, ended⟩ := bind_eq_ok.1 ended
        cases ended
        exact ⟨items, gathered, run⟩

/-- The same of asking the builder to finalize itself. -/
theorem body_of_own_build (depth : Nat) :
    (∃ fault, (upTo depth).own b "build" s = .error fault s) ∨
      ∃ items, s.store.children? b = some items ∧
        (upTo depth).own b "build" s = .ok (.node (.body items))
          { s with store := s.store.finalizedInto b (.body items) } := by
  have member : s.store.member? b "build" = some (Standard.builderBase, .method .build) :=
    body.member?_eq regular _
  have plain := (body.ordinary regular).readsPlainly
  have hprop := Store.property?_of_member member (by simp)
  rcases Store.kept?_cases member with ⟨value, kept⟩ | kept
  · rw [own_of_kept plain hprop kept]
    cases depth <;> exact .inl ⟨_, rfl⟩
  · rw [own_of_kept plain hprop kept]
    cases depth with
    | zero => exact .inl ⟨_, rfl⟩
    | succ depth => exact body_of_build body regular depth

end Bodies

/-! ### Calls -/

/-- What a call of this name on a builder of bodies has come to, as to its children. -/
inductive Ends (b : BuilderRef) (name : String) (s : Session ρ) :
    EStateM.Result Fault (Session ρ) Value → Prop
  | answered {answer : Value} {t : Session ρ}
      (gathers : s.store.Collects b name answer t.store) : Ends b name s (.ok answer t)
  | failed {fault : Fault} {t : Session ρ}
      (same : t.store.held? b "_children" = s.store.held? b "_children") :
      Ends b name s (.error fault t)

/-- What spares builders of bodies leaves them their children. -/
theorem held_of_shifts {α : Type} {m : BuildM ρ α} (body : s.store.IsBody b)
    (regular : s.store.Regular) (shifts : m.Shifts s.store.IsBody s) :
    (left m s).store.held? b "_children" = s.store.held? b "_children" :=
  Store.held?_of_get ((shifts regular.guards).spared regular.guards body) _

theorem ends_of_shifts {m : BuildM ρ Value} (body : s.store.IsBody b) (regular : s.store.Regular)
    (other : name ∉ gatherers) (shifts : m.Shifts s.store.IsBody s) : Ends b name s (m s) := by
  have same := held_of_shifts body regular shifts
  cases run : m s with
  | ok answer t =>
      rw [left_of_ok run] at same
      exact .answered (Store.gathers_of_same other same)
  | error fault t =>
      rw [left_of_error run] at same
      exact .failed same

section Bodies

variable (body : s.store.IsBody b) (regular : s.store.Regular)

include body regular

theorem ends_build (depth : Nat) (other : name ∉ gatherers) :
    Ends b name s ((upTo depth).build b s) := by
  rcases body_of_build body regular depth with ⟨fault, eq⟩ | ⟨items, gathered, eq⟩
  · rw [eq]
    exact .failed rfl
  · rw [eq]
    exact .answered (Store.gathers_of_same other
      (Store.held?_assign_of_ne_name s.store b (by decide) _))

/-- Paragraphs and elements are put behind the children. -/
theorem ends_pushing (depth : Nat) (gathers : name ∈ gatherers) (node : Node) :
    Ends b name s ((do
      let node ← (do
        (upTo depth).push b (.node node)
        return node : BuildM ρ Node)
      return .node node : BuildM ρ Value) s) := by
  rcases ends_push body regular depth gathers (.node node) with ⟨fault, eq⟩ | ⟨t, eq, gathers⟩
  · rw [bind_of_error (bind_of_error eq)]
    exact .failed rfl
  · have added : (do
        (upTo depth).push b (.node node)
        return node : BuildM ρ Node) s = .ok node t := bind_of_ok eq
    rw [bind_of_ok added]
    exact .answered gathers

/-- What is no element is not appended, whatever is asked of it before. -/
theorem ends_appendGiven (depth : Nat) (gathers : name ∈ gatherers) (given : Given ρ) :
    Ends b name s
      ((do return .node (← (upTo depth).appendGiven b given) : BuildM ρ Value) s) := by
  have refused : ∀ {m : BuildM ρ Unit}, m.Shifts s.store.IsBody s → Ends b name s
      ((do
        let node ← (do
          m
          throw (← observe fun store => Fault.invalidChild (store.className b)
            (given.typeName store)) : BuildM ρ Node)
        return .node node : BuildM ρ Value) s) := by
    intro m shifts
    have same := held_of_shifts body regular shifts
    cases run : m s with
    | ok _ t =>
        rw [left_of_ok run] at same
        have failed : (do
            m
            throw (← observe fun store => Fault.invalidChild (store.className b)
              (given.typeName store)) : BuildM ρ Node) s =
              .error (.invalidChild (t.store.className b) (given.typeName t.store)) t :=
          bind_of_ok run
        rw [bind_of_error failed]
        exact .failed same
    | error fault t =>
        rw [left_of_error run] at same
        rw [bind_of_error (bind_of_error run)]
        exact .failed same
  cases given with
  | value held =>
      cases held with
      | node node => exact ends_pushing body regular depth gathers node
      | _ => exact refused (shifts_pure ())
  | function init => exact refused (shifts_pure ())
  | builder other =>
      have calm : (Given.builder other : Given ρ).Calm s.store.IsBody s.store :=
        fun there => ⟨.body, there.classId⟩
      have alike : ∀ {m n : BuildM ρ Node}, m s = n s →
          Ends b name s ((do return .node (← n) : BuildM ρ Value) s) →
          Ends b name s ((do return .node (← m) : BuildM ρ Value) s) := by
        intro m n same ends
        rw [bind_apply] at ends ⊢
        rwa [same]
      cases foreign : s.store.foreign? other with
      | none =>
          refine alike ?_ (refused ((shifts_upTo depth).inspect_calm calm))
          rw [appendGiven, observe_bind, foreign]
      | some value =>
          cases value with
          | node node =>
              refine alike ?_ (ends_pushing body regular depth gathers node)
              rw [appendGiven, observe_bind, foreign]
              rfl
          | _ =>
              refine alike ?_ (refused (shifts_pure ()))
              rw [appendGiven, observe_bind, foreign]
              rfl

/-- A builder of bodies can be started over. -/
theorem start_eq_ok {starter : Starter} (known : starter.Known) (given : Options) :
    ∃ after, s.store.start b starter given = .ok after := by
  have own : ∀ entry ∈ (starter.started given).entries, entry.1 ∈ attributeNames :=
    fun entry there => (known.startsWith given entry there).mem_attributeNames
  unfold Store.start
  generalize (starter.started given).entries = entries at own
  generalize s.store = store at body regular
  induction entries generalizing store with
  | nil => exact ⟨store, rfl⟩
  | cons entry rest ih =>
      have assigned : store.Shifts (fun _ => False) (store.assign b entry.1 entry.2) :=
        .one (.assigned id _ _)
      rw [Store.writeAll, Store.write_of_plain (body.ordinary regular).ordinary.toStartsPlainly
        body.genuine (own entry (List.mem_cons_self ..))]
      exact ih (fun entry there => own entry (List.mem_cons_of_mem _ there)) _
        (body.later assigned regular) (assigned.regular regular)

omit body regular in
/-- Starting a builder along a row of its line is a shift, with no builder to watch. -/
theorem shifts_of_startAlong {depth : Nat} {row : List ClassId} {s t : Session ρ}
    (regular : s.store.Regular)
    (within : ∀ c ∈ row, c ∈ s.store.classes.line (s.store.get b).classId)
    (run : (upTo depth).startAlong b row s = .ok () t) :
    s.store.Shifts (fun _ => False) t.store :=
  ((shifts_upTo depth).startAlong id within).of_ok run ⟨regular, fun _ watched => watched.elim⟩

omit body regular in
/-- A builder of bodies is started by all classes in a row of its line. -/
theorem startAlong_eq_ok (depth : Nat) (row : List ClassId) {s : Session ρ}
    (body : s.store.IsBody b) (regular : s.store.Regular)
    (within : ∀ c ∈ row, c ∈ s.store.classes.line (s.store.get b).classId) :
    ∃ t, (upTo depth).startAlong b row s = .ok () t := by
  induction row generalizing s with
  | nil => exact ⟨s, rfl⟩
  | cons next rest ih =>
      have behind : ∀ c ∈ rest, c ∈ s.store.classes.line (s.store.get b).classId :=
        fun c there => within c (List.mem_cons_of_mem next there)
      unfold startAlong
      rw [observe_bind]
      cases found : (s.store.classes.get next).members.find? Hook.start.name with
      | none => exact ih body regular behind
      | some member =>
          obtain ⟨c, among, found⟩ := (body.ordinary regular).ordinary.starters next
            (within next (List.mem_cons_self ..)) member found
          obtain ⟨starter, rfl⟩ := Standard.exists_starter among found
          have known : starter.Known := ⟨c, among, found⟩
          dsimp only
          cases starter.home.isSome with
          | false =>
              obtain ⟨after, started⟩ := start_eq_ok body regular known []
              exact ⟨{ s with store := after }, by simp [perform_apply, started]⟩
          | true =>
              obtain ⟨t, run⟩ := ih body regular behind
              have shifts := shifts_of_startAlong regular behind run
              obtain ⟨after, started⟩ :=
                start_eq_ok (body.later shifts regular) (shifts.regular regular) known []
              refine ⟨{ t with store := after }, ?_⟩
              rw [if_pos rfl, bind_of_ok run, perform_apply, started]

theorem startWith_eq_ok (depth : Nat) {starter : Starter} (known : starter.Known)
    (given : Options) : ∃ t, (upTo depth).startWith b starter given s = .ok () t := by
  unfold startWith
  cases starter.home with
  | none =>
      obtain ⟨after, started⟩ := start_eq_ok body regular known given
      exact ⟨{ s with store := after }, by simp [perform_apply, started]⟩
  | some home =>
      have within : ∀ c ∈ s.store.classes.lineBehind (s.store.get b).classId home,
          c ∈ s.store.classes.line (s.store.get b).classId :=
        fun _ => ClassTable.mem_line_of_lineBehind
      obtain ⟨t, run⟩ := startAlong_eq_ok depth _ body regular within
      have shifts := shifts_of_startAlong regular within run
      obtain ⟨after, started⟩ :=
        start_eq_ok (body.later shifts regular) (shifts.regular regular) known given
      refine ⟨{ t with store := after }, ?_⟩
      dsimp only
      rw [observe_bind, bind_of_ok run, perform_apply, started]

/-- Calling a method of a builder of bodies. -/
theorem ends_method (depth : Nat) {method : Method}
    (fits : (Member.method method).fitsBodies name = true) (ordinary : method ≠ .register)
    (given : Given ρ) : Ends b name s ((upTo depth).method b given method s) := by
  have ready := body.ordinary regular
  have readable := body.readable regular
  have looks : ∀ {m : BuildM ρ Value}, name ∉ gatherers → Quiet m s → Ends b name s (m s) :=
    fun other quiet => ends_of_shifts body regular other quiet.shifts
  -- The name of a method says whether it gathers.
  have named := of_decide_eq_true fits
  cases method with
  | build =>
      obtain rfl : name = "build" := by simpa using named
      exact ends_build body regular depth (by decide)
  | missing =>
      obtain rfl : name = "missing" := by simpa using named
      exact looks (by decide) ((quiet_missing depth readable).map _)
  | elements =>
      obtain rfl : name = "elements" := by simpa using named
      exact looks (by decide) ((quiet_query _).map _)
  | paragraph =>
      obtain rfl : name = "p" := by simpa using named
      exact ends_pushing body regular depth (by decide) _
  | title => simp at named
  | append =>
      obtain rfl : name = "append" := by simpa using named
      exact ends_appendGiven body regular depth (by decide) given
  | report =>
      obtain rfl : name = Hook.unknown.name := by simpa using named
      refine looks (by decide) ?_
      cases given with
      | value held =>
          cases held with
          | text name => exact quiet_report depth ready.readsPlainly name
          | _ => exact quiet_observe_bind (quiet_throw _)
      | _ => exact quiet_observe_bind (quiet_throw _)
  | register => exact absurd rfl ordinary

/-- What can be called on a builder of bodies, openers apart, gathers what it answers if it is to
gather, and otherwise nothing. -/
theorem ends_member (depth : Nat) {owner other : String} {called : Member}
    (kept : s.store.kept? b name = some (.callable owner other called))
    (closed : called.isOpener = false) (arguments : Arguments ρ) :
    Ends b name s (upTo (depth + 1) b (.callable owner other called) arguments s) := by
  obtain ⟨rfl, fits⟩ := body.fits_of_kept regular kept
  have nothing : ∀ {answer : Value}, other ∉ gatherers →
      Ends b other s (.ok answer s) :=
    fun gathers => .answered (Store.gathers_of_same gathers rfl)
  cases called with
  | opener target attachment => cases closed
  | method method =>
      by_cases register : method = .register
      · subst register
        obtain rfl : other = Hook.heir.name := by
          simpa [Member.fitsBodies] using fits
        have told : s.store.member? b Hook.heir.name =
            some (Standard.builderBase, .method .register) := body.member?_eq regular _
        refine ends_of_shifts body regular (by decide) (shifts_observe_bind ?_)
        refine (shifts_settle _).bind ?_
        intro options t settled
        obtain rfl := (quiet_settle _).eq_of_ok settled
        exact (shifts_upTo depth).announceOf (leads_upTo depth) told options
      rw [upTo_method depth s b owner other method register arguments]
      generalize arguments.bindOnly
        ⟨owner ++ "." ++ other, method.parameters, method.receiver⟩ = bound
      cases bound with
      | error fault => exact .failed rfl
      | ok given => exact ends_method body regular depth fits register given
  | starter starter =>
      obtain rfl : other = Hook.start.name := of_decide_eq_true fits
      have started : ∀ {answer : Value} {t : Session ρ},
          s.store.Collects b Hook.start.name answer t.store := by
        intro answer t
        unfold Store.Collects
        rw [if_neg (by decide)]
        exact .inl rfl
      show Ends b Hook.start.name s ((settle _ >>= _) s)
      generalize arguments.bind _ = bound
      cases bound with
      | error fault => exact .failed rfl
      | ok given =>
          show Ends b Hook.start.name s (((upTo depth).startWith b starter (given.map _) >>= _) s)
          generalize given.map _ = options
          obtain ⟨t, run⟩ := startWith_eq_ok body regular depth (body.known_of_kept regular kept) options
          rw [bind_of_ok run]
          exact .answered started
  | maker product =>
      cases product with
      | none => exact nothing (of_decide_eq_true fits)
      | some product =>
          refine ends_of_shifts body regular (of_decide_eq_true fits) (Quiet.shifts ?_)
          refine quiet_observe_bind ((quiet_settle _).discard.bind fun _ _ => ?_)
          exact (quiet_make depth (body.readable regular) product).map _
  | _ => exact nothing (of_decide_eq_true fits)

end Bodies

end Caller

end ScopedHtml
