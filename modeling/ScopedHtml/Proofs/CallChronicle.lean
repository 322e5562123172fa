import ScopedHtml.Proofs.Chronicle

/-!
# ScopedHtml.Proofs.CallChronicle

**Chronicles of calls.** What is told of a call up to its answer is a chronicle, and what is left of
the call then works on the builder that was called and on no other (`BuildM.Answers`): so the call
itself can be told next (`BuildM.Answers.called`).

* `Opening.answers_run` — opening a scope;
* `Caller.answers_upTo` — calling what a builder offers, at every depth of nested calls;
* `chronicles_htmlOf` — building a document.
-/

namespace ScopedHtml

open BuildM

variable {ρ α β : Type} {tame : Prop}

/-! ### Answers -/

/-- What is left of a call on `b`, of this name, when everything else has been told. -/
inductive Caller.Closes (tame : Prop) (b : BuilderRef) (name : String) (before : Store) :
    EStateM.Result Fault (Session ρ) Value → Prop
  | answered {answer : Value} {t : Session ρ} (passes : before.PassesBut tame (· = b) t.store)
      (gathers : tame → before.IsBody b → before.Collects b name answer t.store) :
      Closes tame b name before (.ok answer t)
  | failed {fault : Fault} {t : Session ρ} (passes : before.Passes tame t.store) :
      Closes tame b name before (.error fault t)

/-- This is told of a call on `b` up to where it only has to answer. -/
def BuildM.Answers (tame : Prop) (b : BuilderRef) (name : String) (m : BuildM ρ Value)
    (told : List (Occurrence ρ)) (s : Session ρ) : Prop :=
  s.store.Regular → ∃ mid, Chronicle tame s.store told mid ∧ Caller.Closes tame b name mid (m s)

namespace BuildM

variable {told : List (Occurrence ρ)} {m : BuildM ρ α} {k : α → BuildM ρ Value} {s t : Session ρ}
  {b : BuilderRef} {name : String}

theorem Answers.congr {m n : BuildM ρ Value} (h : m.Answers tame b name told s) (same : n s = m s) :
    n.Answers tame b name told s := by
  intro regular
  rw [same]
  exact h regular

/-- The call is what is told next. -/
theorem Answers.called {m : BuildM ρ Value} (h : m.Answers tame b name told s) :
    m.Chronicles tame
      (told ++ uponDone m s fun answer t => [.called b name answer t]) s := by
  intro regular
  obtain ⟨mid, chronicle, closes⟩ := h regular
  cases run : m s with
  | ok answer t =>
      rw [run] at closes
      rw [left_of_ok run, uponDone_of_ok run]
      cases closes with
      | answered passes gathers =>
          exact chronicle.append regular (.next (.called passes gathers) (.refl _))
  | error fault t =>
      rw [run] at closes
      rw [left_of_error run, uponDone_of_error run]
      cases closes with
      | failed passes => exact chronicle.append regular (.done passes)

/-- A call on what is no builder of bodies need not be told. -/
theorem Answers.chronicles {m : BuildM ρ Value} (h : m.Answers tame b name told s)
    (other : ∀ mid : Store, s.store.Shifts (fun _ => False) mid → ¬ mid.IsBody b) :
    m.Chronicles tame told s := by
  intro regular
  obtain ⟨mid, chronicle, closes⟩ := h regular
  have other := other mid chronicle.shifts
  have last : mid.Passes tame (left m s).store := by
    cases run : m s with
    | ok answer t =>
        rw [run] at closes
        rw [left_of_ok run]
        cases closes with
        | answered passes gathers => exact passes.passes fun _ body => absurd body other
    | error fault t =>
        rw [run] at closes
        rw [left_of_error run]
        cases closes with
        | failed passes => exact passes
  have all := chronicle.append regular (.done last)
  rwa [List.append_nil] at all

/-- Something that is told of what comes before a call is left. -/
theorem Answers.after {next : α → Session ρ → List (Occurrence ρ)}
    (head : m.Chronicles tame told s)
    (tail : ∀ a t, m s = .ok a t → t.store.Regular → s.store.Shifts (fun _ => False) t.store →
      (k a).Answers tame b name (next a t) t) :
    (m >>= k).Answers tame b name (told ++ uponDone m s next) s := by
  intro regular
  have here := head regular
  cases run : m s with
  | error fault t =>
      rw [left_of_error run] at here
      rw [bind_of_error run, uponDone_of_error run, List.append_nil]
      exact ⟨_, here, .failed (.refl _)⟩
  | ok a t =>
      rw [left_of_ok run] at here
      rw [bind_of_ok run, uponDone_of_ok run]
      have still := here.shifts.regular regular
      obtain ⟨mid, chronicle, closes⟩ := tail a t run still here.shifts still
      exact ⟨mid, here.append regular chronicle, closes⟩

/-- The same where there is nothing to be told of what comes before. -/
theorem Answers.after_shifts {next : α → Session ρ → List (Occurrence ρ)}
    (head : m.Shifts s.store.IsBody s)
    (tail : ∀ a t, m s = .ok a t → t.store.Regular → s.store.Shifts (fun _ => False) t.store →
      (k a).Answers tame b name (next a t) t) :
    (m >>= k).Answers tame b name (uponDone m s next) s :=
  Answers.after head.chronicles tail

/-- The same where everything is told of what comes before. -/
theorem Answers.at_last (head : m.Chronicles tame told s)
    (tail : ∀ a t, m s = .ok a t → t.store.Regular → s.store.Shifts (fun _ => False) t.store →
      (k a).Answers tame b name [] t) : (m >>= k).Answers tame b name told s := by
  have all := @Answers.after _ _ _ _ _ _ _ _ _ (fun _ _ => []) head tail
  rwa [uponDone_nil, List.append_nil] at all

/-- A call of which nothing is told, and which works on no other builder of bodies. -/
theorem Shifts.answers {m : BuildM ρ Value}
    (shifts : m.Shifts (fun c => s.store.IsBody c ∧ c ≠ b) s)
    (ends : s.store.Regular → s.store.IsBody b → Caller.Ends b name s (m s)) :
    m.Answers tame b name [] s := by
  intro regular
  have but : s.store.PassesBut tame (· = b) (left m s).store := shifts.passesBut regular
  refine ⟨s.store, .refl _, ?_⟩
  cases run : m s with
  | ok answer t =>
      rw [left_of_ok run] at but
      refine .answered but fun _ body => ?_
      have ends := ends regular body
      rw [run] at ends
      cases ends with
      | answered gathers => exact gathers
  | error fault t =>
      rw [left_of_error run] at but
      refine .failed (but.passes fun _ body => ?_)
      have ends := ends regular body
      rw [run] at ends
      cases ends with
      | failed same => exact same

/-- A call of which nothing is left when everything is told. -/
theorem Chronicles.answers {m : BuildM ρ Value} (h : m.Chronicles tame told s)
    (there : ∀ answer t, m s = .ok answer t → b.index < s.store.builders.length)
    (other : s.store.IsBody b → name ∉ gatherers) : m.Answers tame b name told s := by
  intro regular
  have chronicle := h regular
  refine ⟨_, chronicle, ?_⟩
  cases run : m s with
  | error fault t =>
      rw [left_of_error run]
      exact .failed (.refl _)
  | ok answer t =>
      rw [left_of_ok run] at chronicle ⊢
      refine .answered (.refl _) fun _ body => ?_
      exact Store.gathers_of_same
        (other (body.earlier chronicle.shifts regular (there answer t run))) rfl

end BuildM

/-! ### What is not there -/

namespace Store.Regular

variable {store : Store} {b : BuilderRef} (regular : store.Regular)

include regular

/-- What is not there counts as a builder that all builders are like. -/
theorem member?_of_outside (outside : ¬ b.index < store.builders.length) (name : String) :
    store.member? b name = Standard.classes.resolve Standard.builderBase name := by
  rw [member?_of_classId (congrArg Builder.classId (get_of_outside outside))]
  exact regular.classes.library.resolve
    (by decide : Standard.builderBase.index < Standard.classes.classes.length) name

theorem ordinary_of_outside (outside : ¬ b.index < store.builders.length) :
    store.classes.Ordinary (store.get b).classId := by
  have clear := Product.body.keepsClear regular.classes.library workingNames
  have known : Standard.builderBase.index < Standard.classes.classes.length := by decide
  rw [get_of_outside outside]
  refine ClassTable.KeepsClear.ordinary ⟨List.mem_cons_self, clear.base, fun c behind =>
    clear.clear c ?_⟩ fun name own owner property computed => ?_
  case refine_2 =>
    have none : ∀ name ∈ attributeNames,
        Standard.classes.resolve Standard.builderBase name = none := by decide
    cases (none name own).symm.trans ((regular.classes.library.resolve known name).symm.trans computed)
  have behind : c ∈ store.classes.line Standard.builderBase := behind
  rw [regular.classes.library.line known] at behind
  rw [regular.classes.library.line Product.body.inside]
  have more : ∀ c ∈ Standard.classes.line Standard.builderBase,
      c ∈ Standard.classes.line Product.body.builderId := by decide
  exact more c behind

/-- What has an opener is there. -/
theorem inside_of_opener {name : String} {target : Target} {attachment : Attachment}
    (provides : store.Provides b name (.opener target attachment)) :
    b.index < store.builders.length := by
  refine Nat.lt_of_not_le fun outside => ?_
  have known : Standard.builderBase.index < Standard.classes.classes.length := by decide
  obtain ⟨owner, behind, found⟩ := provides.has
  rw [get_of_outside (Nat.not_lt.2 outside)] at behind
  have behind : owner ∈ store.classes.line Standard.builderBase := behind
  rw [regular.classes.library.line known] at behind
  rw [regular.classes.library owner (ClassTable.line_of_library _ known owner behind)] at found
  have none : ∀ id ∈ Standard.classes.line Standard.builderBase,
      ∀ entry ∈ (Standard.classes.get id).members.entries, entry.2.isOpener = false := by decide
  exact absurd (none owner behind _ (Bindings.mem_of_findIn found)) (by simp [Member.isOpener])

/-- What is called like a function is there, and is no builder of the library's. -/
theorem called_further {origin : ClassId × Member} (hook : store.hook? b .call = some origin) :
    b.index < store.builders.length ∧
      Standard.classes.classes.length ≤ (store.get b).classId.index := by
  have none : ∀ c ∈ Standard.classes.classes, c.members.find? Hook.call.name = none := by
    rw [Standard.forall_classes]
    decide
  have further : Standard.classes.classes.length ≤ (store.get b).classId.index := by
    refine Nat.le_of_not_lt fun library => ?_
    have member : store.classes.resolve (store.get b).classId Hook.call.name = some origin := hook
    rw [regular.classes.library.resolve library] at member
    obtain ⟨behind, found⟩ := ClassTable.resolveAlong_eq_some
      (show _ = some (origin.1, origin.2) from member)
    have inside := ClassTable.line_of_library _ library _ behind
    rw [none _ (Standard.get_mem inside)] at found
    cases found
  refine ⟨Nat.lt_of_not_le fun outside => ?_, further⟩
  rw [get_of_outside (Nat.not_lt.2 outside)] at further
  exact absurd further (by decide)

end Store.Regular

namespace Caller

variable {s t : Session ρ} {b : BuilderRef}

/-- What is not there is not finalized. -/
theorem build_ne_ok_of_outside (regular : s.store.Regular)
    (outside : ¬ b.index < s.store.builders.length) {depth : Nat} {made : Value} :
    (upTo depth).build b s ≠ .ok made t := by
  intro run
  have ordinary := regular.ordinary_of_outside outside
  have plain : s.store.ReadsPlainly b := ordinary.toReadsPlainly
  have member : s.store.member? b "_make_node" = some (Standard.builderBase, .maker none) :=
    regular.member?_of_outside outside _
  have held : s.store.held? b "_make_node" = none :=
    Store.held?_of_get (Store.get_of_outside outside) _
  unfold build at run
  obtain ⟨absent, u, missing, rest⟩ := bind_eq_ok.1 run
  obtain rfl := (quiet_own_missing depth ordinary).eq_of_ok missing
  cases empty : absent.isEmpty with
  | false => rw [empty] at rest; cases rest
  | true =>
      rw [empty] at rest
      -- Making an element answers with nothing, and that cannot be recorded.
      obtain ⟨element, v, make, rest⟩ := bind_eq_ok.1
        (show ((upTo depth).own b "_make_node" >>= _) u = .ok made t from rest)
      rw [own_of_kept plain (Store.property?_of_member member (by simp))
        (Store.kept?_of_member held member)] at make
      cases depth with
      | zero => cases make
      | succ depth =>
          cases make
          obtain ⟨_, w, _, rest⟩ := bind_eq_ok.1 rest
          obtain ⟨_, _, recorded, _⟩ := bind_eq_ok.1 rest
          cases recorded

end Caller

/-! ### Opening scopes -/

namespace Opening

variable {s t : Session ρ} {b : BuilderRef} {name element : String} {owner : ClassId}
  {target : Target} {attachment : Attachment} {arguments : Arguments ρ}

/-- Attaching the element is what is left of opening a scope when everything else is told. -/
theorem answers_fromAttach (depth : Nat) {store : Store}
    (further : element ∈ Hook.ofClass →
      Standard.classes.classes.length ≤ (store.get b).classId.index)
    (fits : s.store.IsBody b → name ∈ gatherers ∧
      (Member.opener target attachment).fitsBodies element = true) (made : Value) :
    ((Opening.ofCall store b element target attachment arguments).fromAttach
      (.upTo depth) made).Answers tame b name [] s := by
  by_cases ofClass : element ∈ Hook.ofClass
  · have same : (Opening.ofCall store b element target attachment arguments).fromAttach
        (.upTo depth) made = (do
          BuildM.perform fun current => current.onClasses fun classes =>
            classes.attach (store.get b).classId element made attachment
          return made : BuildM ρ Value) := by
      unfold fromAttach attach ofCall
      simp only [ofClass, if_true]
    rw [same]
    refine Shifts.answers ((Caller.shifts_attachOn (further ofClass) ofClass made _).map _) ?_
    intro regular body
    have named := (fits body).2
    simp [Member.fitsBodies] at named
    rw [named.1.1] at ofClass
    exact absurd ofClass (by decide)
  · have same : (Opening.ofCall store b element target attachment arguments).fromAttach
        (.upTo depth) made = (do
          (Caller.upTo depth).attach b element made attachment
          return made : BuildM ρ Value) := by
      unfold fromAttach attach ofCall
      simp only [ofClass, if_false]
    rw [same]
    refine Shifts.answers
      (((Caller.shifts_upTo depth).attach (fun there => there.2 rfl) made _).map _) ?_
    intro regular body
    obtain ⟨gathers, named⟩ := fits body
    simp [Member.fitsBodies] at named
    rw [named.2]
    rcases Caller.ends_push body regular depth gathers made with ⟨fault, eq⟩ | ⟨t, eq, gathered⟩
    · rw [bind_of_error (show (Caller.upTo depth).attach b element made .append s = _ from eq)]
      exact .failed rfl
    · rw [bind_of_ok (show (Caller.upTo depth).attach b element made .append s = _ from eq)]
      exact .answered gathered

/-- Opening a scope, if what runs on the builder of the scope has its chronicle. -/
theorem answers_run (depth : Nat) {tells : Telling ρ}
    (provides : s.store.Provides b element (.opener target attachment))
    (named : s.store.IsBody b → name = element)
    (prepared : ∀ child t,
      ((Opening.ofCall s.store b element target attachment arguments).prepare
        (.upTo depth) child).Chronicles tame (tells child t) t) :
    ((Opening.ofCall s.store b element target attachment arguments).run (.upTo depth)).Answers
      tame b name
      ((Opening.ofCall s.store b element target attachment arguments).told (.upTo depth) tells s)
      s := by
  intro regular
  obtain ⟨opens, further⟩ := regular.opener provides
  have inside := regular.inside_of_opener provides
  revert regular
  rw [run_eq_remaining]
  refine Answers.after_shifts (shifts_query _) ?_
  intro id t resolved regular _
  obtain ⟨resolved, rfl⟩ := query_eq_ok.1 resolved
  have usable : t.store.classes.Usable id :=
    regular.guards.usable_target opens resolved
  refine Answers.after_shifts ((Caller.shifts_upTo depth).create usable _) ?_
  intro child u created _ first
  refine Answers.after (prepared child u) ?_
  intro _ v _ _ second
  refine Answers.at_last (Chronicles.built
    ((Caller.shifts_upTo depth).own fun there => there.2 rfl)
    fun regular body => Caller.body_of_own_build body regular depth) ?_
  intro made w _ _ third
  refine answers_fromAttach depth further ?_ made
  intro body
  have body := body.earlier ((first.trans second).trans third) regular inside
  have fits := body.fits regular provides.has
  refine ⟨?_, fits⟩
  rw [named body]
  simp [Member.fitsBodies] at fits
  rw [fits.1.1]
  decide

end Opening

/-! ### Calls -/

/-- Arguments of which a function has its chronicle. -/
def Arguments.Chronicles (tame : Prop) (tells : Telling ρ) (arguments : Arguments ρ) : Prop :=
  ∀ init, arguments.first = some (.function init) →
    ∀ child s, (init child).Chronicles tame (tells child s) s

namespace Caller

variable {tells : Telling ρ} {arguments : Arguments ρ} {s t : Session ρ} {b : BuilderRef}
  {name : String} {found : Found}

/-- What is called on a builder of bodies is what it keeps under the name. -/
def Names (s : Session ρ) (b : BuilderRef) (name : String) (found : Found) : Prop :=
  s.store.IsBody b → ∀ owner other called, found = .callable owner other called →
    s.store.kept? b name = some found

/-- What is read of a builder of bodies to be called is what it keeps under the name. -/
theorem names_of_read {depth : Nat} (regular : s.store.Regular)
    (read : (upTo depth).read b name s = .ok found t) : Names t b name found := by
  rintro body owner other called rfl
  by_cases inside : b.index < s.store.builders.length
  · have reads : ((upTo depth).read b name).Shifts (fun _ => False) s :=
      (shifts_upTo depth).read id
    have body := body.earlier (reads.of_ok read ⟨regular, nofun⟩) regular inside
    have readable := body.readable regular
    obtain rfl := (quiet_read depth readable name).eq_of_ok read
    rcases kept?_of_callable readable.read read with kept | kept
    · exact kept
    · -- Builders say themselves whether they are finalized.
      have member : t.store.member? b "_finalized" = none := body.member?_eq regular _
      unfold Store.kept? at kept
      rw [member] at kept
      cases held : t.store.held? b "_finalized" <;> rw [held] at kept <;> cases kept
  · have readable := (regular.ordinary_of_outside inside).toReadsPlainly
    obtain rfl := (quiet_read depth (Store.ReadsPlainly.readable readable) name).eq_of_ok read
    exact absurd body.inside inside

/-- Running an argument on a builder, if functions have their chronicles and so do calls. -/
theorem chronicles_run (depth : Nat)
    (calls : ∀ b found (arguments : Arguments ρ) name s, arguments.Chronicles tame tells →
      s.store.Offers b found → Names s b name found →
      (upTo depth b found arguments).Answers tame b name
        (Caller.told tells depth b found arguments s) s)
    {given : Given ρ} (function : ∀ init, given = .function init →
      ∀ child s, (init child).Chronicles tame (tells child s) s) (child : BuilderRef)
    (s : Session ρ) :
    ((upTo depth).run given child).Chronicles tame
      (given.told tells (Caller.told tells depth) child s) s := by
  unfold run Given.told
  cases given with
  | value held => exact (shifts_throw _).chronicles
  | function init => exact function init rfl child s
  | builder callee =>
      intro regular
      refine Chronicles.observe_bind (k := fun hook => _) ?_ regular
      dsimp only
      cases hook : s.store.hook? callee .call with
      | none => exact (shifts_observe_bind (shifts_throw _)).chronicles
      | some origin =>
          obtain ⟨inside, further⟩ := regular.called_further hook
          have other : ∀ mid : Store, s.store.Shifts (fun _ => False) mid → ¬ mid.IsBody callee := by
            intro mid shifts body
            have body := body.earlier shifts regular inside
            rw [body.classId] at further
            exact absurd further (by decide)
          have answers := calls callee (s.store.found Hook.call.name origin)
            { first := some (.builder child) } Hook.call.name s (by rintro init ⟨⟩)
            (Store.offers_member hook) fun body => absurd body (other _ (.refl _))
          exact Chronicles.discard (answers.chronicles other)

/-- A call that opens no scope works on no other builder of bodies. -/
theorem shifts_closed (depth : Nat) {owner other : String} {called : Member}
    (closed : called.isOpener = false) (offers : s.store.Offers b (.callable owner other called))
    (arguments : Arguments ρ) :
    (upTo depth b (.callable owner other called) arguments).Shifts
      (fun c => s.store.IsBody c ∧ c ≠ b) s := by
  refine shifts_upTo depth b _ arguments s ⟨fun there => there.2 rfl, offers, ?_, ?_⟩
  · intro given _
    cases given with
    | builder other => exact fun there => ⟨.body, there.1.classId⟩
    | _ => trivial
  · rintro _ _ target attachment ⟨⟩
    cases closed

/-- Calling what finalizes builders. -/
theorem answers_build (depth : Nat) {owner other : String}
    (offers : s.store.Offers b (.callable owner other (.method .build)))
    (names : Names s b name (.callable owner other (.method .build))) (arguments : Arguments ρ) :
    (upTo (depth + 1) b (.callable owner other (.method .build)) arguments).Answers tame b name
      (uponDone (upTo (depth + 1) b (.callable owner other (.method .build)) arguments) s
        fun made t => [.built b made s t]) s := by
  have run := upTo_method depth s b owner other .build (by decide) arguments
  intro regular
  refine Chronicles.answers (Chronicles.built (shifts_closed _ rfl offers arguments) ?_) ?_ ?_ regular
  · intro regular body
    rw [run]
    cases arguments.bindOnly
        ⟨owner ++ "." ++ other, Method.build.parameters, Method.build.receiver⟩ with
    | error fault => exact .inl ⟨fault, rfl⟩
    | ok given => exact body_of_build body regular depth
  · intro made t ended
    refine Classical.not_not.1 fun outside => ?_
    rw [run] at ended
    obtain ⟨given, u, settled, built⟩ := bind_eq_ok.1 ended
    obtain rfl := (quiet_settle _).eq_of_ok settled
    exact build_ne_ok_of_outside regular outside built
  · intro body
    obtain ⟨rfl, fits⟩ := body.fits_of_kept regular (names body _ _ _ rfl)
    obtain rfl : other = "build" := by simpa [Member.fitsBodies] using fits
    decide

/-- Calling what a builder offers has its chronicle. -/
theorem answers_upTo (tells : Telling ρ) : ∀ (depth : Nat) (b : BuilderRef) (found : Found)
    (arguments : Arguments ρ) (name : String) (s : Session ρ), arguments.Chronicles tame tells →
      s.store.Offers b found → Names s b name found →
      (upTo depth b found arguments).Answers tame b name
        (Caller.told tells depth b found arguments s) s
  | 0, b, found, arguments, name, s, _, _, _ => by
      unfold Caller.told
      exact (shifts_throw _).answers fun _ _ => .failed rfl
  | depth + 1, b, .value held, arguments, name, s, _, _, _ => by
      unfold Caller.told
      exact (shifts_throw _).answers fun _ _ => .failed rfl
  | depth + 1, b, .callable owner other called, arguments, name, s, function, offers, names => by
      have closed : called.isOpener = false →
          (upTo (depth + 1) b (.callable owner other called) arguments).Answers tame b name [] s := by
        intro closed
        refine (shifts_closed (depth + 1) closed offers arguments).answers ?_
        exact fun regular body =>
          ends_member body regular depth (names body _ _ _ rfl) closed arguments
      cases called with
      | opener target attachment =>
          intro regular
          rcases offers owner other _ rfl with provides | same
          · refine Answers.congr ?_ (upTo_opener depth s b owner other target attachment arguments)
              regular
            unfold Caller.told
            refine Opening.answers_run depth provides ?_ ?_
            · exact fun body => (body.fits_of_kept regular (names body _ _ _ rfl)).1.symm
            intro child t
            unfold Opening.prepare Opening.ofCall
            dsimp only
            cases init : arguments.init? with
            | none => exact (shifts_pure _).chronicles
            | some given =>
                refine chronicles_run depth (answers_upTo tells depth) ?_ child t
                rintro f rfl
                exact function f (Arguments.first_of_init? init)
          · cases same
      | method method =>
          by_cases build : method = .build
          · subst build
            exact answers_build depth offers names arguments
          have told : Caller.told tells (depth + 1) b (.callable owner other (.method method))
              arguments s = [] := by
            cases method <;> first | rfl | exact absurd rfl build
          rw [told]
          exact closed rfl
      | _ => exact closed rfl

end Caller

/-! ### Documents -/

/-- Building a document by running an argument on its builder. -/
theorem chronicles_html {tells : Telling ρ} {init : Given ρ} {s : Session ρ}
    (prepared : ∀ document t, (call.run init document).Chronicles tame
      (init.told tells (Caller.told tells Caller.depthLimit) document t) t) :
    (call.html init).Chronicles tame (documentTold tells init s) s := by
  intro regular
  have usable := regular.classes.usable_library
    (by decide : Standard.documentBuilder.index < Standard.classes.classes.length)
  refine Chronicles.after (shifts_call.create usable []) ?_ regular
  intro document t _ _ _
  refine (prepared document t).seq ?_
  intro _ u _ _ _
  exact Chronicles.built (shifts_call.own fun there => there.2 rfl)
    fun regular body => Caller.body_of_own_build body regular Caller.depthLimit

/-- The same with the argument of a call. -/
theorem chronicles_htmlOf {tells : Telling ρ} {arguments : Arguments ρ} {s : Session ρ}
    (function : arguments.Chronicles tame tells) :
    (htmlOf arguments).Chronicles tame (htmlTold tells arguments s) s := by
  unfold htmlOf htmlTold
  refine Chronicles.after_looking (quiet_settle _) ?_
  intro init bound _
  refine chronicles_html fun document t => ?_
  refine Caller.chronicles_run Caller.depthLimit
    (Caller.answers_upTo tells Caller.depthLimit) ?_ document t
  rintro f rfl
  rcases Arguments.bindOnly_cases (query_eq_ok.1 bound).1 with first | ⟨value, same⟩
  · exact function f first
  · cases same

end ScopedHtml
