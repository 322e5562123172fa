import ScopedHtml.Proofs.Bodies

/-!
# ScopedHtml.Proofs.Chronicle

**What is told of a run says all that it does to builders of bodies.** From one occurrence to the
next a run makes small changes, and none of them touches the children of a builder of bodies
(`Store.Passes`); a call that the run tells of gathers as its name says, a builder of bodies is
finalized into the children that it has then, and a class that is defined is what the definition
gives (`Occurrence.Follows`). A chronicle is a row of such occurrences (`Chronicle`). It is told of
programs by `BuildM.Chronicles`.

Assigning private attributes would be another way to touch children. So those who want to know about
children exclude it (`tame`); what chronicles say about classes they say of every run.
-/

namespace ScopedHtml

open BuildM

variable {ρ α β : Type} {tame : Prop}

/-! ### Stores -/

/-- The way from a moment of a run to a later one: small changes, and none of the children of a
builder of bodies other than `b`. -/
structure Store.PassesBut (tame : Prop) (free : BuilderRef → Prop) (before after : Store) :
    Prop where
  shifts : before.Shifts (fun _ => False) after
  children : tame → ∀ b, before.IsBody b → ¬ free b →
    after.held? b "_children" = before.held? b "_children"

/-- The same of all builders of bodies. -/
abbrev Store.Passes (tame : Prop) : Store → Store → Prop := Store.PassesBut tame fun _ => False

namespace Store

variable {free : BuilderRef → Prop} {before mid after : Store}

theorem PassesBut.refl (store : Store) : store.PassesBut tame free store :=
  ⟨.refl _, fun _ _ _ _ => rfl⟩

theorem PassesBut.trans (regular : before.Regular) (first : before.PassesBut tame free mid)
    (second : mid.PassesBut tame free after) : before.PassesBut tame free after where
  shifts := first.shifts.trans second.shifts
  children := fun calm b body other =>
    (second.children calm b (body.later first.shifts regular) other).trans
      (first.children calm b body other)

theorem Passes.but (passes : before.Passes tame after) : before.PassesBut tame free after :=
  ⟨passes.shifts, fun calm b body _ => passes.children calm b body id⟩

theorem PassesBut.regular (passes : before.PassesBut tame free after) (regular : before.Regular) :
    after.Regular :=
  passes.shifts.regular regular

/-- What spares the other builders of bodies leaves them their children. -/
theorem Shifts.passesBut (regular : before.Regular)
    (shifts : before.Shifts (fun c => before.IsBody c ∧ ¬ free c) after) :
    before.PassesBut tame free after where
  shifts := shifts.mono fun _ => False.elim
  children := fun _ b body other => by
    have guards : before.Guards fun c => before.IsBody c ∧ ¬ free c :=
      ⟨regular, fun _ there => there.1.inside⟩
    exact held?_of_get (shifts.spared guards ⟨body, other⟩) _

/-- A builder of bodies whose children have not been touched either. -/
theorem PassesBut.passes {b : BuilderRef} (passes : before.PassesBut tame (· = b) after)
    (same : tame → before.IsBody b → after.held? b "_children" = before.held? b "_children") :
    before.Passes tame after where
  shifts := passes.shifts
  children := by
    intro calm c body _
    by_cases this : c = b
    · subst this
      exact same calm body
    · exact passes.children calm c body this

end Store

/-! ### Occurrences -/

/-- Whether something can be what is told next, when `store` is what was left before. -/
inductive Occurrence.Follows (tame : Prop) (store : Store) : Occurrence ρ → Prop
  | rest {s : Session ρ} (passes : store.Passes tame s.store) : Follows tame store (.rest s)
  | built {b : BuilderRef} {made : Value} {s t : Session ρ} (passes : store.Passes tame s.store)
      (during : s.store.Passes tame t.store)
      (body : s.store.IsBody b → ∃ items, s.store.children? b = some items ∧
        made = .node (.body items)) :
      Follows tame store (.built b made s t)
  | called {b : BuilderRef} {member : String} {answer : Value} {s : Session ρ}
      (passes : store.PassesBut tame (· = b) s.store)
      (gathers : tame → store.IsBody b → store.Collects b member answer s.store) :
      Follows tame store (.called b member answer s)
  | defined {name : String} {bases : List String} {body : ClassBody} {id : ClassId}
      {s t : Session ρ} (passes : store.Passes tame s.store) (during : s.store.Passes tame t.store)
      (done : define name bases body s = .ok id t) :
      Follows tame store (.defined name body id s t)

namespace Occurrence.Follows

variable {o : Occurrence ρ} {store earlier : Store}

theorem shifts_before (follows : o.Follows tame store) :
    store.Shifts (fun _ => False) o.before.store := by
  cases follows with
  | rest passes => exact passes.shifts
  | built passes during body => exact passes.shifts
  | called passes gathers => exact passes.shifts
  | defined passes during done => exact passes.shifts

theorem shifts_during (follows : o.Follows tame store) :
    o.before.store.Shifts (fun _ => False) o.after.store := by
  cases follows with
  | rest passes => exact .refl _
  | built passes during body => exact during.shifts
  | called passes gathers => exact .refl _
  | defined passes during done => exact during.shifts

theorem shifts (follows : o.Follows tame store) :
    store.Shifts (fun _ => False) o.after.store :=
  follows.shifts_before.trans follows.shifts_during

/-- It follows as well what was left earlier. -/
theorem of_passes (regular : earlier.Regular) (passes : earlier.Passes tame store)
    (follows : o.Follows tame store) : o.Follows tame earlier := by
  cases follows with
  | rest more => exact .rest (passes.trans regular more)
  | built more during body => exact .built (passes.trans regular more) during body
  | @called b _ _ _ more gathers =>
      refine .called (passes.but.trans regular more) fun calm body => ?_
      have gathers := gathers calm (body.later passes.shifts regular)
      unfold Store.Collects at gathers ⊢
      rwa [passes.children calm b body id] at gathers
  | defined more during done => exact .defined (passes.trans regular more) during done

end Occurrence.Follows

/-! ### Chronicles -/

/-- The way from a store to another, with what is told of it. -/
inductive Chronicle (tame : Prop) : Store → List (Occurrence ρ) → Store → Prop
  | done {before after : Store} (passes : before.Passes tame after) :
      Chronicle tame before [] after
  | next {before after : Store} {o : Occurrence ρ} {rest : List (Occurrence ρ)}
      (follows : o.Follows tame before) (others : Chronicle tame o.after.store rest after) :
      Chronicle tame before (o :: rest) after

namespace Chronicle

variable {first second : List (Occurrence ρ)} {before mid after : Store}

theorem refl (store : Store) : Chronicle tame store ([] : List (Occurrence ρ)) store :=
  .done (.refl _)

theorem shifts (chronicle : Chronicle tame before first after) :
    before.Shifts (fun _ => False) after := by
  induction chronicle with
  | done passes => exact passes.shifts
  | next follows _ ih => exact follows.shifts.trans ih

theorem after_passing (regular : before.Regular) (passes : before.Passes tame mid)
    (chronicle : Chronicle tame mid first after) : Chronicle tame before first after := by
  cases chronicle with
  | done more => exact .done (passes.trans regular more)
  | next follows others => exact .next (follows.of_passes regular passes) others

theorem append (regular : before.Regular) (left : Chronicle tame before first mid)
    (right : Chronicle tame mid second after) : Chronicle tame before (first ++ second) after := by
  induction left with
  | done passes => exact right.after_passing regular passes
  | next follows _ ih => exact .next follows (ih (follows.shifts.regular regular) right)

/-- Every moment that is told of is on the way. -/
theorem shifts_to (chronicle : Chronicle tame before first after) {o : Occurrence ρ}
    (among : o ∈ first) : before.Shifts (fun _ => False) o.before.store ∧
      before.Shifts (fun _ => False) o.after.store := by
  induction chronicle with
  | done _ => cases among
  | next follows _ ih =>
      rcases List.mem_cons.1 among with rfl | among
      · exact ⟨follows.shifts_before, follows.shifts⟩
      · exact (ih among).imp follows.shifts.trans follows.shifts.trans

/-- A chronicle can be parted anywhere. -/
theorem split (chronicle : Chronicle tame before (first ++ second) after) :
    ∃ mid, Chronicle tame before first mid ∧ Chronicle tame mid second after := by
  induction first generalizing before with
  | nil => exact ⟨before, .refl _, chronicle⟩
  | cons o rest ih =>
      cases chronicle with
      | next follows others =>
          obtain ⟨mid, left, right⟩ := ih others
          exact ⟨mid, .next follows left, right⟩

end Chronicle

/-! ### Programs -/

namespace BuildM

variable {told : List (Occurrence ρ)} {m : BuildM ρ α} {k : α → BuildM ρ β} {s t : Session ρ}

/-- This is told of running `m` from `s`, if the store of `s` is regular. -/
def Chronicles (tame : Prop) (m : BuildM ρ α) (told : List (Occurrence ρ)) (s : Session ρ) :
    Prop :=
  s.store.Regular → Chronicle tame s.store told (left m s).store

theorem Shifts.passesBut {free : BuilderRef → Prop}
    (shifts : m.Shifts (fun c => s.store.IsBody c ∧ ¬ free c) s) (regular : s.store.Regular) :
    s.store.PassesBut tame free (left m s).store :=
  Store.Shifts.passesBut regular (shifts ⟨regular, fun _ there => there.1.inside⟩)

theorem Shifts.passes (shifts : m.Shifts s.store.IsBody s) (regular : s.store.Regular) :
    s.store.Passes tame (left m s).store :=
  Store.Shifts.passesBut regular ((shifts regular.guards).mono fun _ there => there.1)

theorem Shifts.chronicles (shifts : m.Shifts s.store.IsBody s) : m.Chronicles tame [] s :=
  fun regular => .done (shifts.passes regular)

/-- What a program answers is no matter of what is told of it. -/
theorem Chronicles.congr {n : BuildM ρ β} (h : m.Chronicles tame told s)
    (same : left n s = left m s) : n.Chronicles tame told s := by
  intro regular
  rw [same]
  exact h regular

theorem Chronicles.discard (h : m.Chronicles tame told s) :
    (discard m : BuildM ρ Unit).Chronicles tame told s :=
  h.congr (left_discard m s)

theorem Chronicles.map (h : m.Chronicles tame told s) (f : α → β) :
    (m >>= fun a => pure (f a)).Chronicles tame told s :=
  h.congr (left_map m f s)

theorem Chronicles.outcome (h : m.Chronicles tame told s) :
    (outcome m).Chronicles tame told s :=
  h.congr (left_outcome m s)

theorem Chronicles.observe_bind {view : Store → α} (h : (k (view s.store)).Chronicles tame told s) :
    (observe view >>= k).Chronicles tame told s := h

/-- What is told of a sequence is told of its first part, and where that has ended well, of the
second. -/
theorem Chronicles.seq {next : α → Session ρ → List (Occurrence ρ)}
    (head : m.Chronicles tame told s)
    (tail : ∀ a t, m s = .ok a t → t.store.Regular → s.store.Shifts (fun _ => False) t.store →
      (k a).Chronicles tame (next a t) t) :
    (m >>= k).Chronicles tame (told ++ uponDone m s next) s := by
  intro regular
  have here := head regular
  obtain ⟨fault, run, eq⟩ | ⟨a, run, eq⟩ := left_bind m k s
  · rw [eq, uponDone_of_error run, List.append_nil]
    exact here
  · rw [eq, uponDone_of_ok run]
    have still := here.shifts.regular regular
    exact here.append regular (tail a _ run still here.shifts still)

/-- The same where there is nothing to be told of the first part. -/
theorem Chronicles.after {next : α → Session ρ → List (Occurrence ρ)}
    (head : m.Shifts s.store.IsBody s)
    (tail : ∀ a t, m s = .ok a t → t.store.Regular → s.store.Shifts (fun _ => False) t.store →
      (k a).Chronicles tame (next a t) t) :
    (m >>= k).Chronicles tame (uponDone m s next) s :=
  head.chronicles.seq tail

/-- A program that looks first. -/
theorem Chronicles.after_looking {next : α → Session ρ → List (Occurrence ρ)} (quiet : Quiet m s)
    (tail : ∀ a, m s = .ok a s → s.store.Regular → (k a).Chronicles tame (next a s) s) :
    (m >>= k).Chronicles tame (uponDone m s next) s := by
  refine .after quiet.shifts ?_
  intro a t run regular _
  obtain rfl := quiet.eq_of_ok run
  exact tail a run regular

/-- The same where there is nothing to be told of the second part. -/
theorem Chronicles.before (head : m.Chronicles tame told s)
    (tail : ∀ a t, m s = .ok a t → (k a).Shifts t.store.IsBody t) :
    (m >>= k).Chronicles tame told s := by
  have all := @Chronicles.seq _ _ _ _ _ _ _ _ (fun _ _ => []) head
    fun a t run _ _ => (tail a t run).chronicles
  rwa [uponDone_nil, List.append_nil] at all

/-- A moment at the beginning. -/
theorem Chronicles.resting (h : m.Chronicles tame told s) :
    m.Chronicles tame (.rest s :: told) s :=
  fun regular => .next (.rest (.refl _)) (h regular)

/-- A program that has finalized a builder when it has ended well. -/
theorem Chronicles.built {m : BuildM ρ Value} {b : BuilderRef}
    (shifts : m.Shifts (fun c => s.store.IsBody c ∧ c ≠ b) s)
    (body : s.store.Regular → s.store.IsBody b →
      (∃ fault, m s = .error fault s) ∨ ∃ items, s.store.children? b = some items ∧
        m s = .ok (.node (.body items))
          { s with store := s.store.finalizedInto b (.body items) }) :
    m.Chronicles tame (uponDone m s fun made t => [.built b made s t]) s := by
  intro regular
  have but : s.store.PassesBut tame (· = b) (left m s).store := shifts.passesBut regular
  cases run : m s with
  | error fault t =>
      rw [left_of_error run] at but ⊢
      rw [uponDone_of_error run]
      refine .done (but.passes fun _ here => ?_)
      rcases body regular here with ⟨_, eq⟩ | ⟨_, _, eq⟩
      · cases eq.symm.trans run
        rfl
      · cases eq.symm.trans run
  | ok made t =>
      rw [left_of_ok run] at but ⊢
      rw [uponDone_of_ok run]
      have passes : s.store.Passes tame t.store := by
        refine but.passes fun _ here => ?_
        rcases body regular here with ⟨_, eq⟩ | ⟨items, _, eq⟩
        · cases eq.symm.trans run
        · cases eq.symm.trans run
          exact Store.held?_assign_of_ne_name s.store b (by decide) _
      refine .next (.built (.refl _) passes fun here => ?_) (.refl _)
      rcases body regular here with ⟨_, eq⟩ | ⟨items, gathered, eq⟩
      · cases eq.symm.trans run
      · cases eq.symm.trans run
        exact ⟨items, gathered, rfl⟩

/-- A definition. -/
theorem chronicles_define {s : Session ρ} (name : String) (bases : List String) (body : ClassBody) :
    (define name bases body : BuildM ρ ClassId).Chronicles tame (definitionTold name bases body s)
      s := by
  intro regular
  have passes : s.store.Passes tame (left (define name bases body) s).store :=
    (shifts_call.define leads_call name bases body).passes regular
  unfold definitionTold
  cases run : (define name bases body : BuildM ρ ClassId) s with
  | error fault t =>
      rw [left_of_error run] at passes ⊢
      rw [uponDone_of_error run]
      exact .done passes
  | ok id t =>
      rw [left_of_ok run] at passes ⊢
      rw [uponDone_of_ok run]
      exact .next (.defined (.refl _) passes run) (.refl _)

end BuildM

end ScopedHtml
