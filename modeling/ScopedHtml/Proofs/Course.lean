import ScopedHtml.Proofs.Drift
import ScopedHtml.Proofs.Trail

/-!
# ScopedHtml.Proofs.Course

**What happens, happens in order.** A course (`Course`) leads from store to store along
happenings, each of which does what such a thing does (`Happening.Fits`); between them there
are only small changes (`Store.Drifts`). Programs take the course of their trail
(`BuildM.Courses`), on orderly stores and whether they end well or fail:

* `Opening.courses_run`, `Caller.courses_upTo` — opening scopes and calling members;
* `Course.invariant` — what every change and every happening preserves holds all along.
-/

namespace ScopedHtml

open BuildM

variable {ρ α β : Type}

/-! ### What happens -/

/-- The class whose opener attaches something to a parent. -/
def Parent.classId (store : Store) : Parent → ClassId
  | .builder b => (store.get b).classId
  | .ofClass id => id

/-- What attaching an element to a parent does. -/
inductive Store.Attached (store : Store) (element : String) (made : Value) :
    Parent → Attachment → Store → Prop
  | discarded (parent : Parent) : Attached store element made parent .discard store
  | kept (b : BuilderRef) (free : slotAttribute element ∉ reservedNames) :
      Attached store element made (.builder b) .slot
        (store.assign b (slotAttribute element) made)
  | gathered (b : BuilderRef) (items : List Value)
      (held : store.held? b "_children" = some (.list items)) :
      Attached store element made (.builder b) .append
        (store.assign b "_children" (.list (items ++ [made])))
  | keptByClass (id : ClassId) (free : slotAttribute element ∉ reservedNames)
      (loose : slotAttribute element ∈ looseNames) :
      Attached store element made (.ofClass id) .slot
        { store with classes := store.classes.assign id (slotAttribute element) (.data made) }

namespace Happening

/-- Whether an element has been made or appended by it. -/
def Carries (node : Node) : Happening ρ → Prop
  | built _ made _ _ => made = .node node
  | appended _ other _ _ => other = node
  | _ => False

/-- Whether it does what such a thing does, if these happenings came before it. What is
attached has been made of a builder before, whose class was the one that the opener opens.
An element that is answered has come out of a builder or into one before, or is a title or a
paragraph. -/
inductive Fits (earlier : List (Happening ρ)) : Happening ρ → Prop
  | rest (s : Session ρ) : Fits earlier (.rest s)
  | built {depth : Nat} {b : BuilderRef} {made : Value} {s t : Session ρ}
      (done : (Caller.upTo depth).build b s = .ok made t) : Fits earlier (.built b made s t)
  | attached {parent : Parent} {element : String} {target : Target} {attachment : Attachment}
      {child : BuilderRef} {node : Node} {owner : ClassId} {s u v : Session ρ} {after : Store}
      (made : .built child (.node node) u v ∈ earlier)
      (opened : ∀ id, target = .fixed id → (u.store.get child).classId = id)
      (behind : owner ∈ s.store.classes.line (parent.classId s.store))
      (opener : owner.index < Standard.classes.classes.length →
        (Standard.classes.get owner).members.find? element = some (.opener target attachment))
      (done : s.store.Attached element (.node node) parent attachment after) :
      Fits earlier (.attached parent element (.node node) s { s with store := after })
  | appended {b : BuilderRef} {node : Node} {s : Session ρ} {items : List Value}
      (held : s.store.held? b "_children" = some (.list items)) :
      Fits earlier (.appended b node s
        { s with store := s.store.assign b "_children" (.list (items ++ [.node node])) })
  | answered {member : String} {answer : Value} {s : Session ρ}
      (known : ∀ node, answer = .node node → member ≠ "_make_node" →
        (∃ content, node = .title content ∨ node = .paragraph content) ∨
          ∃ h ∈ earlier, h.Carries node) :
      Fits earlier (.answered member answer s)

end Happening

namespace Store

variable {licence : Licence} {store after : Store} {element : String} {made : Value} {parent : Parent}
  {attachment : Attachment}

theorem Attached.leads (attached : store.Attached element made parent attachment after)
    (sound : store.Sound) : store.Leads after := by
  cases attached with
  | discarded => exact .refl sound
  | kept b free => exact .assign sound b _ _
  | gathered b items held => exact .assign sound b _ _
  | keptByClass id free loose =>
      exact .onClasses sound (.assign _ id loose _) (sound.closed.assign id _ _)

theorem Attached.orderly (attached : store.Attached element made parent attachment after)
    (orderly : store.Orderly) : after.Orderly := by
  cases attached with
  | discarded => exact orderly
  | kept b free => exact orderly.assign (keepable_of_free free _) b
  | gathered b items held => exact orderly.assign (keepable_children _) b
  | keptByClass id free loose =>
      have kept := ClassTable.Kept.assign store.classes id loose (.data made)
      exact orderly.onClasses kept (orderly.sound.closed.assign id _ _)
        (orderly.lines.still orderly.sound.closed kept (ClassTable.length_classes_assign ..))
        (orderly.classes.assign id free _)

theorem leads_finalizedInto (sound : store.Sound) (b : BuilderRef) (node : Node) :
    store.Leads (store.finalizedInto b node) :=
  (Leads.assign sound b _ _).trans (.logged (Leads.assign sound b _ _).sound _)

theorem Orderly.finalizedInto (orderly : store.Orderly) (b : BuilderRef) (node : Node) :
    (store.finalizedInto b node).Orderly :=
  Orderly.logged (orderly.assign ⟨by decide, by decide, fun _ => ⟨true, rfl⟩,
    fun same => absurd same (by decide)⟩ b) _

end Store

namespace Happening

variable {h : Happening ρ} {earlier : List (Happening ρ)}

/-- A builder that is finalized is one, and is there. -/
theorem Fits.built_inv {b : BuilderRef} {made : Value} {s t : Session ρ}
    (fits : (Happening.built b made s t).Fits earlier) (orderly : s.store.Orderly) :
    b.index < s.store.builders.length ∧ s.store.isOf b Standard.builderBase ∧
      ∃ node, made = .node node ∧ t = { s with store := s.store.finalizedInto b node } := by
  cases fits with
  | @built depth _ _ _ _ done =>
      rcases orderly.build_cases depth b with ⟨fault, eq⟩ | ⟨inside, builder, node, eq⟩
      · cases eq.symm.trans done
      · cases eq.symm.trans done
        exact ⟨inside, builder, node, rfl, rfl⟩

theorem Fits.leads (fits : h.Fits earlier) (orderly : h.before.store.Orderly) :
    h.before.store.Leads h.after.store := by
  cases fits with
  | rest s => exact .refl orderly.sound
  | @built depth b made s t done =>
      obtain ⟨_, _, node, rfl, rfl⟩ := (show Fits earlier _ from .built done).built_inv orderly
      exact Store.leads_finalizedInto orderly.sound b node
  | attached made opened behind opener done => exact done.leads orderly.sound
  | appended held => exact .assign orderly.sound _ _ _
  | answered known => exact .refl orderly.sound

theorem Fits.orderly (fits : h.Fits earlier) (orderly : h.before.store.Orderly) :
    h.after.store.Orderly := by
  cases fits with
  | rest s => exact orderly
  | @built depth b made s t done =>
      obtain ⟨_, _, node, rfl, rfl⟩ := (show Fits earlier _ from .built done).built_inv orderly
      exact Store.Orderly.finalizedInto orderly b node
  | attached made opened behind opener done => exact done.orderly orderly
  | appended held => exact Store.Orderly.assign orderly (Store.keepable_children _) _
  | answered known => exact orderly

end Happening

/-! ### Courses -/

/-- The way from a store to another along happenings, if the given ones came before. -/
inductive Course (licence : Licence) :
    List (Happening ρ) → Store → List (Happening ρ) → Store → Prop
  | done {earlier : List (Happening ρ)} {before after : Store}
      (drifts : before.Drifts licence after) : Course licence earlier before [] after
  | next {earlier rest : List (Happening ρ)} {h : Happening ρ} {before after : Store}
      (drifts : before.Drifts licence h.before.store) (fits : h.Fits earlier)
      (others : Course licence (earlier ++ [h]) h.after.store rest after) :
      Course licence earlier before (h :: rest) after

namespace Course

variable {licence : Licence} {earlier first second : List (Happening ρ)} {before mid after : Store}

theorem refl (earlier : List (Happening ρ)) (store : Store) : Course licence earlier store [] store :=
  .done (.refl _)

theorem after_drift (drifts : before.Drifts licence mid)
    (course : Course licence earlier mid first after) :
    Course licence earlier before first after := by
  cases course with
  | done more => exact .done (drifts.trans more)
  | next more fits others => exact .next (drifts.trans more) fits others

theorem append (left : Course licence earlier before first mid)
    (right : Course licence (earlier ++ first) mid second after) :
    Course licence earlier before (first ++ second) after := by
  induction left with
  | done drifts =>
      rw [List.append_nil] at right
      exact right.after_drift drifts
  | next drifts fits _ ih =>
      refine .next drifts fits (ih ?_)
      rwa [List.append_assoc, List.singleton_append]

/-- A course along happenings can be parted anywhere among them. -/
theorem split {rest : List (Happening ρ)}
    (course : Course licence earlier before (first ++ rest) after) :
    ∃ mid, Course licence earlier before first mid ∧
      Course licence (earlier ++ first) mid rest after := by
  induction first generalizing earlier before with
  | nil => exact ⟨before, .refl _ _, by rwa [List.append_nil]⟩
  | cons h others ih =>
      cases course with
      | next drifts fits more =>
          obtain ⟨mid, left, right⟩ := ih more
          rw [List.append_assoc, List.singleton_append] at right
          exact ⟨mid, .next drifts fits left, right⟩

/-- What every change and every happening preserves holds at the end if it does at the
beginning. -/
theorem invariant {P : List (Happening ρ) → Store → Prop}
    (change : ∀ earlier store after, store.Orderly → store.Change licence after →
      P earlier store → P earlier after)
    (happening : ∀ earlier (h : Happening ρ), h.before.store.Orderly → h.Fits earlier →
      P earlier h.before.store → P (earlier ++ [h]) h.after.store)
    (course : Course licence earlier before first after) (orderly : before.Orderly)
    (holds : P earlier before) : after.Orderly ∧ P (earlier ++ first) after := by
  have drifting : ∀ {earlier store after}, store.Drifts licence after → store.Orderly →
      P earlier store → P earlier after := by
    intro earlier store after drifts orderly holds
    induction drifts with
    | refl => exact holds
    | tail drifts one ih => exact change _ _ _ (Store.Drifts.orderly drifts orderly) one ih
  induction course with
  | done drifts =>
      rw [List.append_nil]
      exact ⟨drifts.orderly orderly, drifting drifts orderly holds⟩
  | next drifts fits _ ih =>
      have here := drifts.orderly orderly
      have done := ih (fits.orderly here) (happening _ _ here fits (drifting drifts orderly holds))
      rwa [List.append_assoc, List.singleton_append] at done

theorem orderly (course : Course licence earlier before first after) (orderly : before.Orderly) :
    after.Orderly :=
  (course.invariant (P := fun _ _ => True) (fun _ _ _ _ _ _ => trivial)
    (fun _ _ _ _ _ => trivial) orderly trivial).1

theorem leads (course : Course licence earlier before first after) (orderly : before.Orderly) :
    before.Leads after :=
  (course.invariant (P := fun _ store => before.Leads store)
    (fun _ _ _ orderly one leads => leads.trans (one.leads orderly))
    (fun _ _ orderly fits leads => leads.trans (fits.leads orderly)) orderly
    (.refl orderly.sound)).2

end Course

/-! ### Programs -/

namespace BuildM

variable {licence : Licence} {earlier first : List (Happening ρ)} {m : BuildM ρ α}
  {k : α → BuildM ρ β} {s t : Session ρ}

/-- Running `m` from `s` takes a course along these happenings, if the store of `s` is
orderly. -/
def Courses (licence : Licence) (m : BuildM ρ α) (happenings : List (Happening ρ)) (s : Session ρ) :
    Prop :=
  ∀ earlier, s.store.Orderly → Course licence earlier s.store happenings (left m s).store

theorem Drifts.courses (drifts : m.Drifts licence s) : m.Courses licence [] s :=
  fun _ orderly => .done (drifts orderly)

theorem Quiet.courses (h : s.store.Orderly → Quiet m s) : m.Courses licence [] s :=
  (Quiet.drifts h).courses

/-- What a program answers is no matter of its course. -/
theorem Courses.congr {m' : BuildM ρ β} {happenings : List (Happening ρ)}
    (h : m.Courses licence happenings s) (same : left m' s = left m s) :
    m'.Courses licence happenings s := by
  intro earlier orderly
  rw [same]
  exact h earlier orderly

theorem Courses.discard {happenings : List (Happening ρ)} (h : m.Courses licence happenings s) :
    (discard m : BuildM ρ Unit).Courses licence happenings s :=
  h.congr (left_discard m s)

theorem Courses.map {happenings : List (Happening ρ)} (h : m.Courses licence happenings s)
    (f : α → β) : (m >>= fun a => pure (f a)).Courses licence happenings s :=
  h.congr (left_map m f s)

theorem Courses.outcome {happenings : List (Happening ρ)} (h : m.Courses licence happenings s) :
    (outcome m).Courses licence happenings s :=
  h.congr (left_outcome m s)

theorem Courses.observe_bind {view : Store → α} {happenings : List (Happening ρ)}
    (h : (k (view s.store)).Courses licence happenings s) :
    (observe view >>= k).Courses licence happenings s := h

/-- A sequence takes the course of its first part, and where that has ended well, then that of
the second. -/
theorem Courses.seq {happenings : List (Happening ρ)}
    {next : α → Session ρ → List (Happening ρ)} (head : m.Courses licence happenings s)
    (tail : ∀ a t, m s = .ok a t → t.store.Orderly → s.store.Leads t.store →
      (k a).Courses licence (next a t) t) :
    (m >>= k).Courses licence (happenings ++ whenDone m s next) s := by
  intro earlier orderly
  have here := head earlier orderly
  obtain ⟨fault, run, eq⟩ | ⟨a, run, eq⟩ := left_bind m k s
  · rw [eq, whenDone_of_error run, List.append_nil]
    exact here
  · rw [eq, whenDone_of_ok run]
    have still := here.orderly orderly
    exact here.append (tail a _ run still (here.leads orderly) _ still)

/-- The same where nothing of interest happens in the first part. -/
theorem Courses.after {next : α → Session ρ → List (Happening ρ)} (head : m.Courses licence [] s)
    (tail : ∀ a t, m s = .ok a t → t.store.Orderly → s.store.Leads t.store →
      (k a).Courses licence (next a t) t) :
    (m >>= k).Courses licence (whenDone m s next) s :=
  head.seq tail

/-- A program that looks first. -/
theorem Courses.after_looking {next : α → Session ρ → List (Happening ρ)}
    (quiet : s.store.Orderly → Quiet m s)
    (tail : ∀ a, m s = .ok a s → s.store.Orderly → (k a).Courses licence (next a s) s) :
    (m >>= k).Courses licence (whenDone m s next) s := by
  intro earlier orderly
  refine Courses.after (Quiet.courses quiet) ?_ earlier orderly
  intro a t run still _
  obtain rfl := (quiet orderly).eq_of_ok run
  exact tail a run still

/-- The same where nothing of interest happens in the second part. -/
theorem Courses.before {happenings : List (Happening ρ)} (head : m.Courses licence happenings s)
    (tail : ∀ a t, m s = .ok a t → (k a).Drifts licence t) :
    (m >>= k).Courses licence happenings s := by
  have all := @Courses.seq _ _ _ _ _ _ _ _ (fun _ _ => []) head
    fun a t run _ _ => (tail a t run).courses
  rwa [whenDone_nil, List.append_nil] at all

/-- A moment at the beginning. -/
theorem Courses.resting {happenings : List (Happening ρ)} (h : m.Courses licence happenings s) :
    m.Courses licence (.rest s :: happenings) s :=
  fun earlier orderly => .next (.refl _) (.rest s) (h (earlier ++ [.rest s]) orderly)

/-- A program that fails with nothing changed, or ends in the course of what happens then. -/
theorem Courses.of_whenDone {next : α → Session ρ → List (Happening ρ)}
    (ends : s.store.Orderly → (∃ fault, m s = .error fault s) ∨ ∃ a t, m s = .ok a t ∧
      ∀ earlier, Course licence earlier s.store (next a t) t.store) :
    m.Courses licence (whenDone m s next) s := by
  intro earlier orderly
  rcases ends orderly with ⟨fault, eq⟩ | ⟨a, t, eq, course⟩
  · rw [left_of_error eq, whenDone_of_error eq]
    exact .refl _ _
  · rw [left_of_ok eq, whenDone_of_ok eq]
    exact course earlier

/-- What happens once more at the end. -/
theorem Courses.and_then {happenings : List (Happening ρ)}
    {next : α → Session ρ → List (Happening ρ)} (h : m.Courses licence happenings s)
    (more : ∀ a t, m s = .ok a t → t.store.Orderly → ∀ earlier,
      Course licence (earlier ++ happenings) t.store (next a t) t.store) :
    m.Courses licence (happenings ++ whenDone m s next) s := by
  intro earlier orderly
  have here := h earlier orderly
  cases run : m s with
  | error fault t => rwa [whenDone_of_error run, List.append_nil]
  | ok a t =>
      rw [whenDone_of_ok run]
      rw [left_of_ok run] at here ⊢
      exact here.append (more a t run (here.orderly orderly) earlier)

end BuildM

end ScopedHtml
