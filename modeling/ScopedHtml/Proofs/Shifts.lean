import Mathlib.Logic.Relation
import ScopedHtml.Proofs.Beside
import ScopedHtml.Proofs.Leads
import ScopedHtml.Proofs.Regular

/-!
# ScopedHtml.Proofs.Shifts

**What programs do to a store, change by change.** `Store.Shift` lists all that the operations of a
program do: attributes are assigned, builders and records are added, and classes are defined,
registered and given elements to keep. Every program is a row of such changes (`Store.Shifts`),
whatever classes have been defined: so say the lemmas of `Caller.Shifts`, one for each operation, and
`Caller.shifts_upTo` for calls of any depth.

Some builders may be watched. A program that is not called on one of them and is given no function
to run spares them: no change is one of theirs. What follows from a row of changes is read off the
single change: the store stays regular (`Store.Shifts.regular`), what there was of classes and
builders is still there (`Store.Shifts.leads`, `Store.Shifts.stays`), and the watched builders are
what they were (`Store.Shifts.spared`).
-/

namespace ScopedHtml

open Relation

/-! ### Regular stores -/

/-- A store with regular classes, whose builders are of classes that can be used. -/
structure Store.Regular (store : Store) : Prop where
  classes : store.classes.Regular
  builders : ∀ b, store.classes.Usable (store.get b).classId

/-- A small change of a store that spares the watched builders. -/
inductive Store.Shift (watched : BuilderRef → Prop) (before : Store) : Store → Prop
  | assigned {b : BuilderRef} (free : ¬ watched b) (name : String) (value : Value) :
      Shift watched before (before.assign b name value)
  | replaced {b : BuilderRef} (free : ¬ watched b) (held : Bindings String Value) :
      Shift watched before (before.replace b held)
  | added {builder : Builder} (usable : before.classes.Usable builder.classId) :
      Shift watched before (before.add builder).2
  | logged (event : Log.Event) : Shift watched before (before.logged event)
  | kept {id : ClassId} (further : Standard.classes.classes.length ≤ id.index) {element : String}
      (ofClass : element ∈ Hook.ofClass) (made : Value) :
      Shift watched before
        { before with classes := before.classes.assign id (slotAttribute element) (.data made) }
  | registered {id : ClassId} {classes : ClassTable}
      (inside : id.index < before.classes.classes.length) (heard : before.classes.Heard id)
      (done : before.classes.registered id = .ok classes) :
      Shift watched before { before with classes }
  | defined {new : BuilderClass} (ancestors : ∀ c ∈ new.ancestors, before.classes.Usable c)
      (listed : ∀ name member, new.members.find? name = some member →
        member.Listed before.classes)
      (unregistered : ∀ names, new.members.find? registerName ≠ some (.data (.tags names))) :
      Shift watched before { before with classes := (before.classes.push new).2 }
  | named (name : String) {id : ClassId} (usable : before.classes.Usable id) :
      Shift watched before { before with classes := before.classes.bindName name id }

/-- A row of small changes that spare the watched builders. -/
def Store.Shifts (watched : BuilderRef → Prop) (before after : Store) : Prop :=
  ReflTransGen (Store.Shift watched) before after

/-- A regular store in which the watched builders are there. -/
structure Store.Guards (store : Store) (watched : BuilderRef → Prop) : Prop
    extends store.Regular where
  inside : ∀ b, watched b → b.index < store.builders.length

namespace Store

variable {watched : BuilderRef → Prop} {store before after later : Store} {b : BuilderRef}

namespace Regular

theorem sound (regular : store.Regular) : store.Sound where
  library :=
    { length := regular.classes.length
      name := fun id inside => by rw [regular.classes.library id inside]
      ancestors := fun id inside => by rw [regular.classes.library id inside]
      members := fun id inside name _ => by rw [regular.classes.library id inside] }
  closed := regular.classes.closed

/-- The store at the start is regular. -/
theorem initial : Store.initial.Regular where
  classes := ClassTable.regular_standard
  builders := by
    intro b
    have none : Store.initial.get b = default := by simp [get, Store.initial]
    rw [none]
    exact ClassTable.regular_standard.usable_library (by decide)

end Regular

/-! ### One change -/

namespace Shift

theorem mono {others : BuilderRef → Prop} (shift : before.Shift watched after)
    (fewer : ∀ b, others b → watched b) : before.Shift others after := by
  cases shift with
  | assigned free name value => exact .assigned (fun other => free (fewer _ other)) name value
  | replaced free held => exact .replaced (fun other => free (fewer _ other)) held
  | added usable => exact .added usable
  | logged event => exact .logged event
  | kept further ofClass made => exact .kept further ofClass made
  | registered inside heard done => exact .registered inside heard done
  | defined ancestors listed unregistered => exact .defined ancestors listed unregistered
  | named name usable => exact .named name usable

/-- What happens to the classes. -/
theorem classes (shift : before.Shift watched after) (regular : before.classes.Regular) :
    after.classes.Regular ∧ before.classes.Stays after.classes := by
  cases shift with
  | assigned free name value => exact ⟨regular, .refl _⟩
  | replaced free held => exact ⟨regular, .refl _⟩
  | added usable => exact ⟨regular, .refl _⟩
  | logged event => exact ⟨regular, .refl _⟩
  | kept further ofClass made => exact regular.keep further ofClass made
  | registered inside heard done =>
      obtain ⟨still, stays, _⟩ := regular.register inside heard done
      exact ⟨still, stays⟩
  | defined ancestors listed unregistered =>
      exact ⟨regular.push ancestors listed unregistered, .push _ _⟩
  | named name usable => exact ⟨regular.bindName usable name, .bindName _ _ _⟩

theorem leads (shift : before.Shift watched after) (regular : before.Regular) :
    before.Leads after := by
  obtain ⟨still, stays⟩ := shift.classes regular.classes
  cases shift with
  | assigned free name value => exact .assign regular.sound _ name value
  | replaced free held => exact .replace regular.sound _ held
  | added usable => exact .add regular.sound _
  | logged event => exact .logged regular.sound event
  | kept further ofClass made => exact .onClasses regular.sound stays.kept still.closed
  | registered inside heard done => exact .onClasses regular.sound stays.kept still.closed
  | defined ancestors listed unregistered =>
      exact .onClasses regular.sound stays.kept still.closed
  | named name usable => exact .onClasses regular.sound stays.kept still.closed

/-- The builders of a store are of classes that can be used. -/
theorem regular (shift : before.Shift watched after) (regular : before.Regular) :
    after.Regular := by
  obtain ⟨still, stays⟩ := shift.classes regular.classes
  refine ⟨still, fun c => ?_⟩
  -- A builder is an old one, the new one, or none at all.
  have old : (after.get c).classId = (before.get c).classId →
      after.classes.Usable (after.get c).classId := by
    intro same
    rw [same]
    exact stays.usable regular.classes.closed (regular.builders c)
  cases shift with
  | assigned free name value => exact old (before.classId_assign _ c name value)
  | @replaced b free held =>
      refine old ?_
      by_cases same : c = b
      · subst same
        by_cases inside : c.index < before.builders.length
        · rw [get_replace_self inside]
        · simp [replace, get, List.getD_eq_getElem?_getD, inside]
      · rw [get_replace_of_ne before same]
  | @added builder usable =>
      by_cases inside : c.index < (before.add builder).2.builders.length
      · rcases add_cases builder inside with there | rfl
        · exact old (by rw [get_add_of_lt there])
        · rw [get_add_new]
          exact usable
      · refine old ?_
        rw [get_of_outside inside, get_of_outside fun there => inside ?_]
        rw [length_add]
        exact Nat.lt_succ_of_lt there
  | logged event => exact old rfl
  | kept further ofClass made => exact old rfl
  | registered inside heard done => exact old rfl
  | defined ancestors listed unregistered => exact old rfl
  | named name usable => exact old rfl

/-- A watched builder is spared. -/
theorem spared (shift : before.Shift watched after) (here : watched b)
    (inside : b.index < before.builders.length) : after.get b = before.get b := by
  have other : ∀ {c}, ¬ watched c → b ≠ c := fun free same => free (same ▸ here)
  cases shift with
  | assigned free name value => exact get_assign_of_ne before (other free) name value
  | replaced free held => exact get_replace_of_ne before (other free) held
  | added usable => exact get_add_of_lt inside _
  | _ => rfl

end Shift

/-! ### Many changes -/

namespace Shifts

theorem refl (store : Store) : store.Shifts watched store := ReflTransGen.refl

theorem one (shift : before.Shift watched after) : before.Shifts watched after :=
  ReflTransGen.single shift

theorem trans (first : before.Shifts watched after) (second : after.Shifts watched later) :
    before.Shifts watched later := ReflTransGen.trans first second

theorem mono {others : BuilderRef → Prop} (shifts : before.Shifts watched after)
    (fewer : ∀ b, others b → watched b) : before.Shifts others after := by
  induction shifts with
  | refl => exact refl _
  | tail _ shift ih => exact ih.trans (one (shift.mono fewer))

/-- What holds of a regular store that each change preserves. -/
theorem regular (shifts : before.Shifts watched after) (regular : before.Regular) :
    after.Regular := by
  induction shifts with
  | refl => exact regular
  | tail _ shift ih => exact shift.regular ih

theorem leads (shifts : before.Shifts watched after) (regular : before.Regular) :
    before.Leads after := by
  induction shifts with
  | refl => exact .refl regular.sound
  | tail earlier shift ih => exact ih.trans (shift.leads (Shifts.regular earlier regular))

theorem stays (shifts : before.Shifts watched after) (regular : before.Regular) :
    before.classes.Stays after.classes := by
  induction shifts with
  | refl => exact .refl _
  | tail earlier shift ih =>
      exact ih.trans regular.classes.closed
        (shift.classes (Shifts.regular earlier regular).classes).2

theorem guards (shifts : before.Shifts watched after) (guards : before.Guards watched) :
    after.Guards watched where
  toRegular := shifts.regular guards.toRegular
  inside := fun b here => Nat.lt_of_lt_of_le (guards.inside b here)
    (shifts.leads guards.toRegular).grown.length

theorem spared (shifts : before.Shifts watched after) (guards : before.Guards watched)
    (here : watched b) : after.get b = before.get b := by
  induction shifts with
  | refl => rfl
  | tail earlier shift ih =>
      have still := Shifts.guards earlier guards
      rw [shift.spared here (still.inside b here), ih]

end Shifts

end Store

end ScopedHtml
