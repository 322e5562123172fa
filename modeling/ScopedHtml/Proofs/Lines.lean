import ScopedHtml.Proofs.Inheritance
import ScopedHtml.Proofs.Regular
import ScopedHtml.Proofs.Rules

/-!
# ScopedHtml.Proofs.Lines

**Lines stay nested.** The lines of classes are nested (`ClassTable.Lined`), a class has one member a
name, and values stand under private names only (`ClassTable.Nested`). Nothing that a program does can
change that: it is a rule (`Rule.nested`), so it holds after every script (`Script.nested_runTop`).
-/

namespace ScopedHtml

open BuildM

/-- Whether a member, if it is a value, stands under a private name. -/
def Member.isHidden (name : String) : Member → Bool
  | .data _ => isPrivate name
  | _ => true

namespace ClassTable

/-- Classes of which the lines are nested. A class has one member a name, and values stand under
private names only. -/
structure Nested (table : ClassTable) : Prop extends table.Lined where
  closed : table.Closed
  length : Standard.classes.classes.length ≤ table.classes.length
  distinct : ∀ id : ClassId, id.index < table.classes.length → (table.get id).members.Distinct
  hidden : ∀ id : ClassId, id.index < table.classes.length → ∀ name value,
    (table.get id).members.find? name = some (.data value) → isPrivate name = true

variable {table : ClassTable} {id : ClassId} {name : String}

/-! ### Changes -/

/-- A body puts values under private names only. -/
theorem hidden_of_bodyMembers {body : ClassBody} {members : Bindings String Member}
    (defined : table.bodyMembers body = .ok members) {value : Value}
    (found : members.find? name = some (.data value)) : isPrivate name = true := by
  obtain ⟨_, openers, bound, looked⟩ := find?_of_bodyMembers defined
  rcases looked name with ⟨_, _, rfl, _⟩ | looked
  · rfl
  · rw [looked] at found
    split at found
    · next slot =>
        obtain ⟨_, _, rfl⟩ := List.mem_map.1 slot
        exact isPrivate_slotAttribute _
    · split at found
      · cases found
      · rcases find?_of_bindOpeners name bound with ⟨_, _, _, opener⟩ | ⟨_, none⟩
        · cases found.symm.trans opener
        · cases found.symm.trans none

/-- A new class has one member a name, and values under private names only. -/
theorem hidden_of_draft {title : String} {bases : List ClassId} {body : ClassBody}
    {new : BuilderClass} (drafted : table.draft title bases body = .ok new) :
    new.members.Distinct ∧
      ∀ name value, new.members.find? name = some (.data value) → isPrivate name = true := by
  obtain ⟨_, members, defined, same | ⟨_, same⟩⟩ := draft_eq_ok drafted
  · rw [same]
    exact ⟨(find?_of_bodyMembers defined).1, fun _ _ => hidden_of_bodyMembers defined⟩
  · rw [same]
    refine ⟨(find?_of_bodyMembers defined).1.bind _ _, fun name value found => ?_⟩
    rcases Bindings.find?_bind_eq_some found with ⟨rfl, _⟩ | old
    · rfl
    · exact hidden_of_bodyMembers defined old

namespace Nested

/-- A value may be put under the private names that are loose. -/
theorem assign (nested : table.Nested) (id : ClassId) (loose : name ∈ looseNames)
    (shown : isPrivate name = true) (value : Value) :
    (table.assign id name (.data value)).Nested := by
  have kept := Kept.assign table id loose (.data value)
  have length := length_classes_assign table id name (.data value)
  constructor
  case toLined => exact nested.still nested.closed kept length
  case closed => exact nested.closed.assign id name _
  case length => exact length ▸ nested.length
  case distinct =>
    intro c inside
    rw [length] at inside
    rcases table.get_assign_cases id c name (.data value) with same | put
    · rw [same]
      exact nested.distinct c inside
    · rw [put]
      exact (nested.distinct c inside).bind _ _
  case hidden =>
    intro c inside other held found
    rw [length] at inside
    rcases table.get_assign_cases id c name (.data value) with same | put
    · rw [same] at found
      exact nested.hidden c inside other held found
    · rw [put] at found
      rcases Bindings.find?_bind_eq_some found with ⟨rfl, _⟩ | old
      · exact shown
      · exact nested.hidden c inside other held old

/-- The lines of the bases of a new class stand in that of the new class, and nothing stands there
twice. -/
theorem push (nested : table.Nested) {bases : List String} {ids : List ClassId} {title : String}
    {body : ClassBody} {new : BuilderClass} (named : table.namedAll bases = .ok ids)
    (drafted : table.draft title ids body = .ok new) : (table.push new).2.Nested := by
  have checked := (draft_eq_ok drafted).1
  obtain ⟨distinct, hidden⟩ := hidden_of_draft drafted
  have root : Standard.root.index < table.classes.length :=
    Nat.lt_of_lt_of_le (by decide) nested.length
  have direct := forall_directBases root (nested.closed.namedAll named)
  have ancestors := nested.closed.checkedAncestors root (nested.closed.namedAll named) checked
  have kept := Kept.push table new
  constructor
  case toLined =>
    exact nested.toLined.push nested.closed ancestors (nodup_ancestors checked)
      (nested.ancestors direct checked)
  case closed => exact nested.closed.push ancestors
  case length => exact Nat.le_trans nested.length kept.length
  case distinct =>
    intro id inside
    rcases push_cases new inside with old | rfl
    · rw [get_push_of_lt old]
      exact nested.distinct id old
    · rw [get_push_new]
      exact distinct
  case hidden =>
    intro id inside
    rcases push_cases new inside with old | rfl
    · rw [get_push_of_lt old]
      exact nested.hidden id old
    · rw [get_push_new]
      exact hidden

theorem bindName (nested : table.Nested) (name : String)
    (inside : id.index < table.classes.length) : (table.bindName name id).Nested where
  toLined := nested.still nested.closed (.bindName table name id) rfl
  closed := nested.closed.bindName name inside
  length := nested.length
  distinct := nested.distinct
  hidden := nested.hidden

end Nested

/-- The library's classes are nested. -/
theorem nested_standard : Standard.classes.Nested where
  toLined := lined_standard
  closed := closed_standard
  length := Nat.le_refl _
  distinct := by
    intro id inside
    refine forall_library ?_ ?_ ?_ ?_ ?_ ?_ ?_ inside <;>
      exact of_decide_eq_true (p := List.Nodup _) rfl
  hidden := by
    have all : ∀ c ∈ Standard.classes.classes, ∀ entry ∈ c.members.entries,
        entry.2.isHidden entry.1 = true := by decide
    exact fun id inside name value found =>
      all _ (Standard.get_mem inside) _ (Bindings.mem_of_findIn found)

end ClassTable

/-! ### Programs -/

/-- Nested classes stay nested, whatever is done. -/
def Rule.nested : Rule where
  good := fun store => store.classes.Nested
  leads := fun before after =>
    before.classes.classes.length ≤ after.classes.classes.length ∧ after.classes.Nested
  refl := fun nested => ⟨Nat.le_refl _, nested⟩
  trans := fun first second => ⟨Nat.le_trans first.1 second.1, second.2⟩
  still := And.right
  length := And.left
  assign := fun nested _ _ _ => ⟨Nat.le_refl _, nested⟩
  replace := fun nested _ _ => ⟨Nat.le_refl _, nested⟩
  add := fun nested _ => ⟨Nat.le_refl _, nested⟩
  logged := fun nested _ => ⟨Nat.le_refl _, nested⟩
  keep := fun nested id element ofClass made =>
    ⟨Nat.le_of_eq (ClassTable.length_classes_assign ..).symm,
      nested.assign id (List.mem_cons_of_mem _ (List.mem_map_of_mem ofClass))
        (isPrivate_slotAttribute element) made⟩
  register := by
    intro store nested id classes registered
    obtain ⟨_, _, rfl⟩ := ClassTable.registered_eq_ok registered
    exact ⟨Nat.le_of_eq (ClassTable.length_classes_assign ..).symm,
      nested.assign id (by decide) (by decide) _⟩
  push := fun nested _ _ _ _ _ named drafted =>
    ⟨(ClassTable.Kept.push _ _).length, nested.push named drafted⟩
  bindName := fun nested name _ inside => ⟨Nat.le_refl _, nested.bindName name inside⟩

/-- Whatever a script does, the lines of its classes are nested. -/
theorem Script.nested_runTop (steps : List Step) (position : Nat) :
    (left (runTop position steps) start).store.classes.Nested := by
  have obeys : (runTop position steps).Obeys Rule.nested start := obeys_runTop steps position start
  exact (obeys ClassTable.nested_standard).2

end ScopedHtml
