import ScopedHtml.Builder.Operation

/-!
# ScopedHtml.Proofs.Operations

What an operation on builders has done if it was not refused.

An operation asks what the class of a builder says, and refuses in many ways. What it does in the
end is one of very few things: an attribute is assigned, all attributes are replaced, a builder is
added, a finalized element is recorded. Each operation has one lemma here that says which. A proof
about what operations preserve takes them apart by these lemmas and asks of no class anything.

The same goes for what makes classes: what a drafted class has for members and ancestors, what an
opener of its body opens, what registering its openers assigns.
-/

namespace ScopedHtml

/-- What comes of a sequence has come through both its parts. -/
theorem ok_of_bind {α β : Type} {result : Except Fault α} {next : α → Except Fault β} {b : β}
    (done : (result >>= next) = .ok b) : ∃ a, result = .ok a ∧ next a = .ok b := by
  cases result with
  | error fault => cases done
  | ok a => exact ⟨a, rfl, done⟩

/-! ### Making classes -/

namespace ClassTable

variable {table after : ClassTable} {name : String} {id : ClassId} {opener : OpenerSpec}

theorem named_eq_ok : table.named name = .ok id ↔ table.names.find? name = some id := by
  unfold named
  cases table.names.find? name <;> simp

/-- What is opened early is the class that the name is bound to. -/
theorem find?_of_target (opens : table.target opener = .ok (.fixed id)) :
    table.names.find? opener.builder = some id := by
  unfold target at opens
  split at opens
  · cases opens
  · obtain ⟨found, named, opens⟩ := ok_of_bind opens
    cases opens
    exact named_eq_ok.1 named

theorem bindOpeners_cons_eq_ok {rest : List OpenerSpec} {before members : Bindings String Member}
    (bound : table.bindOpeners (opener :: rest) before = .ok members) :
    ∃ target, table.target opener = .ok target ∧
      table.bindOpeners rest (before.bind opener.name (.opener target opener.attachment)) =
        .ok members := by
  unfold bindOpeners at bound
  exact ok_of_bind bound

/-- A new class has the members of its body, perhaps with a description, and its ancestors
are checked. -/
theorem draft_eq_ok {bases : List ClassId} {body : ClassBody} {new : BuilderClass}
    (drafted : table.draft name bases body = .ok new) :
    table.checkedAncestors bases = .ok new.ancestors ∧
      ∃ members, table.bodyMembers body = .ok members ∧
        (new.members = members ∨
          members.find? docName = none ∧ new.members = members.bind docName (.data .null)) := by
  obtain ⟨members, all, drafted⟩ := ok_of_bind drafted
  obtain ⟨_, _, drafted⟩ := ok_of_bind drafted
  obtain ⟨line, checked, drafted⟩ := ok_of_bind drafted
  cases drafted
  refine ⟨checked, members, all, ?_⟩
  cases members.find? docName with
  | none => exact .inr ⟨rfl, rfl⟩
  | some _ => exact .inl rfl

/-- Registering the openers of a class assigns its register, which continues another, if there is
one to continue. -/
theorem registered_eq_map (table : ClassTable) (id : ClassId) :
    table.registered id =
      (table.inheritedRegistry (table.get id).ancestors).map fun inherited =>
        table.assign id registerName
          (.data (.tags (extendRegistry inherited (table.get id).members))) := by
  unfold registered
  dsimp only
  cases table.inheritedRegistry (table.get id).ancestors <;> rfl

theorem registered_eq_ok (registered : table.registered id = .ok after) :
    ∃ inherited, table.inheritedRegistry (table.get id).ancestors = .ok inherited ∧
      after = table.assign id registerName
        (.data (.tags (extendRegistry inherited (table.get id).members))) := by
  obtain ⟨inherited, found, done⟩ := ok_of_bind registered
  cases done
  exact ⟨inherited, found, rfl⟩

end ClassTable

/-! ### Attributes -/

namespace Store

variable {store after : Store} {b : BuilderRef} {name : String} {value : Value}

theorem set_eq_ok (done : store.set b name value = .ok after) :
    after = store.assign b name value ∨
      ∃ members, name = attributesName ∧ value = .record members ∧
        after = store.replace b ⟨members⟩ := by
  unfold set at done
  split at done
  · cases done
  · cases done
  · cases done
    exact .inl rfl
  · split at done
    · cases done
    · split at done
      · next all =>
          split at done
          · cases done
            exact .inr ⟨_, all, rfl, rfl⟩
          · cases done
      · cases done
        exact .inl rfl

/-- Assigning an attribute does nothing where the class forgets the value, and replaces all
attributes where all are assigned at once. -/
theorem write_eq_ok (done : store.write b name value = .ok after) :
    after = store ∨ after = store.assign b name value ∨
      ∃ members, name = attributesName ∧ value = .record members ∧
        after = store.replace b ⟨members⟩ := by
  unfold write at done
  split at done
  · exact .inr (set_eq_ok done)
  · cases done
    exact .inl rfl
  · cases done
  · cases done

theorem writeAll_cons_eq_ok {rest : List (String × Value)}
    (done : store.writeAll b ((name, value) :: rest) = .ok after) :
    ∃ next, store.write b name value = .ok next ∧ next.writeAll b rest = .ok after := by
  rw [writeAll] at done
  exact ok_of_bind done

/-- An attribute that is not computed is assigned, unless it is a special one. -/
theorem set_eq_assign (builder : store.foreign? b = none)
    (uncomputed : store.property? b name = none) (kind : name ≠ kindName)
    (all : name ≠ attributesName) (value : Value) :
    store.set b name value = .ok (store.assign b name value) := by
  unfold property? at uncomputed
  unfold set
  rw [builder]
  split
  · next impossible => cases impossible
  · next has =>
      rw [has] at uncomputed
      cases uncomputed
  · rfl
  · rw [if_neg kind, if_neg all]

/-- The same where the class has no member for assigning. -/
theorem write_eq_assign (builder : store.foreign? b = none) (ordinary : store.hook? b .write = none)
    (uncomputed : store.property? b name = none) (kind : name ≠ kindName)
    (all : name ≠ attributesName) (value : Value) :
    store.write b name value = .ok (store.assign b name value) := by
  unfold write
  rw [ordinary]
  exact set_eq_assign builder uncomputed kind all value

/-! ### New builders -/

/-- A bare instance is a new builder without attributes. -/
theorem createBare_eq_ok {id : ClassId} {options : Options}
    (created : store.createBare id options = .ok (b, after)) :
    b = ⟨store.builders.length⟩ ∧ after = (store.add { classId := id, held := .empty }).2 := by
  unfold createBare at created
  cases empty : options.isEmpty with
  | false =>
      rw [empty] at created
      cases created
  | true =>
      rw [empty] at created
      cases created
      exact ⟨rfl, rfl⟩

/-! ### Elements -/

theorem push_eq_ok {children : Found} (pushed : store.push b children value = .ok after) :
    ∃ items, children = .value (.list items) ∧
      after = store.assign b "_children" (.list (items ++ [value])) := by
  unfold push at pushed
  split at pushed
  · cases pushed
    exact ⟨_, rfl, rfl⟩
  · cases pushed

theorem record_eq_ok (recorded : store.record b value = .ok after) :
    ∃ node, value = .node node ∧
      after = store.logged (.finalized (store.className b) node.tag) := by
  unfold record at recorded
  split at recorded
  · cases recorded
    exact ⟨_, rfl, rfl⟩
  · cases recorded

/-! ### Openers called on a class -/

theorem onClasses_eq_ok {operation : ClassTable → Except Fault ClassTable}
    (done : store.onClasses operation = .ok after) :
    ∃ classes, operation store.classes = .ok classes ∧ after = { store with classes } := by
  obtain ⟨classes, result, done⟩ := ok_of_bind done
  cases done
  exact ⟨classes, result, rfl⟩

/-- A class keeps an element in a slot or not at all. Children it has none to put one behind. -/
theorem attach_eq_ok {id : ClassId} {element : String} {made : Value} {attachment : Attachment}
    (done : store.onClasses (·.attach id element made attachment) = .ok after) :
    after = store ∨
      after = { store with classes := store.classes.assign id (slotAttribute element) (.data made) } := by
  obtain ⟨classes, attached, rfl⟩ := onClasses_eq_ok done
  cases attachment with
  | discard =>
      cases attached
      exact .inl rfl
  | slot =>
      cases attached
      exact .inr rfl
  | append =>
      dsimp only [ClassTable.attach] at attached
      split at attached <;> cases attached

end Store

end ScopedHtml
