import ScopedHtml.Proofs.Registers

/-!
# ScopedHtml.Proofs.Definitions

**What defining a class does.** A `Definition` is proper (`Definition.Proper`) if it has no more
than one base for builders and its functions stay clear of the names of the class of all
builders. What it drafts is calm (`Definition.Proper.draft_calm`): it does not interfere with
how new classes are told of and openers are listed. So a new class is registered once if it is one of
builders, and not at all otherwise (`Caller.announce_cases`), unless the definition fails.
-/

namespace ScopedHtml

open BuildM

variable {ρ : Type}

/-! ### Definitions -/

/-- What defines a class. -/
structure Definition where
  name : String
  /-- The names of the bases. -/
  bases : List String
  body : ClassBody

/-- The names under which a body has openers. -/
def ClassBody.decorated (body : ClassBody) : List String := body.openers.map OpenerSpec.name

/-- Defines the class. -/
def Definition.run (definition : Definition) : BuildM ρ ClassId :=
  define definition.name definition.bases definition.body

/-- A definition with no more than one base for builders, whose functions stand under names
that the class of all builders does not have and whose openers are no plain functions. -/
structure Definition.Proper (definition : Definition) (table : ClassTable) : Prop where
  single : ∀ ids, table.namedAll definition.bases = .ok ids → ∀ a ∈ ids, ∀ b ∈ ids,
    table.isBuilder a = true → table.isBuilder b = true → a = b
  own : ∀ name ∈ definition.body.decorated ++ definition.body.plain,
    Standard.builderBaseClass.members.find? name = none
  apart : ∀ name ∈ definition.body.decorated, name ∉ definition.body.plain

/-- What a class may have of its own under the names by which openers are registered and
listed: nothing, or an empty slot. -/
structure BuilderClass.Calm (owner : BuilderClass) : Prop where
  elements : owner.members.find? "elements" = none
  heir : ∀ member, owner.members.find? Hook.heir.name = some member → member = .data .null

/-! ### The members of a new class -/

namespace Definition.Proper

variable {definition : Definition} {table other : ClassTable} {bases : List ClassId}
  {new : BuilderClass} {name : String}

/-- Under a name that the class of all builders has, that of the required names apart, a
proper body has an empty slot or nothing. -/
theorem find?_own (proper : definition.Proper table) {members : Bindings String Member}
    (defined : other.bodyMembers definition.body = .ok members)
    (own : Standard.builderBaseClass.members.find? name ≠ none) (free : name ≠ "_required") :
    members.find? name = none ∨
      isPrivate name = true ∧ members.find? name = some (.data .null) := by
  obtain ⟨_, openers, bound, all⟩ := ClassTable.find?_of_bodyMembers defined
  have outside : name ∉ definition.body.decorated ∧ name ∉ definition.body.plain :=
    not_or.1 fun among => own (proper.own name (List.mem_append.2 among))
  rcases all name with ⟨_, _, required, _⟩ | found
  · exact absurd required free
  · rw [if_neg outside.2] at found
    split at found
    · next slot =>
        obtain ⟨slot, _, rfl⟩ := List.mem_map.1 slot
        exact .inr ⟨isPrivate_slotAttribute _, found⟩
    · rcases ClassTable.find?_of_bindOpeners name bound with ⟨there, _⟩ | ⟨_, absent⟩
      · exact absurd (List.mem_map.2 there) outside.1
      · exact .inl (found.trans absent)

/-- The openers of a proper body under names that are not private are what it decorates. -/
theorem find?_opener (proper : definition.Proper table) {members : Bindings String Member}
    (defined : other.bodyMembers definition.body = .ok members) (shown : isPrivate name = false) :
    (∃ target attachment, members.find? name = some (.opener target attachment)) ↔
      name ∈ definition.body.decorated := by
  obtain ⟨_, openers, bound, all⟩ := ClassTable.find?_of_bodyMembers defined
  rcases all name with ⟨_, _, rfl, _⟩ | found
  · cases shown
  · have slot : name ∉ definition.body.slots.map slotAttribute := fun among => by
      obtain ⟨slot, _, rfl⟩ := List.mem_map.1 among
      rw [isPrivate_slotAttribute] at shown
      cases shown
    rw [if_neg slot] at found
    rw [found]
    have opens := ClassTable.find?_of_bindOpeners name bound
    split
    · next plain =>
        -- A plain function is no opener, and a proper body does not decorate it.
        constructor
        · rintro ⟨_, _, ⟨⟩⟩
        · exact fun decorated => absurd plain (proper.apart name decorated)
    · rcases opens with ⟨there, opener⟩ | ⟨absent, none⟩
      · exact ⟨fun _ => List.mem_map.2 there, fun _ => opener⟩
      · rw [none]
        constructor
        · rintro ⟨_, _, ⟨⟩⟩
        · intro decorated
          obtain ⟨opener, among, same⟩ := List.mem_map.1 decorated
          exact absurd same (absent opener among)

/-- What has been drafted by a proper definition has one member a name; its openers under names
that are not private are what its body decorates. -/
theorem draft_openers (proper : definition.Proper table)
    (drafted : other.draft definition.name bases definition.body = .ok new) :
    new.members.Distinct ∧ ∀ name, isPrivate name = false →
      ((∃ target attachment, new.members.find? name = some (.opener target attachment)) ↔
        name ∈ definition.body.decorated) := by
  obtain ⟨_, members, defined, same⟩ := ClassTable.draft_eq_ok drafted
  have distinct := (ClassTable.find?_of_bodyMembers defined).1
  rcases same with same | ⟨_, same⟩
  · rw [same]
    exact ⟨distinct, fun name => proper.find?_opener defined⟩
  · rw [same]
    refine ⟨distinct.bind _ _, fun name shown => ?_⟩
    have other : name ≠ docName := by rintro rfl; cases shown
    rw [Bindings.find?_bind_of_ne members other]
    exact proper.find?_opener defined shown

/-- What has been drafted by a proper definition is calm, and has nothing of its own under the
name of the register but perhaps an empty slot. -/
theorem draft_calm (proper : definition.Proper table)
    (drafted : other.draft definition.name bases definition.body = .ok new) :
    new.Calm ∧ ∀ member, new.members.find? registerName = some member → member = .data .null := by
  obtain ⟨_, members, defined, same⟩ := ClassTable.draft_eq_ok drafted
  have slot : ∀ name, name ≠ docName → name ≠ "_required" →
      Standard.builderBaseClass.members.find? name ≠ none → ∀ member,
        new.members.find? name = some member → isPrivate name = true ∧ member = .data .null := by
    intro name other free own member found
    have kept : new.members.find? name = members.find? name := by
      rcases same with same | ⟨_, same⟩
      · rw [same]
      · rw [same, Bindings.find?_bind_of_ne _ other]
    rw [kept] at found
    rcases proper.find?_own defined own free with none | ⟨hidden, null⟩
    · cases none.symm.trans found
    · exact ⟨hidden, (Option.some.inj (null.symm.trans found)).symm⟩
  refine ⟨⟨?_, fun member found => ?_⟩, fun member found => ?_⟩
  · cases found : new.members.find? "elements" with
    | none => rfl
    | some member =>
        have hidden := (slot "elements" (by decide) (by decide) (by decide) member found).1
        exact absurd hidden (by decide)
  · exact (slot _ (by decide) (by decide) (by decide) member found).2
  · exact (slot _ (by decide) (by decide) (by decide) member found).2

end Definition.Proper

/-! ### Telling of a new class -/

namespace Caller

variable {s : Session ρ}

/-- Calm classes do not stop a new class from being registered once, unless they fail. -/
theorem announce_cases (call : Caller ρ) (id : ClassId) (row : List ClassId)
    (base : s.store.classes.get Standard.builderBase = Standard.builderBaseClass)
    (calm : ∀ c ∈ row, c ≠ Standard.builderBase → (s.store.classes.get c).Calm)
    (once : row.Nodup) :
    (∃ fault, call.announce id [] row s = .error fault s) ∨
      Standard.builderBase ∉ row ∧ call.announce id [] row s = .ok .null s ∨
      Standard.builderBase ∈ row ∧ ∃ classes, s.store.classes.registered id = .ok classes ∧
        call.announce id [] row s = .ok .null { s with store := { s.store with classes } } := by
  induction row with
  | nil => exact .inr (.inl ⟨List.not_mem_nil, rfl⟩)
  | cons next rest ih =>
      obtain ⟨new, once⟩ := List.nodup_cons.1 once
      have others := ih (fun c there => calm c (List.mem_cons_of_mem _ there)) once
      unfold announce
      rw [observe_bind]
      by_cases same : next = Standard.builderBase
      · subst same
        have heir : (s.store.classes.get Standard.builderBase).members.find? Hook.heir.name =
            some (.method .register) := by rw [base]; rfl
        rw [heir]
        dsimp only
        -- The classes behind are told first, and none of them registers anything.
        rcases others with ⟨fault, eq⟩ | ⟨_, eq⟩ | ⟨again, _⟩
        · exact .inl ⟨fault, bind_of_error (discard_eq_error.2 eq)⟩
        · rw [bind_of_ok (discard_of_ok eq)]
          cases registered : s.store.classes.registered id with
          | error fault =>
              have failed : (perform fun store => store.onClasses fun classes =>
                  classes.registered id : BuildM ρ Unit) s = .error fault s := by
                rw [perform_apply, Store.onClasses, registered]
                rfl
              exact .inl ⟨fault, bind_of_error failed⟩
          | ok classes =>
              have done : (perform fun store => store.onClasses fun classes =>
                  classes.registered id : BuildM ρ Unit) s =
                    .ok () { s with store := { s.store with classes } } := by
                rw [perform_apply, Store.onClasses, registered]
                rfl
              exact .inr (.inr ⟨List.mem_cons_self, classes, rfl, bind_of_ok done⟩)
        · exact absurd again new
      · cases heir : (s.store.classes.get next).members.find? Hook.heir.name with
        | none =>
            rcases others with failed | ⟨absent, eq⟩ | ⟨there, registered⟩
            · exact .inl failed
            · exact .inr (.inl ⟨fun among => (List.mem_cons.1 among).elim
                (fun eq => same eq.symm) absent, eq⟩)
            · exact .inr (.inr ⟨List.mem_cons_of_mem _ there, registered⟩)
        | some member =>
            rw [(calm next List.mem_cons_self same).heir member heir]
            exact .inl ⟨_, rfl⟩

end Caller

/-! ### What a definition does -/

/-- The session in which the classes are these. -/
def Session.onClasses (s : Session ρ) (classes : ClassTable) : Session ρ :=
  { s with store := { s.store with classes } }

/-- When a class has been told of, its name is bound unless it takes over what it cannot. -/
theorem Caller.bound_cases (s : Session ρ) (name : String) (id : ClassId) (bases : List ClassId) :
    let last : BuildM ρ ClassId := do
      if ← observe fun store => store.classes.isBuilder id then
        settle =<< observe fun store => store.classes.checkAbstract bases
      perform fun store => store.onClasses fun classes => .ok (classes.bindName name id)
      return id
    (∃ fault, last s = .error fault s) ∨
      last s = .ok id (s.onClasses (s.store.classes.bindName name id)) := by
  intro last
  show (∃ fault, (observe _ >>= _ : BuildM ρ ClassId) s = _) ∨
    (observe _ >>= _ : BuildM ρ ClassId) s = _
  rw [observe_bind]
  cases s.store.classes.isBuilder id with
  | false => exact .inr rfl
  | true =>
      cases abstract : s.store.classes.checkAbstract bases with
      | error fault =>
          have failed : (observe (fun store => store.classes.checkAbstract bases) >>= settle :
              BuildM ρ Unit) s = .error fault s := by rw [observe_bind, abstract]; rfl
          exact .inl ⟨fault, bind_of_error failed⟩
      | ok _ =>
          have done : (observe (fun store => store.classes.checkAbstract bases) >>= settle :
              BuildM ρ Unit) s = .ok () s := by rw [observe_bind, abstract]; rfl
          exact .inr (bind_of_ok done)

end ScopedHtml
