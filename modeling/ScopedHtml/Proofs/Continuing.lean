import ScopedHtml.Proofs.Lines
import ScopedHtml.Proofs.Shifts

/-!
# ScopedHtml.Proofs.Continuing

**Whose openers a register has.** Registering a class continues the register of the next class
behind it that has one, which continues another, and so on (`ClassTable.Continues`). So a register
has the openers of the classes whose registers it continues, and no others
(`ClassTable.Complete.mem_register`).

What a class has under a name is another matter: that is a question of its whole line, in which
there may be plain classes and builder classes that none of these registers is about. If of the
builder classes in a line each inherits from the next (`ClassTable.SingleFile`), then all of their
registers are continued (`ClassTable.Complete.continues`), and registers and look-up disagree only
about what plain functions replace (`ClassTable.Complete.opens_of_listed`) and plain classes open
(`ClassTable.Complete.listed_of_opens`). The library's classes are of this kind
(`ClassTable.Complete.singleFile_library`), and so is a class with one base for builders at most if
its bases are (`ClassTable.Complete.singleFile_push`).
-/

namespace ScopedHtml

open Relation

namespace ClassTable

/-- Registering a class continues the register of the next class behind it that has one. -/
def Next (table : ClassTable) (id next : ClassId) : Prop :=
  ∃ member, table.resolveAlong registerName (table.get id).ancestors = some (next, member)

/-- The register of a class continues that of another, in one step or several or none. -/
def Continues (table : ClassTable) : ClassId → ClassId → Prop := ReflTransGen table.Next

/-- A class has an opener of its own under a name. -/
def Opens (table : ClassTable) (id : ClassId) (name : String) : Prop :=
  ∃ target attachment, (table.get id).members.find? name = some (.opener target attachment)

/-- Of two builder classes in the line of a class one inherits from the other. -/
def SingleFile (table : ClassTable) (id : ClassId) : Prop :=
  ∀ c ∈ table.line id, ∀ d ∈ table.line id, table.isBuilder c = true → table.isBuilder d = true →
    c ∈ table.line d ∨ d ∈ table.line c

/-- The classes of a state in which only builder classes have registers. -/
structure Complete (table : ClassTable) : Prop extends table.Regular, table.Nested where
  builders : ∀ id, table.Registered id → table.isBuilder id = true

instance (table : ClassTable) (id : ClassId) : Decidable (table.SingleFile id) :=
  inferInstanceAs (Decidable (∀ c ∈ table.line id, ∀ d ∈ table.line id, _))

variable {table after : ClassTable} {id owner : ClassId} {name : String} {member : Member}
  {names : List String}

theorem registerNames_eq_ok (h : registerNames member = .ok names) :
    member = .data (.tags names) := by
  unfold registerNames at h
  split at h
  · cases h; rfl
  · cases h

theorem Registered.inside (registered : table.Registered id) : id.index < table.classes.length := by
  obtain ⟨names, found⟩ := registered
  exact inside_of_find? found

/-! ### Who is registered -/

/-- Only the class of all builders registers openers. -/
theorem Regular.eq_builderBase (regular : table.Regular)
    (inside : owner.index < table.classes.length)
    (registers : (table.get owner).members.find? Hook.heir.name = some (.method .register)) :
    owner = Standard.builderBase := by
  rcases regular.member inside registers with ⟨library, _⟩ | ⟨_, absurd⟩
  · rw [regular.library owner library] at registers
    revert registers
    refine forall_library ?_ ?_ ?_ ?_ ?_ ?_ ?_ library
    · exact fun _ => rfl
    all_goals exact nofun
  · exact absurd.elim

/-- A class hears of new classes if the class of all builders is the first in its line, or behind
it, to be told of them. -/
theorem Regular.heard_iff (regular : table.Regular) (inside : id.index < table.classes.length) :
    table.Heard id ↔
      table.resolve id Hook.heir.name = some (Standard.builderBase, .method .register) ∨
        table.resolveAlong Hook.heir.name (table.get id).ancestors =
          some (Standard.builderBase, .method .register) := by
  constructor
  · rintro (⟨owner, told⟩ | ⟨owner, told⟩)
    · obtain ⟨there, registers⟩ := resolveAlong_eq_some told
      cases regular.eq_builderBase (regular.closed.line inside owner there) registers
      exact .inl told
    · obtain ⟨there, registers⟩ := resolveAlong_eq_some told
      cases regular.eq_builderBase (regular.closed.ancestors id inside owner there) registers
      exact .inr told
  · exact Or.imp (fun told => ⟨_, told⟩) fun told => ⟨_, told⟩

theorem Regular.builder_of_heard (regular : table.Regular)
    (inside : id.index < table.classes.length) (heard : table.Heard id) : table.isBuilder id = true := by
  refine decide_eq_true ?_
  rcases (regular.heard_iff inside).1 heard with told | told
  · exact (resolveAlong_eq_some told).1
  · exact List.mem_cons_of_mem _ (resolveAlong_eq_some told).1

theorem Kept.isBuilder {before : ClassTable} (kept : before.Kept after)
    (inside : id.index < before.classes.length) : after.isBuilder id = before.isBuilder id := by
  unfold ClassTable.isBuilder inherits
  rw [kept.line inside]

end ClassTable

/-- If only builder classes have registers, a change does not give one to another class. -/
theorem Store.Shift.builders {watched : BuilderRef → Prop} {before after : Store}
    (shift : before.Shift watched after) (regular : before.classes.Regular)
    (only : ∀ id, before.classes.Registered id → before.classes.isBuilder id = true) {id : ClassId}
    (registered : after.classes.Registered id) : after.classes.isBuilder id = true := by
  have stays := (shift.classes regular).2
  -- A class that has been registered before is one of builders still.
  have old : before.classes.Registered id → after.classes.isBuilder id = true := fun registered =>
    (stays.kept.isBuilder registered.inside).trans (only id registered)
  obtain ⟨names, found⟩ := registered
  cases shift with
  | @kept other further element ofClass made =>
      rcases before.classes.get_assign_cases other id (slotAttribute element) (.data made) with
        same | put
      · rw [same] at found
        exact old ⟨names, found⟩
      · rw [put] at found
        rcases Bindings.find?_bind_eq_some found with ⟨same, _⟩ | found
        · have outside : registerName ∉ keptNames := by decide
          exact absurd (same ▸ List.mem_map_of_mem ofClass) outside
        · exact old ⟨names, found⟩
  | @registered other classes inside heard done =>
      obtain ⟨inherited, _, rfl⟩ := ClassTable.registered_eq_ok done
      by_cases same : id = other
      · subst same
        exact (stays.kept.isBuilder inside).trans (regular.builder_of_heard inside heard)
      · rw [ClassTable.get_assign_of_ne _ same] at found
        exact old ⟨names, found⟩
  | @defined new ancestors listed unregistered =>
      have inside := ClassTable.Registered.inside ⟨names, found⟩
      rcases ClassTable.push_cases new inside with last | rfl
      · rw [ClassTable.get_push_of_lt last] at found
        exact old ⟨names, found⟩
      · rw [ClassTable.get_push_new] at found
        exact absurd found (unregistered names)
  | _ => exact old ⟨names, found⟩

theorem Store.Shifts.builders {watched : BuilderRef → Prop} {before after : Store}
    (shifts : before.Shifts watched after) (regular : before.Regular)
    (only : ∀ id, before.classes.Registered id → before.classes.isBuilder id = true) :
    ∀ id, after.classes.Registered id → after.classes.isBuilder id = true := by
  induction shifts with
  | refl => exact only
  | tail earlier shift ih =>
      exact fun id => shift.builders (Shifts.regular earlier regular).classes ih

namespace ClassTable

variable {table : ClassTable} {id owner : ClassId} {name : String} {member : Member}
  {names : List String}

theorem builders_standard : ∀ id, Standard.classes.Registered id →
    Standard.classes.isBuilder id = true := by
  intro id registered
  have inside := registered.inside
  revert registered
  refine forall_library ?_ ?_ ?_ ?_ ?_ ?_ ?_ inside
  case refine_7 =>
    rintro ⟨names, found⟩
    cases found
  all_goals exact fun _ => rfl

namespace Complete

variable (complete : table.Complete)

include complete

/-! ### Continued registers -/

/-- A register continues one that is behind it. -/
theorem next (registered : table.Registered id) {next : ClassId} (follows : table.Next id next) :
    next ∈ (table.get id).ancestors ∧ table.Registered next := by
  obtain ⟨member, first⟩ := follows
  obtain ⟨names, found⟩ := registered
  obtain ⟨inherited, continued, _⟩ := complete.settled id names found
  obtain ⟨there, own⟩ := resolveAlong_eq_some first
  unfold inheritedRegistry at continued
  rw [first] at continued
  exact ⟨there, inherited, by rw [own, registerNames_eq_ok continued]⟩

theorem of_continues (registered : table.Registered id) (continues : table.Continues id owner) :
    owner ∈ table.line id ∧ table.Registered owner := by
  induction continues with
  | refl => exact ⟨List.mem_cons_self, registered⟩
  | @tail mid next _ follows ih =>
      obtain ⟨there, behind⟩ := complete.next ih.2 follows
      have part := complete.within id registered.inside mid ih.1
      exact ⟨part.subset (List.mem_cons_of_mem _ there), behind⟩

/-- A register has the names of the public openers of the classes whose registers it continues. -/
theorem mem_register
    (found : (table.get id).members.find? registerName = some (.data (.tags names))) :
    name ∈ names ↔ isPrivate name = false ∧
      ∃ owner, table.Continues id owner ∧ table.Opens owner name := by
  induction length : (table.line id).length using Nat.strongRecOn generalizing id names with
  | ind length ih =>
    subst length
    have inside : id.index < table.classes.length := Registered.inside ⟨names, found⟩
    obtain ⟨inherited, continued, rfl⟩ := complete.settled id names found
    rw [mem_extendRegistry (complete.distinct id inside)]
    -- What is inherited is what the next register has.
    have behind : name ∈ inherited ↔ isPrivate name = false ∧
        ∃ next owner, table.Next id next ∧ table.Continues next owner ∧ table.Opens owner name := by
      unfold inheritedRegistry at continued
      cases first : table.resolveAlong registerName (table.get id).ancestors with
      | none =>
          rw [first] at continued
          cases continued
          refine ⟨nofun, ?_⟩
          rintro ⟨_, next, _, ⟨member, follows⟩, _⟩
          cases first.symm.trans follows
      | some origin =>
          obtain ⟨next, member⟩ := origin
          rw [first] at continued
          obtain ⟨there, own⟩ := resolveAlong_eq_some first
          rw [registerNames_eq_ok continued] at own
          rw [ih _ (complete.shorter inside there) own rfl]
          refine and_congr_right fun _ => ⟨?_, ?_⟩
          · rintro ⟨owner, continues, opens⟩
            exact ⟨next, owner, ⟨member, first⟩, continues, opens⟩
          · rintro ⟨other, owner, ⟨_, follows⟩, continues, opens⟩
            cases first.symm.trans follows
            exact ⟨owner, continues, opens⟩
    constructor
    · rintro (among | ⟨shown, opens⟩)
      · obtain ⟨shown, next, owner, follows, continues, opens⟩ := behind.1 among
        exact ⟨shown, owner, .head follows continues, opens⟩
      · exact ⟨shown, id, .refl, opens⟩
    · rintro ⟨shown, owner, continues, opens⟩
      rcases continues.cases_head with rfl | ⟨next, follows, continues⟩
      · exact .inr ⟨shown, opens⟩
      · exact .inl (behind.2 ⟨shown, next, owner, follows, continues, opens⟩)

/-! ### Single file -/

/-- In the line of a class that has heard of new classes all builder classes have. -/
theorem heard_behind (inside : id.index < table.classes.length) (heard : table.Heard id)
    (there : owner ∈ table.line id) (builder : table.isBuilder owner = true) :
    table.Heard owner := by
  have base : Standard.builderBase ∈ table.line owner := of_decide_eq_true builder
  have once := complete.once id inside
  rcases (complete.heard_iff inside).1 heard with told | told
  · exact .inl ⟨_, resolveAlong_of_sublist (complete.within id inside owner there) once told base⟩
  · rcases List.mem_cons.1 there with rfl | there
    · exact heard
    · exact .inl ⟨_, resolveAlong_of_sublist (complete.behind inside there)
        (List.nodup_cons.1 once).2 told base⟩

theorem singleFile_behind (inside : id.index < table.classes.length) (single : table.SingleFile id)
    (there : owner ∈ table.line id) : table.SingleFile owner := by
  have part := complete.within id inside owner there
  exact fun c first d second => single c (part.subset first) d (part.subset second)

/-- Where builder classes stand in single file, the registers of all of them are continued. -/
theorem continues (usable : table.Usable id) (heard : table.Heard id) (single : table.SingleFile id)
    (there : owner ∈ table.line id) (builder : table.isBuilder owner = true) :
    table.Continues id owner := by
  induction length : (table.line id).length using Nat.strongRecOn generalizing id with
  | ind length ih =>
    subst length
    rcases List.mem_cons.1 there with rfl | behind
    · exact .refl
    -- The class has a register, so there is a next one.
    have inside := usable.inside
    have registered : ∀ c ∈ table.line id, table.isBuilder c = true → table.Registered c :=
      fun c along builder => complete.registered_of_heard (complete.line usable c along)
        (complete.heard_behind inside heard along builder)
    obtain ⟨names, own⟩ := registered owner there builder
    obtain ⟨⟨next, member⟩, first⟩ :=
      Option.ne_none_iff_exists'.1 (resolveAlong_ne_none behind own)
    have follows : table.Next id next := ⟨member, first⟩
    obtain ⟨ahead, listed⟩ :=
      complete.next (complete.registered_of_heard usable heard) follows
    have along := List.mem_cons_of_mem id ahead
    have alike := complete.builders next listed
    rcases single owner there next along builder alike with further | early
    · exact .head follows (ih _ (complete.shorter inside ahead) (complete.line usable next along)
        (complete.heard_behind inside heard along alike)
        (complete.singleFile_behind inside single along) further rfl)
    · -- The next class stands behind this one, which has a register itself.
      have found := resolveAlong_of_sublist (complete.behind inside behind)
        (List.nodup_cons.1 (complete.once id inside)).2 first early
      cases (resolve_of_own own).symm.trans found
      exact .head follows .refl

omit complete in
/-- What the library's classes open they open still where one inherits from another. -/
theorem isOpener_of_library {c d : ClassId} (inside : c.index < Standard.classes.classes.length)
    (there : d ∈ Standard.classes.line c) (opens : Standard.classes.Opens d name)
    (found : (Standard.classes.get c).members.find? name = some member) :
    member.isOpener = true := by
  have all : ∀ d ∈ Standard.classes.line c, ∀ opener ∈ (Standard.classes.get d).members.entries,
      opener.2.isOpener = true → ∀ entry ∈ (Standard.classes.get c).members.entries,
        entry.1 = opener.1 → entry.2.isOpener = true := by
    refine forall_library ?_ ?_ ?_ ?_ ?_ ?_ ?_ inside <;> decide
  obtain ⟨target, attachment, opens⟩ := opens
  exact all d there _ (Bindings.mem_of_findIn opens) rfl _ (Bindings.mem_of_findIn found) rfl

/-- Where builder classes stand in single file, only plain functions replace what is listed. -/
theorem opener_or_plain (usable : table.Usable id) (registered : table.Registered id)
    (single : table.SingleFile id) (shown : isPrivate name = false) {c : ClassId}
    (continues : table.Continues id c) (opens : table.Opens c name)
    (found : table.resolve id name = some (owner, member)) :
    member.isOpener = true ∨ member = .plain := by
  obtain ⟨there, has⟩ := resolveAlong_eq_some found
  have inside := complete.closed.line usable.inside owner there
  by_cases library : owner.index < Standard.classes.classes.length
  · -- A class of the library inherits from what it replaces, or the other way round.
    obtain ⟨along, listed⟩ := complete.of_continues registered continues
    have builder : table.Registered owner := by
      refine complete.library.registered library ?_
      rintro rfl
      rw [complete.library _ library] at has
      cases has
    have same := complete.library owner library
    rcases single owner there c along (complete.builders _ builder)
      (complete.builders _ listed) with early | behind
    · obtain ⟨target, attachment, opens⟩ := opens
      have first := resolveAlong_of_sublist (complete.within id usable.inside c along)
        (complete.once id usable.inside) found early
      cases (resolve_of_own opens).symm.trans first
      exact .inl rfl
    · unfold ClassTable.line at behind
      rw [same] at behind
      have within := line_of_library owner.index library c behind
      unfold Opens at opens
      rw [complete.library c within] at opens
      rw [same] at has
      exact .inl (isOpener_of_library library behind opens has)
  · have listed := complete.listed owner (Nat.le_of_not_lt library) inside name member has
    cases member with
    | opener target attachment => exact .inl rfl
    | plain => exact .inr rfl
    | data value =>
        rw [complete.hidden owner inside name value has] at shown
        cases shown
    | _ => exact listed.elim

/-- **What is listed can be opened.** Where builder classes stand in single file, a class has an
opener under every name in its register, unless it has there a plain function. -/
theorem opens_of_listed (usable : table.Usable id) (single : table.SingleFile id)
    (register : (table.get id).members.find? registerName = some (.data (.tags names)))
    (listed : name ∈ names) (unreplaced : ∀ owner, table.resolve id name ≠ some (owner, .plain)) :
    ∃ owner target attachment, table.resolve id name = some (owner, .opener target attachment) := by
  have registered : table.Registered id := ⟨names, register⟩
  obtain ⟨shown, c, continues, opens⟩ := (complete.mem_register register).1 listed
  have there := (complete.of_continues registered continues).1
  obtain ⟨target, attachment, opener⟩ := opens
  obtain ⟨⟨owner, member⟩, found⟩ :=
    Option.ne_none_iff_exists'.1 (resolveAlong_ne_none there opener)
  rcases complete.opener_or_plain usable registered single shown continues
    ⟨target, attachment, opener⟩ found with opens | rfl
  · cases member with
    | opener target attachment => exact ⟨owner, target, attachment, found⟩
    | _ => cases opens
  · exact absurd found (unreplaced owner)

/-- **What builder classes open is listed.** Where they stand in single file, the register of a
class has every public name under which it has an opener, unless that is one of a plain class. -/
theorem listed_of_opens (usable : table.Usable id) (heard : table.Heard id)
    (single : table.SingleFile id)
    (register : (table.get id).members.find? registerName = some (.data (.tags names)))
    (shown : isPrivate name = false) {target : Target} {attachment : Attachment}
    (found : table.resolve id name = some (owner, .opener target attachment))
    (builder : table.isBuilder owner = true) : name ∈ names := by
  obtain ⟨there, has⟩ := resolveAlong_eq_some found
  exact (complete.mem_register register).2
    ⟨shown, owner, complete.continues usable heard single there builder, target, attachment, has⟩

end Complete

end ClassTable

end ScopedHtml
