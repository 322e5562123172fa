import ScopedHtml.Proofs.Inheritance
import ScopedHtml.Proofs.Leads

/-!
# ScopedHtml.Proofs.Orderly

**Classes that leave the library's names alone.** Custom classes may have openers, plain
functions, slots and lists of required names. They are orderly if none of these stands under
a name by which builders are worked (`reservedNames`); names of what the library's builders
show and keep besides, as `div` or `_title`, may be used again.

* `ClassTable.Orderly` — the library's classes are as they are at the start and the others
  orderly. Every such class can be read and is finalized in the ordinary way;
* `Store.Orderly` — besides, every builder of the store is in order (`Store.InOrder`):
  it says whether it is finalized, and keeps its children, if any, in a list;
* `Store.Orderly.quiet_glimpse` and its like — asking such builders changes nothing.
-/

namespace ScopedHtml

open BuildM

/-! ### Names and members -/

/-- The names of what makes a builder work, the list of its required names apart. -/
def solidNames : List String :=
  workingNames ++ [Hook.heir.name, "is_finalized", "_make_node", "_children"]

/-- The names that further classes may not use. -/
def reservedNames : List String := "_required" :: solidNames

/-- What a further class may have under a name, in a table with so many classes: an opener, of
which not even the slot has a reserved name, a function or a value under a free name, or a
list of required names. -/
def Member.Orderly (size : Nat) (name : String) : Member → Prop
  | .opener target attachment =>
      name ∉ reservedNames ∧ (attachment = .slot → slotAttribute name ∉ reservedNames) ∧
        ∀ id, target = .fixed id → id.index < size
  | .plain => name ∉ reservedNames
  | .data value => name ∉ reservedNames ∨ name = "_required" ∧ ∃ names, value = .ofNames names
  | _ => False

theorem Member.Orderly.mono {size more : Nat} {name : String} {member : Member}
    (orderly : member.Orderly size name) (grown : size ≤ more) : member.Orderly more name := by
  cases member with
  | opener target attachment =>
      obtain ⟨free, slot, there⟩ := orderly
      exact ⟨free, slot, fun id fixed => Nat.lt_of_lt_of_le (there id fixed) grown⟩
  | _ => exact orderly

/-- Under a reserved name there can only be a list of required names. -/
theorem Member.Orderly.of_reserved {size : Nat} {name : String} {member : Member}
    (orderly : member.Orderly size name) (reserved : name ∈ reservedNames) :
    name = "_required" ∧ ∃ names, member = .data (.ofNames names) := by
  cases member with
  | opener target attachment => exact absurd reserved orderly.1
  | plain => exact absurd reserved orderly
  | data value =>
      rcases orderly with free | ⟨required, names, rfl⟩
      · exact absurd reserved free
      · exact ⟨required, names, rfl⟩
  | _ => exact orderly.elim

/-! ### Classes -/

/-- What a class has is what it has at the start, if it is one of the library's, and orderly
otherwise. Values may have been added to all classes under free names. -/
def ClassTable.Orderly (table : ClassTable) : Prop :=
  ∀ id : ClassId, id.index < table.classes.length → ∀ name member,
    (table.get id).members.find? name = some member →
      if id.index < Standard.classes.classes.length then
        (Standard.classes.get id).members.find? name = some member ∨
          name ∉ reservedNames ∧ ∃ value, member = .data value
      else member.Orderly table.classes.length name

namespace ClassTable

variable {table : ClassTable} {id : ClassId} {name : String}

theorem orderly_standard : Standard.classes.Orderly := by
  intro id inside name member found
  rw [if_pos inside]
  exact .inl found

namespace Orderly

/-- A further class may be added if its members are orderly. -/
theorem push (orderly : table.Orderly) {new : BuilderClass}
    (library : Standard.classes.classes.length ≤ table.classes.length)
    (members : ∀ name member, new.members.find? name = some member →
      member.Orderly table.classes.length name) : (table.push new).2.Orderly := by
  intro id inside name member found
  rw [length_push]
  rcases push_cases new inside with old | rfl
  · rw [get_push_of_lt old] at found
    have before := orderly id old name member found
    split at before
    · next standard => rwa [if_pos standard]
    · next further =>
        rw [if_neg further]
        exact before.mono (Nat.le_succ _)
  · rw [get_push_new] at found
    have further : ¬ (table.push new).1.index < Standard.classes.classes.length :=
      Nat.not_lt.2 library
    rw [if_neg further]
    exact (members name member found).mono (Nat.le_succ _)

/-- A class may be given a value under a free name. -/
theorem assign (orderly : table.Orderly) (id : ClassId) {name : String}
    (free : name ∉ reservedNames) (value : Value) :
    (table.assign id name (.data value)).Orderly := by
  intro other inside known member found
  rw [length_classes_assign] at inside ⊢
  rcases table.get_assign_cases id other name (.data value) with eq | eq
  · rw [eq] at found
    exact orderly other inside known member found
  · rw [eq] at found
    rcases Bindings.find?_bind_eq_some found with ⟨rfl, rfl⟩ | found
    · split
      · exact .inr ⟨free, value, rfl⟩
      · exact .inl free
    · exact orderly other inside known member found

/-- The member that a class has comes from a class in its line. It is one of the library's and
has had it from the start, or the member is a value or that of a further class. -/
theorem resolve_cases (orderly : table.Orderly) (closed : table.Closed)
    (inside : id.index < table.classes.length) {owner : ClassId} {member : Member}
    (resolved : table.resolve id name = some (owner, member)) :
    (owner ∈ table.line id ∧ owner.index < Standard.classes.classes.length ∧
      (Standard.classes.get owner).members.find? name = some member) ∨
        (name ∉ reservedNames ∧ ∃ value, member = .data value) ∨
        owner ∈ table.line id ∧ Standard.classes.classes.length ≤ owner.index ∧
          member.Orderly table.classes.length name := by
  obtain ⟨behind, found⟩ := resolveAlong_eq_some resolved
  have there := closed.line inside owner behind
  have cases := orderly owner there name member found
  split at cases
  · next standard =>
      rcases cases with found | data
      · exact .inl ⟨behind, standard, found⟩
      · exact .inr (.inl data)
  · next further => exact .inr (.inr ⟨behind, Nat.not_lt.1 further, cases⟩)

/-- Under a solid name there is only what the library's classes have. -/
theorem library_of_solid (orderly : table.Orderly) (closed : table.Closed)
    (inside : id.index < table.classes.length) (solid : name ∈ solidNames) {owner : ClassId}
    {member : Member} (resolved : table.resolve id name = some (owner, member)) :
    owner ∈ table.line id ∧ owner.index < Standard.classes.classes.length ∧
      (Standard.classes.get owner).members.find? name = some member := by
  have reserved : name ∈ reservedNames := List.mem_cons_of_mem _ solid
  rcases orderly.resolve_cases closed inside resolved with
    library | ⟨free, _⟩ | ⟨_, _, member⟩
  · exact library
  · exact absurd reserved free
  · obtain ⟨rfl, _⟩ := member.of_reserved reserved
    exact absurd solid (by decide)

theorem clear (orderly : table.Orderly) (closed : table.Closed)
    (inside : id.index < table.classes.length) : table.ClearOf id solidNames := by
  intro c behind name solid member found
  have there := closed.line inside c behind
  have reserved : name ∈ reservedNames := List.mem_cons_of_mem _ solid
  have cases := orderly c there name member found
  split at cases
  · next standard =>
      rcases cases with found | ⟨free, _⟩
      · exact ⟨_, Standard.get_mem standard, found⟩
      · exact absurd reserved free
  · obtain ⟨rfl, _⟩ := cases.of_reserved reserved
    exact absurd solid (by decide)

/-- A builder class keeps clear of the solid names. -/
theorem keepsClear (orderly : table.Orderly) (closed : table.Closed)
    (library : Standard.classes.Kept table) (inside : id.index < table.classes.length)
    (builder : Standard.builderBase ∈ table.line id) : table.KeepsClear id solidNames where
  builder := builder
  base := by
    intro name solid
    have tight : name ∉ looseNames := by
      revert name
      decide
    exact library.members Standard.builderBase (by decide) name tight
  clear := orderly.clear closed inside

/-- What is neither an opener nor a function nor a value has always been there. -/
theorem exists_entry (orderly : table.Orderly) (closed : table.Closed)
    (inside : id.index < table.classes.length) {owner : ClassId} {member : Member}
    (resolved : table.resolve id name = some (owner, member))
    (other : ∀ size, ¬ member.Orderly size name) (data : ∀ value, member ≠ .data value) :
    ∃ c ∈ Standard.classes.classes, (name, member) ∈ c.members.entries := by
  rcases orderly.resolve_cases closed inside resolved with
    ⟨_, standard, found⟩ | ⟨_, value, rfl⟩ | ⟨_, _, member⟩
  · exact ⟨_, Standard.get_mem standard, Bindings.mem_of_findIn found⟩
  · exact absurd rfl (data value)
  · exact absurd member (other _)

/-- Only two names are computed. -/
theorem computed_cases (orderly : table.Orderly) (closed : table.Closed)
    (inside : id.index < table.classes.length) {owner : ClassId} {property : Property}
    (resolved : table.resolve id name = some (owner, .property property)) :
    name = "is_finalized" ∧ property = .isFinalized ∨ name = "children" ∧ property = .children := by
  obtain ⟨c, among, entry⟩ := orderly.exists_entry closed inside resolved (fun _ impossible => impossible)
    (by simp)
  revert c
  rw [Standard.forall_classes]
  simp [Standard.builderBaseClass, Standard.flowBuilderClass, Standard.documentBuilderClass,
    Standard.headBuilderClass, Standard.bodyBuilderClass, Standard.divBuilderClass,
    Standard.rootClass, Bindings.empty]
  exact ⟨fun named is => .inl ⟨named, is⟩, fun named is => .inr ⟨named, is⟩⟩

/-- A builder class is ordinary. -/
theorem ordinary (orderly : table.Orderly) (closed : table.Closed)
    (library : Standard.classes.Kept table) (inside : id.index < table.classes.length)
    (builder : Standard.builderBase ∈ table.line id) : table.Ordinary id := by
  have keeps := orderly.keepsClear closed library inside builder
  have working : ∀ name ∈ workingNames, name ∈ solidNames := fun name among =>
    List.mem_append_left _ among
  refine KeepsClear.ordinary
    ⟨keeps.builder, fun name among => keeps.base name (working name among),
      fun c behind name among => keeps.clear c behind name (working name among)⟩ ?_
  intro name own owner property resolved
  rcases orderly.computed_cases closed inside resolved with ⟨rfl, _⟩ | ⟨rfl, _⟩ <;>
    exact absurd own (by decide)

/-- What is required of a builder is a list of names. -/
theorem required (orderly : table.Orderly) (closed : table.Closed)
    (library : Standard.classes.Kept table) (inside : id.index < table.classes.length)
    (builder : Standard.builderBase ∈ table.line id) :
    ∃ owner names, table.resolve id "_required" = some (owner, .data (.ofNames names)) := by
  have found : (table.get Standard.builderBase).members.find? "_required" =
      some (.data (.ofNames [])) :=
    (library.members Standard.builderBase (by decide) "_required" (by decide)).trans rfl
  obtain ⟨⟨owner, member⟩, resolved⟩ :=
    Option.ne_none_iff_exists'.1 (resolveAlong_ne_none builder found)
  have resolved : table.resolve id "_required" = some (owner, member) := resolved
  rcases orderly.resolve_cases closed inside resolved with
    ⟨_, standard, found⟩ | ⟨free, _⟩ | ⟨_, _, member⟩
  · have all : ∀ c ∈ Standard.classes.classes, ∀ member,
        c.members.find? "_required" = some member → ∃ names, member = .data (.ofNames names) := by
      rw [Standard.forall_classes]
      refine ⟨?_, ?_, ?_, ?_, ?_, ?_, ?_⟩ <;> intro member h <;> cases h <;> exact ⟨_, rfl⟩
    obtain ⟨names, rfl⟩ := all _ (Standard.get_mem standard) member found
    exact ⟨owner, names, resolved⟩
  · exact absurd (List.mem_cons_self ..) free
  · obtain ⟨_, names, rfl⟩ := member.of_reserved (List.mem_cons_self ..)
    exact ⟨owner, names, resolved⟩

end Orderly

end ClassTable

/-! ### Builders in order -/

/-- A builder that the library works: it says whether it is finalized, keeps its children in a
list and has nothing of its own in the place of what it requires and makes. -/
structure Store.InOrder (store : Store) (b : BuilderRef) : Prop where
  there : (store.get b).classId.index < store.classes.classes.length
  genuine : store.foreign? b = none
  maker : store.isOf b Standard.builderBase →
    ∃ owner product, store.member? b "_make_node" = some (owner, .maker (some product))
  flag : store.isOf b Standard.builderBase →
    ∃ finalized, store.held? b "_finalized" = some (.bool finalized)
  required : store.held? b "_required" = none
  making : store.held? b "_make_node" = none
  children : ∀ value, store.held? b "_children" = some value → ∃ items, value = .list items

/-- A store with orderly classes, of which the lines are nested and all builders are in order. -/
structure Store.Orderly (store : Store) : Prop where
  sound : store.Sound
  lines : store.classes.Lined
  classes : store.classes.Orderly
  builders : ∀ b : BuilderRef, b.index < store.builders.length → store.InOrder b

namespace Store

variable {store : Store} {b : BuilderRef} {name : String}

theorem orderly_initial : Store.initial.Orderly where
  sound := sound_initial
  lines := ClassTable.lined_standard
  classes := ClassTable.orderly_standard
  builders := fun b inside => absurd inside (Nat.not_lt_zero b.index)

theorem isOf_builderBase :
    store.isOf b Standard.builderBase = true ↔
      Standard.builderBase ∈ store.classes.line (store.get b).classId := by
  simp [isOf, ClassTable.inherits]

namespace Orderly

variable (orderly : store.Orderly)

include orderly

theorem there (b : BuilderRef) :
    (store.get b).classId.index < store.classes.classes.length := by
  by_cases inside : b.index < store.builders.length
  · exact (orderly.builders b inside).there
  · rw [get_of_outside inside]
    exact orderly.sound.inside (by decide : Standard.builderBase.index < _)

theorem genuine (b : BuilderRef) : store.foreign? b = none := by
  by_cases inside : b.index < store.builders.length
  · exact (orderly.builders b inside).genuine
  · exact foreign?_of_get (get_of_outside inside)

/-- The class of a builder is ordinary. -/
theorem ordinary_class (builder : store.isOf b Standard.builderBase) :
    store.classes.Ordinary (store.get b).classId :=
  orderly.classes.ordinary orderly.sound.closed orderly.sound.library (orderly.there b)
    (isOf_builderBase.1 builder)

/-- A builder is ordinary. -/
theorem ordinary (inside : b.index < store.builders.length)
    (builder : store.isOf b Standard.builderBase) : store.Ordinary b :=
  ⟨orderly.genuine b, orderly.ordinary_class builder, (orderly.builders b inside).maker builder⟩

/-- A solid name that no class of the library has is not there. -/
theorem member?_eq_none (solid : name ∈ solidNames)
    (absent : ∀ c ∈ Standard.classes.classes, c.members.find? name = none) (b : BuilderRef) :
    store.member? b name = none :=
  (orderly.classes.clear orderly.sound.closed (orderly.there b)).resolve_eq_none solid absent

/-- What has a solid name that only the class of all builders has is a builder. -/
theorem isOf_of_member? {origin : ClassId × Member} (solid : name ∈ solidNames)
    (others : ∀ c ∈ Standard.classes.classes.tail, c.members.find? name = none)
    (member : store.member? b name = some origin) : store.isOf b Standard.builderBase := by
  obtain ⟨owner, called⟩ := origin
  obtain ⟨behind, standard, found⟩ :=
    orderly.classes.library_of_solid orderly.sound.closed (orderly.there b) solid member
  refine isOf_builderBase.2 ?_
  have base : owner = Standard.builderBase := by
    obtain ⟨index⟩ := owner
    cases index with
    | zero => rfl
    | succ index =>
        -- Every other class of the library is without the name.
        have tail : Standard.classes.get ⟨index + 1⟩ ∈ Standard.classes.classes.tail := by
          have get : Standard.classes.get ⟨index + 1⟩ =
              Standard.classes.classes.tail.getD index default := List.getD_cons_succ
          have inside : index < Standard.classes.classes.tail.length := by
            rw [List.length_tail]
            exact Nat.lt_sub_of_add_lt standard
          rw [get, List.getD_eq_getElem?_getD, List.getElem?_eq_getElem inside]
          exact List.getElem_mem inside
        rw [others _ tail] at found
        cases found
  rw [← base]
  exact behind

theorem member?_of_other (solid : name ∈ solidNames)
    (others : ∀ c ∈ Standard.classes.classes.tail, c.members.find? name = none)
    (other : ¬ store.isOf b Standard.builderBase) : store.member? b name = none := by
  cases member : store.member? b name with
  | none => rfl
  | some origin => exact absurd (orderly.isOf_of_member? solid others member) other

theorem hook?_read (b : BuilderRef) : store.hook? b .read = none :=
  orderly.member?_eq_none (by decide) (by rw [Standard.forall_classes]; decide) b

theorem hook?_write (b : BuilderRef) : store.hook? b .write = none :=
  orderly.member?_eq_none (by decide) (by rw [Standard.forall_classes]; decide) b

/-- Everything can be read. -/
theorem readable (b : BuilderRef) : store.Readable b where
  read := orderly.hook?_read b
  unknown := by
    cases unknown : store.hook? b .unknown with
    | none => exact .inl rfl
    | some origin =>
        have builder : store.isOf b Standard.builderBase :=
          orderly.isOf_of_member? (by decide) (by decide) unknown
        exact .inr (orderly.ordinary_class builder).toReadsPlainly

/-- Only two names are computed. -/
theorem property?_cases {property : Property} (computed : store.property? b name = some property) :
    name = "is_finalized" ∧ property = .isFinalized ∨ name = "children" ∧ property = .children := by
  unfold Store.property? at computed
  split at computed
  · next owner found member =>
      cases computed
      exact orderly.classes.computed_cases orderly.sound.closed (orderly.there b) member
  · cases computed

theorem property?_private (private_ : isPrivate name = true) : store.property? b name = none := by
  cases computed : store.property? b name with
  | none => rfl
  | some property =>
      rcases orderly.property?_cases computed with ⟨rfl, _⟩ | ⟨rfl, _⟩ <;>
        exact absurd private_ (by decide)

end Orderly

end Store

/-! ### Asking builders -/

/-- What a builder provides under a name is what its class finds there. Under the name of what
starts builders it is what any class in the line has, since these start it one after the other. -/
inductive Store.Provides (store : Store) (b : BuilderRef) (name : String) (member : Member) : Prop
  | found {owner : ClassId} (found : store.member? b name = some (owner, member))
  | starts (start : name = Hook.start.name)
      (has : store.classes.Has (store.get b).classId name member)

theorem Store.Provides.has {store : Store} {b : BuilderRef} {name : String} {member : Member}
    (provides : store.Provides b name member) :
    store.classes.Has (store.get b).classId name member := by
  cases provides with
  | found found => exact ClassTable.has_of_resolve found
  | starts start has => exact has

theorem Store.Provides.exists_member {store : Store} {b : BuilderRef} {name : String}
    {member : Member} (provides : store.Provides b name member) (other : name ≠ Hook.start.name) :
    ∃ owner, store.member? b name = some (owner, member) := by
  cases provides with
  | found found => exact ⟨_, found⟩
  | starts start has => exact absurd start other

/-- What can be called among what was found on a builder is provided by it, or everything has
it. -/
def Store.Offers (store : Store) (b : BuilderRef) (found : Found) : Prop :=
  ∀ owner name member, found = .callable owner name member →
    store.Provides b name member ∨ member = .inherent

namespace Store

variable {store : Store} {b : BuilderRef} {name : String} {found : Found}

theorem offers_value (value : Value) : store.Offers b (.value value) := nofun

theorem offers_member {origin : ClassId × Member} (member : store.member? b name = some origin) :
    store.Offers b (store.found name origin) := by
  obtain ⟨id, member'⟩ := origin
  rintro owner other called same
  refine .inl ?_
  cases member' <;> cases same <;> exact .found member

/-- What starts builders in the line of a builder's class. -/
theorem offers_start {id : ClassId} {member : Member}
    (there : id ∈ store.classes.line (store.get b).classId)
    (has : (store.classes.get id).members.find? Hook.start.name = some member) :
    store.Offers b (store.found Hook.start.name (id, member)) := by
  rintro owner other called same
  refine .inl ?_
  cases member <;> cases same <;> exact .starts rfl ⟨id, there, has⟩

theorem offers_inherent (inherent : store.inherent? b name = some found) : store.Offers b found := by
  unfold inherent? at inherent
  rintro owner other called rfl
  split at inherent
  · cases inherent
  · split at inherent
    · cases inherent
      exact .inr rfl
    · cases inherent

theorem kept_eq_ok : store.kept b name = .ok found ↔ store.kept? b name = some found := by
  unfold Store.kept
  cases store.kept? b name with
  | none => simp
  | some other => simp

theorem name_of_inherent {owner other : String} {called : Member}
    (inherent : store.inherent? b name = some (.callable owner other called)) : other = name := by
  unfold inherent? at inherent
  split at inherent
  · cases inherent
  · split at inherent
    · cases inherent
      rfl
    · cases inherent

theorem name_of_found {origin : ClassId × Member} {owner other : String} {called : Member}
    (same : store.found name origin = .callable owner other called) : other = name := by
  obtain ⟨id, found⟩ := origin
  cases found <;> cases same <;> rfl

/-- What can be called has the name under which it is kept. -/
theorem name_of_kept? {owner other : String} {called : Member}
    (kept : store.kept? b name = some (.callable owner other called)) : other = name := by
  unfold Store.kept? at kept
  split at kept
  · cases kept
  · exact name_of_found (Option.some.inj kept)
  · exact name_of_inherent kept

theorem offers_of_kept? (kept : store.kept? b name = some found) : store.Offers b found := by
  unfold Store.kept? at kept
  split at kept
  · cases kept
    exact offers_value _
  · next member =>
      cases kept
      exact offers_member member
  · exact offers_inherent kept

end Store

namespace Caller

variable {ρ : Type} {s t : Session ρ} {b : BuilderRef} {name : String} {found : Found}

/-- What can be called among what is read comes from the ordinary look-up: whoever else is asked for
a name answers with a value. -/
theorem lookup_of_callable {call : Caller ρ} {lookup : BuildM ρ Found}
    (hook : s.store.hook? b .read = none) {owner other : String} {called : Member}
    (read : call.reading b name lookup s = .ok (.callable owner other called) t) :
    lookup s = .ok (.callable owner other called) t := by
  unfold reading at read
  rw [observe_bind, hook] at read
  obtain ⟨result, u, tried, settled⟩ := bind_eq_ok.1 read
  replace tried : outcome lookup s = .ok result u := tried
  rw [outcome_apply] at tried
  cases run : lookup s with
  | ok found v =>
      rw [run] at tried
      cases tried
      cases settled
      rfl
  | error fault v =>
      rw [run] at tried
      cases tried
      replace settled : (observe _ >>= _ : BuildM ρ Found) u = _ := settled
      rw [observe_bind] at settled
      cases missing : fault.isAttribute with
      | false =>
          rw [missing] at settled
          cases settled
      | true =>
          cases unknown : u.store.hook? b .unknown with
          | none =>
              rw [missing, unknown] at settled
              cases settled
          | some origin =>
              rw [missing, unknown] at settled
              obtain ⟨value, absurd⟩ := exists_value_of_ask settled
              cases absurd

/-- It is kept under the name, or in the place of what says whether the builder is finalized. -/
theorem kept?_of_callable {call : Caller ρ} (hook : s.store.hook? b .read = none)
    {owner other : String} {called : Member}
    (read : call.read b name s = .ok (.callable owner other called) t) :
    s.store.kept? b name = some (.callable owner other called) ∨
      s.store.kept? b "_finalized" = some (.callable owner other called) := by
  have looked := lookup_of_callable hook read
  rw [observe_bind] at looked
  cases computed : s.store.property? b name with
  | none =>
      rw [computed] at looked
      exact .inl (Store.kept_eq_ok.1 (query_eq_ok.1 looked).1)
  | some property =>
      rw [computed] at looked
      cases property with
      | isFinalized =>
          exact .inr (Store.kept_eq_ok.1 (query_eq_ok.1 (lookup_of_callable hook looked)).1)
      | children =>
          obtain ⟨_, _, _, listing⟩ := bind_eq_ok.1 looked
          obtain ⟨_, _, _, absurd⟩ := bind_eq_ok.1 listing
          cases absurd

/-- What can be called of what is read from a builder is a member of its class. -/
theorem offers_of_read {depth : Nat} (readable : s.store.Readable b)
    (read : (upTo depth).read b name s = .ok found t) : s.store.Offers b found := by
  rintro owner other called rfl
  rcases kept?_of_callable readable.read read with kept | kept <;>
    exact Store.offers_of_kept? kept owner other called rfl

/-- It has the name that is read, or that in whose place it is kept. -/
theorem name_of_read {depth : Nat} (readable : s.store.Readable b) {owner other : String}
    {called : Member} (read : (upTo depth).read b name s = .ok (.callable owner other called) t) :
    other = name ∨ other = "_finalized" :=
  (kept?_of_callable readable.read read).imp Store.name_of_kept? Store.name_of_kept?

/-- Telling of a name that is not there never ends well. -/
theorem report_ne_ok {call : Caller ρ} {a : α} : call.report b name s ≠ .ok a t := by
  intro ended
  unfold report at ended
  rw [observe_bind] at ended
  split at ended
  · cases ended
  · obtain ⟨answer, u, _, ended⟩ := bind_eq_ok.1 ended
    cases items : answer.items? <;> simp only [items] at ended <;> cases ended

/-- Neither does asking for one. -/
theorem ask_unknown_ne_ok {depth : Nat} {owner : ClassId} :
    (upTo depth).ask b .unknown (owner, .method .report) name s ≠ .ok found t := by
  intro ended
  obtain ⟨answer, u, ended, _⟩ := bind_eq_ok.1 ended
  unfold dispatch at ended
  rw [observe_bind] at ended
  cases depth with
  | zero => cases ended
  | succ depth =>
      rw [show s.store.found Hook.unknown.name (owner, .method .report) =
          .callable (s.store.classes.get owner).name Hook.unknown.name (.method .report) from rfl,
        upTo_method depth s b _ _ .report (by decide)] at ended
      obtain ⟨given, v, _, ended⟩ := bind_eq_ok.1 ended
      cases given with
      | value held =>
          cases held with
          | text name => exact report_ne_ok ended
          | _ => cases ended
      | _ => cases ended

/-- What is read under a name that is not computed is what is kept under it. -/
theorem kept?_of_read {depth : Nat} (readable : s.store.Readable b)
    (ordinary : s.store.property? b name = none)
    (read : (upTo depth).read b name s = .ok found t) :
    t = s ∧ s.store.kept? b name = some found := by
  obtain rfl := (quiet_read depth readable name).eq_of_ok read
  refine ⟨rfl, ?_⟩
  cases kept : t.store.kept? b name with
  | some other =>
      cases (read_of_unhooked readable.read ordinary kept).symm.trans read
      rfl
  | none =>
      -- The look-up fails, and so does whoever is asked for the name then.
      have failed : (upTo depth).lookUp b name t =
          .error (.noAttribute (t.store.className b) name) t := by
        rw [lookUp, observe_bind, ordinary]
        simp only [query_apply, Store.kept, kept]
      have read := (reading_of_absent readable.read failed).symm.trans read
      rcases readable.unknown with nothing | plain
      · rw [nothing] at read
        cases read
      · obtain ⟨owner, unknown⟩ := plain.unknown
        have unknown : t.store.hook? b .unknown = some (owner, .method .report) := unknown
        rw [unknown] at read
        exact absurd read ask_unknown_ne_ok

/-- Calling a public name that a class does not have fails and changes nothing. -/
theorem exists_fault_of_own (depth : Nat) (readable : s.store.Readable b)
    (absent : s.store.member? b name = none) (shown : isPrivate name = false) :
    ∃ fault, (upTo depth).own b name s = .error fault s := by
  rcases (quiet_read (ρ := ρ) depth readable name).cases with ⟨fault, eq⟩ | ⟨found, read⟩
  · exact ⟨fault, bind_of_error eq⟩
  have kept := (kept?_of_read readable (Store.property?_of_not_member absent) read).2
  -- A value of the builder's own cannot be called.
  obtain ⟨value, rfl, _⟩ := Store.held?_of_kept absent (Store.inherent?_of_public shown) kept
  obtain ⟨fault, refused⟩ : ∃ fault, (upTo depth) b (.value value) {} s = .error fault s := by
    cases depth <;> exact ⟨_, rfl⟩
  exact ⟨fault, (bind_of_ok read).trans refused⟩

end Caller

namespace Store.Orderly

variable {ρ : Type} {s : Session ρ} {b : BuilderRef} (orderly : s.store.Orderly)

include orderly

/-- What is no builder cannot be asked what is missing. -/
theorem exists_fault_of_own_missing (depth : Nat)
    (other : ¬ s.store.isOf b Standard.builderBase) :
    ∃ fault, (Caller.upTo depth).own b "missing" s = .error fault s :=
  Caller.exists_fault_of_own depth (orderly.readable b)
    (orderly.member?_of_other (by decide) (by decide) other) (by decide)

/-- Asking what is missing changes nothing. -/
theorem quiet_own_missing (depth : Nat) (b : BuilderRef) :
    Quiet ((Caller.upTo depth).own b "missing") s := by
  by_cases builder : s.store.isOf b Standard.builderBase
  · exact Caller.quiet_own_missing depth (orderly.ordinary_class builder)
  · obtain ⟨fault, eq⟩ := orderly.exists_fault_of_own_missing depth builder
    exact quiet_of_error eq

end Store.Orderly

/-- Asking a builder what there is to see of it changes nothing if asking what is missing does
not. -/
theorem Script.quiet_glimpse {s : Session Script.Names} {b : BuilderRef}
    (readable : s.store.Readable b) (missing : Quiet (call.own b "missing") s) :
    Quiet (Script.glimpse b) s := by
  unfold Script.glimpse
  refine (Script.quiet_isOf readable _).bind ?_
  intro isFlow _
  refine missing.outcome.bind ?_
  intro missing _
  refine (Caller.quiet_read _ readable _).bind ?_
  intro finalized _
  cases isFlow with
  | false => exact quiet_pure _
  | true =>
      refine (Caller.quiet_read _ readable _).bind ?_
      intro children _
      exact (quiet_settle _).bind fun count _ => quiet_pure _

theorem Store.Orderly.quiet_glimpse {s : Session Script.Names} (orderly : s.store.Orderly)
    (b : BuilderRef) : Quiet (Script.glimpse b) s :=
  Script.quiet_glimpse (orderly.readable b) (orderly.quiet_own_missing _ b)

end ScopedHtml
