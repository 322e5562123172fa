import ScopedHtml.Builder.Call
import ScopedHtml.Proofs.Program

/-!
# ScopedHtml.Proofs.Lookup

Reading attributes of builders whose classes do not interfere.

A class may take the reading of attributes over (`Hook.read`, `Hook.unknown`, its own
`elements`), and then reading may do anything. Of a class that does not
(`ClassTable.ReadsPlainly`) it is shown here that a name which is kept is found
(`Caller.read_of_kept`) and that reading any name only looks (`Caller.quiet_read`), at
every depth of nested calls.
-/

namespace ScopedHtml

/-- A class that leaves the reading of attributes to what all builders have. -/
structure ClassTable.ReadsPlainly (table : ClassTable) (id : ClassId) : Prop where
  read : table.hook? id .read = none
  unknown : ∃ owner, table.hook? id .unknown = some (owner, .method .report)
  elements : ∃ owner, table.resolve id "elements" = some (owner, .method .elements)

/-- A builder whose class leaves the reading of attributes alone. -/
def Store.ReadsPlainly (store : Store) (b : BuilderRef) : Prop :=
  store.classes.ReadsPlainly (store.get b).classId

/-- A builder, or an instance of a plain class, which asks nothing else for its attributes. -/
structure Store.Readable (store : Store) (b : BuilderRef) : Prop where
  read : store.hook? b .read = none
  unknown : store.hook? b .unknown = none ∨ store.ReadsPlainly b

theorem Store.ReadsPlainly.readable {store : Store} {b : BuilderRef} (plain : store.ReadsPlainly b) :
    store.Readable b :=
  ⟨plain.read, .inr plain⟩

namespace Store

variable {store : Store} {b : BuilderRef} {name : String}

theorem kept?_of_held {value : Value} (held : store.held? b name = some value) :
    store.kept? b name = some (.value value) := by
  simp [kept?, held]

theorem kept?_of_member {origin : ClassId × Member} (held : store.held? b name = none)
    (member : store.member? b name = some origin) :
    store.kept? b name = some (store.found name origin) := by
  simp [kept?, held, member]

/-- What is under a name that neither the class of a builder has nor everything else is a value of
the builder's own. -/
theorem held?_of_kept {found : Found} (member : store.member? b name = none)
    (inherent : store.inherent? b name = none) (kept : store.kept? b name = some found) :
    ∃ value, found = .value value ∧ store.held? b name = some value := by
  unfold kept? at kept
  cases held : store.held? b name with
  | none =>
      rw [held, member, inherent] at kept
      cases kept
  | some value =>
      rw [held] at kept
      cases kept
      exact ⟨value, rfl, rfl⟩

/-- What is under the name of a member is a value of the builder's own or the member. -/
theorem kept?_cases {origin : ClassId × Member}
    (member : store.member? b name = some origin) :
    (∃ value, store.kept? b name = some (.value value)) ∨
      store.kept? b name = some (store.found name origin) := by
  cases held : store.held? b name with
  | none => exact .inr (kept?_of_member held member)
  | some value => exact .inl ⟨value, kept?_of_held held⟩

theorem property?_of_member {origin : ClassId × Member}
    (member : store.member? b name = some origin)
    (plain : ∀ property, origin.2 ≠ .property property) : store.property? b name = none := by
  unfold property?
  rw [member]
  split
  · next eq => exact absurd (congrArg Prod.snd (Option.some.inj eq)) (plain _)
  · rfl

theorem property?_of_not_member (member : store.member? b name = none) :
    store.property? b name = none := by
  simp [property?, member]

end Store

namespace Caller

open BuildM

variable {ρ : Type} {s : Session ρ} {b : BuilderRef} {name : String}

/-! ### Names that are kept -/

/-- What the ordinary look-up finds is the answer, unless all names are looked up in another
way. -/
theorem reading_of_unhooked {call : Caller ρ} {lookup : BuildM ρ Found} {found : Found}
    (hook : s.store.hook? b .read = none) (ok : lookup s = .ok found s) :
    call.reading b name lookup s = .ok found s := by
  unfold reading
  rw [observe_bind, hook]
  have done : outcome lookup s = .ok (.ok found) s := by rw [outcome_apply, ok]
  rw [bind_of_ok done]
  rfl

/-- What the ordinary look-up does not find is asked for, if it is an attribute that is not
there and there is something to ask. -/
theorem reading_of_absent {call : Caller ρ} {lookup : BuildM ρ Found} {fault : Fault}
    (hook : s.store.hook? b .read = none) (absent : lookup s = .error fault s) :
    call.reading b name lookup s =
      match fault.isAttribute, s.store.hook? b .unknown with
      | true, some origin => call.ask b .unknown origin name s
      | _, _ => .error fault s := by
  unfold reading
  rw [observe_bind, hook]
  have done : outcome lookup s = .ok (.error fault) s := by rw [outcome_apply, absent]
  rw [bind_of_ok done]
  show (observe _ >>= _) s = _
  rw [observe_bind]
  cases fault.isAttribute <;> cases s.store.hook? b .unknown <;> rfl

theorem reading_of_ok {call : Caller ρ} {lookup : BuildM ρ Found} {found : Found}
    (plain : s.store.ReadsPlainly b) (ok : lookup s = .ok found s) :
    call.reading b name lookup s = .ok found s :=
  reading_of_unhooked plain.read ok

/-- A name that a builder keeps something under is found. -/
theorem readKept_of_kept {call : Caller ρ} {found : Found} (plain : s.store.ReadsPlainly b)
    (kept : s.store.kept? b name = some found) : call.readKept b name s = .ok found s := by
  refine reading_of_ok plain ?_
  simp [Store.kept, kept]

/-- A name that a builder keeps something under and does not compute is found. -/
theorem read_of_unhooked {call : Caller ρ} {found : Found} (hook : s.store.hook? b .read = none)
    (ordinary : s.store.property? b name = none)
    (kept : s.store.kept? b name = some found) : call.read b name s = .ok found s := by
  refine reading_of_unhooked hook ?_
  rw [observe_bind, ordinary]
  simp [Store.kept, kept]

theorem read_of_kept {call : Caller ρ} {found : Found} (plain : s.store.ReadsPlainly b)
    (ordinary : s.store.property? b name = none)
    (kept : s.store.kept? b name = some found) : call.read b name s = .ok found s :=
  read_of_unhooked plain.read ordinary kept

/-- Calling a name of its own is calling what a builder keeps under it. -/
theorem own_of_kept {call : Caller ρ} {found : Found} (plain : s.store.ReadsPlainly b)
    (ordinary : s.store.property? b name = none)
    (kept : s.store.kept? b name = some found) : call.own b name s = call b found {} s := by
  rw [own, bind_of_ok (read_of_kept plain ordinary kept)]

/-! ### Reading only looks -/

/-- Calling a value is refused, however deep. -/
theorem quiet_call_value (depth : Nat) (value : Value) (arguments : Arguments ρ) :
    Quiet (upTo depth b (.value value) arguments) s := by
  cases depth with
  | zero => exact quiet_throw _
  | succ depth => exact quiet_throw _

/-- Calling a name of its own only looks if the member of the name does: what hides the
member is a value, which cannot be called. -/
theorem quiet_own_of_member {depth : Nat} {origin : ClassId × Member}
    (plain : s.store.ReadsPlainly b) (member : s.store.member? b name = some origin)
    (ordinary : ∀ property, origin.2 ≠ .property property)
    (quiet : Quiet (upTo depth b (s.store.found name origin) {}) s) :
    Quiet ((upTo depth).own b name) s := by
  have hprop := Store.property?_of_member member ordinary
  -- A value of the builder's own may hide the member; calling that is refused.
  rcases Store.kept?_cases member with ⟨value, kept⟩ | kept
  · obtain ⟨result, eq⟩ := quiet_call_value (s := s) (b := b) depth value {}
    exact ⟨result, by rw [own_of_kept plain hprop kept, eq]⟩
  · obtain ⟨result, eq⟩ := quiet
    exact ⟨result, by rw [own_of_kept plain hprop kept, eq]⟩

/-- Being asked for the elements that it supports changes nothing about a builder. -/
theorem quiet_own_elements (depth : Nat) (plain : s.store.ReadsPlainly b) :
    Quiet ((upTo depth).own b "elements") s := by
  obtain ⟨owner, member⟩ := plain.elements
  refine quiet_own_of_member plain member (by simp) ?_
  cases depth with
  | zero => exact quiet_throw _
  | succ depth =>
      refine (quiet_observe _).bind ?_
      intro id _
      refine (quiet_settle _).bind ?_
      intro given _
      exact (quiet_query _).bind fun names _ => quiet_pure _

/-- Being told of a name that is not there changes nothing about a builder. -/
theorem quiet_report {α : Type} (depth : Nat) (plain : s.store.ReadsPlainly b)
    (name : String) : Quiet ((upTo depth).report b name : BuildM ρ α) s := by
  unfold report
  refine (quiet_observe _).bind ?_
  intro className _
  split
  · exact quiet_throw _
  · refine (quiet_own_elements depth plain).bind ?_
    intro names _
    split <;> exact quiet_throw _

/-- Asking for a name that is not there changes nothing about a builder. -/
theorem quiet_ask_unknown (depth : Nat) (plain : s.store.ReadsPlainly b) {owner : ClassId}
    (name : String) :
    Quiet ((upTo depth).ask b .unknown (owner, .method .report) name) s := by
  unfold ask dispatch
  refine Quiet.bind ?_ fun value _ => quiet_pure _
  refine quiet_observe_bind ?_
  cases depth with
  | zero => exact quiet_throw _
  | succ depth =>
      refine (quiet_observe _).bind ?_
      intro id _
      refine (quiet_settle _).bind ?_
      intro given _
      cases given with
      | value held =>
          -- Only a text can be reported; anything else is refused.
          cases held with
          | text name => exact quiet_report depth plain name
          | _ => exact (quiet_observe _).bind fun fault _ => quiet_throw _
      | _ => exact (quiet_observe _).bind fun fault _ => quiet_throw _

/-- Reading only looks if the ordinary look-up does. -/
theorem quiet_reading {depth : Nat} {lookup : BuildM ρ Found}
    (readable : s.store.Readable b) (quiet : Quiet lookup s) :
    Quiet ((upTo depth).reading b name lookup) s := by
  unfold reading
  refine quiet_observe_bind ?_
  rw [readable.read]
  refine quiet.outcome.bind ?_
  intro result _
  cases result with
  | ok found => exact quiet_pure _
  | error fault =>
      refine quiet_observe_bind ?_
      rcases readable.unknown with nothing | plain
      · rw [nothing]
        cases fault.isAttribute <;> exact quiet_throw _
      · obtain ⟨owner, unknown⟩ := plain.unknown
        have hunknown : s.store.hook? b .unknown = some (owner, .method .report) := unknown
        rw [hunknown]
        -- A look-up that fails in another way is not handed on.
        cases fault.isAttribute with
        | true => exact quiet_ask_unknown depth plain name
        | false => exact quiet_throw _

theorem quiet_readKept (depth : Nat) (readable : s.store.Readable b) (name : String) :
    Quiet ((upTo depth).readKept b name) s :=
  quiet_reading readable (quiet_query _)

theorem quiet_computed (depth : Nat) (readable : s.store.Readable b) (property : Property) :
    Quiet ((upTo depth).computed b property) s := by
  cases property with
  | isFinalized => exact quiet_readKept depth readable _
  | children =>
      refine (quiet_readKept depth readable _).bind ?_
      intro found _
      exact (quiet_settle _).bind fun items _ => quiet_pure _

/-- The ordinary look-up of a name: what is computed under it, or what is kept. -/
def lookUp (call : Caller ρ) (b : BuilderRef) (name : String) : BuildM ρ Found := do
  match ← observe fun store => store.property? b name with
  | some property => call.computed b property
  | none => query fun store => store.kept b name

theorem read_eq_reading (call : Caller ρ) (b : BuilderRef) (name : String) :
    call.read b name = call.reading b name (call.lookUp b name) := rfl

theorem quiet_lookUp (depth : Nat) (readable : s.store.Readable b) (name : String) :
    Quiet ((upTo depth).lookUp b name) s := by
  refine (quiet_observe _).bind ?_
  intro property _
  cases property with
  | some property => exact quiet_computed depth readable property
  | none => exact quiet_query _

/-- Reading any name of a builder only looks. -/
theorem quiet_read (depth : Nat) (readable : s.store.Readable b) (name : String) :
    Quiet ((upTo depth).read b name) s :=
  quiet_reading readable (quiet_lookUp depth readable name)

theorem quiet_readItems (depth : Nat) (readable : s.store.Readable b) (name : String) :
    Quiet ((upTo depth).readItems b name) s :=
  (quiet_read depth readable name).bind fun _ _ => quiet_settle _

theorem quiet_readValue (depth : Nat) (readable : s.store.Readable b) (name : String) :
    Quiet ((upTo depth).readValue b name) s :=
  (quiet_read depth readable name).bind fun _ _ => quiet_pure _

end Caller

end ScopedHtml
