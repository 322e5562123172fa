import ScopedHtml.Proofs.Change

/-!
# ScopedHtml.Proofs.Drift

**Programs that only make small changes.** What creates builders, sets titles, adds
paragraphs and defines classes drifts on orderly stores (`BuildM.Drifts`), at every depth of
calls and whether it ends well or fails:

* `Store.Orderly.create_cases`, `Store.Orderly.push_cases` and their like say what an
  operation comes to: it fails and changes nothing, or makes one change;
* `Caller.drifts_announce`, `Caller.drifts_define` — defining orderly classes.
-/

namespace ScopedHtml

variable {ρ α β : Type}

namespace BuildM

variable {licence : Licence} {m : BuildM ρ α} {k : α → BuildM ρ β} {s t : Session ρ}

/-- What running `m` from `s` leaves has come about by changes only, if the store of `s` is
orderly. -/
def Drifts (licence : Licence) (m : BuildM ρ α) (s : Session ρ) : Prop :=
  s.store.Orderly → s.store.Drifts licence (left m s).store

theorem Drifts.of_ok (h : m.Drifts licence s) {a : α} (run : m s = .ok a t)
    (orderly : s.store.Orderly) : s.store.Drifts licence t.store := by
  have drifts := h orderly
  rwa [left_of_ok run] at drifts

theorem Quiet.drifts (h : s.store.Orderly → Quiet m s) : m.Drifts licence s := by
  intro orderly
  rw [(h orderly).left_eq]
  exact .refl _

/-- A sequence drifts if its first part does and the second does from there. -/
theorem Drifts.seq (first : m.Drifts licence s)
    (second : ∀ a t, m s = .ok a t → t.store.Orderly → (k a).Drifts licence t) :
    (m >>= k).Drifts licence s := by
  intro orderly
  have here := first orderly
  obtain ⟨fault, _, eq⟩ | ⟨a, run, eq⟩ := left_bind m k s
  · rwa [eq]
  · rw [eq]
    have still := here.orderly orderly
    exact here.trans (second a _ run still still)

theorem Drifts.observe_bind {view : Store → α} (h : (k (view s.store)).Drifts licence s) :
    (observe view >>= k).Drifts licence s := h

/-- A sequence whose second part goes on from what the first part leads to. -/
theorem Drifts.seq_led (first : m.Drifts licence s)
    (second : ∀ a t, s.store.Leads t.store → (k a).Drifts licence t) : (m >>= k).Drifts licence s := by
  intro orderly
  refine first.seq (fun a t run _ => ?_) orderly
  exact second a t ((first.of_ok run orderly).leads orderly)

theorem Drifts.map (h : m.Drifts licence s) (f : α → β) :
    (m >>= fun a => pure (f a)).Drifts licence s :=
  h.seq fun _ _ _ _ => Quiet.drifts fun _ => quiet_pure _

/-- A program that looks first drifts if the rest does. -/
theorem Drifts.after_looking (quiet : s.store.Orderly → Quiet m s)
    (second : ∀ a, m s = .ok a s → s.store.Orderly → (k a).Drifts licence s) :
    (m >>= k).Drifts licence s := by
  intro orderly
  refine (Quiet.drifts quiet).seq ?_ orderly
  intro a t run still
  obtain rfl := (quiet orderly).eq_of_ok run
  exact second a run still

theorem Drifts.discard (h : m.Drifts licence s) : (discard m : BuildM ρ Unit).Drifts licence s := by
  intro orderly
  rw [left_discard]
  exact h orderly

theorem drifts_perform {operation : Store → Except Fault Store}
    (h : ∀ after, s.store.Orderly → operation s.store = .ok after →
      s.store.Drifts licence after) : (perform operation : BuildM ρ Unit).Drifts licence s := by
  intro orderly
  obtain eq | ⟨after, done, eq⟩ := left_perform operation s
  · rw [eq]
    exact .refl _
  · rw [eq]
    exact h after orderly done

theorem drifts_transact {operation : Store → Except Fault (α × Store)}
    (h : ∀ a after, s.store.Orderly → operation s.store = .ok (a, after) →
      s.store.Drifts licence after) : (transact operation : BuildM ρ α).Drifts licence s := by
  intro orderly
  obtain eq | ⟨a, after, done, eq⟩ := left_transact operation s
  · rw [eq]
    exact .refl _
  · rw [eq]
    exact h a after orderly done

end BuildM

open BuildM

/-- When a builder has been added, what is held is what was held, or what the new one holds. -/
theorem Store.held_of_add {store : Store} {builder : Builder} {b : BuilderRef} {name : String}
    {value : Value} (held : (store.add builder).2.held? b name = some value) :
    store.held? b name = some value ∨
      b = ⟨store.builders.length⟩ ∧ builder.held.find? name = some value := by
  rcases add_cases builder (inside_of_held held) with old | rfl
  · rw [held?_of_get (get_add_of_lt old builder)] at held
    exact .inl held
  · rw [held?_of_get (get_add_new store builder)] at held
    exact .inr ⟨rfl, held⟩

/-- A class that has instances does not leave open how its element is made. -/
theorem Store.initializer_eq_ok {store : Store} {id : ClassId} {origin : Option (ClassId × Member)}
    (h : store.initializer id = .ok origin) :
    (∀ owner, store.classes.resolve id "_make_node" ≠ some (owner, .maker none)) ∧
      store.classes.resolve id Hook.start.name = origin := by
  unfold Store.initializer at h
  split at h
  · cases h
  · next other =>
      cases h
      exact ⟨other, rfl⟩

/-- Putting a value behind the children of a builder fails and changes nothing, or adds it, if
reading the children comes to what the builder holds as such. -/
theorem Caller.push_cases_of_read {call : Caller ρ} {s : Session ρ} {b : BuilderRef}
    (quiet : Quiet (call.read b "_children") s)
    (reads : ∀ found, call.read b "_children" s = .ok found s →
      ∃ kept, found = .value kept ∧ s.store.held? b "_children" = some kept) (value : Value) :
    (∃ fault, call.push b value s = .error fault s) ∨
      ∃ items, s.store.held? b "_children" = some (.list items) ∧
        call.push b value s =
          .ok () { s with store := s.store.assign b "_children" (.list (items ++ [value])) } := by
  unfold push
  rcases quiet.cases with ⟨fault, eq⟩ | ⟨found, eq⟩
  · exact .inl ⟨fault, bind_of_error eq⟩
  · obtain ⟨kept, rfl, held⟩ := reads found eq
    rw [bind_of_ok eq, perform_apply]
    cases kept with
    | list items => exact .inr ⟨items, held, rfl⟩
    | _ => exact .inl ⟨_, rfl⟩

namespace Store.Orderly

variable {licence : Licence} {store : Store} {s t : Session ρ} {b : BuilderRef} {name : String}

/-! ### Operations -/

/-- Only the library's own classes could have a value in the place of what keeps children. -/
theorem kept?_children (orderly : store.Orderly) {found : Found}
    (kept : store.kept? b "_children" = some found) :
    ∃ items, found = .value (.list items) ∧ store.held? b "_children" = some (.list items) := by
  have member : store.member? b "_children" = none :=
    orderly.member?_eq_none (by decide) (by rw [Standard.forall_classes]; decide) b
  obtain ⟨value, rfl, held⟩ := held?_of_kept member rfl kept
  obtain ⟨items, rfl⟩ := (orderly.builders b (inside_of_held held)).children value held
  exact ⟨items, rfl, held⟩

/-- Putting a value behind the children of a builder fails and changes nothing, or adds it. -/
theorem push_cases (orderly : s.store.Orderly) (depth : Nat) (b : BuilderRef) (value : Value) :
    (∃ fault, (Caller.upTo depth).push b value s = .error fault s) ∨
      ∃ items, s.store.held? b "_children" = some (.list items) ∧
        (Caller.upTo depth).push b value s =
          .ok () { s with store := s.store.assign b "_children" (.list (items ++ [value])) } := by
  have readable := orderly.readable b
  refine Caller.push_cases_of_read (Caller.quiet_read depth readable "_children") ?_ value
  intro found read
  obtain ⟨items, rfl, held⟩ := orderly.kept?_children
    (Caller.kept?_of_read readable (orderly.property?_private (by decide)) read).2
  exact ⟨_, rfl, held⟩

/-- Assigning an attribute is refused or is done, unless all attributes are to be replaced. -/
theorem write_cases (orderly : store.Orderly) (b : BuilderRef) {name : String} {value : Value}
    (single : name ≠ attributesName ∨ ∀ members, value ≠ .record members) :
    (∃ fault, store.write b name value = .error fault) ∨
      store.write b name value = .ok (store.assign b name value) := by
  cases done : store.write b name value with
  | error fault => exact .inl ⟨fault, rfl⟩
  | ok after =>
      unfold Store.write at done
      rw [orderly.hook?_write b] at done
      rcases set_eq_ok done with rfl | ⟨members, all, same, _⟩
      · exact .inr rfl
      · exact absurd same (single.elim (absurd all) fun plain => plain members)

theorem write_title (orderly : store.Orderly) (b : BuilderRef) (value : Value) :
    store.write b "_title" value = .ok (store.assign b "_title" value) :=
  write_eq_assign (orderly.genuine b) (orderly.hook?_write b)
    (orderly.property?_private (by decide)) (by decide) (by decide) value

/-! ### Finalizing -/

/-- Of what is not there nothing can be made. -/
theorem exists_fault_of_build (orderly : s.store.Orderly) (depth : Nat)
    (outside : ¬ b.index < s.store.builders.length) :
    ∃ fault, (Caller.upTo depth).build b s = .error fault s := by
  have member : s.store.member? b "_make_node" = some (Standard.builderBase, .maker none) := by
    rw [member?_of_classId (congrArg Builder.classId (get_of_outside outside))]
    exact (orderly.sound.resolve (by decide : Standard.builderBase.index < _) (by decide)).trans rfl
  have held : s.store.held? b "_make_node" = none := held?_of_get (get_of_outside outside) _
  unfold Caller.build
  rcases (orderly.quiet_own_missing depth b).cases with ⟨fault, eq⟩ | ⟨absent, eq⟩
  · exact ⟨fault, bind_of_error eq⟩
  rw [bind_of_ok eq]
  cases absent.isEmpty with
  | false => exact ⟨_, rfl⟩
  | true =>
      have made : (Caller.upTo depth).own b "_make_node" s =
          (Caller.upTo depth) b (s.store.found "_make_node" (Standard.builderBase, .maker none)) {}
            s :=
        bind_of_ok (Caller.read_of_unhooked (orderly.hook?_read b)
          (Store.property?_of_member member (by simp)) (Store.kept?_of_member held member))
      cases depth with
      | zero => exact ⟨_, bind_of_error made⟩
      | succ depth =>
          have finalized : s.store.finalize b = .ok s.store :=
            (write_eq_assign (orderly.genuine b) (orderly.hook?_write b)
              (orderly.property?_private (by decide)) (by decide) (by decide) _).trans
              (congrArg Except.ok (assign_of_outside outside _ _))
          refine ⟨.noAttribute Value.null.typeName "tag", (bind_of_ok made).trans ?_⟩
          rw [bind_apply, perform_apply, finalized]
          rfl

/-- Finalizing changes nothing or ends well, with the builder marked and one more record. -/
theorem build_cases (orderly : s.store.Orderly) (depth : Nat) (b : BuilderRef) :
    (∃ fault, (Caller.upTo depth).build b s = .error fault s) ∨
      b.index < s.store.builders.length ∧ s.store.isOf b Standard.builderBase ∧
        ∃ node, (Caller.upTo depth).build b s =
          .ok (.node node) { s with store := s.store.finalizedInto b node } := by
  by_cases inside : b.index < s.store.builders.length
  · by_cases builder : s.store.isOf b Standard.builderBase
    · exact (Caller.build_cases depth (orderly.ordinary inside builder)).imp id
        fun done => ⟨inside, builder, done⟩
    · obtain ⟨fault, eq⟩ := orderly.exists_fault_of_own_missing depth builder
      exact .inl ⟨fault, bind_of_error eq⟩
  · exact .inl (orderly.exists_fault_of_build depth inside)

/-- Asking for it is finalizing, if it does not fail. -/
theorem own_build_cases (orderly : s.store.Orderly) (depth : Nat) (b : BuilderRef) :
    (∃ fault, (Caller.upTo depth).own b "build" s = .error fault s) ∨
      ∃ d node, (Caller.upTo d).build b s =
          .ok (.node node) { s with store := s.store.finalizedInto b node } ∧
        (Caller.upTo depth).own b "build" s = (Caller.upTo d).build b s := by
  by_cases builder : s.store.isOf b Standard.builderBase
  · obtain ⟨owner, member⟩ : ∃ owner, s.store.member? b "build" = some (owner, .method .build) :=
      (orderly.ordinary_class builder).build
    have plain : s.store.ReadsPlainly b := (orderly.ordinary_class builder).toReadsPlainly
    have ordinary := Store.property?_of_member member (by simp)
    rcases Store.kept?_cases member with ⟨value, kept⟩ | kept
    · rw [Caller.own_of_kept plain ordinary kept]
      cases depth <;> exact .inl ⟨_, rfl⟩
    · rw [Caller.own_of_kept plain ordinary kept]
      cases depth with
      | zero => exact .inl ⟨_, rfl⟩
      | succ depth =>
          rcases orderly.build_cases depth b with ⟨fault, eq⟩ | ⟨_, _, node, eq⟩
          · exact .inl ⟨fault, eq⟩
          · exact .inr ⟨depth, node, eq, rfl⟩
  · exact .inl (Caller.exists_fault_of_own depth (orderly.readable b)
      (orderly.member?_of_other (by decide) (by decide) builder) (by decide))

/-- Telling of a name that is not there changes nothing. -/
theorem quiet_report (orderly : s.store.Orderly) (depth : Nat) (b : BuilderRef) (name : String) :
    Quiet ((Caller.upTo depth).report b name : BuildM ρ α) s := by
  have elements : Quiet ((Caller.upTo depth).own b "elements") s := by
    by_cases builder : s.store.isOf b Standard.builderBase
    · exact Caller.quiet_own_elements depth (orderly.ordinary_class builder).toReadsPlainly
    · have absent : s.store.member? b "elements" = none :=
        orderly.member?_of_other (by decide) (by decide) builder
      obtain ⟨fault, eq⟩ :=
        Caller.exists_fault_of_own depth (orderly.readable b) absent (by decide)
      exact quiet_of_error eq
  unfold Caller.report
  refine quiet_observe_bind ?_
  split
  · exact quiet_throw _
  · refine elements.bind ?_
    intro names _
    split <;> exact quiet_throw _

/-! ### New builders -/

/-- Creating a builder fails and changes nothing, or adds a builder of the class. -/
theorem create_cases (orderly : s.store.Orderly) (licence : Licence) (call : Caller ρ) {id : ClassId}
    (inside : id.index < s.store.classes.classes.length) (options : Options) :
    (∃ fault, call.create id options s = .error fault s) ∨
      ∃ held, call.create id options s = .ok ⟨s.store.builders.length⟩
          { s with store := (s.store.add ⟨id, held, none⟩).2 } ∧
        s.store.Change licence (s.store.add ⟨id, held, none⟩).2 := by
  have clear := orderly.classes.clear orderly.sound.closed inside
  have make : s.store.classes.hook? id .make = none :=
    clear.resolve_eq_none (by decide) (by rw [Standard.forall_classes]; decide)
  cases initializer : s.store.initializer id with
  | error fault =>
      have failed : (query fun store => store.initializer id : BuildM ρ _) s = .error fault s := by
        rw [query_apply, initializer]
      unfold Caller.create Caller.createBuilder
      rw [observe_bind, make]
      exact .inl ⟨fault, bind_of_error failed⟩
  | ok origin =>
      obtain ⟨makes, start⟩ := initializer_eq_ok initializer
      cases origin with
      | none =>
          -- A plain class takes no options.
          unfold Caller.create Caller.createBuilder
          rw [observe_bind, make]
          dsimp only
          rw [bind_of_ok (query_eq_ok.2 ⟨initializer, rfl⟩)]
          dsimp only
          rw [transact_apply]
          unfold Store.createBare
          cases options.isEmpty with
          | false => exact .inl ⟨_, rfl⟩
          | true => exact .inr ⟨.empty, rfl, .made id inside start⟩
      | some origin =>
          obtain ⟨owner, member⟩ := origin
          have plain := orderly.startsPlainly inside
          obtain ⟨starter, rfl⟩ : ∃ starter, member = .starter starter := by
            obtain ⟨behind, found⟩ := ClassTable.resolveAlong_eq_some start
            obtain ⟨_, standard, found⟩ := plain.starters owner behind member found
            exact Standard.exists_starter standard found
          rw [call.create_of_plain plain make initializer]
          cases s.store.bindOptions owner starter options with
          | error fault => exact .inl ⟨fault, rfl⟩
          | ok given => exact .inr ⟨_, rfl, .started id owner starter given inside start makes⟩

/-- A builder that has been created is there and of the class. -/
theorem created (orderly : s.store.Orderly) {call : Caller ρ} {id : ClassId}
    (inside : id.index < s.store.classes.classes.length) {options : Options}
    (run : call.create id options s = .ok b t) :
    b.index < t.store.builders.length ∧ (t.store.get b).classId = id := by
  rcases orderly.create_cases (.lasting False) call inside options with
    ⟨fault, eq⟩ | ⟨held, eq, _⟩
  · cases eq.symm.trans run
  · cases eq.symm.trans run
    refine ⟨by simp [Store.add], ?_⟩
    exact congrArg Builder.classId (get_add_new s.store _)

end Store.Orderly

theorem Caller.drifts_create {licence : Licence} {call : Caller ρ} {s : Session ρ} {id : ClassId}
    (inside : id.index < s.store.classes.classes.length) (options : Options) :
    (call.create id options).Drifts licence s := by
  intro orderly
  rcases orderly.create_cases licence call inside options with
    ⟨fault, eq⟩ | ⟨held, eq, change⟩
  · rw [left_of_error eq]
    exact .refl _
  · rw [left_of_ok eq]
    exact .one change

/-! ### Definitions -/

/-- A body under whose names nothing is reserved: neither openers and functions nor the
attributes behind slots stand under reserved names. -/
structure ClassBody.Orderly (body : ClassBody) : Prop where
  openers : ∀ opener ∈ body.openers, opener.name ∉ reservedNames
  kept : ∀ opener ∈ body.openers, opener.attachment = .slot →
    slotAttribute opener.name ∉ reservedNames
  plain : ∀ name ∈ body.plain, name ∉ reservedNames
  slots : ∀ name ∈ body.slots, slotAttribute name ∉ reservedNames

namespace ClassTable

variable {table : ClassTable}

/-- Members that are all orderly, in a table with so many classes. -/
def AllOrderly (size : Nat) (members : Bindings String Member) : Prop :=
  ∀ name member, members.find? name = some member → member.Orderly size name

theorem AllOrderly.bind {size : Nat} {members : Bindings String Member}
    (all : AllOrderly size members) {name : String} {member : Member}
    (one : member.Orderly size name) : AllOrderly size (members.bind name member) := by
  intro other found same
  rcases Bindings.find?_bind_eq_some same with ⟨rfl, rfl⟩ | old
  · exact one
  · exact all other found old

theorem AllOrderly.foldl {size : Nat} (entry : String → String × Member) {names : List String}
    {members : Bindings String Member} (all : AllOrderly size members)
    (each : ∀ name ∈ names, (entry name).2.Orderly size (entry name).1) :
    AllOrderly size
      (names.foldl (fun members name => members.bind (entry name).1 (entry name).2) members) := by
  induction names generalizing members with
  | nil => exact all
  | cons name rest ih =>
      exact ih (all.bind (each name (List.mem_cons_self ..))) fun other inside =>
        each other (List.mem_cons_of_mem _ inside)

/-- The openers of an orderly body are orderly. -/
theorem Closed.orderly_bindOpeners (closed : table.Closed) :
    ∀ {openers : List OpenerSpec} {before after : Bindings String Member},
      (∀ opener ∈ openers, opener.name ∉ reservedNames ∧
        (opener.attachment = .slot → slotAttribute opener.name ∉ reservedNames)) →
      AllOrderly table.classes.length before → table.bindOpeners openers before = .ok after →
      AllOrderly table.classes.length after
  | [], before, after, _, all, bound => by cases bound; exact all
  | opener :: rest, before, after, free, all, bound => by
      obtain ⟨found, target, bound⟩ := bindOpeners_cons_eq_ok bound
      obtain ⟨here, slot⟩ := free opener (List.mem_cons_self ..)
      have one : (Member.opener found opener.attachment).Orderly table.classes.length
          opener.name := by
        refine ⟨here, slot, ?_⟩
        -- A class that is opened early is one that has a name.
        rintro id rfl
        exact closed.named (named_eq_ok.2 (find?_of_target target))
      exact closed.orderly_bindOpeners
        (fun other inside => free other (List.mem_cons_of_mem _ inside)) (all.bind one) bound

/-- An orderly body describes a class with orderly members. -/
theorem Closed.orderly_draft (closed : table.Closed) {name : String} {bases : List ClassId}
    {body : ClassBody} (orderly : body.Orderly) {new : BuilderClass}
    (h : table.draft name bases body = .ok new) :
    AllOrderly table.classes.length new.members := by
  obtain ⟨_, members, defined, same⟩ := draft_eq_ok h
  have all : AllOrderly table.classes.length members := by
    obtain ⟨openers, bound, defined⟩ := ok_of_bind defined
    cases defined
    have first : AllOrderly table.classes.length openers :=
      closed.orderly_bindOpeners
        (fun opener inside => ⟨orderly.openers opener inside, orderly.kept opener inside⟩)
        (fun _ _ none => by cases none) bound
    have second := first.foldl (fun name => (name, .plain)) orderly.plain
    have third := second.foldl (fun name => (slotAttribute name, .data .null))
      fun name inside => .inl (orderly.slots name inside)
    cases body.required with
    | none => exact third
    | some names => exact third.bind (.inr ⟨rfl, names, rfl⟩)
  rcases same with same | ⟨_, same⟩
  · rw [same]
    exact all
  · rw [same]
    exact all.bind (.inl (by decide))

/-- What tells of new classes is what has always told of them. -/
theorem Orderly.heir (orderly : table.Orderly) {id : ClassId}
    (inside : id.index < table.classes.length) {member : Member}
    (found : (table.get id).members.find? Hook.heir.name = some member) :
    member = .method .register := by
  have cases := orderly id inside _ _ found
  split at cases
  · next standard =>
      rcases cases with found | ⟨free, _⟩
      · exact Standard.heir_eq (Standard.get_mem standard) found
      · exact absurd (by decide) free
  · obtain ⟨required, _⟩ := cases.of_reserved (by decide)
    exact absurd required (by decide)

end ClassTable

namespace Caller

variable {licence : Licence} {s : Session ρ} {b : BuilderRef} {name : String}

/-! ### Calls -/

theorem drifts_paragraph (depth : Nat) (b : BuilderRef) (content : Value) :
    ((upTo depth).paragraph b content).Drifts licence s := by
  refine Drifts.map ?_ _
  intro orderly
  rcases orderly.push_cases depth b (.node (.paragraph content)) with
    ⟨fault, eq⟩ | ⟨items, held, eq⟩
  · rw [left_of_error eq]
    exact .refl _
  · rw [left_of_ok eq]
    exact .one (.gathered b items content held)

theorem drifts_title (depth : Nat) (b : BuilderRef) (content : Value) :
    ((upTo depth).title b content).Drifts licence s := by
  refine Drifts.seq (drifts_perform ?_) ?_
  · intro after orderly written
    rw [orderly.write_title] at written
    cases written
    exact .one (.titled b content)
  · intro _ t _ _
    exact Quiet.drifts fun orderly => quiet_readValue depth (orderly.readable b) _

/-- What the methods of the library do, but for finalizing and appending. -/
theorem drifts_method (depth : Nat) (b : BuilderRef) (given : Given ρ) {method : Method}
    (build : method ≠ .build) (append : method ≠ .append) :
    ((upTo depth).method b given method).Drifts licence s := by
  intro orderly
  have readable := orderly.readable b
  have quiet : ∀ {α : Type} {m : BuildM ρ α}, Quiet m s → m.Drifts licence s := fun looks =>
    Quiet.drifts fun _ => looks
  cases method with
  | build => exact absurd rfl build
  | append => exact absurd rfl append
  | missing => exact (quiet (quiet_missing depth readable)).map _ orderly
  | elements => exact (quiet (quiet_query _)).map _ orderly
  | register => exact quiet (quiet_pure _) orderly
  | report =>
      refine quiet ?_ orderly
      cases given with
      | value held =>
          cases held with
          | text name => exact orderly.quiet_report depth b name
          | _ => exact quiet_observe_bind (quiet_throw _)
      | _ => exact quiet_observe_bind (quiet_throw _)
  | paragraph => exact (drifts_paragraph depth b _).map _ orderly
  | title => exact drifts_title depth b _ orderly

theorem drifts_registered (id : ClassId) :
    (perform fun store => store.onClasses fun classes => classes.registered id :
      BuildM ρ Unit).Drifts licence s := by
  refine drifts_perform ?_
  intro after _ done
  obtain ⟨classes, registered, rfl⟩ := Store.onClasses_eq_ok done
  obtain ⟨_, _, rfl⟩ := ClassTable.registered_eq_ok registered
  exact .one (.registered id _)

/-- Telling classes of a new one registers its openers. -/
theorem drifts_announce (call : Caller ρ) (id : ClassId) (options : Options) :
    ∀ (row : List ClassId) {s : Session ρ},
      (∀ c ∈ row, c.index < s.store.classes.classes.length) →
      (call.announce id options row).Drifts licence s
  | [], s, _ => by
      refine Quiet.drifts fun _ => ?_
      unfold announce
      split
      · exact quiet_pure _
      · exact quiet_observe_bind (quiet_throw _)
  | next :: rest, s, inside => by
      intro orderly
      have behind : ∀ c ∈ rest, c.index < s.store.classes.classes.length := fun c among =>
        inside c (List.mem_cons_of_mem _ among)
      have others := call.drifts_announce id options rest behind
      refine Drifts.observe_bind (k := fun heir => _) ?_ orderly
      cases heir : (s.store.classes.get next).members.find? Hook.heir.name with
      | none => exact others
      | some member =>
          obtain rfl := orderly.classes.heir (inside next (List.mem_cons_self ..)) heir
          exact others.discard.seq fun _ _ _ _ => (drifts_registered id).map _

/-- Defining a class with an orderly body. -/
theorem drifts_define (call : Caller ρ) (allowed : licence.classes) (name : String) (bases : List String)
    {body : ClassBody} (orderly : body.Orderly) : (call.define name bases body).Drifts licence s := by
  unfold define
  refine Drifts.after_looking (fun _ => quiet_query _) ?_
  intro baseIds named _
  obtain ⟨named, _⟩ := query_eq_ok.1 named
  refine Drifts.after_looking (fun _ => quiet_query _) ?_
  intro new drafted ordered
  obtain ⟨drafted, _⟩ := query_eq_ok.1 drafted
  have closed := ordered.sound.closed
  have root : Standard.root.index < s.store.classes.classes.length := ordered.sound.inside (by decide)
  have checked := (ClassTable.draft_eq_ok drafted).1
  have ancestors := closed.checkedAncestors root (closed.namedAll named) checked
  have lines := ordered.lines.push closed ancestors (ClassTable.nodup_ancestors checked)
    (ordered.lines.ancestors (ClassTable.forall_directBases root (closed.namedAll named)) checked)
  refine Drifts.seq (drifts_transact ?_) ?_
  · rintro id after _ ⟨⟩
    exact .one (.defined new allowed (closed.orderly_draft orderly drafted) ancestors lines)
  intro id t added _
  obtain ⟨there, row⟩ : id.index < t.store.classes.classes.length ∧
      ∀ c ∈ new.ancestors, c.index < t.store.classes.classes.length := by
    cases added
    refine ⟨by simp, fun c behind => ?_⟩
    exact Nat.lt_of_lt_of_le (ancestors c behind) (by simp)
  refine (call.drifts_announce id [] _ row).discard.seq_led ?_
  intro _ u leads
  have there : id.index < u.store.classes.classes.length :=
    Nat.lt_of_lt_of_le there leads.classes.length
  have bound : (do
      perform fun store => store.onClasses fun classes => .ok (classes.bindName name id)
      return id : BuildM ρ ClassId).Drifts licence u := by
    refine (drifts_perform ?_).map _
    rintro after _ done
    obtain ⟨classes, named, rfl⟩ := Store.onClasses_eq_ok done
    cases named
    exact .one (.named name id there)
  refine Drifts.observe_bind (k := fun builder => _) ?_
  split
  · exact Drifts.after_looking
      (fun _ => (quiet_observe _).bind fun _ _ => quiet_settle _) fun _ _ _ => bound
  · exact bound

/-- Assigning once more what a builder starts with. -/
theorem drifts_assignStart (b : BuilderRef) {starter : Starter} (allowed : licence.restarts)
    (known : starter.Known) (given : Options) :
    (perform fun store => store.start b starter given : BuildM ρ Unit).Drifts licence s := by
  refine drifts_perform fun after orderly done => ?_
  have starts := known.startsWith given
  unfold Store.start at done
  generalize (starter.started given).entries = entries at done starts
  generalize s.store = store at orderly done
  induction entries generalizing store with
  | nil =>
      cases done
      exact .refl _
  | cons entry rest ih =>
      obtain ⟨name, value⟩ := entry
      have first : StartsWith name value := starts _ (List.mem_cons_self ..)
      have fits := Store.keepable_of_startsWith first
      have single : name ≠ attributesName := by
        rintro rfl
        exact absurd first.mem_attributeNames (by decide)
      rw [Store.writeAll] at done
      rcases orderly.write_cases b (.inl single) with ⟨fault, eq⟩ | eq
      · rw [eq] at done
        cases done
      · rw [eq] at done
        exact (Store.Drifts.one (.restarted b name value allowed fits)).trans
          (ih (fun entry among => starts entry (List.mem_cons_of_mem _ among)) _
            (orderly.assign fits b) done)

/-- Starting a builder over again by the classes in a row. -/
theorem drifts_startAlong (call : Caller ρ) (b : BuilderRef) (allowed : licence.restarts) :
    ∀ (row : List ClassId) {s : Session ρ},
      (∀ c ∈ row, c.index < s.store.classes.classes.length) →
      (call.startAlong b row).Drifts licence s
  | [], _, _ => Quiet.drifts fun _ => quiet_pure _
  | next :: rest, s, inside => by
      intro orderly
      have others := call.drifts_startAlong b allowed rest fun c among =>
        inside c (List.mem_cons_of_mem _ among)
      unfold startAlong
      refine Drifts.observe_bind (k := fun member => _) ?_ orderly
      cases found : (s.store.classes.get next).members.find? Hook.start.name with
      | none => exact others
      | some member =>
          obtain ⟨standard, found⟩ := orderly.standard_of_start (inside next (List.mem_cons_self ..)) found
          have among := Standard.get_mem standard
          obtain ⟨starter, rfl⟩ := Standard.exists_starter among found
          have known : starter.Known := ⟨_, among, found⟩
          dsimp only
          split
          · exact others.seq fun _ _ _ _ => drifts_assignStart b allowed known []
          · exact drifts_assignStart b allowed known []

/-- Starting a builder over again. -/
theorem drifts_startWith (call : Caller ρ) (b : BuilderRef) {starter : Starter}
    (allowed : licence.restarts) (known : starter.Known) (given : Options) :
    (call.startWith b starter given).Drifts licence s := by
  intro orderly
  unfold startWith
  cases starter.home with
  | none => exact drifts_assignStart b allowed known given orderly
  | some home =>
      refine Drifts.observe_bind (k := fun row => _) ?_ orderly
      refine (call.drifts_startAlong b allowed _ fun c behind => ?_).seq fun _ _ _ _ =>
        drifts_assignStart b allowed known given
      exact orderly.sound.closed.line (orderly.there b) c
        (ClassTable.mem_line_of_lineBehind behind)

/-- Calling a member that neither opens a scope nor finalizes or appends anything. -/
theorem drifts_member (depth : Nat) (b : BuilderRef) (owner name : String)
    (arguments : Arguments ρ) {called : Member} (opener : called.isOpener = false)
    (build : called ≠ .method .build) (append : called ≠ .method .append)
    (starter : ∀ starter, called = .starter starter → licence.restarts ∧ starter.Known) :
    (upTo depth b (.callable owner name called) arguments).Drifts licence s := by
  cases depth with
  | zero => exact Quiet.drifts fun _ => quiet_throw _
  | succ depth =>
      have quiet : ∀ {m : BuildM ρ Value}, Quiet m s → m.Drifts licence s := fun looks =>
        Quiet.drifts fun _ => looks
      intro orderly
      cases called with
      | opener target attachment => cases opener
      | starter starts =>
          obtain ⟨allowed, known⟩ := starter starts rfl
          refine Drifts.observe_bind (k := fun id => _) ?_ orderly
          refine Drifts.after_looking (fun _ => quiet_settle _) ?_
          intro given _ _
          exact ((upTo depth).drifts_startWith b allowed known _).map _
      | plain => exact quiet (quiet_observe_bind (quiet_pure _)) orderly
      | data value => exact quiet (quiet_observe_bind (quiet_pure _)) orderly
      | property property => exact quiet (quiet_observe_bind (quiet_pure _)) orderly
      | inherent => exact quiet (quiet_observe_bind (quiet_pure _)) orderly
      | maker product =>
          refine quiet (quiet_observe_bind ?_) orderly
          cases product with
          | none => exact quiet_pure _
          | some product =>
              refine (quiet_settle _).discard.bind ?_
              intro _ _
              exact (quiet_make depth (orderly.readable b) product).bind fun _ _ => quiet_pure _
      | method method =>
          by_cases register : method = .register
          · subst register
            refine Drifts.observe_bind (k := fun id => _) ?_ orderly
            refine Drifts.after_looking (fun _ => quiet_settle _) ?_
            intro options _ orderly
            refine Drifts.observe_bind (k := fun row => _) ?_
            exact drifts_announce _ _ _ _ (orderly.sound.closed.line (orderly.there b))
          · have goes := left_congr (upTo_method depth s b owner name method register arguments)
            rw [goes]
            refine Drifts.after_looking (fun _ => quiet_settle _) ?_ orderly
            intro given _ _
            exact drifts_method depth b given (fun same => build (congrArg _ same))
              fun same => append (congrArg _ same)

end Caller

end ScopedHtml
