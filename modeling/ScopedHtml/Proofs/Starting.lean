import ScopedHtml.Builder.Scope
import ScopedHtml.Proofs.Operations
import ScopedHtml.Proofs.Program

/-!
# ScopedHtml.Proofs.Starting

**How builders start.** A starter of the library first lets the next class in the line of the
builder start it. That may be any class, and it may start builders in a way of its own. Where none
in the line does (`ClassTable.StartsPlainly`), starting a new builder is assigning attributes: those
of the classes behind come first, then those of the class itself, and the options last
(`ClassTable.startEntries`). Nothing is called for it, and nothing can fail but the options
(`Caller.create_of_plain`).

What the library's starters assign is the same in every such class (`StartsWith`): a builder is not
finalized, has no children and nothing in its slots, and keeps its options.
-/

namespace ScopedHtml

open BuildM

/-! ### The library's starters -/

/-- What holds of all classes of the library. -/
theorem Standard.forall_classes {P : BuilderClass → Prop} :
    (∀ c ∈ Standard.classes.classes, P c) ↔
      P builderBaseClass ∧ P flowBuilderClass ∧ P documentBuilderClass ∧
        P headBuilderClass ∧ P bodyBuilderClass ∧ P divBuilderClass ∧ P rootClass := by
  simp [classes]

/-- What is true of the library's classes one by one. -/
@[elab_as_elim]
theorem ClassTable.forall_library {id : ClassId} {P : ClassId → Prop} (builderBase : P Standard.builderBase)
    (flow : P Standard.flowBuilder) (document : P Standard.documentBuilder)
    (head : P Standard.headBuilder) (body : P Standard.bodyBuilder) (div : P Standard.divBuilder)
    (root : P Standard.root) (library : id.index < Standard.classes.classes.length) : P id := by
  obtain ⟨index⟩ := id
  have index : index = 0 ∨ index = 1 ∨ index = 2 ∨ index = 3 ∨ index = 4 ∨ index = 5 ∨
      index = 6 := by
    have : index < 7 := library
    omega
  rcases index with rfl | rfl | rfl | rfl | rfl | rfl | rfl <;> assumption

/-- What starts builders of the library's classes is a starter. -/
theorem Standard.exists_starter {c : BuilderClass} (among : c ∈ Standard.classes.classes)
    {member : Member} (found : c.members.find? Hook.start.name = some member) :
    ∃ starter, member = .starter starter := by
  revert c
  rw [forall_classes]
  refine ⟨?_, ?_, ?_, ?_, ?_, ?_, ?_⟩ <;> intro found <;> cases found <;> exact ⟨_, rfl⟩

/-- All that start builders are classes of builders, and all but the class of all builders let the
next class start them first. -/
theorem Standard.home_cases {id : ClassId} (inside : id.index < classes.classes.length)
    {starter : Starter}
    (found : (classes.get id).members.find? Hook.start.name = some (.starter starter)) :
    builderBase ∈ classes.line id ∧ (id = builderBase ∨ starter.home = some id) := by
  revert found
  refine ClassTable.forall_library ?_ ?_ ?_ ?_ ?_ ?_ ?_ inside <;> intro found <;> cases found
  · exact ⟨by decide, .inl rfl⟩
  all_goals exact ⟨by decide, .inr rfl⟩

/-- The attributes that builders of the library's classes may have of their own. -/
def attributeNames : List String :=
  ["_finalized", "_children", "_title", "_head", "_body", "id", "class_name"]

/-- What the library's builders start with. -/
inductive StartsWith : String → Value → Prop
  | unfinished : StartsWith "_finalized" (.bool false)
  | childless : StartsWith "_children" (.list [])
  | slot {name : String} (among : name ∈ ["_title", "_head", "_body"]) : StartsWith name .null
  | option {name : String} (among : name ∈ ["id", "class_name"]) (value : Value) :
      StartsWith name value

theorem StartsWith.mem_attributeNames {name : String} {value : Value}
    (starts : StartsWith name value) : name ∈ attributeNames := by
  cases starts with
  | unfinished => decide
  | childless => decide
  | slot among =>
      revert name
      decide
  | option among value =>
      revert name
      decide

/-- Builders start unfinished, without children and with empty slots. -/
theorem StartsWith.flag {value : Value} (starts : StartsWith "_finalized" value) :
    value = .bool false := by
  generalize same : "_finalized" = name at starts
  cases starts with
  | unfinished => rfl
  | childless => simp at same
  | slot among => simp [← same] at among
  | option among value => simp [← same] at among

theorem StartsWith.children {value : Value} (starts : StartsWith "_children" value) :
    value = .list [] := by
  generalize same : "_children" = name at starts
  cases starts with
  | unfinished => simp at same
  | childless => rfl
  | slot among => simp [← same] at among
  | option among value => simp [← same] at among

theorem StartsWith.null {name : String} {value : Value} (starts : StartsWith name value)
    (slot : name ∈ ["_title", "_head", "_body"]) : value = .null := by
  cases starts with
  | unfinished => simp at slot
  | childless => simp at slot
  | slot => rfl
  | option among value =>
      have other : ∀ name ∈ ["_title", "_head", "_body"], name ∉ ["id", "class_name"] := by decide
      exact absurd among (other name slot)

/-- Whether a starter is one of the library's. -/
def Starter.Known (starter : Starter) : Prop :=
  ∃ c ∈ Standard.classes.classes, c.members.find? Hook.start.name = some (.starter starter)

/-- It is classes of the library that let others start builders first. -/
theorem Starter.Known.home_inside {starter : Starter} (known : starter.Known) {home : ClassId}
    (passes : starter.home = some home) : home.index < Standard.classes.classes.length := by
  obtain ⟨c, among, found⟩ := known
  revert c
  rw [Standard.forall_classes]
  refine ⟨?_, ?_, ?_, ?_, ?_, ?_, ?_⟩ <;> intro found <;> cases found <;> cases passes <;> decide

theorem Starter.Known.startsWith {starter : Starter} (known : starter.Known) (given : Options) :
    ∀ entry ∈ (starter.started given).entries, StartsWith entry.1 entry.2 := by
  obtain ⟨c, among, found⟩ := known
  have slot : ∀ name ∈ ["_title", "_head", "_body"], StartsWith name .null := fun _ => .slot
  have option : ∀ name ∈ ["id", "class_name"], ∀ value, StartsWith name value := fun _ => .option
  revert c
  rw [Standard.forall_classes]
  refine ⟨?_, ?_, ?_, ?_, ?_, ?_, ?_⟩ <;> intro found <;> cases found
  · simp [started, StartsWith.unfinished]
  · simp [started, StartsWith.childless]
  · simp [started, slot]
  · simp [started, slot]
  · -- The options of a division are kept if they are given.
    simp only [started, List.foldl]
    cases given.lookup "id" <;> cases given.lookup "class_" <;>
      simp [Bindings.bind, Bindings.bindIn, option]

/-- Attributes of a builder that has just been made: it is not finalized. -/
def Standard.fresh (others : List (String × Value)) : Bindings String Value :=
  ⟨("_finalized", .bool false) :: others⟩

/-- The options change the attributes that a builder starts with, not their names. -/
theorem Starter.Known.names_started {starter : Starter} (known : starter.Known) (given : Options) :
    (starter.started given).entries.map Prod.fst = (starter.started []).entries.map Prod.fst := by
  obtain ⟨c, among, found⟩ := known
  revert c
  rw [Standard.forall_classes]
  refine ⟨?_, ?_, ?_, ?_, ?_, ?_, ?_⟩ <;> intro found <;> cases found
  case refine_6 =>
    simp only [started, List.foldl]
    cases given.lookup "id" <;> cases given.lookup "class_" <;> rfl
  all_goals rfl

/-! ### Attributes that are assigned one after the other -/

namespace Bindings

variable {κ α : Type} [DecidableEq κ]

/-- The table in which all these keys are bound in order. -/
def bindAll (table : Bindings κ α) (entries : List (κ × α)) : Bindings κ α :=
  entries.foldl (fun bound entry => bound.bind entry.1 entry.2) table

theorem bindAll_append (table : Bindings κ α) (first second : List (κ × α)) :
    table.bindAll (first ++ second) = (table.bindAll first).bindAll second :=
  List.foldl_append

/-- What is found after keys have been bound has been bound or was there. -/
theorem mem_of_find?_bindAll {key : κ} {value : α} :
    ∀ {entries : List (κ × α)} {table : Bindings κ α},
      (table.bindAll entries).find? key = some value →
        (key, value) ∈ entries ∨ table.find? key = some value
  | [], _, found => .inr found
  | (other, bound) :: rest, table, found => by
      have earlier : ((table.bind other bound).bindAll rest).find? key = some value := found
      rcases mem_of_find?_bindAll earlier with among | found
      · exact .inl (List.mem_cons_of_mem _ among)
      · by_cases same : key = other
        · subst same
          cases (find?_bind_self table key bound).symm.trans found
          exact .inl (List.mem_cons_self ..)
        · exact .inr ((find?_bind_of_ne table same bound).symm.trans found)

/-- Every key that has been bound is found. -/
theorem find?_bindAll_isSome {key : κ} :
    ∀ {entries : List (κ × α)} {table : Bindings κ α},
      key ∈ entries.map Prod.fst ∨ (table.find? key).isSome = true →
        ((table.bindAll entries).find? key).isSome = true
  | [], _, bound => bound.elim (fun among => absurd among List.not_mem_nil) id
  | (other, value) :: rest, table, bound => by
      change (((table.bind other value).bindAll rest).find? key).isSome = true
      refine find?_bindAll_isSome ?_
      by_cases same : key = other
      · subst same
        exact .inr (by rw [find?_bind_self]; rfl)
      · rw [find?_bind_of_ne table same]
        exact bound.imp (fun among => (List.mem_cons.1 among).resolve_left same) id

end Bindings

/-! ### What is assigned along a line -/

namespace ClassTable

/-- What the classes in a row assign to a builder that they start. -/
def entriesAlong (table : ClassTable) : List ClassId → List (String × Value)
  | [] => []
  | next :: rest =>
      match (table.get next).members.find? Hook.start.name with
      | some (.starter starter) =>
          (if starter.home.isSome then table.entriesAlong rest else []) ++
            (starter.started []).entries
      | _ => table.entriesAlong rest

/-- What is assigned to a builder that is started with options. -/
def startEntries (table : ClassTable) (id : ClassId) (starter : Starter) (given : Options) :
    List (String × Value) :=
  (match starter.home with
    | none => []
    | some home => table.entriesAlong (table.lineBehind id home)) ++
    (starter.started given).entries

/-- The attributes of a builder that has just been started with options. -/
def startHeld (table : ClassTable) (id : ClassId) (starter : Starter) (given : Options) :
    Bindings String Value :=
  Bindings.empty.bindAll (table.startEntries id starter given)

/-- A class in the line of which the library's starters start builders, and can assign what they
assign. -/
structure StartsPlainly (table : ClassTable) (id : ClassId) : Prop where
  write : table.hook? id .write = none
  starters : ∀ c ∈ table.line id, ∀ member,
    (table.get c).members.find? Hook.start.name = some member →
      ∃ known ∈ Standard.classes.classes, known.members.find? Hook.start.name = some member
  uncomputed : ∀ name ∈ attributeNames, ∀ owner property,
    table.resolve id name ≠ some (owner, .property property)

variable {table : ClassTable} {id home : ClassId} {starter : Starter} {given : Options}

/-- What stands behind a class in the line of another stands in that line. -/
theorem mem_line_of_lineBehind {c : ClassId} (behind : c ∈ table.lineBehind id home) :
    c ∈ table.line id :=
  (List.dropWhile_sublist _).subset (List.mem_of_mem_tail behind)

/-- Rows of classes with the same starters assign the same. -/
theorem entriesAlong_congr {other : ClassTable} :
    ∀ {row : List ClassId}, (∀ c ∈ row, (table.get c).members.find? Hook.start.name =
        (other.get c).members.find? Hook.start.name) →
      table.entriesAlong row = other.entriesAlong row
  | [], _ => rfl
  | next :: rest, same => by
      unfold entriesAlong
      rw [same next (List.mem_cons_self ..),
        entriesAlong_congr fun c there => same c (List.mem_cons_of_mem next there)]

theorem startHeld_congr {other : ClassTable} (line : table.line id = other.line id)
    (same : ∀ c ∈ table.line id, (table.get c).members.find? Hook.start.name =
      (other.get c).members.find? Hook.start.name) (starter : Starter) (given : Options) :
    table.startHeld id starter given = other.startHeld id starter given := by
  have behind : ∀ home, table.entriesAlong (table.lineBehind id home) =
      other.entriesAlong (other.lineBehind id home) := by
    intro home
    rw [entriesAlong_congr fun c there => same c (mem_line_of_lineBehind there)]
    unfold lineBehind
    rw [line]
  unfold startHeld startEntries
  cases starter.home with
  | none => rfl
  | some home => exact congrArg _ (congrArg (· ++ _) (behind home))

theorem mem_entriesAlong {entry : String × Value} :
    ∀ {row : List ClassId}, entry ∈ table.entriesAlong row →
      ∃ c ∈ row, ∃ starter, (table.get c).members.find? Hook.start.name = some (.starter starter) ∧
        entry ∈ (starter.started []).entries
  | next :: rest, among => by
      have behind : entry ∈ table.entriesAlong rest → ∃ c ∈ next :: rest, ∃ starter,
          (table.get c).members.find? Hook.start.name = some (.starter starter) ∧
            entry ∈ (starter.started []).entries := fun among =>
        have ⟨c, there, found⟩ := mem_entriesAlong among
        ⟨c, List.mem_cons_of_mem _ there, found⟩
      unfold entriesAlong at among
      split at among
      · next starter found =>
        rcases List.mem_append.1 among with among | own
        · split at among
          · exact behind among
          · cases among
        · exact ⟨next, List.mem_cons_self .., starter, found, own⟩
      · exact behind among

/-- A class of a row assigns its attributes unless one before it lets nothing behind it start the
builder. -/
theorem mem_entriesAlong_of_starter {c : ClassId}
    (found : (table.get c).members.find? Hook.start.name = some (.starter starter)) :
    ∀ {row : List ClassId}, c ∈ row →
      (∀ d ∈ row, ∀ member, (table.get d).members.find? Hook.start.name = some member →
        ∃ starter, member = .starter starter) →
      (∀ front d rest starter, row = front ++ d :: rest →
        (table.get d).members.find? Hook.start.name = some (.starter starter) →
          starter.home = none → c ∉ rest) →
      ∀ entry ∈ (starter.started []).entries, entry ∈ table.entriesAlong row
  | next :: rest, there, starters, reached, entry, among => by
      have later : c ∈ rest → entry ∈ table.entriesAlong rest := fun behind =>
        mem_entriesAlong_of_starter found behind
          (fun d there => starters d (List.mem_cons_of_mem next there))
          (fun front d others starter split =>
            reached (next :: front) d others starter (by rw [split]; rfl)) entry among
      unfold entriesAlong
      rcases List.mem_cons.1 there with rfl | behind
      · rw [found]
        exact List.mem_append_right _ among
      · cases own : (table.get next).members.find? Hook.start.name with
        | none => exact later behind
        | some member =>
            obtain ⟨other, rfl⟩ := starters next (List.mem_cons_self ..) member own
            cases home : other.home with
            | none => exact absurd behind (reached [] next rest other rfl own home)
            | some _ =>
                dsimp only
                rw [home, Option.isSome_some, if_pos rfl]
                exact List.mem_append_left _ (later behind)

namespace StartsPlainly

variable (plain : table.StartsPlainly id)

include plain

theorem known {c : ClassId} (there : c ∈ table.line id) {starter : Starter}
    (found : (table.get c).members.find? Hook.start.name = some (.starter starter)) :
    starter.Known :=
  plain.starters c there _ found

/-- The class starts its builders with a starter, if with anything. -/
theorem known_of_resolve {owner : ClassId}
    (start : table.hook? id .start = some (owner, .starter starter)) : starter.Known := by
  obtain ⟨there, found⟩ := resolveAlong_eq_some start
  exact plain.known there found

/-- What is assigned is what the library's builders start with. -/
theorem startsWith (known : starter.Known) :
    ∀ entry ∈ table.startEntries id starter given, StartsWith entry.1 entry.2 := by
  intro entry among
  rcases List.mem_append.1 among with behind | own
  · split at behind
    · cases behind
    · next home _ =>
      obtain ⟨c, there, starter, found, assigned⟩ := mem_entriesAlong behind
      exact (plain.known (mem_line_of_lineBehind there) found).startsWith [] entry assigned
  · exact known.startsWith given entry own

theorem startsWith_held (known : starter.Known) {name : String} {value : Value}
    (held : (table.startHeld id starter given).find? name = some value) :
    StartsWith name value := by
  rcases Bindings.mem_of_find?_bindAll held with among | absent
  · exact plain.startsWith known _ among
  · cases absent

end StartsPlainly

end ClassTable

/-! ### New builders -/

namespace Store

variable {store : Store} {id : ClassId}

/-- What is assigned to the newest builder it might have been added with. -/
theorem assign_add_new (store : Store) (builder : Builder) (name : String) (value : Value) :
    (store.add builder).2.assign (store.add builder).1 name value =
      (store.add { builder with held := builder.held.bind name value }).2 := by
  have inside : store.builders.length < (store.builders ++ [builder]).length := by simp
  simp [assign, add, List.modify_eq_take_cons_drop inside]

/-- Nothing is in the way of what the library's builders start with. -/
theorem write_of_plain {b : BuilderRef} (plain : store.classes.StartsPlainly (store.get b).classId)
    (builder : store.foreign? b = none) {name : String} (own : name ∈ attributeNames)
    (value : Value) : store.write b name value = .ok (store.assign b name value) := by
  have special : ∀ other ∈ [kindName, attributesName], name ≠ other := by
    rintro other special rfl
    revert name
    decide
  have uncomputed : store.property? b name = none := by
    unfold property?
    split
    · next owner property resolved => exact absurd resolved (plain.uncomputed name own owner property)
    · rfl
  exact write_eq_assign builder plain.write uncomputed (special _ (by simp)) (special _ (by simp)) value

theorem write_add_new (plain : store.classes.StartsPlainly id) {name : String}
    (own : name ∈ attributeNames) (value : Value) (held : Bindings String Value) :
    (store.add ⟨id, held, none⟩).2.write ⟨store.builders.length⟩ name value =
      .ok (store.add ⟨id, held.bind name value, none⟩).2 := by
  have new : (store.add ⟨id, held, none⟩).2.get ⟨store.builders.length⟩ = ⟨id, held, none⟩ :=
    get_add_new store _
  rw [write_of_plain (by rw [new]; exact plain) (foreign?_of_get new) own]
  exact congrArg Except.ok (assign_add_new store _ name value)

/-- Starting a new builder is binding what it starts with. -/
theorem writeAll_add_new (plain : store.classes.StartsPlainly id) :
    ∀ (entries : List (String × Value)), (∀ entry ∈ entries, entry.1 ∈ attributeNames) →
      ∀ held : Bindings String Value,
        (store.add ⟨id, held, none⟩).2.writeAll ⟨store.builders.length⟩ entries =
          .ok (store.add ⟨id, held.bindAll entries, none⟩).2
  | [], _, _ => rfl
  | (name, value) :: rest, own, held => by
      rw [writeAll, write_add_new plain (own _ (List.mem_cons_self ..)) value held]
      exact writeAll_add_new plain rest (fun entry among => own entry (List.mem_cons_of_mem _ among))
        (held.bind name value)

end Store

namespace Caller

variable {ρ : Type} {s : Session ρ} {id owner : ClassId} {starter : Starter}

/-- Along a row of starters every class assigns its attributes, those behind first. -/
theorem startAlong_add_new (call : Caller ρ) (plain : s.store.classes.StartsPlainly id)
    (row : List ClassId) (within : ∀ c ∈ row, c ∈ s.store.classes.line id)
    (held : Bindings String Value) :
    call.startAlong ⟨s.store.builders.length⟩ row
        { s with store := (s.store.add ⟨id, held, none⟩).2 } =
      .ok () { s with
        store := (s.store.add ⟨id, held.bindAll (s.store.classes.entriesAlong row), none⟩).2 } := by
  induction row with
  | nil => rfl
  | cons next rest ih =>
      have others := ih fun c there => within c (List.mem_cons_of_mem _ there)
      have members : (s.store.add ⟨id, held, none⟩).2.classes = s.store.classes := rfl
      unfold startAlong ClassTable.entriesAlong
      rw [observe_bind, members]
      cases found : (s.store.classes.get next).members.find? Hook.start.name with
      | none => exact others
      | some member =>
          obtain ⟨c, among, known⟩ := plain.starters next (within next (List.mem_cons_self ..)) _ found
          obtain ⟨starter, rfl⟩ := Standard.exists_starter among known
          have known : starter.Known := ⟨c, among, known⟩
          -- What the class itself assigns comes behind what the row has assigned.
          have own : ∀ held : Bindings String Value,
              (perform fun store => store.start ⟨s.store.builders.length⟩ starter [] : BuildM ρ Unit)
                  { s with store := (s.store.add ⟨id, held, none⟩).2 } =
                .ok () { s with
                  store := (s.store.add ⟨id, held.bindAll (starter.started []).entries, none⟩).2 } := by
            intro held
            rw [perform_apply, Store.start, Store.writeAll_add_new plain _ fun entry among =>
              (known.startsWith [] entry among).mem_attributeNames]
          dsimp only
          cases passes : starter.home.isSome with
          | false => exact own held
          | true =>
              rw [if_pos rfl, if_pos rfl, bind_of_ok others, Bindings.bindAll_append]
              exact own _

/-- A new builder is started with what the classes in its line assign. -/
theorem startWith_add_new (call : Caller ρ) (plain : s.store.classes.StartsPlainly id)
    (known : starter.Known) (given : Options) :
    call.startWith ⟨s.store.builders.length⟩ starter given
        { s with store := (s.store.add ⟨id, .empty, none⟩).2 } =
      .ok () { s with
        store := (s.store.add ⟨id, s.store.classes.startHeld id starter given, none⟩).2 } := by
  have new : (s.store.add ⟨id, .empty, none⟩).2.get ⟨s.store.builders.length⟩ =
      ⟨id, .empty, none⟩ := Store.get_add_new s.store _
  have own : ∀ held : Bindings String Value,
      (perform fun store => store.start ⟨s.store.builders.length⟩ starter given : BuildM ρ Unit)
          { s with store := (s.store.add ⟨id, held, none⟩).2 } =
        .ok () { s with
          store := (s.store.add ⟨id, held.bindAll (starter.started given).entries, none⟩).2 } := by
    intro held
    rw [perform_apply, Store.start, Store.writeAll_add_new plain _ fun entry among =>
      (known.startsWith given entry among).mem_attributeNames]
  unfold startWith ClassTable.startHeld ClassTable.startEntries
  cases starter.home with
  | none => exact own .empty
  | some home =>
      dsimp only
      rw [observe_bind, new, Bindings.bindAll_append]
      have behind := call.startAlong_add_new plain (s.store.classes.lineBehind id home)
        (fun c => ClassTable.mem_line_of_lineBehind) .empty
      exact (bind_of_ok behind).trans (own _)

/-- Creating a builder of a class in the line of which there are starters only refuses the options,
or adds a builder that has been started with them. -/
theorem create_of_plain (call : Caller ρ) (plain : s.store.classes.StartsPlainly id)
    (make : s.store.classes.hook? id .make = none)
    (start : s.store.initializer id = .ok (some (owner, .starter starter))) (options : Options) :
    call.create id options s =
      match s.store.bindOptions owner starter options with
      | .ok given => .ok ⟨s.store.builders.length⟩ { s with
          store := (s.store.add ⟨id, s.store.classes.startHeld id starter given, none⟩).2 }
      | .error fault => .error fault s := by
  unfold create createBuilder
  rw [observe_bind, make]
  show (query _ >>= _) s = _
  rw [bind_of_ok (query_eq_ok.2 ⟨start, rfl⟩)]
  dsimp only
  have known : starter.Known := by
    unfold Store.initializer at start
    split at start
    · cases start
    · exact plain.known_of_resolve (Except.ok.inj start)
  cases bound : s.store.bindOptions owner starter options with
  | error fault => exact bind_of_error (by rw [query_apply, bound])
  | ok given =>
      rw [bind_of_ok (query_eq_ok.2 ⟨bound, rfl⟩)]
      have added : (transact fun store => store.createBare id [] : BuildM ρ BuilderRef) s =
          .ok ⟨s.store.builders.length⟩ { s with store := (s.store.add ⟨id, .empty, none⟩).2 } := rfl
      rw [bind_of_ok added]
      exact bind_of_ok (call.startWith_add_new plain known given)

end Caller

end ScopedHtml
