import ScopedHtml.Proofs.Definitions

/-!
# ScopedHtml.Proofs.Hierarchy

**What the classes of a hierarchy say that they support.** Classes are defined one after the
other, by definitions that may fail (`Defines`). Each builder class keeps a register of its
own, which continues that of the first class behind it with one. `ClassTable.Accumulates` says
that all the same every register tells of the whole hierarchy: what any builder class in the
line of the class decorates is in it, private names apart, and nothing else. A definition
preserves that (`Definition.accumulates`) and touches no class that was there.

Plain classes may stand anywhere among the bases. One that has something of its own under the
name of the register makes a definition fail or stands behind the register that counts.
-/

namespace ScopedHtml

open BuildM

variable {ρ : Type}

/-- Classes that have been defined, with the names that their bodies decorate. -/
abbrev Decorations := List (ClassId × List String)

/-- What the bodies of the library's classes decorate. -/
def Standard.decorations : Decorations :=
  [(builderBase, []), (flowBuilder, ["div"]), (documentBuilder, ["head", "body"]),
    (headBuilder, []), (bodyBuilder, []), (divBuilder, []), (root, [])]

/-- One session comes from another by definitions, some of which may have failed; the classes
of the others are added to those that were known. -/
inductive Defines (s : Session ρ) (known : Decorations) : Session ρ → Decorations → Prop
  | refl : Defines s known s known
  | defined {t u : Session ρ} {more : Decorations} {definition : Definition} {id : ClassId} :
      Defines s known t more → definition.Proper t.store.classes →
      definition.run t = .ok id u → Defines s known u (more ++ [(id, definition.body.decorated)])
  | refused {t u : Session ρ} {more : Decorations} {definition : Definition} {fault : Fault} :
      Defines s known t more → definition.Proper t.store.classes →
      definition.run t = .error fault u → Defines s known u more

/-! ### Registers of whole hierarchies -/

/-- Whether a class is one of those that have been defined. -/
def Decorations.Has (known : Decorations) (id : ClassId) : Prop := ∃ names, (id, names) ∈ known

theorem Decorations.has_learned {known : Decorations} {id c : ClassId} {decorated : List String} :
    Decorations.Has (known ++ [(id, decorated)]) c ↔ known.Has c ∨ c = id := by
  simp [Decorations.Has, exists_or]

/-- Whether a class or a builder class behind it decorates a name that is not private. -/
def ClassTable.Decorates (table : ClassTable) (known : Decorations) (id : ClassId)
    (name : String) : Prop :=
  isPrivate name = false ∧ ∃ c ∈ table.line id, table.isBuilder c = true ∧
    ∃ names, (c, names) ∈ known ∧ name ∈ names

theorem ClassTable.decorates_iff {table : ClassTable} {known : Decorations} {id : ClassId}
    {name : String} : table.Decorates known id name ↔ isPrivate name = false ∧
      name ∈ (known.filter fun entry =>
        entry.1 ∈ table.line id && table.isBuilder entry.1).flatMap Prod.snd := by
  unfold Decorates
  refine and_congr_right fun _ => ?_
  simp only [List.mem_flatMap, List.mem_filter, Bool.and_eq_true, decide_eq_true_eq, Prod.exists]
  constructor
  · rintro ⟨c, behind, builder, names, among, there⟩
    exact ⟨c, names, ⟨among, behind, builder⟩, there⟩
  · rintro ⟨c, names, ⟨among, behind, builder⟩, there⟩
    exact ⟨c, behind, builder, names, among, there⟩

/-- The classes that are known stand in lines of known classes, and each of them that is one
of builders has a register of what is decorated in its line. -/
structure ClassTable.Accumulates (table : ClassTable) (known : Decorations) : Prop where
  base : table.get Standard.builderBase = Standard.builderBaseClass
  library : ∀ entry ∈ Standard.decorations, entry ∈ known
  names : ∀ name id, table.names.find? name = some id → known.Has id
  inside : ∀ id, known.Has id → id.index < table.classes.length
  line : ∀ id, known.Has id → ∀ c ∈ table.line id, known.Has c
  nested : ∀ id, known.Has id → ∀ c ∈ table.line id, ∀ d ∈ table.line c, d ∈ table.line id
  calm : ∀ id, known.Has id → id ≠ Standard.builderBase → (table.get id).Calm
  plain : ∀ id, known.Has id → table.isBuilder id = false → ∀ member,
    (table.get id).members.find? registerName = some member → member = .data .null
  register : ∀ id, known.Has id → table.isBuilder id = true → ∃ names,
    (table.get id).members.find? registerName = some (.data (.tags names)) ∧
      names.Pairwise (· < ·) ∧ ∀ name, name ∈ names ↔ table.Decorates known id name

/-- The library's classes have such registers. -/
theorem Standard.accumulates : Standard.classes.Accumulates Standard.decorations where
  base := rfl
  library := fun _ among => among
  names := by
    intro name id bound
    have all : ∀ entry ∈ Standard.classes.names.entries,
        entry.2 ∈ decorations.map Prod.fst := by decide
    obtain ⟨⟨_, names⟩, among, rfl⟩ := List.mem_map.1 (all _ (Bindings.mem_of_findIn bound))
    exact ⟨names, among⟩
  inside := by
    rintro id ⟨names, among⟩
    have all : ∀ entry ∈ decorations, entry.1.index < classes.classes.length := by decide
    exact all _ among
  line := by
    rintro id ⟨names, among⟩ c behind
    have all : ∀ entry ∈ decorations, ∀ c ∈ classes.line entry.1, c ∈ decorations.map Prod.fst := by
      decide
    obtain ⟨⟨_, names⟩, among, rfl⟩ := List.mem_map.1 (all _ among c behind)
    exact ⟨names, among⟩
  nested := by
    rintro id ⟨names, among⟩
    have all : ∀ entry ∈ decorations, ∀ c ∈ classes.line entry.1, ∀ d ∈ classes.line c,
        d ∈ classes.line entry.1 := by decide
    exact all _ among
  calm := by
    rintro id ⟨names, among⟩ other
    have all : ∀ entry ∈ decorations, entry.1 ≠ builderBase →
        ((classes.get entry.1).members.find? "elements").isNone = true ∧
          ((classes.get entry.1).members.find? Hook.heir.name).isNone = true := by decide
    obtain ⟨elements, heir⟩ := all _ among other
    refine ⟨Option.isNone_iff_eq_none.1 elements, fun member found => ?_⟩
    rw [Option.isNone_iff_eq_none.1 heir] at found
    cases found
  plain := by
    rintro id ⟨names, among⟩ plain member found
    have all : ∀ entry ∈ decorations, classes.isBuilder entry.1 = false →
        ((classes.get entry.1).members.find? registerName).isNone = true := by decide
    rw [Option.isNone_iff_eq_none.1 (all _ among plain)] at found
    cases found
  register := by
    rintro id ⟨names, among⟩ builder
    have whole : ∀ {id : ClassId} {names : List String}, ((decorations.filter fun entry =>
        entry.1 ∈ classes.line id && classes.isBuilder entry.1).flatMap Prod.snd).Perm names →
          (∀ name ∈ names, isPrivate name = false) →
            ∀ name, name ∈ names ↔ classes.Decorates decorations id name := by
      intro id names same shown name
      rw [ClassTable.decorates_iff, same.mem_iff]
      exact ⟨fun among => ⟨shown name among, among⟩, And.right⟩
    simp only [decorations, List.mem_cons, Prod.mk.injEq, List.not_mem_nil, or_false] at among
    rcases among with
      ⟨rfl, _⟩ | ⟨rfl, _⟩ | ⟨rfl, _⟩ | ⟨rfl, _⟩ | ⟨rfl, _⟩ | ⟨rfl, _⟩ | ⟨rfl, _⟩
    case inr.inr.inr.inr.inr.inr => cases builder
    all_goals exact ⟨_, rfl, by decide, whole (by decide) (by decide)⟩

/-! ### Tables that keep what is known -/

namespace ClassTable.Accumulates

variable {table after : ClassTable} {known : Decorations} {id : ClassId}

theorem root (accumulates : table.Accumulates known) : known.Has Standard.root :=
  ⟨[], accumulates.library _ (by decide)⟩

theorem line_of_same (same : ∀ id, known.Has id → after.get id = table.get id)
    (has : known.Has id) : after.line id = table.line id :=
  line_congr (same id has)

theorem isBuilder_of_same (same : ∀ id, known.Has id → after.get id = table.get id)
    (has : known.Has id) : after.isBuilder id = table.isBuilder id := by
  unfold ClassTable.isBuilder ClassTable.inherits
  rw [line_of_same same has]

theorem decorates_of_same (accumulates : table.Accumulates known)
    (same : ∀ id, known.Has id → after.get id = table.get id) (has : known.Has id)
    (name : String) : after.Decorates known id name ↔ table.Decorates known id name := by
  unfold ClassTable.Decorates
  rw [line_of_same same has]
  refine and_congr_right fun _ => exists_congr fun c => and_congr_right fun behind => ?_
  rw [isBuilder_of_same same (accumulates.line id has c behind)]

/-- A table with the same names in which the known classes are what they were. -/
theorem of_same (accumulates : table.Accumulates known)
    (length : table.classes.length ≤ after.classes.length) (names : after.names = table.names)
    (same : ∀ id, known.Has id → after.get id = table.get id) : after.Accumulates known := by
  constructor
  case base =>
    exact (same _ ⟨[], accumulates.library _ (by decide)⟩).trans accumulates.base
  case library => exact accumulates.library
  case names => rw [names]; exact accumulates.names
  case inside => exact fun id has => Nat.lt_of_lt_of_le (accumulates.inside id has) length
  case line => exact fun id has => line_of_same same has ▸ accumulates.line id has
  case nested =>
    intro id has c behind d further
    rw [line_of_same same has] at behind ⊢
    rw [line_of_same same (accumulates.line id has c behind)] at further
    exact accumulates.nested id has c behind d further
  case calm => exact fun id has other => same id has ▸ accumulates.calm id has other
  case plain =>
    intro id has plain
    rw [isBuilder_of_same same has] at plain
    exact same id has ▸ accumulates.plain id has plain
  case register =>
    intro id has yes
    rw [isBuilder_of_same same has] at yes
    obtain ⟨register, found, increasing, complete⟩ := accumulates.register id has yes
    exact ⟨register, same id has ▸ found, increasing,
      fun name => (complete name).trans (accumulates.decorates_of_same same has name).symm⟩

theorem push (accumulates : table.Accumulates known) (new : BuilderClass) :
    (table.push new).2.Accumulates known :=
  accumulates.of_same (by simp [ClassTable.push]) rfl
    fun id has => get_push_of_lt (accumulates.inside id has) new

theorem assign (accumulates : table.Accumulates known) (unknown : ¬ known.Has id) (name : String)
    (member : Member) : (table.assign id name member).Accumulates known :=
  accumulates.of_same (by simp) rfl fun other has =>
    get_assign_of_ne table (by rintro rfl; exact unknown has) name member

theorem bindName (accumulates : table.Accumulates known) (has : known.Has id) (name : String) :
    (table.bindName name id).Accumulates known where
  base := accumulates.base
  library := accumulates.library
  names := by
    intro other c bound
    rcases Bindings.find?_bind_eq_some bound with ⟨_, rfl⟩ | old
    · exact has
    · exact accumulates.names other c old
  inside := accumulates.inside
  line := accumulates.line
  nested := accumulates.nested
  calm := accumulates.calm
  plain := accumulates.plain
  register := accumulates.register

/-! ### What stands behind a new class -/

/-- Names are bound to classes that are known. -/
theorem namedAll (accumulates : table.Accumulates known) {names : List String}
    {ids : List ClassId} (bound : table.namedAll names = .ok ids) : ∀ id ∈ ids, known.Has id := by
  intro id inside
  obtain ⟨name, found⟩ := exists_name_of_namedAll bound id inside
  exact accumulates.names name id found

theorem isBuilder_of_behind (accumulates : table.Accumulates known) (has : known.Has id)
    {c : ClassId} (behind : c ∈ table.line id) (builder : table.isBuilder c = true) :
    table.isBuilder id = true :=
  decide_eq_true (accumulates.nested id has c behind _ (of_decide_eq_true builder))

/-- What stands behind a new class is known, and so is what stands behind that. -/
theorem ancestors (accumulates : table.Accumulates known)
    {definition : Definition} {ids : List ClassId} {new : BuilderClass}
    (named : table.namedAll definition.bases = .ok ids)
    (drafted : table.draft definition.name ids definition.body = .ok new) :
    ∀ c ∈ new.ancestors, known.Has c ∧ ∀ d ∈ table.line c, d ∈ new.ancestors := by
  have checked := (ClassTable.draft_eq_ok drafted).1
  have all := forall_directBases accumulates.root (accumulates.namedAll named)
  intro c behind
  obtain ⟨base, direct, there⟩ := (mem_ancestors checked).1 behind
  refine ⟨accumulates.line base (all base direct) c there, fun d further => ?_⟩
  exact (mem_ancestors checked).2
    ⟨base, direct, accumulates.nested base (all base direct) c there d further⟩

/-- Before the base for builders of a new class stand only plain classes. -/
theorem before_builder (accumulates : table.Accumulates known) {ids line : List ClassId}
    (all : ∀ id ∈ directBases ids, known.Has id)
    (single : ∀ a ∈ directBases ids, ∀ b ∈ directBases ids,
      table.isBuilder a = true → table.isBuilder b = true → a = b)
    (checked : table.checkedAncestors ids = .ok line) {base : ClassId}
    (direct : base ∈ directBases ids) (builder : table.isBuilder base = true) :
    ∃ before after, line = before ++ base :: after ∧ ∀ c ∈ before, table.isBuilder c = false := by
  obtain ⟨before, after, rfl, new, clear⟩ := first_of_mergeRows (merge_of_checked checked)
    (Nat.le_refl _) (List.mem_append_left _ (List.mem_map_of_mem direct))
  refine ⟨before, after, rfl, fun c there => Bool.eq_false_iff.2 fun plain => ?_⟩
  -- A builder class stands in the line of a base for builders, so in that of this one.
  obtain ⟨other, among, behind⟩ := (mem_ancestors checked).1 (List.mem_append_left _ there)
  obtain rfl := single other among base direct
    (accumulates.isBuilder_of_behind (all other among) behind plain) builder
  rcases List.mem_cons.1 behind with rfl | behind
  · exact new there
  · exact clear c behind there

/-- The register that is continued is that of the base for builders. -/
theorem inheritedRegistry_eq_ok (accumulates : table.Accumulates known)
    {before after : List ClassId} {base : ClassId} {inherited names : List String}
    (all : ∀ c ∈ before, known.Has c) (plain : ∀ c ∈ before, table.isBuilder c = false)
    (register : (table.get base).members.find? registerName = some (.data (.tags names)))
    (found : table.inheritedRegistry (before ++ base :: after) = .ok inherited) :
    inherited = names := by
  induction before with
  | nil =>
      unfold ClassTable.inheritedRegistry at found
      rw [List.nil_append, resolveAlong_of_own register] at found
      exact (Except.ok.inj found).symm
  | cons first rest ih =>
      have own := accumulates.plain first (all first List.mem_cons_self)
        (plain first List.mem_cons_self)
      unfold ClassTable.inheritedRegistry at found ih
      rw [List.cons_append, ClassTable.resolveAlong] at found
      cases member : (table.get first).members.find? registerName with
      | none =>
          rw [member] at found
          exact ih (fun c there => all c (List.mem_cons_of_mem _ there))
            (fun c there => plain c (List.mem_cons_of_mem _ there)) found
      | some value =>
          -- What a plain class has under the name of the register cannot be continued.
          rw [member, own value member] at found
          cases found

end ClassTable.Accumulates

/-- A definition fails before there is a class, or it adds one, which is registered if it is
one of builders; the name is bound unless the definition fails. -/
theorem Definition.run_cases {s : Session ρ} {known : Decorations}
    (accumulates : s.store.classes.Accumulates known) (definition : Definition) :
    (∃ fault, definition.run s = .error fault s) ∨
      ∃ ids new, s.store.classes.namedAll definition.bases = .ok ids ∧
        s.store.classes.draft definition.name ids definition.body = .ok new ∧
        ((∃ fault, definition.run s =
            .error fault (s.onClasses (s.store.classes.push new).2)) ∨
          ∃ classes,
            (Standard.builderBase ∉ new.ancestors ∧ classes = (s.store.classes.push new).2 ∨
              Standard.builderBase ∈ new.ancestors ∧ (s.store.classes.push new).2.registered
                (s.store.classes.push new).1 = .ok classes) ∧
            ((∃ fault, definition.run s = .error fault (s.onClasses classes)) ∨
              definition.run s = .ok (s.store.classes.push new).1
                (s.onClasses (classes.bindName definition.name (s.store.classes.push new).1)))) := by
  unfold Definition.run define Caller.define
  cases named : s.store.classes.namedAll definition.bases with
  | error fault => exact .inl ⟨fault, bind_of_error (by rw [query_apply, named])⟩
  | ok ids =>
      rw [bind_of_ok (query_eq_ok.2 ⟨named, rfl⟩)]
      cases drafted : s.store.classes.draft definition.name ids definition.body with
      | error fault => exact .inl ⟨fault, bind_of_error (by rw [query_apply, drafted])⟩
      | ok new =>
          rw [bind_of_ok (query_eq_ok.2 ⟨drafted, rfl⟩)]
          refine .inr ⟨ids, new, rfl, drafted, ?_⟩
          have checked := (ClassTable.draft_eq_ok drafted).1
          have pushed := accumulates.push new
          have ancestors := accumulates.ancestors named drafted
          have told := Caller.announce_cases (s := s.onClasses (s.store.classes.push new).2) call
            (s.store.classes.push new).1 new.ancestors pushed.base
            (fun c behind other => pushed.calm c (ancestors c behind).1 other)
            (ClassTable.nodup_ancestors checked)
          have added : (transact fun store => .ok (store.addClass new) : BuildM ρ ClassId) s =
              .ok (s.store.classes.push new).1 (s.onClasses (s.store.classes.push new).2) := rfl
          rw [bind_of_ok added]
          have last := fun t => Caller.bound_cases (ρ := ρ) t definition.name
            (s.store.classes.push new).1 ids
          rcases told with ⟨fault, eq⟩ | ⟨plain, eq⟩ | ⟨builder, classes, registered, eq⟩
          · exact .inl ⟨fault, bind_of_error (discard_eq_error.2 eq)⟩
          · rw [bind_of_ok (discard_of_ok eq)]
            exact .inr ⟨_, .inl ⟨plain, rfl⟩, last _⟩
          · rw [bind_of_ok (discard_of_ok eq)]
            exact .inr ⟨classes, .inr ⟨builder, registered⟩, last _⟩

/-! ### Classes that become known -/

namespace ClassTable.Accumulates

variable {table after : ClassTable} {known : Decorations} {id : ClassId}

/-- What a known class decorates is what it was when another becomes known, which does not stand
behind it. -/
theorem decorates_learned (accumulates : table.Accumulates known) (unknown : ¬ known.Has id)
    {decorated : List String} {c : ClassId} (has : known.Has c) (name : String) :
    table.Decorates (known ++ [(id, decorated)]) c name ↔ table.Decorates known c name := by
  unfold ClassTable.Decorates
  refine and_congr_right fun _ => exists_congr fun d => and_congr_right fun behind =>
    and_congr_right fun _ => exists_congr fun names => and_congr_left fun _ => ?_
  have old : (d, names) ∉ [(id, decorated)] := fun among => by
    cases List.mem_singleton.1 among
    exact unknown (accumulates.line c has _ behind)
  rw [List.mem_append, or_iff_left old]

/-- A class that stands on known ones can become known with what it decorates. -/
theorem learn (accumulates : table.Accumulates known) (unknown : ¬ known.Has id)
    (inside : id.index < table.classes.length) {decorated : List String}
    (ancestors : ∀ c ∈ (table.get id).ancestors, known.Has c)
    (nested : ∀ c ∈ (table.get id).ancestors, ∀ d ∈ table.line c, d ∈ (table.get id).ancestors)
    (calm : (table.get id).Calm)
    (plain : table.isBuilder id = false → ∀ member,
      (table.get id).members.find? registerName = some member → member = .data .null)
    (register : table.isBuilder id = true → ∃ names,
      (table.get id).members.find? registerName = some (.data (.tags names)) ∧
        names.Pairwise (· < ·) ∧
          ∀ name, name ∈ names ↔ table.Decorates (known ++ [(id, decorated)]) id name) :
    table.Accumulates (known ++ [(id, decorated)]) := by
  constructor
  case base => exact accumulates.base
  case library => exact fun entry among => List.mem_append_left _ (accumulates.library entry among)
  case names =>
    exact fun name c bound => Decorations.has_learned.2 (.inl (accumulates.names name c bound))
  case inside =>
    intro c has
    rcases Decorations.has_learned.1 has with has | rfl
    · exact accumulates.inside c has
    · exact inside
  case line =>
    intro c has d behind
    refine Decorations.has_learned.2 ?_
    rcases Decorations.has_learned.1 has with has | rfl
    · exact .inl (accumulates.line c has d behind)
    · exact (List.mem_cons.1 behind).symm.imp_left (ancestors d)
  case nested =>
    intro c has d behind e further
    rcases Decorations.has_learned.1 has with has | rfl
    · exact accumulates.nested c has d behind e further
    · rcases List.mem_cons.1 behind with rfl | behind
      · exact further
      · exact List.mem_cons_of_mem _ (nested d behind e further)
  case calm =>
    intro c has other
    rcases Decorations.has_learned.1 has with has | rfl
    · exact accumulates.calm c has other
    · exact calm
  case plain =>
    intro c has
    rcases Decorations.has_learned.1 has with has | rfl
    · exact accumulates.plain c has
    · exact plain
  case register =>
    intro c has builder
    rcases Decorations.has_learned.1 has with has | rfl
    · obtain ⟨names, found, increasing, complete⟩ := accumulates.register c has builder
      exact ⟨names, found, increasing,
        fun name => (complete name).trans (accumulates.decorates_learned unknown has name).symm⟩
    · exact register builder

end ClassTable.Accumulates

namespace ClassTable.Accumulates

variable {table : ClassTable} {known : Decorations} {definition : Definition}
  {ids : List ClassId} {new : BuilderClass}

theorem unknown_push (accumulates : table.Accumulates known) (new : BuilderClass) :
    ¬ known.Has (table.push new).1 :=
  fun has => Nat.lt_irrefl _ (accumulates.inside _ has)

theorem get_push (accumulates : table.Accumulates known) (new : BuilderClass) {c : ClassId}
    (has : known.Has c) : (table.push new).2.get c = table.get c :=
  get_push_of_lt (accumulates.inside c has) new

/-- A new builder class is registered with what it continues and the openers of its own, and
nothing else is touched. -/
theorem registered_push (accumulates : table.Accumulates known) {new : BuilderClass}
    (behind : ∀ c ∈ new.ancestors, known.Has c) {classes : ClassTable}
    (registered : (table.push new).2.registered (table.push new).1 = .ok classes) :
    ∃ inherited, table.inheritedRegistry new.ancestors = .ok inherited ∧
      classes.get (table.push new).1 = { new with
        members := new.members.bind registerName
          (.data (.tags (extendRegistry inherited new.members))) } ∧
      (table.push new).1.index < classes.classes.length ∧
      (∀ c, known.Has c → classes.get c = table.get c) ∧ classes.Accumulates known := by
  have unknown := accumulates.unknown_push new
  obtain ⟨inherited, continued, rfl⟩ := registered_eq_ok registered
  rw [get_push_new] at continued ⊢
  have same : (table.push new).2.inheritedRegistry new.ancestors =
      table.inheritedRegistry new.ancestors := inheritedRegistry_congr fun c there => by
    rw [accumulates.get_push new (behind c there)]
  have inside : (table.push new).1.index < (table.push new).2.classes.length := by
    simp [ClassTable.push]
  refine ⟨inherited, same ▸ continued, ?_, by rwa [length_classes_assign], fun c has => ?_,
    (accumulates.push new).assign unknown _ _⟩
  · rw [get_assign_self inside, get_push_new]
  · rw [get_assign_of_ne _ (by rintro rfl; exact unknown has), accumulates.get_push new has]

/-- A new plain class becomes known. -/
theorem learn_plain (accumulates : table.Accumulates known) (proper : definition.Proper table)
    (named : table.namedAll definition.bases = .ok ids)
    (drafted : table.draft definition.name ids definition.body = .ok new)
    (plain : Standard.builderBase ∉ new.ancestors) :
    (table.push new).2.Accumulates
      (known ++ [((table.push new).1, definition.body.decorated)]) := by
  have behind := accumulates.ancestors named drafted
  have own : (table.push new).2.get (table.push new).1 = new := get_push_new table new
  have builder : (table.push new).2.isBuilder (table.push new).1 = false := by
    refine decide_eq_false fun there => ?_
    rw [ClassTable.line, own] at there
    rcases List.mem_cons.1 there with same | there
    · exact accumulates.unknown_push new (same ▸ ⟨[], accumulates.library _ (by decide)⟩)
    · exact plain there
  refine (accumulates.push new).learn (accumulates.unknown_push new) ?_ ?_ ?_ ?_ ?_ ?_
  · simp [ClassTable.push]
  · rw [own]
    exact fun c there => (behind c there).1
  · rw [own]
    intro c there
    rw [line_of_same (fun _ => accumulates.get_push new) (behind c there).1]
    exact (behind c there).2
  · rw [own]
    exact (proper.draft_calm drafted).1
  · rw [own]
    exact fun _ => (proper.draft_calm drafted).2
  · intro yes
    cases builder.symm.trans yes

/-- The register that a new builder class continues is that of its base for builders, in whose
line stand all builder classes behind it. -/
theorem exists_base (accumulates : table.Accumulates known) (proper : definition.Proper table)
    (named : table.namedAll definition.bases = .ok ids)
    (drafted : table.draft definition.name ids definition.body = .ok new)
    (builder : Standard.builderBase ∈ new.ancestors) {inherited : List String}
    (continued : table.inheritedRegistry new.ancestors = .ok inherited) :
    ∃ base, inherited.Pairwise (· < ·) ∧
      (∀ name, name ∈ inherited ↔ table.Decorates known base name) ∧
      (∀ c ∈ table.line base, c ∈ new.ancestors) ∧
      ∀ c ∈ new.ancestors, table.isBuilder c = true → c ∈ table.line base := by
  have checked := (ClassTable.draft_eq_ok drafted).1
  have all := forall_directBases accumulates.root (accumulates.namedAll named)
  have single : ∀ a ∈ directBases ids, ∀ b ∈ directBases ids,
      table.isBuilder a = true → table.isBuilder b = true → a = b := by
    unfold directBases
    split
    · intro a first b second _ _
      rw [List.mem_singleton.1 first, List.mem_singleton.1 second]
    · exact proper.single ids named
  obtain ⟨base, direct, there⟩ := (mem_ancestors checked).1 builder
  have isBuilder : table.isBuilder base = true := decide_eq_true there
  obtain ⟨before, after, split, plain⟩ :=
    accumulates.before_builder all single checked direct isBuilder
  obtain ⟨names, found, increasing, complete⟩ :=
    accumulates.register base (all base direct) isBuilder
  rw [split] at continued
  have has : ∀ c ∈ before, known.Has c := fun c among =>
    (accumulates.ancestors named drafted c (split ▸ List.mem_append_left _ among)).1
  obtain rfl := accumulates.inheritedRegistry_eq_ok has plain found continued
  refine ⟨base, increasing, complete, fun c there => ?_, fun c behind yes => ?_⟩
  · exact (mem_ancestors checked).2 ⟨base, direct, there⟩
  · obtain ⟨other, among, inside⟩ := (mem_ancestors checked).1 behind
    obtain rfl := single other among base direct
      (accumulates.isBuilder_of_behind (all other among) inside yes) isBuilder
    exact inside

/-- What a new builder class decorates together with what is behind it: what is decorated in
the line of its base for builders, and what it decorates itself. -/
theorem decorates_new {after : ClassTable} {id base : ClassId} {decorated : List String}
    (same : ∀ c, known.Has c → after.get c = table.get c) (unknown : ¬ known.Has id)
    (line : after.line id = id :: new.ancestors) (builder : after.isBuilder id = true)
    (above : ∀ c ∈ table.line base, c ∈ new.ancestors)
    (below : ∀ c ∈ new.ancestors, table.isBuilder c = true → c ∈ table.line base)
    (name : String) : after.Decorates (known ++ [(id, decorated)]) id name ↔
      table.Decorates known base name ∨ isPrivate name = false ∧ name ∈ decorated := by
  constructor
  · rintro ⟨shown, c, there, yes, names, among, inside⟩
    rcases List.mem_append.1 among with old | new
    · have has : known.Has c := ⟨names, old⟩
      rw [isBuilder_of_same same has] at yes
      rw [line] at there
      rcases List.mem_cons.1 there with rfl | there
      · exact absurd has unknown
      · exact .inl ⟨shown, c, below c there yes, yes, names, old, inside⟩
    · cases List.mem_singleton.1 new
      exact .inr ⟨shown, inside⟩
  · rintro (⟨shown, c, there, yes, names, among, inside⟩ | ⟨shown, inside⟩)
    · refine ⟨shown, c, line ▸ List.mem_cons_of_mem _ (above c there), ?_, names,
        List.mem_append_left _ among, inside⟩
      rwa [isBuilder_of_same same ⟨names, among⟩]
    · exact ⟨shown, id, List.mem_cons_self, builder, decorated,
        List.mem_append_right _ (List.mem_singleton_self _), inside⟩

/-- A new builder class becomes known with the register that it is given. -/
theorem learn_builder (accumulates : table.Accumulates known) (proper : definition.Proper table)
    (named : table.namedAll definition.bases = .ok ids)
    (drafted : table.draft definition.name ids definition.body = .ok new)
    (builder : Standard.builderBase ∈ new.ancestors) {classes : ClassTable}
    (registered : (table.push new).2.registered (table.push new).1 = .ok classes) :
    classes.Accumulates (known ++ [((table.push new).1, definition.body.decorated)]) := by
  have behind := accumulates.ancestors named drafted
  have unknown := accumulates.unknown_push new
  obtain ⟨inherited, continued, own, inside, same, kept⟩ :=
    accumulates.registered_push (fun c there => (behind c there).1) registered
  have line : classes.line (table.push new).1 = (table.push new).1 :: new.ancestors := by
    rw [ClassTable.line, own]
  have isBuilder : classes.isBuilder (table.push new).1 = true :=
    decide_eq_true (line ▸ List.mem_cons_of_mem _ builder)
  have members : ∀ name, name ≠ registerName →
      (classes.get (table.push new).1).members.find? name = new.members.find? name := by
    intro name other
    rw [own]
    exact Bindings.find?_bind_of_ne _ other _
  have calm := (proper.draft_calm drafted).1
  refine kept.learn unknown inside ?_ ?_ ?_ ?_ ?_
  · rw [own]
    exact fun c there => (behind c there).1
  · rw [own]
    intro c there
    rw [line_of_same same (behind c there).1]
    exact (behind c there).2
  · exact ⟨(members _ (by decide)).trans calm.elements,
      fun member found => calm.heir member ((members _ (by decide)).symm.trans found)⟩
  · intro no
    cases isBuilder.symm.trans no
  · intro _
    obtain ⟨base, increasing, complete, above, below⟩ :=
      accumulates.exists_base proper named drafted builder continued
    refine ⟨extendRegistry inherited new.members, by rw [own]; exact Bindings.find?_bind_self _ _ _,
      extendRegistry_increasing increasing _, fun name => ?_⟩
    obtain ⟨distinct, openers⟩ := proper.draft_openers drafted
    rw [mem_extendRegistry distinct, complete name,
      decorates_new same unknown line isBuilder above below]
    exact or_congr_right (and_congr_right (openers name))

/-- A builder class that is known lists its register. -/
theorem listing (accumulates : table.Accumulates known) {id : ClassId} (has : known.Has id)
    (builder : table.isBuilder id = true) {names : List String}
    (register : (table.get id).members.find? registerName = some (.data (.tags names))) :
    table.listing id = .ok (.ofNames names) := by
  have elements : ∀ row : List ClassId, Standard.builderBase ∈ row → (∀ c ∈ row, known.Has c) →
      table.resolveAlong "elements" row = some (Standard.builderBase, .method .elements) := by
    intro row there all
    induction row with
    | nil => cases there
    | cons first rest ih =>
        by_cases same : first = Standard.builderBase
        · rw [resolveAlong, same, accumulates.base]
          rfl
        · have calm := accumulates.calm first (all first List.mem_cons_self) same
          rw [resolveAlong_of_absent calm.elements]
          exact ih ((List.mem_cons.1 there).resolve_left (Ne.symm same))
            fun c among => all c (List.mem_cons_of_mem _ among)
  have resolved : table.resolve id "elements" = some (Standard.builderBase, .method .elements) :=
    elements _ (of_decide_eq_true builder) (accumulates.line id has)
  unfold ClassTable.listing
  rw [resolved, listed_of_own register]
  rfl

end ClassTable.Accumulates

/-! ### Sequences of definitions -/

variable {s t : Session ρ} {known more : Decorations}

/-- What a proper definition preserves, and that it changes no class that was known. -/
theorem Definition.accumulates {definition : Definition}
    (accumulates : s.store.classes.Accumulates known) (proper : definition.Proper s.store.classes) :
    (∀ id t, definition.run s = .ok id t →
      t.store.classes.Accumulates (known ++ [(id, definition.body.decorated)]) ∧
        ∀ c, known.Has c → t.store.classes.get c = s.store.classes.get c) ∧
      ∀ fault t, definition.run s = .error fault t → t.store.classes.Accumulates known ∧
        ∀ c, known.Has c → t.store.classes.get c = s.store.classes.get c := by
  rcases definition.run_cases accumulates with ⟨fault, eq⟩ | ⟨ids, new, named, drafted, cases⟩
  · rw [eq]
    refine ⟨nofun, ?_⟩
    rintro _ _ ⟨⟩
    exact ⟨accumulates, fun _ _ => rfl⟩
  have pushed := fun c (has : known.Has c) => accumulates.get_push new has
  rcases cases with ⟨fault, eq⟩ | ⟨classes, grown, cases⟩
  · rw [eq]
    refine ⟨nofun, ?_⟩
    rintro _ _ ⟨⟩
    exact ⟨accumulates.push new, pushed⟩
  -- Whether it has been registered or not, the class can become known.
  have learned : classes.Accumulates
        (known ++ [((s.store.classes.push new).1, definition.body.decorated)]) ∧
      classes.Accumulates known ∧
      ∀ c, known.Has c → classes.get c = s.store.classes.get c := by
    rcases grown with ⟨plain, rfl⟩ | ⟨builder, registered⟩
    · exact ⟨accumulates.learn_plain proper named drafted plain, accumulates.push new, pushed⟩
    · refine ⟨accumulates.learn_builder proper named drafted builder registered, ?_⟩
      obtain ⟨_, _, _, _, same, kept⟩ := accumulates.registered_push
        (fun c there => (accumulates.ancestors named drafted c there).1) registered
      exact ⟨kept, same⟩
  rcases cases with ⟨fault, eq⟩ | eq
  · rw [eq]
    refine ⟨nofun, ?_⟩
    rintro _ _ ⟨⟩
    exact learned.2
  · rw [eq]
    refine ⟨?_, nofun⟩
    rintro _ _ ⟨⟩
    have has : Decorations.Has
        (known ++ [((s.store.classes.push new).1, definition.body.decorated)])
        (s.store.classes.push new).1 := Decorations.has_learned.2 (.inr rfl)
    exact ⟨learned.1.bindName has _, learned.2.2⟩

/-- What all definitions preserve. -/
theorem Defines.accumulates (defines : Defines s known t more)
    (start : s.store.classes.Accumulates known) :
    t.store.classes.Accumulates more ∧ ∀ c, known.Has c →
      more.Has c ∧ t.store.classes.get c = s.store.classes.get c := by
  induction defines with
  | refl => exact ⟨start, fun c has => ⟨has, rfl⟩⟩
  | @defined t u more definition id _ proper run ih =>
      obtain ⟨here, kept⟩ := ih
      obtain ⟨further, same⟩ := (definition.accumulates here proper).1 _ _ run
      refine ⟨further, fun c has => ?_⟩
      obtain ⟨⟨names, among⟩, eq⟩ := kept c has
      exact ⟨⟨names, List.mem_append_left _ among⟩, (same c ⟨names, among⟩).trans eq⟩
  | @refused t u more definition fault _ proper run ih =>
      obtain ⟨here, kept⟩ := ih
      obtain ⟨further, same⟩ := (definition.accumulates here proper).2 _ _ run
      exact ⟨further, fun c has => ⟨(kept c has).1, (same c (kept c has).1).trans (kept c has).2⟩⟩

/-- **What a class says that it supports.** Whatever classes have been defined, a builder class
lists in code point order the names that it or a builder class behind it decorates, private
names apart, and no others. So it lists what the builder classes behind it list, whatever
plain classes stand among the bases and whatever functions replace openers; and no further
definition changes that. -/
theorem elements_accumulated {extra : ρ}
    (history : Defines ⟨.initial, extra⟩ Standard.decorations s known) {id : ClassId}
    (has : known.Has id) (builder : s.store.classes.isBuilder id = true) :
    ∃ names, s.store.classes.listing id = .ok (.ofNames names) ∧ names.Pairwise (· < ·) ∧
      (∀ name, name ∈ names ↔ s.store.classes.Decorates known id name) ∧
      (∀ c ∈ s.store.classes.line id, s.store.classes.isBuilder c = true →
        ∃ inherited, s.store.classes.listing c = .ok (.ofNames inherited) ∧ inherited ⊆ names) ∧
      ∀ (t : Session ρ) (more : Decorations), Defines s known t more →
        t.store.classes.listing id = .ok (.ofNames names) := by
  obtain ⟨accumulates, _⟩ := history.accumulates Standard.accumulates
  obtain ⟨names, found, increasing, complete⟩ := accumulates.register id has builder
  refine ⟨names, accumulates.listing has builder found, increasing, complete, ?_, ?_⟩
  · intro c behind yes
    have there := accumulates.line id has c behind
    obtain ⟨inherited, own, _, whole⟩ := accumulates.register c there yes
    refine ⟨inherited, accumulates.listing there yes own, fun name among => ?_⟩
    obtain ⟨shown, d, further, rest⟩ := (whole name).1 among
    exact (complete name).2 ⟨shown, d, accumulates.nested id has c behind d further, rest⟩
  · intro t more later
    obtain ⟨after, kept⟩ := later.accumulates accumulates
    have same := fun c (has : known.Has c) => (kept c has).2
    rw [← same id has] at found
    rw [← ClassTable.Accumulates.isBuilder_of_same same has] at builder
    exact after.listing (kept id has).1 builder found

/-- A plain class with an opener and a function. -/
def loudDefinition : Definition where
  name := "Loud"
  bases := []
  body := { openers := [⟨"echo", "BodyBuilder", true, .discard⟩], plain := ["shout"] }

/-- A class of bodies that may hold cards, with that class mixed in, in which the opener of
divisions is replaced. -/
def cardDefinition : Definition where
  name := "CardBuilder"
  bases := ["Loud", "BodyBuilder"]
  body := { openers := [⟨"card", "DivBuilder", false, .append⟩], plain := ["div"] }

/-- Such bodies support cards and still list divisions, but not what is mixed in. -/
theorem elements_card : ∃ (s : Session Unit) (known : Decorations),
    Defines ⟨.initial, ()⟩ Standard.decorations s known ∧ known.Has ⟨8⟩ ∧
      s.store.classes.isBuilder ⟨8⟩ = true ∧
      ∃ names, s.store.classes.listing ⟨8⟩ = .ok (.ofNames names) ∧
        ∀ name, name ∈ names ↔ s.store.classes.Decorates known ⟨8⟩ name := by
  have loud : loudDefinition.run (⟨.initial, ()⟩ : Session Unit) =
      .ok ⟨7⟩ (left loudDefinition.run ⟨.initial, ()⟩) := rfl
  have card : cardDefinition.run (left loudDefinition.run (⟨.initial, ()⟩ : Session Unit)) =
      .ok ⟨8⟩ (left cardDefinition.run (left loudDefinition.run ⟨.initial, ()⟩)) := rfl
  have first : loudDefinition.Proper Standard.classes :=
    { single := by rintro ids ⟨⟩; decide
      own := by decide
      apart := by decide }
  have second : cardDefinition.Proper
      (left loudDefinition.run (⟨.initial, ()⟩ : Session Unit)).store.classes :=
    { single := by
        intro ids named
        obtain rfl : [⟨7⟩, Standard.bodyBuilder] = ids := Except.ok.inj named
        decide
      own := by decide
      apart := by decide }
  have start : Defines (⟨.initial, ()⟩ : Session Unit) Standard.decorations ⟨.initial, ()⟩
      Standard.decorations := .refl
  have history := (start.defined first loud).defined second card
  have has : Decorations.Has (Standard.decorations ++ [(⟨7⟩, loudDefinition.body.decorated)] ++
      [(⟨8⟩, cardDefinition.body.decorated)]) ⟨8⟩ :=
    ⟨["card"], List.mem_append_right _ List.mem_cons_self⟩
  have builder : (left cardDefinition.run (left loudDefinition.run
      (⟨.initial, ()⟩ : Session Unit))).store.classes.isBuilder ⟨8⟩ = true := rfl
  obtain ⟨names, listed, _, complete, _⟩ := elements_accumulated history has builder
  exact ⟨_, _, history, has, builder, names, listed, complete⟩

end ScopedHtml
