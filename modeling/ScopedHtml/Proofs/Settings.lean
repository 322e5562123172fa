import ScopedHtml.Proofs.ParallelArguments
import ScopedHtml.Proofs.Uses

/-!
# ScopedHtml.Proofs.Settings

**Two sessions in which scripts run.** A `Setting` says of two sessions which of the builders there
stand for each other, which names of builders and elements a script may use, and of what swap its
steps are seen after. What both runs carry stays alike then (`Setting.Carries`): the names that may
be used, and what has been left in the trace. All other names are what they were
(`Names.Spares`), and no two names are bound to one builder (`Names.Sound`).
-/

namespace ScopedHtml

namespace Script

/-! ### Names -/

/-- Names are bound to builders that are there, and to different ones. -/
structure Names.Sound (names : Names) (count : Nat) : Prop where
  inside : ∀ name b, names.builders.find? name = some b → b.index < count
  single : ∀ name other b, names.builders.find? name = some b →
    names.builders.find? other = some b → other = name

/-- Other names than those for which `works` and `keeps` hold are bound to what they were. -/
structure Names.Spares (works keeps : String → Prop) (before after : Names) : Prop where
  builders : ∀ name, ¬ works name → after.builders.find? name = before.builders.find? name
  nodes : ∀ name, ¬ keeps name → after.nodes.find? name = before.nodes.find? name

variable {names : Names} {name : String} {b : BuilderRef} {count : Nat}
  {works keeps : String → Prop}

namespace Names.Sound

theorem mono (sound : names.Sound count) {more : Nat} (le : count ≤ more) : names.Sound more :=
  ⟨fun name b bound => Nat.lt_of_lt_of_le (sound.inside name b bound) le, sound.single⟩

/-- Binding a builder that no name is bound to. -/
theorem bind (sound : names.Sound count) (inside : b.index < count)
    (unbound : ∀ other, names.builders.find? other ≠ some b) (name : String) :
    Names.Sound { names with builders := names.builders.bind name b } count where
  inside := by
    intro other c bound
    rcases Bindings.find?_bind_eq_some bound with ⟨_, rfl⟩ | old
    · exact inside
    · exact sound.inside other c old
  single := by
    intro first second c bound bound'
    rcases Bindings.find?_bind_eq_some bound with ⟨rfl, rfl⟩ | old
    · rcases Bindings.find?_bind_eq_some bound' with ⟨same, _⟩ | old
      · exact same
      · exact absurd old (unbound second)
    · rcases Bindings.find?_bind_eq_some bound' with ⟨rfl, rfl⟩ | old'
      · exact absurd old (unbound first)
      · exact sound.single first second c old old'

end Names.Sound

namespace Names.Spares

variable {before after later : Names}

theorem refl (names : Names) : names.Spares works keeps names :=
  ⟨fun _ _ => rfl, fun _ _ => rfl⟩

theorem bindBuilder (spares : before.Spares works keeps after) (allowed : works name)
    (b : BuilderRef) :
    before.Spares works keeps { after with builders := after.builders.bind name b } where
  builders := by
    intro other spared
    have different : other ≠ name := fun same => spared (same ▸ allowed)
    exact (Bindings.find?_bind_of_ne _ different b).trans (spares.builders other spared)
  nodes := spares.nodes

theorem bindNode (spares : before.Spares works keeps after) (allowed : keeps name) (node : Node) :
    before.Spares works keeps { after with nodes := after.nodes.bind name node } where
  builders := spares.builders
  nodes := by
    intro other spared
    have different : other ≠ name := fun same => spared (same ▸ allowed)
    exact (Bindings.find?_bind_of_ne _ different node).trans (spares.nodes other spared)

end Names.Spares

/-! ### What steps leave -/

/-- A step that asks a builder for the elements that it supports. -/
def Step.Lists : Step → Prop
  | .named _ step => step.Lists
  | .about _ step => step.Lists
  | .call _ member _ _ => member = "elements"
  | _ => False

section Traces

variable (swap : Swap) (R : BuilderRef → BuilderRef → Prop)

/-- Answers of steps before and after a swap, if `R` relates the builders. -/
inductive Answer.Alike (lists : Prop) : Answer → Answer → Prop
  | same {answer : Answer} (other : ∀ b className, answer ≠ .builder b className) :
      Alike lists answer answer
  | found {found found' : Found} (alike : swap.Founds found found') :
      Alike lists (.found found) (.found found')
  /-- Lists of supported elements may differ. -/
  | listed {names names' : List String} (asked : lists)
      (equal : swap.newId = swap.oldId → names' = names) :
      Alike lists (.value (.ofNames names)) (.value (.ofNames names'))
  | builder {b b' : BuilderRef} {title title' : String} (related : R b b')
      (titles : swap.Titles title title') : Alike lists (.builder b title) (.builder b' title')
  | caught {fault fault' : Fault} (alike : swap.Faults fault fault') :
      Alike lists (.caught fault) (.caught fault')

/-- What is seen of builders. -/
structure Glimpse.Alike (glimpse glimpse' : Glimpse) : Prop where
  finalized : swap.Founds glimpse.finalized glimpse'.finalized
  missing : Outcomes swap.Faults (fun names names' => names' = names) glimpse.missing
    glimpse'.missing
  count : glimpse'.count = glimpse.count

/-- Entries of traces, of steps inside those at two positions. -/
structure Entry.Alike (path path' : List Nat) (entry entry' : Entry) : Prop where
  path : ∃ inner, entry.path = path ++ inner ∧ entry'.path = path' ++ inner
  step : entry'.step = swap.step entry.step
  target : Option.Rel R entry.target entry'.target
  result : Outcomes swap.Faults (Answer.Alike swap R entry.step.Lists) entry.result
    entry'.result
  glimpse : Option.Rel (Glimpse.Alike swap) entry.glimpse entry'.glimpse

variable {swap R} {R' : BuilderRef → BuilderRef → Prop}

theorem Answer.Alike.mono {lists : Prop} {answer answer' : Answer}
    (alike : Answer.Alike swap R lists answer answer') (more : ∀ {b b'}, R b b' → R' b b') :
    Answer.Alike swap R' lists answer answer' := by
  cases alike with
  | same other => exact .same other
  | found alike => exact .found alike
  | listed asked equal => exact .listed asked equal
  | builder related titles => exact .builder (more related) titles
  | caught alike => exact .caught alike

theorem rel_mono {found found' : Option BuilderRef} (rel : Option.Rel R found found')
    (more : ∀ {b b'}, R b b' → R' b b') : Option.Rel R' found found' := by
  cases rel with
  | none => exact .none
  | some related => exact .some (more related)

theorem Entry.Alike.mono {path path' : List Nat} {entry entry' : Entry}
    (alike : Entry.Alike swap R path path' entry entry') (more : ∀ {b b'}, R b b' → R' b b') :
    Entry.Alike swap R' path path' entry entry' where
  path := alike.path
  step := alike.step
  target := rel_mono alike.target more
  result := alike.result.mono fun _ _ answers => answers.mono more
  glimpse := alike.glimpse

end Traces

/-- Binding related things under one name. -/
theorem forall₂_bind {α β : Type} {R : α → β → Prop} {table : Bindings String α}
    {table' : Bindings String β} (rows : List.Forall₂ (Named R) table.entries table'.entries)
    (name : String) {a : α} {b : β} (related : R a b) :
    List.Forall₂ (Named R) (table.bind name a).entries (table'.bind name b).entries := by
  obtain ⟨entries⟩ := table
  obtain ⟨entries'⟩ := table'
  unfold Bindings.bind
  dsimp only at rows ⊢
  induction rows with
  | nil => exact .cons ⟨rfl, related⟩ .nil
  | cons here rest ih =>
      rw [Bindings.bindIn, Bindings.bindIn, here.1]
      split
      · exact .cons ⟨rfl, related⟩ rest
      · exact .cons ⟨rfl, here.2⟩ ih

/-! ### Settings -/

/-- Two runs of a script, one of them after a swap, and what the script may use there. -/
structure Setting extends Links where
  swap : Swap
  classes : ClassTable → ClassTable → Prop
  /-- What is bound where the runs start, and the positions of the step around them. -/
  leftNames : Names
  rightNames : Names
  leftPath : List Nat
  rightPath : List Nat
  /-- The names of the builders that may be worked on, and of those that may be passed on. -/
  works : String → Prop
  passes : String → Prop
  /-- The names that elements may be bound to, and those that may be spoken of. -/
  keeps : String → Prop
  reads : String → Prop
  /-- Whether all names are bound in the same order in both runs. -/
  ordered : Prop

namespace Setting

variable (setting : Setting)

/-- What a script may use. -/
def Allows : Use → Prop
  | .works name => setting.works name
  | .passes name => setting.works name ∨ setting.passes name
  | .keeps name => setting.keeps name ∧ setting.reads name
  | .reads name => setting.reads name
  | .looks name => ¬ setting.swap.hidden name
  | .assigns name value => setting.swap.Assigned name value
  | .defines name body => (∀ left right, setting.classes left right) ∧ body.Loose ∧
      setting.swap.Suits body ∧
      (setting.swap.Still ∨ name ≠ setting.swap.oldName ∧ name ≠ setting.swap.newName)

/-- Answers of a step. -/
abbrev Answers (step : Step) (s t : Store) : Answer → Answer → Prop :=
  Answer.Alike setting.swap (setting.Paired s t) step.Lists

/-- Entries of traces. -/
abbrev Entries (s t : Store) : Entry → Entry → Prop :=
  Entry.Alike setting.swap (setting.Paired s t) setting.leftPath setting.rightPath

/-- Names that are bound in the same order. -/
structure Ordered (s t : Store) (names names' : Names) : Prop where
  builders : List.Forall₂ (Named (setting.Paired s t)) names.builders.entries
    names'.builders.entries
  nodes : names'.nodes = names.nodes

/-- What both runs carry. -/
structure Carries (s t : Store) (names names' : Names) : Prop where
  builders : ∀ name, setting.works name →
    Option.Rel (setting.Paired s t) (names.builders.find? name) (names'.builders.find? name)
  passed : ∀ name, setting.passes name →
    Option.Rel (setting.Known s t) (names.builders.find? name) (names'.builders.find? name)
  nodes : ∀ name, setting.reads name → names'.nodes.find? name = names.nodes.find? name
  sound : names.Sound s.builders.length
  sound' : names'.Sound t.builders.length
  spares : setting.leftNames.Spares setting.works setting.keeps names
  spares' : setting.rightNames.Spares setting.works setting.keeps names'
  ordered : setting.ordered → setting.Ordered s t names names'
  trace : ∃ entries entries', names.trace = setting.leftNames.trace ++ entries ∧
    names'.trace = setting.rightNames.trace ++ entries' ∧
      List.Forall₂ (setting.Entries s t) entries entries'

variable {setting} {s t u v : Store} {names' : Names}

/-! ### Going on -/

namespace Carries

theorem mono (carries : setting.Carries s t names names')
    (left : s.builders.length ≤ u.builders.length) (right : t.builders.length ≤ v.builders.length) :
    setting.Carries u v names names' where
  builders := fun name allowed =>
    rel_mono (carries.builders name allowed) fun paired => paired.mono left right
  passed := fun name allowed =>
    rel_mono (carries.passed name allowed) fun known => known.mono left right
  nodes := carries.nodes
  sound := carries.sound.mono left
  sound' := carries.sound'.mono right
  spares := carries.spares
  spares' := carries.spares'
  ordered := fun ordered => by
    obtain ⟨builders, nodes⟩ := carries.ordered ordered
    exact ⟨builders.imp fun _ _ named => ⟨named.1, named.2.mono left right⟩, nodes⟩
  trace := by
    obtain ⟨entries, entries', trace, trace', all⟩ := carries.trace
    exact ⟨entries, entries', trace, trace', all.imp fun _ _ entry =>
      entry.mono fun paired => paired.mono left right⟩

/-- A builder is bound that no name was bound to. -/
theorem bindBuilder (carries : setting.Carries s t names names') (allowed : setting.works name)
    {b b' : BuilderRef} (paired : setting.Paired s t b b')
    (inside : b.index < s.builders.length ∧ b'.index < t.builders.length)
    (unbound : ∀ other, names.builders.find? other ≠ some b)
    (unbound' : ∀ other, names'.builders.find? other ≠ some b') :
    setting.Carries s t { names with builders := names.builders.bind name b }
      { names' with builders := names'.builders.bind name b' } := by
  have bound : ∀ {R : BuilderRef → BuilderRef → Prop}, R b b' → ∀ other,
      Option.Rel R (names.builders.find? other) (names'.builders.find? other) →
        Option.Rel R ((names.builders.bind name b).find? other)
          ((names'.builders.bind name b').find? other) := by
    intro R related other old
    by_cases same : other = name
    · subst same
      rw [Bindings.find?_bind_self, Bindings.find?_bind_self]
      exact .some related
    · rw [Bindings.find?_bind_of_ne _ same, Bindings.find?_bind_of_ne _ same]
      exact old
  exact { carries with
    builders := fun other among => bound paired other (carries.builders other among)
    passed := fun other among => bound (.paired paired) other (carries.passed other among)
    sound := carries.sound.bind inside.1 unbound name
    sound' := carries.sound'.bind inside.2 unbound' name
    spares := carries.spares.bindBuilder allowed b
    spares' := carries.spares'.bindBuilder allowed b'
    ordered := fun ordered => by
      obtain ⟨builders, nodes⟩ := carries.ordered ordered
      exact ⟨forall₂_bind builders name paired, nodes⟩ }

theorem bindNode (carries : setting.Carries s t names names') (allowed : setting.keeps name)
    (node : Node) :
    setting.Carries s t { names with nodes := names.nodes.bind name node }
      { names' with nodes := names'.nodes.bind name node } where
  builders := carries.builders
  passed := carries.passed
  nodes := by
    intro other among
    by_cases same : other = name
    · subst same
      rw [Bindings.find?_bind_self, Bindings.find?_bind_self]
    · rw [Bindings.find?_bind_of_ne _ same, Bindings.find?_bind_of_ne _ same]
      exact carries.nodes other among
  sound := ⟨carries.sound.inside, carries.sound.single⟩
  sound' := ⟨carries.sound'.inside, carries.sound'.single⟩
  spares := carries.spares.bindNode allowed node
  spares' := carries.spares'.bindNode allowed node
  ordered := fun ordered => by
    obtain ⟨builders, nodes⟩ := carries.ordered ordered
    exact ⟨builders, congrArg (fun table => table.bind name node) nodes⟩
  trace := carries.trace

theorem enter (carries : setting.Carries s t names names') {entry entry' : Entry}
    (alike : setting.Entries s t entry entry') :
    setting.Carries s t { names with trace := names.trace ++ [entry] }
      { names' with trace := names'.trace ++ [entry'] } where
  builders := carries.builders
  passed := carries.passed
  nodes := carries.nodes
  sound := ⟨carries.sound.inside, carries.sound.single⟩
  sound' := ⟨carries.sound'.inside, carries.sound'.single⟩
  spares := ⟨carries.spares.builders, carries.spares.nodes⟩
  spares' := ⟨carries.spares'.builders, carries.spares'.nodes⟩
  ordered := fun ordered =>
    ⟨(carries.ordered ordered).builders, (carries.ordered ordered).nodes⟩
  trace := by
    obtain ⟨entries, entries', trace, trace', all⟩ := carries.trace
    refine ⟨entries ++ [entry], entries' ++ [entry'], ?_, ?_,
      List.rel_append all (.cons alike .nil)⟩
    · rw [trace, List.append_assoc]
    · rw [trace', List.append_assoc]

end Carries

/-- The links of a setting, with what holds of what is carried. -/
def bridge (setting : Setting) : Bridge Names where
  toLinks := setting.toLinks
  swap := setting.swap
  classes := setting.classes
  extras := setting.Carries
  extras_mono := fun carries left right => carries.mono left.builders right.builders

/-- Two sessions from which the runs of a setting start. -/
structure Starts (setting : Setting) (s t : Session Names) : Prop where
  left : setting.left = s.store
  right : setting.right = t.store
  leftNames : setting.leftNames = s.extra
  rightNames : setting.rightNames = t.extra
  tables : setting.swap.Tables s.store.classes t.store.classes
  classes : setting.classes s.store.classes t.store.classes
  alike : ∀ {b b'}, setting.linked b b' ∨ setting.seen b b' →
    setting.swap.Builders s.store.classes t.store.classes (s.store.get b) (t.store.get b')
  silent : ∀ {b b'}, setting.seen b b' → s.store.hook? b .call = none
  builders : ∀ name, setting.works name →
    Option.Rel setting.linked (s.extra.builders.find? name) (t.extra.builders.find? name)
  passed : ∀ name, setting.passes name →
    Option.Rel setting.seen (s.extra.builders.find? name) (t.extra.builders.find? name)
  nodes : ∀ name, setting.reads name → t.extra.nodes.find? name = s.extra.nodes.find? name
  sound : s.extra.Sound s.store.builders.length
  sound' : t.extra.Sound t.store.builders.length
  ordered : setting.ordered →
    List.Forall₂ (Named setting.linked) s.extra.builders.entries t.extra.builders.entries ∧
      t.extra.nodes = s.extra.nodes

/-- The runs of a setting start side by side. -/
theorem Starts.beside {s t : Session Names} (starts : setting.Starts s t) :
    setting.bridge.Beside s t := by
  have left : setting.bridge.left = s.store := starts.left
  have right : setting.bridge.right = t.store := starts.right
  have none : ∀ {α : Type} (events : List α), events = events ++ [] :=
    fun events => (List.append_nil events).symm
  refine ⟨?_, starts.classes, ?_⟩
  · exact {
      tables := starts.tables
      grown := Nat.le_of_eq (by rw [left])
      count := by rw [left, right, Nat.add_comm]
      alike := by
        intro b b' known
        cases known with
        | paired paired =>
            cases paired with
            | linked linked => exact starts.alike (.inl linked)
            | fresh more there _ inside _ =>
                rw [left] at there
                omega
        | seen seen => exact starts.alike (.inr seen)
      silent := starts.silent
      others := fun _ _ _ => by rw [left]
      others' := fun _ _ _ => by rw [right]
      log := ⟨[], [], by rw [left]; exact none _, by rw [right]; exact none _, .nil⟩ }
  · exact {
      builders := fun name works => rel_mono (starts.builders name works) .linked
      passed := fun name passes => rel_mono (starts.passed name passes) .seen
      nodes := starts.nodes
      sound := starts.sound
      sound' := starts.sound'
      spares := starts.leftNames ▸ .refl _
      spares' := starts.rightNames ▸ .refl _
      ordered := fun ordered =>
        ⟨(starts.ordered ordered).1.imp fun _ _ row => ⟨row.1, .linked row.2⟩,
          (starts.ordered ordered).2⟩
      trace := ⟨[], [], by rw [starts.leftNames]; exact none _,
        by rw [starts.rightNames]; exact none _, .nil⟩ }

end Setting

end Script

end ScopedHtml
