import ScopedHtml.Proofs.Lookup
import ScopedHtml.Proofs.Starting

/-!
# ScopedHtml.Proofs.Ordinary

Builders of ordinary classes.

A class may have members of its own under the names by which builders are worked:
what makes and starts them, what they say is missing, how they make their element.
A class that has none, library class or not, is *ordinary*
(`ClassTable.Ordinary`); it may have any openers, functions and slots under other
names, and any list of required names. Finalizing a builder of an ordinary class is
all or nothing (`Caller.build_cases`): it fails and changes nothing, or the builder is
marked, one record is kept and an element comes out.
-/

namespace ScopedHtml

/-- A class that has, under the names by which builders are worked, what the library's
classes have. -/
structure ClassTable.Ordinary (table : ClassTable) (id : ClassId) : Prop
    extends table.ReadsPlainly id, table.StartsPlainly id where
  make : table.hook? id .make = none
  start : ∃ owner starter, table.hook? id .start = some (owner, .starter starter)
  build : ∃ owner, table.resolve id "build" = some (owner, .method .build)
  missing : ∃ owner, table.resolve id "missing" = some (owner, .method .missing)
  flag : table.resolve id "_finalized" = none

/-! ### Classes that keep clear of the library's names -/

/-- A position of the library's classes is that of one of them. -/
theorem Standard.get_mem {id : ClassId} (inside : id.index < Standard.classes.classes.length) :
    Standard.classes.get id ∈ Standard.classes.classes := by
  have get : Standard.classes.get id = Standard.classes.classes[id.index] := by
    simp [ClassTable.get, List.getD_eq_getElem?_getD, inside]
  rw [get]
  exact List.getElem_mem inside

/-- What makes their elements is a maker. -/
theorem Standard.exists_maker {c : BuilderClass} (among : c ∈ Standard.classes.classes)
    {member : Member} (found : c.members.find? "_make_node" = some member) :
    ∃ product, member = .maker product := by
  revert c
  rw [forall_classes]
  refine ⟨?_, ?_, ?_, ?_, ?_, ?_, ?_⟩ <;> intro found <;> cases found <;> exact ⟨_, rfl⟩

/-- What tells of new classes registers their openers. -/
theorem Standard.heir_eq {c : BuilderClass} (among : c ∈ Standard.classes.classes)
    {member : Member} (found : c.members.find? Hook.heir.name = some member) :
    member = .method .register := by
  revert c
  rw [forall_classes]
  refine ⟨?_, ?_, ?_, ?_, ?_, ?_, ?_⟩ <;> intro found <;> cases found
  rfl

/-- The names by which builders are worked, that of what makes their element apart. -/
def workingNames : List String :=
  [Hook.read, Hook.unknown, Hook.write, Hook.make, Hook.start].map Hook.name ++
    ["elements", "build", "missing", "_finalized"]

namespace ClassTable

variable {table : ClassTable} {id : ClassId} {name : String}

/-- A table in which the library's classes are what they are at the start. -/
def HasLibrary (table : ClassTable) : Prop :=
  ∀ id : ClassId, id.index < Standard.classes.classes.length →
    table.get id = Standard.classes.get id

/-- Under these names the classes in the line of a class have nothing but what some class of
the library has. -/
def ClearOf (table : ClassTable) (id : ClassId) (names : List String) : Prop :=
  ∀ c ∈ table.line id, ∀ name ∈ names, ∀ member, (table.get c).members.find? name = some member →
    ∃ known ∈ Standard.classes.classes, known.members.find? name = some member

/-- A builder class that is clear of these names, under which the class of all builders has
what it has at the start. -/
structure KeepsClear (table : ClassTable) (id : ClassId) (names : List String) : Prop where
  builder : Standard.builderBase ∈ table.line id
  base : ∀ name ∈ names, (table.get Standard.builderBase).members.find? name =
    Standard.builderBaseClass.members.find? name
  clear : table.ClearOf id names

variable {names : List String}

/-- A class that is clear of a name has it from one of the library's classes. -/
theorem ClearOf.member_of_library (clear : table.ClearOf id names) (among : name ∈ names)
    {owner : ClassId} {member : Member} (h : table.resolve id name = some (owner, member)) :
    ∃ c ∈ Standard.classes.classes, c.members.find? name = some member := by
  obtain ⟨inside, found⟩ := resolveAlong_eq_some h
  exact clear owner inside name among member found

/-- A name that no class of the library has is not there. -/
theorem ClearOf.resolve_eq_none (clear : table.ClearOf id names) (among : name ∈ names)
    (absent : ∀ c ∈ Standard.classes.classes, c.members.find? name = none) :
    table.resolve id name = none := by
  cases resolved : table.resolve id name with
  | none => rfl
  | some origin =>
      obtain ⟨c, inside, found⟩ := clear.member_of_library among resolved
      rw [absent c inside] at found
      cases found

/-- Under a name that all builders have, a class that keeps clear of it has what the library's
classes have. -/
theorem KeepsClear.resolve_of_base (keeps : table.KeepsClear id names) (among : name ∈ names)
    (P : Member → Prop)
    (all : ∀ c ∈ Standard.classes.classes, ∀ member, c.members.find? name = some member →
      P member)
    (base : (Standard.builderBaseClass.members.find? name).isSome) :
    ∃ owner member, table.resolve id name = some (owner, member) ∧ P member := by
  obtain ⟨member, found⟩ := Option.isSome_iff_exists.1 base
  rw [← keeps.base name among] at found
  have present := resolveAlong_ne_none keeps.builder found
  obtain ⟨⟨owner, member⟩, resolved⟩ := Option.ne_none_iff_exists'.1 present
  obtain ⟨c, inside, found⟩ := keeps.clear.member_of_library among resolved
  exact ⟨owner, member, resolved, all c inside member found⟩

/-- Under a name under which only the class of all builders has something, a class that keeps
clear of it has the same. -/
theorem KeepsClear.only_of_base (keeps : table.KeepsClear id names) (among : name ∈ names)
    (only : Member) (base : Standard.builderBaseClass.members.find? name = some only)
    (others : ∀ c ∈ Standard.classes.classes.tail, c.members.find? name = none) :
    ∃ owner, table.resolve id name = some (owner, only) := by
  have all : ∀ c ∈ Standard.classes.classes, ∀ member, c.members.find? name = some member →
      member = only := by
    intro c inside member found
    rcases List.mem_cons.1 inside with rfl | inside
    · rw [base] at found
      exact (Option.some.inj found).symm
    · rw [others c inside] at found
      cases found
  obtain ⟨owner, _, resolved, rfl⟩ := keeps.resolve_of_base among _ all (by rw [base]; rfl)
  exact ⟨owner, resolved⟩

/-- A class that keeps clear of the working names is ordinary, if it computes none of the
attributes that are assigned to new builders. -/
theorem KeepsClear.ordinary (keeps : table.KeepsClear id workingNames)
    (uncomputed : ∀ name ∈ attributeNames, ∀ owner property,
      table.resolve id name ≠ some (owner, .property property)) : table.Ordinary id where
  starters := fun c behind => keeps.clear c behind _ (by decide)
  uncomputed := uncomputed
  read := keeps.clear.resolve_eq_none (by decide) (by rw [Standard.forall_classes]; decide)
  write := keeps.clear.resolve_eq_none (by decide) (by rw [Standard.forall_classes]; decide)
  make := keeps.clear.resolve_eq_none (by decide) (by rw [Standard.forall_classes]; decide)
  flag := keeps.clear.resolve_eq_none (by decide) (by rw [Standard.forall_classes]; decide)
  unknown := keeps.only_of_base (by decide) (.method .report) rfl (by decide)
  elements := keeps.only_of_base (by decide) (.method .elements) rfl (by decide)
  build := keeps.only_of_base (by decide) (.method .build) rfl (by decide)
  missing := keeps.only_of_base (by decide) (.method .missing) rfl (by decide)
  start := by
    have working : Hook.start.name ∈ workingNames := by decide
    obtain ⟨owner, _, resolved, starter, rfl⟩ := keeps.resolve_of_base working
      (fun member => ∃ starter, member = .starter starter)
      (fun _ among _ found => Standard.exists_starter among found) rfl
    exact ⟨owner, starter, resolved⟩

end ClassTable

/-- A builder of an ordinary class, which makes elements of some kind. -/
structure Store.Ordinary (store : Store) (b : BuilderRef) : Prop where
  builder : store.foreign? b = none
  ordinary : store.classes.Ordinary (store.get b).classId
  product : ∃ owner product, store.member? b "_make_node" = some (owner, .maker (some product))

theorem Store.Ordinary.readsPlainly {store : Store} {b : BuilderRef}
    (ordinary : store.Ordinary b) : store.ReadsPlainly b :=
  ordinary.ordinary.toReadsPlainly

/-- The store in which a builder is finalized into an element and a record of it kept. -/
def Store.finalizedInto (store : Store) (b : BuilderRef) (node : Node) : Store :=
  (store.assign b "_finalized" (.bool true)).logged
    (.finalized (store.className b) node.tag)

/-- An assignment changes nothing about builders but what they hold. -/
theorem Store.exists_get_assign (store : Store) (b c : BuilderRef) (name : String)
    (value : Value) : ∃ held, (store.assign b name value).get c = { store.get c with held } := by
  by_cases same : c = b
  · subst same
    -- Assigning to a builder that is not there changes nothing.
    by_cases inside : c.index < store.builders.length
    · exact ⟨_, get_assign_self inside name value⟩
    · exact ⟨_, by simp [assign, get, List.getD_eq_getElem?_getD, inside]; rfl⟩
  · exact ⟨_, get_assign_of_ne store same name value⟩

theorem Store.classId_assign (store : Store) (b c : BuilderRef) (name : String)
    (value : Value) : ((store.assign b name value).get c).classId = (store.get c).classId := by
  obtain ⟨held, eq⟩ := store.exists_get_assign b c name value
  rw [eq]

theorem Store.foreign?_assign (store : Store) (b c : BuilderRef) (name : String)
    (value : Value) : (store.assign b name value).foreign? c = store.foreign? c := by
  obtain ⟨held, eq⟩ := store.exists_get_assign b c name value
  exact (foreign?_of_get eq).trans rfl

@[simp] theorem Store.className_assign (store : Store) (b c : BuilderRef) (name : String)
    (value : Value) : (store.assign b name value).className c = store.className c := by
  simp only [className, foreign?_assign, classId_assign, classes_assign]

/-- The tag of the elements of a kind. -/
def Product.tag : Product → String
  | head => "head"
  | body => "body"
  | division => "div"
  | document => "html"

namespace Caller

open BuildM

variable {ρ : Type} {s : Session ρ} {b : BuilderRef}

/-! ### What is missing -/

theorem quiet_unsetAmong (depth : Nat) (readable : s.store.Readable b) (names : List Value) :
    Quiet ((upTo depth).unsetAmong b names) s := by
  induction names with
  | nil => exact quiet_pure _
  | cons name rest ih =>
      refine (quiet_read depth readable _).bind ?_
      intro found _
      exact ih.bind fun others _ => quiet_pure _

theorem quiet_missing (depth : Nat) (readable : s.store.Readable b) :
    Quiet ((upTo depth).missing b) s :=
  (quiet_readItems depth readable _).bind fun names _ => quiet_unsetAmong depth readable names

/-- Asking a builder of an ordinary class what is missing changes nothing about it. -/
theorem quiet_own_missing (depth : Nat)
    (ordinary : s.store.classes.Ordinary (s.store.get b).classId) :
    Quiet ((upTo depth).own b "missing") s := by
  have plain : s.store.ReadsPlainly b := ordinary.toReadsPlainly
  obtain ⟨owner, member⟩ := ordinary.missing
  refine quiet_own_of_member plain member (by simp) ?_
  cases depth with
  | zero => exact quiet_throw _
  | succ depth =>
      refine quiet_observe_bind ?_
      refine (quiet_settle _).bind ?_
      intro given _
      exact (quiet_missing depth plain.readable).bind fun names _ => quiet_pure _

/-! ### The element -/

theorem quiet_make (depth : Nat) (readable : s.store.Readable b) (product : Product) :
    Quiet ((upTo depth).make b product) s := by
  cases product with
  | head => exact (quiet_readValue depth readable _).bind fun title _ => quiet_pure _
  | body => exact (quiet_readItems depth readable _).bind fun children _ => quiet_pure _
  | division =>
      refine (quiet_readItems depth readable _).bind ?_
      intro children _
      refine (quiet_readValue depth readable _).bind ?_
      intro ident _
      exact (quiet_readValue depth readable _).bind fun className _ => quiet_pure _
  | document =>
      refine (quiet_readValue depth readable _).bind ?_
      intro head _
      exact (quiet_readValue depth readable _).bind fun body _ => quiet_pure _

/-- Having an ordinary builder make its element changes nothing about it. -/
theorem quiet_own_make (depth : Nat) (ordinary : s.store.Ordinary b) :
    Quiet ((upTo depth).own b "_make_node") s := by
  obtain ⟨owner, product, member⟩ := ordinary.product
  refine quiet_own_of_member ordinary.readsPlainly member (by simp) ?_
  cases depth with
  | zero => exact quiet_throw _
  | succ depth =>
      refine quiet_observe_bind ?_
      refine (quiet_settle _).discard.bind ?_
      intro _ _
      exact (quiet_make depth ordinary.readsPlainly.readable product).bind fun node _ => quiet_pure _

/-- What is made of a builder has the tag of its kind. -/
theorem tag_of_make {call : Caller ρ} {product : Product} {node : Node} {t : Session ρ}
    (run : call.make b product s = .ok node t) : node.tag = product.tag := by
  cases product with
  | head =>
      obtain ⟨_, _, _, ended⟩ := bind_eq_ok.1 run
      cases ended
      rfl
  | body =>
      obtain ⟨_, _, _, ended⟩ := bind_eq_ok.1 run
      cases ended
      rfl
  | division =>
      obtain ⟨_, _, _, run⟩ := bind_eq_ok.1 run
      obtain ⟨_, _, _, run⟩ := bind_eq_ok.1 run
      obtain ⟨_, _, _, ended⟩ := bind_eq_ok.1 run
      cases ended
      rfl
  | document =>
      obtain ⟨_, _, _, run⟩ := bind_eq_ok.1 run
      obtain ⟨_, _, _, ended⟩ := bind_eq_ok.1 run
      cases ended
      rfl

/-- If asking a builder for its element ends well, what the class has for that has been run. -/
theorem make_of_own {depth : Nat} {t : Session ρ} {made : Value} {owner : ClassId}
    {product : Product} (plain : s.store.ReadsPlainly b)
    (member : s.store.member? b "_make_node" = some (owner, .maker (some product)))
    (run : (upTo depth).own b "_make_node" s = .ok made t) :
    ∃ deeper node, (upTo deeper).make b product s = .ok node t ∧ made = .node node := by
  have hprop := Store.property?_of_member member (by simp)
  rcases Store.kept?_cases member with ⟨value, kept⟩ | kept
  · rw [own_of_kept plain hprop kept] at run
    cases depth <;> cases run
  · rw [own_of_kept plain hprop kept] at run
    cases depth with
    | zero => cases run
    | succ depth =>
        obtain ⟨_, u, observed, run⟩ := bind_eq_ok.1 run
        obtain rfl := (quiet_observe _).eq_of_ok observed
        obtain ⟨_, v, settled, rest⟩ := bind_eq_ok.1 run
        obtain rfl := (quiet_settle _).discard.eq_of_ok settled
        obtain ⟨node, _, make, ended⟩ := bind_eq_ok.1 rest
        cases ended
        exact ⟨depth, node, make, rfl⟩

/-- What a builder of a class with a maker makes is an element of that kind. -/
theorem exists_node_of_maker {depth : Nat} {t : Session ρ} {made : Value} {owner : ClassId}
    {product : Product} (plain : s.store.ReadsPlainly b)
    (member : s.store.member? b "_make_node" = some (owner, .maker (some product)))
    (run : (upTo depth).own b "_make_node" s = .ok made t) :
    ∃ node, made = .node node ∧ node.tag = product.tag := by
  obtain ⟨_, node, make, rfl⟩ := make_of_own plain member run
  exact ⟨node, rfl, tag_of_make make⟩

/-- What an ordinary builder makes is an element. -/
theorem exists_node_of_own_make {depth : Nat} {t : Session ρ} {made : Value}
    (ordinary : s.store.Ordinary b) (run : (upTo depth).own b "_make_node" s = .ok made t) :
    ∃ node, made = .node node := by
  obtain ⟨owner, product, member⟩ := ordinary.product
  obtain ⟨node, eq, _⟩ := exists_node_of_maker ordinary.readsPlainly member run
  exact ⟨node, eq⟩

/-! ### Finalizing -/

theorem finalize_of_ordinary {store : Store} (ordinary : store.Ordinary b) :
    store.finalize b = .ok (store.assign b "_finalized" (.bool true)) :=
  Store.write_eq_assign ordinary.builder ordinary.ordinary.write
    (Store.property?_of_not_member ordinary.ordinary.flag) (by decide) (by decide) _

/-- Finalizing an ordinary builder changes nothing or ends well, with the builder marked
and one more record. -/
theorem build_cases (depth : Nat) (ordinary : s.store.Ordinary b) :
    (∃ fault, (upTo depth).build b s = .error fault s) ∨
      ∃ node, (upTo depth).build b s =
        .ok (.node node) { s with store := s.store.finalizedInto b node } := by
  obtain ⟨absent, missing⟩ := quiet_own_missing depth ordinary.ordinary
  obtain ⟨made, make⟩ := quiet_own_make depth ordinary
  unfold build
  -- Nothing has changed up to the mark, since both questions only look. What comes behind them
  -- cannot fail.
  cases absent with
  | error fault => exact .inl ⟨fault, bind_of_error missing⟩
  | ok absent =>
      rw [bind_of_ok missing]
      cases absent.isEmpty with
      | false => exact .inl ⟨_, rfl⟩
      | true =>
          cases made with
          | error fault => exact .inl ⟨fault, bind_of_error make⟩
          | ok made =>
              obtain ⟨node, rfl⟩ := exists_node_of_own_make ordinary make
              refine .inr ⟨node, ?_⟩
              show (((upTo depth).own b "_make_node") >>= _) s = _
              rw [bind_of_ok make, bind_apply, perform_apply,
                finalize_of_ordinary ordinary]
              simp [bind_apply, perform_apply, Store.record, Store.finalizedInto]

/-- The same of asking the builder to finalize itself. -/
theorem own_build_cases (depth : Nat) (ordinary : s.store.Ordinary b) :
    (∃ fault, (upTo depth).own b "build" s = .error fault s) ∨
      ∃ node, (upTo depth).own b "build" s =
        .ok (.node node) { s with store := s.store.finalizedInto b node } := by
  obtain ⟨owner, member⟩ : ∃ owner, s.store.member? b "build" = some (owner, .method .build) :=
    ordinary.ordinary.build
  have hprop := Store.property?_of_member member (by simp)
  rcases Store.kept?_cases member with ⟨value, kept⟩ | kept
  · rw [own_of_kept ordinary.readsPlainly hprop kept]
    cases depth with
    | zero => exact .inl ⟨_, rfl⟩
    | succ depth => exact .inl ⟨_, rfl⟩
  · rw [own_of_kept ordinary.readsPlainly hprop kept]
    cases depth with
    | zero => exact .inl ⟨_, rfl⟩
    | succ depth => exact build_cases depth ordinary

/-- What a builder is finalized into has the tag of its kind. -/
theorem tag_of_build {depth : Nat} {t : Session ρ} {node : Node} {owner : ClassId}
    {product : Product} (ordinary : s.store.Ordinary b)
    (member : s.store.member? b "_make_node" = some (owner, .maker (some product)))
    (run : (upTo depth).build b s = .ok (.node node) t) : node.tag = product.tag := by
  unfold build at run
  obtain ⟨absent, u, missing, ended⟩ := bind_eq_ok.1 run
  obtain rfl := (quiet_own_missing depth ordinary.ordinary).eq_of_ok missing
  cases empty : absent.isEmpty with
  | false =>
      rw [empty] at ended
      cases ended
  | true =>
      rw [empty] at ended
      obtain ⟨made, v, make, run⟩ := bind_eq_ok.1
        (show ((upTo depth).own b "_make_node" >>= _) u = .ok (Value.node node) t from ended)
      obtain ⟨other, rfl, tag⟩ := exists_node_of_maker ordinary.readsPlainly member make
      obtain ⟨_, _, _, run⟩ := bind_eq_ok.1 run
      obtain ⟨_, _, _, ended⟩ := bind_eq_ok.1 run
      cases ended
      exact tag

/-- The same of asking the builder to finalize itself. -/
theorem tag_of_own_build {depth : Nat} {t : Session ρ} {node : Node} {owner : ClassId}
    {product : Product} (ordinary : s.store.Ordinary b)
    (member : s.store.member? b "_make_node" = some (owner, .maker (some product)))
    (run : (upTo depth).own b "build" s = .ok (.node node) t) : node.tag = product.tag := by
  obtain ⟨_, method⟩ : ∃ owner, s.store.member? b "build" = some (owner, .method .build) :=
    ordinary.ordinary.build
  have hprop := Store.property?_of_member method (by simp)
  rcases Store.kept?_cases method with ⟨value, kept⟩ | kept
  · rw [own_of_kept ordinary.readsPlainly hprop kept] at run
    cases depth <;> cases run
  · rw [own_of_kept ordinary.readsPlainly hprop kept] at run
    cases depth with
    | zero => cases run
    | succ depth => exact tag_of_build ordinary member run

end Caller

end ScopedHtml
