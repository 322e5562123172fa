import ScopedHtml.Proofs.Depth
import ScopedHtml.Proofs.Uphold

/-!
# ScopedHtml.Proofs.Ready

**What it takes to be finalized.** What a builder of an orderly store says is missing, and
whether an element can be made of it, depends on what it keeps and on nothing else:

* `Store.missing?` — the required names whose slot is empty, if every required name has one;
* `Store.Ready` — nothing is missing and what the element is made of is there.

A builder that has been finalized was ready (`Store.Orderly.ready_of_build`), one that is
ready can be (`Store.Ready.own_build`), and what upholds a store keeps its builders ready
(`Store.Ready.upheld`).
-/

namespace ScopedHtml

open BuildM

variable {ρ : Type}

/-! ### Definitions -/

/-- Those of the names whose slot is empty, if all have one. -/
def Store.unset? (store : Store) (b : BuilderRef) : List Value → Option (List Value)
  | [] => some []
  | name :: rest =>
      match store.kept? b (slotAttribute name.written), store.unset? b rest with
      | some found, some others => some (if found.isNull then name :: others else others)
      | _, _ => none

/-- The required names whose slot is empty, if all have one. -/
def Store.missing? (store : Store) (b : BuilderRef) : Option (List Value) :=
  ((store.kept? b "_required").bind Found.items?).bind (store.unset? b)

/-- The names of what an element is made of. -/
def Product.sources : Product → List String
  | .head => ["_title"]
  | .body => ["_children"]
  | .division => ["_children", "id", "class_name"]
  | .document => ["_head", "_body"]

/-- What a builder keeps under a name, as a value. -/
def Store.shown (store : Store) (b : BuilderRef) (name : String) : Value :=
  ((store.kept? b name).map Found.toValue).getD .null

/-- The children that a builder keeps. -/
def Store.childrenOf (store : Store) (b : BuilderRef) : List Value :=
  ((store.kept? b "_children").bind Found.items?).getD []

/-- The element of a kind that is made of what a builder keeps. -/
def Store.element (store : Store) (b : BuilderRef) : Product → Node
  | .head => .head (store.shown b "_title")
  | .body => .body (store.childrenOf b)
  | .division =>
      .division (store.childrenOf b) (store.shown b "id") (store.shown b "class_name")
  | .document => .document (store.shown b "_head") (store.shown b "_body")

/-- Whether a builder has what an element is made of. -/
def Store.Holds (store : Store) (b : BuilderRef) (product : Product) : Prop :=
  ∀ name ∈ product.sources, ∃ found, store.kept? b name = some found

/-- Whether this is a builder that can be finalized: nothing is missing, and its element can be
made. -/
structure Store.Ready (store : Store) (b : BuilderRef) : Prop where
  builder : store.isOf b Standard.builderBase
  complete : store.missing? b = some []
  makes : ∃ owner product,
    store.member? b "_make_node" = some (owner, .maker (some product)) ∧ store.Holds b product

/-! ### What upholding keeps -/

namespace Store

variable {before after : Store} {b : BuilderRef}

theorem unset?_upheld (upholds : before.Upholds after) (inside : b.index < before.builders.length)
    {names absent : List Value} (unset : before.unset? b names = some absent) :
    ∃ still, after.unset? b names = some still ∧ still.Sublist absent := by
  induction names generalizing absent with
  | nil =>
      cases unset
      exact ⟨[], rfl, .refl _⟩
  | cons name rest ih =>
      unfold unset? at unset
      split at unset
      · next found others kept tail =>
          cases unset
          obtain ⟨later, kept, set⟩ := upholds b inside _ found kept
          obtain ⟨still, tail, sub⟩ := ih tail
          refine ⟨if later.isNull then name :: still else still, ?_, ?_⟩
          · rw [unset?, kept, tail]
          · cases null : found.isNull with
            | false =>
                rw [set (isPrivate_slotAttribute _) null]
                exact sub
            | true =>
                -- A slot that was empty may have been filled.
                cases later.isNull with
                | true => exact sub.cons_cons name
                | false => exact sub.cons name
      · cases unset

/-- Where nothing is unset, every name has a slot that is not empty. -/
theorem set_of_unset? {store : Store} : ∀ {names : List Value}, store.unset? b names = some [] →
    ∀ name ∈ names, ∃ found, store.kept? b (slotAttribute name.written) = some found ∧
      found.isNull = false
  | name :: rest, unset, other, among => by
      unfold unset? at unset
      split at unset
      · next found others kept tail =>
          cases null : found.isNull with
          | true =>
              rw [null] at unset
              cases unset
          | false =>
              rw [null] at unset
              cases unset
              rcases List.mem_cons.1 among with rfl | among
              · exact ⟨found, kept, null⟩
              · exact set_of_unset? tail other among
      · cases unset

/-- What a builder requires is decided when its class is defined. -/
theorem kept?_required (leads : before.Leads after) (orderly : before.Orderly)
    (still : after.Orderly) (inside : b.index < before.builders.length)
    (builder : before.isOf b Standard.builderBase) :
    after.kept? b "_required" = before.kept? b "_required" := by
  obtain ⟨owner, names, required⟩ := orderly.classes.required orderly.sound.closed
    orderly.sound.library (orderly.there b) (isOf_builderBase.1 builder)
  have required : before.member? b "_required" = some (owner, .data (.ofNames names)) := required
  have later := (leads.member? orderly.sound inside (orderly.there b)
    (by decide : "_required" ∉ looseNames)).trans required
  have there := Nat.lt_of_lt_of_le inside leads.grown.length
  rw [kept?_of_member (orderly.builders b inside).required required,
    kept?_of_member (still.builders b there).required later]
  rfl

/-- What a builder says is missing only grows less. -/
theorem missing?_upheld (leads : before.Leads after) (upholds : before.Upholds after)
    (orderly : before.Orderly) (still : after.Orderly) (inside : b.index < before.builders.length)
    (builder : before.isOf b Standard.builderBase) {absent : List Value}
    (missing : before.missing? b = some absent) :
    ∃ left, after.missing? b = some left ∧ left.Sublist absent := by
  unfold missing? at missing ⊢
  rw [kept?_required leads orderly still inside builder]
  obtain ⟨names, required, unset⟩ := Option.bind_eq_some_iff.1 missing
  rw [required]
  exact unset?_upheld upholds inside unset

theorem Ready.upheld (ready : before.Ready b) (leads : before.Leads after)
    (upholds : before.Upholds after) (orderly : before.Orderly) (still : after.Orderly)
    (inside : b.index < before.builders.length) : after.Ready b where
  builder := by
    rw [leads.isOf inside (orderly.there b)]
    exact ready.builder
  complete := by
    obtain ⟨left, missing, sub⟩ :=
      missing?_upheld leads upholds orderly still inside ready.builder ready.complete
    rwa [List.sublist_nil.1 sub] at missing
  makes := by
    obtain ⟨owner, product, make, holds⟩ := ready.makes
    refine ⟨owner, product, ?_, ?_⟩
    · exact (leads.member? orderly.sound inside (orderly.there b) (by decide)).trans make
    · intro name among
      obtain ⟨found, kept⟩ := holds name among
      obtain ⟨later, kept, _⟩ := upholds b inside name found kept
      exact ⟨later, kept⟩

end Store

/-! ### What builders say -/

namespace Store.Orderly

variable {s t : Session ρ} {b : BuilderRef} (orderly : s.store.Orderly)

include orderly

/-- Reading a name that is not computed finds what is kept under it, and nothing else. -/
theorem read_eq_ok {name : String} (ordinary : s.store.property? b name = none) (depth : Nat)
    {found : Found} :
    (Caller.upTo depth).read b name s = .ok found t ↔ t = s ∧ s.store.kept? b name = some found := by
  constructor
  · exact Caller.kept?_of_read (orderly.readable b) ordinary
  · rintro ⟨rfl, kept⟩
    exact Caller.read_of_unhooked (orderly.hook?_read b) ordinary kept

theorem readItems_eq_ok {name : String} (ordinary : s.store.property? b name = none) (depth : Nat)
    {items : List Value} :
    (Caller.upTo depth).readItems b name s = .ok items t ↔
      t = s ∧ (s.store.kept? b name).bind Found.items? = some items := by
  have settled : ∀ (found : Found), (settle found.items : BuildM ρ (List Value)) s = .ok items t ↔
      t = s ∧ found.items? = some items := by
    intro found
    refine query_eq_ok.trans ((and_congr_left' ?_).trans and_comm)
    unfold Found.items
    cases found.items? <;> simp
  constructor
  · intro run
    obtain ⟨found, u, read, ended⟩ := bind_eq_ok.1 run
    obtain ⟨rfl, kept⟩ := (orderly.read_eq_ok ordinary depth).1 read
    rw [kept]
    exact (settled found).1 ended
  · rintro ⟨rfl, items⟩
    obtain ⟨found, kept, items⟩ := Option.bind_eq_some_iff.1 items
    exact (bind_of_ok ((orderly.read_eq_ok ordinary depth).2 ⟨rfl, kept⟩)).trans
      ((settled found).2 ⟨rfl, items⟩)

theorem unsetAmong_eq_ok (depth : Nat) (names : List Value) {absent : List Value} :
    (Caller.upTo depth).unsetAmong b names s = .ok absent t ↔
      t = s ∧ s.store.unset? b names = some absent := by
  induction names generalizing absent t with
  | nil =>
      rw [Caller.unsetAmong, Store.unset?]
      constructor
      · rintro ⟨⟩
        exact ⟨rfl, rfl⟩
      · rintro ⟨rfl, ⟨⟩⟩
        rfl
  | cons name rest ih =>
      have slot := orderly.property?_private (b := b) (isPrivate_slotAttribute name.written)
      constructor
      · intro run
        rw [Caller.unsetAmong] at run
        obtain ⟨found, u, read, more⟩ := bind_eq_ok.1 run
        obtain ⟨rfl, kept⟩ := (orderly.read_eq_ok slot depth).1 read
        obtain ⟨others, v, tail, ended⟩ := bind_eq_ok.1 more
        obtain ⟨rfl, unset⟩ := ih.1 tail
        cases ended
        rw [Store.unset?, kept, unset]
        exact ⟨rfl, rfl⟩
      · rintro ⟨rfl, unset⟩
        rw [Store.unset?] at unset
        split at unset
        · next found others kept tail =>
            cases unset
            rw [Caller.unsetAmong, bind_of_ok ((orderly.read_eq_ok slot depth).2 ⟨rfl, kept⟩),
              bind_of_ok (ih.2 ⟨rfl, tail⟩)]
            rfl
        · cases unset

theorem missing_eq_ok (depth : Nat) {absent : List Value} :
    (Caller.upTo depth).missing b s = .ok absent t ↔ t = s ∧ s.store.missing? b = some absent := by
  have required := orderly.property?_private (b := b) (by decide : isPrivate "_required" = true)
  unfold Caller.missing Store.missing?
  constructor
  · intro run
    obtain ⟨names, u, items, unset⟩ := bind_eq_ok.1 run
    obtain ⟨rfl, kept⟩ := (orderly.readItems_eq_ok required depth).1 items
    rw [kept]
    exact (orderly.unsetAmong_eq_ok depth names).1 unset
  · rintro ⟨rfl, unset⟩
    obtain ⟨names, items, unset⟩ := Option.bind_eq_some_iff.1 unset
    exact (bind_of_ok ((orderly.readItems_eq_ok required depth).2 ⟨rfl, items⟩)).trans
      ((orderly.unsetAmong_eq_ok depth names).2 ⟨rfl, unset⟩)

/-- What a builder answers that is asked what is missing. -/
theorem missing?_of_own {depth : Nat} {answer : Value}
    (run : (Caller.upTo depth).own b "missing" s = .ok answer t) :
    t = s ∧ ∃ absent, answer = .list absent ∧ s.store.missing? b = some absent := by
  by_cases builder : s.store.isOf b Standard.builderBase
  · have class_ := orderly.ordinary_class builder
    have plain : s.store.ReadsPlainly b := class_.toReadsPlainly
    obtain ⟨owner, member⟩ : ∃ owner, s.store.member? b "missing" = some (owner, .method .missing) :=
      class_.missing
    have ordinary := Store.property?_of_member member (by simp)
    rcases Store.kept?_cases member with ⟨value, kept⟩ | kept
    · rw [Caller.own_of_kept plain ordinary kept] at run
      cases depth <;> cases run
    · rw [Caller.own_of_kept plain ordinary kept] at run
      cases depth with
      | zero => cases run
      | succ depth =>
          have called : (do return .list (← (Caller.upTo depth).missing b) : BuildM ρ Value) s =
              .ok answer t :=
            (Caller.upTo_method depth s b _ _ .missing (by decide) {}).symm.trans run
          obtain ⟨absent, u, asked, ended⟩ := bind_eq_ok.1 called
          obtain ⟨rfl, missing⟩ := (orderly.missing_eq_ok depth).1 asked
          cases ended
          exact ⟨rfl, absent, rfl, missing⟩
  · obtain ⟨fault, eq⟩ := orderly.exists_fault_of_own_missing depth builder
    cases eq.symm.trans run

/-- A builder of which nothing hides it answers what is missing. -/
theorem own_missing (builder : s.store.isOf b Standard.builderBase)
    (shown : s.store.held? b "missing" = none) {absent : List Value}
    (missing : s.store.missing? b = some absent) (depth : Nat) :
    (Caller.upTo (depth + 1)).own b "missing" s = .ok (.list absent) s := by
  have class_ := orderly.ordinary_class builder
  obtain ⟨owner, member⟩ : ∃ owner, s.store.member? b "missing" = some (owner, .method .missing) :=
    class_.missing
  have kept := Store.kept?_of_member shown member
  rw [Caller.own_of_kept class_.toReadsPlainly (Store.property?_of_member member (by simp)) kept]
  refine (Caller.upTo_method depth s b _ _ .missing (by decide) {}).trans ?_
  exact bind_of_ok ((orderly.missing_eq_ok depth).2 ⟨rfl, missing⟩)

/-! ### Making the element -/

/-- None of what an element is made of is computed. -/
theorem property?_source {product : Product} {name : String} (among : name ∈ product.sources) :
    s.store.property? b name = none := by
  cases computed : s.store.property? b name with
  | none => rfl
  | some property =>
      rcases orderly.property?_cases computed with ⟨rfl, _⟩ | ⟨rfl, _⟩ <;>
        cases product <;> exact absurd among (by decide)

/-- What a builder needs to have to make an element. -/
theorem holds_of_make {depth : Nat} {product : Product} {node : Node}
    (run : (Caller.upTo depth).make b product s = .ok node t) : s.store.Holds b product := by
  have value : ∀ {name : String}, name ∈ product.sources → ∀ {value : Value} {u : Session ρ},
      (Caller.upTo depth).readValue b name s = .ok value u →
        u = s ∧ ∃ found, s.store.kept? b name = some found := by
    intro name among value u run
    obtain ⟨found, v, read, ended⟩ := bind_eq_ok.1 run
    obtain ⟨rfl, kept⟩ := (orderly.read_eq_ok (orderly.property?_source among) depth).1 read
    cases ended
    exact ⟨rfl, found, kept⟩
  have items : ∀ {name : String}, name ∈ product.sources → ∀ {items : List Value} {u : Session ρ},
      (Caller.upTo depth).readItems b name s = .ok items u →
        u = s ∧ ∃ found, s.store.kept? b name = some found := by
    intro name among items u run
    obtain ⟨rfl, items⟩ := (orderly.readItems_eq_ok (orderly.property?_source among) depth).1 run
    obtain ⟨found, kept, _⟩ := Option.bind_eq_some_iff.1 items
    exact ⟨rfl, found, kept⟩
  cases product with
  | head =>
      obtain ⟨_, _, title, _⟩ := bind_eq_ok.1 run
      obtain ⟨_, kept⟩ := value (by decide) title
      simpa [Store.Holds, Product.sources] using kept
  | body =>
      obtain ⟨_, _, children, _⟩ := bind_eq_ok.1 run
      obtain ⟨_, kept⟩ := items (by decide) children
      simpa [Store.Holds, Product.sources] using kept
  | division =>
      obtain ⟨_, _, children, more⟩ := bind_eq_ok.1 run
      obtain ⟨rfl, first⟩ := items (by decide) children
      obtain ⟨_, _, ident, last⟩ := bind_eq_ok.1 more
      obtain ⟨rfl, second⟩ := value (by decide) ident
      obtain ⟨_, _, className, _⟩ := bind_eq_ok.1 last
      obtain ⟨_, third⟩ := value (by decide) className
      simpa [Store.Holds, Product.sources] using ⟨first, second, third⟩
  | document =>
      obtain ⟨_, _, head, more⟩ := bind_eq_ok.1 run
      obtain ⟨rfl, first⟩ := value (by decide) head
      obtain ⟨_, _, body, _⟩ := bind_eq_ok.1 more
      obtain ⟨_, second⟩ := value (by decide) body
      simpa [Store.Holds, Product.sources] using ⟨first, second⟩

/-- A builder that has what an element is made of makes it. -/
theorem make_of_holds {product : Product} (holds : s.store.Holds b product) (depth : Nat) :
    (Caller.upTo depth).make b product s = .ok (s.store.element b product) s := by
  have value : ∀ name ∈ product.sources,
      (Caller.upTo depth).readValue b name s = .ok (s.store.shown b name) s := by
    intro name among
    obtain ⟨found, kept⟩ := holds name among
    have read := (orderly.read_eq_ok (orderly.property?_source among) depth).2 ⟨rfl, kept⟩
    unfold Store.shown
    rw [kept]
    exact bind_of_ok read
  have items : "_children" ∈ product.sources →
      (Caller.upTo depth).readItems b "_children" s = .ok (s.store.childrenOf b) s := by
    intro among
    obtain ⟨found, kept⟩ := holds _ among
    obtain ⟨items, rfl, _⟩ := orderly.kept?_children kept
    unfold Store.childrenOf
    rw [kept]
    exact (orderly.readItems_eq_ok (orderly.property?_source among) depth).2 ⟨rfl, by rw [kept]; rfl⟩
  cases product with
  | head => exact bind_of_ok (value "_title" (by decide))
  | body => exact bind_of_ok (items (by decide))
  | division =>
      exact (bind_of_ok (items (by decide))).trans ((bind_of_ok (value "id" (by decide))).trans
        (bind_of_ok (value "class_name" (by decide))))
  | document =>
      exact (bind_of_ok (value "_head" (by decide))).trans
        (bind_of_ok (value "_body" (by decide)))

/-- What calling the maker of a builder does. -/
theorem own_make (inside : b.index < s.store.builders.length)
    (builder : s.store.isOf b Standard.builderBase) {owner : ClassId} {product : Product}
    (member : s.store.member? b "_make_node" = some (owner, .maker (some product))) (depth : Nat) :
    (Caller.upTo (depth + 1)).own b "_make_node" s =
      (do return .node (← (Caller.upTo depth).make b product) : BuildM ρ Value) s := by
  have kept := Store.kept?_of_member (orderly.builders b inside).making member
  rw [Caller.own_of_kept (orderly.ordinary_class builder).toReadsPlainly
    (Store.property?_of_member member (by simp)) kept, Caller.upTo_maker]
  rfl

/-! ### Finalizing -/

/-- What a builder is finalized into is made when nothing is missing. -/
theorem made_of_build {depth : Nat} {made : Value} (run : (Caller.upTo depth).build b s = .ok made t) :
    s.store.isOf b Standard.builderBase ∧ s.store.missing? b = some [] ∧
      ∃ owner product d node, s.store.member? b "_make_node" = some (owner, .maker (some product)) ∧
        made = .node node ∧ (Caller.upTo d).make b product s = .ok node s := by
  obtain ⟨inside, builder⟩ : b.index < s.store.builders.length ∧
      s.store.isOf b Standard.builderBase := by
    rcases orderly.build_cases depth b with ⟨fault, eq⟩ | ⟨inside, builder, _⟩
    · cases eq.symm.trans run
    · exact ⟨inside, builder⟩
  unfold Caller.build at run
  obtain ⟨answer, u, asked, more⟩ := bind_eq_ok.1 run
  obtain ⟨rfl, absent, rfl, complete⟩ := orderly.missing?_of_own asked
  cases absent with
  | cons name rest => cases more
  | nil =>
      obtain ⟨owner, product, member⟩ := (orderly.builders b inside).maker builder
      obtain ⟨element, v, called, more⟩ := bind_eq_ok.1 more
      obtain ⟨_, _, _, more⟩ := bind_eq_ok.1 more
      obtain ⟨_, _, _, ended⟩ := bind_eq_ok.1 more
      cases ended
      refine ⟨builder, complete, owner, product, ?_⟩
      cases depth with
      | zero =>
          have kept := Store.kept?_of_member (orderly.builders b inside).making member
          rw [Caller.own_of_kept (orderly.ordinary_class builder).toReadsPlainly
            (Store.property?_of_member member (by simp)) kept] at called
          cases called
      | succ depth =>
          rw [orderly.own_make inside builder member] at called
          obtain ⟨node, w, made, answered⟩ := bind_eq_ok.1 called
          cases answered
          obtain rfl := (Caller.quiet_make depth (orderly.readable b) product).eq_of_ok made
          exact ⟨depth, node, member, rfl, made⟩

/-- A builder that is finalized was ready. -/
theorem ready_of_build {depth : Nat} {made : Value} (run : (Caller.upTo depth).build b s = .ok made t) :
    s.store.Ready b := by
  obtain ⟨builder, complete, owner, product, d, node, member, _, made⟩ := orderly.made_of_build run
  exact ⟨builder, complete, owner, product, member, orderly.holds_of_make made⟩

end Store.Orderly

namespace Store

variable {s : Session ρ} {b : BuilderRef}

/-- Of a builder of which nothing hides it, calling what finalizes it finalizes it. -/
theorem Orderly.own_build (orderly : s.store.Orderly) (builder : s.store.isOf b Standard.builderBase)
    (shown : s.store.held? b "build" = none) (depth : Nat) :
    (Caller.upTo (depth + 1)).own b "build" s = (Caller.upTo depth).build b s := by
  have class_ := orderly.ordinary_class builder
  obtain ⟨owner, member⟩ : ∃ owner, s.store.member? b "build" = some (owner, .method .build) :=
    class_.build
  have kept := Store.kept?_of_member shown member
  rw [Caller.own_of_kept class_.toReadsPlainly (Store.property?_of_member member (by simp)) kept]
  exact Caller.upTo_method depth s b _ _ .build (by decide) {}

/-- A builder of which nothing is missing is finalized into the element that it has gathered, if
nothing hides what it is asked for. -/
theorem Orderly.own_build_of_complete (orderly : s.store.Orderly)
    (inside : b.index < s.store.builders.length) (builder : s.store.isOf b Standard.builderBase)
    (complete : s.store.missing? b = some []) {maker : ClassId} {product : Product}
    (member : s.store.member? b "_make_node" = some (maker, .maker (some product)))
    (holds : s.store.Holds b product) (shown : s.store.held? b "build" = none)
    (asked : s.store.held? b "missing" = none) (depth : Nat) :
    (Caller.upTo (depth + 2)).own b "build" s = .ok (.node (s.store.element b product))
      { s with store := s.store.finalizedInto b (s.store.element b product) } := by
  rw [orderly.own_build builder shown]
  -- It ends well if neither what is missing nor its element is refused.
  have made := orderly.make_of_holds holds depth
  have absent := orderly.own_missing builder asked complete depth
  have element : (Caller.upTo (depth + 1)).own b "_make_node" s =
      .ok (.node (s.store.element b product)) s :=
    (orderly.own_make inside builder member depth).trans (bind_of_ok made)
  unfold Caller.build
  rw [bind_of_ok absent]
  show ((Caller.upTo (depth + 1)).own b "_make_node" >>= _) s = _
  rw [bind_of_ok element, bind_apply, perform_apply,
    Caller.finalize_of_ordinary (orderly.ordinary inside builder)]
  simp [bind_apply, perform_apply, Store.record, Store.finalizedInto]

/-- A builder that is ready can be finalized, at every depth of nested calls that is enough for
it. -/
theorem Ready.own_build (ready : s.store.Ready b) (orderly : s.store.Orderly)
    (inside : b.index < s.store.builders.length) (shown : s.store.held? b "build" = none)
    (asked : s.store.held? b "missing" = none) (depth : Nat) :
    ∃ node, (Caller.upTo (depth + 2)).own b "build" s =
      .ok (.node node) { s with store := s.store.finalizedInto b node } := by
  obtain ⟨maker, product, member, holds⟩ := ready.makes
  exact ⟨_, orderly.own_build_of_complete inside ready.builder ready.complete member holds shown
    asked depth⟩

end Store

end ScopedHtml
