import ScopedHtml.Node.Walk
import ScopedHtml.Proofs.ScriptCourse
import ScopedHtml.Proofs.Ready

/-!
# ScopedHtml.Proofs.WellFormed

**The library's builders keep and make well-formed elements only.** Elements check nothing
themselves. An element is well formed (`Node.WellFormed`) if every document in it has a head
and a body, every head a title, and every child is an element. It can be walked then
(`Node.walk_of_wellFormed`).

A store is tidy (`Store.Tidy`) if it has the library's classes only, all children that
builders keep are well formed and every slot is empty or holds a well-formed element of its
kind. As long as only well-formed elements are appended, it stays tidy, and whatever is made
or answered is well formed (`Course.proper`).
-/

namespace ScopedHtml

open BuildM

variable {ρ : Type}

/-! ### Elements -/

/-- Whether a value is an element of a kind. -/
def Value.IsKind (kind : NodeKind) : Value → Prop
  | .node element => element.kind = kind
  | _ => False

mutual

/-- Whether every document has a head and a body, every head a title, and every child is an
element, throughout. -/
def Node.WellFormed : Node → Prop
  | .title _ => True
  | .paragraph _ => True
  | .head title => title.IsKind .title ∧ title.WellFormed
  | .body children => AreWellFormed children
  | .division children _ _ => AreWellFormed children
  | .document head body =>
      (head.IsKind .head ∧ head.WellFormed) ∧ body.IsKind .body ∧ body.WellFormed

/-- The same of an element in a slot. -/
def Value.WellFormed : Value → Prop
  | .node node => node.WellFormed
  | _ => False

/-- The same of elements in a row. -/
def AreWellFormed : List Value → Prop
  | [] => True
  | value :: rest => value.WellFormed ∧ AreWellFormed rest

end

theorem Value.IsKind.exists_node {kind : NodeKind} {value : Value} (is : value.IsKind kind) :
    ∃ node, value = .node node ∧ node.kind = kind := by
  cases value with
  | node node => exact ⟨node, rfl, is⟩
  | _ => exact is.elim

theorem areWellFormed_append {values others : List Value} :
    AreWellFormed (values ++ others) ↔ AreWellFormed values ∧ AreWellFormed others := by
  induction values with
  | nil => simp [AreWellFormed]
  | cons value rest ih => simp [AreWellFormed, ih, and_assoc]

theorem wellFormed_of_mem {values : List Value} (all : AreWellFormed values) {value : Value}
    (among : value ∈ values) : value.WellFormed := by
  obtain ⟨front, back, rfl⟩ := List.append_of_mem among
  exact (areWellFormed_append.1 all).2.1

mutual

/-- A well-formed element can be walked, itself first. -/
theorem Node.walk_of_wellFormed {node : Node} (h : node.WellFormed) :
    ∃ below, node.walk = .ok (node :: below) := by
  cases node with
  | title content => exact ⟨[], by rw [Node.walk]⟩
  | paragraph content => exact ⟨[], by rw [Node.walk]⟩
  | head title =>
      rw [Node.WellFormed] at h
      obtain ⟨below, walked⟩ := Value.walk_of_wellFormed h.2
      exact ⟨below, by rw [Node.walk, walked]; rfl⟩
  | body children =>
      rw [Node.WellFormed] at h
      obtain ⟨below, walked⟩ := walkAll_of_wellFormed h
      exact ⟨below, by rw [Node.walk, walked]; rfl⟩
  | division children ident className =>
      rw [Node.WellFormed] at h
      obtain ⟨below, walked⟩ := walkAll_of_wellFormed h
      exact ⟨below, by rw [Node.walk, walked]; rfl⟩
  | document head body =>
      rw [Node.WellFormed] at h
      obtain ⟨before, first⟩ := Value.walk_of_wellFormed h.1.2
      obtain ⟨after, second⟩ := Value.walk_of_wellFormed h.2.2
      exact ⟨before ++ after, by rw [Node.walk, first, second]; rfl⟩

theorem Value.walk_of_wellFormed {value : Value} (h : value.WellFormed) :
    ∃ nodes, value.walk = .ok nodes := by
  cases value with
  | node node =>
      rw [Value.WellFormed] at h
      obtain ⟨below, walked⟩ := Node.walk_of_wellFormed h
      exact ⟨node :: below, by rw [Value.walk, walked]⟩
  | _ => exact h.elim

theorem walkAll_of_wellFormed {values : List Value} (h : AreWellFormed values) :
    ∃ nodes, walkAll values = .ok nodes := by
  cases values with
  | nil => exact ⟨[], by rw [walkAll]⟩
  | cons value rest =>
      rw [AreWellFormed] at h
      obtain ⟨first, walked⟩ := Value.walk_of_wellFormed h.1
      obtain ⟨others, walkedRest⟩ := walkAll_of_wellFormed h.2
      exact ⟨first ++ others, by rw [walkAll, walked, walkedRest]; rfl⟩

end

/-- What a slot of the library's builders may hold: nothing, or a well-formed element. -/
def Value.Fills (kind : NodeKind) (value : Value) : Prop :=
  value = .null ∨ value.IsKind kind ∧ value.WellFormed

/-- The slots of the library's builders, with what belongs there. -/
def slotKinds : List (String × NodeKind) :=
  [("_title", .title), ("_head", .head), ("_body", .body)]

/-- A store with the library's classes only, of which all builders keep what is well formed. -/
structure Store.Tidy (store : Store) : Prop where
  library : store.classes.classes.length = Standard.classes.classes.length
  children : ∀ b items, store.held? b "_children" = some (.list items) → AreWellFormed items
  slots : ∀ name kind, (name, kind) ∈ slotKinds → ∀ b value,
    store.held? b name = some value → value.Fills kind

namespace Store

variable {custom : Prop} {store after : Store} {b : BuilderRef} {name : String}

/-- What builders hold is what they held, or is tidy as well. -/
theorem Tidy.of_held (tidy : store.Tidy)
    (library : after.classes.classes.length = store.classes.classes.length)
    (held : ∀ b name value, after.held? b name = some value → store.held? b name = some value ∨
      (name = "_children" → ∀ items, value = .list items → AreWellFormed items) ∧
        ∀ kind, (name, kind) ∈ slotKinds → value.Fills kind) : after.Tidy where
  library := library.trans tidy.library
  children := by
    intro b items now
    rcases held b _ _ now with before | ⟨fresh, _⟩
    · exact tidy.children b items before
    · exact fresh rfl items rfl
  slots := by
    intro name kind slot b value now
    rcases held b _ _ now with before | ⟨_, fresh⟩
    · exact tidy.slots name kind slot b value before
    · exact fresh kind slot

theorem Tidy.assign (tidy : store.Tidy) (b : BuilderRef) {value : Value}
    (children : name = "_children" → ∀ items, value = .list items → AreWellFormed items)
    (slots : ∀ kind, (name, kind) ∈ slotKinds → value.Fills kind) :
    (store.assign b name value).Tidy := by
  refine tidy.of_held rfl ?_
  intro c other found now
  by_cases inside : b.index < store.builders.length
  · rw [held?_assign inside] at now
    split at now
    · next same =>
        cases now
        obtain ⟨_, rfl⟩ := same
        exact .inr ⟨children, slots⟩
    · exact .inl now
  · rw [assign_of_outside inside] at now
    exact .inl now

/-- Something may be put behind the children of a builder if it is well formed. -/
theorem Tidy.gather (tidy : store.Tidy) {items : List Value} {value : Value}
    (held : store.held? b "_children" = some (.list items)) (wellFormed : value.WellFormed) :
    (store.assign b "_children" (.list (items ++ [value]))).Tidy := by
  refine tidy.assign b ?_ fun kind slot => by simp [slotKinds] at slot
  rintro - _ ⟨⟩
  exact areWellFormed_append.2 ⟨tidy.children b items held, wellFormed, trivial⟩

theorem Tidy.onClasses (tidy : store.Tidy) {classes : ClassTable}
    (library : classes.classes.length = store.classes.classes.length) :
    ({ store with classes } : Store).Tidy :=
  tidy.of_held library fun _ _ _ now => .inl now

theorem Tidy.finalizedInto (tidy : store.Tidy) (b : BuilderRef) (node : Node) :
    (store.finalizedInto b node).Tidy := by
  have marked : (store.assign b "_finalized" (.bool true)).Tidy :=
    tidy.assign b nofun fun kind slot => by simp [slotKinds] at slot
  exact marked.of_held rfl fun _ _ _ now => .inl now

/-- A new builder may be added. -/
theorem Tidy.add (tidy : store.Tidy) {builder : Builder}
    (fresh : ∀ name value, builder.held.find? name = some value → StartsWith name value) :
    (store.add builder).2.Tidy := by
  refine tidy.of_held rfl ?_
  intro b name value now
  refine (held_of_add now).imp id ?_
  rintro ⟨_, found⟩
  have starts := fresh name value found
  refine ⟨?_, fun kind slot => .inl (starts.null ?_)⟩
  · rintro rfl items rfl
    cases starts.children
    trivial
  · exact List.mem_map_of_mem (f := Prod.fst) slot

/-- Whatever changes, a store of the library's classes stays tidy. -/
theorem Change.tidy (orderly : store.Orderly) (change : store.Change (.lasting False) after)
    (tidy : store.Tidy) : after.Tidy := by
  cases change with
  | assigned b name value shown =>
      refine tidy.assign b ?_ ?_
      · rintro rfl
        exact absurd shown (by decide)
      · intro kind slot
        have hidden : ∀ entry ∈ slotKinds, isPrivate entry.1 = true := by decide
        exact absurd (hidden _ slot) (by simp [shown])
  | titled b content =>
      refine tidy.assign b nofun ?_
      intro kind slot
      simp [slotKinds] at slot
      subst slot
      exact .inr ⟨rfl, trivial⟩
  | gathered b items content held => exact tidy.gather held trivial
  | started id owner starter given inside start makes =>
      have plain := orderly.startsPlainly inside
      exact tidy.add fun name value => plain.startsWith_held (plain.known_of_resolve start)
  | made id inside start => exact tidy.add nofun
  | defined new allowed members ancestors lines => exact allowed.elim
  | registered id names => exact tidy.onClasses (ClassTable.length_classes_assign ..)
  | named name id inside => exact tidy.onClasses rfl
  | restarted b name value allowed keepable => exact allowed.elim

end Store

/-! ### What builders make -/

/-- The kind of element that a builder makes. -/
def Product.kind : Product → NodeKind
  | .head => .head
  | .body => .body
  | .division => .division
  | .document => .document

/-- Each of the library's classes makes one kind of element, if any. -/
theorem Standard.eq_builderId {id owner : ClassId} {product : Product}
    (inside : id.index < Standard.classes.classes.length)
    (make : Standard.classes.resolve id "_make_node" = some (owner, .maker (some product))) :
    id = product.builderId := by
  obtain ⟨index⟩ := id
  have inside : index < 7 := inside
  have cases : index = 0 ∨ index = 1 ∨ index = 2 ∨ index = 3 ∨ index = 4 ∨ index = 5 ∨
      index = 6 := by omega
  rcases cases with rfl | rfl | rfl | rfl | rfl | rfl | rfl <;> cases make <;> rfl

namespace Store.Tidy

variable {s t : Session ρ} {b : BuilderRef} {product : Product} {name : String}

/-- The class of a builder that makes an element is that of the library's which makes it. -/
theorem eq_builderId {store : Store} (tidy : store.Tidy) (orderly : store.Orderly) {owner : ClassId}
    (make : store.member? b "_make_node" = some (owner, .maker (some product))) :
    (store.get b).classId = product.builderId := by
  have inside : (store.get b).classId.index < Standard.classes.classes.length :=
    Nat.lt_of_lt_of_eq (orderly.there b) tidy.library
  exact Standard.eq_builderId inside ((orderly.sound.resolve inside (by decide)).symm.trans make)

/-- Under the names of their attributes the library's builders keep what they hold. -/
theorem held_of_kept {store : Store} (orderly : store.Orderly)
    (class_ : (store.get b).classId = product.builderId) (own : name ∈ attributeNames) {found : Found}
    (kept : store.kept? b name = some found) :
    ∃ value, found = .value value ∧ store.held? b name = some value := by
  have tight : ∀ name ∈ attributeNames, name ∉ looseNames ∧ name ≠ attributesName ∧
      name ∉ Value.inherent := by decide
  obtain ⟨tight, single, special⟩ := tight name own
  have member : store.member? b name = none := by
    rw [Store.member?_of_classId class_, orderly.sound.resolve product.inside tight]
    exact product.resolve_attribute name own
  have inherent : store.inherent? b name = none := by
    unfold Store.inherent?
    rw [if_neg single, if_neg special]
  exact Store.held?_of_kept member inherent kept

theorem readValue_eq_ok (orderly : s.store.Orderly)
    (class_ : (s.store.get b).classId = product.builderId) (own : name ∈ attributeNames)
    (depth : Nat) {value : Value} (run : (Caller.upTo depth).readValue b name s = .ok value t) :
    t = s ∧ s.store.held? b name = some value := by
  have ordinary : s.store.property? b name = none := by
    cases computed : s.store.property? b name with
    | none => rfl
    | some property =>
        rcases orderly.property?_cases computed with ⟨rfl, _⟩ | ⟨rfl, _⟩ <;>
          exact absurd own (by decide)
  obtain ⟨found, u, read, ended⟩ := bind_eq_ok.1 run
  obtain ⟨rfl, kept⟩ := (orderly.read_eq_ok ordinary depth).1 read
  obtain ⟨value, rfl, held⟩ := held_of_kept orderly class_ own kept
  cases ended
  exact ⟨rfl, held⟩

theorem readItems_eq_ok (orderly : s.store.Orderly) (depth : Nat) {items : List Value}
    (run : (Caller.upTo depth).readItems b "_children" s = .ok items t) :
    t = s ∧ s.store.held? b "_children" = some (.list items) := by
  obtain ⟨rfl, read⟩ :=
    (orderly.readItems_eq_ok (orderly.property?_private (by decide)) depth).1 run
  obtain ⟨found, kept, items⟩ := Option.bind_eq_some_iff.1 read
  obtain ⟨others, rfl, held⟩ := orderly.kept?_children kept
  cases items
  exact ⟨rfl, held⟩

/-- What the library's builders require. -/
theorem kept?_required {store : Store} (orderly : store.Orderly)
    (inside : b.index < store.builders.length)
    (class_ : (store.get b).classId = product.builderId) :
    store.kept? b "_required" = some (.value (.ofNames (product.start []).required)) := by
  obtain ⟨owner, member⟩ : ∃ owner, store.member? b "_required" =
      some (owner, .data (.ofNames (product.start []).required)) := by
    rw [Store.member?_of_classId class_, orderly.sound.resolve product.inside (by decide)]
    cases product <;> exact ⟨_, rfl⟩
  exact kept?_of_member (orderly.builders b inside).required member

/-- If nothing is missing, the slots of what is required hold what belongs there. -/
theorem filled {store : Store} (tidy : store.Tidy) (orderly : store.Orderly)
    (inside : b.index < store.builders.length)
    (class_ : (store.get b).classId = product.builderId) (complete : store.missing? b = some [])
    (name : String) (among : name ∈ (product.start []).required) {kind : NodeKind}
    (slot : (slotAttribute name, kind) ∈ slotKinds) {value : Value}
    (held : store.held? b (slotAttribute name) = some value) :
    value.IsKind kind ∧ value.WellFormed := by
  unfold Store.missing? at complete
  rw [kept?_required orderly inside class_] at complete
  obtain ⟨found, kept, set⟩ := set_of_unset? complete (.text name)
    (List.mem_map_of_mem (f := Value.text) among)
  rw [Value.written_text, kept?_of_held held] at kept
  cases kept
  rcases tidy.slots _ kind slot b value held with rfl | fits
  · cases set
  · exact fits

/-- If nothing is missing, the element that a builder makes is well formed. -/
theorem wellFormed_of_make (tidy : s.store.Tidy) (orderly : s.store.Orderly)
    (inside : b.index < s.store.builders.length)
    (class_ : (s.store.get b).classId = product.builderId)
    (complete : s.store.missing? b = some []) {depth : Nat} {node : Node}
    (run : (Caller.upTo depth).make b product s = .ok node t) :
    node.WellFormed ∧ node.kind = product.kind := by
  cases product with
  | head =>
      obtain ⟨title, u, read, ended⟩ := bind_eq_ok.1 run
      obtain ⟨rfl, held⟩ := readValue_eq_ok orderly class_ (by decide) depth read
      cases ended
      exact ⟨tidy.filled orderly inside class_ complete "title" (.head _) (.head _) held, rfl⟩
  | body =>
      obtain ⟨children, u, read, ended⟩ := bind_eq_ok.1 run
      obtain ⟨rfl, held⟩ := readItems_eq_ok orderly depth read
      cases ended
      exact ⟨tidy.children b children held, rfl⟩
  | division =>
      obtain ⟨children, u, read, more⟩ := bind_eq_ok.1 run
      obtain ⟨rfl, held⟩ := readItems_eq_ok orderly depth read
      obtain ⟨ident, v, _, more⟩ := bind_eq_ok.1 more
      obtain ⟨className, w, _, ended⟩ := bind_eq_ok.1 more
      cases ended
      exact ⟨tidy.children b children held, rfl⟩
  | document =>
      obtain ⟨head, u, readHead, more⟩ := bind_eq_ok.1 run
      obtain ⟨rfl, heldHead⟩ := readValue_eq_ok orderly class_ (by decide) depth readHead
      obtain ⟨body, v, readBody, ended⟩ := bind_eq_ok.1 more
      obtain ⟨rfl, heldBody⟩ := readValue_eq_ok orderly class_ (by decide) depth readBody
      cases ended
      have first := tidy.filled orderly inside class_ complete "head" (.head _) (.tail _ (.head _))
        heldHead
      have second := tidy.filled orderly inside class_ complete "body" (.tail _ (.head _))
        (.tail _ (.tail _ (.head _))) heldBody
      exact ⟨⟨first, second⟩, rfl⟩

end Store.Tidy

/-! ### Happenings -/

/-- What is made, attached, appended or answered is well formed, and what is made of the kind
that the builder makes. What makes elements may be called too early by itself. -/
def Happening.Proper : Happening ρ → Prop
  | .rest _ => True
  | .built b made s _ => made.WellFormed ∧
      ∀ product : Product, (s.store.get b).classId = product.builderId → made.IsKind product.kind
  | .attached _ _ made _ _ => made.WellFormed
  | .appended _ node _ _ => node.WellFormed
  | .answered member answer _ =>
      member ≠ "_make_node" → ∀ node, answer = .node node → node.WellFormed

namespace Happening

variable {h : Happening ρ} {earlier : List (Happening ρ)}

theorem Proper.of_carries (proper : h.Proper) {node : Node} (carries : h.Carries node) :
    node.WellFormed := by
  cases h with
  | built b made s t =>
      cases carries
      exact proper.1
  | appended b other s t =>
      cases carries
      exact proper
  | _ => exact carries.elim

/-- What happens on a tidy store is proper, if only well-formed elements are appended. -/
theorem Fits.proper (fits : h.Fits earlier) (orderly : h.before.store.Orderly)
    (tidy : h.before.store.Tidy) (before : ∀ g ∈ earlier, g.Proper)
    (given : ∀ b node s t, h = .appended b node s t → node.WellFormed) : h.Proper := by
  cases fits with
  | rest s => trivial
  | @built depth b made s t done =>
      obtain ⟨inside, _, _⟩ := (show Fits earlier _ from .built done).built_inv orderly
      obtain ⟨_, complete, owner, product, d, node, make, rfl, run⟩ := orderly.made_of_build done
      have class_ := tidy.eq_builderId orderly make
      obtain ⟨wellFormed, kind⟩ := tidy.wellFormed_of_make orderly inside class_ complete run
      refine ⟨wellFormed, ?_⟩
      intro other same
      have same : product.builderId = other.builderId := class_.symm.trans same
      have : product = other := by cases product <;> cases other <;> first | rfl | cases same
      rw [← this]
      exact kind
  | attached made opened behind opener done => exact (before _ made).1
  | appended held => exact given _ _ _ _ rfl
  | answered known =>
      rintro make node rfl
      rcases known node rfl make with ⟨content, rfl | rfl⟩ | ⟨g, among, carries⟩
      · trivial
      · trivial
      · exact (before g among).of_carries carries

/-- What the library's openers attach belongs where they attach it. -/
theorem Fits.tidy (fits : h.Fits earlier) (orderly : h.before.store.Orderly)
    (tidy : h.before.store.Tidy) (before : ∀ g ∈ earlier, g.Proper) (proper : h.Proper) :
    h.after.store.Tidy := by
  cases fits with
  | rest s => exact tidy
  | answered known => exact tidy
  | @built depth b made s t done =>
      obtain ⟨_, _, node, rfl, rfl⟩ := (show Fits earlier _ from .built done).built_inv orderly
      exact tidy.finalizedInto b node
  | appended held => exact tidy.gather held proper
  | @attached parent element target attachment child node owner s u v after made opened behind
      opener done =>
      cases done with
      | discarded => exact tidy
      | gathered b items held => exact tidy.gather held proper
      | kept b free =>
          have near : owner.index < Standard.classes.classes.length :=
            Nat.lt_of_lt_of_eq (orderly.sound.closed.line (orderly.there b) owner behind)
              tidy.library
          obtain ⟨opener, same⟩ := Standard.exists_opener (Standard.get_mem near) (opener near)
          have kind : ∀ product : Product, target = .fixed product.builderId →
              (Value.node node).IsKind product.kind := fun product fixed =>
            (before _ made).2 product (opened _ fixed)
          refine tidy.assign b ?_ ?_
          · intro same
            rw [same] at free
            exact absurd free (by decide)
          · intro other slot
            refine .inr ⟨?_, proper⟩
            -- The openers that keep what they make are those of heads and bodies.
            cases opener <;> cases same <;>
              simp [slotKinds, slotAttribute, Opener.name] at slot <;> subst slot
            · exact kind .head rfl
            · exact kind .body rfl
      | keptByClass id free loose => exact tidy.onClasses (ClassTable.length_classes_assign ..)

end Happening

namespace Course

variable {happenings : List (Happening ρ)} {before after : Store}

/-- All along a course of the library's classes from a tidy store, what happens is proper, if
only well-formed elements are appended, and the store stays tidy. So does what is preserved
on such stores. -/
theorem tidy_invariant {P : List (Happening ρ) → Store → Prop}
    (change : ∀ earlier store after, store.Orderly → store.Change (.lasting False) after →
      P earlier store → P earlier after)
    (happening : ∀ earlier (h : Happening ρ), h.before.store.Orderly → h.before.store.Tidy →
      h.Fits earlier → P earlier h.before.store → P (earlier ++ [h]) h.after.store)
    (course : Course (.lasting False) [] before happenings after) (orderly : before.Orderly)
    (tidy : before.Tidy) (holds : P [] before)
    (given : ∀ b node s t, .appended b node s t ∈ happenings → node.WellFormed) :
    (∀ h ∈ happenings, h.Proper) ∧ after.Tidy ∧ P happenings after := by
  have all := (course.invariant (P := fun earlier store =>
    (∀ b node s t, .appended b node s t ∈ earlier → node.WellFormed) →
      (∀ h ∈ earlier, h.Proper) ∧ store.Tidy ∧ P earlier store) ?_ ?_ orderly
    fun _ => ⟨nofun, tidy, holds⟩).2
  · exact all given
  · intro earlier store after orderly one holds given
    obtain ⟨proper, tidy, holds⟩ := holds given
    exact ⟨proper, one.tidy orderly tidy, change _ _ _ orderly one holds⟩
  · intro earlier h orderly fits holds given
    obtain ⟨before, tidy, holds⟩ := holds fun b node s t among =>
      given b node s t (List.mem_append_left _ among)
    have proper := fits.proper orderly tidy before fun b node s t same =>
      given b node s t (List.mem_append_right _ (List.mem_singleton.2 same.symm))
    refine ⟨?_, fits.tidy orderly tidy before proper, happening _ _ orderly tidy fits holds⟩
    intro g among
    rcases List.mem_append.1 among with among | among
    · exact before g among
    · rw [List.mem_singleton.1 among]
      exact proper

theorem proper (course : Course (.lasting False) [] before happenings after) (orderly : before.Orderly)
    (tidy : before.Tidy)
    (given : ∀ b node s t, .appended b node s t ∈ happenings → node.WellFormed) :
    (∀ h ∈ happenings, h.Proper) ∧ after.Tidy := by
  obtain ⟨proper, tidy, _⟩ := course.tidy_invariant (P := fun _ _ => True)
    (fun _ _ _ _ _ _ => trivial) (fun _ _ _ _ _ _ => trivial) orderly tidy trivial given
  exact ⟨proper, tidy⟩

end Course

end ScopedHtml
