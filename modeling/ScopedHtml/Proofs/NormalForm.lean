import ScopedHtml.Proofs.Context
import ScopedHtml.Proofs.Program
import ScopedHtml.Script.Run

/-!
# ScopedHtml.Proofs.NormalForm

**Equality of elements is equality of a normal form.** The scalars that a page is filled with
are texts, truth values, whole numbers and the absent value (`Value.IsScalar`); an element is
`Plain` if it holds no other values but elements. Its normal form (`Node.normal`) has the
numbers zero and one in place of the truth values.

`Node.same` compares field by field, in one case for each pair of kinds; that it is equality of
normal forms (`Node.same_iff_normal`) is the one induction here. That it is an equivalence, that
it may be used at any depth and what it makes of the representatives that `firstEqual` picks
follow from that without another look at the comparison.
-/

namespace ScopedHtml

/-! ### The scalars in an element -/

mutual

/-- Whether all values in an element that are no elements have a property. -/
def Node.Each (ok : Value → Prop) : Node → Prop
  | .title content => content.Each ok
  | .paragraph content => content.Each ok
  | .head inner => inner.Each ok
  | .body children => EachAmong ok children
  | .division children ident className =>
      EachAmong ok children ∧ ident.Each ok ∧ className.Each ok
  | .document first second => first.Each ok ∧ second.Each ok

/-- Whether a value, or all values in it if it is an element, have a property. -/
def Value.Each (ok : Value → Prop) : Value → Prop
  | .node node => node.Each ok
  | other => ok other

/-- The same of values in a row. -/
def EachAmong (ok : Value → Prop) : List Value → Prop
  | [] => True
  | value :: rest => value.Each ok ∧ EachAmong ok rest

end

@[simp] theorem Value.each_node (ok : Value → Prop) (node : Node) :
    (Value.node node).Each ok ↔ node.Each ok := by
  rw [Value.Each]

@[simp] theorem eachAmong_append (ok : Value → Prop) (values others : List Value) :
    EachAmong ok (values ++ others) ↔ EachAmong ok values ∧ EachAmong ok others := by
  induction values with
  | nil => simp [EachAmong]
  | cons value rest ih => simp [EachAmong, ih, and_assoc]

namespace Value

/-- Whether a value is a text, a truth value, a whole number or the absent value. -/
def IsScalar : Value → Prop
  | null => True
  | bool _ => True
  | int _ => True
  | text _ => True
  | _ => False

/-- Whether a value is anything but a truth value. -/
def IsBoolless : Value → Prop
  | bool _ => False
  | _ => True

/-- Whether a value is a scalar or an element that is filled with scalars. -/
abbrev Plain (value : Value) : Prop := value.Each IsScalar

end Value

namespace Node

/-- Whether an element is filled with scalars and elements, throughout. -/
abbrev Plain (node : Node) : Prop := node.Each Value.IsScalar

/-- Whether there is no truth value in an element. -/
abbrev Boolless (node : Node) : Prop := node.Each Value.IsBoolless

end Node

/-! ### Normal forms -/

mutual

/-- The element that has numbers in place of the truth values. -/
def Node.normal : Node → Node
  | .title content => .title content.normal
  | .paragraph content => .paragraph content.normal
  | .head inner => .head inner.normal
  | .body children => .body (normalAll children)
  | .division children ident className =>
      .division (normalAll children) ident.normal className.normal
  | .document first second => .document first.normal second.normal

/-- The number that a truth value counts as; an element is normalized, all else stays. -/
def Value.normal : Value → Value
  | .bool value => .int (Value.ofBool value)
  | .node node => .node node.normal
  | other => other

/-- The normal forms of values in a row. -/
def normalAll : List Value → List Value
  | [] => []
  | value :: rest => value.normal :: normalAll rest

end

@[simp] theorem normalAll_append (values others : List Value) :
    normalAll (values ++ others) = normalAll values ++ normalAll others := by
  induction values with
  | nil => simp [normalAll]
  | cons value rest ih => simp [normalAll, ih]

mutual

/-- Elements are equal when their normal forms are the same. -/
theorem Node.same_iff_normal {a b : Node} (plain : a.Plain) (plain' : b.Plain) :
    a.same b = true ↔ a.normal = b.normal := by
  cases a <;> cases b <;> simp only [Node.Plain, Node.Each] at plain plain' <;>
    simp only [Node.same, Node.normal, Node.title.injEq, Node.paragraph.injEq, Node.head.injEq,
      Node.body.injEq, Node.division.injEq, Node.document.injEq, Bool.and_eq_true,
      Bool.false_eq_true, reduceCtorEq]
  case title => exact Value.same_iff_normal plain plain'
  case paragraph => exact Value.same_iff_normal plain plain'
  case head => exact Value.same_iff_normal plain plain'
  case body => exact sameItems_iff_normal plain plain'
  case division =>
      rw [sameItems_iff_normal plain.1 plain'.1, Value.same_iff_normal plain.2.1 plain'.2.1,
        Value.same_iff_normal plain.2.2 plain'.2.2, and_assoc]
  case document =>
      rw [Value.same_iff_normal plain.1 plain'.1, Value.same_iff_normal plain.2 plain'.2]

/-- Scalars are equal when the numbers in place of truth values make them the same. -/
theorem Value.same_iff_normal {a b : Value} (plain : a.Plain) (plain' : b.Plain) :
    a.same b = true ↔ a.normal = b.normal := by
  cases a <;> cases b <;> simp only [Value.Plain, Value.Each, Value.IsScalar] at plain plain' <;>
    simp [Value.same, Value.normal, Value.whole?]
  case node a b => exact Node.same_iff_normal plain plain'

theorem sameItems_iff_normal {as bs : List Value} (plain : EachAmong Value.IsScalar as)
    (plain' : EachAmong Value.IsScalar bs) : sameItems as bs = true ↔ normalAll as = normalAll bs := by
  cases as with
  | nil => cases bs <;> simp [sameItems, normalAll]
  | cons a as =>
      cases bs with
      | nil => simp [sameItems, normalAll]
      | cons b bs =>
          simp only [EachAmong] at plain plain'
          simp only [sameItems, normalAll, Bool.and_eq_true, List.cons.injEq]
          rw [Value.same_iff_normal plain.1 plain'.1, sameItems_iff_normal plain.2 plain'.2]

end


mutual

/-- Without truth values an element is its own normal form. -/
theorem Node.normal_of_boolless {node : Node} (boolless : node.Boolless) : node.normal = node := by
  cases node with
  | title content => simp [Node.normal, Value.normal_of_boolless boolless]
  | paragraph content => simp [Node.normal, Value.normal_of_boolless boolless]
  | head inner => simp [Node.normal, Value.normal_of_boolless boolless]
  | body children => simp [Node.normal, normalAll_of_boolless boolless]
  | division children ident className =>
      obtain ⟨among, identOk, classOk⟩ := boolless
      simp [Node.normal, normalAll_of_boolless among, Value.normal_of_boolless identOk,
        Value.normal_of_boolless classOk]
  | document first second =>
      simp [Node.normal, Value.normal_of_boolless boolless.1, Value.normal_of_boolless boolless.2]

theorem Value.normal_of_boolless {value : Value} (boolless : value.Each Value.IsBoolless) :
    value.normal = value := by
  cases value with
  | bool value => exact False.elim boolless
  | node node => simp [Value.normal, Node.normal_of_boolless ((Value.each_node _ _).1 boolless)]
  | _ => rfl

theorem normalAll_of_boolless {values : List Value}
    (boolless : EachAmong Value.IsBoolless values) : normalAll values = values := by
  cases values with
  | nil => rfl
  | cons value rest =>
      simp [normalAll, Value.normal_of_boolless boolless.1, normalAll_of_boolless boolless.2]

end

/-- Elements of different kinds are not equal, whatever they hold. -/
theorem Node.same_of_kind_ne {a b : Node} (different : a.kind ≠ b.kind) : a.same b = false := by
  cases a <;> cases b <;> simp_all [Node.same, Node.kind]

/-! ### Replacing parts -/

/-- A field of an element, or a place in one, with all the element holds besides. -/
inductive Slot
  /-- The content of a title. -/
  | title
  /-- The content of a paragraph. -/
  | paragraph
  /-- The title of a head. -/
  | inner
  /-- Among the children of a body. -/
  | child (before after : List Value)
  /-- Among the children of a division with these attributes. -/
  | part (before after : List Value) (ident className : Value)
  /-- The identifier of a division. -/
  | identifier (children : List Value) (className : Value)
  /-- The class of a division. -/
  | classes (children : List Value) (ident : Value)
  /-- The head of a document that has this body. -/
  | head (body : Value)
  /-- The body of a document that has this head. -/
  | body (head : Value)

namespace Slot

/-- The element that has a value in a slot. -/
def fill : Slot → Value → Node
  | .title, value => .title value
  | .paragraph, value => .paragraph value
  | .inner, value => .head value
  | .child before after, value => .body (before ++ value :: after)
  | .part before after ident className, value =>
      .division (before ++ value :: after) ident className
  | .identifier children className, value => .division children value className
  | .classes children ident, value => .division children ident value
  | .head other, value => .document value other
  | .body other, value => .document other value

/-- The tree that has a value at the end of a way from its root, slot by slot. -/
def fillAlong : List Slot → Value → Value
  | [], value => value
  | slot :: rest, value => .node (slot.fill (fillAlong rest value))

variable {slot : Slot} {value other : Value}

theorem plain_of_fill (plain : (slot.fill value).Plain) : value.Plain := by
  cases slot <;> simp_all [fill, Node.Plain, Node.Each, EachAmong]

theorem plain_fill (plain : (slot.fill value).Plain) (plain' : other.Plain) :
    (slot.fill other).Plain := by
  cases slot <;> simp_all [fill, Node.Plain, Node.Each, EachAmong]

theorem normal_fill (same : value.normal = other.normal) :
    (slot.fill value).normal = (slot.fill other).normal := by
  cases slot <;> simp [fill, Node.normal, normalAll, same]

/-- The normal form of a tree depends on what stands at the end of a way only through its
normal form. -/
theorem normal_fillAlong (way : List Slot) (same : value.normal = other.normal) :
    (fillAlong way value).normal = (fillAlong way other).normal := by
  induction way with
  | nil => exact same
  | cons slot rest ih => simp [fillAlong, Value.normal, normal_fill ih]

theorem plain_of_fillAlong {way : List Slot} (plain : (fillAlong way value).Plain) :
    value.Plain := by
  induction way with
  | nil => exact plain
  | cons slot rest ih => exact ih (plain_of_fill ((Value.each_node _ _).1 plain))

theorem plain_fillAlong {way : List Slot} (plain : (fillAlong way value).Plain)
    (plain' : other.Plain) : (fillAlong way other).Plain := by
  induction way with
  | nil => exact plain'
  | cons slot rest ih =>
      have whole := (Value.each_node _ _).1 plain
      exact (Value.each_node _ _).2 (plain_fill whole (ih (plain_of_fill whole)))

/-- Equal values may stand for each other at any depth. -/
theorem same_fillAlong {way : List Slot} (plain : (fillAlong way value).Plain)
    (plain' : other.Plain) (same : value.same other = true) :
    (fillAlong way value).same (fillAlong way other) = true := by
  refine (Value.same_iff_normal plain (plain_fillAlong plain plain')).2 (normal_fillAlong way ?_)
  exact (Value.same_iff_normal (plain_of_fillAlong plain) plain').1 same

end Slot

/-! ### Representatives -/

namespace Node

variable {nodes : List Node} {a b c : Node}

theorem same_refl (plain : a.Plain) : a.same a = true := (same_iff_normal plain plain).2 rfl

theorem same_symm (plain : a.Plain) (plain' : b.Plain) (same : a.same b = true) :
    b.same a = true :=
  (same_iff_normal plain' plain).2 ((same_iff_normal plain plain').1 same).symm

theorem same_trans (plain : a.Plain) (plain' : b.Plain) (plain'' : c.Plain)
    (same : a.same b = true) (same' : b.same c = true) : a.same c = true :=
  (same_iff_normal plain plain'').2
    (((same_iff_normal plain plain').1 same).trans ((same_iff_normal plain' plain'').1 same'))

/-- The position of the first element in a row that equals another. -/
def firstIn (nodes : List Node) (node : Node) : Nat :=
  nodes.findIdx fun other => other.same node

theorem firstEqual_nodes (nodes : List Node) :
    firstEqual (nodes.map Value.node) = nodes.map (firstIn nodes) := by
  simp [firstEqual, firstIn, List.findIdx_map, Function.comp_def, Value.same]

theorem firstIn_lt (plain : ∀ node ∈ nodes, node.Plain) (mem : a ∈ nodes) :
    firstIn nodes a < nodes.length :=
  List.findIdx_lt_length_of_exists ⟨a, mem, same_refl (plain a mem)⟩

theorem same_of_firstIn {position : Nat} (first : firstIn nodes a = position)
    (there : nodes[position]? = some b) : b.same a = true := by
  obtain ⟨inside, rfl⟩ := List.getElem?_eq_some_iff.1 there
  subst first
  exact List.findIdx_getElem (w := inside)

/-- Equal elements have the same first equal. -/
theorem firstIn_congr (plain : ∀ node ∈ nodes, node.Plain) (mem : a ∈ nodes) (mem' : b ∈ nodes)
    (same : a.same b = true) : firstIn nodes a = firstIn nodes b := by
  have back := same_symm (plain a mem) (plain b mem') same
  apply Nat.le_antisymm
  · exact List.findIdx_le_findIdx fun other among equal =>
      same_trans (plain other among) (plain b mem') (plain a mem) equal back
  · exact List.findIdx_le_findIdx fun other among equal =>
      same_trans (plain other among) (plain a mem) (plain b mem') equal same

end Node

/-- Whether positions name, for each element in a row, the first one that equals it. -/
structure Represents (nodes : List Node) (positions : List Nat) : Prop where
  length_eq : positions.length = nodes.length
  /-- Two elements have one representative when they are equal. -/
  same_iff : ∀ {i j : Nat} {a b : Node}, nodes[i]? = some a → nodes[j]? = some b →
    (positions[i]? = positions[j]? ↔ a.same b = true)
  /-- A representative is equal to what it stands for, is its own one and has no equal
  before it. -/
  representative : ∀ {i : Nat} {node : Node}, nodes[i]? = some node →
    ∃ (k : Nat) (first : Node), positions[i]? = some k ∧ k ≤ i ∧ nodes[k]? = some first ∧
      first.same node = true ∧ positions[k]? = some k ∧
      ∀ (l : Nat) (other : Node), l < k → nodes[l]? = some other → other.same node = false

/-- The first equal elements represent the classes of equal elements. -/
theorem represents_firstEqual {nodes : List Node} (plain : ∀ node ∈ nodes, node.Plain) :
    Represents nodes (firstEqual (nodes.map Value.node)) := by
  rw [Node.firstEqual_nodes]
  refine ⟨by simp, ?_, ?_⟩
  · intro i j a b at_i at_j
    have mem := List.mem_of_getElem? at_i
    have mem' := List.mem_of_getElem? at_j
    simp only [List.getElem?_map, at_i, at_j, Option.map_some, Option.some.injEq]
    constructor
    · intro one
      have inside := Node.firstIn_lt plain mem'
      have there := List.getElem?_eq_getElem inside
      have among := List.mem_of_getElem? there
      have equal := Node.same_of_firstIn one there
      exact Node.same_trans (plain _ mem) (plain _ among) (plain _ mem')
        (Node.same_symm (plain _ among) (plain _ mem) equal) (Node.same_of_firstIn rfl there)
    · exact Node.firstIn_congr plain mem mem'
  · intro i node at_i
    have mem := List.mem_of_getElem? at_i
    have there := List.getElem?_eq_getElem (Node.firstIn_lt plain mem)
    have among := List.mem_of_getElem? there
    have equal := Node.same_of_firstIn rfl there
    have own := Node.firstIn_congr plain among mem equal
    have none_before : ∀ (l : Nat) (other : Node), l < Node.firstIn nodes node →
        nodes[l]? = some other → other.same node = false := by
      intro l other before at_l
      obtain ⟨_, rfl⟩ := List.getElem?_eq_some_iff.1 at_l
      exact List.not_of_lt_findIdx before
    refine ⟨Node.firstIn nodes node, _, by simp [at_i], ?_, there, equal, by simp [there, own],
      none_before⟩
    apply Nat.le_of_not_lt
    intro later
    have unequal := none_before i node later at_i
    rw [Node.same_refl (plain _ mem)] at unequal
    cases unequal

mutual

/-- Nothing in an element that is filled with scalars can change. -/
theorem Node.changeable?_of_plain {node : Node} (plain : node.Plain) : node.changeable? = none := by
  cases node with
  | title content => exact Value.changeable?_of_plain plain
  | paragraph content => exact Value.changeable?_of_plain plain
  | head inner => exact Value.changeable?_of_plain plain
  | body children => exact changeableAmong?_of_plain plain
  | division children ident className =>
      obtain ⟨among, identOk, classOk⟩ := plain
      simp [Node.changeable?, changeableAmong?_of_plain among,
        Value.changeable?_of_plain identOk, Value.changeable?_of_plain classOk]
  | document first second =>
      simp [Node.changeable?, Value.changeable?_of_plain plain.1,
        Value.changeable?_of_plain plain.2]

theorem Value.changeable?_of_plain {value : Value} (plain : value.Plain) :
    value.changeable? = none := by
  cases value with
  | node node => exact Node.changeable?_of_plain plain
  | list items => exact False.elim plain
  | record members => exact False.elim plain
  | tuple items => exact False.elim plain
  | _ => rfl

theorem changeableAmong?_of_plain {values : List Value}
    (plain : EachAmong Value.IsScalar values) : changeableAmong? values = none := by
  cases values with
  | nil => rfl
  | cons value rest =>
      simp [changeableAmong?, Value.changeable?_of_plain plain.1, changeableAmong?_of_plain plain.2]

end

/-- A script finds the first equal elements of what its descriptions stand for, as long as
scalars fill it. -/
theorem Script.findEqual_of_plain {s : Session Script.Names} {specs : List Spec}
    {made : List Value} (read : values s.extra.nodes.find? specs = .ok made)
    (plain : ∀ value ∈ made, value.Plain) (seen : List Value) :
    Script.findEqual seen specs s = .ok (firstEqual (seen ++ made)) s := by
  induction specs generalizing seen made with
  | nil =>
      cases read
      simp [Script.findEqual]
  | cons spec rest ih =>
      rw [values] at read
      cases one : spec.read s.extra.nodes.find? with
      | error fault =>
          rw [one] at read
          cases read
      | ok value =>
          cases others : values s.extra.nodes.find? rest with
          | error fault =>
              rw [one, others] at read
              cases read
          | ok further =>
              rw [one, others] at read
              cases read
              have found : Script.read spec s = .ok value s := by
                show (BuildM.settle (spec.read s.extra.nodes.find?) : Script.ScriptM Value) s = _
                rw [one]
                rfl
              have unchanging := Value.changeable?_of_plain (plain value List.mem_cons_self)
              have last := ih others
                (fun value among => plain value (List.mem_cons_of_mem _ among)) (seen ++ [value])
              rw [Script.findEqual, BuildM.bind_of_ok found, unchanging]
              simpa using last

/-! ### Equality -/

/-- **Equality of elements is equality of a normal form.** Elements that are filled with
scalars are equal when they become the same with numbers in place of the truth values, and are
unequal otherwise. So equality is an equivalence, it stays one at any depth, it tells kinds
apart, and without truth values equal elements have the same text. The first equal elements
that a script finds in a row represent the classes of equal elements in it. -/
theorem Node.equal_iff_one_normal_form :
    (∀ a b : Node, a.Plain → b.Plain →
      (a.same b = true ↔ a.normal = b.normal) ∧ (a.same b = false ↔ a.normal ≠ b.normal)) ∧
    Equivalence (fun a b : { node : Node // node.Plain } => a.1.same b.1 = true) ∧
    (∀ (way : List Slot) (part other : Value), (Slot.fillAlong way part).Plain → other.Plain →
      part.same other = true →
      (Slot.fillAlong way part).same (Slot.fillAlong way other) = true) ∧
    (∀ a b : Node, a.kind ≠ b.kind → a.same b = false) ∧
    (∀ a b : Node, a.Plain → b.Plain → a.Boolless → b.Boolless → a.same b = true →
      a.render = b.render) ∧
    (∀ nodes : List Node, (∀ node ∈ nodes, node.Plain) →
      Represents nodes (firstEqual (nodes.map Value.node)) ∧
      ∀ (specs : List Spec) (s : Session Script.Names),
        values s.extra.nodes.find? specs = .ok (nodes.map Value.node) →
        Script.findEqual [] specs s = .ok (firstEqual (nodes.map Value.node)) s) := by
  refine ⟨?_, ⟨fun a => same_refl a.2, ?_, ?_⟩, ?_, fun _ _ => same_of_kind_ne, ?_, ?_⟩
  · intro a b plain plain'
    have iff := same_iff_normal plain plain'
    exact ⟨iff, by rw [Ne, ← iff, Bool.not_eq_true]⟩
  · intro a b same
    exact same_symm a.2 b.2 same
  · intro a b c same same'
    exact same_trans a.2 b.2 c.2 same same'
  · intro way part other plain plain' same
    exact Slot.same_fillAlong plain plain' same
  · intro a b plain plain' boolless boolless' same
    have one := (same_iff_normal plain plain').1 same
    rw [normal_of_boolless boolless, normal_of_boolless boolless'] at one
    rw [one]
  · intro nodes plain
    refine ⟨represents_firstEqual plain, fun specs s read => ?_⟩
    have plainAll : ∀ value ∈ nodes.map Value.node, value.Plain := by
      intro value among
      obtain ⟨node, mem, rfl⟩ := List.mem_map.1 among
      exact (Value.each_node _ _).2 (plain node mem)
    exact Script.findEqual_of_plain read plainAll []

example : (Node.title (.bool true)).same (.title (.int 1)) = true ∧
    (Node.title (.bool true)).render ≠ (Node.title (.int 1)).render := by
  decide +kernel

/-- A head that has a truth value in its title equals the one with a number there; of two such
titles and a third one the first represents the second. -/
theorem Node.equal_iff_one_normal_form_heads :
    (Slot.fillAlong [.inner, .title] (.bool true)).Plain ∧
    (Slot.fillAlong [.inner, .title] (.bool true)).same
      (Slot.fillAlong [.inner, .title] (.int 1)) = true ∧
    (Node.title (.int 1)).normal = (Node.title (.bool true)).normal ∧
    (Node.title (.int 1)).kind ≠ (Node.paragraph (.int 1)).kind ∧
    (Node.title (.int 1)).same (.paragraph (.int 1)) = false ∧
    (Node.title (.text "1")).render = (Node.title (.text "1")).render ∧
    Represents [.title (.bool true), .title (.int 1), .title .null] [0, 0, 2] := by
  have whole : (Slot.fillAlong [.inner, .title] (.bool true)).Plain := trivial
  have plain : ∀ node ∈ [Node.title (.bool true), .title (.int 1), .title .null],
      node.Plain := by
    simp [Node.Each, Value.Each, Value.IsScalar]
  obtain ⟨iff, _, congruence, kinds, texts, represents⟩ := Node.equal_iff_one_normal_form
  have equal : (Value.bool true).same (.int 1) = true := by
    simp [Value.same, Value.whole?, Value.ofBool]
  have found : firstEqual ([Node.title (.bool true), .title (.int 1), .title .null].map
      Value.node) = [0, 0, 2] := by
    decide +kernel
  refine ⟨whole, congruence _ _ (.int 1) whole trivial equal,
    (iff (.title (.int 1)) (.title (.bool true)) trivial trivial).1.1 (by decide +kernel),
    by decide, kinds _ _ (by decide),
    texts (.title (.text "1")) _ trivial trivial trivial trivial (by decide +kernel), ?_⟩
  exact found ▸ (represents _ plain).1

end ScopedHtml
