import Mathlib.Logic.Relation
import ScopedHtml.Node.Walk
import ScopedHtml.Proofs.Layout

/-!
# ScopedHtml.Proofs.Context

**Rendering and traversal are compositional.** A `Context` is a page with one hole: the way
from its root down to the hole, place by place (`Place`), each with all that stands around
it there. Around the hole a context writes texts of its own (`Context.opening`,
`Context.closing`) and visits elements with tags of its own (`Context.before`,
`Context.after`), whatever is put into the hole:

* `Context.render_fill` — the text of the whole is the text of the element between the texts
  of its context;
* `Context.walk_fill` — the tags of the traversal are those of the element's between the tags
  of its context, as long as nothing around the hole stops the traversal (`Context.Solid`).

Both are one case for each place and one induction on the way. What stands somewhere below an
element is what fills a context in it (`Node.holds_iff`), so all this holds of every
descendant.
-/

namespace ScopedHtml

/-! ### Traversal by parts -/

@[simp] theorem walkAll_nil : walkAll [] = .ok [] := by rw [walkAll]

theorem walkAll_cons (value : Value) (rest : List Value) :
    walkAll (value :: rest) =
      value.walk.bind fun first => (walkAll rest).map fun others => first ++ others := by
  rw [walkAll]
  cases value.walk <;> cases walkAll rest <;> rfl

/-- Rows are traversed one after the other. -/
theorem walkAll_append (values others : List Value) :
    walkAll (values ++ others) =
      (walkAll values).bind fun first => (walkAll others).map fun second => first ++ second := by
  induction values with
  | nil => cases found : walkAll others <;> simp [Except.bind, Except.map, found]
  | cons value rest ih =>
      rw [List.cons_append, walkAll_cons, walkAll_cons, ih]
      cases value.walk <;> cases walkAll rest <;> cases walkAll others <;>
        simp [Except.bind, Except.map]

/-- The traversal of an element goes through its parts. -/
theorem Node.walk_eq_parts (node : Node) :
    node.walk = (walkAll node.parts).map fun below => node :: below := by
  cases node with
  | title content => rw [Node.walk, Node.parts, walkAll_nil]; rfl
  | paragraph content => rw [Node.walk, Node.parts, walkAll_nil]; rfl
  | head inner =>
      rw [Node.walk, Node.parts, walkAll_cons, walkAll_nil]
      cases inner.walk <;> simp [Except.bind, Except.map, bind, pure, Except.pure]
  | body children => rw [Node.walk, Node.parts]; cases walkAll children <;> rfl
  | division children ident className =>
      rw [Node.walk, Node.parts]
      cases walkAll children <;> rfl
  | document first second =>
      rw [Node.walk, Node.parts, walkAll_cons, walkAll_cons, walkAll_nil]
      cases first.walk <;> cases second.walk <;>
        simp [Except.bind, Except.map, bind, pure, Except.pure]

mutual

/-- Whether every slot and every child is an element, throughout. -/
def Node.Solid : Node → Prop
  | .title _ => True
  | .paragraph _ => True
  | .head inner => inner.Solid
  | .body children => AreSolid children
  | .division children _ _ => AreSolid children
  | .document first second => first.Solid ∧ second.Solid

/-- The same of an element in a slot. -/
def Value.Solid : Value → Prop
  | .node node => node.Solid
  | _ => False

/-- The same of elements in a row. -/
def AreSolid : List Value → Prop
  | [] => True
  | value :: rest => value.Solid ∧ AreSolid rest

end

mutual

/-- Nothing stops the traversal of a solid element. -/
theorem Node.exists_walk {node : Node} (solid : node.Solid) : ∃ nodes, node.walk = .ok nodes := by
  cases node with
  | title content => exact ⟨_, by rw [Node.walk]⟩
  | paragraph content => exact ⟨_, by rw [Node.walk]⟩
  | head inner =>
      rw [Node.Solid] at solid
      obtain ⟨below, walked⟩ := Value.exists_walk solid
      exact ⟨_, by rw [Node.walk, walked]; rfl⟩
  | body children =>
      rw [Node.Solid] at solid
      obtain ⟨below, walked⟩ := exists_walkAll solid
      exact ⟨_, by rw [Node.walk, walked]; rfl⟩
  | division children ident className =>
      rw [Node.Solid] at solid
      obtain ⟨below, walked⟩ := exists_walkAll solid
      exact ⟨_, by rw [Node.walk, walked]; rfl⟩
  | document first second =>
      rw [Node.Solid] at solid
      obtain ⟨before, walkedFirst⟩ := Value.exists_walk solid.1
      obtain ⟨after, walkedSecond⟩ := Value.exists_walk solid.2
      exact ⟨_, by rw [Node.walk, walkedFirst, walkedSecond]; rfl⟩

theorem Value.exists_walk {value : Value} (solid : value.Solid) :
    ∃ nodes, value.walk = .ok nodes := by
  cases value with
  | node node =>
      rw [Value.Solid] at solid
      rw [Value.walk]
      exact Node.exists_walk solid
  | _ => exact solid.elim

theorem exists_walkAll {values : List Value} (solid : AreSolid values) :
    ∃ nodes, walkAll values = .ok nodes := by
  cases values with
  | nil => exact ⟨[], walkAll_nil⟩
  | cons value rest =>
      rw [AreSolid] at solid
      obtain ⟨first, walked⟩ := Value.exists_walk solid.1
      obtain ⟨others, walkedRest⟩ := exists_walkAll solid.2
      exact ⟨first ++ others, by rw [walkAll_cons, walked, walkedRest]; rfl⟩

end

/-! ### Places -/

/-- A place for an element inside another, with all that stands around it there. -/
inductive Place
  /-- The title of a head. -/
  | title
  /-- The head of a document that has this body. -/
  | head (body : Value)
  /-- The body of a document that has this head. -/
  | body (head : Value)
  /-- Among the children of a body. -/
  | child (before after : List Value)
  /-- Among the children of a division with these attributes. -/
  | inner (before after : List Value) (ident className : Value)

namespace Place

/-- The element that has another one in a place. -/
def fill : Place → Node → Node
  | .title, node => .head (.node node)
  | .head other, node => .document (.node node) other
  | .body other, node => .document other (.node node)
  | .child before after, node => .body (before ++ .node node :: after)
  | .inner before after ident className, node =>
      .division (before ++ .node node :: after) ident className

/-- The tag of that element. -/
def tag : Place → String
  | .title => "head"
  | .head _ => "html"
  | .body _ => "html"
  | .child _ _ => "body"
  | .inner _ _ _ _ => "div"

/-- What stands before a place in the same element. -/
def before : Place → List Value
  | .title => []
  | .head _ => []
  | .body other => [other]
  | .child before _ => before
  | .inner before _ _ _ => before

/-- What stands after a place in the same element. -/
def after : Place → List Value
  | .title => []
  | .head other => [other]
  | .body _ => []
  | .child _ after => after
  | .inner _ after _ _ => after

/-- The text of the surrounding element up to a place. -/
def opening : Place → String
  | .title => "<head>\n"
  | .head _ => "<html>\n"
  | .body other => "<html>\n" ++ other.written ++ "\n"
  | .child before _ => "<body>\n" ++ String.ofList (lineChars before)
  | .inner before _ ident className =>
      "<div" ++ attributeText "id" ident.isNull ident.written ++
        attributeText "class" className.isNull className.written ++ ">" ++
        String.ofList (lineChars before)

/-- The text of the surrounding element from a place on. -/
def closing : Place → String
  | .title => "\n</head>"
  | .head other => "\n" ++ other.written ++ "\n</html>"
  | .body _ => "\n</html>"
  | .child _ after => "\n" ++ String.ofList (lineChars after) ++ "</body>"
  | .inner _ after _ _ => String.ofList (restChars after) ++ "</div>"

@[simp] theorem tag_fill (place : Place) (node : Node) : (place.fill node).tag = place.tag := by
  cases place <;> rfl

@[simp] theorem parts_fill (place : Place) (node : Node) :
    (place.fill node).parts = place.before ++ .node node :: place.after := by
  cases place <;> rfl

end Place

/-- Lines up to a value are the lines before it and then the value. -/
theorem lineChars_append (values others : List Value) :
    lineChars (values ++ others) = lineChars values ++ lineChars others := by
  simp [lineChars]

/-- A row around a value: a line feed behind each before it and before each after it. -/
theorem joinedChars_around (values : List Value) (value : Value) (others : List Value) :
    joinedChars (values ++ value :: others) =
      lineChars values ++ (value.chars ++ restChars others) := by
  have rest : ∀ first, restChars (first ++ value :: others) =
      '\n' :: (lineChars first ++ (value.chars ++ restChars others)) := by
    intro first
    induction first with
    | nil => simp
    | cons next further ih => simp [ih]
  cases values with
  | nil => simp
  | cons first further => simp [rest]

/-- Every place writes its own texts around the element in it. -/
theorem Place.chars_fill (place : Place) (node : Node) :
    (place.fill node).chars = place.opening.toList ++ (node.chars ++ place.closing.toList) := by
  cases place with
  | title => rw [fill, chars_head, Value.chars_node, opening, closing]
  | head other =>
      rw [fill, chars_document, Value.chars_node, opening, closing]
      simp [Value.chars]
  | body other =>
      rw [fill, chars_document, Value.chars_node, opening, closing]
      simp [Value.chars]
  | child before after =>
      rw [fill, chars_body, lineChars_append, lineChars_cons, Value.chars_node, opening, closing]
      simp
  | inner before after ident className =>
      rw [fill, chars_division, joinedChars_around, Value.chars_node, opening, closing]
      simp only [String.toList_append, String.toList_ofList, attributeText_toList,
        List.append_assoc]
      rfl

/-! ### Contexts -/

/-- A page with a hole: the places from the root down to it. -/
abbrev Context : Type := List Place

namespace Context

/-- The page that has an element in the hole. -/
def fill : Context → Node → Node
  | [], node => node
  | place :: rest, node => place.fill (fill rest node)

/-- The text before the hole. -/
def opening : Context → String
  | [] => ""
  | place :: rest => place.opening ++ opening rest

/-- The text after the hole. -/
def closing : Context → String
  | [] => ""
  | place :: rest => closing rest ++ place.closing

/-- Whether all that stands around the hole is made of elements throughout. -/
def Solid (context : Context) : Prop :=
  ∀ place ∈ context, AreSolid place.before ∧ AreSolid place.after

/-- The text of a page with a hole, around the text of what is put there. -/
theorem render_fill (context : Context) (node : Node) :
    (context.fill node).render = context.opening ++ node.render ++ context.closing := by
  induction context with
  | nil => simp [fill, opening, closing]
  | cons place rest ih =>
      have around := place.chars_fill (fill rest node)
      unfold Node.chars at around
      rw [ih] at around
      apply String.toList_injective
      rw [fill, around, opening, closing]
      simp

/-- The tags met around the hole, before and after it. -/
theorem walk_fill {context : Context} (solid : context.Solid) :
    ∃ before after : List String, ∀ node : Node,
      (context.fill node).walk.map (fun nodes => nodes.map Node.tag) =
        node.walk.map fun nodes => before ++ nodes.map Node.tag ++ after := by
  induction context with
  | nil => exact ⟨[], [], fun node => by simp [fill]⟩
  | cons place rest ih =>
      obtain ⟨before, after, inside⟩ := ih fun p among => solid p (List.mem_cons_of_mem _ among)
      obtain ⟨solidBefore, solidAfter⟩ := solid place List.mem_cons_self
      obtain ⟨front, walkedFront⟩ := exists_walkAll solidBefore
      obtain ⟨back, walkedBack⟩ := exists_walkAll solidAfter
      refine ⟨place.tag :: (front.map Node.tag ++ before), after ++ back.map Node.tag, ?_⟩
      intro node
      have below := inside node
      rw [fill, Node.walk_eq_parts, Place.parts_fill, walkAll_append, walkAll_cons, walkedFront,
        walkedBack, Value.walk]
      -- Both traversals end well, or both stop at the same slot below the hole.
      cases whole : (fill rest node).walk with
      | error fault =>
          rw [whole] at below
          cases walked : node.walk with
          | error other =>
              rw [walked] at below
              cases below
              rfl
          | ok nodes =>
              rw [walked] at below
              cases below
      | ok visited =>
          rw [whole] at below
          cases walked : node.walk with
          | error other =>
              rw [walked] at below
              cases below
          | ok nodes =>
              rw [walked] at below
              have tags : visited.map Node.tag = before ++ nodes.map Node.tag ++ after :=
                Except.ok.inj below
              simp [Except.bind, Except.map, tags]

end Context

/-! ### Descendants -/

/-- Whether an element stands in a part of another. -/
def Node.HasPart (node part : Node) : Prop := .node part ∈ node.parts

/-- Whether an element is another or stands somewhere below it. -/
def Node.Holds (root : Node) : Node → Prop := Relation.ReflTransGen Node.HasPart root

/-- A part of an element is in a place there. -/
theorem Node.HasPart.exists_place {node part : Node} (has : node.HasPart part) :
    ∃ place : Place, place.fill part = node := by
  unfold Node.HasPart at has
  cases node with
  | title content => cases has
  | paragraph content => cases has
  | head inner =>
      obtain rfl := List.mem_singleton.1 has
      exact ⟨.title, rfl⟩
  | body children =>
      obtain ⟨before, after, rfl⟩ := List.append_of_mem (show _ ∈ children from has)
      exact ⟨.child before after, rfl⟩
  | division children ident className =>
      obtain ⟨before, after, rfl⟩ := List.append_of_mem (show _ ∈ children from has)
      exact ⟨.inner before after ident className, rfl⟩
  | document first second =>
      have either : Value.node part = first ∨ Value.node part = second := by
        simpa [Node.parts] using has
      rcases either with rfl | rfl
      · exact ⟨.head second, rfl⟩
      · exact ⟨.body first, rfl⟩

theorem Place.hasPart_fill (place : Place) (node : Node) : (place.fill node).HasPart node := by
  unfold Node.HasPart
  rw [parts_fill]
  exact List.mem_append_right _ List.mem_cons_self

/-- What an element holds is what fills a context in it. -/
theorem Node.holds_iff {root node : Node} :
    root.Holds node ↔ ∃ context : Context, context.fill node = root := by
  constructor
  · intro holds
    unfold Node.Holds at holds
    induction holds using Relation.ReflTransGen.head_induction_on with
    | refl => exact ⟨[], rfl⟩
    | head has _ ih =>
        obtain ⟨context, rfl⟩ := ih
        obtain ⟨place, rfl⟩ := has.exists_place
        exact ⟨place :: context, rfl⟩
  · rintro ⟨context, rfl⟩
    induction context with
    | nil => exact .refl
    | cons place rest ih => exact .head (place.hasPart_fill _) ih

/-- **Rendering and traversal are compositional.** A context has a text before and a text after
the hole that stand around the text of any element there. If it is solid, it also has tags
before and after, around those of the element's own traversal, which may stop in the element.
The text of whatever a page holds occurs in the text of the page in one piece, and what is put
in its place changes nothing if it has the same text. -/
theorem Context.compositional :
    (∀ context : Context, ∃ pre post : String, ∀ node : Node,
      (context.fill node).render = pre ++ node.render ++ post) ∧
    (∀ context : Context, context.Solid → ∃ before after : List String, ∀ node : Node,
      (context.fill node).walk.map (fun nodes => nodes.map Node.tag) =
        node.walk.map fun nodes => before ++ nodes.map Node.tag ++ after) ∧
    (∀ root node : Node, root.Holds node →
      ∃ pre post : String, root.render = pre ++ node.render ++ post) ∧
    (∀ (context : Context) (node other : Node), node.render = other.render →
      (context.fill node).render = (context.fill other).render) := by
  refine ⟨fun context => ⟨_, _, context.render_fill⟩, fun _ => walk_fill, ?_, ?_⟩
  · intro root node holds
    obtain ⟨context, rfl⟩ := Node.holds_iff.1 holds
    exact ⟨_, _, context.render_fill node⟩
  · intro context node other same
    rw [context.render_fill, context.render_fill, same]

/-- A document with a hole in a division, between a paragraph and an empty division. -/
def Context.nested : Context :=
  [.body (.node (.head (.node (.title (.text "a < b"))))), .child [] [],
    .inner [.node (.paragraph (.text "<1>"))] [.node (.division [] .null .null)]
      (.text "main") .null]

example : (Context.nested.fill (.title (.text "x"))).render =
    "<html>\n<head>\n<title>a < b</title>\n</head>\n<body>\n<div id=\"main\"><p><1></p>\n" ++
      "<title>x</title>\n<div></div></div>\n</body>\n</html>" := by
  rfl

/-- A number and its digits, each in a paragraph in the same hole. -/
theorem Context.compositional_nested :
    nested.Solid ∧
    (nested.fill (.paragraph (.int 1))).Holds (.paragraph (.int 1)) ∧
    (Node.paragraph (.int 1)).render = (Node.paragraph (.text "1")).render ∧
    (∃ before after : List String, ∀ node : Node,
      (nested.fill node).walk.map (fun nodes => nodes.map Node.tag) =
        node.walk.map fun nodes => before ++ nodes.map Node.tag ++ after) ∧
    (∃ pre post : String, (nested.fill (.paragraph (.int 1))).render =
      pre ++ (Node.paragraph (.int 1)).render ++ post) ∧
    (nested.fill (.paragraph (.int 1))).render = (nested.fill (.paragraph (.text "1"))).render := by
  have solid : nested.Solid := by
    simp [Solid, nested, Place.before, Place.after, AreSolid, Value.Solid, Node.Solid]
  have holds : (nested.fill (.paragraph (.int 1))).Holds (.paragraph (.int 1)) :=
    Node.holds_iff.2 ⟨nested, rfl⟩
  have same : (Node.paragraph (.int 1)).render = (Node.paragraph (.text "1")).render := by rfl
  exact ⟨solid, holds, same, compositional.2.1 nested solid, compositional.2.2.1 _ _ holds,
    compositional.2.2.2 nested _ _ same⟩

end ScopedHtml
