import Mathlib.Data.List.Perm.Basic
import ScopedHtml.Proofs.Layout
import ScopedHtml.Proofs.Traversal

/-!
# ScopedHtml.Proofs.Size

**Exact size of a page.** The text of a page is as long as what all that stands in it adds
(`Node.render_size`): each element its markup, its content or attributes and the line feeds
that separate its children, and each value that is no element but stands in the place of one its
own text. The same holds of the line feeds in it.

What an element adds is what is left of its text without its parts (`Node.ownChars`). Sizes and
line feeds are then two ways of counting characters, and the order of characters does not matter
to them; so the proof goes by permutation, first over the parts of one element
(`Node.chars_perm_parts`), then over the whole tree (`Node.chars_perm_within`).
-/

namespace ScopedHtml

/-! ### What stands in a tree -/

mutual

/-- All that stands in a tree, depth first: its elements, and the values that are none but stand
in the place of one. -/
def Node.within : Node → List Value
  | .title content => [.node (.title content)]
  | .paragraph content => [.node (.paragraph content)]
  | .head inner => .node (.head inner) :: inner.within
  | .body children => .node (.body children) :: allWithin children
  | .division children ident className =>
      .node (.division children ident className) :: allWithin children
  | .document first second => .node (.document first second) :: (first.within ++ second.within)

/-- All that stands in the place of an element. -/
def Value.within : Value → List Value
  | .node element => element.within
  | other => [other]

/-- All that stands in values in a row. -/
def allWithin : List Value → List Value
  | [] => []
  | value :: rest => value.within ++ allWithin rest

end

theorem allWithin_eq_flatMap (values : List Value) :
    allWithin values = values.flatMap Value.within := by
  induction values with
  | nil => simp [allWithin]
  | cons value rest ih => simp [allWithin, ih]

/-- First stands the element itself, then what stands in its parts. -/
theorem Node.within_eq_parts (node : Node) :
    node.within = .node node :: node.parts.flatMap Value.within := by
  cases node <;> simp [Node.within, Node.parts, allWithin_eq_flatMap]

/-! ### What an element adds -/

/-- The characters of an element that are not those of its parts. -/
def Node.ownChars : Node → List Char
  | .title content => "<title>".toList ++ (content.chars ++ "</title>".toList)
  | .paragraph content => "<p>".toList ++ (content.chars ++ "</p>".toList)
  | .head _ => "<head>\n".toList ++ "\n</head>".toList
  | .body children =>
      "<body>\n".toList ++ (List.replicate children.length '\n' ++ "</body>".toList)
  | .division children ident className =>
      "<div".toList ++ (attributeChars "id".toList ident ++
        (attributeChars "class".toList className ++
          '>' :: (List.replicate (children.length - 1) '\n' ++ "</div>".toList)))
  | .document _ _ => "<html>\n".toList ++ '\n' :: "\n</html>".toList

namespace Node

theorem ownChars_head (inner : Value) :
    (Node.head inner).ownChars = "<head>\n".toList ++ "\n</head>".toList := rfl

theorem ownChars_body (children : List Value) :
    (Node.body children).ownChars =
      "<body>\n".toList ++ (List.replicate children.length '\n' ++ "</body>".toList) := rfl

theorem ownChars_division (children : List Value) (ident className : Value) :
    (Node.division children ident className).ownChars =
      "<div".toList ++ (attributeChars "id".toList ident ++
        (attributeChars "class".toList className ++
          '>' :: (List.replicate (children.length - 1) '\n' ++ "</div>".toList))) := rfl

theorem ownChars_document (first second : Value) :
    (Node.document first second).ownChars =
      "<html>\n".toList ++ '\n' :: "\n</html>".toList := rfl

/-- All of a title are its own characters. -/
theorem ownChars_title (content : Value) :
    (Node.title content).ownChars = (Node.title content).chars :=
  (chars_title content).symm

/-- All of a paragraph are its own characters. -/
theorem ownChars_paragraph (content : Value) :
    (Node.paragraph content).ownChars = (Node.paragraph content).chars :=
  (chars_paragraph content).symm

end Node

/-- The characters that a value adds to a page: an element its own, any other its text. -/
def Value.ownChars : Value → List Char
  | .node element => element.ownChars
  | other => other.chars

/-! ### Rows of values -/

variable (c : Char)

theorem count_lineChars (values : List Value) :
    (lineChars values).count c = (List.replicate values.length '\n').count c +
      (values.flatMap Value.chars).count c := by
  induction values with
  | nil => rfl
  | cons value rest ih =>
      simp only [lineChars_cons, List.count_append, List.count_cons, ih, List.length_cons,
        List.replicate_succ, List.flatMap_cons]
      omega

theorem count_restChars (values : List Value) :
    (restChars values).count c = (List.replicate values.length '\n').count c +
      (values.flatMap Value.chars).count c := by
  induction values with
  | nil => rfl
  | cons value rest ih =>
      simp only [restChars_cons, List.count_append, List.count_cons, ih, List.length_cons,
        List.replicate_succ, List.flatMap_cons]
      omega

/-- Between children stands one line feed less than there are children. -/
theorem count_joinedChars (values : List Value) :
    (joinedChars values).count c = (List.replicate (values.length - 1) '\n').count c +
      (values.flatMap Value.chars).count c := by
  cases values with
  | nil => rfl
  | cons value rest =>
      rw [joinedChars_cons, List.count_append, count_restChars, List.flatMap_cons,
        List.count_append, List.length_cons, Nat.add_sub_cancel]
      omega

/-! ### The tree -/

/-- The text of an element is made of its own characters and those of its parts. -/
theorem Node.chars_perm_parts (node : Node) :
    node.chars.Perm (node.ownChars ++ node.parts.flatMap Value.chars) := by
  refine List.perm_iff_count.2 fun c => ?_
  cases node with
  | title content => rw [ownChars_title, parts, List.flatMap_nil, List.append_nil]
  | paragraph content => rw [ownChars_paragraph, parts, List.flatMap_nil, List.append_nil]
  | head inner =>
      simp only [chars_head, ownChars_head, parts, List.count_append, List.flatMap_cons,
        List.flatMap_nil, List.append_nil]
      omega
  | body children =>
      simp only [chars_body, ownChars_body, parts, List.count_append, count_lineChars]
      omega
  | division children ident className =>
      simp only [chars_division, ownChars_division, parts, List.count_append, List.count_cons,
        count_joinedChars]
      omega
  | document first second =>
      simp only [chars_document, ownChars_document, parts, List.count_append, List.count_cons,
        List.flatMap_cons, List.flatMap_nil, List.append_nil]
      omega

/-- The text of a page is made of the characters that all that stands in it adds. -/
theorem Node.chars_perm_within (node : Node) :
    node.chars.Perm (node.within.flatMap Value.ownChars) := by
  induction node using Node.byParts with
  | step node ih =>
      have inside : ∀ value ∈ node.parts,
          value.chars.Perm (value.within.flatMap Value.ownChars) := by
        intro value mem
        cases value with
        | node part => simpa [Value.within] using ih part mem
        | _ => simp [Value.within, Value.ownChars]
      rw [node.within_eq_parts, List.flatMap_cons, List.flatMap_assoc]
      exact node.chars_perm_parts.trans (.append_left _ (List.Perm.flatMap_left _ inside))

/-! ### Numbers -/

/-- How many characters an element adds: its markup, its content or its attributes, and the line
feeds that separate its children. -/
def Node.ownSize : Node → Nat
  | .title content => 15 + content.written.length
  | .paragraph content => 7 + content.written.length
  | .head _ => 15
  | .body children => 14 + children.length
  | .division children ident className =>
      11 + (children.length - 1) + (if ident.isNull then 0 else 6 + ident.written.length) +
        (if className.isNull then 0 else 9 + className.written.length)
  | .document _ _ => 16

/-- How many characters a value adds. -/
def Value.ownSize : Value → Nat
  | .node element => element.ownSize
  | other => other.written.length

/-- The line feeds in the text of a value. -/
def Value.lineFeeds (value : Value) : Nat := value.written.toList.count '\n'

/-- How many line feeds an element adds. -/
def Node.ownLineFeeds : Node → Nat
  | .title content => content.lineFeeds
  | .paragraph content => content.lineFeeds
  | .head _ => 2
  | .body children => children.length + 1
  | .division children ident className =>
      (children.length - 1) + (if ident.isNull then 0 else ident.lineFeeds) +
        (if className.isNull then 0 else className.lineFeeds)
  | .document _ _ => 3

/-- How many line feeds a value adds. -/
def Value.ownLineFeeds : Value → Nat
  | .node element => element.ownLineFeeds
  | other => other.lineFeeds

theorem Value.length_chars (value : Value) : value.chars.length = value.written.length :=
  String.length_toList

theorem Value.count_chars (value : Value) : value.chars.count '\n' = value.lineFeeds := rfl

theorem attributeChars_eq (name : List Char) (value : Value) :
    attributeChars name value =
      if value.isNull then [] else ' ' :: (name ++ '=' :: '"' :: (value.chars ++ ['"'])) := by
  cases value <;> rfl

theorem length_attributeChars (name : List Char) (value : Value) :
    (attributeChars name value).length =
      if value.isNull then 0 else name.length + 4 + value.written.length := by
  rw [attributeChars_eq, ← value.length_chars]
  split
  · rfl
  · simp
    omega

theorem count_attributeChars {name : List Char} (h : '\n' ∉ name) (value : Value) :
    (attributeChars name value).count '\n' = if value.isNull then 0 else value.lineFeeds := by
  rw [attributeChars_eq, ← value.count_chars]
  split
  · rfl
  · simp [List.count_eq_zero_of_not_mem h]

theorem Node.length_ownChars (node : Node) : node.ownChars.length = node.ownSize := by
  cases node with
  | title content =>
      rw [ownChars_title, chars_title]
      simp [ownSize, Value.length_chars]
      omega
  | paragraph content =>
      rw [ownChars_paragraph, chars_paragraph]
      simp [ownSize, Value.length_chars]
      omega
  | head inner => rfl
  | body children =>
      rw [ownChars_body]
      simp [ownSize]
      omega
  | division children ident className =>
      rw [ownChars_division]
      simp [ownSize, length_attributeChars]
      omega
  | document first second => rfl

theorem Node.count_ownChars (node : Node) : node.ownChars.count '\n' = node.ownLineFeeds := by
  cases node with
  | title content =>
      rw [ownChars_title, chars_title]
      simp [ownLineFeeds, Value.count_chars]
  | paragraph content =>
      rw [ownChars_paragraph, chars_paragraph]
      simp [ownLineFeeds, Value.count_chars]
  | head inner => rfl
  | body children =>
      rw [ownChars_body]
      simp [ownLineFeeds]
  | division children ident className =>
      rw [ownChars_division]
      simp [ownLineFeeds, count_attributeChars]
      omega
  | document first second => rfl

theorem Value.length_ownChars (value : Value) : value.ownChars.length = value.ownSize := by
  cases value with
  | node element => exact element.length_ownChars
  | _ => exact Value.length_chars _

theorem Value.count_ownChars (value : Value) :
    value.ownChars.count '\n' = value.ownLineFeeds := by
  cases value with
  | node element => exact element.count_ownChars
  | _ => exact Value.count_chars _

/-- **Exact size of a page.** Its text has as many characters, and as many line feeds among
them, as all that stands in it adds. -/
theorem Node.render_size (node : Node) :
    node.render.length = (node.within.map Value.ownSize).sum ∧
      node.render.toList.count '\n' = (node.within.map Value.ownLineFeeds).sum := by
  have all := node.chars_perm_within
  constructor
  · have size := all.length_eq
    rw [List.length_flatMap] at size
    simpa only [Node.chars, String.length_toList, Value.length_ownChars] using size
  · have count := all.count_eq '\n'
    rw [List.count_flatMap] at count
    simpa only [Node.chars, Function.comp_def, Value.count_ownChars] using count

/-- An attribute that is empty counts, an unset one does not; a text takes the place of a
child. -/
example : (Node.body [.text "a\nb", .node (.division [] (.text "") .null)]).within.map
    (fun value => (value.ownSize, value.ownLineFeeds)) = [(16, 3), (3, 1), (17, 0)] := by
  decide +kernel

end ScopedHtml
