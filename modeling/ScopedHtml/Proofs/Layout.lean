import ScopedHtml.Node.Render

/-!
# ScopedHtml.Proofs.Layout

The text of a page, character by character.

`Node.render` joins strings; everything that is proved about the text of a page
looks at one character after the other. This file restates the six layouts as
lists of characters (`Node.chars`) in which nothing is joined any more: the
children of a body are lines (`lineChars`), those of a division are a first child
with the others behind it (`restChars`). No later proof unfolds `Node.render`.
-/

namespace ScopedHtml

/-! ### Characters -/

/-- The characters of an element's text. -/
def Node.chars (node : Node) : List Char := node.render.toList

/-- The characters of the text that stands for a value on a page. -/
def Value.chars (value : Value) : List Char := value.written.toList

@[simp] theorem Value.chars_node (node : Node) : (Value.node node).chars = node.chars := by
  simp [Value.chars, Node.chars]

@[simp] theorem Value.chars_text (s : String) : (Value.text s).chars = s.toList := by
  simp [Value.chars]

/-! ### Children in a row -/

/-- Values in a row, each with a line feed behind it. -/
def lineChars (values : List Value) : List Char :=
  values.flatMap fun value => value.chars ++ ['\n']

@[simp] theorem lineChars_nil : lineChars [] = [] := rfl

@[simp] theorem lineChars_cons (value : Value) (rest : List Value) :
    lineChars (value :: rest) = value.chars ++ '\n' :: lineChars rest := by
  simp [lineChars]

/-- Values in a row, each with a line feed before it. -/
def restChars (values : List Value) : List Char :=
  values.flatMap fun value => '\n' :: value.chars

@[simp] theorem restChars_nil : restChars [] = [] := rfl

@[simp] theorem restChars_cons (value : Value) (rest : List Value) :
    restChars (value :: rest) = '\n' :: (value.chars ++ restChars rest) := by
  simp [restChars]

/-- Values in a row with line feeds between them. -/
def joinedChars : List Value → List Char
  | [] => []
  | value :: rest => value.chars ++ restChars rest

@[simp] theorem joinedChars_nil : joinedChars [] = [] := rfl

@[simp] theorem joinedChars_cons (value : Value) (rest : List Value) :
    joinedChars (value :: rest) = value.chars ++ restChars rest := rfl

/-- Joining texts with line feeds puts one before each but the first. -/
theorem intercalate_written (values : List Value) :
    ("\n".intercalate (values.map Value.written)).toList = joinedChars values := by
  induction values with
  | nil => simp
  | cons value rest ih =>
      cases rest with
      | nil => simp [Value.chars]
      | cons next others =>
          rw [List.map_cons, List.map_cons, String.intercalate_cons_cons, ← List.map_cons]
          rw [String.toList_append, String.toList_append, ih]
          simp [Value.chars]

/-- Joining texts and a last one with line feeds puts one behind each but the last. -/
theorem intercalate_lines (values : List Value) (last : String) :
    ("\n".intercalate (values.map Value.written ++ [last])).toList =
      lineChars values ++ last.toList := by
  induction values with
  | nil => simp
  | cons value rest ih =>
      rw [List.map_cons, List.cons_append,
        String.intercalate_cons_of_ne_nil (by simp), String.toList_append,
        String.toList_append, ih]
      simp [Value.chars]

/-! ### Attributes -/

/-- The characters of an attribute inside an opening tag. -/
def attributeChars (name : List Char) : Value → List Char
  | .null => []
  | value => ' ' :: (name ++ '=' :: '"' :: (value.chars ++ ['"']))

theorem attributeText_toList (name : String) (value : Value) :
    (attributeText name value.isNull value.written).toList =
      attributeChars name.toList value := by
  cases value <;> simp [attributeText, attributeChars, Value.isNull, Value.chars]

/-! ### The six layouts -/

theorem chars_title (content : Value) :
    (Node.title content).chars = "<title>".toList ++ (content.chars ++ "</title>".toList) := by
  simp [Node.chars, Node.render, Value.chars]

theorem chars_paragraph (content : Value) :
    (Node.paragraph content).chars = "<p>".toList ++ (content.chars ++ "</p>".toList) := by
  simp [Node.chars, Node.render, Value.chars]

theorem chars_head (inner : Value) :
    (Node.head inner).chars = "<head>\n".toList ++ (inner.chars ++ "\n</head>".toList) := by
  simp [Node.chars, Node.render, Value.chars]

theorem chars_body (children : List Value) :
    (Node.body children).chars =
      "<body>\n".toList ++ (lineChars children ++ "</body>".toList) := by
  rw [Node.chars, Node.render, renderAll_eq_map,
    String.intercalate_cons_of_ne_nil (by simp), String.toList_append, intercalate_lines]
  simp

theorem chars_division (children : List Value) (ident className : Value) :
    (Node.division children ident className).chars =
      "<div".toList ++ (attributeChars "id".toList ident ++
        (attributeChars "class".toList className ++
          '>' :: (joinedChars children ++ "</div>".toList))) := by
  rw [Node.chars, Node.render, renderAll_eq_map]
  simp only [String.toList_append, attributeText_toList, intercalate_written,
    List.append_assoc]
  rfl

theorem chars_document (first second : Value) :
    (Node.document first second).chars =
      "<html>\n".toList ++ (first.chars ++ '\n' :: (second.chars ++ "\n</html>".toList)) := by
  simp [Node.chars, Node.render, Value.chars]

end ScopedHtml
