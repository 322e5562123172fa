import ScopedHtml.Value.Quoted

/-!
# ScopedHtml.Node.Render

The text of a page.

Every kind has one layout and text goes out verbatim, without escaping:

* a title or paragraph is its content between its tags;
* a head, a body and a document put their tags and each child on lines of
  their own, so an empty body is two lines;
* a division joins its children by line feeds directly inside its tags, and
  writes an attribute, the identifier first, only when it is set.

A value that is no element is written as its text. Rendering never fails.
-/

namespace ScopedHtml

/-- An attribute inside an opening tag, empty when it is unset. -/
def attributeText (name : String) (unset : Bool) (written : String) : String :=
  if unset then "" else " " ++ name ++ "=\"" ++ written ++ "\""

mutual

/-- The text of an element. -/
def Node.render : Node → String
  | .title content => "<title>" ++ content.written ++ "</title>"
  | .paragraph content => "<p>" ++ content.written ++ "</p>"
  | .head inner => "<head>\n" ++ inner.written ++ "\n</head>"
  | .body children => "\n".intercalate ("<body>" :: (renderAll children ++ ["</body>"]))
  | .division children ident className =>
      "<div" ++ attributeText "id" ident.isNull ident.written ++
        attributeText "class" className.isNull className.written ++ ">" ++
        "\n".intercalate (renderAll children) ++ "</div>"
  | .document first second =>
      "<html>\n" ++ first.written ++ "\n" ++ second.written ++ "\n</html>"

/-- The text that stands for a value on a page. -/
def Value.written : Value → String
  | .text s => s
  | .node element => element.render
  | other => other.quoted

/-- The texts of values in a row. -/
def renderAll : List Value → List String
  | [] => []
  | value :: rest => value.written :: renderAll rest

end

@[simp] theorem renderAll_eq_map (values : List Value) :
    renderAll values = values.map Value.written := by
  induction values with
  | nil => simp [renderAll]
  | cons value rest ih => simp [renderAll, ih]

@[simp] theorem Value.written_text (s : String) : (Value.text s).written = s := by
  simp [Value.written]

@[simp] theorem Value.written_node (node : Node) : (Value.node node).written = node.render := by
  simp [Value.written]

end ScopedHtml
