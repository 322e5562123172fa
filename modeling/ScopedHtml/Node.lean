/-!
# ScopedHtml.Node

Finished pages as trees, and the values they are filled with.

A `Node` is one of six kinds of element. The title of a head, the head and body
of a document and the children of a body or division are *slots* that are meant
for elements; contents and attributes are meant for texts. Nothing checks either:
all of them hold any `Value`, and an element is one kind of value.
-/

namespace ScopedHtml

mutual

/-- An element of a finished page. -/
inductive Node
  /-- The title of a document, a leaf. -/
  | title (content : Value)
  /-- A paragraph of raw text, a leaf. -/
  | paragraph (content : Value)
  /-- The head of a document, around its title. -/
  | head (title : Value)
  /-- The body of a document, an ordered list of children. -/
  | body (children : List Value)
  /-- A division: an ordered list of children with an optional identifier and
  an optional class, each unset while it is `null`. -/
  | division (children : List Value) (ident className : Value)
  /-- A whole page. -/
  | document (head body : Value)

/-- What an attribute, a content or a slot holds. -/
inductive Value
  /-- No value; the state of an attribute that was never set. -/
  | null
  | bool (value : Bool)
  | int (value : Int)
  | text (value : String)
  /-- A number with a fraction or an exponent, as it is written. -/
  | fraction (digits : String)
  /-- A list that can grow. -/
  | list (items : List Value)
  /-- A finished list. -/
  | tuple (items : List Value)
  /-- A set of names, kept in order. -/
  | tags (names : List String)
  /-- Values under names, in order. -/
  | record (members : List (String × Value))
  | node (node : Node)

end

instance : Inhabited Node := ⟨.title .null⟩
instance : Inhabited Value := ⟨.null⟩

/-- The six kinds of element. -/
inductive NodeKind
  | title | paragraph | head | body | division | document
  deriving DecidableEq, Repr, Inhabited

namespace NodeKind

/-- The name of a kind. -/
def name : NodeKind → String
  | title => "Title"
  | paragraph => "Paragraph"
  | head => "Head"
  | body => "Body"
  | division => "Division"
  | document => "Document"

/-- The tag that elements of a kind are written with. -/
def tag : NodeKind → String
  | title => "title"
  | paragraph => "p"
  | head => "head"
  | body => "body"
  | division => "div"
  | document => "html"

end NodeKind

namespace Node

/-- The kind of an element. -/
def kind : Node → NodeKind
  | .title _ => .title
  | .paragraph _ => .paragraph
  | .head _ => .head
  | .body _ => .body
  | .division _ _ _ => .division
  | .document _ _ => .document

/-- The tag of an element. -/
def tag (node : Node) : String := node.kind.tag

/-- The direct children in document order. -/
def parts : Node → List Value
  | .title _ => []
  | .paragraph _ => []
  | .head inner => [inner]
  | .body children => children
  | .division children _ _ => children
  | .document first second => [first, second]

/-- The content of a leaf. -/
def content? : Node → Option Value
  | .title content => some content
  | .paragraph content => some content
  | _ => none

end Node

end ScopedHtml
