import ScopedHtml.Text.Quoted
import ScopedHtml.Value

/-!
# ScopedHtml.Value.Quoted

Values as parts of something longer, and in messages.

Texts stand between quotes. Items and members are separated by commas; a finished
list of one item keeps a comma behind it. An element is quoted as its kind with
its fields by name.
-/

namespace ScopedHtml

/-- Parts between an opening and a closing mark. -/
def enclosed (before behind : String) (parts : List String) : String :=
  before ++ ", ".intercalate parts ++ behind

/-- The parts of a finished list between parentheses. -/
def parenthesized : List String → String
  | [part] => "(" ++ part ++ ",)"
  | parts => enclosed "(" ")" parts

/-- Quoted names as a set. -/
def quotedTags : List String → String
  | [] => "frozenset()"
  | names => enclosed "frozenset(\x7b" "\x7d)" (names.map Text.quoted)

mutual

/-- A value as a part of something longer. -/
def Value.quoted : Value → String
  | .null => "None"
  | .bool true => "True"
  | .bool false => "False"
  | .int n => toString n
  | .text s => Text.quoted s
  | .fraction digits => digits
  | .list items => enclosed "[" "]" (quotedItems items)
  | .tuple items => parenthesized (quotedItems items)
  | .tags names => quotedTags names
  | .record members => enclosed "\x7b" "\x7d" (quotedMembers members)
  | .node element => element.quoted

/-- An element as a part of something longer. -/
def Node.quoted : Node → String
  | .title content => enclosed "Title(" ")" ["content=" ++ content.quoted]
  | .paragraph content => enclosed "Paragraph(" ")" ["content=" ++ content.quoted]
  | .head inner => enclosed "Head(" ")" ["title=" ++ inner.quoted]
  | .body children =>
      enclosed "Body(" ")" ["children=" ++ parenthesized (quotedItems children)]
  | .division children ident className =>
      enclosed "Division(" ")" ["children=" ++ parenthesized (quotedItems children),
        "id=" ++ ident.quoted, "class_name=" ++ className.quoted]
  | .document first second =>
      enclosed "Document(" ")" ["head=" ++ first.quoted, "body=" ++ second.quoted]

/-- Values in a row, each quoted. -/
def quotedItems : List Value → List String
  | [] => []
  | item :: rest => item.quoted :: quotedItems rest

/-- Values under names, each quoted behind its name. -/
def quotedMembers : List (String × Value) → List String
  | [] => []
  | (name, value) :: rest =>
      (Text.quoted name ++ ": " ++ value.quoted) :: quotedMembers rest

end

@[simp] theorem Value.quoted_text (s : String) : (Value.text s).quoted = Text.quoted s := by
  simp [Value.quoted]

end ScopedHtml
