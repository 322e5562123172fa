import ScopedHtml.Builder.Class

/-!
# ScopedHtml.Builder.Standard

The builder classes that exist from the start.

`BuilderBase` and `FlowBuilder` make no element of their own. A flow builder
keeps an ordered list of children and opens divisions; the builders of bodies
and divisions are flow builders. The builder of a head keeps a title, that of a
document a head and a body, and each requires what it keeps. All but the class of
all builders let the next class in the line of a new builder start it first. Behind
all classes stands the root, from which plain classes inherit alone.
-/

namespace ScopedHtml.Standard

/-! ### Positions -/

def builderBase : ClassId := ⟨0⟩
def flowBuilder : ClassId := ⟨1⟩
def documentBuilder : ClassId := ⟨2⟩
def headBuilder : ClassId := ⟨3⟩
def bodyBuilder : ClassId := ⟨4⟩
def divBuilder : ClassId := ⟨5⟩
def root : ClassId := ⟨6⟩

/-! ### Classes -/

/-- What every builder has. -/
def builderBaseClass : BuilderClass where
  name := "BuilderBase"
  ancestors := [root]
  members := ⟨[
    (registerName, .data (.tags [])),
    ("_required", .data (.ofNames [])),
    (Hook.start.name, .starter ⟨none, [], ⟨[("_finalized", .bool false)]⟩⟩),
    (Hook.heir.name, .method .register),
    (Hook.unknown.name, .method .report),
    ("elements", .method .elements),
    ("is_finalized", .property .isFinalized),
    ("missing", .method .missing),
    ("build", .method .build),
    ("_make_node", .maker none)]⟩

/-- What every builder with a list of children has. -/
def flowBuilderClass : BuilderClass where
  name := "FlowBuilder"
  ancestors := [builderBase, root]
  members := ⟨[
    (Hook.start.name, .starter ⟨some flowBuilder, [], ⟨[("_children", .list [])]⟩⟩),
    ("children", .property .children),
    ("div", .opener (.fixed divBuilder) .append),
    ("p", .method .paragraph),
    ("append", .method .append),
    (registerName, .data (.tags ["div"]))]⟩

/-- The builder of a document. -/
def documentBuilderClass : BuilderClass where
  name := "DocumentBuilder"
  ancestors := [builderBase, root]
  members := ⟨[
    (docName, .data (.text "Builder for the ``<html>`` root. Head and body are required.")),
    ("_required", .data (.ofNames ["head", "body"])),
    (Hook.start.name, .starter ⟨some documentBuilder, [],
      ⟨[("_head", .null), ("_body", .null)]⟩⟩),
    ("head", .opener (.fixed headBuilder) .slot),
    ("body", .opener (.fixed bodyBuilder) .slot),
    ("_make_node", .maker (some .document)),
    (registerName, .data (.tags ["body", "head"]))]⟩

/-- The builder of a head. -/
def headBuilderClass : BuilderClass where
  name := "HeadBuilder"
  ancestors := [builderBase, root]
  members := ⟨[
    (docName, .data (.text "Builder for ``<head>``. A title is required.")),
    ("_required", .data (.ofNames ["title"])),
    (Hook.start.name, .starter ⟨some headBuilder, [], ⟨[("_title", .null)]⟩⟩),
    ("title", .method .title),
    ("_make_node", .maker (some .head)),
    (registerName, .data (.tags []))]⟩

/-- The builder of a body. -/
def bodyBuilderClass : BuilderClass where
  name := "BodyBuilder"
  ancestors := [flowBuilder, builderBase, root]
  members := ⟨[
    (docName, .data (.text "Builder for ``<body>``.")),
    ("_make_node", .maker (some .body)),
    (registerName, .data (.tags ["div"]))]⟩

/-- The builder of a division, which takes the attributes as options. -/
def divBuilderClass : BuilderClass where
  name := "DivBuilder"
  ancestors := [flowBuilder, builderBase, root]
  members := ⟨[
    (docName, .data (.text "Builder for ``<div>``; id and class are fixed when the scope opens.")),
    (Hook.start.name, .starter ⟨some divBuilder, [("id", "id"), ("class_", "class_name")],
      ⟨[("id", .null), ("class_name", .null)]⟩⟩),
    ("_make_node", .maker (some .division)),
    (registerName, .data (.tags ["div"]))]⟩

/-- What stands behind all classes. -/
def rootClass : BuilderClass where
  name := "object"
  ancestors := []
  members := .empty

/-- The table at the start. No name is bound to the root. -/
def classes : ClassTable where
  classes := [builderBaseClass, flowBuilderClass, documentBuilderClass, headBuilderClass,
    bodyBuilderClass, divBuilderClass, rootClass]
  names := ⟨[
    ("BuilderBase", builderBase),
    ("FlowBuilder", flowBuilder),
    ("DocumentBuilder", documentBuilder),
    ("HeadBuilder", headBuilder),
    ("BodyBuilder", bodyBuilder),
    ("DivBuilder", divBuilder)]⟩

end ScopedHtml.Standard
