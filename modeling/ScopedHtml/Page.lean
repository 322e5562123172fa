import ScopedHtml.Builder.Call

/-!
# ScopedHtml.Page

A small page, built in nested scopes.
-/

namespace ScopedHtml

/-- A page with a title and two divisions, of which the first has an identifier
and a class. -/
def samplePage {ρ : Type} : BuildM ρ Value :=
  html fun document => do
    discard <| document.head (some fun head => do
      discard <| head.title (.text "my web page")) []
    discard <| document.body (some fun body => do
      discard <| body.div (some fun div => do
          discard <| div.p (.text "welcome to my web site"))
        [("id", .text "header"), ("class_", .text "main-header")]
      discard <| body.div (some fun div => do
          discard <| div.p (.text "this is the start of my site")
          discard <| div.p (.text "this was rendered")) []) []

/-- The sample page and what was recorded while it was built. -/
def builtSample : Except Fault (Node × List Log.Event) :=
  match samplePage ⟨Store.initial, ()⟩ with
  | .ok (.node node) session => .ok (node, session.store.log)
  | .ok other _ => .error (.noAttribute other.typeName "tag")
  | .error fault _ => .error fault

end ScopedHtml
