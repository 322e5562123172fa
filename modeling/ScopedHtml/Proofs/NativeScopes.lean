import ScopedHtml.Proofs.CallTree
import ScopedHtml.Proofs.Native
import ScopedHtml.Proofs.Trail

/-!
# ScopedHtml.Proofs.NativeScopes

**Scopes of the library's builders.** In a store with nothing but the library's classes a
builder that is finalized fails and changes nothing, or has one record
(`Store.Native.own_build_cases`), and what comes of it can always be attached to a builder that
has the opener (`Store.Native.exists_attach`).

Where the function of a scope fills the new builder with all that it needs (`Fills`,
`Completes`), the scope ends well and fills its own builder in turn (`Opener.fills`). So the
sample page is built wherever it is built (`samplePage_worked`).
-/

namespace ScopedHtml

open BuildM

/-! ### Finalizing and attaching -/

section Opening

variable {ρ : Type} {s t : Session ρ} {b child : BuilderRef} {content inner : Content}

theorem Store.Native.isOf_flowBuilder {store : Store} (native : store.Native) {product : Product}
    (classId : (store.get b).classId = product.builderId)
    (flow : product = .body ∨ product = .division) : store.isOf b Standard.flowBuilder := by
  unfold Store.isOf
  rw [classId, native.classes]
  rcases flow with rfl | rfl <;> rfl

/-- Finalizing one of the library's builders changes nothing, or has one record. -/
theorem Store.Native.own_build_cases (native : s.store.Native) {product : Product}
    (inside : b.index < s.store.builders.length)
    (classId : (s.store.get b).classId = product.builderId) (depth : Nat) :
    (∃ fault, (Caller.upTo depth).own b "build" s = .error fault s) ∨
      ∃ node : Node, node.tag = product.tag ∧ (Caller.upTo depth).own b "build" s =
        .ok (.node node) { s with store := s.store.finalizedInto b node } := by
  have ordinary := native.ordinary inside
  rcases Caller.own_build_cases depth ordinary with failed | ⟨node, built⟩
  · exact .inl failed
  · have maker : s.store.member? b "_make_node" =
        some (product.builderId, .maker (some product)) := by
      rw [native.member? classId]
      cases product <;> rfl
    exact .inr ⟨node, Caller.tag_of_own_build ordinary maker built, built⟩

theorem Store.Native.className (native : s.store.Native) {product : Product}
    (classId : (s.store.get b).classId = product.builderId) :
    s.store.className b = product.builderName := by
  unfold Store.className
  rw [native.foreign? b, classId]
  exact product.name_get native.library

/-- What an opener of the library makes can be attached to a builder that has the opener. -/
theorem Store.Native.exists_attach (native : s.store.Native) (call : Caller ρ) (opener : Opener)
    (inside : b.index < s.store.builders.length)
    (flow : opener.attachment = .append → s.store.isOf b Standard.flowBuilder) (made : Value) :
    ∃ after, call.attach b opener.name made opener.attachment s =
        .ok () { s with store := after } ∧ Worked [] s.store after := by
  have slot : ∀ name ∈ attributeNames, name ≠ "_children" →
      (perform fun store => store.write b name made : BuildM ρ Unit) s =
        .ok () { s with store := s.store.assign b name made } ∧
      Worked [] s.store (s.store.assign b name made) := by
    intro name own other
    refine ⟨?_, native.worked_assign (fun same => absurd same other) b⟩
    rw [perform_apply, write_eq_assign (native.foreign? b) (native.ordinary inside).ordinary.write
      (property?_of_not_member (native.member?_attribute own inside))
      (fun same => by subst same; revert own; decide)
      (fun same => by subst same; revert own; decide)]
  cases opener with
  | head => exact ⟨_, slot "_head" (by decide) (by decide)⟩
  | body => exact ⟨_, slot "_body" (by decide) (by decide)⟩
  | div =>
      obtain ⟨items, held⟩ := (native.builders b inside).children (flow rfl)
      have read : call.read b "_children" s = .ok (.value (.list items)) s :=
        Caller.read_of_kept (native.readsPlainly b)
          (property?_of_not_member (native.member?_attribute (by decide) inside))
          (kept?_of_held held)
      refine ⟨s.store.assign b "_children" (.list (items ++ [made])), ?_,
        native.worked_assign (fun _ => ⟨_, rfl⟩) b⟩
      show call.push b made s = _
      rw [Caller.push, bind_of_ok read]
      rfl

end Opening

/-! ### The sample page -/

/-- The record of the sample page and of what is in it, from the inside out. -/
def Sample.records : List Log.Event :=
  [.finalized "HeadBuilder" "head", .finalized "DivBuilder" "div", .finalized "DivBuilder" "div",
    .finalized "BodyBuilder" "body", .finalized "DocumentBuilder" "html"]

section Sample

variable {ρ : Type} {s : Session ρ} {b : BuilderRef} {content inner : Content}
  {records : List Log.Event} {m : BuildM ρ Unit}

/-- A program ends well with these records; then `b` shows `inner`, and of the builders that
were there nothing has been touched besides. -/
def Fills (b : BuilderRef) (inner : Content) (records : List Log.Event) (m : BuildM ρ Unit)
    (s : Session ρ) : Prop :=
  ∃ after, m s = .ok () { s with store := after } ∧ Store.Worked records s.store after ∧
    after.Shows b inner ∧ Store.Apart b s.store after

theorem Fills.bind {k : BuildM ρ Unit} {next : Content} {more : List Log.Event}
    (first : Fills b inner records m s)
    (second : ∀ t : Session ρ, t.store.Native → t.store.Shows b inner → Fills b next more k t) :
    Fills b next (records ++ more) (m >>= fun _ => k) s := by
  obtain ⟨mid, run, worked, shows, apart⟩ := first
  obtain ⟨after, ended, works, shown, still⟩ := second { s with store := mid } worked.native shows
  exact ⟨after, (bind_of_ok run).trans ended, worked.trans works, shown, apart.trans still⟩

theorem Fills.of_gathered {α : Type} {m : BuildM ρ α} {a : α} {member : String} {made : Value}
    {after : Store} (native : s.store.Native) (run : m s = .ok a { s with store := after })
    (gathered : s.store.Gathered b content member made after) :
    Fills b (content.got member made) [] (discard m) s := by
  refine ⟨after, ?_, .of_gathered native gathered, gathered.shows, .of_gathered gathered⟩
  rw [discard_apply, run]

theorem fills_paragraph (native : s.store.Native) (shows : s.store.Shows b content)
    (flow : content.IsFlow) (value : Value) :
    Fills b (content.got "p" (.node (.paragraph value))) [] (discard <| b.p value) s := by
  obtain ⟨after, added, gathered⟩ := call.paragraph_content shows flow value
  exact .of_gathered native added gathered

theorem fills_title (native : s.store.Native) (shows : s.store.Shows b content)
    (product : content.product = .head) (value : Value) :
    Fills b (content.got "title" (.node (.title value))) [] (discard <| b.title value) s := by
  obtain ⟨after, set, gathered⟩ := call.title_content shows product value
  exact .of_gathered native set gathered

/-- A function that leaves a new builder complete, with these records. -/
def Completes (init : Init ρ) (start : Content) (records : List Log.Event) : Prop :=
  ∃ inner : Content, inner.product = start.product ∧ inner.missing = [] ∧
    ∀ (child : BuilderRef) (t : Session ρ), t.store.Native → t.store.Shows child start →
      Fills child inner records (init child) t

/-- A scope with such a function fills the builder that it is opened on with its element. -/
theorem Opener.fills (opener : Opener) (content : Content) (options : Options) {init : Init ρ}
    (has : opener.entry ∈ content.members)
    (bound : opener.product.signature.bind none options = .ok options)
    (block : Completes init (opener.product.start options) records) :
    ∃ node, ∀ (b : BuilderRef) (s : Session ρ), s.store.Native → s.store.Shows b content →
      Fills b (content.got opener.name (.node node))
        (records ++ [.finalized opener.product.builderName opener.name])
        (discard <| (opener.opening b (some (.function init)) options).run call) s := by
  obtain ⟨inner, product, complete, block⟩ := block
  rw [Content.product_start] at product
  refine ⟨inner.node, fun b s native shows => ?_⟩
  have added := native.worked_add opener.product options
  obtain ⟨mid, ready, worked, made, apart⟩ :=
    block ⟨s.store.builders.length⟩ { s with store := (s.store.add _).2 } added.native
      (Store.shows_add_new native.library opener.product options)
  -- The parent is older than the child and shows what it has shown before.
  have parent : mid.Shows b content := apart.shows (shows.add _) shows.ne_new
  obtain ⟨after, built, gathered⟩ := Opening.fromBuild_of_complete
    (s := { s with store := mid }) (opener.opening b (some (.function init)) options) 998 rfl has
    parent made complete
  have run : (opener.opening b (some (.function init)) options).run call s =
      .ok (.node inner.node) { s with store := after } := by
    rw [opener.run_eq _ native.library, bound]
    exact (bind_of_ok ready).trans built
  refine ⟨after, by rw [discard_apply, run], ?_, gathered.shows, .of_scope apart gathered⟩
  have finalized := worked.native.worked_finalizedInto ⟨s.store.builders.length⟩ inner.node
  rw [made.className, product, Opener.tag_node product] at finalized
  have done := (added.trans (worked.trans finalized)).trans
    (.of_gathered finalized.native gathered)
  rwa [List.nil_append, List.append_nil] at done

namespace Sample

theorem completes_head : Completes (head : Init ρ) (.head .null) [] :=
  ⟨.head (.node (.title (.text "my web page"))), rfl, rfl, fun _ _ native shows =>
    fills_title native shows rfl _⟩

theorem completes_header (ident className : Value) :
    Completes (header : Init ρ) (.division [] ident className) [] :=
  ⟨.division [.node (.paragraph (.text "welcome to my web site"))] ident className, rfl, rfl,
    fun _ _ native shows => fills_paragraph native shows (.inr rfl) _⟩

theorem completes_content (ident className : Value) :
    Completes (Sample.content : Init ρ) (.division [] ident className) [] :=
  ⟨.division [.node (.paragraph (.text "this is the start of my site")),
      .node (.paragraph (.text "this was rendered"))] ident className, rfl, rfl,
    fun _ _ native shows => .bind (fills_paragraph native shows (.inr rfl) _)
      fun _ native shows => fills_paragraph native shows (.inr rfl) _⟩

theorem completes_body : Completes (body : Init ρ) (.body [])
    [.finalized "DivBuilder" "div", .finalized "DivBuilder" "div"] := by
  obtain ⟨first, header⟩ := Opener.div.fills (.body [])
    [("id", .text "header"), ("class_", .text "main-header")] (.tail _ (.head _)) rfl
    (completes_header (ρ := ρ) _ _)
  obtain ⟨second, content⟩ := Opener.div.fills (.body [.node first]) [] (.tail _ (.head _)) rfl
    (completes_content (ρ := ρ) _ _)
  exact ⟨.body [.node first, .node second], rfl, rfl, fun child t native shows =>
    .bind (header child t native shows) fun u native shows => content child u native shows⟩

theorem completes_document : Completes (document : Init ρ) (.document .null .null)
    [.finalized "HeadBuilder" "head", .finalized "DivBuilder" "div",
      .finalized "DivBuilder" "div", .finalized "BodyBuilder" "body"] := by
  obtain ⟨first, head⟩ := Opener.head.fills (.document .null .null) [] (.head _) rfl
    (completes_head (ρ := ρ))
  obtain ⟨second, body⟩ := Opener.body.fills (.document (.node first) .null) []
    (.tail _ (.head _)) rfl (completes_body (ρ := ρ))
  exact ⟨.document (.node first) (.node second), rfl, rfl, fun child t native shows =>
    .bind (head child t native shows) fun u native shows => body child u native shows⟩

end Sample

/-- The sample page is built, with one record for each scope. -/
theorem samplePage_worked (native : s.store.Native) :
    ∃ made after, samplePage s = .ok made { s with store := after } ∧
      Store.Worked Sample.records s.store after := by
  obtain ⟨inner, product, complete, block⟩ := Sample.completes_document (ρ := ρ)
  have created := call.create_eq native.library .document []
  have added := native.worked_add .document []
  obtain ⟨mid, ready, worked, made, apart⟩ :=
    block ⟨s.store.builders.length⟩ { s with store := (s.store.add _).2 } added.native
      (Store.shows_add_new native.library .document [])
  have built := (Caller.own_build (s := { s with store := mid }) 998 made).trans
    (Caller.build_of_complete (s := { s with store := mid }) 998 made complete)
  refine ⟨_, _, (bind_of_ok created).trans ((bind_of_ok ready).trans built), ?_⟩
  have finalized := worked.native.worked_finalizedInto ⟨s.store.builders.length⟩ inner.node
  rw [made.className, product] at finalized
  have tag : inner.node.tag = "html" := by
    cases inner <;> first | rfl | cases product
  rw [tag] at finalized
  exact added.trans (worked.trans finalized)

end Sample

end ScopedHtml
