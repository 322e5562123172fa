import ScopedHtml.Proofs.CallTree

/-!
# ScopedHtml.Proofs.Mirror

**The document that a block builds**, and the block that builds a given document.

* `html_of_makes` — once the block is over, its builder shows the last head and the last
  body among its calls, and building it is one more step.
* A page of paragraphs and divisions has a block that mirrors it (`Node.mirrorPage`): a call
  for each element, with the calls for its children in its block. Such a block runs to its
  end on any builder that takes children, whatever is there already.
-/

namespace ScopedHtml

open BuildM

variable {ρ : Type} {b : BuilderRef} {s : Session ρ} {content : Content}

/-! ### Blocks that mirror a page -/

mutual

/-- An element made of paragraphs and divisions. -/
def Node.IsFlow : Node → Prop
  | .paragraph _ => True
  | .division children _ _ => AreFlow children
  | _ => False

/-- A value that is such an element. -/
def Value.IsFlow : Value → Prop
  | .node element => element.IsFlow
  | _ => False

/-- Values in a row that are such elements. -/
def AreFlow : List Value → Prop
  | [] => True
  | value :: rest => value.IsFlow ∧ AreFlow rest

end

mutual

/-- The call that makes such an element. -/
def Node.mirror : Node → Call
  | .paragraph content => .paragraph content
  | .division children ident className =>
      .opened .div (mirrorAll children) [("id", ident), ("class_", className)]
  | other => .append other

/-- The call that makes the element of a value. -/
def Value.mirror : Value → Call
  | .node element => element.mirror
  | other => .paragraph other

/-- The calls that make elements in a row. -/
def mirrorAll : List Value → List Call
  | [] => []
  | value :: rest => value.mirror :: mirrorAll rest

end

/-- A document whose head has a title and whose body is made of paragraphs and divisions. -/
def Node.IsPage : Node → Prop
  | .document (.node (.head (.node (.title _)))) (.node (.body children)) => AreFlow children
  | _ => False

/-- The block that makes such a document. -/
def Node.mirrorPage : Node → List Call
  | .document (.node (.head (.node (.title content)))) (.node (.body children)) =>
      [.opened .head [.title content] [], .opened .body (mirrorAll children) []]
  | _ => []

mutual

/-- The call that mirrors an element stands for it. -/
theorem Node.made_mirror : ∀ {node : Node}, node.IsFlow →
    node.mirror.made = node ∧ node.mirror.member ∈ ["div", "p", "append"]
  | .paragraph content, _ => by
      rw [Node.mirror]
      exact ⟨rfl, List.mem_of_elem_eq_true rfl⟩
  | .division children ident className, flow => by
      rw [Node.IsFlow] at flow
      rw [Node.mirror, Call.made, childrenOf_mirrorAll flow]
      exact ⟨rfl, List.mem_of_elem_eq_true rfl⟩
  | .title _, flow => absurd flow (by simp [Node.IsFlow])
  | .head _, flow => absurd flow (by simp [Node.IsFlow])
  | .body _, flow => absurd flow (by simp [Node.IsFlow])
  | .document _ _, flow => absurd flow (by simp [Node.IsFlow])

/-- So does the call that mirrors a value. -/
theorem Value.made_mirror : ∀ {value : Value}, value.IsFlow →
    .node value.mirror.made = value ∧ value.mirror.member ∈ ["div", "p", "append"]
  | .node element, flow => by
      rw [Value.IsFlow] at flow
      obtain ⟨made, member⟩ := Node.made_mirror flow
      rw [Value.mirror, made]
      exact ⟨rfl, member⟩

theorem childrenOf_mirrorAll : ∀ {values : List Value}, AreFlow values →
    childrenOf (mirrorAll values) = values
  | [], _ => by rw [mirrorAll, childrenOf]
  | value :: rest, flow => by
      rw [AreFlow] at flow
      obtain ⟨made, member⟩ := Value.made_mirror flow.1
      rw [mirrorAll, childrenOf, if_pos member, made, childrenOf_mirrorAll flow.2]

end

/-- An opener whose options are accepted ends well if its block does and nothing is missing
then. -/
theorem Opener.exists_run (opener : Opener) {arguments : Arguments ρ} {init : Init ρ}
    {calls : List Call} {bound : List (String × Value)} {v : Session ρ}
    (shows : s.store.Shows b content) (has : opener.entry ∈ content.members)
    (given : arguments.init? = some (.function init))
    (accepted : opener.product.signature.bind none arguments.options = .ok bound)
    (ready : init ⟨s.store.builders.length⟩
      { s with store := (s.store.add (opener.product.builder arguments.options)).2 } = .ok () v)
    (followed : (s.store.add (opener.product.builder arguments.options)).2.Followed
      ⟨s.store.builders.length⟩ (opener.product.start arguments.options) calls v.store)
    (complete : ((opener.product.start arguments.options).gotAll calls).missing = []) :
    ∃ made t, b.invoke opener.name arguments s = .ok made t := by
  have prepared : (opener.opening b arguments.init? arguments.options).prepare (.upTo 999)
      ⟨s.store.builders.length⟩
      { s with store := (s.store.add (opener.product.builder arguments.options)).2 } =
        .ok () v := by
    unfold Opening.prepare Opener.opening
    rw [given]
    exact ready
  obtain ⟨after, built, _⟩ := Opening.fromBuild_of_complete
    (opener.opening b arguments.init? arguments.options) 997 rfl has
    (followed.apart.shows (shows.add _) shows.ne_new) followed.shows complete
  refine ⟨.node ((opener.product.start arguments.options).gotAll calls).node,
    { v with store := after }, ?_⟩
  rw [BuilderRef.invoke_opener shows opener has, opener.run_eq _ shows.library, accepted]
  exact (bind_of_ok prepared).trans built

theorem Content.entry_div_mem (flow : content.IsFlow) : Opener.div.entry ∈ content.members := by
  cases content with
  | document first second => rcases flow with none | none <;> cases none
  | head title => rcases flow with none | none <;> cases none
  | body children => exact .tail _ (.head _)
  | division children ident className => exact .tail _ (.head _)

theorem Content.paragraph_mem (flow : content.IsFlow) :
    ("p", .method .paragraph) ∈ content.members := by
  cases content with
  | document first second => rcases flow with none | none <;> cases none
  | head title => rcases flow with none | none <;> cases none
  | body children => exact .tail _ (.tail _ (.head _))
  | division children ident className => exact .tail _ (.tail _ (.head _))

mutual

/-- A flow builder takes the call that mirrors an element. -/
theorem Node.exists_run_mirror {content : Content} {b : BuilderRef} {s : Session ρ} :
    ∀ {node : Node}, node.IsFlow → content.IsFlow → s.store.Shows b content →
      ∃ made t, node.mirror.perform b s = .ok made t
  | .paragraph value, _, flow, shows => by
      obtain ⟨after, run, _⟩ := BuilderRef.invoke_paragraph shows (content.paragraph_mem flow) value
      rw [Node.mirror, Call.perform]
      exact ⟨_, _, run⟩
  | .division children ident className, inside, flow, shows => by
      rw [Node.IsFlow] at inside
      rw [Node.mirror, Call.perform]
      -- The division is new and takes the calls for its children, whatever it is opened on.
      let options : Options := [("id", ident), ("class_", className)]
      let u : Session ρ :=
        { s with store := (s.store.add (Product.division.builder options)).2 }
      have shown : u.store.Shows ⟨s.store.builders.length⟩ (Product.division.start options) :=
        Store.shows_add_new shows.library .division options
      obtain ⟨v, ready⟩ := exists_run_mirrorAll inside (.inr rfl) shown
      have followed := (makes_of_runCalls shown ready).followed shown
      refine Opener.div.exists_run shows (content.entry_div_mem flow) rfl rfl ready followed ?_
      show ((Content.division [] _ _).gotAll _).missing = []
      rw [Content.gotAll_division]
      rfl
  | .title _, inside, _, _ => absurd inside (by simp [Node.IsFlow])
  | .head _, inside, _, _ => absurd inside (by simp [Node.IsFlow])
  | .body _, inside, _, _ => absurd inside (by simp [Node.IsFlow])
  | .document _ _, inside, _, _ => absurd inside (by simp [Node.IsFlow])

theorem Value.exists_run_mirror {content : Content} {b : BuilderRef} {s : Session ρ} :
    ∀ {value : Value}, value.IsFlow → content.IsFlow → s.store.Shows b content →
      ∃ made t, value.mirror.perform b s = .ok made t
  | .node element, inside, flow, shows => by
      rw [Value.IsFlow] at inside
      rw [Value.mirror]
      exact Node.exists_run_mirror inside flow shows

/-- A flow builder takes the calls that mirror elements. -/
theorem exists_run_mirrorAll {content : Content} {b : BuilderRef} {s : Session ρ} :
    ∀ {values : List Value}, AreFlow values → content.IsFlow → s.store.Shows b content →
      ∃ t, runCalls b (mirrorAll values) s = .ok () t
  | [], _, _, _ => by
      rw [mirrorAll, runCalls]
      exact ⟨s, rfl⟩
  | value :: rest, inside, flow, shows => by
      rw [AreFlow] at inside
      rw [mirrorAll, runCalls]
      obtain ⟨made, t, run⟩ := Value.exists_run_mirror inside.1 flow shows
      have shown := ((Call.makes_of_perform shows run).followed shows).shows
      -- The builder still takes children when it has got the first one.
      have still : (content.gotAll [value.mirror]).IsFlow := by
        unfold Content.IsFlow
        rw [Content.product_gotAll]
        exact flow
      obtain ⟨u, others⟩ := exists_run_mirrorAll inside.2 still shown
      exact ⟨u, (bind_of_ok run).trans others⟩

end

/-! ### Whole documents -/

/-- Building a document is running the block and finalizing its builder. -/
theorem html_eq_own_build {init : Init ρ} {doc : BuilderRef} {u w : Session ρ}
    (created : create Standard.documentBuilder [] s = .ok doc u) (run : init doc u = .ok () w) :
    html init s = call.own doc "build" w := by
  show (create Standard.documentBuilder [] >>= fun doc =>
    init doc >>= fun _ => call.own doc "build") s = _
  rw [bind_of_ok created, bind_of_ok run]

/-- The builder of a new document shows that it has nothing yet. -/
theorem shows_of_create (library : s.store.classes.HasLibrary) {doc : BuilderRef}
    {u : Session ρ} (created : create Standard.documentBuilder [] s = .ok doc u) :
    u.store.Shows doc (.document .null .null) ∧ u.store.log = s.store.log := by
  have eq := (call.create_eq library .document []).symm.trans created
  cases eq
  exact ⟨Store.shows_add_new library .document [], rfl⟩

theorem missing_document (calls : List Call) :
    (Content.document (lastOf "head" .null calls) (lastOf "body" .null calls)).missing = [] ↔
      lastOf "head" .null calls ≠ .null ∧ lastOf "body" .null calls ≠ .null := by
  unfold Content.missing
  rw [List.append_eq_nil_iff]
  cases head : (lastOf "head" .null calls).isNull <;>
    cases body : (lastOf "body" .null calls).isNull <;>
    simp_all [← Value.isNull_eq_true]

/-- A document whose block has made calls ends well if a head and a body were among them,
and then it is the tree of the calls. -/
theorem html_of_makes (init : Init ρ) {doc : BuilderRef} {u w : Session ρ} {calls : List Call}
    (library : s.store.classes.HasLibrary)
    (created : create Standard.documentBuilder [] s = .ok doc u)
    (makes : Makes doc (init doc) u calls () w) :
    (∀ made t, html init s = .ok made t → made = .node (documentOf calls) ∧
      t.store.log =
        s.store.log ++ (recordsOf calls ++ [.finalized "DocumentBuilder" "html"])) ∧
    ((∃ made t, html init s = .ok made t) ↔
      lastOf "head" .null calls ≠ .null ∧ lastOf "body" .null calls ≠ .null) := by
  obtain ⟨shows, log⟩ := shows_of_create library created
  have followed := makes.followed shows
  have shown := followed.shows
  rw [Content.gotAll_document] at shown
  have eq := (html_eq_own_build created makes.run).trans (Caller.own_build 998 shown)
  -- The calls decide whether anything is missing, and that decides whether the builder is
  -- finalized.
  rw [← missing_document]
  by_cases complete : (Content.document (lastOf "head" .null calls)
      (lastOf "body" .null calls)).missing = []
  · have built := eq.trans (Caller.build_of_complete 998 shown complete)
    refine ⟨?_, fun _ => complete, fun _ => ⟨_, _, built⟩⟩
    intro made t run
    cases built.symm.trans run
    refine ⟨rfl, ?_⟩
    show w.store.log ++ [_] = _
    rw [followed.log, log, shown.className, List.append_assoc]
    rfl
  · have failed := eq.trans (Caller.build_of_missing 998 shown complete)
    refine ⟨?_, ?_, fun done => absurd done complete⟩
    · intro made t run
      cases failed.symm.trans run
    · rintro ⟨made, t, run⟩
      cases failed.symm.trans run

/-- A document that is built by a block that is written down has run the block. -/
theorem exists_makes_of_html {calls : List Call} {made : Value} {t : Session ρ}
    (library : s.store.classes.HasLibrary)
    (run : html (fun doc => runCalls doc calls) s = .ok made t) :
    ∃ doc u w, create Standard.documentBuilder [] s = .ok doc u ∧
      Makes doc (runCalls doc calls) u calls () w := by
  obtain ⟨doc, u, created, rest⟩ := bind_eq_ok.1
    (show (create Standard.documentBuilder [] >>= fun doc =>
      runCalls doc calls >>= fun _ => call.own doc "build") s = .ok made t from run)
  obtain ⟨_, w, ready, _⟩ := bind_eq_ok.1 rest
  exact ⟨doc, u, w, created, makes_of_runCalls (shows_of_create library created).1 ready⟩

theorem Node.IsPage.exists_eq {page : Node} (inside : page.IsPage) :
    ∃ content children, AreFlow children ∧
      page = .document (.node (.head (.node (.title content)))) (.node (.body children)) := by
  unfold Node.IsPage at inside
  split at inside
  · exact ⟨_, _, inside, rfl⟩
  · exact inside.elim

/-- The block that mirrors a page stands for it. -/
theorem documentOf_mirrorPage {page : Node} (inside : page.IsPage) :
    documentOf page.mirrorPage = page ∧ lastOf "head" .null page.mirrorPage ≠ .null ∧
      lastOf "body" .null page.mirrorPage ≠ .null := by
  obtain ⟨content, children, flow, rfl⟩ := inside.exists_eq
  have head : lastOf "head" .null (Node.mirrorPage (.document
      (.node (.head (.node (.title content)))) (.node (.body children)))) =
        .node (.head (.node (.title content))) := rfl
  have body : lastOf "body" .null (Node.mirrorPage (.document
      (.node (.head (.node (.title content)))) (.node (.body children)))) =
        .node (.body (childrenOf (mirrorAll children))) := rfl
  rw [childrenOf_mirrorAll flow] at body
  refine ⟨?_, by rw [head]; exact Value.noConfusion, by rw [body]; exact Value.noConfusion⟩
  rw [documentOf, head, body]

/-- The block that mirrors a page runs well on the builder of a document. -/
theorem exists_run_mirrorPage {page : Node} (inside : page.IsPage) {doc : BuilderRef}
    {u : Session ρ} (shows : u.store.Shows doc (.document .null .null)) :
    ∃ w, runCalls doc page.mirrorPage u = .ok () w := by
  obtain ⟨content, children, flow, rfl⟩ := inside.exists_eq
  -- The head, with its title.
  let v : Session ρ := { u with store := (u.store.add (Product.head.builder [])).2 }
  have fresh : v.store.Shows ⟨u.store.builders.length⟩ (Product.head.start []) :=
    Store.shows_add_new shows.library .head []
  obtain ⟨titled, title, _⟩ := BuilderRef.invoke_title (s := v) fresh (.head _) content
  have ready : runCalls ⟨u.store.builders.length⟩ [.title content] v =
      .ok () { v with store := titled } := by
    rw [runCalls]
    exact bind_of_ok title
  obtain ⟨_, u', head⟩ : ∃ made t,
      (Call.opened .head [.title content] []).perform doc u = .ok made t := by
    rw [Call.perform]
    exact Opener.head.exists_run shows (.head _) rfl rfl ready
      ((makes_of_runCalls fresh ready).followed fresh) rfl
  have shown := ((Call.makes_of_perform shows head).followed shows).shows
  -- The body, with its children.
  let w : Session ρ := { u' with store := (u'.store.add (Product.body.builder [])).2 }
  have fresh : w.store.Shows ⟨u'.store.builders.length⟩ (Product.body.start []) :=
    Store.shows_add_new shown.library .body []
  obtain ⟨w', ready⟩ := exists_run_mirrorAll flow (.inl rfl) fresh
  obtain ⟨_, t', body⟩ : ∃ made t,
      (Call.opened .body (mirrorAll children) []).perform doc u' = .ok made t := by
    rw [Call.perform]
    refine Opener.body.exists_run shown (.tail _ (.head _)) rfl rfl ready
      ((makes_of_runCalls fresh ready).followed fresh) ?_
    show ((Content.body []).gotAll _).missing = []
    rw [Content.gotAll_body]
    rfl
  refine ⟨t', ?_⟩
  rw [Node.mirrorPage, runCalls, bind_of_ok head, runCalls, bind_of_ok body, runCalls]
  rfl

/-- **The built page is the tree of calls.** A block that has made calls on its builder,
written down or not, builds the document that the calls stand for, with one record for
each scope in the order in which they end; it fails only for want of a head or a body.
Every page of paragraphs and divisions is built by the block that mirrors it. -/
theorem html_eq_documentOf (s : Session ρ) (library : s.store.classes.HasLibrary) :
    (∀ (init : Init ρ) (doc : BuilderRef) (u : Session ρ) (calls : List Call) (w : Session ρ),
      create Standard.documentBuilder [] s = .ok doc u → Makes doc (init doc) u calls () w →
        (∀ made t, html init s = .ok made t → made = .node (documentOf calls) ∧
          t.store.log =
            s.store.log ++ (recordsOf calls ++ [.finalized "DocumentBuilder" "html"])) ∧
        ((∃ made t, html init s = .ok made t) ↔
          lastOf "head" .null calls ≠ .null ∧ lastOf "body" .null calls ≠ .null)) ∧
    (∀ (calls : List Call) (made : Value) (t : Session ρ),
      html (fun doc => runCalls doc calls) s = .ok made t →
        made = .node (documentOf calls) ∧
        t.store.log =
          s.store.log ++ (recordsOf calls ++ [.finalized "DocumentBuilder" "html"])) ∧
    (∀ page : Node, page.IsPage →
      ∃ t, html (fun doc => runCalls doc page.mirrorPage) s = .ok (.node page) t) := by
  refine ⟨?_, ?_, ?_⟩
  · intro init doc u calls w created makes
    exact html_of_makes init library created makes
  · intro calls made t run
    obtain ⟨doc, u, w, created, makes⟩ := exists_makes_of_html library run
    exact (html_of_makes (fun doc => runCalls doc calls) library created makes).1 made t run
  · intro page inside
    have created := call.create_eq library .document []
    obtain ⟨w, ready⟩ := exists_run_mirrorPage inside (shows_of_create library created).1
    obtain ⟨document, parts⟩ := documentOf_mirrorPage inside
    have makes := makes_of_runCalls (shows_of_create library created).1 ready
    have built := html_of_makes (fun doc => runCalls doc page.mirrorPage) library created makes
    obtain ⟨made, t, run⟩ := built.2.2 parts
    obtain ⟨rfl, _⟩ := built.1 made t run
    rw [document] at run
    exact ⟨t, run⟩

/-- A page with a division inside another one, each with one of the attributes unset. -/
def nestedPage : Node :=
  .document (.node (.head (.node (.title (.text "t")))))
    (.node (.body [
      .node (.division [.node (.paragraph (.text "a")),
        .node (.division [] .null (.text "c"))] (.text "i") .null),
      .node (.paragraph (.text ""))]))

/-- The page is built by its mirror, from the inside out. -/
theorem html_nestedPage :
    ∃ t, html (fun doc => runCalls doc nestedPage.mirrorPage) ⟨Store.initial, ()⟩ =
        .ok (.node nestedPage) t ∧
      t.store.log = [.finalized "HeadBuilder" "head", .finalized "DivBuilder" "div",
        .finalized "DivBuilder" "div", .finalized "BodyBuilder" "body",
        .finalized "DocumentBuilder" "html"] := by
  have built := html_eq_documentOf (⟨Store.initial, ()⟩ : Session Unit)
    ClassTable.hasLibrary_standard
  have inside : nestedPage.IsPage := by
    simp [nestedPage, Node.IsPage, AreFlow, Value.IsFlow, Node.IsFlow]
  obtain ⟨t, run⟩ := built.2.2 nestedPage inside
  exact ⟨t, run, (built.2.1 _ _ t run).2⟩

end ScopedHtml
