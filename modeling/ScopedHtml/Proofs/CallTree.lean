import ScopedHtml.Proofs.Calls

/-!
# ScopedHtml.Proofs.CallTree

**The built page is the tree of calls.** A block that uses the builder it was given, and
whose own blocks do the same, has made a tree of calls (`Call`). Each call stands for an
element that can be read off the tree alone (`Call.made`): the children of a division or
body are the elements of its calls in call order (`childrenOf`), and a head has its last
title, a document its last head and body (`lastOf`).

The builders do it the other way round. They gather what they are given in attributes,
and the element of a scope reaches its parent only when the scope is over. The proof
follows the calls in the order in which they end: a builder shows the content that the
calls so far give it (`Content.gotAll`), and nothing but builders younger than the block
is touched besides (`Store.Apart`).
-/

namespace ScopedHtml

open BuildM

/-! ### Trees of calls -/

/-- The element of a scope with these children or this title. -/
def Opener.element (options : Options) (children : List Value) (title : Value) : Opener → Node
  | .head => .head title
  | .body => .body children
  | .div => .division children ((options.lookup "id").getD .null)
      ((options.lookup "class_").getD .null)

/-- A call that a block makes on the builder that it was given. -/
inductive Call
  | title (content : Value)
  | paragraph (content : Value)
  | append (node : Node)
  /-- An opener that is given no block. -/
  | bare (opener : Opener) (options : Options)
  /-- An opener with the calls of the block that it is given. -/
  | opened (opener : Opener) (calls : List Call) (options : Options)

/-- The name of the member that is called. -/
def Call.member : Call → String
  | .title _ => "title"
  | .paragraph _ => "p"
  | .append _ => "append"
  | .bare opener _ => opener.name
  | .opened opener _ _ => opener.name

/-- What is found under this name. -/
def Call.called : Call → Member
  | .title _ => .method .title
  | .paragraph _ => .method .paragraph
  | .append _ => .method .append
  | .bare opener _ => opener.entry.2
  | .opened opener _ _ => opener.entry.2

mutual

/-- The element that a call stands for. -/
def Call.made : Call → Node
  | .title content => .title content
  | .paragraph content => .paragraph content
  | .append node => node
  | .bare opener options => opener.element options [] .null
  | .opened opener calls options =>
      opener.element options (childrenOf calls) (lastOf "title" .null calls)

/-- The elements of the calls that add a child, in call order. -/
def childrenOf : List Call → List Value
  | [] => []
  | call :: rest =>
      if call.member ∈ ["div", "p", "append"] then .node call.made :: childrenOf rest
      else childrenOf rest

/-- The element of the last call of a member; `otherwise` if there is none. -/
def lastOf (member : String) (otherwise : Value) : List Call → Value
  | [] => otherwise
  | call :: rest =>
      lastOf member (if call.member = member then .node call.made else otherwise) rest

end

mutual

/-- The records of the scopes that a call opens: one for each, after those inside. -/
def Call.records : Call → List Log.Event
  | .bare opener _ => [.finalized opener.product.builderName opener.name]
  | .opened opener calls _ =>
      recordsOf calls ++ [.finalized opener.product.builderName opener.name]
  | _ => []

/-- The records of calls in a row. -/
def recordsOf : List Call → List Log.Event
  | [] => []
  | call :: rest => call.records ++ recordsOf rest

end

/-- The document that calls on its builder stand for. -/
def documentOf (calls : List Call) : Node :=
  .document (lastOf "head" .null calls) (lastOf "body" .null calls)

/-! ### Blocks that make calls -/

variable {ρ : Type}

/-- `Makes b m s calls a t`: run from `s`, the program `m` ends well, with the answer `a`
and in `t`, and on the way makes these calls. All of them are on `b`, and the blocks that
it gives to openers are of the same kind. Between the calls it may do anything that leaves
the builders alone. -/
inductive Makes : {α : Type} → BuilderRef → BuildM ρ α → Session ρ → List Call → α →
    Session ρ → Prop
  | idle {α : Type} {b : BuilderRef} {m : BuildM ρ α} {s t : Session ρ} {a : α}
      (run : m s = .ok a t) (same : t.store = s.store) : Makes b m s [] a t
  | title {b : BuilderRef} {s t : Session ρ} {content made : Value}
      (run : b.invoke "title" { first := some (.value content) } s = .ok made t) :
      Makes b (b.invoke "title" { first := some (.value content) }) s [.title content] made t
  | paragraph {b : BuilderRef} {s t : Session ρ} {content made : Value}
      (run : b.invoke "p" { first := some (.value content) } s = .ok made t) :
      Makes b (b.invoke "p" { first := some (.value content) }) s [.paragraph content] made t
  | append {b : BuilderRef} {s t : Session ρ} {node : Node} {made : Value}
      (run : b.invoke "append" { first := some (.value (.node node)) } s = .ok made t) :
      Makes b (b.invoke "append" { first := some (.value (.node node)) }) s [.append node]
        made t
  | bare {b : BuilderRef} {s t : Session ρ} {opener : Opener} {arguments : Arguments ρ}
      {made : Value} (without : arguments.init? = none)
      (run : b.invoke opener.name arguments s = .ok made t) :
      Makes b (b.invoke opener.name arguments) s [.bare opener arguments.options] made t
  | opened {b child : BuilderRef} {s t u v : Session ρ} {opener : Opener} {init : Init ρ}
      {calls : List Call} {options : Options} {made : Value}
      (created : create opener.product.builderId options s = .ok child u)
      (block : Makes child (init child) u calls () v)
      (run : b.invoke opener.name { first := some (.function init), options } s = .ok made t) :
      Makes b (b.invoke opener.name { first := some (.function init), options }) s
        [.opened opener calls options] made t
  | bind {α β : Type} {b : BuilderRef} {m : BuildM ρ α} {k : α → BuildM ρ β}
      {s t u : Session ρ} {calls others : List Call} {a : α} {a' : β}
      (first : Makes b m s calls a t) (second : Makes b (k a) t others a' u) :
      Makes b (m >>= k) s (calls ++ others) a' u

/-! ### What builders gather from calls -/

/-- The content after calls in a row. -/
def Content.gotAll (calls : List Call) (content : Content) : Content :=
  calls.foldl (fun content call => content.got call.member (.node call.made)) content

namespace Content

theorem gotAll_cons (call : Call) (rest : List Call) (content : Content) :
    content.gotAll (call :: rest) = (content.got call.member (.node call.made)).gotAll rest := rfl

theorem gotAll_append (calls others : List Call) (content : Content) :
    content.gotAll (calls ++ others) = (content.gotAll calls).gotAll others :=
  List.foldl_append

@[simp] theorem product_gotAll (calls : List Call) (content : Content) :
    (content.gotAll calls).product = content.product := by
  induction calls generalizing content with
  | nil => rfl
  | cons call rest ih => rw [gotAll_cons, ih, product_got]

theorem gotAll_head (calls : List Call) (title : Value) :
    (Content.head title).gotAll calls = .head (lastOf "title" title calls) := by
  induction calls generalizing title with
  | nil => simp [gotAll, lastOf]
  | cons call rest ih =>
      rw [gotAll_cons, got, lastOf]
      split <;> exact ih _

theorem gotAll_body (calls : List Call) (children : List Value) :
    (Content.body children).gotAll calls = .body (children ++ childrenOf calls) := by
  induction calls generalizing children with
  | nil => simp [gotAll, childrenOf]
  | cons call rest ih =>
      rw [gotAll_cons, got, childrenOf]
      split
      · rw [ih, List.append_assoc]
        rfl
      · exact ih _

theorem gotAll_division (calls : List Call) (children : List Value) (ident className : Value) :
    (Content.division children ident className).gotAll calls =
      .division (children ++ childrenOf calls) ident className := by
  induction calls generalizing children with
  | nil => simp [gotAll, childrenOf]
  | cons call rest ih =>
      rw [gotAll_cons, got, childrenOf]
      split
      · rw [ih, List.append_assoc]
        rfl
      · exact ih _

theorem gotAll_document (calls : List Call) (first second : Value) :
    (Content.document first second).gotAll calls =
      .document (lastOf "head" first calls) (lastOf "body" second calls) := by
  induction calls generalizing first second with
  | nil => simp [gotAll, lastOf]
  | cons call rest ih =>
      rw [gotAll_cons, got, lastOf, lastOf]
      by_cases head : call.member = "head"
      · have body : call.member ≠ "body" := by rw [head]; decide
        rw [if_pos head, if_pos head, if_neg body]
        exact ih _ _
      · rw [if_neg head, if_neg head]
        split <;> exact ih _ _

end Content

/-- What the builder of a scope has gathered makes the element of the scope. -/
theorem Opener.node_gotAll (opener : Opener) (calls : List Call) (options : Options) :
    ((opener.product.start options).gotAll calls).node =
      opener.element options (childrenOf calls) (lastOf "title" .null calls) := by
  cases opener with
  | head =>
      show ((Content.head .null).gotAll calls).node = _
      rw [Content.gotAll_head]
      rfl
  | body =>
      show ((Content.body []).gotAll calls).node = _
      rw [Content.gotAll_body]
      rfl
  | div =>
      show ((Content.division [] _ _).gotAll calls).node = _
      rw [Content.gotAll_division]
      rfl

theorem recordsOf_append (calls others : List Call) :
    recordsOf (calls ++ others) = recordsOf calls ++ recordsOf others := by
  induction calls with
  | nil => simp [recordsOf]
  | cons call rest ih => rw [List.cons_append, recordsOf, recordsOf, ih, List.append_assoc]

/-! ### What calls leave alone -/

/-- `after` is `before` but for the builder `b`, further builders and further records. -/
structure Store.Apart (b : BuilderRef) (before after : Store) : Prop where
  classes : after.classes = before.classes
  grown : before.builders.length ≤ after.builders.length
  others : ∀ c : BuilderRef, c.index < before.builders.length → c ≠ b →
    after.get c = before.get c

namespace Store.Apart

variable {b c : BuilderRef} {store before after later : Store} {content : Content}

theorem refl (b : BuilderRef) (store : Store) : Apart b store store :=
  ⟨rfl, Nat.le_refl _, fun _ _ _ => rfl⟩

theorem trans (first : Apart b before after) (second : Apart b after later) :
    Apart b before later where
  classes := second.classes.trans first.classes
  grown := Nat.le_trans first.grown second.grown
  others := fun c inside ne =>
    (second.others c (Nat.lt_of_lt_of_le inside first.grown) ne).trans
      (first.others c inside ne)

theorem of_gathered {member : String} {made : Value}
    (gathered : before.Gathered b content member made after) : Apart b before after := by
  obtain ⟨name, value, rfl⟩ := gathered.one
  exact ⟨rfl, Nat.le_of_eq (length_builders_assign before b name value).symm,
    fun c _ ne => get_assign_of_ne before ne name value⟩

/-- A builder that is made, worked on and finalized for another one is nothing to the
rest. -/
theorem of_scope {builder : Builder} {node : Node} {member : String} {made : Value}
    (block : Apart ⟨before.builders.length⟩ (before.add builder).2 after)
    (gathered : (after.finalizedInto ⟨before.builders.length⟩ node).Gathered b content member
      made later) : Apart b before later := by
  obtain ⟨name, value, rfl⟩ := gathered.one
  have longer : (before.add builder).2.builders.length = before.builders.length + 1 :=
    List.length_append
  have grown := block.grown
  refine ⟨block.classes, ?_, ?_⟩
  · rw [length_builders_assign]
    show before.builders.length ≤ (after.assign _ _ _).builders.length
    rw [length_builders_assign]
    omega
  · intro c inside ne
    -- The builder of the scope is new, so what was there before is another one.
    have old : c ≠ ⟨before.builders.length⟩ := by
      intro same
      rw [same] at inside
      exact Nat.lt_irrefl _ inside
    rw [get_assign_of_ne _ ne]
    show (after.assign _ _ _).get c = _
    rw [get_assign_of_ne _ old, block.others c (by omega) old, get_add_of_lt inside]

theorem shows (apart : Apart b before after) (shown : before.Shows c content) (ne : c ≠ b) :
    after.Shows c content :=
  shown.of_get_eq apart.classes (Nat.lt_of_lt_of_le shown.inside apart.grown)
    (apart.others c shown.inside ne)

end Store.Apart

/-! ### Calls do what the tree says -/

variable {b : BuilderRef} {s t : Session ρ} {content : Content}

theorem Opener.tag_node {opener : Opener} {inner : Content}
    (product : inner.product = opener.product) : inner.node.tag = opener.name := by
  cases opener <;> cases inner <;> first | rfl | cases product

/-- A scope that ends well has given its parent the element of its builder and has touched
nothing older besides. -/
theorem Opener.spec_of_run (opener : Opener) {init : Option (Given ρ)} {options : Options}
    {made : Value} {records : List Log.Event} (inner : Content)
    (shows : s.store.Shows b content) (has : opener.entry ∈ content.members)
    (product : inner.product = opener.product)
    (prepared : ∀ v, (opener.opening b init options).prepare (.upTo 999)
        ⟨s.store.builders.length⟩
        { s with store := (s.store.add (opener.product.builder options)).2 } = .ok () v →
      v.store.Shows ⟨s.store.builders.length⟩ inner ∧
        Store.Apart ⟨s.store.builders.length⟩
          (s.store.add (opener.product.builder options)).2 v.store ∧
        v.store.log = s.store.log ++ records)
    (run : (opener.opening b init options).run (.upTo 999) s = .ok made t) :
    made = .node inner.node ∧
      t.store.Shows b (content.got opener.name (.node inner.node)) ∧
      t.store.log =
        s.store.log ++ (records ++ [.finalized opener.product.builderName opener.name]) ∧
      Store.Apart b s.store t.store := by
  rw [opener.run_eq _ shows.library] at run
  cases bound : opener.product.signature.bind none options with
  | error fault => rw [bound] at run; cases run
  | ok given =>
      rw [bound] at run
      obtain ⟨_, v, ready, rest⟩ := bind_eq_ok.1 run
      obtain ⟨child, apart, log⟩ := prepared v ready
      -- The block cannot have touched the parent, which is older than the child.
      have parent := apart.shows (shows.add _) shows.ne_new
      by_cases complete : inner.missing = []
      · obtain ⟨after, built, gathered⟩ := Opening.fromBuild_of_complete
          (opener.opening b init options) 997 rfl has parent child complete
        cases built.symm.trans rest
        refine ⟨rfl, gathered.shows, ?_, ?_⟩
        · obtain ⟨name, value, rfl⟩ := gathered.one
          show v.store.log ++ [_] = _
          rw [log, child.className, product, Opener.tag_node product, List.append_assoc]
        · exact Store.Apart.of_scope apart gathered
      · cases (Opening.fromBuild_of_missing _ 997 child complete).symm.trans rest

/-- What calls in a row have done to a store: their builder has got their elements, their
records have been kept, and nothing older has been touched besides. -/
structure Store.Followed (b : BuilderRef) (content : Content) (calls : List Call)
    (before after : Store) : Prop where
  shows : after.Shows b (content.gotAll calls)
  log : after.log = before.log ++ recordsOf calls
  apart : Store.Apart b before after

namespace Store.Followed

variable {before after later : Store}

theorem nil (shows : before.Shows b content) : Followed b content [] before before :=
  ⟨shows, by simp [recordsOf], .refl b before⟩

/-- A call that opens no scope has only added to its builder. -/
theorem of_gathered {call : Call} (quiet : call.records = [])
    (gathered : before.Gathered b content call.member (.node call.made) after) :
    Followed b content [call] before after := by
  refine ⟨gathered.shows, ?_, .of_gathered gathered⟩
  obtain ⟨name, value, rfl⟩ := gathered.one
  show before.log = _
  simp [recordsOf, quiet]

theorem append {calls others : List Call} (first : Followed b content calls before after)
    (second : Followed b (content.gotAll calls) others after later) :
    Followed b content (calls ++ others) before later where
  shows := by rw [Content.gotAll_append]; exact second.shows
  log := by rw [second.log, first.log, recordsOf_append, List.append_assoc]
  apart := first.apart.trans second.apart

end Store.Followed

/-- Programs that make calls run well. -/
theorem Makes.run {α : Type} {m : BuildM ρ α} {calls : List Call} {a : α}
    (makes : Makes b m s calls a t) : m s = .ok a t := by
  induction makes with
  | idle run _ => exact run
  | title run => exact run
  | paragraph run => exact run
  | append run => exact run
  | bare _ run => exact run
  | opened _ _ run _ => exact run
  | bind _ _ first second => exact (bind_of_ok first).trans second

/-- A call finds no other member than the one that it means. -/
theorem Call.called_of_mem {call : Call} {member : Member}
    (has : (call.member, member) ∈ content.members) : member = call.called := by
  have all : ∀ entry ∈ content.members, entry.1 = call.member → entry.2 = call.called := by
    cases call with
    | bare opener _ =>
        cases opener <;> cases content <;>
          simp [Content.members, Call.member, Call.called, Opener.name, Opener.entry,
            Opener.product, Product.builderId, Opener.attachment]
    | opened opener _ _ =>
        cases opener <;> cases content <;>
          simp [Content.members, Call.member, Call.called, Opener.name, Opener.entry,
            Opener.product, Product.builderId, Opener.attachment]
    | _ => cases content <;> simp [Content.members, Call.member, Call.called]
  exact all _ has rfl

/-- A call that ends well has found the member that it means. -/
theorem Call.mem_of_invoke (call : Call) {arguments : Arguments ρ} {made : Value}
    (shows : s.store.Shows b content)
    (run : b.invoke call.member arguments s = .ok made t) :
    (call.member, call.called) ∈ content.members := by
  have names : call.member ∈ ["title", "p", "append", "head", "body", "div"] := by
    cases call with
    | bare opener _ => cases opener <;> simp [Call.member, Opener.name]
    | opened opener _ _ => cases opener <;> simp [Call.member, Opener.name]
    | _ => simp [Call.member]
  have shown : ∀ name ∈ ["title", "p", "append", "head", "body", "div"],
      isPrivate name = false := by decide
  obtain ⟨member, has⟩ := BuilderRef.exists_member_of_invoke shows (shown _ names) run
  rw [← Call.called_of_mem has]
  exact has

/-- A scope that ends well has done what the tree says of it, if its block has. -/
theorem Opener.followed (opener : Opener) (call : Call) (calls : List Call)
    {arguments : Arguments ρ} {made : Value} (member : call.member = opener.name)
    (called : call.called = opener.entry.2)
    (element : call.made = opener.element arguments.options (childrenOf calls)
      (lastOf "title" .null calls))
    (records : call.records =
      recordsOf calls ++ [.finalized opener.product.builderName opener.name])
    (shows : s.store.Shows b content)
    (block : ∀ v, (opener.opening b arguments.init? arguments.options).prepare (.upTo 999)
        ⟨s.store.builders.length⟩
        { s with store := (s.store.add (opener.product.builder arguments.options)).2 } =
          .ok () v →
      (s.store.add (opener.product.builder arguments.options)).2.Followed
        ⟨s.store.builders.length⟩ (opener.product.start arguments.options) calls v.store)
    (run : b.invoke opener.name arguments s = .ok made t) :
    made = .node call.made ∧ s.store.Followed b content [call] t.store := by
  have has : opener.entry ∈ content.members := by
    have has := call.mem_of_invoke shows (by rw [member]; exact run)
    rw [member, called] at has
    exact has
  rw [BuilderRef.invoke_opener shows opener has] at run
  obtain ⟨rfl, shown, log, apart⟩ := opener.spec_of_run
    ((opener.product.start arguments.options).gotAll calls) shows has (by simp)
    (fun v ready => ⟨(block v ready).shows, (block v ready).apart, (block v ready).log⟩) run
  rw [opener.node_gotAll, ← element] at shown ⊢
  rw [← records] at log
  refine ⟨rfl, ?_, ?_, apart⟩
  · rw [← member] at shown
    exact shown
  · rw [log]
    simp [recordsOf]

/-- **One run.** Calls have done what the tree says. -/
theorem Makes.followed {α : Type} {m : BuildM ρ α} {calls : List Call} {a : α}
    (makes : Makes b m s calls a t) :
    ∀ {content : Content}, s.store.Shows b content →
      s.store.Followed b content calls t.store := by
  -- On how the calls were made. When an opener ends, the induction has followed its block,
  -- which has begun with a new builder.
  induction makes with
  | idle run same =>
      intro content shows
      rw [same]
      exact .nil shows
  | @title b s t value made run =>
      intro content shows
      have has := Call.mem_of_invoke (.title value) shows run
      obtain ⟨after, eq, gathered⟩ := BuilderRef.invoke_title shows has value
      cases eq.symm.trans run
      exact .of_gathered (by rfl) gathered
  | @paragraph b s t value made run =>
      intro content shows
      have has := Call.mem_of_invoke (.paragraph value) shows run
      obtain ⟨after, eq, gathered⟩ := BuilderRef.invoke_paragraph shows has value
      cases eq.symm.trans run
      exact .of_gathered (by rfl) gathered
  | @append b s t node made run =>
      intro content shows
      have has := Call.mem_of_invoke (.append node) shows run
      obtain ⟨after, eq, gathered⟩ := BuilderRef.invoke_append shows has node
      cases eq.symm.trans run
      exact .of_gathered (by rfl) gathered
  | @bare b s t opener arguments made without run =>
      intro content shows
      refine (opener.followed (.bare opener arguments.options) [] rfl rfl rfl rfl shows ?_
        run).2
      intro v ready
      rw [without] at ready
      cases ready
      exact .nil (Store.shows_add_new shows.library _ _)
  | @opened b child s t u v opener init calls options made created block run ih =>
      intro content shows
      refine (opener.followed (.opened opener calls options) calls rfl rfl rfl rfl shows ?_
        run).2
      intro v' ready
      -- The block has run on the builder that the opener creates.
      have created := (call.create_eq shows.library opener.product options).symm.trans created
      cases bound : opener.product.signature.bind none options with
      | error fault => rw [bound] at created; cases created
      | ok given =>
          rw [bound] at created
          cases created
          cases block.run.symm.trans ready
          exact ih (Store.shows_add_new shows.library _ _)
  | bind _ _ first second =>
      intro content shows
      have begun := first shows
      exact begun.append (second begun.shows)

/-! ### Blocks that are written down -/

mutual

/-- Makes a call on a builder. -/
def Call.perform (b : BuilderRef) : Call → BuildM ρ Value
  | .title content => b.invoke "title" { first := some (.value content) }
  | .paragraph content => b.invoke "p" { first := some (.value content) }
  | .append node => b.invoke "append" { first := some (.value (.node node)) }
  | .bare opener options => b.invoke opener.name { options }
  | .opened opener calls options =>
      b.invoke opener.name { first := some (.function fun child => runCalls child calls), options }

/-- Makes calls in order. -/
def runCalls (b : BuilderRef) : List Call → BuildM ρ Unit
  | [] => return ()
  | call :: rest => do
      let _ ← call.perform b
      runCalls b rest

end

/-- An opener that ends well has run its block on a new builder, and the block has ended
well. -/
theorem Opener.exists_block (opener : Opener) {arguments : Arguments ρ} {init : Init ρ}
    {made : Value} (shows : s.store.Shows b content) (has : opener.entry ∈ content.members)
    (given : arguments.init? = some (.function init))
    (run : b.invoke opener.name arguments s = .ok made t) :
    ∃ child u v, create opener.product.builderId arguments.options s = .ok child u ∧
      u.store.Shows child (opener.product.start arguments.options) ∧
      init child u = .ok () v := by
  rw [BuilderRef.invoke_opener shows opener has, opener.run_eq _ shows.library] at run
  have created := call.create_eq shows.library opener.product arguments.options
  cases bound : opener.product.signature.bind none arguments.options with
  | error fault => rw [bound] at run; cases run
  | ok _ =>
      rw [bound] at run created
      obtain ⟨_, v, ready, _⟩ := bind_eq_ok.1 run
      refine ⟨_, _, v, created, Store.shows_add_new shows.library _ _, ?_⟩
      unfold Opening.prepare Opener.opening at ready
      rw [given] at ready
      exact ready

mutual

/-- A call that ends well is a call that has been made. -/
theorem Call.makes_of_perform {content : Content} {b : BuilderRef} {s t : Session ρ}
    {made : Value} :
    ∀ {call : Call}, s.store.Shows b content → call.perform b s = .ok made t →
      Makes b (call.perform b) s [call] made t
  | .title value, _, run => by rw [Call.perform] at run ⊢; exact .title run
  | .paragraph value, _, run => by rw [Call.perform] at run ⊢; exact .paragraph run
  | .append node, _, run => by rw [Call.perform] at run ⊢; exact .append run
  | .bare opener options, _, run => by rw [Call.perform] at run ⊢; exact .bare rfl run
  | .opened opener calls options, shows, run => by
      rw [Call.perform] at run ⊢
      have has := Call.mem_of_invoke (.opened opener calls options) shows run
      obtain ⟨child, u, v, created, shown, ready⟩ := opener.exists_block shows has rfl run
      exact .opened created (makes_of_runCalls shown ready) run

/-- A block that ends well has made its calls. -/
theorem makes_of_runCalls {content : Content} {b : BuilderRef} {s t : Session ρ} :
    ∀ {calls : List Call}, s.store.Shows b content → runCalls b calls s = .ok () t →
      Makes b (runCalls b calls) s calls () t
  | [], _, run => by
      rw [runCalls] at run ⊢
      cases run
      exact .idle rfl rfl
  | call :: rest, shows, run => by
      rw [runCalls] at run ⊢
      obtain ⟨made, u, first, second⟩ := bind_eq_ok.1 run
      have begun := Call.makes_of_perform shows first
      exact .bind begun (makes_of_runCalls (begun.followed shows).shows second)

end

end ScopedHtml
