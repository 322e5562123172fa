import ScopedHtml.Proofs.Library
import ScopedHtml.Proofs.Unwind

/-!
# ScopedHtml.Proofs.Calls

**Calls on the library's own builders.** A call looks a member up by its name and then
carries out what it has found (`BuilderRef.invoke`). Here the parts are put together:

* `Caller.read_of_member` — a public member that is not computed is found;
* `Caller.upTo_method` — calling a method binds its argument;
* `Caller.read_of_reported` — what is not there is reported;
* `Opening.run_eq_fromInit` — opening a scope of one of the library's classes is
  refusing the options or going on with a new builder;
* `Opening.fromBuild_of_complete`, `Opening.fromBuild_of_missing` — what happens when
  the caller's function has run.
-/

namespace ScopedHtml

open BuildM

/-! ### Openers -/

/-- The openers of the library's classes. -/
inductive Opener
  | head | body | div
  deriving DecidableEq, Repr

namespace Opener

/-- The name under which a builder has the opener. -/
def name : Opener → String
  | head => "head"
  | body => "body"
  | div => "div"

/-- What the builders of the scope make. -/
def product : Opener → Product
  | head => .head
  | body => .body
  | div => .division

/-- What the opener does with the element. -/
def attachment : Opener → Attachment
  | head => .slot
  | body => .slot
  | div => .append

/-- The opener among the members of a class. -/
def entry (opener : Opener) : String × Member :=
  (opener.name, .opener (.fixed opener.product.builderId) opener.attachment)

/-- A call of the opener on a builder. -/
def opening {ρ : Type} (opener : Opener) (b : BuilderRef) (init : Option (Given ρ))
    (options : Options) : Opening ρ where
  parent := .builder b
  element := opener.name
  target := .fixed opener.product.builderId
  attachment := opener.attachment
  init := init
  options := options

end Opener

/-- The library's builders have no other openers. -/
theorem Content.opener_of_mem {content : Content} {name : String} {target : Target}
    {attachment : Attachment} (has : (name, .opener target attachment) ∈ content.members) :
    ∃ opener : Opener, (name, .opener target attachment) = opener.entry := by
  cases content with
  | document first second =>
      simp [members] at has
      rcases has with ⟨rfl, rfl, rfl⟩ | ⟨rfl, rfl, rfl⟩
      · exact ⟨.head, rfl⟩
      · exact ⟨.body, rfl⟩
  | head title => simp [members] at has
  | body children =>
      simp [members] at has
      obtain ⟨rfl, rfl, rfl⟩ := has
      exact ⟨.div, rfl⟩
  | division children ident className =>
      simp [members] at has
      obtain ⟨rfl, rfl, rfl⟩ := has
      exact ⟨.div, rfl⟩

/-- Every public member is a method, an opener or computed. -/
theorem Content.called_of_mem {content : Content} {name : String} {member : Member}
    (has : (name, member) ∈ content.members) :
    (∃ method, member = .method method) ∨
      (∃ opener : Opener, (name, member) = opener.entry) ∨
      ∃ property, member = .property property := by
  cases member with
  | method method => exact .inl ⟨method, rfl⟩
  | opener target attachment => exact .inr (.inl (opener_of_mem has))
  | property property => exact .inr (.inr ⟨property, rfl⟩)
  | _ => cases content <;> simp [members] at has

/-! ### Members -/

variable {ρ : Type} {s : Session ρ} {b child : BuilderRef} {content inner : Content}
  {name : String}

/-- Looks a member up and calls it. -/
def BuilderRef.invoke (b : BuilderRef) (member : String) (arguments : Arguments ρ) :
    BuildM ρ Value := do
  call b (← b.read member) arguments

namespace Content

/-- Every public member comes from the class. -/
theorem exists_resolve_of_mem {content : Content} {member : Member}
    (has : (name, member) ∈ content.members) :
    name ∉ attributeNames ∧
      ∃ owner, Standard.classes.resolve content.product.builderId name = some (owner, member) := by
  have all : ∀ entry ∈ content.members, entry.1 ∉ attributeNames ∧
      ∃ owner, Standard.classes.resolve content.product.builderId entry.1 =
        some (owner, entry.2) := by
    cases content <;> repeat' first
      | exact List.forall_mem_nil _
      | refine List.forall_mem_cons.2 ⟨⟨by decide, _, rfl⟩, ?_⟩
  exact all (name, member) has

end Content

namespace Caller

/-- A public member that is not computed is found. -/
theorem read_of_member (call : Caller ρ) (shows : s.store.Shows b content) {member : Member}
    (has : (name, member) ∈ content.members) (plain : ∀ property, member ≠ .property property) :
    ∃ owner, call.read b name s = .ok (.callable owner name member) s := by
  obtain ⟨others, owner, resolved⟩ := Content.exists_resolve_of_mem has
  refine ⟨(s.store.classes.get owner).name, ?_⟩
  rw [call.read_member shows others resolved plain]
  cases member with
  | data value => exact absurd has (content.data_not_mem_members name value)
  | _ => rfl

/-- Calling a method binds its argument, and the rest happens one level of calls further
down. -/
theorem upTo_method (depth : Nat) (s : Session ρ) (b : BuilderRef) (owner name : String)
    (method : Method) (ordinary : method ≠ .register) (arguments : Arguments ρ) :
    upTo (depth + 1) b (.callable owner name (.method method)) arguments s =
      (do
        let given ← settle (arguments.bindOnly
          ⟨owner ++ "." ++ name, method.parameters, method.receiver⟩)
        (upTo depth).method b given method) s := by
  cases method with
  | register => exact absurd rfl ordinary
  | _ => rfl

/-- Reading a name under which there is nothing comes to what is reported of it. -/
theorem read_of_reported (depth : Nat) (plain : s.store.ReadsPlainly b)
    (computed : s.store.property? b name = none) (absent : s.store.kept? b name = none)
    {fault : Fault} (reported : ((upTo depth).report b name : BuildM ρ Value) s = .error fault s) :
    (upTo (depth + 1)).read b name s = .error fault s := by
  have failed : (upTo (depth + 1)).lookUp b name s =
      .error (.noAttribute (s.store.className b) name) s := by
    rw [lookUp, observe_bind, computed]
    simp only [query_apply, Store.kept, absent]
  obtain ⟨owner, unknown⟩ := plain.unknown
  have unknown : s.store.hook? b .unknown = some (owner, .method .report) := unknown
  rw [read_eq_reading, reading_of_absent plain.read failed, unknown]
  refine bind_of_error ?_
  unfold dispatch
  rw [observe_bind]
  show upTo (depth + 1) b (.callable _ Hook.unknown.name (.method .report)) _ s = _
  rw [upTo_method depth s b _ _ .report (by decide)]
  exact (bind_of_ok rfl).trans reported

end Caller

/-- Calling an opener of the library opens a scope. -/
theorem Opener.call_eq (opener : Opener) (s : Session ρ) (b : BuilderRef) (owner : String)
    (arguments : Arguments ρ) :
    call b (.callable owner opener.name opener.entry.2) arguments s =
      (opener.opening b arguments.init? arguments.options).run (.upTo 999) s := by
  have ordinary : opener.name ∉ Hook.ofClass := by cases opener <;> decide
  refine (Caller.upTo_opener 999 s b owner opener.name _ _ arguments).trans ?_
  unfold Opening.ofCall
  rw [if_neg ordinary]
  rfl

namespace BuilderRef

/-- Calling a public member fails and changes nothing, or calls a member of the library. -/
theorem invoke_cases (shows : s.store.Shows b content) (shown : isPrivate name = false)
    (arguments : Arguments ρ) :
    (∃ fault, b.invoke name arguments s = .error fault s) ∨
      ∃ owner member, (name, member) ∈ content.members ∧
        b.invoke name arguments s = call b (.callable owner name member) arguments s := by
  unfold invoke read
  rcases Caller.read_public Caller.depthLimit shows shown with
    ⟨fault, eq⟩ | ⟨value, eq⟩ | ⟨owner, member, has, eq⟩
  · exact .inl ⟨fault, bind_of_error eq⟩
  · exact .inl ⟨.notCallable value.typeName, bind_of_ok eq⟩
  · exact .inr ⟨owner, member, has, bind_of_ok eq⟩

/-- Only a member that the library has can be called with success. -/
theorem exists_member_of_invoke (shows : s.store.Shows b content)
    (shown : isPrivate name = false) {arguments : Arguments ρ} {answer : Value}
    {t : Session ρ} (run : b.invoke name arguments s = .ok answer t) :
    ∃ member, (name, member) ∈ content.members := by
  rcases invoke_cases shows shown arguments with ⟨fault, eq⟩ | ⟨owner, member, has, _⟩
  · rw [eq] at run
    cases run
  · exact ⟨member, has⟩

/-- A method that the library has binds its argument when it is called. -/
theorem invoke_method (shows : s.store.Shows b content) {method : Method}
    (has : (name, .method method) ∈ content.members) (ordinary : method ≠ .register)
    (arguments : Arguments ρ) :
    ∃ owner, b.invoke name arguments s =
      (do
        let given ← settle (arguments.bindOnly
          ⟨owner ++ "." ++ name, method.parameters, method.receiver⟩)
        (Caller.upTo 999).method b given method) s := by
  obtain ⟨owner, eq⟩ := call.read_of_member shows has (by simp)
  refine ⟨owner, ?_⟩
  unfold invoke read
  rw [bind_of_ok eq]
  exact Caller.upTo_method 999 s b owner name method ordinary arguments

/-- A paragraph is made and gathered. -/
theorem invoke_paragraph (shows : s.store.Shows b content)
    (has : ("p", .method .paragraph) ∈ content.members) (value : Value) :
    ∃ after, b.invoke "p" { first := some (.value value) } s =
        .ok (.node (.paragraph value)) { s with store := after } ∧
      s.store.Gathered b content "p" (.node (.paragraph value)) after := by
  obtain ⟨owner, eq⟩ := invoke_method shows has (by decide) { first := some (.value value) }
  obtain ⟨after, added, gathered⟩ := (Caller.upTo 999).paragraph_content shows
    (Content.isFlow_of_mem has (by decide)) value
  refine ⟨after, eq.trans ?_, gathered⟩
  show (do return .node (← (Caller.upTo 999).paragraph b value) : BuildM ρ Value) s = _
  rw [bind_of_ok added]
  rfl

/-- A finished element is gathered. -/
theorem invoke_append (shows : s.store.Shows b content)
    (has : ("append", .method .append) ∈ content.members) (node : Node) :
    ∃ after, b.invoke "append" { first := some (.value (.node node)) } s =
        .ok (.node node) { s with store := after } ∧
      s.store.Gathered b content "append" (.node node) after := by
  obtain ⟨owner, eq⟩ :=
    invoke_method shows has (by decide) { first := some (.value (.node node)) }
  obtain ⟨after, added, gathered⟩ := (Caller.upTo 999).append_content shows
    (Content.isFlow_of_mem has (by decide)) node
  refine ⟨after, eq.trans ?_, gathered⟩
  show (do return .node (← (Caller.upTo 999).append b node) : BuildM ρ Value) s = _
  rw [bind_of_ok added]
  rfl

/-- A title is made and gathered. -/
theorem invoke_title (shows : s.store.Shows b content)
    (has : ("title", .method .title) ∈ content.members) (value : Value) :
    ∃ after, b.invoke "title" { first := some (.value value) } s =
        .ok (.node (.title value)) { s with store := after } ∧
      s.store.Gathered b content "title" (.node (.title value)) after := by
  obtain ⟨owner, eq⟩ := invoke_method shows has (by decide) { first := some (.value value) }
  have product : content.product = .head := by
    cases content with
    | head title => rfl
    | _ => simp [Content.members] at has
  obtain ⟨after, added, gathered⟩ := (Caller.upTo 999).title_content shows product value
  exact ⟨after, eq.trans added, gathered⟩

/-- An opener that the library has opens a scope. -/
theorem invoke_opener (shows : s.store.Shows b content) (opener : Opener)
    (has : opener.entry ∈ content.members) (arguments : Arguments ρ) :
    b.invoke opener.name arguments s =
      (opener.opening b arguments.init? arguments.options).run (.upTo 999) s := by
  obtain ⟨owner, eq⟩ := call.read_of_member shows has (by simp)
  unfold invoke read
  rw [bind_of_ok eq]
  exact opener.call_eq s b owner arguments

end BuilderRef

/-! ### What calling a method comes to -/

/-- What the call of a method of the library on a builder comes to. -/
inductive CallEnds (s : Session ρ) (b : BuilderRef) (content : Content) (name : String) :
    EStateM.Result Fault (Session ρ) Value → Prop
  /-- It fails and changes nothing. -/
  | failed (fault : Fault) : CallEnds s b content name (.error fault s)
  /-- It changes nothing and answers with something that is no element. -/
  | looked (answer : Value) (other : ∀ node, answer ≠ .node node) :
      CallEnds s b content name (.ok answer s)
  /-- The builder has been finalized. -/
  | built (build : name = "build") :
      CallEnds s b content name
        (.ok (.node content.node) { s with store := s.store.finalizedInto b content.node })
  /-- The builder has got an element. -/
  | gathered (node : Node) (after : Store)
      (gathered : s.store.Gathered b content name (.node node) after) :
      CallEnds s b content name (.ok (.node node) { s with store := after })

/-- Asking a builder for its class changes nothing. -/
theorem Caller.quiet_inspect (depth : Nat) (readable : s.store.Readable b) :
    Quiet ((Caller.upTo depth).inspect b) s := by
  unfold Caller.inspect
  refine (Caller.quiet_read depth readable kindName).outcome.bind ?_
  intro result _
  cases result with
  | ok found => exact quiet_pure ()
  | error fault =>
      show Quiet (if fault.isAttribute = true then pure PUnit.unit else _) s
      split
      · exact quiet_pure _
      · exact quiet_throw _

/-- The methods of the library have these names. -/
theorem Content.name_of_method {method : Method}
    (has : (name, .method method) ∈ content.members) :
    (name, method) ∈ [("p", Method.paragraph), ("append", .append), ("title", .title),
      ("build", .build), ("missing", .missing), ("elements", .elements)] := by
  cases content <;> simp [members] at has ⊢ <;> grind

/-- An argument that is no element cannot be appended. -/
theorem Caller.appendGiven_cases (depth : Nat) (given : Given ρ)
    (readable : ∀ other, s.store.Readable other ∧ s.store.foreign? other = none) :
    (∃ node, given = .value (.node node)) ∨
      ∃ fault, (upTo depth).appendGiven b given s = .error fault s := by
  cases given with
  | value held =>
      cases held with
      | node node => exact .inl ⟨node, rfl⟩
      | _ => exact .inr ⟨_, rfl⟩
  | function init => exact .inr ⟨_, rfl⟩
  | builder other =>
      refine .inr ?_
      obtain ⟨result, inspected⟩ := quiet_inspect depth (readable other).1
      unfold appendGiven
      show ∃ fault, (observe _ >>= _) s = .error fault s
      rw [observe_bind, (readable other).2]
      show ∃ fault, ((upTo depth).inspect other >>= _) s = .error fault s
      cases result with
      | ok _ =>
          rw [bind_of_ok inspected]
          exact ⟨_, rfl⟩
      | error fault => exact ⟨fault, bind_of_error inspected⟩

/-- What the methods of the library do on a builder. -/
theorem Caller.method_ends (depth : Nat) (shows : s.store.Shows b content) {method : Method}
    (has : (name, .method method) ∈ content.members) (given : Given ρ)
    (plain : ∀ other, s.store.ReadsPlainly other ∧ s.store.foreign? other = none) :
    CallEnds s b content name ((upTo (depth + 1)).method b given method s) := by
  have named := Content.name_of_method has
  cases method with
  | build =>
      have build : name = "build" := by simpa using named
      show CallEnds s b content name ((upTo (depth + 1)).build b s)
      by_cases complete : content.missing = []
      · rw [build_of_complete depth shows complete]
        exact .built build
      · rw [build_of_missing depth shows complete]
        exact .failed _
  | missing =>
      show CallEnds s b content name ((do return .list (← (upTo _).missing b) : BuildM ρ Value) s)
      rw [bind_of_ok ((upTo (depth + 1)).missing_content shows)]
      exact .looked _ (fun node same => by cases same)
  | elements =>
      show CallEnds s b content name ((query _ >>= _) s)
      rw [bind_apply, query_apply]
      cases s.store.classes.listed (s.store.get b).classId with
      | ok names => exact .looked _ (fun node same => by cases same)
      | error fault => exact .failed fault
  | paragraph =>
      have p : name = "p" := by simpa using named
      subst p
      obtain ⟨after, added, gathered⟩ := (upTo (depth + 1)).paragraph_content shows
        (Content.isFlow_of_mem has (by decide)) given.toValue
      show CallEnds s b content "p"
        ((do return .node (← (upTo _).paragraph b _) : BuildM ρ Value) s)
      rw [bind_of_ok added]
      exact .gathered _ after gathered
  | append =>
      have append : name = "append" := by simpa using named
      subst append
      show CallEnds s b content "append"
        ((do return .node (← (upTo _).appendGiven b given) : BuildM ρ Value) s)
      -- What is given may be no element, and then nothing is gathered.
      rcases appendGiven_cases (b := b) (depth + 1) given
          (fun other => ⟨(plain other).1.readable, (plain other).2⟩) with ⟨node, rfl⟩ | ⟨fault, eq⟩
      · obtain ⟨after, added, gathered⟩ := (upTo (depth + 1)).append_content shows
          (Content.isFlow_of_mem has (by decide)) node
        show CallEnds s b content "append"
          ((do return .node (← (upTo _).append b node) : BuildM ρ Value) s)
        rw [bind_of_ok added]
        exact .gathered _ after gathered
      · rw [bind_of_error eq]
        exact .failed fault
  | title =>
      have title : name = "title" := by simpa using named
      subst title
      have product : content.product = .head := by
        cases content with
        | head title => rfl
        | _ => simp [Content.members] at has
      obtain ⟨after, added, gathered⟩ :=
        (upTo (depth + 1)).title_content shows product given.toValue
      show CallEnds s b content "title" ((upTo (depth + 1)).title b given.toValue s)
      rw [added]
      exact .gathered _ after gathered
  | report => simp at named
  | register => simp at named

/-- What calling a method of the library on a builder comes to. -/
theorem call_method_ends (owner : String) (shows : s.store.Shows b content) {method : Method}
    (has : (name, .method method) ∈ content.members) (arguments : Arguments ρ)
    (plain : ∀ other, s.store.ReadsPlainly other ∧ s.store.foreign? other = none) :
    CallEnds s b content name
      (call b (.callable owner name (.method method)) arguments s) := by
  have ordinary : method ≠ .register := by
    rintro rfl
    have named := Content.name_of_method has
    simp at named
  show CallEnds s b content name
    (Caller.upTo (999 + 1) b (.callable owner name (.method method)) arguments s)
  rw [Caller.upTo_method 999 s b owner name method ordinary arguments]
  cases arguments.bindOnly
      ⟨owner ++ "." ++ name, method.parameters, method.receiver⟩ with
  | error fault => exact .failed fault
  | ok given => exact Caller.method_ends 998 shows has given plain

namespace Opening

/-- Opening a scope of one of the library's classes is refusing the options or going on
with a new builder. -/
theorem run_eq_fromInit (opening : Opening ρ) (product : Product) (call : Caller ρ)
    (library : s.store.classes.HasLibrary)
    (target : opening.target = .fixed product.builderId) :
    opening.run call s =
      match product.signature.bind none opening.options with
      | .ok _ => opening.fromInit call ⟨s.store.builders.length⟩
          { s with store := (s.store.add (product.builder opening.options)).2 }
      | .error fault => .error fault s := by
  have resolved : s.store.target opening.element opening.target = .ok product.builderId := by
    rw [target]
    rfl
  rw [run_eq_remaining, remaining, bind_of_ok (query_eq_ok.2 ⟨resolved, rfl⟩), fromCreate,
    bind_apply, call.create_eq library product]
  cases product.signature.bind none opening.options <;> rfl

/-- When the caller's function has run and nothing is missing, the new builder is
finalized and the parent gets its element. -/
theorem fromBuild_of_complete (opening : Opening ρ) (depth : Nat)
    (parent : opening.parent = .builder b)
    (opener : (opening.element, .opener opening.target opening.attachment) ∈ content.members)
    (shows : s.store.Shows b content) (made : s.store.Shows child inner)
    (complete : inner.missing = []) :
    ∃ after, opening.fromBuild (.upTo (depth + 2)) child s =
        .ok (.node inner.node) { s with store := after } ∧
      (s.store.finalizedInto child inner.node).Gathered b content opening.element
        (.node inner.node) after := by
  have built := (Caller.own_build depth made).trans (Caller.build_of_complete depth made complete)
  -- Finalizing the child leaves what the parent shows as it is.
  have finalized := shows.finalizedInto child inner.node
  obtain ⟨after, attached, gathered⟩ := Caller.attach_content
    (s := { s with store := s.store.finalizedInto child inner.node }) (.upTo (depth + 2))
    finalized opener (.node inner.node)
  refine ⟨after, ?_, gathered⟩
  rw [fromBuild, bind_of_ok built, fromAttach, attach, parent]
  rw [bind_of_ok attached]
  rfl

/-- When something is missing, the opener fails and nothing else happens. -/
theorem fromBuild_of_missing (opening : Opening ρ) (depth : Nat) (made : s.store.Shows child inner)
    (incomplete : inner.missing ≠ []) :
    opening.fromBuild (.upTo (depth + 2)) child s =
      .error (.missingChildren inner.product.builderName (Value.texts inner.missing)) s := by
  have failed := (Caller.own_build depth made).trans
    (Caller.build_of_missing depth made incomplete)
  rw [fromBuild, bind_of_error failed]

end Opening

/-- Opening a scope with one of the library's openers. -/
theorem Opener.run_eq (opener : Opener) (call : Caller ρ) (library : s.store.classes.HasLibrary)
    (init : Option (Given ρ)) (options : Options) :
    (opener.opening b init options).run call s =
      match opener.product.signature.bind none options with
      | .ok _ => (opener.opening b init options).fromInit call ⟨s.store.builders.length⟩
          { s with store := (s.store.add (opener.product.builder options)).2 }
      | .error fault => .error fault s :=
  Opening.run_eq_fromInit _ opener.product call library rfl

end ScopedHtml
