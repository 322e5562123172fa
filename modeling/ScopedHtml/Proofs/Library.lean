import ScopedHtml.Proofs.Content

/-!
# ScopedHtml.Proofs.Library

**What the library's own builders do.** The operations of a builder that shows a content
(`Store.Shows`), in terms of the content:

* `Caller.create_eq`, `Store.shows_add_new` — a new builder shows the content that its
  options give, unless they are refused;
* `Caller.read_public` — what is found under a public name;
* `Caller.build_of_complete`, `Caller.build_of_missing` — a builder is finalized into the
  element of its content, unless something is missing;
* `Caller.attach_content` and its like — an element that a member answers with has been
  gathered, and nothing else has changed (`Store.Gathered`).
-/

namespace ScopedHtml

/-! ### New builders -/

namespace Store

/-- What every object has has a private name. -/
theorem inherent?_of_public {store : Store} {b : BuilderRef} {name : String}
    (shown : isPrivate name = false) : store.inherent? b name = none := by
  have inherent : ∀ other ∈ attributesName :: Value.inherent, isPrivate other = true := by decide
  have outside : name ∉ attributesName :: Value.inherent := by
    intro inside
    rw [inherent name inside] at shown
    cases shown
  rw [List.mem_cons, not_or] at outside
  rw [inherent?, if_neg outside.1, if_neg outside.2]

end Store

namespace Signature

variable {α : Type}

/-- Arguments that all say their names are bound to these names. -/
theorem bindNamed_eq_ok {signature : Signature} :
    ∀ {named bound given : List (String × α)},
      signature.bindNamed bound named = .ok given → given = bound ++ named
  | [], bound, given, h => by
      rw [List.append_nil]
      exact (Except.ok.inj h).symm
  | (name, value) :: rest, bound, given, h => by
      rw [bindNamed] at h
      split at h
      · cases h
      · split at h
        · rw [bindNamed_eq_ok h, List.append_assoc]
          rfl
        · cases h

/-- Arguments are bound as they come, the one without a name first. -/
theorem bind_eq_ok {signature : Signature} {first : Option α} {named given : List (String × α)}
    (h : signature.bind first named = .ok given) :
    given = signature.bindFirst first ++ named := by
  unfold bind at h
  cases bound : signature.bindNamed (signature.bindFirst first) named with
  | error fault => rw [bound] at h; cases h
  | ok all =>
      have same : all = signature.bindFirst first ++ named := bindNamed_eq_ok bound
      rw [bound] at h
      change (do
        if first.isSome && signature.parameters.isEmpty then throw _
        unless (signature.absent all).isEmpty do throw _
        return all : Except Fault _) = _ at h
      cases odd : first.isSome && signature.parameters.isEmpty with
      | true => rw [odd] at h; cases h
      | false =>
          rw [odd] at h
          change (do
            unless (signature.absent all).isEmpty do throw _
            return all : Except Fault _) = _ at h
          cases complete : (signature.absent all).isEmpty with
          | true =>
              rw [complete] at h
              rw [← same]
              exact (Except.ok.inj h).symm
          | false => rw [complete] at h; cases h

theorem bind_none_eq_ok {signature : Signature} {named given : List (String × α)}
    (h : signature.bind none named = .ok given) : given = named :=
  bind_eq_ok h

end Signature

namespace Product

/-- How the builders of the class start. -/
def starter : Product → Starter
  | document => ⟨some Standard.documentBuilder, [], ⟨[("_head", .null), ("_body", .null)]⟩⟩
  | head => ⟨some Standard.headBuilder, [], ⟨[("_title", .null)]⟩⟩
  | body => ⟨some Standard.flowBuilder, [], ⟨[("_children", .list [])]⟩⟩
  | division => ⟨some Standard.divBuilder, [("id", "id"), ("class_", "class_name")],
      ⟨[("id", .null), ("class_name", .null)]⟩⟩

theorem resolve_start (product : Product) :
    ∃ owner : ClassId, owner.index < Standard.classes.classes.length ∧
      Standard.classes.resolve product.builderId Hook.start.name =
        some (owner, .starter product.starter) ∧
      (Standard.classes.get owner).name ++ "." ++ Hook.start.name =
        product.signature.callee := by
  cases product <;> exact ⟨_, by decide, rfl, rfl⟩

theorem parameters_starter (product : Product) :
    product.starter.parameters = product.signature.parameters := by
  cases product <;> rfl

/-- A new builder of the class. -/
def builder (product : Product) (options : Options) : Builder where
  classId := product.builderId
  held := Standard.fresh (product.start options).attributes

/-- What the classes in line assign to it. -/
theorem startHeld_standard (product : Product) (options : Options) :
    Standard.classes.startHeld product.builderId product.starter options =
      (product.builder options).held := by
  cases product with
  | division =>
      simp only [ClassTable.startHeld, ClassTable.startEntries, Starter.started, starter, List.foldl,
        builder, start]
      cases options.lookup "id" <;> cases options.lookup "class_" <;> rfl
  | _ => rfl

end Product

/-- A new builder of one of the library's classes takes what its class takes. -/
theorem Store.bindOptions_library {store : Store} (library : store.classes.HasLibrary)
    {product : Product} {owner : ClassId} {options : Options}
    (inside : owner.index < Standard.classes.classes.length)
    (callee : (Standard.classes.get owner).name ++ "." ++ Hook.start.name =
      product.signature.callee) :
    store.bindOptions owner product.starter options = product.signature.bind none options := by
  unfold Store.bindOptions
  rw [library owner inside, callee, product.parameters_starter]
  cases product <;> rfl

namespace Store

variable {store : Store} {b : BuilderRef} {content : Content}

/-- A new builder shows the content that its options give. -/
theorem shows_add_new (library : store.classes.HasLibrary) (product : Product)
    (options : Options) :
    (store.add (product.builder options)).2.Shows ⟨store.builders.length⟩
      (product.start options) := by
  have new : (store.add (product.builder options)).2.get ⟨store.builders.length⟩ =
      product.builder options := get_add_new store _
  constructor
  · simp [Store.add]
  · exact library
  · exact foreign?_of_get new
  · rw [new, Content.product_start]; rfl
  · intro name value kept
    have all : ∀ entry ∈ (product.start options).attributes,
        (product.builder options).held.find? entry.1 = some entry.2 := by
      cases product <;> simp [Product.start, Content.attributes, Product.builder,
        Standard.fresh, Bindings.find?, Bindings.findIn]
    rw [held?_of_get new]
    exact all (name, value) kept
  · exact ⟨false, held?_of_get new _⟩
  · intro name others
    rw [held?_of_get new]
    simp only [attributeNames, List.mem_cons, List.not_mem_nil, or_false, not_or] at others
    cases product <;> simp [Product.start, Content.attributes, Product.builder, Standard.fresh,
      Bindings.find?, Bindings.findIn, Ne.symm, others, eq_comm]

/-- `after` is `store` but for the builder, which has got what was made for a member. -/
structure Gathered (store : Store) (b : BuilderRef) (content : Content) (member : String)
    (made : Value) (after : Store) : Prop where
  one : ∃ name value, after = store.assign b name value
  shows : after.Shows b (content.got member made)

end Store

namespace Caller

open BuildM

variable {ρ : Type} {s : Session ρ} {b : BuilderRef} {content : Content} {name : String}

/-! ### Creating -/

/-- Creating a builder of one of the library's classes adds it, unless the options are
refused. -/
theorem create_eq (call : Caller ρ) (library : s.store.classes.HasLibrary) (product : Product)
    (options : Options) :
    call.create product.builderId options s =
      match product.signature.bind none options with
      | .ok _ => .ok ⟨s.store.builders.length⟩
          { s with store := (s.store.add (product.builder options)).2 }
      | .error fault => .error fault s := by
  obtain ⟨owner, inside, resolved, callee⟩ := product.resolve_start
  have ordinary := product.ordinary library
  have start : s.store.initializer product.builderId =
      .ok (some (owner, .starter product.starter)) := by
    obtain ⟨owner, maker⟩ : ∃ owner,
        Standard.classes.resolve product.builderId "_make_node" =
          some (owner, .maker (some product)) := by
      cases product <;> exact ⟨_, rfl⟩
    unfold Store.initializer
    rw [library.resolve product.inside, maker]
    show Except.ok (s.store.classes.resolve product.builderId Hook.start.name) = _
    rw [library.resolve product.inside, resolved]
  rw [call.create_of_plain ordinary.toStartsPlainly ordinary.make start,
    Store.bindOptions_library library inside callee]
  cases bound : product.signature.bind none options with
  | error fault => rfl
  | ok given =>
      obtain rfl := Signature.bind_none_eq_ok bound
      dsimp only
      rw [library.startHeld product.inside, product.startHeld_standard]
      rfl

/-! ### Reading -/

/-- What keeps a content is read from it. -/
theorem read_attribute (call : Caller ρ) (shows : s.store.Shows b content) {value : Value}
    (own : name ∈ attributeNames) (kept : s.store.held? b name = some value) :
    call.read b name s = .ok (.value value) s :=
  read_of_kept shows.readsPlainly
    (Store.property?_of_not_member (shows.member?_attribute own)) (Store.kept?_of_held kept)

theorem read_content (call : Caller ρ) (shows : s.store.Shows b content) {value : Value}
    (kept : (name, value) ∈ content.attributes) :
    call.read b name s = .ok (.value value) s :=
  call.read_attribute shows (Content.mem_attributeNames kept) (shows.held name value kept)

theorem readValue_content (call : Caller ρ) (shows : s.store.Shows b content) {value : Value}
    (kept : (name, value) ∈ content.attributes) : call.readValue b name s = .ok value s := by
  rw [readValue, bind_of_ok (call.read_content shows kept)]
  rfl

/-- A member that is not computed is found. -/
theorem read_member (call : Caller ρ) (shows : s.store.Shows b content)
    {origin : ClassId × Member} (others : name ∉ attributeNames)
    (member : Standard.classes.resolve content.product.builderId name = some origin)
    (plain : ∀ property, origin.2 ≠ .property property) :
    call.read b name s = .ok (s.store.found name origin) s := by
  refine read_of_kept shows.readsPlainly ?_ (shows.kept?_member others member)
  exact Store.property?_of_member (by rw [shows.member?, member]) plain

theorem own_member (call : Caller ρ) (shows : s.store.Shows b content)
    {origin : ClassId × Member} (others : name ∉ attributeNames)
    (member : Standard.classes.resolve content.product.builderId name = some origin)
    (plain : ∀ property, origin.2 ≠ .property property) :
    call.own b name s = call b (s.store.found name origin) {} s := by
  rw [own, bind_of_ok (call.read_member shows others member plain)]

/-- What is computed for a builder is a value, and as its children a finished list. -/
theorem computed_content (call : Caller ρ) (shows : s.store.Shows b content)
    {property : Property} (has : (name, .property property) ∈ content.members) :
    ∃ value, call.computed b property s = .ok (.value value) s ∧
      (property = .children → ∃ children, value = .tuple children) := by
  cases property with
  | isFinalized =>
      obtain ⟨finalized, held⟩ := shows.flag
      exact ⟨_, readKept_of_kept shows.readsPlainly (Store.kept?_of_held held), by simp⟩
  | children =>
      obtain ⟨children, kept⟩ : ∃ children,
          ("_children", .list children) ∈ content.attributes := by
        cases content with
        | document first second => simp [Content.members] at has
        | head title => simp [Content.members] at has
        | body children => exact ⟨children, .head _⟩
        | division children ident className => exact ⟨children, .head _⟩
      have read : call.readKept b "_children" s = .ok (.value (.list children)) s :=
        readKept_of_kept shows.readsPlainly (Store.kept?_of_held (shows.held _ _ kept))
      refine ⟨.tuple children, ?_, fun _ => ⟨children, rfl⟩⟩
      show (call.readKept b "_children" >>= _) s = _
      rw [bind_of_ok read]
      rfl

/-- A computed attribute is read as what is computed. -/
theorem read_property (call : Caller ρ) (shows : s.store.Shows b content)
    {property : Property} {owner : ClassId} (shown : isPrivate name = false)
    (member : s.store.member? b name = some (owner, .property property)) :
    ∃ value, call.read b name s = .ok (.value value) s ∧
      (property = .children → ∃ children, value = .tuple children) := by
  have has : (name, .property property) ∈ content.members :=
    Content.mem_members shown (by rw [← shows.member?, member])
  obtain ⟨value, eq, items⟩ := call.computed_content shows has
  refine ⟨value, reading_of_ok shows.readsPlainly ?_, items⟩
  rw [observe_bind, Store.property?, member]
  exact eq

/-- What a member answers when it is asked for a name is a value. -/
theorem exists_value_of_ask {call : Caller ρ} {hook : Hook} {origin : ClassId × Member}
    {found : Found} {t : Session ρ} (asked : call.ask b hook origin name s = .ok found t) :
    ∃ value, found = .value value := by
  obtain ⟨value, _, _, done⟩ := bind_eq_ok.1 asked
  cases done
  exact ⟨value, rfl⟩

/-- What is found under a name that the ordinary look-up does not find is a value. -/
theorem exists_value_of_reading {call : Caller ρ} {lookup : BuildM ρ Found} {found : Found}
    {t : Session ρ} (readable : s.store.Readable b)
    (absent : ∃ fault, lookup s = .error fault s)
    (read : call.reading b name lookup s = .ok found t) : ∃ value, found = .value value := by
  obtain ⟨fault, absent⟩ := absent
  rw [reading_of_absent readable.read absent] at read
  split at read
  · exact exists_value_of_ask read
  · cases read

/-- Reading a public name fails, or finds a value or a member of the library. -/
theorem read_public (depth : Nat) (shows : s.store.Shows b content)
    (shown : isPrivate name = false) :
    (∃ fault, (upTo depth).read b name s = .error fault s) ∨
      (∃ value, (upTo depth).read b name s = .ok (.value value) s) ∨
      ∃ owner member, (name, member) ∈ content.members ∧
        (upTo depth).read b name s = .ok (.callable owner name member) s := by
  have plain := shows.readsPlainly
  -- The class has a member of this name, which is computed, hidden by a value or found; or it
  -- has none, and then only a value can be found.
  cases member : s.store.member? b name with
  | some origin =>
      obtain ⟨owner, called⟩ := origin
      have has : (name, called) ∈ content.members :=
        Content.mem_members shown (by rw [← shows.member?, member])
      by_cases computed : ∃ property, called = .property property
      · obtain ⟨property, rfl⟩ := computed
        obtain ⟨value, eq, _⟩ := (upTo depth).read_property shows shown member
        exact .inr (.inl ⟨value, eq⟩)
      · have ordinary := Store.property?_of_member member fun property same =>
          computed ⟨property, same⟩
        rcases Store.kept?_cases member with ⟨value, kept⟩ | kept
        · exact .inr (.inl ⟨value, read_of_kept plain ordinary kept⟩)
        · refine .inr (.inr ⟨(s.store.classes.get owner).name, called, has, ?_⟩)
          rw [read_of_kept plain ordinary kept]
          cases called with
          | data value => exact absurd has (content.data_not_mem_members name value)
          | _ => rfl
  | none =>
      have ordinary := Store.property?_of_not_member member
      cases held : s.store.held? b name with
      | some value =>
          exact .inr (.inl ⟨value, read_of_kept plain ordinary (Store.kept?_of_held held)⟩)
      | none =>
          have absent : s.store.kept b name =
              .error (.noAttribute (s.store.className b) name) := by
            unfold Store.kept Store.kept?
            rw [held, member, Store.inherent?_of_public shown]
          -- The name is reported, which fails or answers with a value.
          obtain ⟨result, eq⟩ := quiet_read depth plain.readable name
          cases result with
          | error fault => exact .inl ⟨fault, eq⟩
          | ok found =>
              obtain ⟨value, rfl⟩ : ∃ value, found = .value value := by
                refine exists_value_of_reading plain.readable
                  ⟨.noAttribute (s.store.className b) name, ?_⟩ eq
                rw [observe_bind, ordinary]
                simp only [query_apply, absent]
              exact .inr (.inl ⟨value, eq⟩)

/-! ### Finalizing -/

theorem readItems_required (call : Caller ρ) (shows : s.store.Shows b content) :
    call.readItems b "_required" s = .ok (Value.texts (content.required)) s := by
  obtain ⟨origin, resolved, found⟩ : ∃ origin,
      Standard.classes.resolve content.product.builderId "_required" = some origin ∧
        origin.2 = .data (.ofNames (content.required)) := by
    cases content <;> exact ⟨_, rfl, rfl⟩
  have read := call.read_member shows (by decide) resolved (by simp [found])
  rw [readItems, bind_of_ok read, Store.found, found]
  rfl

/-- Whether a required part is missing is read from what keeps it. -/
theorem unsetAmong_cons (call : Caller ρ) (shows : s.store.Shows b content) (name : String)
    {value : Value} {rest : List Value} {others : List String}
    (kept : (slotAttribute name, value) ∈ content.attributes)
    (tail : call.unsetAmong b rest s = .ok (Value.texts others) s) :
    call.unsetAmong b (.text name :: rest) s =
      .ok (Value.texts ((if value.isNull then [name] else []) ++ others)) s := by
  rw [unsetAmong, Value.written_text, bind_of_ok (call.read_content shows kept),
    bind_of_ok tail]
  cases null : value.isNull with
  | true => simp [Found.isNull, null, Value.texts]
  | false => simp [Found.isNull, null]

/-- What a builder says is missing. -/
theorem missing_content (call : Caller ρ) (shows : s.store.Shows b content) :
    call.missing b s = .ok (Value.texts content.missing) s := by
  rw [missing, bind_of_ok (call.readItems_required shows)]
  have nothing : call.unsetAmong b [] s = .ok (Value.texts []) s := rfl
  cases content with
  | document first second =>
      have body := call.unsetAmong_cons shows "body" (.tail _ (.head _)) nothing
      have both := call.unsetAmong_cons shows "head" (.head _) body
      rw [List.append_nil] at both
      exact both
  | head title =>
      have only := call.unsetAmong_cons shows "title" (.head _) nothing
      rw [List.append_nil] at only
      exact only
  | body children => exact nothing
  | division children ident className => exact nothing

theorem own_missing (depth : Nat) (shows : s.store.Shows b content) :
    (upTo (depth + 1)).own b "missing" s = .ok (.list (Value.texts content.missing)) s := by
  obtain ⟨owner, resolved⟩ : ∃ owner,
      Standard.classes.resolve content.product.builderId "missing" =
        some (owner, .method .missing) := by
    cases content <;> exact ⟨_, rfl⟩
  rw [own_member _ shows (by decide) resolved (by simp)]
  show (do return .list (← (upTo depth).missing b) : BuildM ρ Value) s = _
  rw [bind_of_ok ((upTo depth).missing_content shows)]
  rfl

/-- A flow builder reads its children from its content. -/
theorem readItems_children (call : Caller ρ) (shows : s.store.Shows b content)
    {children : List Value} (kept : ("_children", .list children) ∈ content.attributes) :
    call.readItems b "_children" s = .ok children s := by
  rw [readItems, bind_of_ok (call.read_content shows kept)]
  rfl

/-- The element that a builder makes is that of its content. -/
theorem make_content (call : Caller ρ) (shows : s.store.Shows b content) :
    call.make b content.product s = .ok content.node s := by
  cases content with
  | document first second =>
      have head := call.readValue_content shows (.head _)
      have body := call.readValue_content shows (.tail _ (.head _))
      show (call.readValue b "_head" >>= _) s = _
      rw [bind_of_ok head, bind_of_ok body]
      rfl
  | head title =>
      show (call.readValue b "_title" >>= _) s = _
      rw [bind_of_ok (call.readValue_content shows (.head _))]
      rfl
  | body children =>
      show (call.readItems b "_children" >>= _) s = _
      rw [bind_of_ok (call.readItems_children shows (.head _))]
      rfl
  | division children ident className =>
      have first := call.readValue_content shows (.tail _ (.head _))
      have second := call.readValue_content shows (.tail _ (.tail _ (.head _)))
      show (call.readItems b "_children" >>= _) s = _
      rw [bind_of_ok (call.readItems_children shows (.head _)), bind_of_ok first,
        bind_of_ok second]
      rfl

theorem own_make (depth : Nat) (shows : s.store.Shows b content) :
    (upTo (depth + 1)).own b "_make_node" s = .ok (.node content.node) s := by
  obtain ⟨owner, resolved⟩ : ∃ owner,
      Standard.classes.resolve content.product.builderId "_make_node" =
        some (owner, .maker (some content.product)) := by
    cases content <;> exact ⟨_, rfl⟩
  rw [own_member _ shows (by decide) resolved (by simp)]
  show (do return .node (← (upTo depth).make b content.product) : BuildM ρ Value) s = _
  rw [bind_of_ok ((upTo depth).make_content shows)]
  rfl

/-- A builder without anything missing is finalized into the element of its content. -/
theorem build_of_complete (depth : Nat) (shows : s.store.Shows b content)
    (complete : content.missing = []) :
    (upTo (depth + 1)).build b s =
      .ok (.node content.node) { s with store := s.store.finalizedInto b content.node } := by
  rw [build, bind_of_ok (own_missing depth shows), complete]
  show ((upTo (depth + 1)).own b "_make_node" >>= _) s = _
  rw [bind_of_ok (own_make depth shows), bind_apply, perform_apply,
    finalize_of_ordinary shows.ordinary]
  simp [bind_apply, perform_apply, Store.record, Store.finalizedInto]

/-- A builder that answers what is missing is not finalized, and the fault says what. -/
theorem build_of_asked {call : Caller ρ} {b : BuilderRef} {s t : Session ρ} {names : List String}
    (asked : call.own b "missing" s = .ok (.list (Value.texts names)) t) (some : names ≠ []) :
    call.build b s = .error (.missingChildren (t.store.className b) (Value.texts names)) t := by
  obtain ⟨name, rest, rfl⟩ := List.exists_cons_of_ne_nil some
  rw [build, bind_of_ok asked]
  rfl

/-- A builder with something missing is not finalized. -/
theorem build_of_missing (depth : Nat) (shows : s.store.Shows b content)
    (incomplete : content.missing ≠ []) :
    (upTo (depth + 1)).build b s =
      .error (.missingChildren content.product.builderName (Value.texts content.missing)) s := by
  rw [build_of_asked (own_missing depth shows) incomplete, shows.className]

/-- Asking a builder to finalize itself is finalizing it. -/
theorem own_build (depth : Nat) (shows : s.store.Shows b content) :
    (upTo (depth + 2)).own b "build" s = (upTo (depth + 1)).build b s := by
  obtain ⟨owner, resolved⟩ : ∃ owner,
      Standard.classes.resolve content.product.builderId "build" =
        some (owner, .method .build) := by
    cases content <;> exact ⟨_, rfl⟩
  rw [own_member _ shows (by decide) resolved (by simp)]
  rfl

/-! ### Gathering -/

/-- A value put behind the children of a flow builder is gathered. -/
theorem push_content (call : Caller ρ) (shows : s.store.Shows b content) (member : String)
    (flow : member ∈ ["div", "p", "append"])
    (has : content.IsFlow) (made : Value) :
    ∃ after, call.push b made s = .ok () { s with store := after } ∧
      s.store.Gathered b content member made after := by
  obtain ⟨children, kept, part⟩ : ∃ children,
      ("_children", .list children) ∈ content.attributes ∧
        ∀ entry ∈ (content.got member made).attributes,
          entry = ("_children", .list (children ++ [made])) ∨
            entry.1 ≠ "_children" ∧ entry ∈ content.attributes := by
    cases content with
    | document first second => rcases has with has | has <;> cases has
    | head title => rcases has with has | has <;> cases has
    | body children =>
        refine ⟨children, .head _, ?_⟩
        rw [Content.got, if_pos flow]
        simp [Content.attributes]
    | division children ident className =>
        refine ⟨children, .head _, ?_⟩
        rw [Content.got, if_pos flow]
        simp [Content.attributes]
  refine ⟨s.store.assign b "_children" (.list (children ++ [made])), ?_, ⟨_, _, rfl⟩, ?_⟩
  · rw [push, bind_of_ok (call.read_content shows kept)]
    rfl
  · exact shows.assign_part (by decide) (by decide) (Content.product_got _ _ _) part

/-- Assigning an attribute of the library's builders is nothing but that. -/
theorem write_attribute (shows : s.store.Shows b content) (own : name ∈ attributeNames)
    (value : Value) : s.store.write b name value = .ok (s.store.assign b name value) :=
  Store.write_eq_assign shows.builder shows.ordinary.ordinary.write
    (Store.property?_of_not_member (shows.member?_attribute own))
    (fun same => by subst same; revert own; decide)
    (fun same => by subst same; revert own; decide) value

/-- An element kept in a slot is gathered. -/
theorem perform_write (shows : s.store.Shows b content) (own : name ∈ attributeNames)
    (value : Value) :
    (perform fun store => store.write b name value : BuildM ρ Unit) s =
      .ok () { s with store := s.store.assign b name value } := by
  rw [perform_apply, write_attribute shows own]

/-- What an opener of the library attaches is gathered. -/
theorem attach_content (call : Caller ρ) (shows : s.store.Shows b content) {element : String}
    {target : Target} {attachment : Attachment}
    (opener : (element, .opener target attachment) ∈ content.members) (made : Value) :
    ∃ after, call.attach b element made attachment s = .ok () { s with store := after } ∧
      s.store.Gathered b content element made after := by
  -- A slot keeps the element in an attribute of its own; the others are put behind the
  -- children.
  cases content with
  | document first second =>
      simp [Content.members] at opener
      rcases opener with ⟨rfl, rfl, rfl⟩ | ⟨rfl, rfl, rfl⟩
      · refine ⟨s.store.assign b "_head" made, perform_write shows (by decide) made,
          ⟨_, _, rfl⟩, ?_⟩
        exact shows.assign_part (by decide) (by decide) rfl
          (by simp [Content.attributes, Content.got])
      · refine ⟨s.store.assign b "_body" made, perform_write shows (by decide) made,
          ⟨_, _, rfl⟩, ?_⟩
        exact shows.assign_part (by decide) (by decide) rfl
          (by simp [Content.attributes, Content.got])
  | head title => simp [Content.members] at opener
  | body children =>
      simp [Content.members] at opener
      obtain ⟨rfl, rfl, rfl⟩ := opener
      exact call.push_content shows "div" (by decide) (.inl rfl) made
  | division children ident className =>
      simp [Content.members] at opener
      obtain ⟨rfl, rfl, rfl⟩ := opener
      exact call.push_content shows "div" (by decide) (.inr rfl) made

/-- A paragraph added to a flow builder is gathered. -/
theorem paragraph_content (call : Caller ρ) (shows : s.store.Shows b content)
    (has : content.IsFlow) (value : Value) :
    ∃ after, call.paragraph b value s = .ok (.paragraph value) { s with store := after } ∧
      s.store.Gathered b content "p" (.node (.paragraph value)) after := by
  obtain ⟨after, pushed, gathered⟩ :=
    call.push_content shows "p" (by decide) has (.node (.paragraph value))
  exact ⟨after, by rw [paragraph, bind_of_ok pushed]; rfl, gathered⟩

/-- An element appended to a flow builder is gathered. -/
theorem append_content (call : Caller ρ) (shows : s.store.Shows b content)
    (has : content.IsFlow) (node : Node) :
    ∃ after, call.append b node s = .ok node { s with store := after } ∧
      s.store.Gathered b content "append" (.node node) after := by
  obtain ⟨after, pushed, gathered⟩ :=
    call.push_content shows "append" (by decide) has (.node node)
  exact ⟨after, by rw [append, bind_of_ok pushed]; rfl, gathered⟩

/-- A title given to the builder of a head is gathered. -/
theorem title_content (call : Caller ρ) (shows : s.store.Shows b content)
    (has : content.product = .head) (value : Value) :
    ∃ after, call.title b value s = .ok (.node (.title value)) { s with store := after } ∧
      s.store.Gathered b content "title" (.node (.title value)) after := by
  cases content with
  | head title =>
      have gathered : (s.store.assign b "_title" (.node (.title value))).Shows b
          (.head (.node (.title value))) :=
        shows.assign_part (by decide) (by decide) rfl (by simp [Content.attributes])
      refine ⟨_, ?_, ⟨_, _, rfl⟩, gathered⟩
      rw [Caller.title, bind_of_ok (perform_write shows (by decide) _)]
      exact call.readValue_content gathered (.head _)
  | document first second => cases has
  | body children => cases has
  | division children ident className => cases has

end Caller

end ScopedHtml
