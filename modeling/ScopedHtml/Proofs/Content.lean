import ScopedHtml.Proofs.Ordinary

/-!
# ScopedHtml.Proofs.Content

**What the library's own builders have gathered.** A builder of one of the four classes
that make elements has gathered a `Content`, and `Store.Shows store b content` says so of
the attributes that it has. Assignments to other attributes and to other builders do not
matter to it; an assignment to one of its own replaces a part of the content
(`Store.Shows.assign_part`).

The library's classes are the same in every table that has them
(`ClassTable.HasLibrary`), so what is said here holds beside any further classes.
-/

namespace ScopedHtml

/-- What is found under a key is in the table. -/
theorem Bindings.mem_of_findIn {κ α : Type} [DecidableEq κ] {key : κ} {value : α} :
    ∀ {entries : List (κ × α)}, findIn key entries = some value → (key, value) ∈ entries
  | (k, a) :: rest, found => by
      rw [findIn] at found
      split at found
      · next same => cases found; subst same; exact List.mem_cons_self
      · exact List.mem_cons_of_mem _ (mem_of_findIn found)

/-- What is found after binding a key has been bound or was there. -/
theorem Bindings.find?_bind_eq_some {κ α : Type} [DecidableEq κ] {table : Bindings κ α}
    {key other : κ} {value found : α} (h : (table.bind key value).find? other = some found) :
    other = key ∧ found = value ∨ table.find? other = some found := by
  by_cases same : other = key
  · subst same
    rw [find?_bind_self] at h
    exact .inl ⟨rfl, (Option.some.inj h).symm⟩
  · rw [find?_bind_of_ne _ same] at h
    exact .inr h

/-! ### What builders gather -/

/-- What a builder of a class that makes elements has gathered. -/
inductive Content
  | document (head body : Value)
  | head (title : Value)
  | body (children : List Value)
  | division (children : List Value) (ident className : Value)

namespace Product

/-- The library's class whose builders make this kind of element. -/
def builderId : Product → ClassId
  | document => Standard.documentBuilder
  | head => Standard.headBuilder
  | body => Standard.bodyBuilder
  | division => Standard.divBuilder

/-- The name of that class. -/
def builderName : Product → String
  | document => "DocumentBuilder"
  | head => "HeadBuilder"
  | body => "BodyBuilder"
  | division => "DivBuilder"

/-- What a new builder has gathered that was created with options. -/
def start (options : Options) : Product → Content
  | document => .document .null .null
  | head => .head .null
  | body => .body []
  | division =>
      .division [] ((options.lookup "id").getD .null) ((options.lookup "class_").getD .null)

/-- What creating a builder takes. The builders of bodies start as all flow builders. -/
def signature : Product → Signature
  | document => ⟨"DocumentBuilder.__init__", [], "self"⟩
  | head => ⟨"HeadBuilder.__init__", [], "self"⟩
  | body => ⟨"FlowBuilder.__init__", [], "self"⟩
  | division => ⟨"DivBuilder.__init__", [⟨"id", false⟩, ⟨"class_", false⟩], "self"⟩

end Product

namespace Content

/-- The kind of element that a content is for. -/
def product : Content → Product
  | .document _ _ => .document
  | .head _ => .head
  | .body _ => .body
  | .division _ _ _ => .division

/-- The element with this content. -/
def node : Content → Node
  | .document first second => .document first second
  | .head title => .head title
  | .body children => .body children
  | .division children ident className => .division children ident className

/-- The attributes that keep a content. -/
def attributes : Content → List (String × Value)
  | .document first second => [("_head", first), ("_body", second)]
  | .head title => [("_title", title)]
  | .body children => [("_children", .list children)]
  | .division children ident className =>
      [("_children", .list children), ("id", ident), ("class_name", className)]

/-- The names of the required parts. -/
def required : Content → List String
  | .document _ _ => ["head", "body"]
  | .head _ => ["title"]
  | _ => []

/-- The names of the required parts that are missing. -/
def missing : Content → List String
  | .document first second =>
      (if first.isNull then ["head"] else []) ++ (if second.isNull then ["body"] else [])
  | .head title => if title.isNull then ["title"] else []
  | _ => []

/-- The content after a member of this name has answered with an element. -/
def got (member : String) (made : Value) : Content → Content
  | .document first second =>
      if member = "head" then .document made second
      else if member = "body" then .document first made
      else .document first second
  | .head title => if member = "title" then .head made else .head title
  | .body children =>
      if member ∈ ["div", "p", "append"] then .body (children ++ [made]) else .body children
  | .division children ident className =>
      if member ∈ ["div", "p", "append"] then .division (children ++ [made]) ident className
      else .division children ident className

/-- The members of public names that a builder with this content has. -/
def members (content : Content) : List (String × Member) :=
  (match content with
    | .document _ _ =>
        [("head", .opener (.fixed Standard.headBuilder) .slot),
          ("body", .opener (.fixed Standard.bodyBuilder) .slot)]
    | .head _ => [("title", .method .title)]
    | _ =>
        [("children", .property .children),
          ("div", .opener (.fixed Standard.divBuilder) .append), ("p", .method .paragraph),
          ("append", .method .append)]) ++
    [("elements", .method .elements), ("is_finalized", .property .isFinalized),
      ("missing", .method .missing), ("build", .method .build)]

/-- Whether a builder with this content has children. -/
def IsFlow (content : Content) : Prop :=
  content.product = .body ∨ content.product = .division

theorem isFlow_of_mem {content : Content} {name : String} {member : Member}
    (has : (name, member) ∈ content.members) (adds : name ∈ ["div", "p", "append"]) :
    content.IsFlow := by
  cases content with
  | document first second =>
      have none : ∀ entry ∈ (document first second).members,
          entry.1 ∉ ["div", "p", "append"] := by simp [members]
      exact absurd adds (none _ has)
  | head title =>
      have none : ∀ entry ∈ (head title).members, entry.1 ∉ ["div", "p", "append"] := by
        simp [members]
      exact absurd adds (none _ has)
  | body children => exact .inl rfl
  | division children ident className => exact .inr rfl

/-- Members are a matter of the class. -/
theorem members_congr {content other : Content} (same : content.product = other.product) :
    content.members = other.members := by
  cases content <;> cases other <;> first | rfl | cases same

theorem data_not_mem_members (content : Content) (name : String) (value : Value) :
    (name, .data value) ∉ content.members := by
  cases content <;> simp [members]

@[simp] theorem product_got (content : Content) (member : String) (made : Value) :
    (content.got member made).product = content.product := by
  cases content with
  | document first second =>
      rw [got]
      split
      · rfl
      · split <;> rfl
  | head title => rw [got]; split <;> rfl
  | body children => rw [got]; split <;> rfl
  | division children ident className => rw [got]; split <;> rfl

@[simp] theorem product_start (product : Product) (options : Options) :
    (product.start options).product = product := by
  cases product <;> rfl

end Content

/-! ### The library's classes in any table that has them -/

namespace ClassTable

variable {table : ClassTable} {id : ClassId} {name : String}

/-- Rows of classes that two tables agree on, as far as a name goes, have the same under it. -/
theorem resolveAlong_congr {other : ClassTable} :
    ∀ {row : List ClassId},
      (∀ c ∈ row, (table.get c).members.find? name = (other.get c).members.find? name) →
      table.resolveAlong name row = other.resolveAlong name row
  | [], _ => rfl
  | id :: rest, same => by
      rw [resolveAlong, resolveAlong, same id (by simp),
        resolveAlong_congr fun c inside => same c (List.mem_cons_of_mem id inside)]

/-- Rows of classes that two tables agree on, as far as registers go, inherit the same one. -/
theorem inheritedRegistry_congr {other : ClassTable} {row : List ClassId}
    (same : ∀ c ∈ row,
      (table.get c).members.find? registerName = (other.get c).members.find? registerName) :
    table.inheritedRegistry row = other.inheritedRegistry row := by
  unfold inheritedRegistry
  rw [resolveAlong_congr same]

/-- Behind the library's classes there are only the library's classes. -/
theorem line_of_library :
    ∀ index < Standard.classes.classes.length, ∀ c ∈ Standard.classes.line ⟨index⟩,
      c.index < Standard.classes.classes.length := by
  decide

theorem HasLibrary.line (library : table.HasLibrary)
    (inside : id.index < Standard.classes.classes.length) :
    table.line id = Standard.classes.line id :=
  line_congr (library id inside)

/-- The library's classes have the members that they have at the start. -/
theorem HasLibrary.resolve (library : table.HasLibrary)
    (inside : id.index < Standard.classes.classes.length) (name : String) :
    table.resolve id name = Standard.classes.resolve id name := by
  unfold ClassTable.resolve
  rw [library.line inside]
  exact resolveAlong_congr fun c behind => by rw [library c (line_of_library _ inside c behind)]

/-- Their builders start with what they start with at the start. -/
theorem HasLibrary.startHeld (library : table.HasLibrary)
    (inside : id.index < Standard.classes.classes.length) (starter : Starter) (given : Options) :
    table.startHeld id starter given = Standard.classes.startHeld id starter given := by
  refine startHeld_congr (library.line inside) (fun c behind => ?_) starter given
  rw [library.line inside] at behind
  rw [library c (line_of_library _ inside c behind)]

theorem hasLibrary_standard : Standard.classes.HasLibrary := fun _ _ => rfl

end ClassTable

namespace Product

variable {table : ClassTable}

theorem inside (product : Product) :
    product.builderId.index < Standard.classes.classes.length := by
  cases product <;> decide

theorem builderId_injective {product other : Product} (same : product.builderId = other.builderId) :
    product = other := by
  cases product <;> cases other <;> first | rfl | (revert same; decide)

/-- The library's classes keep clear of what they have themselves. -/
theorem keepsClear (product : Product) (library : table.HasLibrary) (names : List String) :
    table.KeepsClear product.builderId names where
  builder := by
    rw [library.line product.inside]
    cases product <;> decide
  base := by
    intro name _
    rw [library Standard.builderBase (by decide)]
    rfl
  clear := by
    intro c behind name _ member found
    rw [library.line product.inside] at behind
    have inside := ClassTable.line_of_library _ product.inside c behind
    rw [library c inside] at found
    exact ⟨_, Standard.get_mem inside, found⟩

theorem name_get (product : Product) (library : table.HasLibrary) :
    (table.get product.builderId).name = product.builderName := by
  rw [library _ product.inside]
  cases product <;> rfl

end Product

/-- What the library's classes have under a public name. -/
theorem Content.mem_members {content : Content} {name : String} (shown : isPrivate name = false)
    {owner : ClassId} {member : Member}
    (resolved : Standard.classes.resolve content.product.builderId name = some (owner, member)) :
    (name, member) ∈ content.members := by
  have all : content.members =
      (Standard.classes.line content.product.builderId).flatMap fun c =>
        (Standard.classes.get c).members.entries.filter fun entry => !isPrivate entry.1 := by
    cases content <;> rfl
  -- The members are those of the classes in line, so what the line is resolved to is one of
  -- them.
  obtain ⟨behind, found⟩ := ClassTable.resolveAlong_eq_some resolved
  rw [all]
  refine List.mem_flatMap.2 ⟨owner, behind, List.mem_filter.2 ⟨?_, by simp [shown]⟩⟩
  exact Bindings.mem_of_findIn found

/-! ### Builders that show what they have gathered -/

/-- None of them is the name of a member. -/
theorem Product.resolve_attribute (product : Product) :
    ∀ name ∈ attributeNames, Standard.classes.resolve product.builderId name = none := by
  intro name own
  have none : ∀ name ∈ attributeNames,
      (Standard.classes.resolve product.builderId name).isNone = true := by
    cases product <;> decide
  exact Option.isNone_iff_eq_none.1 (none name own)

/-- The library's classes are ordinary wherever they are. -/
theorem Product.ordinary {table : ClassTable} (product : Product) (library : table.HasLibrary) :
    table.Ordinary product.builderId := by
  refine (product.keepsClear library workingNames).ordinary fun name own owner property computed => ?_
  rw [library.resolve product.inside, product.resolve_attribute name own] at computed
  cases computed

theorem Content.mem_attributeNames {content : Content} {name : String} {value : Value}
    (kept : (name, value) ∈ content.attributes) : name ∈ attributeNames := by
  have all : ∀ name ∈ content.attributes.map (·.1), name ∈ attributeNames := by
    cases content <;> (simp only [Content.attributes, List.map]; decide)
  exact all name (List.mem_map_of_mem kept)

/-- A builder of the class whose builders make elements of some kind. -/
structure Store.IsA (store : Store) (b : BuilderRef) (product : Product) : Prop where
  inside : b.index < store.builders.length
  classId : (store.get b).classId = product.builderId

/-- A builder of one of the library's classes that has gathered `content`. -/
structure Store.Shows (store : Store) (b : BuilderRef) (content : Content) : Prop where
  inside : b.index < store.builders.length
  library : store.classes.HasLibrary
  builder : store.foreign? b = none
  classId : (store.get b).classId = content.product.builderId
  held : ∀ name value, (name, value) ∈ content.attributes → store.held? b name = some value
  flag : ∃ finalized, store.held? b "_finalized" = some (.bool finalized)
  only : ∀ name, name ∉ attributeNames → store.held? b name = none

namespace Store.Shows

variable {store : Store} {b c : BuilderRef} {content : Content} {name : String}

theorem isA (shows : store.Shows b content) : store.IsA b content.product :=
  ⟨shows.inside, shows.classId⟩

theorem member? (shows : store.Shows b content) (name : String) :
    store.member? b name = Standard.classes.resolve content.product.builderId name := by
  rw [member?_of_classId shows.classId, shows.library.resolve content.product.inside]

theorem className (shows : store.Shows b content) :
    store.className b = content.product.builderName := by
  unfold Store.className
  rw [shows.builder, shows.classId, content.product.name_get shows.library]

/-- What keeps a content is no member of a class. -/
theorem member?_attribute (shows : store.Shows b content) (own : name ∈ attributeNames) :
    store.member? b name = none := by
  rw [shows.member?]
  exact content.product.resolve_attribute name own

theorem ordinary (shows : store.Shows b content) : store.Ordinary b where
  builder := shows.builder
  ordinary := by
    rw [shows.classId]
    exact content.product.ordinary shows.library
  product := by
    refine ⟨content.product.builderId, content.product, ?_⟩
    rw [shows.member?]
    cases content <;> rfl

theorem readsPlainly (shows : store.Shows b content) : store.ReadsPlainly b :=
  shows.ordinary.readsPlainly

/-- What a member is found as. -/
theorem kept?_member (shows : store.Shows b content) {origin : ClassId × Member}
    (others : name ∉ attributeNames)
    (member : Standard.classes.resolve content.product.builderId name = some origin) :
    store.kept? b name = some (store.found name origin) :=
  kept?_of_member (shows.only name others) (by rw [shows.member?, member])

/-- A builder that is there is not the next one. -/
theorem ne_new (shows : store.Shows b content) : b ≠ ⟨store.builders.length⟩ := by
  intro same
  have inside := shows.inside
  rw [same] at inside
  exact Nat.lt_irrefl _ inside

/-! #### What does not matter to a builder -/

/-- A builder shows what it has gathered in any store that keeps the classes and that
builder. -/
theorem of_get_eq {other : Store} (shows : store.Shows b content)
    (classes : other.classes = store.classes) (inside : b.index < other.builders.length)
    (same : other.get b = store.get b) : other.Shows b content where
  inside := inside
  library := by rw [classes]; exact shows.library
  builder := (foreign?_of_get same).trans shows.builder
  classId := by rw [same]; exact shows.classId
  held := fun name value kept => (held?_of_get same name).trans (shows.held name value kept)
  flag := shows.flag.imp fun _ => (held?_of_get same _).trans
  only := fun name others => (held?_of_get same name).trans (shows.only name others)

theorem logged (shows : store.Shows b content) (event : Log.Event) :
    (store.logged event).Shows b content :=
  shows.of_get_eq rfl shows.inside rfl

theorem add (shows : store.Shows b content) (builder : Builder) :
    (store.add builder).2.Shows b content := by
  refine shows.of_get_eq rfl ?_ (get_add_of_lt shows.inside builder)
  show b.index < (store.builders ++ [builder]).length
  have := shows.inside
  rw [List.length_append]
  omega

theorem assign_of_ne (shows : store.Shows b content) (other : b ≠ c) (value : Value) :
    (store.assign c name value).Shows b content :=
  shows.of_get_eq rfl (by rw [length_builders_assign]; exact shows.inside)
    (get_assign_of_ne store other name value)

/-- A builder to which something is assigned shows whatever its attributes then say. -/
theorem assign {value : Value} {next : Content} (shows : store.Shows b content)
    (own : name ∈ attributeNames) (product : next.product = content.product)
    (held : ∀ other kept, (other, kept) ∈ next.attributes →
      (store.assign b name value).held? b other = some kept)
    (flag : ∃ finalized, (store.assign b name value).held? b "_finalized" =
      some (.bool finalized)) :
    (store.assign b name value).Shows b next where
  inside := by rw [length_builders_assign]; exact shows.inside
  library := shows.library
  builder := by rw [foreign?_assign]; exact shows.builder
  classId := by rw [classId_assign, product]; exact shows.classId
  held := held
  flag := flag
  only := by
    intro other outside
    have ne : other ≠ name := fun same => outside (same ▸ own)
    rw [held?_assign_of_ne_name store b ne]
    exact shows.only other outside

/-- An attribute that keeps nothing of the content can be anything, the mark of
finalized builders apart. -/
theorem assign_aside {value : Value} (shows : store.Shows b content)
    (own : name ∈ attributeNames) (aside : ∀ kept, (name, kept) ∉ content.attributes)
    (flag : name = "_finalized" → ∃ finalized, value = .bool finalized) :
    (store.assign b name value).Shows b content := by
  refine shows.assign own rfl ?_ ?_
  · intro other kept inside
    -- What keeps a part of the content is not what is assigned.
    have ne : other ≠ name := fun same => aside kept (same ▸ inside)
    rw [held?_assign_of_ne_name store b ne]
    exact shows.held other kept inside
  · by_cases mark : name = "_finalized"
    · obtain ⟨finalized, rfl⟩ := flag mark
      exact ⟨finalized, by rw [mark, held?_assign_self shows.inside]⟩
    · rw [held?_assign_of_ne_name store b (Ne.symm mark)]
      exact shows.flag

/-- An assignment to what keeps a part of the content replaces that part. -/
theorem assign_part {value : Value} {next : Content} (shows : store.Shows b content)
    (own : name ∈ attributeNames) (flag : name ≠ "_finalized")
    (product : next.product = content.product)
    (part : ∀ entry ∈ next.attributes,
      entry = (name, value) ∨ entry.1 ≠ name ∧ entry ∈ content.attributes) :
    (store.assign b name value).Shows b next := by
  refine shows.assign own product ?_ ?_
  · intro other kept inside
    rcases part (other, kept) inside with same | ⟨ne, same⟩
    · cases same
      exact held?_assign_self shows.inside name value
    · rw [held?_assign_of_ne_name store b ne]
      exact shows.held other kept same
  · rw [held?_assign_of_ne_name store b (Ne.symm flag)]
    exact shows.flag

theorem finalizedInto (shows : store.Shows b content) (c : BuilderRef) (node : Node) :
    (store.finalizedInto c node).Shows b content := by
  refine Shows.logged ?_ _
  by_cases same : b = c
  · subst same
    refine shows.assign_aside (by decide) ?_ fun _ => ⟨true, rfl⟩
    cases content <;> simp [Content.attributes]
  · exact shows.assign_of_ne same _

end Store.Shows

end ScopedHtml
