import ScopedHtml.Proofs.Calls
import ScopedHtml.Script.Run

/-!
# ScopedHtml.Proofs.History

**Builders and the trace.** A script leaves an entry for each of its steps when the step
ends. The entries about a builder are its `history`: the members called on it that have
answered with an element, and the attributes assigned to it. `Content.after` folds a
history into what the builder has gathered by then, starting from what it was created
with.

`Tracked made trace s` says that this is so of all builders in a session: each was created
with options of which `made` knows, and shows the fold of its history in `trace`. It
mentions the trace by itself, since between the end of a call and its entry the builders
are ahead of what is recorded. Every change that the library's builders can undergo keeps
it or brings it in step with the next entry.
-/

namespace ScopedHtml

/-! ### Histories -/

/-- Something that was done to a builder. -/
inductive Deed
  /-- A member of this name was called on it and has answered with an element. -/
  | got (member : String) (node : Node)
  /-- An attribute was assigned. -/
  | set (name : String) (value : Value)

/-- What a call was that has answered: only what has answered with an element has done
anything. -/
def Deed.ofAnswer? (member : String) : Value → Option Deed
  | .node node => some (.got member node)
  | _ => none

namespace Script

/-- The step without the name that its answer is bound to. -/
def Step.core : Step → Step
  | .named _ step => step.core
  | step => step

/-- Whether a step may do something to the builder that it is about. -/
def Step.acts : Step → Bool
  | .call _ _ _ _ => true
  | .set _ _ _ => true
  | _ => false

/-- What an entry says was done to a builder. What has failed has done nothing. -/
def Entry.deed? (b : BuilderRef) (entry : Entry) : Option Deed :=
  match entry.step.core, entry.target, entry.result with
  | .call _ member _ _, some c, .ok (.found (.value value)) =>
      if c = b then Deed.ofAnswer? member value else none
  | .set _ name value, some c, .ok _ => if c = b then some (.set name value) else none
  | _, _, _ => none

/-- What a trace says was done to a builder, in the order in which it ended. -/
def history (b : BuilderRef) (trace : List Entry) : List Deed := trace.filterMap (Entry.deed? b)

end Script

namespace Deed

/-- The element that was added to the children, if one was. -/
def added? : Deed → Option Value
  | got member node => if member ∈ ["div", "p", "append"] then some (.node node) else none
  | set _ _ => none

/-- The element that a member has answered with. -/
def answered? (member : String) : Deed → Option Value
  | got other node => if other = member then some (.node node) else none
  | set _ _ => none

/-- The value that was assigned to an attribute. -/
def assigned? (name : String) : Deed → Option Value
  | got _ _ => none
  | set other value => if other = name then some value else none

/-- The last value that a history yields; `otherwise` if it yields none. -/
def last (yield : Deed → Option Value) (otherwise : Value) (deeds : List Deed) : Value :=
  (deeds.filterMap yield).getLast?.getD otherwise

theorem last_cons (yield : Deed → Option Value) (otherwise : Value) (deed : Deed)
    (rest : List Deed) :
    last yield otherwise (deed :: rest) = last yield ((yield deed).getD otherwise) rest := by
  unfold last
  cases here : yield deed with
  | none => rw [List.filterMap_cons_none here, Option.getD_none]
  | some value =>
      rw [List.filterMap_cons_some here, List.getLast?_cons]
      rfl

theorem filterMap_added_cons (deed : Deed) (rest : List Deed) :
    (deed :: rest).filterMap added? = deed.added?.toList ++ rest.filterMap added? := by
  cases here : deed.added? with
  | none => rw [List.filterMap_cons_none here]; rfl
  | some value => rw [List.filterMap_cons_some here]; rfl

end Deed

/-! ### What a history comes to -/

namespace Content

/-- The content after an attribute was assigned. -/
def assigned (name : String) (value : Value) : Content → Content
  | .division children ident className =>
      if name = "id" then .division children value className
      else if name = "class_name" then .division children ident value
      else .division children ident className
  | other => other

/-- The content after something was done. -/
def done (content : Content) : Deed → Content
  | .got member node => content.got member (.node node)
  | .set name value => content.assigned name value

/-- The content after all of a history. -/
def after (deeds : List Deed) (content : Content) : Content := deeds.foldl done content

theorem after_cons (deed : Deed) (rest : List Deed) (content : Content) :
    content.after (deed :: rest) = (content.done deed).after rest := rfl

theorem after_append (deeds others : List Deed) (content : Content) :
    content.after (deeds ++ others) = (content.after deeds).after others :=
  List.foldl_append

@[simp] theorem product_assigned (content : Content) (name : String) (value : Value) :
    (content.assigned name value).product = content.product := by
  cases content with
  | division children ident className =>
      rw [assigned]
      split
      · rfl
      · split <;> rfl
  | _ => rfl

@[simp] theorem product_after (deeds : List Deed) (content : Content) :
    (content.after deeds).product = content.product := by
  induction deeds generalizing content with
  | nil => rfl
  | cons deed rest ih =>
      rw [after_cons, ih]
      cases deed with
      | got member node => exact product_got _ _ _
      | set name value => exact product_assigned _ _ _

/-! One deed, and then all of them, for each kind of builder. -/

theorem done_document (first second : Value) (deed : Deed) :
    (Content.document first second).done deed =
      .document ((deed.answered? "head").getD first) ((deed.answered? "body").getD second) := by
  cases deed with
  | set name value => rfl
  | got member node =>
      rw [done, got, Deed.answered?, Deed.answered?]
      by_cases head : member = "head"
      · have body : member ≠ "body" := by rw [head]; decide
        rw [if_pos head, if_pos head, if_neg body]
        rfl
      · rw [if_neg head, if_neg head]
        split <;> rfl

theorem done_head (title : Value) (deed : Deed) :
    (Content.head title).done deed = .head ((deed.answered? "title").getD title) := by
  cases deed with
  | set name value => rfl
  | got member node =>
      rw [done, got, Deed.answered?]
      split <;> rfl

theorem done_body (children : List Value) (deed : Deed) :
    (Content.body children).done deed = .body (children ++ deed.added?.toList) := by
  cases deed with
  | set name value => simp [done, assigned, Deed.added?]
  | got member node =>
      rw [done, got, Deed.added?]
      split
      · rfl
      · simp

theorem done_division (children : List Value) (ident className : Value) (deed : Deed) :
    (Content.division children ident className).done deed =
      .division (children ++ deed.added?.toList) ((deed.assigned? "id").getD ident)
        ((deed.assigned? "class_name").getD className) := by
  cases deed with
  | set name value =>
      rw [done, assigned, Deed.assigned?, Deed.assigned?, Deed.added?]
      by_cases ident : name = "id"
      · have other : name ≠ "class_name" := by rw [ident]; decide
        rw [if_pos ident, if_pos ident, if_neg other]
        simp
      · rw [if_neg ident, if_neg ident]
        split <;> simp
  | got member node =>
      rw [done, got, Deed.added?]
      split
      · rfl
      · simp [Deed.assigned?]

theorem after_document (deeds : List Deed) (first second : Value) :
    (Content.document first second).after deeds =
      .document (Deed.last (Deed.answered? "head") first deeds)
        (Deed.last (Deed.answered? "body") second deeds) := by
  induction deeds generalizing first second with
  | nil => rfl
  | cons deed rest ih => rw [after_cons, done_document, ih, Deed.last_cons, Deed.last_cons]

theorem after_head (deeds : List Deed) (title : Value) :
    (Content.head title).after deeds =
      .head (Deed.last (Deed.answered? "title") title deeds) := by
  induction deeds generalizing title with
  | nil => rfl
  | cons deed rest ih => rw [after_cons, done_head, ih, Deed.last_cons]

theorem after_body (deeds : List Deed) (children : List Value) :
    (Content.body children).after deeds = .body (children ++ deeds.filterMap Deed.added?) := by
  induction deeds generalizing children with
  | nil => simp [after]
  | cons deed rest ih =>
      rw [after_cons, done_body, ih, List.append_assoc, Deed.filterMap_added_cons]

theorem after_division (deeds : List Deed) (children : List Value) (ident className : Value) :
    (Content.division children ident className).after deeds =
      .division (children ++ deeds.filterMap Deed.added?)
        (Deed.last (Deed.assigned? "id") ident deeds)
        (Deed.last (Deed.assigned? "class_name") className deeds) := by
  induction deeds generalizing children ident className with
  | nil => simp [after, Deed.last]
  | cons deed rest ih =>
      rw [after_cons, done_division, ih, List.append_assoc, Deed.filterMap_added_cons,
        Deed.last_cons, Deed.last_cons]

end Content

/-- What a builder holds that makes elements of some kind, was created with options and has
this history. -/
def Store.HoldsFold (store : Store) (b : BuilderRef) (options : Options) (deeds : List Deed) :
    Product → Prop
  | .document =>
      store.held? b "_head" = some (Deed.last (Deed.answered? "head") .null deeds) ∧
        store.held? b "_body" = some (Deed.last (Deed.answered? "body") .null deeds)
  | .head => store.held? b "_title" = some (Deed.last (Deed.answered? "title") .null deeds)
  | .body => store.held? b "_children" = some (.list (deeds.filterMap Deed.added?))
  | .division =>
      store.held? b "_children" = some (.list (deeds.filterMap Deed.added?)) ∧
        store.held? b "id" = some (Deed.last (Deed.assigned? "id")
          ((options.lookup "id").getD .null) deeds) ∧
        store.held? b "class_name" = some (Deed.last (Deed.assigned? "class_name")
          ((options.lookup "class_").getD .null) deeds)

theorem Store.Shows.holdsFold {store : Store} {b : BuilderRef} {product : Product}
    {options : Options} {deeds : List Deed}
    (shows : store.Shows b ((product.start options).after deeds)) :
    store.HoldsFold b options deeds product := by
  have held := shows.held
  cases product with
  | document =>
      rw [Product.start, Content.after_document] at held
      exact ⟨held _ _ (.head _), held _ _ (.tail _ (.head _))⟩
  | head =>
      rw [Product.start, Content.after_head] at held
      exact held _ _ (.head _)
  | body =>
      rw [Product.start, Content.after_body, List.nil_append] at held
      exact held _ _ (.head _)
  | division =>
      rw [Product.start, Content.after_division, List.nil_append] at held
      exact ⟨held _ _ (.head _), held _ _ (.tail _ (.head _)),
        held _ _ (.tail _ (.tail _ (.head _)))⟩

/-- A builder to which an identifier or a class is assigned shows it, if it makes
divisions. -/
theorem Store.Shows.assigned {store : Store} {b : BuilderRef} {content : Content} {name : String}
    (shows : store.Shows b content) (own : name = "id" ∨ name = "class_name") (value : Value) :
    (store.assign b name value).Shows b (content.assigned name value) := by
  have mine : name ∈ attributeNames := by rcases own with rfl | rfl <;> decide
  have flag : name ≠ "_finalized" := by rcases own with rfl | rfl <;> decide
  have marked : name = "_finalized" → ∃ finalized, value = .bool finalized :=
    fun same => absurd same flag
  cases content with
  | division children ident className =>
      refine shows.assign_part mine flag (Content.product_assigned _ _ _) ?_
      rcases own with rfl | rfl <;> simp [Content.attributes, Content.assigned]
  | document first second =>
      refine shows.assign_aside mine ?_ marked
      rcases own with rfl | rfl <;> simp [Content.attributes]
  | head title =>
      refine shows.assign_aside mine ?_ marked
      rcases own with rfl | rfl <;> simp [Content.attributes]
  | body children =>
      refine shows.assign_aside mine ?_ marked
      rcases own with rfl | rfl <;> simp [Content.attributes]

/-! ### Sessions that a trace explains -/

namespace Script

variable {b : BuilderRef} {trace : List Entry} {entry : Entry}

theorem history_concat (b : BuilderRef) (trace : List Entry) (entry : Entry) :
    history b (trace ++ [entry]) = history b trace ++ (entry.deed? b).toList := by
  unfold history
  rw [List.filterMap_append]
  cases here : entry.deed? b with
  | none => rw [List.filterMap_cons_none here]; rfl
  | some deed => rw [List.filterMap_cons_some here]; rfl

/-- A trace that is not about a builder gives it no history. -/
theorem history_of_untouched (untouched : ∀ entry ∈ trace, entry.target ≠ some b) :
    history b trace = [] := by
  refine List.filterMap_eq_nil_iff.2 ?_
  intro entry inside
  have other := untouched entry inside
  unfold Entry.deed?
  split
  · next target _ => exact if_neg fun same => other (by rw [target, same])
  · next target _ => exact if_neg fun same => other (by rw [target, same])
  · rfl

/-- An entry that says of no builder that anything was done to it that it would show. -/
def Entry.Idle (entry : Entry) : Prop :=
  ∀ (b : BuilderRef) (content : Content), content.after (entry.deed? b).toList = content

namespace Entry.Idle

theorem of_nothing (nothing : ∀ b, entry.deed? b = none) : entry.Idle := by
  intro b content
  rw [nothing b]
  rfl

theorem of_error {fault : Fault} (failed : entry.result = .error fault) : entry.Idle :=
  of_nothing fun b => by
    unfold deed?
    rw [failed]
    split <;> first | rfl | contradiction

theorem of_passive (passive : entry.step.core.acts = false) : entry.Idle :=
  of_nothing fun b => by
    unfold deed?
    split
    · next core _ _ => rw [core] at passive; cases passive
    · next core _ _ => rw [core] at passive; cases passive
    · rfl

end Entry.Idle

/-- Every builder of the session was created with options that `made` knows and shows
what its history in the trace comes to. -/
structure Tracked (made : BuilderRef → ClassId → Options → Prop) (trace : List Entry)
    (s : Session Names) : Prop where
  classes : s.store.classes = Standard.classes
  shows : ∀ b, b.index < s.store.builders.length →
    ∃ (product : Product) (options : Options), made b product.builderId options ∧
      s.store.Shows b ((product.start options).after (history b trace))
  bound : ∀ name b, s.extra.builders.find? name = some b → b.index < s.store.builders.length
  old : ∀ entry ∈ trace, ∀ b, entry.target = some b → b.index < s.store.builders.length

namespace Tracked

variable {made : BuilderRef → ClassId → Options → Prop} {s : Session Names} {content : Content}

theorem library (tracked : Tracked made trace s) : s.store.classes.HasLibrary := by
  rw [tracked.classes]
  exact ClassTable.hasLibrary_standard

theorem classId_inside (tracked : Tracked made trace s) (b : BuilderRef) :
    (s.store.get b).classId.index < Standard.classes.classes.length := by
  by_cases inside : b.index < s.store.builders.length
  · obtain ⟨_, _, _, shows⟩ := tracked.shows b inside
    rw [shows.classId]
    exact Product.inside _
  · rw [Store.get_of_outside inside]
    decide

/-- No builder interferes with the reading of its attributes, and none is a value that
stands in the place of one. -/
theorem plain (tracked : Tracked made trace s) (b : BuilderRef) :
    s.store.ReadsPlainly b ∧ s.store.foreign? b = none := by
  by_cases inside : b.index < s.store.builders.length
  · obtain ⟨_, _, _, shows⟩ := tracked.shows b inside
    exact ⟨shows.readsPlainly, shows.builder⟩
  · have outside := Store.get_of_outside inside
    constructor
    · unfold Store.ReadsPlainly
      rw [outside, tracked.classes]
      exact ⟨rfl, ⟨_, rfl⟩, ⟨_, rfl⟩⟩
    · exact Store.foreign?_of_get outside

/-- A builder that makes elements of some kind shows what its history comes to. -/
theorem shows_of_isA (tracked : Tracked made trace s) {product : Product}
    (isA : s.store.IsA b product) :
    ∃ options, made b product.builderId options ∧
      s.store.Shows b ((product.start options).after (history b trace)) := by
  obtain ⟨other, options, known, shows⟩ := tracked.shows b isA.inside
  -- The class tells what it makes, so the kinds are the same.
  have same : other = product := by
    have eq := shows.classId
    rw [isA.classId, Content.product_after, Content.product_start] at eq
    exact (Product.builderId_injective eq).symm
  subst same
  exact ⟨options, known, shows⟩

/-- No builder can be called like a function. -/
theorem uncalled (tracked : Tracked made trace s) (b : BuilderRef) :
    s.store.hook? b .call = none := by
  have none : ∀ index < Standard.classes.classes.length,
      (Standard.classes.resolve ⟨index⟩ Hook.call.name).isNone = true := by decide
  unfold Store.hook? Store.member?
  rw [tracked.classes]
  exact Option.isNone_iff_eq_none.1 (none _ (tracked.classId_inside b))

/-- A step about a builder that its name is bound to is about one that is there. -/
theorem inside_of_target (tracked : Tracked made trace s) {step : Step}
    (target : step.target? s.extra = some b) : b.index < s.store.builders.length := by
  obtain ⟨name, _, found⟩ := Option.bind_eq_some_iff.1 target
  exact tracked.bound name b found

/-- An entry that tells of nothing that builders would show changes nothing. -/
theorem idle (tracked : Tracked made trace s) (idle : entry.Idle)
    (old : ∀ b, entry.target = some b → b.index < s.store.builders.length) :
    Tracked made (trace ++ [entry]) s where
  classes := tracked.classes
  shows := by
    intro b inside
    rw [history_concat]
    simp only [Content.after_append, idle b]
    exact tracked.shows b inside
  bound := tracked.bound
  old := by
    intro other inside b target
    rcases List.mem_append.1 inside with inside | inside
    · exact tracked.old other inside b target
    · rw [List.mem_singleton.1 inside] at target
      exact old b target

/-- A change to one builder is in step with an entry that says so. -/
theorem deed (tracked : Tracked made trace s) {deed : Deed} {after : Store}
    {product : Product} {options : Options} (known : made b product.builderId options)
    (target : entry.target = some b)
    (about : ∀ c, entry.deed? c = if b = c then some deed else none)
    (shows : after.Shows b (((product.start options).after (history b trace)).done deed))
    (one : ∃ name value, after = s.store.assign b name value) :
    Tracked made (trace ++ [entry]) { s with store := after } := by
  obtain ⟨name, value, rfl⟩ := one
  have length := Store.length_builders_assign s.store b name value
  constructor
  · exact tracked.classes
  · intro c inside
    rw [history_concat, about c]
    simp only [Content.after_append]
    -- The entry tells of `b` only, and only `b` has changed.
    by_cases same : b = c
    · subst same
      rw [if_pos rfl]
      exact ⟨product, options, known, shows⟩
    · rw [if_neg same]
      obtain ⟨product, options, known, shows⟩ := tracked.shows c (length ▸ inside)
      exact ⟨product, options, known, shows.assign_of_ne (Ne.symm same) value⟩
  · intro name c found
    rw [length]
    exact tracked.bound name c found
  · intro other inside c target'
    rw [length]
    rcases List.mem_append.1 inside with inside | inside
    · exact tracked.old other inside c target'
    · rw [List.mem_singleton.1 inside, target] at target'
      cases target'
      rw [← length]
      exact shows.inside

/-- A new builder has no history yet. -/
theorem add (tracked : Tracked made trace s) {product : Product} {options : Options}
    (known : made ⟨s.store.builders.length⟩ product.builderId options) :
    Tracked made trace { s with store := (s.store.add (product.builder options)).2 } := by
  have length : (s.store.add (product.builder options)).2.builders.length =
      s.store.builders.length + 1 := List.length_append
  constructor
  · exact tracked.classes
  · intro c inside
    rw [length] at inside
    by_cases old : c.index < s.store.builders.length
    · obtain ⟨product, options, known, shows⟩ := tracked.shows c old
      exact ⟨product, options, known, shows.add _⟩
    · have new : c = ⟨s.store.builders.length⟩ := by
        cases c
        simp only [BuilderRef.mk.injEq]
        simp only at inside old
        omega
      subst new
      -- Entries are about builders that were there when they were written.
      have untouched : history ⟨s.store.builders.length⟩ trace = [] :=
        history_of_untouched fun entry inside target =>
          Nat.lt_irrefl _ (tracked.old entry inside _ target)
      rw [untouched]
      exact ⟨product, options, known, Store.shows_add_new tracked.library product options⟩
  · intro name c found
    rw [length]
    exact Nat.lt_succ_of_lt (tracked.bound name c found)
  · intro entry inside c target
    rw [length]
    exact Nat.lt_succ_of_lt (tracked.old entry inside c target)

/-- Finalizing a builder does not change what it has gathered. -/
theorem finalizedInto (tracked : Tracked made trace s) (b : BuilderRef) (node : Node) :
    Tracked made trace { s with store := s.store.finalizedInto b node } := by
  have length : (s.store.finalizedInto b node).builders.length = s.store.builders.length :=
    Store.length_builders_assign _ _ _ _
  constructor
  · exact tracked.classes
  · intro c inside
    obtain ⟨product, options, known, shows⟩ := tracked.shows c (length ▸ inside)
    exact ⟨product, options, known, shows.finalizedInto b node⟩
  · intro name c found
    rw [length]
    exact tracked.bound name c found
  · intro entry inside c target
    rw [length]
    exact tracked.old entry inside c target

/-- Builders do not depend on what a script has bound, but names must be bound to builders
that are there. -/
theorem names (tracked : Tracked made trace s) {extra : Names}
    (bound : ∀ name b, extra.builders.find? name = some b →
      b.index < s.store.builders.length) :
    Tracked made trace { s with extra } :=
  ⟨tracked.classes, tracked.shows, bound, tracked.old⟩

end Tracked

end Script

end ScopedHtml
