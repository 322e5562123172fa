import ScopedHtml.Proofs.Depth
import ScopedHtml.Proofs.Leads

/-!
# ScopedHtml.Proofs.ByHand

**A scope does what can be done by hand.** Opening a division comes to the same as
creating a builder of divisions with the options, running the block on it, asking it for
its element and appending that to the parent (`BuilderRef.divByHand`): the same answer or
the same fault, and the same session (`Script.div_eq_byHand`). Whatever the block does, and
whatever classes have been defined before or in it, makes no difference, since nothing can
change what the library's classes have under the names by which builders are worked
(`Store.Leads`).

What an instance has of its own comes before what its class has. So the parent must not
have an attribute of its own under the name of the opener when it is called, nor one
under the name of the method when the element is there
(`Script.div_ne_byHand_of_hidden`).
-/

namespace ScopedHtml

open BuildM

variable {ρ : Type}

/-! ### By hand -/

/-- Makes a division by hand. -/
def makeDivision (init : Option (Init ρ)) (options : Options) : BuildM ρ Value := do
  let child ← create Standard.divBuilder options
  match init with
  | some init => init child
  | none => pure ()
  child.callOwn "build"

/-- Makes a division by hand and appends it to a builder. -/
def BuilderRef.divByHand (b : BuilderRef) (init : Option (Init ρ)) (options : Options) :
    BuildM ρ Value := do
  let made ← makeDivision init options
  b.invoke "append" { first := some (.value made) }

/-- Makes a document by hand. -/
def htmlByHand (init : Init ρ) : BuildM ρ Value := do
  let document ← create Standard.documentBuilder []
  init document
  document.callOwn "build"

/-- A builder whose class has what the library's flow builders have under the names of
divisions and of appending, and has no other way of reading attributes. -/
structure Store.Nests (store : Store) (b : BuilderRef) : Prop where
  inside : b.index < store.builders.length
  there : (store.get b).classId.index < store.classes.classes.length
  unhooked : store.hook? b .read = none
  div : ∃ owner, store.member? b "div" =
    some (owner, .opener (.fixed Standard.divBuilder) .append)
  append : ∃ owner, store.member? b "append" = some (owner, .method .append)

namespace Store

variable {store before after : Store} {b : BuilderRef}

/-- Builders of bodies and of divisions are such. -/
theorem nests_of_flow (sound : store.Sound) (inside : b.index < store.builders.length)
    (flow : (store.get b).classId = Standard.bodyBuilder ∨
      (store.get b).classId = Standard.divBuilder) : store.Nests b := by
  obtain ⟨product, classId, div, append⟩ : ∃ product : Product,
      (store.get b).classId = product.builderId ∧
        (∃ owner, Standard.classes.resolve product.builderId "div" =
          some (owner, .opener (.fixed Standard.divBuilder) .append)) ∧
        ∃ owner, Standard.classes.resolve product.builderId "append" =
          some (owner, .method .append) := by
    rcases flow with body | division
    · exact ⟨.body, body, ⟨_, rfl⟩, ⟨_, rfl⟩⟩
    · exact ⟨.division, division, ⟨_, rfl⟩, ⟨_, rfl⟩⟩
  have member : ∀ name, name ∉ looseNames →
      store.member? b name = Standard.classes.resolve product.builderId name := by
    intro name tight
    rw [member?_of_classId classId, sound.resolve product.inside tight]
  refine ⟨inside, ?_, ?_, ?_, ?_⟩
  · rw [classId]
    exact sound.inside product.inside
  · exact (member Hook.read.name (by decide)).trans
      (product.ordinary ClassTable.hasLibrary_standard).read
  · rw [member "div" (by decide)]
    exact div
  · rw [member "append" (by decide)]
    exact append

theorem Nests.leads (nests : before.Nests b) (sound : before.Sound) (leads : before.Leads after) :
    after.Nests b where
  inside := Nat.lt_of_lt_of_le nests.inside leads.grown.length
  there := by
    rw [leads.grown.classId b nests.inside]
    exact Nat.lt_of_lt_of_le nests.there leads.classes.length
  unhooked := (leads.member? sound nests.inside nests.there (by decide)).trans nests.unhooked
  div := by
    obtain ⟨owner, div⟩ := nests.div
    exact ⟨owner, (leads.member? sound nests.inside nests.there (by decide)).trans div⟩
  append := by
    obtain ⟨owner, append⟩ := nests.append
    exact ⟨owner, (leads.member? sound nests.inside nests.there (by decide)).trans append⟩

end Store

namespace Caller

variable {s : Session ρ} {b : BuilderRef}

/-- Creating a builder of an ordinary class calls nothing: the options are refused, or a builder is
added that has been started with them. -/
theorem create_of_ordinary (call : Caller ρ) {id owner maker : ClassId} {starter : Starter}
    {product : Product} (ordinary : s.store.classes.Ordinary id)
    (start : s.store.classes.hook? id .start = some (owner, .starter starter))
    (make : s.store.classes.resolve id "_make_node" = some (maker, .maker (some product)))
    (options : Options) :
    call.create id options s =
      match s.store.bindOptions owner starter options with
      | .ok given => .ok ⟨s.store.builders.length⟩ { s with
          store := (s.store.add ⟨id, s.store.classes.startHeld id starter given, none⟩).2 }
      | .error fault => .error fault s := by
  have started : s.store.initializer id = .ok (some (owner, .starter starter)) := by
    unfold Store.initializer
    rw [make]
    exact congrArg Except.ok start
  exact call.create_of_plain ordinary.toStartsPlainly ordinary.make started options

/-- What an ordinary builder is finalized into is an element. -/
theorem exists_node_of_own_build {depth : Nat} {t : Session ρ} {made : Value}
    (ordinary : s.store.Ordinary b) (run : (upTo depth).own b "build" s = .ok made t) :
    ∃ node, made = .node node := by
  rcases own_build_cases depth ordinary with ⟨fault, eq⟩ | ⟨node, eq⟩
  · rw [eq] at run
    cases run
  · rw [eq] at run
    cases run
    exact ⟨node, rfl⟩

end Caller

/-! ### Making a division -/

section Making

variable {s t : Session ρ} {b child : BuilderRef} {init : Option (Init ρ)} {options : Options}

/-- In a sound store the library's classes make what they make at the start. -/
theorem Store.Sound.maker {store : Store} (sound : store.Sound) (product : Product) :
    ∃ maker, store.classes.resolve product.builderId "_make_node" =
      some (maker, .maker (some product)) := by
  rw [sound.resolve product.inside (by decide)]
  cases product <;> exact ⟨_, rfl⟩

/-- Creating a builder of one of the library's classes does not depend on the caller. -/
theorem Store.Sound.create_congr (sound : s.store.Sound) (product : Product) (call other : Caller ρ)
    (options : Options) :
    call.create product.builderId options s = other.create product.builderId options s := by
  have ordinary := sound.ordinary product
  obtain ⟨owner, starter, start⟩ := ordinary.start
  obtain ⟨maker, make⟩ := sound.maker product
  rw [call.create_of_ordinary ordinary start make, other.create_of_ordinary ordinary start make]

/-- A new builder of one of the library's classes is ordinary, and is of that class. -/
theorem Store.Sound.of_create (sound : s.store.Sound) (product : Product) {call : Caller ρ}
    (created : call.create product.builderId options s = .ok child t) :
    child.index < t.store.builders.length ∧
      (t.store.get child).classId = product.builderId ∧ t.store.Ordinary child := by
  have ordinary := sound.ordinary product
  obtain ⟨owner, starter, start⟩ := ordinary.start
  obtain ⟨maker, make⟩ := sound.maker product
  rw [call.create_of_ordinary ordinary start make] at created
  split at created
  · next given _ =>
    cases created
    let builder : Builder :=
      ⟨product.builderId, s.store.classes.startHeld product.builderId starter given, none⟩
    have added : (s.store.add builder).2.get ⟨s.store.builders.length⟩ = builder :=
      Store.get_add_new s.store builder
    refine ⟨by simp [Store.add], congrArg Builder.classId added, foreign?_of_get added, ?_, maker,
      product, ?_⟩
    · exact (congrArg Builder.classId added).symm ▸ ordinary
    · exact (member?_of_classId (congrArg Builder.classId added) _).trans make
  · cases created

/-- A function that leads on, if there is one. -/
def LeadsOn (init : Option (Init ρ)) : Prop :=
  ∀ f, init = some f → ∀ child s, (f child).Leads s

theorem leads_makeDivision (h : LeadsOn init) : (makeDivision init options).Leads s := by
  unfold makeDivision
  refine ((leads_call.create _ _).bind ?_).leads
  intro child t _
  cases init with
  | none => exact leads_call.own
  | some f => exact (h f rfl child t).obeys.bind fun _ _ _ => leads_call.own

/-- The scope of a division makes the division that is made by hand. -/
theorem scope_eq_makeDivision (sound : s.store.Sound) (h : LeadsOn init) :
    (Caller.upTo 999).scope "div" (.fixed Standard.divBuilder) (init.map .function) options s =
      makeDivision init options s := by
  have target : s.store.target "div" (.fixed Standard.divBuilder) = .ok Standard.divBuilder := rfl
  rw [Caller.scope, bind_of_ok (query_eq_ok.2 ⟨target, rfl⟩)]
  refine bind_congr_of (sound.create_congr .division _ call options) ?_
  intro child t created
  obtain ⟨inside, classId, ordinary⟩ := sound.of_create .division created
  have leads := ((Caller.leads_upTo 999).create _ _).leads.of_ok created sound
  have there : (t.store.get child).classId.index < t.store.classes.classes.length := by
    rw [classId]
    exact leads.sound.inside Product.division.inside
  -- The builder stays ordinary whatever the function does, so its depth makes no difference.
  have built : ∀ u : Session ρ, t.store.Leads u.store →
      (Caller.upTo 999).own child "build" u = child.callOwn "build" u := fun u later =>
    Caller.own_build_depth 995 996 (ordinary.leads later leads.sound inside there)
  cases init with
  | none => exact built t (.refl leads.sound)
  | some f =>
      refine bind_congr_of rfl ?_
      intro _ u ran
      exact built u ((h f rfl child t).of_ok ran leads.sound)

/-- What is made by hand is an element. -/
theorem exists_node_of_makeDivision (sound : s.store.Sound) (h : LeadsOn init) {made : Value}
    (run : makeDivision init options s = .ok made t) : ∃ node, made = .node node := by
  obtain ⟨child, u, created, run⟩ := bind_eq_ok.1 run
  obtain ⟨inside, classId, ordinary⟩ := sound.of_create .division created
  have leads := (leads_call.create _ _).leads.of_ok created sound
  have there : (u.store.get child).classId.index < u.store.classes.classes.length := by
    rw [classId]
    exact leads.sound.inside Product.division.inside
  cases init with
  | none => exact Caller.exists_node_of_own_build ordinary run
  | some f =>
      obtain ⟨_, v, ran, run⟩ := bind_eq_ok.1 run
      have later := (h f rfl child u).of_ok ran leads.sound
      exact Caller.exists_node_of_own_build (ordinary.leads later leads.sound inside there) run

/-- Appending an element is putting it behind the children. -/
theorem invoke_append_eq_attach (nests : s.store.Nests b) (shown : s.store.held? b "append" = none)
    (node : Node) :
    b.invoke "append" { first := some (.value (.node node)) } s =
      (do
        (Caller.upTo 999).attach b "div" (.node node) .append
        return .node node : BuildM ρ Value) s := by
  obtain ⟨owner, member⟩ := nests.append
  have read : b.read "append" s = .ok (s.store.found "append" (owner, .method .append)) s :=
    Caller.read_of_unhooked nests.unhooked (Store.property?_of_member member (by simp))
      (Store.kept?_of_member shown member)
  rw [BuilderRef.invoke, bind_of_ok read]
  refine (Caller.upTo_method 999 s b (s.store.classes.get owner).name "append" .append
    (by decide) _).trans ?_
  show (((Caller.upTo 999).push b (.node node) >>= fun _ => pure node) >>= fun made =>
    pure (Value.node made)) s = ((Caller.upTo 999).push b (.node node) >>= fun _ =>
      pure (Value.node node)) s
  rw [bind_apply, bind_apply, bind_apply]
  cases (Caller.upTo 999).push b (.node node) s <;> rfl

/-- Opening a division comes to making it by hand and appending it. -/
theorem invoke_div_eq_divByHand (sound : s.store.Sound) (nests : s.store.Nests b)
    (h : LeadsOn init) (opener : s.store.held? b "div" = none)
    (method : ∀ made t, makeDivision init options s = .ok made t →
      t.store.held? b "append" = none) :
    b.invoke "div" { first := init.map .function, options } s =
      b.divByHand init options s := by
  obtain ⟨owner, member⟩ := nests.div
  have read : b.read "div" s = .ok (s.store.found "div" (owner, Opener.div.entry.2)) s :=
    Caller.read_of_unhooked nests.unhooked (Store.property?_of_member member (by simp))
      (Store.kept?_of_member opener member)
  have given : ({ first := init.map .function, options } : Arguments ρ).init? =
      init.map .function := by
    cases init <;> rfl
  rw [BuilderRef.invoke, bind_of_ok read]
  refine (Opener.div.call_eq s b _ _).trans ?_
  rw [given]
  refine bind_congr_of (scope_eq_makeDivision sound h) ?_
  intro made t run
  have leads := (leads_makeDivision h).of_ok ((scope_eq_makeDivision sound h).symm.trans run) sound
  obtain ⟨node, rfl⟩ := exists_node_of_makeDivision sound h
    ((scope_eq_makeDivision sound h).symm.trans run)
  exact (invoke_append_eq_attach (nests.leads sound leads)
    (method _ t ((scope_eq_makeDivision sound h).symm.trans run)) node).symm

end Making

/-! ### Scripts -/

namespace Script

/-- Runs the steps of a block on the builder of a scope, which is bound to a name. -/
def runOn (path : List Nat) (block : String × List Step) : Init Names := fun b => do
  bindBuilder block.1 b
  runBlock path 0 block.2

theorem leadsOn_block (path : List Nat) (block : Option (String × List Step)) :
    LeadsOn (block.map (runOn path)) := by
  intro f some child s
  cases block with
  | none => cases some
  | some block =>
      cases some
      refine ((obeys_bindBuilder block.1 child).bind fun _ t _ => ?_).leads
      exact (leads_runBlock block.2 path 0 t).obeys

/-- What a script leaves is sound. -/
theorem sound_runTop (steps : List Step) : (left (runTop 0 steps) start).store.Sound :=
  (leads_runTop steps 0 start Store.sound_initial).sound

/-- **A scope does what can be done by hand.** In every sound store, opening a division in a
builder that nests divisions comes to creating a builder of divisions with the options,
running the block on it, asking it for its element and appending the element, whatever the
block and the options are: to the same answer or fault and to the same session. What is
called must not be hidden by an attribute of the builder's own. Likewise building a
document comes to creating a builder of documents, running the block on it and asking it
for its element. -/
theorem div_eq_byHand (path : List Nat) (block : Option (String × List Step)) (options : Options)
    {s : Session Names} {b : BuilderRef} (sound : s.store.Sound) (nests : s.store.Nests b)
    (opener : s.store.held? b "div" = none)
    (method : ∀ made t, makeDivision (block.map (runOn path)) options s = .ok made t →
      t.store.held? b "append" = none) :
    b.invoke "div" { first := (block.map (runOn path)).map .function, options } s =
        b.divByHand (block.map (runOn path)) options s ∧
      ∀ whole : String × List Step,
        htmlOf { first := some (.function (runOn path whole)) } s =
          htmlByHand (runOn path whole) s :=
  ⟨invoke_div_eq_divByHand sound nests (leadsOn_block path block) opener method, fun _ => rfl⟩

/-- What is left of a script that creates the builder of a body. -/
def openBody : Session Names := left (runTop 0 [.new "b" "BodyBuilder" []]) start

theorem nests_openBody : openBody.store.Nests ⟨0⟩ :=
  Store.nests_of_flow (sound_runTop _) (by decide) (.inl rfl)

/-- A block that adds to the builder around its own. -/
theorem div_eq_byHand_reentrant :
    (∃ t, BuilderRef.invoke ⟨0⟩ "div"
        { first := some (.function (runOn [1] ("d", [.call "b" "p" (.value (.text "x")) []]))),
          options := [("id", .text "main")] } openBody =
      .ok (.node (.division [] (.text "main") .null)) t) ∧
      BuilderRef.invoke ⟨0⟩ "div"
          { first := some (.function (runOn [1] ("d", [.call "b" "p" (.value (.text "x")) []]))),
            options := [("id", .text "main")] } openBody =
        BuilderRef.divByHand ⟨0⟩
          (some (runOn [1] ("d", [.call "b" "p" (.value (.text "x")) []])))
          [("id", .text "main")] openBody := by
  refine ⟨⟨_, rfl⟩, ?_⟩
  refine (div_eq_byHand [1] (some ("d", [.call "b" "p" (.value (.text "x")) []]))
    [("id", .text "main")] (sound_runTop _) nests_openBody rfl ?_).1
  intro made t run
  have shown : (match makeDivision (some (runOn [1] ("d", [.call "b" "p" (.value (.text "x")) []])))
      [("id", .text "main")] openBody with
    | .ok _ t => t.store.held? ⟨0⟩ "append"
    | .error _ _ => none) = none := rfl
  have made_eq : makeDivision (some (runOn [1] ("d", [.call "b" "p" (.value (.text "x")) []])))
      [("id", .text "main")] openBody = .ok made t := run
  rw [made_eq] at shown
  exact shown

/-- A block that hides the method by which elements are appended: the scope adds its
division all the same, but by hand it cannot be appended. -/
theorem div_ne_byHand_of_hidden :
    openBody.store.Sound ∧ (openBody.store.get ⟨0⟩).classId = Standard.bodyBuilder ∧
      (∃ t, BuilderRef.invoke ⟨0⟩ "div"
        { first := some (.function (runOn [1] ("d", [.set "b" "append" (.int 1)]))) } openBody =
          .ok (.node (.division [] .null .null)) t) ∧
      ∃ t, BuilderRef.divByHand ⟨0⟩ (some (runOn [1] ("d", [.set "b" "append" (.int 1)]))) []
        openBody = .error (.notCallable "int") t :=
  ⟨sound_runTop _, rfl, ⟨_, rfl⟩, ⟨_, rfl⟩⟩

end Script

end ScopedHtml
