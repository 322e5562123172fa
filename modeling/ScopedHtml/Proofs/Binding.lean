import ScopedHtml.Proofs.ScriptChronicle

/-!
# ScopedHtml.Proofs.Binding

**Openers bind early to classes and late to names.** What a body declares as an opener
(`ClassBody.opener?`) opens the class that its name was bound to when the class was defined, or keeps
the name (`ClassTable.opener_of_draft`, `Caller.drafted_of_define`). A name that is kept is looked up
when the opener is called (`BuildM.OpensOnCall`): whatever it is bound to is opened, and nothing
happens at all if it is bound to nothing. From one moment of a run to a later one builders keep what
their classes give them (`Store.Remains`), however often names are bound again.

Classes keep elements under a few names when openers are called on them (`keptNames`), and under one
name a register. These may take the place of what a body declares.
-/

namespace ScopedHtml

open BuildM

variable {ρ : Type}

/-! ### What bodies declare -/

/-- The opener that a body declares under a name: the last one of the name, if nothing else of the
body stands under it. -/
def ClassBody.opener? (body : ClassBody) (name : String) : Option OpenerSpec :=
  if name ∈ body.slots.map slotAttribute ∨ name ∈ body.plain ∨
      body.required.isSome ∧ name = "_required" then none
  else body.openers.reverse.find? fun opener => opener.name = name

namespace ClassTable

variable {table : ClassTable} {name : String} {opener : OpenerSpec}

/-- The last opener of a name is what the name is bound to. -/
theorem opener_of_bindOpeners : ∀ {openers : List OpenerSpec} {before after : Bindings String Member},
    table.bindOpeners openers before = .ok after →
    openers.reverse.find? (fun opener => opener.name = name) = some opener →
      ∃ target, table.target opener = .ok target ∧
        after.find? name = some (.opener target opener.attachment)
  | first :: rest, before, after, bound, last => by
      obtain ⟨found, target, bound⟩ := bindOpeners_cons_eq_ok bound
      rw [List.reverse_cons, List.find?_append] at last
      cases later : rest.reverse.find? fun opener => opener.name = name with
      | some other =>
          rw [later, Option.some_or] at last
          cases last
          exact opener_of_bindOpeners bound later
      | none =>
          rw [later, Option.none_or] at last
          have same : first.name = name ∧ first = opener := by
            simpa [List.find?_singleton] using last
          obtain ⟨rfl, rfl⟩ := same
          have others : ∀ opener ∈ rest, opener.name ≠ first.name := by
            simpa using later
          refine ⟨found, target, ?_⟩
          rcases find?_of_bindOpeners first.name bound with ⟨⟨other, among, same⟩, _⟩ | ⟨_, kept⟩
          · exact absurd same (others other among)
          · exact kept.trans (Bindings.find?_bind_self _ _ _)

theorem opener_of_draft {title : String} {bases : List ClassId} {body : ClassBody}
    {new : BuilderClass} (drafted : table.draft title bases body = .ok new)
    (declared : body.opener? name = some opener) :
    ∃ target, table.target opener = .ok target ∧
      new.members.find? name = some (.opener target opener.attachment) := by
  unfold ClassBody.opener? at declared
  split at declared
  · cases declared
  · next alone =>
      obtain ⟨_, members, defined, own⟩ := draft_eq_ok drafted
      obtain ⟨_, openers, bound, looked⟩ := find?_of_bodyMembers defined
      obtain ⟨target, opens, found⟩ := opener_of_bindOpeners bound declared
      have listed : members.find? name = some (.opener target opener.attachment) := by
        rcases looked name with ⟨names, required, same, _⟩ | looked
        · exact absurd (.inr (.inr ⟨by rw [required]; rfl, same⟩)) alone
        · rw [looked, if_neg fun slot => alone (.inl slot),
            if_neg fun plain => alone (.inr (.inl plain)), found]
      refine ⟨target, opens, ?_⟩
      rcases own with same | ⟨undescribed, same⟩
      · rw [same, listed]
      · have other : name ≠ docName := by
          rintro rfl
          rw [undescribed] at listed
          cases listed
        rw [same, Bindings.find?_bind_of_ne _ other, listed]

end ClassTable

theorem Store.inside_add (store : Store) (builder : Builder) :
    (store.add builder).1.index < (store.add builder).2.builders.length := by
  simp [add]

namespace Caller

variable {call : Caller ρ} {s t : Session ρ} {b : BuilderRef} {name : String}

/-- A definition that has ended well has put a new class into the table, and the name is bound to
it. The class is as it was drafted, but for what is told of it. -/
theorem drafted_of_define (leads : call.Obeys Rule.sound) (regular : s.store.Regular) {title : String}
    {bases : List String} {body : ClassBody} {id : ClassId}
    (done : call.define title bases body s = .ok id t) :
    ∃ ids new, s.store.classes.draft title ids body = .ok new ∧
      id.index = s.store.classes.classes.length ∧
      t.store.classes.names.find? title = some id ∧
      ∀ name ∉ looseNames,
        (t.store.classes.get id).members.find? name = new.members.find? name := by
  unfold define at done
  obtain ⟨ids, u, named, drafting⟩ := bind_eq_ok.1 done
  obtain ⟨named, rfl⟩ := query_eq_ok.1 named
  obtain ⟨new, v, drafted, adding⟩ := bind_eq_ok.1 drafting
  obtain ⟨drafted, rfl⟩ := query_eq_ok.1 drafted
  obtain ⟨new', w, added, telling⟩ := bind_eq_ok.1 adding
  have sound : w.store.Sound := by
    have shifts : (transact fun store => .ok (store.addClass new) : BuildM ρ ClassId).Shifts
        (fun _ => False) v := shifts_addClass named drafted
    exact ((shifts.of_ok added ⟨regular, nofun⟩).regular regular).sound
  obtain ⟨_, x, told, checking⟩ := bind_eq_ok.1 telling
  have kept := (((leads.announce _ _ _).discard).leads.of_ok told sound).classes
  obtain ⟨builder, y, observed, checked⟩ := bind_eq_ok.1 checking
  obtain rfl := (quiet_observe _).eq_of_ok observed
  have bound : (perform fun store => store.onClasses fun classes =>
      .ok (classes.bindName title new') : BuildM ρ Unit) y = .ok () t ∧ new' = id := by
    have named : ∀ {z : Session ρ}, (do
        perform fun store => store.onClasses fun classes => .ok (classes.bindName title new')
        return new' : BuildM ρ ClassId) z = .ok id t →
        (perform fun store => store.onClasses fun classes =>
          .ok (classes.bindName title new') : BuildM ρ Unit) z = .ok () t ∧ new' = id := by
      intro z done
      obtain ⟨_, _, bound, ended⟩ := bind_eq_ok.1 done
      cases ended
      exact ⟨bound, rfl⟩
    cases builder with
    | false => exact named checked
    | true =>
        obtain ⟨_, z, passed, binding⟩ := bind_eq_ok.1 checked
        obtain rfl := (quiet_settle _).eq_of_ok passed
        exact named binding
  obtain ⟨bound, rfl⟩ := bound
  cases bound
  cases added
  refine ⟨ids, new, drafted, rfl, Bindings.find?_bind_self _ _ _, fun name tight => ?_⟩
  have inside : (v.store.classes.push new).1.index < (v.store.classes.push new).2.classes.length := by
    simp [ClassTable.push]
  refine (kept.members _ inside name tight).trans ?_
  exact congrArg (fun owner => owner.members.find? name) (ClassTable.get_push_new v.store.classes new)

/-- What is created is a builder of the class, unless the class makes its instances itself. -/
theorem classId_of_create (leads : call.Obeys Rule.sound) (sound : s.store.Sound) {id : ClassId}
    {options : Options} (made : call.create id options s = .ok b t)
    (genuine : t.store.foreign? b = none) : (t.store.get b).classId = id := by
  have bare : ∀ {u v : Session ρ} {b options},
      (transact fun store => store.createBare id options : BuildM ρ BuilderRef) u = .ok b v →
        b.index < v.store.builders.length ∧ (v.store.get b).classId = id := by
    intro u v b options made
    obtain ⟨after, created, rfl⟩ := transact_eq_ok.1 made
    obtain ⟨rfl, rfl⟩ := Store.createBare_eq_ok created
    exact ⟨Store.inside_add u.store _, congrArg Builder.classId (Store.get_add_new u.store _)⟩
  cases created_of_create made with
  | bare begun => exact (bare begun).2
  | started begun assigned =>
      have first := (obeys_createBare id []).leads.of_ok begun sound
      have second := (leads.startWith _ _).leads.of_ok assigned first.sound
      obtain ⟨inside, classId⟩ := bare begun
      exact (second.grown.classId b inside).trans classId
  | called begun answered =>
      have first := (obeys_createBare id []).leads.of_ok begun sound
      have second := (leads.start _ _).leads.of_ok answered first.sound
      obtain ⟨inside, classId⟩ := bare begun
      exact (second.grown.classId b inside).trans classId
  | @foreign _ _ value _ u begun answered =>
      have own := Store.get_add_new u.store
        { classId := Standard.root, held := .empty, foreign := some value }
      have given : (u.store.createForeign value).2.foreign? (u.store.createForeign value).1 =
          some value := congrArg Builder.foreign own
      cases given.symm.trans genuine

end Caller

/-! ### What openers open -/

/-- Which class an opener opens that is called in a session. A name that is bound to nothing lets
the call fail before anything is done. A bound name stands for its class. An opener with a class
makes a new builder of that class, if the class does not make its instances itself, and that is the
builder that the argument runs on. -/
structure BuildM.OpensOnCall (s : Session ρ) : Prop where
  unbound : ∀ {b owner element name attachment} {arguments : Arguments ρ},
    s.store.classes.names.find? name = none →
      call b (.callable owner element (.opener (.late name) attachment)) arguments s =
        .error (.undefinedBuilder name element) s
  bound : ∀ {b owner element name attachment id} {arguments : Arguments ρ},
    s.store.classes.names.find? name = some id →
      call b (.callable owner element (.opener (.late name) attachment)) arguments s =
        call b (.callable owner element (.opener (.fixed id) attachment)) arguments s
  fixed : ∀ {b owner element attachment id} {arguments : Arguments ρ},
    call b (.callable owner element (.opener (.fixed id) attachment)) arguments s =
        (Opening.ofCall s.store b element (.fixed id) attachment arguments).run (.upTo 999) s ∧
      ∀ child t, (Opening.ofCall s.store b element (.fixed id) attachment arguments).Reaches
          (.upTo 999) s (.init child) t →
        s.store.builders.length ≤ child.index ∧
          (t.store.foreign? child = none → (t.store.get child).classId = id)

theorem BuildM.opensOnCall {s : Session ρ} (sound : s.store.Sound) : OpensOnCall s where
  unbound := by
    intro b owner element name attachment arguments unbound
    refine (Caller.upTo_opener 999 s b owner element _ attachment arguments).trans ?_
    have failing : (Opening.ofCall s.store b element (.late name) attachment arguments).perform
        (.upTo 999) .resolve s = .error (.undefinedBuilder name element) s := by
      unfold Opening.perform Opening.ofCall Store.target
      simp [discard_apply, query_apply, unbound]
    rw [Opening.run_eq_remaining]
    exact Opening.remaining_eq_error failing
  bound := by
    intro b owner element name attachment id arguments bound
    have resolved : s.store.target element (.late name) = .ok id := by
      unfold Store.target
      dsimp only
      rw [bound]
    have late : (Opening.ofCall s.store b element (.late name) attachment arguments).Reaches
        (.upTo 999) s (.create id) s := .create resolved
    have fixed : (Opening.ofCall s.store b element (.fixed id) attachment arguments).Reaches
        (.upTo 999) s (.create id) s := .create rfl
    refine (Caller.upTo_opener 999 s b owner element _ attachment arguments).trans
      (Eq.trans ?_ (Caller.upTo_opener 999 s b owner element _ attachment arguments).symm)
    -- What remains once the class is found is the same.
    exact late.run_eq.trans fixed.run_eq.symm
  fixed := by
    intro b owner element attachment id arguments
    refine ⟨Caller.upTo_opener 999 s b owner element _ attachment arguments, ?_⟩
    intro child t reached
    cases reached with
    | init before created =>
        cases before with
        | create resolved =>
            cases resolved
            exact ⟨Caller.new_of_create (Caller.leads_upTo 999) sound created,
              Caller.classId_of_create (Caller.leads_upTo 999) sound created⟩

/-! ### What builders keep -/

/-- What a row of classes has under a name it has later, or one of them keeps an element there. -/
theorem ClassTable.Stays.resolveAlong_cases {before after : ClassTable} (stays : before.Stays after)
    (name : String) {row : List ClassId} (inside : ∀ c ∈ row, c.index < before.classes.length) :
    after.resolveAlong name row = before.resolveAlong name row ∨
      ∃ owner value, after.resolveAlong name row = some (owner, .data value) := by
  induction row with
  | nil => exact .inl rfl
  | cons first rest ih =>
      rw [ClassTable.resolveAlong, ClassTable.resolveAlong]
      rcases stays.replaced first (inside first List.mem_cons_self) name with same | ⟨value, found⟩
      · rw [same]
        cases (before.get first).members.find? name with
        | some member => exact .inl rfl
        | none => exact ih fun c among => inside c (List.mem_cons_of_mem _ among)
      · rw [found]
        exact .inr ⟨first, value, rfl⟩

/-- A builder has later what its class gave it before: what it opens, what is required of it and
what it supports. Only under the names for that there may be an element that a class keeps. -/
structure Store.Remains (before after : Store) (b : BuilderRef) : Prop where
  classId : (after.get b).classId = (before.get b).classId
  member : ∀ name ∉ keptNames, after.member? b name = before.member? b name
  required : after.member? b "_required" = before.member? b "_required"
  elements : after.classes.listing (after.get b).classId =
    before.classes.listing (before.get b).classId
  kept : ∀ name, after.member? b name = before.member? b name ∨
    ∃ owner value, after.member? b name = some (owner, .data value)

theorem Store.Shifts.remains {watched : BuilderRef → Prop} {before after : Store} {b : BuilderRef}
    (shifts : before.Shifts watched after) (regular : before.Regular)
    (inside : b.index < before.builders.length) : before.Remains after b := by
  have classId := (shifts.leads regular).grown.classId b inside
  have stays := shifts.stays regular
  have usable := regular.builders b
  have member : ∀ name ∉ keptNames, after.member? b name = before.member? b name := by
    intro name tight
    rw [Store.member?_of_classId classId]
    exact stays.resolve regular.classes usable tight
  refine ⟨classId, member, member _ (by decide), ?_, fun name => ?_⟩
  · rw [classId]
    exact stays.listing regular.classes usable
  · rw [Store.member?_of_classId classId, Store.member?, ClassTable.resolve, ClassTable.resolve,
      stays.kept.line usable.inside]
    exact stays.resolveAlong_cases name (regular.classes.closed.line usable.inside)

/-- The sessions at which something that is told of begins and ends. -/
def Occurrence.Sees (o : Occurrence ρ) (s : Session ρ) : Prop := s = o.before ∨ s = o.after

/-! ### Scripts -/

namespace Script

variable {steps : List Step} {earlier later : List (Occurrence Names)} {now : Occurrence Names}

/-- When openers find the classes that they open, as of one occurrence of a run. -/
structure BindingTimes (now : Occurrence Names) (later : List (Occurrence Names)) : Prop where
  /-- What a body declares as an opener opens the class that its name was bound to when the class was
  defined, or keeps the name, and the class has it from then on. -/
  declared : ∀ title body id s t, now = .defined title body id s t →
    s.store.classes.classes.length = id.index ∧
    t.store.classes.names.find? title = some id ∧
    ∀ name opener, body.opener? name = some opener → name ∉ looseNames →
      ∃ target, s.store.classes.target opener = .ok target ∧
        (t.store.classes.get id).members.find? name = some (.opener target opener.attachment) ∧
        ∀ next ∈ later, ∀ u, next.Sees u →
          (u.store.classes.get id).members.find? name = some (.opener target opener.attachment)
  /-- Builders keep what their classes give them. -/
  remains : ∀ next ∈ later, ∀ u, next.Sees u → ∀ b, b.index < now.after.store.builders.length →
    now.after.store.Remains u.store b
  /-- A name that an opener keeps is looked up when the opener is called, whatever has been done
  since. -/
  called : ∀ u : Session Names, now.after.store.Shifts (fun _ => False) u.store → OpensOnCall u
  /-- The library opens divisions with its own class for them. -/
  divisions : ∀ b member,
    now.after.store.member? b "div" = some (Standard.flowBuilder, member) →
      member = .opener (.fixed Standard.divBuilder) .append ∧
        now.after.store.classes.get Standard.divBuilder = Standard.divBuilderClass
  /-- Defining a class, whether it succeeds or not, changes no builder. -/
  spared : ∀ title bases body c, c.index < now.after.store.builders.length →
    (left (define title bases body : ScriptM ClassId) now.after).store.get c =
      now.after.store.get c

/-- **Openers bind early to classes and late to names**, along every run, whatever classes it defines
and defines again. -/
theorem openers_bind_early_and_late (told : topTold 0 steps start = earlier ++ now :: later) :
    BindingTimes now later := by
  have all : Chronicle False start.store (topTold 0 steps start) _ :=
    chronicles_runTop steps False.elim 0 start Store.Regular.initial
  rw [told] at all
  obtain ⟨mid, before, after⟩ := all.split
  have regular := before.shifts.regular Store.Regular.initial
  cases after with
  | next follows others =>
      have still := follows.shifts.regular regular
      have onward : ∀ next ∈ later, ∀ u, next.Sees u →
          now.after.store.Shifts (fun _ => False) u.store := by
        rintro next among u (rfl | rfl)
        · exact (others.shifts_to among).1
        · exact (others.shifts_to among).2
      constructor
      case declared =>
        rintro title body id s t rfl
        cases follows with
        | defined passes during done =>
            obtain ⟨ids, new, drafted, place, bound, members⟩ :=
              Caller.drafted_of_define leads_call (passes.regular regular) done
            refine ⟨place.symm, bound, fun name opener declared tight => ?_⟩
            obtain ⟨target, opens, found⟩ := ClassTable.opener_of_draft drafted declared
            have here := (members name tight).trans found
            refine ⟨target, opens, here, fun next among u sees => ?_⟩
            have inside := still.classes.closed.names title id bound
            have kept := (onward next among u sees).stays still
            exact (kept.kept.members id inside name tight).trans here
      case remains =>
        exact fun next among u sees b inside => (onward next among u sees).remains still inside
      case called => exact fun u shifts => opensOnCall (shifts.regular still).sound
      case divisions =>
        intro b member div
        have library := still.classes.library
        obtain ⟨_, found⟩ := ClassTable.resolveAlong_eq_some div
        rw [library Standard.flowBuilder (by decide)] at found
        cases found
        exact ⟨rfl, library Standard.divBuilder (by decide)⟩
      case spared =>
        intro title bases body c inside
        have guards : now.after.store.Guards (· = c) := ⟨still, fun b same => same ▸ inside⟩
        exact (shifts_call.define leads_call title bases body guards).spared guards rfl

/-- A page with two openers of the same name: one opens its class, the other keeps the name. -/
def pageBody : ClassBody where
  openers := [⟨"part", "Part", false, .append⟩, ⟨"note", "Part", true, .append⟩]

/-- The name is bound again between defining the page and calling its openers. -/
def bindingAgain : List Step :=
  [.define "Part" ["DivBuilder"] {}, .define "Page" ["BodyBuilder"] pageBody, .new "b" "Page" [],
    .define "Part" ["BodyBuilder"] {}, .call "b" "part" .absent [], .call "b" "note" .absent []]

def bindingTold : List (Occurrence Names) := topTold 0 bindingAgain start

/-- The definition of the page, and the last moment. -/
def pageDefined : Occurrence Names := bindingTold.getD 3 (.rest start)

def atLast : Occurrence Names := bindingTold.getD 13 (.rest start)

/-- In the end the opener with the class has it still, although another class has its name. The one
with the name opens that class. -/
theorem openers_bind_early_and_late_again :
    atLast.after.store.classes.names.find? "Part" = some ⟨9⟩ ∧
      (atLast.after.store.classes.get ⟨8⟩).members.find? "part" =
        some (.opener (.fixed ⟨7⟩) .append) ∧
      (atLast.after.store.classes.get ⟨8⟩).members.find? "note" =
        some (.opener (.late "Part") .append) ∧
      call ⟨0⟩ (.callable "Page" "note" (.opener (.late "Part") .append)) {} atLast.after =
        call ⟨0⟩ (.callable "Page" "note" (.opener (.fixed ⟨9⟩) .append)) {} atLast.after := by
  have page : bindingTold = bindingTold.take 3 ++ pageDefined :: bindingTold.drop 4 :=
    take_append_getD_drop (by decide +kernel) _
  have inside : 9 < (bindingTold.drop 4).length := by decide +kernel
  have last : bindingTold = bindingTold.take 13 ++ atLast :: bindingTold.drop 14 :=
    take_append_getD_drop (by decide +kernel) _
  have among : atLast ∈ bindingTold.drop 4 := by
    have there := List.getElem_mem inside
    rw [List.getElem_drop] at there
    unfold atLast
    rwa [List.getD_eq_getElem?_getD, List.getElem?_eq_getElem (by decide +kernel),
      Option.getD_some]
  have bound : atLast.after.store.classes.names.find? "Part" = some ⟨9⟩ := by decide +kernel
  obtain ⟨_, _, declared⟩ := (openers_bind_early_and_late page).declared "Page" pageBody ⟨8⟩
    pageDefined.before pageDefined.after rfl
  obtain ⟨early, opens, _, part⟩ := declared "part" _ rfl (by decide)
  obtain ⟨late, opens', _, note⟩ := declared "note" _ rfl (by decide)
  cases opens
  cases opens'
  exact ⟨bound, part atLast among _ (.inr rfl), note atLast among _ (.inr rfl),
    ((openers_bind_early_and_late last).called _ (.refl _)).bound bound⟩

/-- What is left of a builder of a class on that of bodies after some of the class's openers have
been called on it. -/
def calledOn (openers : List OpenerSpec) (names : List String) : Session Names :=
  left (runTop 0 (.define "Keeper" ["BodyBuilder"] { openers } :: .new "b" "Keeper" [] ::
    names.map fun name => .call "b" name .absent [])) start

/-- Openers of divisions, of which the first keeps what it makes on the class and in the place of the
second. -/
def keepingOver : List OpenerSpec :=
  [⟨"__class_getitem__", "DivBuilder", false, .slot⟩,
    ⟨"___class_getitem__", "DivBuilder", false, .discard⟩]

/-- What comes of calling what the builder has under a name: the text of the answer or the message
of the fault. -/
def comesOf (name : String) (s : Session Names) : Except String String :=
  match BuilderRef.callOwn ⟨0⟩ name s with
  | .ok answer _ => .ok answer.written
  | .error fault _ => .error fault.message

/-- An opener does not always open the class that it was declared with: another opener that works on
the class may have put an element into its place, and then a builder that has been there before has
lost it; so has every builder what is declared under the name of the register. -/
theorem not_bound_early_of_kept :
    comesOf "___class_getitem__" (calledOn keepingOver []) = .ok "<div></div>" ∧
      comesOf "___class_getitem__" (calledOn keepingOver ["__class_getitem__"]) =
        .error "'Division' object is not callable" ∧
      comesOf registerName (calledOn [⟨registerName, "DivBuilder", false, .append⟩] []) =
        .error "'frozenset' object is not callable" := by
  refine ⟨?_, ?_, ?_⟩ <;> decide +kernel

end Script

end ScopedHtml
