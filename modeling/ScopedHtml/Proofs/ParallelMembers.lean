import ScopedHtml.Proofs.ParallelCalls

/-!
# ScopedHtml.Proofs.ParallelMembers

**Calls in parallel.** When a member is called on builders that stand for each other
(`Bridge.Calling`), it is a member alike, and what is called runs in parallel, kind by kind
(`Caller.Alike.member`). So one level of calls more is carried out alike (`Caller.Alike.step`), and
calls of any depth are (`Caller.alike_upTo`).
-/

namespace ScopedHtml

open BuildM

variable {ρ : Type}

/-- A member of their classes is called on builders that stand for each other. -/
structure Bridge.Calling (bridge : Bridge ρ) (s t : Session ρ) (b b' : BuilderRef)
    (owner name : String) (called called' : Member) (arguments arguments' : Arguments ρ) :
    Prop where
  paired : bridge.Paired s.store t.store b b'
  offers : s.store.Offers b (.callable owner name called)
  offers' : t.store.Offers b' (.callable owner name called')
  gives : bridge.Gives s t arguments arguments'

namespace Bridge.Calling

variable {bridge : Bridge ρ} {s t : Session ρ} {b b' : BuilderRef} {owner name : String}
  {called called' : Member} {arguments arguments' : Arguments ρ}

theorem has (calling : bridge.Calling s t b b' owner name called called' arguments arguments')
    (member : called ≠ .inherent) :
    s.store.classes.Has (s.store.get b).classId name called :=
  ((calling.offers owner name called rfl).resolve_right member).has

theorem has' (calling : bridge.Calling s t b b' owner name called called' arguments arguments')
    (member : called' ≠ .inherent) :
    t.store.classes.Has (t.store.get b').classId name called' :=
  ((calling.offers' owner name called' rfl).resolve_right member).has

/-- What a member makes the library look up turns out alike. -/
theorem looks (calling : bridge.Calling s t b b' owner name called called' arguments arguments')
    (beside : bridge.Beside s t) : ∀ other ∈ called.looks,
      bridge.swap.Shown (s.store.get b).classId (t.store.get b').classId other := by
  intro other among
  rcases calling.offers owner name called rfl with provides | inherent
  · exact beside.stores.tables.looks (beside.stores.stands (.paired calling.paired)) provides.has
      among
  · rw [inherent] at among
    cases among

/-- What no body can define is called under the name that the library has for it. -/
theorem placed (calling : bridge.Calling s t b b' owner name called called' arguments arguments')
    (beside : bridge.Beside s t) (member : called ≠ .inherent)
    (foreign : ¬ called.Defined s.store.classes name) : called.inPlace name = true := by
  exact beside.stores.tables.tidy.placed
    (beside.stores.alike (.paired calling.paired)).twins.usable.inside (calling.has member) foreign

end Bridge.Calling

namespace Caller.Alike

variable {call : Caller ρ} (alike : call.Alike) {bridge : Bridge ρ} {s t : Session ρ}
  {b b' : BuilderRef} {owner name : String} {arguments arguments' : Arguments ρ}

include alike

theorem member_opener {target target' : Target} {attachment : Attachment}
    (targets : bridge.swap.Targets target target')
    (calling : bridge.Calling s t b b' owner name (.opener target attachment)
      (.opener target' attachment) arguments arguments') :
    bridge.Parallel s t (fun _ _ => bridge.swap.Answers name)
      (call.member b owner name arguments (.opener target attachment))
      (call.member b' owner name arguments' (.opener target' attachment)) := by
  unfold Caller.member
  refine .observe_bind fun beside => ?_
  dsimp only
  have twins := (beside.stores.alike (.paired calling.paired)).twins
  have tables := beside.stores.tables
  have looks := calling.looks beside
  have has := calling.has nofun
  have has' := calling.has' nofun
  have targets : bridge.Targets s t target target' :=
    ⟨targets, fun opened fixed => tables.tidy.usable_target twins.usable.inside (fixed ▸ has),
      fun opened fixed => tables.tidy'.usable_target twins.usable'.inside (fixed ▸ has')⟩
  have children : attachment = .append →
      bridge.swap.Shown (s.store.get b).classId (t.store.get b').classId "_children" :=
    fun append => looks _ (by rw [append]; exact List.mem_cons_self)
  have init := calling.gives.init?
  rw [calling.gives.options]
  split
  · next ofClass =>
      have loose := tables.tidy.attachment_ne_slot twins.usable.inside has ofClass
      exact (alike.openScopeOn twins.stands targets loose children init _).mono
        fun _ _ _ _ made => ⟨.inl made.1, fun _ => made.2⟩
  · have answer : attachment = .slot → name = "required" →
        bridge.swap.Clean (plainAnswer "build") := by
      rintro rfl rfl
      obtain ⟨origin, _, own⟩ := has
      exact tables.answer own
    exact (alike.openScope calling.paired targets
      (fun append => beside.shown calling.paired (children append)) answer init _).mono
        fun _ _ _ _ made => ⟨.inl made.1, fun _ => made.2⟩

theorem member_method {method : Method}
    (calling : bridge.Calling s t b b' owner name (.method method) (.method method) arguments
      arguments') :
    bridge.Parallel s t (fun _ _ => bridge.swap.Answers name)
      (call.member b owner name arguments (.method method))
      (call.member b' owner name arguments' (.method method)) := by
  unfold Caller.member
  refine .observe_bind fun beside => ?_
  have inside := (beside.stores.alike (.paired calling.paired)).twins.usable.inside
  obtain rfl : name = method.name := of_decide_eq_true (calling.placed beside nofun not_false)
  have bound : bridge.Parallel s t (fun _ _ => bridge.swap.Answers method.name)
      (do call.method b (← settle (arguments.bindOnly
        ⟨owner ++ "." ++ method.name, method.parameters, method.receiver⟩)) method)
      (do call.method b' (← settle (arguments'.bindOnly
        ⟨owner ++ "." ++ method.name, method.parameters, method.receiver⟩)) method) := by
    refine .settle_bind (calling.gives.bindOnly _) fun given given' givens => ?_
    refine alike.method calling.paired givens method
      (fun other among => beside.shown calling.paired (calling.looks beside other among)) ?_
    rintro rfl
    exact beside.stores.tables.tidy.required inside (calling.has nofun)
  cases method with
  | register =>
      dsimp only
      rw [calling.gives.bindOptions]
      refine .settle_bind (S := fun options options' => options' = options)
        (.of_eq .same fun _ => rfl) ?_
      rintro options _ rfl
      have told := ((calling.offers _ _ _ rfl).resolve_right nofun).exists_member (by decide)
      refine (alike.register (beside.stores.alike (.paired calling.paired)).twins _ told).mono ?_
      rintro _ _ answer _ rfl
      exact .same (by decide) _
  | _ => exact bound

theorem member_maker {product : Option Product}
    (calling : bridge.Calling s t b b' owner name (.maker product) (.maker product) arguments
      arguments') :
    bridge.Parallel s t (fun _ _ => bridge.swap.Answers name)
      (call.member b owner name arguments (.maker product))
      (call.member b' owner name arguments' (.maker product)) := by
  unfold Caller.member
  refine .observe_bind fun beside => ?_
  have paired := calling.paired
  cases product with
  | none => exact .pure ⟨.inl rfl, fun _ => .inr (.inr rfl)⟩
  | some product =>
      refine (Bridge.Parallel.discard (.settle (R := fun _ _ _ _ => True)
        ((calling.gives.bind _).mono fun _ _ _ => trivial))).bind fun u v _ _ later _ => ?_
      exact (alike.make (paired.mono later.left.builders later.right.builders) product
        fun other among => (beside.shown paired (calling.looks beside other among)).later later).map
          fun _ _ node _ made => ⟨.inl (congrArg Value.node made), fun _ => .inl ⟨node, rfl⟩⟩

theorem member_starter {starter : Starter}
    (calling : bridge.Calling s t b b' owner name (.starter starter) (.starter starter) arguments
      arguments') :
    bridge.Parallel s t (fun _ _ => bridge.swap.Answers name)
      (call.member b owner name arguments (.starter starter))
      (call.member b' owner name arguments' (.starter starter)) := by
  unfold Caller.member
  refine .observe_bind fun beside => ?_
  have inside := (beside.stores.alike (.paired calling.paired)).twins.usable.inside
  obtain rfl : name = Hook.start.name :=
    of_decide_eq_true (calling.placed beside nofun not_false)
  have known : starter.Known :=
    (beside.stores.tables.tidy.resolved inside (calling.has nofun)).resolve_right not_false
  refine .settle_bind (calling.gives.bind _) fun given given' related => ?_
  dsimp only
  rw [Bridge.Gives.values related]
  exact (alike.startWith calling.paired known _).map fun _ _ _ _ _ => .same (by decide) _

/-- Calling a member of their classes on builders that stand for each other. -/
theorem member {called called' : Member} (members : bridge.swap.Members called called')
    (calling : bridge.Calling s t b b' owner name called called' arguments arguments') :
    bridge.Parallel s t (fun _ _ => bridge.swap.Answers name)
      (call.member b owner name arguments called)
      (call.member b' owner name arguments' called') := by
  cases members with
  | opener attachment targets => exact alike.member_opener targets calling
  | same =>
      cases called with
      | opener target attachment => exact alike.member_opener (.same target) calling
      | plain =>
          refine .observe_bind fun _ => .pure ⟨.inl rfl, fun build => ?_⟩
          exact .inr (.inl (congrArg plainAnswer build))
      | method method => exact alike.member_method calling
      | maker product => exact alike.member_maker calling
      | starter starter => exact alike.member_starter calling
      | _ => exact .observe_bind fun _ => .pure ⟨.inl rfl, fun _ => .inr (.inr rfl)⟩

/-- An opener that is asked for a class cannot run its name and makes nothing. -/
theorem opener_asked {target target' : Target} {attachment : Attachment}
    (targets : bridge.Targets s t target target') (outside : name ∉ Hook.ofClass)
    (owner owner' : String) :
    bridge.Parallel s t Bridge.Same
      (call.member b owner name { first := some (.value (.text kindName)) }
        (.opener target attachment))
      (call.member b' owner' name { first := some (.value (.text kindName)) }
        (.opener target' attachment)) := by
  unfold Caller.member
  refine .observe_bind fun _ => ?_
  dsimp only
  rw [if_neg outside, if_neg outside]
  show bridge.Parallel s t Bridge.Same
    (call.openScope b name target attachment (some (.value (.text kindName))) [])
    (call.openScope b' name target' attachment (some (.value (.text kindName))) [])
  exact (alike.scope_of_value targets _ []).bind fun _ _ _ _ _ never => never.elim

/-- A builder that is only passed on tells of its class or refuses to, and gets nothing. -/
theorem askSeen (seen : bridge.seen b b') {hook : Hook} (which : hook = .read ∨ hook = .unknown)
    {origin origin' : ClassId × Member} (has : s.store.hook? b hook = some origin)
    (has' : t.store.hook? b' hook = some origin') (origins : bridge.swap.Origins origin origin') :
    bridge.Parallel s t Found.SameValue (call.step.ask b hook origin kindName)
      (call.step.ask b' hook origin' kindName) := by
  have known : ∀ {u v}, bridge.Known u v b b' := .seen seen
  obtain @⟨owner, member, member', members⟩ := origins
  suffices answers : bridge.Parallel s t Bridge.Same
      (call.step.dispatch b hook.name (owner, member) { first := some (.value (.text kindName)) })
      (call.step.dispatch b' hook.name (owner, member')
        { first := some (.value (.text kindName)) }) by
    exact answers.map fun _ _ answer _ same => ⟨answer, rfl, congrArg Found.value same⟩
  refine .observe_bind fun beside => ?_
  have twins := (beside.stores.alike known).twins
  have tables := beside.stores.tables
  have method : hook.name ∉ Hook.ofClass := by rcases which with rfl | rfl <;> decide
  have opened : ∀ {target target' attachment}, bridge.swap.Targets target target' →
      member = .opener target attachment → member' = .opener target' attachment →
        bridge.Parallel s t Bridge.Same
          (call.step b (s.store.found hook.name (owner, member))
            { first := some (.value (.text kindName)) })
          (call.step b' (t.store.found hook.name (owner, member'))
            { first := some (.value (.text kindName)) }) := by
    rintro target target' attachment targets rfl rfl
    have targets : bridge.Targets s t target target' :=
      ⟨targets, fun opened fixed => tables.tidy.usable_target twins.usable.inside
          (fixed ▸ ClassTable.has_of_resolve has),
        fun opened fixed => tables.tidy'.usable_target twins.usable'.inside
          (fixed ▸ ClassTable.has_of_resolve has')⟩
    exact alike.opener_asked targets method (s.store.classes.get owner).name
      (t.store.classes.get owner).name
  have placed := tables.tidy.placed twins.usable.inside (ClassTable.has_of_resolve has)
  have other : ∀ name, name ≠ Hook.read.name → name ≠ Hook.unknown.name → hook.name ≠ name := by
    rintro name read unknown rfl
    rcases which with rfl | rfl
    · exact read rfl
    · exact unknown rfl
  cases members with
  | opener attachment targets => exact opened targets rfl rfl
  | same =>
      cases member with
      | opener target attachment => exact opened (.same target) rfl rfl
      | plain => exact .observe_bind fun _ => .pure rfl
      | data held => exact .throw (.same _)
      | method called =>
          have name : hook.name = called.name := of_decide_eq_true (placed not_false)
          cases called with
          | report =>
              refine .observe_bind fun _ => ?_
              -- The name is bound to the only parameter there is.
              show bridge.Parallel s t Bridge.Same
                (settle (.ok (.value (.text kindName))) >>= fun given => call.method b given .report)
                (settle (.ok (.value (.text kindName))) >>= fun given => call.method b' given .report)
              refine .settle_bind (S := fun given given' => given = .value (.text kindName) ∧
                given' = .value (.text kindName)) (.ok ⟨rfl, rfl⟩) ?_
              rintro _ _ ⟨rfl, rfl⟩
              exact .observe_bind fun beside =>
                .throw (.noPrivateAttribute _ (beside.stores.titles known))
          | _ => exact absurd name (other _ (by decide) (by decide))
      | starter starter =>
          exact absurd (of_decide_eq_true (placed not_false) : hook.name = Hook.start.name)
            (other _ (by decide) (by decide))
      | maker product =>
          exact absurd (of_decide_eq_true (placed not_false) : hook.name = "_make_node")
            (other _ (by decide) (by decide))
      | _ => exact .observe_bind fun _ => .pure rfl

/-- A caller that carries out calls one level deeper carries them out alike. -/
theorem step : call.step.Alike where
  calls := by
    intro bridge s t b b' found found' arguments arguments' paired founds offers offers' gives
    cases founds with
    | value held => exact .throw (.same _)
    | callable owner name members =>
        exact alike.member members ⟨paired, offers, offers', gives⟩
  asks := fun _ _ _ _ _ _ _ _ seen which has has' origins =>
    alike.askSeen seen which has has' origins

end Caller.Alike

/-- Calls that are nested too deeply fail alike. -/
theorem Caller.alike_upTo : ∀ depth : Nat, (Caller.upTo depth : Caller ρ).Alike
  | 0 => {
      calls := fun _ _ _ _ _ _ _ _ _ _ _ _ _ _ => .throw (.same _)
      asks := fun _ _ _ _ _ _ _ _ _ _ _ _ _ =>
        .map (R := Bridge.Never) (.observe_bind fun _ => .throw (.same _))
          fun _ _ _ _ never => never.elim }
  | depth + 1 => (alike_upTo depth).step

theorem Caller.alike_call : (call : Caller ρ).Alike := alike_upTo depthLimit

end ScopedHtml
