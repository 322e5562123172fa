import ScopedHtml.Proofs.CallChronicle

/-!
# ScopedHtml.Proofs.ScriptChronicle

**Chronicles of scripts.** Whatever classes a script defines, what is told of it is its chronicle
(`Script.chronicles_runTop`). Children of builders of bodies it accounts for if the script leaves
private attributes alone (`Script.AllDiscreet`).
-/

namespace ScopedHtml

open BuildM

variable {tame : Prop}

namespace Script

/-! ### Discreet scripts -/

mutual

/-- A step that assigns only attributes with public names, in its blocks as well. -/
def Step.Discreet : Step → Prop
  | .named _ step => step.Discreet
  | .about _ step => step.Discreet
  | .call _ _ argument _ => argument.Discreet
  | .html argument => argument.Discreet
  | .set _ name _ => isPrivate name = false
  | .attempt steps => AllDiscreet steps
  | _ => True

/-- The same of the steps of a block. -/
def Argument.Discreet : Argument → Prop
  | .block _ steps => AllDiscreet steps
  | _ => True

def AllDiscreet : List Step → Prop
  | [] => True
  | step :: rest => step.Discreet ∧ AllDiscreet rest

end

/-! ### Asking builders -/

variable {watched : BuilderRef → Prop} {s t : Session Names} {b : BuilderRef}

theorem shifts_modify {f : Session Names → Session Names} (same : ∀ s, (f s).store = s.store) :
    (modify f : ScriptM Unit).Shifts watched s := by
  intro _
  show s.store.Shifts watched (f s).store
  rw [same]
  exact .refl _

theorem shifts_glimpse (free : ¬ watched b) : (glimpse b).Shifts watched s := by
  unfold glimpse
  refine (shifts_call.isOf free _).bind ?_
  intro isFlow t _
  refine (shifts_call.own free).outcome.bind ?_
  intro missing t _
  refine (shifts_call.read free).bind ?_
  intro finalized t _
  split
  · refine (shifts_call.read free).bind ?_
    intro children t _
    exact (shifts_settle _).map _
  · exact shifts_pure _

theorem shifts_present (free : ¬ watched b) : (present b).Shifts watched s := by
  unfold present
  refine shifts_observe_bind ?_
  split
  · exact shifts_pure _
  · refine (shifts_call.inspect free).bind ?_
    intro _ t _
    refine shifts_observe_bind ?_
    refine (shifts_call.isOf free _).bind ?_
    intro isBuilder t _
    split
    · exact shifts_pure _
    · refine shifts_observe_bind ?_
      split <;> exact shifts_pure _

/-- Asking a builder that is no builder of bodies spares those, and these only look. -/
theorem shifts_asking {α : Type} {m : ScriptM α}
    (other : ¬ s.store.IsBody b → m.Shifts s.store.IsBody s)
    (quiet : s.store.Ordinary b → Quiet m s) : m.Shifts s.store.IsBody s := by
  refine Shifts.of_guards fun guards => ?_
  by_cases body : s.store.IsBody b
  · exact (quiet (body.ordinary guards.toRegular)).shifts
  · exact other body

theorem spares_read (name : String) : (b.read name : ScriptM Found).Shifts s.store.IsBody s :=
  shifts_asking (fun free => shifts_call.read free)
    fun ordinary => Caller.quiet_read _ ordinary.readsPlainly.readable name

theorem spares_glimpse : (glimpse b).Shifts s.store.IsBody s :=
  shifts_asking shifts_glimpse fun ordinary => quiet_glimpse ordinary.readsPlainly.readable
    (Caller.quiet_own_missing Caller.depthLimit ordinary.ordinary)

/-- Recording a step adds nothing to what is told of it. -/
theorem chronicles_recorded {path : List Nat} {step : Step} {body : ScriptM Answer}
    {told : List (Occurrence Names)} (h : body.Chronicles tame told s) :
    (recorded path step body).Chronicles tame told s := by
  show (outcome body >>= _).Chronicles tame told s
  refine h.outcome.before ?_
  intro result t _
  have entering : ∀ {u seen}, (enter path step (step.target? s.extra) result seen).Shifts
      t.store.IsBody u := by
    intro u seen
    refine Shifts.bind (shifts_modify fun _ => rfl) ?_
    intro _ v _
    split <;> exact shifts_pure _
  refine Shifts.bind (Quiet.shifts (quiet_of_ok (a := t) rfl)) ?_
  rintro after u ⟨⟩
  dsimp only
  split
  · refine Shifts.bind ?_ fun seen u _ =>
      show (enter path step _ result seen).Shifts t.store.IsBody u from entering
    rw [← bind_pure_comp]
    exact spares_glimpse.map _
  · exact show (enter path step _ result none).Shifts t.store.IsBody t from entering

/-! ### Assigning attributes -/

/-- Assigning a public attribute leaves private ones alone. -/
theorem held_of_write {store after : Store} {name other : String} {value : Value}
    (shown : isPrivate name = false) (hidden : isPrivate other = true)
    (written : store.write b name value = .ok after) :
    after.held? b other = store.held? b other := by
  obtain rfl | rfl | ⟨members, all, _, rfl⟩ := Store.write_eq_ok written
  · rfl
  · refine Store.held?_assign_of_ne_name store b ?_ value
    rintro rfl
    rw [hidden] at shown
    cases shown
  · rw [all] at shown
    exact absurd shown (by decide)

theorem chronicles_write {name : String} (shown : tame → isPrivate name = false) (value : Value) :
    (b.write name value : ScriptM Unit).Chronicles tame [] s := by
  intro regular
  have but : s.store.PassesBut tame (· = b) (left (b.write name value : ScriptM Unit) s).store :=
    (Caller.shifts_write (fun there => there.2 rfl) value).passesBut regular
  refine .done ⟨but.shifts, fun calm c body _ => ?_⟩
  by_cases this : c = b
  · subst this
    obtain eq | ⟨after, written, eq⟩ := left_perform (fun store => store.write c name value) s
    · rw [BuilderRef.write, eq]
    · rw [BuilderRef.write, eq]
      exact held_of_write (shown calm) (by decide) written
  · exact but.children calm c body this

/-! ### Steps -/

/-- Nothing is told of a step that only looks. -/
theorem Step.chronicles_of_looks {step : Step} (looks : step.looks = true)
    (other : ∀ on name, step ≠ .get on name) (path : List Nat) (s : Session Names) :
    (step.answer path).Chronicles tame [] s :=
  (Step.quiet_answer looks fun on name same => absurd same (other on name)).shifts.chronicles

mutual

theorem Step.chronicles_answer : ∀ (step : Step), (tame → step.Discreet) → ∀ (path : List Nat)
    (s : Session Names), (step.answer path).Chronicles tame (step.told path s) s
  | .named name step, discreet, path, s => by
      rw [Step.answer, Step.told]
      rw [Step.Discreet] at discreet
      refine (Step.chronicles_answer step discreet path s).before ?_
      intro answer t _
      refine Shifts.map ?_ _
      unfold bindAnswer
      split
      · exact shifts_modify fun _ => rfl
      · exact shifts_pure _
  | .about _ step, discreet, path, s => by
      rw [Step.answer, Step.told]
      rw [Step.Discreet] at discreet
      exact Step.chronicles_answer step discreet path s
  | .new name className options, _, path, s => by
      simp only [Step.answer, Step.told]
      refine Shifts.chronicles ((shifts_query _).seq ?_)
      intro id t named guards _
      obtain ⟨named, rfl⟩ := query_eq_ok.1 named
      have usable := guards.classes.names _ _ (ClassTable.named_eq_ok.1 named)
      refine (shifts_call.create usable options).bind ?_
      intro b u created
      refine Shifts.bind (shifts_modify fun _ => rfl) ?_
      intro _ v _
      -- What has just been created has not been there to be a builder of bodies.
      exact shifts_present (Store.Shifts.unwatched guards
        (Caller.new_of_create leads_call guards.toRegular.sound created))
  | .call on member argument options, discreet, path, s => by
      rw [Step.answer, Step.told]
      rw [Step.Discreet] at discreet
      refine Chronicles.after_looking (quiet_builderNamed on) ?_
      intro b _ _
      refine Chronicles.after_looking argument.quiet_check ?_
      intro _ _ regular
      refine Chronicles.after (spares_read member) ?_
      intro found t read _ _
      refine Chronicles.after_looking (argument.quiet_given path) ?_
      intro first given _
      refine Chronicles.map (Answers.called ?_) _
      exact Caller.answers_upTo _ Caller.depthLimit b found _ member t
        (Argument.chronicles_given argument discreet path given)
        (Caller.offers_found read) (Caller.names_of_read regular read)
  | .html argument, discreet, path, s => by
      rw [Step.answer, Step.told]
      rw [Step.Discreet] at discreet
      refine Chronicles.after_looking (argument.quiet_given path) ?_
      intro first given _
      exact (chronicles_htmlOf (Argument.chronicles_given argument discreet path given)).map _
  | .sample, _, path, s => by
      simp only [Step.answer, Step.told]
      exact (shifts_samplePage.map _).chronicles
  | .get on name, _, path, s => by
      simp only [Step.answer, Step.told]
      refine Shifts.chronicles ((quiet_builderNamed on).shifts.bind ?_)
      intro b t bound
      obtain rfl := (quiet_builderNamed on).eq_of_ok bound
      exact (spares_read name).map _
  | .set on name value, discreet, path, s => by
      simp only [Step.answer, Step.told]
      rw [Step.Discreet] at discreet
      rw [← uponDone_nil (builderNamed on) s]
      refine Chronicles.after_looking (quiet_builderNamed on) ?_
      intro b _ _
      exact (chronicles_write discreet value).map _
  | .attempt steps, discreet, path, s => by
      rw [Step.answer, Step.told]
      rw [Step.Discreet] at discreet
      refine (chronicles_runBlock steps discreet path 0 s).outcome.before ?_
      intro result t _
      split <;> exact shifts_pure _
  | .define name bases body, _, path, s => by
      simp only [Step.answer, Step.told]
      exact (chronicles_define name bases body).before fun _ _ _ => (shifts_query _).map _
  | .defineMixin name body, _, path, s => by
      simp only [Step.answer, Step.told]
      exact (chronicles_define name [] body).discard.map _
  | .elements _, _, path, s => Step.chronicles_of_looks rfl (by simp) path s
  | .node _, _, path, s => Step.chronicles_of_looks rfl (by simp) path s
  | .outline _, _, path, s => Step.chronicles_of_looks rfl (by simp) path s
  | .compare _ _, _, path, s => Step.chronicles_of_looks rfl (by simp) path s
  | .distinct _, _, path, s => Step.chronicles_of_looks rfl (by simp) path s
  | .getField _ _, _, path, s => Step.chronicles_of_looks rfl (by simp) path s
  | .setField _ _, _, path, s => Step.chronicles_of_looks rfl (by simp) path s
  | .deleteField _ _, _, path, s => Step.chronicles_of_looks rfl (by simp) path s
  | .fail _, _, path, s => Step.chronicles_of_looks rfl (by simp) path s

/-- What is given as an argument has its chronicle when it is run. -/
theorem Argument.chronicles_given : ∀ (argument : Argument), (tame → argument.Discreet) →
    ∀ (path : List Nat) {s t : Session Names} {first : Option (Given Names)} {options : Options},
    argument.given path s = .ok first t →
      Arguments.Chronicles tame (argument.told path) { first, options }
  | .block inner steps, discreet, path, s, t, first, options, given => by
      cases given
      rintro init ⟨⟩ child s
      rw [Argument.told]
      rw [Argument.Discreet] at discreet
      exact Chronicles.after (shifts_modify fun _ => rfl) fun _ t _ _ _ =>
        chronicles_runBlock steps discreet path 0 t
  | .absent, _, _, _, _, _, _, given => fun init function =>
      absurd function (Argument.ne_function_of_given (by simp) given init)
  | .value _, _, _, _, _, _, _, given => fun init function =>
      absurd function (Argument.ne_function_of_given (by simp) given init)
  | .builder _, _, _, _, _, _, _, given => fun init function =>
      absurd function (Argument.ne_function_of_given (by simp) given init)
  | .node _, _, _, _, _, _, _, given => fun init function =>
      absurd function (Argument.ne_function_of_given (by simp) given init)

theorem chronicles_runBlock : ∀ (steps : List Step), (tame → AllDiscreet steps) →
    ∀ (path : List Nat) (position : Nat) (s : Session Names),
    (runBlock path position steps).Chronicles tame (blockTold path position steps s) s
  | [], _, path, position, s => by
      rw [runBlock, blockTold]
      exact (shifts_pure _).chronicles.resting
  | step :: rest, discreet, path, position, s => by
      rw [runBlock, blockTold]
      rw [AllDiscreet] at discreet
      refine Chronicles.resting ((chronicles_recorded
        (Step.chronicles_answer step (fun calm => (discreet calm).1) _ s)).seq ?_)
      intro fault t _ _ _
      cases fault with
      | none => exact chronicles_runBlock rest (fun calm => (discreet calm).2) path (position + 1) t
      | some fault => exact (shifts_throw _).chronicles.resting

end

/-- What is told of a script is its chronicle. -/
theorem chronicles_runTop : ∀ (steps : List Step), (tame → AllDiscreet steps) →
    ∀ (position : Nat) (s : Session Names),
    (runTop position steps).Chronicles tame (topTold position steps s) s
  | [], _, position, s => (shifts_pure _).chronicles.resting
  | step :: rest, discreet, position, s => by
      rw [runTop, topTold]
      refine Chronicles.resting ((chronicles_recorded
        (Step.chronicles_answer step (fun calm => (discreet calm).1) _ s)).discard.seq ?_)
      intro _ t _ _ _
      exact chronicles_runTop rest (fun calm => (discreet calm).2) (position + 1) t

end Script

end ScopedHtml
