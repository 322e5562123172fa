import ScopedHtml.Proofs.CallCourse

/-!
# ScopedHtml.Proofs.ScriptCourse

**The course of scripts.** A script is orderly (`Script.AllOrderly`) if its classes have
orderly bodies, it assigns only attributes with public names and it does not start builders
over again. From an orderly store, it takes the course of its trail (`Script.courses_runTop`).
With a `Licence`, builders may also be started over again (`Script.AllLicensed`).
-/

namespace ScopedHtml

open BuildM

variable {ρ : Type} {licence : Licence}

/-! ### Documents -/

/-- Building a document by running something on its builder. -/
theorem courses_html {runs : Runs ρ} {init : Given ρ} {s : Session ρ}
    (prepared : ∀ document t, document.index < t.store.builders.length →
      (t.store.get document).classId = Standard.documentBuilder →
      (call.run init document).Courses licence
        (init.trail runs (Caller.trail runs Caller.depthLimit) document t) t) :
    (call.html init).Courses licence (documentTrail runs init s) s := by
  intro earlier orderly
  have inside : Standard.documentBuilder.index < s.store.classes.classes.length :=
    orderly.sound.inside (by decide)
  refine Courses.after (Caller.drifts_create inside []).courses ?_ earlier orderly
  intro document t created _ _
  obtain ⟨there, class_⟩ := orderly.created inside created
  refine (prepared document t there class_).seq ?_
  intro _ u _ _ _
  exact Caller.courses_own_build Caller.depthLimit document u

/-- The same with the argument of a call. -/
theorem courses_htmlOf {runs : Runs ρ} {arguments : Arguments ρ} {s : Session ρ}
    (function : arguments.Courses licence runs) :
    (htmlOf arguments).Courses licence (htmlTrail runs arguments s) s := by
  unfold htmlOf htmlTrail
  refine Courses.after_looking (fun _ => quiet_settle _) ?_
  intro init bound _
  refine courses_html fun document t _ _ => ?_
  refine Caller.courses_run Caller.depthLimit (Caller.courses_upTo runs Caller.depthLimit) ?_
    document t
  rintro f rfl child u
  rcases Arguments.bindOnly_cases (query_eq_ok.1 bound).1 with first | ⟨value, same⟩
  · exact function f first child u
  · cases same

/-- The document that building one answers with has been made meanwhile. -/
theorem carries_of_html {init : Given ρ} {s t : Session ρ} {node : Node}
    (run : call.html init s = .ok (.node node) t) (runs : Runs ρ) :
    ∃ h ∈ documentTrail runs init s, h.Carries node := by
  obtain ⟨document, u, created, run⟩ := bind_eq_ok.1 run
  obtain ⟨_, v, prepared, built⟩ := bind_eq_ok.1 run
  unfold documentTrail Caller.builtBy
  rw [whenDone_of_ok created, whenDone_of_ok prepared, whenDone_of_ok built]
  exact ⟨_, List.mem_append_right _ (List.mem_singleton.2 rfl), rfl⟩

theorem carries_of_htmlOf {arguments : Arguments ρ} {s t : Session ρ} {node : Node}
    (run : htmlOf arguments s = .ok (.node node) t) (runs : Runs ρ) :
    ∃ h ∈ htmlTrail runs arguments s, h.Carries node := by
  obtain ⟨init, u, bound, run⟩ := bind_eq_ok.1 run
  unfold htmlTrail
  rw [whenDone_of_ok bound]
  exact carries_of_html run runs

/-! ### The sample page -/

/-- A builder offers the openers of the library's that a class in its line has. -/
theorem Opener.offered (opener : Opener) {store : Store} (orderly : store.Orderly) {b : BuilderRef}
    (there : b.index < store.builders.length) {owner : ClassId}
    (behind : owner ∈ store.classes.line (store.get b).classId)
    (has : (Standard.classes.get owner).members.find? opener.name = some opener.entry.2)
    (init : Option (Given ρ)) (options : Options) :
    (opener.opening b init options).Offered store where
  opener := ⟨owner, behind, fun _ => has⟩
  inside := orderly.there b
  there := by
    rintro _ ⟨⟩
    exact there
  free := by
    show opener.attachment = .slot → slotAttribute opener.name ∉ reservedNames
    cases opener <;> decide
  ofClass := nofun
  target := by
    rintro _ ⟨⟩
    exact orderly.sound.inside opener.product.inside

namespace Sample

/-- One scope is opened after another. -/
theorem courses_both {first second : Opening ρ} {runs : Runs ρ} {s : Session ρ}
    (head : (first.run call).Courses licence (first.trail call (fun _ _ => []) s) s)
    (tail : ∀ t, t.store.Orderly → s.store.Leads t.store →
      (second.run call).Courses licence (second.trail call runs t) t) :
    (do
      discard <| first.run call
      discard <| second.run call : BuildM ρ Unit).Courses licence (bothTrail first second runs s) s :=
  head.discard.seq fun _ t _ orderly leads => (tail t orderly leads).discard

/-- One of the page's openings, of which the function takes its course on a builder of the
class that the opener opens. -/
theorem courses_opening (opener : Opener) {b : BuilderRef} {init : Init ρ} {options : Options}
    {runs : Runs ρ} {s : Session ρ} (orderly : s.store.Orderly)
    (there : b.index < s.store.builders.length) {owner : ClassId}
    (behind : owner ∈ s.store.classes.line (s.store.get b).classId)
    (has : (Standard.classes.get owner).members.find? opener.name = some opener.entry.2)
    (prepared : ∀ child t, child.index < t.store.builders.length →
      (t.store.get child).classId = opener.product.builderId →
      (init child).Courses licence (runs child t) t) :
    ((opener.opening b (some (.function init)) options).run call).Courses licence
      ((opener.opening b (some (.function init)) options).trail call runs s) s :=
  Opening.courses_run Caller.depthLimit (opener.offered orderly there behind has _ _)
    fun child t there opened => prepared child t there (opened _ rfl)

/-- The divisions of the page. -/
theorem courses_body {body : BuilderRef} {s : Session ρ}
    (there : body.index < s.store.builders.length)
    (class_ : (s.store.get body).classId = Standard.bodyBuilder) :
    (Sample.body body).Courses licence (bodyTrail body s) s := by
  intro earlier orderly
  have behind : ∀ {t : Session ρ}, s.store.Leads t.store →
      Standard.flowBuilder ∈ t.store.classes.line (t.store.get body).classId := by
    intro t leads
    rw [leads.grown.classId body there, class_, leads.sound.library.line (by decide)]
    decide
  have paragraph : ∀ (b : BuilderRef) (content : Value) (t : Session ρ),
      (discard <| b.p content : BuildM ρ Unit).Drifts licence t := fun b content t =>
    (Caller.drifts_paragraph Caller.depthLimit b content).discard
  refine courses_both ?_ ?_ earlier orderly
  · exact courses_opening .div orderly there (behind (.refl orderly.sound)) rfl
      fun child t _ _ => (paragraph child _ t).courses
  · intro t still leads
    refine courses_opening .div still (Nat.lt_of_lt_of_le there leads.grown.length)
      (behind leads) rfl fun child t _ _ => Drifts.courses ?_
    exact (paragraph child _ t).seq fun _ u _ _ => paragraph child _ u

/-- The head and the body of the page. -/
theorem courses_document {document : BuilderRef} {s : Session ρ}
    (there : document.index < s.store.builders.length)
    (class_ : (s.store.get document).classId = Standard.documentBuilder) :
    (Sample.document document).Courses licence (Sample.trail document s) s := by
  intro earlier orderly
  have behind : ∀ {t : Session ρ}, s.store.Leads t.store →
      Standard.documentBuilder ∈ t.store.classes.line (t.store.get document).classId := by
    intro t leads
    rw [leads.grown.classId document there, class_]
    exact List.mem_cons_self ..
  refine courses_both ?_ ?_ earlier orderly
  · exact courses_opening .head orderly there (behind (.refl orderly.sound)) rfl
      fun child t _ _ => (Caller.drifts_title Caller.depthLimit child _).discard.courses
  · intro t still leads
    exact courses_opening .body still (Nat.lt_of_lt_of_le there leads.grown.length)
      (behind leads) rfl fun child t there class_ => courses_body there class_

end Sample

/-! ### Scripts -/

namespace Script

mutual

/-- A step that defines, if `custom` allows it, only classes with orderly bodies, assigns only
attributes with public names and does not start a builder that is there over again. -/
def Step.Orderly (custom : Prop) : Step → Prop
  | .named _ step => step.Orderly custom
  | .about _ step => step.Orderly custom
  | .call _ member argument _ => member ≠ Hook.start.name ∧ argument.Orderly custom
  | .html argument => argument.Orderly custom
  | .set _ name _ => isPrivate name = false
  | .attempt steps => AllOrderly custom steps
  | .define _ _ body => custom ∧ body.Orderly
  | .defineMixin _ body => custom ∧ body.Orderly
  | _ => True

/-- The same of the steps of a block. -/
def Argument.Orderly (custom : Prop) : Argument → Prop
  | .block _ steps => AllOrderly custom steps
  | _ => True

def AllOrderly (custom : Prop) : List Step → Prop
  | [] => True
  | step :: rest => step.Orderly custom ∧ AllOrderly custom rest

end

mutual

/-- A step that defines only classes with orderly bodies and assigns only attributes with public
names. It defines classes, and starts builders that are there over again, only with a licence. -/
def Step.Licensed (licence : Licence) : Step → Prop
  | .named _ step => step.Licensed licence
  | .about _ step => step.Licensed licence
  | .call _ member argument _ =>
      (member = Hook.start.name → licence.restarts) ∧ argument.Licensed licence
  | .html argument => argument.Licensed licence
  | .set _ name _ => isPrivate name = false
  | .attempt steps => AllLicensed licence steps
  | .define _ _ body => licence.classes ∧ body.Orderly
  | .defineMixin _ body => licence.classes ∧ body.Orderly
  | _ => True

/-- The same of the steps of a block. -/
def Argument.Licensed (licence : Licence) : Argument → Prop
  | .block _ steps => AllLicensed licence steps
  | _ => True

def AllLicensed (licence : Licence) : List Step → Prop
  | [] => True
  | step :: rest => step.Licensed licence ∧ AllLicensed licence rest

end

mutual

/-- Orderly steps do nothing that needs a licence, but may define classes. -/
theorem Step.Orderly.licensed {custom : Prop} : ∀ {step : Step}, step.Orderly custom →
    step.Licensed (.lasting custom)
  | .named _ step, orderly => by
      rw [Step.Orderly] at orderly
      rw [Step.Licensed]
      exact Step.Orderly.licensed orderly
  | .about _ step, orderly => by
      rw [Step.Orderly] at orderly
      rw [Step.Licensed]
      exact Step.Orderly.licensed orderly
  | .call _ member argument _, orderly => by
      rw [Step.Orderly] at orderly
      rw [Step.Licensed]
      exact ⟨orderly.1, Argument.Orderly.licensed orderly.2⟩
  | .html argument, orderly => by
      rw [Step.Orderly] at orderly
      rw [Step.Licensed]
      exact Argument.Orderly.licensed orderly
  | .attempt steps, orderly => by
      rw [Step.Orderly] at orderly
      rw [Step.Licensed]
      exact AllOrderly.licensed orderly
  | .set _ _ _, orderly => orderly
  | .define _ _ _, orderly => orderly
  | .defineMixin _ _, orderly => orderly
  | .new _ _ _, _ => trivial
  | .sample, _ => trivial
  | .elements _, _ => trivial
  | .get _ _, _ => trivial
  | .node _, _ => trivial
  | .outline _, _ => trivial
  | .compare _ _, _ => trivial
  | .distinct _, _ => trivial
  | .getField _ _, _ => trivial
  | .setField _ _, _ => trivial
  | .deleteField _ _, _ => trivial
  | .fail _, _ => trivial

theorem Argument.Orderly.licensed {custom : Prop} : ∀ {argument : Argument},
    argument.Orderly custom → argument.Licensed (.lasting custom)
  | .block _ steps, orderly => by
      rw [Argument.Orderly] at orderly
      rw [Argument.Licensed]
      exact AllOrderly.licensed orderly
  | .absent, _ => trivial
  | .value _, _ => trivial
  | .builder _, _ => trivial
  | .node _, _ => trivial

theorem AllOrderly.licensed {custom : Prop} : ∀ {steps : List Step}, AllOrderly custom steps →
    AllLicensed (.lasting custom) steps
  | [], _ => trivial
  | _ :: _, orderly => ⟨Step.Orderly.licensed orderly.1, AllOrderly.licensed orderly.2⟩

end

variable {s t : Session Names}

theorem drifts_modify {f : Session Names → Session Names} (same : ∀ s, (f s).store = s.store) :
    (modify f : ScriptM Unit).Drifts licence s := by
  intro _
  show s.store.Drifts licence (f s).store
  rw [same]
  exact .refl _

theorem drifts_bindBuilder (name : String) (b : BuilderRef) :
    (bindBuilder name b).Drifts licence s :=
  drifts_modify fun _ => rfl

theorem drifts_bindAnswer (name : String) (answer : Answer) :
    (bindAnswer name answer).Drifts licence s := by
  unfold bindAnswer
  split
  · exact drifts_modify fun _ => rfl
  · exact Quiet.drifts fun _ => quiet_pure _

theorem drifts_enter {path : List Nat} {step : Step} {target : Option BuilderRef}
    {result : Except Fault Answer} {seen : Option Glimpse} :
    (enter path step target result seen).Drifts licence s := by
  refine Drifts.seq (drifts_modify fun _ => rfl) ?_
  intro _ t _ _
  refine Quiet.drifts fun _ => ?_
  split <;> exact quiet_pure _

/-- Recording a step takes the course of the step: looking at builders changes nothing. -/
theorem courses_recorded {path : List Nat} {step : Step} {body : ScriptM Answer}
    {happenings : List (Happening Names)} (h : body.Courses licence happenings s) :
    (recorded path step body).Courses licence happenings s := by
  show (outcome body >>= _).Courses licence happenings s
  refine h.outcome.before ?_
  intro result t _
  refine Drifts.after_looking (fun _ => ⟨.ok t, rfl⟩) ?_
  rintro after ⟨⟩ _
  dsimp only
  split
  · next b _ =>
      refine Drifts.seq (Quiet.drifts fun orderly => ?_) fun seen u _ _ =>
        show (enter path step _ result seen).Drifts licence u from drifts_enter
      exact (orderly.quiet_glimpse b).map _
  · exact show (enter path step _ result none).Drifts licence t from drifts_enter

/-- What a program has answered is known if its element, if it is one, has been carried or is
made of a text. -/
theorem Courses.answering {m : ScriptM Value} {happenings : List (Happening Names)}
    (h : m.Courses licence happenings s) (member : String)
    (known : ∀ node t, s.store.Orderly → m s = .ok (.node node) t → member ≠ "_make_node" →
      (∃ content, node = .title content ∨ node = .paragraph content) ∨
        ∃ h ∈ happenings, h.Carries node) :
    m.Courses licence (happenings ++ whenDone m s fun answer t => [.answered member answer t]) s := by
  intro earlier orderly
  refine h.and_then ?_ earlier orderly
  intro answer t run _ earlier
  refine .next (.refl _) (.answered ?_) (.refl _ _)
  rintro node rfl make
  rcases known node t orderly run make with text | ⟨h, among, carries⟩
  · exact .inl text
  · exact .inr ⟨h, List.mem_append_right _ among, carries⟩

/-- Nothing happens while a step only looks. -/
theorem Step.courses_of_looks {step : Step} (looks : step.looks = true) (path : List Nat)
    (s : Session Names) : (step.answer path).Courses licence [] s :=
  Quiet.courses fun orderly => Step.quiet_answer looks fun _ _ _ => orderly.readable

mutual

theorem Step.courses_answer : ∀ (step : Step), step.Licensed licence → ∀ (path : List Nat)
    (s : Session Names), (step.answer path).Courses licence (step.trail path s) s
  | .named name step, licensed, path, s => by
      rw [Step.answer, Step.trail]
      refine (Step.courses_answer step licensed path s).before ?_
      intro answer t _
      exact (drifts_bindAnswer name answer).map _
  | .about _ step, licensed, path, s => by
      rw [Step.answer, Step.trail]
      exact Step.courses_answer step licensed path s
  | .new name className options, _, path, s => by
      simp only [Step.answer, Step.trail]
      refine Drifts.courses (Drifts.after_looking (fun _ => quiet_query _) ?_)
      intro id named ordered
      have inside := ordered.sound.closed.named (query_eq_ok.1 named).1
      refine (Caller.drifts_create inside options).seq ?_
      intro b t _ _
      refine (drifts_bindBuilder name b).seq ?_
      intro _ u _ _
      exact Quiet.drifts fun ordered => quiet_present (ordered.readable b)
  | .call on member argument options, licensed, path, s => by
      rw [Step.answer, Step.trail]
      refine Courses.after_looking (fun _ => quiet_builderNamed on) ?_
      intro b _ _
      refine Courses.after_looking (fun _ => argument.quiet_check) ?_
      intro _ _ _
      refine Courses.after_looking
        (fun ordered => Caller.quiet_read Caller.depthLimit (ordered.readable b) member) ?_
      intro found read _
      refine Courses.after_looking (fun _ => argument.quiet_given path) ?_
      intro first given ordered
      have callable := Caller.callable_of_read ordered read licensed.1
      refine Courses.map (Courses.answering (Caller.courses_upTo _ Caller.depthLimit b found _ s
        (Argument.courses_given argument licensed.2 path given) fun _ => callable.1) member ?_) _
      intro node t ordered run make
      rcases Caller.node_of_answer _ ordered callable.1 run with ⟨owner, name, product, same⟩ | other
      · exact absurd same (callable.2 make owner name product)
      · exact other
  | .html argument, licensed, path, s => by
      rw [Step.answer, Step.trail]
      refine Courses.after_looking (fun _ => argument.quiet_given path) ?_
      intro first given ordered
      refine Courses.map (Courses.answering ?_ "html" ?_) _
      · exact courses_htmlOf (Argument.courses_given argument licensed path given)
      · intro node t _ run _
        exact .inr (carries_of_htmlOf run _)
  | .sample, _, path, s => by
      rw [Step.answer, Step.trail]
      refine Courses.map (Courses.answering ?_ "html" ?_) _
      · exact courses_html fun document t there class_ => Sample.courses_document there class_
      · intro node t _ run _
        exact .inr (carries_of_html run _)
  | .set on name value, licensed, path, s => by
      have shown : isPrivate name = false := licensed
      simp only [Step.answer, Step.trail]
      refine Drifts.courses (Drifts.after_looking (fun _ => quiet_builderNamed on) ?_)
      intro b _ _
      refine Drifts.map (drifts_perform ?_) _
      intro after ordered written
      have single : name ≠ attributesName := by
        rintro rfl
        exact absurd shown (by decide)
      rcases ordered.write_cases b (.inl single) with ⟨fault, eq⟩ | eq
      · cases eq.symm.trans written
      · cases eq.symm.trans written
        exact .one (.assigned b name value shown)
  | .attempt steps, licensed, path, s => by
      rw [Step.answer, Step.trail]
      refine (courses_runBlock steps licensed path 0 s).outcome.before ?_
      intro result t _
      refine Quiet.drifts fun _ => ?_
      split <;> exact quiet_pure _
  | .define name bases body, licensed, path, s => by
      simp only [Step.answer, Step.trail]
      refine Drifts.courses ((Caller.drifts_define call licensed.1 name bases licensed.2).seq ?_)
      intro id t _ _
      exact Quiet.drifts fun _ => (quiet_query _).bind fun _ _ => quiet_pure _
  | .defineMixin name body, licensed, path, s => by
      simp only [Step.answer, Step.trail]
      exact ((Caller.drifts_define call licensed.1 name [] licensed.2).discard.map _).courses
  | .elements _, _, path, s => Step.courses_of_looks rfl path s
  | .get _ _, _, path, s => Step.courses_of_looks rfl path s
  | .node _, _, path, s => Step.courses_of_looks rfl path s
  | .outline _, _, path, s => Step.courses_of_looks rfl path s
  | .compare _ _, _, path, s => Step.courses_of_looks rfl path s
  | .distinct _, _, path, s => Step.courses_of_looks rfl path s
  | .getField _ _, _, path, s => Step.courses_of_looks rfl path s
  | .setField _ _, _, path, s => Step.courses_of_looks rfl path s
  | .deleteField _ _, _, path, s => Step.courses_of_looks rfl path s
  | .fail _, _, path, s => Step.courses_of_looks rfl path s

/-- What is given as an argument takes its course when it is run. -/
theorem Argument.courses_given : ∀ (argument : Argument), argument.Licensed licence →
    ∀ (path : List Nat) {s t : Session Names} {first : Option (Given Names)} {options : Options},
    argument.given path s = .ok first t →
      Arguments.Courses licence (argument.trail path) { first, options }
  | .block inner steps, licensed, path, s, t, first, options, given => by
      cases given
      rintro init ⟨⟩ child s
      rw [Argument.trail]
      exact Courses.after (drifts_bindBuilder inner child).courses fun _ t _ _ _ =>
        courses_runBlock steps licensed path 0 t
  | .absent, _, _, _, _, _, _, given => fun init function =>
      absurd function (Argument.ne_function_of_given (by simp) given init)
  | .value _, _, _, _, _, _, _, given => fun init function =>
      absurd function (Argument.ne_function_of_given (by simp) given init)
  | .builder _, _, _, _, _, _, _, given => fun init function =>
      absurd function (Argument.ne_function_of_given (by simp) given init)
  | .node _, _, _, _, _, _, _, given => fun init function =>
      absurd function (Argument.ne_function_of_given (by simp) given init)

theorem courses_runBlock : ∀ (steps : List Step), AllLicensed licence steps →
    ∀ (path : List Nat) (position : Nat) (s : Session Names),
    (runBlock path position steps).Courses licence (blockTrail path position steps s) s
  | [], _, path, position, s => by
      rw [runBlock, blockTrail]
      exact Courses.resting (Quiet.courses fun _ => quiet_pure _)
  | step :: rest, licensed, path, position, s => by
      rw [runBlock, blockTrail]
      refine Courses.resting ((courses_recorded (Step.courses_answer step licensed.1 _ s)).seq ?_)
      intro fault t _ _ _
      cases fault with
      | none => exact courses_runBlock rest licensed.2 path (position + 1) t
      | some fault => exact Courses.resting (Quiet.courses fun _ => quiet_throw _)

end

end Script

end ScopedHtml
