import ScopedHtml.Proofs.Layout
import ScopedHtml.Proofs.ScriptChronicle

/-!
# ScopedHtml.Proofs.Gathering

**A builder of bodies only gathers.** From one occurrence to the next its children stay or get the
answer of a gathering call behind them (`Occurrence.Follows.children?`), if it is not started over.
So along any run they are those of before with what has been gathered behind them
(`Chronicle.children?`), and what a builder of bodies is finalized into extends what it was finalized
into before (`Script.successive_builds_extend`).
-/

namespace ScopedHtml

open BuildM

variable {ρ : Type}

/-! ### Equality of a value with itself -/

mutual

/-- Whether the records in an element have each name once. -/
def Node.Distinct : Node → Prop
  | .title content => content.Distinct
  | .paragraph content => content.Distinct
  | .head inner => inner.Distinct
  | .body children => AllDistinct children
  | .division children ident className =>
      AllDistinct children ∧ ident.Distinct ∧ className.Distinct
  | .document first second => first.Distinct ∧ second.Distinct

/-- The same of a value. -/
def Value.Distinct : Value → Prop
  | .list items => AllDistinct items
  | .tuple items => AllDistinct items
  | .record members => (members.map Prod.fst).Nodup ∧ MembersDistinct members
  | .node node => node.Distinct
  | _ => True

/-- The same of values in a row. -/
def AllDistinct : List Value → Prop
  | [] => True
  | value :: rest => value.Distinct ∧ AllDistinct rest

/-- The same of what stands under names. -/
def MembersDistinct : List (String × Value) → Prop
  | [] => True
  | (_, value) :: rest => value.Distinct ∧ MembersDistinct rest

end

theorem lookup_of_mem {members : List (String × Value)} {name : String} {value : Value}
    (once : (members.map Prod.fst).Nodup) (among : (name, value) ∈ members) :
    members.lookup name = some value := by
  induction members with
  | nil => cases among
  | cons entry rest ih =>
      obtain ⟨first, held⟩ := entry
      rw [List.map_cons, List.nodup_cons] at once
      rcases List.mem_cons.1 among with same | among
      · cases same
        simp
      · have other : name ≠ first := fun same =>
          once.1 (List.mem_map.2 ⟨(name, value), among, same⟩)
        rw [List.lookup_cons, beq_eq_false_iff_ne.2 other]
        exact ih once.2 among

mutual

theorem Node.same_self : ∀ {node : Node}, node.Distinct → node.same node = true
  | .title _, distinct => by
      rw [Node.Distinct] at distinct
      rw [Node.same]
      exact Value.same_self distinct
  | .paragraph _, distinct => by
      rw [Node.Distinct] at distinct
      rw [Node.same]
      exact Value.same_self distinct
  | .head _, distinct => by
      rw [Node.Distinct] at distinct
      rw [Node.same]
      exact Value.same_self distinct
  | .body _, distinct => by
      rw [Node.Distinct] at distinct
      rw [Node.same]
      exact sameItems_self distinct
  | .division _ _ _, distinct => by
      rw [Node.Distinct] at distinct
      obtain ⟨children, ident, className⟩ := distinct
      rw [Node.same, sameItems_self children, Value.same_self ident, Value.same_self className]
      rfl
  | .document _ _, distinct => by
      rw [Node.Distinct] at distinct
      rw [Node.same, Value.same_self distinct.1, Value.same_self distinct.2]
      rfl

theorem Value.same_self : ∀ {value : Value}, value.Distinct → value.same value = true
  | .null, _ => by rw [Value.same]
  | .bool _, _ => by simp [Value.same, Value.whole?]
  | .int _, _ => by simp [Value.same, Value.whole?]
  | .text _, _ => by simp [Value.same]
  | .fraction _, _ => by simp [Value.same]
  | .tags _, _ => by simp [Value.same]
  | .list _, distinct => by
      rw [Value.Distinct] at distinct
      rw [Value.same]
      exact sameItems_self distinct
  | .tuple _, distinct => by
      rw [Value.Distinct] at distinct
      rw [Value.same]
      exact sameItems_self distinct
  | .record _, distinct => by
      rw [Value.Distinct] at distinct
      rw [Value.same, sameMembers_self distinct.2 fun _ _ => lookup_of_mem distinct.1]
      simp
  | .node _, distinct => by
      rw [Value.Distinct] at distinct
      rw [Value.same]
      exact Node.same_self distinct

theorem sameItems_self : ∀ {items : List Value}, AllDistinct items → sameItems items items = true
  | [], _ => by rw [sameItems]
  | _ :: _, distinct => by
      rw [AllDistinct] at distinct
      rw [sameItems, Value.same_self distinct.1, sameItems_self distinct.2]
      rfl

theorem sameMembers_self : ∀ {members others : List (String × Value)}, MembersDistinct members →
    (∀ name value, (name, value) ∈ members → others.lookup name = some value) →
    sameMembers members others = true
  | [], _, _, _ => by rw [sameMembers]
  | (name, value) :: rest, others, distinct, there => by
      rw [MembersDistinct] at distinct
      have others := sameMembers_self distinct.2 fun name value among =>
        there name value (List.mem_cons_of_mem _ among)
      rw [sameMembers, there name value List.mem_cons_self, others, Bool.and_true]
      exact Value.same_self distinct.1

end

theorem length_eq_of_sameItems : ∀ {items others : List Value}, sameItems items others = true →
    items.length = others.length
  | [], [], _ => rfl
  | [], _ :: _, same => by simp [sameItems] at same
  | _ :: _, [], same => by simp [sameItems] at same
  | _ :: _, _ :: _, same => by
      rw [sameItems, Bool.and_eq_true] at same
      rw [List.length_cons, List.length_cons, length_eq_of_sameItems same.2]

/-! ### Bodies that extend others -/

/-- Of two bodies, the second has the children of the first and the added ones behind them. -/
structure Value.ExtendedBy (added : List Value) (first second : Value) : Prop where
  children : ∃ children, first = .node (.body children) ∧ second = .node (.body (children ++ added))
  unchanged : first = second ↔ added = []
  equal : first.Distinct → (first.same second = true ↔ added = [])
  written : ∃ text rest, first.written = text ++ "</body>" ∧ second.written = text ++ rest

theorem Value.extendedBy_append (children added : List Value) :
    (Value.node (.body children)).ExtendedBy added (.node (.body (children ++ added))) where
  children := ⟨children, rfl, rfl⟩
  unchanged := by simp
  equal := by
    intro distinct
    constructor
    · intro same
      rw [Value.same, Node.same] at same
      have lengths := length_eq_of_sameItems same
      rw [List.length_append] at lengths
      exact List.eq_nil_of_length_eq_zero (by omega)
    · rintro rfl
      rw [List.append_nil]
      exact Value.same_self distinct
  written := by
    refine ⟨String.ofList ("<body>\n".toList ++ lineChars children),
      String.ofList (lineChars added ++ "</body>".toList), ?_, ?_⟩
    · rw [← String.toList_inj, String.toList_append, String.toList_ofList, List.append_assoc]
      exact (Value.chars_node _).trans (chars_body children)
    · rw [← String.toList_inj, String.toList_append, String.toList_ofList, String.toList_ofList]
      refine ((Value.chars_node _).trans (chars_body _)).trans ?_
      simp [lineChars]

/-! ### Children along a run -/

section Children

variable {b : BuilderRef} {items : List Value} {before after : Store}

theorem Store.PassesBut.children? {free : BuilderRef → Prop} (passes : before.PassesBut True free after)
    (body : before.IsBody b) (other : ¬ free b) : after.children? b = before.children? b := by
  unfold Store.children?
  rw [passes.children trivial b body other]

/-- What has been gathered is behind the children of before. -/
theorem Store.Collects.children? {name : String} {answer : Value}
    (collects : before.Collects b name answer after) (goesOn : name ≠ Hook.start.name)
    (kept : before.children? b = some items) :
    after.children? b = some (items ++ if name ∈ gatherers then [answer] else []) := by
  unfold Store.Collects at collects
  unfold Store.children? at kept ⊢
  split at collects
  · next gathers =>
      obtain ⟨others, held, held'⟩ := collects
      rw [held] at kept
      cases kept
      rw [held', if_pos gathers]
      rfl
  · next other =>
      rw [collects.resolve_left goesOn, kept, if_neg other, List.append_nil]

/-- What happens next leaves the children or puts what was gathered behind them. -/
theorem Occurrence.Follows.children? {o : Occurrence ρ} (follows : o.Follows True before)
    (regular : before.Regular) (body : before.IsBody b) (goesOn : ¬ o.Restarts b)
    (kept : before.children? b = some items) :
    o.after.store.children? b = some (items ++ (o.gathered? b).toList) := by
  cases follows with
  | rest passes =>
      rw [Occurrence.after, passes.children? body id, kept]
      simp [Occurrence.gathered?]
  | built passes during _ =>
      rw [Occurrence.after, (passes.trans regular during).children? body id, kept]
      simp [Occurrence.gathered?]
  | defined passes during _ =>
      rw [Occurrence.after, (passes.trans regular during).children? body id, kept]
      simp [Occurrence.gathered?]
  | @called c member answer s passes gathers =>
      by_cases this : c = b
      · subst this
        have goesOn : member ≠ Hook.start.name := fun same => goesOn ⟨rfl, same⟩
        rw [Occurrence.after, (gathers trivial body).children? goesOn kept]
        by_cases gathers : member ∈ gatherers <;> simp [Occurrence.gathered?, gathers]
      · rw [Occurrence.after, passes.children? body (Ne.symm this), kept]
        simp [Occurrence.gathered?, this]

/-- Along a run the children are those of before, with what has been gathered behind them. -/
theorem Chronicle.children? {occurrences : List (Occurrence ρ)}
    (chronicle : Chronicle True before occurrences after) (regular : before.Regular)
    (body : before.IsBody b) (goesOn : ∀ o ∈ occurrences, ¬ o.Restarts b)
    (kept : before.children? b = some items) :
    after.children? b = some (items ++ occurrences.filterMap (Occurrence.gathered? b)) := by
  induction chronicle generalizing items with
  | done passes =>
      rw [passes.children? body id, kept, List.filterMap_nil, List.append_nil]
  | @next store _ o rest follows _ ih =>
      have here := follows.children? regular body (goesOn o List.mem_cons_self) kept
      rw [ih (follows.shifts.regular regular) (body.later follows.shifts regular)
        (fun other among => goesOn other (List.mem_cons_of_mem _ among)) here, List.append_assoc]
      congr 2
      rw [List.filterMap_cons]
      cases o.gathered? b <;> rfl

/-- What a chronicle says that begins with a builder that is finalized. -/
theorem Chronicle.of_built {made : Value} {s t : Session ρ} {rest : List (Occurrence ρ)}
    (chronicle : Chronicle True before (.built b made s t :: rest) after) :
    before.Passes True s.store ∧ s.store.Passes True t.store ∧
      (s.store.IsBody b → ∃ items, s.store.children? b = some items ∧
        made = .node (.body items)) ∧
      Chronicle True t.store rest after := by
  cases chronicle with
  | next follows others =>
      cases follows with
      | built passes during body => exact ⟨passes, during, body, others⟩

/-- Of two times that a builder of bodies is finalized, the second extends the first. -/
theorem Chronicle.extendedBy {m n : Value} {s t u v : Session ρ}
    {between later : List (Occurrence ρ)}
    (chronicle : Chronicle True before (.built b m s t :: between ++ .built b n u v :: later) after)
    (regular : before.Regular) (body : s.store.IsBody b) (goesOn : ∀ o ∈ between, ¬ o.Restarts b) :
    m.ExtendedBy (between.filterMap (Occurrence.gathered? b)) n := by
  obtain ⟨passes, during, first, others⟩ := chronicle.of_built
  obtain ⟨items, kept, rfl⟩ := first body
  have regular := passes.regular regular
  have still := during.regular regular
  have body' := body.later during.shifts regular
  -- What is kept between the two times is what the second one finds.
  obtain ⟨mid, gathering, rest⟩ := others.split
  have gathered := gathering.children? still body' goesOn ((during.children? body id).trans kept)
  obtain ⟨passes', _, second, _⟩ := rest.of_built
  have body'' := body'.later gathering.shifts still
  obtain ⟨others, kept', rfl⟩ := second
    (body''.later passes'.shifts (gathering.shifts.regular still))
  rw [passes'.children? body'' id, gathered] at kept'
  cases kept'
  exact Value.extendedBy_append _ _

end Children

/-! ### What is done to one builder -/

/-- The builders of a store besides one. -/
def Store.Besides (store : Store) (b c : BuilderRef) : Prop :=
  c ≠ b ∧ c.index < store.builders.length

/-- Arguments that spare the watched builders when they are run. -/
def Arguments.Spares (watched : BuilderRef → Prop) (store : Store) (arguments : Arguments ρ) :
    Prop :=
  ∀ given, arguments.first = some given → given.Calm watched store ∧ given.Shifts watched

namespace Store

variable {s t : Session ρ} {b c : BuilderRef}

/-- Assigning an attribute of a builder does nothing to others. -/
theorem Regular.get_of_write (regular : s.store.Regular) (other : s.store.Besides b c) (name : String)
    (value : Value) : (left (b.write name value) s).store.get c = s.store.get c := by
  have guards : s.store.Guards (s.store.Besides b) := ⟨regular, fun _ there => there.2⟩
  exact (Caller.shifts_write (fun there => there.1 rfl) value guards).spared guards other

/-- Nor does calling what a builder of bodies has, if the argument does not either. -/
theorem IsBody.get_of_call (body : s.store.IsBody b) (regular : s.store.Regular)
    (other : s.store.Besides b c) {member : String} {found : Found} {arguments : Arguments ρ}
    (read : b.read member s = .ok found t)
    (spares : arguments.Spares (s.store.Besides b) s.store) :
    (left (call b found arguments) t).store.get c = s.store.get c := by
  obtain rfl := (Caller.quiet_read _ (body.readable regular) member).eq_of_ok read
  have guards : t.store.Guards (t.store.Besides b) := ⟨regular, fun _ there => there.2⟩
  have permits : Caller.Permits (t.store.Besides b) t.store b found arguments :=
    { free := fun there => there.1 rfl
      offers := Caller.offers_found read
      calm := fun given first => (spares given first).1
      runs := fun _ _ _ _ _ given first => (spares given first).2 }
  exact (shifts_call b found arguments t permits guards).spared guards other

end Store

/-! ### Scripts -/

namespace Script

variable {steps : List Step} {earlier between later : List (Occurrence Names)} {b : BuilderRef}
  {m n : Value} {s t u v : Session Names}

/-- Of two times that a builder of bodies is finalized in a run that leaves private attributes
alone, the second extends what the first has made by what has been gathered between, if the builder
is not started over between. What is done to the builder from the first time on does nothing to any
other builder, so whoever got what the first time has made keeps it. -/
theorem successive_builds_extend (discreet : AllDiscreet steps)
    (told : topTold 0 steps start =
      earlier ++ .built b m s t :: (between ++ .built b n u v :: later))
    (body : s.store.IsBody b) (goesOn : ∀ o ∈ between, ¬ o.Restarts b) :
    m.ExtendedBy (between.filterMap (Occurrence.gathered? b)) n ∧
      ∀ now ∈ Occurrence.built b m s t :: (between ++ .built b n u v :: later),
        ∀ c, now.after.store.Besides b c →
          (∀ name value, (left (b.write name value : ScriptM Unit) now.after).store.get c =
            now.after.store.get c) ∧
          ∀ member found w (arguments : Arguments Names), b.read member now.after = .ok found w →
            arguments.Spares (now.after.store.Besides b) now.after.store →
            (left (call b found arguments) w).store.get c = now.after.store.get c := by
  have all : Chronicle True start.store (topTold 0 steps start) _ :=
    chronicles_runTop steps (fun _ => discreet) 0 start Store.Regular.initial
  rw [told] at all
  obtain ⟨mid, before, after⟩ := all.split
  have regular := before.shifts.regular Store.Regular.initial
  refine ⟨after.extendedBy regular body goesOn, ?_⟩
  obtain ⟨passes, during, _, others⟩ := after.of_built
  have regular' := passes.regular regular
  have onward : ∀ now ∈ Occurrence.built b m s t :: (between ++ .built b n u v :: later),
      s.store.Shifts (fun _ => False) now.after.store := by
    intro now among
    rcases List.mem_cons.1 among with rfl | among
    · exact during.shifts
    · exact during.shifts.trans (others.shifts_to among).2
  intro now among c other
  have there := (onward now among).regular regular'
  refine ⟨fun name value => there.get_of_write other name value, ?_⟩
  intro member found w arguments read spares
  exact (body.later (onward now among) regular').get_of_call there other read spares

/-- A body that is used on behind its scope, and finalized again. -/
def gatheringOn : List Step :=
  [.new "d" "DocumentBuilder" [],
    .call "d" "body" (.block "b" [.call "b" "p" (.value (.text "x")) []]) [],
    .call "b" "p" (.value (.text "y")) [], .call "b" "build" .absent []]

def gatheringTold : List (Occurrence Names) := topTold 0 gatheringOn start

/-- The two times that it is finalized: by its scope and by the script. -/
def byScope : Occurrence Names := gatheringTold.getD 5 (.rest start)

def byScript : Occurrence Names := gatheringTold.getD 10 (.rest start)

/-- A body of paragraphs. -/
def bodyOf (texts : List String) : Value :=
  .node (.body (texts.map fun text => .node (.paragraph (.text text))))

/-- They are two of the things that happen. -/
theorem gatheringTold_eq :
    gatheringTold = gatheringTold.take 5 ++
      .built ⟨1⟩ (bodyOf ["x"]) byScope.before byScope.after ::
        ((gatheringTold.drop 6).take 4 ++
          .built ⟨1⟩ (bodyOf ["x", "y"]) byScript.before byScript.after ::
            gatheringTold.drop 11) := by
  have first := take_append_getD_drop (by decide +kernel : 5 < gatheringTold.length) (.rest start)
  have second := take_append_getD_drop
    (by decide +kernel : 4 < (gatheringTold.drop 6).length) (.rest start)
  have scope : gatheringTold.getD 5 (.rest start) =
      .built ⟨1⟩ (bodyOf ["x"]) byScope.before byScope.after := rfl
  have script : (gatheringTold.drop 6).getD 4 (.rest start) =
      .built ⟨1⟩ (bodyOf ["x", "y"]) byScript.before byScript.after := rfl
  rw [scope] at first
  rw [script, List.drop_drop] at second
  exact first.trans (congrArg (fun later => _ ++ _ :: later) second)

theorem isBody_byScope : byScope.before.store.IsBody ⟨1⟩ := ⟨⟨by decide +kernel, rfl⟩, rfl⟩

/-- The document is another builder, and it has what the scope has made. -/
theorem besides_byScript :
    byScript.after.store.Besides ⟨1⟩ ⟨0⟩ ∧
      byScript.after.store.held? ⟨0⟩ "_body" = some (bodyOf ["x"]) :=
  ⟨⟨by decide, by decide +kernel⟩, rfl⟩

/-- The document has the body as its scope left it, also when the body is used further on. -/
theorem successive_builds_extend_behind_scope :
    gatheringTold = gatheringTold.take 5 ++
        .built ⟨1⟩ (bodyOf ["x"]) byScope.before byScope.after ::
          ((gatheringTold.drop 6).take 4 ++
            .built ⟨1⟩ (bodyOf ["x", "y"]) byScript.before byScript.after ::
              gatheringTold.drop 11) ∧
      byScope.before.store.IsBody ⟨1⟩ ∧
      (bodyOf ["x"]).ExtendedBy [.node (.paragraph (.text "y"))] (bodyOf ["x", "y"]) ∧
      ∃ found, BuilderRef.read ⟨1⟩ "p" byScript.after = .ok found byScript.after ∧
        (left (call ⟨1⟩ found { first := some (.value (.text "z")) })
          byScript.after).store.held? ⟨0⟩ "_body" = some (bodyOf ["x"]) := by
  have discreet : AllDiscreet gatheringOn := by
    simp [gatheringOn, AllDiscreet, Step.Discreet, Argument.Discreet]
  have goesOn : ∀ o ∈ (gatheringTold.drop 6).take 4, ¬ o.Restarts ⟨1⟩ := by
    decide +kernel
  obtain ⟨extended, spared⟩ :=
    successive_builds_extend discreet gatheringTold_eq isBody_byScope goesOn
  obtain ⟨other, slot⟩ := besides_byScript
  have read : BuilderRef.read ⟨1⟩ "p" byScript.after =
      .ok (.callable "FlowBuilder" "p" (.method .paragraph)) byScript.after := rfl
  refine ⟨gatheringTold_eq, isBody_byScope, extended, _, read, ?_⟩
  have same := (spared (.built ⟨1⟩ (bodyOf ["x", "y"]) byScript.before byScript.after)
    (by simp) ⟨0⟩ other).2 "p" _ byScript.after { first := some (.value (.text "z")) } read
    (by rintro given ⟨⟩; exact ⟨trivial, trivial⟩)
  exact (Store.held?_of_get same "_body").trans slot

/-- What a builder was finalized into, if one was, with its class. -/
def finalized? : Occurrence Names → Option (BuilderRef × ClassId × Value)
  | .built b made s _ => some (b, (s.store.get b).classId, made)
  | _ => none

/-- A body that is started over between. -/
def startingBodyOver : List Step :=
  [.new "b" "BodyBuilder" [], .call "b" "p" (.value (.text "x")) [], .call "b" "build" .absent [],
    .call "b" "__init__" .absent [], .call "b" "build" .absent []]

/-- A class of bodies with an opener of its own. -/
def gatheringSections : List Step :=
  [.define "Page" ["BodyBuilder"] { openers := [⟨"section", "DivBuilder", false, .append⟩] },
    .new "b" "Page" [], .call "b" "build" .absent [], .call "b" "section" .absent [],
    .call "b" "build" .absent []]

/-- What extends without private assignments does not if the builder is started over between: a
body with a paragraph is followed by an empty one. Builders of a class that continues that of bodies
gather with members of their own: an empty body is followed by one with a division, and no member of
`gatherers` has been called. -/
theorem not_extending_of_startedOver :
    (AllDiscreet startingBodyOver ∧
      (topTold 0 startingBodyOver start).filterMap finalized? =
        [(⟨0⟩, Standard.bodyBuilder, bodyOf ["x"]), (⟨0⟩, Standard.bodyBuilder, bodyOf [])] ∧
      ¬ [Value.node (.paragraph (.text "x"))] <+: []) ∧
    AllDiscreet gatheringSections ∧
      (left (runTop 0 gatheringSections) start).store.isOf ⟨0⟩ Standard.bodyBuilder = true ∧
      ((topTold 0 gatheringSections start).filterMap finalized?).map (·.2.2.written) =
        ["<body>\n</body>", "<div></div>", "<body>\n<div></div>\n</body>"] ∧
      (topTold 0 gatheringSections start).filterMap (Occurrence.gathered? ⟨0⟩) = [] := by
  refine ⟨⟨?_, rfl, by simp⟩, ?_, by decide +kernel, by decide +kernel,
    List.isEmpty_iff.1 (by decide +kernel)⟩
  · simp [startingBodyOver, AllDiscreet, Step.Discreet, Argument.Discreet]
  · simp [gatheringSections, AllDiscreet, Step.Discreet, Argument.Discreet]

end Script

end ScopedHtml
