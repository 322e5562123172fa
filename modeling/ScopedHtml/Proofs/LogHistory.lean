import ScopedHtml.Proofs.Account

/-!
# ScopedHtml.Proofs.LogHistory

**What is logged, and when.** Here the account of the log is carried through everything that a
script on the library's builders does: finalizing and attaching, opening scopes, calling
members, building documents (`Script.Step.accounted`). With it comes that the log is the
history of what was finalized (`Script.log_eq_history`).

The elements of openers go into lists of children, and those have to be lists. So nothing else
may be assigned in their place from outside (`Script.Step.Native`); where it is, a scope may be
finalized, and recorded, and fail nevertheless (`Script.log_ne_history_of_hidden`).
-/

namespace ScopedHtml

open BuildM

namespace Script

variable {s t : Session Names} {b child : BuilderRef} {name : String}

/-! ### Scopes -/

/-- A function whose run on a builder is accounted for, if it is one. -/
def GivenAccounted (given : Given Names) : Prop :=
  ∀ init, given = .function init → ∀ (child : BuilderRef) (t : Session Names), Accounts t [] →
    child.index < t.store.builders.length → Accounted t (fun _ => []) (init child t)

theorem accounted_run (call : Caller Names) {given : Given Names} (runs : GivenAccounted given)
    (accounts : Accounts s []) (inside : child.index < s.store.builders.length) :
    Accounted s (fun _ => []) (call.run given child s) := by
  cases given with
  | value held => exact .error (.refl _) accounts
  | function init => exact runs init rfl child s accounts inside
  | builder callee =>
      unfold Caller.run
      show Accounted s _ ((observe _ >>= _) s)
      rw [observe_bind, accounts.native.uncalled]
      exact .error (.refl _) accounts

/-- Finalizing one of the library's builders has one record, if it does not fail. -/
theorem accounted_own_build (accounts : Accounts s []) {product : Product}
    (inside : child.index < s.store.builders.length)
    (classId : (s.store.get child).classId = product.builderId) (depth : Nat) :
    Accounted s (fun _ => [.finalized product.builderName product.tag])
      ((Caller.upTo depth).own child "build" s) := by
  rcases accounts.native.own_build_cases inside classId depth with
    ⟨fault, eq⟩ | ⟨node, tag, eq⟩
  · rw [eq]
    exact .error (.refl _) accounts
  · rw [eq]
    have finalized := accounts.native.worked_finalizedInto child node
    rw [accounts.native.className classId, tag] at finalized
    exact .ok finalized.grown (accounts.worked finalized)

/-- Finalizing the builder of a scope and attaching its element has one record, if it does not
fail. -/
theorem accounted_fromBuild (opener : Opener) {given : Option (Given Names)} {options : Options}
    (accounts : Accounts s []) (inside : b.index < s.store.builders.length)
    (flow : opener.attachment = .append → s.store.isOf b Standard.flowBuilder)
    (there : child.index < s.store.builders.length)
    (classId : (s.store.get child).classId = opener.product.builderId) (depth : Nat) :
    Accounted s (recordOf opener.product.builderName)
      ((opener.opening b given options).fromBuild (.upTo depth) child s) := by
  rcases accounts.native.own_build_cases there classId depth with
    ⟨fault, eq⟩ | ⟨node, _, eq⟩
  · rw [Opening.fromBuild, bind_of_error eq]
    exact .error (.refl _) accounts
  · have finalized := accounts.native.worked_finalizedInto child node
    rw [accounts.native.className classId] at finalized
    -- The record is there, and the element can be attached for sure.
    obtain ⟨after, attached, works⟩ := Store.Native.exists_attach
      (s := { s with store := s.store.finalizedInto child node }) finalized.native (.upTo depth)
      opener (Nat.lt_of_lt_of_le inside finalized.grown.length) (fun append => by
        rw [accounts.native.isOf finalized.native finalized.grown inside]
        exact flow append) (.node node)
    have all := finalized.trans works
    rw [List.append_nil] at all
    have ended : (opener.opening b given options).fromBuild (.upTo depth) child s =
        .ok (.node node) { s with store := after } :=
      (bind_of_ok eq).trans (bind_of_ok attached)
    rw [ended]
    exact .ok all.grown (accounts.worked all)

/-- Opening a scope has one record, if it does not fail, behind those of its block. -/
theorem accounted_opening (opener : Opener) {given : Option (Given Names)} {options : Options}
    (runs : ∀ init, given = some init → GivenAccounted init) (accounts : Accounts s [])
    (inside : b.index < s.store.builders.length)
    (flow : opener.attachment = .append → s.store.isOf b Standard.flowBuilder) (depth : Nat) :
    Accounted s (recordOf opener.product.builderName)
      ((opener.opening b given options).run (.upTo depth) s) := by
  rw [opener.run_eq _ accounts.native.library]
  cases opener.product.signature.bind none options with
  | error fault => exact .error (.refl _) accounts
  | ok bound =>
      have native := accounts.native
      have added := native.worked_add opener.product options
      have new := (Store.shows_add_new accounts.native.library opener.product options).isA
      rw [Content.product_start] at new
      refine .trans added.grown (.bind ?_ ?_)
      · cases given with
        | none => exact .ok (.refl _) (accounts.worked added)
        | some given => exact accounted_run _ (runs given rfl) (accounts.worked added) new.inside
      · intro _ t _ grown accounts
        have parent := Nat.lt_of_lt_of_le inside added.grown.length
        have child := grown.isA new
        refine accounted_fromBuild opener accounts (Nat.lt_of_lt_of_le parent grown.length) ?_
          child.inside child.classId depth
        intro append
        rw [added.native.isOf accounts.native grown parent,
          native.isOf added.native added.grown inside]
        exact flow append

/-! ### Calls -/

/-- Of the library's classes that of all builders alone registers others. -/
theorem heir_of_library (id : ClassId) {member : Member}
    (found : (Standard.classes.get id).members.find? Hook.heir.name = some member) :
    member = .method .register :=
  Standard.heir_eq (Standard.get_mem (ClassTable.inside_of_find? found)) found

/-- Being registered again changes nothing about the library's classes. -/
theorem accounted_announce (call : Caller Names) (product : Product) (options : Options)
    (accounts : Accounts s []) : ∀ row : List ClassId,
      Accounted s (fun _ => []) (call.announce product.builderId options row s)
  | [] => by
      unfold Caller.announce
      refine .of_quiet accounts ?_ fun _ _ => rfl
      split
      · exact quiet_pure _
      · exact (quiet_observe _).bind fun _ _ => quiet_throw _
  | next :: rest => by
      unfold Caller.announce
      rw [observe_bind]
      cases found : (s.store.classes.get next).members.find? Hook.heir.name with
      | none => exact accounted_announce call product options accounts rest
      | some member =>
          rw [accounts.native.classes] at found
          obtain rfl := heir_of_library next found
          refine .bind (accounted_announce call product options accounts rest).discard ?_
          intro _ t _ _ accounts
          exact (Accounted.perform accounts fun after registered =>
            accounts.native.worked_registered product registered).map fun _ => rfl

/-- Putting something behind the children records nothing. -/
theorem accounted_push (depth : Nat) (accounts : Accounts s []) (made : Value) :
    Accounted s (fun _ => []) ((Caller.upTo depth).push b made s) := by
  refine .after_looking accounts
    (Caller.quiet_read depth (accounts.native.readsPlainly b).readable _) ?_
  intro children _
  exact .perform accounts fun after pushed => accounts.native.worked_push pushed

/-- Calling a method other than the one that finalizes records nothing. -/
theorem accounted_method (depth : Nat) (accounts : Accounts s []) (given : Given Names)
    (method : Method) (other : method ≠ .build) :
    Accounted s (fun _ => []) ((Caller.upTo depth).method b given method s) := by
  have plain := accounts.native.readsPlainly b
  cases method with
  | build => exact absurd rfl other
  | missing =>
      exact .of_quiet accounts
        ((Caller.quiet_missing depth plain.readable).bind fun _ _ => quiet_pure _) fun _ _ => rfl
  | elements =>
      exact .of_quiet accounts ((quiet_query _).bind fun _ _ => quiet_pure _) fun _ _ => rfl
  | paragraph =>
      exact ((accounted_push depth accounts _).map fun _ => rfl).map fun _ => rfl
  | append =>
      rcases Caller.appendGiven_cases (b := b) depth given (fun other =>
          ⟨(accounts.native.readsPlainly other).readable, accounts.native.foreign? other⟩) with
        ⟨node, rfl⟩ | ⟨fault, eq⟩
      · exact ((accounted_push depth accounts _).map fun _ => rfl).map fun _ => rfl
      · show Accounted s _ (((Caller.upTo depth).appendGiven b given >>= _) s)
        rw [bind_of_error eq]
        exact .error (.refl _) accounts
  | title =>
      refine .bind (.perform accounts fun after written =>
        accounts.native.worked_write ?_ written) ?_
      · exact ⟨fun same => absurd same (by decide), fun same => absurd same (by decide)⟩
      · intro _ t _ _ accounts
        exact .of_quiet accounts
          (Caller.quiet_readValue depth (accounts.native.readsPlainly b).readable _) fun _ _ => rfl
  | report =>
      cases given with
      | value held =>
          cases held with
          | text name => exact .of_quiet accounts (Caller.quiet_report depth plain name) fun _ _ => rfl
          | _ => exact .error (.refl _) accounts
      | _ => exact .error (.refl _) accounts
  | register => exact .ok (.refl _) accounts

/-- Whether calling a member finalizes a builder if it does not fail. -/
def finalizes : Member → Bool
  | .opener _ _ => true
  | .method .build => true
  | _ => false

/-- Whether a member is the building of nodes. -/
def builds : Member → Bool
  | .method .build => true
  | _ => false

/-- Whether a member is what starts a builder. -/
def starts : Member → Bool
  | .starter _ => true
  | _ => false

/-- The members whose calls have records can be told by their names. -/
theorem finalizes_of_resolve {product : Product} {owner : ClassId} {member : Member}
    (resolved : Standard.classes.resolve product.builderId name = some (owner, member)) :
    (member = .method .build → name = "build") ∧
      (finalizes member = false → name ≠ "build" ∧ Opener.ofName? name = none) := by
  obtain ⟨behind, found⟩ := ClassTable.resolveAlong_eq_some resolved
  have all : ∀ id ∈ Standard.classes.line product.builderId,
      ∀ entry ∈ (Standard.classes.get id).members.entries,
        (builds entry.2 = true → entry.1 = "build") ∧
          (finalizes entry.2 = false →
            entry.1 ≠ "build" ∧ (Opener.ofName? entry.1).isNone = true) := by
    cases product <;> decide
  obtain ⟨build, other⟩ := all owner behind _ (Bindings.mem_of_findIn found)
  refine ⟨?_, fun quiet => (other quiet).imp_right Option.isNone_iff_eq_none.1⟩
  rintro rfl
  exact build rfl

/-- What starts builders stands under one name only. -/
theorem starter_of_resolve {product : Product} {owner : ClassId} {starter : Starter}
    (resolved : Standard.classes.resolve product.builderId name = some (owner, .starter starter)) :
    starter.Known := by
  obtain ⟨behind, found⟩ := ClassTable.resolveAlong_eq_some resolved
  have all : ∀ id ∈ Standard.classes.line product.builderId,
      ∀ entry ∈ (Standard.classes.get id).members.entries,
        starts entry.2 = true → entry.1 = Hook.start.name := by
    cases product <;> decide
  have start := all owner behind _ (Bindings.mem_of_findIn found) rfl
  have inside := ClassTable.line_of_library _ product.inside owner behind
  refine ⟨_, Standard.get_mem inside, ?_⟩
  rw [← start]
  exact found

theorem callRecords_of_other {className : String} (build : name ≠ "build")
    (opener : Opener.ofName? name = none) (made : Value) :
    callRecords className name made = [] := by
  unfold callRecords
  rw [if_neg build, opener]

theorem callRecords_null (className : String) : callRecords className name .null = [] := by
  unfold callRecords
  split
  · rfl
  · split <;> rfl

theorem callRecords_opener (opener : Opener) (className : String) (made : Value) :
    callRecords className opener.name made = recordOf opener.product.builderName made := by
  cases opener <;> rfl

/-- Assigning once more what a builder starts with records nothing. -/
theorem accounted_assignStart (accounts : Accounts s []) {starter : Starter} (known : starter.Known)
    (given : Options) :
    Accounted s (fun _ => [])
      ((perform fun store => store.start b starter given : ScriptM Unit) s) :=
  .perform accounts fun _ started => accounts.native.worked_start known given started

/-- Neither does having it done by the classes in a row. -/
theorem accounted_startAlong (call : Caller Names) (row : List ClassId) :
    ∀ {s : Session Names}, Accounts s [] → Accounted s (fun _ => []) (call.startAlong b row s) := by
  induction row with
  | nil => exact fun accounts => .ok (.refl _) accounts
  | cons next rest ih =>
      intro s accounts
      unfold Caller.startAlong
      rw [observe_bind]
      cases found : (s.store.classes.get next).members.find? Hook.start.name with
      | none => exact ih accounts
      | some member =>
          -- The class is one of the library's, so what it has for it is a starter.
          rw [accounts.native.classes] at found
          have among := Standard.get_mem (ClassTable.inside_of_find? found)
          obtain ⟨starter, rfl⟩ := Standard.exists_starter among found
          have known : starter.Known := ⟨_, among, found⟩
          dsimp only
          split
          · exact (ih accounts).bind fun _ _ _ _ accounts => accounted_assignStart accounts known []
          · exact accounted_assignStart accounts known []

theorem accounted_startWith (call : Caller Names) (accounts : Accounts s []) {starter : Starter}
    (known : starter.Known) (given : Options) :
    Accounted s (fun _ => []) (call.startWith b starter given s) := by
  unfold Caller.startWith
  cases starter.home with
  | none => exact accounted_assignStart accounts known given
  | some home =>
      dsimp only
      rw [observe_bind]
      exact (accounted_startAlong call _ accounts).bind fun _ _ _ _ accounts =>
        accounted_assignStart accounts known given

/-- Calling a member that neither finalizes nor opens anything records nothing. -/
theorem accounted_member {owner : String} {called : Member} {arguments : Arguments Names}
    (accounts : Accounts s []) {product : Product}
    (classId : (s.store.get b).classId = product.builderId)
    (known : ∀ starter, called = .starter starter → starter.Known)
    (quiet : finalizes called = false) :
    Accounted s (fun _ => []) (call b (.callable owner name called) arguments s) := by
  have plain := accounts.native.readsPlainly b
  cases called with
  | opener target attachment => cases quiet
  | plain => exact .ok (.refl _) accounts
  | data value => exact .ok (.refl _) accounts
  | property property => exact .ok (.refl _) accounts
  | inherent => exact .ok (.refl _) accounts
  | method method =>
      by_cases heir : method = .register
      · subst heir
        show Accounted s _ ((settle _ >>= _) s)
        refine .after_looking accounts (quiet_settle _) ?_
        intro options _
        show Accounted s _ ((Caller.upTo 999).announce (s.store.get b).classId options _ s)
        rw [classId]
        exact accounted_announce _ product options accounts _
      · show Accounted s _ (Caller.upTo (999 + 1) b _ arguments s)
        rw [Caller.upTo_method 999 s b owner name method heir arguments]
        refine .after_looking accounts (quiet_settle _) ?_
        intro given _
        refine accounted_method 999 accounts given method ?_
        rintro rfl
        cases quiet
  | starter starter =>
      show Accounted s _ ((settle _ >>= _) s)
      refine .after_looking accounts (quiet_settle _) ?_
      intro given _
      exact (accounted_startWith _ accounts (known starter rfl) _).map fun _ => rfl
  | maker product =>
      cases product with
      | none => exact .ok (.refl _) accounts
      | some product =>
          show Accounted s _ ((discard (settle _) >>= _) s)
          refine .after_looking accounts (quiet_settle _).discard ?_
          intro _ _
          exact .of_quiet accounts
            ((Caller.quiet_make 999 plain.readable product).bind fun _ _ => quiet_pure _)
            fun _ _ => rfl

/-- Calling a member that finalizes the builder, or that of a scope, has one record. -/
theorem accounted_finalizing {owner : String} {called : Member} {first : Option (Given Names)}
    {options : Options} (accounts : Accounts s []) (inside : b.index < s.store.builders.length)
    {product : Product} (classId : (s.store.get b).classId = product.builderId) {id : ClassId}
    (resolved : Standard.classes.resolve product.builderId name = some (id, called))
    (done : finalizes called = true)
    (runs : ∀ given, first = some given → GivenAccounted given) :
    Accounted s (callRecords (s.store.className b) name)
      (call b (.callable owner name called) { first, options } s) := by
  cases called with
  | opener target attachment =>
      obtain ⟨opener, same, flow⟩ := Product.opener_of_resolve resolved
      cases same
      show Accounted s _ (call b (.callable owner opener.name opener.entry.2) _ s)
      have records : callRecords (s.store.className b) opener.name =
          recordOf opener.product.builderName := funext (callRecords_opener opener _)
      rw [opener.call_eq, records]
      refine accounted_opening opener ?_ accounts inside
        (fun append => accounts.native.isOf_flowBuilder classId (flow append)) 999
      intro given among
      refine runs given ?_
      unfold Arguments.init? at among
      split at among
      · cases among
      · exact among
  | method method =>
      obtain rfl : method = .build := by
        cases method <;> first | rfl | cases done
      obtain rfl := (finalizes_of_resolve resolved).1 rfl
      show Accounted s _ (Caller.upTo (999 + 1) b _ { first, options } s)
      rw [Caller.upTo_method 999 s b owner "build" .build (by decide)]
      refine .after_looking accounts (quiet_settle _) ?_
      intro given _
      rcases Caller.build_cases 999 (accounts.native.ordinary inside) with
        ⟨fault, eq⟩ | ⟨node, eq⟩
      · show Accounted s _ ((Caller.upTo 999).build b s)
        rw [eq]
        exact .error (.refl _) accounts
      · show Accounted s _ ((Caller.upTo 999).build b s)
        have finalized := accounts.native.worked_finalizedInto b node
        rw [eq]
        exact .ok finalized.grown (accounts.worked finalized)
  | _ => cases done

/-- Calling what was found under a name has the records that the name tells. -/
theorem accounted_call {found : Found} {first : Option (Given Names)} {options : Options}
    (accounts : Accounts s []) (inside : b.index < s.store.builders.length)
    (read : b.read name s = .ok found s)
    (runs : ∀ given, first = some given → GivenAccounted given) :
    Accounted s (callRecords (s.store.className b) name) (call b found { first, options } s) := by
  obtain ⟨product, classId⟩ := (accounts.native.builders b inside).product
  have readable := (accounts.native.readsPlainly b).readable
  cases found with
  | value held => exact .error (.refl _) accounts
  | callable owner other called =>
      rcases Caller.offers_of_read readable read owner other called rfl with
        (@⟨origin, member⟩ | ⟨rfl, c, -, has⟩) | rfl
      · obtain rfl : other = name := by
          rcases Caller.name_of_read readable read with same | rfl
          · exact same
          · rw [accounts.native.member?_attribute (by decide) inside] at member
            cases member
        rw [accounts.native.member? classId] at member
        obtain ⟨build, others⟩ := finalizes_of_resolve member
        cases quiet : finalizes called with
        | false =>
            obtain ⟨build, opener⟩ := others quiet
            have none : callRecords (s.store.className b) other = fun _ => [] :=
              funext (callRecords_of_other build opener)
            rw [none]
            refine accounted_member accounts classId ?_ quiet
            rintro starter rfl
            exact starter_of_resolve member
        | true => exact accounted_finalizing accounts inside classId member quiet runs
      · -- What starts builders is a starter in all classes in the line.
        rw [accounts.native.classes] at has
        have among := Standard.get_mem (ClassTable.inside_of_find? has)
        obtain ⟨starter, rfl⟩ := Standard.exists_starter among has
        obtain rfl : name = Hook.start.name :=
          (Caller.name_of_read readable read).elim Eq.symm fun same => absurd same (by decide)
        have none : callRecords (s.store.className b) Hook.start.name = fun _ => [] :=
          funext (callRecords_of_other (by decide) (by decide))
        rw [none]
        refine accounted_member accounts classId ?_ rfl
        rintro _ ⟨⟩
        exact ⟨_, among, has⟩
      · refine .ok (.refl _) ?_
        rw [callRecords_null]
        exact accounts

/-- Building a document has one record of its own, behind those of its block. -/
theorem accounted_htmlOf {first : Option (Given Names)} (accounts : Accounts s [])
    (runs : ∀ given, first = some given → GivenAccounted given) :
    Accounted s (fun _ => [.finalized "DocumentBuilder" "html"]) (htmlOf { first } s) := by
  cases first with
  | none => exact .error (.refl _) accounts
  | some given =>
      have created := call.create_eq accounts.native.library .document []
      have added := accounts.native.worked_add .document []
      have new := (Store.shows_add_new accounts.native.library .document []).isA
      rw [htmlOf_eq]
      rw [show (create Product.document.builderId [] >>= fun doc => call.run given doc >>= fun _ =>
        call.own doc "build") s = (call.run given ⟨s.store.builders.length⟩ >>= fun _ =>
          call.own ⟨s.store.builders.length⟩ "build") { s with store := (s.store.add _).2 } from
        bind_of_ok created]
      refine .trans added.grown (.bind
        (accounted_run call (runs given rfl) (accounts.worked added) new.inside) ?_)
      intro _ t _ grown accounts
      have doc := grown.isA new
      exact accounted_own_build accounts doc.inside doc.classId Caller.depthLimit

/-! ### Steps -/

mutual

/-- A step on builders of the library's classes that leaves those with children a list of them.
Besides, it may do anything: assign any other attribute, call members of any name, look at
anything, fail and catch failures. -/
def Step.Native : Step → Prop
  | .named _ step => step.Native
  | .about _ step => step.on? = none ∧ step.Native
  | .call _ _ argument _ => argument.Native
  | .html argument => argument.Native
  | .set _ name value => Store.KeepsChildren name value
  | .attempt steps => AllNative steps
  | .define _ _ _ => False
  | .defineMixin _ _ => False
  | _ => True

/-- An argument whose block, if it is one, has only such steps. -/
def Argument.Native : Argument → Prop
  | .block _ steps => AllNative steps
  | _ => True

/-- Steps in a row of this kind. -/
def AllNative : List Step → Prop
  | [] => True
  | step :: rest => step.Native ∧ AllNative rest

end

/-- The records of a step that is about no builder depend on none. -/
theorem Step.records_of_on? : ∀ (step : Step), step.on? = none →
    ∀ (className other : Option String) (answer : Answer),
      step.records className answer = step.records other answer
  | .named _ step, alone, className, other, answer => by
      rw [Step.records, Step.records]
      exact Step.records_of_on? step alone className other answer
  | .about _ _, alone, _, _, _ => by cases alone
  | .call _ _ _ _, alone, _, _, _ => by cases alone
  | .get _ _, alone, _, _, _ => by cases alone
  | .set _ _ _, alone, _, _, _ => by cases alone
  | .new _ _ _, _, _, _, _ => rfl
  | .html _, _, _, _, _ => rfl
  | .sample, _, _, _, _ => rfl
  | .elements _, _, _, _, _ => rfl
  | .node _, _, _, _, _ => rfl
  | .outline _, _, _, _, _ => rfl
  | .compare _ _, _, _, _, _ => rfl
  | .distinct _, _, _, _, _ => rfl
  | .getField _ _, _, _, _, _ => rfl
  | .setField _ _, _, _, _, _ => rfl
  | .deleteField _ _, _, _, _, _ => rfl
  | .fail _, _, _, _, _ => rfl
  | .attempt _, _, _, _, _ => rfl
  | .define _ _ _, _, _, _, _ => rfl
  | .defineMixin _ _, _, _, _, _ => rfl

/-- A builder that is there may be bound to a name. -/
theorem Accounts.bindBuilder (accounts : Accounts s []) (inside : b.index < s.store.builders.length)
    (name : String) : Accounted s (fun _ => []) (bindBuilder name b s) := by
  refine .ok (.refl _) (accounts.names rfl ?_)
  intro other c bound
  by_cases same : other = name
  · subst same
    rw [Bindings.find?_bind_self] at bound
    cases bound
    exact inside
  · rw [Bindings.find?_bind_of_ne _ same] at bound
    exact accounts.bound other c bound

/-- The builder that a step is about is there. -/
theorem Accounts.inside_of_target {pending : List Log.Event} (accounts : Accounts s pending)
    {step : Step} (target : step.target? s.extra = some b) : b.index < s.store.builders.length := by
  obtain ⟨on, _, bound⟩ := Option.bind_eq_some_iff.1 target
  exact accounts.bound on b bound

/-- One of the library's builders can be asked for all there is to see. -/
theorem exists_glimpse_of_native (native : s.store.Native)
    (inside : b.index < s.store.builders.length) : ∃ seen, glimpse b s = .ok seen s := by
  have working := native.builders b inside
  have plain := native.readsPlainly b
  obtain ⟨product, classId⟩ := working.product
  have isFlow : b.isFlow s = .ok (s.store.isOf b Standard.flowBuilder) s := by
    have unmasked : s.store.isMasked b = false := by
      unfold Store.isMasked Store.hook?
      rw [native.member? classId, native.member? classId]
      cases product <;> rfl
    show Caller.isOf call b _ s = _
    unfold Caller.isOf
    rw [observe_bind, unmasked]
    rfl
  obtain ⟨missing, asked⟩ : ∃ missing, outcome (b.callOwn "missing") s = .ok missing s := by
    rcases (Caller.quiet_own_missing (s := s) Caller.depthLimit
      (native.ordinary inside).ordinary).cases with ⟨fault, eq⟩ | ⟨names, eq⟩ <;>
      exact ⟨_, by rw [outcome_apply, show b.callOwn "missing" s = _ from eq]⟩
  have property : ∀ name property, (∃ owner, Standard.classes.resolve product.builderId name =
      some (owner, .property property)) → ∀ found, call.computed b property s = .ok found s →
        b.read name s = .ok found s := by
    intro name property resolved found computed
    obtain ⟨owner, resolved⟩ := resolved
    refine Caller.reading_of_ok plain ?_
    rw [observe_bind, Store.property?, native.member? classId, resolved]
    exact computed
  obtain ⟨value, flag⟩ := working.flag
  have finalized := property "is_finalized" .isFinalized
    (by cases product <;> exact ⟨_, rfl⟩) _ (Caller.readKept_of_kept plain (Store.kept?_of_held flag))
  unfold glimpse
  rw [bind_of_ok isFlow, bind_of_ok asked, bind_of_ok finalized]
  cases flow : s.store.isOf b Standard.flowBuilder with
  | false => exact ⟨_, rfl⟩
  | true =>
      obtain ⟨items, held⟩ := working.children flow
      have computed : call.computed b .children s = .ok (.value (.tuple items)) s :=
        bind_of_ok (Caller.readKept_of_kept plain (Store.kept?_of_held held))
      have resolved : ∃ owner, Standard.classes.resolve product.builderId "children" =
          some (owner, .property .children) := by
        unfold Store.isOf at flow
        rw [classId, native.classes] at flow
        cases product with
        | head => exact absurd flow (by decide)
        | document => exact absurd flow (by decide)
        | body => exact ⟨_, rfl⟩
        | division => exact ⟨_, rfl⟩
      rw [if_pos rfl]
      exact ⟨_, bind_of_ok (property "children" .children resolved _ computed)⟩

/-- A step that is accounted for is recorded, and then nothing is pending. -/
theorem recorded_of_accounted (path : List Nat) {step : Step} {body : ScriptM Answer}
    (accounts : Accounts s [])
    (accounted : Accounted s
      (step.records ((step.target? s.extra).map s.store.className)) (body s)) :
    ∃ fault t, recorded path step body s = .ok fault t ∧ s.store.Grown t.store ∧ Accounts t [] := by
  -- The entry that is to be written accounts for what is pending.
  obtain ⟨result, t, run, grown, told⟩ : ∃ result t, outcome body s = .ok result t ∧
      s.store.Grown t.store ∧ ∃ pending, Accounts t pending ∧ ∀ seen, Entry.records t.store
        { path, step, target := step.target? s.extra, result, glimpse := seen } = pending := by
    rw [outcome_apply]
    generalize body s = ended at accounted
    cases accounted with
    | @ok answer t grown after =>
        refine ⟨_, _, rfl, grown, _, after, fun seen => ?_⟩
        have same : (step.target? s.extra).map t.store.className =
            (step.target? s.extra).map s.store.className :=
          Option.map_congr fun b target => className_of_grown accounts.native after.native grown
            (accounts.inside_of_target target)
        show step.records ((step.target? s.extra).map t.store.className) answer = _
        rw [same]
    | error grown after => exact ⟨_, _, rfl, grown, _, after, fun _ => rfl⟩
  obtain ⟨pending, after, records⟩ := told
  obtain ⟨fault, seen, eq⟩ := recorded_eq path run fun b target =>
    exists_glimpse_of_native after.native (after.inside_of_target target)
  exact ⟨fault, _, eq, grown, after.entry (fun b target => Nat.lt_of_lt_of_le
    (accounts.inside_of_target target) grown.length) (records seen)⟩

/-- A step that only looks has no records. -/
theorem Step.accounted_of_looks {step : Step} {path : List Nat} (looks : step.looks = true)
    (className : Option String) (accounts : Accounts s []) :
    Accounted s (step.records className) (step.answer path s) := by
  refine .of_quiet accounts
    (Step.quiet_answer looks fun _ _ _ b => (accounts.native.readsPlainly b).readable) ?_
  intro answer _
  cases step <;> first | rfl | cases looks

/-- Binding the answer of a step to a name changes nothing about its records. -/
theorem Accounts.bindAnswer {pending : List Log.Event} (accounts : Accounts s pending)
    (name : String) (answer : Answer) : ∃ t, bindAnswer name answer s = .ok () t ∧
      t.store = s.store ∧ Accounts t pending := by
  unfold Script.bindAnswer
  split
  · exact ⟨_, rfl, rfl, accounts.names rfl accounts.bound⟩
  · exact ⟨s, rfl, rfl, accounts⟩

/-- Creating a builder of a class that has builders records nothing. -/
theorem accounted_new (accounts : Accounts s []) (product : Product) (name : String)
    (options : Options) :
    Accounted s (fun _ => []) ((do
      let b ← create product.builderId options
      bindBuilder name b
      present b : ScriptM Answer) s) := by
  have created : (create product.builderId options : ScriptM BuilderRef) s = _ :=
    call.create_eq accounts.native.library product options
  cases bound : product.signature.bind none options with
  | error fault =>
      rw [bound] at created
      rw [bind_of_error created]
      exact .error (.refl _) accounts
  | ok given =>
      rw [bound] at created
      have added := accounts.native.worked_add product options
      have new := (Store.shows_add_new accounts.native.library product options).isA
      rw [bind_of_ok created]
      refine .trans added.grown (.bind ((accounts.worked added).bindBuilder new.inside name) ?_)
      intro _ t _ _ accounts
      exact .of_quiet accounts (quiet_present (accounts.native.readsPlainly _).readable) fun _ _ => rfl

/-- A step whose answer is bound to a name has the records that it has without. -/
theorem accounted_named {name : String} {step : Step} {path : List Nat}
    (accounted : Accounted s (step.records ((step.target? s.extra).map s.store.className))
      (step.answer path s)) :
    Accounted s (Step.records ((Step.target? (.named name step) s.extra).map s.store.className)
      (.named name step)) (Step.answer path (.named name step) s) := by
  have same : Step.records ((Step.target? (.named name step) s.extra).map s.store.className)
      (.named name step) = step.records ((step.target? s.extra).map s.store.className) := by
    funext answer
    rw [Step.records]
    rfl
  rw [Step.answer, same]
  generalize run : step.answer path s = result at accounted
  cases accounted with
  | @ok answer t grown after =>
      rw [bind_of_ok run]
      obtain ⟨u, bound, store, after⟩ := after.bindAnswer name answer
      rw [bind_of_ok bound]
      refine .ok ?_ after
      rw [store]
      exact grown
  | error grown after =>
      rw [bind_of_error run]
      exact .error grown after

/-- A step that calls a member has the records of the call. -/
theorem accounted_callStep (accounts : Accounts s []) {on member : String} {argument : Argument}
    {options : Options} {path : List Nat}
    (runs : ∀ {first : Option (Given Names)}, argument.given path s = .ok first s →
      ∀ given, first = some given → GivenAccounted given) :
    Accounted s
      (Step.records ((Step.target? (.call on member argument options) s.extra).map s.store.className)
        (.call on member argument options))
      (Step.answer path (.call on member argument options) s) := by
  rw [Step.answer]
  refine .after_looking accounts (quiet_builderNamed on) ?_
  intro b named
  have bound := bound_of_builderNamed named
  refine .after_looking accounts argument.quiet_check ?_
  intro _ _
  refine .after_looking accounts
    (Caller.quiet_read _ (accounts.native.readsPlainly b).readable _) ?_
  intro found read
  refine .after_looking accounts (argument.quiet_given path) ?_
  intro first given
  refine (accounted_call accounts (accounts.bound on b bound) read (runs given)).map
    fun made => ?_
  have target : Step.target? (.call on member argument options) s.extra = some b := bound
  show Step.records ((Step.target? (.call on member argument options) s.extra).map _) _ _ = _
  rw [target]
  exact List.flatMap_singleton _ _

mutual

/-- What a step does is accounted for. -/
theorem Step.accounted : ∀ (step : Step) (path : List Nat) {s : Session Names}, step.Native →
    Accounts s [] → Accounted s (step.records ((step.target? s.extra).map s.store.className))
      (step.answer path s)
  | .named _ step, path, _, native, accounts =>
      accounted_named (Step.accounted step path native accounts)
  | .about on step, path, s, native, accounts => by
      have same : Step.records ((Step.target? (.about on step) s.extra).map s.store.className)
          (.about on step) = step.records ((step.target? s.extra).map s.store.className) := by
        funext answer
        rw [Step.records]
        exact step.records_of_on? native.1 _ _ answer
      rw [Step.answer, same]
      exact Step.accounted step path native.2 accounts
  | .new name className options, path, s, native, accounts => by
      rw [Step.answer]
      refine .after_looking accounts (quiet_query _) ?_
      intro id named
      rcases named_cases accounts.native.classes (query_eq_ok.1 named).1 with
        ⟨product, rfl⟩ | abstract
      · exact accounted_new accounts product name options
      · obtain ⟨fault, refused⟩ := create_abstract accounts.native.classes abstract options
        rw [bind_of_error refused]
        exact .error (.refl _) accounts
  | .call _ _ argument _, path, _, native, accounts =>
      accounted_callStep accounts fun given => Argument.accounted argument path native given
  | .html argument, path, s, native, accounts => by
      rw [Step.answer]
      refine .after_looking accounts (argument.quiet_given path) ?_
      intro first given
      exact (accounted_htmlOf accounts (Argument.accounted argument path native given)).map
        fun _ => rfl
  | .sample, path, s, native, accounts => by
      rw [Step.answer]
      obtain ⟨made, after, built, worked⟩ := samplePage_worked accounts.native
      rw [bind_of_ok built]
      exact .ok worked.grown (accounts.worked worked)
  | .set on name value, path, s, native, accounts => by
      rw [Step.answer]
      refine .after_looking accounts (quiet_builderNamed on) ?_
      intro b _
      exact (Accounted.perform accounts fun after written =>
        accounts.native.worked_write native written).map fun _ => rfl
  | .attempt steps, path, s, native, accounts => by
      rw [Step.answer]
      refine .bind (accounted_runBlock steps path 0 native accounts).outcome ?_
      intro result t _ _ accounts
      cases result <;> exact .ok (.refl _) accounts
  | .define _ _ _, _, _, native, _ => native.elim
  | .defineMixin _ _, _, _, native, _ => native.elim
  | .elements _, _, _, _, accounts => Step.accounted_of_looks rfl _ accounts
  | .get _ _, _, _, _, accounts => Step.accounted_of_looks rfl _ accounts
  | .node _, _, _, _, accounts => Step.accounted_of_looks rfl _ accounts
  | .outline _, _, _, _, accounts => Step.accounted_of_looks rfl _ accounts
  | .compare _ _, _, _, _, accounts => Step.accounted_of_looks rfl _ accounts
  | .distinct _, _, _, _, accounts => Step.accounted_of_looks rfl _ accounts
  | .getField _ _, _, _, _, accounts => Step.accounted_of_looks rfl _ accounts
  | .setField _ _, _, _, _, accounts => Step.accounted_of_looks rfl _ accounts
  | .deleteField _ _, _, _, _, accounts => Step.accounted_of_looks rfl _ accounts
  | .fail _, _, _, _, accounts => Step.accounted_of_looks rfl _ accounts

/-- What is given as an argument is accounted for when it runs. -/
theorem Argument.accounted : ∀ (argument : Argument) (path : List Nat) {s t : Session Names}
    {first : Option (Given Names)}, argument.Native → argument.given path s = .ok first t →
    ∀ given, first = some given → GivenAccounted given
  | .block inner steps, path, s, t, first, native, given => by
      cases given
      rintro given ⟨⟩ init ⟨⟩ child u accounts inside
      refine .bind (accounts.bindBuilder inside inner) ?_
      intro _ v _ _ accounts
      exact accounted_runBlock steps path 0 native accounts
  | .absent, _, _, _, _, _, given => by
      rintro _ rfl init rfl
      exact absurd rfl (Argument.ne_function_of_given (by simp) given init)
  | .value _, _, _, _, _, _, given => by
      rintro _ rfl init rfl
      exact absurd rfl (Argument.ne_function_of_given (by simp) given init)
  | .builder _, _, _, _, _, _, given => by
      rintro _ rfl init rfl
      exact absurd rfl (Argument.ne_function_of_given (by simp) given init)
  | .node _, _, _, _, _, _, given => by
      rintro _ rfl init rfl
      exact absurd rfl (Argument.ne_function_of_given (by simp) given init)

/-- What the steps of a block do is accounted for. -/
theorem accounted_runBlock : ∀ (steps : List Step) (path : List Nat) (position : Nat)
    {s : Session Names}, AllNative steps → Accounts s [] →
    Accounted s (fun _ => []) (runBlock path position steps s)
  | [], path, position, s, _, accounts => by
      rw [runBlock]
      exact .ok (.refl _) accounts
  | step :: rest, path, position, s, native, accounts => by
      rw [runBlock]
      obtain ⟨fault, t, eq, grown, after⟩ := recorded_of_accounted (path ++ [position]) accounts
        (Step.accounted step (path ++ [position]) native.1 accounts)
      rw [bind_of_ok eq]
      cases fault with
      | none => exact .trans grown (accounted_runBlock rest path (position + 1) native.2 after)
      | some fault => exact .error grown after

end

/-- What a script leaves in the log, and the records that its trace tells of. -/
def logged (steps : List Step) : List Log.Event × List Log.Event :=
  let t := left (runTop 0 steps) start
  (t.store.log, t.extra.trace.flatMap (Entry.records t.store))

end Script

end ScopedHtml
