import ScopedHtml.Proofs.Calls

/-!
# ScopedHtml.Proofs.Depth

**Ordinary builders do not notice how deep they are called.** Calls are nested at most so
deep, and each operation works with a caller for one depth less than its own. Of a builder
whose class does not interfere with reading, reading needs two more depths, and of an
ordinary builder finalizing needs four; what is left beyond that makes no difference
(`Caller.own_build_depth`).
-/

namespace ScopedHtml

open BuildM

/-- Sequences agree if their first parts do, and their second parts do from there. -/
theorem BuildM.bind_congr_of {ρ α β : Type} {m m' : BuildM ρ α} {k k' : α → BuildM ρ β}
    {s : Session ρ} (first : m s = m' s)
    (second : ∀ a t, m s = .ok a t → k a t = k' a t) : (m >>= k) s = (m' >>= k') s := by
  rw [bind_apply, bind_apply, ← first]
  cases run : m s with
  | ok a t => exact second a t run
  | error fault t => rfl

namespace Caller

variable {ρ : Type} {s : Session ρ} {b : BuilderRef} {name : String} (d e : Nat)

/-! ### Reading -/

/-- Calling a method does not depend on the depth if the method does not. -/
theorem upTo_method_depth {owner : String} {method : Method} (ordinary : method ≠ .register)
    {arguments : Arguments ρ}
    (same : ∀ given, (upTo d).method b given method s = (upTo e).method b given method s) :
    upTo (d + 1) b (.callable owner name (.method method)) arguments s =
      upTo (e + 1) b (.callable owner name (.method method)) arguments s := by
  rw [upTo_method d s b owner name method ordinary, upTo_method e s b owner name method ordinary]
  refine bind_congr_of rfl ?_
  intro given t run
  obtain rfl := (quiet_settle _).eq_of_ok run
  exact same given

/-- Calling a name of its own does not depend on the depth if calling the member of the name
does not. -/
theorem own_depth {origin : ClassId × Member} (plain : s.store.ReadsPlainly b)
    (member : s.store.member? b name = some origin)
    (ordinary : ∀ property, origin.2 ≠ .property property)
    (same : upTo (d + 1) b (s.store.found name origin) {} s =
      upTo (e + 1) b (s.store.found name origin) {} s) :
    (upTo (d + 1)).own b name s = (upTo (e + 1)).own b name s := by
  have hprop := Store.property?_of_member member ordinary
  rcases Store.kept?_cases member with ⟨value, kept⟩ | kept
  · rw [own_of_kept plain hprop kept, own_of_kept plain hprop kept]
    rfl
  · rw [own_of_kept plain hprop kept, own_of_kept plain hprop kept, same]

theorem own_elements_depth (plain : s.store.ReadsPlainly b) :
    (upTo (d + 1)).own b "elements" s = (upTo (e + 1)).own b "elements" s := by
  obtain ⟨owner, member⟩ := plain.elements
  exact own_depth d e plain member (by simp) (upTo_method_depth d e (by decide) fun _ => rfl)

theorem report_depth {α : Type} (plain : s.store.ReadsPlainly b) (name : String) :
    (upTo (d + 1)).report b name s = ((upTo (e + 1)).report b name : BuildM ρ α) s := by
  unfold report
  rw [observe_bind, observe_bind]
  split
  · exact bind_congr_of rfl fun _ _ run => by cases run
  · exact bind_congr_of (own_elements_depth d e plain) fun _ _ _ => rfl

theorem ask_unknown_depth (plain : s.store.ReadsPlainly b) {owner : ClassId} (name : String) :
    (upTo (d + 2)).ask b .unknown (owner, .method .report) name s =
      (upTo (e + 2)).ask b .unknown (owner, .method .report) name s := by
  unfold ask dispatch
  refine bind_congr_of ?_ fun _ _ _ => rfl
  rw [observe_bind, observe_bind]
  refine upTo_method_depth (d + 1) (e + 1) (by decide) ?_
  intro given
  simp only [method]
  split
  · exact report_depth d e plain _
  · rfl

/-- Reading does not depend on the depth if the ordinary look-up does not and only looks. -/
theorem reading_depth {lookup lookup' : BuildM ρ Found} (plain : s.store.ReadsPlainly b)
    (same : lookup s = lookup' s) (quiet : Quiet lookup s) :
    (upTo (d + 2)).reading b name lookup s = (upTo (e + 2)).reading b name lookup' s := by
  have hook : s.store.hook? b .read = none := plain.read
  obtain ⟨owner, unknown⟩ := plain.unknown
  have hunknown : s.store.hook? b .unknown = some (owner, .method .report) := unknown
  unfold reading
  rw [observe_bind, observe_bind, hook]
  refine bind_congr_of ?_ ?_
  · show outcome lookup s = outcome lookup' s
    rw [outcome_apply, outcome_apply, same]
  · intro result t run
    obtain rfl := quiet.outcome.eq_of_ok run
    cases result with
    | ok found => rfl
    | error fault =>
        show (observe _ >>= _) t = (observe _ >>= _) t
        rw [observe_bind, observe_bind, hunknown]
        cases fault.isAttribute with
        | true => exact ask_unknown_depth d e plain name
        | false => simp only

theorem readKept_depth (plain : s.store.ReadsPlainly b) (name : String) :
    (upTo (d + 2)).readKept b name s = (upTo (e + 2)).readKept b name s :=
  reading_depth d e plain rfl (quiet_query _)

theorem computed_depth (plain : s.store.ReadsPlainly b) (property : Property) :
    (upTo (d + 2)).computed b property s = (upTo (e + 2)).computed b property s := by
  cases property with
  | isFinalized => exact readKept_depth d e plain _
  | children => exact bind_congr_of (readKept_depth d e plain _) fun _ _ _ => rfl

theorem read_depth (plain : s.store.ReadsPlainly b) (name : String) :
    (upTo (d + 2)).read b name s = (upTo (e + 2)).read b name s := by
  refine reading_depth d e plain ?_ ?_
  · rw [observe_bind, observe_bind]
    cases s.store.property? b name with
    | some property => exact computed_depth d e plain property
    | none => rfl
  · refine (quiet_observe _).bind ?_
    intro property _
    cases property with
    | some property => exact quiet_computed _ plain.readable property
    | none => exact quiet_query _

theorem readItems_depth (plain : s.store.ReadsPlainly b) (name : String) :
    (upTo (d + 2)).readItems b name s = (upTo (e + 2)).readItems b name s :=
  bind_congr_of (read_depth d e plain name) fun _ _ _ => rfl

theorem readValue_depth (plain : s.store.ReadsPlainly b) (name : String) :
    (upTo (d + 2)).readValue b name s = (upTo (e + 2)).readValue b name s :=
  bind_congr_of (read_depth d e plain name) fun _ _ _ => rfl

/-! ### Finalizing -/

theorem unsetAmong_depth (plain : s.store.ReadsPlainly b) (names : List Value) :
    (upTo (d + 2)).unsetAmong b names s = (upTo (e + 2)).unsetAmong b names s := by
  induction names with
  | nil => rw [unsetAmong, unsetAmong]
  | cons name rest ih =>
      rw [unsetAmong, unsetAmong]
      refine bind_congr_of (read_depth d e plain _) ?_
      intro found t run
      obtain rfl := (quiet_read _ plain.readable _).eq_of_ok run
      exact bind_congr_of ih fun _ _ _ => rfl

theorem missing_depth (plain : s.store.ReadsPlainly b) :
    (upTo (d + 2)).missing b s = (upTo (e + 2)).missing b s := by
  refine bind_congr_of (readItems_depth d e plain _) ?_
  intro names t run
  obtain rfl := (quiet_readItems _ plain.readable _).eq_of_ok run
  exact unsetAmong_depth d e plain names

theorem own_missing_depth (ordinary : s.store.Ordinary b) :
    (upTo (d + 3)).own b "missing" s = (upTo (e + 3)).own b "missing" s := by
  obtain ⟨owner, member⟩ := ordinary.ordinary.missing
  refine own_depth (d + 2) (e + 2) ordinary.readsPlainly member (by simp) ?_
  refine upTo_method_depth (d + 2) (e + 2) (by decide) fun _ => ?_
  exact bind_congr_of (missing_depth d e ordinary.readsPlainly) fun _ _ _ => rfl

theorem make_depth (plain : s.store.ReadsPlainly b) (product : Product) :
    (upTo (d + 2)).make b product s = (upTo (e + 2)).make b product s := by
  cases product with
  | head => exact bind_congr_of (readValue_depth d e plain _) fun _ _ _ => rfl
  | body => exact bind_congr_of (readItems_depth d e plain _) fun _ _ _ => rfl
  | division =>
      refine bind_congr_of (readItems_depth d e plain _) ?_
      intro children t run
      obtain rfl := (quiet_readItems _ plain.readable _).eq_of_ok run
      refine bind_congr_of (readValue_depth d e plain _) ?_
      intro ident t run
      obtain rfl := (quiet_readValue _ plain.readable _).eq_of_ok run
      exact bind_congr_of (readValue_depth d e plain _) fun _ _ _ => rfl
  | document =>
      refine bind_congr_of (readValue_depth d e plain _) ?_
      intro head t run
      obtain rfl := (quiet_readValue _ plain.readable _).eq_of_ok run
      exact bind_congr_of (readValue_depth d e plain _) fun _ _ _ => rfl

/-- Calling what makes the element binds no argument, and makes it. -/
theorem upTo_maker (depth : Nat) (s : Session ρ) (b : BuilderRef) (owner : ClassId)
    (product : Product) (arguments : Arguments ρ) :
    upTo (depth + 1) b (s.store.found "_make_node" (owner, .maker (some product))) arguments s =
      (do
        discard <| settle (arguments.bind
          ⟨(s.store.classes.get owner).name ++ "." ++ "_make_node", [], "self"⟩)
        return .node (← (upTo depth).make b product) : BuildM ρ Value) s :=
  rfl

theorem own_make_depth (ordinary : s.store.Ordinary b) :
    (upTo (d + 3)).own b "_make_node" s = (upTo (e + 3)).own b "_make_node" s := by
  obtain ⟨owner, product, member⟩ := ordinary.product
  refine own_depth (d + 2) (e + 2) ordinary.readsPlainly member (by simp) ?_
  rw [upTo_maker, upTo_maker]
  refine bind_congr_of rfl ?_
  intro _ t run
  obtain rfl := (quiet_settle _).discard.eq_of_ok run
  exact bind_congr_of (make_depth d e ordinary.readsPlainly product) fun _ _ _ => rfl

theorem build_depth (ordinary : s.store.Ordinary b) :
    (upTo (d + 3)).build b s = (upTo (e + 3)).build b s := by
  refine bind_congr_of (own_missing_depth d e ordinary) ?_
  intro absent t run
  obtain rfl := (quiet_own_missing _ ordinary.ordinary).eq_of_ok run
  cases absent.isEmpty with
  | true => exact bind_congr_of (own_make_depth d e ordinary) fun _ _ _ => rfl
  | false =>
      refine bind_congr_of rfl ?_
      intro fault t _
      exact bind_congr_of rfl fun _ _ run => by cases run

/-- Asking an ordinary builder to finalize itself does not depend on the depth. -/
theorem own_build_depth (ordinary : s.store.Ordinary b) :
    (upTo (d + 4)).own b "build" s = (upTo (e + 4)).own b "build" s := by
  obtain ⟨owner, member⟩ := ordinary.ordinary.build
  refine own_depth (d + 3) (e + 3) ordinary.readsPlainly member (by simp) ?_
  exact upTo_method_depth (d + 3) (e + 3) (by decide) fun _ => build_depth d e ordinary

end Caller

end ScopedHtml
