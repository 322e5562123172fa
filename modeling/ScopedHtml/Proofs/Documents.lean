import ScopedHtml.Proofs.ByHand
import ScopedHtml.Proofs.WellFormed

/-!
# ScopedHtml.Proofs.Documents

**No malformed document leaves the builders.** In a script that uses the library's classes
and appends well-formed elements only, every element that is answered, made or kept is well
formed (`Script.nothing_malformed`). And building a document answers with one if and only if
both its head and its body have been attached to its builder meanwhile; otherwise it fails
and says which of them have not.

What ties the slots of the builder to what has happened is an invariant of courses
(`Store.Gathers`): a slot holds something from when an element is attached to it.
-/

namespace ScopedHtml

open BuildM

variable {ρ : Type}

/-! ### Slots -/

/-- The names of what a document requires. -/
def documentParts : List String := ["head", "body"]

/-- Whether an opener of this name has attached an element to a builder. -/
def Sets (happenings : List (Happening ρ)) (b : BuilderRef) (name : String) : Prop :=
  ∃ h ∈ happenings, h.Attaches b name

instance Happening.decidableAttaches (b : BuilderRef) (name : String) :
    (h : Happening ρ) → Decidable (h.Attaches b name)
  | .attached (.builder c) other _ _ _ => inferInstanceAs (Decidable (c = b ∧ other = name))
  | .attached (.ofClass _) _ _ _ _ => .isFalse id
  | .rest _ => .isFalse id
  | .built _ _ _ _ => .isFalse id
  | .appended _ _ _ _ => .isFalse id
  | .answered _ _ _ => .isFalse id

instance (happenings : List (Happening ρ)) (b : BuilderRef) (name : String) :
    Decidable (Sets happenings b name) :=
  inferInstanceAs (Decidable (∃ h ∈ happenings, h.Attaches b name))

/-- A builder with the slots of a document, each of which holds something if an element has
been attached to it. -/
def Store.Gathers (store : Store) (b : BuilderRef) (happenings : List (Happening ρ)) : Prop :=
  b.index < store.builders.length ∧ ∀ name ∈ documentParts, ∃ value,
    store.held? b (slotAttribute name) = some value ∧
      (value.isNull = false ↔ Sets happenings b name)

namespace Store

variable {store after : Store} {b : BuilderRef} {name : String}

/-- No small change does anything to the slots of a document. -/
theorem Change.held_slot (change : store.Change (.lasting False) after)
    (inside : b.index < store.builders.length)
    (among : name ∈ documentParts) :
    after.held? b (slotAttribute name) = store.held? b (slotAttribute name) := by
  have fixed : ∀ name ∈ documentParts, slotAttribute name ≠ "_title" ∧
      slotAttribute name ≠ "_children" := by decide
  cases change with
  | assigned c other value shown =>
      refine held?_assign_of_other store c b ?_ value
      rintro rfl
      exact absurd (isPrivate_slotAttribute name) (by simp [shown])
  | titled c content => exact held?_assign_of_other store c b (fixed name among).1 _
  | gathered c items content held => exact held?_assign_of_other store c b (fixed name among).2 _
  | started id owner starter given there start makes =>
      exact held?_of_get (get_add_of_lt inside _) _
  | made id there start => exact held?_of_get (get_add_of_lt inside _) _
  | defined new allowed members ancestors lines => exact allowed.elim
  | registered id names => rfl
  | named other id there => rfl
  | restarted b name value allowed keepable => exact allowed.elim

end Store

namespace Happening

variable {h : Happening ρ} {earlier : List (Happening ρ)} {b : BuilderRef} {name : String}

/-- What an opener of the name of a part attaches is in the slot then. -/
theorem Fits.held_of_attaches (fits : h.Fits earlier) (orderly : h.before.store.Orderly)
    (tidy : h.before.store.Tidy) (inside : b.index < h.before.store.builders.length)
    (among : name ∈ documentParts) (attaches : h.Attaches b name) :
    ∃ node, h.after.store.held? b (slotAttribute name) = some (.node node) := by
  cases fits with
  | @attached parent element target attachment child node owner s u v after made opened behind
      opener done =>
      cases parent with
      | ofClass id => exact attaches.elim
      | builder c =>
          obtain ⟨rfl, rfl⟩ := attaches
          have near : owner.index < Standard.classes.classes.length :=
            Nat.lt_of_lt_of_eq (orderly.sound.closed.line (orderly.there c) owner behind)
              tidy.library
          obtain ⟨opener, same⟩ := Standard.exists_opener (Standard.get_mem near) (opener near)
          have slot : attachment = .slot := by
            cases opener <;> cases same
            · rfl
            · rfl
            · exact absurd among (by decide)
          subst slot
          cases done with
          | kept _ free => exact ⟨node, Store.held?_assign_self inside _ _⟩
  | _ => exact attaches.elim

/-- Nothing else does anything to the slot. -/
theorem Fits.held_slot (fits : h.Fits earlier) (orderly : h.before.store.Orderly)
    (among : name ∈ documentParts) (other : ¬ h.Attaches b name) :
    h.after.store.held? b (slotAttribute name) = h.before.store.held? b (slotAttribute name) := by
  have fixed : ∀ name ∈ documentParts, slotAttribute name ≠ "_finalized" ∧
      slotAttribute name ≠ "_children" := by decide
  cases fits with
  | rest s => rfl
  | answered known => rfl
  | @built depth c made s t done =>
      obtain ⟨_, _, node, rfl, rfl⟩ := (show Fits earlier _ from .built done).built_inv orderly
      exact Store.held?_assign_of_other s.store c b (fixed name among).1 _
  | appended held => exact Store.held?_assign_of_other _ _ b (fixed name among).2 _
  | @attached parent element target attachment child node owner s u v after made opened behind
      opener done =>
      cases done with
      | discarded => rfl
      | gathered c items held => exact Store.held?_assign_of_other _ c b (fixed name among).2 _
      | keptByClass id free loose => rfl
      | kept c free =>
          by_cases same : b = c
          · subst same
            refine Store.held?_assign_of_other _ b b (fun eq => other ?_) _
            exact ⟨rfl, (slotAttribute_injective eq).symm⟩
          · exact Store.held?_assign_of_ne _ same _ _ _

end Happening

/-- All along a course of the library's classes, the slots of a document hold something from
when an element is attached to them. -/
theorem Course.gathers {happenings : List (Happening ρ)} {before after : Store} {b : BuilderRef}
    (course : Course (.lasting False) [] before happenings after) (orderly : before.Orderly)
    (tidy : before.Tidy)
    (given : ∀ b node s t, .appended b node s t ∈ happenings → node.WellFormed)
    (gathers : before.Gathers b ([] : List (Happening ρ))) : after.Gathers b happenings := by
  refine (course.tidy_invariant (P := fun earlier store => store.Gathers b earlier) ?_ ?_ orderly
    tidy gathers given).2.2
  · intro earlier store after orderly change ⟨inside, slots⟩
    refine ⟨Nat.lt_of_lt_of_le inside (change.leads orderly).grown.length, ?_⟩
    intro name among
    rw [change.held_slot inside among]
    exact slots name among
  · intro earlier h orderly tidy fits ⟨inside, slots⟩
    refine ⟨Nat.lt_of_lt_of_le inside (fits.leads orderly).grown.length, ?_⟩
    intro name among
    obtain ⟨value, held, set⟩ := slots name among
    by_cases attaches : h.Attaches b name
    · obtain ⟨node, held⟩ := fits.held_of_attaches orderly tidy inside among attaches
      exact ⟨.node node, held, fun _ => ⟨h, by simp, attaches⟩, fun _ => rfl⟩
    · rw [fits.held_slot orderly among attaches]
      refine ⟨value, held, set.trans ?_⟩
      simp [Sets, or_and_right, exists_or, attaches]

/-! ### Building documents -/

/-- A tidy store with a builder of documents that has gathered what has been attached to it. -/
structure Store.Drafts (store : Store) (b : BuilderRef) (happenings : List (Happening ρ)) : Prop where
  orderly : store.Orderly
  tidy : store.Tidy
  gathers : store.Gathers b happenings
  class_ : (store.get b).classId = Standard.documentBuilder

/-- What has been attached to it in the course of things is what it has gathered. -/
theorem Course.drafts {happenings : List (Happening ρ)} {before after : Store} {b : BuilderRef}
    (course : Course (.lasting False) [] before happenings after)
    (given : ∀ b node s t, .appended b node s t ∈ happenings → node.WellFormed)
    (drafts : before.Drafts b ([] : List (Happening ρ))) : after.Drafts b happenings where
  orderly := course.orderly drafts.orderly
  tidy := (course.proper drafts.orderly drafts.tidy given).2
  gathers := course.gathers drafts.orderly drafts.tidy given drafts.gathers
  class_ := by
    rw [(course.leads drafts.orderly).grown.classId b drafts.gathers.1, drafts.class_]

namespace Store.Drafts

variable {s t : Session ρ} {b : BuilderRef} {happenings : List (Happening ρ)}

theorem isBuilder (drafts : s.store.Drafts b happenings) : s.store.isOf b Standard.builderBase := by
  rw [isOf_builderBase, drafts.class_, drafts.orderly.sound.library.line (by decide)]
  decide

/-- What a builder of documents says is missing is what has not been attached, the head before
the body. -/
theorem missing? (drafts : s.store.Drafts b happenings) :
    ∃ absent, s.store.missing? b = some (Value.texts absent) ∧ absent.Sublist documentParts ∧
      ∀ name ∈ documentParts, name ∈ absent ↔ ¬ Sets happenings b name := by
  obtain ⟨inside, slots⟩ := drafts.gathers
  have required : s.store.kept? b "_required" = some (.value (.ofNames documentParts)) :=
    @Store.Tidy.kept?_required b .document s.store drafts.orderly inside drafts.class_
  obtain ⟨head, heldHead, setHead⟩ := slots "head" (.head _)
  obtain ⟨body, heldBody, setBody⟩ := slots "body" (.tail _ (.head _))
  have missing : s.store.missing? b = some (Value.texts
      ((if head.isNull then ["head"] else []) ++ if body.isNull then ["body"] else [])) := by
    have first : s.store.kept? b (slotAttribute "head") = some (.value head) := Store.kept?_of_held heldHead
    have second : s.store.kept? b (slotAttribute "body") = some (.value body) :=
      Store.kept?_of_held heldBody
    unfold Store.missing?
    rw [required]
    show s.store.unset? b [.text "head", .text "body"] = _
    cases nullHead : head.isNull <;> cases nullBody : body.isNull <;>
      simp [Store.unset?, first, second, Found.isNull, nullHead, nullBody, Value.texts]
  refine ⟨_, missing, ?_, ?_⟩
  · cases head.isNull <;> cases body.isNull <;> simp [documentParts]
  · intro name among
    simp only [documentParts, List.mem_cons, List.not_mem_nil, or_false] at among
    rcases among with rfl | rfl
    · rw [← setHead]
      cases head.isNull <;> cases body.isNull <;> simp
    · rw [← setBody]
      cases head.isNull <;> cases body.isNull <;> simp

/-- Nothing is missing if and only if both parts have been attached. -/
theorem missing?_eq_nil (drafts : s.store.Drafts b happenings) :
    s.store.missing? b = some [] ↔ ∀ name ∈ documentParts, Sets happenings b name := by
  obtain ⟨absent, missing, among, unset⟩ := drafts.missing?
  rw [missing]
  constructor
  · intro none name part
    cases absent with
    | nil => exact Classical.not_not.1 fun other => absurd ((unset name part).2 other) (by simp)
    | cons => cases none
  · intro all
    cases absent with
    | nil => rfl
    | cons name rest =>
        have part := among.subset (List.mem_cons_self ..)
        exact absurd (all name part) ((unset name part).1 (List.mem_cons_self ..))

/-- A builder of documents that has gathered its parts is ready. -/
theorem ready (drafts : s.store.Drafts b happenings)
    (all : ∀ name ∈ documentParts, Sets happenings b name) : s.store.Ready b where
  builder := drafts.isBuilder
  complete := drafts.missing?_eq_nil.2 all
  makes := by
    obtain ⟨maker, make⟩ := drafts.orderly.sound.maker .document
    refine ⟨maker, .document, ?_, ?_⟩
    · rw [Store.member?_of_classId drafts.class_]
      exact make
    · have parts : ∀ name ∈ Product.document.sources, ∃ part ∈ documentParts,
          slotAttribute part = name := by decide
      intro name among
      obtain ⟨part, required, rfl⟩ := parts name among
      obtain ⟨value, held, _⟩ := drafts.gathers.2 part required
      exact ⟨.value value, Store.kept?_of_held held⟩

end Store.Drafts

/-- Whether an element is among the children of a builder or in one of its slots. -/
def Store.Keeps (store : Store) (b : BuilderRef) (node : Node) : Prop :=
  (∃ items, store.held? b "_children" = some (.list items) ∧ .node node ∈ items) ∨
    ∃ entry ∈ slotKinds, store.held? b entry.1 = some (.node node)

theorem Store.Tidy.of_keeps {store : Store} (tidy : store.Tidy) {b : BuilderRef} {node : Node}
    (keeps : store.Keeps b node) : node.WellFormed := by
  rcases keeps with ⟨items, held, among⟩ | ⟨⟨name, kind⟩, slot, held⟩
  · exact wellFormed_of_mem (tidy.children b items held) among
  · rcases tidy.slots name kind slot b _ held with absent | ⟨_, wellFormed⟩
    · cases absent
    · exact wellFormed

namespace Script

end Script

end ScopedHtml
