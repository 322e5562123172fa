import ScopedHtml.Proofs.Course

/-!
# ScopedHtml.Proofs.Uphold

**What is there stays, and what is set stays set.** Attributes may be replaced, but on an
orderly store nothing that is kept under a name goes away, and under a private name the absent
value never takes the place of another one (`Store.Upholds`). Every change and every happening
upholds what was there, and so does every course (`Course.upholds`).
-/

namespace ScopedHtml

variable {ρ : Type} {custom : Prop}

/-! ### Looking names up along rows -/

namespace ClassTable

variable {before after table : ClassTable} {name : String}

/-- Once a class has got a value, a row that has it finds what it found, or the value. -/
theorem resolveAlong_assign (table : ClassTable) (id : ClassId) (name other : String)
    (value : Value) (row : List ClassId) :
    (table.assign id name (.data value)).resolveAlong other row = table.resolveAlong other row ∨
      ∃ c, (table.assign id name (.data value)).resolveAlong other row = some (c, .data value) := by
  induction row with
  | nil => exact .inl rfl
  | cons c rest ih =>
      rw [resolveAlong, resolveAlong]
      rcases table.get_assign_cases id c name (.data value) with eq | eq
      · rw [eq]
        cases (table.get c).members.find? other with
        | some member => exact .inl rfl
        | none => exact ih
      · rw [eq]
        by_cases same : other = name
        · subst same
          rw [Bindings.find?_bind_self]
          exact .inr ⟨c, rfl⟩
        · rw [Bindings.find?_bind_of_ne _ same]
          cases (table.get c).members.find? other with
          | some member => exact .inl rfl
          | none => exact ih

end ClassTable

/-! ### Stores -/

/-- Whatever is kept under a name of a builder is still kept under it, or something else is;
under a private name it is not the absent value, unless it was before. -/
def Store.Upholds (before after : Store) : Prop :=
  ∀ b : BuilderRef, b.index < before.builders.length → ∀ name found,
    before.kept? b name = some found → ∃ later, after.kept? b name = some later ∧
      (isPrivate name = true → found.isNull = false → later.isNull = false)

namespace Store

variable {before after later store : Store} {b c : BuilderRef} {name : String}

theorem upholds_refl (store : Store) : store.Upholds store :=
  fun _ _ _ found kept => ⟨found, kept, fun _ set => set⟩

theorem Upholds.trans (first : before.Upholds after) (second : after.Upholds later)
    (grown : before.builders.length ≤ after.builders.length) : before.Upholds later := by
  intro b inside name found kept
  obtain ⟨mid, kept, still⟩ := first b inside name found kept
  obtain ⟨last, kept, more⟩ := second b (Nat.lt_of_lt_of_le inside grown) name mid kept
  exact ⟨last, kept, fun hidden set => more hidden (still hidden set)⟩

/-- What everything has is not absent, and is there in every store. -/
theorem inherent?_upheld {found : Found} (after : Store)
    (inherent : before.inherent? b name = some found) :
    ∃ later, after.inherent? b name = some later ∧ later.isNull = false := by
  unfold inherent? at inherent ⊢
  split at inherent
  · next all =>
      rw [if_pos all]
      exact ⟨_, rfl, rfl⟩
  · next other =>
      rw [if_neg other]
      split at inherent
      · next among =>
          rw [if_pos among]
          exact ⟨_, rfl, rfl⟩
      · cases inherent

/-- Whether a member is the absent value is no matter of the store. -/
theorem isNull_found (store other : Store) (name : String) (origin : ClassId × Member) :
    (store.found name origin).isNull = (other.found name origin).isNull := by
  obtain ⟨owner, member⟩ := origin
  cases member <;> rfl

/-- What is kept under a name is upheld if what the builder holds is, and what its class has:
what comes in the place of something that is not absent must not be absent. -/
theorem kept?_upheld {found : Found} (kept : before.kept? b name = some found)
    (held : ∀ value, after.held? b name = some value → before.held? b name = some value ∨
      (isPrivate name = true → value.isNull = false))
    (holds : before.held? b name ≠ none → after.held? b name ≠ none)
    (member : after.member? b name = before.member? b name ∨
      ∃ c value, after.member? b name = some (c, .data value) ∧ value.isNull = false) :
    ∃ later, after.kept? b name = some later ∧
      (isPrivate name = true → found.isNull = false → later.isNull = false) := by
  cases now : after.held? b name with
  | some value =>
      refine ⟨.value value, kept?_of_held now, ?_⟩
      intro hidden set
      rcases held value now with old | new
      · cases (kept?_of_held old).symm.trans kept
        exact set
      · exact new hidden
  | none =>
      have old : before.held? b name = none := by
        cases old : before.held? b name with
        | none => rfl
        | some value => exact absurd now (holds (by rw [old]; simp))
      unfold Store.kept? at kept ⊢
      rw [old] at kept
      rw [now]
      rcases member with eq | ⟨c, value, eq, set⟩
      · rw [eq]
        cases origin : before.member? b name with
        | some origin =>
            rw [origin] at kept
            cases kept
            exact ⟨_, rfl, fun _ set => (isNull_found after before name _).trans set⟩
        | none =>
            rw [origin] at kept
            obtain ⟨later, eq, set⟩ := inherent?_upheld after kept
            exact ⟨later, eq, fun _ _ => set⟩
      · rw [eq]
        exact ⟨_, rfl, fun _ _ => set⟩

/-! #### Operations -/

/-- Assigning an attribute, if the absent value is assigned only under a public name. -/
theorem upholds_assign (store : Store) (b : BuilderRef) {name : String} {value : Value}
    (set : isPrivate name = true → value.isNull = false) :
    store.Upholds (store.assign b name value) := by
  intro c _ other found kept
  by_cases inside : b.index < store.builders.length
  · refine kept?_upheld kept ?_ ?_
      (.inl (member?_of_classId (store.classId_assign b c name value) other))
    · intro later held
      rw [held?_assign inside] at held
      split at held
      · next same =>
          cases held
          exact .inr fun hidden => set (same.2 ▸ hidden)
      · exact .inl held
    · intro held
      rw [held?_assign inside]
      split
      · simp
      · exact held
  · rw [assign_of_outside inside]
    exact ⟨found, kept, fun _ set => set⟩

theorem upholds_logged (store : Store) (event : Log.Event) : store.Upholds (store.logged event) :=
  fun _ _ _ found kept => ⟨found, kept, fun _ set => set⟩

/-- A builder that holds what it held is upheld if its class has what it had. -/
theorem upholds_of_get (same : ∀ b : BuilderRef, b.index < before.builders.length →
      after.get b = before.get b)
    (member : ∀ b : BuilderRef, b.index < before.builders.length → ∀ name,
      after.member? b name = before.member? b name ∨
        ∃ c value, after.member? b name = some (c, .data value) ∧ value.isNull = false) :
    before.Upholds after := by
  intro b inside name found kept
  have held : after.held? b name = before.held? b name := held?_of_get (same b inside) name
  exact kept?_upheld kept (fun value now => .inl (held.symm.trans now))
    (fun some => held.symm ▸ some) (member b inside name)

theorem upholds_add (store : Store) (builder : Builder) : store.Upholds (store.add builder).2 := by
  refine upholds_of_get (fun b inside => get_add_of_lt inside builder) fun b inside name => .inl ?_
  exact member?_of_classId (congrArg Builder.classId (get_add_of_lt inside builder)) name

/-- A class may be given a value that is not absent. -/
theorem upholds_assignClass (store : Store) (id : ClassId) (name : String) {value : Value}
    (set : value.isNull = false) :
    store.Upholds { store with classes := store.classes.assign id name (.data value) } := by
  refine upholds_of_get (fun _ _ => rfl) fun b _ other => ?_
  have line : (store.classes.assign id name (.data value)).line (store.get b).classId =
      store.classes.line (store.get b).classId := by
    unfold ClassTable.line
    rcases store.classes.get_assign_cases id (store.get b).classId name (.data value) with eq | eq <;>
      rw [eq]
  have member : ({ store with classes := store.classes.assign id name (.data value) } : Store).member?
      b other = (store.classes.assign id name (.data value)).resolveAlong other
        (store.classes.line (store.get b).classId) := by
    rw [← line]
    rfl
  rw [member]
  exact (store.classes.resolveAlong_assign id name other value _).imp (fun same => same)
    fun ⟨c, eq⟩ => ⟨c, value, eq, set⟩

/-- Neither defining a class nor naming one changes what builders have of theirs. -/
theorem upholds_onClasses {classes : ClassTable} (closed : store.classes.Closed)
    (there : ∀ b, (store.get b).classId.index < store.classes.classes.length)
    (same : ∀ id : ClassId, id.index < store.classes.classes.length →
      classes.get id = store.classes.get id) : store.Upholds { store with classes } := by
  refine upholds_of_get (fun _ _ => rfl) fun b _ name => .inl ?_
  unfold Store.member? ClassTable.resolve ClassTable.line
  show classes.resolveAlong name (_ :: (classes.get (store.get b).classId).ancestors) = _
  rw [same _ (there b)]
  exact ClassTable.resolveAlong_congr fun c behind => by
    rw [same c (closed.line (there b) c behind)]

/-! #### Changes and happenings -/

theorem Change.upholds (orderly : store.Orderly) (change : store.Change (.lasting custom) after) :
    store.Upholds after := by
  have closed := orderly.sound.closed
  cases change with
  | assigned b name value shown =>
      exact upholds_assign store b fun hidden => by rw [shown] at hidden; cases hidden
  | titled b content => exact upholds_assign store b fun _ => rfl
  | gathered b items content held => exact upholds_assign store b fun _ => rfl
  | started id owner starter given inside start makes => exact upholds_add store _
  | made id inside start => exact upholds_add store _
  | defined new allowed members ancestors =>
      exact upholds_onClasses closed orderly.there fun id inside =>
        ClassTable.get_push_of_lt inside new
  | registered id names => exact upholds_assignClass store id _ rfl
  | named name id inside => exact upholds_onClasses closed orderly.there fun _ _ => rfl
  | restarted b name value allowed keepable => exact allowed.elim

theorem Attached.upholds {store after : Store} {element : String} {node : Node} {parent : Parent}
    {attachment : Attachment} (attached : store.Attached element (.node node) parent attachment after) :
    store.Upholds after := by
  cases attached with
  | discarded => exact upholds_refl store
  | kept b free => exact upholds_assign store b fun _ => rfl
  | gathered b items held => exact upholds_assign store b fun _ => rfl
  | keptByClass id free loose => exact upholds_assignClass store id _ rfl

end Store

theorem Happening.Fits.upholds {h : Happening ρ} {earlier : List (Happening ρ)}
    (fits : h.Fits earlier) (orderly : h.before.store.Orderly) :
    h.before.store.Upholds h.after.store := by
  cases fits with
  | rest s => exact Store.upholds_refl s.store
  | @built depth b made s t done =>
      obtain ⟨_, _, node, rfl, rfl⟩ := (show Fits earlier _ from .built done).built_inv orderly
      exact (s.store.upholds_assign b fun _ => rfl).trans (Store.upholds_logged _ _) (by simp)
  | attached made opened behind opener done => exact done.upholds
  | appended held => exact Store.upholds_assign _ _ fun _ => rfl
  | answered known => exact Store.upholds_refl _

/-- All along a course, what is there stays and what is set stays set. -/
theorem Course.upholds {earlier happenings : List (Happening ρ)} {before after : Store}
    (course : Course (.lasting custom) earlier before happenings after) (orderly : before.Orderly) :
    before.Upholds after := by
  have all := course.invariant
    (P := fun _ store => before.Leads store ∧ before.Upholds store) ?_ ?_ orderly
    ⟨.refl orderly.sound, Store.upholds_refl before⟩
  · exact all.2.2
  · intro _ store after orderly change ⟨leads, upholds⟩
    exact ⟨leads.trans (change.leads orderly),
      upholds.trans (change.upholds orderly) leads.grown.length⟩
  · intro _ h orderly fits ⟨leads, upholds⟩
    exact ⟨leads.trans (fits.leads orderly),
      upholds.trans (fits.upholds orderly) leads.grown.length⟩

end ScopedHtml
