import ScopedHtml.Proofs.Registers

/-!
# ScopedHtml.Proofs.Inheritance

**The order of inheritance.** In the line of a class no class stands twice, and the line of every
class in it stands there in its own order (`ClassTable.Lined`). So what a class finds under a name is
also what a class behind it finds, if that has in its line where it was found
(`ClassTable.resolveAlong_of_sublist`), and a class stands before all that it inherits from, whatever
stands in between (`ClassTable.Lined.not_behind`).

A new class has such a line because the lines of its bases are merged, and classes never get another
one.
-/

namespace ScopedHtml.ClassTable

/-- Classes of which the lines are nested. -/
structure Lined (table : ClassTable) : Prop where
  once : ∀ id : ClassId, id.index < table.classes.length → (table.line id).Nodup
  within : ∀ id : ClassId, id.index < table.classes.length → ∀ c ∈ table.line id,
    (table.line c).Sublist (table.line id)

variable {table : ClassTable} {id owner c : ClassId} {name : String} {member : Member}
  {row front rest : List ClassId}

/-! ### Looking along lines -/

/-- A class in the line of another has this member of its own under a name. -/
def Has (table : ClassTable) (id : ClassId) (name : String) (member : Member) : Prop :=
  ∃ owner ∈ table.line id, (table.get owner).members.find? name = some member

theorem has_of_resolve (found : table.resolve id name = some (owner, member)) :
    table.Has id name member :=
  ⟨owner, resolveAlong_eq_some found⟩

/-- What stands first under a name in a row without repetitions stands first as well in what is
left of the row, if it is left there. -/
theorem resolveAlong_of_sublist {line : List ClassId} (part : row.Sublist line)
    (once : line.Nodup) (found : table.resolveAlong name line = some (owner, member))
    (there : owner ∈ row) : table.resolveAlong name row = some (owner, member) := by
  induction part with
  | slnil => cases there
  | @cons row line first part ih =>
      obtain ⟨new, once⟩ := List.nodup_cons.1 once
      unfold resolveAlong at found
      split at found
      · cases found
        exact absurd (part.subset there) new
      · exact ih once found there
  | @cons_cons row line first part ih =>
      obtain ⟨new, once⟩ := List.nodup_cons.1 once
      have own := (resolveAlong_eq_some found).2
      unfold resolveAlong at found ⊢
      split
      · next own has =>
        rw [has] at found
        exact found
      · next none =>
        rw [none] at found
        rcases List.mem_cons.1 there with rfl | there
        · cases none.symm.trans own
        · exact ih once found there

/-- Whatever in a row has a name is the first that has it or stands behind that. -/
theorem split_of_resolveAlong {other : Member} (there : c ∈ row)
    (has : (table.get c).members.find? name = some other)
    (found : table.resolveAlong name row = some (owner, member)) :
    c = owner ∨ ∃ front rest, row = front ++ owner :: rest ∧ c ∈ rest := by
  induction row with
  | nil => cases there
  | cons first others ih =>
      unfold resolveAlong at found
      split at found
      · cases found
        rcases List.mem_cons.1 there with same | among
        · exact .inl same
        · exact .inr ⟨[], others, rfl, among⟩
      · next none =>
        rcases List.mem_cons.1 there with rfl | there
        · cases none.symm.trans has
        · rcases ih there found with same | ⟨front, rest, split, among⟩
          · exact .inl same
          · exact .inr ⟨first :: front, rest, by rw [split]; rfl, among⟩

/-- What stands behind a class is what is left of a line without repetitions. -/
theorem lineBehind_eq (once : (table.line id).Nodup)
    (split : table.line id = front ++ owner :: rest) : table.lineBehind id owner = rest := by
  unfold lineBehind
  rw [split] at once ⊢
  have new : ∀ c ∈ front, decide (c ≠ owner) = true := fun c there =>
    decide_eq_true ((List.nodup_append.1 once).2.2 c there owner (List.mem_cons_self ..))
  rw [List.dropWhile_append_of_pos new, List.dropWhile_cons_of_neg (by simp)]
  rfl

namespace Lined

/-- Behind a class stand the classes behind it, each with its own line. -/
theorem behind (lined : table.Lined) (inside : id.index < table.classes.length)
    (there : c ∈ (table.get id).ancestors) : (table.line c).Sublist (table.get id).ancestors := by
  have once := List.nodup_cons.1 (lined.once id inside)
  rcases List.sublist_cons_iff.1 (lined.within id inside c (List.mem_cons_of_mem _ there)) with
    part | ⟨row, same, _⟩
  · exact part
  · cases same
    exact absurd there once.1

/-- A class has a longer line than those behind it. -/
theorem shorter (lined : table.Lined) (inside : id.index < table.classes.length)
    (there : c ∈ (table.get id).ancestors) : (table.line c).length < (table.line id).length :=
  Nat.lt_succ_of_le (lined.behind inside there).length_le

/-- Behind a class no class stands that inherits from it. -/
theorem not_behind (lined : table.Lined) (inside : id.index < table.classes.length)
    (split : table.line id = front ++ owner :: rest) (inherits : owner ∈ table.line c) :
    c ∉ rest := by
  intro there
  have once := lined.once id inside
  have part := lined.within id inside c (split ▸ List.mem_append_right _ (List.mem_cons_of_mem _ there))
  rw [split] at once part
  obtain ⟨-, late, apart⟩ := List.nodup_append.1 once
  have new : owner ∉ rest := (List.nodup_cons.1 late).1
  have pair : [c, owner].Sublist (front ++ owner :: rest) := by
    refine List.Sublist.trans ?_ part
    rcases List.mem_cons.1 inherits with rfl | inherits
    · exact absurd there new
    · exact (List.singleton_sublist.2 inherits).cons_cons c
  -- Nothing of the pair is before the class, so both must be behind it.
  obtain ⟨first, second, same, early, late⟩ := List.sublist_append_iff.1 pair
  cases first with
  | nil =>
      obtain rfl : [c, owner] = second := same
      rcases List.sublist_cons_iff.1 late with late | ⟨_, same, _⟩
      · exact new (late.subset (List.mem_cons_of_mem _ (List.mem_cons_self ..)))
      · cases same
        exact new there
  | cons first others =>
      obtain rfl : c = first := (List.cons.inj same).1
      exact apart c (early.subset (List.mem_cons_self ..)) c (List.mem_cons_of_mem _ there) rfl

/-! ### Changes -/

/-- The line of a class that is kept is nested as it was. -/
theorem kept {after : ClassTable} (lined : table.Lined) (closed : table.Closed)
    (kept : table.Kept after) (inside : id.index < table.classes.length) :
    (after.line id).Nodup ∧ ∀ c ∈ after.line id, (after.line c).Sublist (after.line id) := by
  rw [kept.line inside]
  refine ⟨lined.once id inside, fun c there => ?_⟩
  rw [kept.line (closed.line inside c there)]
  exact lined.within id inside c there

/-- Classes that are kept stay nested if no class is new. -/
theorem still {after : ClassTable} (lined : table.Lined) (closed : table.Closed)
    (kept : table.Kept after) (length : after.classes.length = table.classes.length) :
    after.Lined where
  once := fun _ inside => (lined.kept closed kept (length ▸ inside)).1
  within := fun _ inside => (lined.kept closed kept (length ▸ inside)).2

/-- A class may be added that has lines behind it in their order, and nothing twice. -/
theorem push (lined : table.Lined) (closed : table.Closed) {new : BuilderClass}
    (inside : ∀ c ∈ new.ancestors, c.index < table.classes.length) (once : new.ancestors.Nodup)
    (within : ∀ c ∈ new.ancestors, (table.line c).Sublist new.ancestors) :
    (table.push new).2.Lined where
  once := by
    intro id there
    rcases push_cases new there with old | rfl
    · exact (lined.kept closed (.push table new) old).1
    · rw [line_push_new]
      exact List.nodup_cons.2 ⟨fun among => absurd (inside _ among) (Nat.lt_irrefl _), once⟩
  within := by
    intro id there c among
    rcases push_cases new there with old | rfl
    · exact (lined.kept closed (.push table new) old).2 c among
    · rw [line_push_new] at among
      rcases List.mem_cons.1 among with rfl | among
      · exact List.Sublist.refl _
      · rw [line_push_new, (Kept.push table new).line (inside c among)]
        exact (within c among).cons _

/-- The lines of the bases of a new class stand behind it in their order. -/
theorem ancestors (lined : table.Lined) {ids line : List ClassId}
    (inside : ∀ base ∈ directBases ids, base.index < table.classes.length)
    (checked : table.checkedAncestors ids = .ok line) :
    ∀ c ∈ line, (table.line c).Sublist line := by
  intro c there
  obtain ⟨base, among, there⟩ := (mem_ancestors checked).1 there
  exact (lined.within base (inside base among) c there).trans (sublist_ancestors checked among)

end Lined

/-- The library's classes are nested. -/
theorem lined_standard : Standard.classes.Lined := by
  have all : ∀ index < Standard.classes.classes.length, (Standard.classes.line ⟨index⟩).Nodup ∧
      ∀ c ∈ Standard.classes.line ⟨index⟩,
        (Standard.classes.line c).Sublist (Standard.classes.line ⟨index⟩) := by
    decide
  exact ⟨fun id inside => (all id.index inside).1, fun id inside => (all id.index inside).2⟩

end ScopedHtml.ClassTable
