import ScopedHtml.Proofs.Frame

/-!
# ScopedHtml.Proofs.Registers

**What registers hold and where they are found.** A register is a list of names in code point
order (`insertName_increasing`); continuing one adds the public names of a class's own openers
(`mem_extendRegistry`). What a body defines under a name can be told from the body
(`find?_of_bodyMembers`).

A class continues the register of the first class behind it that has one. The order of
inheritance puts a base before everything that the base inherits (`first_of_mergeRows`) and
leaves nothing out (`mem_of_mergeRows`).
-/

namespace ScopedHtml

/-! ### Tables with distinct keys -/

namespace Bindings

section

variable {κ α : Type}

/-- Whether a table has one entry for each of its keys. -/
def Distinct (table : Bindings κ α) : Prop := (table.entries.map Prod.fst).Nodup

theorem distinct_empty : (empty : Bindings κ α).Distinct := List.nodup_nil

end

variable {κ α : Type} [DecidableEq κ] {key other : κ} {value : α}

theorem map_fst_bindIn (key : κ) (value : α) (entries : List (κ × α)) :
    (bindIn key value entries).map Prod.fst = entries.map Prod.fst ∨
      key ∉ entries.map Prod.fst ∧
        (bindIn key value entries).map Prod.fst = entries.map Prod.fst ++ [key] := by
  induction entries with
  | nil => exact .inr ⟨List.not_mem_nil, rfl⟩
  | cons entry rest ih =>
      by_cases same : entry.1 = key
      · exact .inl (by simp [bindIn, same])
      · rcases ih with old | ⟨new, last⟩
        · exact .inl (by simp [bindIn, same, old])
        · refine .inr ⟨?_, by simp [bindIn, same, last]⟩
          rw [List.map_cons, List.mem_cons]
          exact fun among => among.elim (fun eq => same eq.symm) new

theorem Distinct.bind {table : Bindings κ α} (distinct : table.Distinct) (key : κ) (value : α) :
    (table.bind key value).Distinct := by
  unfold Distinct Bindings.bind
  rcases map_fst_bindIn key value table.entries with eq | ⟨new, eq⟩
  · rwa [eq]
  · rw [eq]
    refine List.nodup_append.2
      ⟨distinct, List.pairwise_singleton _ key, fun old among last here => ?_⟩
    rintro rfl
    exact new (List.mem_singleton.1 here ▸ among)

theorem Distinct.foldl_bind {table : Bindings κ α} (distinct : table.Distinct) (place : κ → κ)
    (value : α) (keys : List κ) :
    (keys.foldl (fun table key => table.bind (place key) value) table).Distinct := by
  induction keys generalizing table with
  | nil => exact distinct
  | cons key rest ih => exact ih (distinct.bind _ _)

/-- Binding keys to one value binds them and nothing else. -/
theorem find?_foldl_bind (place : κ → κ) (value : α) (other : κ) (keys : List κ) :
    ∀ table : Bindings κ α,
      (keys.foldl (fun table key => table.bind (place key) value) table).find? other =
        if other ∈ keys.map place then some value else table.find? other := by
  induction keys with
  | nil => intro table; rfl
  | cons key rest ih =>
      intro table
      rw [List.foldl_cons, ih]
      by_cases same : other = place key
      · simp [same]
      · simp [same, find?_bind_of_ne _ same]

/-- In a table with distinct keys every entry can be found. -/
theorem Distinct.find?_of_mem {table : Bindings κ α} (distinct : table.Distinct)
    (among : (key, value) ∈ table.entries) : table.find? key = some value := by
  obtain ⟨entries⟩ := table
  unfold Distinct at distinct
  unfold find?
  dsimp only at distinct among ⊢
  induction entries with
  | nil => cases among
  | cons entry rest ih =>
      rw [List.map_cons, List.nodup_cons] at distinct
      rcases List.mem_cons.1 among with rfl | behind
      · simp [findIn]
      · have ne : entry.1 ≠ key := fun same =>
          distinct.1 (same ▸ List.mem_map_of_mem (f := Prod.fst) behind)
        rw [findIn, if_neg ne]
        exact ih distinct.2 behind

end Bindings

/-! ### Registers -/

theorem mem_insertName {name other : String} {names : List String} :
    other ∈ insertName name names ↔ other = name ∨ other ∈ names := by
  induction names with
  | nil => simp [insertName]
  | cons first rest ih =>
      rw [insertName]
      split
      · simp
      · split
        · next same => simp [same]
        · rw [List.mem_cons, ih, List.mem_cons, or_left_comm]

/-- A name is put in at its place. -/
theorem insertName_increasing {name : String} {names : List String}
    (increasing : names.Pairwise (· < ·)) : (insertName name names).Pairwise (· < ·) := by
  induction names with
  | nil => simp [insertName]
  | cons first rest ih =>
      obtain ⟨before, behind⟩ := List.pairwise_cons.1 increasing
      rw [insertName]
      split
      · next less =>
          refine List.pairwise_cons.2 ⟨?_, increasing⟩
          intro other among
          rcases List.mem_cons.1 among with rfl | among
          · exact less
          · exact String.lt_trans less (before other among)
      · split
        · exact increasing
        · next notLess different =>
            refine List.pairwise_cons.2 ⟨?_, ih behind⟩
            intro other among
            rcases mem_insertName.1 among with rfl | among
            · exact Std.lt_of_le_of_ne (Std.not_lt.1 notLess) (Ne.symm different)
            · exact before other among

theorem mem_openerNames {members : Bindings String Member} (distinct : members.Distinct)
    {name : String} :
    name ∈ openerNames members ↔ isPrivate name = false ∧
      ∃ target attachment, members.find? name = some (.opener target attachment) := by
  unfold openerNames
  constructor
  · intro among
    obtain ⟨⟨_, member⟩, entry, rfl⟩ := List.mem_map.1 among
    obtain ⟨inside, shown⟩ := List.mem_filter.1 entry
    simp only [Bool.and_eq_true, Bool.not_eq_true'] at shown
    refine ⟨shown.1, ?_⟩
    cases member with
    | opener target attachment => exact ⟨target, attachment, distinct.find?_of_mem inside⟩
    | _ => cases shown.2
  · rintro ⟨shown, target, attachment, found⟩
    refine List.mem_map.2 ⟨(name, .opener target attachment), ?_, rfl⟩
    exact List.mem_filter.2 ⟨Bindings.mem_of_findIn found, by simp [shown, Member.isOpener]⟩

theorem mem_extendRegistry {inherited : List String} {members : Bindings String Member}
    (distinct : members.Distinct) {name : String} :
    name ∈ extendRegistry inherited members ↔ name ∈ inherited ∨ isPrivate name = false ∧
      ∃ target attachment, members.find? name = some (.opener target attachment) := by
  rw [← mem_openerNames distinct]
  unfold extendRegistry
  induction openerNames members with
  | nil => simp
  | cons first rest ih =>
      rw [List.foldr_cons, mem_insertName, ih, List.mem_cons, or_left_comm]

theorem extendRegistry_increasing {inherited : List String}
    (increasing : inherited.Pairwise (· < ·)) (members : Bindings String Member) :
    (extendRegistry inherited members).Pairwise (· < ·) := by
  unfold extendRegistry
  induction openerNames members with
  | nil => exact increasing
  | cons first rest ih => exact insertName_increasing ih

/-! ### Bodies -/

namespace ClassTable

variable {table : ClassTable}

theorem distinct_bindOpeners : ∀ {openers : List OpenerSpec}
    {before after : Bindings String Member}, before.Distinct →
    table.bindOpeners openers before = .ok after → after.Distinct
  | [], _, _, distinct, bound => by cases bound; exact distinct
  | opener :: rest, before, after, distinct, bound => by
      obtain ⟨found, _, bound⟩ := bindOpeners_cons_eq_ok bound
      exact distinct_bindOpeners (distinct.bind _ _) bound

/-- Binding openers binds their names to openers and nothing else. -/
theorem find?_of_bindOpeners (name : String) :
    ∀ {openers : List OpenerSpec} {before after : Bindings String Member},
    table.bindOpeners openers before = .ok after →
      (∃ opener ∈ openers, opener.name = name) ∧
          (∃ target attachment, after.find? name = some (.opener target attachment)) ∨
        (∀ opener ∈ openers, opener.name ≠ name) ∧ after.find? name = before.find? name
  | [], _, _, bound => by cases bound; exact .inr ⟨nofun, rfl⟩
  | opener :: rest, before, after, bound => by
      obtain ⟨found, _, bound⟩ := bindOpeners_cons_eq_ok bound
      rcases find?_of_bindOpeners name bound with ⟨⟨other, among, same⟩, opens⟩ | ⟨others, kept⟩
      · exact .inl ⟨⟨other, List.mem_cons_of_mem _ among, same⟩, opens⟩
      · -- The last of the openers of a name, if it is there, is the first here.
        by_cases same : opener.name = name
        · subst same
          rw [Bindings.find?_bind_self] at kept
          exact .inl ⟨⟨opener, List.mem_cons_self, rfl⟩, found, _, kept⟩
        · rw [Bindings.find?_bind_of_ne _ (Ne.symm same)] at kept
          exact .inr ⟨List.forall_mem_cons.2 ⟨same, others⟩, kept⟩

/-- What a body defines can be told from it: the names required of a builder, else an empty
slot, else a function, else an opener. -/
theorem find?_of_bodyMembers {body : ClassBody} {members : Bindings String Member}
    (defined : table.bodyMembers body = .ok members) : members.Distinct ∧
      ∃ openers, table.bindOpeners body.openers .empty = .ok openers ∧ ∀ name,
        (∃ names, body.required = some names ∧ name = "_required" ∧
          members.find? name = some (.data (.ofNames names))) ∨
        members.find? name =
          if name ∈ body.slots.map slotAttribute then some (.data .null)
          else if name ∈ body.plain then some .plain
          else openers.find? name := by
  obtain ⟨openers, bound, defined⟩ := ok_of_bind defined
  cases defined
  have slots := ((distinct_bindOpeners Bindings.distinct_empty bound).foldl_bind
    id .plain body.plain).foldl_bind slotAttribute (.data .null) body.slots
  have looked : ∀ name, (body.slots.foldl
      (fun members name => members.bind (slotAttribute name) (.data .null))
      (body.plain.foldl (fun members name => members.bind name .plain) openers)).find? name =
        if name ∈ body.slots.map slotAttribute then some (.data .null)
        else if name ∈ body.plain then some .plain
        else openers.find? name := by
    intro name
    have plain := Bindings.find?_foldl_bind id .plain name body.plain openers
    rw [List.map_id] at plain
    rw [Bindings.find?_foldl_bind slotAttribute]
    exact congrArg _ plain
  cases body.required with
  | none => exact ⟨slots, openers, bound, fun name => .inr (looked name)⟩
  | some names =>
      refine ⟨slots.bind _ _, openers, bound, fun name => ?_⟩
      by_cases same : name = "_required"
      · subst same
        exact .inl ⟨names, rfl, rfl, Bindings.find?_bind_self _ _ _⟩
      · exact .inr ((Bindings.find?_bind_of_ne _ same _).trans (looked name))

end ClassTable

/-! ### The order of inheritance -/

/-- What is not taken stays in its row. -/
theorem mem_flatten_dropHead {id c : ClassId} {rows : List (List ClassId)}
    (inside : c ∈ rows.flatten) (other : c ≠ id) : c ∈ (dropHead id rows).flatten := by
  obtain ⟨row, among, there⟩ := List.mem_flatten.1 inside
  refine List.mem_flatten.2 ⟨_, List.mem_map_of_mem among, ?_⟩
  split
  · next head =>
      cases row with
      | nil => cases there
      | cons first rest =>
          cases head
          exact (List.mem_cons.1 there).resolve_left other
  · exact there

theorem length_flatten_dropHead_le (id : ClassId) (rows : List (List ClassId)) :
    (dropHead id rows).flatten.length ≤ rows.flatten.length := by
  induction rows with
  | nil => exact Nat.le_refl _
  | cons row rest ih =>
      have here : (if row.head? = some id then row.tail else row).length ≤ row.length := by
        split <;> simp
      simp only [dropHead, List.map_cons, List.flatten_cons, List.length_append] at ih ⊢
      omega

/-- Taking the head of a row leaves less to be merged. -/
theorem length_flatten_dropHead_lt {id : ClassId} {rows : List (List ClassId)}
    (head : id ∈ rows.filterMap List.head?) :
    (dropHead id rows).flatten.length < rows.flatten.length := by
  induction rows with
  | nil => cases head
  | cons row rest ih =>
      have others := length_flatten_dropHead_le id rest
      simp only [dropHead, List.map_cons, List.flatten_cons, List.length_append] at ih others ⊢
      by_cases here : row.head? = some id
      · cases row with
        | nil => cases here
        | cons first behind => simp only [here, if_true, List.tail_cons, List.length_cons]; omega
      · obtain ⟨other, among, same⟩ := List.mem_filterMap.1 head
        rcases List.mem_cons.1 among with rfl | among
        · exact absurd same here
        · have less := ih (List.mem_filterMap.2 ⟨other, among, same⟩)
          rw [if_neg here]
          omega

/-- What one step of a merge does. -/
theorem mergeRows_succ {steps : Nat} {rows : List (List ClassId)} {line : List ClassId}
    (merged : mergeRows (steps + 1) rows = .ok line) :
    rows.filterMap List.head? = [] ∧ line = [] ∨
      ∃ id rest, id ∈ rows.filterMap List.head? ∧ waits id rows = false ∧
        mergeRows steps (dropHead id rows) = .ok rest ∧ line = id :: rest := by
  unfold mergeRows at merged
  split at merged
  · next none => cases merged; exact .inl ⟨none, rfl⟩
  · cases merged
  · next id found _ =>
      cases others : mergeRows steps (dropHead id rows) with
      | error heads => rw [others] at merged; cases merged
      | ok rest =>
          rw [others] at merged
          cases merged
          have free := List.find?_some found
          exact .inr ⟨id, rest, List.mem_of_find?_eq_some found, by simpa using free, others, rfl⟩

/-- A merge leaves nothing out, if it has steps enough. -/
theorem mem_of_mergeRows : ∀ {steps : Nat} {rows : List (List ClassId)} {line : List ClassId},
    mergeRows steps rows = .ok line → rows.flatten.length ≤ steps → ∀ c ∈ rows.flatten, c ∈ line
  | 0, rows, _, _, enough, c, inside => by
      rw [List.length_eq_zero_iff.1 (Nat.le_zero.1 enough)] at inside
      cases inside
  | steps + 1, rows, line, merged, enough, c, inside => by
      rcases mergeRows_succ merged with ⟨none, _⟩ | ⟨id, rest, head, _, others, rfl⟩
      · -- Where no row has a head there is nothing to merge.
        obtain ⟨row, among, there⟩ := List.mem_flatten.1 inside
        cases row with
        | nil => cases there
        | cons first behind =>
            have : first ∈ rows.filterMap List.head? := List.mem_filterMap.2 ⟨_, among, rfl⟩
            rw [none] at this
            cases this
      · by_cases same : c = id
        · exact same ▸ List.mem_cons_self
        · have less := length_flatten_dropHead_lt head
          exact List.mem_cons_of_mem _ (mem_of_mergeRows others (by omega) c
            (mem_flatten_dropHead inside same))

/-- What has been taken is nowhere any more. -/
theorem not_mem_flatten_dropHead {id : ClassId} {rows : List (List ClassId)}
    (free : waits id rows = false) : id ∉ (dropHead id rows).flatten := by
  intro inside
  obtain ⟨_, kept, there⟩ := List.mem_flatten.1 inside
  obtain ⟨whole, among, rfl⟩ := List.mem_map.1 kept
  have away : id ∉ whole.tail := by
    intro waiting
    have : waits id rows = true := List.any_eq_true.2 ⟨_, among, decide_eq_true waiting⟩
    rw [free] at this
    cases this
  split at there
  · exact away there
  · next other =>
      cases whole with
      | nil => cases there
      | cons first rest =>
          rcases List.mem_cons.1 there with rfl | behind
          · exact other rfl
          · exact away behind

/-- A merge puts nothing in twice. -/
theorem nodup_of_mergeRows : ∀ {steps : Nat} {rows : List (List ClassId)} {line : List ClassId},
    mergeRows steps rows = .ok line → line.Nodup
  | 0, _, _, merged => by cases merged; exact List.nodup_nil
  | steps + 1, rows, line, merged => by
      rcases mergeRows_succ merged with ⟨_, rfl⟩ | ⟨id, rest, _, free, others, rfl⟩
      · exact List.nodup_nil
      · refine List.nodup_cons.2 ⟨fun again => ?_, nodup_of_mergeRows others⟩
        exact not_mem_flatten_dropHead free (mem_flatten_of_mergeRows others id again)

/-- A merge keeps the order of every row. -/
theorem sublist_of_mergeRows : ∀ {steps : Nat} {rows : List (List ClassId)} {line : List ClassId},
    mergeRows steps rows = .ok line → rows.flatten.length ≤ steps → ∀ row ∈ rows, row.Sublist line
  | 0, rows, _, _, enough, row, among => by
      have nothing := List.flatten_eq_nil_iff.1 (List.length_eq_zero_iff.1 (Nat.le_zero.1 enough))
      rw [nothing row among]
      exact List.nil_sublist _
  | steps + 1, rows, line, merged, enough, row, among => by
      rcases mergeRows_succ merged with ⟨none, _⟩ | ⟨id, rest, head, _, others, rfl⟩
      · cases row with
        | nil => exact List.nil_sublist _
        | cons first behind =>
            have : first ∈ rows.filterMap List.head? := List.mem_filterMap.2 ⟨_, among, rfl⟩
            rw [none] at this
            cases this
      · have less := length_flatten_dropHead_lt head
        have later := sublist_of_mergeRows others (by omega) _ (List.mem_map_of_mem among)
        split at later
        · next first =>
            cases row with
            | nil => exact List.nil_sublist _
            | cons other behind =>
                cases first
                exact later.cons_cons id
        · exact later.cons id

/-- The head of a row comes before everything behind it. -/
theorem first_of_mergeRows {first : ClassId} {behind : List ClassId} :
    ∀ {steps : Nat} {rows : List (List ClassId)} {line : List ClassId},
      mergeRows steps rows = .ok line → rows.flatten.length ≤ steps → first :: behind ∈ rows →
        ∃ before after, line = before ++ first :: after ∧ first ∉ before ∧
          ∀ c ∈ behind, c ∉ before
  | 0, rows, _, _, enough, among => by
      have inside : first ∈ rows.flatten := List.mem_flatten.2 ⟨_, among, List.mem_cons_self⟩
      rw [List.length_eq_zero_iff.1 (Nat.le_zero.1 enough)] at inside
      cases inside
  | steps + 1, rows, line, merged, enough, among => by
      rcases mergeRows_succ merged with ⟨none, _⟩ | ⟨id, rest, head, free, others, rfl⟩
      · have : first ∈ rows.filterMap List.head? := List.mem_filterMap.2 ⟨_, among, rfl⟩
        rw [none] at this
        cases this
      · by_cases same : first = id
        · exact ⟨[], rest, by rw [same]; rfl, List.not_mem_nil, fun _ _ => List.not_mem_nil⟩
        · -- What is taken first stands behind no head, so not in this row.
          have away : id ∉ behind := by
            intro there
            have waiting : waits id rows = true :=
              List.any_eq_true.2 ⟨_, among, decide_eq_true there⟩
            rw [free] at waiting
            cases waiting
          have still : first :: behind ∈ dropHead id rows := by
            have head : ¬ (first :: behind).head? = some id := fun eq => same (Option.some.inj eq)
            exact List.mem_map.2 ⟨_, among, if_neg head⟩
          have less := length_flatten_dropHead_lt head
          obtain ⟨before, after, rfl, new, clear⟩ := first_of_mergeRows others (by omega) still
          refine ⟨id :: before, after, rfl, ?_, fun c there => ?_⟩
          · exact fun there => (List.mem_cons.1 there).elim same new
          · exact fun here =>
              (List.mem_cons.1 here).elim (fun eq => away (eq ▸ there)) (clear c there)

namespace ClassTable

variable {table : ClassTable} {ids line : List ClassId}

/-- Behind a new class stands what is in the lines of its bases and nothing else. -/
theorem mem_ancestors (checked : table.checkedAncestors ids = .ok line) {c : ClassId} :
    c ∈ line ↔ ∃ base ∈ directBases ids, c ∈ table.line base := by
  refine ⟨exists_base_of_mem checked, ?_⟩
  rintro ⟨base, direct, there⟩
  refine mem_of_mergeRows (merge_of_checked checked) (Nat.le_refl _) c (List.mem_flatten.2 ⟨_, ?_, there⟩)
  exact List.mem_append_left _ (List.mem_map_of_mem direct)

/-- Behind a new class the lines of its bases keep their order. -/
theorem sublist_ancestors (checked : table.checkedAncestors ids = .ok line) {base : ClassId}
    (direct : base ∈ directBases ids) : (table.line base).Sublist line :=
  sublist_of_mergeRows (merge_of_checked checked) (Nat.le_refl _) _
    (List.mem_append_left _ (List.mem_map_of_mem direct))

theorem nodup_ancestors (checked : table.checkedAncestors ids = .ok line) : line.Nodup :=
  nodup_of_mergeRows (merge_of_checked checked)

end ClassTable

end ScopedHtml
