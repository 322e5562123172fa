import ScopedHtml.Builder.Program

/-!
# ScopedHtml.Proofs.Program

Running programs on builders.

A program is a function from a session to a result and a session. The equations of
the first section run one step of a program each; proofs about programs rewrite with
them and never open the monad.

Many programs only look. `Quiet m s` says that `m`, run from `s`, leaves `s` as it is,
whatever it answers; it is closed under sequences, so it holds of a program if it
holds of its steps.
-/

namespace ScopedHtml.BuildM

variable {ρ α β : Type} {s t : Session ρ}

/-! ### Single steps -/

@[simp] theorem pure_apply (a : α) (s : Session ρ) : (pure a : BuildM ρ α) s = .ok a s := rfl

@[simp] theorem query_apply (read : Store → Except Fault α) (s : Session ρ) :
    (query read : BuildM ρ α) s = match read s.store with
      | .ok a => .ok a s
      | .error fault => .error fault s := rfl

theorem perform_apply (operation : Store → Except Fault Store) (s : Session ρ) :
    (perform operation : BuildM ρ Unit) s = match operation s.store with
      | .ok store => .ok () { s with store }
      | .error fault => .error fault s := rfl

theorem transact_apply (operation : Store → Except Fault (α × Store)) (s : Session ρ) :
    (transact operation : BuildM ρ α) s = match operation s.store with
      | .ok (a, store) => .ok a { s with store }
      | .error fault => .error fault s := rfl

theorem outcome_apply (m : BuildM ρ α) (s : Session ρ) :
    outcome m s = match m s with
      | .ok a t => .ok (.ok a) t
      | .error fault t => .ok (.error fault) t := rfl

/-- An operation that fails changes nothing. -/
theorem perform_eq_of_error {operation : Store → Except Fault Store} {fault : Fault}
    (h : (perform operation : BuildM ρ Unit) s = .error fault t) : t = s := by
  rw [perform_apply] at h
  cases eq : operation s.store with
  | ok store => rw [eq] at h; cases h
  | error _ => rw [eq] at h; cases h; rfl

/-- An operation that is done leaves the store that it answers, and nothing else changes. -/
theorem perform_eq_ok {operation : Store → Except Fault Store} {a : Unit} :
    (perform operation : BuildM ρ Unit) s = .ok a t ↔
      ∃ store, operation s.store = .ok store ∧ t = { s with store } := by
  rw [perform_apply]
  cases operation s.store with
  | ok store => simp [eq_comm]
  | error _ => simp

theorem transact_eq_ok {operation : Store → Except Fault (α × Store)} {a : α} :
    (transact operation : BuildM ρ α) s = .ok a t ↔
      ∃ store, operation s.store = .ok (a, store) ∧ t = { s with store } := by
  rw [transact_apply]
  cases operation s.store with
  | ok result =>
      obtain ⟨made, store⟩ := result
      constructor
      · rintro ⟨⟩
        exact ⟨store, rfl, rfl⟩
      · rintro ⟨_, ⟨⟩, rfl⟩
        rfl
  | error _ => simp

/-- The session that running a program leaves, whether it ends well or fails. -/
def left (m : BuildM ρ α) (s : Session ρ) : Session ρ :=
  match m s with
  | .ok _ t => t
  | .error _ t => t

theorem left_of_ok {m : BuildM ρ α} {a : α} (h : m s = .ok a t) : left m s = t := by
  rw [left, h]

theorem left_of_error {m : BuildM ρ α} {fault : Fault} (h : m s = .error fault t) :
    left m s = t := by
  rw [left, h]

theorem left_congr {m k : BuildM ρ α} (h : m s = k t) : left m s = left k t := by
  rw [left, h, left]

/-- A program that answers something ends well. -/
theorem exists_ok_of_run' {m : BuildM ρ α} (some : (m.run' s).isSome = true) :
    ∃ a t, m s = .ok a t := by
  unfold EStateM.run' EStateM.run at some
  cases run : m s with
  | ok a t => exact ⟨a, t, rfl⟩
  | error fault t =>
      rw [run] at some
      cases some

/-! ### Sequences -/

variable {m : BuildM ρ α} {k : α → BuildM ρ β}

theorem bind_apply (m : BuildM ρ α) (k : α → BuildM ρ β) (s : Session ρ) :
    (m >>= k) s = match m s with
      | .ok a t => k a t
      | .error fault t => .error fault t := by
  show EStateM.bind m k s = _
  unfold EStateM.bind
  cases m s <;> rfl

/-- A sequence goes on from where its first part has ended. -/
theorem bind_of_ok {a : α} (h : m s = .ok a t) : (m >>= k) s = k a t := by
  rw [bind_apply, h]

/-- A sequence fails as its first part does. -/
theorem bind_of_error {fault : Fault} (h : m s = .error fault t) :
    (m >>= k) s = .error fault t := by
  rw [bind_apply, h]

/-- A sequence that ends well has come through its first part. -/
theorem bind_eq_ok {b : β} :
    (m >>= k) s = .ok b t ↔ ∃ a u, m s = .ok a u ∧ k a u = .ok b t := by
  rw [bind_apply]
  cases m s with
  | ok a u => exact ⟨fun h => ⟨a, u, rfl, h⟩, by rintro ⟨_, _, ⟨⟩, h⟩; exact h⟩
  | error fault u => simp

/-- A sequence fails in its first part or, that done, in its second. -/
theorem bind_eq_error {fault : Fault} :
    (m >>= k) s = .error fault t ↔
      m s = .error fault t ∨ ∃ a u, m s = .ok a u ∧ k a u = .error fault t := by
  rw [bind_apply]
  cases m s with
  | ok a u =>
      refine ⟨fun h => .inr ⟨a, u, rfl, h⟩, ?_⟩
      rintro (h | ⟨_, _, ⟨⟩, h⟩)
      · cases h
      · exact h
  | error fault u => simp

@[simp] theorem observe_bind (view : Store → α) (k : α → BuildM ρ β) (s : Session ρ) :
    (observe view >>= k) s = k (view s.store) s := rfl

/-- What a program leaves does not depend on how its answer is put. -/
theorem left_map (m : BuildM ρ α) (f : α → β) (s : Session ρ) :
    left (m >>= fun a => pure (f a)) s = left m s := by
  unfold left
  rw [bind_apply]
  cases m s <;> rfl

@[simp] theorem discard_apply (m : BuildM ρ α) (s : Session ρ) :
    (discard m : BuildM ρ Unit) s = match m s with
      | .ok _ t => .ok () t
      | .error fault t => .error fault t := by
  show EStateM.map _ m s = _
  unfold EStateM.map
  cases m s <;> rfl

@[simp] theorem left_discard (m : BuildM ρ α) (s : Session ρ) :
    left (discard m : BuildM ρ Unit) s = left m s := by
  unfold left
  rw [discard_apply]
  cases m s <;> rfl

@[simp] theorem left_outcome (m : BuildM ρ α) (s : Session ρ) : left (outcome m) s = left m s := by
  unfold left
  rw [outcome_apply]
  cases m s <;> rfl

/-- What a sequence leaves is what its first part has left, if that fails, and otherwise what the
second leaves from there. -/
theorem left_bind (m : BuildM ρ α) (k : α → BuildM ρ β) (s : Session ρ) :
    (∃ fault, m s = .error fault (left m s) ∧ left (m >>= k) s = left m s) ∨
      ∃ a, m s = .ok a (left m s) ∧ left (m >>= k) s = left (k a) (left m s) := by
  unfold left
  rw [bind_apply]
  cases m s with
  | ok a t => exact .inr ⟨a, rfl, rfl⟩
  | error fault t => exact .inl ⟨fault, rfl, rfl⟩

/-- An operation that is performed leaves what it answers, and nothing has changed if it fails. -/
theorem left_perform (operation : Store → Except Fault Store) (s : Session ρ) :
    left (perform operation : BuildM ρ Unit) s = s ∨
      ∃ store, operation s.store = .ok store ∧
        left (perform operation : BuildM ρ Unit) s = { s with store } := by
  unfold left
  rw [perform_apply]
  cases operation s.store with
  | ok store => exact .inr ⟨store, rfl, rfl⟩
  | error fault => exact .inl rfl

theorem left_transact (operation : Store → Except Fault (α × Store)) (s : Session ρ) :
    left (transact operation : BuildM ρ α) s = s ∨
      ∃ a store, operation s.store = .ok (a, store) ∧
        left (transact operation : BuildM ρ α) s = { s with store } := by
  unfold left
  rw [transact_apply]
  cases operation s.store with
  | ok result => exact .inr ⟨result.1, result.2, rfl, rfl⟩
  | error fault => exact .inl rfl

theorem discard_of_ok {a : α} (h : m s = .ok a t) : (discard m : BuildM ρ Unit) s = .ok () t := by
  rw [discard_apply, h]

/-- Forgetting what a program answers does not keep it from failing. -/
theorem discard_eq_error {fault : Fault} :
    (discard m : BuildM ρ Unit) s = .error fault t ↔ m s = .error fault t := by
  rw [discard_apply]
  cases m s <;> simp

/-! ### Programs that only look -/

/-- Running `m` from `s` leaves the session as it is. -/
def Quiet (m : BuildM ρ α) (s : Session ρ) : Prop := ∃ result, m s = settle result s

theorem quiet_pure (a : α) : Quiet (pure a : BuildM ρ α) s := ⟨.ok a, rfl⟩

theorem quiet_throw (fault : Fault) : Quiet (throw fault : BuildM ρ α) s := ⟨.error fault, rfl⟩

theorem quiet_query (read : Store → Except Fault α) : Quiet (query read : BuildM ρ α) s :=
  ⟨read s.store, rfl⟩

theorem quiet_observe (view : Store → α) : Quiet (observe view : BuildM ρ α) s := ⟨.ok _, rfl⟩

theorem query_eq_ok {read : Store → Except Fault α} {a : α} :
    (query read : BuildM ρ α) s = .ok a t ↔ read s.store = .ok a ∧ t = s := by
  rw [query_apply]
  cases read s.store <;> simp [eq_comm]

theorem quiet_settle (result : Except Fault α) : Quiet (settle result : BuildM ρ α) s :=
  ⟨result, rfl⟩

theorem quiet_of_ok {a : α} (h : m s = .ok a s) : Quiet m s := ⟨.ok a, h⟩

theorem quiet_of_error {fault : Fault} (h : m s = .error fault s) : Quiet m s :=
  ⟨.error fault, h⟩

/-- What a program that only looks leaves when it ends well. -/
theorem Quiet.eq_of_ok (h : Quiet m s) {a : α} (run : m s = .ok a t) : t = s := by
  obtain ⟨result, eq⟩ := h
  rw [eq] at run
  cases result with
  | ok _ => exact (EStateM.Result.ok.inj run).2.symm
  | error _ => cases run

/-- What a program that only looks leaves when it fails. -/
theorem Quiet.eq_of_error (h : Quiet m s) {fault : Fault} (run : m s = .error fault t) :
    t = s := by
  obtain ⟨result, eq⟩ := h
  rw [eq] at run
  cases result with
  | ok _ => cases run
  | error _ => exact (EStateM.Result.error.inj run).2.symm

/-- A program that only looks fails where it stands or ends well there. -/
theorem Quiet.cases (h : Quiet m s) : (∃ fault, m s = .error fault s) ∨ ∃ a, m s = .ok a s := by
  obtain ⟨result, eq⟩ := h
  cases result with
  | ok a => exact .inr ⟨a, eq⟩
  | error fault => exact .inl ⟨fault, eq⟩

/-- A program that only looks leaves what it has found. -/
theorem Quiet.left_eq (h : Quiet m s) : left m s = s := by
  obtain ⟨fault, eq⟩ | ⟨a, eq⟩ := h.cases
  · exact left_of_error eq
  · exact left_of_ok eq

/-- A sequence only looks if its parts do. -/
theorem Quiet.bind (first : Quiet m s) (second : ∀ a, m s = .ok a s → Quiet (k a) s) :
    Quiet (m >>= k) s := by
  obtain ⟨result, eq⟩ := first
  -- The second part runs from `s` too, as the first has left it there.
  cases result with
  | ok a =>
      obtain ⟨result, eq'⟩ := second a eq
      exact ⟨result, by rw [bind_of_ok eq]; exact eq'⟩
  | error fault => exact ⟨.error fault, bind_of_error eq⟩

/-- A program that starts by looking only looks if the rest does. -/
theorem quiet_observe_bind {view : Store → α} (h : Quiet (k (view s.store)) s) :
    Quiet (observe view >>= k) s := h

theorem Quiet.outcome (h : Quiet m s) : Quiet (outcome m) s := by
  obtain ⟨result, eq⟩ := h
  refine ⟨.ok result, ?_⟩
  rw [outcome_apply, eq]
  cases result <;> rfl

theorem Quiet.map (h : Quiet m s) (f : α → β) : Quiet (f <$> m) s := by
  rw [← bind_pure_comp]
  exact h.bind fun a _ => quiet_pure (f a)

theorem Quiet.discard (h : Quiet m s) : Quiet (discard m : BuildM ρ Unit) s := h.map _

end ScopedHtml.BuildM
