/-!
# ScopedHtml.Bindings

Names and what they stand for.

A `Bindings κ α` is a finite table in order of first binding; binding a key
again replaces its value and keeps its place. `find?` is the view: the two
lemmas `find?_bind_self` and `find?_bind_of_ne` say all there is to know about
`bind`.
-/

namespace ScopedHtml

/-- A finite table from keys to values. -/
structure Bindings (κ α : Type) where
  entries : List (κ × α) := []
  deriving Repr, Inhabited

namespace Bindings

variable {κ α : Type} [DecidableEq κ]

/-- The table without entries. -/
def empty : Bindings κ α := ⟨[]⟩

/-! ### Entries -/

/-- The value of the first entry under `key`. -/
def findIn (key : κ) : List (κ × α) → Option α
  | [] => none
  | (k, a) :: rest => if k = key then some a else findIn key rest

/-- The entries with `key` bound to `value`, at its old place if it has one. -/
def bindIn (key : κ) (value : α) : List (κ × α) → List (κ × α)
  | [] => [(key, value)]
  | (k, a) :: rest =>
      if k = key then (key, value) :: rest else (k, a) :: bindIn key value rest

theorem findIn_bindIn_self (key : κ) (value : α) (entries : List (κ × α)) :
    findIn key (bindIn key value entries) = some value := by
  induction entries with
  | nil => simp [bindIn, findIn]
  | cons entry rest ih =>
    by_cases h : entry.1 = key <;> simp [bindIn, findIn, h, ih]

theorem findIn_bindIn_of_ne {key other : κ} (h : other ≠ key) (value : α)
    (entries : List (κ × α)) :
    findIn other (bindIn key value entries) = findIn other entries := by
  induction entries with
  | nil => simp [bindIn, findIn, Ne.symm h]
  | cons entry rest ih =>
    by_cases hk : entry.1 = key
    · simp [bindIn, findIn, hk, Ne.symm h]
    · simp [bindIn, findIn, hk, ih]

theorem bindIn_of_findIn {key : κ} {value : α} {entries : List (κ × α)}
    (found : findIn key entries = some value) : bindIn key value entries = entries := by
  induction entries with
  | nil => cases found
  | cons entry rest ih =>
      obtain ⟨other, known⟩ := entry
      rw [findIn] at found
      rw [bindIn]
      split at found
      · next same =>
          cases found
          rw [if_pos same, same]
      · next different => rw [if_neg different, ih found]

theorem bindIn_bindIn (key : κ) (first second : α) (entries : List (κ × α)) :
    bindIn key second (bindIn key first entries) = bindIn key second entries := by
  induction entries with
  | nil => simp [bindIn]
  | cons entry rest ih =>
    by_cases h : entry.1 = key <;> simp [bindIn, h, ih]

/-! ### Tables -/

/-- What `key` stands for. -/
def find? (table : Bindings κ α) (key : κ) : Option α := findIn key table.entries

/-- The table in which `key` stands for `value`. -/
def bind (table : Bindings κ α) (key : κ) (value : α) : Bindings κ α :=
  ⟨bindIn key value table.entries⟩

@[simp] theorem find?_empty (key : κ) : (empty : Bindings κ α).find? key = none := rfl

@[simp] theorem find?_bind_self (table : Bindings κ α) (key : κ) (value : α) :
    (table.bind key value).find? key = some value :=
  findIn_bindIn_self key value table.entries

theorem find?_bind_of_ne (table : Bindings κ α) {key other : κ} (h : other ≠ key)
    (value : α) : (table.bind key value).find? other = table.find? other :=
  findIn_bindIn_of_ne h value table.entries

/-- Binding a key to what it stands for changes nothing. -/
theorem bind_of_find? {table : Bindings κ α} {key : κ} {value : α}
    (found : table.find? key = some value) : table.bind key value = table := by
  unfold bind
  rw [bindIn_of_findIn found]

/-- Of two bindings of a key the second one stays. -/
theorem bind_bind (table : Bindings κ α) (key : κ) (first second : α) :
    (table.bind key first).bind key second = table.bind key second := by
  unfold bind
  rw [bindIn_bindIn]

end Bindings

end ScopedHtml
