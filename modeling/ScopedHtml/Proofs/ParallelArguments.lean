import ScopedHtml.Proofs.Parallel

/-!
# ScopedHtml.Proofs.ParallelArguments

**Arguments that are alike.** Values are equal, builders stand for each other, and functions run in
parallel on builders that nothing speaks of yet (`Bridge.Givens`). Binding arguments that are alike
to parameters turns out alike.
-/

namespace ScopedHtml

variable {ρ α β : Type}

/-! ### Binding -/

/-- Things under names. -/
def Named (R : α → β → Prop) (entry : String × α) (entry' : String × β) : Prop :=
  entry'.1 = entry.1 ∧ R entry.2 entry'.2

namespace Signature

variable {R : α → β → Prop}

theorem any_name {bound : List (String × α)} {bound' : List (String × β)}
    (alike : List.Forall₂ (Named R) bound bound') (name : String) :
    (bound'.any fun entry => entry.1 = name) = bound.any fun entry => entry.1 = name := by
  induction alike with
  | nil => rfl
  | cons here _ ih => rw [List.any_cons, List.any_cons, here.1, ih]

theorem bindNamed_alike (signature : Signature) {named : List (String × α)}
    {named' : List (String × β)} (alike : List.Forall₂ (Named R) named named') :
    ∀ {bound : List (String × α)} {bound' : List (String × β)},
      List.Forall₂ (Named R) bound bound' →
        Outcomes (fun fault fault' => fault' = fault) (List.Forall₂ (Named R))
          (signature.bindNamed bound named) (signature.bindNamed bound' named') := by
  induction alike with
  | nil => exact fun bound => .ok bound
  | @cons entry entry' rest rest' here _ ih =>
      obtain ⟨name, a⟩ := entry
      obtain ⟨name', a'⟩ := entry'
      obtain ⟨rfl, related⟩ := here
      intro bound bound' before
      rw [bindNamed, bindNamed, any_name before]
      split
      · exact .error rfl
      · split
        · exact ih (List.rel_append before (.cons ⟨rfl, related⟩ .nil))
        · exact .error rfl

theorem bindFirst_alike (signature : Signature) {first : Option α} {first' : Option β}
    (alike : Option.Rel R first first') :
    List.Forall₂ (Named R) (signature.bindFirst first) (signature.bindFirst first') := by
  cases alike with
  | none => exact .nil
  | some related =>
      unfold bindFirst
      cases signature.parameters with
      | nil => exact .nil
      | cons parameter rest => exact .cons ⟨rfl, related⟩ .nil

/-- What is bound depends on the names of what is given only. -/
theorem bind_alike (signature : Signature) {first : Option α} {first' : Option β}
    {named : List (String × α)} {named' : List (String × β)} (alike : Option.Rel R first first')
    (others : List.Forall₂ (Named R) named named') :
    Outcomes (fun fault fault' => fault' = fault) (List.Forall₂ (Named R))
      (signature.bind first named) (signature.bind first' named') := by
  have all := signature.bindNamed_alike others (signature.bindFirst_alike alike)
  have some : first'.isSome = first.isSome := by cases alike <;> rfl
  unfold bind
  rw [some]
  revert all
  generalize signature.bindNamed (signature.bindFirst first) named = result
  generalize signature.bindNamed (signature.bindFirst first') named' = result'
  rintro (@⟨bound, bound', related⟩ | @⟨fault, _, rfl⟩)
  · have absent : signature.absent bound' = signature.absent bound := by
      unfold Signature.absent
      congr 1
      exact List.filter_congr fun parameter _ => by rw [any_name related]
    show Outcomes _ _ (if _ then _ else _) (if _ then _ else _)
    split
    · exact .error rfl
    · show Outcomes _ _ (if _ then _ else _) (if _ then _ else _)
      rw [absent]
      split
      · exact .ok related
      · exact .error rfl
  · exact .error rfl

end Signature

/-! ### What calls are given -/

namespace Bridge

variable (bridge : Bridge ρ)

/-- Nothing that is carried speaks of these builders yet: it was carried already when there
were fewer of them. -/
def New (u v : Session ρ) (b b' : BuilderRef) : Prop :=
  ∃ s t : Store, bridge.extras s t u.extra v.extra ∧ s.builders.length ≤ b.index ∧
    t.builders.length ≤ b'.index

/-- Arguments of calls. -/
inductive Givens (s t : Session ρ) : Given ρ → Given ρ → Prop
  | value (held : Value) : Givens s t (.value held) (.value held)
  | function {init init' : Init ρ}
      (runs : ∀ {u v b b'}, Later s t u v → bridge.Paired u.store v.store b b' →
        bridge.New u v b b' → bridge.Parallel u v Same (init b) (init' b')) :
      Givens s t (.function init) (.function init')
  | builder {b b' : BuilderRef} (known : bridge.Known s.store t.store b b') :
      Givens s t (.builder b) (.builder b')

/-- All that a call is given. -/
structure Gives (s t : Session ρ) (arguments arguments' : Arguments ρ) : Prop where
  first : Option.Rel (bridge.Givens s t) arguments.first arguments'.first
  options : arguments'.options = arguments.options

variable {bridge} {s t u v : Session ρ} {given given' : Given ρ} {arguments arguments' : Arguments ρ}

theorem gives_options (s t : Session ρ) (options : Options) :
    bridge.Gives s t { options } { options } := ⟨.none, rfl⟩

theorem gives_value (s t : Session ρ) (held : Value) :
    bridge.Gives s t { first := some (.value held) } { first := some (.value held) } :=
  ⟨.some (.value held), rfl⟩

namespace Givens

theorem later (givens : bridge.Givens s t given given') (later : Later s t u v) :
    bridge.Givens u v given given' := by
  cases givens with
  | value held => exact .value held
  | function runs => exact .function fun more paired new => runs (later.trans more) paired new
  | builder known => exact .builder (known.mono later.left.builders later.right.builders)

theorem toValue (givens : bridge.Givens s t given given') : given'.toValue = given.toValue := by
  cases givens <;> rfl

theorem typeName (givens : bridge.Givens s t given given') (beside : bridge.Beside s t) :
    bridge.swap.Titles (given.typeName s.store) (given'.typeName t.store) := by
  cases givens with
  | value held => exact .inl rfl
  | function runs => exact .inl rfl
  | builder known => exact beside.stores.titles known

end Givens

namespace Gives

/-- What an opener is to run. -/
theorem init? (gives : bridge.Gives s t arguments arguments') :
    Option.Rel (bridge.Givens s t) arguments.init? arguments'.init? := by
  obtain ⟨first, _⟩ := gives
  obtain ⟨given, _⟩ := arguments
  obtain ⟨given', _⟩ := arguments'
  unfold Arguments.init?
  cases first with
  | none => exact .none
  | some givens =>
      cases givens with
      | value held =>
          cases held with
          | null => exact .none
          | _ => exact .some (.value _)
      | function runs => exact .some (.function runs)
      | builder known => exact .some (.builder known)

theorem bind (gives : bridge.Gives s t arguments arguments') (signature : Signature) :
    Outcomes bridge.swap.Faults (List.Forall₂ (Named (bridge.Givens s t)))
      (arguments.bind signature) (arguments'.bind signature) := by
  unfold Arguments.bind
  rw [gives.options]
  have options : List.Forall₂ (Named (bridge.Givens s t))
      (arguments.options.map fun option => (option.1, .value option.2))
      (arguments.options.map fun option => (option.1, .value option.2)) := by
    rw [List.forall₂_map_left_iff, List.forall₂_map_right_iff]
    exact List.forall₂_same.2 fun option _ => ⟨rfl, .value option.2⟩
  refine (signature.bind_alike gives.first options).imp ?_ fun _ _ => id
  rintro _ fault rfl
  exact .same fault

theorem bindOnly (gives : bridge.Gives s t arguments arguments') (signature : Signature) :
    Outcomes bridge.swap.Faults (bridge.Givens s t) (arguments.bindOnly signature)
      (arguments'.bindOnly signature) := by
  have bound := gives.bind signature
  unfold Arguments.bindOnly
  revert bound
  generalize arguments.bind signature = result
  generalize arguments'.bind signature = result'
  rintro (related | alike)
  · cases related with
    | nil => exact .ok (.value .null)
    | cons here _ => exact .ok here.2
  · exact .error alike

theorem bindOptions (gives : bridge.Gives s t arguments arguments') (signature : Signature) :
    arguments'.bindOptions signature = arguments.bindOptions signature := by
  have some : arguments'.first.isSome = arguments.first.isSome := by
    have first := gives.first
    revert first
    generalize arguments.first = first
    generalize arguments'.first = first'
    rintro (_ | _) <;> rfl
  unfold Arguments.bindOptions
  rw [gives.options, some]

/-- The values that are bound. -/
theorem values {bound bound' : List (String × Given ρ)}
    (related : List.Forall₂ (Named (bridge.Givens s t)) bound bound') :
    (bound'.map fun entry => (entry.1, entry.2.toValue)) =
      bound.map fun entry => (entry.1, entry.2.toValue) := by
  induction related with
  | nil => rfl
  | cons here _ ih => rw [List.map_cons, List.map_cons, here.1, here.2.toValue, ih]

end Gives

end Bridge

end ScopedHtml
