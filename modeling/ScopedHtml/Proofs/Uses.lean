import ScopedHtml.Proofs.Drafts
import ScopedHtml.Script.Run

/-!
# ScopedHtml.Proofs.Uses

**What a step of a script uses.** A step speaks of builders and elements by their names, it looks
up and assigns attributes, and it defines classes. `Step.uses` lists all that, whatever block it
stands in. What descriptions of elements stand for depends on the names in them only
(`Spec.read_congr`).

After a swap, a step creates builders of the new class in place of the old one, and the openers of
the classes that it defines open the new class (`Swap.step`). It uses the same names.
-/

namespace ScopedHtml

/-! ### Descriptions -/

mutual

/-- The names of elements in a description. -/
def Spec.names : Spec → List String
  | .value _ => []
  | .named name => [name]
  | .element _ fields => fieldNames fields
  | .list items => namesAmong items

/-- The names of elements in the descriptions of fields. -/
def fieldNames : List (String × Spec) → List String
  | [] => []
  | (_, spec) :: rest => spec.names ++ fieldNames rest

/-- The names of elements in descriptions in a row. -/
def namesAmong : List Spec → List String
  | [] => []
  | spec :: rest => spec.names ++ namesAmong rest

end

section Descriptions

variable {named named' : String → Option Node}

mutual

/-- What a description stands for depends on the names in it only. -/
theorem Spec.read_congr : ∀ (spec : Spec), (∀ name ∈ spec.names, named' name = named name) →
    spec.read named' = spec.read named
  | .value _, _ => rfl
  | .named name, same => by
      rw [Spec.read, Spec.read, same name (by simp [Spec.names])]
  | .element kind fields, same => by
      rw [Spec.read, Spec.read, fieldValues_congr fields fun name among =>
        same name (by rwa [Spec.names])]
  | .list items, same => by
      rw [Spec.read, Spec.read, values_congr items fun name among =>
        same name (by rwa [Spec.names])]

theorem fieldValues_congr : ∀ (fields : List (String × Spec)),
    (∀ name ∈ fieldNames fields, named' name = named name) →
      fieldValues named' fields = fieldValues named fields
  | [], _ => rfl
  | (_, spec) :: rest, same => by
      rw [fieldNames] at same
      rw [fieldValues, fieldValues,
        Spec.read_congr spec fun name among => same name (List.mem_append_left _ among),
        fieldValues_congr rest fun name among => same name (List.mem_append_right _ among)]

theorem values_congr : ∀ (items : List Spec),
    (∀ name ∈ namesAmong items, named' name = named name) → values named' items = values named items
  | [], _ => rfl
  | spec :: rest, same => by
      rw [namesAmong] at same
      rw [values, values,
        Spec.read_congr spec fun name among => same name (List.mem_append_left _ among),
        values_congr rest fun name among => same name (List.mem_append_right _ among)]

end

theorem Spec.make_congr (spec : Spec) (same : ∀ name ∈ spec.names, named' name = named name) :
    spec.make named' = spec.make named := by
  unfold Spec.make
  rw [spec.read_congr same]

end Descriptions

/-! ### Steps -/

namespace Script

/-- Something that a step does, there or in a block inside. -/
inductive Use
  /-- It works on the builder that is bound to the name, or it binds one to it. -/
  | works (name : String)
  /-- It passes the builder that is bound to the name on as an argument. -/
  | passes (name : String)
  /-- It binds an element to the name. -/
  | keeps (name : String)
  /-- It speaks of the element that is bound to the name. -/
  | reads (name : String)
  /-- It looks up what a builder has under the name. -/
  | looks (name : String)
  /-- It assigns an attribute of a builder. -/
  | assigns (name : String) (value : Value)
  /-- It defines a class. -/
  | defines (name : String) (body : ClassBody)

mutual

/-- All that a step uses. -/
def Step.uses : Step → List Use
  | .named name step => .keeps name :: step.uses
  | .about on step => .works on :: step.uses
  | .new name _ _ => [.works name]
  | .call on member argument _ => .works on :: .looks member :: argument.uses
  | .html argument => argument.uses
  | .sample => []
  | .elements _ => []
  | .get on name => [.works on, .looks name]
  | .set on name value => [.works on, .assigns name value]
  | .node spec => spec.names.map .reads
  | .outline spec => spec.names.map .reads
  | .compare first second => (first.names ++ second.names).map .reads
  | .distinct specs => (namesAmong specs).map .reads
  | .getField spec _ => spec.names.map .reads
  | .setField spec _ => spec.names.map .reads
  | .deleteField spec _ => spec.names.map .reads
  | .fail _ => []
  | .attempt steps => usesOf steps
  | .define name _ body => [.defines name body]
  | .defineMixin name body => [.defines name body]

/-- All that an argument uses, when it is given and when it is run. -/
def Argument.uses : Argument → List Use
  | .absent => []
  | .value _ => []
  | .block inner steps => .works inner :: usesOf steps
  | .builder name => [.passes name]
  | .node spec => spec.names.map .reads

/-- All that steps in a row use. -/
def usesOf : List Step → List Use
  | [] => []
  | step :: rest => step.uses ++ usesOf rest

end

/-- A step that is about a builder uses its name. -/
theorem Step.works_of_on? : ∀ (step : Step) {name : String}, step.on? = some name →
    .works name ∈ step.uses
  | .named _ step, _, on => by
      rw [Step.uses]
      exact List.mem_cons_of_mem _ (step.works_of_on? on)
  | .about _ _, _, rfl => List.mem_cons_self
  | .call _ _ _ _, _, rfl => List.mem_cons_self
  | .get _ _, _, rfl => List.mem_cons_self
  | .set _ _ _, _, rfl => List.mem_cons_self

end Script

/-! ### Steps after a swap -/

namespace Swap

open Script

mutual

/-- A step after the swap. -/
def step (swap : Swap) : Step → Step
  | .named name step => .named name (swap.step step)
  | .about on step => .about on (swap.step step)
  | .new name className options => .new name (swap.named className) options
  | .call on member argument options => .call on member (swap.argument argument) options
  | .html argument => .html (swap.argument argument)
  | .attempt steps => .attempt (swap.steps steps)
  | .define name bases body => .define name bases (swap.body body)
  | .defineMixin name body => .defineMixin name (swap.body body)
  | step => step

/-- An argument after the swap. -/
def argument (swap : Swap) : Argument → Argument
  | .block inner steps => .block inner (swap.steps steps)
  | argument => argument

/-- Steps in a row after the swap. -/
def steps (swap : Swap) : List Step → List Step
  | [] => []
  | step :: rest => swap.step step :: swap.steps rest

end

variable {swap : Swap}

theorem on?_step : ∀ step : Step, (swap.step step).on? = step.on?
  | .named _ step => by
      rw [Swap.step]
      exact on?_step step
  | .about _ _ => rfl
  | .new _ _ _ => rfl
  | .call _ _ _ _ => rfl
  | .html _ => rfl
  | .attempt _ => rfl
  | .define _ _ _ => rfl
  | .defineMixin _ _ => rfl
  | .sample => rfl
  | .elements _ => rfl
  | .get _ _ => rfl
  | .set _ _ _ => rfl
  | .node _ => rfl
  | .outline _ => rfl
  | .compare _ _ => rfl
  | .distinct _ => rfl
  | .getField _ _ => rfl
  | .setField _ _ => rfl
  | .deleteField _ _ => rfl
  | .fail _ => rfl

namespace Still

mutual

/-- A swap that changes nothing leaves steps as they are. -/
theorem step (still : swap.Still) : ∀ step : Step, swap.step step = step
  | .named _ step => by rw [Swap.step, still.step step]
  | .about _ step => by rw [Swap.step, still.step step]
  | .new _ _ _ => by rw [Swap.step, still.named]
  | .call _ _ argument _ => by rw [Swap.step, still.argument argument]
  | .html argument => by rw [Swap.step, still.argument argument]
  | .attempt steps => by rw [Swap.step, still.steps steps]
  | .define _ _ _ => by rw [Swap.step, still.body]
  | .defineMixin _ _ => by rw [Swap.step, still.body]
  | .sample => rfl
  | .elements _ => rfl
  | .get _ _ => rfl
  | .set _ _ _ => rfl
  | .node _ => rfl
  | .outline _ => rfl
  | .compare _ _ => rfl
  | .distinct _ => rfl
  | .getField _ _ => rfl
  | .setField _ _ => rfl
  | .deleteField _ _ => rfl
  | .fail _ => rfl

theorem argument (still : swap.Still) : ∀ argument : Argument, swap.argument argument = argument
  | .block _ steps => by rw [Swap.argument, still.steps steps]
  | .absent => rfl
  | .value _ => rfl
  | .builder _ => rfl
  | .node _ => rfl

theorem steps (still : swap.Still) : ∀ steps : List Step, swap.steps steps = steps
  | [] => rfl
  | step :: rest => by rw [Swap.steps, still.step step, still.steps rest]

end

end Still

end Swap

end ScopedHtml
