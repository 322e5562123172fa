import ScopedHtml.Proofs.Rules

/-!
# ScopedHtml.Proofs.Leads

**What no program can change.** What a program leaves, whether it ends well or fails, is
led to (`BuildM.Leads`): what there was of classes and builders is still there. That is a rule
(`Rule.sound`), so every program of the library obeys it, whatever classes may have been
defined, and so does a whole script (`Script.leads_runTop`).
-/

namespace ScopedHtml

variable {ρ α : Type}

open BuildM

/-- What running `m` from `s` leaves is led to, if the store of `s` is sound. -/
def BuildM.Leads (m : BuildM ρ α) (s : Session ρ) : Prop :=
  s.store.Sound → s.store.Leads (left m s).store

/-- Sound stores lead to sound stores in which all that there was is still there. -/
def Rule.sound : Rule where
  good := Store.Sound
  leads := Store.Leads
  refl := .refl
  trans := .trans
  still := Store.Leads.sound
  length := fun leads => leads.classes.length
  assign := .assign
  replace := .replace
  add := .add
  logged := .logged
  keep := fun sound id _ ofClass _ => .onClasses sound
    (.assign _ id (List.mem_cons_of_mem _ (List.mem_map_of_mem ofClass)) _)
    (sound.closed.assign id _ _)
  register := by
    intro store sound id classes registered
    obtain ⟨_, _, rfl⟩ := ClassTable.registered_eq_ok registered
    exact .onClasses sound (.assign _ id (by decide) _) (sound.closed.assign id _ _)
  push := by
    intro store sound bases ids name body new named drafted
    have ancestors := sound.closed.checkedAncestors (sound.inside (by decide))
      (sound.closed.namedAll named) (ClassTable.draft_eq_ok drafted).1
    exact .onClasses sound (.push _ _) (sound.closed.push ancestors)
  bindName := fun sound name _ there =>
    .onClasses sound (.bindName _ _ _) (sound.closed.bindName name there)

namespace BuildM

variable {m : BuildM ρ α} {s t : Session ρ}

theorem Obeys.leads (obeys : m.Obeys Rule.sound s) : m.Leads s := obeys

theorem Leads.obeys (leads : m.Leads s) : m.Obeys Rule.sound s := leads

theorem Leads.of_ok (leads : m.Leads s) {a : α} (run : m s = .ok a t) (sound : s.store.Sound) :
    s.store.Leads t.store :=
  leads.obeys.of_ok run sound

end BuildM

theorem Caller.leads_upTo (depth : Nat) : (upTo depth : Caller ρ).Obeys Rule.sound :=
  obeys_upTo depth

theorem leads_call : (call : Caller ρ).Obeys Rule.sound := obeys_call

namespace Script

/-- Whatever the steps of a block do, they lead on. -/
theorem leads_runBlock (steps : List Step) (path : List Nat) (position : Nat)
    (s : Session Names) : (runBlock path position steps).Leads s :=
  (obeys_runBlock steps path position s).leads

/-- Whatever a script does, it leads on. -/
theorem leads_runTop (steps : List Step) (position : Nat) (s : Session Names) :
    (runTop position steps).Leads s :=
  (obeys_runTop steps position s).leads

end Script

end ScopedHtml
