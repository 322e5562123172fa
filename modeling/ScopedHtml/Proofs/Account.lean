import Mathlib.Data.List.Basic
import ScopedHtml.Proofs.NativeScopes

/-!
# ScopedHtml.Proofs.Account

**The log is the history of what was finalized.** A successful call of `build` has one record,
a successful opener one of the builder of its scope, and a document one of its own; nothing
else has any (`Step.records`). `Accounts s pending` says that the log of a session consists of
the records of the entries of its trace, in their order, and of some that are still pending.

A record is kept while the call that it belongs to still goes on. So it is pending until the
entry of that call is written, and since nothing that comes behind a record can fail, nothing
is ever pending when a call fails (`Accounted`).
-/

namespace ScopedHtml

open BuildM

/-- The opener of a name. -/
def Opener.ofName? (name : String) : Option Opener :=
  [head, body, div].find? fun opener => opener.name = name

namespace Script

/-! ### Records -/

/-- The record of a builder of a class of some name that was finalized into an element. -/
def recordOf (className : String) : Value → List Log.Event
  | .node node => [.finalized className node.tag]
  | _ => []

/-- The records of a call of a member, on a builder of a class of some name, that has answered:
one if it has finalized the builder or opened a scope. -/
def callRecords (className member : String) (made : Value) : List Log.Event :=
  if member = "build" then recordOf className made
  else match Opener.ofName? member with
    | some opener => recordOf opener.product.builderName made
    | none => []

/-- The records of a step that has answered, about a builder of a class of some name. -/
def Step.records (className : Option String) : Step → Answer → List Log.Event
  | .named _ step, answer => step.records className answer
  | .about _ step, answer => step.records className answer
  | .call _ member _ _, .found (.value made) =>
      className.toList.flatMap fun className => callRecords className member made
  | .html _, _ => [.finalized "DocumentBuilder" "html"]
  | .sample, _ => Sample.records
  | _, _ => []

/-- The records of an entry. What has failed has none. -/
def Entry.records (store : Store) (entry : Entry) : List Log.Event :=
  match entry.result with
  | .ok answer => entry.step.records (entry.target.map store.className) answer
  | .error _ => []

/-! ### Accounts -/

/-- A session in which the log consists of the records of the entries of the trace, and of
those that are pending. -/
structure Accounts (s : Session Names) (pending : List Log.Event) : Prop where
  native : s.store.Native
  bound : ∀ name b, s.extra.builders.find? name = some b → b.index < s.store.builders.length
  targets : ∀ entry ∈ s.extra.trace, ∀ b, entry.target = some b →
    b.index < s.store.builders.length
  log : s.store.log = s.extra.trace.flatMap (Entry.records s.store) ++ pending

/-- What a program that is begun in `s` comes to. When it has answered, the records of its
answer are pending; when it fails, none are. -/
inductive Accounted {α : Type} (s : Session Names) (records : α → List Log.Event) :
    EStateM.Result Fault (Session Names) α → Prop
  | ok {a : α} {t : Session Names} (grown : s.store.Grown t.store)
      (accounts : Accounts t (records a)) : Accounted s records (.ok a t)
  | error {fault : Fault} {t : Session Names} (grown : s.store.Grown t.store)
      (accounts : Accounts t []) : Accounted s records (.error fault t)

variable {α β : Type} {s t : Session Names} {b : BuilderRef} {pending : List Log.Event}

theorem className_of_grown {before after : Store} (native : before.Native) (still : after.Native)
    (grown : before.Grown after) (inside : b.index < before.builders.length) :
    after.className b = before.className b := by
  unfold Store.className
  rw [still.foreign? b, native.foreign? b, grown.classId b inside, still.classes, native.classes]

/-- The records of an entry do not change while its builder is there. -/
theorem Entry.records_of_grown {before after : Store} (native : before.Native)
    (still : after.Native) (grown : before.Grown after) {entry : Entry}
    (inside : ∀ b, entry.target = some b → b.index < before.builders.length) :
    entry.records after = entry.records before := by
  have same : entry.target.map after.className = entry.target.map before.className :=
    Option.map_congr fun b target => className_of_grown native still grown (inside b target)
  unfold Entry.records
  rw [same]

namespace Accounts

theorem start : Accounts Script.start [] where
  native := Store.native_initial
  bound := by
    intro name b bound
    cases bound
  targets := by
    intro entry among
    cases among
  log := rfl

/-- What is recorded by working on the store is pending. -/
theorem worked (accounts : Accounts s pending) {after : Store} {more : List Log.Event}
    (worked : Store.Worked more s.store after) :
    Accounts { s with store := after } (pending ++ more) where
  native := worked.native
  bound := fun name b bound =>
    Nat.lt_of_lt_of_le (accounts.bound name b bound) worked.grown.length
  targets := fun entry among b target =>
    Nat.lt_of_lt_of_le (accounts.targets entry among b target) worked.grown.length
  log := by
    have same : s.extra.trace.flatMap (Entry.records after) =
        s.extra.trace.flatMap (Entry.records s.store) :=
      List.flatMap_congr fun entry among => Entry.records_of_grown accounts.native worked.native
        worked.grown (accounts.targets entry among)
    show after.log = _
    rw [worked.log, accounts.log, same, List.append_assoc]

/-- Names may be bound. -/
theorem names (accounts : Accounts s pending) {extra : Names} (trace : extra.trace = s.extra.trace)
    (bound : ∀ name b, extra.builders.find? name = some b → b.index < s.store.builders.length) :
    Accounts { s with extra } pending where
  native := accounts.native
  bound := bound
  targets := by
    show ∀ entry ∈ extra.trace, _
    rw [trace]
    exact accounts.targets
  log := by
    show s.store.log = extra.trace.flatMap _ ++ _
    rw [trace]
    exact accounts.log

/-- What is pending is accounted for by the entry of which these are the records. -/
theorem entry (accounts : Accounts s pending) {entry : Entry}
    (target : ∀ b, entry.target = some b → b.index < s.store.builders.length)
    (records : entry.records s.store = pending) :
    Accounts { s with extra := { s.extra with trace := s.extra.trace ++ [entry] } } [] where
  native := accounts.native
  bound := accounts.bound
  targets := by
    intro other among
    rcases List.mem_append.1 among with among | among
    · exact accounts.targets other among
    · rw [List.mem_singleton.1 among]
      exact target
  log := by
    show s.store.log = (s.extra.trace ++ [entry]).flatMap _ ++ []
    rw [List.flatMap_append, List.flatMap_singleton, records, List.append_nil]
    exact accounts.log

end Accounts

namespace Accounted

variable {records : α → List Log.Event} {others : β → List Log.Event}

/-- What was done before does not matter. -/
theorem trans {result : EStateM.Result Fault (Session Names) α} (first : s.store.Grown t.store)
    (second : Accounted t records result) : Accounted s records result := by
  cases second with
  | ok grown accounts => exact .ok (first.trans grown) accounts
  | error grown accounts => exact .error (first.trans grown) accounts

/-- A program may run another one first that records nothing. -/
theorem bind {m : ScriptM α} {k : α → ScriptM β} (first : Accounted s (fun _ => []) (m s))
    (next : ∀ a t, m s = .ok a t → s.store.Grown t.store → Accounts t [] →
      Accounted t others (k a t)) : Accounted s others ((m >>= k) s) := by
  generalize run : m s = result at first
  cases first with
  | ok grown accounts =>
      rw [bind_of_ok run]
      exact .trans grown (next _ _ run grown accounts)
  | error grown accounts =>
      rw [bind_of_error run]
      exact .error grown accounts

/-- The answer may be put another way. -/
theorem map {m : ScriptM α} {f : α → β} (accounted : Accounted s records (m s))
    (same : ∀ a, others (f a) = records a) :
    Accounted s others ((m >>= fun a => pure (f a)) s) := by
  generalize run : m s = result at accounted
  cases accounted with
  | @ok a t grown accounts =>
      rw [bind_of_ok run]
      refine .ok grown ?_
      rw [same a]
      exact accounts
  | error grown accounts =>
      rw [bind_of_error run]
      exact .error grown accounts

/-- Programs that only look record nothing. -/
theorem of_quiet {m : ScriptM α} (accounts : Accounts s []) (quiet : Quiet m s)
    (none : ∀ a, m s = .ok a s → records a = []) : Accounted s records (m s) := by
  rcases quiet.cases with ⟨fault, eq⟩ | ⟨a, eq⟩
  · rw [eq]
    exact .error (.refl _) accounts
  · rw [eq]
    refine .ok (.refl _) ?_
    rw [none a eq]
    exact accounts

/-- A program may look first. -/
theorem after_looking {m : ScriptM α} {k : α → ScriptM β} (accounts : Accounts s [])
    (quiet : Quiet m s) (next : ∀ a, m s = .ok a s → Accounted s others (k a s)) :
    Accounted s others ((m >>= k) s) := by
  refine .bind (.of_quiet accounts quiet fun _ _ => rfl) ?_
  intro a t run grown accounts
  obtain rfl := quiet.eq_of_ok run
  exact next a run

/-- An operation on the store may be refused. -/
theorem perform {operation : Store → Except Fault Store} (accounts : Accounts s [])
    (worked : ∀ after, operation s.store = .ok after → Store.Worked [] s.store after) :
    Accounted s (fun _ => []) ((BuildM.perform operation : ScriptM Unit) s) := by
  rw [perform_apply]
  cases done : operation s.store with
  | error fault => exact .error (.refl _) accounts
  | ok after =>
      have worked := worked after done
      exact .ok worked.grown (accounts.worked worked)

/-- What a program has answered may be forgotten if it has no records. -/
theorem discard {m : ScriptM α} (accounted : Accounted s (fun _ => []) (m s)) :
    Accounted s (fun _ => []) ((Functor.discard m : ScriptM Unit) s) := by
  rw [discard_apply]
  generalize m s = result at accounted
  cases accounted with
  | ok grown accounts => exact .ok grown accounts
  | error grown accounts => exact .error grown accounts

/-- Catching a failure records nothing. -/
theorem outcome {m : ScriptM α} (accounted : Accounted s (fun _ => []) (m s)) :
    Accounted s (fun _ => []) (BuildM.outcome m s) := by
  rw [outcome_apply]
  generalize m s = result at accounted
  cases accounted with
  | ok grown accounts => exact .ok grown accounts
  | error grown accounts => exact .ok grown accounts

end Accounted

end Script

end ScopedHtml
