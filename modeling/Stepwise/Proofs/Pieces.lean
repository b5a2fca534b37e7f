import Stepwise.Proofs.Cancellation
import Stepwise.Proofs.Likeness

/-!
# Runs in pieces

Features may be run all at once, or some of them first and the others in a second
run on the world that the first one left. The only thing that lies between the
pieces is the report at the end of the first one, and a run that begins forgets
whether the one before it was cut short. So the second piece goes on as the whole
run does, if reports do not matter to the observers (`Reporter.IgnoresReports`):
the histories are the same but for what the reports leave in them.

The mark that a run was cut short is where the two differ, since the whole run has
it from the first piece on. `World.Resumes` keeps account of this, and that the
error of the whole is the error of one of the pieces comes out of it. A run keeps
this relation because nobody looks at the mark before the end.
-/

namespace Stepwise

variable {σ : Type}

/-! ## Observers to whom reports do not matter -/

def Notice.isProgress : Notice → Bool
  | .progress _ => true
  | .report _ => false

/-- A report does not make the observer cancel the run, and on events it does what it
would do if there had been no reports. -/
def Observer.IgnoresReports : Observer → Prop
  | .recorder cancels => ∀ told,
      (∀ result, cancels (told ++ [.report result]) = false) ∧
      ∀ event, cancels (told ++ [.progress event]) =
        cancels (told.filter Notice.isProgress ++ [.progress event])
  | _ => True

def Reporter.IgnoresReports (reporter : Reporter) : Prop :=
  ∀ o ∈ reporter.observers, o.IgnoresReports

/-- The entry comes of a report. -/
def Entry.isReport : Entry σ → Bool
  | .reported _ | .told _ _ (.report _) => true
  | .logged (.finished ..) | .logged (.aborted _) => true
  | _ => false

def Entry.unreported? (e : Entry σ) : Option (Entry σ) :=
  if e.isReport then none else some e

/-- What has happened, reports aside. -/
def unreported (es : List (Entry σ)) : List (Entry σ) := es.filterMap Entry.unreported?

/-- What can be told from a history without reports. -/
theorem bind_unreported? {β : Type} {f : Entry σ → Option β}
    (hf : ∀ e, e.isReport = true → f e = none) (e : Entry σ) :
    e.unreported?.bind f = f e := by
  rw [Entry.unreported?]
  split
  · next hreport => exact (hf e hreport).symm
  · rfl

theorem call?_of_isReport (e : Entry σ) (h : e.isReport = true) : e.call? = none := by
  cases e <;> first | rfl | cases h

theorem event?_of_isReport (e : Entry σ) (h : e.isReport = true) : e.event? = none := by
  cases e <;> first | rfl | cases h

/-! ## Worlds before and after a report -/

/-- The world `w'` is `w` taken up again after a report. If the run was cut short
before that, which is `c`, then `w` has the mark of it. -/
structure World.Resumes (c : Bool) (w w' : World σ) : Prop
    extends w.Alike Entry.unreported? w' where
  cancelled : w.cancelled = w'.cancelled
  cutShort : w.cutShort = (c || w'.cutShort)

namespace World

theorem notices_told (w : World σ) (i clock : Nat) (notice : Notice) :
    (w.record (.told i clock notice)).notices i = w.notices i ++ [notice] := by
  simp [notices, history_record]

namespace Resumes

variable {c : Bool} {w w' : World σ}

theorem refl (w : World σ) : w.Resumes false w := ⟨Alike.refl w, rfl, rfl⟩

theorem record (h : w.Resumes c w') (e : Entry σ) :
    (w.record e).Resumes c (w'.record e) :=
  ⟨h.toAlike.record rfl, h.cancelled, h.cutShort⟩

theorem cancel (h : w.Resumes c w') : w.cancel.Resumes c w'.cancel :=
  ⟨⟨h.context, h.clock, (h.record .cancelled).seen⟩, rfl, h.cutShort⟩

theorem told (h : w.Resumes c w') (i : Nat) (notice : Notice) :
    (w.record (.told i w.clock notice)).Resumes c
      (w'.record (.told i w'.clock notice)) := by
  rw [h.clock]
  exact h.record _

/-- An entry that comes of a report is not seen. -/
theorem record_report (h : w.Resumes c w') {e : Entry σ} (he : e.isReport = true) :
    w.Resumes c (w'.record e) where
  toAlike := (h.toAlike.symm.record_left (if_pos he)).symm
  cancelled := h.cancelled
  cutShort := h.cutShort

theorem notices_eq (h : w.Resumes c w') (i : Nat) :
    (w.notices i).filter Notice.isProgress = (w'.notices i).filter Notice.isProgress := by
  simp only [notices, List.filter_filterMap]
  refine h.filterMap_eq (bind_unreported? fun e he => ?_) (List.nil_append _).symm
    (List.nil_append _).symm
  cases e with
  | told j clock notice => cases notice with
      | progress => cases he
      | report result => by_cases hj : j = i <;> simp [hj, Notice.isProgress]
  | _ => rfl

/-- Observers to whom reports do not matter do the same on an event. -/
theorem tell_progress (h : w.Resumes c w') {o : Observer} (ho : o.IgnoresReports)
    (i : Nat) (event : Event) :
    (w.tell i o (.progress event)).Resumes c (w'.tell i o (.progress event)) := by
  cases o with
  | silent => exact h
  | recorder cancels =>
      have htold := h.told i (.progress event)
      simp only [tell]
      rw [notices_told, notices_told, (ho _).2, h.notices_eq, ← (ho _).2]
      split
      · exact htold.cancel
      · exact htold
  | channel isOpen =>
      cases isOpen with
      | false => exact h
      | true => exact h.told i (.progress event)
  | logger => exact h.record _

theorem tellAll_progress (h : w.Resumes c w') {os : List Observer}
    (hos : ∀ o ∈ os, o.IgnoresReports) (i : Nat) (event : Event) :
    (w.tellAll (.progress event) i os).Resumes c (w'.tellAll (.progress event) i os) :=
  tellAll_related (fun o ho _ _ i h => h.tell_progress (hos o ho) i event) i h

/-- A report leaves nothing behind that matters. -/
theorem tell_report (h : w.Resumes c w') {o : Observer} (ho : o.IgnoresReports)
    (i : Nat) (result : RunResult) : w.Resumes c (w'.tell i o (.report result)) := by
  cases o with
  | silent => exact h
  | recorder cancels =>
      simp only [tell]
      rw [notices_told, (ho _).1]
      exact h.record_report rfl
  | channel isOpen =>
      cases isOpen with
      | false => exact h
      | true => exact h.record_report rfl
  | logger =>
      have hfinished : w.Resumes c (w'.log (.finished result.success result.summary)) :=
        h.record_report rfl
      simp only [tell, logNotice]
      split
      · exact hfinished.record_report rfl
      · exact hfinished

theorem report (h : w.Resumes c w') {reporter : Reporter} (hr : reporter.IgnoresReports)
    (result : RunResult) : w.Resumes c (w'.report reporter result) := by
  have htellAll : ∀ os : List Observer, (∀ o ∈ os, o.IgnoresReports) →
      ∀ {w' : World σ} (i : Nat), w.Resumes c w' →
        w.Resumes c (w'.tellAll (.report result) i os) := by
    intro os
    induction os with
    | nil => exact fun _ _ _ h => h
    | cons o rest ih =>
        intro hos w' i h
        have hfirst := h.tell_report (hos o List.mem_cons_self) i result
        exact ih (fun o ho => hos o (List.mem_cons_of_mem _ ho)) (i + 1) hfirst
  exact htellAll _ hr 0 (h.record_report rfl)

/-- A run begins without the mark that the one before it was cut short. -/
theorem begin (h : w.Resumes false w') :
    w.Resumes w.cutShort { w' with cutShort := false } :=
  ⟨⟨h.context, h.clock, h.seen⟩, h.cancelled, (Bool.or_false _).symm⟩

end Resumes

end World

theorem resumes_keepsToken (c : Bool) : KeepsToken (@World.Resumes σ c) :=
  ⟨fun h => h.cancelled, fun h => h.cancel⟩

theorem Reporter.IgnoresReports.likeness {reporter : Reporter}
    (hr : reporter.IgnoresReports) (c : Bool) :
    reporter.Likeness reporter (@World.Resumes σ c) where
  context h := h.context
  replace context h := ⟨h.toAlike.replace context, h.cancelled, h.cutShort⟩
  send _ event h := (h.record _).tellAll_progress hr 0 event
  wait ms h := ⟨h.toAlike.wait ms, h.cancelled, h.cutShort⟩

/-- A runner goes on after a report as if there had been none. -/
theorem Runner.resumes_lockstep (r : Runner σ) (c : Bool)
    (hr : r.reporter.IgnoresReports) : r.Lockstep r (World.Resumes c) where
  registry := rfl
  config := rfl
  environment := rfl
  context h := h.context
  clock h := h.clock
  binding step h := by
    rw [h.context]
    exact h.record _
  log l h := h.record _
  wait ms h := (hr.likeness c).wait ms h
  emit event h := (hr.likeness c).send .runner event h
  call _ h := by
    refine callHandler_same (hr.likeness c) ?_ ?_ (.inr (resumes_keepsToken c)) h
    · intro w w' groups step h
      rw [h.context, h.cancelled]
      exact h.record _
    · intro w w' h
      rw [h.context]
      exact h.record _
  heeds h := by rw [h.cancelled]
  look h := by
    refine ⟨⟨h.context, h.clock, h.seen⟩, h.cancelled, ?_⟩
    simp only [checkCancelled, h.cutShort, h.cancelled, Bool.or_assoc]

/-! ## The whole and its pieces -/

theorem inTurn_append {α β : Type} (one : α → World σ → β × World σ) (as bs : List α) :
    ∀ w : World σ, inTurn one (as ++ bs) w =
      ((inTurn one as w).1 ++ (inTurn one bs (inTurn one as w).2).1,
        (inTurn one bs (inTurn one as w).2).2) := by
  induction as with
  | nil => exact fun w => rfl
  | cons a rest ih =>
      intro w
      simp only [List.cons_append, inTurn, ih]

namespace Runner

variable (r : Runner σ)

open World

theorem runFeatures_append (fs gs : List Feature) (w : World σ) :
    r.runFeatures (fs ++ gs) w =
      ((r.runFeatures fs w).1 ++ (r.runFeatures gs (r.runFeatures fs w).2).1,
        (r.runFeatures gs (r.runFeatures fs w).2).2) := by
  rw [runFeatures_eq_inTurn, inTurn_append]

/-- The end of a run whose features have been run. -/
def conclude (begun : Nat) (x : List FeatureResult × World σ) : RunResult × World σ :=
  let error := if x.2.cutShort then some RunError.cancelled else none
  let result := RunResult.ofFeatures x.1 (some (x.2.clock - begun)) error
  (result, x.2.report r.reporter result)

theorem run_eq_conclude (features : List Feature) (w : World σ) :
    r.run features w =
      r.conclude w.clock (r.runFeatures features { w with cutShort := false }) := rfl

theorem resumes_conclude (hr : r.reporter.IgnoresReports) (begun : Nat)
    (x : List FeatureResult × World σ) : x.2.Resumes false (r.conclude begun x).2 :=
  (Resumes.refl x.2).report hr _

theorem conclude_error (begun : Nat) (x : List FeatureResult × World σ) :
    (r.conclude begun x).1.error = some .cancelled ↔ x.2.cutShort = true := by
  cases h : x.2.cutShort <;> simp [conclude, RunResult.ofFeatures, h]

theorem conclude_success (begun : Nat) (x : List FeatureResult × World σ) :
    (r.conclude begun x).1.success = (!x.2.cutShort && x.1.all FeatureResult.success) := by
  cases h : x.2.cutShort <;> simp [conclude, RunResult.ofFeatures, h]

end Runner

end Stepwise
