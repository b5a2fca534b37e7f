import Mathlib.Data.List.Forall2
import Stepwise.Proofs.Attempts
import Stepwise.Proofs.Verdict

/-!
# The events of a run, read off its results

A run gives two accounts of itself. One is what the runner tells its reporter
while it goes on, the other is the tree of results that it leaves. They are put
together in different places, and this file says that they agree: from the tree
one can read off the events, one after another (`RunResult.Tells`).

The tree knows less in one point. Of a scenario that was tried more than once it
keeps the last attempt, while the events are those of all attempts. So a tree
tells of a list of events if there are results for the attempts that were thrown
away with which the events are the right ones. These results cannot be anything:
they are results of the steps of the scenario, some passed, and the one behind
them failed (`Tried`, `Fails`).

The proof goes up the functions of the runner. What an attempt tells comes from
its course, since the entries that belong to a step say what became of it; the
attempts at a scenario are taken by their numbers; and units in turn tell what
each of them tells.
-/

namespace Stepwise

variable {σ : Type}

/-! ## Reading -/

/-- The events of a step: that it starts, and how it ended. A step that was left
out has none. -/
def StepResult.events (r : StepResult) : List Event :=
  match r.outcome with
  | .skipped => []
  | .passed .. => [.stepStarted r.step.text, .stepPassed r.step.text]
  | .failed failure _ => [.stepStarted r.step.text, .stepFailed r.step.text failure.message]

/-- The results that a step can have. It may be left out. If it is run, its
placeholders are filled from some sources; where a value is missing it fails for
that, and otherwise the result is about what was filled in. -/
inductive Step.Yields (step : Step) : StepResult → Prop
  | skipped : Yields step (StepResult.skip step)
  | unbound {sources missing} : step.bind sources = .error missing →
      Yields step ⟨step.verbatim, .failed (.missingValue missing) none⟩
  | bound {sources bound outcome} : step.bind sources = .ok bound →
      outcome ≠ .skipped → Yields step ⟨bound, outcome⟩

/-- Results of one attempt at some steps: the first ones passed, the one behind
them may have failed, and the rest was left out. -/
structure Tried (steps : List Step) (results : List StepResult) : Prop where
  yields : List.Forall₂ Step.Yields steps results
  order : ∃ (passed : List StepResult) (failed : Option StepResult)
      (left : List StepResult), results = passed ++ failed.toList ++ left ∧
    (∀ x ∈ passed, x.success = true) ∧
    (∀ x ∈ failed, x.failure?.isSome = true) ∧
    ∀ x ∈ left, x.skipped = true

/-- A step has failed. -/
def Fails (results : List StepResult) : Prop := ∃ x ∈ results, x.failure?.isSome = true

/-- The events of the attempt that has `k` others before it. It is announced if it
is not the first one. -/
def Scenario.attemptEvents (s : Scenario) (k : Nat) (results : List StepResult) : List Event :=
  (if k = 0 then [] else [.retrying s.displayName (k + 1) s.limit]) ++
    results.flatMap StepResult.events

/-- These are the events of the scenario: its start, and then as many attempts as
were made, of which all but the last one failed. -/
def ScenarioResult.Tells (r : ScenarioResult) (events : List Event) : Prop :=
  if r.skipped then events = []
  else ∃ (n : Nat) (attempt : Nat → List StepResult),
    r.tries = n + 1 ∧ attempt n = r.steps ∧
    (∀ k ≤ n, Tried r.scenario.steps (attempt k)) ∧ (∀ k < n, Fails (attempt k)) ∧
    events = .scenarioStarted r.scenario.displayName ::
      (List.range (n + 1)).flatMap fun k => r.scenario.attemptEvents k (attempt k)

/-- These are the events of the feature: its start, and then those of its
scenarios. -/
def FeatureResult.Tells (r : FeatureResult) (events : List Event) : Prop :=
  if r.skipped then events = []
  else ∃ parts, List.Forall₂ ScenarioResult.Tells r.scenarios parts ∧
    events = .featureStarted r.feature.name :: parts.flatten

/-- These are the events of the run. -/
def RunResult.Tells (r : RunResult) (events : List Event) : Prop :=
  ∃ parts, List.Forall₂ FeatureResult.Tells r.features parts ∧ events = parts.flatten

/-- What the runner itself tells its reporter. -/
def Entry.ownNotice? : Entry σ → Option Notice
  | .sent .runner event => some (.progress event)
  | .reported result => some (.report result)
  | _ => none

def ownNotices (es : List (Entry σ)) : List Notice := es.filterMap Entry.ownNotice?

@[simp] theorem ownNotices_nil : ownNotices ([] : List (Entry σ)) = [] := rfl

@[simp] theorem ownNotices_cons (e : Entry σ) (es : List (Entry σ)) :
    ownNotices (e :: es) = e.ownNotice?.toList ++ ownNotices es := by
  cases h : e.ownNotice? <;> simp [ownNotices, h]

@[simp] theorem ownNotices_append (es fs : List (Entry σ)) :
    ownNotices (es ++ fs) = ownNotices es ++ ownNotices fs := List.filterMap_append

theorem Handlings.ownNotices_eq {es : List (Entry σ)} (h : Handlings es) :
    ownNotices es = [] := by
  rw [ownNotices, List.filterMap_eq_nil_iff]
  intro e he
  have hhandling := h e he
  cases e with
  | sent sender event => cases sender with
      | runner => cases hhandling
      | handler => rfl
  | reported => cases hhandling
  | _ => rfl

theorem Tellings.ownNotices_eq {es : List (Entry σ)} (h : Tellings es) :
    ownNotices es = [] := h.handlings.ownNotices_eq

/-! ## Steps and attempts -/

theorem StepEnd.ownNotices_eq {step : BoundStep} {outcome : StepOutcome}
    {es : List (Entry σ)} (h : StepEnd step outcome es) :
    .progress (.stepStarted step.text) :: ownNotices es =
      (StepResult.mk step outcome).events.map .progress := by
  cases h with
  | passed hts => simp [Entry.ownNotice?, StepResult.events, hts.ownNotices_eq]
  | failed hts => simp [Entry.ownNotice?, StepResult.events, hts.ownNotices_eq]

/-- Of a step one is told that it starts and how it ends, by the text that its
result has. -/
theorem StepCourse.ownNotices_eq {c : Bool} {step : Step} {result : StepResult}
    {es : List (Entry σ)} (h : StepCourse c step result es) :
    ownNotices es = result.events.map .progress := by
  cases h with
  | unbound hts hend =>
      rw [← hend.ownNotices_eq]
      simp [Entry.ownNotice?, hts.ownNotices_eq, Step.verbatim]
  | undefined _ hts hend =>
      rw [← hend.ownNotices_eq]
      simp [Entry.ownNotice?, hts.ownNotices_eq]
  | called _ hts hhs hend =>
      rw [← hend.ownNotices_eq]
      simp [Entry.ownNotice?, hts.ownNotices_eq, hhs.ownNotices_eq]

theorem flatMap_events_skip (steps : List Step) :
    (steps.map StepResult.skip).flatMap StepResult.events = [] := by
  simp [List.flatMap_map, StepResult.skip, StepResult.events]

theorem AttemptCourse.ownNotices_eq {r : Runner σ} {name : String} {c : Bool}
    {steps : List Step} {attempt : Attempt} {es : List (Entry σ)}
    (h : AttemptCourse r name c steps attempt es) :
    ownNotices es = (attempt.steps.flatMap StepResult.events).map .progress := by
  induction h with
  | done => rfl
  | interrupted _ =>
      rw [flatMap_events_skip]
      rfl
  | passed _ hstep _ _ ih =>
      rw [ownNotices_append, hstep.ownNotices_eq, ih]
      simp [Attempt.after]
  | failed _ hstep _ =>
      rw [hstep.ownNotices_eq, List.flatMap_cons, flatMap_events_skip, List.append_nil]

theorem AttemptCourse.order {r : Runner σ} {name : String} {c : Bool}
    {steps : List Step} {attempt : Attempt} {es : List (Entry σ)}
    (h : AttemptCourse r name c steps attempt es) :
    ∃ (passed : List StepResult) (failed : Option StepResult) (left : List StepResult),
      attempt.steps = passed ++ failed.toList ++ left ∧
      (∀ x ∈ passed, x.success = true) ∧
      (∀ x ∈ failed, x.failure?.isSome = true) ∧
      ∀ x ∈ left, x.skipped = true := by
  have hskip : ∀ steps : List Step, ∀ x ∈ steps.map StepResult.skip, x.skipped = true :=
    fun steps => List.forall_mem_map.mpr fun _ _ => rfl
  induction h with
  | done => exact ⟨[], none, [], rfl, by simp, by simp, by simp⟩
  | @interrupted _ step rest _ =>
      exact ⟨[], none, (step :: rest).map StepResult.skip, rfl, by simp, by simp, hskip _⟩
  | @passed _ _ _ result _ _ _ _ _ hpass _ ih =>
      obtain ⟨passed, failed, left, heq, hpassed, hfailed, hleft⟩ := ih
      refine ⟨result :: passed, failed, left, ?_, ?_, hfailed, hleft⟩
      · simp only [Attempt.after, heq, List.cons_append]
      · simpa [hpass] using hpassed
  | @failed _ _ rest result _ _ hstep hfail =>
      refine ⟨[], some result, rest.map StepResult.skip, rfl, by simp, ?_, hskip _⟩
      rw [← hstep.isNone_failure?] at hfail
      simpa using hfail

theorem AttemptCourse.fails {r : Runner σ} {name : String} {c : Bool}
    {steps : List Step} {attempt : Attempt} {es : List (Entry σ)}
    (h : AttemptCourse r name c steps attempt es) (hfailed : attempt.failed = true) :
    Fails attempt.steps := by
  induction h with
  | done => cases hfailed
  | interrupted _ => cases hfailed
  | passed _ _ _ _ ih =>
      obtain ⟨x, hx, hfail⟩ := ih hfailed
      exact ⟨x, List.mem_cons_of_mem _ hx, hfail⟩
  | failed _ hstep hfail =>
      rw [← hstep.isNone_failure?] at hfail
      exact ⟨_, List.mem_cons_self, by simpa using hfail⟩

namespace Runner

variable (r : Runner σ)

open World

theorem runStep_yields (step : Step) (w : World σ) :
    step.Yields (r.runStep step w).1 := by
  simp only [runStep]
  split
  · next missing hbind => exact .unbound hbind
  · next bound hbind =>
      split
      · exact .bound hbind (by simp)
      · split <;> exact .bound hbind (by simp)

theorem yields_skip (steps : List Step) :
    List.Forall₂ Step.Yields steps (steps.map StepResult.skip) := by
  rw [List.forall₂_map_right_iff, List.forall₂_same]
  exact fun _ _ => .skipped

theorem runSteps_yields (name : String) (steps : List Step) :
    ∀ w : World σ, List.Forall₂ Step.Yields steps (r.runSteps name steps w).1.steps := by
  induction steps with
  | nil => exact fun w => .nil
  | cons step rest ih =>
      intro w
      simp only [runSteps]
      split
      · exact yields_skip (step :: rest)
      · have hstep := r.runStep_yields step (r.checkCancelled w).2
        split
        · exact .cons hstep (ih _)
        · exact .cons hstep (yields_skip rest)

theorem attemptAt_tried (s : Scenario) (w : World σ) (k : Nat) :
    Tried s.steps (r.attemptAt s w k).steps := by
  obtain ⟨es, hes, -⟩ := r.attemptAt_course s w k
  exact ⟨r.runSteps_yields s.displayName s.steps _, hes.order⟩

end Runner

/-! ## Scenarios -/

/-- From the one world to the other the runner tells of these events. -/
def World.Announces (w : World σ) (events : List Event) (w' : World σ) : Prop :=
  ∃ es, w'.history = w.history ++ es ∧ ownNotices es = events.map .progress

namespace World

variable {w w₁ w₂ w₃ : World σ}

theorem Announces.refl (w : World σ) : w.Announces [] w := ⟨[], by simp, rfl⟩

theorem Announces.trans {events events' : List Event} (h : w₁.Announces events w₂)
    (h' : w₂.Announces events' w₃) : w₁.Announces (events ++ events') w₃ := by
  obtain ⟨es, hes, hsaid⟩ := h
  obtain ⟨fs, hfs, hsaid'⟩ := h'
  refine ⟨es ++ fs, by rw [hfs, hes, List.append_assoc], ?_⟩
  rw [ownNotices_append, hsaid, hsaid', List.map_append]

theorem Leads.announces {es : List (Entry σ)} {cut : Bool} {events : List Event}
    (h : w₁.Leads es cut w₂) (hes : ownNotices es = events.map .progress) :
    w₁.Announces events w₂ := ⟨es, h.history, hes⟩

end World

namespace Runner

variable (r : Runner σ)

open World

theorem announces_emit (w : World σ) (l : LogRecord) (event : Event) :
    w.Announces [event] (r.emit event (w.log l)) := by
  obtain ⟨ts, hts, hleads⟩ := r.leads_announce w l event
  exact hleads.announces (by simp [Entry.ownNotice?, hts.ownNotices_eq])

theorem announces_worldAfter (s : Scenario) (w : World σ) (k : Nat) :
    (r.worldBefore s w k).Announces ((r.attemptAt s w k).steps.flatMap StepResult.events)
      (r.worldAfter s w k) := by
  obtain ⟨es, hes, hleads⟩ := r.attemptAt_course s w k
  exact hleads.announces hes.ownNotices_eq

theorem announces_prepareRetry (s : Scenario) (number : Nat) (w : World σ) :
    w.Announces [.retrying s.displayName number s.limit] (r.prepareRetry s number w) := by
  obtain ⟨fs, hfs, hleads⟩ := r.prepareRetry_course s number w
  obtain ⟨hts, hws⟩ := hfs
  refine hleads.announces ?_
  have hwaits : ownNotices _ = [] := Handlings.ownNotices_eq fun e he => by
    obtain ⟨ms, rfl⟩ := hws e he
    rfl
  simp [Entry.ownNotice?, hts.ownNotices_eq, hwaits]

/-- The events of all attempts up to the end of the one that has `k` others before
it. -/
theorem announces_attempts (s : Scenario) (w : World σ) (k : Nat) :
    w.Announces ((List.range (k + 1)).flatMap fun j =>
      s.attemptEvents j (r.attemptAt s w j).steps) (r.worldAfter s w k) := by
  induction k with
  | zero =>
      have hfirst := r.announces_worldAfter s w 0
      change w.Announces _ _ at hfirst
      simpa [Scenario.attemptEvents] using hfirst
  | succ k ih =>
      have hretry := r.announces_prepareRetry s (k + 2) (r.worldAfter s w k)
      rw [← worldBefore_succ] at hretry
      have hnext := ih.trans (hretry.trans (r.announces_worldAfter s w (k + 1)))
      rw [List.range_succ, List.flatMap_append]
      simpa [Scenario.attemptEvents] using hnext

/-- What the runner tells of a scenario that is tried. -/
theorem tryScenario_tells (s : Scenario) (begun : Nat) (w : World σ) :
    ∃ events, w.Announces events (r.tryScenario s begun (s.limit - 1) w).2 ∧
      (r.tryScenario s begun (s.limit - 1) w).1.Tells
        (.scenarioStarted s.displayName :: events) := by
  obtain ⟨n, -, hearlier, -, heq⟩ := r.exists_kept s begun w
  rw [heq, finishScenario_fst]
  refine ⟨_, ?_, n, fun k => (r.attemptAt s w k).steps, rfl, rfl,
    fun k _ => r.attemptAt_tried s w k, fun k hk => ?_, rfl⟩
  · have hend := finishScenario_course s (r.attemptAt s w n) (n + 1)
      ((r.worldAfter s w n).clock - begun) (r.worldAfter s w n)
    have hquiet : ownNotices (scenarioEnd s (r.attemptAt s w n) (n + 1) : List (Entry σ)) =
        [].map .progress := by
      rw [scenarioEnd]
      split <;> rfl
    simpa using (r.announces_attempts s w n).trans (hend.announces hquiet)
  · obtain ⟨es, hes, -⟩ := r.attemptAt_course s w k
    exact hes.fails (hearlier k hk)

theorem runScenario_tells (s : Scenario) (w : World σ) :
    ∃ events, (r.runScenario s w).1.Tells events ∧
      w.Announces events (r.runScenario s w).2 := by
  have hlook := (r.leads_checkCancelled w).announces (List.map_nil).symm
  simp only [runScenario]
  split
  · exact ⟨[], rfl, Announces.refl w⟩
  · split
    · exact ⟨[], rfl, hlook⟩
    · have hstart := r.announces_emit (r.checkCancelled w).2
        (.scenarioStarted s.displayName s.limit) (.scenarioStarted s.displayName)
      obtain ⟨events, hannounces, htells⟩ := r.tryScenario_tells s _ _
      exact ⟨_, htells, (hlook.trans hstart).trans hannounces⟩

/-! ## Units in turn, features and runs -/

theorem inTurn_tells {α β : Type} {one : α → World σ → β × World σ}
    {Tells : β → List Event → Prop}
    (hone : ∀ a w, ∃ events, Tells (one a w).1 events ∧ w.Announces events (one a w).2)
    (as : List α) :
    ∀ w : World σ, ∃ parts, List.Forall₂ Tells (inTurn one as w).1 parts ∧
      w.Announces parts.flatten (inTurn one as w).2 := by
  induction as with
  | nil => exact fun w => ⟨[], .nil, Announces.refl w⟩
  | cons a rest ih =>
      intro w
      obtain ⟨events, htells, hannounces⟩ := hone a w
      obtain ⟨parts, htells', hannounces'⟩ := ih (one a w).2
      exact ⟨events :: parts, .cons htells htells', hannounces.trans hannounces'⟩

theorem runFeature_tells (f : Feature) (w : World σ) :
    ∃ events, (r.runFeature f w).1.Tells events ∧ w.Announces events (r.runFeature f w).2 := by
  have hlook := (r.leads_checkCancelled w).announces (List.map_nil).symm
  have hskip : ∀ w : World σ, w.Announces [] (w.log (.featureSkipped f.name)) :=
    fun w => (w.leads_log _).announces rfl
  simp only [runFeature]
  split
  · exact ⟨[], rfl, hskip w⟩
  · split
    · exact ⟨[], rfl, hlook.trans (hskip _)⟩
    · have hstart := r.announces_emit (r.checkCancelled w).2
        (.featureStarted f.name f.scenarios.length) (.featureStarted f.name)
      rw [runScenarios_eq_inTurn]
      obtain ⟨parts, htells, hannounces⟩ := inTurn_tells r.runScenario_tells f.scenarios
        (r.emit (.featureStarted f.name)
          ((r.checkCancelled w).2.log (.featureStarted f.name f.scenarios.length)))
      exact ⟨_, ⟨parts, htells, rfl⟩, (hlook.trans hstart).trans hannounces⟩

theorem runFeatures_tells (features : List Feature) (w : World σ) :
    ∃ parts, List.Forall₂ FeatureResult.Tells (r.runFeatures features w).1 parts ∧
      w.Announces parts.flatten (r.runFeatures features w).2 := by
  rw [runFeatures_eq_inTurn]
  exact inTurn_tells r.runFeature_tells features w

/-- What a run adds to the history is told by its results. -/
theorem run_tells_of_history {features : List Feature} {w : World σ}
    {es : List (Entry σ)} (hes : (r.run features w).2.history = w.history ++ es) :
    ∃ events, ownNotices es = events.map .progress ++ [.report (r.run features w).1] ∧
      (r.run features w).1.Tells events := by
  obtain ⟨parts, htells, fs, hfs, hsaid⟩ :=
    r.runFeatures_tells features { w with cutShort := false }
  obtain ⟨ts, hts, hreport⟩ := leads_report
    (r.runFeatures features { w with cutShort := false }).2 r.reporter (r.run features w).1
  obtain rfl : es = fs ++ .reported (r.run features w).1 :: ts := by
    refine List.append_cancel_left (hes.symm.trans ?_)
    rw [← List.append_assoc]
    exact hreport.history.trans (congrArg (· ++ _) hfs)
  refine ⟨parts.flatten, ?_, parts, htells, rfl⟩
  rw [ownNotices_append, hsaid]
  simp [Entry.ownNotice?, hts.ownNotices_eq]

/-- What the runner tells its reporter in a run are the events that can be read off
the results, in order, and then once the results. -/
theorem run_tells (features : List Feature) (w : World σ) :
    ∃ es events, (r.run features w).2.history = w.history ++ es ∧
      ownNotices es = events.map .progress ++ [.report (r.run features w).1] ∧
      (r.run features w).1.Tells events := by
  obtain ⟨es, hes⟩ := r.run_adds features w
  obtain ⟨events, hsaid, htells⟩ := r.run_tells_of_history hes
  exact ⟨es, events, hes, hsaid, htells⟩

end Runner

end Stepwise
