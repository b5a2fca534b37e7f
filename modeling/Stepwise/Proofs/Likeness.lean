import Stepwise.Proofs.Course

/-!
# Runs that are alike

To compare two runs one follows both at once. This file does so for any relation
between their worlds. If the relation is kept by the few things of which steps
are made (a look at the store, a record, an event, a call of a handler, a wait)
then a step has the same result in related worlds and leaves them related; that
is `Runner.Likeness`. If moreover related worlds look alike where the token is
looked at (`Runner.Lockstep`), the same holds of everything that is made of
steps, up to `Runner.Lockstep.runFeatures`. The runners may differ in their
reporters.

A relation is mostly given by what one wants to see of a history:
`World.Alike view` says that two worlds have the same store, session and clock,
and that their histories look the same to `view`. Of such a relation only the
events are left to prove, because what observers do on being told is not the same
in the two runs.

A property of single worlds is a relation as well: two worlds stand in it if they
are the same and have the property. So these lemmas also say when a property is
kept by a run (`Runner.Keeps`).
-/

namespace Stepwise

variable {σ : Type}

/-! ## What observers leave as it is -/

namespace World

theorem tell_keeps (w : World σ) (i : Nat) (o : Observer) (n : Notice) :
    (w.tell i o n).context = w.context ∧ (w.tell i o n).clock = w.clock := by
  cases o with
  | silent => exact ⟨rfl, rfl⟩
  | recorder cancels =>
      simp only [tell]
      split <;> exact ⟨rfl, rfl⟩
  | channel isOpen => cases isOpen <;> exact ⟨rfl, rfl⟩
  | logger => cases n with
      | progress event => exact ⟨rfl, rfl⟩
      | report result => cases h : result.error <;> simp [tell, logNotice, h, log, record]

theorem tellAll_keeps (n : Notice) (os : List Observer) :
    ∀ (w : World σ) (i : Nat), (w.tellAll n i os).context = w.context ∧
      (w.tellAll n i os).clock = w.clock := by
  induction os with
  | nil => exact fun w i => ⟨rfl, rfl⟩
  | cons o rest ih =>
      intro w i
      obtain ⟨hcontext, hclock⟩ := w.tell_keeps i o n
      obtain ⟨hcontext', hclock'⟩ := ih (w.tell i o n) (i + 1)
      exact ⟨hcontext'.trans hcontext, hclock'.trans hclock⟩

/-- What is kept when one observer is told is kept when all of them are. -/
theorem tellAll_related {R : World σ → World σ → Prop} {n n' : Notice}
    {os : List Observer} (hone : ∀ o ∈ os, ∀ {w w' : World σ} (i : Nat), R w w' →
      R (w.tell i o n) (w'.tell i o n')) :
    ∀ {w w' : World σ} (i : Nat), R w w' → R (w.tellAll n i os) (w'.tellAll n' i os) := by
  induction os with
  | nil => exact fun _ h => h
  | cons o rest ih =>
      intro w w' i h
      have hfirst := hone o List.mem_cons_self i h
      exact ih (fun o ho => hone o (List.mem_cons_of_mem _ ho)) (i + 1) hfirst

@[simp] theorem context_send (w : World σ) (reporter : Reporter) (sender : Sender)
    (event : Event) : (w.send reporter sender event).context = w.context :=
  (tellAll_keeps _ _ _ _).1

@[simp] theorem context_report (w : World σ) (reporter : Reporter) (result : RunResult) :
    (w.report reporter result).context = w.context :=
  (tellAll_keeps _ _ _ _).1

end World

/-! ## Worlds that look alike -/

/-- The worlds have the same store, session and clock, and histories that look the
same. -/
structure World.Alike (view : Entry σ → Option (Entry σ)) (w w' : World σ) : Prop where
  context : w.context = w'.context
  clock : w.clock = w'.clock
  seen : w.history.filterMap view = w'.history.filterMap view

namespace World.Alike

variable {view : Entry σ → Option (Entry σ)} {w w' : World σ}

theorem refl (w : World σ) : w.Alike view w := ⟨rfl, rfl, rfl⟩

theorem symm (h : w.Alike view w') : w'.Alike view w :=
  ⟨h.context.symm, h.clock.symm, h.seen.symm⟩

theorem trans {w'' : World σ} (h : w.Alike view w') (h' : w'.Alike view w'') :
    w.Alike view w'' :=
  ⟨h.context.trans h'.context, h.clock.trans h'.clock, h.seen.trans h'.seen⟩

/-- Two entries may differ in what is not seen of them. -/
theorem record (h : w.Alike view w') {e e' : Entry σ} (he : view e = view e') :
    (w.record e).Alike view (w'.record e') where
  context := h.context
  clock := h.clock
  seen := by
    rw [history_record, history_record, List.filterMap_append, List.filterMap_append,
      h.seen, List.filterMap_cons, List.filterMap_cons, he]

/-- An entry that is not seen may be in one of the worlds only. -/
theorem record_left (h : w.Alike view w') {e : Entry σ} (he : view e = none) :
    (w.record e).Alike view w' where
  context := h.context
  clock := h.clock
  seen := by
    rw [history_record, List.filterMap_append, ← h.seen, List.filterMap_cons, he]
    exact List.append_nil _

theorem wait (h : w.Alike view w') (ms : Nat) :
    (w.wait ms).Alike view (w'.wait ms) := by
  have hrecord := h.record (rfl : view (.waited ms) = view (.waited ms))
  exact ⟨h.context, congrArg (· + ms) h.clock, hrecord.seen⟩

theorem replace (h : w.Alike view w') (context : Context σ) :
    World.Alike view { w with context } { w' with context } :=
  ⟨rfl, h.clock, h.seen⟩

/-- Whatever can be told from what is seen is the same, also of the entries that were
added behind the same history. -/
theorem filterMap_eq {β : Type} (h : w.Alike view w') {f : Entry σ → Option β}
    (hf : ∀ e, (view e).bind f = f e) {past es es' : List (Entry σ)}
    (hw : w.history = past ++ es) (hw' : w'.history = past ++ es') :
    es.filterMap f = es'.filterMap f := by
  have hview : ∀ l : List (Entry σ), (l.filterMap view).filterMap f = l.filterMap f := by
    intro l
    rw [List.filterMap_filterMap]
    exact congrArg (l.filterMap ·) (funext hf)
  have hall := congrArg (List.filterMap f) h.seen
  rw [hview, hview, hw, hw', List.filterMap_append, List.filterMap_append] at hall
  exact List.append_cancel_left hall

end World.Alike

/-! ## Handlers -/

/-- The results are the same, and the worlds are related. -/
def Same (R : World σ → World σ → Prop) {β : Type} (x y : β × World σ) : Prop :=
  x.1 = y.1 ∧ R x.2 y.2

/-- The handler neither cancels the run nor looks whether it has been
cancelled. -/
def Handling.LeavesToken {α : Type} : Handling σ α → Prop
  | .done _ | .fail _ | .crash _ => True
  | .look next => ∀ context, (next context).LeavesToken
  | .replace _ next | .send _ next | .wait _ next => next.LeavesToken
  | .cancel _ | .isCancelled _ => False

/-- Two worlds whose token is the same, also after somebody has cancelled in
both. -/
structure KeepsToken (R : World σ → World σ → Prop) : Prop where
  cancelled {w w' : World σ} : R w w' → w.cancelled = w'.cancelled
  cancel {w w' : World σ} : R w w' → R w.cancel w'.cancel

/-- A relation between worlds that is kept by events and by what handlers do beside
them, the token left aside. -/
structure Reporter.Likeness (reporter reporter' : Reporter)
    (R : World σ → World σ → Prop) : Prop where
  context {w w'} : R w w' → w.context = w'.context
  replace {w w'} (context : Context σ) : R w w' → R { w with context } { w' with context }
  send {w w'} (sender : Sender) (event : Event) : R w w' →
    R (w.send reporter sender event) (w'.send reporter' sender event)
  wait {w w'} (ms : Nat) : R w w' → R (w.wait ms) (w'.wait ms)

section Handlers

variable {reporter reporter' : Reporter} {R : World σ → World σ → Prop}
  (hR : reporter.Likeness reporter' R)

include hR

/-- A handler does the same in related worlds, if the token is the same in them or
does not matter to it. -/
theorem Handling.run_same {α : Type} (h : Handling σ α)
    (htoken : h.LeavesToken ∨ KeepsToken R) :
    ∀ {w w'}, R w w' → Same R (h.run reporter w) (h.run reporter' w') := by
  induction h with
  | done value => exact fun hw => ⟨rfl, hw⟩
  | fail failure => exact fun hw => ⟨rfl, hw⟩
  | crash text => exact fun hw => ⟨rfl, hw⟩
  | look next ih =>
      intro w w' hw
      simp only [run, hR.context hw]
      exact ih _ (htoken.imp_left fun h => h _) hw
  | replace context next ih => exact fun hw => ih htoken (hR.replace context hw)
  | send event next ih => exact fun hw => ih htoken (hR.send .handler event hw)
  | cancel next ih =>
      -- the token matters here, so it has to be the same in both
      have hkeeps : KeepsToken R := htoken.resolve_left id
      intro w w' hw
      exact ih (.inr hkeeps) (hkeeps.cancel hw)
  | isCancelled next ih =>
      have hkeeps : KeepsToken R := htoken.resolve_left id
      intro w w' hw
      simp only [run, hkeeps.cancelled hw]
      exact ih _ (.inr hkeeps) hw
  | wait ms next ih => exact fun hw => ih htoken (hR.wait ms hw)

end Handlers

/-! ## Steps -/

/-- A relation between worlds that is kept by the things of which steps are
made. -/
structure Runner.Likeness (r r' : Runner σ) (R : World σ → World σ → Prop) : Prop where
  registry : r.registry = r'.registry
  config : r.config = r'.config
  environment : r.environment = r'.environment
  context {w w'} : R w w' → w.context = w'.context
  clock {w w'} : R w w' → w.clock = w'.clock
  binding {w w'} (step : Step) : R w w' →
    R (w.record (.binding step w.context.store)) (w'.record (.binding step w'.context.store))
  log {w w'} (l : LogRecord) : R w w' → R (w.log l) (w'.log l)
  wait {w w'} (ms : Nat) : R w w' → R (w.wait ms) (w'.wait ms)
  emit {w w'} (event : Event) : R w w' → R (r.emit event w) (r'.emit event w')
  call {w w' d groups step} : r.registry.resolve step = .ok (d, groups) → R w w' →
    Same R (r.callHandler d.handle groups step w) (r'.callHandler d.handle groups step w')

/-- What is to be shown of calls: of the handler only that the token is the same or
does not matter to it. -/
theorem Runner.callHandler_same {r r' : Runner σ} {R : World σ → World σ → Prop}
    (hR : r.reporter.Likeness r'.reporter R)
    (hcalled : ∀ {w w' groups step}, R w w' →
      R (w.record (.called groups step w.context w.cancelled))
        (w'.record (.called groups step w'.context w'.cancelled)))
    (hended : ∀ {w w'}, R w w' →
      R (w.record (.ended w.context)) (w'.record (.ended w'.context)))
    {handle : Handler σ} {groups : Groups} {step : BoundStep}
    (htoken : (handle groups step).LeavesToken ∨ KeepsToken R) {w w' : World σ}
    (hw : R w w') :
    Same R (r.callHandler handle groups step w) (r'.callHandler handle groups step w') := by
  obtain ⟨hending, hworld⟩ := (handle groups step).run_same hR htoken (hcalled hw)
  exact ⟨hending, hended hworld⟩

theorem Registry.mem_of_resolve {registry : Registry σ} {step : BoundStep}
    {d : StepDefinition σ} {groups : Groups}
    (h : registry.resolve step = .ok (d, groups)) : d ∈ registry.definitions := by
  simp only [resolve] at h
  split at h
  · next found hfound =>
      cases h
      exact List.mem_of_find?_eq_some hfound
  · cases h

namespace Runner.Likeness

variable {r r' : Runner σ} {R : World σ → World σ → Prop} (h : r.Likeness r' R)
  {w w' : World σ}

include h

theorem failStep (step : BoundStep) (failure : Failure) (time : Option Nat)
    (hw : R w w') :
    Same R (r.failStep step failure time w) (r'.failStep step failure time w') :=
  ⟨rfl, h.emit _ (h.log _ hw)⟩

theorem passStep (step : BoundStep) (value : Option Value) (time : Nat) (hw : R w w') :
    Same R (r.passStep step value time w) (r'.passStep step value time w') :=
  ⟨rfl, h.emit _ (h.log _ hw)⟩

theorem sources (hw : R w w') : r.sources w = r'.sources w' := by
  rw [Runner.sources, Runner.sources, h.context hw, h.config, h.environment]

/-- A step has the same result in related worlds, and leaves them related. -/
theorem runStep (step : Step) (hw : R w w') :
    Same R (r.runStep step w) (r'.runStep step w') := by
  have hbinding := h.binding step hw
  simp only [Runner.runStep]
  rw [← h.sources hbinding, ← h.registry]
  split
  · exact h.failStep _ _ _ (h.emit _ hbinding)
  · next bound hbind =>
      have hbegin := h.emit (.stepStarted bound.text)
        (h.log (.stepStarted bound.text) hbinding)
      split
      · exact h.failStep _ _ _ hbegin
      · next d groups hresolve =>
          have hclock := h.clock hbegin
          obtain ⟨hending, hcalled⟩ := h.call hresolve hbegin
          rw [← hending, ← hclock, ← h.clock hcalled]
          split
          · exact h.passStep _ _ _ hcalled
          · exact h.failStep _ _ _ hcalled
          · exact h.failStep _ _ _ hcalled

theorem finishScenario (s : Scenario) (attempt : Attempt) (tries time : Nat)
    (hw : R w w') :
    Same R (Runner.finishScenario s attempt tries time w)
      (Runner.finishScenario s attempt tries time w') := by
  refine ⟨rfl, ?_⟩
  simp only [Runner.finishScenario]
  split
  · exact hw
  · exact h.log _ hw

theorem prepareRetry (s : Scenario) (number : Nat) (hw : R w w') :
    R (r.prepareRetry s number w) (r'.prepareRetry s number w') := by
  simp only [Runner.prepareRetry, ← h.config]
  split
  · exact h.emit _ (h.log _ hw)
  · exact h.wait _ (h.emit _ (h.log _ hw))

/-- The last attempt at a scenario, if it is so in both. -/
theorem tryScenario_last {s : Scenario} {begun left : Nat}
    (hsteps : Same R (r.runSteps s.displayName s.steps w)
      (r'.runSteps s.displayName s.steps w'))
    (hlast : (r.runSteps s.displayName s.steps w).1.failed = false ∨ left = 0) :
    Same R (r.tryScenario s begun left w) (r'.tryScenario s begun left w') := by
  obtain ⟨hattempt, hworld⟩ := hsteps
  rw [r.tryScenario_last hlast, r'.tryScenario_last (hattempt ▸ hlast), ← hattempt,
    ← h.clock hworld]
  exact h.finishScenario _ _ _ _ hworld

end Runner.Likeness

/-! ## Runs -/

/-- A likeness in which the token looks the same where it is looked at. -/
structure Runner.Lockstep (r r' : Runner σ) (R : World σ → World σ → Prop) : Prop
    extends Runner.Likeness r r' R where
  heeds {w w'} : R w w' → r.heeds w.cancelled = r'.heeds w'.cancelled
  look {w w'} : R w w' → R (r.checkCancelled w).2 (r'.checkCancelled w').2

theorem inTurn_same {α β : Type} {R : World σ → World σ → Prop}
    {one one' : α → World σ → β × World σ}
    (hone : ∀ a {w w'}, R w w' → Same R (one a w) (one' a w')) (as : List α) :
    ∀ {w w'}, R w w' → Same R (inTurn one as w) (inTurn one' as w') := by
  induction as with
  | nil => exact fun hw => ⟨rfl, hw⟩
  | cons a rest ih =>
      intro w w' hw
      obtain ⟨hresult, hfirst⟩ := hone a hw
      obtain ⟨hresults, hrest⟩ := ih hfirst
      refine ⟨?_, hrest⟩
      change _ :: _ = _ :: _
      rw [hresult, hresults]

namespace Runner.Lockstep

variable {r r' : Runner σ} {R : World σ → World σ → Prop} (h : r.Lockstep r' R)
  {w w' : World σ}

include h

theorem looks (hw : R w w') : (r.checkCancelled w).1 = (r'.checkCancelled w').1 := by
  rw [checkCancelled_fst, checkCancelled_fst, h.heeds hw]

theorem runSteps (name : String) (steps : List Step) :
    ∀ {w w'}, R w w' → Same R (r.runSteps name steps w) (r'.runSteps name steps w') := by
  induction steps with
  | nil => exact fun hw => ⟨rfl, hw⟩
  | cons step rest ih =>
      intro w w' hw
      have hlook := h.look hw
      simp only [Runner.runSteps, ← h.looks hw]
      split
      · exact ⟨rfl, h.log _ hlook⟩
      · obtain ⟨hresult, hstep⟩ := h.runStep step hlook
        rw [← hresult]
        split
        · obtain ⟨hattempt, hrest⟩ := ih hstep
          exact ⟨congrArg (Attempt.after · _) hattempt, hrest⟩
        · exact ⟨rfl, hstep⟩

theorem tryScenario (s : Scenario) (begun left : Nat) :
    ∀ {w w'}, R w w' →
      Same R (r.tryScenario s begun left w) (r'.tryScenario s begun left w') := by
  induction left with
  | zero =>
      intro w w' hw
      exact h.tryScenario_last (h.runSteps s.displayName s.steps hw) (.inr rfl)
  | succ left ih =>
      intro w w' hw
      have hsteps := h.runSteps s.displayName s.steps hw
      cases hfailed : (r.runSteps s.displayName s.steps w).1.failed with
      | false => exact h.tryScenario_last hsteps (.inl hfailed)
      | true =>
          rw [r.tryScenario_again hfailed, r'.tryScenario_again (hsteps.1 ▸ hfailed)]
          exact ih (h.prepareRetry s _ hsteps.2)

theorem runScenario (s : Scenario) (hw : R w w') :
    Same R (r.runScenario s w) (r'.runScenario s w') := by
  have hlook := h.look hw
  simp only [Runner.runScenario, ← h.looks hw]
  split
  · exact ⟨rfl, hw⟩
  · split
    · exact ⟨rfl, hlook⟩
    · have hbegin := h.emit (.scenarioStarted s.displayName)
        (h.log (.scenarioStarted s.displayName s.limit) hlook)
      rw [← h.clock hbegin]
      exact h.tryScenario s _ _ hbegin

theorem runFeature (f : Feature) (hw : R w w') :
    Same R (r.runFeature f w) (r'.runFeature f w') := by
  have hlook := h.look hw
  simp only [Runner.runFeature, ← h.looks hw, runScenarios_eq_inTurn]
  split
  · exact ⟨rfl, h.log _ hw⟩
  · split
    · exact ⟨rfl, h.log _ hlook⟩
    · have hbegin := h.emit (.featureStarted f.name)
        (h.log (.featureStarted f.name f.scenarios.length) hlook)
      obtain ⟨hresults, hscenarios⟩ :=
        inTurn_same (fun s => h.runScenario s) f.scenarios hbegin
      rw [← h.clock hbegin, ← hresults, ← h.clock hscenarios]
      exact ⟨rfl, hscenarios⟩

/-- In related worlds the features have the same results, and the worlds they leave
are related. -/
theorem runFeatures (fs : List Feature) (hw : R w w') :
    Same R (r.runFeatures fs w) (r'.runFeatures fs w') := by
  rw [runFeatures_eq_inTurn, runFeatures_eq_inTurn]
  exact inTurn_same (fun f => h.runFeature f) fs hw

end Runner.Lockstep

/-! ## What a run keeps -/

section Keeps

variable {Q : World σ → Prop}

/-- A property that handlers keep. -/
structure Reporter.Keeps (reporter : Reporter) (Q : World σ → Prop) : Prop where
  replace {w} (context : Context σ) : Q w → Q { w with context }
  send {w} (sender : Sender) (event : Event) : Q w → Q (w.send reporter sender event)
  cancel {w} : Q w → Q w.cancel
  wait {w} (ms : Nat) : Q w → Q (w.wait ms)

theorem Handling.run_keeps {α : Type} {reporter : Reporter} (hQ : reporter.Keeps Q)
    (h : Handling σ α) {w : World σ} (hw : Q w) : Q (h.run reporter w).2 := by
  let R : World σ → World σ → Prop := fun w w' => w = w' ∧ Q w
  have hR : reporter.Likeness reporter R := by
    constructor
    · exact fun hw => congrArg World.context hw.1
    · exact fun context hw => ⟨by rw [hw.1], hQ.replace context hw.2⟩
    · exact fun sender event hw => ⟨by rw [hw.1], hQ.send sender event hw.2⟩
    · exact fun ms hw => ⟨by rw [hw.1], hQ.wait ms hw.2⟩
  have htoken : KeepsToken R :=
    ⟨fun hw => congrArg World.cancelled hw.1, fun hw => ⟨by rw [hw.1], hQ.cancel hw.2⟩⟩
  have hsame := h.run_same hR (.inr htoken) (⟨rfl, hw⟩ : R w w)
  exact hsame.2.2

/-- A property that the runner keeps. -/
structure Runner.Keeps (r : Runner σ) (Q : World σ → Prop) : Prop where
  binding {w} (step : Step) : Q w → Q (w.record (.binding step w.context.store))
  log {w} (l : LogRecord) : Q w → Q (w.log l)
  wait {w} (ms : Nat) : Q w → Q (w.wait ms)
  emit {w} (event : Event) : Q w → Q (r.emit event w)
  call {w d groups step} : r.registry.resolve step = .ok (d, groups) → Q w →
    Q (r.callHandler d.handle groups step w).2
  look {w} : Q w → Q (r.checkCancelled w).2

variable {r : Runner σ} (h : r.Keeps Q)

include h

theorem Runner.Keeps.lockstep : r.Lockstep r fun w w' => w = w' ∧ Q w where
  registry := rfl
  config := rfl
  environment := rfl
  context hw := congrArg World.context hw.1
  clock hw := congrArg World.clock hw.1
  binding step hw := ⟨by rw [hw.1], h.binding step hw.2⟩
  log l hw := ⟨by rw [hw.1], h.log l hw.2⟩
  wait ms hw := ⟨by rw [hw.1], h.wait ms hw.2⟩
  emit event hw := ⟨by rw [hw.1], h.emit event hw.2⟩
  call hresolve hw := by
    obtain ⟨rfl, hw⟩ := hw
    exact ⟨rfl, rfl, h.call hresolve hw⟩
  heeds hw := by rw [hw.1]
  look hw := ⟨by rw [hw.1], h.look hw.2⟩

theorem Runner.Keeps.runFeatures (fs : List Feature) {w : World σ} (hw : Q w) :
    Q (r.runFeatures fs w).2 := by
  have hsame := h.lockstep.runFeatures fs ⟨rfl, hw⟩
  exact hsame.2.2

end Keeps

end Stepwise
