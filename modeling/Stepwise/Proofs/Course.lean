import Stepwise.Proofs.Trace

/-!
# The courses a run can take

One relation for each function of the runner, with one rule for each way through
it. A relation starts from whether the token is cancelled and tells the result,
the entries added to the history and, from scenarios upwards, whether the run was
cut short on the way.

What the rules leave open is what depends on foreign code: which outcome a step
has, what a handler does and which of the observers cancel. What they fix is the
order of things, and where the runner looks at the token. The theorems at the
end, one for each function, say that the runner follows the rules from every
world; `Runner.run_course` is the one for whole runs.
-/

namespace Stepwise

variable {σ : Type}

/-! ## Steps -/

/-- The end of a step: a record, and an event that observers are told. -/
inductive StepEnd (step : BoundStep) : StepOutcome → List (Entry σ) → Prop
  | passed {value time ts} : Tellings ts →
      StepEnd step (.passed value time)
        (.logged (.stepPassed step.text) :: .sent .runner (.stepPassed step.text) :: ts)
  | failed {failure time ts} : Tellings ts →
      StepEnd step (.failed failure time)
        (.logged (.stepFailed step.text failure.message) ::
          .sent .runner (.stepFailed step.text failure.message) :: ts)

/-- The course of a step: its placeholders have no value, or no definition takes
it, or its handler is called. -/
inductive StepCourse (c : Bool) (step : Step) :
    StepResult → List (Entry σ) → Prop
  | unbound {store missing ts es} : Tellings ts →
      StepEnd step.verbatim (.failed (.missingValue missing) none) es →
      StepCourse c step ⟨step.verbatim, .failed (.missingValue missing) none⟩
        (.binding step store :: .sent .runner (.stepStarted step.text) :: ts ++ es)
  | undefined {store bound failure ts es} : bound.step = step → Tellings ts →
      StepEnd bound (.failed failure none) es →
      StepCourse c step ⟨bound, .failed failure none⟩
        (.binding step store :: .logged (.stepStarted bound.text) ::
          .sent .runner (.stepStarted bound.text) :: ts ++ es)
  | called {store bound ts groups context hs context' outcome es} :
      bound.step = step → Tellings ts → Handlings hs → StepEnd bound outcome es →
      StepCourse c step ⟨bound, outcome⟩
        (.binding step store :: .logged (.stepStarted bound.text) ::
          .sent .runner (.stepStarted bound.text) :: ts ++
          .called groups bound context (tokenAfter c ts) :: hs ++
          .ended context' :: es)

/-! ## Scenarios -/

/-- The runner, when it looks at the token, finds the run cancelled: it has to
know the token. -/
def Runner.heeds (r : Runner σ) (cancelled : Bool) : Bool :=
  r.watchesToken && cancelled

/-- The course of an attempt. The token is looked at before every step, as long
as none has failed. -/
inductive AttemptCourse (r : Runner σ) (name : String) :
    Bool → List Step → Attempt → List (Entry σ) → Prop
  | done {c} : AttemptCourse r name c [] ⟨[], false, false⟩ []
  | interrupted {c step rest} : r.heeds c = true →
      AttemptCourse r name c (step :: rest)
        ⟨(step :: rest).map StepResult.skip, false, true⟩ [.logged (.interrupted name)]
  | passed {c step rest result attempt es fs} : r.heeds c = false →
      StepCourse c step result es → result.success = true →
      AttemptCourse r name (tokenAfter c es) rest attempt fs →
      AttemptCourse r name c (step :: rest) (attempt.after result) (es ++ fs)
  | failed {c step rest result es} : r.heeds c = false →
      StepCourse c step result es → result.success = false →
      AttemptCourse r name c (step :: rest)
        ⟨result :: rest.map StepResult.skip, true, false⟩ es

/-- An attempt is followed by another one only if it failed; then it was not
interrupted. -/
theorem AttemptCourse.not_interrupted {r : Runner σ} {name : String} {c : Bool}
    {steps : List Step} {attempt : Attempt} {es : List (Entry σ)}
    (h : AttemptCourse r name c steps attempt es) (hfailed : attempt.failed = true) :
    attempt.interrupted = false := by
  induction h with
  | done => rfl
  | interrupted _ => cases hfailed
  | passed _ _ _ _ ih => exact ih hfailed
  | failed _ _ _ => rfl

/-- The condition on which no other attempt is made. -/
theorem AttemptCourse.stops {r : Runner σ} {name : String} {c : Bool}
    {steps : List Step} {attempt : Attempt} {es : List (Entry σ)}
    (h : AttemptCourse r name c steps attempt es) :
    (attempt.success || attempt.interrupted) = !attempt.failed := by
  cases hfailed : attempt.failed with
  | false => cases hint : attempt.interrupted <;> simp [Attempt.success, hfailed, hint]
  | true => simp [Attempt.success, hfailed, h.not_interrupted hfailed]

/-- What happens between two attempts: the second is announced, and then there
may be a wait. -/
inductive RetryCourse (s : Scenario) (number : Nat) : List (Entry σ) → Prop
  | intro {ts ws} : Tellings ts → (∀ e ∈ ws, ∃ ms, e = .waited ms) →
      RetryCourse s number
        (.logged (.retrying s.displayName number s.limit) ::
          .sent .runner (.retrying s.displayName number s.limit) :: ts ++ ws)

/-- The course of the attempts at a scenario from the one of a number on: up to
the first one that does not fail, or that is the last one allowed. The last
attempt and its number are what is kept. -/
inductive TriesCourse (r : Runner σ) (s : Scenario) :
    Nat → Bool → Attempt → Nat → List (Entry σ) → Prop
  | last {number c attempt es} : AttemptCourse r s.displayName c s.steps attempt es →
      (attempt.failed = false ∨ number = s.limit) →
      TriesCourse r s number c attempt number es
  | again {number c attempt es fs kept tries gs} :
      AttemptCourse r s.displayName c s.steps attempt es → attempt.failed = true →
      number < s.limit → RetryCourse s (number + 1) fs →
      TriesCourse r s (number + 1) (tokenAfter c (es ++ fs)) kept tries gs →
      TriesCourse r s number c kept tries (es ++ fs ++ gs)

/-- The record that a scenario was not passed, if it was not. -/
def scenarioEnd (s : Scenario) (attempt : Attempt) (tries : Nat) : List (Entry σ) :=
  if attempt.success then [] else [.logged (.scenarioFailed s.displayName tries)]

/-- The course of a scenario. -/
inductive ScenarioCourse (r : Runner σ) :
    Bool → Scenario → ScenarioResult → List (Entry σ) → Bool → Prop
  | marked {c s} : s.skip = true → ScenarioCourse r c s (ScenarioResult.skip s) [] false
  | cut {c s} : s.skip = false → r.heeds c = true →
      ScenarioCourse r c s (ScenarioResult.skip s) [] true
  | ran {c s ts attempt tries time es} : s.skip = false → r.heeds c = false →
      Tellings ts → TriesCourse r s 1 (tokenAfter c ts) attempt tries es →
      ScenarioCourse r c s
        ⟨s, attempt.steps, attempt.success, false, tries, some time⟩
        (.logged (.scenarioStarted s.displayName s.limit) ::
          .sent .runner (.scenarioStarted s.displayName) :: ts ++ es ++
          scenarioEnd s attempt tries)
        attempt.interrupted

theorem ScenarioCourse.scenario_eq {r : Runner σ} {c : Bool} {s : Scenario}
    {result : ScenarioResult} {es : List (Entry σ)} {cut : Bool}
    (h : ScenarioCourse r c s result es cut) : result.scenario = s := by
  cases h <;> rfl

/-! ## Features and runs -/

/-- The courses of several units one after another. -/
inductive Courses {α β : Type}
    (course : Bool → α → β → List (Entry σ) → Bool → Prop) :
    Bool → List α → List β → List (Entry σ) → Bool → Prop
  | nil {c} : Courses course c [] [] [] false
  | cons {c a as b bs es fs cut cut'} : course c a b es cut →
      Courses course (tokenAfter c es) as bs fs cut' →
      Courses course c (a :: as) (b :: bs) (es ++ fs) (cut || cut')

/-- The course of a feature. -/
inductive FeatureCourse (r : Runner σ) :
    Bool → Feature → FeatureResult → List (Entry σ) → Bool → Prop
  | marked {c f} : f.skip = true →
      FeatureCourse r c f (FeatureResult.skip f) [.logged (.featureSkipped f.name)] false
  | cut {c f} : f.skip = false → r.heeds c = true →
      FeatureCourse r c f (FeatureResult.skip f) [.logged (.featureSkipped f.name)] true
  | ran {c f ts results es cut time} : f.skip = false → r.heeds c = false →
      Tellings ts →
      Courses (ScenarioCourse r) (tokenAfter c ts) f.scenarios results es cut →
      FeatureCourse r c f (FeatureResult.ofScenarios f results time)
        (.logged (.featureStarted f.name f.scenarios.length) ::
          .sent .runner (.featureStarted f.name) :: ts ++ es)
        cut

theorem FeatureCourse.feature_eq {r : Runner σ} {c : Bool} {f : Feature}
    {result : FeatureResult} {es : List (Entry σ)} {cut : Bool}
    (h : FeatureCourse r c f result es cut) : result.feature = f := by
  cases h <;> rfl

/-! ## One unit after another -/

section InTurn

variable {α β : Type}

/-- Runs units in their order, each in the world that the one before it left. -/
def inTurn (one : α → World σ → β × World σ) : List α → World σ → List β × World σ
  | [], w => ([], w)
  | a :: rest, w =>
    let (b, w) := one a w
    let (bs, w) := inTurn one rest w
    (b :: bs, w)

theorem Runner.runScenarios_eq_inTurn (r : Runner σ) :
    r.runScenarios = inTurn r.runScenario := by
  funext ss w
  induction ss generalizing w with
  | nil => rfl
  | cons s rest ih => simp only [runScenarios, inTurn, ih]

theorem Runner.runFeatures_eq_inTurn (r : Runner σ) :
    r.runFeatures = inTurn r.runFeature := by
  funext fs w
  induction fs generalizing w with
  | nil => rfl
  | cons f rest ih => simp only [runFeatures, inTurn, ih]

theorem inTurn_course {course : Bool → α → β → List (Entry σ) → Bool → Prop}
    {one : α → World σ → β × World σ}
    (hone : ∀ a w, ∃ es cut, course w.cancelled a (one a w).1 es cut ∧
      w.Leads es cut (one a w).2) (as : List α) :
    ∀ w : World σ, ∃ es cut, Courses course w.cancelled as (inTurn one as w).1 es cut ∧
      w.Leads es cut (inTurn one as w).2 := by
  induction as with
  | nil => exact fun w => ⟨[], false, .nil, World.Leads.refl w⟩
  | cons a rest ih =>
      intro w
      obtain ⟨es, cut, hes, hfirst⟩ := hone a w
      obtain ⟨fs, cut', hfs, hrest⟩ := ih (one a w).2
      rw [hfirst.cancelled] at hfs
      exact ⟨_, _, .cons hes hfs, hfirst.trans hrest⟩

end InTurn

/-! ## The runner follows the rules -/

namespace Runner

variable (r : Runner σ)

open World

theorem leads_emit (w : World σ) (event : Event) :
    ∃ ts, Tellings ts ∧ w.Leads (.sent .runner event :: ts) false (r.emit event w) :=
  w.leads_send r.reporter .runner event

/-- Most events are sent behind a record of the same. -/
theorem leads_announce (w : World σ) (l : LogRecord) (event : Event) :
    ∃ ts, Tellings ts ∧
      w.Leads (.logged l :: .sent .runner event :: ts) false (r.emit event (w.log l)) := by
  obtain ⟨ts, hts, hsent⟩ := r.leads_emit (w.log l) event
  exact ⟨ts, hts, (w.leads_log l).andThen hsent⟩

theorem checkCancelled_fst (w : World σ) :
    (r.checkCancelled w).1 = r.heeds w.cancelled := rfl

/-- Looking at the token leaves a mark on the run if it is cancelled, and
nothing in the history. -/
theorem leads_checkCancelled (w : World σ) :
    w.Leads [] (r.heeds w.cancelled) (r.checkCancelled w).2 where
  history := by simp [checkCancelled, history]
  cancelled := by simp [checkCancelled]
  cutShort := rfl

theorem failStep_course (step : BoundStep) (failure : Failure) (time : Option Nat)
    (w : World σ) :
    ∃ es, StepEnd step (.failed failure time) es ∧
      w.Leads es false (r.failStep step failure time w).2 := by
  obtain ⟨ts, hts, hsaid⟩ := r.leads_announce w
    (.stepFailed step.text failure.message) (.stepFailed step.text failure.message)
  exact ⟨_, .failed hts, hsaid⟩

theorem passStep_course (step : BoundStep) (value : Option Value) (time : Nat)
    (w : World σ) :
    ∃ es, StepEnd step (.passed value time) es ∧
      w.Leads es false (r.passStep step value time w).2 := by
  obtain ⟨ts, hts, hsaid⟩ :=
    r.leads_announce w (.stepPassed step.text) (.stepPassed step.text)
  exact ⟨_, .passed hts, hsaid⟩

theorem leads_callHandler (handle : Handler σ) (groups : Groups) (step : BoundStep)
    (w : World σ) :
    ∃ hs context', Handlings hs ∧
      w.Leads (.called groups step w.context w.cancelled :: hs ++ [.ended context'])
        false (r.callHandler handle groups step w).2 := by
  obtain ⟨hs, hhs, hrun⟩ := (handle groups step).leads_run r.reporter
    (w.record (.called groups step w.context w.cancelled))
  exact ⟨hs, _, hhs, ((w.leads_record rfl).andThen hrun).andThen (leads_record _ rfl)⟩

theorem bind_step {sources : Sources} {step : Step} {bound : BoundStep}
    (h : step.bind sources = .ok bound) : bound.step = step := by
  simp only [Step.bind] at h
  repeat' split at h
  all_goals cases h
  all_goals rfl

theorem runStep_course (step : Step) (w : World σ) :
    ∃ es, StepCourse w.cancelled step (r.runStep step w).1 es ∧
      w.Leads es false (r.runStep step w).2 := by
  have hbinding := w.leads_record (e := .binding step w.context.store) rfl
  simp only [runStep]
  split
  · next missing hbind =>
      obtain ⟨ts, hts, hstart⟩ := r.leads_emit
        (w.record (.binding step w.context.store)) (.stepStarted step.text)
      obtain ⟨es, hes, hend⟩ := r.failStep_course step.verbatim (.missingValue missing)
        none (r.emit (.stepStarted step.text) (w.record (.binding step w.context.store)))
      exact ⟨_, .unbound hts hes, (hbinding.andThen hstart).andThen hend⟩
  · next bound hbind =>
      have hstep := bind_step hbind
      obtain ⟨ts, hts, hstart⟩ := r.leads_announce
        (w.record (.binding step w.context.store)) (.stepStarted bound.text)
        (.stepStarted bound.text)
      have hbegin := hbinding.andThen hstart
      generalize r.emit (.stepStarted bound.text)
        ((w.record (.binding step w.context.store)).log (.stepStarted bound.text)) = w₁
        at hbegin ⊢
      split
      · next failure hresolve =>
          obtain ⟨es, hes, hend⟩ := r.failStep_course bound failure none w₁
          exact ⟨_, .undefined hstep hts hes, hbegin.andThen hend⟩
      · next definition groups hresolve =>
          obtain ⟨hs, context', hhs, hcall⟩ :=
            r.leads_callHandler definition.handle groups bound w₁
          have htoken : w₁.cancelled = tokenAfter w.cancelled ts := by
            simpa [Entry.isCancel] using hbegin.cancelled
          rw [htoken] at hcall
          have hfinish : ∀ {es : List (Entry σ)} {w' : World σ},
              (r.callHandler definition.handle groups bound w₁).2.Leads es false w' →
              w.Leads (.binding step w.context.store ::
                .logged (.stepStarted bound.text) ::
                .sent .runner (.stepStarted bound.text) :: ts ++
                .called groups bound w₁.context (tokenAfter w.cancelled ts) :: hs ++
                .ended context' :: es) false w' := by
            intro es w' hend
            simpa using (hbegin.andThen hcall).andThen hend
          split
          · next value hvalue =>
              obtain ⟨es, hes, hend⟩ := r.passStep_course bound value _ _
              exact ⟨_, .called hstep hts hhs hes, hfinish hend⟩
          · next failure hfailure =>
              obtain ⟨es, hes, hend⟩ := r.failStep_course bound failure _ _
              exact ⟨_, .called hstep hts hhs hes, hfinish hend⟩
          · next text hcrash =>
              obtain ⟨es, hes, hend⟩ := r.failStep_course bound (.ofCrash text) _ _
              exact ⟨_, .called hstep hts hhs hes, hfinish hend⟩

theorem runSteps_of_heeds {name : String} {step : Step} {rest : List Step} {w : World σ}
    (h : r.heeds w.cancelled = true) :
    r.runSteps name (step :: rest) w =
      (⟨(step :: rest).map StepResult.skip, false, true⟩,
        (r.checkCancelled w).2.log (.interrupted name)) := by
  simp only [runSteps]
  rw [checkCancelled_fst, h, if_pos rfl]

theorem runSteps_of_not_heeds {name : String} {step : Step} {rest : List Step}
    {w : World σ} (h : r.heeds w.cancelled = false) :
    r.runSteps name (step :: rest) w =
      let x := r.runStep step (r.checkCancelled w).2
      let y := r.runSteps name rest x.2
      if x.1.success then (y.1.after x.1, y.2)
      else (⟨x.1 :: rest.map StepResult.skip, true, false⟩, x.2) := by
  simp only [runSteps]
  rw [checkCancelled_fst, h]
  rfl

theorem runSteps_course (name : String) (steps : List Step) :
    ∀ w : World σ, ∃ es,
      AttemptCourse r name w.cancelled steps (r.runSteps name steps w).1 es ∧
      w.Leads es (r.runSteps name steps w).1.interrupted (r.runSteps name steps w).2 := by
  induction steps with
  | nil => exact fun w => ⟨[], .done, Leads.refl w⟩
  | cons step rest ih =>
      intro w
      have hlook := r.leads_checkCancelled w
      simp only [runSteps]
      rw [checkCancelled_fst]
      cases hheeds : r.heeds w.cancelled with
      | true =>
          rw [hheeds] at hlook
          exact ⟨_, .interrupted hheeds, hlook.trans (leads_log _ _)⟩
      | false =>
          rw [hheeds] at hlook
          obtain ⟨es, hes, hstep⟩ := r.runStep_course step (r.checkCancelled w).2
          have hfirst := hlook.andThen hstep
          simp only [Bool.false_eq_true, if_false]
          split
          · next hpass =>
              obtain ⟨fs, hfs, hrest⟩ :=
                ih (r.runStep step (r.checkCancelled w).2).2
              rw [hfirst.cancelled] at hfs
              exact ⟨_, .passed hheeds hes hpass hfs, hfirst.trans hrest⟩
          · next hfail =>
              exact ⟨_, .failed hheeds hes (by simpa using hfail), hfirst⟩

theorem prepareRetry_course (s : Scenario) (number : Nat) (w : World σ) :
    ∃ fs, RetryCourse s number fs ∧
      w.Leads fs false (r.prepareRetry s number w) := by
  obtain ⟨ts, hts, hsaid⟩ := r.leads_announce w
    (.retrying s.displayName number s.limit) (.retrying s.displayName number s.limit)
  simp only [prepareRetry]
  split
  · have hnone : ∀ e ∈ ([] : List (Entry σ)), ∃ ms, e = .waited ms := by simp
    exact ⟨_, .intro hts hnone, by simpa using hsaid⟩
  · have hwait : ∀ e ∈ [(.waited r.config.retryDelay.toNat : Entry σ)],
        ∃ ms, e = .waited ms := by simp
    refine ⟨_, .intro hts hwait, ?_⟩
    simpa using hsaid.andThen (leads_wait _ _)

theorem finishScenario_course (s : Scenario) (attempt : Attempt) (tries time : Nat)
    (w : World σ) :
    w.Leads (scenarioEnd s attempt tries) false
      (finishScenario s attempt tries time w).2 := by
  simp only [finishScenario, scenarioEnd]
  split
  · exact Leads.refl w
  · exact leads_log w _

/-- The last attempt at a scenario is one that did not fail or behind which none
is left. -/
theorem tryScenario_last {s : Scenario} {begun left : Nat} {w : World σ}
    (h : (r.runSteps s.displayName s.steps w).1.failed = false ∨ left = 0) :
    r.tryScenario s begun left w =
      finishScenario s (r.runSteps s.displayName s.steps w).1 (s.limit - left)
        ((r.runSteps s.displayName s.steps w).2.clock - begun)
        (r.runSteps s.displayName s.steps w).2 := by
  obtain ⟨es, hes, -⟩ := r.runSteps_course s.displayName s.steps w
  rw [tryScenario]
  simp only []
  rw [hes.stops]
  rcases h with hfailed | rfl
  · simp only [hfailed, Bool.not_false, if_true]
  · simp only [ite_self]

/-- After an attempt that failed the scenario is tried again if that is
allowed. -/
theorem tryScenario_again {s : Scenario} {begun left : Nat} {w : World σ}
    (h : (r.runSteps s.displayName s.steps w).1.failed = true) :
    r.tryScenario s begun (left + 1) w =
      r.tryScenario s begun left (r.prepareRetry s (s.limit - (left + 1) + 1)
        (r.runSteps s.displayName s.steps w).2) := by
  obtain ⟨es, hes, -⟩ := r.runSteps_course s.displayName s.steps w
  rw [tryScenario]
  simp only []
  rw [hes.stops, h]
  rfl

theorem tryScenario_course (s : Scenario) (begun : Nat) :
    ∀ (left : Nat) (w : World σ), left < s.limit →
      ∃ attempt tries time es,
        TriesCourse r s (s.limit - left) w.cancelled attempt tries es ∧
        (r.tryScenario s begun left w).1 =
          ⟨s, attempt.steps, attempt.success, false, tries, some time⟩ ∧
        w.Leads (es ++ scenarioEnd s attempt tries) attempt.interrupted
          (r.tryScenario s begun left w).2 := by
  intro left
  induction left with
  | zero =>
      intro w _
      obtain ⟨es, hes, hattempt⟩ := r.runSteps_course s.displayName s.steps w
      rw [r.tryScenario_last (.inr rfl)]
      refine ⟨_, _, _, es, .last hes (.inr (Nat.sub_zero _)), rfl, ?_⟩
      simpa using hattempt.trans (finishScenario_course s _ _ _ _)
  | succ left ih =>
      intro w hleft
      obtain ⟨es, hes, hattempt⟩ := r.runSteps_course s.displayName s.steps w
      cases hfailed : (r.runSteps s.displayName s.steps w).1.failed with
      | false =>
          rw [r.tryScenario_last (.inl hfailed)]
          refine ⟨_, _, _, es, .last hes (.inl hfailed), rfl, ?_⟩
          simpa using hattempt.trans (finishScenario_course s _ _ _ _)
      | true =>
          rw [r.tryScenario_again hfailed]
          obtain ⟨fs, hfs, hretry⟩ := r.prepareRetry_course s (s.limit - (left + 1) + 1)
            (r.runSteps s.displayName s.steps w).2
          obtain ⟨kept, tries, time, gs, hgs, hresult, hrest⟩ := ih
            (r.prepareRetry s (s.limit - (left + 1) + 1)
              (r.runSteps s.displayName s.steps w).2) (by omega)
          have hnumber : s.limit - left = s.limit - (left + 1) + 1 := by omega
          have hfirst := hattempt.trans hretry
          rw [hes.not_interrupted hfailed] at hfirst
          rw [hnumber, hfirst.cancelled] at hgs
          refine ⟨kept, tries, time, _, .again hes hfailed (by omega) hfs hgs, hresult, ?_⟩
          simpa using hfirst.trans hrest

theorem runScenario_course (s : Scenario) (w : World σ) :
    ∃ es cut, ScenarioCourse r w.cancelled s (r.runScenario s w).1 es cut ∧
      w.Leads es cut (r.runScenario s w).2 := by
  have hlook := r.leads_checkCancelled w
  simp only [runScenario]
  cases hskip : s.skip with
  | true => exact ⟨_, _, .marked hskip, Leads.refl w⟩
  | false =>
      rw [checkCancelled_fst]
      cases hheeds : r.heeds w.cancelled with
      | true =>
          rw [hheeds] at hlook
          exact ⟨_, _, .cut hskip hheeds, hlook⟩
      | false =>
          rw [hheeds] at hlook
          obtain ⟨ts, hts, hsaid⟩ := r.leads_announce (r.checkCancelled w).2
            (.scenarioStarted s.displayName s.limit) (.scenarioStarted s.displayName)
          have hbegin := hlook.andThen hsaid
          have hlimit : 1 ≤ s.limit := Nat.le_max_right _ _
          generalize r.emit (.scenarioStarted s.displayName)
            ((r.checkCancelled w).2.log (.scenarioStarted s.displayName s.limit)) = w₁
            at hbegin ⊢
          obtain ⟨attempt, tries, time, es, hes, hresult, htries⟩ :=
            r.tryScenario_course s w₁.clock (s.limit - 1) w₁ (by omega)
          have htoken : w₁.cancelled = tokenAfter w.cancelled ts := by
            simpa [Entry.isCancel] using hbegin.cancelled
          rw [htoken, Nat.sub_sub_self hlimit] at hes
          simp only [Bool.false_eq_true, if_false]
          rw [hresult]
          refine ⟨_, _, .ran hskip hheeds hts hes, ?_⟩
          simpa using hbegin.trans htries

theorem runScenarios_course (ss : List Scenario) (w : World σ) :
    ∃ es cut, Courses (ScenarioCourse r) w.cancelled ss (r.runScenarios ss w).1 es cut ∧
      w.Leads es cut (r.runScenarios ss w).2 := by
  rw [runScenarios_eq_inTurn]
  exact inTurn_course r.runScenario_course ss w

theorem runFeature_course (f : Feature) (w : World σ) :
    ∃ es cut, FeatureCourse r w.cancelled f (r.runFeature f w).1 es cut ∧
      w.Leads es cut (r.runFeature f w).2 := by
  have hlook := r.leads_checkCancelled w
  simp only [runFeature]
  cases hskip : f.skip with
  | true => exact ⟨_, _, .marked hskip, leads_log w _⟩
  | false =>
      rw [checkCancelled_fst]
      cases hheeds : r.heeds w.cancelled with
      | true =>
          rw [hheeds] at hlook
          exact ⟨_, _, .cut hskip hheeds, hlook.trans (leads_log _ _)⟩
      | false =>
          rw [hheeds] at hlook
          obtain ⟨ts, hts, hsaid⟩ := r.leads_announce (r.checkCancelled w).2
            (.featureStarted f.name f.scenarios.length) (.featureStarted f.name)
          have hbegin := hlook.andThen hsaid
          generalize r.emit (.featureStarted f.name)
            ((r.checkCancelled w).2.log (.featureStarted f.name f.scenarios.length)) = w₁
            at hbegin ⊢
          obtain ⟨es, cut, hes, hscenarios⟩ := r.runScenarios_course f.scenarios w₁
          have htoken : w₁.cancelled = tokenAfter w.cancelled ts := by
            simpa [Entry.isCancel] using hbegin.cancelled
          rw [htoken] at hes
          refine ⟨_, _, .ran hskip hheeds hts hes, ?_⟩
          simpa using hbegin.trans hscenarios

theorem runFeatures_course (fs : List Feature) (w : World σ) :
    ∃ es cut, Courses (FeatureCourse r) w.cancelled fs (r.runFeatures fs w).1 es cut ∧
      w.Leads es cut (r.runFeatures fs w).2 := by
  rw [runFeatures_eq_inTurn]
  exact inTurn_course r.runFeature_course fs w

/-- The course of a run: the features one after another, and then one report of
the result. The run has an error exactly if it was cut short. -/
theorem run_course (features : List Feature) (w : World σ) :
    ∃ results es cut time ts,
      Courses (FeatureCourse r) w.cancelled features results es cut ∧
      (r.run features w).1 = RunResult.ofFeatures results (some time)
        (if cut then some .cancelled else none) ∧
      Tellings ts ∧
      (r.run features w).2.history =
        w.history ++ (es ++ .reported (r.run features w).1 :: ts) := by
  obtain ⟨es, cut, hes, hrun⟩ := r.runFeatures_course features { w with cutShort := false }
  have hcut : (r.runFeatures features { w with cutShort := false }).2.cutShort = cut := by
    simpa using hrun.cutShort
  have hresult : (r.run features w).1 = RunResult.ofFeatures
      (r.runFeatures features { w with cutShort := false }).1
      (some ((r.runFeatures features { w with cutShort := false }).2.clock - w.clock))
      (if cut then some .cancelled else none) := by
    rw [← hcut]
    rfl
  obtain ⟨ts, hts, hreport⟩ := leads_report
    (r.runFeatures features { w with cutShort := false }).2 r.reporter (r.run features w).1
  exact ⟨_, es, cut, _, ts, hes, hresult, hts, (hrun.trans hreport).history⟩

theorem run_adds (features : List Feature) (w : World σ) :
    ∃ es, (r.run features w).2.history = w.history ++ es := by
  obtain ⟨_, _, _, _, _, -, -, -, hhistory⟩ := r.run_course features w
  exact ⟨_, hhistory⟩

/-- The token after a run, by what the run has added to the history. -/
theorem run_cancelled {features : List Feature} {w : World σ} {es : List (Entry σ)}
    (hes : (r.run features w).2.history = w.history ++ es) :
    (r.run features w).2.cancelled = tokenAfter w.cancelled es := by
  obtain ⟨fs, cut, -, hrun⟩ := r.runFeatures_course features { w with cutShort := false }
  obtain ⟨ts, -, hreport⟩ := leads_report
    (r.runFeatures features { w with cutShort := false }).2 r.reporter (r.run features w).1
  have hleads := hrun.trans hreport
  obtain rfl : es = fs ++ .reported (r.run features w).1 :: ts :=
    List.append_cancel_left (hes.symm.trans hleads.history)
  exact hleads.cancelled

end Runner

end Stepwise
