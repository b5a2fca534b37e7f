import Stepwise.Proofs.Outcomes
import Stepwise.Proofs.Verdict

/-!
# The log of a run tells the same story as its events

The runner writes records and sends events in separate statements, in five of its functions.
Most records stand before the event that says the same; a few have no event beside them. The
order of the two kinds is therefore not what relates the log to the events. What does is that
the records, each read as the event it tells of, are the events, and that what is left of the
log can be read off the tree of results.

There is one exception, and it needs some memory to say which events it is about. A step whose
placeholders have no value is told of without being written down: the event that it starts
has no record. So the history is read from left to right, and what is kept in mind is whether
the step that is going to start could be filled (`Runner.afterEntry`). Behind the start of a
step nothing is kept, so between two steps the two accounts are level with each other. That is
the invariant (`Runner.Accounts`); functions of the runner add to both sides at once or to
neither, and a stretch of the history is a stretch of each account.
-/

namespace Stepwise

variable {σ : Type}

/-! ## The two accounts -/

structure LogLine where
  level : LogLevel
  record : LogRecord
deriving Repr, DecidableEq

/-- The event that a line tells of. -/
def LogLine.event? (l : LogLine) : Option Event :=
  match l.level, l.record with
  | .info, .featureStarted name _ => some (.featureStarted name)
  | .info, .scenarioStarted name _ => some (.scenarioStarted name)
  | .warn, .retrying name attempt maxTries => some (.retrying name attempt maxTries)
  | .debug, .stepStarted text => some (.stepStarted text)
  | .debug, .stepPassed text => some (.stepPassed text)
  | .warn, .stepFailed text message => some (.stepFailed text message)
  | _, _ => none

/-- A line that the runner writes. What a logger is told it writes itself. -/
def Entry.ownLine? : Entry σ → Option LogLine
  | .logged (.progress _) | .logged (.finished ..) | .logged (.aborted _) => none
  | .logged l => some ⟨l.level, l⟩
  | _ => none

def ownLines (es : List (Entry σ)) : List LogLine := es.filterMap Entry.ownLine?

/-- The events of which the log tells. -/
def writtenEvents (es : List (Entry σ)) : List Event := (ownLines es).filterMap LogLine.event?

/-- The lines beside which no event is sent. -/
def otherLines (es : List (Entry σ)) : List LogLine :=
  (ownLines es).filter fun l => l.event?.isNone

/-- Whether the step that is going to start could not be filled, behind an entry. -/
def Runner.afterEntry (r : Runner σ) (unfilled : Bool) : Entry σ → Bool
  | .binding step store => !(step.bind ⟨store, r.environment, r.config.useEnvironment⟩).isOk
  | .sent .runner (.stepStarted _) => false
  | _ => unfilled

/-- The event that the runner sends, unless it is the start of a step that could not be
filled. -/
def Entry.filledEvent? (e : Entry σ) (unfilled : Bool) : Option Event :=
  match e.ownEvent? with
  | some (.stepStarted text) => if unfilled then none else some (.stepStarted text)
  | event => event

/-- The events that the runner sends, without the starts of steps that could not be filled. -/
def Runner.filledEvents (r : Runner σ) : Bool → List (Entry σ) → List Event
  | _, [] => []
  | unfilled, e :: es =>
    (e.filledEvent? unfilled).toList ++ r.filledEvents (r.afterEntry unfilled e) es

/-! ## What the tree says of the rest -/

/-- One line if the last attempt was interrupted, and one if the scenario was not passed. -/
def ScenarioResult.remarks (r : ScenarioResult) : List LogLine :=
  (if !r.skipped && r.isCut then [⟨.warn, .interrupted r.scenario.displayName⟩] else []) ++
    (if !r.skipped && !r.success then
      [⟨.warn, .scenarioFailed r.scenario.displayName r.tries⟩]
    else [])

def FeatureResult.remarks (r : FeatureResult) : List LogLine :=
  (if r.skipped then [⟨.debug, .featureSkipped r.feature.name⟩] else []) ++
    r.scenarios.flatMap ScenarioResult.remarks

def RunResult.remarks (r : RunResult) : List LogLine :=
  (match r.error with
    | some (.load error) => [⟨.error, .loadFailed error⟩]
    | _ => []) ++
    r.features.flatMap FeatureResult.remarks

/-! ## Stretches of a history -/

theorem ownLines_append (es fs : List (Entry σ)) :
    ownLines (es ++ fs) = ownLines es ++ ownLines fs := List.filterMap_append

theorem writtenEvents_append (es fs : List (Entry σ)) :
    writtenEvents (es ++ fs) = writtenEvents es ++ writtenEvents fs := by
  rw [writtenEvents, ownLines_append, List.filterMap_append]
  rfl

theorem otherLines_append (es fs : List (Entry σ)) :
    otherLines (es ++ fs) = otherLines es ++ otherLines fs := by
  rw [otherLines, ownLines_append, List.filter_append]
  rfl

namespace Runner

variable (r : Runner σ)

theorem filledEvents_append (es fs : List (Entry σ)) :
    ∀ u, r.filledEvents u (es ++ fs) =
      r.filledEvents u es ++ r.filledEvents (es.foldl r.afterEntry u) fs := by
  induction es with
  | nil => exact fun u => rfl
  | cons e rest ih =>
      intro u
      rw [List.cons_append, filledEvents, ih, filledEvents, List.foldl_cons, List.append_assoc]

/-- A stretch of the history between two moments at which no step is about to start: the log
tells of its events, and this is what else is in the log. -/
structure Accounts (es : List (Entry σ)) (lines : List LogLine) : Prop where
  events : writtenEvents es = r.filledEvents false es
  others : otherLines es = lines
  level : es.foldl r.afterEntry false = false

variable {r}

theorem Accounts.append {es fs : List (Entry σ)} {lines lines' : List LogLine}
    (h : r.Accounts es lines) (h' : r.Accounts fs lines') :
    r.Accounts (es ++ fs) (lines ++ lines') where
  events := by rw [writtenEvents_append, filledEvents_append, h.level, h.events, h'.events]
  others := by rw [otherLines_append, h.others, h'.others]
  level := by rw [List.foldl_append, h.level, h'.level]

theorem accounts_of_handlings {hs : List (Entry σ)} (h : Handlings hs) :
    r.Accounts hs [] := by
  induction hs with
  | nil => exact ⟨rfl, rfl, rfl⟩
  | cons e rest ih =>
      obtain ⟨he, hrest⟩ := List.forall_mem_cons.mp h
      have hone : r.Accounts [e] [] := by
        cases e with
        | sent sender event =>
            cases sender with
            | runner => cases he
            | handler => exact ⟨rfl, rfl, rfl⟩
        | logged l =>
            cases l with
            | progress | finished | aborted => exact ⟨rfl, rfl, rfl⟩
            | _ => cases he
        | binding | called | ended | reported => cases he
        | told | waited | cancelled => exact ⟨rfl, rfl, rfl⟩
      exact hone.append (ih hrest)

theorem accounts_of_tellings {ts : List (Entry σ)} (h : Tellings ts) : r.Accounts ts [] :=
  accounts_of_handlings h.handlings

end Runner

def World.Logs (w : World σ) (r : Runner σ) (lines : List LogLine) (w' : World σ) : Prop :=
  ∃ es, w'.history = w.history ++ es ∧ r.Accounts es lines

namespace World

variable {r : Runner σ} {w w₁ w₂ w₃ : World σ} {lines lines' : List LogLine}

theorem logs_of_history_eq (h : w₂.history = w₁.history) : w₁.Logs r [] w₂ :=
  ⟨[], by rw [h, List.append_nil], rfl, rfl, rfl⟩

theorem Logs.trans (h : w₁.Logs r lines w₂) (h' : w₂.Logs r lines' w₃) :
    w₁.Logs r (lines ++ lines') w₃ := by
  obtain ⟨es, hes, haccounts⟩ := h
  obtain ⟨fs, hfs, haccounts'⟩ := h'
  exact ⟨es ++ fs, by rw [hfs, hes, List.append_assoc], haccounts.append haccounts'⟩

theorem Logs.after (h' : w₂.Logs r lines w₃) (h : w₁.Logs r [] w₂) : w₁.Logs r lines w₃ :=
  h.trans h'

theorem Leads.logs {es : List (Entry σ)} {cut : Bool} (h : w₁.Leads es cut w₂)
    (haccounts : r.Accounts es lines) : w₁.Logs r lines w₂ := ⟨es, h.history, haccounts⟩

theorem logs_log (w : World σ) {l : LogRecord} (h : r.Accounts [.logged l] lines) :
    w.Logs r lines (w.log l) := (w.leads_log l).logs h

end World

/-! ## The runner keeps the accounts level -/

namespace Runner

variable (r : Runner σ)

open World

theorem logs_announce (w : World σ) {l : LogRecord} {event : Event}
    (h : r.Accounts [.logged l, .sent .runner event] []) :
    w.Logs r [] (r.emit event (w.log l)) := by
  obtain ⟨ts, hts, hleads⟩ := r.leads_announce w l event
  exact hleads.logs (h.append (accounts_of_tellings hts))

theorem logs_failStep (step : BoundStep) (failure : Failure) (time : Option Nat)
    (w : World σ) : w.Logs r [] (r.failStep step failure time w).2 :=
  r.logs_announce w ⟨rfl, rfl, rfl⟩

theorem logs_passStep (step : BoundStep) (value : Option Value) (time : Nat) (w : World σ) :
    w.Logs r [] (r.passStep step value time w).2 :=
  r.logs_announce w ⟨rfl, rfl, rfl⟩

theorem logs_endStep (bound : BoundStep) (time : Nat) (ending : Ending (Option Value))
    (w : World σ) : w.Logs r [] (r.endStep bound time ending w).2 := by
  cases ending with
  | returned value => exact r.logs_passStep bound value time w
  | failed failure => exact r.logs_failStep bound failure (some time) w
  | crashed text => exact r.logs_failStep bound (.ofCrash text) (some time) w

theorem logs_callHandler (handle : Handler σ) (groups : Groups) (step : BoundStep)
    (w : World σ) : w.Logs r [] (r.callHandler handle groups step w).2 := by
  obtain ⟨hs, context', hhs, hleads⟩ := r.leads_callHandler handle groups step w
  have hcalled : r.Accounts [.called groups step w.context w.cancelled] [] := ⟨rfl, rfl, rfl⟩
  have hended : r.Accounts [.ended context'] [] := ⟨rfl, rfl, rfl⟩
  exact hleads.logs ((hcalled.append (accounts_of_handlings hhs)).append hended)

theorem logs_unfilled {step : Step} {w : World σ} {missing : MissingValue}
    (h : step.bind (r.sources w) = .error missing) :
    w.Logs r [] (r.emit (.stepStarted step.text) (w.record (.binding step w.context.store))) := by
  obtain ⟨ts, hts, hsent⟩ := r.leads_emit (w.record (.binding step w.context.store))
    (.stepStarted step.text)
  have hunfilled : r.afterEntry false (.binding step w.context.store) = true := by
    show (!(step.bind (r.sources w)).isOk) = true
    rw [h]
    rfl
  -- the event is passed over, so that it is on neither account
  have hstart : r.Accounts
      [.binding step w.context.store, .sent .runner (.stepStarted step.text)] [] := by
    refine ⟨?_, rfl, rfl⟩
    rw [filledEvents, hunfilled]
    rfl
  exact ((w.leads_record rfl).andThen hsent).logs (hstart.append (accounts_of_tellings hts))

theorem logs_stepStarted {step : Step} {w : World σ} {bound : BoundStep}
    (h : step.bind (r.sources w) = .ok bound) :
    w.Logs r [] (r.stepStarted step bound w) := by
  obtain ⟨ts, hts, hsaid⟩ := r.leads_announce (w.record (.binding step w.context.store))
    (.stepStarted bound.text) (.stepStarted bound.text)
  have hfilled : r.afterEntry false (.binding step w.context.store) = false := by
    show (!(step.bind (r.sources w)).isOk) = false
    rw [h]
    rfl
  have hstart : r.Accounts [.binding step w.context.store, .logged (.stepStarted bound.text),
      .sent .runner (.stepStarted bound.text)] [] := by
    refine ⟨?_, rfl, rfl⟩
    rw [filledEvents, hfilled]
    rfl
  exact ((w.leads_record rfl).andThen hsaid).logs (hstart.append (accounts_of_tellings hts))

theorem logs_runStep (step : Step) (w : World σ) : w.Logs r [] (r.runStep step w).2 := by
  cases hbind : step.bind (r.sources w) with
  | error missing =>
      rw [runStep_of_missing hbind]
      exact (r.logs_unfilled hbind).trans (r.logs_failStep _ _ _ _)
  | ok bound =>
      have hstart := r.logs_stepStarted hbind
      cases hresolve : r.registry.resolve bound with
      | error failure =>
          rw [runStep_of_undefined hbind hresolve]
          exact hstart.trans (r.logs_failStep _ _ _ _)
      | ok found =>
          obtain ⟨d, groups⟩ := found
          rw [runStep_of_found hbind hresolve]
          exact (hstart.trans (r.logs_callHandler _ _ _ _)).trans (r.logs_endStep _ _ _ _)

theorem logs_checkCancelled (w : World σ) : w.Logs r [] (r.checkCancelled w).2 :=
  logs_of_history_eq (by rw [(r.leads_checkCancelled w).history, List.append_nil])

/-- What an attempt leaves in the log beside its events. -/
def attemptRemarks (name : String) (attempt : Attempt) : List LogLine :=
  if attempt.interrupted then [⟨.warn, .interrupted name⟩] else []

theorem logs_runSteps (name : String) (steps : List Step) :
    ∀ w : World σ, w.Logs r (attemptRemarks name (r.runSteps name steps w).1)
      (r.runSteps name steps w).2 := by
  induction steps with
  | nil => exact fun w => logs_of_history_eq rfl
  | cons step rest ih =>
      intro w
      have hlook := r.logs_checkCancelled w
      cases hheeds : r.heeds w.cancelled with
      | true =>
          rw [r.runSteps_of_heeds hheeds]
          have hline : (r.checkCancelled w).2.Logs r [⟨.warn, .interrupted name⟩]
              ((r.checkCancelled w).2.log (.interrupted name)) := logs_log _ ⟨rfl, rfl, rfl⟩
          exact hline.after hlook
      | false =>
          rw [r.runSteps_of_not_heeds hheeds]
          have hstep := hlook.trans (r.logs_runStep step (r.checkCancelled w).2)
          simp only []
          split
          · next hpassed => exact (ih _).after hstep
          · next hfailed => exact hstep

/-! ## Scenarios, features and runs -/

theorem logs_prepareRetry (s : Scenario) (number : Nat) (w : World σ) :
    w.Logs r [] (r.prepareRetry s number w) := by
  have hsaid : w.Logs r [] (r.emit (.retrying s.displayName number s.limit)
      (w.log (.retrying s.displayName number s.limit))) := r.logs_announce w ⟨rfl, rfl, rfl⟩
  simp only [prepareRetry]
  split
  · exact hsaid
  · exact hsaid.trans ((leads_wait _ _).logs ⟨rfl, rfl, rfl⟩)

theorem logs_lastAttempt (s : Scenario) (tries time : Nat) (w : World σ) :
    let x := r.runSteps s.displayName s.steps w
    let y := finishScenario s x.1 tries time x.2
    w.Logs r y.1.remarks y.2 := by
  intro x y
  obtain ⟨es, hes, -⟩ := r.runSteps_course s.displayName s.steps w
  have hcut : y.1.isCut = x.1.interrupted := hes.interrupted_eq
  have hattempt : w.Logs r (attemptRemarks s.displayName x.1) x.2 :=
    r.logs_runSteps s.displayName s.steps w
  have hremarks : y.1.remarks = attemptRemarks s.displayName x.1 ++
      (if !x.1.success then [⟨.warn, .scenarioFailed s.displayName tries⟩] else []) := by
    rw [ScenarioResult.remarks, hcut]
    rfl
  rw [hremarks]
  refine hattempt.trans ?_
  cases hsuccess : x.1.success with
  | true => exact logs_of_history_eq (by simp only [y, finishScenario, hsuccess, if_true])
  | false =>
      have hend : y.2 = x.2.log (.scenarioFailed s.displayName tries) := by
        simp [y, finishScenario, hsuccess]
      rw [hend]
      exact logs_log _ ⟨rfl, rfl, rfl⟩

/-- Attempts behind which another one is made have failed, so they leave nothing. -/
theorem logs_tryScenario (s : Scenario) (begun left : Nat) :
    ∀ w : World σ, w.Logs r (r.tryScenario s begun left w).1.remarks
      (r.tryScenario s begun left w).2 := by
  induction left with
  | zero =>
      intro w
      rw [r.tryScenario_last (.inr rfl)]
      exact r.logs_lastAttempt s _ _ w
  | succ left ih =>
      intro w
      cases hfailed : (r.runSteps s.displayName s.steps w).1.failed with
      | false =>
          rw [r.tryScenario_last (.inl hfailed)]
          exact r.logs_lastAttempt s _ _ w
      | true =>
          obtain ⟨es, hes, -⟩ := r.runSteps_course s.displayName s.steps w
          have hattempt := r.logs_runSteps s.displayName s.steps w
          rw [attemptRemarks, hes.not_interrupted hfailed, if_neg Bool.false_ne_true] at hattempt
          rw [r.tryScenario_again hfailed]
          exact (ih _).after (hattempt.trans (r.logs_prepareRetry _ _ _))

theorem remarks_skip (s : Scenario) : (ScenarioResult.skip s).remarks = [] := rfl

theorem flatMap_remarks_skip (ss : List Scenario) :
    (ss.map ScenarioResult.skip).flatMap ScenarioResult.remarks = [] := by
  rw [List.flatMap_map]
  exact List.flatMap_eq_nil_iff.mpr fun s _ => remarks_skip s

theorem logs_runScenario (s : Scenario) (w : World σ) :
    w.Logs r (r.runScenario s w).1.remarks (r.runScenario s w).2 := by
  have hlook := r.logs_checkCancelled w
  simp only [runScenario]
  split
  · exact logs_of_history_eq rfl
  · split
    · exact hlook
    · have hstart : (r.checkCancelled w).2.Logs r [] (r.emit (.scenarioStarted s.displayName)
          ((r.checkCancelled w).2.log (.scenarioStarted s.displayName s.limit))) :=
        r.logs_announce _ ⟨rfl, rfl, rfl⟩
      exact (r.logs_tryScenario s _ _ _).after (hlook.trans hstart)

theorem logs_inTurn {α β : Type} {one : α → World σ → β × World σ}
    {remarks : β → List LogLine}
    (hone : ∀ a (w : World σ), w.Logs r (remarks (one a w).1) (one a w).2) (as : List α) :
    ∀ w : World σ, w.Logs r ((inTurn one as w).1.flatMap remarks) (inTurn one as w).2 := by
  induction as with
  | nil => exact fun w => logs_of_history_eq rfl
  | cons a rest ih => exact fun w => (hone a w).trans (ih (one a w).2)

theorem logs_skipFeature (f : Feature) (w : World σ) :
    w.Logs r (FeatureResult.skip f).remarks (w.log (.featureSkipped f.name)) := by
  have hremarks : (FeatureResult.skip f).remarks = [⟨.debug, .featureSkipped f.name⟩] := by
    show [_] ++ (f.scenarios.map ScenarioResult.skip).flatMap ScenarioResult.remarks = _
    rw [flatMap_remarks_skip, List.append_nil]
    rfl
  rw [hremarks]
  exact w.logs_log ⟨rfl, rfl, rfl⟩

theorem logs_runFeature (f : Feature) (w : World σ) :
    w.Logs r (r.runFeature f w).1.remarks (r.runFeature f w).2 := by
  have hlook := r.logs_checkCancelled w
  simp only [runFeature]
  split
  · exact r.logs_skipFeature f w
  · split
    · exact (r.logs_skipFeature f _).after hlook
    · have hstart : (r.checkCancelled w).2.Logs r [] (r.emit (.featureStarted f.name)
          ((r.checkCancelled w).2.log (.featureStarted f.name f.scenarios.length))) :=
        r.logs_announce _ ⟨rfl, rfl, rfl⟩
      rw [runScenarios_eq_inTurn]
      exact (r.logs_inTurn r.logs_runScenario f.scenarios _).after (hlook.trans hstart)

theorem logs_report (result : RunResult) (w : World σ) :
    w.Logs r [] (w.report r.reporter result) := by
  obtain ⟨ts, hts, hleads⟩ := w.leads_report r.reporter result
  have hreported : r.Accounts [.reported result] [] := ⟨rfl, rfl, rfl⟩
  exact hleads.logs (hreported.append (accounts_of_tellings hts))

theorem logs_run (features : List Feature) (w : World σ) :
    w.Logs r (r.run features w).1.remarks (r.run features w).2 := by
  have hfeatures := r.logs_inTurn r.logs_runFeature features { w with cutShort := false }
  rw [← runFeatures_eq_inTurn] at hfeatures
  have hremarks : (r.run features w).1.remarks =
      (r.runFeatures features { w with cutShort := false }).1.flatMap FeatureResult.remarks := by
    simp only [run, RunResult.remarks, RunResult.ofFeatures]
    split
    · next error herror => split at herror <;> cases herror
    · rfl
  rw [hremarks, ← List.append_nil (List.flatMap _ _)]
  exact hfeatures.trans (r.logs_report _ _)

/-- The log of a run, whether or not its features could be loaded. Its lines of six kinds,
each with its level, tell of the events that the runner has sent, one by one and in order,
save the starts of steps that could not be filled. What else is in it is in the tree of
results: a line for each feature that was left out, for each scenario that was run and not
passed, with its tries, and for each that was interrupted. An attempt leaves the line of an
interruption exactly if it was interrupted. -/
theorem runLoaded_log (loaded : Except LoadError (List Feature)) (w : World σ) :
    (∃ es, (r.runLoaded loaded w).2.history = w.history ++ es ∧
      writtenEvents es = r.filledEvents false es ∧
      otherLines es = (r.runLoaded loaded w).1.remarks) ∧
    ∀ (name : String) (steps : List Step) (w' : World σ),
      ∃ es, (r.runSteps name steps w').2.history = w'.history ++ es ∧
        otherLines es = attemptRemarks name (r.runSteps name steps w').1 := by
  constructor
  · have hrun : w.Logs r (r.runLoaded loaded w).1.remarks (r.runLoaded loaded w).2 := by
      cases loaded with
      | ok features => exact r.logs_run features w
      | error error =>
          have hfailed : w.Logs r [⟨.error, .loadFailed error⟩] (w.log (.loadFailed error)) :=
            w.logs_log ⟨rfl, rfl, rfl⟩
          exact hfailed.trans (r.logs_report _ _)
    obtain ⟨es, hes, haccounts⟩ := hrun
    exact ⟨es, hes, haccounts.events, haccounts.others⟩
  · intro name steps w'
    obtain ⟨es, hes, haccounts⟩ := r.logs_runSteps name steps w'
    exact ⟨es, hes, haccounts.others⟩

end Runner

end Stepwise
