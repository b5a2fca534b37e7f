import Stepwise.Config
import Stepwise.Run.Registry

/-!
# Running features

Features, scenarios and steps are run one after another. Whatever happens to a
step ends up in the tree of results; a run always has a result.

A scenario is tried until an attempt passes, is interrupted, or was the last one
allowed. The store and the session go on from attempt to attempt as they are. In
an attempt the first step that fails is the last one run.

Whether the run has been cancelled is looked up at three places: before a
feature and before a scenario that are not marked to be left out, and before a
step of an attempt in which none has failed. What comes after is left out, and
the run as a whole has the error that it was cancelled. Where nobody looks, a
cancellation goes unnoticed: behind the last step of all, and between a step
that fails and the next attempt.
-/

namespace Stepwise

/-- What a run needs beside features and a world. -/
structure Runner (σ : Type) where
  registry : Registry σ
  reporter : Reporter
  config : Config
  environment : Environment
  /-- The runner knows the token by which handlers and observers cancel. -/
  watchesToken : Bool

/-- One attempt at a scenario. -/
structure Attempt where
  steps : List StepResult
  failed : Bool
  /-- A step was left out because the run was cancelled. -/
  interrupted : Bool

namespace Attempt

def success (a : Attempt) : Bool := !a.failed && !a.interrupted

/-- The attempt with a step that passed in front of it. -/
def after (a : Attempt) (result : StepResult) : Attempt := { a with steps := result :: a.steps }

end Attempt

namespace Runner

variable {σ : Type} (r : Runner σ)

/-- The runner without reporters, with the standard configuration. -/
def ofRegistry (registry : Registry σ) : Runner σ :=
  ⟨registry, Reporter.silent, Config.standard, Environment.empty, false⟩

def emit (event : Event) (w : World σ) : World σ := w.send r.reporter .runner event

/-- Looks whether the run has been cancelled, and keeps in mind that it was. -/
def checkCancelled (w : World σ) : Bool × World σ :=
  let cancelled := r.watchesToken && w.cancelled
  (cancelled, { w with cutShort := w.cutShort || cancelled })

/-- Where the placeholders of steps are looked up. -/
def sources (w : World σ) : Sources := ⟨w.context.store, r.environment, r.config.useEnvironment⟩

/-! ## Steps -/

/-- A step that has failed: a record, an event and a result. -/
def failStep (step : BoundStep) (failure : Failure) (time : Option Nat) (w : World σ) :
    StepResult × World σ :=
  let w := w.log (.stepFailed step.text failure.message)
  let w := r.emit (.stepFailed step.text failure.message) w
  (⟨step, .failed failure time⟩, w)

/-- A step that has passed: a record, an event and a result. -/
def passStep (step : BoundStep) (value : Option Value) (time : Nat) (w : World σ) :
    StepResult × World σ :=
  let w := w.log (.stepPassed step.text)
  let w := r.emit (.stepPassed step.text) w
  (⟨step, .passed value time⟩, w)

/-- Calls a handler. -/
def callHandler (handle : Handler σ) (groups : Groups) (step : BoundStep) (w : World σ) :
    Ending (Option Value) × World σ :=
  let w := w.record (.called groups step w.context w.cancelled)
  let (ending, w) := (handle groups step).run r.reporter w
  (ending, w.record (.ended w.context))

/-- Runs a step: fills its placeholders, looks for its definition and calls the
handler. A step whose placeholders cannot be filled is told of by its text as it
was written. -/
def runStep (step : Step) (w : World σ) : StepResult × World σ :=
  let w := w.record (.binding step w.context.store)
  match step.bind (r.sources w) with
  | .error missing =>
    let w := r.emit (.stepStarted step.text) w
    r.failStep step.verbatim (.missingValue missing) none w
  | .ok bound =>
    let w := w.log (.stepStarted bound.text)
    let w := r.emit (.stepStarted bound.text) w
    match r.registry.resolve bound with
    | .error failure => r.failStep bound failure none w
    | .ok (definition, groups) =>
      let begun := w.clock
      let (ending, w) := r.callHandler definition.handle groups bound w
      let time := w.clock - begun
      match ending with
      | .returned value => r.passStep bound value time w
      | .failed failure => r.failStep bound failure (some time) w
      | .crashed text => r.failStep bound (.ofCrash text) (some time) w

/-! ## Scenarios -/

/-- Runs the steps of a scenario that are left. -/
def runSteps (name : String) : List Step → World σ → Attempt × World σ
  | [], w => (⟨[], false, false⟩, w)
  | step :: rest, w =>
    let (cancelled, w) := r.checkCancelled w
    if cancelled then
      (⟨(step :: rest).map StepResult.skip, false, true⟩, w.log (.interrupted name))
    else
      let (result, w) := r.runStep step w
      if result.success then
        let (attempt, w) := runSteps name rest w
        (attempt.after result, w)
      else (⟨result :: rest.map StepResult.skip, true, false⟩, w)

/-- The result of a scenario after its last attempt. -/
def finishScenario (s : Scenario) (attempt : Attempt) (tries time : Nat) (w : World σ) :
    ScenarioResult × World σ :=
  let w := if attempt.success then w else w.log (.scenarioFailed s.displayName tries)
  (⟨s, attempt.steps, attempt.success, false, tries, some time⟩, w)

/-- Announces an attempt and waits before it. -/
def prepareRetry (s : Scenario) (number : Nat) (w : World σ) : World σ :=
  let w := w.log (.retrying s.displayName number s.limit)
  let w := r.emit (.retrying s.displayName number s.limit) w
  if r.config.retryDelay = 0 then w else w.wait r.config.retryDelay.toNat

/-- Tries a scenario, with so many attempts left behind the one that is made
now. -/
def tryScenario (s : Scenario) (begun : Nat) : Nat → World σ → ScenarioResult × World σ
  | left, w =>
    let (attempt, w) := r.runSteps s.displayName s.steps w
    let number := s.limit - left
    if attempt.success || attempt.interrupted then
      finishScenario s attempt number (w.clock - begun) w
    else
      match left with
      | 0 => finishScenario s attempt number (w.clock - begun) w
      | left + 1 => tryScenario s begun left (r.prepareRetry s (number + 1) w)

/-- Runs a scenario. -/
def runScenario (s : Scenario) (w : World σ) : ScenarioResult × World σ :=
  if s.skip then (ScenarioResult.skip s, w)
  else
    let (cancelled, w) := r.checkCancelled w
    if cancelled then (ScenarioResult.skip s, w)
    else
      let w := w.log (.scenarioStarted s.displayName s.limit)
      let w := r.emit (.scenarioStarted s.displayName) w
      r.tryScenario s w.clock (s.limit - 1) w

def runScenarios : List Scenario → World σ → List ScenarioResult × World σ
  | [], w => ([], w)
  | s :: rest, w =>
    let (result, w) := r.runScenario s w
    let (results, w) := runScenarios rest w
    (result :: results, w)

/-! ## Features -/

/-- Runs a feature. -/
def runFeature (f : Feature) (w : World σ) : FeatureResult × World σ :=
  let skipped (w : World σ) := (FeatureResult.skip f, w.log (.featureSkipped f.name))
  if f.skip then skipped w
  else
    let (cancelled, w) := r.checkCancelled w
    if cancelled then skipped w
    else
      let w := w.log (.featureStarted f.name f.scenarios.length)
      let w := r.emit (.featureStarted f.name) w
      let begun := w.clock
      let (results, w) := r.runScenarios f.scenarios w
      (FeatureResult.ofScenarios f results (w.clock - begun), w)

def runFeatures : List Feature → World σ → List FeatureResult × World σ
  | [], w => ([], w)
  | f :: rest, w =>
    let (result, w) := r.runFeature f w
    let (results, w) := runFeatures rest w
    (result :: results, w)

/-! ## Runs -/

/-- Runs features, and reports the result once. -/
def run (features : List Feature) (w : World σ) : RunResult × World σ :=
  let begun := w.clock
  let (results, w) := r.runFeatures features { w with cutShort := false }
  let error := if w.cutShort then some RunError.cancelled else none
  let result := RunResult.ofFeatures results (some (w.clock - begun)) error
  (result, w.report r.reporter result)

/-- Runs what was loaded. If nothing was, the result says why. -/
def runLoaded (loaded : Except LoadError (List Feature)) (w : World σ) :
    RunResult × World σ :=
  match loaded with
  | .ok features => r.run features w
  | .error error =>
    let w := w.log (.loadFailed error)
    let result := RunResult.ofLoadError error
    (result, w.report r.reporter result)

/-- Runs the features of the files that a pattern stands for. -/
def runMatching (files : FileTree) (pattern : String) (w : World σ) : RunResult × World σ :=
  r.runLoaded (Feature.loadMatching files pattern) w

end Runner

end Stepwise
