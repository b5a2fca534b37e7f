import Stepwise.Feature.Load
import Stepwise.Failure
import Stepwise.Status

/-!
# Results

What a run leaves behind: a tree of the shape of the features, with a result for
every step, scenario and feature, those that were left out among them. A unit
that was left out carries all that is below it, left out as well. Only the last
attempt of a scenario is kept.

Times are spans of the clock in milliseconds. A unit has one if it was run; a
step has one if its handler was called.
-/

namespace Stepwise

/-- How a step ended. -/
inductive StepOutcome where
  | skipped
  | passed (value : Option Value) (time : Nat)
  | failed (failure : Failure) (time : Option Nat)
deriving Repr, Inhabited

structure StepResult where
  step : BoundStep
  outcome : StepOutcome
deriving Repr, Inhabited

namespace StepResult

/-- A step that was left out. Its placeholders are not filled. -/
def skip (step : Step) : StepResult := ⟨step.verbatim, .skipped⟩

def success (r : StepResult) : Bool :=
  match r.outcome with
  | .passed .. => true
  | _ => false

def skipped (r : StepResult) : Bool :=
  match r.outcome with
  | .skipped => true
  | _ => false

def failure? (r : StepResult) : Option Failure :=
  match r.outcome with
  | .failed failure _ => some failure
  | _ => none

/-- What the handler returned. -/
def value? (r : StepResult) : Option Value :=
  match r.outcome with
  | .passed value _ => value
  | _ => none

def time? (r : StepResult) : Option Nat :=
  match r.outcome with
  | .passed _ time => some time
  | .failed _ time => time
  | .skipped => none

def status (r : StepResult) : Status := .settled r.success r.skipped

end StepResult

/-- A scenario with the results of its last attempt. -/
structure ScenarioResult where
  scenario : Scenario
  steps : List StepResult
  success : Bool
  skipped : Bool
  /-- The number of attempts. -/
  tries : Nat
  /-- The time of all attempts together. -/
  time : Option Nat
deriving Repr, Inhabited

namespace ScenarioResult

/-- A scenario that was left out. -/
def skip (s : Scenario) : ScenarioResult := ⟨s, s.steps.map StepResult.skip, true, true, 1, none⟩

def status (r : ScenarioResult) : Status := .settled r.success r.skipped

end ScenarioResult

structure FeatureResult where
  feature : Feature
  scenarios : List ScenarioResult
  success : Bool
  skipped : Bool
  time : Option Nat
deriving Repr, Inhabited

namespace FeatureResult

/-- A feature that was left out. -/
def skip (f : Feature) : FeatureResult :=
  ⟨f, f.scenarios.map ScenarioResult.skip, true, true, none⟩

/-- A feature that was run. It has passed if all its scenarios have that were not
left out. -/
def ofScenarios (f : Feature) (scenarios : List ScenarioResult) (time : Nat) : FeatureResult :=
  let success := (scenarios.filter fun s => !s.skipped).all fun s => s.success
  ⟨f, scenarios, success, false, some time⟩

def status (r : FeatureResult) : Status := .settled r.success r.skipped

end FeatureResult

/-- What may be wrong with a run as a whole. -/
inductive RunError where
  | load (error : LoadError)
  /-- Something was left out because the run was cancelled. -/
  | cancelled
deriving Repr, DecidableEq

def RunError.message : RunError → String
  | .load error => s!"Feature 로드 실패: {error.message}"
  | .cancelled => "사용자에 의해 실행이 중단되었습니다."

structure RunResult where
  features : List FeatureResult
  success : Bool
  time : Option Nat
  error : Option RunError
deriving Repr, Inhabited

namespace RunResult

/-- A run has passed if nothing was wrong with it as a whole and all features
have passed. -/
def ofFeatures (features : List FeatureResult) (time : Option Nat) (error : Option RunError) :
    RunResult :=
  ⟨features, error.isNone && features.all fun f => f.success, time, error⟩

/-- A run for which nothing could be loaded. -/
def ofLoadError (error : LoadError) : RunResult := ofFeatures [] none (some (.load error))

end RunResult

end Stepwise
