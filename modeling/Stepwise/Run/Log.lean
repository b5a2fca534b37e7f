import Stepwise.Event
import Stepwise.Run.Summary
import Stepwise.Text.Quoted

/-!
# The log of a run

Records with a level, fields and a message. Most are written by the run itself
beside the events that it sends; the last three are written by the reporter that
turns events into records.
-/

namespace Stepwise

inductive LogLevel where
  | debug
  | info
  | warn
  | error
deriving Repr, DecidableEq

def LogLevel.word : LogLevel → String
  | .debug => "DEBUG"
  | .info => "INFO"
  | .warn => "WARN"
  | .error => "ERROR"

inductive LogRecord where
  | featureStarted (name : String) (scenarios : Nat)
  | featureSkipped (name : String)
  | scenarioStarted (name : String) (maxTries : Nat)
  | scenarioFailed (name : String) (tries : Nat)
  | retrying (name : String) (attempt : Nat) (maxTries : Nat)
  /-- The steps that are left are left out, because the run was cancelled. -/
  | interrupted (name : String)
  | stepStarted (text : String)
  | stepPassed (text : String)
  | stepFailed (text : String) (message : String)
  | loadFailed (error : LoadError)
  | progress (event : Event)
  | finished (success : Bool) (summary : Summary)
  | aborted (error : RunError)
deriving Repr, DecidableEq

namespace LogRecord

/-- The filter for records when none is asked for. -/
def defaultFilter : String := "feature_runner=info,warn"

/-- What is written about an event depends on its kind alone. -/
def eventLevel : Event → LogLevel
  | .stepFailed .. | .retrying .. => .warn
  | _ => .info

def level : LogRecord → LogLevel
  | .featureSkipped _ | .stepStarted _ | .stepPassed _ => .debug
  | .featureStarted .. | .scenarioStarted .. | .finished .. => .info
  | .scenarioFailed .. | .retrying .. | .interrupted _ | .stepFailed .. => .warn
  | .loadFailed _ | .aborted _ => .error
  | .progress event => eventLevel event

def message : LogRecord → String
  | .featureStarted .. => "Feature 시작"
  | .featureSkipped _ => "Feature 건너뜀"
  | .scenarioStarted .. => "Scenario 시작"
  | .scenarioFailed .. => "Scenario 실패"
  | .retrying .. => "Scenario 재시도"
  | .interrupted _ => "실행 중단 요청으로 남은 Step을 건너뜀"
  | .stepStarted _ => "Step 시작"
  | .stepPassed _ => "Step 종료"
  | .stepFailed .. => "Step 실패"
  | .loadFailed _ => "Feature 로드 실패"
  | .progress _ => "progress"
  | .finished .. => "feature run finished"
  | .aborted _ => "feature run aborted"

def tallyFields (unit : String) (t : Tally) : List (String × Json) :=
  [(unit ++ "_passed", Json.ofNat t.passed), (unit ++ "_failed", Json.ofNat t.failed),
    (unit ++ "_skipped", Json.ofNat t.skipped)]

/-- The fields beside the message. -/
def fields : LogRecord → List (String × Json)
  | .featureStarted name scenarios =>
    [("feature", .string name), ("scenarios", Json.ofNat scenarios)]
  | .featureSkipped name => [("feature", .string name)]
  | .scenarioStarted name maxTries =>
    [("scenario", .string name), ("max_tries", Json.ofNat maxTries)]
  | .scenarioFailed name tries => [("scenario", .string name), ("tries", Json.ofNat tries)]
  | .retrying name attempt maxTries =>
    [("scenario", .string name), ("attempt", Json.ofNat attempt),
      ("max_tries", Json.ofNat maxTries)]
  | .interrupted name => [("scenario", .string name)]
  | .stepStarted text => [("step", .string text), ("status", .string Status.running.word)]
  | .stepPassed text => [("step", .string text), ("status", .string Status.passed.word)]
  | .stepFailed text message => [("step", .string text), ("error", .string message)]
  | .loadFailed error => [("error", .string error.message)]
  | .progress event =>
    [("kind", .string event.kind), ("info", .string (Text.quoted? event.info))]
  | .finished success summary =>
    ("success", .bool success) ::
      (tallyFields "features" summary.features ++ tallyFields "scenarios" summary.scenarios)
  | .aborted error => [("error", .string error.message)]

end LogRecord

end Stepwise
