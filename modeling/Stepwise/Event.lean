/-!
# Progress events

What is told to reporters while a run goes on. Every event has a kind and, save
some that handlers send, a piece of information; together they are its text.
-/

namespace Stepwise

inductive Event where
  | featureStarted (name : String)
  | scenarioStarted (name : String)
  /-- The text is the one that was bound, or the written one if it could not
  be. -/
  | stepStarted (text : String)
  | stepPassed (text : String)
  | stepFailed (text : String) (message : String)
  /-- Told before the attempt of this number begins. -/
  | retrying (scenario : String) (attempt : Nat) (maxTries : Nat)
  /-- Whatever a handler has to say. -/
  | note (kind : String) (info : Option String)
deriving Repr, DecidableEq, Inhabited

namespace Event

def kind : Event → String
  | .featureStarted _ => "feature"
  | .scenarioStarted _ => "scenario"
  | .stepStarted _ => "step"
  | .stepPassed _ => "step done"
  | .stepFailed .. => "step error"
  | .retrying .. => "retry"
  | .note kind _ => kind

def info : Event → Option String
  | .featureStarted name | .scenarioStarted name => some name
  | .stepStarted text | .stepPassed text => some text
  | .stepFailed text message => some s!"{text}: {message}"
  | .retrying scenario attempt maxTries => some s!"{scenario} ({attempt}/{maxTries})"
  | .note _ info => info

def display (e : Event) : String :=
  match e.info with
  | some info => s!"{e.kind} {info}"
  | none => e.kind

end Event

end Stepwise
