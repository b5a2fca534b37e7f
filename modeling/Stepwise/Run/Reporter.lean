import Stepwise.Event
import Stepwise.Run.Result

/-!
# Reporters

Who is told of a run while it goes on and when it ends. A reporter is one
observer or several reporters one after another; since each is told in its turn
before anything else happens, several reporters within several are as good as
one list of observers (`Reporter.observers`).

What an observer does is its own affair, save for one thing: it may cancel the
run. Whether it does depends on all that it has been told so far.
-/

namespace Stepwise

/-- What observers are told. -/
inductive Notice where
  | progress (event : Event)
  | report (result : RunResult)
deriving Repr, Inhabited

/-- The event, if there is one. -/
def Notice.event? : Notice → Option Event
  | .progress event => some event
  | .report _ => none

inductive Observer where
  /-- Takes no notice. -/
  | silent
  /-- Keeps what it is told, and cancels the run when what it has been told, the
  latest included, is of a kind. -/
  | recorder (cancels : List Notice → Bool)
  /-- Passes on what it is told, as long as somebody listens. -/
  | channel (isOpen : Bool)
  /-- Writes what it is told to the log. -/
  | logger

inductive Reporter where
  | one (observer : Observer)
  | all (reporters : List Reporter)

namespace Reporter

/-- The reporter that nobody listens to. -/
def silent : Reporter := .one .silent

mutual

/-- The observers in the order in which they are told. -/
def observers : Reporter → List Observer
  | .one observer => [observer]
  | .all reporters => observersOf reporters

def observersOf : List Reporter → List Observer
  | [] => []
  | r :: rest => observers r ++ observersOf rest

end

/-- The number of reporters in a reporter of several. -/
def size : Reporter → Nat
  | .one _ => 1
  | .all reporters => reporters.length

end Reporter

end Stepwise
