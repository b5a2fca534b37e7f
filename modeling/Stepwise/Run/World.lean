import Stepwise.Run.Groups
import Stepwise.Run.Log
import Stepwise.Run.Reporter

/-!
# The world of a run

All that a run can see and change: the store and the session that the handlers
share, the token by which it is cancelled, the clock, and the history of what has
happened. The history is kept for those who look at a run from outside: what is
said of the order of events, calls, log records and waits is said of a list.
Nothing in a run looks back at it, but for an observer, which knows what it has
been told.

The clock stands still unless somebody waits.
-/

namespace Stepwise

/-- What the steps of a run share. The session is of any type. -/
structure Context (σ : Type) where
  store : Store
  session : σ

/-- Who sends an event. -/
inductive Sender where
  | runner
  | handler
deriving Repr, DecidableEq

/-- Something that has happened. -/
inductive Entry (σ : Type) where
  /-- The placeholders of a step are going to be filled. -/
  | binding (step : Step) (store : Store)
  /-- A handler is called. -/
  | called (groups : Groups) (step : BoundStep) (context : Context σ) (cancelled : Bool)
  /-- The handler called last has ended. -/
  | ended (context : Context σ)
  /-- An event is going to be told to all observers. -/
  | sent (sender : Sender) (event : Event)
  /-- A result is going to be told to all observers. -/
  | reported (result : RunResult)
  /-- An observer that listens is told. -/
  | told (observer : Nat) (clock : Nat) (notice : Notice)
  | logged (record : LogRecord)
  /-- So many milliseconds have passed. -/
  | waited (ms : Nat)
  /-- Somebody has cancelled the run, for the first time or once more. -/
  | cancelled

structure World (σ : Type) where
  context : Context σ
  /-- The run has been cancelled; it stays so. -/
  cancelled : Bool
  /-- The run in progress has found that it was cancelled, with something left to
  do. -/
  cutShort : Bool
  /-- Milliseconds. -/
  clock : Nat
  /-- What has happened, the latest first. -/
  past : List (Entry σ)

namespace World

variable {σ : Type}

def ofContext (context : Context σ) : World σ := ⟨context, false, false, 0, []⟩

/-- What has happened, in order. -/
def history (w : World σ) : List (Entry σ) := w.past.reverse

def record (w : World σ) (e : Entry σ) : World σ := { w with past := e :: w.past }

theorem history_record (w : World σ) (e : Entry σ) :
    (w.record e).history = w.history ++ [e] := by
  simp [history, record]

def log (w : World σ) (r : LogRecord) : World σ := w.record (.logged r)

def cancel (w : World σ) : World σ := { w with cancelled := true }.record .cancelled

/-- Lets time pass. -/
def wait (w : World σ) (ms : Nat) : World σ := { w with clock := w.clock + ms }.record (.waited ms)

/-- What an observer has been told, in order. -/
def notices (w : World σ) (observer : Nat) : List Notice :=
  w.history.filterMap fun e =>
    match e with
    | .told i _ notice => if i = observer then some notice else none
    | _ => none

/-- What a logger writes of a notice. -/
def logNotice (w : World σ) : Notice → World σ
  | .progress event => w.log (.progress event)
  | .report result =>
    let w := w.log (.finished result.success result.summary)
    match result.error with
    | some error => w.log (.aborted error)
    | none => w

/-- Tells one observer. -/
def tell (w : World σ) (i : Nat) (observer : Observer) (notice : Notice) : World σ :=
  match observer with
  | .silent => w
  | .recorder cancels =>
    let w := w.record (.told i w.clock notice)
    if cancels (w.notices i) then w.cancel else w
  | .channel isOpen => if isOpen then w.record (.told i w.clock notice) else w
  | .logger => w.logNotice notice

/-- Tells observers one after another, numbered from `i`. -/
def tellAll (w : World σ) (notice : Notice) : Nat → List Observer → World σ
  | _, [] => w
  | i, observer :: rest => (w.tell i observer notice).tellAll notice (i + 1) rest

/-- Sends an event to all observers. -/
def send (w : World σ) (reporter : Reporter) (sender : Sender) (event : Event) : World σ :=
  (w.record (.sent sender event)).tellAll (.progress event) 0 reporter.observers

/-- Reports a result to all observers. -/
def report (w : World σ) (reporter : Reporter) (result : RunResult) : World σ :=
  (w.record (.reported result)).tellAll (.report result) 0 reporter.observers

end World

end Stepwise
