import Stepwise.Run.World

/-!
# Handling a step

What the handler of a step does is a tree: at each node it asks for one thing
that the run can do for it, and goes on with the answer; at a leaf it ends, with
a value, a failure or in disorder. The tree may be infinitely wide, since it may
go on in any way with any context, but every way through it ends. What it does
is therefore all there is to a handler, and what handlers must not do can be
said of trees.
-/

namespace Stepwise

/-- What a handler does until it ends with an `α`. -/
inductive Handling (σ α : Type) where
  | done (value : α)
  | fail (failure : Failure)
  /-- Gives up in disorder, and may leave a text. -/
  | crash (text : Option String)
  /-- Looks at the store and the session. -/
  | look (next : Context σ → Handling σ α)
  /-- Changes the store and the session. -/
  | replace (context : Context σ) (next : Handling σ α)
  | send (event : Event) (next : Handling σ α)
  | cancel (next : Handling σ α)
  /-- Looks whether the run has been cancelled. -/
  | isCancelled (next : Bool → Handling σ α)
  | wait (ms : Nat) (next : Handling σ α)

/-- How a handler ends. -/
inductive Ending (α : Type) where
  | returned (value : α)
  | failed (failure : Failure)
  | crashed (text : Option String)
deriving Repr

namespace Handling

variable {σ α β : Type}

/-- Does one thing after the other; the second is not begun if the first
fails. -/
def andThen : Handling σ α → (α → Handling σ β) → Handling σ β
  | .done value, k => k value
  | .fail failure, _ => .fail failure
  | .crash text, _ => .crash text
  | .look next, k => .look fun c => (next c).andThen k
  | .replace context next, k => .replace context (next.andThen k)
  | .send event next, k => .send event (next.andThen k)
  | .cancel next, k => .cancel (next.andThen k)
  | .isCancelled next, k => .isCancelled fun b => (next b).andThen k
  | .wait ms next, k => .wait ms (next.andThen k)

instance : Monad (Handling σ) where
  pure := .done
  bind := andThen

/-- The store and the session. -/
def context : Handling σ (Context σ) := .look .done

/-- Changes the store and the session. -/
def modify (f : Context σ → Context σ) : Handling σ Unit :=
  .look fun c => .replace (f c) (.done ())

def tell (event : Event) : Handling σ Unit := .send event (.done ())

def stop : Handling σ Unit := .cancel (.done ())

def pause (ms : Nat) : Handling σ Unit := .wait ms (.done ())

/-- The result of something that may fail. -/
def ofExcept : Except Failure α → Handling σ α
  | .ok value => .done value
  | .error failure => .fail failure

/-- What happens in the world. The events go to a reporter. -/
def run (reporter : Reporter) : Handling σ α → World σ → Ending α × World σ
  | .done value, w => (.returned value, w)
  | .fail failure, w => (.failed failure, w)
  | .crash text, w => (.crashed text, w)
  | .look next, w => (next w.context).run reporter w
  | .replace context next, w => next.run reporter { w with context }
  | .send event next, w => next.run reporter (w.send reporter .handler event)
  | .cancel next, w => next.run reporter w.cancel
  | .isCancelled next, w => (next w.cancelled).run reporter w
  | .wait ms next, w => next.run reporter (w.wait ms)

end Handling

/-- The handler of a step: what it does when it is given the groups and the
step. -/
abbrev Handler (σ : Type) := Groups → BoundStep → Handling σ (Option Value)

end Stepwise
