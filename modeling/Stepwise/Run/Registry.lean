import Stepwise.Regex.Search
import Stepwise.Run.Handling

/-!
# The registry of step definitions

A step definition says which texts it takes, what its groups are, and how a step
is handled. The registry is the list of definitions in the order in which they
were added. For a text the first definition counts that takes it: what is added
later never changes what a text resolves to, if it resolves to anything.

Most definitions are made from a pattern, and take the texts in which the
pattern is found. But whether a definition takes a text and whether it finds
groups in it are two questions, and a definition may take a text without groups.
-/

namespace Stepwise

structure StepDefinition (σ : Type) where
  takes : String → Bool
  groups? : String → Option Groups
  handle : Handler σ

/-- A pattern that cannot be compiled. -/
structure PatternFailure where
  pattern : String
deriving Repr, DecidableEq

def PatternFailure.message (f : PatternFailure) : String :=
  s!"Step 패턴 컴파일 실패: {f.pattern}"

namespace StepDefinition

variable {σ : Type}

/-- The groups where a pattern is first found in a text. -/
def findGroups (regex : Regex) (text : String) : Option Groups :=
  (regex.captures text).map fun captures => ⟨captures⟩

/-- The definition that takes the texts in which a pattern is found. -/
def ofPattern (pattern : String) (handle : Handler σ) :
    Except PatternFailure (StepDefinition σ) :=
  match Regex.compile? pattern with
  | none => .error ⟨pattern⟩
  | some regex =>
    .ok ⟨fun text => (findGroups regex text).isSome, findGroups regex, handle⟩

end StepDefinition

structure Registry (σ : Type) where
  definitions : List (StepDefinition σ)

namespace Registry

variable {σ : Type}

def empty : Registry σ := ⟨[]⟩

def size (r : Registry σ) : Nat := r.definitions.length

def isEmpty (r : Registry σ) : Bool := r.definitions.isEmpty

/-- Adds a definition behind all others. -/
def add (r : Registry σ) (d : StepDefinition σ) : Registry σ := ⟨r.definitions ++ [d]⟩

/-- Adds several definitions in their order. -/
def addAll (r : Registry σ) (ds : List (StepDefinition σ)) : Registry σ := ⟨r.definitions ++ ds⟩

/-- Adds the definition of a pattern, if the pattern can be compiled. -/
def addPattern (r : Registry σ) (pattern : String) (handle : Handler σ) :
    Except PatternFailure (Registry σ) :=
  match StepDefinition.ofPattern pattern handle with
  | .ok d => .ok (r.add d)
  | .error e => .error e

/-- The first definition that takes a step, with its groups, which are empty if
it has none. -/
def resolve (r : Registry σ) (step : BoundStep) : Except Failure (StepDefinition σ × Groups) :=
  match r.definitions.find? fun d => d.takes step.text with
  | some d => .ok (d, (d.groups? step.text).getD Groups.empty)
  | none => .error (.undefinedStep step)

end Registry

end Stepwise
