import Stepwise.Feature.Tags
import Stepwise.Template

/-!
# Features, scenarios and steps

A feature is a list of scenarios, a scenario a list of steps. A step is a line
of text with an argument, perhaps; both may hold placeholders, which are filled
anew for every attempt (`Step.bind`). A scenario is the unit that is tried
again.
-/

namespace Stepwise

/-- A step as it was written. -/
structure Step where
  text : String
  argument : Option String
deriving Repr, DecidableEq, Inhabited

/-- A step whose placeholders have been filled, with the step it came from. -/
structure BoundStep where
  step : Step
  text : String
  argument : Option String
deriving Repr, DecidableEq, Inhabited

namespace Step

/-- A step without an argument. -/
def ofText (text : String) : Step := ⟨text, none⟩

/-- The step as it stands, with its placeholders in it. -/
def verbatim (s : Step) : BoundStep := ⟨s, s.text, s.argument⟩

/-- Fills the text, and then the argument. -/
def bind (sources : Sources) (s : Step) : Except MissingValue BoundStep :=
  match sources.fill s.text with
  | .error missing => .error missing
  | .ok text =>
    match s.argument with
    | none => .ok ⟨s, text, none⟩
    | some argument =>
      match sources.fill argument with
      | .error missing => .error missing
      | .ok argument => .ok ⟨s, text, some argument⟩

end Step

/-- How a scenario was written. -/
inductive ScenarioKind where
  | scenario
  /-- One row of a table of examples. -/
  | outline
deriving Repr, DecidableEq, Inhabited

/-- The heading shown for a scenario of this kind. -/
def ScenarioKind.label : ScenarioKind → String
  | .scenario => "Scenario"
  | .outline => "Scenario Outline"

/-- The word for a kind in a document. -/
def ScenarioKind.word : ScenarioKind → String
  | .scenario => "scenario"
  | .outline => "outline"

/-- Steps that are run in order and tried again together. -/
structure Scenario where
  kind : ScenarioKind
  name : Option String
  tags : Tags
  /-- Marked to be left out. -/
  skip : Bool
  /-- How often it is tried at most; zero counts as one. -/
  maxTries : UInt32
  steps : List Step
deriving Repr, DecidableEq, Inhabited

namespace Scenario

/-- A scenario with a name that is tried once. -/
def named (name : String) (steps : List Step) : Scenario :=
  ⟨.scenario, some name, Tags.empty, false, 1, steps⟩

/-- Sets the number of tries, which is one at least. -/
def withMaxTries (s : Scenario) (n : UInt32) : Scenario :=
  { s with maxTries := max n 1 }

/-- The name under which the scenario is reported. -/
def displayName (s : Scenario) : String := s.name.getD "<unnamed>"

/-- How often the scenario is tried at most. -/
def limit (s : Scenario) : Nat := max s.maxTries.toNat 1

end Scenario

/-- Scenarios with a name and tags in common. -/
structure Feature where
  name : String
  tags : Tags
  /-- Marked to be left out, with all its scenarios. -/
  skip : Bool
  scenarios : List Scenario
deriving Repr, DecidableEq, Inhabited

namespace Feature

def hasTag (f : Feature) (name : String) : Bool := f.tags.contains name

end Feature

end Stepwise
