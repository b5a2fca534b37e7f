import Stepwise.Feature.Basic
import Stepwise.Yaml.Decode
import Stepwise.Yaml.Encode

/-!
# Features in documents

The form in which a feature is written down: a record with the fields `name`,
`tags`, `skip` and `scenarios`, in which all but the name may be left out. A step
is a text, or a record with a text and an argument. Fields of other names are
passed over, and a field that stands twice is refused.

Two things are looked after when a feature is read, so that all that is loaded
has them: a step has a text that can be seen, and a scenario is tried once at
least.

`Feature.toJson` writes the form down in full, and `Feature.toDocument` is the
document with it. Reading that gives the feature back, if it has these two
things.
-/

namespace Stepwise

open Yaml (Node Document Decode DecodeError Content)

/-- What may be wrong with a step in a document of the right form. -/
inductive StepFault where
  /-- The text is blank. -/
  | blank
deriving Repr, DecidableEq

def StepFault.message : StepFault → String
  | .blank => "Step 문장이 비어 있습니다."

/-! ## Reading -/

namespace Step

/-- The fields of a step that have been read. -/
structure Fields where
  text : Option String
  argument : Option (Option String)

/-- Reads a field of a step; the two known ones may also be told by number. -/
def Fields.read (f : Fields) (key value : Content) : Option Fields :=
  match key with
  | .text "text" | .natural 0 =>
    match f.text, value with
    | none, .text s => some { f with text := some s }
    | _, _ => none
  | .text "argument" | .natural 1 =>
    match f.argument, value with
    | none, .text s => some { f with argument := some (some s) }
    | none, .null => some { f with argument := some none }
    | _, _ => none
  | .text _ | .natural _ => some f
  | _ => none

/-- A step is a text or a record. -/
def ofContent : Content → Option Step
  | .text s => some (ofText s)
  | .mapping entries => do
    let f ← entries.foldlM (fun f e => f.read e.1 e.2) (⟨none, none⟩ : Fields)
    return ⟨← f.text, f.argument.getD none⟩
  | _ => none

/-- Collections in a step may be nested no deeper than this. -/
def depthLimit : Nat := 124

/-- Reads a step, which must have a text that can be seen. -/
def decode (d : Document) (n : Node) : Decode StepFault Step := do
  let step ← Decode.ofOption (ofContent (← Content.ofNode d depthLimit n))
  if Text.isBlank step.text then Decode.reject .blank else return step

end Step

def Tags.decode (d : Document) (n : Node) : Decode StepFault Tags := do
  return Tags.ofList (← Decode.list Decode.string d n)

def ScenarioKind.decode (d : Document) (n : Node) : Decode StepFault ScenarioKind := do
  let name ← Decode.variant d n
  if name == ScenarioKind.scenario.word then return .scenario
  else if name == ScenarioKind.outline.word then return .outline
  else Decode.malformed

namespace Scenario

/-- The fields of a scenario that have been read. -/
structure Fields where
  kind : Option ScenarioKind
  name : Option (Option String)
  tags : Option Tags
  skip : Option Bool
  maxTries : Option Nat
  steps : Option (List Step)

def Fields.empty : Fields := ⟨none, none, none, none, none, none⟩

open Yaml.Decode in
def Fields.read (d : Document) (f : Fields) (key : String) (n : Node) :
    Decode StepFault Fields := do
  match key with
  | "type" => return { f with kind := ← once f.kind (ScenarioKind.decode d n) }
  | "name" => return { f with name := ← once f.name (optional string d n) }
  | "tags" => return { f with tags := ← once f.tags (Tags.decode d n) }
  | "skip" => return { f with skip := ← once f.skip (bool d n) }
  | "max_tries" => return { f with maxTries := ← once f.maxTries (natural (UInt32.size - 1) d n) }
  | "steps" => return { f with steps := ← once f.steps (list Step.decode d n) }
  | _ =>
    ignore n
    return f

/-- The scenario with these fields. No tries at all count as one. -/
def ofFields (f : Fields) : Scenario where
  kind := f.kind.getD .scenario
  name := f.name.getD none
  tags := f.tags.getD Tags.empty
  skip := f.skip.getD false
  maxTries := UInt32.ofNat (max 1 (f.maxTries.getD 1))
  steps := f.steps.getD []

def decode (d : Document) (n : Node) : Decode StepFault Scenario := do
  return ofFields (← Decode.record (Fields.read d) Fields.empty d n)

end Scenario

namespace Feature

/-- The fields of a feature that have been read. -/
structure Fields where
  name : Option String
  tags : Option Tags
  skip : Option Bool
  scenarios : Option (List Scenario)

def Fields.empty : Fields := ⟨none, none, none, none⟩

open Yaml.Decode in
def Fields.read (d : Document) (f : Fields) (key : String) (n : Node) :
    Decode StepFault Fields := do
  match key with
  | "name" => return { f with name := ← once f.name (string d n) }
  | "tags" => return { f with tags := ← once f.tags (Tags.decode d n) }
  | "skip" => return { f with skip := ← once f.skip (bool d n) }
  | "scenarios" => return { f with scenarios := ← once f.scenarios (list Scenario.decode d n) }
  | _ =>
    ignore n
    return f

/-- The feature with these fields, of which the name must be there. -/
def ofFields? (f : Fields) : Option Feature := do
  return {
    name := ← f.name
    tags := f.tags.getD Tags.empty
    skip := f.skip.getD false
    scenarios := f.scenarios.getD [] }

def decode (d : Document) (n : Node) : Decode StepFault Feature := do
  Decode.ofOption (ofFields? (← Decode.record (Fields.read d) Fields.empty d n))

/-- The feature that a document describes. -/
def ofDocument (d : Document) : Except (DecodeError StepFault) Feature := d.decode decode

end Feature

/-! ## Writing -/

def Step.toJson (s : Step) : Json :=
  Json.ofFields [("text", .string s.text), ("argument", Json.ofText? s.argument)]

def Tags.toJson (t : Tags) : Json := .array (t.names.map .string)

def Scenario.toJson (s : Scenario) : Json :=
  Json.ofFields [
    ("type", .string s.kind.word),
    ("name", Json.ofText? s.name),
    ("tags", s.tags.toJson),
    ("skip", .bool s.skip),
    ("max_tries", Json.ofNat s.maxTries.toNat),
    ("steps", .array (s.steps.map Step.toJson))]

/-- The form of a feature, with all its fields. -/
def Feature.toJson (f : Feature) : Json :=
  Json.ofFields [
    ("name", .string f.name),
    ("tags", f.tags.toJson),
    ("skip", .bool f.skip),
    ("scenarios", .array (f.scenarios.map Scenario.toJson))]

/-- The document in which a feature is written down. -/
def Feature.toDocument (f : Feature) : Document := .ofJson f.toJson

end Stepwise
