import Stepwise.Yaml.Node
import Stepwise.Json.Printer

/-!
# Encoding

The document in which a structured value is written down. Strings stand in
double quotes, so that none of them can be taken for a number, a truth value or
nothing. Everything else is plain, in the words and digits of JSON, which mean
the same here. There are no aliases and no tags.
-/

namespace Stepwise.Yaml

namespace Node

/-- A scalar without quotes and without a tag. -/
def plain (text : String) : Node := .scalar none .plain text

/-- A string that is itself, whatever it looks like. -/
def quoted (text : String) : Node := .scalar none .doubleQuoted text

mutual

/-- The node of a structured value. -/
def ofJson : Json → Node
  | .null => plain "null"
  | .bool true => plain "true"
  | .bool false => plain "false"
  | .number n => plain n.text
  | .string s => quoted s
  | .array items => .sequence none (ofItems items)
  | .object fields => .mapping none (ofFields fields)

def ofItems : List Json → List Node
  | [] => []
  | x :: rest => ofJson x :: ofItems rest

def ofFields : List (String × Json) → List (Node × Node)
  | [] => []
  | (name, x) :: rest => (quoted name, ofJson x) :: ofFields rest

end

theorem ofItems_eq_map (items : List Json) : ofItems items = items.map ofJson := by
  induction items with
  | nil => rfl
  | cons x rest ih => simp [ofItems, ih]

theorem ofFields_eq_map (fields : List (String × Json)) :
    ofFields fields = fields.map fun f => (quoted f.1, ofJson f.2) := by
  induction fields with
  | nil => rfl
  | cons f rest ih => simp [ofFields, ih]

mutual

/-- The number of events that a node is written with. -/
def eventCount : Node → Nat
  | .nothing | .cut => 0
  | .scalar .. | .alias _ => 1
  | .sequence _ items => 2 + eventCounts items
  | .mapping _ entries => 2 + pairEventCounts entries

def eventCounts : List Node → Nat
  | [] => 0
  | x :: rest => eventCount x + eventCounts rest

def pairEventCounts : List (Node × Node) → Nat
  | [] => 0
  | (k, v) :: rest => eventCount k + eventCount v + pairEventCounts rest

end

end Node

/-- The document of a structured value. -/
def Document.ofJson (j : Json) : Document :=
  let root := Node.ofJson j
  ⟨root, [], root.eventCount, true⟩

end Stepwise.Yaml
