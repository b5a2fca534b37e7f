import Stepwise.Json.Printer

/-!
# Values

What steps hand to one another: a text, a structured value, or a list of
values. A value has one text, the one a placeholder is replaced by: texts stand
for themselves, a structured string loses its quotes, other structured values
are written compactly, and a list is its items with commas between them. Lists
may nest, and the text does not show how: it is the leaves joined by commas
(`Value.leaves`).
-/

namespace Stepwise

inductive Value where
  | text (s : String)
  | json (j : Json)
  | list (items : List Value)
deriving Repr, Inhabited

namespace Value

def ofInt (n : Int) : Value := .json (Json.ofInt n)

def ofBool (b : Bool) : Value := .json (.bool b)

/-- The text of a value that is a text or a structured string. -/
def asText : Value → Option String
  | .text s => some s
  | .json (.string s) => some s
  | _ => none

/-- The text of a structured value: a string without its quotes, all else in
compact form. -/
def jsonText : Json → String
  | .string s => s
  | j => j.text

mutual

/-- The text a placeholder is replaced by. -/
def display : Value → String
  | .text s => s
  | .json j => jsonText j
  | .list items => ",".intercalate (displays items)

/-- The texts of the items. -/
def displays : List Value → List String
  | [] => []
  | x :: rest => display x :: displays rest

end

mutual

/-- The texts at the ends of the branches. A list without items still has one,
which is empty. -/
def leaves : Value → List String
  | .text s => [s]
  | .json j => [jsonText j]
  | .list [] => [""]
  | .list (x :: rest) => leaves x ++ leavesItems rest

def leavesItems : List Value → List String
  | [] => []
  | x :: rest => leaves x ++ leavesItems rest

end

theorem displays_eq_map (items : List Value) : displays items = items.map display := by
  induction items with
  | nil => rfl
  | cons x rest ih => rw [displays, ih, List.map_cons]

theorem leavesItems_eq_flatMap (items : List Value) :
    leavesItems items = items.flatMap leaves := by
  induction items with
  | nil => rfl
  | cons x rest ih => rw [leavesItems, ih, List.flatMap_cons]

mutual

/-- Equality of values. A text is never equal to a structured string. -/
def eqv : Value → Value → Bool
  | .text s, .text t => s == t
  | .json a, .json b => a.eqv b
  | .list xs, .list ys => eqvItems xs ys
  | _, _ => false

def eqvItems : List Value → List Value → Bool
  | [], [] => true
  | x :: xs, y :: ys => eqv x y && eqvItems xs ys
  | _, _ => false

end

mutual

/-- The structured form of a value, in which a text is a string and a list an
array. -/
def toJson : Value → Json
  | .text s => .string s
  | .json j => j
  | .list items => .array (toJsonItems items)

def toJsonItems : List Value → List Json
  | [] => []
  | x :: rest => toJson x :: toJsonItems rest

end

end Value

end Stepwise
