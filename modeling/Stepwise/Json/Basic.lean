import Stepwise.Decimal.Binary64

/-!
# JSON values

The structured values that steps hand to one another. Numbers are whole or
binary floating point, and the two kinds are never equal. The fields of an
object are kept in the order of their names, each name once, so that an object
is written one way only.
-/

namespace Stepwise

open Decimal (Binary64)

/-- A number is whole, or of the binary format with sixty-four bits. -/
inductive Json.Number where
  | whole (n : Int)
  | float (x : Binary64)
deriving Repr, DecidableEq, Inhabited

inductive Json where
  | null
  | bool (b : Bool)
  | number (n : Json.Number)
  | string (s : String)
  | array (items : List Json)
  /-- Fields in the order of their names; see `Json.ofFields`. -/
  | object (fields : List (String × Json))
deriving Repr, Inhabited

namespace Json

/-- Whole numbers are compared with whole numbers, floats with floats; there the
two zeros are equal. -/
def Number.eqv : Number → Number → Bool
  | .whole a, .whole b => a == b
  | .float x, .float y => x.eqv y
  | _, _ => false

mutual

/-- Equality of values, which differs from identity in the two zeros alone. -/
def eqv : Json → Json → Bool
  | .null, .null => true
  | .bool a, .bool b => a == b
  | .number m, .number n => m.eqv n
  | .string s, .string t => s == t
  | .array xs, .array ys => eqvItems xs ys
  | .object fs, .object gs => eqvFields fs gs
  | _, _ => false

def eqvItems : List Json → List Json → Bool
  | [], [] => true
  | x :: xs, y :: ys => eqv x y && eqvItems xs ys
  | _, _ => false

def eqvFields : List (String × Json) → List (String × Json) → Bool
  | [], [] => true
  | (k, x) :: fs, (l, y) :: gs => k == l && eqv x y && eqvFields fs gs
  | _, _ => false

end

/-- Puts a field where its name belongs; a field of the same name gives way. -/
def insertField (name : String) (value : Json) :
    List (String × Json) → List (String × Json)
  | [] => [(name, value)]
  | (k, v) :: rest =>
    if name < k then (name, value) :: (k, v) :: rest
    else if name = k then (name, value) :: rest
    else (k, v) :: insertField name value rest

/-- The object with these fields; of several with one name the last counts. -/
def ofFields (fields : List (String × Json)) : Json :=
  .object (fields.foldl (fun acc f => insertField f.1 f.2 acc) [])

def ofNat (n : Nat) : Json := .number (.whole n)

def ofInt (n : Int) : Json := .number (.whole n)

/-- A string, or `null` where there is none. -/
def ofText? (s : Option String) : Json := (s.map string).getD .null

/-- The value of a field. -/
def field? (j : Json) (name : String) : Option Json :=
  match j with
  | .object fields => (fields.find? fun f => f.1 == name).map (·.2)
  | _ => none

end Json

end Stepwise
