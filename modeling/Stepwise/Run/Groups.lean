import Stepwise.Failure

/-!
# Groups

The parts of a step's text that the groups of a pattern took, in the order of
the groups. A group that took no part in the match has none.
-/

namespace Stepwise

structure Groups where
  texts : List (Option String)
deriving Repr, DecidableEq, Inhabited

namespace Groups

def empty : Groups := ⟨[]⟩

def size (g : Groups) : Nat := g.texts.length

def isEmpty (g : Groups) : Bool := g.texts.isEmpty

/-- The text of a group. -/
def get? (g : Groups) (i : Nat) : Option String := (g.texts[i]?).join

/-- What is said of a group without a text. -/
def missingMessage (i : Nat) : String := s!"캡처 그룹 {i}을 찾을 수 없습니다."

/-- The text of a group that has to have one. -/
def required (g : Groups) (i : Nat) : Except Failure String :=
  match g.get? i with
  | some text => .ok text
  | none => .error (.handler (missingMessage i))

end Groups

end Stepwise
