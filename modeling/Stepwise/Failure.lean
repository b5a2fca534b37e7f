import Stepwise.Feature.Basic

/-!
# Why a step fails

A step fails because a placeholder has no value, because no definition takes the
text, because a check does not hold, or for a reason that its handler gives. The
wording is in `Failure.message`; everything else works with the causes.
-/

namespace Stepwise

/-- A check that does not hold, with the two sides if there are two. -/
structure FailedCheck where
  message : String
  expected : Option Value
  actual : Option Value
deriving Repr, Inhabited

/-- The two sides are shown only if both are there. -/
def FailedCheck.display (c : FailedCheck) : String :=
  match c.expected, c.actual with
  | some expected, some actual =>
    s!"{c.message} (기대값: {expected.display}, 실제값: {actual.display})"
  | _, _ => c.message

inductive Failure where
  /-- No step definition takes the text. -/
  | undefinedStep (step : BoundStep)
  /-- A placeholder has no value. -/
  | missingValue (missing : MissingValue)
  | check (check : FailedCheck)
  /-- A reason given in words. -/
  | handler (message : String)
deriving Repr, Inhabited

namespace Failure

def message : Failure → String
  | .undefinedStep step => s!"Step 실행기가 정의되지 않았습니다: {step.text}"
  | .missingValue missing => missing.message
  | .check c => s!"검증 실패: {c.display}"
  | .handler message => message

/-- A check with two sides. -/
def ofSides (message : String) (expected actual : Value) : Failure :=
  .check ⟨message, some expected, some actual⟩

/-- A check of a condition. -/
def ofCondition (message : String) : Failure := .check ⟨message, none, none⟩

/-- An error with its contexts, the innermost first: the message names the
outermost first. -/
def ofChain (causes : List String) : Failure := .handler (": ".intercalate causes.reverse)

/-- A handler that gave up in disorder, with the text it left, if it left
one. -/
def ofCrash : Option String → Failure
  | some text => .handler s!"Step 핸들러 panic: {text}"
  | none => .handler "Step 핸들러 panic"

end Failure

/-- Fails unless the two values are equal. -/
def checkEqual (expected actual : Value) : Except Failure Unit :=
  if expected.eqv actual then .ok ()
  else .error (.ofSides "값이 일치하지 않습니다" expected actual)

end Stepwise
