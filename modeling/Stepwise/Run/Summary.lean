import Stepwise.Run.Result

/-!
# Summaries

How many features and scenarios have passed, have failed and were left out. The
scenarios of a feature that was left out count as left out, whatever their own
results say.
-/

namespace Stepwise

/-- Counts of units by how they ended. -/
structure Tally where
  passed : Nat
  failed : Nat
  skipped : Nat
  total : Nat
deriving Repr, DecidableEq, Inhabited

namespace Tally

def empty : Tally := ⟨0, 0, 0, 0⟩

/-- Counts one more unit. -/
def count (t : Tally) (skipped success : Bool) : Tally :=
  if skipped then { t with skipped := t.skipped + 1, total := t.total + 1 }
  else if success then { t with passed := t.passed + 1, total := t.total + 1 }
  else { t with failed := t.failed + 1, total := t.total + 1 }

end Tally

structure Summary where
  features : Tally
  scenarios : Tally
deriving Repr, DecidableEq, Inhabited

namespace Summary

def empty : Summary := ⟨Tally.empty, Tally.empty⟩

/-- Counts a feature and its scenarios. -/
def count (s : Summary) (f : FeatureResult) : Summary where
  features := s.features.count f.skipped f.success
  scenarios := f.scenarios.foldl
    (fun t r => t.count (f.skipped || r.skipped) r.success) s.scenarios

end Summary

def RunResult.summary (r : RunResult) : Summary := r.features.foldl Summary.count Summary.empty

end Stepwise
