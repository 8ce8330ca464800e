/-
The summary of a check: how many errors and warnings, and the verdict.
-/

import Scopewise.Analysis.Check

namespace Scopewise

/-- Counts of errors and warnings. -/
structure Summary where
  errors : Nat
  warnings : Nat
deriving DecidableEq, Repr

namespace Summary

/-- A program passes without errors; warnings do not matter. -/
def passed (s : Summary) : Bool := s.errors == 0

def verdict (s : Summary) : String :=
  if s.passed then "Semantic analysis PASSED successfully!"
  else "Semantic analysis FAILED due to errors."

def text (s : Summary) : String :=
  "=== SEMANTIC ANALYSIS SUMMARY ===\nErrors: " ++ toString s.errors ++
    "\nWarnings: " ++ toString s.warnings ++ "\n" ++ s.verdict

end Summary

/-- The summary of an analysis. -/
def Analysis.summary (a : Analysis) : Summary := ⟨a.errors.length, a.warnings.length⟩

end Scopewise
