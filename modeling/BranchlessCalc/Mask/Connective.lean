/-
  BranchlessCalc.Mask.Connective

  Disjunction and conjunction of two masks that share one result.

  The sum of the masks is zero, once or twice the result. A disjunction holds it
  within the magnitude of the result; a conjunction first truncates it to a
  multiple of twice the result.
-/
import BranchlessCalc.Mask.Selector

namespace BranchlessCalc.Mask

/-- A sum of two terms held within the magnitude of `result`. -/
def heldSum (left right result : String) : String :=
  "clamp(" ++ negMagnitude result ++ ", " ++ left ++ " + " ++ right ++ ", " ++ magnitude result
    ++ ")"

/-- Worth `result` if one of the two masks is, and zero otherwise. -/
def either (left right result : String) : String :=
  heldSum left right result

/-- Worth `result` if both masks are, and zero otherwise. -/
def both (left right result : String) : String :=
  "clamp(" ++ negMagnitude result ++ ", round(to-zero, " ++ left ++ " + " ++ right ++ ", ("
    ++ result ++ ") * 2 + " ++ stepFix result ++ "), " ++ magnitude result ++ ")"

end BranchlessCalc.Mask
