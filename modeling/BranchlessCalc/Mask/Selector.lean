/-
  BranchlessCalc.Mask.Selector

  Masks: expression texts that are worth a given result or zero.

  Everything here is text. Values, thresholds and results are embedded as they
  are, so they may be expressions of any kind. Nearly everywhere they are
  arguments, stand in brackets or come first in a sum, and stay whole there. The
  one exception is the end of `whenPositive`, where the result stands bare behind
  a plus sign: a result that is itself a sum is added term by term.

  `whenPositive` decides a sign by arithmetic alone: the difference is held
  between zero and the magnitude of the result, the result is moved towards zero
  by that distance, and what is left is truncated to a multiple of the result.
  Only an untouched result survives.
-/

namespace BranchlessCalc.Mask

/-- The zero length. -/
def zero : String := "0px"

/-- The unit that the magnitude of a result is rounded up to. A magnitude that is
    not zero gives at least one unit, however small it is. -/
def resolution : String := "1px"

/-- A function of a value and its negative. -/
def ofBothSigns (function value : String) : String :=
  function ++ "(" ++ value ++ ", (" ++ value ++ ") * -1)"

/-- The magnitude of a value. -/
def magnitude (value : String) : String :=
  ofBothSigns "max" value

/-- The magnitude of a value with a minus sign. -/
def negMagnitude (value : String) : String :=
  ofBothSigns "min" value

/-- Added to a rounding step of the size of `result` to keep it from being zero:
    minus one pixel if the result is zero, and zero otherwise. -/
def stepFix (result : String) : String :=
  "clamp(-" ++ resolution ++ ", round(up, " ++ magnitude result ++ ", " ++ resolution ++ ") - "
    ++ resolution ++ ", " ++ zero ++ ")"

/-- A difference held between zero and the magnitude of `result`. -/
def distance (difference result : String) : String :=
  "clamp(" ++ zero ++ ", " ++ difference ++ ", " ++ magnitude result ++ ")"

/-- The result moved towards zero by the distance, and no further. -/
def moved (difference result : String) : String :=
  "max(" ++ zero ++ ", " ++ result ++ " - " ++ distance difference result ++ ") + min(" ++ zero
    ++ ", " ++ result ++ " + " ++ distance difference result ++ ")"

/-- Worth `result` if the difference is positive, and zero otherwise. -/
def whenPositive (difference result : String) : String :=
  "calc(round(to-zero, " ++ moved difference result ++ ", " ++ result ++ " + " ++ stepFix result
    ++ ") * -1 + " ++ result ++ ")"

/-- Worth `result` if the difference is not negative, and zero otherwise. -/
def whenNonnegative (difference result : String) : String :=
  "calc(" ++ result ++ " - " ++ whenPositive ("(" ++ difference ++ ") * -1") result ++ ")"

/-- Worth `result` if the difference is positive, or zero where the boundary is
    not strict, and worth zero otherwise. -/
def ofDifference (difference result : String) (strict : Bool) : String :=
  if strict then whenPositive difference result else whenNonnegative difference result

/-! ## Thresholds -/

/-- Worth `result` if the value is above the threshold, and zero otherwise. -/
def above (value threshold result : String) (strict : Bool) : String :=
  ofDifference (value ++ " - (" ++ threshold ++ ")") result strict

/-- Worth `result` if the value is below the threshold, and zero otherwise. -/
def below (value threshold result : String) (strict : Bool) : String :=
  ofDifference (threshold ++ " - (" ++ value ++ ")") result strict

/-- The value itself if it is above the threshold, and zero otherwise. -/
def keepAbove (value threshold : String) (strict : Bool) : String :=
  above value threshold value strict

/-- The value itself if it is below the threshold, and zero otherwise. -/
def keepBelow (value threshold : String) (strict : Bool) : String :=
  below value threshold value strict

/-- The sum of two masks of which one is zero. -/
def branch (first second : String) : String :=
  "calc(" ++ first ++ " + " ++ second ++ ")"

/-- Worth `result` if the value is below the threshold, and `otherwise` if not. -/
def belowElse (value threshold result otherwise : String) (strict : Bool) : String :=
  branch (below value threshold result strict) (above value threshold otherwise (!strict))

end BranchlessCalc.Mask
