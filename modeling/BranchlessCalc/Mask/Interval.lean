/-
  BranchlessCalc.Mask.Interval

  Masks for a value inside or outside a range. The two thresholds of a range may
  come in either order; each end is strict or not on its own.
-/
import BranchlessCalc.Mask.Connective

namespace BranchlessCalc.Mask

/-- Whether each end of a range is strict, that is, fails at equality. -/
structure RangeStrictness where
  low : Bool
  high : Bool
deriving DecidableEq, Repr

namespace RangeStrictness

/-- Both ends are strict. -/
def strict : RangeStrictness := ⟨true, true⟩

/-- Neither end is strict. -/
def inclusive : RangeStrictness := ⟨false, false⟩

/-- A range is strict unless it says otherwise. -/
instance : Inhabited RangeStrictness := ⟨strict⟩

/-- Both ends alike. -/
def uniform (strict : Bool) : RangeStrictness := ⟨strict, strict⟩

/-- The strictness of the complement of a range. -/
def complement (s : RangeStrictness) : RangeStrictness := ⟨!s.low, !s.high⟩

end RangeStrictness

/-- The lower of two thresholds. -/
def lower (threshold₁ threshold₂ : String) : String :=
  "min(" ++ threshold₁ ++ ", " ++ threshold₂ ++ ")"

/-- The higher of two thresholds. -/
def higher (threshold₁ threshold₂ : String) : String :=
  "max(" ++ threshold₁ ++ ", " ++ threshold₂ ++ ")"

/-- Worth `result` if the value is inside the range, and zero otherwise. What is
    above the low end less what is above the high end can be minus the result
    where the ends meet, so the difference is held between zero and the result. -/
def inside (value threshold₁ threshold₂ result : String) (s : RangeStrictness) : String :=
  "clamp(min(" ++ zero ++ ", " ++ result ++ "), calc("
    ++ above value (lower threshold₁ threshold₂) result s.low ++ " - "
    ++ above value (higher threshold₁ threshold₂) result (!s.high)
    ++ "), max(" ++ zero ++ ", " ++ result ++ "))"

/-- Worth `result` if the value is outside the range, and zero otherwise. -/
def outside (value threshold₁ threshold₂ result : String) (s : RangeStrictness) : String :=
  heldSum (below value (lower threshold₁ threshold₂) result s.low)
    (above value (higher threshold₁ threshold₂) result s.high) result

/-- The value itself if it is inside the range, and zero otherwise. -/
def keepInside (value threshold₁ threshold₂ : String) (s : RangeStrictness) : String :=
  inside value threshold₁ threshold₂ value s

/-- The value itself if it is outside the range, and zero otherwise. -/
def keepOutside (value threshold₁ threshold₂ : String) (s : RangeStrictness) : String :=
  outside value threshold₁ threshold₂ value s

/-- Worth `result` if the value is inside the range, and `otherwise` if not. -/
def insideElse (value threshold₁ threshold₂ result otherwise : String) (s : RangeStrictness) :
    String :=
  branch (inside value threshold₁ threshold₂ result s)
    (outside value threshold₁ threshold₂ otherwise s.complement)

end BranchlessCalc.Mask
