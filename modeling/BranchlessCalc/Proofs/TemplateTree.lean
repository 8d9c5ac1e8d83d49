/-
  BranchlessCalc.Proofs.TemplateTree

  The trees of the mask templates.

  Each template is matched by a function on trees of the same name. A template
  filled with texts is parsed to this function of the trees of the texts,
  whatever the texts are made of: none of them is torn apart by the operators
  around it. Only the result of `whenPositive` and the right mask of a sum stand
  bare behind a plus sign. What such a sum is parsed to depends on how the text
  behind the sign is written, so its tree is left open here.
-/
import BranchlessCalc.Mask.Interval
import BranchlessCalc.Proofs.Phrase

namespace BranchlessCalc

/-! ## The functions -/

namespace Calc.Expr

def zero : Expr := .number ⟨⟨0, 0⟩, .px⟩

def one : Expr := .number ⟨⟨1, 0⟩, .px⟩

def two : Expr := .number ⟨⟨2, 0⟩, .unitless⟩

def minusOne : Expr := .neg (.number ⟨⟨1, 0⟩, .unitless⟩)

def negated (x : Expr) : Expr := .binary .mul x minusOne

def ofBothSigns (function : Extremum) (x : Expr) : Expr := .extremum function x x.negated

def magnitude : Expr → Expr := ofBothSigns .max

def negMagnitude : Expr → Expr := ofBothSigns .min

def stepFix (result : Expr) : Expr :=
  .call "clamp"
    [.neg one, .binary .sub (.call "round" [.name "up", result.magnitude, one]) one, zero]

def distance (difference result : Expr) : Expr :=
  .call "clamp" [zero, difference, result.magnitude]

def moved (difference result : Expr) : Expr :=
  .binary .add (.extremum .max zero (.binary .sub result (distance difference result)))
    (.extremum .min zero (.binary .add result (distance difference result)))

/-- What `whenPositive` adds the result to. -/
def truncated (difference result : Expr) : Expr :=
  negated (.call "round"
    [.name "to-zero", moved difference result, .binary .add result result.stepFix])

/-- The mask of a positive difference, given how the result is added. -/
def whenPositive (attach : Expr → Expr) (difference result : Expr) : Expr :=
  .call "calc" [attach (truncated difference result)]

def whenNonnegative (attach : Expr → Expr) (difference result : Expr) : Expr :=
  .call "calc" [.binary .sub result (whenPositive attach difference.negated result)]

def ofDifference (attach : Expr → Expr) (difference result : Expr) (strict : Bool) : Expr :=
  if strict then whenPositive attach difference result
  else whenNonnegative attach difference result

/-- The sum of two masks, held as in `heldSum`. -/
def held (sum result : Expr) : Expr :=
  .call "clamp" [result.negMagnitude, sum, result.magnitude]

/-- The sum of two masks, truncated and held as in `both`. -/
def heldTruncated (sum result : Expr) : Expr :=
  held (.call "round"
    [.name "to-zero", sum, .binary .add (.binary .mul result two) result.stepFix]) result

/-- The difference of two masks, held as in `inside`. -/
def heldDifference (left right result : Expr) : Expr :=
  .call "clamp" [.extremum .min zero result, .call "calc" [.binary .sub left right],
    .extremum .max zero result]

end Calc.Expr

namespace Mask

open Calc

/-! ## Constants -/

theorem spells_zero : Spells IsPrimary zero Expr.zero :=
  .number (scan_token rfl rfl rfl)

theorem spells_resolution : Spells IsPrimary resolution Expr.one :=
  .number (scan_token rfl rfl rfl)

theorem spells_two : Spells IsPrimary "2" Expr.two :=
  .number (scan_token rfl rfl rfl)

theorem spells_minusOne : Spells IsSigned "-1" Expr.minusOne := by
  have hone : Spells IsPrimary "1" (.number ⟨⟨1, 0⟩, .unitless⟩) :=
    .number (scan_token rfl rfl rfl)
  exact hone.signed.minus

/-- What stands in front of the result in `whenPositive`. -/
def truncated (difference result : String) : String :=
  "round(to-zero, " ++ moved difference result ++ ", " ++ result ++ " + " ++ stepFix result
    ++ ") * -1"

theorem whenPositive_eq (difference result : String) :
    whenPositive difference result =
      "calc(" ++ (truncated difference result ++ " + " ++ result) ++ ")" := by
  unfold whenPositive truncated
  simp [← String.toList_inj]

section Templates

variable {d r : String} {x y : Expr} (hr : Spells IsSum r x)
include hr

/-! ## Magnitudes and the step fix -/

theorem spells_negated : Spells IsProduct ("(" ++ r ++ ") * -1") x.negated := by
  have h := hr.group.product_of_primary.chain_product .mul rfl spells_minusOne
  exact h.congr (by simp [← String.toList_inj, Operator.spaced])

theorem spells_ofBothSigns (function : Extremum) :
    Spells IsPrimary (ofBothSigns function.name r) (x.ofBothSigns function) := by
  have h := hr.extremum function (spells_negated hr).sum
  exact h.congr (by unfold ofBothSigns; simp [← String.toList_inj])

theorem spells_stepFix : Spells IsPrimary (stepFix r) x.stepFix := by
  have hup : Spells IsPrimary "up" (.name "up") := .name (scan_token rfl rfl rfl)
  have hmagnitude : Spells IsPrimary (magnitude r) x.magnitude := spells_ofBothSigns hr .max
  have hround := Spells.call_three "round" (scan_token rfl rfl rfl) hup.sum_of_primary
    hmagnitude.sum_of_primary spells_resolution.sum_of_primary
  have hless := hround.sum_of_primary.chain_sum .sub rfl spells_resolution.product_of_primary
  have h := Spells.call_three "clamp" (scan_token rfl rfl rfl)
    spells_resolution.signed.minus.product.sum hless spells_zero.sum_of_primary
  exact h.congr (by unfold stepFix; simp [← String.toList_inj, Operator.spaced])

/-! ## The sign of a difference -/

variable (hd : Spells IsSum d y)
include hd

theorem spells_distance : Spells IsPrimary (distance d r) (Expr.distance y x) := by
  have hmagnitude : Spells IsPrimary (magnitude r) x.magnitude := spells_ofBothSigns hr .max
  have h := Spells.call_three "clamp" (scan_token rfl rfl rfl) spells_zero.sum_of_primary hd
    hmagnitude.sum_of_primary
  exact h.congr (by unfold distance; simp)

theorem spells_moved : Spells IsSum (moved d r) (Expr.moved y x) := by
  have hdistance := (spells_distance hr hd).product_of_primary
  have hzero := spells_zero.sum_of_primary
  have hmax := hzero.extremum .max (hr.chain_sum .sub rfl hdistance)
  have hmin := hzero.extremum .min (hr.chain_sum .add rfl hdistance)
  have h := hmax.sum_of_primary.chain_sum .add rfl hmin.product_of_primary
  exact h.congr (by unfold moved; simp [← String.toList_inj, Operator.spaced, Extremum.name])

theorem spells_truncated : Spells IsSum (truncated d r) (Expr.truncated y x) := by
  have htoZero : Spells IsPrimary "to-zero" (.name "to-zero") := .name (scan_token rfl rfl rfl)
  have hstep := hr.chain_sum .add rfl (spells_stepFix hr).product_of_primary
  have hround := Spells.call_three "round" (scan_token rfl rfl rfl) htoZero.sum_of_primary
    (spells_moved hr hd) hstep
  have h := hround.product_of_primary.chain_product .mul rfl spells_minusOne
  exact h.sum.congr (by unfold truncated; simp [← String.toList_inj, Operator.spaced])

variable {attach : Expr → Expr} (hattach : Attaches r x attach)
include hattach

theorem spells_whenPositive :
    Spells IsPrimary (whenPositive d r) (Expr.whenPositive attach y x) := by
  rw [whenPositive_eq]
  exact Spells.call_calc (hattach.spells (spells_truncated hr hd))

theorem spells_ofDifference (strict : Bool) :
    Spells IsPrimary (ofDifference d r strict) (Expr.ofDifference attach y x strict) := by
  cases strict with
  | true => exact spells_whenPositive hr hd hattach
  | false =>
    have hmask := spells_whenPositive hr (spells_negated hd).sum hattach
    have h := Spells.call_calc (hr.chain_sum .sub rfl hmask.product_of_primary)
    exact h.congr (by simp [ofDifference, whenNonnegative, ← String.toList_inj, Operator.spaced])

end Templates

/-! ## Thresholds -/

section Thresholds

variable {v t r : String} {x y z : Expr} (hv : Spells IsSum v x) (ht : Spells IsSum t y)
include hv ht

/-- The value in front of the minus sign may be a sum, and the threshold is in brackets. -/
theorem spells_difference : Spells IsSum (v ++ " - (" ++ t ++ ")") (.binary .sub x y) := by
  have h := hv.chain_sum .sub rfl ht.group.product_of_primary
  exact h.congr (by simp [← String.toList_inj, Operator.spaced])

variable (hr : Spells IsSum r z) {attach : Expr → Expr} (hattach : Attaches r z attach)
include hr hattach

theorem spells_above (strict : Bool) :
    Spells IsPrimary (above v t r strict)
      (Expr.ofDifference attach (.binary .sub x y) z strict) :=
  spells_ofDifference hr (spells_difference hv ht) hattach strict

theorem spells_below (strict : Bool) :
    Spells IsPrimary (below v t r strict)
      (Expr.ofDifference attach (.binary .sub y x) z strict) :=
  spells_above ht hv hr hattach strict

end Thresholds

/-! ## Pairs of masks -/

section Pairs

variable {a b r : String} {x y z sum : Expr} (hr : Spells IsSum r x)
include hr

/-- A sum of any form held within the magnitude of the result. -/
theorem spells_held {text : String} (hsum : Spells IsSum text sum) :
    Spells IsPrimary
      ("clamp(" ++ negMagnitude r ++ ", " ++ text ++ ", " ++ magnitude r ++ ")")
      (Expr.held sum x) :=
  Spells.call_three "clamp" (scan_token rfl rfl rfl) (spells_ofBothSigns hr .min).sum_of_primary
    hsum (spells_ofBothSigns hr .max).sum_of_primary

theorem spells_heldSum (hsum : Spells IsSum (a ++ " + " ++ b) sum) :
    Spells IsPrimary (heldSum a b r) (Expr.held sum x) :=
  (spells_held hr hsum).congr (by unfold heldSum; simp [← String.toList_inj])

theorem spells_both (hsum : Spells IsSum (a ++ " + " ++ b) sum) :
    Spells IsPrimary (both a b r) (Expr.heldTruncated sum x) := by
  have htoZero : Spells IsPrimary "to-zero" (.name "to-zero") := .name (scan_token rfl rfl rfl)
  -- The step is twice the result, and fixed where that is zero.
  have hdouble := hr.group.product_of_primary.chain_product .mul rfl spells_two.signed
  have hstep := hdouble.sum.chain_sum .add rfl (spells_stepFix hr).product_of_primary
  have hround := Spells.call_three "round" (scan_token rfl rfl rfl) htoZero.sum_of_primary hsum hstep
  exact (spells_held hr hround.sum_of_primary).congr
    (by unfold both; simp [← String.toList_inj, Operator.spaced])

/-- A difference of two masks held between zero and the result, as in `inside`. -/
theorem spells_heldDifference (ha : Spells IsSum a y) (hb : Spells IsProduct b z) :
    Spells IsPrimary
      ("clamp(min(" ++ zero ++ ", " ++ r ++ "), calc(" ++ a ++ " - " ++ b ++ "), max(" ++ zero
        ++ ", " ++ r ++ "))")
      (Expr.heldDifference y z x) := by
  have hzero := spells_zero.sum_of_primary
  have hlow := hzero.extremum .min hr
  have hhigh := hzero.extremum .max hr
  have hdifference := Spells.call_calc (ha.chain_sum .sub rfl hb)
  have h := Spells.call_three "clamp" (scan_token rfl rfl rfl) hlow.sum_of_primary
    hdifference.sum_of_primary hhigh.sum_of_primary
  exact h.congr (by simp [← String.toList_inj, Operator.spaced, Extremum.name])

end Pairs

end Mask

end BranchlessCalc
