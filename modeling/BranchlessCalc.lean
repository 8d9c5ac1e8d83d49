import BranchlessCalc.Calc.Eval
import BranchlessCalc.Condition.Compile
import BranchlessCalc.Condition.Stream
import BranchlessCalc.Session
import BranchlessCalc.Proofs.Grammar
import BranchlessCalc.Proofs.DividedText
import BranchlessCalc.Proofs.Call
import BranchlessCalc.Proofs.Phrase
import BranchlessCalc.Proofs.Denotation
import BranchlessCalc.Proofs.TemplateTree
import BranchlessCalc.Proofs.Template
import BranchlessCalc.Proofs.Rounded
import BranchlessCalc.Proofs.RoundingStep
import BranchlessCalc.Proofs.Grid
import BranchlessCalc.Proofs.MaskValue
import BranchlessCalc.Proofs.Truth
import BranchlessCalc.Proofs.ConditionMask
import BranchlessCalc.Proofs.ExactMask
import BranchlessCalc.Proofs.ExactCompile
import BranchlessCalc.Proofs.RangeMask
import BranchlessCalc.Proofs.TwoValued
import BranchlessCalc.Proofs.Complement
import BranchlessCalc.Proofs.RangeCondition
import BranchlessCalc.Proofs.ElseBranch
import BranchlessCalc.Proofs.ErrorOrder
import BranchlessCalc.Proofs.Hygiene
import BranchlessCalc.Proofs.NegationLaw
import BranchlessCalc.Proofs.JsonTokens
import BranchlessCalc.Proofs.StreamReader
import BranchlessCalc.Proofs.RoundTrip
import BranchlessCalc.Proofs.ScanPrefix
import BranchlessCalc.Proofs.FaultFinal
import BranchlessCalc.Proofs.ConditionForm
import BranchlessCalc.Proofs.ViablePrefix
import BranchlessCalc.Proofs.OptionalResult
import BranchlessCalc.Proofs.TextSize
