/-
  BranchlessCalc.Proofs.ViablePrefix

  Errors at the end of a text and errors that no continuation can mend.

  A text that is refused because it ends too early is the beginning of an
  expression. Every state of the machine can be completed, by an operand where
  one has to follow and by a bracket for each open one
  (`State.exists_finish_completion`). Any other error is about a token or a
  character that has been read already. So it stays the same whatever is written
  behind a blank (`Scan.parse_andThen_of_error`).
-/
import BranchlessCalc.Calc.Eval
import BranchlessCalc.Proofs.Phrase

namespace BranchlessCalc.Calc

/-! ## Errors at the end -/

/-- Whether the error is that nothing more follows. -/
def ParseError.isAtEnd : ParseError → Bool
  | .unexpectedEnd | .unclosed => true
  | .scan _ | .unexpectedToken _ => false

/-- Texts that differ in a character are different. -/
theorem ne_of_getElem? {s t : String} (n : Nat) (h : s.toList[n]? ≠ t.toList[n]?) : s ≠ t := by
  rintro rfl
  exact h rfl

theorem Token.describe_ne_eof (token : Token) : token.describe ≠ "Eof" := by
  apply ne_of_getElem? 0
  cases token <;> simp [Token.describe]

theorem ScanError.message_ne (error : ScanError) :
    error.message ≠ "unexpected end of expression" ∧ error.message ≠ "unexpected token: 'Eof'" := by
  cases error with
  | unexpectedChar c =>
    show "unexpected character: '" ++ c.toString ++ "'" ≠ _ ∧ _ ++ c.toString ++ "'" ≠ _
    constructor <;> exact ne_of_getElem? 11 (by simp)
  | invalidNumber text =>
    show "invalid number: '" ++ text ++ "'" ≠ _ ∧ _ ++ text ++ "'" ≠ _
    constructor <;> exact ne_of_getElem? 0 (by simp)
  | unknownUnit text =>
    show "unknown unit: '" ++ text ++ "'" ≠ _ ∧ _ ++ text ++ "'" ≠ _
    constructor <;> exact ne_of_getElem? 2 (by simp)

/-- No other error is worded like the two at the end. -/
theorem ParseError.isAtEnd_iff_message (error : ParseError) :
    error.isAtEnd = true ↔
      error.message = "unexpected end of expression" ∨
        error.message = "unexpected token: 'Eof'" := by
  cases error with
  | unexpectedEnd => exact iff_of_true rfl (.inl rfl)
  | unclosed => exact iff_of_true rfl (.inr rfl)
  | scan error =>
    obtain ⟨hend, htoken⟩ := error.message_ne
    exact iff_of_false Bool.false_ne_true (not_or.mpr ⟨hend, htoken⟩)
  | unexpectedToken token =>
    refine iff_of_false Bool.false_ne_true (not_or.mpr ⟨?_, ?_⟩)
    · show "unexpected token: '" ++ token.describe ++ "'" ≠ _
      exact ne_of_getElem? 11 (by simp)
    · -- Both quote a token, and no token is described as the end is.
      intro h
      have hquoted : "unexpected token: '" ++ token.describe ++ "'" =
          "unexpected token: '" ++ "Eof" ++ "'" := h
      rw [String.append_left_inj, String.append_right_inj] at hquoted
      exact token.describe_ne_eof hquoted

/-! ## Completions -/

/-- A closing bracket for each open one. -/
def closers (n : Nat) : String :=
  String.ofList (List.replicate n ')')

/-- A text that ends what a state has begun. -/
def State.completion : State → String
  | .operand _ levels => "0" ++ " " ++ closers levels.length
  | .name _ _ levels | .operator _ levels => closers levels.length

theorem scan_closers (n : Nat) :
    scan (closers n).toList = ⟨List.replicate n .rightParen, none⟩ := by
  induction n with
  | zero => exact scan_nil
  | succ n ih =>
    rw [closers, String.toList_ofList] at ih ⊢
    rw [List.replicate_succ, List.replicate_succ]
    exact scan_cons_symbol (by decide) rfl ih

/-- A closing bracket ends the innermost level, be it a group or a call. -/
theorem stepOperator_rightParen (last : Product) (level : Level) (levels : List Level) :
    ∃ outer, stepOperator last (level :: levels) .rightParen = .ok (.operator outer levels) := by
  obtain ⟨bracket, before⟩ := level
  cases bracket with
  | group => exact ⟨_, rfl⟩
  | call function args => exact ⟨_, rfl⟩

/-- Behind a complete operand, closing brackets end all levels. -/
theorem State.completes_closers (state : State) {last : Product} {levels : List Level}
    (h : state.settle = .operator last levels) :
    ∃ outer, state.Completes (List.replicate levels.length .rightParen) outer [] := by
  induction levels generalizing state last with
  | nil => exact ⟨last, state, State.run_nil state, h⟩
  | cons level levels ih =>
    obtain ⟨inner, hstep⟩ := stepOperator_rightParen last level levels
    obtain ⟨outer, final, hrun, hsettle⟩ := ih (.operator inner levels) rfl
    refine ⟨outer, final, ?_, hsettle⟩
    rw [List.length_cons, List.replicate_succ, State.run_cons_of_ok, hrun]
    rw [State.step_of_settle h (by decide), hstep]

theorem State.finish_closers (state : State) {last : Product} {levels : List Level}
    (h : state.settle = .operator last levels) :
    ∃ final tree, state.run (List.replicate levels.length .rightParen) = .ok final ∧
      final.finish = .ok tree := by
  obtain ⟨outer, final, hrun, hsettle⟩ := state.completes_closers h
  exact ⟨final, outer.close, hrun, State.finish_of_settle hsettle⟩

/-- Every state can be completed. -/
theorem State.exists_finish_completion (state : State) :
    ∃ tokens final tree, scan state.completion.toList = ⟨tokens, none⟩ ∧
      state.run tokens = .ok final ∧ final.finish = .ok tree := by
  cases state with
  | operand before levels =>
    have hzero : scan "0".toList = ⟨[.number ⟨⟨0, 0⟩, .unitless⟩], none⟩ := scan_token rfl rfl rfl
    have hscan := scan_append_of_ok (q := ' ') (by decide) hzero (scan_closers levels.length)
    -- The number is the operand that was missing.
    obtain ⟨last, hstep⟩ : ∃ last, (State.operand before levels).step
        (.number ⟨⟨0, 0⟩, .unitless⟩) = .ok (.operator last levels) := ⟨_, rfl⟩
    obtain ⟨final, tree, hrun, hfinish⟩ := (State.operator last levels).finish_closers rfl
    refine ⟨_, final, tree, ?_, (State.run_cons_of_ok hstep _).trans hrun, hfinish⟩
    simpa [State.completion, separatorTokens] using hscan
  | name text before levels =>
    obtain ⟨final, tree, hrun, hfinish⟩ := (State.name text before levels).finish_closers rfl
    exact ⟨_, final, tree, scan_closers levels.length, hrun, hfinish⟩
  | operator last levels =>
    obtain ⟨final, tree, hrun, hfinish⟩ := (State.operator last levels).finish_closers rfl
    exact ⟨_, final, tree, scan_closers levels.length, hrun, hfinish⟩

/-! ## Continuations -/

theorem State.run_append_of_error {state : State} {token : Token} {first : List Token}
    (h : state.run first = .error token) (second : List Token) :
    state.run (first ++ second) = .error token := by
  rw [State.run_append, h]
  rfl

/-- An end that comes too early is the only thing that can be wrong with a state. -/
theorem State.isAtEnd_of_finish {state : State} {error : ParseError}
    (h : state.finish = .error error) : error.isAtEnd = true := by
  cases state with
  | operand before levels =>
    cases h
    rfl
  | name text before levels =>
    -- Without an open bracket there is no error.
    cases levels <;> cases h
    rfl
  | operator last levels =>
    cases levels <;> cases h
    rfl

/-- How the scan of a text fails to be an expression. -/
theorem Scan.parse_eq_error {s : Scan} {error : ParseError} (h : s.parse = .error error) :
    (∃ token, State.start.run s.tokens = .error token ∧ error = .unexpectedToken token) ∨
    (∃ state stop, State.start.run s.tokens = .ok state ∧ s.error? = some stop ∧
      error = .scan stop) ∨
    (∃ state, State.start.run s.tokens = .ok state ∧ s.error? = none ∧
      state.finish = .error error) := by
  unfold Scan.parse at h
  split at h
  · next token hrun =>
    cases h
    exact .inl ⟨token, hrun, rfl⟩
  · next state stop hrun hstop =>
    cases h
    exact .inr (.inl ⟨state, stop, hrun, hstop, rfl⟩)
  · next state hrun hnone => exact .inr (.inr ⟨state, hrun, hnone, h⟩)

/-- An error that is not at the end stays the same, whatever follows. -/
theorem Scan.parse_andThen_of_error {first : Scan} {error : ParseError}
    (h : first.parse = .error error) (hend : error.isAtEnd = false) (second : Scan) :
    (first.andThen second).parse = .error error := by
  obtain ⟨tokens, error?⟩ := first
  cases error? with
  | some stop => exact h
  | none =>
    obtain ⟨token, hrun, rfl⟩ | ⟨_, _, _, hstop, _⟩ | ⟨state, _, _, hfinish⟩ :=
      Scan.parse_eq_error h
    · have hmore := State.run_append_of_error hrun second.tokens
      simp only [Scan.andThen, Scan.parse, hmore]
    · cases hstop
    · rw [State.isAtEnd_of_finish hfinish] at hend
      cases hend

/-- Behind an error at the end there is room for the completion of the state reached. -/
theorem Scan.exists_parse_andThen {first : Scan} {error : ParseError}
    (h : first.parse = .error error) (hend : error.isAtEnd = true) :
    ∃ (rest : String) (tree : Expr), (first.andThen (scan rest.toList)).parse = .ok tree := by
  obtain ⟨token, _, rfl⟩ | ⟨_, stop, _, _, rfl⟩ | ⟨state, hrun, hnone, _⟩ := Scan.parse_eq_error h
  · cases hend
  · cases hend
  · obtain ⟨tokens, final, tree, hscan, hcompletion, hfinish⟩ := state.exists_finish_completion
    refine ⟨state.completion, tree, ?_⟩
    have hwhole := (State.run_append_of_ok hrun tokens).trans hcompletion
    simp only [Scan.andThen, Scan.parse, hnone, hscan, hwhole, hfinish]

theorem parse_append_blank (text rest : String) :
    parse (text ++ " " ++ rest) = ((scan text.toList).andThen (scan rest.toList)).parse := by
  have hblank : (text ++ " " ++ rest).toList = text.toList ++ ' ' :: rest.toList := by simp
  rw [parse, hblank, scan_append_separator (by decide), scan_cons_of_blank (by decide)]

/-! ## Texts -/

/-- A text that is refused at its end can be continued to an expression, and only
    then is the message about the end. Any other error is final: the same error is
    found whatever is written behind a blank. -/
theorem parse_error_viable (text : String) (error : ParseError) (h : parse text = .error error) :
    (error.isAtEnd = true ↔
      error.message = "unexpected end of expression" ∨
        error.message = "unexpected token: 'Eof'") ∧
    (error.isAtEnd = true → ∃ rest tree, parse (text ++ " " ++ rest) = .ok tree) ∧
    (error.isAtEnd = false → ∀ rest, parse (text ++ " " ++ rest) = .error error) := by
  refine ⟨error.isAtEnd_iff_message, ?_, ?_⟩
  · intro hend
    obtain ⟨rest, tree, hparse⟩ := Scan.exists_parse_andThen h hend
    exact ⟨rest, tree, (parse_append_blank text rest).trans hparse⟩
  · intro hend rest
    rw [parse_append_blank]
    exact Scan.parse_andThen_of_error h hend _

/-- A call in brackets that are still open behind a comma, and a bracket too many in
    front of a character that is no token. -/
theorem parse_error_viable_brackets :
    parse "2 * (max(1px, (3px)" = .error .unclosed ∧
    (∃ rest tree, parse ("2 * (max(1px, (3px)" ++ " " ++ rest) = .ok tree) ∧
    parse "1px) $" = .error (.unexpectedToken .rightParen) ∧
    ∀ rest, parse ("1px) $" ++ " " ++ rest) = .error (.unexpectedToken .rightParen) := by
  have hopen : parse "2 * (max(1px, (3px)" = .error .unclosed := by with_unfolding_all rfl
  have hclosed : parse "1px) $" = .error (.unexpectedToken .rightParen) := by with_unfolding_all rfl
  exact ⟨hopen, (parse_error_viable _ _ hopen).2.1 rfl, hclosed,
    (parse_error_viable _ _ hclosed).2.2 rfl⟩

end BranchlessCalc.Calc
