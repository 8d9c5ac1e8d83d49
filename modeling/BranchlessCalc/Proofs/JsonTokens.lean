/-
  BranchlessCalc.Proofs.JsonTokens

  The tokens that a JSON value is written by, and that reading inverts writing.

  A value has one list of tokens (`Json.tokens`). The machine that reads values
  takes this list to the value and leaves what follows (`State.run_tokens`), also
  where strings without a text would be let through. Conversely each of its states
  stands for the tokens taken so far (`State.taken`), which every step extends by
  its own token, so nothing but the tokens of a value is ever read as this value
  (`readValue_eq_some_iff`).
-/
import BranchlessCalc.Json.Parser

namespace BranchlessCalc.Json

/-! ## The tokens of a value -/

mutual

/-- The tokens of a value. -/
def tokens : Json → List Token
  | null => [.null]
  | bool value => [.bool value]
  | number value => [.number value]
  | string text => [.string (some text)]
  | array items => .leftBracket :: itemsTokens items
  | object members => .leftBrace :: membersTokens members

/-- The tokens of an array behind its opening bracket. -/
def itemsTokens : List Json → List Token
  | [] => [.rightBracket]
  | item :: rest => item.tokens ++ itemsTail rest

/-- The tokens of an array behind one of its items. -/
def itemsTail : List Json → List Token
  | [] => [.rightBracket]
  | item :: rest => .comma :: (item.tokens ++ itemsTail rest)

/-- The tokens of an object behind its opening brace. -/
def membersTokens : List (String × Json) → List Token
  | [] => [.rightBrace]
  | (name, value) :: rest => .string (some name) :: .colon :: (value.tokens ++ membersTail rest)

/-- The tokens of an object behind one of its members. -/
def membersTail : List (String × Json) → List Token
  | [] => [.rightBrace]
  | (name, value) :: rest =>
    .comma :: .string (some name) :: .colon :: (value.tokens ++ membersTail rest)

end

/-! ## Runs of the machine -/

variable {mode : Mode}

theorem State.run_cons_of_some {state next : State} {token : Token}
    (h : state.step mode token = some next) (tokens : List Token) :
    state.run mode (token :: tokens) = next.run mode tokens := by
  cases state with
  | complete value frames =>
    cases frames with
    | nil => cases h
    | cons frame frames => rw [State.run, h]; simp
  | needsValue | opensArray | opensObject | needsName | needsColon => rw [State.run, h]; simp

theorem State.run_complete (value : Json) (tokens : List Token) :
    State.run mode (.complete value []) tokens = some (value, tokens) := by
  rw [State.run]

/-- A run that comes to an end is there already, or takes a step first. -/
theorem State.run_cases {state : State} {tokens rest : List Token} {value : Json}
    (h : state.run mode tokens = some (value, rest)) :
    (state = .complete value [] ∧ tokens = rest) ∨
      ∃ token tail next, tokens = token :: tail ∧ state.step mode token = some next ∧
        next.run mode tail = some (value, rest) := by
  unfold State.run at h
  split at h
  · simp only [Option.some.injEq, Prod.mk.injEq] at h
    exact .inl ⟨by rw [h.1], h.2⟩
  · cases h
  · split at h
    · next next hstep => exact .inr ⟨_, _, next, rfl, hstep, h⟩
    · cases h

/-- A run that comes to an end takes the same steps in front of more tokens. -/
theorem State.run_append {state : State} {tokens rest : List Token} {value : Json}
    (h : state.run mode tokens = some (value, rest)) (more : List Token) :
    state.run mode (tokens ++ more) = some (value, rest ++ more) := by
  induction tokens generalizing state with
  | nil =>
    obtain ⟨rfl, rfl⟩ | ⟨_, _, _, hcons, _⟩ := State.run_cases h
    · exact State.run_complete value _
    · cases hcons
  | cons token tokens ih =>
    obtain ⟨rfl, rfl⟩ | ⟨_, _, next, hcons, hstep, hrun⟩ := State.run_cases h
    · exact State.run_complete value _
    · cases hcons
      rw [List.cons_append, State.run_cons_of_some hstep, ih hrun]

/-! ## The tokens of a value are read as the value -/

/-- An array that was opened takes its first item as any value inside it. -/
theorem State.run_opensArray (value : Json) (frames : List Frame) (rest : List Token) :
    State.run mode (.opensArray frames) (value.tokens ++ rest) =
      State.run mode (.needsValue (.array [] :: frames)) (value.tokens ++ rest) := by
  cases value <;> rfl

theorem Mode.text?_some (mode : Mode) (text : String) : mode.text? (some text) = some text := by
  cases mode <;> rfl

/-- The name of a member and its colon, behind other members. -/
theorem State.run_name (members : List (String × Json)) (name : String) (frames : List Frame)
    (rest : List Token) :
    State.run mode (.needsName members frames) (.string (some name) :: .colon :: rest) =
      State.run mode (.needsValue (.object members name :: frames)) rest := by
  have hname : State.step mode (.needsName members frames) (.string (some name)) =
      some (.needsColon members name frames) := by
    simp only [State.step, stepName, Mode.text?_some, Option.map_some]
  rw [State.run_cons_of_some hname, State.run_cons_of_some rfl]

/-- The first member of an object begins as any other one. -/
theorem State.run_opensObject (name : String) (frames : List Frame) (rest : List Token) :
    State.run mode (.opensObject frames) (.string (some name) :: rest) =
      State.run mode (.needsName [] frames) (.string (some name) :: rest) := rfl

mutual

/-- Where a value has to follow, its tokens complete it. -/
theorem State.run_tokens (frames : List Frame) (rest : List Token) : (value : Json) →
    State.run mode (.needsValue frames) (value.tokens ++ rest) =
      State.run mode (.complete value frames) rest
  | null | bool _ | number _ => rfl
  | string text => by
    have hstep : State.step mode (.needsValue frames) (.string (some text)) =
        some (.complete (.string text) frames) := by
      simp only [State.step, stepValue, Mode.text?_some, Option.map_some]
    rw [tokens, List.singleton_append, State.run_cons_of_some hstep]
  | array [] => rfl
  | array (item :: items) => by
    rw [tokens, itemsTokens, List.cons_append, State.run_cons_of_some rfl, List.append_assoc,
      State.run_opensArray, State.run_tokens _ _ item, State.run_itemsTail item [] frames rest items]
    rfl
  | object [] => rfl
  | object ((name, value) :: members) => by
    rw [tokens, membersTokens, List.cons_append, State.run_cons_of_some rfl, List.cons_append,
      List.cons_append, State.run_opensObject, State.run_name, List.append_assoc,
      State.run_tokens _ _ value, State.run_membersTail name value [] frames rest members]
    rfl

/-- Behind an item, the other items and the bracket complete the array. -/
theorem State.run_itemsTail (item : Json) (done : List Json) (frames : List Frame)
    (rest : List Token) : (items : List Json) →
    State.run mode (.complete item (.array done :: frames)) (itemsTail items ++ rest) =
      State.run mode (.complete (.array (done.reverse ++ item :: items)) frames) rest
  | [] => by
    rw [itemsTail, List.singleton_append, State.run_cons_of_some rfl, List.reverse_cons]
  | next :: items => by
    rw [itemsTail, List.cons_append, State.run_cons_of_some rfl, List.append_assoc,
      State.run_tokens _ _ next, State.run_itemsTail next (item :: done) frames rest items,
      List.reverse_cons, List.append_assoc, List.singleton_append]

/-- Behind a member, the other members and the brace complete the object. -/
theorem State.run_membersTail (name : String) (value : Json) (done : List (String × Json))
    (frames : List Frame) (rest : List Token) : (members : List (String × Json)) →
    State.run mode (.complete value (.object done name :: frames)) (membersTail members ++ rest) =
      State.run mode (.complete (.object (done.reverse ++ (name, value) :: members)) frames) rest
  | [] => by
    rw [membersTail, List.singleton_append, State.run_cons_of_some rfl, List.reverse_cons]
  | (next, nextValue) :: members => by
    rw [membersTail, List.cons_append, State.run_cons_of_some rfl, List.cons_append,
      List.cons_append, State.run_name, List.append_assoc, State.run_tokens _ _ nextValue,
      State.run_membersTail next nextValue ((name, value) :: done) frames rest members,
      List.reverse_cons, List.append_assoc, List.singleton_append]

end

/-! ## Nothing else is read as the value

Tokens that have been taken can be told from the state, since all that it holds is
complete: items and members in front of a comma, and the brackets around them. -/

/-- The tokens of complete items with a comma behind each, the last item first. -/
def doneItems (items : List Json) : List Token :=
  items.reverse.flatMap fun item => item.tokens ++ [.comma]

/-- The tokens of complete members with a comma behind each, the last one first. -/
def doneMembers (members : List (String × Json)) : List Token :=
  members.reverse.flatMap fun (name, value) =>
    .string (some name) :: .colon :: (value.tokens ++ [.comma])

/-- The tokens from the opening of a frame on. -/
def Frame.taken : Frame → List Token
  | .array items => .leftBracket :: doneItems items
  | .object members name =>
    .leftBrace :: (doneMembers members ++ [.string (some name), .colon])

/-- The tokens of the frames that are open, the outermost one last. -/
def framesTaken (frames : List Frame) : List Token :=
  frames.reverse.flatMap Frame.taken

/-- The tokens taken so far. -/
def State.taken : State → List Token
  | .needsValue frames => framesTaken frames
  | .opensArray frames => framesTaken frames ++ [.leftBracket]
  | .opensObject frames => framesTaken frames ++ [.leftBrace]
  | .needsName members frames => framesTaken frames ++ .leftBrace :: doneMembers members
  | .needsColon members name frames =>
    framesTaken frames ++ .leftBrace :: (doneMembers members ++ [.string (some name)])
  | .complete value frames => framesTaken frames ++ value.tokens

theorem itemsTail_append (items : List Json) (last : Json) :
    itemsTail (items ++ [last]) =
      .comma :: (items.flatMap (fun item => item.tokens ++ [.comma]) ++
        (last.tokens ++ [.rightBracket])) := by
  induction items with
  | nil => simp [itemsTail]
  | cons item items ih => simp [itemsTail, ih]

theorem itemsTokens_reverse (last : Json) (done : List Json) :
    itemsTokens (done.reverse ++ [last]) = doneItems done ++ (last.tokens ++ [.rightBracket]) := by
  rw [doneItems]
  cases done.reverse with
  | nil => simp [itemsTokens, itemsTail]
  | cons item items => simp [itemsTokens, itemsTail_append]

theorem membersTail_append (members : List (String × Json)) (name : String) (last : Json) :
    membersTail (members ++ [(name, last)]) =
      .comma :: (members.flatMap (fun (name, value) =>
          .string (some name) :: .colon :: (value.tokens ++ [.comma])) ++
        .string (some name) :: .colon :: (last.tokens ++ [.rightBrace])) := by
  induction members with
  | nil => simp [membersTail]
  | cons member members ih => simp [membersTail, ih]

theorem membersTokens_reverse (name : String) (last : Json) (done : List (String × Json)) :
    membersTokens (done.reverse ++ [(name, last)]) =
      doneMembers done ++ .string (some name) :: .colon :: (last.tokens ++ [.rightBrace]) := by
  rw [doneMembers]
  cases done.reverse with
  | nil => simp [membersTokens, membersTail]
  | cons member members => simp [membersTokens, membersTail_append]

@[simp] theorem framesTaken_cons (frame : Frame) (frames : List Frame) :
    framesTaken (frame :: frames) = framesTaken frames ++ frame.taken := by
  simp [framesTaken]

@[simp] theorem doneItems_nil : doneItems [] = [] := rfl

@[simp] theorem doneItems_cons (item : Json) (items : List Json) :
    doneItems (item :: items) = doneItems items ++ (item.tokens ++ [.comma]) := by
  simp [doneItems]

@[simp] theorem doneMembers_nil : doneMembers [] = [] := rfl

@[simp] theorem doneMembers_cons (name : String) (value : Json) (members : List (String × Json)) :
    doneMembers ((name, value) :: members) =
      doneMembers members ++ .string (some name) :: .colon :: (value.tokens ++ [.comma]) := by
  simp [doneMembers]

theorem stepValue_taken {frames : List Frame} {token : Token} {next : State}
    (h : stepValue .strict frames token = some next) :
    next.taken = framesTaken frames ++ [token] := by
  cases token with
  | string text? =>
    cases text? with
    | none => cases h
    | some text => cases h; rfl
  | null | bool | number | leftBracket | leftBrace => cases h; rfl
  | rightBracket | rightBrace | comma | colon => cases h

theorem stepName_taken {members : List (String × Json)} {frames : List Frame} {token : Token}
    {next : State} (h : stepName .strict members frames token = some next) :
    next.taken = framesTaken frames ++ .leftBrace :: (doneMembers members ++ [token]) := by
  cases token with
  | string text? =>
    cases text? with
    | none => cases h
    | some text => cases h; rfl
  | null | bool | number | leftBracket | leftBrace => cases h
  | rightBracket | rightBrace | comma | colon => cases h

theorem stepComplete_taken {value : Json} {frames : List Frame} {token : Token} {next : State}
    (h : stepComplete value frames token = some next) :
    next.taken = framesTaken frames ++ value.tokens ++ [token] := by
  unfold stepComplete at h
  split at h
  · cases h
    simp [State.taken, Frame.taken]
  · cases h
    simp [State.taken, Frame.taken, tokens, itemsTokens_reverse]
  · cases h
    simp [State.taken, Frame.taken]
  · cases h
    simp [State.taken, Frame.taken, tokens, membersTokens_reverse]
  · cases h

/-- A step takes exactly its own token. -/
theorem State.taken_step {state next : State} {token : Token}
    (h : state.step .strict token = some next) : next.taken = state.taken ++ [token] := by
  unfold State.step at h
  split at h
  · exact stepValue_taken h
  · cases h
    simp [State.taken, tokens, itemsTokens]
  · rw [stepValue_taken h]
    simp [State.taken, Frame.taken]
  · cases h
    simp [State.taken, tokens, membersTokens]
  · rw [stepName_taken h]
    simp [State.taken]
  · rw [stepName_taken h]
    simp [State.taken]
  · cases h
    simp [State.taken, Frame.taken]
  · cases h
  · exact stepComplete_taken h

/-- A run that comes to an end has taken the tokens of its value. -/
theorem State.taken_run {state : State} {tokens rest : List Token} {value : Json}
    (h : state.run .strict tokens = some (value, rest)) :
    state.taken ++ tokens = value.tokens ++ rest := by
  -- `state.taken ++ tokens` is the whole input, and stays so with every step.
  induction tokens generalizing state with
  | nil =>
    obtain ⟨rfl, rfl⟩ | ⟨_, _, _, hcons, _⟩ := State.run_cases h
    · rfl
    · cases hcons
  | cons token tokens ih =>
    obtain ⟨rfl, rfl⟩ | ⟨_, _, next, hcons, hstep, hrun⟩ := State.run_cases h
    · rfl
    · cases hcons
      rw [← ih hrun, State.taken_step hstep, List.append_assoc, List.singleton_append]

/-! ## Values and texts -/

/-- A value is read off its own tokens, and off no others. -/
theorem readValue_eq_some_iff {tokens rest : List Token} {value : Json} :
    readValue tokens = some (value, rest) ↔ tokens = value.tokens ++ rest := by
  constructor
  · intro h
    exact State.taken_run h
  · rintro rfl
    rw [readValue, State.run_tokens, State.run_complete]

/-- The tokens of a value are passed over as one value. -/
theorem skipValue_tokens (value : Json) (rest : List Token) :
    skipValue (value.tokens ++ rest) = some rest := by
  rw [skipValue, State.run_tokens, State.run_complete, Option.map_some]

/-- What can be passed over is passed over in front of more tokens, too. -/
theorem skipValue_append {tokens rest : List Token} (h : skipValue tokens = some rest)
    (more : List Token) : skipValue (tokens ++ more) = some (rest ++ more) := by
  rw [skipValue, Option.map_eq_some_iff] at h
  obtain ⟨⟨value, rest⟩, hrun, rfl⟩ := h
  rw [skipValue, State.run_append hrun, Option.map_some]

/-- The value of a text is the one that its tokens are the tokens of. -/
theorem parse?_eq_some_iff {text : String} {value : Json} :
    parse? text = some value ↔ scan text.toList = ⟨value.tokens, true⟩ := by
  constructor
  · intro h
    simp only [parse?] at h
    split at h
    · next hread =>
      have htokens := readValue_eq_some_iff.mp hread
      split at h
      · next hcomplete =>
        cases h
        rw [← List.append_nil value.tokens, ← htokens, ← hcomplete]
      · cases h
    · cases h
  · intro h
    have hread : readValue value.tokens = some (value, []) :=
      readValue_eq_some_iff.mpr (List.append_nil _).symm
    simp [parse?, h, hread]

end BranchlessCalc.Json
