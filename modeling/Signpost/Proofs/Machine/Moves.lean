import Signpost.Proofs.Machine.Entry

/-!
# Moves of the cursor

Whatever the code is, a run moves the cursor by one segment at a time, only over segments that exist,
and counts every move. Frames come and go with bodies, and global variables stay once they are set.
-/
namespace Signpost.Machine

variable {request : Request} {state : MachineState}

/-! ### Rendering -/

theorem renderAll_calls (request : Request) (state : MachineState)
    (templates : List CompiledTemplate) :
    ∃ calls, (renderAll request state templates).2 = { state with calls } := by
  induction templates generalizing state with
  | nil => exact ⟨state.calls, rfl⟩
  | cons template rest ih =>
    obtain ⟨calls, later⟩ := ih (render request state template).2
    refine ⟨calls, ?_⟩
    simp only [renderAll, later]
    rfl

theorem renderEntries_calls (request : Request) (state : MachineState)
    (entries : List (String × CompiledTemplate)) :
    ∃ calls, (renderEntries request state entries).2 = { state with calls } := by
  simpa only [renderEntries] using renderAll_calls request state (entries.map (·.2))

/-- A call changes nothing but the list of calls. -/
theorem call_calls (request : Request) (state : MachineState) (site : CallSite) :
    ∃ calls, (call request state site).2 = { state with calls } := by
  obtain ⟨calls, rendered⟩ := renderAll_calls request state site.arguments
  simp only [call, rendered]
  exact ⟨_, rfl⟩

theorem switchValue_calls (request : Request) (state : MachineState) (value : SwitchValue) :
    ∃ calls, (switchValue request state value).2 = { state with calls } := by
  cases value with
  | template source => exact ⟨_, rfl⟩
  | call site => exact call_calls request state site

theorem chooseCase_calls (request : Request) (state : MachineState) (value : String)
    (default : Option (List Instruction)) (cases : List (CompiledTemplate × List Instruction)) :
    ∃ calls, (chooseCase request state value default cases).1 = { state with calls } := by
  induction cases generalizing state with
  | nil => exact ⟨state.calls, rfl⟩
  | cons first rest ih =>
    rw [chooseCase]
    dsimp only
    split
    · exact ⟨_, rfl⟩
    · obtain ⟨calls, later⟩ := ih (render request state first.1).2
      exact ⟨calls, later⟩

/-! ### What every instruction keeps -/

/-- The cursor stands behind segments that exist, and the moves so far account for its place. -/
structure Steady (request : Request) (state : MachineState) : Prop where
  bounded : state.cursor ≤ request.segments.length
  balanced : state.advances = state.retreats + state.cursor

/-- The state that an instruction is left in, or that the body it enters begins in. -/
def Entry.after : Entry → MachineState
  | .done flow => flow.2
  | .body _ state _ => state

theorem Steady.start (request : Request) : Steady request {} := ⟨Nat.zero_le _, rfl⟩

theorem Steady.advance (steady : Steady request state) (index : Nat) :
    Steady request (Machine.advance request state index) := by
  rw [Machine.advance]
  split
  next moves =>
    obtain ⟨here, there⟩ := moves
    obtain ⟨inside, -⟩ := List.getElem?_eq_some_iff.mp (Option.get_mem there)
    have balanced := steady.balanced
    refine ⟨inside, ?_⟩
    dsimp only
    omega
  next => exact steady

theorem Steady.retreat (steady : Steady request state) (index : Nat) :
    Steady request (Machine.retreat state index) := by
  rw [Machine.retreat]
  split
  next behind =>
    have bounded := steady.bounded
    have balanced := steady.balanced
    refine ⟨?_, ?_⟩
    all_goals
      dsimp only
      omega
  next => exact steady

/-- An instruction is one of the two moves, or it changes the scope and the calls only. -/
theorem entry_cases (request : Request) (state : MachineState) (instruction : Instruction) :
    (∃ index, instruction = .advance index) ∨ (∃ index, instruction = .retreat index) ∨
    ∃ scope calls, (entry request state instruction).after = { state with scope, calls } ∧
      state.scope.globals <:+ scope.globals := by
  cases instruction with
  | advance index => exact .inl ⟨index, rfl⟩
  | retreat index => exact .inr (.inl ⟨index, rfl⟩)
  | scope bindings body =>
    obtain ⟨calls, rendered⟩ := renderEntries_calls request state bindings
    refine .inr (.inr ⟨state.scope.push (renderEntries request state bindings).1, calls, ?_,
      List.suffix_rfl⟩)
    simp only [entry, Entry.after, push, rendered]
  | literals index arms lookup =>
    refine .inr (.inr ⟨state.scope, state.calls, ?_, List.suffix_rfl⟩)
    simp only [entry]
    split <;> rfl
  | patterns index groups arms =>
    simp only [entry]
    split
    · exact .inr (.inr ⟨_, state.calls, rfl, List.suffix_rfl⟩)
    · exact .inr (.inr ⟨_, state.calls, rfl, List.suffix_rfl⟩)
  | test regex subject body =>
    simp only [entry]
    split
    · exact .inr (.inr ⟨_, _, rfl, List.suffix_rfl⟩)
    · exact .inr (.inr ⟨_, _, rfl, List.suffix_rfl⟩)
  | switch value cases default =>
    obtain ⟨calls, valued⟩ := switchValue_calls request state value
    obtain ⟨more, chosen⟩ := chooseCase_calls request (switchValue request state value).2
      (switchValue request state value).1 default cases
    refine .inr (.inr ⟨state.scope, more, ?_, List.suffix_rfl⟩)
    -- rendering the value and comparing it with the cases both touch the calls alone
    have same : (chooseCase request (switchValue request state value).2
        (switchValue request state value).1 default cases).1 = { state with calls := more } := by
      rw [chosen, valued]
    simp only [entry]
    split
    next equal =>
      rw [equal] at same
      exact same
    next equal =>
      rw [equal] at same
      exact same
  | set name value =>
    exact .inr (.inr ⟨_, _, rfl, List.suffix_cons _ _⟩)
  | call site =>
    obtain ⟨calls, called⟩ := call_calls request state site
    exact .inr (.inr ⟨state.scope, calls, called, List.suffix_rfl⟩)
  | «return» fields =>
    obtain ⟨calls, rendered⟩ := renderEntries_calls request state fields
    exact .inr (.inr ⟨state.scope, calls, rendered, List.suffix_rfl⟩)

theorem entry_steady (steady : Steady request state) (instruction : Instruction) :
    Steady request (entry request state instruction).after := by
  rcases entry_cases request state instruction with ⟨index, rfl⟩ | ⟨index, rfl⟩ |
    ⟨scope, calls, same, -⟩
  · exact steady.advance index
  · exact steady.retreat index
  · exact same ▸ ⟨steady.bounded, steady.balanced⟩

theorem entry_globals (request : Request) (state : MachineState) (instruction : Instruction) :
    state.scope.globals <:+ (entry request state instruction).after.scope.globals := by
  rcases entry_cases request state instruction with ⟨index, rfl⟩ | ⟨index, rfl⟩ |
    ⟨scope, calls, same, kept⟩
  · simp only [entry, Entry.after, advance_scope]
    exact List.suffix_rfl
  · simp only [entry, Entry.after, retreat_scope]
    exact List.suffix_rfl
  · rwa [same]

/-- An instruction that enters a body is no move, so it leaves the cursor to the body. -/
theorem entered_cursor {instruction : Instruction} {framed : Bool} {inner : MachineState}
    {code : List Instruction} (entered : entry request state instruction = .body framed inner code) :
    inner.cursor = state.cursor := by
  rcases entry_cases request state instruction with ⟨index, rfl⟩ | ⟨index, rfl⟩ |
    ⟨scope, calls, same, -⟩
  · cases entered
  · cases entered
  · rw [entered] at same
    have cursors := congrArg MachineState.cursor same
    exact cursors

/-! ### What every run keeps -/

theorem runBody_single (request : Request) (state : MachineState) (instruction : Instruction) :
    runBody request state [instruction] = runInstruction request state instruction := by
  rw [runBody]
  split
  next ran => exact ran.symm
  next ran =>
    rw [runBody]
    exact ran.symm

/-- A property of states that every entry keeps, and that does not hang on frames, is kept by runs. -/
theorem runBody_keeps (kept : MachineState → Prop)
    (each : ∀ state instruction, kept state → kept (entry request state instruction).after)
    (frameless : ∀ state : MachineState, kept state →
      kept { state with scope := state.scope.pop })
    (code : List Instruction) (initial : kept state) : kept (runBody request state code).2 := by
  -- The induction follows a run: into the body that an instruction enters, and on behind the
  -- instruction.
  induction code using body_induction generalizing state with
  | nil => exact initial
  | cons instruction rest behind within =>
    have entered := each state instruction initial
    have here : kept (runInstruction request state instruction).2 := by
      rw [runInstruction_eq]
      cases equal : entry request state instruction with
      | done flow =>
        rw [equal] at entered
        exact entered
      | body framed inner code =>
        rw [equal] at entered
        have inside := within equal entered
        cases framed with
        | true => exact frameless _ inside
        | false => exact inside
    rw [runBody]
    split
    next ran =>
      rw [ran] at here
      exact here
    next ran =>
      rw [ran] at here
      exact behind here

theorem runBody_steady (steady : Steady request state) (code : List Instruction) :
    Steady request (runBody request state code).2 :=
  runBody_keeps (Steady request) (fun _ instruction steady => entry_steady steady instruction)
    (fun _ steady => ⟨steady.bounded, steady.balanced⟩) code steady

/-- Global variables are only added, in front of what there was. -/
theorem runBody_globals (request : Request) (state : MachineState) (code : List Instruction) :
    state.scope.globals <:+ (runBody request state code).2.scope.globals :=
  runBody_keeps (fun after => state.scope.globals <:+ after.scope.globals)
    (fun after instruction kept => kept.trans (entry_globals request after instruction))
    (fun _ kept => kept) code List.suffix_rfl

/-! ### Places of a run -/

/-- A run that begins with some code passes instructions of it, and `left` remains. -/
inductive Passes (request : Request) :
    MachineState → List Instruction → MachineState → List Instruction → Prop
  | stop {state : MachineState} {code : List Instruction} : Passes request state code state code
  | pass {state next later : MachineState} {instruction : Instruction} {rest left : List Instruction}
      (passed : runInstruction request state instruction = (none, next))
      (behind : Passes request next rest later left) :
    Passes request state (instruction :: rest) later left

/-- Two runs have ended alike, apart from the frames that one of them has left. -/
structure EndsAs (whole part : Flow) : Prop where
  outcome : whole.1 = part.1
  cursor : whole.2.cursor = part.2.cursor
  advances : whole.2.advances = part.2.advances
  retreats : whole.2.retreats = part.2.retreats
  calls : whole.2.calls = part.2.calls

theorem EndsAs.refl (flow : Flow) : EndsAs flow flow := ⟨rfl, rfl, rfl, rfl, rfl⟩

theorem EndsAs.trans {whole part last : Flow} (first : EndsAs whole part) (second : EndsAs part last) :
    EndsAs whole last where
  outcome := first.outcome.trans second.outcome
  cursor := first.cursor.trans second.cursor
  advances := first.advances.trans second.advances
  retreats := first.retreats.trans second.retreats
  calls := first.calls.trans second.calls

/-- A run that ends inside a body that it has entered ends as the body does. -/
theorem endsAs_entered {instruction : Instruction} {framed : Bool} {inner : MachineState}
    {body rest : List Instruction} {outcome : Outcome}
    (entered : entry request state instruction = .body framed inner body)
    (ended : (runBody request inner body).1 = some outcome) :
    EndsAs (runBody request state (instruction :: rest)) (runBody request inner body) := by
  have here : EndsAs (runInstruction request state instruction) (runBody request inner body) := by
    rw [runInstruction_eq, entered]
    cases framed with
    | true => exact ⟨rfl, rfl, rfl, rfl, rfl⟩
    | false => exact .refl _
  have answered := here.outcome.trans ended
  rw [runBody]
  split
  next ran =>
    rw [ran] at here
    exact here
  next ran =>
    rw [ran] at answered
    cases answered

theorem Passes.snoc {code rest : List Instruction} {here next : MachineState}
    {instruction : Instruction} (passes : Passes request state code here (instruction :: rest))
    (passed : runInstruction request here instruction = (none, next)) :
    Passes request state code next rest := by
  generalize remaining : instruction :: rest = left at passes
  induction passes with
  | stop =>
    subst remaining
    exact .pass passed .stop
  | pass first _ ih => exact .pass first (ih passed remaining)

/-- Only a return ends a run at once. -/
theorem return_of_done {instruction : Instruction} {outcome : Outcome} {after : MachineState}
    (done : entry request state instruction = .done (some outcome, after)) :
    ∃ fields, instruction = .return fields := by
  cases instruction with
  | «return» fields => exact ⟨fields, rfl⟩
  | literals | patterns | test | «switch» =>
    simp only [entry] at done
    split at done <;> cases done
  | _ => cases done

/-- A run that ends early has come to a return. -/
theorem visits_return {code : List Instruction} {outcome : Outcome}
    (ended : (runBody request state code).1 = some outcome) :
    ∃ later fields, Visits request state code later (.return fields) := by
  induction code using body_induction generalizing state with
  | nil => cases ended
  | cons instruction rest behind within =>
    rw [runBody] at ended
    split at ended
    next result after ran =>
      cases ended
      rw [runInstruction_eq] at ran
      cases entered : entry request state instruction with
      | done flow =>
        rw [entered, Entry.run] at ran
        subst ran
        obtain ⟨fields, rfl⟩ := return_of_done entered
        exact ⟨state, fields, .here⟩
      | body framed inner body =>
        rw [entered] at ran
        -- a frame is taken down behind its body, and this does not change how the body has ended
        have inside : (runBody request inner body).1 = some outcome := by
          have flow := congrArg Prod.fst ran
          cases framed with
          | true => exact flow
          | false => exact flow
        obtain ⟨later, fields, visit⟩ := within entered inside
        exact ⟨later, fields, .within entered visit⟩
    next after ran =>
      obtain ⟨later, fields, visit⟩ := behind ended
      exact ⟨later, fields, .behind ran visit⟩

theorem Passes.steady {code left : List Instruction} {here : MachineState}
    (passes : Passes request state code here left) (steady : Steady request state) :
    Steady request here := by
  induction passes with
  | stop => exact steady
  | @pass state next later instruction rest left passed _ ih =>
    have alone := runBody_steady steady [instruction]
    rw [runBody_single, passed] at alone
    exact ih alone

theorem Passes.run {code left : List Instruction} {here : MachineState}
    (passes : Passes request state code here left) :
    runBody request state code = runBody request here left := by
  induction passes with
  | stop => rfl
  | pass passed _ ih =>
    rw [runBody, passed]
    exact ih

end Signpost.Machine
