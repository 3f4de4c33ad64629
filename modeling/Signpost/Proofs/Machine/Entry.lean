import Signpost.Machine

/-!
# Entering bodies

An instruction either is done at once or goes on with one of the bodies that it holds, perhaps with
a frame around it. `entry` says which, without running the body, so a proof about runs treats every
instruction once and then follows the nesting of bodies. The places that a run comes to are those
where it enters a body or moves on behind an instruction that has not ended it.
-/
namespace Signpost.Machine

variable {request : Request} {state : MachineState}

/-! ### Rendering -/

@[simp]
theorem render_scope (template : CompiledTemplate) :
    (render request state template).2.scope = state.scope := rfl

@[simp]
theorem render_cursor (template : CompiledTemplate) :
    (render request state template).2.cursor = state.cursor := rfl

@[simp]
theorem renderAll_scope (templates : List CompiledTemplate) :
    (renderAll request state templates).2.scope = state.scope := by
  induction templates generalizing state with
  | nil => rfl
  | cons template rest ih => simp [renderAll, ih]

@[simp]
theorem renderAll_cursor (templates : List CompiledTemplate) :
    (renderAll request state templates).2.cursor = state.cursor := by
  induction templates generalizing state with
  | nil => rfl
  | cons template rest ih => simp [renderAll, ih]

theorem length_renderAll (templates : List CompiledTemplate) :
    (renderAll request state templates).1.length = templates.length := by
  induction templates generalizing state with
  | nil => rfl
  | cons template rest ih => simp [renderAll, ih]

@[simp]
theorem renderEntries_scope (entries : List (String × CompiledTemplate)) :
    (renderEntries request state entries).2.scope = state.scope := by
  simp [renderEntries]

@[simp]
theorem renderEntries_cursor (entries : List (String × CompiledTemplate)) :
    (renderEntries request state entries).2.cursor = state.cursor := by
  simp [renderEntries]

/-- Rendering gives every name its text. -/
theorem renderEntries_names (entries : List (String × CompiledTemplate)) :
    (renderEntries request state entries).1.map (·.1) = entries.map (·.1) := by
  simp [renderEntries, List.map_fst_zip, length_renderAll]

/-- Templates are rendered independently of each other. -/
theorem renderAll_texts (templates : List CompiledTemplate) :
    (renderAll request state templates).1
      = templates.map fun template => (renderParts request state.scope template.parts).1 := by
  induction templates generalizing state with
  | nil => rfl
  | cons template rest ih =>
    rw [renderAll, List.map_cons]
    dsimp only
    rw [ih, render_scope]
    rfl

theorem renderEntries_texts (entries : List (String × CompiledTemplate)) :
    (renderEntries request state entries).1
      = entries.map fun entry => (entry.1, (renderParts request state.scope entry.2.parts).1) := by
  rw [renderEntries]
  dsimp only
  rw [renderAll_texts, List.map_map, List.zip_map']
  rfl

@[simp]
theorem call_scope (site : CallSite) : (call request state site).2.scope = state.scope := by
  simp [call]

@[simp]
theorem switchValue_scope (value : SwitchValue) :
    (switchValue request state value).2.scope = state.scope := by
  cases value <;> simp [switchValue]

@[simp]
theorem advance_scope (index : Nat) : (advance request state index).scope = state.scope := by
  rw [advance]
  split <;> rfl

@[simp]
theorem retreat_scope (index : Nat) : (retreat state index).scope = state.scope := by
  rw [retreat]
  split <;> rfl

/-! ### What an instruction enters -/

/-- How an instruction goes on: it is done, or a body runs, perhaps in a frame of its own. -/
inductive Entry
  | done (flow : Flow)
  | body (framed : Bool) (state : MachineState) (code : List Instruction)

def Entry.run (request : Request) : Entry → Flow
  | .done flow => flow
  | .body true state code => leave (runBody request state code)
  | .body false state code => runBody request state code

/-- The body of the first case whose rendered value is the given one, or else the default. -/
def chooseCase (request : Request) (state : MachineState) (value : String)
    (default : Option (List Instruction)) :
    List (CompiledTemplate × List Instruction) → MachineState × Option (List Instruction)
  | [] => (state, default)
  | (template, body) :: rest =>
    let (text, state) := render request state template
    if text = value then (state, some body) else chooseCase request state value default rest

def entry (request : Request) (state : MachineState) : Instruction → Entry
  | .advance index => .done (none, advance request state index)
  | .retreat index => .done (none, retreat state index)
  | .scope bindings body =>
    let (frame, state) := renderEntries request state bindings
    .body true (push state frame) body
  | .literals index arms lookup =>
    match (current? request state index).bind fun segment => lookup.lookup segment with
    | some arm => .body false state ((arms[arm]?.map (·.2)).getD [])
    | none => .done (none, state)
  | .patterns index groups arms =>
    match (current? request state index).bind (select groups) with
    | some (arm, frame) => .body true (push state frame) (arms[arm]?.getD [])
    | none => .done (none, state)
  | .test regex subject body =>
    let (subject, state) := render request state subject
    match testFrame? regex subject with
    | some frame => .body true (push state frame) body
    | none => .done (none, state)
  | .switch value cases default =>
    let (value, state) := switchValue request state value
    match chooseCase request state value default cases with
    | (state, some body) => .body false state body
    | (state, none) => .done (none, state)
  | .set name value =>
    let (value, state) := render request state value
    .done (none, { state with scope := state.scope.set name value })
  | .call site => .done (none, (call request state site).2)
  | .return fields =>
    let (fields, state) := renderEntries request state fields
    .done (some (.ofFields fields), state)

theorem runLiteral_eq (arm : Nat) (arms : List (String × List Instruction)) :
    runLiteral request state arm arms
      = runBody request state ((arms[arm]?.map (·.2)).getD []) := by
  induction arms generalizing arm with
  | nil => simp [runLiteral, runBody]
  | cons first rest ih =>
    cases arm with
    | zero => simp [runLiteral]
    | succ arm => simpa [runLiteral] using ih arm

theorem runArm_eq (arm : Nat) (arms : List (List Instruction)) :
    runArm request state arm arms = runBody request state (arms[arm]?.getD []) := by
  induction arms generalizing arm with
  | nil => simp [runArm, runBody]
  | cons first rest ih =>
    cases arm with
    | zero => simp [runArm]
    | succ arm => simpa [runArm] using ih arm

theorem runCases_eq (value : String) (default : Option (List Instruction))
    (cases : List (CompiledTemplate × List Instruction)) :
    runCases request state value (fun state => runDefault request state default) cases
      = match chooseCase request state value default cases with
        | (state, some body) => runBody request state body
        | (state, none) => (none, state) := by
  induction cases generalizing state with
  | nil => cases default <;> simp [runCases, chooseCase, runDefault]
  | cons first rest ih =>
    obtain ⟨template, body⟩ := first
    simp only [runCases, chooseCase]
    split
    · rfl
    · exact ih

/-- An instruction runs as its entry says. -/
theorem runInstruction_eq (instruction : Instruction) :
    runInstruction request state instruction = (entry request state instruction).run request := by
  cases instruction with
  | literals index arms lookup =>
    rw [runInstruction, entry]
    cases (current? request state index).bind fun segment => lookup.lookup segment with
    | some arm => exact runLiteral_eq arm arms
    | none => rfl
  | patterns index groups arms =>
    rw [runInstruction, entry]
    cases (current? request state index).bind (select groups) with
    -- the run leaves the frame of the pattern again, which is what an entry with a frame does
    | some selected => exact congrArg leave (runArm_eq selected.1 arms)
    | none => rfl
  | test regex subject body =>
    simp only [runInstruction, entry]
    cases testFrame? regex (render request state subject).1 <;> rfl
  | switch value cases default =>
    -- both sides now choose the same case, and only that choice decides how they go on
    simp only [runInstruction, entry, runCases_eq]
    cases chooseCase request _ _ default cases with
    | mk after chosen => cases chosen <;> rfl
  | _ => simp only [runInstruction, entry, Entry.run]

@[simp]
theorem chooseCase_scope (request : Request) (state : MachineState) (value : String) (default : Option (List Instruction))
    (cases : List (CompiledTemplate × List Instruction)) :
    (chooseCase request state value default cases).1.scope = state.scope := by
  induction cases generalizing state with
  | nil => rfl
  | cons first rest ih =>
    rw [chooseCase]
    dsimp only
    split
    · rfl
    · exact ih _

/-- A chosen body is that of a case or the default. -/
theorem chooseCase_body {value : String} {default : Option (List Instruction)}
    {cases : List (CompiledTemplate × List Instruction)} {code : List Instruction}
    (chosen : (chooseCase request state value default cases).2 = some code) :
    (∃ template, (template, code) ∈ cases) ∨ default = some code := by
  induction cases generalizing state with
  | nil => exact .inr chosen
  | cons first rest ih =>
    rw [chooseCase] at chosen
    dsimp only at chosen
    split at chosen
    · cases chosen
      exact .inl ⟨first.1, List.mem_cons_self⟩
    · rcases ih chosen with ⟨template, member⟩ | last
      · exact .inl ⟨template, List.mem_cons_of_mem _ member⟩
      · exact .inr last

theorem sizeOf_nil_le {α β : Type} [SizeOf α] [SizeOf β] (items : List α) :
    sizeOf ([] : List β) ≤ sizeOf items := by
  cases items with
  | nil => exact Nat.le_refl 1
  | cons first rest =>
    rw [List.cons.sizeOf_spec, List.nil.sizeOf_spec]
    omega

theorem sizeOf_arm (arms : List (List Instruction)) (arm : Nat) :
    sizeOf (arms[arm]?.getD []) ≤ sizeOf arms := by
  cases found : arms[arm]? with
  | none => exact sizeOf_nil_le arms
  | some body => exact Nat.le_of_lt (List.sizeOf_lt_of_mem (List.mem_of_getElem? found))

theorem sizeOf_literal (arms : List (String × List Instruction)) (arm : Nat) :
    sizeOf ((arms[arm]?.map (·.2)).getD []) ≤ sizeOf arms := by
  cases found : arms[arm]? with
  | none => exact sizeOf_nil_le arms
  | some pair =>
    have inside := List.sizeOf_lt_of_mem (List.mem_of_getElem? found)
    obtain ⟨literal, body⟩ := pair
    simp only [Option.map_some, Option.getD_some, Prod.mk.sizeOf_spec] at inside ⊢
    omega

/-- A body that is entered is a part of its instruction. -/
theorem sizeOf_entry {instruction : Instruction} {framed : Bool} {inner : MachineState}
    {code : List Instruction} (entered : entry request state instruction = .body framed inner code) :
    sizeOf code < sizeOf instruction := by
  cases instruction with
  | literals index arms lookup =>
    rw [entry] at entered
    split at entered
    next arm _ =>
      cases entered
      -- the arm is only looked up, so that it may be missing: an empty body is smaller as well
      have part := sizeOf_literal arms arm
      simp only [Instruction.literals.sizeOf_spec]
      omega
    next => cases entered
  | patterns index groups arms =>
    rw [entry] at entered
    split at entered
    next arm frame _ =>
      cases entered
      have part := sizeOf_arm arms arm
      simp only [Instruction.patterns.sizeOf_spec]
      omega
    next => cases entered
  | scope bindings body =>
    cases entered
    simp only [Instruction.scope.sizeOf_spec]
    omega
  | test regex subject body =>
    simp only [entry] at entered
    split at entered
    · cases entered
      simp only [Instruction.test.sizeOf_spec]
      omega
    · cases entered
  | switch value cases default =>
    simp only [entry] at entered
    split at entered
    next chosen =>
      cases entered
      simp only [Instruction.switch.sizeOf_spec]
      -- the body is that of a case or the default
      rcases chooseCase_body (congrArg Prod.snd chosen) with ⟨template, member⟩ | rfl
      · have inside := List.sizeOf_lt_of_mem member
        simp only [Prod.mk.sizeOf_spec] at inside
        omega
      · simp only [Option.some.sizeOf_spec]
        omega
    next => cases entered
  | _ => cases entered

/-- Induction on code along the bodies that a run may enter. -/
theorem body_induction {motive : List Instruction → Prop} (nil : motive [])
    (cons : ∀ instruction rest, motive rest →
      (∀ {request state framed inner code},
        entry request state instruction = .body framed inner code → motive code) →
      motive (instruction :: rest)) : ∀ code, motive code
  | [] => nil
  | instruction :: rest => by
    refine cons instruction rest (body_induction nil cons rest) ?_
    intro request state framed inner code entered
    have smaller := sizeOf_entry entered
    exact body_induction nil cons code
termination_by code => sizeOf code

/-! ### Frames -/

/-- The frames below that of the body that is entered. -/
def Entry.below : Entry → List Frame
  | .done flow => flow.2.scope.frames
  | .body true state _ => state.scope.frames.tail
  | .body false state _ => state.scope.frames

theorem entry_below (request : Request) (state : MachineState) (instruction : Instruction) :
    (entry request state instruction).below = state.scope.frames := by
  cases instruction with
  | literals index arms lookup =>
    rw [entry]
    split <;> rfl
  | patterns index groups arms =>
    rw [entry]
    split <;> rfl
  | test regex subject body =>
    simp only [entry]
    split <;> rfl
  | switch value cases default =>
    simp only [entry]
    -- choosing a case renders templates, which moves neither the frames nor the cursor
    have same : (chooseCase request (switchValue request state value).2
        (switchValue request state value).1 default cases).1.scope = state.scope := by simp
    split
    next chosen => simpa [chosen, Entry.below] using congrArg Scope.frames same
    next chosen => simpa [chosen, Entry.below] using congrArg Scope.frames same
  -- what is left either is done at once or puts one frame on top of the stack
  | _ => simp [entry, Entry.below, push, Scope.push, Scope.set]

/-- Every frame is taken off again: a run leaves the frames as it found them. -/
theorem runBody_frames (request : Request) (state : MachineState) (code : List Instruction) :
    (runBody request state code).2.scope.frames = state.scope.frames := by
  induction code using body_induction generalizing state with
  | nil => rfl
  | cons instruction rest behind within =>
    -- a frame that the entry pushes is the one that leaving it pops, and the body inside keeps it
    have here : (runInstruction request state instruction).2.scope.frames = state.scope.frames := by
      have below := entry_below request state instruction
      rw [runInstruction_eq]
      cases entered : entry request state instruction with
      | done flow =>
        rw [entered] at below
        exact below
      | body framed inner code =>
        rw [entered] at below
        have restored := within entered inner
        cases framed with
        -- the framed body: popping gives back what lay below the pushed frame
        | true =>
          simp only [Entry.run, leave, Scope.pop, restored]
          exact below
        | false => exact restored.trans below
    rw [runBody]
    split
    next ran => rw [← here, ran]
    next ran => rw [behind, ← here, ran]

theorem runInstruction_frames (request : Request) (state : MachineState) (instruction : Instruction) :
    (runInstruction request state instruction).2.scope.frames = state.scope.frames := by
  have alone := runBody_frames request state [instruction]
  rw [runBody] at alone
  split at alone
  next ran => rw [ran, alone]
  next ran => rw [ran, ← alone, runBody]

/-- A run of some code comes to an instruction in a state. -/
inductive Visits (request : Request) :
    MachineState → List Instruction → MachineState → Instruction → Prop
  | here {state : MachineState} {instruction : Instruction} {rest : List Instruction} :
    Visits request state (instruction :: rest) state instruction
  | behind {state next later : MachineState} {instruction last : Instruction}
      {rest : List Instruction} (passed : runInstruction request state instruction = (none, next))
      (visit : Visits request next rest later last) :
    Visits request state (instruction :: rest) later last
  | within {state inner later : MachineState} {instruction last : Instruction} {framed : Bool}
      {code rest : List Instruction} (entered : entry request state instruction = .body framed inner code)
      (visit : Visits request inner code later last) :
    Visits request state (instruction :: rest) later last

end Signpost.Machine
