import Signpost.Proofs.Program.Dispatch
import Signpost.Proofs.Program.Merging
import Signpost.Proofs.Program.Scoping
import Signpost.Proofs.Tree.Evaluation
import Signpost.Proofs.Tree.Mirror

/-!
# Programs mean what their trees mean

Emission regroups the members of every level and turns nesting into moves of a cursor. Here a run of
the emitted code and the evaluation of the tree go side by side: they agree on the scope and on the
calls, and the cursor of the run stands at the index of the evaluation whenever a body begins or ends
without a return. The run is that of the code in which frames are searched for every variable, which
is what an evaluation does; the scoping of emitted code then takes the result to the program itself.
-/
namespace Signpost.Program

open Emission Machine

/-- A run and an evaluation stand at the same place. -/
structure Agrees (index : Nat) (machine : MachineState) (state : Evaluation.State) : Prop where
  scope : machine.scope = state.scope
  calls : machine.calls = state.calls
  cursor : machine.cursor = index

/-- A run and an evaluation have ended alike. -/
structure FlowAgrees (index : Nat) (ran : Flow) (evaluated : Evaluation.Flow) : Prop where
  outcome : ran.1 = evaluated.1
  scope : ran.2.scope = evaluated.2.scope
  calls : ran.2.calls = evaluated.2.calls
  cursor : ran.1 = none → ran.2.cursor = index

variable {context : Evaluation.Context} {index : Nat} {machine : MachineState}
  {state : Evaluation.State} {visible : List String}

/-- How the program of a context is emitted. -/
def settingOf (context : Evaluation.Context) : Setting := ⟨context.functions, context.limit⟩

theorem Agrees.flow (agrees : Agrees index machine state) :
    FlowAgrees index (none, machine) (none, state) :=
  ⟨rfl, agrees.scope, agrees.calls, fun _ => agrees.cursor⟩

theorem Agrees.flow_some {outcome : Outcome} (agrees : Agrees index machine state) :
    FlowAgrees index (some outcome, machine) (some outcome, state) :=
  ⟨rfl, agrees.scope, agrees.calls, fun none => by cases none⟩

theorem runBody_append (request : Request) (machine : MachineState) (first rest : List Instruction) :
    runBody request machine (first ++ rest)
      = match runBody request machine first with
        | (some outcome, after) => (some outcome, after)
        | (none, after) => runBody request after rest := by
  induction first generalizing machine with
  | nil => simp [runBody]
  | cons instruction others ih =>
    rw [List.cons_append, runBody, runBody]
    split
    · rfl
    · exact ih _

/-- What agrees first and then again agrees as a whole. -/
theorem FlowAgrees.sequence {between : Nat} {first rest : List Instruction}
    {evaluated : Evaluation.Flow} {next : Evaluation.State → Evaluation.Flow}
    (before : FlowAgrees between (runBody context.request machine first) evaluated)
    (behind : ∀ machine state, Agrees between machine state →
      FlowAgrees index (runBody context.request machine rest) (next state)) :
    FlowAgrees index (runBody context.request machine (first ++ rest))
      (evaluated.andThen next) := by
  rw [runBody_append]
  obtain ⟨outcome, after⟩ := evaluated
  obtain ⟨outcome_eq, scope, calls, cursor⟩ := before
  cases ran : runBody context.request machine first with
  | mk result last =>
    rw [ran] at outcome_eq scope calls cursor
    cases result with
    | some result =>
      cases outcome_eq
      exact ⟨rfl, scope, calls, fun none => by cases none⟩
    | none =>
      cases outcome_eq
      exact behind last after ⟨scope, calls, cursor rfl⟩

theorem FlowAgrees.single {instruction : Instruction} {evaluated : Evaluation.Flow}
    (runs : FlowAgrees index (runInstruction context.request machine instruction) evaluated) :
    FlowAgrees index (runBody context.request machine [instruction]) evaluated := by
  rw [runBody]
  split
  next ran =>
    rw [ran] at runs
    exact runs
  next ran =>
    rw [ran] at runs
    rw [runBody]
    exact runs

theorem FlowAgrees.framed {code : List Instruction} {frame : Frame}
    {body : Evaluation.State → Evaluation.Flow} (agrees : Agrees index machine state)
    (inside : ∀ machine state, Agrees index machine state →
      FlowAgrees index (runBody context.request machine code) (body state)) :
    FlowAgrees index (leave (runBody context.request (push machine frame) code))
      (Evaluation.framed frame state body) := by
  have pushed : Agrees index (push machine frame)
      { state with scope := state.scope.push frame } :=
    ⟨congrArg (Scope.push · frame) agrees.scope, agrees.calls, agrees.cursor⟩
  obtain ⟨outcome, scope, calls, cursor⟩ := inside _ _ pushed
  exact ⟨outcome, congrArg Scope.pop scope, calls, cursor⟩

/-! ### Rendering -/

theorem part_agrees {scope : Scope} {token : TemplateToken} {part : TemplatePart}
    (compiled : CompiledTemplate.compileToken context.functions visible token = .ok part) :
    renderPart context.request scope part.framed = Evaluation.token context scope token := by
  cases token with
  | text text =>
    cases compiled
    rfl
  | «variable» name filters =>
    rw [CompiledTemplate.compileToken] at compiled
    split at compiled
    next chain resolved =>
      cases compiled
      simp [TemplatePart.framed, renderPart, Evaluation.token, resolved, Except.toOption]
    next => cases compiled

theorem parts_agree {scope : Scope} {tokens : List TemplateToken} {parts : List TemplatePart}
    (compiled : List.Forall₂
      (fun token part => CompiledTemplate.compileToken context.functions visible token = .ok part)
      tokens parts) :
    renderParts context.request scope (parts.map TemplatePart.framed)
      = Evaluation.tokens context scope tokens := by
  induction compiled with
  | nil => rfl
  | cons here _ ih => simp only [List.map_cons, renderParts, Evaluation.tokens, part_agrees here, ih]

theorem render_agrees {source : String} {template : CompiledTemplate}
    (compiled : (settingOf context).Compiles visible source template)
    (agrees : Agrees index machine state) :
    ∃ text after later, render context.request machine template.framed = (text, after) ∧
      Evaluation.render context state source = (text, later) ∧ Agrees index after later := by
  simp only [Setting.Compiles, settingOf, CompiledTemplate.compile, bind_ok_iff, pure_ok_iff,
    mapM_ok_iff] at compiled
  obtain ⟨parts, made, rfl⟩ := compiled
  -- the program renders with every variable framed, so it resolves names as the evaluation does
  have same : renderParts context.request machine.scope (parts.map TemplatePart.framed)
      = Evaluation.tokens context state.scope (Template.tokens source) := by
    rw [parts_agree made, agrees.scope]
  cases evaluated : Evaluation.tokens context state.scope (Template.tokens source) with
  | mk text calls =>
    refine ⟨text, { machine with calls := machine.calls ++ calls },
      { state with calls := state.calls ++ calls }, ?_, ?_, ?_⟩
    · simp only [render, CompiledTemplate.framed, same, evaluated]
    · simp only [Evaluation.render, evaluated]
    · exact ⟨agrees.scope, congrArg (· ++ calls) agrees.calls, agrees.cursor⟩

theorem renderAll_agrees {sources : List String} {templates : List CompiledTemplate}
    (compiled : List.Forall₂ ((settingOf context).Compiles visible) sources templates)
    (agrees : Agrees index machine state) :
    ∃ texts after later,
      renderAll context.request machine (templates.map CompiledTemplate.framed) = (texts, after) ∧
      Evaluation.renderAll context state sources = (texts, later) ∧ Agrees index after later := by
  induction compiled generalizing machine state with
  | nil => exact ⟨[], machine, state, rfl, rfl, agrees⟩
  | cons here _ ih =>
    obtain ⟨text, after, later, ran, evaluated, between⟩ := render_agrees here agrees
    obtain ⟨texts, last, final, ranAll, evaluatedAll, behind⟩ := ih between
    refine ⟨text :: texts, last, final, ?_, ?_, behind⟩
    · simp only [List.map_cons, renderAll, ran, ranAll]
    · simp only [Evaluation.renderAll, evaluated, evaluatedAll]

theorem renderEntries_agrees {entries : List (String × String)}
    {bound : List (String × CompiledTemplate)}
    (compiled : (settingOf context).CompilesEntries visible entries bound)
    (agrees : Agrees index machine state) :
    ∃ frame after later,
      renderEntries context.request machine (frameEntries bound) = (frame, after) ∧
      Evaluation.renderEntries context state entries = (frame, later) ∧
      Agrees index after later := by
  -- the names agree by themselves, and the templates are those of the sources in their order
  have names := compilesEntries_names compiled
  have sources : List.Forall₂ ((settingOf context).Compiles visible) (entries.map (·.2))
      (bound.map (·.2)) :=
    List.forall₂_map_left_iff.mpr
      (List.forall₂_map_right_iff.mpr (compiled.imp fun _ _ both => both.2))
  obtain ⟨texts, after, later, ran, evaluated, behind⟩ := renderAll_agrees sources agrees
  refine ⟨(entries.map (·.1)).zip texts, after, later, ?_, ?_, behind⟩
  · simp only [renderEntries, frameEntries_names, frameEntries_templates, ran, names]
  · simp only [Evaluation.renderEntries, evaluated]

theorem call_agrees {function : String} {arguments : List String} {site : CallSite}
    (compiled : (settingOf context).CompilesCall visible function arguments site)
    (agrees : Agrees index machine state) :
    ∃ text after later, call context.request machine site.framed = (text, after) ∧
      Evaluation.call context state function arguments = (text, later) ∧
      Agrees index after later := by
  obtain ⟨texts, after, later, ran, evaluated, behind⟩ := renderAll_agrees compiled.2 agrees
  have known : context.functions.get? function = some site.function := compiled.1
  refine ⟨site.function.run texts, { after with calls := after.calls ++ [⟨site.function, texts⟩] },
    { later with calls := later.calls ++ [⟨site.function, texts⟩] }, ?_, ?_, ?_⟩
  · simp only [call, CallSite.framed, ran]
  · simp only [Evaluation.call, evaluated, known]
  · exact ⟨behind.scope, congrArg (· ++ [⟨site.function, texts⟩]) behind.calls, behind.cursor⟩

/-! ### Levels -/

section

variable {tree : LevelTree}

theorem kind_eq (mirrors : tree.Mirrors context.arena) :
    Evaluation.kind context tree.id = tree.kind :=
  mirrors.kind.symm

theorem filterMap_ids {α : Type} {members : List LevelTree}
    (mirrored : ∀ member ∈ members, member.Mirrors context.arena) (read : NodeKind → Option α) :
    (members.map LevelTree.id).filterMap (fun member => read (Evaluation.kind context member))
      = members.filterMap fun member => read member.kind := by
  rw [List.filterMap_map]
  refine List.filterMap_congr ?_
  intro member inside
  exact congrArg read (kind_eq (mirrored member inside))

theorem filter_ids {members : List LevelTree}
    (mirrored : ∀ member ∈ members, member.Mirrors context.arena) (holds : NodeKind → Bool) :
    (members.map LevelTree.id).filter (fun member => holds (Evaluation.kind context member))
      = (members.filter fun member => holds member.kind).map LevelTree.id := by
  rw [List.filter_map]
  refine congrArg (List.map LevelTree.id) (List.filter_congr ?_)
  intro member inside
  exact congrArg holds (kind_eq (mirrored member inside))

theorem find_ids {members : List LevelTree}
    (mirrored : ∀ member ∈ members, member.Mirrors context.arena) (holds : NodeKind → Bool) :
    (members.map LevelTree.id).find? (fun member => holds (Evaluation.kind context member))
      = (members.find? fun member => holds member.kind).map LevelTree.id := by
  rw [← List.head?_filter, filter_ids mirrored, List.head?_map, List.head?_filter]

theorem callArguments_eq (mirrors : tree.Mirrors context.arena) (stated : List String) :
    Evaluation.callArguments context tree.id stated = stated ++ levelArguments tree.members := by
  rw [Evaluation.callArguments, ← mirrors.members]
  exact congrArg (stated ++ ·) (filterMap_ids mirrors.mirrored NodeKind.argument?)

theorem switchValue_agrees {stated : Option String} {value : SwitchValue}
    (mirrors : tree.Mirrors context.arena)
    (valued : ValueCode (settingOf context) tree stated value)
    (agrees : Agrees index machine state) :
    ∃ text after later, switchValue context.request machine value.framed = (text, after) ∧
      Evaluation.switchValue context state tree.id stated = (text, later) ∧
      Agrees index after later := by
  cases valued with
  | stated templated => exact render_agrees templated agrees
  | @call first rest function arguments site members kind sited =>
    have mirrored := mirrors.mirrored first (members ▸ List.mem_cons_self)
    obtain ⟨text, after, later, ran, evaluated, behind⟩ := call_agrees sited agrees
    refine ⟨text, after, later, ran, ?_, behind⟩
    rw [Evaluation.switchValue, ← mirrors.members, members, List.map_cons]
    simp only [kind_eq mirrored, kind, callArguments_eq mirrored, evaluated]
  -- the first member is no call or there is none, so both sides have a blank value
  | blank callless =>
    refine ⟨"", machine, state, ?_, ?_, agrees⟩
    · exact render_literal_framed ""
    · rw [Evaluation.switchValue, ← mirrors.members]
      cases members : tree.members with
      | nil => rfl
      | cons first rest =>
        have mirrored := mirrors.mirrored first (members ▸ List.mem_cons_self)
        have other := callless first (by simp [members])
        rw [List.map_cons]
        simp only [kind_eq mirrored]

end

/-! ### Bodies -/

/-- The code of a body runs as the body is evaluated. -/
def Simulates (context : Evaluation.Context) (fuel : Nat) (tree : LevelTree) : Prop :=
  ∀ index code machine state, Yields (emitBody (settingOf context) index tree) code →
    Agrees index machine state →
    FlowAgrees index (runBody context.request machine (Instruction.frameBody code))
      (Evaluation.evaluate context fuel tree.id index state)

variable {fuel : Nat} {members : List LevelTree}

theorem cases_agree (mirrored : ∀ member ∈ members, member.Mirrors context.arena)
    (bodies : ∀ member ∈ members, Simulates context fuel member)
    {cases : List (CompiledTemplate × List Instruction)}
    (picks : Picks (fun member => ∀ source, member.kind ≠ .case source)
      (CaseCode (settingOf context) index) members cases)
    {value : String} {after : MachineState → Flow}
    {otherwise : Evaluation.State → Evaluation.Flow}
    (left : ∀ machine state, Agrees index machine state →
      FlowAgrees index (after machine) (otherwise state))
    (agrees : Agrees index machine state) :
    FlowAgrees index
      (runCases context.request machine value after (Instruction.frameCases cases))
      (Evaluation.cases context (Evaluation.evaluate context fuel) index value otherwise
        (members.map LevelTree.id) state) := by
  induction picks generalizing machine state with
  | nil => exact left machine state agrees
  | skip other _ ih =>
    have kind := kind_eq (mirrored _ List.mem_cons_self)
    rw [List.map_cons, Evaluation.cases]
    simp only [kind]
    exact ih (fun member inside => mirrored member (List.mem_cons_of_mem _ inside))
      (fun member inside => bodies member (List.mem_cons_of_mem _ inside)) agrees
  | take made _ ih =>
    have same := kind_eq (mirrored _ List.mem_cons_self)
    obtain ⟨kind, templated, inside⟩ := made
    obtain ⟨text, next, later, ran, evaluated, behind⟩ := render_agrees templated agrees
    rw [List.map_cons, Evaluation.cases]
    simp only [same, kind, evaluated, Instruction.frameCases, runCases, ran]
    -- the first case whose text is the value decides
    split
    · exact bodies _ List.mem_cons_self _ _ _ _ inside behind
    · exact ih (fun member inside => mirrored member (List.mem_cons_of_mem _ inside))
        (fun member inside => bodies member (List.mem_cons_of_mem _ inside)) behind

/-- The default that an evaluation takes is the one whose code has been emitted. -/
theorem defaultCode_last {setting : Setting} {depth : Nat} {code : Option (List Instruction)}
    (made : DefaultCode setting depth members code) :
    Option.Rel (fun member body => member ∈ members ∧ Yields (emitBody setting depth member) body)
      (members.filter fun member => member.kind = .default).getLast? code := by
  induction made with
  | nil => exact .none
  | @skip member rest code kind _ ih =>
    rw [List.filter_cons_of_neg (by simpa using kind)]
    exact Picks.behind ih
  | @default member rest code body kind inside _ ih =>
    rw [List.filter_cons_of_pos (by simpa using kind), List.getLast?_cons]
    generalize (rest.filter fun member => member.kind = .default).getLast? = found at ih
    cases ih with
    | none => exact .some ⟨List.mem_cons_self, inside⟩
    | some both => exact .some ⟨List.mem_cons_of_mem _ both.1, both.2⟩

theorem default_agrees (mirrored : ∀ member ∈ members, member.Mirrors context.arena)
    (bodies : ∀ member ∈ members, Simulates context fuel member)
    {default : Option (List Instruction)}
    (made : DefaultCode (settingOf context) index members default)
    (agrees : Agrees index machine state) :
    FlowAgrees index (runDefault context.request machine (Instruction.frameDefault default))
      (match Evaluation.default? context (members.map LevelTree.id) with
        | some member => Evaluation.evaluate context fuel member index state
        | none => (none, state)) := by
  have chosen : Evaluation.default? context (members.map LevelTree.id)
      = (members.filter fun member => member.kind = .default).getLast?.map LevelTree.id := by
    rw [Evaluation.default?, filter_ids mirrored fun kind => kind = .default, List.getLast?_map]
  have last := defaultCode_last made
  rw [chosen]
  generalize (members.filter fun member => member.kind = .default).getLast? = found at last
  cases last with
  | none => exact agrees.flow
  | some both => exact bodies _ both.1 _ _ _ _ both.2 agrees

theorem control_agrees {member : LevelTree} {code : List Instruction}
    (mirrors : member.Mirrors context.arena) (here : Simulates context fuel member)
    (below : ∀ child ∈ member.members, Simulates context fuel child)
    (made : ControlCode (settingOf context) index member code)
    (agrees : Agrees index machine state) :
    FlowAgrees index (runBody context.request machine (Instruction.frameBody code))
      (Evaluation.control context (Evaluation.evaluate context fuel) index member.id state) := by
  rw [Evaluation.control]
  cases made with
  | switch kind valued chosen =>
    -- every kind of control node has at most one instruction, which is run by itself
    refine FlowAgrees.single ?_
    obtain ⟨text, after, later, ran, evaluated, behind⟩ := switchValue_agrees mirrors valued agrees
    obtain ⟨picked, defaulted⟩ := emitCases_yields chosen
    simp only [kind_eq mirrors, kind, evaluated, Instruction.framed, runInstruction, ran,
      ← mirrors.members]
    exact cases_agree mirrors.mirrored below picked
      (fun machine state => default_agrees mirrors.mirrored below defaulted) behind
  | @test source subject regex template body kind compiled templated inside =>
    refine FlowAgrees.single ?_
    obtain ⟨text, after, later, ran, evaluated, behind⟩ := render_agrees templated agrees
    simp only [kind_eq mirrors, kind, evaluated, Instruction.framed, runInstruction, ran, compiled,
      Option.bind_some]
    cases testFrame? regex text with
    | some frame => exact FlowAgrees.framed behind fun machine state => here _ _ _ _ inside
    | none => exact behind.flow
  | call kind sited =>
    refine FlowAgrees.single ?_
    obtain ⟨text, after, later, ran, evaluated, behind⟩ := call_agrees sited agrees
    simp only [kind_eq mirrors, kind, Instruction.framed, runInstruction, ran,
      callArguments_eq mirrors, evaluated]
    exact behind.flow
  | @set name value template kind templated =>
    refine FlowAgrees.single ?_
    obtain ⟨text, after, later, ran, evaluated, behind⟩ := render_agrees templated agrees
    simp only [kind_eq mirrors, kind, evaluated, Instruction.framed, runInstruction, ran]
    exact Agrees.flow ⟨congrArg (Scope.set · name text) behind.scope, behind.calls, behind.cursor⟩
  -- no code is emitted for the other kinds, and the evaluation passes over them
  | other kind =>
    obtain ⟨switchless, testless, callless, setless⟩ := kind
    rw [kind_eq mirrors]
    split
    next stated kind => exact absurd kind (switchless stated)
    next source subject kind => exact absurd kind (testless source subject)
    next function arguments kind => exact absurd kind (callless function arguments)
    next name source kind => exact absurd kind (setless name source)
    next => exact agrees.flow

theorem controls_agree (mirrored : ∀ member ∈ members, member.Mirrors context.arena)
    (bodies : ∀ member ∈ members, Simulates context fuel member ∧
      ∀ child ∈ member.members, Simulates context fuel child)
    {controls : List (List Instruction)}
    (made : List.Forall₂ (ControlCode (settingOf context) index) members controls)
    (agrees : Agrees index machine state) :
    FlowAgrees index
      (runBody context.request machine (Instruction.frameBody controls.flatten))
      (Evaluation.controls context (Evaluation.evaluate context fuel) index
        (members.map LevelTree.id) state) := by
  induction made generalizing machine state with
  | nil => exact agrees.flow
  | cons here _ ih =>
    obtain ⟨own, deeper⟩ := bodies _ List.mem_cons_self
    rw [List.flatten_cons, Instruction.frameBody_append]
    -- what controls there are behind go on from states that agree again
    refine (control_agrees (mirrored _ List.mem_cons_self) own deeper here agrees).sequence ?_
    intro machine state between
    exact ih (fun member inside => mirrored member (List.mem_cons_of_mem _ inside))
      (fun member inside => bodies member (List.mem_cons_of_mem _ inside)) between

theorem answer_agrees (mirrored : ∀ member ∈ members, member.Mirrors context.arena)
    {code : List Instruction}
    (picks : Picks (fun member => ∀ attributes, member.kind ≠ .return attributes)
      (ReturnCode (settingOf context)) members code)
    (agrees : Agrees index machine state) :
    FlowAgrees index (runBody context.request machine (Instruction.frameBody code))
      (Evaluation.answer context (members.map LevelTree.id) state) := by
  induction picks with
  | nil => exact agrees.flow
  | @skip member members code other _ ih =>
    have silent : Evaluation.answer context ((member :: members).map LevelTree.id) state
        = Evaluation.answer context (members.map LevelTree.id) state := by
      simp only [Evaluation.answer, List.map_cons, List.findSome?_cons,
        kind_eq (mirrored member List.mem_cons_self)]
    rw [silent]
    exact ih fun member inside => mirrored member (List.mem_cons_of_mem _ inside)
  | @take member instruction members code made _ _ =>
    have same := kind_eq (mirrored member List.mem_cons_self)
    obtain ⟨kind, compiled⟩ := made
    -- only the first return is evaluated; the program ends with it as well
    rename_i attributes stated
    obtain ⟨fields, after, later, ran, evaluated, behind⟩ := renderEntries_agrees compiled agrees
    have first : Evaluation.answer context ((member :: members).map LevelTree.id) state
        = (some (.ofFields (if attributes.contains "code" then fields
            else ("code", "200") :: fields)), later) := by
      simp only [Evaluation.answer, List.map_cons, List.findSome?_cons, same, kind, evaluated]
    have runs : runInstruction context.request machine (Instruction.framed (.return
          (if attributes.contains "code" then stated else ("code", .literal "200") :: stated)))
        = (some (.ofFields (if attributes.contains "code" then fields
            else ("code", "200") :: fields)), after) := by
      split
      · simp only [Instruction.framed, runInstruction, ran]
      · simp only [Instruction.framed, runInstruction, renderEntries_cons_literal, ran]
    rw [first, Instruction.frameBody, runBody, runs]
    exact behind.flow_some

theorem literal_agrees (mirrored : ∀ member ∈ members, member.Mirrors context.arena)
    (bodies : ∀ member ∈ members, Simulates context fuel member)
    {literals : List (String × List Instruction)} {segment : String}
    (picks : Picks (·.kind.literal? = none) (LiteralCode (settingOf context) index) members literals)
    (current : context.request.segment? index = some segment)
    (agrees : Agrees (index + 1) machine state) :
    FlowAgrees (index + 1)
      (runBody context.request machine (Instruction.frameBody (if literals.isEmpty then []
        else [.literals index literals (literalLookup literals)])))
      (Evaluation.literal context (Evaluation.evaluate context fuel) index
        (members.map LevelTree.id) segment state) := by
  have found := picks.find (fun member => member.kind.literal? == some segment)
    (fun arm => arm.1 == segment) (fun member none => by simp [none])
    (fun member arm made => by cases made with | mk kind => simp [kind])
  rw [Evaluation.literal, find_ids mirrored fun kind => kind.literal? == some segment]
  generalize (members.find? fun member => member.kind.literal? == some segment) = member at found
  -- the cursor stands behind the segment that is dispatched
  have stands : current? context.request machine index = some segment := by
    rw [current?, if_pos agrees.cursor, current]
  split
  next empty =>
    rw [List.isEmpty_iff.mp empty] at found
    cases found
    exact agrees.flow
  next =>
    refine FlowAgrees.single ?_
    rw [Instruction.framed, runInstruction, stands, Option.bind_some]
    -- the lookup finds the first arm with this text, which is made from the first such member
    have arms := literalLookup_arm literals segment
    cases looked : (literalLookup literals).lookup segment with
    | none =>
      rw [looked] at arms
      rw [← arms] at found
      cases found
      exact agrees.flow
    | some arm =>
      obtain ⟨pair, there⟩ := literalLookup_bound looked
      rw [looked, Option.bind_some, there] at arms
      rw [← arms] at found
      cases found with
      | some both =>
        obtain ⟨inside, made⟩ := both
        cases made with
        | mk kind emitted =>
          simp only [runLiteral_eq, Instruction.frameLiterals_eq, List.getElem?_map, there,
            Option.map_some, Option.getD_some]
          exact bodies _ inside _ _ _ _ emitted agrees

theorem parameter_agrees (mirrored : ∀ member ∈ members, member.Mirrors context.arena)
    (bodies : ∀ member ∈ members, Simulates context fuel member) {issued : Nat}
    {groups : List BatchGroup} {arms : List (List Instruction)} {segment : String}
    (merged : Batch.merge context.limit issued (levelPatterns members) = .ok groups)
    (picks : Picks (fun member => ∀ pattern id, member.kind ≠ .regexPath pattern id)
      (ArmCode (settingOf context) index) members arms)
    (current : context.request.segment? index = some segment)
    (agrees : Agrees (index + 1) machine state) :
    FlowAgrees (index + 1)
      (runBody context.request machine (Instruction.frameBody (if arms.isEmpty then []
        else [.patterns index groups arms])))
      (Evaluation.parameter context (Evaluation.evaluate context fuel) index
        (members.map LevelTree.id) segment state) := by
  obtain ⟨numbered, renumbered, alike⟩ := Batch.select_issued merged 0
  have patterns : Evaluation.patterns context (members.map LevelTree.id) = levelPatterns members :=
    filterMap_ids mirrored NodeKind.levelPattern?
  have parameterized : Evaluation.parameterized context (members.map LevelTree.id)
      = (members.filter fun member => member.kind.isParameterized).map LevelTree.id :=
    filter_ids mirrored NodeKind.isParameterized
  have stands : current? context.request machine index = some segment := by
    rw [current?, if_pos agrees.cursor, current]
  have chosen : Evaluation.selected? context (members.map LevelTree.id) segment
      = (select groups segment).bind fun selected =>
        ((members.filter fun member => member.kind.isParameterized)[selected.1]?).map
          fun member => (member.id, selected.2) := by
    simp only [Evaluation.selected?, patterns, renumbered, Except.toOption, Option.bind_eq_bind,
      Option.bind_some, alike, parameterized, List.getElem?_map, Option.bind_map]
    refine Option.bind_congr fun selected _ => ?_
    cases (members.filter fun member => member.kind.isParameterized)[selected.1]? <;> rfl
  rw [Evaluation.parameter, chosen]
  have none_left {frame : Frame} :
      FlowAgrees (index + 1) (leave (none, push machine frame)) (none, state) :=
    ⟨rfl, agrees.scope, agrees.calls, fun _ => agrees.cursor⟩
  cases selected : select groups segment with
  | none =>
    split
    · exact agrees.flow
    · refine FlowAgrees.single ?_
      rw [Instruction.framed, runInstruction, stands, Option.bind_some, selected]
      exact agrees.flow
  | some both =>
    obtain ⟨arm, frame⟩ := both
    -- the arms stand in the order of the parameterized members
    have there := picks.getElem (fun member => member.kind.isParameterized)
      (fun _ => NodeKind.isParameterized_eq_false)
      (fun member body made => by cases made with | mk kind => simp [NodeKind.isParameterized, kind]) arm
    rw [Option.bind_some]
    dsimp only
    split
    next empty =>
      rw [List.isEmpty_iff.mp empty] at there
      generalize (members.filter fun member => member.kind.isParameterized)[arm]? = found at there
      cases there
      exact agrees.flow
    next =>
      refine FlowAgrees.single ?_
      rw [Instruction.framed, runInstruction, stands, Option.bind_some, selected]
      simp only [runArm_eq, Instruction.frameArms_eq, List.getElem?_map]
      generalize (members.filter fun member => member.kind.isParameterized)[arm]? = found at there
      generalize arms[arm]? = body at there
      cases there with
      | none => exact none_left
      | some both =>
        obtain ⟨inside, made⟩ := both
        cases made with
        | mk kind emitted =>
          exact FlowAgrees.framed agrees fun machine state =>
            bodies _ inside _ _ _ _ emitted

theorem runBody_idle {code : List Instruction}
    (idle : ∀ instruction ∈ code,
      runInstruction context.request machine instruction.framed = (none, machine)) :
    runBody context.request machine (Instruction.frameBody code) = (none, machine) := by
  induction code with
  | nil => rfl
  | cons instruction rest ih =>
    rw [Instruction.frameBody, runBody, idle instruction List.mem_cons_self]
    exact ih fun other member => idle other (List.mem_cons_of_mem _ member)

/-- Without a next segment the cursor stays in front of the dispatch, which is passed over. -/
theorem dispatch_idle {literals : List (String × List Instruction)} {groups : List BatchGroup}
    {arms : List (List Instruction)} (last : context.request.segment? index = none)
    (agrees : Agrees index machine state) :
    runBody context.request machine
      (Instruction.frameBody (dispatch index literals groups arms)) = (none, machine) := by
  have behind : ¬ machine.cursor = index + 1 := by
    simp [agrees.cursor]
  refine runBody_idle ?_
  intro instruction among
  rcases mem_dispatch among with rfl | rfl | rfl | rfl
  · simp [Instruction.framed, runInstruction, advance, last]
  · simp [Instruction.framed, runInstruction, current?, behind]
  · simp [Instruction.framed, runInstruction, current?, behind]
  · simp [Instruction.framed, runInstruction, retreat, behind]

theorem paths_agree (mirrored : ∀ member ∈ members, member.Mirrors context.arena)
    (bodies : ∀ member ∈ members, Simulates context fuel member) {issued : Nat}
    {literals : List (String × List Instruction)} {groups : List BatchGroup}
    {arms : List (List Instruction)}
    (literal : Picks (·.kind.literal? = none) (LiteralCode (settingOf context) index)
      members literals)
    (merged : Batch.merge context.limit issued (levelPatterns members) = .ok groups)
    (parameterized : Picks (fun member => ∀ pattern id, member.kind ≠ .regexPath pattern id)
      (ArmCode (settingOf context) index) members arms)
    (agrees : Agrees index machine state) :
    FlowAgrees index
      (runBody context.request machine
        (Instruction.frameBody (dispatch index literals groups arms)))
      (Evaluation.paths context (Evaluation.evaluate context fuel) index
        (members.map LevelTree.id) state) := by
  rw [Evaluation.paths]
  cases current : context.request.segment? index with
  | none =>
    rw [dispatch_idle current agrees]
    exact agrees.flow
  | some segment =>
    have moved : Agrees (index + 1) (advance context.request machine index) state := by
      rw [advance, if_pos ⟨agrees.cursor, by simp [current]⟩]
      exact ⟨agrees.scope, agrees.calls, rfl⟩
    -- the literals are tried before the patterns, both behind the segment
    have arrived := (literal_agrees mirrored bodies literal current moved).sequence
      fun machine state => parameter_agrees mirrored bodies merged parameterized current
    dsimp only
    rw [dispatch]
    split
    next empty =>
      -- Nothing is emitted for a level without paths, and nothing would have been found on it.
      obtain ⟨textless, armless⟩ := Bool.and_eq_true_iff.mp empty
      rw [textless, armless] at arrived
      obtain ⟨outcome, scope, calls, -⟩ := arrived
      refine ⟨outcome, ?_, ?_, fun _ => agrees.cursor⟩
      · rw [← scope]
        simp [Instruction.frameBody, runBody]
      · rw [← calls]
        simp only [if_true, Instruction.frameBody, List.append_nil, runBody]
        rw [advance]
        split <;> rfl
    next =>
      have back (machine : MachineState) (state : Evaluation.State)
          (between : Agrees (index + 1) machine state) :
          FlowAgrees index (runBody context.request machine [.retreat index]) (none, state) := by
        refine FlowAgrees.single ?_
        rw [runInstruction, retreat, if_pos between.cursor]
        exact Agrees.flow ⟨between.scope, between.calls, rfl⟩
      have returned := arrived.sequence back
      -- the retreat adds nothing to the evaluation
      have unchanged (flow : Evaluation.Flow) :
          (flow.andThen fun state => (none, state)) = flow := by
        obtain ⟨outcome, after⟩ := flow
        cases outcome <;> rfl
      rw [unchanged] at returned
      simpa only [Instruction.frameBody_append, Instruction.frameBody, Instruction.framed, runBody,
        runInstruction, List.append_assoc, List.cons_append, List.nil_append] using returned

theorem level_agrees {tree : LevelTree} (mirrors : tree.Mirrors context.arena)
    (bodies : ∀ member ∈ tree.members, Simulates context fuel member ∧
      ∀ child ∈ member.members, Simulates context fuel child) {issued : Nat}
    {controls : List (List Instruction)} {literals : List (String × List Instruction)}
    {groups : List BatchGroup} {arms : List (List Instruction)} {returns : List Instruction}
    (controlled : List.Forall₂ (ControlCode (settingOf context) index) tree.members controls)
    (literal : Picks (·.kind.literal? = none) (LiteralCode (settingOf context) index)
      tree.members literals)
    (merged : Batch.merge context.limit issued (levelPatterns tree.members) = .ok groups)
    (parameterized : Picks (fun member => ∀ pattern id, member.kind ≠ .regexPath pattern id)
      (ArmCode (settingOf context) index) tree.members arms)
    (returned : Picks (fun member => ∀ attributes, member.kind ≠ .return attributes)
      (ReturnCode (settingOf context)) tree.members returns)
    (agrees : Agrees index machine state) :
    FlowAgrees index
      (runBody context.request machine (Instruction.frameBody
        (controls.flatten ++ dispatch index literals groups arms ++ returns)))
      (Evaluation.level context (Evaluation.evaluate context fuel) index tree.id state) := by
  have mirrored := mirrors.mirrored
  rw [Evaluation.level, ← mirrors.members, Instruction.frameBody_append,
    Instruction.frameBody_append]
  have throughPaths := (controls_agree mirrored bodies controlled agrees).sequence
    fun machine state => paths_agree mirrored (fun member inside => (bodies member inside).1)
      literal merged parameterized
  exact throughPaths.sequence fun machine state => answer_agrees mirrored returned

theorem enough_below {size fuel id below : Nat} (enough : size ≤ fuel + 1 + id) (order : id < below) :
    size ≤ fuel + below := by
  omega

/-- Enough steps left, the code of every body runs as the body is evaluated. -/
theorem simulates {tree : LevelTree} (mirrors : tree.Mirrors context.arena)
    (inside : (tree.id : Nat) < context.arena.size)
    (enough : context.arena.size ≤ fuel + (tree.id : Nat)) : Simulates context fuel tree := by
  induction fuel generalizing tree with
  | zero =>
    rw [Nat.zero_add] at enough
    exact absurd inside (Nat.not_lt.mpr enough)
  | succ fuel ih =>
    -- a member has a greater id than its node, so the steps that are left are enough for it
    have deeper (tree : LevelTree) (mirrors : tree.Mirrors context.arena)
        (enough : context.arena.size ≤ fuel + 1 + (tree.id : Nat)) :
        ∀ member ∈ tree.members, Simulates context fuel member := by
      intro member below
      have bounds := mirrors.bounds member below
      exact ih (mirrors.mirrored member below) bounds.2 (enough_below enough bounds.1)
    have bodies : ∀ member ∈ tree.members, Simulates context fuel member ∧
        ∀ child ∈ member.members, Simulates context fuel child := by
      intro member below
      have bounds := mirrors.bounds member below
      exact ⟨deeper tree mirrors enough member below,
        deeper member (mirrors.mirrored member below)
          (Nat.le_trans (enough_below enough bounds.1)
            (Nat.add_le_add_right (Nat.le_succ fuel) _))⟩
    intro index code machine state yields agrees
    rw [Evaluation.evaluate, Evaluation.node]
    have made := emitBody_yields yields
    cases made with
    | mk controlled literal merged parameterized returned wrapped =>
      have values := congrArg NodeContent.values mirrors.content
      dsimp only [LevelTree.content] at values
      -- values of the node stand in a frame around the whole level
      rcases wrapped with ⟨valueless, rfl⟩ | ⟨valued, bound, compiled, rfl⟩
      · rw [values] at valueless
        simp only [valueless, List.isEmpty_nil, if_true]
        exact level_agrees mirrors bodies controlled literal merged parameterized returned agrees
      · obtain ⟨frame, after, later, ran, evaluated, behind⟩ :=
          renderEntries_agrees compiled agrees
        rw [values] at valued evaluated
        have filled : (context.arena.node _).values.isEmpty = false :=
          List.isEmpty_eq_false_iff.mpr valued
        simp only [filled, evaluated]
        refine FlowAgrees.single ?_
        simp only [Instruction.framed, runInstruction, ran]
        exact FlowAgrees.framed behind fun machine state =>
          level_agrees mirrors bodies controlled literal merged parameterized returned

/-- A program means what its tree means: for every request it ends with the outcome of evaluating the
tree directly, and makes the same calls in the same order. -/
theorem execute_eq_evaluate {spec : SpecNode} {tree : RouteTree} {functions : FunctionRegistry}
    {limit : Nat} {program : Program} (built : RouteTree.build spec = .ok tree)
    (compiled : ofTree functions limit tree = .ok program) (request : Request) :
    ((program.execute request).outcome, (program.execute request).calls)
      = tree.evaluate functions limit request := by
  have linked := RouteTree.build_linked built
  have rooted : Arena.root < tree.arena.size :=
    (RouteTree.build_steps built).size_le
  have agrees : Agrees 0 {} ({} : Evaluation.State) := ⟨rfl, rfl, rfl⟩
  let context : Evaluation.Context := ⟨tree.arena, functions, limit, request⟩
  have top : (tree.arena.subtree Arena.root).levels.id = Arena.root := Arena.levels_id _ _
  have mirrors : (tree.arena.subtree Arena.root).levels.Mirrors context.arena :=
    Arena.levels_mirrors linked rooted
  have inside : (tree.arena.subtree Arena.root).levels.id < context.arena.size := by
    rw [top]
    exact rooted
  -- as many steps as there are nodes are enough to come down from the root
  have whole : Simulates context tree.arena.size (tree.arena.subtree Arena.root).levels :=
    simulates mirrors inside (Nat.le_add_right _ _)
  have ended := whole 0 program.entry {} {} (ofTree_yields compiled) agrees
  rw [top] at ended
  rw [runBody_searching built compiled] at ended
  simp only [execute, RouteTree.evaluate]
  exact congrArg₂ (fun outcome calls => (Option.getD outcome Outcome.notFound, calls))
    ended.outcome ended.calls

/-- The page of an item is found by running the program and by evaluating the tree. -/
theorem execute_eq_evaluate_item : ∃ tree program,
    RouteTree.build itemSpec = .ok tree ∧ ofTree .builtin 100 tree = .ok program ∧
    (∀ request, ((program.execute request).outcome, (program.execute request).calls)
      = tree.evaluate .builtin 100 request) ∧
    (program.execute (.ofAttributes (.ofList [("path", "/item-7?lang=en")]) ["path"] "query")).outcome
      = ⟨.ofList [("code", "200"), ("page", "7/en")]⟩ := by
  -- both compilations and the answer are one evaluation, taken apart below
  have succeeds : ((RouteTree.build itemSpec).toOption.bind fun tree =>
      (ofTree .builtin 100 tree).toOption.filter fun program =>
        (program.execute (.ofAttributes (.ofList [("path", "/item-7?lang=en")]) ["path"] "query")).outcome
          = ⟨.ofList [("code", "200"), ("page", "7/en")]⟩).isSome = true := by decide +kernel
  obtain ⟨program, found⟩ := Option.isSome_iff_exists.mp succeeds
  obtain ⟨tree, built, compiled⟩ := Option.bind_eq_some_iff.mp found
  obtain ⟨compiled, answered⟩ := Option.filter_eq_some_iff.mp compiled
  have built := ok_of_toOption built
  have compiled := ok_of_toOption compiled
  exact ⟨tree, program, built, compiled, fun request => execute_eq_evaluate built compiled request,
    of_decide_eq_true answered⟩

end Signpost.Program
