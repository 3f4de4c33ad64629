import Signpost.Proofs.Machine.Framed
import Signpost.Proofs.Program.Emission
import Signpost.Proofs.Program.Partition
import Signpost.Proofs.Tree.Coverage

/-!
# Variables that frames cannot bind

Emission decides for every variable of a template whether frames are searched for it: they are if
the name is visible at the node that the template belongs to. That decision never changes a result.
Code is scoped by a list of names when it leaves out frames only for variables outside of the list,
where every body that it holds may rely on the names that the frame around that body adds. Emitted
code is scoped by the names visible at its node, and a run only ever pushes the frames that this
accounts for, so at every place it comes to, a variable without a search has no binding.
-/
namespace Signpost

/-! ### Scoped code -/

/-- An instruction holds a body that runs under a frame with some of the given names. -/
inductive Instruction.Holds : Instruction → List String → List Instruction → Prop
  | scope {bindings : List (String × CompiledTemplate)} {body : List Instruction} :
    Holds (.scope bindings body) (bindings.map (·.1)) body
  | literal {index : Nat} {arms : List (String × List Instruction)} {lookup : List (String × Nat)}
    {arm : String × List Instruction} (member : arm ∈ arms) :
    Holds (.literals index arms lookup) [] arm.2
  | arm {index : Nat} {groups : List BatchGroup} {arms : List (List Instruction)}
    {group : BatchGroup} {branch : BranchSlot} {body : List Instruction} (grouped : group ∈ groups)
    (member : branch ∈ group.branches) (there : arms[branch.arm]? = some body) :
    Holds (.patterns index groups arms) (branch.captures.map (·.1)) body
  | test {regex : Regex} {subject : CompiledTemplate} {body : List Instruction} :
    Holds (.test regex subject body) regex.frameNames body
  | case {value : SwitchValue} {cases : List (CompiledTemplate × List Instruction)}
    {default : Option (List Instruction)} {case : CompiledTemplate × List Instruction}
    (member : case ∈ cases) : Holds (.switch value cases default) [] case.2
  | default {value : SwitchValue} {cases : List (CompiledTemplate × List Instruction)}
    {body : List Instruction} : Holds (.switch value cases (some body)) [] body

/-- All variables of a template that are not framed stand outside of the given names. -/
def CompiledTemplate.Scoped (names : List String) (template : CompiledTemplate) : Prop :=
  ∀ name filters, .variable name filters false ∈ template.parts → name ∉ names

/-- The templates of an instruction are scoped, those inside of bodies by more names. -/
inductive Instruction.Scoped : List String → Instruction → Prop
  | mk {names : List String} {instruction : Instruction}
    (own : ∀ template ∈ instruction.ownTemplates, template.Scoped names)
    (inside : ∀ bound body, instruction.Holds bound body →
      ∀ inner ∈ body, Scoped (bound ++ names) inner) : Scoped names instruction

/-- Frames bind at most the given names. -/
def Scope.Within (names : List String) (scope : Scope) : Prop :=
  ∀ name, name ∉ names → scope.lookup? name = none

namespace Machine

variable {request : Request} {state : MachineState} {names : List String}

theorem lookup?_push {scope : Scope} {frame : Frame} {name : String}
    (unframed : name ∉ frame.map (·.1)) (absent : scope.lookup? name = none) :
    (scope.push frame).lookup? name = none := by
  have missing : Scope.inFrame? name frame = none := by
    rw [Scope.inFrame?, Option.map_eq_none_iff, List.find?_eq_none]
    intro entry member found
    simp only [Bool.and_eq_true, beq_iff_eq] at found
    exact unframed (found.1 ▸ List.mem_map_of_mem member)
  simp only [Scope.lookup?] at absent
  simp [Scope.lookup?, Scope.push, missing, absent]

theorem within_push {bound : List String} {scope : Scope} {frame : Frame}
    (covered : frame.map (·.1) ⊆ bound) (within : scope.Within names) :
    (scope.push frame).Within (bound ++ names) := by
  intro name outside
  rw [List.mem_append, not_or] at outside
  exact lookup?_push (fun member => outside.1 (covered member)) (within name outside.2)

theorem select_branch {groups : List BatchGroup} {segment : String} {arm : Nat} {frame : Frame}
    (selected : select groups segment = some (arm, frame)) :
    ∃ group ∈ groups, ∃ branch ∈ group.branches,
      branch.arm = arm ∧ frame.map (·.1) = branch.captures.map (·.1) := by
  obtain ⟨group, member, chosen⟩ := List.exists_of_findSome?_eq_some selected
  simp only [selectBranch, Option.bind_eq_bind, Option.bind_eq_some_iff] at chosen
  obtain ⟨found, -, branch, first, equal⟩ := chosen
  cases equal
  exact ⟨group, member, branch, List.mem_of_find?_eq_some first, rfl, by simp⟩

/-- The body that an instruction enters is one that it holds, and a frame around it binds no more
than it may. -/
theorem entry_holds {instruction : Instruction} {framed : Bool} {inner : MachineState}
    {code : List Instruction} (entered : entry request state instruction = .body framed inner code)
    (within : state.scope.Within names) :
    code = [] ∨ ∃ bound, instruction.Holds bound code ∧ inner.scope.Within (bound ++ names) := by
  cases instruction with
  | scope bindings body =>
    -- the frame binds the names of the entries, whose templates leave the scope alone
    have covered : (renderEntries request state bindings).1.map (·.1) ⊆ bindings.map (·.1) := by
      rw [renderEntries_names]
      exact fun _ member => member
    have kept : (renderEntries request state bindings).2.scope.Within names := by
      rwa [renderEntries_scope]
    cases entered
    exact .inr ⟨_, .scope, within_push covered kept⟩
  | literals index arms lookup =>
    rw [entry] at entered
    split at entered
    next arm _ =>
      cases entered
      -- an arm that is not there is an empty body
      cases found : arms[arm]? with
      | none => exact .inl rfl
      | some pair => exact .inr ⟨[], .literal (List.mem_of_getElem? found), within⟩
    next => cases entered
  | patterns index groups arms =>
    rw [entry] at entered
    split at entered
    next arm frame selected =>
      cases entered
      cases found : arms[arm]? with
      | none => exact .inl rfl
      | some body =>
        obtain ⟨segment, -, selected⟩ := Option.bind_eq_some_iff.mp selected
        -- the frame of an arm binds what the branch captures
        obtain ⟨group, grouped, branch, member, rfl, captured⟩ := select_branch selected
        refine .inr ⟨_, .arm grouped member found, within_push ?_ within⟩
        rw [captured]
        exact fun _ member => member
    next => cases entered
  | test regex subject body =>
    simp only [entry] at entered
    split at entered
    next frame matched =>
      cases entered
      exact .inr ⟨_, .test, within_push (testFrame?_names matched) within⟩
    next => cases entered
  | switch value cases default =>
    simp only [entry] at entered
    split at entered
    next after chosen picked =>
      cases entered
      have same := chooseCase_scope request (switchValue request state value).2
        (switchValue request state value).1 default cases
      rw [picked, switchValue_scope] at same
      have kept : inner.scope.Within names := by
        rw [same]
        exact within
      rcases chooseCase_body (congrArg Prod.snd picked) with ⟨template, member⟩ | rfl
      · exact .inr ⟨[], .case member, kept⟩
      · exact .inr ⟨[], .default, kept⟩
    next => cases entered
  | _ => cases entered

/-- At every place that a run of scoped code comes to, the instruction there is scoped by names that
hold all bindings of the frames. -/
theorem visits_scoped {code : List Instruction} {later : MachineState} {instruction : Instruction}
    (visit : Visits request state code later instruction)
    (judged : ∀ inner ∈ code, inner.Scoped names) (within : state.scope.Within names) :
    ∃ around, instruction.Scoped around ∧ later.scope.Within around := by
  induction visit generalizing names with
  | here => exact ⟨names, judged _ List.mem_cons_self, within⟩
  | @behind state next later first last rest passed _ ih =>
    -- what has run before has taken its frames off again, so the same names are bound
    refine ih (fun inner member => judged inner (List.mem_cons_of_mem _ member)) ?_
    have same := runInstruction_frames request state first
    rw [passed] at same
    intro name outside
    rw [Scope.lookup?, same]
    exact within name outside
  | @within state inner later first last framed code rest entered visit ih =>
    rcases entry_holds entered within with rfl | ⟨bound, holds, inside⟩
    · cases visit
    · obtain ⟨_, bodies⟩ := judged first List.mem_cons_self
      exact ih (bodies bound code holds) inside

end Machine

namespace Program

open Emission

/-! ### Emitted code -/

section

variable {setting : Setting} {depth : Nat} {names visible : List String}

theorem compiles_scoped {source : String} {template : CompiledTemplate}
    (compiled : setting.Compiles visible source template) (known : names ⊆ visible) :
    template.Scoped names := by
  simp only [Setting.Compiles, CompiledTemplate.compile, bind_ok_iff, pure_ok_iff,
    mapM_ok_iff] at compiled
  obtain ⟨parts, made, rfl⟩ := compiled
  -- a variable is unscoped only where the compiler has not seen its name
  intro name filters member inside
  obtain ⟨token, -, one⟩ := forall₂_origin made _ member
  cases token with
  | text text => cases one
  | «variable» other words =>
    rw [CompiledTemplate.compileToken] at one
    split at one
    · -- The decision of the compiler is that the name is not visible.
      simp only [Except.ok.injEq, TemplatePart.variable.injEq, decide_eq_false_iff_not] at one
      exact one.2.2 (known (one.1 ▸ inside))
    · cases one

theorem compiles_all_scoped {sources : List String} {templates : List CompiledTemplate}
    (compiled : List.Forall₂ (setting.Compiles visible) sources templates)
    (known : names ⊆ visible) : ∀ template ∈ templates, template.Scoped names := by
  intro template member
  obtain ⟨source, -, one⟩ := forall₂_origin compiled template member
  exact compiles_scoped one known

theorem compilesEntries_scoped {entries : List (String × String)}
    {bound : List (String × CompiledTemplate)}
    (compiled : setting.CompilesEntries visible entries bound) (known : names ⊆ visible) :
    ∀ template ∈ bound.map (·.2), template.Scoped names := by
  intro template member
  obtain ⟨pair, inside, rfl⟩ := List.mem_map.mp member
  obtain ⟨entry, -, -, one⟩ := forall₂_origin compiled pair inside
  exact compiles_scoped one known

theorem compilesEntries_names {entries : List (String × String)}
    {bound : List (String × CompiledTemplate)}
    (compiled : setting.CompilesEntries visible entries bound) :
    bound.map (·.1) = entries.map (·.1) := by
  induction compiled with
  | nil => rfl
  | cons here _ ih => rw [List.map_cons, List.map_cons, here.1, ih]

theorem literal_scoped (text : String) : (CompiledTemplate.literal text).Scoped names := by
  intro name filters member
  simp [CompiledTemplate.literal] at member

/-- The body code of a node is scoped by all names that are visible to it. -/
def BodiesScoped (setting : Setting) (tree : LevelTree) : Prop :=
  ∀ depth names code, names ⊆ tree.visible → Yields (emitBody setting depth tree) code →
    ∀ instruction ∈ code, instruction.Scoped names

theorem outer_subset_visible (tree : LevelTree) : tree.outer ⊆ tree.visible :=
  fun _ member => List.mem_append_left _ member

theorem covered_member {tree member : LevelTree} (covered : tree.Covered)
    (inside : member ∈ tree.members) : tree.visible ⊆ member.outer ∧ member.Covered := by
  obtain ⟨here, nested, below⟩ := covered
  exact ⟨nested member inside, below member inside⟩

theorem covered_content {tree : LevelTree} (covered : tree.Covered) : tree.content.Covered := by
  obtain ⟨here, nested, below⟩ := covered
  exact here

/-- An instruction without bodies is scoped when its own templates are. -/
theorem scoped_of_own {instruction : Instruction}
    (own : ∀ template ∈ instruction.ownTemplates, template.Scoped names)
    (bodiless : ∀ bound body, ¬ instruction.Holds bound body) : instruction.Scoped names :=
  .mk own fun bound body holds => (bodiless bound body holds).elim

theorem switch_scoped {member : LevelTree} {stated : Option String} {value : SwitchValue}
    {cases : List (CompiledTemplate × List Instruction)} {default : Option (List Instruction)}
    (covered : member.Covered) (known : names ⊆ member.visible)
    (below : ∀ child ∈ member.members, BodiesScoped setting child)
    (valued : ValueCode setting member stated value)
    (chosen : Yields (emitCases setting depth member.members) (cases, default)) :
    (Instruction.switch value cases default).Scoped names := by
  -- the names that are known around the switch are visible to its members as well
  have deeper {child : LevelTree} (inside : child ∈ member.members) : names ⊆ child.visible :=
    fun name member => outer_subset_visible child ((covered_member covered inside).1 (known member))
  obtain ⟨picked, defaulted⟩ := emitCases_yields chosen
  refine .mk ?_ ?_
  · intro template own
    rcases List.mem_append.mp own with first | tested
    · cases valued with
      | stated templated =>
        cases List.mem_singleton.mp first
        exact compiles_scoped templated known
      | call members kind sited =>
        exact compiles_all_scoped sited.2 (deeper (members ▸ List.mem_cons_self)) template first
      | blank =>
        cases List.mem_singleton.mp first
        exact literal_scoped ""
    · obtain ⟨pair, among, rfl⟩ := List.mem_map.mp tested
      obtain ⟨child, inside, ⟨_, templated, _⟩⟩ := picked.origin pair among
      exact compiles_scoped templated (deeper inside)
  · intro bound body holds instruction inner
    -- the body of a case and the default each belong to a member that has been emitted
    cases holds with
    | case among =>
      obtain ⟨child, inside, ⟨_, _, emitted⟩⟩ := picked.origin _ among
      exact below child inside depth names _ (deeper inside) emitted instruction inner
    | default =>
      obtain ⟨child, inside, -, emitted⟩ := defaulted.origin rfl
      exact below child inside depth names body (deeper inside) emitted instruction inner

theorem controlCode_scoped {member : LevelTree} {code : List Instruction}
    (covered : member.Covered) (known : names ⊆ member.outer)
    (here : BodiesScoped setting member)
    (below : ∀ child ∈ member.members, BodiesScoped setting child)
    (made : ControlCode setting depth member code) :
    ∀ instruction ∈ code, instruction.Scoped names := by
  have seen : names ⊆ member.visible := fun _ member => outer_subset_visible _ (known member)
  intro instruction among
  cases made with
  | switch kind valued chosen =>
    cases List.mem_singleton.mp among
    exact switch_scoped covered seen below valued chosen
  | @test source subject regex template body kind compiled templated emitted =>
    cases List.mem_singleton.mp among
    refine .mk ?_ ?_
    · intro own stands
      cases List.mem_singleton.mp stands
      exact compiles_scoped templated known
    -- the frame of a test binds names of its groups, which the node declares itself
    · intro bound body holds instruction inner
      cases holds
      refine here depth _ _ ?_ emitted instruction inner
      have groups := (covered_content covered).groups source subject regex kind compiled
      exact List.append_subset.mpr
        ⟨fun _ group => List.mem_append_right _ (groups group), seen⟩
  | call kind sited =>
    cases List.mem_singleton.mp among
    exact scoped_of_own (compiles_all_scoped sited.2 seen) (by rintro _ _ ⟨⟩)
  | set kind templated =>
    cases List.mem_singleton.mp among
    refine scoped_of_own ?_ (by rintro _ _ ⟨⟩)
    intro own stands
    cases List.mem_singleton.mp stands
    exact compiles_scoped templated seen
  | other => cases among

/-- The arm of a parameterized path stands where its pattern stands among the patterns. -/
theorem arm_origin {members : List LevelTree} {arms : List (List Instruction)}
    (picks : Picks (fun member => ∀ pattern id, member.kind ≠ .regexPath pattern id)
      (ArmCode setting depth) members arms) {position : Nat} {body : List Instruction}
    {pattern : Pattern} (there : arms[position]? = some body)
    (own : (levelPatterns members)[position]? = some pattern) :
    ∃ member ∈ members, (∃ id, member.kind = .regexPath pattern id) ∧
      Yields (emitBody setting (depth + 1) member) body := by
  induction picks generalizing position with
  | nil => cases there
  | skip other _ ih =>
    rw [levelPatterns_skip other] at own
    obtain ⟨origin, inside, made⟩ := ih there own
    exact ⟨origin, List.mem_cons_of_mem _ inside, made⟩
  | take made _ ih =>
    obtain ⟨kind, emitted⟩ := made
    rw [levelPatterns_cons kind] at own
    cases position with
    | zero =>
      cases there
      cases own
      exact ⟨_, List.mem_cons_self, ⟨_, kind⟩, emitted⟩
    | succ position =>
      obtain ⟨origin, inside, made⟩ := ih there own
      exact ⟨origin, List.mem_cons_of_mem _ inside, made⟩

theorem dispatch_scoped {members : List LevelTree} {issued : Nat}
    {literals : List (String × List Instruction)} {groups : List BatchGroup}
    {arms : List (List Instruction)} (covered : ∀ member ∈ members, member.Covered)
    (known : ∀ member ∈ members, names ⊆ member.outer)
    (bodies : ∀ member ∈ members, BodiesScoped setting member)
    (literal : Picks (·.kind.literal? = none) (LiteralCode setting depth) members literals)
    (merged : Batch.merge setting.limit issued (levelPatterns members) = .ok groups)
    (parameterized : Picks (fun member => ∀ pattern id, member.kind ≠ .regexPath pattern id)
      (ArmCode setting depth) members arms) :
    ∀ instruction ∈ dispatch depth literals groups arms, instruction.Scoped names := by
  have moves : Instruction.Scoped names (.advance depth) ∧
      -- the two moves render nothing and hold no body
      Instruction.Scoped names (.retreat depth) :=
    ⟨scoped_of_own (by simp [Instruction.ownTemplates]) (by rintro _ _ ⟨⟩),
      scoped_of_own (by simp [Instruction.ownTemplates]) (by rintro _ _ ⟨⟩)⟩
  have texts (lookup : List (String × Nat)) :
      Instruction.Scoped names (.literals depth literals lookup) := by
    refine .mk (by simp [Instruction.ownTemplates]) ?_
    intro bound body holds instruction inner
    cases holds with
    | literal among =>
      obtain ⟨member, inside, ⟨kind, emitted⟩⟩ := literal.origin _ among
      exact bodies member inside _ _ _
        (fun _ name => outer_subset_visible member (known member inside name)) emitted
        instruction inner
  have branches : Instruction.Scoped names (.patterns depth groups arms) := by
    refine .mk (by simp [Instruction.ownTemplates]) ?_
    intro bound body holds instruction inner
    cases holds with
    | arm grouped among there =>
      -- the branch that is taken serves the pattern of the member whose code the arm is
      obtain ⟨pattern, own, captured⟩ := Batch.merge_branch merged _ grouped _ among
      obtain ⟨member, inside, ⟨id, kind⟩, emitted⟩ := arm_origin parameterized there own
      refine bodies member inside _ _ _ ?_ emitted instruction inner
      rw [captured]
      refine List.append_subset.mpr
        ⟨?_, fun _ name => outer_subset_visible member (known member inside name)⟩
      intro name captures
      obtain ⟨parameter, declared, rfl⟩ := List.mem_map.mp captures
      have kept := (covered_content (covered member inside)).parameters pattern
        (by rw [← LevelTree.kind, kind]; rfl) parameter declared
      exact List.mem_append_right _ kept
  intro instruction among
  rcases mem_dispatch among with rfl | rfl | rfl | rfl
  · exact moves.1
  · exact texts _
  · exact branches
  · exact moves.2

theorem emitBody_scoped {tree : LevelTree} (covered : tree.Covered) :
    BodiesScoped setting tree ∧ ∀ child ∈ tree.members, BodiesScoped setting child := by
  induction covered with
  | @node id content outer members here nested below ih =>
    refine ⟨?_, fun child inside => (ih child inside).1⟩
    intro depth names code known yields
    have whole : LevelTree.Covered (.node id content outer members) := .node here nested below
    cases emitBody_yields yields with
    | @mk _ _ _ _ issued controls literals groups arms returns _ controlled literal merged
        parameterized returned wrapped =>
      -- every piece of the body stands on the level of the node, where at least the outer names and
      -- those of the node itself are visible
      have unwrapped {bound : List String} (around : bound ⊆ outer ++ content.localVars) :
          ∀ instruction ∈ controls.flatten ++ dispatch depth literals groups arms ++ returns,
            instruction.Scoped bound := by
        have deeper : ∀ member ∈ members, bound ⊆ member.outer :=
          fun member inside _ name => nested member inside (around name)
        intro instruction among
        simp only [List.mem_append, List.mem_flatten] at among
        rcases among with (⟨control, piece, among⟩ | among) | among
        · obtain ⟨member, inside, made⟩ := forall₂_origin controlled control piece
          exact controlCode_scoped (below member inside) (deeper member inside)
            (ih member inside).1 (ih member inside).2 made instruction among
        · exact dispatch_scoped below deeper (fun member inside => (ih member inside).1) literal
            merged parameterized instruction among
        -- a return renders its fields, and a code in front of them that is constant
        · obtain ⟨member, inside, ⟨kind, compiled⟩⟩ := returned.origin instruction among
          have seen : bound ⊆ member.visible :=
            fun _ name => outer_subset_visible member (deeper member inside name)
          refine scoped_of_own ?_ (by rintro _ _ ⟨⟩)
          intro template own
          rw [Instruction.ownTemplates] at own
          split at own
          · exact compilesEntries_scoped compiled seen template own
          · rcases List.mem_cons.mp own with rfl | stated
            · exact literal_scoped "200"
            · exact compilesEntries_scoped compiled seen template stated
      -- with values of its own the body runs under a frame that binds their names
      rcases wrapped with ⟨-, rfl⟩ | ⟨-, bound, compiled, rfl⟩
      · exact unwrapped known
      · intro instruction among
        cases List.mem_singleton.mp among
        refine .mk (compilesEntries_scoped compiled known) ?_
        intro added body holds
        cases holds
        refine unwrapped (List.append_subset.mpr ⟨?_, known⟩)
        rw [compilesEntries_names compiled]
        intro name stated
        obtain ⟨entry, inside, rfl⟩ := List.mem_map.mp stated
        exact List.mem_append_right _ (here.values entry inside)

end

/-! ### Programs of trees -/

section

variable {functions : FunctionRegistry} {limit : Nat} {spec : SpecNode} {tree : RouteTree}
  {program : Program}

theorem ofTree_yields (compiled : ofTree functions limit tree = .ok program) :
    Yields (emitBody ⟨functions, limit⟩ 0 (tree.arena.subtree Arena.root).levels) program.entry := by
  simp only [ofTree, ofLevels, bind_ok_iff, pure_ok_iff] at compiled
  obtain ⟨⟨entry, counters⟩, emitted, rfl⟩ := compiled
  exact ⟨{}, counters, emitted⟩

theorem visits_unbound (built : RouteTree.build spec = .ok tree)
    (compiled : ofTree functions limit tree = .ok program) {request : Request}
    {state : MachineState} {instruction : Instruction}
    (visit : Machine.Visits request {} program.entry state instruction) :
    ∀ template ∈ instruction.ownTemplates, template.Unbound state.scope := by
  have covered := RouteTree.levels_covered built Arena.root
  have judged := (emitBody_scoped covered).1 0 [] program.entry (List.nil_subset _)
    (ofTree_yields compiled)
  obtain ⟨around, ⟨own, _⟩, within⟩ := Machine.visits_scoped visit judged fun _ _ => rfl
  intro template member name filters stands
  exact within name (own template member name filters stands)

/-- Searching the frames for every variable leaves the run of a program as it is. -/
theorem runBody_searching (built : RouteTree.build spec = .ok tree)
    (compiled : ofTree functions limit tree = .ok program) (request : Request) :
    Machine.runBody request {} (Instruction.frameBody program.entry)
      = Machine.runBody request {} program.entry :=
  Machine.runBody_framed fun _ _ visit => visits_unbound built compiled visit

/-- Deciding at compile time for which variables frames are searched never changes a result. At no
place that a run comes to does a frame hold a variable that the instruction there looks up without
them, so the run ends as it does when frames are searched for every variable. -/
theorem framing_exact (built : RouteTree.build spec = .ok tree)
    (compiled : ofTree functions limit tree = .ok program) (request : Request) :
    (∀ state instruction, Machine.Visits request {} program.entry state instruction →
      ∀ template ∈ instruction.ownTemplates, ∀ name filters,
        .variable name filters false ∈ template.parts → state.scope.lookup? name = none) ∧
    program.framed.execute request = program.execute request := by
  refine ⟨fun state instruction visit => visits_unbound built compiled visit, ?_⟩
  simp only [execute, framed, runBody_searching built compiled]

end

/-- A path whose return renders one variable that its frame binds and one that no frame can. -/
def itemSpec : SpecNode :=
  SpecNode.router.withChild <| (SpecNode.path "item-\x7bid\x7d").withChild <|
    SpecNode.returning.withAttribute "page" "\x7bid\x7d/\x7blang\x7d"

theorem framing_exact_item : ∃ tree program,
    RouteTree.build itemSpec = .ok tree ∧ ofTree .builtin 100 tree = .ok program ∧
    ∀ request, program.framed.execute request = program.execute request := by
  have succeeds : ((RouteTree.build itemSpec).toOption.bind fun tree =>
      (ofTree .builtin 100 tree).toOption).isSome = true := by decide +kernel
  obtain ⟨program, found⟩ := Option.isSome_iff_exists.mp succeeds
  obtain ⟨tree, built, compiled⟩ := Option.bind_eq_some_iff.mp found
  have built := ok_of_toOption built
  have compiled := ok_of_toOption compiled
  exact ⟨tree, program, built, compiled, fun request => (framing_exact built compiled request).2⟩

end Program

end Signpost
