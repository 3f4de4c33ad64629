import Signpost.Proofs.Program.Cursor
import Signpost.Proofs.Tree.Inlining
import Signpost.Proofs.Tree.Mirror

/-!
# The course of a run

A run of the program of a tree goes from the body of the root into the bodies of other nodes. It is
followed here node by node. Wherever a body is begun, the cursor stands at the number of paths that
lead down to its node, and so it does when the body ends, unless the body ends the run. A return is
met below as many paths as the moves that have been made and not taken back.
-/
namespace Signpost

/-! ### Paths above a node -/

namespace Arena

variable {arena : Arena}

/-- How many paths lead down to a node, itself included if it is one. -/
def pathDepth (arena : Arena) (id : NodeId) : Nat :=
  (arena.lineage id).countP fun ancestor => (arena.node ancestor).kind.pattern?.isSome

theorem pathDepth_child (linked : arena.Linked) {id parent : Nat}
    (up : (arena.node id).parent = some parent) :
    arena.pathDepth id
      = arena.pathDepth parent + if (arena.node id).kind.pattern?.isSome then 1 else 0 := by
  rw [pathDepth, lineage_child linked up, List.countP_cons]
  rfl

theorem patternless_of_blank {kind : NodeKind} (blank : kind.isBlank = true) :
    kind.pattern?.isSome = false := by
  cases kind <;> first | rfl | cases blank

theorem pathDepth_climbs (linked : arena.Linked) {id owner : Nat}
    (walk : Relation.ReflTransGen arena.Climbs id owner) :
    arena.pathDepth id = arena.pathDepth owner := by
  induction walk using Relation.ReflTransGen.head_induction_on with
  | refl => rfl
  | head step _ ih => simp [pathDepth_child linked step.2, patternless_of_blank step.1, ih]

theorem pattern_of_literal {kind : NodeKind} {literal : String}
    (text : kind.literal? = some literal) : kind.pattern?.isSome = true := by
  cases kind <;> first | rfl | cases text

/-- From a node to its level, only paths count. -/
theorem pathDepth_level (linked : arena.Linked) {id member : Nat} (among : member ∈ arena.level id) :
    arena.pathDepth member
      = arena.pathDepth id + if (arena.node member).kind.pattern?.isSome then 1 else 0 := by
  obtain ⟨-, parent, up, walk⟩ := (mem_level_iff linked).mp among
  rw [pathDepth_child linked up, pathDepth_climbs linked walk]

end Arena

namespace LevelTree.Mirrors

variable {arena : Arena} {tree member : LevelTree}

theorem pathDepth (mirrors : tree.Mirrors arena) (linked : arena.Linked)
    (below : member ∈ tree.members) :
    arena.pathDepth member.id
      = arena.pathDepth tree.id + if member.kind.pattern?.isSome then 1 else 0 := by
  have among : member.id ∈ arena.level tree.id := mirrors.members ▸ List.mem_map_of_mem below
  rw [Arena.pathDepth_level linked among, (mirrors.mirrored member below).kind]

/-- The level of a member that is no path lies below as many paths as its own level. -/
theorem pathDepth_still (mirrors : tree.Mirrors arena) (linked : arena.Linked)
    (below : member ∈ tree.members) (patternless : member.kind.pattern? = none) :
    arena.pathDepth member.id = arena.pathDepth tree.id := by
  simp [mirrors.pathDepth linked below, patternless]

end LevelTree.Mirrors

namespace Program

open Emission Machine

/-! ### Bodies that are begun -/

/-- The run of a program begins the body of a node: which node, below how many paths, in which state,
and what code the body has. -/
inductive Begins (setting : Setting) (request : Request) (root : LevelTree)
    (entry : List Instruction) : LevelTree → Nat → MachineState → List Instruction → Prop
  | entry : Begins setting request root entry root 0 {} entry
  | within {node inside : LevelTree} {depth deeper : Nat} {begun here inner : MachineState}
    {code rest body : List Instruction} {instruction : Instruction} {framed : Bool}
    (outer : Begins setting request root entry node depth begun code)
    (passes : Passes request begun code here (instruction :: rest))
    (entered : Machine.entry request here instruction = .body framed inner body)
    (nests : Nests setting depth node instruction inside deeper body) :
    Begins setting request root entry inside deeper inner body

section

variable {setting : Setting} {request : Request} {root node : LevelTree} {arena : Arena}
  {entry code remaining : List Instruction} {depth : Nat} {begun here : MachineState}
  {instruction : Instruction}

/-- What holds where the body of a node is begun. -/
structure Begun (arena : Arena) (setting : Setting) (request : Request) (node : LevelTree)
    (depth : Nat) (state : MachineState) (code : List Instruction) : Prop where
  mirrors : node.Mirrors arena
  counted : depth = arena.pathDepth node.id
  remains : Left setting depth node false code
  cursor : state.cursor = depth
  steady : Steady request state

/-- While a body runs, the cursor stands where what is left of the body needs it. -/
theorem passes_left {moved : Bool} (passes : Passes request begun code here remaining)
    (remains : Left setting depth node moved code) (stands : begun.cursor = placeIn request depth moved) :
    ∃ moved', Left setting depth node moved' remaining ∧ here.cursor = placeIn request depth moved' := by
  induction passes generalizing moved with
  | stop => exact ⟨moved, remains, stands⟩
  | @pass state next later instruction rest left passed _ ih =>
    have flow := congrArg Prod.fst passed
    obtain ⟨moved', behind, stands'⟩ := left_step remains stands (restores_of_left remains stands) flow
    rw [passed] at stands'
    exact ih behind stands'

theorem Nests.mirrors (linked : arena.Linked) {inside : LevelTree} {deeper : Nat}
    (nests : Nests setting depth node instruction inside deeper code) (mirrors : node.Mirrors arena)
    (counted : depth = arena.pathDepth node.id) :
    inside.Mirrors arena ∧ deeper = arena.pathDepth inside.id := by
  -- Only the arms of a dispatch lie behind one more path; all other bodies stay at the depth they
  -- are in.
  cases nests with
  | scope => exact ⟨mirrors, counted⟩
  | test below kind =>
    refine ⟨mirrors.mirrored _ below, ?_⟩
    rw [counted, mirrors.pathDepth_still linked below (by rw [kind]; rfl)]
  | case below switched inside kind =>
    have switch := mirrors.mirrored _ below
    refine ⟨switch.mirrored _ inside, ?_⟩
    rw [counted, switch.pathDepth_still linked inside (by rw [kind]; rfl),
      mirrors.pathDepth_still linked below (by rw [switched]; rfl)]
  | default below switched inside kind =>
    have switch := mirrors.mirrored _ below
    refine ⟨switch.mirrored _ inside, ?_⟩
    rw [counted, switch.pathDepth_still linked inside (by rw [kind]; rfl),
      mirrors.pathDepth_still linked below (by rw [switched]; rfl)]
  | literal below kind =>
    refine ⟨mirrors.mirrored _ below, ?_⟩
    rw [counted, mirrors.pathDepth linked below, if_pos (Arena.pattern_of_literal kind)]
  | arm below kind =>
    refine ⟨mirrors.mirrored _ below, ?_⟩
    rw [counted, mirrors.pathDepth linked below, kind]
    rfl

theorem begins_begun (linked : arena.Linked)
    (begins : Begins setting request root entry node depth begun code)
    (mirrors : root.Mirrors arena) (top : arena.pathDepth root.id = 0)
    (emitted : Yields (emitBody setting 0 root) entry) :
    Begun arena setting request node depth begun code := by
  induction begins with
  | entry => exact ⟨mirrors, top.symm, emitBody_left emitted, rfl, .start request⟩
  | @within _ _ _ _ _ _ _ _ _ _ instruction _ _ passes entered nests ih =>
    obtain ⟨mirrored, counted⟩ := nests.mirrors linked ih.mirrors ih.counted
    obtain ⟨moved, remains, stands⟩ := passes_left passes ih.remains (by rw [ih.cursor, placeIn_false])
    have steady := entry_steady (passes.steady ih.steady) instruction
    rw [entered] at steady
    exact ⟨mirrored, counted, nests.left, nests_cursor remains stands entered nests, steady⟩

/-- Every place that a run comes to lies in a body that has been begun. -/
theorem begins_of_visits (linked : arena.Linked) (mirrors : root.Mirrors arena)
    (top : arena.pathDepth root.id = 0) (emitted : Yields (emitBody setting 0 root) entry)
    {state later : MachineState} (visit : Visits request state remaining later instruction)
    (begins : Begins setting request root entry node depth begun code)
    (passes : Passes request begun code state remaining) :
    ∃ node depth begun code rest, Begins setting request root entry node depth begun code ∧
      Passes request begun code later (instruction :: rest) := by
  induction visit generalizing node depth begun code with
  | here => exact ⟨node, depth, begun, code, _, begins, passes⟩
  | behind passed _ ih => exact ih begins (passes.snoc passed)
  | within entered _ ih =>
    -- the run goes on inside a body that this one holds, and that body begins here
    have start := begins_begun linked begins mirrors top emitted
    obtain ⟨moved, remains, -⟩ := passes_left passes start.remains (by rw [start.cursor, placeIn_false])
    obtain ⟨inside, deeper, nests⟩ := nests_of_entry remains entered
    exact ih (.within begins passes entered nests) .stop

/-- A run that ends in a body ends as the body does. -/
theorem begins_endsAs {outcome : Outcome}
    (begins : Begins setting request root entry node depth begun code)
    (ended : (runBody request begun code).1 = some outcome) :
    EndsAs (runBody request {} entry) (runBody request begun code) := by
  induction begins with
  | entry => exact .refl _
  | within _ passes entered _ ih =>
    have inside := passes.run ▸ endsAs_entered entered ended
    exact (ih (inside.outcome.trans ended)).trans inside

/-! ### Returns -/

/-- A run comes to the return of a node in a state. -/
def Meets (setting : Setting) (request : Request) (root : LevelTree) (entry : List Instruction)
    (answer : LevelTree) (here : MachineState) (fields : List (String × CompiledTemplate)) : Prop :=
  ∃ node depth begun code rest, Begins setting request root entry node depth begun code ∧
    Passes request begun code here (.return fields :: rest) ∧ answer ∈ node.members ∧
    ReturnCode setting answer (.return fields)

theorem left_return {moved : Bool} {fields : List (String × CompiledTemplate)}
    (left : Left setting depth node moved (.return fields :: remaining)) :
    moved = false ∧ ∃ answer ∈ node.members, ReturnCode setting answer (.return fields) := by
  cases left with
  | control _ made => cases made
  | «return» below made => exact ⟨rfl, _, below, made⟩

theorem runBody_return (request : Request) (here : MachineState)
    (fields : List (String × CompiledTemplate)) (rest : List Instruction) :
    runBody request here (.return fields :: rest)
      = (some (.ofFields (renderEntries request here fields).1),
        (renderEntries request here fields).2) := by
  rw [runBody, runInstruction]

end

/-! ### Programs of trees -/

section

variable {functions : FunctionRegistry} {limit : Nat} {spec : SpecNode} {tree : RouteTree}
  {program : Program}

theorem pathDepth_root (built : RouteTree.build spec = .ok tree) :
    tree.arena.pathDepth Arena.root = 0 := by
  have linked := RouteTree.build_linked built
  have inside : Arena.root < tree.arena.size := (RouteTree.build_steps built).size_le
  have parentless : (tree.arena.node Arena.root).parent = none := by
    cases up : (tree.arena.node Arena.root).parent with
    | none => rfl
    | some parent => exact absurd (linked.order parent _ up).1 (Nat.not_lt_zero parent)
  obtain ⟨-, body, -⟩ := RouteTree.build_ok_iff.mp built
  obtain ⟨_, -, grows⟩ :=
    RouteTree.buildChildren_grows RouteTree.start_site RouteTree.Keeps.none spec.children body
  have router : (tree.arena.node Arena.root).kind = .router :=
    grows.kind RouteTree.start_site.inside
  simp [Arena.pathDepth, Arena.lineage_root inside parentless, router, NodeKind.pattern?]

/-- The cursor and the scope keep to the nesting of bodies. In a run of the program of a tree, every
place lies in a body that has been begun. A body begins with the cursor at the number of paths that
lead down to its node; when it ends, the frames are those of its beginning and global variables have
only been added, and the cursor is back where it was unless a return has ended the run. The cursor
never passes the segments that exist, and it is the number of moves forth that have not been taken
back. So a run without a return takes all of them back, and a run with one ends at the first return
that it comes to, with as many moves left as there are paths down to that return. -/
theorem cursor_discipline (built : RouteTree.build spec = .ok tree)
    (compiled : ofTree functions limit tree = .ok program) (request : Request) :
    let root := (tree.arena.subtree Arena.root).levels
    let begins := Begins ⟨functions, limit⟩ request root program.entry
    let meets := Meets ⟨functions, limit⟩ request root program.entry
    let run := runBody request {} program.entry
    let execution := program.execute request
    (∀ state instruction, Visits request {} program.entry state instruction →
      ∃ node depth begun code rest, begins node depth begun code ∧
        Passes request begun code state (instruction :: rest)) ∧
    (∀ node depth begun code, begins node depth begun code →
      node.content = (tree.arena.node node.id).toNodeContent ∧
      depth = tree.arena.pathDepth node.id ∧ begun.cursor = depth ∧
      (runBody request begun code).2.scope.frames = begun.scope.frames ∧
      begun.scope.globals <:+ (runBody request begun code).2.scope.globals ∧
      ((runBody request begun code).1 = none → (runBody request begun code).2.cursor = depth)) ∧
    (∀ node depth begun code here left, begins node depth begun code →
      Passes request begun code here left →
      Steady request here ∧ Steady request (runBody request here left).2) ∧
    (run.1 = none → execution.advances = execution.retreats) ∧
    (∀ outcome, run.1 = some outcome → ∃ answer here fields, meets answer here fields) ∧
    (∀ answer here fields, meets answer here fields →
      execution.outcome = .ofFields (renderEntries request here fields).1 ∧
      execution.advances = execution.retreats + tree.arena.pathDepth answer.id) := by
  intro root begins meets run execution
  have linked := RouteTree.build_linked built
  have inside : Arena.root < tree.arena.size := (RouteTree.build_steps built).size_le
  have mirrors : root.Mirrors tree.arena := Arena.levels_mirrors linked inside
  have emitted : Yields (emitBody ⟨functions, limit⟩ 0 root) program.entry := ofTree_yields compiled
  have top : tree.arena.pathDepth root.id = 0 := by
    rw [Arena.levels_id]
    exact pathDepth_root built
  have start {node : LevelTree} {depth : Nat} {begun : MachineState} {code : List Instruction}
      (begin : begins node depth begun code) :=
    begins_begun linked begin mirrors top emitted
  have ended : Steady request run.2 := runBody_steady (.start request) program.entry
  refine ⟨?_, ?_, ?_, ?_, ?_, ?_⟩
  · intro state instruction visit
    exact begins_of_visits linked mirrors top emitted visit .entry .stop
  · intro node depth begun code begin
    have here := start begin
    refine ⟨here.mirrors.content, here.counted, here.cursor, runBody_frames request begun code,
      runBody_globals request begun code, ?_⟩
    exact left_restores here.remains (by rw [here.cursor, placeIn_false])
  · intro node depth begun code here left begin passes
    have steady := passes.steady (start begin).steady
    exact ⟨steady, runBody_steady steady left⟩
  · intro unanswered
    have back : run.2.cursor = 0 := left_restores (emitBody_left emitted) rfl unanswered
    have balanced := ended.balanced
    rwa [back] at balanced
  · intro outcome answered
    obtain ⟨here, fields, visit⟩ := visits_return answered
    obtain ⟨node, depth, begun, code, rest, begin, passes⟩ :=
      begins_of_visits linked mirrors top emitted visit .entry .stop
    obtain ⟨moved, remains, -⟩ :=
      passes_left passes (start begin).remains (by rw [(start begin).cursor, placeIn_false])
    obtain ⟨-, answer, below, made⟩ := left_return remains
    exact ⟨answer, here, fields, node, depth, begun, code, rest, begin, passes, below, made⟩
  · rintro answer here fields ⟨node, depth, begun, code, rest, begin, passes, below, made⟩
    have first := start begin
    -- where the return is met, the cursor stands at the depth of the body around it
    obtain ⟨moved, remains, stands⟩ :=
      passes_left passes first.remains (by rw [first.cursor, placeIn_false])
    obtain ⟨rfl, -⟩ := left_return remains
    have part : runBody request begun code = _ :=
      passes.run.trans (runBody_return request here fields rest)
    have whole : EndsAs run _ := part ▸ begins_endsAs begin (by rw [part])
    obtain ⟨calls, rendered⟩ := renderEntries_calls request here fields
    have level : tree.arena.pathDepth answer.id = here.cursor := by
      rw [stands, placeIn_false, first.counted]
      refine first.mirrors.pathDepth_still linked below ?_
      cases made with
      | mk kind => rw [kind]; rfl
    refine ⟨?_, ?_⟩
    · exact congrArg (·.getD .notFound) whole.outcome
    · have steady := passes.steady first.steady
      have advances := whole.advances
      have retreats := whole.retreats
      rw [rendered] at advances retreats
      rw [level]
      exact advances.trans (steady.balanced.trans (congrArg (· + here.cursor) retreats.symm))

end

/-- Three paths, one below the other, and a return behind the last one. -/
def shelfSpec : SpecNode :=
  SpecNode.router.withChild <| (SpecNode.path "shelf").withChild <|
    (SpecNode.path "\x7bbook:int\x7d").withChild <| (SpecNode.path "cover").withChild <|
      SpecNode.returning.withAttribute "book" "\x7bbook\x7d"

/-- The moves of the runs on a path. -/
def movesOn (program : Program) (path : String) : Nat × Nat :=
  let execution := program.execute (.ofAttributes (.ofList [("path", path)]) ["path"] "query")
  (execution.advances, execution.retreats)

/-- The cover of a book is found with three moves left; a book without the page asked for and a shelf
without a book take back what they have moved. -/
theorem cursor_discipline_shelf : ∃ tree program,
    RouteTree.build shelfSpec = .ok tree ∧ ofTree .builtin 100 tree = .ok program ∧
    (∀ request, (runBody request {} program.entry).1 = none →
      (program.execute request).advances = (program.execute request).retreats) ∧
    ["/shelf/7/cover", "/shelf/7/spine", "/shelf"].map (movesOn program)
      = [(3, 0), (3, 3), (1, 1)] := by
  have succeeds : ((RouteTree.build shelfSpec).toOption.bind fun tree =>
      (ofTree .builtin 100 tree).toOption.filter fun program =>
        ["/shelf/7/cover", "/shelf/7/spine", "/shelf"].map (movesOn program)
          = [(3, 0), (3, 3), (1, 1)]).isSome = true := by decide +kernel
  obtain ⟨program, found⟩ := Option.isSome_iff_exists.mp succeeds
  obtain ⟨tree, built, compiled⟩ := Option.bind_eq_some_iff.mp found
  obtain ⟨compiled, moved⟩ := Option.filter_eq_some_iff.mp compiled
  have built := ok_of_toOption built
  have compiled := ok_of_toOption compiled
  refine ⟨tree, program, built, compiled, fun request => ?_, of_decide_eq_true moved⟩
  exact (cursor_discipline built compiled request).2.2.2.1

end Program

end Signpost
