import Signpost.Proofs.Program.Accounting
import Signpost.Proofs.Program.Issuing

/-!
# Emission loses nothing

The program of a tree has what the tree has, and each thing once: the nodes below the root and the sites
of the program pair off, the marks of branches are the numbers up to their count, and every dispatch
stands between the two moves that belong to it. What the emission of single nodes leaves open, a node
without code, a switch without a value or a default that another one replaces, does not come about,
because trees that have been built hold every node where it may stand.
-/
namespace Signpost

/-- An instruction looks at a segment. -/
inductive Instruction.DispatchesOn (index : Nat) : Instruction → Prop
  | literals {arms : List (String × List Instruction)} {lookup : List (String × Nat)} :
    DispatchesOn index (.literals index arms lookup)
  | patterns {groups : List BatchGroup} {arms : List (List Instruction)} :
    DispatchesOn index (.patterns index groups arms)

/-- The segment that an instruction moves past or looks at. -/
def Instruction.segment? : Instruction → Option Nat
  | .advance index | .retreat index | .literals index .. | .patterns index .. => some index
  | _ => none

/-- Instructions that dispatch on a segment stand behind the move past it and in front of the move
back, and nothing else does. -/
inductive Bracketed (index : Nat) : List Instruction → Prop
  | still {block : List Instruction} (still : ∀ instruction ∈ block, instruction.segment? = none) :
    Bracketed index block
  | moving {before dispatches after : List Instruction}
    (front : ∀ instruction ∈ before, instruction.segment? = none) (filled : dispatches ≠ [])
    (each : ∀ instruction ∈ dispatches, instruction.DispatchesOn index)
    (behind : ∀ instruction ∈ after, instruction.segment? = none) :
    Bracketed index (before ++ (.advance index :: dispatches ++ [.retreat index]) ++ after)

/-- A list of instructions is some code or a body in it. -/
inductive Block (code : List Instruction) : List Instruction → Prop
  | whole : Block code code
  | within {outer body : List Instruction} {instruction : Instruction} (block : Block code outer)
    (among : instruction ∈ outer) (held : body ∈ instruction.bodies) : Block code body

namespace Program

open Emission

section

variable {setting : Setting} {depth : Nat} {tree : LevelTree} {code : List Instruction}

theorem dispatch_bracketed {before after : List Instruction}
    {literals : List (String × List Instruction)} {groups : List BatchGroup}
    {arms : List (List Instruction)} (front : ∀ instruction ∈ before, instruction.segment? = none)
    (behind : ∀ instruction ∈ after, instruction.segment? = none) :
    Bracketed depth (before ++ dispatch depth literals groups arms ++ after) := by
  rw [dispatch]
  split
  · refine .still ?_
    rw [List.append_nil]
    exact List.forall_mem_append.mpr ⟨front, behind⟩
  next some =>
    rw [List.append_assoc [Instruction.advance depth], List.singleton_append]
    refine .moving front ?_ ?_ behind
    · intro none
      obtain ⟨textless, armless⟩ := List.append_eq_nil_iff.mp none
      simp_all
    · refine List.forall_mem_append.mpr ⟨?_, ?_⟩
      · split
        · simp
        · simpa using .literals
      · split
        · simp
        · simpa using .patterns

/-- Code in front of a dispatch neither binds values around a body nor looks at segments. -/
theorem ControlCode.still {member : LevelTree} (made : ControlCode setting depth member code) :
    ∀ instruction ∈ code, instruction.segment? = none ∧
      ∀ bound body, instruction ≠ .scope bound body := by
  cases made <;> simp [Instruction.segment?]

theorem ReturnCode.still {member : LevelTree} {instruction : Instruction}
    (made : ReturnCode setting member instruction) :
    instruction.segment? = none ∧ ∀ bound body, instruction ≠ .scope bound body := by
  cases made
  simp [Instruction.segment?]

/-- How a body is laid out: behind its values, the dispatch stands between the code of control nodes
and the returns. -/
theorem emitBody_layout (yields : Yields (emitBody setting depth tree) code) :
    ∃ inner, (code = inner ∨ ∃ bound, code = [.scope bound inner]) ∧
      Left setting depth tree false inner ∧ Bracketed depth inner ∧
      ∀ instruction ∈ inner, ∀ bound body, instruction ≠ .scope bound body := by
  cases emitBody_yields yields with
  | @mk id content outer members issued controls literals groups arms returns _ controlled literal
      merged parameterized returned wrapped =>
    -- What stands around the dispatch looks at no segment and opens no scope.
    have front : ∀ instruction ∈ controls.flatten, instruction.segment? = none ∧
        ∀ bound body, instruction ≠ .scope bound body := by
      intro instruction among
      obtain ⟨part, own, among⟩ := List.mem_flatten.mp among
      obtain ⟨member, -, made⟩ := forall₂_origin controlled part own
      exact made.still instruction among
    have behind : ∀ instruction ∈ returns, instruction.segment? = none ∧
        ∀ bound body, instruction ≠ .scope bound body := by
      intro instruction among
      obtain ⟨member, -, made⟩ := returned.origin instruction among
      exact made.still
    refine ⟨controls.flatten ++ dispatch depth literals groups arms ++ returns, ?_,
      left_level controlled literal merged parameterized returned,
      dispatch_bracketed (fun instruction among => (front instruction among).1)
        fun instruction among => (behind instruction among).1, ?_⟩
    · rcases wrapped with ⟨-, rfl⟩ | ⟨-, bound, -, rfl⟩
      · exact .inl rfl
      · exact .inr ⟨bound, rfl⟩
    · intro instruction among bound body
      rcases List.mem_append.mp among with among | last
      · rcases List.mem_append.mp among with first | middle
        · exact (front instruction first).2 bound body
        · rcases mem_dispatch middle with rfl | rfl | rfl | rfl <;> nofun
      · exact (behind instruction last).2 bound body

/-- Every body of an instruction that binds no values is what emission makes of another node. -/
theorem Nests.emitted {instruction : Instruction} {inside : LevelTree} {deeper : Nat}
    {body : List Instruction} (nests : Nests setting depth tree instruction inside deeper body)
    (other : ∀ bound body, instruction ≠ .scope bound body) :
    Yields (emitBody setting deeper inside) body := by
  cases nests with
  | scope => exact absurd rfl (other _ _)
  | test _ _ emitted => exact emitted
  | case _ _ _ _ _ emitted => exact emitted
  | default _ _ _ _ emitted => exact emitted
  | literal _ _ _ emitted => exact emitted
  | arm _ _ _ emitted => exact emitted

end

/-! ### Bodies of nodes -/

/-- A block is the body of a node, with the values around it or inside them. -/
def HasBody (setting : Setting) (arena : Arena) (node : LevelTree) (block : List Instruction) : Prop :=
  Yields (emitBody setting (arena.pathDepth node.id) node) block ∨
    ∃ bound, Yields (emitBody setting (arena.pathDepth node.id) node) [.scope bound block]

section

variable {setting : Setting} {arena : Arena} {root node : LevelTree} {block body : List Instruction}

/-- A body is either a single instruction that binds values around another one or a layout without
such instructions. -/
theorem HasBody.layout (has : HasBody setting arena node block) :
    (∃ bound inner, block = [.scope bound inner] ∧ HasBody setting arena node inner) ∨
      Left setting (arena.pathDepth node.id) node false block ∧
        Bracketed (arena.pathDepth node.id) block ∧
        ∀ instruction ∈ block, ∀ bound body, instruction ≠ .scope bound body := by
  rcases has with yields | ⟨bound, yields⟩
  · obtain ⟨inner, rfl | ⟨bound, rfl⟩, left, bracketed, scopeless⟩ := emitBody_layout yields
    · exact .inr ⟨left, bracketed, scopeless⟩
    · exact .inl ⟨bound, inner, rfl, .inr ⟨bound, yields⟩⟩
  · obtain ⟨inner, rfl | ⟨_, equal⟩, left, bracketed, scopeless⟩ := emitBody_layout yields
    -- the values have been put around a layout, so they are not a part of one
    · exact absurd rfl (scopeless _ List.mem_cons_self bound block)
    · cases equal
      exact .inr ⟨left, bracketed, scopeless⟩

/-- Dispatches stand between the moves of their level. -/
theorem HasBody.bracketed (has : HasBody setting arena node block) :
    Bracketed (arena.pathDepth node.id) block := by
  rcases has.layout with ⟨bound, inner, rfl, -⟩ | ⟨-, bracketed, -⟩
  · refine .still fun instruction among => ?_
    cases List.mem_singleton.mp among
    rfl
  · exact bracketed

/-- What an instruction nests is below the node in whose code it is, and it may have a body. -/
theorem Nests.inside {depth deeper : Nat} {instruction : Instruction} {inside : LevelTree}
    (nests : Nests setting depth node instruction inside deeper body) (mirrors : root.Mirrors arena)
    (within : node ∈ root.nodes) (bodied : node.kind.isBodied) :
    inside ∈ root.nodes ∧ inside.kind.isBodied := by
  have next := mirrors.members_within
  cases nests with
  | scope => exact ⟨within, bodied⟩
  | test below kind => exact ⟨next node within _ below, by rw [kind]; rfl⟩
  | case below _ inside kind =>
    exact ⟨next _ (next node within _ below) _ inside, by rw [kind]; rfl⟩
  | default below _ inside kind =>
    exact ⟨next _ (next node within _ below) _ inside, by rw [kind]; rfl⟩
  | literal below kind =>
    refine ⟨next node within _ below, ?_⟩
    cases same : inside.kind <;> simp_all [NodeKind.literal?, NodeKind.isBodied]
  | arm below kind => exact ⟨next node within _ below, by rw [kind]; rfl⟩

/-- What an instruction of a body holds is a body again. -/
theorem HasBody.within {instruction : Instruction} (linked : arena.Linked)
    (mirrors : root.Mirrors arena) (within : node ∈ root.nodes) (bodied : node.kind.isBodied)
    (has : HasBody setting arena node block) (among : instruction ∈ block)
    (held : body ∈ instruction.bodies) :
    ∃ inside ∈ root.nodes, inside.kind.isBodied ∧ HasBody setting arena inside body := by
  rcases has.layout with ⟨bound, inner, rfl, bare⟩ | ⟨left, -, scopeless⟩
  · cases List.mem_singleton.mp among
    cases List.mem_singleton.mp held
    exact ⟨node, within, bodied, bare⟩
  -- a body without values around it is what is left of itself at its beginning
  · obtain ⟨moved, rest, here⟩ := left_from left among
    obtain ⟨inside, deeper, nests⟩ := nests_of_held here held
    obtain ⟨-, rfl⟩ := nests.mirrors linked (mirrors.below_mirrored node within) rfl
    obtain ⟨within, bodied⟩ := nests.inside mirrors within bodied
    exact ⟨inside, within, bodied, .inl (nests.emitted (scopeless _ among))⟩

/-- Every block in the code of a node is the body of a node below it. -/
theorem block_hasBody {entry : List Instruction} (linked : arena.Linked) (mirrors : root.Mirrors arena)
    (bodied : root.kind.isBodied)
    (emitted : Yields (emitBody setting (arena.pathDepth root.id) root) entry)
    (inside : Block entry block) :
    ∃ node ∈ root.nodes, node.kind.isBodied ∧ HasBody setting arena node block := by
  induction inside with
  | whole => exact ⟨root, root.self_mem_nodes, bodied, .inl emitted⟩
  | within _ among held ih =>
    obtain ⟨node, within, bodied, has⟩ := ih
    exact has.within linked mirrors within bodied among held

/-- Some sites are those of the nodes below a node: each of them that has a site of its own becomes one
of these, and there are no others. -/
def Conserves (setting : Setting) (arena : Arena) (id : NodeId) (sites : List Site) : Prop :=
  ∃ nodes : List LevelTree, (nodes.map LevelTree.id).Nodup ∧
    (∀ below : NodeId, below ∈ nodes.map LevelTree.id ↔
      below ≠ id ∧ arena.Reaches id below ∧ (arena.node below).kind.isSited = true) ∧
    (∀ node ∈ nodes, node.Mirrors arena) ∧ List.Forall₂ (Becomes setting arena) nodes sites

/-- A body conserves what is below its node. -/
theorem HasBody.conserves (apart : arena.Apart) (arranged : arena.Arranged) (spelled : arena.Spelled)
    (mirrors : node.Mirrors arena) (bodied : node.kind.isBodied)
    (has : HasBody setting arena node block) :
    Conserves setting arena node.id (gather Instruction.sites block) := by
  have linked := apart.linked
  have corresponds : Corresponds (Becomes setting arena) (node.members.flatMap LevelTree.sited)
      (gather Instruction.sites block) := by
    have own : Accounted setting arena node := (accounted linked arranged spelled mirrors).1
    rcases has with yields | ⟨bound, yields⟩
    · exact own bodied block yields
    · have wrapped := own bodied _ yields
      rwa [gather_single, Instruction.bodies, List.flatMap_singleton] at wrapped
  obtain ⟨nodes, same, paired⟩ := corresponds
  refine ⟨nodes, ?_, ?_, ?_, paired⟩
  · exact (same.map _).nodup_iff.mpr (mirrors.sited_nodup linked apart.children)
  · intro below
    rw [(same.map _).mem_iff]
    exact mirrors.mem_sited_iff linked apart.children
  · intro below among
    obtain ⟨member, own, inside⟩ := List.mem_flatMap.mp (same.mem_iff.mp among)
    exact (mirrors.mirrored member own).below_mirrored below (List.mem_filter.mp inside).1

end

/-! ### Programs of trees -/

section

variable {spec : SpecNode} {functions : FunctionRegistry} {limit : Nat} {tree : RouteTree}
  {program : Program}

/-- The tree that a program is made from, cut into levels, mirrors the arena below no path. -/
theorem root_mirrors (built : RouteTree.build spec = .ok tree) :
    (tree.arena.subtree Arena.root).levels.Mirrors tree.arena ∧
      tree.arena.pathDepth (tree.arena.subtree Arena.root).levels.id = 0 := by
  have inside : Arena.root < tree.arena.size := (RouteTree.build_steps built).size_le
  refine ⟨Arena.levels_mirrors (RouteTree.build_linked built) inside, ?_⟩
  rw [Arena.levels_id, pathDepth_root built]

/-- The numbers of a program count its merged expressions and their branches. -/
theorem ofTree_issues (built : RouteTree.build spec = .ok tree)
    (compiled : ofTree functions limit tree = .ok program) :
    Issues {} ⟨program.branches, program.regexGroups⟩ program.groups := by
  simp only [ofTree, ofLevels, bind_ok_iff, pure_ok_iff] at compiled
  obtain ⟨⟨entry, counters⟩, emitted, rfl⟩ := compiled
  exact (counts (RouteTree.build_linked built) (RouteTree.build_arranged built)
    (root_mirrors built).1).1 _ _ _ _ emitted

/-- Emission loses nothing and makes nothing twice. Pairing the nodes below the root that have sites with
what they become exhausts these nodes and the sites of the program: a path becomes one arm of a literal
dispatch, a parameterized path one arm and the only branch that leads to it, and switches, cases,
defaults, tests, sets, calls and returns become one site each, where the templates of a call are its
arguments and then those of its argument nodes. The same holds for every block, which is the body of a
node, and for the nodes below that one. The dispatches of a block stand between two moves past the
segment whose number is that of the paths down to the node. The branches of a dispatch, through its
groups in order, lead to its arms one after another, and all marks are used once. -/
theorem emission_exact (built : RouteTree.build spec = .ok tree)
    (compiled : ofTree functions limit tree = .ok program) :
    Conserves ⟨functions, limit⟩ tree.arena Arena.root program.sites ∧
    (∀ block, Block program.entry block → ∃ node : LevelTree,
      tree.arena.Reaches Arena.root node.id ∧ node.Mirrors tree.arena ∧
      HasBody ⟨functions, limit⟩ tree.arena node block ∧
      Bracketed (tree.arena.pathDepth node.id) block ∧
      Conserves ⟨functions, limit⟩ tree.arena node.id (gather Instruction.sites block)) ∧
    (∀ index groups arms, StandsIn (.patterns index groups arms) program.entry →
      (groups.flatMap (·.branches)).map (·.arm) = List.range arms.length) ∧
    program.regexGroups = program.groups.length ∧
    ((program.groups.flatMap (·.branches)).map (·.mark)).Perm (List.range' 1 program.branches) := by
  have apart := RouteTree.build_apart built
  have linked := apart.linked
  have arranged := RouteTree.build_arranged built
  have spelled := RouteTree.build_spelled built
  obtain ⟨mirrors, top⟩ := root_mirrors built
  have emitted := ofTree_yields compiled
  have issues := ofTree_issues built compiled
  have named := Arena.levels_id tree.arena Arena.root
  set root := (tree.arena.subtree Arena.root).levels
  have bodied : root.kind.isBodied := by
    rw [mirrors.kind, named, arranged.root]
    rfl
  refine ⟨?_, ?_, ?_, ?_, ?_⟩
  · rw [← top] at emitted
    rw [← named]
    exact HasBody.conserves apart arranged spelled mirrors bodied (.inl emitted)
  · intro block inside
    rw [← top] at emitted
    obtain ⟨node, within, bodied, has⟩ := block_hasBody linked mirrors bodied emitted inside
    have mirrored := mirrors.below_mirrored node within
    refine ⟨node, ?_, mirrored, has, has.bracketed,
      has.conserves apart arranged spelled mirrored bodied⟩
    rw [← named]
    exact mirrors.below_reached linked node within
  · intro index groups arms stands
    obtain ⟨node, depth, moved, rest, -, left⟩ :=
      left_of_standsIn linked stands (emitBody_left emitted) mirrors top.symm
    cases left with
    | control _ made => cases made
    | «return» _ made => cases made
    | patterns merged picks =>
      rw [(Batch.merge_partition merged).positions, arms_length picks, List.range_eq_range']
  · simpa using issues.counted
  · simpa using issues.marked

end

/-- Groups, a block used twice, a switch on a call whose default stands first, and more patterns on one
level than go into one expression. -/
def harbourSpec : SpecNode :=
  let berths := (SpecNode.block "berths").withChild
    ((SpecNode.path "berth/\x7bnumber:int\x7d").withChild SpecNode.returning)
  let lamps := (SpecNode.test "\x7bquay\x7d" "^[a-m]").withChild
    ((SpecNode.call "trim").withChild (SpecNode.arg "light" "\x7b0\x7d"))
  let kind := ((SpecNode.call "lowercase").withAttribute "with" "\x7bship\x7d, 2").withChild
    (SpecNode.arg "flag" "\x7bquay\x7d")
  let ships := SpecNode.switch.withChildren
    [(SpecNode.ofKind .value).withChild kind, SpecNode.defaultCase.withChild SpecNode.returning,
      (SpecNode.case "ferry").withChildren [SpecNode.reference "berths", SpecNode.set "fast" "yes"]]
  SpecNode.router.withChildren
    [berths, SpecNode.group.withChild (SpecNode.reference "berths"),
      (SpecNode.path "\x7bquay\x7d-east").withChildren [SpecNode.arg "ship" "barge", lamps, ships],
      (SpecNode.path "\x7bquay\x7d-west").withChild SpecNode.returning,
      SpecNode.group.withChild ((SpecNode.path "\x7block:int\x7d").withChild SpecNode.returning)]

theorem emission_exact_harbour : ∃ tree program,
    RouteTree.build harbourSpec = .ok tree ∧ ofTree .builtin 40 tree = .ok program ∧
    program.sites.length = 19 ∧ Conserves ⟨.builtin, 40⟩ tree.arena Arena.root program.sites ∧
    (∀ block, Block program.entry block → ∃ node : LevelTree,
      HasBody ⟨.builtin, 40⟩ tree.arena node block ∧
        Bracketed (tree.arena.pathDepth node.id) block) ∧
    (∃ groups arms, StandsIn (.patterns 0 groups arms) program.entry ∧ groups.length = 2 ∧
      (groups.flatMap (·.branches)).map (·.arm) = [0, 1, 2]) ∧
    program.groups.length = 4 ∧
    ((program.groups.flatMap (·.branches)).map (·.mark)).Perm [1, 2, 3, 4, 5] := by
  have succeeds : ((RouteTree.build harbourSpec).toOption.bind fun tree =>
      (ofTree .builtin 40 tree).toOption.filter fun program =>
        (program.sites.length = 19 ∧ program.regexGroups = 4 ∧ program.branches = 5) ∧
          program.entry.any fun instruction => instruction.segment? = some 0 ∧
            instruction.groups.length = 2 ∧ instruction.bodies.length = 3).isSome = true := by
    decide +kernel
  obtain ⟨program, found⟩ := Option.isSome_iff_exists.mp succeeds
  obtain ⟨tree, built, compiled⟩ := Option.bind_eq_some_iff.mp found
  obtain ⟨compiled, checked⟩ := Option.filter_eq_some_iff.mp compiled
  obtain ⟨⟨sites, groups, branches⟩, dispatches⟩ := of_decide_eq_true checked
  have built := ok_of_toOption built
  have compiled := ok_of_toOption compiled
  obtain ⟨whole, blocks, positions, counted, marked⟩ := emission_exact built compiled
  refine ⟨tree, program, built, compiled, sites, whole, ?_, ?_, counted ▸ groups, ?_⟩
  · intro block inside
    obtain ⟨node, -, -, has, bracketed, -⟩ := blocks block inside
    exact ⟨node, has, bracketed⟩
  · obtain ⟨instruction, among, shape⟩ := List.any_eq_true.mp dispatches
    obtain ⟨first, two, three⟩ := of_decide_eq_true shape
    cases instruction with
    | patterns index groups arms =>
      cases first
      have stands := StandsIn.here among
      refine ⟨groups, arms, stands, two, ?_⟩
      rw [positions 0 groups arms stands, show arms.length = 3 from three]
      rfl
    | _ => cases two
  · rw [branches] at marked
    exact marked

end Program

end Signpost
