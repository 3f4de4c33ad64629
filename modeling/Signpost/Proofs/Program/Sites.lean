import Signpost.Proofs.Correspondence
import Signpost.Proofs.Program.Batching
import Signpost.Proofs.Program.Occurrences
import Signpost.Proofs.Tree.Census

/-!
# Sites

The places in code that nodes become: instructions, cases and defaults of switches, arms of dispatches and
the calls that give switches their values. A node says what its site is made of, so whether code has the
sites of a tree is a question of pairing them off.
-/
namespace Signpost

/-- A place in code that a node may become. The arm of a pattern dispatch comes with its position and
with the branches that lead to it. -/
inductive Site
  | literal (index : Nat) (text : String) (body : List Instruction)
  | arm (index position : Nat) (slots : List BranchSlot) (body : List Instruction)
  | test (regex : Regex) (subject : CompiledTemplate) (body : List Instruction)
  | switch (value : SwitchValue) (cases : List (CompiledTemplate × List Instruction))
      (default : Option (List Instruction))
  | case (value : CompiledTemplate) (body : List Instruction)
  | default (body : List Instruction)
  | set (name : String) (value : CompiledTemplate)
  | call (site : CallSite)
  | return (fields : List (String × CompiledTemplate))

def SwitchValue.sites : SwitchValue → List Site
  | .template _ => []
  | .call site => [.call site]

namespace Instruction

/-- The merged expressions of an instruction. -/
def groups : Instruction → List BatchGroup
  | .patterns _ groups _ => groups
  | _ => []

/-- The sites of an instruction, but for those in its bodies. -/
def sites : Instruction → List Site
  | .literals index arms _ => arms.map fun arm => .literal index arm.1 arm.2
  | .patterns index groups arms =>
    arms.zipIdx.map fun arm =>
      .arm index arm.2 ((groups.flatMap (·.branches)).filter (·.arm = arm.2)) arm.1
  | .test regex subject body => [.test regex subject body]
  | .switch value cases default =>
    [.switch value cases default] ++ value.sites ++ cases.map (fun case => .case case.1 case.2)
      ++ default.toList.map .default
  | .set name value => [.set name value]
  | .call site => [.call site]
  | .return fields => [.return fields]
  | .advance _ | .retreat _ | .scope _ _ => []

end Instruction

namespace Program

/-- The sites of a program, each as often as it occurs. -/
def sites (program : Program) : List Site := gather Instruction.sites program.entry

/-- The merged expressions of a program, each as often as it occurs. -/
def groups (program : Program) : List BatchGroup := gather Instruction.groups program.entry

end Program

namespace NodeKind

/-- Whether a node has a site of its own. Groups pass on what they hold, and arguments go into calls. -/
def isSited : NodeKind → Bool
  | .router | .block _ | .blankPath _ | .arg _ => false
  | _ => true

/-- Whether a node has code in front of the dispatch of its level. -/
def isControl : NodeKind → Bool
  | .switch _ | .test .. | .call .. | .set .. => true
  | _ => false

def isReturn : NodeKind → Bool
  | .return _ => true
  | _ => false

def isChoice : NodeKind → Bool
  | .case _ => true
  | _ => false

theorem isBlank_of_isSited {kind : NodeKind} (sited : kind.isSited = true) :
    kind.isBlank = false := by
  cases kind with
  | blankPath => cases sited
  | _ => rfl

theorem isReturn_eq_false {kind : NodeKind} (other : ∀ attributes, kind ≠ .return attributes) :
    kind.isReturn = false := by
  cases kind with
  | «return» attributes => exact absurd rfl (other attributes)
  | _ => rfl

theorem isChoice_eq_false {kind : NodeKind} (other : ∀ source, kind ≠ .case source) :
    kind.isChoice = false := by
  cases kind with
  | case source => exact absurd rfl (other source)
  | _ => rfl

end NodeKind

namespace LevelTree

/-- The node of a tree and those below it that have sites. -/
def sited (tree : LevelTree) : List LevelTree := tree.nodes.filter (·.kind.isSited)

theorem sited_eq (tree : LevelTree) :
    tree.sited = (if tree.kind.isSited then [tree] else []) ++ tree.members.flatMap sited := by
  rw [sited, nodes_eq, List.filter_cons, List.filter_flatMap]
  split <;> rfl

theorem sited_cons {tree : LevelTree} (own : tree.kind.isSited = true) :
    tree.sited = tree :: tree.members.flatMap sited := by
  rw [sited_eq, if_pos own]
  rfl

variable {arena : Arena} {tree : LevelTree}

/-- Below a node no node is met twice. -/
theorem Mirrors.sited_nodup (linked : arena.Linked)
    (children : ∀ id : Nat, (arena.node id).children.Nodup) (mirrors : tree.Mirrors arena) :
    ((tree.members.flatMap sited).map LevelTree.id).Nodup := by
  have below : (tree.members.flatMap sited).Sublist tree.nodes := by
    refine List.Sublist.trans ?_ (List.filter_sublist (p := (·.kind.isSited)))
    rw [← sited, sited_eq]
    exact List.sublist_append_right _ _
  exact (mirrors.nodes_nodup linked children).sublist (below.map _)

/-- Below a node all nodes with sites are met, and nothing else. -/
theorem Mirrors.mem_sited_iff (linked : arena.Linked)
    (children : ∀ id : Nat, (arena.node id).children.Nodup) (mirrors : tree.Mirrors arena) {id : Nat} :
    id ∈ (tree.members.flatMap sited).map LevelTree.id ↔
      id ≠ tree.id ∧ arena.Reaches tree.id id ∧ (arena.node id).kind.isSited = true := by
  -- No node stands in its own tree twice, so the nodes below the top are those reached other than
  -- the top.
  have apart := mirrors.nodes_nodup linked children
  have split : tree.members.flatMap sited
      = (tree.members.flatMap nodes).filter (·.kind.isSited) := by
    rw [List.filter_flatMap]
    rfl
  rw [nodes_eq, List.map_cons, List.nodup_cons] at apart
  have within {node : LevelTree} (below : node ∈ tree.members.flatMap nodes) : node ∈ tree.nodes := by
    rw [nodes_eq]
    exact List.mem_cons_of_mem _ below
  rw [split]
  constructor
  · intro met
    obtain ⟨node, among, rfl⟩ := List.mem_map.mp met
    obtain ⟨below, own⟩ := List.mem_filter.mp among
    refine ⟨?_, mirrors.below_reached linked node (within below), ?_⟩
    · intro same
      exact apart.1 (same ▸ List.mem_map_of_mem below)
    · rwa [← (mirrors.below_mirrored node (within below)).kind]
  · rintro ⟨other, walk, own⟩
    have met := (mirrors.mem_nodes_iff linked (NodeKind.isBlank_of_isSited own)).mpr walk
    rw [nodes_eq, List.map_cons] at met
    obtain ⟨node, below, rfl⟩ := List.mem_map.mp ((List.mem_cons.mp met).resolve_left other)
    refine List.mem_map_of_mem (List.mem_filter.mpr ⟨below, ?_⟩)
    rwa [(mirrors.below_mirrored node (within below)).kind]

end LevelTree

namespace Program

open Emission NodeKind

/-- A node becomes a site. What follows a path stands below one more path than the dispatch on it. -/
inductive Becomes (setting : Setting) (arena : Arena) : LevelTree → Site → Prop
  | literal {node : LevelTree} {pattern : Pattern} {route : Option String} {depth : Nat}
    {text : String} {body : List Instruction} (kind : node.kind = .path pattern route)
    (spelled : pattern.literal? = some text) (counted : arena.pathDepth node.id = depth + 1)
    (inside : Yields (emitBody setting (depth + 1) node) body) :
    Becomes setting arena node (.literal depth text body)
  | arm {node : LevelTree} {pattern : Pattern} {route : Option String} {depth : Nat}
    {slot : BranchSlot} {body : List Instruction} (kind : node.kind = .regexPath pattern route)
    (names : slot.captures.map (·.1) = pattern.parameters.map (·.name))
    (counted : arena.pathDepth node.id = depth + 1)
    (inside : Yields (emitBody setting (depth + 1) node) body) :
    Becomes setting arena node (.arm depth slot.arm [slot] body)
  | test {node : LevelTree} {source subject : String} {regex : Regex} {template : CompiledTemplate}
    {body : List Instruction} (kind : node.kind = .test source subject)
    (compiled : Regex.compile? source = some regex)
    (templated : setting.Compiles node.outer subject template)
    (inside : Yields (emitBody setting (arena.pathDepth node.id) node) body) :
    Becomes setting arena node (.test regex template body)
  | switch {node : LevelTree} {stated : Option String} {value : SwitchValue}
    {cases : List (CompiledTemplate × List Instruction)} {default : Option (List Instruction)}
    (kind : node.kind = .switch stated) (valued : ValueCode setting node stated value)
    (called : stated = none → ∃ site, value = .call site)
    (chosen : Picks (fun member => ∀ source, member.kind ≠ .case source)
      (CaseCode setting (arena.pathDepth node.id)) node.members cases)
    (otherwise : List.Forall₂ (fun member => Yields (emitBody setting (arena.pathDepth node.id) member))
      (node.members.filter (·.kind = .default)) default.toList) :
    Becomes setting arena node (.switch value cases default)
  | case {node : LevelTree} {source : String} {template : CompiledTemplate} {body : List Instruction}
    (kind : node.kind = .case source) (templated : setting.Compiles node.visible source template)
    (inside : Yields (emitBody setting (arena.pathDepth node.id) node) body) :
    Becomes setting arena node (.case template body)
  | default {node : LevelTree} {body : List Instruction} (kind : node.kind = .default)
    (inside : Yields (emitBody setting (arena.pathDepth node.id) node) body) :
    Becomes setting arena node (.default body)
  | set {node : LevelTree} {name value : String} {template : CompiledTemplate}
    (kind : node.kind = .set name value) (templated : setting.Compiles node.visible value template) :
    Becomes setting arena node (.set name template)
  | call {node : LevelTree} {function : String} {arguments : List String} {site : CallSite}
    (kind : node.kind = .call function arguments)
    (sited : setting.CompilesCall node.visible function
      (arguments ++ (arena.node node.id).children.filterMap fun child =>
        (arena.node child).kind.argument?) site) :
    Becomes setting arena node (.call site)
  | return {node : LevelTree} {attributes : Attributes} {fields : List (String × CompiledTemplate)}
    (kind : node.kind = .return attributes) (made : ReturnCode setting node (.return fields))
    (filled : fields ≠ []) : Becomes setting arena node (.return fields)

theorem Becomes.isSited {setting : Setting} {arena : Arena} {node : LevelTree} {site : Site}
    (becomes : Becomes setting arena node site) : node.kind.isSited = true := by
  cases becomes with
  | literal kind | arm kind | test kind | switch kind | case kind | default kind | set kind
  | call kind | «return» kind => rw [kind]; rfl

/-! ### Arms and their branches -/

section

variable {setting : Setting} {depth : Nat}

/-- Branches that are numbered like arms lead to them one by one. -/
theorem armSites_eq {first : Nat} {slots : List BranchSlot} {arms : List (List Instruction)}
    (positions : slots.map (·.arm) = List.range' first arms.length) :
    ((arms.zipIdx first).map fun arm =>
        Site.arm depth arm.2 (slots.filter (·.arm = arm.2)) arm.1)
      = (slots.zip arms).map fun arm => .arm depth arm.1.arm [arm.1] arm.2 := by
  induction arms generalizing first slots with
  | nil => simp
  | cons body rest ih =>
    rw [List.length_cons, List.range'_succ] at positions
    obtain ⟨slot, others, rfl, here, behind⟩ := List.map_eq_cons_iff.mp positions
    have later (other : BranchSlot) (among : other ∈ others) : first < other.arm := by
      have inside : other.arm ∈ others.map (·.arm) := List.mem_map_of_mem among
      rw [behind] at inside
      exact (List.mem_range'_1.mp inside).1
    have alone : others.filter (·.arm = first) = [] := by
      refine List.filter_eq_nil_iff.mpr fun other among => ?_
      simpa using Nat.ne_of_gt (later other among)
    have own : (slot :: others).filter (·.arm = first) = [slot] := by
      rw [List.filter_cons_of_pos (by simpa using here), alone]
    rw [List.zipIdx_cons, List.map_cons, List.zip_cons_cons, List.map_cons, ← ih behind, own, here]
    -- the first branch leads to none of the arms behind the first
    refine congrArg _ (List.map_congr_left fun arm among => ?_)
    have after := (List.mem_zipIdx among).1
    rw [List.filter_cons_of_neg]
    simp only [decide_eq_true_eq]
    omega

/-- The branches and the arms of a level, in the order of its parameterized members. -/
theorem arms_paired {members : List LevelTree} {arms : List (List Instruction)}
    {slots : List BranchSlot}
    (picks : Picks (fun member => ∀ pattern id, member.kind ≠ .regexPath pattern id)
      (ArmCode setting depth) members arms)
    (names : List.Forall₂ (fun pattern slot =>
        slot.captures.map (·.1) = pattern.parameters.map (·.name)) (levelPatterns members) slots) :
    List.Forall₂ (fun member (arm : BranchSlot × List Instruction) =>
        ∃ pattern route, member.kind = .regexPath pattern route ∧
          arm.1.captures.map (·.1) = pattern.parameters.map (·.name) ∧
          Yields (emitBody setting (depth + 1) member) arm.2)
      (members.filter (·.kind.isParameterized)) (slots.zip arms) := by
  induction picks generalizing slots with
  | nil =>
    cases names
    exact .nil
  | skip other _ ih =>
    rw [levelPatterns_skip other] at names
    rw [List.filter_cons_of_neg (by simp [NodeKind.isParameterized_eq_false other])]
    exact ih names
  | take made _ ih =>
    obtain ⟨kind, inside⟩ := made
    rw [levelPatterns_cons kind] at names
    cases names with
    | cons here later =>
      rw [List.filter_cons_of_pos (by simp [kind, NodeKind.isParameterized]), List.zip_cons_cons]
      exact .cons ⟨_, _, kind, here, inside⟩ (ih later)

/-- Every pattern of a level has one arm. -/
theorem arms_length {members : List LevelTree} {arms : List (List Instruction)}
    (picks : Picks (fun member => ∀ pattern id, member.kind ≠ .regexPath pattern id)
      (ArmCode setting depth) members arms) : arms.length = (levelPatterns members).length := by
  induction picks with
  | nil => rfl
  | skip other _ ih => rw [levelPatterns_skip other, ih]
  | take made _ ih =>
    obtain ⟨kind, -⟩ := made
    rw [levelPatterns_cons kind, List.length_cons, List.length_cons, ih]

end

end Program

end Signpost
