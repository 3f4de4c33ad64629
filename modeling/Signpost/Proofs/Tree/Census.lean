import Signpost.Proofs.Tree.Mirror
import Signpost.Proofs.Tree.WellFormed

/-!
# The nodes of a tree of levels

A tree of levels that mirrors an arena has every node below its own node once, groups aside. A node is on
the level of the first node above it that is no group, so a walk down the arena is a walk down the levels
that skips groups. What is held by the node of a level is what may be held by it, as groups hold nothing
but parts of bodies.
-/
namespace Signpost

namespace LevelTree

mutual

/-- A node and all nodes below it, parents before children. -/
def nodes : LevelTree → List LevelTree
  | .node id content outer members => .node id content outer members :: nodesAll members

def nodesAll : List LevelTree → List LevelTree
  | [] => []
  | tree :: rest => tree.nodes ++ nodesAll rest

end

theorem nodesAll_eq (trees : List LevelTree) : nodesAll trees = trees.flatMap nodes := by
  induction trees with
  | nil => rfl
  | cons tree rest ih => rw [nodesAll, ih, List.flatMap_cons]

theorem nodes_eq (tree : LevelTree) : tree.nodes = tree :: tree.members.flatMap nodes := by
  cases tree
  rw [nodes, nodesAll_eq]
  rfl

theorem self_mem_nodes (tree : LevelTree) : tree ∈ tree.nodes := by
  rw [nodes_eq]
  exact List.mem_cons_self

end LevelTree

namespace Arena

variable {arena : Arena}

/-- No node of a level stands on the way over groups up to the node of the level. -/
theorem climbs_apart (linked : arena.Linked) {id member place : Nat} (among : member ∈ arena.level id)
    (climb : Relation.ReflTransGen arena.Climbs place id)
    (walk : Relation.ReflTransGen arena.Ascends place member) : False := by
  obtain ⟨solid, -⟩ := (mem_level_iff linked).mp among
  have order := (levelFrom_bounds linked arena.size id _ among).1
  induction climb using Relation.ReflTransGen.head_induction_on with
  | refl => exact absurd order (Nat.not_lt.mpr (ascends_le linked walk))
  | head climbs _ ih =>
    rcases walk.cases_head with rfl | ⟨above, step, further⟩
    · rw [climbs.1] at solid
      cases solid
    · cases arena.ascends_functional climbs.2 step
      exact ih further

/-- There is one way up from a node, so it passes through at most one node of a level. -/
theorem level_unique (linked : arena.Linked) {id first second below : Nat}
    (among : first ∈ arena.level id) (among' : second ∈ arena.level id)
    (walk : Relation.ReflTransGen arena.Ascends below first)
    (walk' : Relation.ReflTransGen arena.Ascends below second) : first = second := by
  have same {first second : Nat} (among : first ∈ arena.level id) (among' : second ∈ arena.level id)
      (walk : Relation.ReflTransGen arena.Ascends first second) : first = second := by
    obtain ⟨-, parent, up, climb⟩ := (mem_level_iff linked).mp among
    rcases walk.cases_head with equal | ⟨next, step, further⟩
    · exact equal
    · cases arena.ascends_functional up step
      exact (climbs_apart linked among' climb further).elim
  rcases Relation.ReflTransGen.total_of_right_unique arena.ascends_functional walk walk'
    with down | down
  · exact same among among' down
  · exact (same among' among down).symm

end Arena

namespace LevelTree.Mirrors

open Arena

variable {arena : Arena} {tree node : LevelTree}

theorem below_mirrored (mirrors : tree.Mirrors arena) : ∀ node ∈ tree.nodes, node.Mirrors arena := by
  induction mirrors with
  | node level behind below ih =>
    intro node within
    rw [nodes_eq] at within
    rcases List.mem_cons.mp within with rfl | inside
    · exact .node level behind below
    · obtain ⟨member, among, within⟩ := List.mem_flatMap.mp inside
      exact ih member among node within

theorem member_level (mirrors : tree.Mirrors arena) {member : LevelTree}
    (among : member ∈ tree.members) : member.id ∈ arena.level tree.id :=
  mirrors.members ▸ List.mem_map_of_mem among

theorem below_ascends (linked : arena.Linked) (mirrors : tree.Mirrors arena) :
    ∀ node ∈ tree.nodes, Relation.ReflTransGen arena.Ascends node.id tree.id := by
  induction mirrors with
  | @node id outer members level behind below ih =>
    intro node within
    rw [nodes_eq] at within
    rcases List.mem_cons.mp within with rfl | inside
    · exact .refl
    · obtain ⟨member, among, within⟩ := List.mem_flatMap.mp inside
      have stands : member.id ∈ arena.level id := level ▸ List.mem_map_of_mem among
      exact (ih member among node within).trans (level_ascends linked stands)

/-- No node is met twice. -/
theorem nodes_nodup (linked : arena.Linked) (children : ∀ id : Nat, (arena.node id).children.Nodup)
    (mirrors : tree.Mirrors arena) : (tree.nodes.map LevelTree.id).Nodup := by
  induction mirrors with
  | @node id outer members level behind below ih =>
    have stands {member : LevelTree} (among : member ∈ members) : member.id ∈ arena.level id :=
      level ▸ List.mem_map_of_mem among
    rw [nodes_eq, List.map_cons, List.map_flatMap]
    refine List.nodup_cons.mpr ⟨?_, List.nodup_flatMap.mpr ⟨ih, ?_⟩⟩
    · intro again
      obtain ⟨member, among, again⟩ := List.mem_flatMap.mp again
      obtain ⟨node, within, same⟩ := List.mem_map.mp again
      have above := ascends_le linked ((below member among).below_ascends linked node within)
      have order := (behind member among).1
      rw [same] at above
      exact absurd order (Nat.not_lt.mpr above)
    · have apart : members.Pairwise fun first second => first.id ≠ second.id := by
        have distinct := level_nodup linked children id
        rw [← level] at distinct
        exact List.pairwise_map.mp distinct
      refine apart.imp_of_mem ?_
      intro first second among among' different found one another
      obtain ⟨node, within, rfl⟩ := List.mem_map.mp one
      obtain ⟨other, within', same⟩ := List.mem_map.mp another
      -- both members would stand on the only way up from the node
      have walk := (below first among).below_ascends linked node within
      have walk' := (below second among').below_ascends linked other within'
      rw [same] at walk'
      exact different (level_unique linked (stands among) (stands among') walk walk')

theorem members_within (mirrors : tree.Mirrors arena) :
    ∀ node ∈ tree.nodes, ∀ member ∈ node.members, member ∈ tree.nodes := by
  induction mirrors with
  | node level behind below ih =>
    intro node within member among
    rw [nodes_eq] at within ⊢
    refine List.mem_cons_of_mem _ (List.mem_flatMap.mpr ?_)
    rcases List.mem_cons.mp within with rfl | inside
    · exact ⟨member, among, member.self_mem_nodes⟩
    · obtain ⟨above, held, within⟩ := List.mem_flatMap.mp inside
      exact ⟨above, held, ih above held node within member among⟩

theorem below_reached (linked : arena.Linked) (mirrors : tree.Mirrors arena) :
    ∀ node ∈ tree.nodes, arena.Reaches tree.id node.id := by
  intro node within
  refine Relation.ReflTransGen.mono ?_ _ _ (mirrors.below_ascends linked node within).swap
  intro parent child up
  exact (linked.down parent child).mpr up

/-- All nodes below a node are met, but for groups. -/
theorem mem_nodes_iff (linked : arena.Linked) (mirrors : tree.Mirrors arena) {id : Nat}
    (solid : (arena.node id).kind.isBlank = false) :
    id ∈ tree.nodes.map LevelTree.id ↔ arena.Reaches tree.id id := by
  constructor
  · intro met
    obtain ⟨node, within, rfl⟩ := List.mem_map.mp met
    exact mirrors.below_reached linked node within
  · intro walk
    -- wherever the walk comes to, groups lead up from there to a node that is met
    have met {id : Nat} (walk : arena.Reaches tree.id id) :
        ∃ node ∈ tree.nodes, Relation.ReflTransGen arena.Climbs id node.id := by
      induction walk with
      | refl => exact ⟨tree, tree.self_mem_nodes, .refl⟩
      | @tail above child _ held ih =>
        obtain ⟨node, within, climb⟩ := ih
        have up := (linked.down above child).mp held
        cases blank : (arena.node child).kind.isBlank with
        | true => exact ⟨node, within, .head ⟨blank, up⟩ climb⟩
        | false =>
          have stands : child ∈ arena.level node.id :=
            (mem_level_iff linked).mpr ⟨blank, above, up, climb⟩
          rw [← (mirrors.below_mirrored node within).members] at stands
          obtain ⟨member, among, rfl⟩ := List.mem_map.mp stands
          exact ⟨member, mirrors.members_within node within member among, .refl⟩
    obtain ⟨node, within, climb⟩ := met walk
    rcases climb.cases_head with rfl | ⟨_, step, -⟩
    · exact List.mem_map_of_mem within
    · rw [step.1] at solid
      cases solid

end LevelTree.Mirrors

/-! ### What stands on levels -/

namespace Arena

variable {arena : Arena}

/-- The kinds of the nodes on the level of a node, in order. -/
def levelKinds (arena : Arena) (id : Nat) : List NodeKind :=
  (arena.level id).map fun member => (arena.node member).kind

/-- The level of a node without groups below it is made of its children. -/
theorem level_of_solid (linked : arena.Linked) {id : Nat}
    (solid : ∀ child ∈ (arena.node id).children, (arena.node child).kind.isBlank = false) :
    arena.level id = (arena.node id).children := by
  rw [level_eq linked]
  calc (arena.node id).children.flatMap _
      = (arena.node id).children.flatMap fun child => [child] :=
        List.flatMap_congr fun child own => by rw [if_neg (by simp [solid child own])]
    _ = (arena.node id).children := List.flatMap_singleton' _

/-- What is on the level of a node may stand below it, for groups hold what bodies hold. -/
theorem Arranged.level_holds (arranged : arena.Arranged) (linked : arena.Linked) (id : Nat) :
    (arena.node id).kind.Holds (arena.levelKinds id) := by
  have holds := arranged.holds id
  by_cases solid : ∀ child ∈ (arena.node id).children, (arena.node child).kind.isBlank = false
  · rw [levelKinds, level_of_solid linked solid]
    exact holds
  · obtain ⟨group, own, blank⟩ : ∃ group ∈ (arena.node id).children,
        (arena.node group).kind.isBlank = true := by simpa using solid
    have body := holds.of_blank (List.mem_map_of_mem own) blank
    refine (body _).mpr fun kind met => ?_
    obtain ⟨member, among, rfl⟩ := List.mem_map.mp met
    obtain ⟨-, parent, up, climb⟩ := (mem_level_iff linked).mp among
    have held : (arena.node member).kind ∈ arena.childKinds parent :=
      mem_childKinds ((linked.down parent member).mpr up)
    -- the member is a child of the node itself or of a group
    rcases climb.cases_head with rfl | ⟨_, climbs, -⟩
    · exact (body _).mp holds _ held
    · have group := arranged.holds parent
      have blank := climbs.1
      cases kind : (arena.node parent).kind with
      | blankPath route =>
        rw [kind] at group
        exact group _ held
      | _ =>
        rw [kind] at blank
        cases blank

end Arena

namespace LevelTree.Mirrors

variable {arena : Arena} {tree : LevelTree}

theorem members_holds (arranged : arena.Arranged) (linked : arena.Linked)
    (mirrors : tree.Mirrors arena) : tree.kind.Holds (tree.members.map LevelTree.kind) := by
  have kinds : tree.members.map LevelTree.kind = arena.levelKinds tree.id := by
    rw [Arena.levelKinds, ← mirrors.members, List.map_map]
    exact List.map_congr_left fun member among => (mirrors.mirrored member among).kind
  rw [kinds, mirrors.kind]
  exact arranged.level_holds linked tree.id

/-- No group is on a level. -/
theorem members_solid (linked : arena.Linked) (mirrors : tree.Mirrors arena) :
    ∀ member ∈ tree.members, member.kind.isBlank = false := by
  intro member among
  rw [(mirrors.mirrored member among).kind]
  exact ((Arena.mem_level_iff linked).mp (mirrors.member_level among)).1

end LevelTree.Mirrors

end Signpost
