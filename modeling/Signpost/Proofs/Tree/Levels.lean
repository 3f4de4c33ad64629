import Mathlib.Data.List.Flatten
import Signpost.Proofs.Tree.RouteListing

/-!
# Levels from above and from below

The dispatch level of a node is found by going down through groups, and the owner of a place by going up
through them. The two agree: what stands on the level of a node that is no group is what the node owns the
places of. So every node but groups and the root stands on the level of one node that is no group, and it
is met there where a walk in preorder comes to it.
-/
namespace Signpost

namespace Arena

variable {arena : Arena}

/-- A way down from a node to one of its children, or through groups to a child of the last of them. -/
inductive Descends (arena : Arena) (id : Nat) : Nat → Prop
  | child {member : Nat} (held : member ∈ (arena.node id).children) : Descends arena id member
  | through {group member : Nat} (above : Descends arena id group)
    (blank : (arena.node group).kind.isBlank = true)
    (held : member ∈ (arena.node group).children) : Descends arena id member

/-- The ways down are those that lead up again from the parent. -/
theorem descends_iff (linked : arena.Linked) {id member : Nat} :
    arena.Descends id member ↔
      ∃ parent, (arena.node member).parent = some parent ∧
        Relation.ReflTransGen arena.Climbs parent id := by
  constructor
  · intro way
    induction way with
    | @child member held => exact ⟨id, (linked.down id member).mp held, .refl⟩
    | @through group member _ blank held ih =>
      obtain ⟨parent, up, climb⟩ := ih
      exact ⟨group, (linked.down group member).mp held, .head ⟨blank, up⟩ climb⟩
  · rintro ⟨parent, up, climb⟩
    induction climb using Relation.ReflTransGen.head_induction_on generalizing member with
    | refl => exact .child ((linked.down id member).mpr up)
    | @head group above step _ ih =>
      exact .through (ih step.2) step.1 ((linked.down group member).mpr up)

theorem mem_level_iff_descends (linked : arena.Linked) {id member : Nat} :
    member ∈ arena.level id ↔
      (arena.node member).kind.isBlank = false ∧ arena.Descends id member := by
  rw [mem_level_iff linked, descends_iff linked]

/-- Groups lead up from a place to a node that is none exactly if the node owns the place. -/
theorem climbs_iff_scopeOwner (linked : arena.Linked) (rooted : arena.Rooted) {place id : Nat}
    (inside : place < arena.size) (solid : (arena.node id).kind.isBlank = false) :
    Relation.ReflTransGen arena.Climbs place id ↔ arena.scopeOwner place = id := by
  constructor
  · intro climb
    have below : id ≤ place := by
      refine ascends_le linked (Relation.ReflTransGen.mono ?_ _ _ climb)
      exact fun _ _ (step : arena.Climbs _ _) => step.2
    rw [scopeOwner_of_climbs linked rooted climb, scopeOwner_of_solid (by omega) solid]
  · rintro rfl
    exact climbs_scopeOwner linked rooted inside

/-- What stands on the level of a node are the nodes whose places it owns. -/
theorem mem_level_iff_scopeOwner (linked : arena.Linked) (rooted : arena.Rooted) {id member : Nat}
    (solid : (arena.node id).kind.isBlank = false) (own : (arena.node member).kind.isBlank = false) :
    member ∈ arena.level id ↔
      ∃ parent, (arena.node member).parent = some parent ∧ arena.scopeOwner parent = id := by
  rw [mem_level_iff linked, and_iff_right own]
  refine exists_congr fun parent => and_congr_right fun up => ?_
  have order := linked.order parent member up
  exact climbs_iff_scopeOwner linked rooted (by omega) solid

/-- A level leaves out of the walk what is deeper and what is a group, and keeps the order. -/
theorem level_sublist (linked : arena.Linked) (id : Nat) :
    (arena.level id).Sublist (arena.preorder id) := by
  induction id using linked.below_induction with
  | node id ih =>
    have below : (arena.level id).Sublist ((arena.node id).children.flatMap arena.preorder) := by
      rw [level_eq linked]
      -- a group hands in its level and any other child itself, each from its own part of the walk
      apply List.Sublist.flatMap_right
      intro child own
      split
      · exact ih child own
      · exact List.singleton_sublist.mpr ((mem_preorder_iff linked).mpr .refl)
    rw [preorder_eq linked]
    exact below.cons id

/-- What owns the place of a node that is reached is reached as well. -/
theorem reached_owner (linked : arena.Linked) (rooted : arena.Rooted)
    (inside : (root : Nat) < arena.size) {member parent : Nat} (walk : arena.Reaches root member)
    (up : (arena.node member).parent = some parent) :
    arena.Reaches root (arena.scopeOwner parent : Nat) := by
  have above : arena.Reaches root parent :=
    reaches_above linked walk (.single ((linked.down parent member).mpr up))
  have climb := climbs_scopeOwner linked rooted (Reaches.inside linked inside above)
  apply reaches_above linked above
  apply Relation.ReflTransGen.mono _ _ _ (Relation.ReflTransGen.swap _ _ climb)
  intro place other step
  exact (linked.down place other).mpr step.2

/-- What is reached below the root has a parent. -/
theorem reached_parent (linked : arena.Linked) {member : Nat} (walk : arena.Reaches root member)
    (below : member ≠ root) : ∃ parent, (arena.node member).parent = some parent := by
  rcases walk.cases_tail with same | ⟨parent, -, own⟩
  · exact absurd same below
  · exact ⟨parent, (linked.down parent member).mp own⟩

/-- How dispatch levels lie in an arena. -/
structure Levelled (arena : Arena) : Prop where
  walk : ∀ id : Nat, arena.preorder id = id :: (arena.node id).children.flatMap arena.preorder
  once : ∀ id : Nat, (arena.preorder id).Nodup
  order : ∀ id : Nat, (arena.level id).Sublist (arena.preorder id)
  members : ∀ id member : Nat, member ∈ arena.level id ↔
    (arena.node member).kind.isBlank = false ∧ arena.Descends id member
  owned : ∀ id member : Nat, (arena.node id).kind.isBlank = false →
    (arena.node member).kind.isBlank = false →
      (member ∈ arena.level id ↔
        ∃ parent, (arena.node member).parent = some parent ∧ arena.scopeOwner parent = id)
  placed : ∀ member : Nat, arena.Reaches root member → member ≠ root →
    ∃ parent, (arena.node member).parent = some parent
  belongs : ∀ member parent : Nat, (arena.node member).kind.isBlank = false →
    (arena.node member).parent = some parent →
      ∃ id : Nat, ((arena.node id).kind.isBlank = false ∧ member ∈ arena.level id) ∧
        (∀ other : Nat, (arena.node other).kind.isBlank = false → member ∈ arena.level other →
          other = id) ∧
        (arena.Reaches root member → arena.Reaches root id)

end Arena

namespace RouteTree

open Arena

/-- The dispatch levels of a tree that has been built. A level lists once, in the order of a walk, what is
no group and is found by going down through groups. What stands on the level of a node that is no group
is what the node owns the places of. So whatever has a parent and is no group stands on one such level,
and with it what is reached below the root, on the level of a node that is reached. -/
theorem build_levels {spec : SpecNode} {tree : RouteTree} (built : build spec = .ok tree) :
    tree.arena.Levelled := by
  have kept := build_kept built
  have linked := kept.linked
  have rooted := kept.rooted
  have once (id : Nat) : (tree.arena.node id).children.Nodup := (kept.sorted id).imp Nat.ne_of_lt
  have inside : (root : Nat) < tree.arena.size := (build_steps built).size_le
  refine ⟨preorder_eq linked, preorder_nodup linked once, level_sublist linked,
    fun id member => mem_level_iff_descends linked,
    fun id member => mem_level_iff_scopeOwner linked rooted,
    fun member => reached_parent linked, ?_⟩
  intro member parent solid up
  have owner := scopeOwner_solid linked rooted parent
  refine ⟨tree.arena.scopeOwner parent, ⟨owner, ?_⟩, ?_, ?_⟩
  · exact (mem_level_iff_scopeOwner linked rooted owner solid).mpr ⟨parent, up, rfl⟩
  · intro other own stands
    obtain ⟨again, up', rfl⟩ := (mem_level_iff_scopeOwner linked rooted own solid).mp stands
    cases up.symm.trans up'
    rfl
  · exact fun walk => reached_owner linked rooted inside walk up

/-- Rooms in a group of a group between two others, with a group that holds nothing. -/
def corridorDocument : SpecNode :=
  let inner := SpecNode.group.withChildren [SpecNode.path "pantry", SpecNode.group]
  let outer := SpecNode.group.withChildren [SpecNode.path "kitchen", inner, SpecNode.path "attic"]
  SpecNode.router.withChildren [SpecNode.path "hall", outer, SpecNode.path "cellar"]

theorem build_levels_corridor : ∃ tree, build corridorDocument = .ok tree ∧
    tree.arena.level root = [1, 3, 5, 7, 8] ∧ tree.arena.level 4 = [5] ∧ tree.arena.Levelled := by
  have succeeds : ((build corridorDocument).toOption.filter fun tree =>
      tree.arena.level root = [1, 3, 5, 7, 8] ∧ tree.arena.level 4 = [5]).isSome = true := by
    decide +kernel
  obtain ⟨tree, found⟩ := Option.isSome_iff_exists.mp succeeds
  obtain ⟨built, levels⟩ := Option.filter_eq_some_iff.mp found
  have built := ok_of_toOption built
  obtain ⟨top, inner⟩ := of_decide_eq_true levels
  exact ⟨tree, built, top, inner, build_levels built⟩

end RouteTree

end Signpost
