import Signpost.Proofs.Tree.Steps

/-!
# Links

A node stands among the children of another one exactly when that one is its parent, and every child
has a greater number than its parent. So walks along children end before the number of nodes has
been used up, and what a walk finds does not depend on how far it was allowed to go.
-/
namespace Signpost.Arena

/-- Children and parents point at one another, and always from a smaller number to a greater one. -/
structure Linked (arena : Arena) : Prop where
  down : ∀ parent child : Nat,
    child ∈ (arena.node parent).children ↔ (arena.node child).parent = some parent
  order : ∀ parent child : Nat,
    (arena.node child).parent = some parent → parent < child ∧ child < arena.size

theorem Linked.child {arena : Arena} (linked : arena.Linked) {parent child : Nat}
    (member : child ∈ (arena.node parent).children) : parent < child ∧ child < arena.size :=
  linked.order parent child ((linked.down parent child).mp member)

theorem start_linked : start.Linked := by
  refine ⟨?_, ?_⟩
  · intro parent child
    simp [node_start]
  · intro parent child
    simp [node_start]

/-- A change that leaves the links of all nodes alone keeps them in order. -/
theorem Linked.of_same {arena changed : Arena} (linked : arena.Linked)
    (size : arena.size ≤ changed.size)
    (parents : ∀ id : Nat, (changed.node id).parent = (arena.node id).parent)
    (children : ∀ id : Nat, (changed.node id).children = (arena.node id).children) :
    changed.Linked := by
  refine ⟨?_, ?_⟩
  · intro parent child
    rw [children, parents]
    exact linked.down parent child
  · intro parent child up
    rw [parents] at up
    have bound := linked.order parent child up
    exact ⟨bound.1, Nat.lt_of_lt_of_le bound.2 size⟩

theorem alloc_linked {arena : Arena} (linked : arena.Linked) (content : NodeContent) :
    (arena.alloc content).1.Linked := by
  have fresh : (arena.node arena.size).children = [] ∧ (arena.node arena.size).parent = none := by
    rw [node_of_size_le (Nat.le_refl _)]
    exact ⟨rfl, rfl⟩
  refine linked.of_same (by simp) ?_ ?_
  · intro id
    rw [node_alloc]
    split
    next new => rw [new, fresh.2]
    next => rfl
  · intro id
    rw [node_alloc]
    split
    next new => rw [new, fresh.1]
    next => rfl

theorem insert_linked {arena grown : Arena} {parent made : Nat} {content : NodeContent}
    (linked : arena.Linked) (inside : parent < arena.size)
    (inserted : arena.insert parent content = .ok (grown, made)) : grown.Linked := by
  have parents (child : Nat) : (grown.node child).parent
      = if child = arena.size then some parent else (arena.node child).parent := by
    rw [node_insert inside inserted]
    split
    · rfl
    · split
      next same => rw [same]
      next => rfl
  -- the new node is nobody's child in the arena before, and has no children in the one behind
  have children (above child : Nat) : child ∈ (grown.node above).children ↔
      if child = arena.size then above = parent else child ∈ (arena.node above).children := by
    have unlisted (above : Nat) : arena.size ∉ (arena.node above).children :=
      fun member => absurd (linked.child member).2 (Nat.lt_irrefl _)
    have childless : (arena.node arena.size).children = [] := by
      rw [node_of_size_le (Nat.le_refl _)]
    rw [node_insert inside inserted]
    by_cases fresh : child = arena.size
    · subst fresh
      by_cases new : above = arena.size
      · simp [new, Nat.ne_of_gt inside]
      · by_cases up : above = parent
        · simp [up, Nat.ne_of_lt inside]
        · simp [new, up, unlisted]
    · by_cases new : above = arena.size
      · simp [new, fresh, childless]
      · by_cases up : above = parent
        · simp [up, Nat.ne_of_lt inside, fresh]
        · simp [new, up, fresh]
  refine ⟨?_, ?_⟩
  · intro above child
    rw [children, parents]
    split
    · rw [Option.some_inj, eq_comm]
    · exact linked.down above child
  · intro above child up
    rw [size_insert inserted]
    rw [parents] at up
    split at up
    next new =>
      cases up
      omega
    next =>
      have bound := linked.order above child up
      omega

theorem Step.linked {arena grown : Arena} (step : Step arena grown) (linked : arena.Linked) :
    grown.Linked := by
  cases step with
  | block name => exact alloc_linked linked _
  | insert inside _ inserted => exact insert_linked linked inside inserted
  | bind place name value =>
    exact linked.of_same (by simp) (fun _ => setValue_parent name value)
      fun _ => setValue_children name value
  | settle _ value =>
    exact linked.of_same (by simp) (fun _ => modify_kind_parent _)
      fun _ => modify_kind_children _

/-! ### Walks -/

/-- A walk that may take as many steps as there are nodes behind its start finds the whole level. -/
theorem levelFrom_eq {arena : Arena} (linked : arena.Linked) (fuel more : Nat) (id : Nat)
    (enough : arena.size ≤ fuel + id) (enough' : arena.size ≤ more + id) :
    arena.levelFrom fuel id = arena.levelFrom more id := by
  have childless (outside : arena.size ≤ id) : (arena.node id).children = [] := by
    rw [node_of_size_le outside]
  -- Children have greater numbers, so a step down is paid for by the number of the child.
  induction fuel generalizing more id with
  | zero =>
    cases more with
    | zero => rfl
    | succ more =>
      have none := childless (by omega)
      simp [levelFrom, none]
  | succ fuel ih =>
    cases more with
    | zero =>
      have none := childless (by omega)
      simp [levelFrom, none]
    | succ more =>
      rw [levelFrom, levelFrom]
      refine List.flatMap_congr ?_
      intro child member
      have bound := linked.child member
      split
      · refine ih more child (by omega) (by omega) ?_
        intro outside
        rw [node_of_size_le outside]
      · rfl

theorem levelFrom_level {arena : Arena} (linked : arena.Linked) {fuel : Nat} {id : Nat}
    (enough : arena.size ≤ fuel + id) : arena.levelFrom fuel id = arena.level id :=
  levelFrom_eq linked fuel arena.size id enough (Nat.le_add_right _ _)

/-- A walk with enough steps left reads off the whole subtree. -/
theorem subtreeFrom_eq {arena : Arena} (linked : arena.Linked) (fuel more : Nat) (id : Nat)
    (enough : arena.size ≤ fuel + id) (enough' : arena.size ≤ more + id) :
    arena.subtreeFrom fuel id = arena.subtreeFrom more id := by
  have childless (outside : arena.size ≤ id) : (arena.node id).children = [] := by
    rw [node_of_size_le outside]
  induction fuel generalizing more id with
  | zero =>
    cases more with
    | zero => rfl
    | succ more => rw [subtreeFrom, subtreeFrom, childless (by omega), List.map_nil]
  | succ fuel ih =>
    cases more with
    | zero => rw [subtreeFrom, subtreeFrom, childless (by omega), List.map_nil]
    | succ more =>
      rw [subtreeFrom, subtreeFrom]
      refine congrArg (Subtree.node id _) (List.map_congr_left fun child member => ?_)
      have bound := linked.child member
      refine ih more child (by omega) (by omega) fun outside => ?_
      rw [node_of_size_le outside]

/-- A subtree is its node with the subtrees of the children. -/
theorem subtree_eq {arena : Arena} (linked : arena.Linked) (id : Nat) :
    arena.subtree id
      = .node id (arena.node id).toNodeContent ((arena.node id).children.map arena.subtree) := by
  rw [subtree, subtreeFrom_eq linked arena.size (arena.size + 1) id (by omega) (by omega)]
  rfl

theorem levelFrom_bounds {arena : Arena} (linked : arena.Linked) (fuel : Nat) (id : Nat) :
    ∀ member ∈ arena.levelFrom fuel id, id < member ∧ member < arena.size := by
  induction fuel generalizing id with
  | zero => simp [levelFrom]
  | succ fuel ih =>
    intro member among
    rw [levelFrom, List.mem_flatMap] at among
    obtain ⟨child, own, among⟩ := among
    have bound := linked.child own
    split at among
    · have deeper := ih child member among
      exact ⟨Nat.lt_trans bound.1 deeper.1, deeper.2⟩
    · cases List.mem_singleton.mp among
      exact bound

end Signpost.Arena

namespace Signpost.RouteTree

theorem build_linked {spec : SpecNode} {tree : RouteTree} (built : build spec = .ok tree) :
    tree.arena.Linked :=
  (build_steps built).keeps Arena.Step.linked Arena.start_linked

end Signpost.RouteTree
