import Signpost.Proofs.Tree.Links
import Signpost.Tree.Level

/-!
# Levels of an arena

The tree of levels that is read off an arena says the same as the arena itself: every node in it has
its own content, and its members are the dispatch level of that node in the same order.
-/
namespace Signpost

namespace NodeKind

/-- The text that a node hands to the call whose level it stands in. -/
def argument? : NodeKind → Option String
  | .arg value => some value
  | _ => none

/-- The pattern that a node adds to those of its level. -/
def levelPattern? : NodeKind → Option Pattern
  | .regexPath pattern _ => some pattern
  | _ => none

/-- Whether a node is entered by its pattern. -/
def isParameterized : NodeKind → Bool
  | .regexPath .. => true
  | _ => false

theorem isParameterized_eq_false {kind : NodeKind}
    (other : ∀ pattern id, kind ≠ .regexPath pattern id) : kind.isParameterized = false := by
  cases kind with
  | regexPath pattern id => exact absurd rfl (other pattern id)
  | _ => rfl

end NodeKind

/-- A tree of levels shows the nodes of an arena as they are. -/
inductive LevelTree.Mirrors (arena : Arena) : LevelTree → Prop
  | node {id : NodeId} {outer : List String} {members : List LevelTree}
    (level : members.map LevelTree.id = arena.level id)
    (behind : ∀ member ∈ members, (id : Nat) < (member.id : Nat) ∧ (member.id : Nat) < arena.size)
    (below : ∀ member ∈ members, Mirrors arena member) :
    Mirrors arena (.node id (arena.node id).toNodeContent outer members)

namespace LevelTree.Mirrors

variable {arena : Arena} {tree : LevelTree}

theorem content (mirrors : tree.Mirrors arena) :
    tree.content = (arena.node tree.id).toNodeContent := by
  cases mirrors with
  | node => rfl

theorem kind (mirrors : tree.Mirrors arena) : tree.kind = (arena.node tree.id).kind :=
  congrArg NodeContent.kind mirrors.content

theorem members (mirrors : tree.Mirrors arena) :
    tree.members.map LevelTree.id = arena.level tree.id := by
  cases mirrors with
  | node level => exact level

theorem bounds (mirrors : tree.Mirrors arena) : ∀ member ∈ tree.members,
    (tree.id : Nat) < (member.id : Nat) ∧ (member.id : Nat) < arena.size := by
  cases mirrors with
  | node _ behind => exact behind

theorem mirrored (mirrors : tree.Mirrors arena) : ∀ member ∈ tree.members, member.Mirrors arena := by
  cases mirrors with
  | node _ _ below => exact below

end LevelTree.Mirrors

namespace Arena

variable {arena : Arena}

/-- Dissolving blank paths gives the nodes that a walk along the level meets. -/
theorem ids_dissolveAll (fuel : Nat) (outer : List String) (children : List NodeId) :
    (Subtree.dissolveAll outer (children.map (arena.subtreeFrom fuel))).map LevelTree.id
      = children.flatMap fun child =>
        if (arena.node child).kind.isBlank then arena.levelFrom fuel child else [child] := by
  induction fuel generalizing outer children with
  | zero =>
    induction children with
    | nil => rfl
    | cons child rest ih =>
      rw [List.map_cons, Subtree.dissolveAll, List.map_append, ih, List.flatMap_cons, subtreeFrom,
        Subtree.dissolve]
      split <;> simp [Subtree.dissolveAll, levelFrom, LevelTree.id]
  | succ fuel deeper =>
    induction children with
    | nil => rfl
    | cons child rest ih =>
      rw [List.map_cons, Subtree.dissolveAll, List.map_append, ih, List.flatMap_cons, subtreeFrom,
        Subtree.dissolve]
      split
      · rw [deeper, levelFrom]
      · simp [LevelTree.id]

/-- Members read off with enough steps left mirror the arena. -/
theorem dissolveAll_mirrors (linked : arena.Linked) (fuel : Nat) (outer : List String)
    (children : List NodeId)
    (bounds : ∀ child : Nat, child ∈ children → child < arena.size ∧ arena.size ≤ fuel + child) :
    ∀ member ∈ Subtree.dissolveAll outer (children.map (arena.subtreeFrom fuel)),
      member.Mirrors arena := by
  induction fuel generalizing outer children with
  | zero =>
    intro member inside
    cases children with
    | nil => cases inside
    | cons child rest =>
      have bound := bounds child List.mem_cons_self
      omega
  | succ fuel deeper =>
    -- One level down there is one step less. Along a level the steps stay the same, so there the
    -- induction is on the children.
    have inner (child : Nat) (inside : child ∈ children) (around : List String) :
        ∀ member ∈ Subtree.dissolveAll around
          ((arena.node child).children.map (arena.subtreeFrom fuel)), member.Mirrors arena := by
      refine deeper around _ ?_
      intro grandchild own
      have bound := bounds child inside
      have order := linked.child own
      omega
    induction children with
    | nil => simp [Subtree.dissolveAll]
    | cons child rest ih =>
      intro member inside
      rw [List.map_cons, Subtree.dissolveAll, List.mem_append] at inside
      rcases inside with first | later
      · rw [subtreeFrom, Subtree.dissolve] at first
        split at first
        · exact inner child List.mem_cons_self _ member first
        · cases List.mem_singleton.mp first
          have enough := (bounds child List.mem_cons_self).2
          -- what has been dissolved below a node is the level that the arena lists for it
          have level : (Subtree.dissolveAll (outer ++ (arena.node child).localVars)
              ((arena.node child).children.map (arena.subtreeFrom fuel))).map LevelTree.id
                = arena.level child := by
            rw [ids_dissolveAll, ← levelFrom_level linked enough, levelFrom]
          refine .node level ?_ (inner child List.mem_cons_self _)
          intro other among
          have met : other.id ∈ arena.level child := level ▸ List.mem_map_of_mem among
          exact levelFrom_bounds linked arena.size child _ met
      · refine ih (fun other among => bounds other (List.mem_cons_of_mem _ among))
          (fun other among => inner other (List.mem_cons_of_mem _ among)) member later

theorem levels_id (arena : Arena) (id : NodeId) : (arena.subtree id).levels.id = id := by
  rw [subtree]
  cases arena.size <;> rfl

/-- The levels of a node mirror the arena. -/
theorem levels_mirrors (linked : arena.Linked) {id : Nat} (inside : id < arena.size) :
    (arena.subtree id).levels.Mirrors arena := by
  have deep : ∃ fuel, arena.size = fuel + 1 := ⟨arena.size - 1, by omega⟩
  obtain ⟨fuel, size⟩ := deep
  have shape : arena.subtree id = .node id (arena.node id).toNodeContent
      ((arena.node id).children.map (arena.subtreeFrom fuel)) := by
    rw [subtree, size, subtreeFrom]
  have level : (Subtree.dissolveAll (arena.node id).localVars
      ((arena.node id).children.map (arena.subtreeFrom fuel))).map LevelTree.id
        = arena.level id := by
    rw [ids_dissolveAll, level, size, levelFrom]
  rw [shape]
  refine .node level ?_ (dissolveAll_mirrors linked fuel _ _ ?_)
  · intro member among
    have met : member.id ∈ arena.level id := level ▸ List.mem_map_of_mem among
    exact levelFrom_bounds linked arena.size id _ met
  · intro child own
    have order := linked.child own
    omega

end Arena

end Signpost
