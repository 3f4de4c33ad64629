import Signpost.Proofs.Success
import Signpost.Tree.Builder

/-!
# Nodes after a change

What each primitive operation on an arena does to the node with a given number. Later proofs read an
arena only through these equations and never open the array behind it.
-/
namespace Signpost

/-- Binding a value leaves the place and the kind of a node alone. -/
theorem Node.setValue_links (node : Node) (name value : String) :
    (node.setValue name value).parent = node.parent ∧
      (node.setValue name value).children = node.children ∧
      (node.setValue name value).kind = node.kind := by
  simp only [setValue, addVar]
  split
  · exact ⟨rfl, rfl, rfl⟩
  · split <;> exact ⟨rfl, rfl, rfl⟩

namespace Arena

variable {arena grown : Arena} {id other parent child made : Nat} {content : NodeContent}

/-- An arena is no more than its nodes. -/
theorem ext_node {other : Arena} (size : arena.size = other.size)
    (nodes : ∀ id : Nat, arena.node id = other.node id) : arena = other := by
  obtain ⟨first⟩ := arena
  obtain ⟨second⟩ := other
  refine congrArg Arena.mk (Array.ext size fun id here there => ?_)
  simpa [node, Array.getD, here, there] using nodes id

@[simp]
theorem size_start : start.size = 1 := rfl

theorem node_start (id : Nat) : start.node id = { kind := .router } := by
  cases id <;> rfl

@[simp]
theorem size_modify (change : Node → Node) : (arena.modify id change).size = arena.size := by
  simp [modify, size]

@[simp]
theorem size_setValue (name value : String) :
    (arena.setValue id name value).size = arena.size := by
  simp [setValue]

@[simp]
theorem size_alloc : (arena.alloc content).1.size = arena.size + 1 := by
  simp [alloc, size]

@[simp]
theorem size_link : (arena.link parent child).size = arena.size := by
  simp [link]

theorem node_modify (change : Node → Node) :
    (arena.modify id change).node other
      = if other = id ∧ id < arena.size then change (arena.node other) else arena.node other := by
  simp only [node, modify, size, Array.getD_eq_getD_getElem?, Array.getElem?_modify]
  by_cases same : id = other
  · subst same
    by_cases inside : id < arena.nodes.size <;> simp [inside]
  · simp [same, Ne.symm same]

theorem node_alloc :
    (arena.alloc content).1.node other
      = if other = arena.size then { content with } else arena.node other := by
  simp only [node, alloc, size, Array.getD_eq_getD_getElem?, Array.getElem?_push]
  split <;> simp

theorem node_setValue (name value : String) :
    (arena.setValue id name value).node other
      = if other = id ∧ id < arena.size then (arena.node other).setValue name value
        else arena.node other :=
  node_modify _

/-- What a change keeps of each node is kept of the node with each number. -/
theorem modify_keeps {α : Type} (part : Node → α) {change : Node → Node}
    (keeps : ∀ node, part (change node) = part node) :
    part ((arena.modify id change).node other) = part (arena.node other) := by
  rw [node_modify]
  split
  · exact keeps _
  · rfl

/-- The values of a list bound one after another at one node. -/
def setValues (arena : Arena) (id : NodeId) (values : List (String × String)) : Arena :=
  values.foldl (fun arena entry => arena.setValue id entry.1 entry.2) arena

/-! Binding a value, and giving a node another kind, leave every node where it stands. -/

@[simp]
theorem setValue_parent (name value : String) :
    ((arena.setValue id name value).node other).parent = (arena.node other).parent :=
  modify_keeps Node.parent fun node => (node.setValue_links name value).1

@[simp]
theorem setValue_children (name value : String) :
    ((arena.setValue id name value).node other).children = (arena.node other).children :=
  modify_keeps Node.children fun node => (node.setValue_links name value).2.1

@[simp]
theorem setValue_kind (name value : String) :
    ((arena.setValue id name value).node other).kind = (arena.node other).kind :=
  modify_keeps (fun node => node.kind) fun node => (node.setValue_links name value).2.2

@[simp]
theorem modify_kind_parent (kind : NodeKind) :
    ((arena.modify id fun node => { node with kind := kind }).node other).parent
      = (arena.node other).parent :=
  modify_keeps Node.parent fun _ => rfl

@[simp]
theorem modify_kind_children (kind : NodeKind) :
    ((arena.modify id fun node => { node with kind := kind }).node other).children
      = (arena.node other).children :=
  modify_keeps Node.children fun _ => rfl

theorem node_of_size_le (outside : arena.size ≤ id) : arena.node id = { kind := .router } := by
  have missing : arena.nodes[id]? = none := Array.getElem?_eq_none outside
  simp [node, Array.getD_eq_getD_getElem?, missing]

/-- A node has been made exactly when its literal was free at its place. -/
theorem insert_ok_iff :
    arena.insert parent content = .ok (grown, made) ↔
      (∀ literal, content.kind.literal? = some literal →
        (arena.alloc content).1.hasLiteral parent literal = false) ∧
      made = arena.size ∧ grown = (arena.alloc content).1.link parent arena.size := by
  have own : ((arena.alloc content).1.node arena.size).kind = content.kind := by
    simp [node_alloc]
  have placed : (arena.alloc content).1.append parent arena.size = .ok grown ↔
      (∀ literal, content.kind.literal? = some literal →
        (arena.alloc content).1.hasLiteral parent literal = false) ∧
      grown = (arena.alloc content).1.link parent arena.size := by
    rw [append, own]
    cases content.kind.literal? with
    | none =>
      simp only [Except.ok.injEq, reduceCtorEq, false_implies, implies_true, true_and]
      exact eq_comm
    | some literal =>
      simp only [Option.some.injEq, forall_eq']
      cases (arena.alloc content).1.hasLiteral parent literal with
      | true => simp
      | false =>
        simp only [Bool.false_eq_true, if_false, Except.ok.injEq, true_and]
        exact eq_comm
  have split : arena.insert parent content = .ok (grown, made) ↔
      (arena.alloc content).1.append parent arena.size = .ok grown ∧ made = arena.size := by
    rw [insert, bind_ok_iff]
    constructor
    · rintro ⟨linked, appended, equal⟩
      obtain ⟨rfl, rfl⟩ := Prod.mk.inj (pure_ok_iff.mp equal)
      exact ⟨appended, rfl⟩
    · rintro ⟨appended, rfl⟩
      exact ⟨grown, appended, rfl⟩
  rw [split, placed]
  constructor
  · rintro ⟨⟨free, linked⟩, new⟩
    exact ⟨free, new, linked⟩
  · rintro ⟨free, new, linked⟩
    exact ⟨⟨free, linked⟩, new⟩

/-- The nodes after one has been made: the new one, its parent, and all others as they were. -/
theorem node_insert (inside : parent < arena.size)
    (inserted : arena.insert parent content = .ok (grown, made)) :
    grown.node other
      = if other = arena.size then { content with parent := some parent }
        else if other = parent then
          { arena.node parent with children := (arena.node parent).children ++ [arena.size] }
        else arena.node other := by
  obtain ⟨-, -, rfl⟩ := insert_ok_iff.mp inserted
  have apart : arena.size ≠ parent := by omega
  simp only [link, node_modify, size_modify, size_alloc, node_alloc]
  by_cases new : other = arena.size
  · subst new
    simp [apart]
  · by_cases up : other = parent
    · subst up
      simp only [true_and, new, if_false, false_and, if_true]
      rw [if_pos (by omega)]
    · simp [new, up]

theorem size_insert (inserted : arena.insert parent content = .ok (grown, made)) :
    grown.size = arena.size + 1 := by
  obtain ⟨-, -, rfl⟩ := insert_ok_iff.mp inserted
  simp

theorem made_insert (inserted : arena.insert parent content = .ok (grown, made)) :
    made = arena.size :=
  (insert_ok_iff.mp inserted).2.1

theorem made_lt (inserted : arena.insert parent content = .ok (grown, made)) :
    made < grown.size := by
  rw [made_insert inserted, size_insert inserted]
  exact Nat.lt_succ_self _

end Arena

end Signpost
