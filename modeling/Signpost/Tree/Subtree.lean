import Signpost.Tree.Arena

/-!
# Subtrees

The part of an arena below a node, read off as a tree of its own. Copying a subtree makes a node
for each of its nodes, parents before children and siblings in order, so a copy is independent of
what it was read from.
-/
namespace Signpost

inductive Subtree
  | node (id : NodeId) (content : NodeContent) (children : List Subtree)
  deriving Repr

namespace Subtree

def id : Subtree → NodeId
  | .node id _ _ => id

def content : Subtree → NodeContent
  | .node _ content _ => content

def children : Subtree → List Subtree
  | .node _ _ children => children

mutual

/-- The nodes of a subtree, parents before children and siblings in order. -/
def preorder : Subtree → List NodeId
  | .node id _ children => id :: preorderAll children

def preorderAll : List Subtree → List NodeId
  | [] => []
  | tree :: rest => tree.preorder ++ preorderAll rest

end

end Subtree

namespace Arena

def subtreeFrom (arena : Arena) : Nat → NodeId → Subtree
  | 0, id => .node id (arena.node id).toNodeContent []
  | fuel + 1, id =>
    .node id (arena.node id).toNodeContent ((arena.node id).children.map (arena.subtreeFrom fuel))

/-- Everything below a node, the node included. -/
def subtree (arena : Arena) (id : NodeId) : Subtree := arena.subtreeFrom arena.size id

mutual

/-- Copies a subtree under a parent. -/
def copy (arena : Arena) (parent : NodeId) : Subtree → Except TreeError Arena
  | .node _ content children => do
    let (arena, node) ← arena.insert parent content
    arena.copyAll node children

def copyAll (arena : Arena) (parent : NodeId) : List Subtree → Except TreeError Arena
  | [] => .ok arena
  | tree :: rest => do
    let arena ← arena.copy parent tree
    arena.copyAll parent rest

end

end Arena

end Signpost
