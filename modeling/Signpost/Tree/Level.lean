import Signpost.Tree.Subtree

/-!
# Trees of levels

A subtree with its blank paths dissolved: the members of a node are the nodes of its dispatch level.
Every node carries the names that are visible where it stands; its own names come on top.
-/
namespace Signpost

inductive LevelTree
  | node (id : NodeId) (content : NodeContent) (outer : List String) (members : List LevelTree)
  deriving Repr

namespace LevelTree

def id : LevelTree → NodeId
  | .node id _ _ _ => id

def content : LevelTree → NodeContent
  | .node _ content _ _ => content

def kind (tree : LevelTree) : NodeKind := tree.content.kind

/-- The names visible where the node stands. -/
def outer : LevelTree → List String
  | .node _ _ outer _ => outer

def members : LevelTree → List LevelTree
  | .node _ _ _ members => members

/-- The names visible to the node and to what lies below it. -/
def visible (tree : LevelTree) : List String := tree.outer ++ tree.content.localVars

end LevelTree

namespace Subtree

mutual

/-- The members that a subtree contributes to the level it stands on. -/
def dissolve (outer : List String) : Subtree → List LevelTree
  | .node id content children =>
    let members := dissolveAll (outer ++ content.localVars) children
    if content.kind.isBlank then members else [.node id content outer members]

def dissolveAll (outer : List String) : List Subtree → List LevelTree
  | [] => []
  | tree :: rest => tree.dissolve outer ++ dissolveAll outer rest

end

/-- The levels of a subtree, its own node kept even if it is a blank path. -/
def levels (tree : Subtree) : LevelTree :=
  .node tree.id tree.content [] (dissolveAll tree.content.localVars tree.children)

end Subtree

end Signpost
