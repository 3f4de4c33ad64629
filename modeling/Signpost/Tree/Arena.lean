import Signpost.Tree.Error
import Signpost.Tree.Node

/-!
# Arenas

All nodes of one tree of routes, with the root in first place. The bodies of blocks are kept in the
same arena without a parent; a reference to a block copies them to its own place.

A node is linked to its parent after both have been made, so every child has a greater number than
its parent. The number of nodes therefore bounds every walk along parents or children.

The dispatch level of a node is made of its children, with the children of a blank path in place of
the path itself. No two literal paths of one level have the same text.
-/
namespace Signpost

structure Arena where
  nodes : Array Node
  deriving DecidableEq, Repr

namespace Arena

def start : Arena := ⟨#[{ kind := .router }]⟩

def root : NodeId := 0

def size (arena : Arena) : Nat := arena.nodes.size

def node (arena : Arena) (id : NodeId) : Node := arena.nodes.getD id { kind := .router }

def modify (arena : Arena) (id : NodeId) (change : Node → Node) : Arena :=
  ⟨arena.nodes.modify id change⟩

/-- Makes a node that has no place yet. -/
def alloc (arena : Arena) (content : NodeContent) : Arena × NodeId :=
  (⟨arena.nodes.push { content with }⟩, arena.nodes.size)

def levelFrom (arena : Arena) : Nat → NodeId → List NodeId
  | 0, _ => []
  | fuel + 1, id =>
    (arena.node id).children.flatMap fun child =>
      if (arena.node child).kind.isBlank then arena.levelFrom fuel child else [child]

/-- The dispatch level of a node. -/
def level (arena : Arena) (id : NodeId) : List NodeId := arena.levelFrom arena.size id

def lineageFrom (arena : Arena) : Nat → NodeId → List NodeId
  | 0, _ => []
  | fuel + 1, id =>
    id :: match (arena.node id).parent with
      | some parent => arena.lineageFrom fuel parent
      | none => []

/-- A node and its ancestors, up to the root of its tree. -/
def lineage (arena : Arena) (id : NodeId) : List NodeId := arena.lineageFrom arena.size id

/-- The nearest of a node and its ancestors that is no blank path. -/
def scopeOwner (arena : Arena) (id : NodeId) : NodeId :=
  ((arena.lineage id).find? fun ancestor => !(arena.node ancestor).kind.isBlank).getD id

/-- A name that a node or one of its ancestors may bind. -/
def isVisible (arena : Arena) (id : NodeId) (name : String) : Bool :=
  (arena.lineage id).any fun ancestor => name ∈ (arena.node ancestor).localVars

/-- A literal path with the given text on the level that the children of a node belong to. -/
def hasLiteral (arena : Arena) (parent : NodeId) (literal : String) : Bool :=
  (arena.level (arena.scopeOwner parent)).any fun sibling =>
    (arena.node sibling).kind.literal? == some literal

/-- Links a node under a parent, as its last child. -/
def link (arena : Arena) (parent child : NodeId) : Arena :=
  (arena.modify child fun node => { node with parent := some parent }).modify parent fun node =>
    { node with children := node.children ++ [child] }

/-- Links a node under a parent unless its literal is taken on that level. -/
def append (arena : Arena) (parent child : NodeId) : Except TreeError Arena :=
  match (arena.node child).kind.literal? with
  | some literal =>
    if arena.hasLiteral parent literal then .error (.duplicateLiteral literal)
    else .ok (arena.link parent child)
  | none => .ok (arena.link parent child)

/-- Makes a node under a parent. -/
def insert (arena : Arena) (parent : NodeId) (content : NodeContent) :
    Except TreeError (Arena × NodeId) := do
  let (arena, node) := arena.alloc content
  let arena ← arena.append parent node
  return (arena, node)

def setValue (arena : Arena) (id : NodeId) (name value : String) : Arena :=
  arena.modify id fun node => node.setValue name value

end Arena

end Signpost
