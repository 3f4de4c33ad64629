import Signpost.Attributes
import Signpost.Pattern.Basic

/-!
# Nodes

A node of the tree of routes: what it is, the values bound around its body, and the names that it
binds for itself and everything below it. A blank path is a group: it takes no segment, and its
children act as children of its parent.
-/
namespace Signpost

/-- Nodes are numbered in the order in which they are made, so 32 bits are enough for the numbers of up
to `2 ^ 32` nodes. -/
abbrev NodeId := Nat

inductive NodeKind
  | router
  | block (name : String)
  | path (pattern : Pattern) (id : Option String)
  | regexPath (pattern : Pattern) (id : Option String)
  | blankPath (id : Option String)
  | switch (value : Option String)
  | case (value : String)
  | default
  | test (regex subject : String)
  | call (function : String) (arguments : List String)
  | set (name value : String)
  | arg (value : String)
  | return (attributes : Attributes)
  deriving DecidableEq, Repr

namespace NodeKind

def name : NodeKind → String
  | .router => "router"
  | .block _ => "block"
  | .path .. => "path"
  | .regexPath .. => "regex_path"
  | .blankPath _ => "blank_path"
  | .switch _ => "switch"
  | .case _ => "case"
  | .default => "default"
  | .test .. => "test"
  | .call .. => "call"
  | .set .. => "set"
  | .arg _ => "arg"
  | .return _ => "return"

/-- The pattern of a node that takes a segment. -/
def pattern? : NodeKind → Option Pattern
  | .path pattern _ | .regexPath pattern _ => some pattern
  | _ => none

def routeId? : NodeKind → Option String
  | .path _ id | .regexPath _ id | .blankPath id => id
  | _ => none

/-- The literal of a node that takes exactly one segment. -/
def literal? : NodeKind → Option String
  | .path pattern _ => pattern.literal?
  | _ => none

def isBlank : NodeKind → Bool
  | .blankPath _ => true
  | _ => false

def isCall : NodeKind → Bool
  | .call .. => true
  | _ => false

end NodeKind

/-- What a node says, apart from its place in the tree. -/
structure NodeContent where
  kind : NodeKind
  values : List (String × String) := []
  localVars : List String := []
  deriving DecidableEq, Repr

structure Node extends NodeContent where
  parent : Option NodeId := none
  children : List NodeId := []
  deriving DecidableEq, Repr

namespace Node

def addVar (node : Node) (name : String) : Node :=
  if name ∈ node.localVars then node else { node with localVars := node.localVars ++ [name] }

/-- Binds a value; a name that is bound already keeps its place. -/
def setValue (node : Node) (name value : String) : Node :=
  if node.values.any (·.1 == name) then
    { node with
      values := node.values.map fun entry => if entry.1 = name then (name, value) else entry }
  else
    let bound := node.addVar name
    { bound with values := bound.values ++ [(name, value)] }

end Node

end Signpost
