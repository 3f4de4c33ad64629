import Signpost.Tree.Subtree

/-!
# Route tables

A route is a node with an id, together with the segment patterns from the root down to it. Routes
are listed in the order in which a walk from the root meets them, parents before children, and no
id is listed twice.
-/
namespace Signpost

structure Route where
  id : String
  patterns : List Pattern
  deriving DecidableEq, Repr

structure RouteTable where
  entries : List Route := []
  deriving DecidableEq, Repr

namespace RouteTable

def get? (table : RouteTable) (id : String) : Option Route := table.entries.find? (·.id == id)

def insert (table : RouteTable) (route : Route) : Except TreeError RouteTable :=
  if (table.get? route.id).isSome then .error (.duplicateRouteId route.id)
  else .ok ⟨table.entries ++ [route]⟩

mutual

/-- Adds the routes of a subtree that lies below the given patterns. -/
def collect (table : RouteTable) (above : List Pattern) : Subtree → Except TreeError RouteTable
  | .node _ content children => do
    let patterns := above ++ content.kind.pattern?.toList
    let table ← match content.kind.routeId? with
      | some id => table.insert ⟨id, patterns⟩
      | none => .ok table
    table.collectAll patterns children

def collectAll (table : RouteTable) (above : List Pattern) :
    List Subtree → Except TreeError RouteTable
  | [] => .ok table
  | tree :: rest => do
    let table ← table.collect above tree
    table.collectAll above rest

end

end RouteTable

end Signpost
