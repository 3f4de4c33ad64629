import Signpost.Proofs.Success
import Signpost.Proofs.Tree.Shape

/-!
# Routes of a shape

The walk that collects routes only looks at shapes: it lists the nodes with ids, each with the patterns
above it, and puts them into the table one after another. That succeeds if no id occurs twice.
-/
namespace Signpost

namespace Shape

mutual

/-- The routes of a tree that lies below the given patterns, in the order of the walk. -/
def routes (above : List Pattern) : Shape → List Route
  | .node content children =>
    let patterns := above ++ content.kind.pattern?.toList
    (content.kind.routeId?.toList.map fun id => ⟨id, patterns⟩) ++ routesAll patterns children

def routesAll (above : List Pattern) : List Shape → List Route
  | [] => []
  | shape :: rest => shape.routes above ++ routesAll above rest

end

theorem routesAll_append (above : List Pattern) (first rest : List Shape) :
    routesAll above (first ++ rest) = routesAll above first ++ routesAll above rest := by
  induction first with
  | nil => rfl
  | cons shape others ih => rw [List.cons_append, routesAll, routesAll, ih, List.append_assoc]

end Shape

namespace RouteTable

mutual

theorem collect_eq (table : RouteTable) (above : List Pattern) :
    (tree : Subtree) → table.collect above tree = (tree.shape.routes above).foldlM insert table
  | .node _ content children => by
    rw [collect, Subtree.shape, Shape.routes, List.foldlM_append]
    cases content.kind.routeId? with
    | none => exact collectAll_eq _ _ children
    | some id =>
      simp only [Option.toList_some, List.map_cons, List.map_nil, List.foldlM_cons, List.foldlM_nil,
        bind_pure]
      exact bind_congr fun table => collectAll_eq table _ children

theorem collectAll_eq (table : RouteTable) (above : List Pattern) :
    (trees : List Subtree) → table.collectAll above trees
      = (Shape.routesAll above (Subtree.shapeAll trees)).foldlM insert table
  | [] => rfl
  | tree :: rest => by
    rw [collectAll, Subtree.shapeAll, Shape.routesAll, List.foldlM_append, collect_eq _ _ tree]
    exact bind_congr fun table => collectAll_eq table _ rest

end

theorem insert_ok_iff {table result : RouteTable} {route : Route} :
    table.insert route = .ok result ↔
      table.get? route.id = none ∧ result = ⟨table.entries ++ [route]⟩ := by
  rw [insert]
  cases known : table.get? route.id with
  | none => simp [eq_comm]
  | some other => simp

theorem get?_append (table : RouteTable) (route : Route) (id : String) :
    (RouteTable.mk (table.entries ++ [route])).get? id = none ↔
      table.get? id = none ∧ route.id ≠ id := by
  simp [get?, List.find?_append]

/-- Routes can be put into a table if their ids are new and differ from one another. -/
theorem insertAll_ok_iff {table result : RouteTable} {routes : List Route} :
    routes.foldlM insert table = .ok result ↔
      (∀ route ∈ routes, table.get? route.id = none) ∧ (routes.map (·.id)).Nodup ∧
        result = ⟨table.entries ++ routes⟩ := by
  induction routes generalizing table with
  | nil =>
    rw [List.foldlM_nil, pure_ok_iff]
    simp [eq_comm]
  | cons route rest ih =>
    rw [List.foldlM_cons, bind_ok_iff]
    constructor
    · rintro ⟨middle, inserted, later⟩
      obtain ⟨fresh, rfl⟩ := insert_ok_iff.mp inserted
      obtain ⟨unknown, distinct, rfl⟩ := ih.mp later
      -- an id is free behind the first route if it was free before and is not the one of that route
      simp only [get?_append] at unknown
      refine ⟨?_, ?_, by simp⟩
      · exact List.forall_mem_cons.mpr ⟨fresh, fun other member => (unknown other member).1⟩
      · refine List.nodup_cons.mpr ⟨?_, distinct⟩
        rintro member
        obtain ⟨other, inside, same⟩ := List.mem_map.mp member
        exact (unknown other inside).2 same.symm
    · rintro ⟨unknown, distinct, rfl⟩
      obtain ⟨fresh, others⟩ := List.forall_mem_cons.mp unknown
      obtain ⟨apart, distinct⟩ := List.nodup_cons.mp distinct
      refine ⟨_, insert_ok_iff.mpr ⟨fresh, rfl⟩, ih.mpr ⟨?_, distinct, by simp⟩⟩
      intro other member
      rw [get?_append]
      exact ⟨others other member, fun same => apart (List.mem_map.mpr ⟨other, member, same.symm⟩)⟩

/-- A whole tree has a table if no id occurs twice in it, and its routes are the table. -/
theorem collect_ok_iff {tree : Subtree} {table : RouteTable} :
    RouteTable.collect {} [] tree = .ok table ↔
      ((tree.shape.routes []).map (·.id)).Nodup ∧ table = ⟨tree.shape.routes []⟩ := by
  rw [collect_eq, insertAll_ok_iff]
  simp [get?]

/-- The routes of a subtree do not depend on the numbers of its nodes. -/
theorem collect_congr {table : RouteTable} {above : List Pattern} {tree other : Subtree}
    (same : tree.shape = other.shape) : table.collect above tree = table.collect above other := by
  rw [collect_eq, collect_eq, same]

end RouteTable

end Signpost
