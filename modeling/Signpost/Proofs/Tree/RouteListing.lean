import Signpost.Proofs.Tree.Contents
import Signpost.Proofs.Tree.RouteWalk
import Signpost.Proofs.Tree.WellFormed

/-!
# Routes and nodes

The walk that collects routes carries the patterns above it from a node to its children. Here the same
routes are read off the links of the arena: the nodes that are reached from the root, parents before
children and siblings in order, and for each of them the patterns on the way up. Nodes inside of a block
are not reached, so they have no routes, only their copies have. An id that two reached nodes carry stops
the walk at the second of them.
-/
namespace Signpost

namespace RouteTable

variable {table : RouteTable} {routes : List Route}

/-- A route whose id is taken stops the routes behind it, whatever they are. -/
theorem insertAll_stops (stops : ∀ result, routes.foldlM insert table ≠ .ok result) :
    ∃ before again after, routes = before ++ again :: after ∧
      (again.id ∈ before.map (·.id) ∨ (table.get? again.id).isSome) ∧
      routes.foldlM insert table = .error (.duplicateRouteId again.id) := by
  induction routes generalizing table with
  | nil => exact absurd rfl (stops table)
  | cons route rest ih =>
    rw [List.foldlM_cons] at stops ⊢
    by_cases taken : (table.get? route.id).isSome
    · refine ⟨[], route, rest, rfl, .inr taken, ?_⟩
      rw [insert, if_pos taken]
      rfl
    · have inserted : table.insert route = .ok ⟨table.entries ++ [route]⟩ := by
        rw [insert, if_neg taken]
      rw [inserted] at stops ⊢
      obtain ⟨before, again, after, rfl, known, error⟩ := ih stops
      refine ⟨route :: before, again, after, rfl, ?_, error⟩
      -- what the longer table has is the route that was put in or was there before
      rcases known with early | there
      · exact .inl (List.mem_cons_of_mem _ early)
      · by_cases same : route.id = again.id
        · exact .inl (same ▸ List.mem_cons_self)
        · have old : ¬ table.get? again.id = none := by
            intro absent
            rw [(get?_append table route again.id).mpr ⟨absent, same⟩] at there
            cases there
          exact .inr (Option.isSome_iff_ne_none.mpr old)

/-- Where no id occurs twice, an id finds the one route that has it. -/
theorem get?_iff (distinct : (table.entries.map (·.id)).Nodup) {id : String} {route : Route} :
    table.get? id = some route ↔ route ∈ table.entries ∧ route.id = id := by
  constructor
  · intro found
    exact ⟨List.mem_of_find?_eq_some found, by simpa using List.find?_some found⟩
  · rintro ⟨member, rfl⟩
    have known : (table.get? route.id).isSome := List.find?_isSome.mpr ⟨route, member, by simp⟩
    obtain ⟨other, found⟩ := Option.isSome_iff_exists.mp known
    have same : other.id = route.id := by simpa using List.find?_some found
    rw [found, List.inj_on_of_nodup_map distinct (List.mem_of_find?_eq_some found) member same]

end RouteTable

theorem Subtree.preorderAll_eq (trees : List Subtree) :
    preorderAll trees = trees.flatMap preorder := by
  induction trees with
  | nil => rfl
  | cons tree rest ih => rw [preorderAll, ih, List.flatMap_cons]

theorem Shape.routesAll_eq (above : List Pattern) (shapes : List Shape) :
    routesAll above shapes = shapes.flatMap (routes above) := by
  induction shapes with
  | nil => rfl
  | cons shape rest ih => rw [routesAll, ih, List.flatMap_cons]

namespace Arena

variable {arena : Arena}

/-! ### The order of a walk -/

/-- A node and the nodes below it, parents before children and siblings in order. -/
def preorder (arena : Arena) (id : Nat) : List Nat := (arena.subtree id).preorder

theorem preorder_eq (linked : arena.Linked) (id : Nat) :
    arena.preorder id = id :: (arena.node id).children.flatMap arena.preorder := by
  rw [preorder, subtree_eq linked, Subtree.preorder, Subtree.preorderAll_eq, List.flatMap_map]
  rfl

/-- Links lead from smaller numbers to greater ones, so what holds of a node whenever it holds of its
children holds of all nodes. -/
theorem Linked.below_induction (linked : arena.Linked) {motive : Nat → Prop}
    (node : ∀ id, (∀ child : Nat, child ∈ (arena.node id).children → motive child) → motive id)
    (id : Nat) : motive id := by
  induction depth : arena.size - id using Nat.strongRecOn generalizing id with
  | ind depth ih =>
    apply node
    intro child own
    have order := linked.child own
    exact ih (arena.size - child) (by omega) child rfl

theorem mem_preorder_iff (linked : arena.Linked) {id other : Nat} :
    other ∈ arena.preorder id ↔ arena.Reaches id other := by
  constructor
  · intro member
    induction id using linked.below_induction with
    | node id ih =>
      rw [preorder_eq linked] at member
      rcases List.mem_cons.mp member with rfl | below
      · exact .refl
      · obtain ⟨child, own, within⟩ := List.mem_flatMap.mp below
        exact .head own (ih child own within)
  · intro walk
    induction walk using Relation.ReflTransGen.head_induction_on with
    | refl =>
      rw [preorder_eq linked]
      exact List.mem_cons_self
    | head own _ ih =>
      rw [preorder_eq linked]
      exact List.mem_cons_of_mem _ (List.mem_flatMap.mpr ⟨_, own, ih⟩)

theorem Reaches.ascends (linked : arena.Linked) {id other : Nat} (walk : arena.Reaches id other) :
    Relation.ReflTransGen arena.Ascends other id := by
  apply Relation.ReflTransGen.mono _ _ _ (Relation.ReflTransGen.swap _ _ walk)
  intro child parent own
  exact (linked.down parent child).mp own

/-- A walk passes each node once. -/
theorem preorder_nodup (linked : arena.Linked) (children : ∀ id : Nat, (arena.node id).children.Nodup)
    (id : Nat) : (arena.preorder id).Nodup := by
  induction id using linked.below_induction with
  | node id ih =>
    rw [preorder_eq linked, List.nodup_cons, List.nodup_flatMap]
    refine ⟨?_, ih, ?_⟩
    · intro again
      obtain ⟨child, own, within⟩ := List.mem_flatMap.mp again
      have up := ascends_le linked (((mem_preorder_iff linked).mp within).ascends linked)
      exact absurd (linked.child own).1 (Nat.not_lt.mpr up)
    · apply (children id).imp_of_mem
      intro first second own own' different node within within'
      exact different (child_unique linked ((linked.down id first).mp own)
        ((linked.down id second).mp own') (((mem_preorder_iff linked).mp within).ascends linked)
        (((mem_preorder_iff linked).mp within').ascends linked))

/-- The nodes on the way up from a node are those from which it is reached. -/
theorem mem_lineage_iff (linked : arena.Linked) {id above : Nat} (inside : id < arena.size) :
    above ∈ arena.lineage id ↔ arena.Reaches above id := by
  -- Parents have smaller numbers, so the induction is on the number of the node.
  induction id using Nat.strongRecOn with
  | ind id ih =>
    cases up : (arena.node id).parent with
    | none =>
      rw [lineage_root inside up, List.mem_singleton]
      constructor
      · rintro rfl
        exact .refl
      · intro walk
        rcases walk.cases_tail with same | ⟨parent, -, own⟩
        · exact same.symm
        · rw [linked.down, up] at own
          cases own
    | some parent =>
      have order := linked.order parent id up
      rw [lineage_child linked up, List.mem_cons, ih parent order.1 (by omega)]
      constructor
      · rintro (rfl | higher)
        · exact .refl
        · exact .tail higher ((linked.down parent id).mpr up)
      · intro walk
        rcases walk.cases_tail with same | ⟨other, higher, own⟩
        · exact .inl same.symm
        · cases up.symm.trans ((linked.down other id).mp own)
          exact .inr higher

/-- What stands above a node that is reached from the root is reached as well. -/
theorem reaches_above (linked : arena.Linked) {id above : Nat} (walk : arena.Reaches root id)
    (higher : arena.Reaches above id) : arena.Reaches root above := by
  -- the ways up to both are parts of one, and it does not go on above the root
  rcases Relation.ReflTransGen.total_of_right_unique arena.ascends_functional (walk.ascends linked)
    (higher.ascends linked) with up | down
  · rcases up.cases_head with rfl | ⟨parent, step, -⟩
    · exact .refl
    · exact absurd (linked.order parent root step).1 (Nat.not_lt_zero parent)
  · apply Relation.ReflTransGen.mono _ _ _ (Relation.ReflTransGen.swap _ _ down)
    intro parent child step
    exact (linked.down parent child).mpr step

/-- What is reached from the root stands in the arena. -/
theorem Reaches.inside (linked : arena.Linked) (rooted : (root : Nat) < arena.size) {id : Nat}
    (walk : arena.Reaches root id) : id < arena.size := by
  rcases walk.cases_tail with rfl | ⟨parent, -, own⟩
  · exact rooted
  · exact (linked.child own).2

/-! ### Routes from links -/

/-- The patterns on the way up from a node, read from the root down. -/
def patternsAbove (arena : Arena) (id : Nat) : List Pattern :=
  (arena.lineage id).reverse.filterMap fun above => (arena.node above).kind.pattern?

/-- The route of a node with an id. -/
def route? (arena : Arena) (id : Nat) : Option Route :=
  (arena.node id).kind.routeId?.map fun name => ⟨name, arena.patternsAbove id⟩

theorem patternsAbove_child (linked : arena.Linked) {id child : Nat}
    (own : child ∈ (arena.node id).children) :
    arena.patternsAbove child
      = arena.patternsAbove id ++ (arena.node child).kind.pattern?.toList := by
  rw [patternsAbove, lineage_child linked ((linked.down id child).mp own), List.reverse_cons,
    List.filterMap_append, patternsAbove]
  cases pattern : (arena.node child).kind.pattern? <;> simp [pattern]

/-- The patterns that the walk has gathered are those on the way up, so it finds the routes of nodes. -/
theorem routes_shape (linked : arena.Linked) (id : Nat) (above : List Pattern)
    (gathered : arena.patternsAbove id = above ++ (arena.node id).kind.pattern?.toList) :
    (arena.shape id).routes above = (arena.preorder id).filterMap arena.route? := by
  induction id using linked.below_induction generalizing above with
  | node id ih =>
    have below : (arena.node id).children.flatMap
          (fun child => (arena.shape child).routes (arena.patternsAbove id))
        = (arena.node id).children.flatMap fun child =>
          (arena.preorder child).filterMap arena.route? :=
      List.flatMap_congr fun child own => ih child own _ (patternsAbove_child linked own)
    rw [shape_eq linked, Shape.routes, ← gathered, Shape.routesAll_eq, List.flatMap_map, below, preorder_eq linked,
      List.filterMap_cons, List.filterMap_flatMap, route?]
    cases (arena.node id).kind.routeId? <;> rfl

/-- The routes that are collected from the root. -/
theorem routes_root (linked : arena.Linked) (inside : (root : Nat) < arena.size) :
    (arena.shape root).routes [] = (arena.preorder root).filterMap arena.route? := by
  have parentless : (arena.node root).parent = none := by
    cases up : (arena.node root).parent with
    | none => rfl
    | some parent => exact absurd (linked.order parent root up).1 (Nat.not_lt_zero parent)
  apply routes_shape linked root []
  rw [patternsAbove, lineage_root inside parentless]
  cases pattern : (arena.node root).kind.pattern? <;> simp [pattern]

/-- A node that is reached from the root and carries an id. -/
def Identified (arena : Arena) (id : String) (node : Nat) : Prop :=
  arena.Reaches root node ∧ (arena.node node).kind.routeId? = some id

end Arena

namespace RouteTree

open Arena

/-- The table of a tree is the list of the reached nodes that carry ids. -/
structure Listed (tree : RouteTree) : Prop where
  order : ∀ id : Nat,
    tree.arena.preorder id = id :: (tree.arena.node id).children.flatMap tree.arena.preorder
  reached : ∀ id : Nat, id ∈ tree.arena.preorder root ↔ tree.arena.Reaches root id
  once : (tree.arena.preorder root).Nodup
  entries : tree.routes.entries = (tree.arena.preorder root).filterMap tree.arena.route?
  distinct : (tree.routes.entries.map (·.id)).Nodup
  found : ∀ (id : String) (route : Route),
    tree.routes.get? id = some route ↔ route ∈ tree.routes.entries ∧ route.id = id
  detached : ∀ (id block : Nat) (name : String), block ∈ tree.arena.lineage id →
    (tree.arena.node block).kind = .block name → ¬ tree.arena.Reaches root id

theorem build_listed {spec : SpecNode} {tree : RouteTree} (built : build spec = .ok tree) :
    tree.Listed := by
  have kept := build_kept built
  have linked := kept.linked
  have inside : (root : Nat) < tree.arena.size := (build_steps built).size_le
  obtain ⟨-, -, collected⟩ := build_ok_iff.mp built
  obtain ⟨distinct, table⟩ := RouteTable.collect_ok_iff.mp collected
  have entries : tree.routes.entries = (tree.arena.shape root).routes [] := by
    rw [table]
    rfl
  refine ⟨preorder_eq linked, fun id => mem_preorder_iff linked,
    preorder_nodup linked kept.once root, ?_, ?_, ?_, ?_⟩
  · rw [entries, routes_root linked inside]
  · rw [entries]
    exact distinct
  · intro id route
    apply RouteTable.get?_iff
    rw [entries]
    exact distinct
  · intro id block name within kind walk
    have higher := (mem_lineage_iff linked (walk.inside linked inside)).mp within
    exact (build_arranged built).reached (reaches_above linked walk higher) name kind

/-- The patterns of a route are those of nodes that are reached, so they have been read. -/
theorem build_arise {spec : SpecNode} {tree : RouteTree} (built : build spec = .ok tree) :
    ∀ route ∈ tree.routes.entries, ∀ pattern ∈ route.patterns, pattern.Arises := by
  have linked := (build_kept built).linked
  have listed := build_listed built
  intro route member pattern among
  rw [listed.entries] at member
  obtain ⟨id, visited, made⟩ := List.mem_filterMap.mp member
  obtain ⟨name, -, rfl⟩ := Option.map_eq_some_iff.mp made
  obtain ⟨above, higher, stated⟩ := List.mem_filterMap.mp among
  have walk := (listed.reached id).mp visited
  have inside := walk.inside linked (build_steps built).size_le
  have reached := (mem_lineage_iff linked inside).mp (List.mem_reverse.mp higher)
  exact (build_lasting NodeContent.proper_lasting built (reaches_above linked walk reached)).pattern
    pattern stated

/-- Nodes whose routes have different ids carry different ids. -/
theorem ids_apart {arena : Arena} (linked : arena.Linked)
    (distinct : (((arena.preorder root).filterMap arena.route?).map (·.id)).Nodup) {id : String}
    {first second : Nat} (apart : first ≠ second) (one : arena.Identified id first)
    (other : arena.Identified id second) : False := by
  have pairs := List.pairwise_filterMap.mp (List.pairwise_map.mp distinct)
  have symmetric : Std.Symm fun node other : Nat => ∀ route, arena.route? node = some route →
      ∀ another, arena.route? other = some another → route.id ≠ another.id :=
    ⟨fun _ _ differ route made another made' => (differ another made' route made).symm⟩
  have made {node : Nat} (identified : arena.Identified id node) :
      arena.route? node = some ⟨id, arena.patternsAbove node⟩ := by
    rw [route?, identified.2, Option.map_some]
  have differ := pairs.forall ((mem_preorder_iff linked).mpr one.1)
    ((mem_preorder_iff linked).mpr other.1) apart
  exact differ _ (made one) _ (made other) rfl

/-- Two routes with one id come from two nodes. -/
theorem identified_twice {arena : Arena} (linked : arena.Linked)
    (once : (arena.preorder root).Nodup) {before after : List Route} {again : Route}
    (split : (arena.preorder root).filterMap arena.route? = before ++ again :: after)
    (known : again.id ∈ before.map (·.id)) :
    ∃ first second : Nat, first ≠ second ∧ arena.Identified again.id first ∧
      arena.Identified again.id second := by
  obtain ⟨early, late, walk, earlier, later⟩ := List.filterMap_eq_append_iff.mp split
  obtain ⟨route, among, same⟩ := List.mem_map.mp known
  rw [← earlier] at among
  obtain ⟨first, inFront, made⟩ := List.mem_filterMap.mp among
  have behind : again ∈ late.filterMap arena.route? := later ▸ List.mem_cons_self
  obtain ⟨second, inBack, made'⟩ := List.mem_filterMap.mp behind
  rw [walk] at once
  have carries {node : Nat} {route : Route} (made : arena.route? node = some route) :
      (arena.node node).kind.routeId? = some route.id := by
    obtain ⟨id, carried, rfl⟩ := Option.map_eq_some_iff.mp made
    exact carried
  refine ⟨first, second, (List.nodup_append.mp once).2.2 first inFront second inBack, ⟨?_, ?_⟩, ?_, ?_⟩
  · rw [← mem_preorder_iff linked, walk]
    exact List.mem_append_left _ inFront
  · rw [carries made, same]
  · rw [← mem_preorder_iff linked, walk]
    exact List.mem_append_right _ inBack
  · exact carries made'

/-- The route table is the list of the identified nodes. A tree that has been built lists the nodes that
are reached from the root and carry ids, parents first and siblings in order, each with the patterns on
the way down to it; no id occurs twice, an id finds its own route, and no node inside of a block is
reached. If two reached nodes carry one id, the document cannot be built, and the error names such an
id. -/
theorem build_routes (spec : SpecNode) :
    (∀ tree, build spec = .ok tree → tree.Listed) ∧
    ∀ arena, spec.kind = .router → buildChildren [] .start root spec.children = .ok arena →
      ∀ (id : String) (first second : Nat), first ≠ second →
        arena.Identified id first → arena.Identified id second →
          ∃ again, build spec = .error (.duplicateRouteId again) ∧
            ∃ one other : Nat, one ≠ other ∧ arena.Identified again one ∧
              arena.Identified again other := by
  refine ⟨fun tree => build_listed, ?_⟩
  intro arena router body id first second apart one other
  have steps := buildChildren_steps spec.children body start_site.inside
  have kept := steps.keeps Step.kept start_kept
  have linked := kept.linked
  have inside : (root : Nat) < arena.size := steps.size_le
  have once := preorder_nodup linked (fun id => (kept.sorted id).imp Nat.ne_of_lt) root
  have collect : RouteTable.collect {} [] (arena.subtree root)
      = ((arena.preorder root).filterMap arena.route?).foldlM RouteTable.insert {} := by
    rw [RouteTable.collect_eq, ← routes_root linked inside]
    rfl
  have stops : ∀ result, ((arena.preorder root).filterMap arena.route?).foldlM RouteTable.insert {}
      ≠ .ok result := by
    intro result inserted
    obtain ⟨-, distinct, -⟩ := RouteTable.insertAll_ok_iff.mp inserted
    exact ids_apart linked distinct apart one other
  obtain ⟨before, again, after, split, known, error⟩ := RouteTable.insertAll_stops stops
  have early : again.id ∈ before.map (·.id) := by
    simpa [RouteTable.get?] using known
  refine ⟨again.id, ?_, identified_twice linked once split early⟩
  rw [build, if_pos router, body]
  change (do let routes ← RouteTable.collect {} [] (arena.subtree root); pure _) = _
  rw [collect, error]
  rfl

/-- A block with a chain of two paths in a group, and a wing for each of some references to it. -/
def galleryDocument (references : List SpecNode) : SpecNode :=
  let named (spec : SpecNode) (id : String) : SpecNode := spec.withAttribute "id" id
  let room := (SpecNode.block "room").withChild
    (SpecNode.group.withChild (named (SpecNode.path "room/{number}") "room"))
  let wing := (named (SpecNode.path "{wing}") "wing").withChild
    ((named SpecNode.group "rooms").withChildren references)
  SpecNode.router.withChildren [room, wing, (SpecNode.path "cellar").withChildren references]

theorem build_routes_gallery :
    (∃ tree, build (galleryDocument []) = .ok tree ∧
      tree.routes.entries.map (·.id) = ["wing", "rooms"] ∧ tree.Listed) ∧
    ∃ again, build (galleryDocument [SpecNode.reference "room"])
      = .error (.duplicateRouteId again) := by
  constructor
  · have succeeds : ((build (galleryDocument [])).toOption.filter fun tree =>
        tree.routes.entries.map (·.id) = ["wing", "rooms"]).isSome = true := by decide +kernel
    obtain ⟨tree, found⟩ := Option.isSome_iff_exists.mp succeeds
    obtain ⟨built, ids⟩ := Option.filter_eq_some_iff.mp found
    have built := ok_of_toOption built
    exact ⟨tree, built, of_decide_eq_true ids, (build_routes _).1 tree built⟩
  · let document := galleryDocument [SpecNode.reference "room"]
    -- the copies of the second path of the chain, below the wing and below the cellar
    have twice : ((buildChildren [] .start root document.children).toOption.filter fun arena =>
        (9 ∈ arena.preorder root ∧ (arena.node (9 : Nat)).kind.routeId? = some "room") ∧
          13 ∈ arena.preorder root ∧ (arena.node (13 : Nat)).kind.routeId? = some "room").isSome
        = true := by decide +kernel
    obtain ⟨arena, found⟩ := Option.isSome_iff_exists.mp twice
    obtain ⟨built, nodes⟩ := Option.filter_eq_some_iff.mp found
    obtain ⟨⟨one, carried⟩, other, carried'⟩ := of_decide_eq_true nodes
    have body := ok_of_toOption built
    have linked := ((buildChildren_steps document.children body start_site.inside).keeps Step.kept
      start_kept).linked
    obtain ⟨again, error, -⟩ := (build_routes document).2 arena rfl body "room" 9 13 (by decide)
      ⟨(mem_preorder_iff linked).mp one, carried⟩ ⟨(mem_preorder_iff linked).mp other, carried'⟩
    exact ⟨again, error⟩

end RouteTree

end Signpost
