import Signpost.Program.OfTree
import Signpost.Proofs.Tree.Groups

/-!
# Programs of shapes

Code is emitted from what nodes say and where they stand, never from their numbers. So trees of one
shape have one program. Groups do not show in the levels of a shape either: whether a tree has them or
their children in their places, its levels are the same.
-/
namespace Signpost

/-! ### Levels without numbers -/

namespace LevelTree

mutual

/-- A tree of levels with all nodes numbered alike. -/
def unnumbered : LevelTree → LevelTree
  | .node _ content outer members => .node (0 : Nat) content outer (unnumberedAll members)

def unnumberedAll : List LevelTree → List LevelTree
  | [] => []
  | tree :: rest => tree.unnumbered :: unnumberedAll rest

end

@[simp]
theorem unnumbered_content (tree : LevelTree) : tree.unnumbered.content = tree.content := by
  cases tree
  rfl

@[simp]
theorem unnumbered_kind (tree : LevelTree) : tree.unnumbered.kind = tree.kind :=
  congrArg NodeContent.kind tree.unnumbered_content

@[simp]
theorem unnumbered_visible (tree : LevelTree) : tree.unnumbered.visible = tree.visible := by
  cases tree
  rfl

theorem unnumbered_members (tree : LevelTree) :
    tree.unnumbered.members = unnumberedAll tree.members := by
  cases tree
  rfl

theorem unnumberedAll_eq (trees : List LevelTree) : unnumberedAll trees = trees.map unnumbered := by
  induction trees with
  | nil => rfl
  | cons tree rest ih => rw [unnumberedAll, ih, List.map_cons]

theorem unnumberedAll_append (first rest : List LevelTree) :
    unnumberedAll (first ++ rest) = unnumberedAll first ++ unnumberedAll rest := by
  rw [unnumberedAll_eq, List.map_append, ← unnumberedAll_eq, ← unnumberedAll_eq]

/-- What is picked from members by their kinds does not depend on their numbers. -/
theorem filterMap_unnumberedAll {α : Type} (pick : LevelTree → Option α)
    (blind : ∀ tree, pick tree.unnumbered = pick tree) (trees : List LevelTree) :
    (unnumberedAll trees).filterMap pick = trees.filterMap pick := by
  rw [unnumberedAll_eq, List.filterMap_map]
  exact congrArg (List.filterMap · trees) (funext blind)

end LevelTree

namespace Program

open LevelTree hiding id

namespace Setting

variable (setting : Setting)

theorem callOf_unnumbered (tree : LevelTree) (function : String) (arguments : List String) :
    setting.callOf tree.unnumbered function arguments = setting.callOf tree function arguments := by
  rw [callOf, callOf, unnumbered_visible, unnumbered_members,
    filterMap_unnumberedAll _ (fun member => by rw [unnumbered_kind])]

theorem switchValue_unnumbered (tree : LevelTree) (value : Option String) :
    setting.switchValue tree.unnumbered value = setting.switchValue tree value := by
  obtain ⟨id, content, outer, members⟩ := tree
  cases value with
  | some source => rfl
  | none =>
    cases members with
    | nil => rfl
    | cons member rest =>
      obtain ⟨number, inner, around, below⟩ := member
      simp only [switchValue, unnumbered, LevelTree.members, unnumberedAll, LevelTree.kind,
        LevelTree.content]
      split
      next function arguments kind =>
        have called := setting.callOf_unnumbered (.node number inner around below) function arguments
        rw [unnumbered] at called
        rw [called]
      next => rfl

theorem mergedGroups_unnumbered (members : List LevelTree) :
    setting.mergedGroups (unnumberedAll members) = setting.mergedGroups members := by
  rw [mergedGroups, mergedGroups,
    filterMap_unnumberedAll _ (fun member => by rw [unnumbered_kind])]

theorem returns_unnumbered (members : List LevelTree) :
    setting.returns (unnumberedAll members) = setting.returns members := by
  induction members with
  | nil => rfl
  | cons member rest ih =>
    rw [unnumberedAll, returns, returns, unnumbered_kind, unnumbered_visible, ih]

end Setting

mutual

/-- The code of a body does not depend on the numbers of nodes. -/
theorem emitBody_unnumbered (setting : Setting) (depth : Nat) :
    (tree : LevelTree) → emitBody setting depth tree.unnumbered = emitBody setting depth tree
  | .node id content outer members => by
    rw [unnumbered, emitBody, emitBody, emitControls_unnumbered setting depth members,
      emitLiterals_unnumbered setting depth members, setting.mergedGroups_unnumbered,
      emitArms_unnumbered setting depth members, setting.returns_unnumbered]

theorem emitControls_unnumbered (setting : Setting) (depth : Nat) : (members : List LevelTree) →
    emitControls setting depth (unnumberedAll members) = emitControls setting depth members
  | [] => rfl
  | .node id content outer members :: rest => by
    have value := setting.switchValue_unnumbered (.node id content outer members)
    have called := setting.callOf_unnumbered (.node id content outer members)
    have body := emitBody_unnumbered setting depth (.node id content outer members)
    rw [unnumbered] at value called body
    rw [unnumberedAll, unnumbered, emitControls, emitControls,
      emitControls_unnumbered setting depth rest, emitCases_unnumbered setting depth members]
    simp only [value, called, body]
    rfl

theorem emitCases_unnumbered (setting : Setting) (depth : Nat) : (members : List LevelTree) →
    emitCases setting depth (unnumberedAll members) = emitCases setting depth members
  | [] => rfl
  | .node id content outer members :: rest => by
    have body := emitBody_unnumbered setting depth (.node id content outer members)
    rw [unnumbered] at body
    rw [unnumberedAll, unnumbered, emitCases, emitCases, emitCases_unnumbered setting depth rest,
      body]
    rfl

theorem emitLiterals_unnumbered (setting : Setting) (depth : Nat) : (members : List LevelTree) →
    emitLiterals setting depth (unnumberedAll members) = emitLiterals setting depth members
  | [] => rfl
  | .node id content outer members :: rest => by
    have body := emitBody_unnumbered setting (depth + 1) (.node id content outer members)
    rw [unnumbered] at body
    rw [unnumberedAll, unnumbered, emitLiterals, emitLiterals,
      emitLiterals_unnumbered setting depth rest, body]

theorem emitArms_unnumbered (setting : Setting) (depth : Nat) : (members : List LevelTree) →
    emitArms setting depth (unnumberedAll members) = emitArms setting depth members
  | [] => rfl
  | .node id content outer members :: rest => by
    have body := emitBody_unnumbered setting (depth + 1) (.node id content outer members)
    rw [unnumbered] at body
    rw [unnumberedAll, unnumbered, emitArms, emitArms, emitArms_unnumbered setting depth rest, body]

end

end Program

/-! ### Levels of a shape -/

namespace Shape

mutual

/-- The members that a tree contributes to the level it stands on, without numbers. -/
def dissolve (outer : List String) : Shape → List LevelTree
  | .node content children =>
    let members := dissolveAll (outer ++ content.localVars) children
    if content.kind.isBlank then members else [.node (0 : Nat) content outer members]

def dissolveAll (outer : List String) : List Shape → List LevelTree
  | [] => []
  | shape :: rest => shape.dissolve outer ++ dissolveAll outer rest

end

/-- The levels of a tree, its own node kept even if it is a blank path. -/
def levels : Shape → LevelTree
  | .node content children => .node (0 : Nat) content [] (dissolveAll content.localVars children)

theorem dissolveAll_append (outer : List String) (first rest : List Shape) :
    dissolveAll outer (first ++ rest) = dissolveAll outer first ++ dissolveAll outer rest := by
  induction first with
  | nil => rfl
  | cons shape others ih =>
    rw [List.cons_append, dissolveAll, dissolveAll, ih, List.append_assoc]

/-- Levels do not show whether their nodes stand in groups. -/
theorem Flattens.dissolveAll {allowed : Option String → Prop} {shapes others : List Shape}
    (flattens : Flattens allowed shapes others) (outer : List String) :
    Shape.dissolveAll outer others = Shape.dissolveAll outer shapes := by
  induction flattens generalizing outer with
  | nil => rfl
  | group _ _ _ inner behind =>
    have nothing : outer ++ ([] : List String) = outer := List.append_nil outer
    rw [dissolveAll_append, inner, behind, Shape.dissolveAll, dissolve, nothing]
    rfl
  | solid _ _ _ inner behind =>
    rw [Shape.dissolveAll, Shape.dissolveAll, dissolve, dissolve, inner, behind]

end Shape

namespace Subtree

mutual

theorem dissolve_shape (outer : List String) :
    (tree : Subtree) → tree.shape.dissolve outer = LevelTree.unnumberedAll (tree.dissolve outer)
  | .node id content children => by
    rw [shape, Shape.dissolve, dissolve, dissolveAll_shape _ children]
    split <;> rfl

theorem dissolveAll_shape (outer : List String) : (trees : List Subtree) →
    Shape.dissolveAll outer (shapeAll trees) = LevelTree.unnumberedAll (dissolveAll outer trees)
  | [] => rfl
  | tree :: rest => by
    rw [shapeAll, Shape.dissolveAll, dissolveAll, LevelTree.unnumberedAll_append,
      dissolve_shape outer tree, dissolveAll_shape outer rest]

end

theorem levels_shape (tree : Subtree) : tree.shape.levels = tree.levels.unnumbered := by
  obtain ⟨id, content, children⟩ := tree
  rw [shape, Shape.levels, dissolveAll_shape]
  rfl

end Subtree

namespace Program

/-- The program of a tree is that of the levels of its shape. -/
theorem ofTree_eq (functions : FunctionRegistry) (limit : Nat) (tree : RouteTree) :
    ofTree functions limit tree = ofLevels functions limit (tree.arena.shape Arena.root).levels := by
  rw [ofTree, Arena.shape, Subtree.levels_shape, ofLevels, ofLevels, emitBody_unnumbered]

end Program

/-! ### Documents without groups -/

namespace RouteTree

open Arena

/-- Dissolving the groups below the root dissolves those of the whole tree. -/
theorem shape_root_flattens {allowed : Option String → Prop} {grown less : Arena}
    {yield other : Yield} (grows : Grows start grown root yield)
    (grows' : Grows start less root other) (flattens : yield.Flattens allowed other) :
    Shape.Flattens allowed [grown.shape root] [less.shape root] := by
  have solid : (({ kind := .router } : NodeContent).bindAll yield.values).kind.isBlank = false := by
    rw [NodeContent.bindAll_kind]
    rfl
  rw [shape_root grows, shape_root grows', flattens.values]
  exact .solid solid flattens.shapes .nil

/-- Groups are transparent. A document that can be built can be built with the children of each group
in place of the group, which leaves no group in it, and every function table and every limit gives the
same program or the same problem. The routes are the same too if no group has an id. -/
theorem build_flat {document : SpecNode} {tree : RouteTree}
    (plain : ∀ child ∈ document.children, child.Plain) (built : build document = .ok tree) :
    SpecNode.groupsAll document.flat.children = [] ∧
    ∃ other : RouteTree, build document.flat = .ok other ∧
      (∀ functions limit,
        Program.ofTree functions limit other = Program.ofTree functions limit tree) ∧
      ((∀ group ∈ SpecNode.groupsAll document.children, group.attribute? "id" = none) →
        other.routes = tree.routes) := by
  obtain ⟨router, body, collected⟩ := build_ok_iff.mp built
  obtain ⟨yield, read, grows⟩ := buildChildren_grows start_site Keeps.none document.children body
  have dissolves {allowed : Option String → Prop}
      (named : ∀ group ∈ SpecNode.groupsAll document.children, allowed (group.attribute? "id")) :=
    elaborateAll_flatten document.children plain named read
  obtain ⟨⟨less, again, flattens⟩, -, -⟩ := @dissolves (fun _ => True) fun _ _ => trivial
  -- there is room for the children of groups where there has been room for the groups
  have fits : start.Fits root less.shapes := by
    have literals := flattens.shapes.literals
    refine ⟨?_, ?_, flattens.shapes.distinct grows.fits.distinct⟩
    · rw [literals]
      exact grows.fits.apart
    · rw [literals]
      exact grows.fits.free
  obtain ⟨arena, made⟩ := buildChildren_complete start_site _
    (SpecNode.flattenAll_plain document.children plain) again fits
  obtain ⟨_, unique, grows'⟩ := buildChildren_grows start_site Keeps.none _ made
  cases again.symm.trans unique
  have whole := shape_root_flattens grows grows' flattens
  -- the routes that remain are some of those before, so no id occurs twice among them
  obtain ⟨distinct, table⟩ := RouteTable.collect_ok_iff.mp collected
  have remain : ((arena.shape root).routes []).Sublist ((tree.arena.shape root).routes []) := by
    simpa [Shape.routesAll] using (whole.routes []).1
  have collected' : RouteTable.collect {} [] (arena.subtree root)
      = .ok ⟨(arena.shape root).routes []⟩ :=
    RouteTable.collect_ok_iff.mpr ⟨distinct.sublist (remain.map _), rfl⟩
  refine ⟨SpecNode.groupsAll_flat document, ⟨arena, ⟨(arena.shape root).routes []⟩⟩,
    build_ok_iff.mpr ⟨router, made, collected'⟩, ?_, ?_⟩
  · intro functions limit
    have levels : (arena.shape root).levels = (tree.arena.shape root).levels := by
      rw [shape_root grows, shape_root grows', Shape.levels, Shape.levels, flattens.values,
        flattens.shapes.dissolveAll]
    rw [Program.ofTree_eq, Program.ofTree_eq, levels]
  · intro unnamed
    obtain ⟨⟨same, found, quiet⟩, -, -⟩ := @dissolves (· = none) unnamed
    cases again.symm.trans found
    have equal := ((shape_root_flattens grows grows' quiet).routes []).2 fun _ none => none
    rw [table]
    simpa [Shape.routesAll, Arena.shape] using equal

/-- Groups within groups, below a path, a test and a case; two of them bind one name. -/
def bazaarSpec : SpecNode :=
  let tent := SpecNode.group.withChildren
    [SpecNode.arg "cloth" "linen", (SpecNode.path "/").withChildren
      [SpecNode.arg "cloth" "wool", (SpecNode.path "tent").withChild SpecNode.returning]]
  let crowd := (SpecNode.test "\x7bstall\x7d" "^[a-m]").withChild
    (SpecNode.group.withChild ((SpecNode.path "crowd").withChild SpecNode.returning))
  let goods := (SpecNode.switch.withAttribute "value" "\x7bcloth\x7d").withChild
    ((SpecNode.case "wool").withChild (SpecNode.group.withChild SpecNode.returning))
  SpecNode.router.withChild
    ((SpecNode.path "bazaar/\x7bstall\x7d").withChildren [tent, crowd, goods])

theorem build_flat_bazaar : (SpecNode.groupsAll bazaarSpec.children).length = 4 ∧
    SpecNode.groupsAll bazaarSpec.flat.children = [] ∧
    ∃ tree other, build bazaarSpec = .ok tree ∧ build bazaarSpec.flat = .ok other ∧
      (∀ functions limit,
        Program.ofTree functions limit other = Program.ofTree functions limit tree) ∧
      other.routes = tree.routes := by
  have succeeds : (build bazaarSpec).toOption.isSome = true := by decide +kernel
  obtain ⟨tree, found⟩ := Option.isSome_iff_exists.mp succeeds
  have built := ok_of_toOption found
  have plain : ∀ child ∈ bazaarSpec.children, child.Plain := by
    repeat' first
      | exact List.forall_mem_nil _
      | refine List.forall_mem_cons.mpr ⟨?_, ?_⟩
      | refine .node (by decide) (by decide) ?_
  have unnamed : ∀ group ∈ SpecNode.groupsAll bazaarSpec.children, group.attribute? "id" = none := by
    decide +kernel
  obtain ⟨none, other, again, programs, routes⟩ := build_flat plain built
  exact ⟨by decide +kernel, none, tree, other, built, again, programs, routes unnamed⟩

end RouteTree

end Signpost
