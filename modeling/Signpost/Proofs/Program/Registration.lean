import Signpost.Proofs.Program.Conservation
import Signpost.Proofs.Tree.Contents
import Signpost.Proofs.Tree.RouteListing
import Signpost.Router

/-!
# Registered functions

A compiled router holds the functions themselves, so every name has been looked up while it was
compiled. The names of calls and filters are looked up where the code of their node is emitted, and every
node that is reached has code or hands its template to a node that has. The functions of a parameter are
looked up only where routes are turned round, so only in the patterns on the way to a node with an id.
-/
namespace Signpost

/-! ### Functions that nodes name -/

/-- The functions that a reference goes through. -/
def TemplateToken.filters : TemplateToken → List String
  | .text _ => []
  | .variable _ filters => filters

def Template.filters (source : String) : List String :=
  (Template.tokens source).flatMap TemplateToken.filters

namespace NodeKind

/-- The templates that a node states, those of its values apart. -/
def templates : NodeKind → List String
  | .switch stated => stated.toList
  | .case value | .set _ value | .arg value => [value]
  | .test _ subject => [subject]
  | .call _ arguments => arguments
  | .return attributes => attributes.entries.map (·.2)
  | .router | .block _ | .path .. | .regexPath .. | .blankPath _ | .default => []

def called : NodeKind → List String
  | .call function _ => [function]
  | _ => []

/-- The functions of the parameters of a path. -/
def encoders (kind : NodeKind) : List String :=
  kind.pattern?.toList.flatMap fun pattern => pattern.parameters.flatMap (·.functions)

end NodeKind

/-- The functions that a node calls or uses as filters, in its own templates or in those of the values
that are bound at it. -/
def NodeContent.applied (content : NodeContent) : List String :=
  content.kind.called ++ content.kind.templates.flatMap Template.filters
    ++ (content.values.map (·.2)).flatMap Template.filters

/-- All of the names are registered. -/
def FunctionRegistry.Knows (functions : FunctionRegistry) (names : List String) : Prop :=
  ∀ name ∈ names, functions.contains name = true

namespace FunctionRegistry

variable {functions : FunctionRegistry}

theorem Knows.append {first rest : List String} (knows : functions.Knows first)
    (later : functions.Knows rest) : functions.Knows (first ++ rest) :=
  List.forall_mem_append.mpr ⟨knows, later⟩

theorem Knows.none : functions.Knows [] := by
  simp [Knows]

theorem Knows.flatMap {α : Type} {inputs : List α} {named : α → List String}
    (each : ∀ input ∈ inputs, functions.Knows (named input)) :
    functions.Knows (inputs.flatMap named) := by
  intro name member
  obtain ⟨input, among, own⟩ := List.mem_flatMap.mp member
  exact each input among name own

theorem contains_of_get? {name : String} {function : RouteFunction}
    (found : functions.get? name = some function) : functions.contains name = true := by
  rw [contains, found, Option.isSome_some]

/-- A chain of functions is found only if all of them are registered. -/
theorem resolve_knows {names : List String} {chain : List RouteFunction}
    (resolved : functions.resolve names = .ok chain) : functions.Knows names := by
  intro name member
  obtain ⟨function, -, found⟩ := forall₂_origin (mapM_ok_iff.mp resolved).flip name member
  split at found
  next there => exact contains_of_get? there
  next => cases found

end FunctionRegistry

/-! ### Looking names up -/

namespace Program

open FunctionRegistry Emission

section

variable {setting : Setting} {visible : List String}

theorem compiles_knows {source : String} {template : CompiledTemplate}
    (compiled : setting.Compiles visible source template) :
    setting.functions.Knows (Template.filters source) := by
  simp only [Setting.Compiles, CompiledTemplate.compile, bind_ok_iff, pure_ok_iff,
    mapM_ok_iff] at compiled
  obtain ⟨parts, made, rfl⟩ := compiled
  apply Knows.flatMap
  intro token member
  obtain ⟨part, -, one⟩ := forall₂_origin made.flip token member
  cases token with
  | text text => exact .none
  | «variable» name filters =>
    rw [CompiledTemplate.compileToken] at one
    split at one
    next resolved => exact resolve_knows resolved
    next => cases one

theorem compiles_all_knows {sources : List String} {templates : List CompiledTemplate}
    (compiled : List.Forall₂ (setting.Compiles visible) sources templates) :
    setting.functions.Knows (sources.flatMap Template.filters) := by
  apply Knows.flatMap
  intro source member
  obtain ⟨template, -, one⟩ := forall₂_origin compiled.flip source member
  exact compiles_knows one

theorem compilesEntries_knows {entries : List (String × String)}
    {bound : List (String × CompiledTemplate)}
    (compiled : setting.CompilesEntries visible entries bound) :
    setting.functions.Knows ((entries.map (·.2)).flatMap Template.filters) := by
  apply Knows.flatMap
  intro source member
  obtain ⟨entry, among, rfl⟩ := List.mem_map.mp member
  obtain ⟨template, -, -, one⟩ := forall₂_origin compiled.flip entry among
  exact compiles_knows one

theorem compilesCall_knows {function : String} {arguments : List String} {site : CallSite}
    (compiled : setting.CompilesCall visible function arguments site) :
    setting.functions.Knows (function :: arguments.flatMap Template.filters) := by
  obtain ⟨found, each⟩ := compiled
  exact List.forall_mem_cons.mpr ⟨contains_of_get? found, compiles_all_knows each⟩

/-- The code of a body holds the values that are bound around it. -/
theorem emitBody_knows {depth : Nat} {tree : LevelTree} {code : List Instruction}
    (yields : Yields (emitBody setting depth tree) code) :
    setting.functions.Knows ((tree.content.values.map (·.2)).flatMap Template.filters) := by
  cases emitBody_yields yields with
  | @mk id content outer members issued controls literals groups arms returns _ controlled literal
      merged parameterized returned wrapped =>
    rcases wrapped with ⟨empty, -⟩ | ⟨-, bound, compiled, -⟩
    · rw [show (LevelTree.node id content outer members).content = content from rfl, empty]
      exact .none
    · exact compilesEntries_knows compiled

/-- All names of a node that has a site have been looked up for its site. -/
theorem Becomes.knows {arena : Arena} {node : LevelTree} {site : Site}
    (becomes : Becomes setting arena node site) (proper : node.content.Proper) :
    setting.functions.Knows node.content.applied := by
  have bodiless {kind : NodeKind} (same : node.kind = kind) (none : kind.isBodied = false) :
      setting.functions.Knows ((node.content.values.map (·.2)).flatMap Template.filters) := by
    have empty := proper.values (by rwa [← same] at none)
    rw [empty]
    exact .none
  rw [NodeContent.applied, show node.content.kind = node.kind from rfl]
  -- Nodes with a body have their values bound around it; on all others nothing has been bound.
  cases becomes with
  | literal kind _ _ inside | arm kind _ _ inside | default kind inside =>
    rw [kind]
    exact .append .none (emitBody_knows inside)
  | test kind _ templated inside | case kind templated inside =>
    rw [kind]
    exact .append (.flatMap (by simpa [NodeKind.templates] using compiles_knows templated))
      (emitBody_knows inside)
  | set kind templated =>
    rw [kind]
    exact .append (.flatMap (by simpa [NodeKind.templates] using compiles_knows templated))
      (bodiless kind rfl)
  | switch kind valued =>
    rw [kind]
    refine .append ?_ (bodiless kind rfl)
    cases valued with
    | stated templated =>
      exact .flatMap (by simpa [NodeKind.templates] using compiles_knows templated)
    | call | blank => exact .none
  | call kind sited =>
    rw [kind]
    refine .append ?_ (bodiless kind rfl)
    have named := compilesCall_knows sited
    rw [List.flatMap_append, ← List.cons_append] at named
    exact (List.forall_mem_append.mp named).1
  | «return» kind made =>
    rw [kind]
    refine .append ?_ (bodiless kind rfl)
    cases made with
    | mk kind' compiled =>
      cases kind.symm.trans kind'
      exact compilesEntries_knows compiled

/-- The templates of argument nodes are looked up for the call above them. -/
theorem Becomes.knows_argument {arena : Arena} {node : LevelTree} {site : Site} {child : Nat}
    {value : String} (becomes : Becomes setting arena node site) (called : node.kind.isCall = true)
    (own : child ∈ (arena.node node.id).children) (kind : (arena.node child).kind = .arg value) :
    setting.functions.Knows (Template.filters value) := by
  cases becomes with
  | call _ sited =>
    have named := compilesCall_knows sited
    rw [List.flatMap_append, ← List.cons_append] at named
    have among : value ∈ (arena.node node.id).children.filterMap fun child =>
        (arena.node child).kind.argument? :=
      List.mem_filterMap.mpr ⟨child, own, by rw [kind]; rfl⟩
    intro name member
    exact (List.forall_mem_append.mp named).2 name (List.mem_flatMap.mpr ⟨value, among, member⟩)
  | literal same | arm same | test same | switch same | case same | default same | set same
  | «return» same =>
    rw [same] at called
    cases called

end

/-! ### Reached nodes -/

section

open Arena

variable {functions : FunctionRegistry} {limit : Nat} {spec : SpecNode} {tree : RouteTree}
  {program : Program} (built : RouteTree.build spec = .ok tree)
  (compiled : ofTree functions limit tree = .ok program)
include built compiled

/-- Every node below the root that may have a site has one in the program. -/
theorem reached_becomes {id : Nat} (walk : tree.arena.Reaches root id) (below : id ≠ root)
    (sited : (tree.arena.node id).kind.isSited = true) :
    ∃ node site, node.id = id ∧ node.content = (tree.arena.node id).toNodeContent ∧
      Becomes ⟨functions, limit⟩ tree.arena node site := by
  have arranged := RouteTree.build_arranged built
  obtain ⟨mirrors, top⟩ := root_mirrors built
  have named := Arena.levels_id tree.arena root
  have emitted := ofTree_yields compiled
  have bodied : (tree.arena.subtree root).levels.kind.isBodied := by
    rw [mirrors.kind, named, arranged.root]
    rfl
  rw [← top] at emitted
  obtain ⟨nodes, -, reached, mirrored, paired⟩ := HasBody.conserves (RouteTree.build_apart built)
    arranged (RouteTree.build_spelled built) mirrors bodied (.inl emitted)
  rw [named] at reached
  obtain ⟨node, among, rfl⟩ := List.mem_map.mp ((reached id).mpr ⟨below, walk, sited⟩)
  obtain ⟨site, -, becomes⟩ := forall₂_origin paired.flip node among
  exact ⟨node, site, rfl, (mirrored node among).content, becomes⟩

/-- Calls and filters of all nodes that are reached have been looked up. -/
theorem reached_knows {id : Nat} (walk : tree.arena.Reaches root id) :
    functions.Knows (tree.arena.node id).toNodeContent.applied := by
  have linked := RouteTree.build_linked built
  have arranged := RouteTree.build_arranged built
  have proper := RouteTree.build_lasting NodeContent.proper_lasting built walk
  by_cases top : id = root
  · have own := emitBody_knows (ofTree_yields compiled)
    rw [(root_mirrors built).1.content, Arena.levels_id] at own
    rw [top, NodeContent.applied, arranged.root]
    exact .append .none own
  -- any other node is held by one that is reached as well
  obtain ⟨parent, above, held⟩ := walk.cases_tail.resolve_left fun same => top same
  have kinds := mem_childKinds held
  by_cases sited : (tree.arena.node id).kind.isSited = true
  · obtain ⟨node, site, rfl, content, becomes⟩ := reached_becomes built compiled walk top sited
    rw [← content] at proper ⊢
    exact becomes.knows proper
  · have attached := (arranged.holds parent).attached kinds
    cases kind : (tree.arena.node id).kind with
    | router => exact absurd kind attached.1
    | block name => exact absurd kind (attached.2 name)
    | blankPath route =>
      have empty := ((RouteTree.build_kept built).tidy id).group (by rw [kind]; rfl)
      rw [NodeContent.applied, kind, empty]
      exact .append .none .none
    | arg value =>
      have called := (arranged.holds parent).argument kinds (by rw [kind]; rfl)
      have solid : (tree.arena.node parent).kind.isSited = true := by
        cases same : (tree.arena.node parent).kind <;> simp_all [NodeKind.isCall, NodeKind.isSited]
      have inner : parent ≠ root := by
        rintro rfl
        rw [arranged.root] at called
        cases called
      obtain ⟨node, site, rfl, content, becomes⟩ := reached_becomes built compiled above inner solid
      have argued := becomes.knows_argument
        (by rw [LevelTree.kind, content]; exact called) held kind
      rw [NodeContent.applied, kind, proper.values (by rw [kind]; rfl)]
      exact .append (.flatMap (by simpa [NodeKind.templates] using argued)) .none
    | _ =>
      rw [kind] at sited
      exact absurd rfl sited

end

end Program

/-! ### Turning routes round -/

/-- Turning a route round looks up the functions of all its parameters. -/
theorem ReverseRoute.compile_knows {functions : FunctionRegistry} {route : Route}
    {reverse : ReverseRoute} (compiled : ReverseRoute.compile functions route = .ok reverse)
    {pattern : Pattern} (among : pattern ∈ route.patterns) (arises : pattern.Arises) :
    functions.Knows (pattern.parameters.flatMap (·.functions)) := by
  obtain ⟨segments, each, -⟩ := bind_ok_iff.mp compiled
  obtain ⟨parts, -, turned⟩ := forall₂_origin (mapM_ok_iff.mp each).flip pattern among
  apply FunctionRegistry.Knows.flatMap
  intro parameter member
  obtain ⟨index, inside, rfl⟩ := List.getElem_of_mem member
  -- every parameter has a place among the parts
  have part : .parameter index ∈ pattern.parts := by
    apply mem_of_partIndices
    rw [arises.ordered.1]
    exact List.mem_range.mpr inside
  obtain ⟨turned, -, done⟩ := forall₂_origin (mapM_ok_iff.mp turned).flip _ part
  rw [compilePart, List.getElem?_eq_getElem inside] at done
  obtain ⟨encoders, found, -⟩ := bind_ok_iff.mp done
  have known := FunctionRegistry.resolve_knows (mapError_ok_iff.mp found)
  by_cases none : pattern.parameters[index].functions.isEmpty
  · rw [List.isEmpty_iff.mp none]
    exact .none
  · rwa [if_neg none] at known

namespace RouteTree

open Arena

/-- The functions of a path above a node with an id have been looked up for the route of that node. -/
theorem identified_knows {spec : SpecNode} {tree : RouteTree} {functions : FunctionRegistry}
    {reverse : ReverseTable} (built : build spec = .ok tree)
    (compiled : ReverseTable.compile functions tree.routes = .ok reverse) {id below : Nat}
    (walk : tree.arena.Reaches root id) (further : tree.arena.Reaches id below)
    (identified : (tree.arena.node below).kind.routeId?.isSome = true) :
    functions.Knows (tree.arena.node id).kind.encoders := by
  have linked := build_linked built
  have listed := build_listed built
  obtain ⟨routes, turned, -⟩ := bind_ok_iff.mp compiled
  obtain ⟨name, carried⟩ := Option.isSome_iff_exists.mp identified
  have reached : tree.arena.Reaches root below := walk.trans further
  have made := reached.inside linked (build_steps built).size_le
  have route : ⟨name, tree.arena.patternsAbove below⟩ ∈ tree.routes.entries := by
    rw [listed.entries]
    exact List.mem_filterMap.mpr ⟨below, (listed.reached below).mpr reached, by rw [route?, carried]; rfl⟩
  obtain ⟨reversed, -, done⟩ := forall₂_origin (mapM_ok_iff.mp turned).flip _ route
  rw [NodeKind.encoders]
  apply FunctionRegistry.Knows.flatMap
  intro pattern stated
  have own : (tree.arena.node id).kind.pattern? = some pattern := Option.mem_toList.mp stated
  have above : pattern ∈ tree.arena.patternsAbove below :=
    List.mem_filterMap.mpr
      ⟨id, List.mem_reverse.mpr ((mem_lineage_iff linked made).mpr further), own⟩
  exact ReverseRoute.compile_knows done above
    ((build_lasting NodeContent.proper_lasting built walk).pattern pattern own)

end RouteTree

namespace Router

open Arena

/-- In a compiled router every function is registered that a reached node calls or uses as a filter, in
any of its templates; and every function in the chain of a parameter of its pattern is, if the node or
one below it has an id. Without an id there is no route to turn round, and the chain is never looked
up. -/
theorem compile_registered {spec : SpecNode} {options : Options} {functions : FunctionRegistry}
    {router : Router} (compiled : compile spec options functions = .ok router) :
    ∃ tree, RouteTree.build spec = .ok tree ∧ ∀ id : Nat, tree.arena.Reaches root id →
      functions.Knows (tree.arena.node id).toNodeContent.applied ∧
        ((∃ below : Nat, tree.arena.Reaches id below ∧
            (tree.arena.node below).kind.routeId?.isSome = true) →
          functions.Knows (tree.arena.node id).kind.encoders) := by
  obtain ⟨_, -, compiled⟩ := bind_ok_iff.mp compiled
  obtain ⟨tree, built, compiled⟩ := bind_ok_iff.mp compiled
  obtain ⟨program, emitted, compiled⟩ := bind_ok_iff.mp compiled
  obtain ⟨reverse, turned, -⟩ := bind_ok_iff.mp compiled
  have built := mapError_ok_iff.mp built
  refine ⟨tree, built, fun id walk => ⟨?_, ?_⟩⟩
  · exact Program.reached_knows built (mapError_ok_iff.mp emitted) walk
  · rintro ⟨below, further, identified⟩
    exact RouteTree.identified_knows built (mapError_ok_iff.mp turned) walk further identified

/-- A page of a shop in the language of the visitor; the path may have an id. -/
def shopSpec (segment : SpecNode) : SpecNode :=
  let greeting := SpecNode.returning.withAttribute "page" "{shop:uppercase}"
  SpecNode.router.withChild <| segment.withChildren
    [SpecNode.arg "host" "{host:lowercase}",
      (SpecNode.call "trim").withChild (SpecNode.arg "text" "{host:urlencode}"),
      (SpecNode.switch.withAttribute "value" "{lang:trim}").withChild
        ((SpecNode.case "de").withChild greeting)]

theorem compile_registered_shop :
    (∃ router tree,
      compile (shopSpec ((SpecNode.path "{shop:string:capitalize}").withAttribute "id" "shop")) {}
        .builtin = .ok router ∧
      RouteTree.build
        (shopSpec ((SpecNode.path "{shop:string:capitalize}").withAttribute "id" "shop"))
        = .ok tree ∧
      ∀ id : Nat, tree.arena.Reaches root id →
        FunctionRegistry.builtin.Knows (tree.arena.node id).toNodeContent.applied ∧
          ((∃ below : Nat, tree.arena.Reaches id below ∧
              (tree.arena.node below).kind.routeId?.isSome = true) →
            FunctionRegistry.builtin.Knows (tree.arena.node id).kind.encoders)) ∧
    ∃ router tree, compile (shopSpec (SpecNode.path "{shop:string:rot13}")) {} .builtin = .ok router ∧
      RouteTree.build (shopSpec (SpecNode.path "{shop:string:rot13}")) = .ok tree ∧
      tree.arena.Reaches root 1 ∧
      ¬ FunctionRegistry.builtin.Knows (tree.arena.node (1 : Nat)).kind.encoders := by
  constructor
  · have succeeds : (compile (shopSpec ((SpecNode.path "{shop:string:capitalize}").withAttribute
        "id" "shop")) {} .builtin).toOption.isSome = true := by decide +kernel
    obtain ⟨router, found⟩ := Option.isSome_iff_exists.mp succeeds
    have compiled := ok_of_toOption found
    obtain ⟨tree, built, registered⟩ := compile_registered compiled
    exact ⟨router, tree, compiled, built, registered⟩
  -- without an id nothing looks for the function
  · let spec := shopSpec (SpecNode.path "{shop:string:rot13}")
    have succeeds : (compile spec {} .builtin).toOption.isSome = true := by decide +kernel
    have reached : ((RouteTree.build spec).toOption.filter fun tree =>
        1 ∈ (tree.arena.node root).children ∧
          (tree.arena.node (1 : Nat)).kind.encoders = ["rot13"]).isSome = true := by decide +kernel
    obtain ⟨router, found⟩ := Option.isSome_iff_exists.mp succeeds
    obtain ⟨tree, found'⟩ := Option.isSome_iff_exists.mp reached
    obtain ⟨built, below⟩ := Option.filter_eq_some_iff.mp found'
    obtain ⟨own, named⟩ := of_decide_eq_true below
    refine ⟨router, tree, ok_of_toOption found, ok_of_toOption built, .single own, ?_⟩
    rw [named]
    intro knows
    have known := knows "rot13" List.mem_cons_self
    revert known
    decide +kernel

end Router

end Signpost
