import Signpost.Proofs.Program.Interchange
import Signpost.Proofs.Program.Shapes
import Signpost.Proofs.Tree.Order
import Signpost.Proofs.Tree.Resemblance
import Signpost.Router

/-!
# Literal routes commute

Routes that begin with a literal segment do not get into each other's way, since no two of them on one
level have the same literal. So their places among the children of an element do not matter: a document
in which some of them have been moved compiles to a router that answers, counts, calls and builds paths
like the router before.
-/
namespace Signpost

/-! ### Levels of shifted shapes -/

namespace Shape

mutual

/-- The literals of a level are those of the trees on it. -/
theorem dissolve_literals (outer : List String) : (shape : Shape) →
    (shape.dissolve outer).filterMap (·.kind.literal?) = shape.literals
  | .node content children => by
    rw [dissolve, literals]
    split
    · exact dissolveAll_literals _ children
    · cases literal : content.kind.literal? <;> simp [LevelTree.kind, LevelTree.content, literal]

theorem dissolveAll_literals (outer : List String) : (shapes : List Shape) →
    (dissolveAll outer shapes).filterMap (·.kind.literal?) = literalsAll shapes
  | [] => rfl
  | shape :: rest => by
    rw [dissolveAll, literalsAll, List.filterMap_append, dissolve_literals outer shape,
      dissolveAll_literals outer rest]

end

theorem dissolveAll_eq (outer : List String) (shapes : List Shape) :
    dissolveAll outer shapes = shapes.flatMap (dissolve outer) := by
  induction shapes with
  | nil => rfl
  | cons shape rest ih => rw [dissolveAll, ih, List.flatMap_cons]

theorem literalsAll_of_kinds {shapes : List Shape}
    (kinds : ∀ kind ∈ shapes.map Shape.kind, kind.isBlank = false ∧ kind.literal? = none) :
    literalsAll shapes = [] := by
  induction shapes with
  | nil => rfl
  | cons shape rest ih =>
    obtain ⟨content, children⟩ := shape
    rw [List.map_cons, List.forall_mem_cons] at kinds
    obtain ⟨⟨blank, literal⟩, later⟩ := kinds
    rw [Shape.kind] at blank literal
    rw [literalsAll, literals, ih later, blank, literal]
    rfl

/-- There are no literals below a switch. -/
theorem Orderly.switch_literals {content : NodeContent} {children : List Shape}
    (orderly : (Shape.node content children).Orderly) {stated : Option String}
    (kind : content.kind = .switch stated) : literalsAll children = [] := by
  cases orderly with
  | node holds =>
    rw [kind] at holds
    apply literalsAll_of_kinds
    generalize children.map Shape.kind = kinds at holds
    have textless (kind : NodeKind) (case : kind.isCase = true) :
        kind.isBlank = false ∧ kind.literal? = none := by
      cases kind <;> first | exact ⟨rfl, rfl⟩ | cases case
    cases holds with
    | stated all => exact fun kind member => textless kind (all kind member)
    | called all =>
      exact List.forall_mem_cons.mpr ⟨⟨rfl, rfl⟩, fun kind member => textless kind (all kind member)⟩

end Shape

namespace Program

/-- Members of two levels can be put side by side. -/
def SideBySide (setting : Setting) (members others : List LevelTree) : Prop :=
  ∃ pairs pairs' : List (LevelTree × LevelTree), pairs.map Prod.fst = members ∧
    pairs'.map Prod.snd = others ∧
    (∀ pair ∈ pairs, Interchangeable setting pair.1 pair.2) ∧
    Moved (fun pair => pair.1.kind.literal?.isSome) pairs pairs'

namespace SideBySide

variable {setting : Setting} {members others : List LevelTree}

theorem of_moved (moved : Moved (fun member => member.kind.literal?.isSome) members others) :
    SideBySide setting members others := by
  let double (member : LevelTree) : LevelTree × LevelTree := (member, member)
  refine ⟨members.map double, others.map double, ?_, ?_, ?_, moved.map fun _ => rfl⟩
  · simp [double, List.map_map, Function.comp_def]
  · simp [double, List.map_map, Function.comp_def]
  · intro pair among
    obtain ⟨member, -, rfl⟩ := List.mem_map.mp among
    exact .refl setting member

theorem single {tree other : LevelTree} (same : Interchangeable setting tree other) :
    SideBySide setting [tree] [other] :=
  ⟨[(tree, other)], [(tree, other)], rfl, rfl, by simpa using same, .refl _ _⟩

theorem append {first first' rest rest' : List LevelTree} (early : SideBySide setting first first')
    (late : SideBySide setting rest rest') :
    SideBySide setting (first ++ rest) (first' ++ rest') := by
  obtain ⟨pairs, pairs', rfl, rfl, each, moved⟩ := early
  obtain ⟨more, more', rfl, rfl, each', moved'⟩ := late
  refine ⟨pairs ++ more, pairs' ++ more', by simp, by simp, ?_, moved.append moved'⟩
  exact List.forall_mem_append.mpr ⟨each, each'⟩

theorem refl (members : List LevelTree) : SideBySide setting members members :=
  of_moved (.refl _ members)

/-- Where no literal occurs twice, and none below a switch, nodes with such members are
interchangeable. -/
theorem node {content : NodeContent} {outer : List String} (id : NodeId)
    (side : SideBySide setting members others)
    (distinct : (members.filterMap (·.kind.literal?)).Nodup)
    (settled : ∀ stated, content.kind = .switch stated → members.filterMap (·.kind.literal?) = []) :
    Interchangeable setting (.node id content outer members) (.node id content outer others) := by
  obtain ⟨pairs, pairs', rfl, rfl, each, moved⟩ := side
  rw [List.filterMap_map] at distinct
  have rearranged : Rearranged setting pairs pairs' :=
    ⟨each, moved, fun literal => find?_perm moved.perm distinct literal⟩
  apply rearranged.node
  intro stated kind
  apply moved.eq_of_still
  intro pair among
  have textless := settled stated kind
  rw [List.filterMap_map, List.filterMap_eq_nil_iff] at textless
  simpa using textless pair among

end SideBySide

/-- Levels of shapes of which some with literals have been moved can be put side by side. -/
theorem shifted_sideBySide (setting : Setting) {shapes others : List Shape}
    (shifted : Shape.Shifted shapes others) (distinct : ∀ shape ∈ shapes, shape.Distinct)
    (orderly : ∀ shape ∈ shapes, shape.Orderly) (outer : List String) :
    SideBySide setting (Shape.dissolveAll outer shapes) (Shape.dissolveAll outer others) := by
  induction shifted generalizing outer with
  | here moved =>
    rw [Shape.dissolveAll_eq, Shape.dissolveAll_eq]
    apply SideBySide.of_moved
    apply moved.flatMap
    intro shape literal member among
    obtain ⟨content, children⟩ := shape
    -- only nodes with a literal have been moved, and a blank path has none
    have solid : content.kind.isBlank = false := by
      cases kind : content.kind with
      | blankPath id => simp [Shape.kind, kind, NodeKind.literal?] at literal
      | _ => rfl
    rw [Shape.dissolve, solid] at among
    rw [List.mem_singleton.mp among]
    exact literal
  | @deeper content children others front back _ ih =>
    have here : Shape.node content children ∈ front ++ Shape.node content children :: back := by simp
    have own := distinct _ here
    have ordered := orderly _ here
    -- below a solid node its own level has been rearranged; a blank path hands the level of its
    -- children on
    have inside : SideBySide setting (Shape.dissolve outer (.node content children))
        (Shape.dissolve outer (.node content others)) := by
      cases own with
      | node below apart =>
        have within := ih below (by cases ordered with | node _ below => exact below)
          (outer ++ content.localVars)
        rw [Shape.dissolve, Shape.dissolve]
        split
        · exact within
        next solid =>
          apply SideBySide.single
          apply within.node
          · rw [Shape.dissolveAll_literals]
            exact apart (by simpa using solid)
          · intro stated kind
            rw [Shape.dissolveAll_literals, ordered.switch_literals kind]
    rw [Shape.dissolveAll_append, Shape.dissolveAll_append, Shape.dissolveAll, Shape.dissolveAll]
    exact (SideBySide.refl _).append (inside.append (.refl _))

end Program

/-! ### Routers -/

namespace RouteTree

open Arena

/-- The trees of documents that differ in the places of literal paths. -/
theorem build_shifted {spec other : SpecNode} {tree another : RouteTree}
    (shifted : spec.Shifted other) (plain : ∀ child ∈ spec.children, child.Plain)
    (built : build spec = .ok tree) (built' : build other = .ok another) :
    ∃ content shapes shapes', tree.arena.shape root = .node content shapes ∧
      another.arena.shape root = .node content shapes' ∧ Shape.Shifted shapes shapes' ∧
      content.kind = .router ∧ (Shape.node content shapes).Distinct ∧
      ∀ shape ∈ shapes, shape.Orderly := by
  obtain ⟨-, body, -⟩ := build_ok_iff.mp built
  obtain ⟨-, body', -⟩ := build_ok_iff.mp built'
  obtain ⟨yield, read, grows⟩ := buildChildren_grows start_site Keeps.none _ body
  obtain ⟨yield', read', grows'⟩ := buildChildren_grows start_site Keeps.none _ body'
  have same := children_shifted shifted plain [] false yield yield' read read'
  have orderly := elaborateAll_orderly (List.forall_mem_nil _) spec.children read
  refine ⟨_, yield.shapes, yield'.shapes, shape_root grows, ?_, same.shapes, by simp, ?_, ?_⟩
  · rw [shape_root grows', same.values]
  · exact .node grows.fits.distinct fun _ => grows.fits.apart
  · exact fun shape member => (orderly shape member).1

end RouteTree

namespace Program

open Machine

/-- No run tells the programs of such documents apart. -/
theorem execute_shifted {spec other : SpecNode} {tree another : RouteTree}
    {functions : FunctionRegistry} {limit : Nat} {program program' : Program}
    (shifted : spec.Shifted other) (plain : ∀ child ∈ spec.children, child.Plain)
    (built : RouteTree.build spec = .ok tree) (built' : RouteTree.build other = .ok another)
    (compiled : ofTree functions limit tree = .ok program)
    (compiled' : ofTree functions limit another = .ok program') (request : Request) :
    program.execute request = program'.execute request := by
  obtain ⟨content, shapes, shapes', here, there, same, router, distinct, orderly⟩ :=
    RouteTree.build_shifted shifted plain built built'
  rw [ofTree_eq, here] at compiled
  rw [ofTree_eq, there] at compiled'
  cases distinct with
  | node below apart =>
    have side := shifted_sideBySide ⟨functions, limit⟩ same below orderly content.localVars
    have whole : Interchangeable ⟨functions, limit⟩ (Shape.node content shapes).levels
        (Shape.node content shapes').levels := by
      apply side.node
      · rw [Shape.dissolveAll_literals]
        exact apart (by rw [router]; rfl)
      · intro stated kind
        cases router.symm.trans kind
    simp only [ofLevels, bind_ok_iff, pure_ok_iff] at compiled compiled'
    obtain ⟨⟨entry, counters⟩, emitted, rfl⟩ := compiled
    obtain ⟨⟨entry', counters'⟩, emitted', rfl⟩ := compiled'
    have alike := whole.body 0 entry entry' ⟨_, _, emitted⟩ ⟨_, _, emitted'⟩
    rw [execute, execute, alike]

end Program

theorem ReverseTable.compile_ids {functions : FunctionRegistry} {table : RouteTable}
    {reverse : ReverseTable} (compiled : compile functions table = .ok reverse) :
    reverse.routes.map (·.id) = table.entries.map (·.id) := by
  obtain ⟨routes, turned, equal⟩ := bind_ok_iff.mp compiled
  cases equal
  have each := mapM_ok_iff.mp turned
  clear turned compiled
  generalize table.entries = entries at each
  induction each with
  | nil => rfl
  | cons here _ ih =>
    obtain ⟨segments, -, equal⟩ := bind_ok_iff.mp here
    cases equal
    rw [List.map_cons, List.map_cons, ih]

/-- Tables of the same routes in another order find the same route for an id. -/
theorem ReverseTable.get_perm {functions : FunctionRegistry} {table table' : RouteTable}
    {reverse reverse' : ReverseTable} (compiled : compile functions table = .ok reverse)
    (compiled' : compile functions table' = .ok reverse')
    (distinct : (table.entries.map (·.id)).Nodup) (perm : table'.entries.Perm table.entries)
    (id : String) : reverse'.get id = reverse.get id := by
  obtain ⟨routes, turned, equal⟩ := bind_ok_iff.mp compiled
  obtain ⟨routes', turned', equal'⟩ := bind_ok_iff.mp compiled'
  cases equal
  cases equal'
  have each := mapM_ok_iff.mp turned
  have unique : Relator.RightUnique fun route reverse =>
      ReverseRoute.compile functions route = .ok reverse := by
    intro route one other made made'
    exact Except.ok.inj (made.symm.trans made')
  -- the routes of the other table are made from the same routes in another order
  obtain ⟨middle, made, reordered⟩ := List.perm_comp_forall₂ perm each
  cases unique.forall₂ made (mapM_ok_iff.mp turned')
  have keyed : (routes.filterMap fun route => some route.id).Nodup := by
    rw [List.filterMap_eq_map', compile_ids compiled]
    exact distinct
  have found := find?_perm reordered keyed id
  simp only [Option.some_beq_some] at found
  rw [get, get, found]

namespace Router

open Arena

/-- Literal routes commute. If two documents without blocks and references only differ in that literal
paths among the children of one element have been moved to other positions, and both compile, then
every request has the same outcome on both routers, with the same moves of the cursor and the same
calls, and every id with the same arguments has the same path. -/
theorem literals_commute {spec other : SpecNode} {options : Options} {functions : FunctionRegistry}
    {router another : Router} (shifted : spec.Shifted other)
    (plain : ∀ child ∈ spec.children, child.Plain)
    (compiled : compile spec options functions = .ok router)
    (compiled' : compile other options functions = .ok another) :
    (∀ request, router.program.execute request = another.program.execute request) ∧
      (∀ attributes, router.route attributes = another.route attributes) ∧
      ∀ id arguments, router.buildPath id arguments = another.buildPath id arguments := by
  obtain ⟨_, -, compiled⟩ := bind_ok_iff.mp compiled
  obtain ⟨tree, built, compiled⟩ := bind_ok_iff.mp compiled
  obtain ⟨program, emitted, compiled⟩ := bind_ok_iff.mp compiled
  obtain ⟨reverse, turned, equal⟩ := bind_ok_iff.mp compiled
  cases equal
  obtain ⟨_, -, compiled'⟩ := bind_ok_iff.mp compiled'
  obtain ⟨tree', built', compiled'⟩ := bind_ok_iff.mp compiled'
  obtain ⟨program', emitted', compiled'⟩ := bind_ok_iff.mp compiled'
  obtain ⟨reverse', turned', equal'⟩ := bind_ok_iff.mp compiled'
  cases equal'
  have built := mapError_ok_iff.mp built
  have built' := mapError_ok_iff.mp built'
  have runs := Program.execute_shifted shifted plain built built' (mapError_ok_iff.mp emitted)
    (mapError_ok_iff.mp emitted')
  refine ⟨runs, fun attributes => runs _, fun id arguments => ?_⟩
  -- the routes have been listed in another order, and no id has been listed twice
  obtain ⟨-, -, collected⟩ := RouteTree.build_ok_iff.mp built
  obtain ⟨-, -, collected'⟩ := RouteTree.build_ok_iff.mp built'
  obtain ⟨distinct, table⟩ := RouteTable.collect_ok_iff.mp collected
  obtain ⟨-, table'⟩ := RouteTable.collect_ok_iff.mp collected'
  have perm : tree'.routes.entries.Perm tree.routes.entries := by
    obtain ⟨content, shapes, shapes', here, there, same, -⟩ :=
      RouteTree.build_shifted shifted plain built built'
    rw [Arena.shape] at here there
    rw [table, table', here, there, Shape.routes, Shape.routes]
    exact (same.routes _).append_left _
  have ids : (tree.routes.entries.map (·.id)).Nodup := by
    rw [table]
    exact distinct
  have got := ReverseTable.get_perm (mapError_ok_iff.mp turned) (mapError_ok_iff.mp turned') ids perm
    id
  rw [buildPath, buildPath, ReverseTable.build, ReverseTable.build, got]

/-- The berths of a quay are found by their numbers, and every visit is logged. -/
def berthsSpec : List SpecNode :=
  let page := SpecNode.returning.withAttribute "page" "{quay}/{berth}"
  [SpecNode.arg "flag" "{quay:lowercase}",
    (SpecNode.call "trim").withChild (SpecNode.arg "text" "{quay}"),
    ((SpecNode.path "{berth:int}").withAttribute "id" "berth").withChild page]

def officeSpec : SpecNode :=
  ((SpecNode.path "office").withAttribute "id" "office").withChild
    (SpecNode.returning.withAttribute "page" "{flag}")

def cranesSpec : SpecNode := (SpecNode.path "cranes/{crane}").withAttribute "id" "crane"

/-- A quay of a harbour, with elements in front of its berths and behind them. -/
def harbourSpec (front back : List SpecNode) : SpecNode :=
  SpecNode.router.withChild
    ((SpecNode.path "quay/{quay}").withChildren (front ++ berthsSpec ++ back))

theorem literals_commute_harbour : ∃ router another,
    compile (harbourSpec [officeSpec, cranesSpec] []) {} .builtin = .ok router ∧
    compile (harbourSpec [cranesSpec] [officeSpec]) {} .builtin = .ok another ∧
    router.routes.entries.map (·.id) = ["office", "crane", "berth"] ∧
    another.routes.entries.map (·.id) = ["crane", "berth", "office"] ∧
    (∀ request, router.program.execute request = another.program.execute request) ∧
      (∀ attributes, router.route attributes = another.route attributes) ∧
      ∀ id arguments, router.buildPath id arguments = another.buildPath id arguments := by
  have succeeds : ((compile (harbourSpec [officeSpec, cranesSpec] []) {} .builtin).toOption.filter
      fun router => router.routes.entries.map (·.id) = ["office", "crane", "berth"]).isSome = true := by
    decide +kernel
  have succeeds' : ((compile (harbourSpec [cranesSpec] [officeSpec]) {} .builtin).toOption.filter
      fun router => router.routes.entries.map (·.id) = ["crane", "berth", "office"]).isSome = true := by
    decide +kernel
  obtain ⟨router, found⟩ := Option.isSome_iff_exists.mp succeeds
  obtain ⟨another, found'⟩ := Option.isSome_iff_exists.mp succeeds'
  obtain ⟨compiled, ids⟩ := Option.filter_eq_some_iff.mp found
  obtain ⟨compiled', ids'⟩ := Option.filter_eq_some_iff.mp found'
  have compiled := ok_of_toOption compiled
  have compiled' := ok_of_toOption compiled'
  have office : officeSpec.isLiteralPath = true := by decide +kernel
  have cranes : cranesSpec.isLiteralPath = true := by decide +kernel
  have stays : ∀ spec ∈ berthsSpec, spec.isLiteralPath = false := by decide +kernel
  have moved : Moved SpecNode.isLiteralPath ([officeSpec, cranesSpec] ++ berthsSpec ++ [])
      ([cranesSpec] ++ berthsSpec ++ [officeSpec]) := by
    have none : berthsSpec.filter SpecNode.isLiteralPath = [] :=
      List.filter_eq_nil_iff.mpr (by simpa using stays)
    constructor
    · simp [office, cranes]
    · simpa [List.filter_cons, office, cranes, none] using List.Perm.swap officeSpec cranesSpec []
  have shifted : (harbourSpec [officeSpec, cranesSpec] []).Shifted
      (harbourSpec [cranesSpec] [officeSpec]) := .deeper [] [] (.here moved)
  have plain : ∀ child ∈ (harbourSpec [officeSpec, cranesSpec] []).children, child.Plain := by
    repeat' first
      | exact List.forall_mem_nil _
      | refine List.forall_mem_cons.mpr ⟨?_, ?_⟩
      | refine .node (by decide) (by decide) ?_
  exact ⟨router, another, compiled, compiled', of_decide_eq_true ids, of_decide_eq_true ids',
    literals_commute shifted plain compiled compiled'⟩

end Router

end Signpost
