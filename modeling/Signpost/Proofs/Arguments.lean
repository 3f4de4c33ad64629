import Mathlib.Data.List.Find
import Signpost.Proofs.Pattern.Groups
import Signpost.Proofs.Rendering
import Signpost.Proofs.Tree.RouteListing
import Signpost.Router

/-!
# Arguments of routes

A route that is turned round asks for its arguments part by part, segment by segment. Since the parts of
a pattern refer to its parameters in order, it asks for the required ones in the order in which it lists
them. The first of them without an argument is what building a path fails with. If all are given, every
segment is filled with what the functions of its parameters make of their arguments.
-/
namespace Signpost

/-! ### Encoding -/

/-- What the functions of the given names make of a text, one after another. -/
def FunctionRegistry.encode (functions : FunctionRegistry) (names : List String) (text : String) :
    String :=
  names.foldl (fun text name =>
    ((functions.get? name).map fun function => function.run [text]).getD text) text

theorem FunctionRegistry.applyChain_eq {functions : FunctionRegistry} {names : List String}
    {chain : List RouteFunction} (resolved : functions.resolve names = .ok chain) (text : String) :
    RouteFunction.applyChain chain text = functions.encode names text := by
  have each := mapM_ok_iff.mp resolved
  clear resolved
  induction each generalizing text with
  | nil => rfl
  | cons here _ ih =>
    split at here
    next function found =>
      cases here
      rw [RouteFunction.applyChain, List.foldl_cons, encode, List.foldl_cons, found, Option.map_some,
        Option.getD_some]
      exact ih _
    next => cases here

/-- The functions that an argument goes through, first to last. -/
def Parameter.chain (parameter : Parameter) : List String :=
  if parameter.functions.isEmpty then [ReverseRoute.defaultEncoder] else parameter.functions

/-- What the functions of a parameter make of its argument; without one there is nothing. -/
def Parameter.filled (functions : FunctionRegistry) (argument? : String → Option String)
    (parameter : Parameter) : String :=
  if Missing argument? parameter.name then ""
  else functions.encode parameter.chain ((argument? parameter.name).getD "")

def PatternPart.filled (functions : FunctionRegistry) (argument? : String → Option String)
    (parameters : List Parameter) : PatternPart → String
  | .literal text => text
  | .parameter index => (parameters[index]?.map (Parameter.filled functions argument?)).getD ""

/-- The segment of a pattern with its arguments filled in. -/
def Pattern.filled (functions : FunctionRegistry) (argument? : String → Option String)
    (pattern : Pattern) : String :=
  String.join (pattern.parts.map (PatternPart.filled functions argument? pattern.parameters))

/-! ### Turning round -/

def PatternPart.required (parameters : List Parameter) : PatternPart → List String
  | .literal _ => []
  | .parameter index =>
    (parameters[index]?.toList.filter (·.required)).map (·.name)

/-- The parts of a pattern ask for its required parameters in order. -/
theorem Pattern.Arises.required {pattern : Pattern} (arises : pattern.Arises) :
    pattern.parts.flatMap (PatternPart.required pattern.parameters)
      = pattern.required.map (·.name) := by
  have asked (parts : List PatternPart) : parts.flatMap (PatternPart.required pattern.parameters)
      = ((pattern.referred parts).filter (·.required)).map (·.name) := by
    induction parts with
    | nil => rfl
    | cons part rest ih =>
      cases part with
      | literal text => exact ih
      | parameter index =>
        rw [List.flatMap_cons, ih, PatternPart.required, Pattern.referred, Pattern.referred,
          partIndices, List.filterMap_cons]
        cases pattern.parameters[index]? with
        | none => rfl
        | some parameter =>
          rw [← List.map_append, ← List.filter_append]
          rfl
  have all : pattern.referred pattern.parts = pattern.parameters := by
    have indices := arises.ordered.1
    rw [List.range_eq_range'] at indices
    rw [referred_range indices, List.drop_zero, List.take_length]
  rw [asked, all]
  rfl

namespace ReverseRoute

variable {functions : FunctionRegistry} {argument? : String → Option String}

theorem compilePart_ok (argument? : String → Option String) {pattern : Pattern}
    {part : PatternPart} {turned : ReversePart}
    (compiled : compilePart functions pattern part = .ok turned) :
    turned.required = part.required pattern.parameters ∧
      turned.filling argument? = part.filled functions argument? pattern.parameters := by
  cases part with
  | literal text =>
    cases compiled
    exact ⟨rfl, rfl⟩
  | parameter index =>
    rw [compilePart] at compiled
    rw [PatternPart.required, PatternPart.filled]
    cases known : pattern.parameters[index]? with
    | none =>
      rw [known] at compiled
      cases compiled
      exact ⟨rfl, rfl⟩
    | some parameter =>
      rw [known] at compiled
      obtain ⟨chain, found, only⟩ := bind_ok_iff.mp compiled
      cases pure_ok_iff.mp only
      have encodes := FunctionRegistry.applyChain_eq (mapError_ok_iff.mp found)
      constructor
      · rw [ReversePart.required]
        cases required : parameter.required <;> simp [required]
      · rw [ReversePart.filling, Option.map_some, Option.getD_some, Parameter.filled]
        split
        next missing => rw [ReversePart.given?_missing missing]; rfl
        next present =>
          rw [ReversePart.given?_present present, Option.map_some, Option.getD_some, encodes]
          rfl

theorem compileParts_ok (argument? : String → Option String) {pattern : Pattern}
    {parts : List ReversePart}
    (compiled : pattern.parts.mapM (compilePart functions pattern) = .ok parts) :
    parts.flatMap ReversePart.required
        = pattern.parts.flatMap (PatternPart.required pattern.parameters) ∧
      String.join (parts.map (ReversePart.filling argument?)) = pattern.filled functions argument? := by
  constructor
  · rw [List.flatMap_def, List.flatMap_def,
      mapM_ok_map compiled fun _ _ _ turned => (compilePart_ok argument? turned).1]
  · rw [Pattern.filled, mapM_ok_map compiled fun _ _ _ turned => (compilePart_ok argument? turned).2]

variable {route : Route} {reverse : ReverseRoute}

/-- The segments of a route that is turned round are filled as its patterns are. -/
theorem compile_fillings (compiled : compile functions route = .ok reverse) :
    reverse.fillings argument? = route.patterns.map (Pattern.filled functions argument?) := by
  obtain ⟨segments, each, only⟩ := bind_ok_iff.mp compiled
  cases pure_ok_iff.mp only
  exact mapM_ok_map each fun _ _ _ turned => (compileParts_ok argument? turned).2

/-- It asks for its required arguments in the order in which it lists them. -/
theorem compile_required (compiled : compile functions route = .ok reverse)
    (arise : ∀ pattern ∈ route.patterns, pattern.Arises) : reverse.required = reverse.parameters := by
  obtain ⟨segments, each, only⟩ := bind_ok_iff.mp compiled
  cases pure_ok_iff.mp only
  rw [required, List.flatMap_def, mapM_ok_map each fun pattern member _ turned =>
    (compileParts_ok (fun _ => none) turned).1.trans (arise pattern member).required]
  rfl

/-- A route that is turned round asks for what it lists, and then gives the path of its patterns. -/
theorem compile_render (compiled : compile functions route = .ok reverse)
    (arise : ∀ pattern ∈ route.patterns, pattern.Arises) (argument? : String → Option String) :
    reverse.render argument? = demand argument? reverse.parameters
      (Text.pathOf ((route.patterns.map (Pattern.filled functions argument?)).filter
        fun text => !text.isEmpty)) := by
  rw [render_eq, compile_required compiled arise, compile_fillings compiled]

theorem compile_parameters (compiled : compile functions route = .ok reverse) :
    reverse.parameters = route.patterns.flatMap fun pattern => pattern.required.map (·.name) := by
  obtain ⟨segments, -, only⟩ := bind_ok_iff.mp compiled
  cases pure_ok_iff.mp only
  rfl

theorem mem_parameters_iff (compiled : compile functions route = .ok reverse) (name : String) :
    name ∈ reverse.parameters ↔ ∃ pattern ∈ route.patterns, ∃ parameter ∈ pattern.parameters,
      parameter.required = true ∧ parameter.name = name := by
  rw [compile_parameters compiled]
  simp [Pattern.required, and_assoc]

/-! ### Arguments -/

/-- Arguments under other names than those of the parameters do not matter. -/
theorem filled_congr {pattern : Pattern} {first other : String → Option String}
    (same : ∀ parameter ∈ pattern.parameters, other parameter.name = first parameter.name) :
    pattern.filled functions other = pattern.filled functions first := by
  rw [Pattern.filled, Pattern.filled]
  refine congrArg String.join (List.map_congr_left fun part _ => ?_)
  cases part with
  | literal text => rfl
  | parameter index =>
    rw [PatternPart.filled, PatternPart.filled]
    cases known : pattern.parameters[index]? with
    | none => rfl
    | some parameter =>
      have own := same parameter (List.mem_of_getElem? known)
      rw [Option.map_some, Option.map_some, Parameter.filled, Parameter.filled, own]
      simp only [missing_congr own]

/-- Building a path fails exactly if a required parameter has no argument or an empty one, and names the
first of them in the order in which the route lists them. Otherwise it gives the path of the segments
that do not come out empty, filled with what the functions make of the arguments. Arguments under other
names than those of the parameters do not matter. -/
theorem build_missing (compiled : compile functions route = .ok reverse)
    (arise : ∀ pattern ∈ route.patterns, pattern.Arises) (arguments : Attributes) :
    ((∃ problem, reverse.build arguments = .error problem) ↔
      ∃ pattern ∈ route.patterns, ∃ parameter ∈ pattern.parameters,
        parameter.required = true ∧ Missing arguments.get? parameter.name) ∧
    reverse.build arguments =
      (match reverse.parameters.find? fun name => Missing arguments.get? name with
        | some name => .error (.missingArgument name)
        | none => .ok (Text.pathOf ((route.patterns.map
            (Pattern.filled functions arguments.get?)).filter fun text => !text.isEmpty))) ∧
    ∀ others : Attributes,
      (∀ pattern ∈ route.patterns, ∀ parameter ∈ pattern.parameters,
        others.get? parameter.name = arguments.get? parameter.name) →
      reverse.build others = reverse.build arguments := by
  have built (given : Attributes) : reverse.build given = _ :=
    compile_render compiled arise given.get?
  refine ⟨?_, built arguments, fun others same => ?_⟩
  · rw [built, demand_fails_iff]
    simp only [mem_parameters_iff compiled]
    constructor
    · rintro ⟨name, ⟨pattern, among, parameter, own, required, rfl⟩, missing⟩
      exact ⟨pattern, among, parameter, own, required, missing⟩
    · rintro ⟨pattern, among, parameter, own, required, missing⟩
      exact ⟨parameter.name, ⟨pattern, among, parameter, own, required, rfl⟩, missing⟩
  · have filled : route.patterns.map (Pattern.filled functions others.get?)
        = route.patterns.map (Pattern.filled functions arguments.get?) :=
      List.map_congr_left fun pattern among => filled_congr (same pattern among)
    have asked : (reverse.parameters.find? fun name => Missing others.get? name)
        = reverse.parameters.find? fun name => Missing arguments.get? name := by
      refine List.find?_congr fun name member => ?_
      obtain ⟨pattern, among, parameter, own, -, rfl⟩ := (mem_parameters_iff compiled name).mp member
      simp only [missing_congr (same pattern among parameter own)]
    rw [built, built, demand, demand, asked, filled]

/-- Orders of a customer: a page may be chosen, the number is asked for twice. -/
def orderRoute : Route where
  id := "order"
  patterns := [
    ⟨"orders", [.literal "orders"], []⟩,
    ⟨"[page:int]", [.parameter 0], [{ name := "page", valueType := .int, required := false }]⟩,
    ⟨"\x7bcustomer:trim:uppercase\x7d-\x7bnumber\x7d", [.parameter 0, .literal "-", .parameter 1],
      [{ name := "customer", functions := ["trim", "uppercase"], required := true },
        { name := "number", required := true }]⟩,
    ⟨"\x7bnumber\x7d", [.parameter 0], [{ name := "number", required := true }]⟩]

theorem build_missing_order :
    (∀ pattern ∈ orderRoute.patterns, Pattern.read pattern.source = .ok pattern) ∧
    ∃ reverse, compile .builtin orderRoute = .ok reverse ∧
      reverse.parameters = ["customer", "number", "number"] ∧
      reverse.build (.ofList [("customer", " ann "), ("number", ""), ("page", "2")])
        = .error (.missingArgument "number") ∧
      reverse.build (.ofList [("customer", " ann "), ("number", "a/b"), ("page", "")])
        = .ok "/orders/ANN-a%2Fb/a%2Fb" ∧
      reverse.build (.ofList
          [("customer", " ann "), ("number", "a/b"), ("page", ""), ("sort", "size")])
        = .ok "/orders/ANN-a%2Fb/a%2Fb" := by
  have taken : ∀ pattern ∈ orderRoute.patterns,
      (Pattern.read pattern.source).toOption = some pattern := by decide +kernel
  have succeeds : (compile .builtin orderRoute).toOption.isSome = true := by decide +kernel
  obtain ⟨reverse, found⟩ := Option.isSome_iff_exists.mp succeeds
  have compiled := ok_of_toOption found
  have listed : reverse.parameters = ["customer", "number", "number"] :=
    compile_parameters compiled
  have accepted : ∀ pattern ∈ orderRoute.patterns, Pattern.read pattern.source = .ok pattern :=
    fun pattern member => ok_of_toOption (taken pattern member)
  have decided := build_missing compiled fun pattern member => .read (accepted pattern member)
  have built : reverse.build (.ofList [("customer", " ann "), ("number", "a/b"), ("page", "")])
      = .ok "/orders/ANN-a%2Fb/a%2Fb" := by
    have none : (["customer", "number", "number"].find? fun name => Missing (Attributes.ofList
        [("customer", " ann "), ("number", "a/b"), ("page", "")]).get? name) = none := by decide
    rw [(decided _).2.1, listed, none]
    decide +kernel
  refine ⟨accepted, reverse, compiled, listed, ?_, built, ?_⟩
  · rw [(decided _).2.1, listed]
    rfl
  -- no parameter is called like the additional argument
  · exact ((decided _).2.2 _ (by decide +kernel)).trans built

end ReverseRoute

/-- A compiled router turns round the routes of its table, whose patterns have been read. -/
theorem Router.compile_reverse {spec : SpecNode} {options : Options} {functions : FunctionRegistry}
    {router : Router} (compiled : compile spec options functions = .ok router)
    {reverse : ReverseRoute} (member : reverse ∈ router.reverse.routes) :
    ∃ route ∈ router.routes.entries, ReverseRoute.compile functions route = .ok reverse ∧
      ∀ pattern ∈ route.patterns, pattern.Arises := by
  obtain ⟨_, -, compiled⟩ := bind_ok_iff.mp compiled
  obtain ⟨tree, built, compiled⟩ := bind_ok_iff.mp compiled
  obtain ⟨program, -, compiled⟩ := bind_ok_iff.mp compiled
  obtain ⟨table, turned, only⟩ := bind_ok_iff.mp compiled
  cases pure_ok_iff.mp only
  obtain ⟨routes, each, same⟩ := bind_ok_iff.mp (mapError_ok_iff.mp turned)
  cases pure_ok_iff.mp same
  obtain ⟨route, among, done⟩ := forall₂_origin (mapM_ok_iff.mp each) reverse member
  exact ⟨route, among, done, RouteTree.build_arise (mapError_ok_iff.mp built) route among⟩

end Signpost
