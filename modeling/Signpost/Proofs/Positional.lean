import Signpost.Proofs.Arguments

/-!
# Arguments in order

Arguments may be given in the order of the required parameters. They are found by name again, at the
first place that the name has in that order. Names are unique within a segment only, so a name that two
segments have finds the same argument for both, and an optional parameter finds one if a required
parameter of another segment is called like it. Where no name is repeated every required parameter takes
its own argument.
-/
namespace Signpost

/-! ### Taking values in turn -/

/-- Takes values off the front of a list for one element after another. -/
def inTurn {α β : Type} (place : List String → α → β × List String) :
    List String → List α → List β × List String
  | values, [] => ([], values)
  | values, first :: rest =>
    let (here, left) := place values first
    let (later, left) := inTurn place left rest
    (here :: later, left)

/-- Elements that take their own values from the front leave all that stands behind. -/
theorem inTurn_eq {α β : Type} {place : List String → α → β × List String} {inputs : List α}
    {own : α → List String} {value : α → β}
    (step : ∀ input ∈ inputs, ∀ left, place (own input ++ left) input = (value input, left))
    (left : List String) :
    inTurn place (inputs.flatMap own ++ left) inputs = (inputs.map value, left) := by
  induction inputs with
  | nil => rfl
  | cons input rest ih =>
    obtain ⟨here, others⟩ := List.forall_mem_cons.mp step
    -- what the first one leaves begins with what the others take
    rw [List.flatMap_cons, List.append_assoc, inTurn, here]
    dsimp only
    rw [ih others]
    rfl

section

variable (functions : FunctionRegistry) (optional : Parameter → String)

/-- A required placeholder takes the first of the values, through its functions; what an optional one
leaves is given. -/
def PatternPart.place (parameters : List Parameter) (values : List String) :
    PatternPart → String × List String
  | .literal text => (text, values)
  | .parameter index =>
    match parameters[index]? with
    | none => ("", values)
    | some own =>
      if own.required then (functions.encode own.chain (values.headD ""), values.tail)
      else (optional own, values)

/-- The text of a segment whose required placeholders take values in turn. -/
def Pattern.place (values : List String) (pattern : Pattern) : String × List String :=
  let (texts, left) := inTurn (PatternPart.place functions optional pattern.parameters) values
    pattern.parts
  (String.join texts, left)

/-- The segments of a route whose required placeholders take values in turn, one each in the order of the
path, and the values that are left. -/
def Route.place (route : Route) (values : List String) : List String × List String :=
  inTurn (Pattern.place functions optional) values route.patterns

/-- A path of a route whose required placeholders take the values in turn, and leave none. -/
def Route.Spells (route : Route) (values : List String) (path : String) : Prop :=
  ∃ segments, route.place functions optional values = (segments, []) ∧
    Text.pathOf (segments.filter fun text => !text.isEmpty) = path

end

section

variable {functions : FunctionRegistry} {optional : Parameter → String}
  {argument? : String → Option String}

/-- What is filled in under a name is what a placeholder takes that has it in its turn. -/
theorem PatternPart.place_filled {parameters : List Parameter}
    (present : ∀ parameter ∈ parameters, parameter.required = true →
      ¬ Missing argument? parameter.name)
    (left_out : ∀ parameter ∈ parameters, parameter.required = false →
      parameter.filled functions argument? = optional parameter)
    (part : PatternPart) (left : List String) :
    part.place functions optional parameters
        ((part.required parameters).map (fun name => (argument? name).getD "") ++ left)
      = (part.filled functions argument? parameters, left) := by
  cases part with
  | literal text => rfl
  | parameter index =>
    rw [PatternPart.place, PatternPart.required, PatternPart.filled]
    cases known : parameters[index]? with
    | none => rfl
    | some own =>
      have member := List.mem_of_getElem? known
      cases required : own.required with
      | true =>
        have given := present own member required
        simp [required, Parameter.filled, given]
      | false =>
        have ungiven := left_out own member required
        simp [required, ungiven]

theorem Pattern.place_filled {pattern : Pattern} (arises : pattern.Arises)
    (present : ∀ parameter ∈ pattern.parameters, parameter.required = true →
      ¬ Missing argument? parameter.name)
    (left_out : ∀ parameter ∈ pattern.parameters, parameter.required = false →
      parameter.filled functions argument? = optional parameter) (left : List String) :
    pattern.place functions optional
        ((pattern.required.map (·.name)).map (fun name => (argument? name).getD "") ++ left)
      = (pattern.filled functions argument?, left) := by
  rw [Pattern.place, ← arises.required, List.map_flatMap,
    inTurn_eq fun part _ => part.place_filled present left_out]
  rfl

/-- The segments of a route are filled if each of its patterns takes its own values in turn. -/
theorem Route.place_filled {route : Route} (arise : ∀ pattern ∈ route.patterns, pattern.Arises)
    (present : ∀ pattern ∈ route.patterns, ∀ parameter ∈ pattern.parameters,
      parameter.required = true → ¬ Missing argument? parameter.name)
    (left_out : ∀ pattern ∈ route.patterns, ∀ parameter ∈ pattern.parameters,
      parameter.required = false → parameter.filled functions argument? = optional parameter) :
    route.place functions optional
        ((route.patterns.flatMap fun pattern => pattern.required.map (·.name)).map
          fun name => (argument? name).getD "")
      = (route.patterns.map (Pattern.filled functions argument?), []) := by
  rw [Route.place, List.map_flatMap, ← List.append_nil (List.flatMap _ _)]
  exact inTurn_eq (fun pattern among =>
    Pattern.place_filled (arise pattern among) (present pattern among) (left_out pattern among)) []

end

/-! ### Positions -/

namespace ReverseRoute

/-- The argument that a name finds: that of the first required parameter which is called like it. -/
def positional (route : ReverseRoute) (arguments : List String) (name : String) : Option String :=
  (route.parameters.idxOf? name).bind fun index => arguments[index]?

/-- What the required parameters find, in their order. -/
def found (route : ReverseRoute) (arguments : List String) : List String :=
  route.parameters.map fun name => (route.positional arguments name).getD ""

variable {reverse : ReverseRoute} {arguments : List String}

theorem positional_eq {name : String} (listed : name ∈ reverse.parameters) :
    reverse.positional arguments name = arguments[reverse.parameters.idxOf name]? := by
  have first : reverse.parameters.idxOf? name = some (reverse.parameters.idxOf name) :=
    List.findIdx?_eq_some_iff_findIdx_eq.mpr ⟨List.idxOf_lt_length_of_mem listed, rfl⟩
  rw [positional, first, Option.bind_some]

theorem positional_none {name : String} (unlisted : name ∉ reverse.parameters) :
    reverse.positional arguments name = none := by
  rw [positional, List.idxOf?_eq_none_iff.mpr unlisted, Option.bind_none]

theorem positional_present (full : arguments.length = reverse.parameters.length)
    (filled : ∀ argument ∈ arguments, argument ≠ "") {name : String}
    (listed : name ∈ reverse.parameters) : ¬ Missing (reverse.positional arguments) name := by
  have inside : reverse.parameters.idxOf name < arguments.length := by
    rw [full]
    exact List.idxOf_lt_length_of_mem listed
  rw [Missing, positional_eq listed, List.getElem?_eq_getElem inside]
  simpa using filled _ (List.getElem_mem inside)

/-- Every required parameter finds its own argument if and only if parameters of one name are given the
same. -/
theorem found_eq_iff (full : arguments.length = reverse.parameters.length) :
    reverse.found arguments = arguments ↔ ∀ first second : Nat,
      reverse.parameters[first]? = reverse.parameters[second]? →
        arguments[first]? = arguments[second]? := by
  constructor
  · intro own first second same
    rw [← own, found, List.getElem?_map, List.getElem?_map, same]
  · intro alike
    refine List.ext_getElem? fun index => ?_
    rw [found, List.getElem?_map]
    cases named : reverse.parameters[index]? with
    | none =>
      have outside := List.getElem?_eq_none_iff.mp named
      rw [Option.map_none, List.getElem?_eq_none (full.trans_le outside)]
    | some name =>
      have listed := List.mem_of_getElem? named
      -- the first parameter of the name may be another one, but has the same argument
      have same := alike _ index ((List.getElem?_idxOf listed).trans named.symm)
      have inside : index < arguments.length := by
        rw [full]
        exact (List.getElem?_eq_some_iff.mp named).1
      rw [Option.map_some, positional_eq listed, same, List.getElem?_eq_getElem inside,
        Option.getD_some]

theorem found_of_nodup (full : arguments.length = reverse.parameters.length)
    (unrepeated : reverse.parameters.Nodup) : reverse.found arguments = arguments := by
  rw [found_eq_iff full]
  intro first second same
  by_cases inside : first < reverse.parameters.length
  · rw [(List.getElem?_inj inside unrepeated).mp same]
  -- places behind the last parameter are places behind the last argument
  · rw [not_lt] at inside
    have outside := same.symm.trans (List.getElem?_eq_none inside)
    rw [List.getElem?_eq_none (full.trans_le inside),
      List.getElem?_eq_none (full.trans_le (List.getElem?_eq_none_iff.mp outside))]

/-- Arguments in order, none of them empty, always build a path if there is one for each required
parameter. Every required placeholder takes the argument that is found under its name. These are the
arguments as they stand if and only if parameters of one name are given the same. Where the required
parameters have different names, and optional ones have others, the required placeholders take the
arguments in turn and the optional ones leave nothing. -/
theorem buildWith_places {spec : SpecNode} {options : Options} {functions : FunctionRegistry}
    {router : Router} (compiled : Router.compile spec options functions = .ok router)
    (member : reverse ∈ router.reverse.routes)
    (full : arguments.length = reverse.parameters.length)
    (filled : ∀ argument ∈ arguments, argument ≠ "") :
    ∃ path, reverse.buildWith arguments = .ok path ∧
      ∃ route ∈ router.routes.entries, compile functions route = .ok reverse ∧
        route.Spells functions (Parameter.filled functions (reverse.positional arguments))
          (reverse.found arguments) path ∧
        (reverse.found arguments = arguments ↔ ∀ first second : Nat,
          reverse.parameters[first]? = reverse.parameters[second]? →
            arguments[first]? = arguments[second]?) ∧
        (reverse.parameters.Nodup →
          (∀ pattern ∈ route.patterns, ∀ parameter ∈ pattern.parameters,
            parameter.required = false → parameter.name ∉ reverse.parameters) →
          route.Spells functions (fun _ => "") arguments path) := by
  obtain ⟨route, among, turned, arise⟩ := Router.compile_reverse compiled member
  have present : ∀ name ∈ reverse.parameters, ¬ Missing (reverse.positional arguments) name :=
    fun _ => positional_present full filled
  have built := (compile_render turned arise (reverse.positional arguments)).trans
    (demand_ok_iff.mpr ⟨present, rfl⟩)
  have spells {optional : Parameter → String} (left_out : ∀ pattern ∈ route.patterns,
      ∀ parameter ∈ pattern.parameters, parameter.required = false →
        parameter.filled functions (reverse.positional arguments) = optional parameter) :
      route.place functions optional (reverse.found arguments)
        = (route.patterns.map (Pattern.filled functions (reverse.positional arguments)), []) := by
    rw [found, compile_parameters turned]
    refine Route.place_filled arise ?_ left_out
    intro pattern known parameter own required
    exact present _ ((mem_parameters_iff turned _).mpr ⟨pattern, known, parameter, own, required, rfl⟩)
  refine ⟨_, built, route, among, turned, ⟨_, spells fun _ _ _ _ _ => rfl, rfl⟩,
    found_eq_iff full, ?_⟩
  intro unrepeated apart
  refine ⟨_, ?_, rfl⟩
  have own := found_of_nodup full unrepeated
  rw [← spells fun pattern known parameter member optional => ?_, own]
  -- an optional parameter finds nothing
  have absent : reverse.positional arguments parameter.name = none :=
    positional_none (apart pattern known parameter member optional)
  rw [Parameter.filled, if_pos (.inl absent)]

/-- A trip between two cities with a class to choose, and one round a city. -/
def tripSpec : SpecNode :=
  SpecNode.router.withChildren [
    ((SpecNode.path "{from}/{to:uppercase}/[class]").withAttribute "id" "trip").withChild
      SpecNode.returning,
    ((SpecNode.path "round/{city}/{city:uppercase}").withAttribute "id" "round").withChild
      SpecNode.returning]

/-- Where a name is repeated the second argument is not used. -/
theorem buildWith_places_trip :
    ∃ router, Router.compile tripSpec {} .builtin = .ok router ∧
      (∃ reverse ∈ router.reverse.routes, reverse.parameters = ["from", "to"] ∧
        reverse.buildWith ["bern", "rom"] = .ok "/bern/ROM" ∧
        ∃ route ∈ router.routes.entries,
          route.Spells .builtin (fun _ => "") ["bern", "rom"] "/bern/ROM") ∧
      ∃ reverse ∈ router.reverse.routes, reverse.parameters = ["city", "city"] ∧
        reverse.buildWith ["bern", "rom"] = .ok "/round/bern/BERN" ∧
        reverse.found ["bern", "rom"] ≠ ["bern", "rom"] := by
  have evaluated : ((Router.compile tripSpec {} .builtin).toOption.filter fun router =>
      router.reverse.routes.map (fun reverse =>
          (reverse.parameters, (reverse.buildWith ["bern", "rom"]).toOption))
        = [(["from", "to"], some "/bern/ROM"), (["city", "city"], some "/round/bern/BERN")] ∧
      ∀ route ∈ router.routes.entries, ∀ pattern ∈ route.patterns,
        ∀ parameter ∈ pattern.parameters, parameter.required = false →
          parameter.name ∉ ["from", "to"]).isSome = true := by decide +kernel
  obtain ⟨router, kept⟩ := Option.isSome_iff_exists.mp evaluated
  obtain ⟨compiled, values⟩ := Option.filter_eq_some_iff.mp kept
  have compiled := ok_of_toOption compiled
  obtain ⟨turned, apart⟩ := of_decide_eq_true values
  obtain ⟨trip, others, routes, one, rest⟩ := List.map_eq_cons_iff.mp turned
  obtain ⟨round, none, rfl, two, -⟩ := List.map_eq_cons_iff.mp rest
  obtain ⟨named, reached⟩ := Prod.mk.inj one
  obtain ⟨named', reached'⟩ := Prod.mk.inj two
  have filled : ∀ argument ∈ ["bern", "rom"], argument ≠ "" := by decide
  refine ⟨router, compiled, ?_, ?_⟩
  · have member : trip ∈ router.reverse.routes := by simp [routes]
    obtain ⟨path, built, route, among, -, -, -, direct⟩ :=
      buildWith_places compiled member (by rw [named]; rfl) filled
    cases built.symm.trans (ok_of_toOption reached)
    refine ⟨trip, member, named, built, route, among, direct ?_ ?_⟩
    · rw [named]
      decide
    · rw [named]
      exact apart route among
  · have member : round ∈ router.reverse.routes := by simp [routes]
    obtain ⟨path, built, route, among, -, -, own, -⟩ :=
      buildWith_places compiled member (by rw [named']; rfl) filled
    cases built.symm.trans (ok_of_toOption reached')
    refine ⟨round, member, named', built, fun same => ?_⟩
    -- both parameters have one name, but the arguments differ
    have alike := own.mp same 0 1 (by rw [named']; rfl)
    exact absurd alike (by decide)

end ReverseRoute

end Signpost
