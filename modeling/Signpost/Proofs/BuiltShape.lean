import Signpost.Proofs.Rendering

/-!
# The shape of built paths

Arguments go through the default encoder wherever a parameter has no functions of its own, and what
that encoder leaves contains no slash and no question mark. So no argument adds a segment to a path,
ends one early or begins a query: a request for a built path has the segments of the route with their
arguments filled in, those left out that are empty.
-/
namespace Signpost

/-- A segment with the encoded arguments in place of its parameters; where an argument is missing there
is nothing. -/
def Pattern.rendering (arguments : Attributes) (pattern : Pattern) : String :=
  String.join <| pattern.parts.map fun
    | .literal text => text
    | .parameter index =>
      ((pattern.parameters[index]?.bind fun parameter => arguments.get? parameter.name).map
        Text.Percent.encode).getD ""

/-- No parameter names a function, so all arguments go through the default encoder. -/
def Pattern.Functionless (pattern : Pattern) : Prop :=
  ∀ parameter ∈ pattern.parameters, parameter.functions = []

/-- No literal text ends a segment or a path. -/
def Pattern.Inner (pattern : Pattern) : Prop :=
  ∀ text, .literal text ∈ pattern.parts → ∀ c ∈ text.toList, c ≠ '/' ∧ c ≠ '?'

/-! ### Turning round -/

/-- A part of a pattern turned round with the default encoder. -/
def PatternPart.turned (parameters : List Parameter) : PatternPart → ReversePart
  | .literal text => .text text
  | .parameter index =>
    match parameters[index]? with
    | some own => .argument own.name own.required [.urlencode]
    | none => .text ""

section Turning

variable {functions : FunctionRegistry}

theorem Pattern.Functionless.compilePart {pattern : Pattern} (functionless : pattern.Functionless)
    (encoder : functions.get? ReverseRoute.defaultEncoder = some .urlencode) (part : PatternPart) :
    ReverseRoute.compilePart functions pattern part = .ok (part.turned pattern.parameters) := by
  cases part with
  | literal text => rfl
  | parameter index =>
    rw [ReverseRoute.compilePart, PatternPart.turned]
    cases found : pattern.parameters[index]? with
    | none => rfl
    | some parameter =>
      have none := functionless parameter (List.mem_of_getElem? found)
      have resolved : ReverseRoute.encoders functions parameter = .ok [.urlencode] := by
        rw [ReverseRoute.encoders, none, List.isEmpty_nil, if_pos rfl]
        refine mapError_ok_iff.mpr (mapM_ok_iff.mpr (.cons ?_ .nil))
        rw [encoder]
      dsimp only
      rw [resolved]
      rfl

/-- With the default encoder at hand a route without functions is always turned round. -/
theorem compile_functionless {route : Route}
    (encoder : functions.get? ReverseRoute.defaultEncoder = some .urlencode)
    (functionless : ∀ pattern ∈ route.patterns, pattern.Functionless) :
    ∃ reverse, ReverseRoute.compile functions route = .ok reverse ∧
      reverse.segments = route.patterns.map fun pattern =>
        pattern.parts.map (PatternPart.turned pattern.parameters) := by
  have each : route.patterns.mapM (fun pattern =>
      pattern.parts.mapM (ReverseRoute.compilePart functions pattern))
        = .ok (route.patterns.map fun pattern =>
            pattern.parts.map (PatternPart.turned pattern.parameters)) :=
    mapM_ok fun pattern member => mapM_ok fun part _ =>
      (functionless pattern member).compilePart encoder part
  exact ⟨_, bind_ok_iff.mpr ⟨_, each, rfl⟩, rfl⟩

end Turning

/-! ### Filling in -/

/-- An empty argument leaves as little as a missing one. -/
theorem encode_given? (argument? : String → Option String) (name : String) :
    ((ReversePart.given? argument? name).map (RouteFunction.applyChain [.urlencode])).getD ""
      = ((argument? name).map Text.Percent.encode).getD "" := by
  rw [ReversePart.given?]
  cases argument? name with
  | none => rfl
  | some value =>
    by_cases empty : value = ""
    · subst empty
      rfl
    · rw [Option.filter_some_pos (by simpa using empty)]
      rfl

theorem PatternPart.turned_filling (arguments : Attributes) (pattern : Pattern) :
    String.join ((pattern.parts.map (PatternPart.turned pattern.parameters)).map
      (ReversePart.filling arguments.get?)) = pattern.rendering arguments := by
  rw [List.map_map, Pattern.rendering]
  congr 1
  refine List.map_congr_left fun part _ => ?_
  cases part with
  | literal text => rfl
  | parameter index =>
    rw [Function.comp_apply, turned]
    dsimp only
    cases pattern.parameters[index]? with
    | none => rfl
    | some parameter => exact encode_given? arguments.get? parameter.name

/-- Neither a literal text nor an encoded argument ends a segment or a path. -/
theorem Pattern.Inner.rendering {pattern : Pattern} (inner : pattern.Inner) (arguments : Attributes) :
    ∀ c ∈ (pattern.rendering arguments).toList, c ≠ '/' ∧ c ≠ '?' := by
  intro c member
  rw [Pattern.rendering, String.toList_join, List.flatMap_map] at member
  obtain ⟨part, among, inside⟩ := List.mem_flatMap.mp member
  cases part with
  | literal text => exact inner text among c inside
  | parameter index =>
    dsimp only at inside
    cases value : pattern.parameters[index]?.bind fun parameter => arguments.get? parameter.name with
    | none =>
      rw [value] at inside
      cases inside
    | some argument =>
      rw [value] at inside
      exact Text.Percent.encode_inner argument c inside

/-! ### Shape -/

/-- A route without functions is turned round, and a path that it builds from any arguments has no
query, begins with a slash and falls into the renderings of its segments that are not empty; without
any it is the slash alone. -/
theorem ReverseRoute.build_shape {functions : FunctionRegistry} {route : Route}
    (encoder : functions.get? defaultEncoder = some .urlencode)
    (functionless : ∀ pattern ∈ route.patterns, pattern.Functionless)
    (inner : ∀ pattern ∈ route.patterns, pattern.Inner) :
    ∃ reverse, ReverseRoute.compile functions route = .ok reverse ∧
      ∀ arguments path, reverse.build arguments = .ok path →
        let present := (route.patterns.map (Pattern.rendering arguments)).filter
          fun text => !text.isEmpty
        Text.splitQuery path = (path, none) ∧ Text.segments path = present ∧
          path.toList.head? = some '/' ∧ (present = [] → path = "/") := by
  obtain ⟨reverse, compiled, segments⟩ := compile_functionless encoder functionless
  refine ⟨reverse, compiled, fun arguments path built => ?_⟩
  have fillings : reverse.fillings arguments.get?
      = route.patterns.map (Pattern.rendering arguments) := by
    rw [ReverseRoute.fillings, segments, List.map_map]
    exact List.map_congr_left fun pattern _ => PatternPart.turned_filling arguments pattern
  -- the path has been made of the fillings, which contain nothing that splits a path
  obtain ⟨-, rfl⟩ := render_ok_iff.mp built
  rw [fillings]
  have plain : ∀ text ∈ (route.patterns.map (Pattern.rendering arguments)).filter
      (fun text => !text.isEmpty), text ≠ "" ∧ ∀ c ∈ text.toList, c ≠ '/' ∧ c ≠ '?' := by
    intro text member
    obtain ⟨among, present⟩ := List.mem_filter.mp member
    obtain ⟨pattern, known, rfl⟩ := List.mem_map.mp among
    exact ⟨by simpa using present, (inner pattern known).rendering arguments⟩
  refine ⟨?_, ?_, Text.pathOf_head _, ?_⟩
  · exact Text.splitQuery_pathOf fun text member mark => ((plain text member).2 '?' mark).2 rfl
  · exact Text.segments_pathOf fun text member =>
      ⟨(plain text member).1, fun slash => ((plain text member).2 '/' slash).1 rfl⟩
  · intro none
    rw [none]
    rfl

/-- A search: an optional page, and a text in front of an optional order. -/
def searchRoute : Route where
  id := "search"
  patterns := [
    ⟨"search", [.literal "search"], []⟩,
    ⟨"[page:int]", [.parameter 0], [{ name := "page", valueType := .int, required := false }]⟩,
    ⟨"{text}=[order]", [.parameter 0, .literal "=", .parameter 1],
      [{ name := "text", required := true }, { name := "order", required := false }]⟩]

theorem ReverseRoute.build_shape_search :
    FunctionRegistry.builtin.get? defaultEncoder = some .urlencode ∧
    (∀ pattern ∈ searchRoute.patterns, pattern.Functionless ∧ pattern.Inner) ∧
    ∃ reverse, ReverseRoute.compile .builtin searchRoute = .ok reverse ∧
      reverse.build (.ofList [("page", ""), ("text", "ä/?/..")])
        = .ok "/search/%C3%A4%2F%3F%2F..=" ∧
      Text.splitQuery "/search/%C3%A4%2F%3F%2F..=" = ("/search/%C3%A4%2F%3F%2F..=", none) ∧
      Text.segments "/search/%C3%A4%2F%3F%2F..=" = ["search", "%C3%A4%2F%3F%2F..="] := by
  have encoder : FunctionRegistry.builtin.get? defaultEncoder = some .urlencode := rfl
  have plain : ∀ pattern ∈ searchRoute.patterns, pattern.Functionless ∧ pattern.Inner := by
    simp [searchRoute, Pattern.Functionless, Pattern.Inner]
  obtain ⟨reverse, compiled, shape⟩ := build_shape encoder (fun pattern member =>
    (plain pattern member).1) fun pattern member => (plain pattern member).2
  have evaluated : ((ReverseRoute.compile .builtin searchRoute).toOption.bind fun reverse =>
      (reverse.build (.ofList [("page", ""), ("text", "ä/?/..")])).toOption)
        = some "/search/%C3%A4%2F%3F%2F..=" := by decide +kernel
  rw [compiled] at evaluated
  have built := ok_of_toOption evaluated
  obtain ⟨unqueried, segments, -, -⟩ := shape _ _ built
  exact ⟨encoder, plain, reverse, compiled, built, unqueried,
    segments.trans (by decide +kernel)⟩

end Signpost
