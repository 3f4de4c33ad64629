import Signpost.Proofs.Arguments
import Signpost.Proofs.Pattern.Shape

/-!
# Collapsing segments

A segment that comes out empty is left out of a path. Arguments are looked at before they are encoded,
so an empty one is never encoded for a required parameter. Of the functions that are always there only
`trim` makes an empty text of one that is not, and it does so where nothing but blanks is left. Hence a
segment with a required parameter is left out only if it has no text of its own and all of its arguments
are trimmed away or missing.
-/
namespace Signpost

/-! ### Functions -/

/-- Functions trim a text away: one of them is `trim`, and those in front of it have left nothing but
blanks. -/
def TrimmedAway (names : List String) (text : String) : Prop :=
  ∃ before after, names = before ++ "trim" :: after ∧
    Text.blankText (FunctionRegistry.builtin.encode before text) = true

namespace FunctionRegistry

theorem encode_cons (functions : FunctionRegistry) (name : String) (rest : List String)
    (text : String) :
    functions.encode (name :: rest) text = functions.encode rest (functions.encode [name] text) := rfl

/-- Each of the functions that are always there leaves an empty text empty, and all but one of them
leave something of any other. -/
theorem builtin_run {function : RouteFunction} (member : function ∈ builtin.functions) :
    function.run [""] = "" ∧
      ∀ text, text ≠ "" → function.name ≠ "trim" → function.run [text] ≠ "" := by
  simp only [builtin, List.mem_cons, List.not_mem_nil, or_false] at member
  rcases member with rfl | rfl | rfl | rfl | rfl | rfl
  · exact ⟨by decide, fun _ present _ => Text.Percent.encode_ne_empty present⟩
  · exact ⟨by decide, fun _ present _ => Text.Percent.decode_ne_empty present⟩
  · exact ⟨by decide, fun _ present _ => Text.lowercase_ne_empty present⟩
  · exact ⟨by decide, fun _ present _ => Text.uppercase_ne_empty present⟩
  · exact ⟨by decide, fun _ present _ => Text.capitalize_ne_empty present⟩
  · exact ⟨by decide, fun _ _ other => absurd rfl other⟩

theorem builtin_encode_one (name : String) :
    builtin.encode [name] "" = "" ∧
      ∀ text, text ≠ "" → name ≠ "trim" → builtin.encode [name] text ≠ "" := by
  simp only [encode, List.foldl_cons, List.foldl_nil]
  cases found : builtin.get? name with
  | none => exact ⟨rfl, fun _ present _ => present⟩
  | some function =>
    have called : function.name = name := by simpa using List.find?_some found
    subst called
    exact builtin_run (List.mem_of_find?_eq_some found)

theorem builtin_encode_empty (names : List String) : builtin.encode names "" = "" := by
  induction names with
  | nil => rfl
  | cons name rest ih => rw [encode_cons, (builtin_encode_one name).1, ih]

/-- What functions leave of a text is empty exactly if they trim it away. -/
theorem builtin_encode_eq_empty_iff {names : List String} {text : String} (present : text ≠ "") :
    builtin.encode names text = "" ↔ TrimmedAway names text := by
  induction names generalizing text with
  | nil => exact iff_of_false present (by simp [TrimmedAway])
  | cons name rest ih =>
    rw [encode_cons]
    by_cases emptied : builtin.encode [name] text = ""
    · -- the first function is the one that trims
      have trims : name = "trim" := by
        by_contra other
        exact (builtin_encode_one name).2 text present other emptied
      subst trims
      rw [emptied, builtin_encode_empty]
      exact iff_of_true rfl ⟨[], rest, rfl, (Text.trim_eq_empty_iff text).mp emptied⟩
    -- something is left, and the other functions go on with it
    · rw [ih emptied]
      constructor
      · rintro ⟨before, after, rfl, blank⟩
        exact ⟨name :: before, after, rfl, blank⟩
      · rintro ⟨before, after, split, blank⟩
        cases before with
        | nil =>
          -- had the first one trimmed a blank text, nothing would be left
          cases split
          exact absurd ((Text.trim_eq_empty_iff text).mpr blank) emptied
        | cons first before =>
          cases split
          exact ⟨before, after, rfl, blank⟩

end FunctionRegistry

/-! ### Segments -/

section

variable {argument? : String → Option String}

theorem Parameter.filled_eq_empty_iff (parameter : Parameter) :
    parameter.filled .builtin argument? = "" ↔ Missing argument? parameter.name ∨
      ∃ text, argument? parameter.name = some text ∧ TrimmedAway parameter.chain text := by
  rw [filled]
  by_cases missing : Missing argument? parameter.name
  · simp [missing]
  · rw [if_neg missing, or_iff_right missing]
    rw [Missing, not_or] at missing
    obtain ⟨text, given⟩ := Option.ne_none_iff_exists'.mp missing.1
    have present : text ≠ "" := fun empty => missing.2 (empty ▸ given)
    rw [given, Option.getD_some, FunctionRegistry.builtin_encode_eq_empty_iff present]
    simp

/-- A segment is empty exactly if it has no text of its own and nothing comes of its arguments. -/
theorem Pattern.filled_eq_empty_iff {functions : FunctionRegistry} {pattern : Pattern}
    (arises : pattern.Arises) :
    pattern.filled functions argument? = "" ↔
      (∀ text, .literal text ∉ pattern.parts) ∧
        ∀ parameter ∈ pattern.parameters, parameter.filled functions argument? = "" := by
  have joined : pattern.filled functions argument? = "" ↔
      ∀ part ∈ pattern.parts, part.filled functions argument? pattern.parameters = "" := by
    rw [Pattern.filled, ← String.toList_eq_nil_iff, String.toList_join, List.flatMap_eq_nil_iff,
      List.forall_mem_map]
    simp only [String.toList_eq_nil_iff]
  rw [joined]
  constructor
  · intro empty
    refine ⟨fun text member => arises.literal_ne_empty member (empty _ member), ?_⟩
    intro parameter member
    obtain ⟨index, inside, rfl⟩ := List.getElem_of_mem member
    -- every parameter has a place among the parts
    have place : .parameter index ∈ pattern.parts := by
      apply mem_of_partIndices
      rw [arises.ordered.1]
      exact List.mem_range.mpr inside
    have own := empty _ place
    rwa [PatternPart.filled, List.getElem?_eq_getElem inside] at own
  · rintro ⟨bare, empty⟩ part member
    cases part with
    | literal text => exact absurd member (bare text)
    | parameter index =>
      rw [PatternPart.filled]
      cases known : pattern.parameters[index]? with
      | none => rfl
      | some own => exact empty own (List.mem_of_getElem? known)

end

/-! ### Paths -/

namespace ReverseRoute

/-- A path that is built with the functions that are always there has all segments of its route but
those that come out empty. These have no text of their own, and each of their parameters either is
optional and has no argument, or has one that is trimmed away. A required parameter that is not trimmed
keeps its segment. -/
theorem build_collapses {spec : SpecNode} {options : Options} {router : Router}
    (compiled : Router.compile spec options .builtin = .ok router) {reverse : ReverseRoute}
    (member : reverse ∈ router.reverse.routes) {arguments : Attributes} {path : String}
    (built : reverse.build arguments = .ok path) :
    ∃ route ∈ router.routes.entries, compile .builtin route = .ok reverse ∧
      path = Text.pathOf ((route.patterns.map (Pattern.filled .builtin arguments.get?)).filter
        fun text => !text.isEmpty) ∧
      ∀ pattern ∈ route.patterns,
        (pattern.filled .builtin arguments.get? = "" ↔
          (∀ text, .literal text ∉ pattern.parts) ∧
            ∀ parameter ∈ pattern.parameters,
              parameter.required = false ∧ Missing arguments.get? parameter.name ∨
                ∃ text, arguments.get? parameter.name = some text ∧
                  TrimmedAway parameter.chain text) ∧
        ∀ parameter ∈ pattern.parameters, parameter.required = true → "trim" ∉ parameter.chain →
          pattern.filled .builtin arguments.get? ≠ "" := by
  obtain ⟨route, among, turned, arise⟩ := Router.compile_reverse compiled member
  obtain ⟨given, rfl⟩ := demand_ok_iff.mp ((compile_render turned arise arguments.get?).symm.trans built)
  refine ⟨route, among, turned, rfl, fun pattern known => ?_⟩
  -- the path has been built, so no required parameter is without an argument
  have present {parameter : Parameter} (own : parameter ∈ pattern.parameters)
      (missing : Missing arguments.get? parameter.name) : parameter.required = false := by
    by_contra required
    rw [Bool.not_eq_false] at required
    exact given _ ((mem_parameters_iff turned _).mpr ⟨pattern, known, parameter, own, required, rfl⟩)
      missing
  have collapses : pattern.filled .builtin arguments.get? = "" ↔ _ :=
    Pattern.filled_eq_empty_iff (arise pattern known)
  rw [collapses]
  constructor
  · refine and_congr_right fun _ => forall₂_congr fun parameter own => ?_
    rw [Parameter.filled_eq_empty_iff, and_iff_right_of_imp (present own)]
  · intro parameter own required untrimmed collapsed
    have empty := (collapses.mp collapsed).2 parameter own
    rcases parameter.filled_eq_empty_iff.mp empty with missing | trimmed
    · cases required.symm.trans (present own missing)
    · obtain ⟨text, -, before, after, split, -⟩ := trimmed
      exact untrimmed (by rw [split]; simp)

/-- Drafts have a number and a title. -/
def draftSpec : SpecNode :=
  SpecNode.router.withChild <|
    ((SpecNode.path "draft/{number}/{title:trim}").withAttribute "id" "draft").withChild
      SpecNode.returning

def numberPattern : Pattern :=
  ⟨"{number}", [.parameter 0], [{ name := "number", required := true }]⟩

def titlePattern : Pattern :=
  ⟨"{title:trim}", [.parameter 0], [{ name := "title", functions := ["trim"], required := true }]⟩

/-- A blank title is an argument, but leaves no segment. -/
theorem build_collapses_draft :
    let arguments := Attributes.ofList [("number", "7"), ("title", " ")]
    ∃ router, Router.compile draftSpec {} .builtin = .ok router ∧
      ∃ reverse ∈ router.reverse.routes, reverse.parameters = ["number", "title"] ∧
        reverse.build arguments = .ok "/draft/7" ∧
        ∃ route ∈ router.routes.entries, numberPattern ∈ route.patterns ∧
          titlePattern ∈ route.patterns ∧
          numberPattern.filled .builtin arguments.get? ≠ "" ∧
          titlePattern.filled .builtin arguments.get? = "" := by
  intro arguments
  have evaluated : ((Router.compile draftSpec {} .builtin).toOption.filter fun router =>
      router.reverse.routes.map (fun reverse =>
          (reverse.parameters, (reverse.build arguments).toOption))
        = [(["number", "title"], some "/draft/7")] ∧
      ∀ route ∈ router.routes.entries, numberPattern ∈ route.patterns ∧
        titlePattern ∈ route.patterns).isSome = true := by decide +kernel
  obtain ⟨router, found⟩ := Option.isSome_iff_exists.mp evaluated
  obtain ⟨compiled, values⟩ := Option.filter_eq_some_iff.mp found
  obtain ⟨turned, patterns⟩ := of_decide_eq_true values
  obtain ⟨reverse, rest, routes, one, -⟩ := List.map_eq_cons_iff.mp turned
  obtain ⟨listed, reached⟩ := Prod.mk.inj one
  have compiled := ok_of_toOption compiled
  have built := ok_of_toOption reached
  have member : reverse ∈ router.reverse.routes := by simp [routes]
  obtain ⟨route, among, -, -, segments⟩ := build_collapses compiled member built
  obtain ⟨number, title⟩ := patterns route among
  refine ⟨router, compiled, reverse, member, listed, built, route, among, number, title, ?_, ?_⟩
  · exact (segments numberPattern number).2 _ List.mem_cons_self rfl (by decide)
  · refine (segments titlePattern title).1.mpr ⟨by simp [titlePattern], ?_⟩
    intro parameter own
    cases List.mem_singleton.mp own
    exact .inr ⟨" ", by decide, [], [], rfl, by decide⟩

end ReverseRoute

end Signpost
