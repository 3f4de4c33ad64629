import Mathlib.Data.List.TakeWhile
import Signpost.Proofs.Success
import Signpost.Router

/-!
# Bare paths

What a router makes of a bare path, whatever names its options give to attributes. The text stands under
the first name that is not blank, and it is the only attribute. So it is the path, up to its first question
mark; and it is the query as well, as a whole, if the query is looked for under the same name. Only then
what stands behind the question mark is not the query.
-/
namespace Signpost

namespace Text

/-- What stands in front of the first occurrence of a character. -/
def before (mark : Char) (text : String) : String :=
  String.ofList (text.toList.takeWhile (· ≠ mark))

/-- What stands behind the first occurrence of a character, nothing if there is none. -/
def behind (mark : Char) (text : String) : String :=
  String.ofList (text.toList.dropWhile (· ≠ mark)).tail

/-- The non-empty parts between separators. -/
def parts (separator : Char) (text : String) : List String :=
  ((text.toList.splitOn separator).filter (· ≠ [])).map String.ofList

theorem splitFirst_eq (mark : Char) (text : List Char) :
    splitFirst mark text = (text.takeWhile (· ≠ mark),
      if mark ∈ text then some (text.dropWhile (· ≠ mark)).tail else none) := by
  induction text with
  | nil => rfl
  | cons c rest ih =>
    rw [splitFirst, ih]
    by_cases here : c = mark
    · simp [here]
    · simp [here, Ne.symm here]

/-- Cutting at a question mark gives what stands in front of it and what stands behind it. -/
theorem splitQuery_eq (text : String) :
    (splitQuery text).1 = before '?' text ∧ (splitQuery text).2.getD "" = behind '?' text := by
  rw [splitQuery, splitFirst_eq]
  refine ⟨rfl, ?_⟩
  by_cases marked : '?' ∈ text.toList
  · rw [if_pos marked]
    rfl
  · have rest : text.toList.dropWhile (· ≠ '?') = [] :=
      List.dropWhile_eq_nil_iff.mpr fun c member => by simpa using ne_of_mem_of_not_mem member marked
    rw [if_neg marked, behind, rest]
    rfl

theorem pieces_eq (separator : Char) (text : List Char) :
    pieces (· == separator) text = text.splitOn separator := by
  induction text with
  | nil => rfl
  | cons c rest ih =>
    rw [pieces, ih, List.splitOn_eq_splitOnP, List.splitOn_eq_splitOnP,
      List.splitOnP_cons_eq_if_modifyHead]
    split
    · rfl
    · -- there is always a first piece, which the character joins
      cases cut : rest.splitOnP (· == separator) with
      | nil => exact absurd cut (List.splitOnP_ne_nil _ _)
      | cons first others => rfl

theorem segments_eq (path : String) : segments path = parts '/' path := by
  rw [segments, parts, pieces_eq]
  refine congrArg (List.map String.ofList) (List.filter_congr fun piece _ => ?_)
  cases piece <;> rfl

/-- What stands behind a character is shorter than the text. -/
theorem behind_ne (mark : Char) {text : String} (present : text ≠ "") : behind mark text ≠ text := by
  intro same
  have texts := congrArg (fun text => text.toList.length) same
  have shorter : (text.toList.dropWhile (· ≠ mark)).length ≤ text.toList.length :=
    (List.dropWhile_suffix _).length_le
  have some : 0 < text.toList.length := List.length_pos_iff.mpr (String.toList_eq_nil_iff.not.mpr present)
  rw [behind, String.toList_ofList, List.length_tail] at texts
  omega

end Text

/-- Options that are accepted name an attribute for the path. -/
theorem Options.validate_named {options : Options} (valid : options.validate = .ok ()) :
    ∃ name, options.pathAttributes.find? (fun name => !Text.blankText name) = some name := by
  have named : options.pathAttributes.all Text.blankText = false := by
    rw [validate] at valid
    split at valid
    · cases valid
    · split at valid
      · cases valid
      next some => exact Bool.eq_false_iff.mpr some
  rw [← Option.isSome_iff_exists, List.find?_isSome]
  simpa [List.all_eq_false] using named

namespace Router

variable {spec : SpecNode} {options : Options} {functions : FunctionRegistry} {router : Router}

theorem compile_options (compiled : compile spec options functions = .ok router) :
    router.options = options ∧ options.validate = .ok () := by
  simp only [compile, bind_ok_iff, pure_ok_iff, mapError_ok_iff] at compiled
  obtain ⟨⟨⟩, valid, tree, -, program, -, reverse, -, rfl⟩ := compiled
  exact ⟨rfl, valid⟩

end Router

namespace Request

theorem get?_single (name text other : String) :
    (Attributes.ofList [(name, text)]).get? other = if other = name then some text else none := by
  rw [Attributes.get?_ofList]
  exact Attributes.lookup_cons name text other []

/-- A text that is the only attribute is read under its own name. -/
theorem rawPath_single {blanks others : List String} {name : String} (apart : name ∉ blanks)
    (text : String) :
    rawPath (.ofList [(name, text)]) (blanks ++ name :: others) = if text = "" then "/" else text := by
  simp only [rawPath, get?_single]
  by_cases empty : text = ""
  · have nothing : (blanks ++ name :: others).findSome? (fun other =>
        (if other = name then some text else none).filter fun text => !text.isEmpty) = none := by
      rw [List.findSome?_eq_none_iff]
      intro other _
      split <;> simp [empty]
    rw [nothing, if_pos empty]
    rfl
  · have skipped : blanks.findSome? (fun other =>
        (if other = name then some text else none).filter fun text => !text.isEmpty) = none := by
      rw [List.findSome?_eq_none_iff]
      intro other member
      rw [if_neg (ne_of_mem_of_not_mem member apart)]
      rfl
    rw [List.findSome?_append, skipped, Option.none_or, List.findSome?_cons, if_pos rfl,
      Option.filter_some_pos (by simpa using empty), if_neg empty]
    rfl

theorem segments_ofAttributes (attributes : Attributes) (pathNames : List String)
    (queryName : String) : (ofAttributes attributes pathNames queryName).segments
      = Text.parts '/' (ofAttributes attributes pathNames queryName).path := by
  rw [ofAttributes]
  generalize Text.splitQuery (rawPath attributes pathNames) = cut
  exact Text.segments_eq cut.1

/-- A text that is the only attribute is the path, and it is the query as well if the query is looked for
under its name. -/
theorem ofAttributes_single {blanks : List String} {name : String} (apart : name ∉ blanks)
    (others : List String) (queryName text : String) :
    let request := ofAttributes (.ofList [(name, text)]) (blanks ++ name :: others) queryName
    request.path = (if text = "" then "/" else Text.before '?' text) ∧
      request.segments = Text.parts '/' request.path ∧
      request.query = (if name = queryName then text else Text.behind '?' text) := by
  refine ⟨?_, ?_, ?_⟩
  · rw [ofAttributes, rawPath_single apart]
    change (Text.splitQuery _).1 = _
    rw [(Text.splitQuery_eq _).1]
    split <;> rfl
  · exact segments_ofAttributes _ _ _
  · rw [ofAttributes, rawPath_single apart, get?_single]
    change ((if queryName = name then some text else none) <|> (Text.splitQuery _).2).getD "" = _
    by_cases same : name = queryName
    · rw [if_pos same.symm, if_pos same]
      rfl
    · rw [if_neg (Ne.symm same), if_neg same]
      change (Text.splitQuery _).2.getD "" = _
      rw [(Text.splitQuery_eq _).2]
      split
      next empty =>
        subst empty
        rfl
      next => rfl

end Request

namespace Router

/-- Whatever the options are, a bare path is read up to its first question mark and falls into its
non-empty parts between slashes. What stands behind the question mark is its query, except that the whole
text is the query if the options look for the query under the first name that they give to the path. -/
theorem routePath_reads {spec : SpecNode} {options : Options} {functions : FunctionRegistry}
    {router : Router} (compiled : compile spec options functions = .ok router) :
    ∃ name, options.pathAttributes.find? (fun name => !Text.blankText name) = some name ∧
      ∀ text, ∃ request, router.request (router.pathAttributes text) = request ∧
        router.routePath text = router.program.execute request ∧
        request.path = (if text = "" then "/" else Text.before '?' text) ∧
        request.segments = Text.parts '/' request.path ∧
        request.query = (if name = options.queryAttribute then text else Text.behind '?' text) ∧
        (request.query = Text.behind '?' text ↔ name ≠ options.queryAttribute ∨ text = "") := by
  obtain ⟨same, valid⟩ := compile_options compiled
  obtain ⟨name, found⟩ := Options.validate_named valid
  refine ⟨name, found, fun text => ?_⟩
  obtain ⟨solid, blanks, others, split, blank⟩ := List.find?_eq_some_iff_append.mp found
  have apart : name ∉ blanks := by
    intro member
    have hidden := blank name member
    rw [solid] at hidden
    cases hidden
  have attributes : router.pathAttributes text = .ofList [(name, text)] := by
    rw [pathAttributes, same, found]
  obtain ⟨path, segments, query⟩ :=
    Request.ofAttributes_single apart others options.queryAttribute text
  refine ⟨router.request (router.pathAttributes text), rfl, rfl, ?_⟩
  rw [request, attributes, same, split]
  refine ⟨path, segments, query, ?_⟩
  rw [query]
  by_cases shared : name = options.queryAttribute
  · rw [if_pos shared]
    constructor
    · intro whole
      by_cases empty : text = ""
      · exact .inr empty
      · exact absurd whole.symm (Text.behind_ne '?' empty)
    · rintro (apart | rfl)
      · exact absurd shared apart
      · rfl
  · rw [if_neg shared]
    exact ⟨fun _ => .inl shared, fun _ => rfl⟩

/-- A path that answers with a parameter of the query. -/
def findSpec : SpecNode :=
  SpecNode.router.withChild ((SpecNode.path "find").withChild
    (SpecNode.returning.withAttribute "render" "{q}"))

/-- The query is looked for under a name of its own, or under the name of the path. -/
theorem routePath_reads_find : ∃ router another,
    compile findSpec { pathAttributes := [" ", "URI"], queryAttribute := "QUERY" } .builtin
      = .ok router ∧
    compile findSpec { pathAttributes := [" ", "URI"], queryAttribute := "URI" } .builtin
      = .ok another ∧
    (∃ request, router.routePath "/find?q=go" = router.program.execute request ∧
      request.segments = ["find"] ∧ request.query = "q=go") ∧
    ∃ request, another.routePath "/find?q=go" = another.program.execute request ∧
      request.segments = ["find"] ∧ request.query = "/find?q=go" := by
  have first : (compile findSpec { pathAttributes := [" ", "URI"], queryAttribute := "QUERY" }
      .builtin).toOption.isSome = true := by decide +kernel
  have second : (compile findSpec { pathAttributes := [" ", "URI"], queryAttribute := "URI" }
      .builtin).toOption.isSome = true := by decide +kernel
  obtain ⟨router, compiled⟩ := Option.isSome_iff_exists.mp first
  obtain ⟨another, compiled'⟩ := Option.isSome_iff_exists.mp second
  have compiled := ok_of_toOption compiled
  have compiled' := ok_of_toOption compiled'
  have named : ([" ", "URI"].find? fun name => !Text.blankText name) = some "URI" := by decide +kernel
  have parts : Text.parts '/' (Text.before '?' "/find?q=go") = ["find"] := by decide +kernel
  refine ⟨router, another, compiled, compiled', ?_, ?_⟩
  · obtain ⟨name, found, reads⟩ := routePath_reads compiled
    obtain ⟨request, -, routed, path, segments, query, -⟩ := reads "/find?q=go"
    cases named.symm.trans found
    refine ⟨request, routed, ?_, ?_⟩
    · rw [segments, path, if_neg (by decide), parts]
    · rw [query, if_neg (by decide)]
      decide +kernel
  · obtain ⟨name, found, reads⟩ := routePath_reads compiled'
    obtain ⟨request, -, routed, path, segments, query, -⟩ := reads "/find?q=go"
    cases named.symm.trans found
    refine ⟨request, routed, ?_, ?_⟩
    · rw [segments, path, if_neg (by decide), parts]
    · rw [query, if_pos rfl]

end Router

end Signpost
