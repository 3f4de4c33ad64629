import Mathlib.Logic.Relation
import Signpost.Options
import Signpost.Proofs.Machine.Framed

/-!
# What a run looks at

A program reads a request through its segments, its query and the variables of its templates. Two
requests that agree on those are run alike: at every instruction the same texts are rendered, so the
same body is entered in the same state. Slashes that stand at an end of a path or next to another
slash do not show in the segments, so they only matter to a program that mentions the path as a
text.
-/
namespace Signpost

/-! ### Mentioned variables -/

/-- A variable stands in a template. -/
def CompiledTemplate.Mentions (template : CompiledTemplate) (name : String) : Prop :=
  ∃ filters framed, .variable name filters framed ∈ template.parts

/-- A variable stands in some template of a program. -/
def Program.Mentions (program : Program) (name : String) : Prop :=
  ∃ template ∈ program.templates, template.Mentions name

/-- All variables of some templates are among the given names. -/
def Covers (names : String → Prop) (templates : List CompiledTemplate) : Prop :=
  ∀ template ∈ templates, ∀ name, template.Mentions name → names name

/-- Two requests are the same to code whose variables are among the given names. -/
structure Request.Alike (names : String → Prop) (left right : Request) : Prop where
  segments : left.segments = right.segments
  query : left.query = right.query
  parameters : left.parameters = right.parameters
  attributes : ∀ name, names name → left.attribute? name = right.attribute? name
  path : names "path" → left.path = right.path

namespace Program

theorem literalTemplates_eq (arms : List (String × List Instruction)) :
    literalTemplates arms = arms.flatMap fun arm => bodyTemplates arm.2 := by
  induction arms with
  | nil => rfl
  | cons arm rest ih => rw [literalTemplates, ih, List.flatMap_cons]

theorem armTemplates_eq (arms : List (List Instruction)) :
    armTemplates arms = arms.flatMap bodyTemplates := by
  induction arms with
  | nil => rfl
  | cons arm rest ih => rw [armTemplates, ih, List.flatMap_cons]

theorem caseTemplates_eq (cases : List (CompiledTemplate × List Instruction)) :
    caseTemplates cases = cases.flatMap fun choice => choice.1 :: bodyTemplates choice.2 := by
  induction cases with
  | nil => rfl
  | cons choice rest ih => rw [caseTemplates, ih, List.flatMap_cons]

/-- What an instruction renders itself is among its templates. -/
theorem ownTemplates_subset (instruction : Instruction) :
    instruction.ownTemplates ⊆ instructionTemplates instruction := by
  intro template own
  cases instruction with
  | switch value cases default =>
    simp only [Instruction.ownTemplates, List.mem_append, List.mem_map] at own
    simp only [instructionTemplates, caseTemplates_eq, List.mem_append, List.mem_flatMap]
    rcases own with ofValue | ⟨choice, member, rfl⟩
    · exact .inl (.inl ofValue)
    · exact .inl (.inr ⟨choice, member, List.mem_cons_self⟩)
  | scope bindings body => exact List.mem_append_left _ own
  | test regex subject body =>
    rw [List.mem_singleton.mp own]
    exact List.mem_cons_self
  | advance _ | retreat _ | literals _ _ _ | patterns _ _ _ => cases own
  | set _ _ | call _ | «return» _ => exact own

end Program

namespace Machine

open Program

/-- The templates of a body that is entered are among those of its instruction. -/
theorem entry_templates {request : Request} {state inner : MachineState} {instruction : Instruction}
    {framed : Bool} {code : List Instruction}
    (entered : entry request state instruction = .body framed inner code) :
    bodyTemplates code ⊆ instructionTemplates instruction := by
  intro template member
  cases instruction with
  | literals index arms lookup =>
    rw [entry] at entered
    split at entered
    next arm _ =>
      cases entered
      cases found : arms[arm]? with
      -- a missing arm is entered as an empty body, which has no templates
      | none => simp [found, bodyTemplates] at member
      | some pair =>
        rw [found] at member
        rw [instructionTemplates, literalTemplates_eq]
        exact List.mem_flatMap.mpr ⟨pair, List.mem_of_getElem? found, member⟩
    next => cases entered
  | patterns index groups arms =>
    rw [entry] at entered
    split at entered
    next arm frame _ =>
      cases entered
      cases found : arms[arm]? with
      | none => simp [found, bodyTemplates] at member
      | some body =>
        rw [found] at member
        rw [instructionTemplates, armTemplates_eq]
        exact List.mem_flatMap.mpr ⟨body, List.mem_of_getElem? found, member⟩
    next => cases entered
  | scope bindings body =>
    cases entered
    exact List.mem_append_right _ member
  | test regex subject body =>
    simp only [entry] at entered
    split at entered
    · cases entered
      exact List.mem_cons_of_mem _ member
    · cases entered
  | switch value cases default =>
    simp only [entry] at entered
    split at entered
    next chosen =>
      cases entered
      rw [instructionTemplates]
      rcases chooseCase_body (congrArg Prod.snd chosen) with ⟨label, choice⟩ | rfl
      · rw [caseTemplates_eq]
        apply List.mem_append_left
        apply List.mem_append_right
        exact List.mem_flatMap.mpr ⟨_, choice, List.mem_cons_of_mem _ member⟩
      · exact List.mem_append_right _ member
    next => cases entered
  | _ => cases entered

/-! ### Rendering -/

section

variable {names : String → Prop} {left right : Request} (alike : left.Alike names right)
include alike

theorem derived?_alike {name : String} (mentioned : names name) :
    left.derived? name = right.derived? name := by
  unfold Request.derived?
  -- only the path is read on its own, the other variables come from the query
  split
  · rw [alike.path mentioned]
  · rw [alike.query]
  · rw [alike.query]
  · rfl

theorem resolve_alike {name : String} (mentioned : names name) (scope : Scope) (framed : Bool) :
    resolve left scope framed name = resolve right scope framed name := by
  unfold resolve
  rw [Request.parameter?, Request.parameter?, alike.parameters, alike.attributes name mentioned,
    derived?_alike alike mentioned]

theorem renderParts_alike {parts : List TemplatePart}
    (mentioned : ∀ name filters framed, .variable name filters framed ∈ parts → names name)
    (scope : Scope) : renderParts left scope parts = renderParts right scope parts := by
  induction parts with
  | nil => rfl
  | cons part rest ih =>
    have later := ih fun name filters framed member =>
      mentioned name filters framed (List.mem_cons_of_mem _ member)
    have first : renderPart left scope part = renderPart right scope part := by
      cases part with
      | text text => rfl
      | «variable» name filters framed =>
        rw [renderPart, renderPart,
          resolve_alike alike (mentioned name filters framed List.mem_cons_self)]
    rw [renderParts, renderParts, first, later]

theorem render_alike {template : CompiledTemplate}
    (mentioned : ∀ name, template.Mentions name → names name) (state : MachineState) :
    render left state template = render right state template := by
  rw [render, render, renderParts_alike alike fun name filters framed member =>
    mentioned name ⟨filters, framed, member⟩]

theorem renderAll_alike {templates : List CompiledTemplate} (covered : Covers names templates)
    (state : MachineState) : renderAll left state templates = renderAll right state templates := by
  induction templates generalizing state with
  | nil => rfl
  | cons template rest ih =>
    obtain ⟨first, others⟩ := List.forall_mem_cons.mp covered
    simp only [renderAll, render_alike alike first, ih others]

theorem renderEntries_alike {entries : List (String × CompiledTemplate)}
    (covered : Covers names (entries.map (·.2))) (state : MachineState) :
    renderEntries left state entries = renderEntries right state entries := by
  rw [renderEntries, renderEntries, renderAll_alike alike covered]

theorem call_alike {site : CallSite} (covered : Covers names site.arguments)
    (state : MachineState) : call left state site = call right state site := by
  rw [call, call, renderAll_alike alike covered]

theorem switchValue_alike {value : SwitchValue} (covered : Covers names value.templates)
    (state : MachineState) : switchValue left state value = switchValue right state value := by
  cases value with
  | template source => exact render_alike alike (covered source List.mem_cons_self) state
  | call site => exact call_alike alike covered state

theorem chooseCase_alike {cases : List (CompiledTemplate × List Instruction)}
    (covered : Covers names (cases.map (·.1))) (value : String)
    (default : Option (List Instruction)) (state : MachineState) :
    chooseCase left state value default cases = chooseCase right state value default cases := by
  induction cases generalizing state with
  | nil => rfl
  | cons choice rest ih =>
    obtain ⟨first, others⟩ := List.forall_mem_cons.mp covered
    simp only [chooseCase, render_alike alike first, ih others]

/-! ### Running -/

theorem advance_alike (state : MachineState) (index : Nat) :
    advance left state index = advance right state index := by
  have same : left.segment? index = right.segment? index := by
    rw [Request.segment?, Request.segment?, alike.segments]
  rw [advance, advance, same]

theorem current?_alike (state : MachineState) (index : Nat) :
    current? left state index = current? right state index := by
  simp only [current?, Request.segment?, alike.segments]

/-- An instruction goes on in the same way. -/
theorem entry_alike {instruction : Instruction} (covered : Covers names instruction.ownTemplates)
    (state : MachineState) : entry left state instruction = entry right state instruction := by
  cases instruction with
  | advance index => rw [entry, entry, advance_alike alike]
  | retreat index => rfl
  | scope bindings body => rw [entry, entry, renderEntries_alike alike covered]
  | literals index arms lookup => rw [entry, entry, current?_alike alike]
  | patterns index groups arms => rw [entry, entry, current?_alike alike]
  | test regex subject body =>
    rw [entry, entry, render_alike alike (covered subject List.mem_cons_self)]
  | switch value cases default =>
    obtain ⟨ofValue, ofCases⟩ := List.forall_mem_append.mp covered
    rw [entry, entry, switchValue_alike alike ofValue]
    dsimp only
    rw [chooseCase_alike alike ofCases]
  | set name value => rw [entry, entry, render_alike alike (covered value List.mem_cons_self)]
  | call site => rw [entry, entry, call_alike alike covered]
  | «return» fields => rw [entry, entry, renderEntries_alike alike covered]

/-- Code runs alike on requests that are alike to it. -/
theorem runBody_alike {code : List Instruction} (covered : Covers names (bodyTemplates code))
    (state : MachineState) : runBody left state code = runBody right state code := by
  induction code using body_induction generalizing state with
  | nil => rfl
  | cons instruction rest behind within =>
    rw [bodyTemplates] at covered
    obtain ⟨first, others⟩ := List.forall_mem_append.mp covered
    have here : runInstruction left state instruction = runInstruction right state instruction := by
      have same := entry_alike alike (fun template own =>
        first template (ownTemplates_subset instruction own)) state
      rw [runInstruction_eq, runInstruction_eq, ← same]
      cases entered : entry left state instruction with
      | done flow => rfl
      | body framed inner code =>
        -- the body mentions no more than its instruction does
        have inside := within entered (fun template member =>
          first template (entry_templates entered member)) inner
        cases framed with
        | true => exact congrArg leave inside
        | false => exact inside
    rw [runBody, runBody, here]
    split
    · rfl
    · exact behind others _

end

end Machine

theorem Program.execute_alike {program : Program} {left right : Request}
    (alike : left.Alike program.Mentions right) : program.execute left = program.execute right := by
  have covered : Covers program.Mentions (bodyTemplates program.entry) :=
    fun template member name mentioned => ⟨template, member, mentioned⟩
  rw [execute, execute, Machine.runBody_alike alike covered]

/-! ### Redundant slashes -/

namespace Text

/-- Text is cut at a separator, whatever stands before it. -/
theorem pieces_separator {separator : Char → Bool} {mark : Char} (own : separator mark = true)
    (front rest : List Char) :
    pieces separator (front ++ mark :: rest) = pieces separator front ++ pieces separator rest := by
  induction front with
  | nil => simp [pieces, own]
  | cons c more ih =>
    rw [List.cons_append, pieces, pieces, ih]
    split
    · rfl
    · cases cut : pieces separator more with
      | nil => exact absurd cut (pieces_ne_nil separator more)
      | cons first others => rfl

/-- The second path has one slash more than the first, with nothing or another slash on one of its
sides. The query, if there is one, stays. -/
inductive ExtraSlash : String → String → Prop
  | intro (front rest query : List Char) (unmarked : '?' ∉ front ++ rest)
      (marked : ∀ c ∈ query.head?, c = '?')
      (redundant : (∀ c ∈ front.getLast?, c = '/') ∨ ∀ c ∈ rest.head?, c = '/') :
      ExtraSlash (String.ofList (front ++ rest ++ query))
        (String.ofList (front ++ '/' :: rest ++ query))

/-- Two paths are the same up to redundant slashes. -/
def SameUpToSlashes : String → String → Prop := Relation.EqvGen ExtraSlash

theorem splitQuery_append {path query : List Char} (unmarked : '?' ∉ path)
    (marked : ∀ c ∈ query.head?, c = '?') :
    splitQuery (String.ofList (path ++ query))
      = (String.ofList path, query.tail?.map String.ofList) := by
  have cut : splitFirst '?' (path ++ query) = (path, query.tail?) := by
    induction path with
    | nil =>
      cases query with
      | nil => rfl
      | cons c rest => simp [splitFirst, marked c rfl]
    | cons c rest ih =>
      rw [List.mem_cons, not_or] at unmarked
      simp [splitFirst, Ne.symm unmarked.1, ih unmarked.2]
  rw [splitQuery, String.toList_ofList, cut]

/-- The non-empty pieces of a path, as lists. -/
def components (path : List Char) : List (List Char) :=
  (pieces (· == '/') path).filter fun piece => !piece.isEmpty

theorem components_slash (front rest : List Char) :
    components (front ++ '/' :: rest) = components front ++ components rest := by
  rw [components, pieces_separator (by simp), List.filter_append]
  rfl

theorem components_redundant {front rest : List Char}
    (redundant : (∀ c ∈ front.getLast?, c = '/') ∨ ∀ c ∈ rest.head?, c = '/') :
    components (front ++ '/' :: rest) = components (front ++ rest) := by
  rw [components_slash]
  rcases redundant with before | behind
  · rcases List.eq_nil_or_concat front with rfl | ⟨more, c, rfl⟩
    · rfl
    · obtain rfl : c = '/' := before c (by simp)
      rw [List.concat_eq_append, List.append_assoc, List.singleton_append, components_slash,
        components_slash]
      exact congrArg (· ++ components rest) (List.append_nil _)
  · cases rest with
    | nil => rw [List.append_nil]; exact List.append_nil _
    | cons c more =>
      obtain rfl : c = '/' := behind c rfl
      rw [components_slash]
      rfl

theorem ExtraSlash.split {before after : String} (extra : ExtraSlash before after) :
    segments (splitQuery before).1 = segments (splitQuery after).1 ∧
      (splitQuery before).2 = (splitQuery after).2 := by
  obtain ⟨front, rest, query, unmarked, marked, redundant⟩ := extra
  have unmarkedAfter : '?' ∉ front ++ '/' :: rest := by simpa using unmarked
  rw [splitQuery_append unmarked marked, splitQuery_append unmarkedAfter marked]
  have same := components_redundant redundant
  rw [components, components] at same
  simp only [segments, String.toList_ofList, same, and_self]

/-- Redundant slashes show neither in the segments nor in the query. -/
theorem SameUpToSlashes.split {before after : String} (same : SameUpToSlashes before after) :
    segments (splitQuery before).1 = segments (splitQuery after).1 ∧
      (splitQuery before).2 = (splitQuery after).2 := by
  induction same with
  | rel _ _ extra => exact extra.split
  | refl _ => exact ⟨rfl, rfl⟩
  | symm _ _ _ ih => exact ⟨ih.1.symm, ih.2.symm⟩
  | trans _ _ _ _ _ first second => exact ⟨first.1.trans second.1, first.2.trans second.2⟩

end Text

namespace Request

theorem segments_eq_of_slashes {before after : Attributes} {pathNames : List String}
    {queryName : String}
    (same : Text.SameUpToSlashes (rawPath before pathNames) (rawPath after pathNames)) :
    (ofAttributes before pathNames queryName).segments
      = (ofAttributes after pathNames queryName).segments := by
  simp only [ofAttributes]
  exact same.split.1

/-- What stands behind the question mark is only read where the query attribute is missing. -/
theorem query_eq_of_slashes {before after : Attributes} {pathNames : List String}
    {queryName : String}
    (same : Text.SameUpToSlashes (rawPath before pathNames) (rawPath after pathNames))
    (kept : before.get? queryName = after.get? queryName) :
    (ofAttributes before pathNames queryName).query
      = (ofAttributes after pathNames queryName).query := by
  simp only [ofAttributes, kept, same.split.2]

theorem ofAttributes_alike {names : String → Prop} {before after : Attributes}
    {pathNames : List String} {queryName : String}
    (segments : (ofAttributes before pathNames queryName).segments
      = (ofAttributes after pathNames queryName).segments)
    (query : (ofAttributes before pathNames queryName).query
      = (ofAttributes after pathNames queryName).query)
    (attributes : ∀ name, names name → before.get? name = after.get? name)
    (path : names "path" → (ofAttributes before pathNames queryName).path
      = (ofAttributes after pathNames queryName).path) :
    (ofAttributes before pathNames queryName).Alike names
      (ofAttributes after pathNames queryName) where
  segments := segments
  query := query
  parameters := congrArg Text.Form.pairs query
  attributes := attributes
  path := path

end Request

/-- A run depends on the segments and the query of a request, on the attributes that the program
mentions and on the path if the program mentions it. So redundant slashes in the path make no
difference to a program that mentions neither the path nor an attribute whose text has changed, if
the query is the same. And the query is the same where the attribute has not changed from which it is
read first. -/
theorem Program.execute_mentions (program : Program) (options : Options)
    (before after : Attributes) :
    let left := Request.ofAttributes before options.pathAttributes options.queryAttribute
    let right := Request.ofAttributes after options.pathAttributes options.queryAttribute
    (left.segments = right.segments → left.query = right.query →
        (∀ name, program.Mentions name → before.get? name = after.get? name) →
        (program.Mentions "path" → left.path = right.path) →
      program.execute left = program.execute right) ∧
    (Text.SameUpToSlashes (Request.rawPath before options.pathAttributes)
          (Request.rawPath after options.pathAttributes) →
        left.query = right.query → ¬ program.Mentions "path" →
        (∀ name, before.get? name ≠ after.get? name → ¬ program.Mentions name) →
      program.execute left = program.execute right) ∧
    (Text.SameUpToSlashes (Request.rawPath before options.pathAttributes)
          (Request.rawPath after options.pathAttributes) →
        before.get? options.queryAttribute = after.get? options.queryAttribute →
      left.query = right.query) := by
  intro left right
  refine ⟨?_, ?_, Request.query_eq_of_slashes⟩
  · intro segments query attributes path
    exact execute_alike (Request.ofAttributes_alike segments query attributes path)
  · intro slashes query unread unaltered
    apply execute_alike
    apply Request.ofAttributes_alike
    · exact Request.segments_eq_of_slashes slashes
    · exact query
    · intro name mentioned
      exact Decidable.byContradiction fun altered => unaltered name altered mentioned
    · intro mentioned
      exact absurd mentioned unread

/-- Greets the user of a shop by name. -/
def Program.greeting : Program where
  entry := [.advance 0,
    .literals 0 [("shop", [.return [("page", ⟨"{user}", [.variable "user" [] true]⟩)]])]
      [("shop", 0)]]
  regexGroups := 0
  branches := 0

theorem Program.execute_mentions_greeting :
    let before := Attributes.ofList [("HOST", "a"), ("PATH_INFO", "/shop?x=1"), ("user", "ann")]
    let moved := Attributes.ofList [("HOST", "b"), ("PATH_INFO", "/shop?x=1"), ("user", "ann")]
    let after := Attributes.ofList [("HOST", "a"), ("PATH_INFO", "/shop/?x=1"), ("user", "ann")]
    let request attributes := Request.ofAttributes attributes ["PATH_INFO"] "QUERY_STRING"
    (greeting.execute (request before)).outcome = ⟨.ofList [("page", "ann")]⟩ ∧
      greeting.execute (request before) = greeting.execute (request moved) ∧
      greeting.execute (request before) = greeting.execute (request after) := by
  intro before moved after request
  let options : Options := { pathAttributes := ["PATH_INFO"], queryAttribute := "QUERY_STRING" }
  have only : ∀ name, greeting.Mentions name → name = "user" := by
    rintro name ⟨template, member, filters, framed, part⟩
    simp only [templates, greeting, bodyTemplates, instructionTemplates, literalTemplates,
      List.map_cons, List.map_nil, List.append_nil, List.nil_append, List.mem_singleton] at member
    subst member
    simp only [List.mem_singleton, TemplatePart.variable.injEq] at part
    exact part.1
  refine ⟨by decide +kernel, ?_, ?_⟩
  · apply (execute_mentions greeting options before moved).1
    · rfl
    · rfl
    · intro name mentioned
      rw [only name mentioned]
      decide +kernel
    · intro mentioned
      rfl
  · obtain ⟨-, unmoved, kept⟩ := execute_mentions greeting options before after
    have slashes : Text.SameUpToSlashes (Request.rawPath before options.pathAttributes)
        (Request.rawPath after options.pathAttributes) :=
      .rel _ _ (.intro "/shop".toList [] "?x=1".toList (by decide) (by simp) (.inr (by simp)))
    apply unmoved slashes (kept slashes (by decide +kernel))
    · intro mentioned
      exact absurd (only _ mentioned) (by decide)
    · intro name altered mentioned
      rw [only name mentioned] at altered
      exact altered (by decide +kernel)

end Signpost
