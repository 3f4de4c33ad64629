import Signpost.Proofs.Tree.Building

/-!
# Declared parameters

A declaration is about the parameter with its name in the last segment that has one. It may state a type
and functions; of several statements about one parameter the last one counts, for the type and for the
functions apart. Declarations leave names and the order of parameters alone, so which parameter a
declaration is about, and whether it is refused, can be told from the patterns as they have been read.
-/
namespace Signpost

namespace SpecNode

/-- The declarations of a path. -/
def declarations (spec : SpecNode) : List SpecNode :=
  spec.children.filter fun child => child.kind = .parameter

/-- A path without its declarations. -/
def undeclared (spec : SpecNode) : SpecNode :=
  { spec with children := spec.children.filter fun child => child.kind ≠ .parameter }

theorem undeclared_declarations (spec : SpecNode) : spec.undeclared.declarations = [] := by
  rw [declarations, undeclared, List.filter_filter, List.filter_eq_nil_iff]
  simp

/-- What a declaration states can be read. -/
def Readable (declaration : SpecNode) : Prop :=
  (∀ token, declaration.attribute? "type" = some token → ∃ typed, readType token = .ok typed) ∧
    ∀ text, declaration.attribute? "function" = some text →
      ∃ functions, readFunctions text = .ok functions

end SpecNode

/-! ### What declarations state -/

/-- What the last of the declarations of a name that have an attribute states in it. -/
def lastStated? (declarations : List SpecNode) (name field : String) : Option String :=
  (declarations.reverse.filter fun declaration => declaration.attribute? "name" = some name).findSome?
    fun declaration => declaration.attribute? field

theorem lastStated?_concat (declarations : List SpecNode) (last : SpecNode) (name field : String) :
    lastStated? (declarations ++ [last]) name field
      = if last.attribute? "name" = some name then
          (last.attribute? field).or (lastStated? declarations name field)
        else lastStated? declarations name field := by
  rw [lastStated?, List.reverse_append, List.reverse_singleton, List.singleton_append, List.filter_cons]
  by_cases named : last.attribute? "name" = some name
  · rw [if_pos (decide_eq_true named), if_pos named, List.findSome?_cons]
    cases last.attribute? field <;> rfl
  · rw [if_neg (by simpa using named), if_neg named]
    rfl

/-- What has been stated is read, and without a statement everything stays. -/
def settle {α : Type} (stated? : Option String) (read : String → Except PatternFault α) (before : α) :
    Except PatternFault α :=
  match stated? with
  | some text => read text
  | none => .ok before

/-- A later statement takes the place of an earlier one. -/
theorem settle_later {α : Type} {earlier? later? : Option String}
    {read : String → Except PatternFault α} {first middle last : α}
    (before : settle earlier? read first = .ok middle)
    (after : settle later? read middle = .ok last) :
    settle (later?.or earlier?) read first = .ok last := by
  cases later? with
  | some text => exact after
  | none =>
    cases after
    exact before

theorem settle_ok_iff {α : Type} {stated? : Option String} {read : String → Except PatternFault α}
    (before : α) :
    (∃ after, settle stated? read before = .ok after) ↔
      ∀ text, stated? = some text → ∃ value, read text = .ok value := by
  cases stated? <;> simp [settle]

namespace RouteTree

theorem declareParameter_eq (declaration : SpecNode) (parameter : Parameter) :
    declareParameter declaration parameter = do
      let typed ← settle (declaration.attribute? "type") readType
        (parameter.valueType, parameter.innerGroups)
      let functions ← settle (declaration.attribute? "function") readFunctions parameter.functions
      return { parameter with valueType := typed.1, innerGroups := typed.2, functions } := by
  rw [declareParameter]
  cases declaration.attribute? "type" <;> cases declaration.attribute? "function" <;> rfl

/-- A declaration gives a parameter what it states, and everything else stays. -/
theorem declareParameter_ok_iff {declaration : SpecNode} {before after : Parameter} :
    declareParameter declaration before = .ok after ↔
      after.name = before.name ∧ after.required = before.required ∧
      settle (declaration.attribute? "type") readType (before.valueType, before.innerGroups)
        = .ok (after.valueType, after.innerGroups) ∧
      settle (declaration.attribute? "function") readFunctions before.functions
        = .ok after.functions := by
  simp only [declareParameter_eq, bind_ok_iff, pure_ok_iff]
  constructor
  · rintro ⟨typed, stated, functions, encoded, rfl⟩
    exact ⟨rfl, rfl, stated, encoded⟩
  · rintro ⟨name, required, typed, encoded⟩
    refine ⟨_, typed, _, encoded, ?_⟩
    rw [← name, ← required]

theorem declareParameter_succeeds_iff {declaration : SpecNode} {parameter : Parameter} :
    (∃ after, declareParameter declaration parameter = .ok after) ↔ declaration.Readable := by
  rw [SpecNode.Readable, ← settle_ok_iff (parameter.valueType, parameter.innerGroups),
    ← settle_ok_iff parameter.functions]
  simp only [declareParameter_eq, bind_ok_iff, pure_ok_iff]
  constructor
  · rintro ⟨_, typed, stated, functions, encoded, -⟩
    exact ⟨⟨typed, stated⟩, functions, encoded⟩
  · rintro ⟨⟨typed, stated⟩, functions, encoded⟩
    exact ⟨_, typed, stated, functions, encoded, rfl⟩

end RouteTree

/-- A parameter has changed to what declarations state last under its name. -/
structure Parameter.Restated (declarations : List SpecNode) (parsed parameter : Parameter) : Prop where
  name : parameter.name = parsed.name
  required : parameter.required = parsed.required
  typed : settle (lastStated? declarations parsed.name "type") readType
    (parsed.valueType, parsed.innerGroups) = .ok (parameter.valueType, parameter.innerGroups)
  encoded : settle (lastStated? declarations parsed.name "function") readFunctions parsed.functions
    = .ok parameter.functions

theorem Parameter.Restated.refl (parameter : Parameter) : parameter.Restated [] parameter :=
  ⟨rfl, rfl, rfl, rfl⟩

/-- A declaration of another name states nothing about a parameter. -/
theorem Parameter.Restated.other {declarations : List SpecNode} {declaration : SpecNode}
    {parsed parameter : Parameter} (restated : parsed.Restated declarations parameter)
    (apart : declaration.attribute? "name" ≠ some parsed.name) :
    parsed.Restated (declarations ++ [declaration]) parameter := by
  refine ⟨restated.name, restated.required, ?_, ?_⟩
  · rw [lastStated?_concat, if_neg apart]
    exact restated.typed
  · rw [lastStated?_concat, if_neg apart]
    exact restated.encoded

/-- The names of the parameters of a segment. -/
def Pattern.names (pattern : Pattern) : List String := pattern.parameters.map (·.name)

theorem Pattern.isSome_parameter?_iff {pattern : Pattern} {name : String} :
    (pattern.parameter? name).isSome = true ↔ name ∈ pattern.names := by
  simp [parameter?, names]

/-- A parameter has changed to what declarations state if no segment behind its own has the name, and
otherwise it is as it was. -/
structure Parameter.Declared (declarations : List SpecNode) (behind : List Pattern)
    (parsed parameter : Parameter) : Prop where
  covered : parsed.name ∈ behind.flatMap Pattern.names → parameter = parsed
  stated : parsed.name ∉ behind.flatMap Pattern.names → parsed.Restated declarations parameter

/-- A declaration of a name that a parameter does not have, or that a segment behind has as well, is
about something else. -/
theorem Parameter.Declared.other {declarations : List SpecNode} {behind : List Pattern}
    {declaration : SpecNode} {name : String} {parsed parameter : Parameter}
    (declared : parsed.Declared declarations behind parameter)
    (named : declaration.attribute? "name" = some name)
    (apart : parsed.name = name → name ∈ behind.flatMap Pattern.names) :
    parsed.Declared (declarations ++ [declaration]) behind parameter := by
  refine ⟨declared.covered, fun uncovered => (declared.stated uncovered).other fun same => ?_⟩
  have equal : parsed.name = name := Option.some.inj (same.symm.trans named)
  exact uncovered (equal ▸ apart equal)

/-- Segments have changed to what declarations state about their parameters, and in nothing else. -/
inductive RestatedAll (declarations : List SpecNode) : List Pattern → List Pattern → Prop
  | nil : RestatedAll declarations [] []
  | cons {parsed pattern : Pattern} {behind patterns : List Pattern}
    (source : pattern.source = parsed.source) (parts : pattern.parts = parsed.parts)
    (parameters : List.Forall₂ (Parameter.Declared declarations behind) parsed.parameters
      pattern.parameters)
    (later : RestatedAll declarations behind patterns) :
    RestatedAll declarations (parsed :: behind) (pattern :: patterns)

/-- What declarations leave alone in a segment. -/
def Pattern.layout (pattern : Pattern) : String × Bool × List PatternPart × List (String × Bool) :=
  (pattern.source, pattern.isLiteral, pattern.parts,
    pattern.parameters.map fun parameter => (parameter.name, parameter.required))

/-- A declaration of the name of a parameter that no segment behind has adds to what is stated. -/
theorem Parameter.Declared.applied {declarations : List SpecNode} {behind : List Pattern}
    {declaration : SpecNode} {parsed before after : Parameter}
    (declared : parsed.Declared declarations behind before)
    (named : declaration.attribute? "name" = some parsed.name)
    (uncovered : parsed.name ∉ behind.flatMap Pattern.names)
    (changed : RouteTree.declareParameter declaration before = .ok after) :
    parsed.Declared (declarations ++ [declaration]) behind after := by
  obtain ⟨name, required, typed, encoded⟩ := RouteTree.declareParameter_ok_iff.mp changed
  have earlier := declared.stated uncovered
  refine ⟨fun covered => absurd covered uncovered, fun _ => ⟨?_, ?_, ?_, ?_⟩⟩
  · exact name.trans earlier.name
  · exact required.trans earlier.required
  · rw [lastStated?_concat, if_pos named]
    exact settle_later earlier.typed typed
  · rw [lastStated?_concat, if_pos named]
    exact settle_later earlier.encoded encoded

theorem Parameter.Declared.layout {declarations : List SpecNode} {behind : List Pattern}
    {parsed parameter : Parameter} (declared : parsed.Declared declarations behind parameter) :
    (parameter.name, parameter.required) = (parsed.name, parsed.required) := by
  by_cases covered : parsed.name ∈ behind.flatMap Pattern.names
  · rw [declared.covered covered]
  · rw [(declared.stated covered).name, (declared.stated covered).required]

namespace RestatedAll

variable {declarations : List SpecNode} {parsed patterns : List Pattern}

theorem refl (patterns : List Pattern) : RestatedAll [] patterns patterns := by
  induction patterns with
  | nil => exact .nil
  | cons pattern rest ih =>
    refine .cons rfl rfl (List.forall₂_same.mpr fun parameter _ => ?_) ih
    exact ⟨fun _ => rfl, fun _ => .refl parameter⟩

theorem layout (all : RestatedAll declarations parsed patterns) :
    patterns.map Pattern.layout = parsed.map Pattern.layout := by
  induction all with
  | nil => rfl
  | @cons parsed pattern _ _ source parts parameters _ ih =>
    have same : pattern.parameters.map (fun parameter => (parameter.name, parameter.required))
        = parsed.parameters.map fun parameter => (parameter.name, parameter.required) := by
      symm
      rw [← List.forall₂_eq_eq_eq, List.forall₂_map_left_iff, List.forall₂_map_right_iff]
      exact parameters.imp fun _ _ declared => declared.layout.symm
    -- whether a segment is literal is whether it has parameters, and it has as many as before
    have literal : pattern.isLiteral = parsed.isLiteral := by
      simpa [Pattern.isLiteral] using congrArg List.isEmpty same
    rw [List.map_cons, List.map_cons, ih, Pattern.layout, Pattern.layout, source, parts, same, literal]

/-- A declaration of a name that no segment has is about none of them. -/
theorem other (all : RestatedAll declarations parsed patterns) {declaration : SpecNode}
    {name : String} (named : declaration.attribute? "name" = some name)
    (absent : name ∉ parsed.flatMap Pattern.names) :
    RestatedAll (declarations ++ [declaration]) parsed patterns := by
  induction all with
  | nil => exact .nil
  | @cons parsed pattern behind _ source parts parameters _ ih =>
    rw [List.flatMap_cons, List.mem_append, not_or] at absent
    refine .cons source parts ?_ (ih absent.2)
    rw [List.forall₂_iff_zip] at parameters ⊢
    refine ⟨parameters.1, fun {old new} member => (parameters.2 member).other named fun same => ?_⟩
    exact absurd (List.mem_map.mpr ⟨old, (List.of_mem_zip member).1, same⟩) absent.1

theorem names (all : RestatedAll declarations parsed patterns) :
    patterns.flatMap Pattern.names = parsed.flatMap Pattern.names := by
  have same := congrArg (List.flatMap fun layout => layout.2.2.2.map (·.1)) all.layout
  simp only [List.flatMap_map, Pattern.layout, List.map_map, Function.comp_def] at same
  exact same

end RestatedAll

/-! ### One declaration -/

theorem forall₂_trans {α β γ : Type} {first : α → β → Prop} {second : β → γ → Prop}
    {both : α → γ → Prop} (each : ∀ start middle stop, first start middle → second middle stop →
      both start stop) {starts : List α} {middles : List β} {stops : List γ}
    (before : List.Forall₂ first starts middles) (after : List.Forall₂ second middles stops) :
    List.Forall₂ both starts stops := by
  induction before generalizing stops with
  | nil =>
    cases after
    exact .nil
  | cons here _ ih =>
    cases after with
    | cons there later => exact .cons (each _ _ _ here there) (ih later)

namespace RouteTree

theorem changeLast?_none_iff {α ε : Type} {condition : α → Bool} {change : α → Except ε α}
    {inputs : List α} :
    changeLast? condition change inputs = none ↔ ∀ input ∈ inputs, condition input = false := by
  induction inputs with
  | nil => simp [changeLast?]
  | cons first rest ih =>
    rw [changeLast?, List.forall_mem_cons, ← ih]
    cases changeLast? condition change rest with
    | some => simp
    | none => cases condition first <;> simp

/-- A change of the last fitting element succeeds or fails as the change of any fitting one does. -/
theorem changeLast?_succeeds_iff {α ε : Type} {condition : α → Bool} {change : α → Except ε α}
    {possible : Prop} {inputs : List α} (each : ∀ input ∈ inputs, condition input = true →
      ((∃ output, change input = .ok output) ↔ possible)) {result : Except ε (List α)}
    (changed : changeLast? condition change inputs = some result) :
    (∃ outputs, result = .ok outputs) ↔ possible := by
  induction inputs generalizing result with
  | nil => cases changed
  | cons first rest ih =>
    obtain ⟨here, later⟩ := List.forall_mem_cons.mp each
    rw [changeLast?] at changed
    split at changed
    next deeper found =>
      cases changed
      rw [← ih later found]
      cases deeper <;> simp [Except.map]
    next =>
      split at changed
      next fits =>
        cases changed
        rw [← here fits]
        cases change first <;> simp [Except.map]
      next => cases changed

/-- A declaration changes the parameters of a segment that have its name. -/
theorem declareInPattern_ok_iff {declaration : SpecNode} {name : String} {before after : Pattern} :
    declareInPattern declaration name before = .ok after ↔
      after.source = before.source ∧ after.parts = before.parts ∧
      List.Forall₂ (fun old new =>
        (old.name = name → declareParameter declaration old = .ok new) ∧ (old.name ≠ name → new = old))
        before.parameters after.parameters := by
  have each (old new : Parameter) : (if old.name = name then
      (declareParameter declaration old).mapError fun fault =>
        TreeError.pattern ⟨before.source, fault⟩
      else .ok old) = .ok new ↔
      (old.name = name → declareParameter declaration old = .ok new) ∧
        (old.name ≠ name → new = old) := by
    by_cases same : old.name = name
    · simp [same, mapError_ok_iff]
    · simp [same, eq_comm]
  simp only [declareInPattern, bind_ok_iff, pure_ok_iff, mapM_ok_iff, each]
  constructor
  · rintro ⟨parameters, changed, rfl⟩
    exact ⟨rfl, rfl, changed⟩
  · rintro ⟨source, parts, changed⟩
    refine ⟨_, changed, ?_⟩
    rw [← source, ← parts]

/-- A declaration that names a parameter of a segment can be applied there if it can be read. -/
theorem declareInPattern_succeeds_iff {declaration : SpecNode} {name : String} {pattern : Pattern}
    (has : name ∈ pattern.names) :
    (∃ after, declareInPattern declaration name pattern = .ok after) ↔ declaration.Readable := by
  constructor
  · rintro ⟨after, declared⟩
    obtain ⟨-, -, changed⟩ := declareInPattern_ok_iff.mp declared
    obtain ⟨named, member, same⟩ := List.mem_map.mp has
    obtain ⟨new, -, done, -⟩ := forall₂_origin (List.Forall₂.flip changed) named member
    exact declareParameter_succeeds_iff.mp ⟨new, done same⟩
  · intro readable
    have choice (old : Parameter) : ∃ new,
        (old.name = name → declareParameter declaration old = .ok new) ∧
          (old.name ≠ name → new = old) := by
      by_cases same : old.name = name
      · obtain ⟨new, declared⟩ := declareParameter_succeeds_iff.mpr readable
        exact ⟨new, fun _ => declared, absurd same⟩
      · exact ⟨old, fun equal => absurd equal same, fun _ => rfl⟩
    choose change changed using choice
    refine ⟨{ pattern with parameters := pattern.parameters.map change },
      declareInPattern_ok_iff.mpr ⟨rfl, rfl, ?_⟩⟩
    rw [List.forall₂_map_right_iff, List.forall₂_same]
    exact fun old _ => changed old

/-- A declaration is about some segment exactly when one of them has a parameter with the name. -/
theorem changeLast?_isSome_iff (patterns : List Pattern) (declaration : SpecNode) (name : String) :
    (changeLast? (fun pattern => (pattern.parameter? name).isSome)
        (declareInPattern declaration name) patterns).isSome = true ↔
      name ∈ patterns.flatMap Pattern.names := by
  simp only [← Pattern.isSome_parameter?_iff, List.mem_flatMap]
  rw [← Option.ne_none_iff_isSome, Ne, changeLast?_none_iff]
  simp only [not_forall, Bool.not_eq_false, exists_prop]

/-- A declaration that has been applied counts as the last one. -/
theorem changeLast?_restates {declarations : List SpecNode} {parsed patterns after : List Pattern}
    (all : RestatedAll declarations parsed patterns) {declaration : SpecNode} {name : String}
    (named : declaration.attribute? "name" = some name)
    (changed : changeLast? (fun pattern => (pattern.parameter? name).isSome)
      (declareInPattern declaration name) patterns = some (.ok after)) :
    RestatedAll (declarations ++ [declaration]) parsed after := by
  induction all generalizing after with
  | nil => cases changed
  | @cons parsed pattern behind patterns source parts parameters later ih =>
    have known := changeLast?_isSome_iff patterns declaration name
    rw [later.names] at known
    rw [changeLast?] at changed
    split at changed
    next result deeper =>
      -- a segment behind this one has the name, so nothing is stated about it here
      have covered : name ∈ behind.flatMap Pattern.names := known.mp (by rw [deeper]; rfl)
      cases result with
      | error => cases changed
      | ok others =>
        cases changed
        apply RestatedAll.cons source parts
        · exact parameters.imp fun old new declared => declared.other named fun _ => covered
        · exact ih deeper
    next shallow =>
      -- this is the last segment with the name, so the declaration is about its parameter
      have uncovered : name ∉ behind.flatMap Pattern.names := by
        rw [← known, shallow]
        exact Bool.false_ne_true
      split at changed
      · cases done : declareInPattern declaration name pattern with
        | error => rw [done] at changed; cases changed
        | ok pattern' =>
          rw [done] at changed
          cases changed
          obtain ⟨source', parts', changes⟩ := declareInPattern_ok_iff.mp done
          apply RestatedAll.cons (source'.trans source) (parts'.trans parts)
          · refine forall₂_trans ?_ parameters changes
            intro old middle new declared change
            have still : middle.name = old.name := (Prod.mk.inj declared.layout).1
            by_cases same : old.name = name
            · subst same
              exact declared.applied named uncovered (change.1 still)
            · have kept : new = middle := change.2 (still ▸ same)
              exact kept ▸ declared.other named (absurd · same)
          · exact later.other named uncovered
      · cases changed

end RouteTree

/-- A declaration can be applied to segments: one of them has a parameter with its name, and what it
states can be read. -/
def SpecNode.AppliesTo (declaration : SpecNode) (parsed : List Pattern) : Prop :=
  (∃ name, declaration.attribute? "name" = some name ∧ name ∈ parsed.flatMap Pattern.names) ∧
    declaration.Readable

namespace RouteTree

theorem applyDeclaration_restates {declarations : List SpecNode}
    {parsed patterns after : List Pattern} (all : RestatedAll declarations parsed patterns)
    {route : String} {declaration : SpecNode}
    (applied : applyDeclaration route patterns declaration = .ok after) :
    RestatedAll (declarations ++ [declaration]) parsed after := by
  obtain ⟨name, required, applied⟩ := bind_ok_iff.mp applied
  split at applied
  next result changed =>
    subst applied
    exact changeLast?_restates all (requireAttribute_ok_iff.mp required) changed
  next => cases applied

/-- Whether a declaration is refused can be told from the segments as they have been parsed. -/
theorem applyDeclaration_succeeds_iff {declarations : List SpecNode} {parsed patterns : List Pattern}
    (all : RestatedAll declarations parsed patterns) (route : String) (declaration : SpecNode) :
    (∃ after, applyDeclaration route patterns declaration = .ok after) ↔
      declaration.AppliesTo parsed := by
  have each (name : String) {result : Except TreeError (List Pattern)}
      (changed : changeLast? (fun pattern => (pattern.parameter? name).isSome)
        (declareInPattern declaration name) patterns = some result) :
      (∃ after, result = .ok after) ↔ declaration.Readable :=
    changeLast?_succeeds_iff (fun pattern _ has =>
      declareInPattern_succeeds_iff (Pattern.isSome_parameter?_iff.mp has)) changed
  constructor
  · rintro ⟨after, applied⟩
    obtain ⟨name, required, applied⟩ := bind_ok_iff.mp applied
    split at applied
    next result changed =>
      have has : name ∈ parsed.flatMap Pattern.names := by
        rw [← all.names, ← changeLast?_isSome_iff patterns declaration, changed]
        rfl
      exact ⟨⟨name, requireAttribute_ok_iff.mp required, has⟩, (each name changed).mp ⟨after, applied⟩⟩
    next => cases applied
  · rintro ⟨⟨name, named, has⟩, readable⟩
    rw [← all.names, ← changeLast?_isSome_iff patterns declaration] at has
    obtain ⟨result, changed⟩ := Option.isSome_iff_exists.mp has
    obtain ⟨after, rfl⟩ := (each name changed).mpr readable
    refine ⟨after, bind_ok_iff.mpr ⟨name, requireAttribute_ok_iff.mpr named, ?_⟩⟩
    rw [changed]

/-! ### All declarations of a path -/

theorem pathPatterns_eq (spec : SpecNode) :
    pathPatterns spec = pathPatterns spec.undeclared >>=
      spec.declarations.foldlM (applyDeclaration ((spec.attribute? "pattern").getD "")) := by
  have none : (spec.undeclared.children.filter fun child => child.kind = .parameter) = [] :=
    spec.undeclared_declarations
  rw [pathPatterns, pathPatterns, none]
  simp only [List.foldlM_nil, bind_pure]
  rfl

/-- Declarations that have been applied one after another have changed segments to what they state. -/
theorem applyDeclarations_restate {route : String} {parsed : List Pattern} (rest : List SpecNode)
    {declarations : List SpecNode} {patterns after : List Pattern}
    (all : RestatedAll declarations parsed patterns)
    (applied : rest.foldlM (applyDeclaration route) patterns = .ok after) :
    RestatedAll (declarations ++ rest) parsed after := by
  induction rest generalizing declarations patterns with
  | nil =>
    rw [List.append_nil]
    exact pure_ok_iff.mp applied ▸ all
  | cons declaration rest ih =>
    rw [List.foldlM_cons] at applied
    obtain ⟨middle, first, later⟩ := bind_ok_iff.mp applied
    rw [List.append_cons]
    exact ih (applyDeclaration_restates all first) later

theorem applyDeclarations_succeed_iff {route : String} {parsed : List Pattern} (rest : List SpecNode)
    {declarations : List SpecNode} {patterns : List Pattern}
    (all : RestatedAll declarations parsed patterns) :
    (∃ after, rest.foldlM (applyDeclaration route) patterns = .ok after) ↔
      ∀ declaration ∈ rest, declaration.AppliesTo parsed := by
  induction rest generalizing declarations patterns with
  | nil => exact ⟨fun _ => by simp, fun _ => ⟨patterns, rfl⟩⟩
  | cons declaration rest ih =>
    rw [List.forall_mem_cons, ← applyDeclaration_succeeds_iff all route declaration]
    constructor
    · rintro ⟨after, applied⟩
      rw [List.foldlM_cons] at applied
      obtain ⟨middle, first, later⟩ := bind_ok_iff.mp applied
      exact ⟨⟨middle, first⟩, (ih (applyDeclaration_restates all first)).mp ⟨after, later⟩⟩
    · rintro ⟨⟨middle, first⟩, later⟩
      obtain ⟨after, applied⟩ := (ih (applyDeclaration_restates all first)).mpr later
      exact ⟨after, bind_ok_iff.mpr ⟨middle, first, applied⟩⟩

/-- The segments of a path are its parsed ones with what its declarations state. -/
theorem pathPatterns_restate {spec : SpecNode} {patterns : List Pattern}
    (found : pathPatterns spec = .ok patterns) :
    ∃ parsed, pathPatterns spec.undeclared = .ok parsed ∧
      RestatedAll spec.declarations parsed patterns := by
  rw [pathPatterns_eq] at found
  obtain ⟨parsed, read, applied⟩ := bind_ok_iff.mp found
  exact ⟨parsed, read, applyDeclarations_restate spec.declarations (.refl parsed) applied⟩

theorem pathPatterns_succeeds_iff {spec : SpecNode} {parsed : List Pattern}
    (read : pathPatterns spec.undeclared = .ok parsed) :
    (∃ patterns, pathPatterns spec = .ok patterns) ↔
      ∀ declaration ∈ spec.declarations, declaration.AppliesTo parsed := by
  rw [pathPatterns_eq, read]
  exact applyDeclarations_succeed_iff spec.declarations (.refl parsed)

end RouteTree

/-! ### The chain of a path -/

namespace Arena

/-- Nodes of the given kinds, made one after another, each under the one before it. -/
def Chained (arena : Arena) (parent first : Nat) : List NodeKind → Prop
  | [] => True
  | kind :: rest =>
    first < arena.size ∧ (arena.node first).kind = kind ∧
      (arena.node first).parent = some parent ∧ arena.Chained first (first + 1) rest

/-- Building changes neither the place of a node nor, unless it is a switch, its kind. -/
theorem Step.keeps_kind {arena grown : Arena} (step : Step arena grown) {id : Nat}
    (old : id < arena.size) (settled : (arena.node id).kind ≠ .switch none) :
    (grown.node id).kind = (arena.node id).kind ∧
      (grown.node id).parent = (arena.node id).parent := by
  cases step with
  | block name =>
    rw [node_alloc, if_neg (Nat.ne_of_lt old)]
    exact ⟨rfl, rfl⟩
  | insert inside _ inserted =>
    rw [node_insert inside inserted, if_neg (Nat.ne_of_lt old)]
    split
    next up => exact up ▸ ⟨rfl, rfl⟩
    next => exact ⟨rfl, rfl⟩
  | bind place name value => exact ⟨setValue_kind name value, setValue_parent name value⟩
  | settle unsettled value =>
    rw [node_modify]
    split
    next here => exact absurd (here.1 ▸ unsettled) settled
    next => exact ⟨rfl, rfl⟩

theorem Chained.step {arena grown : Arena} (step : Step arena grown) {kinds : List NodeKind}
    (settled : .switch none ∉ kinds) {parent first : Nat} (chained : arena.Chained parent first kinds) :
    grown.Chained parent first kinds := by
  induction kinds generalizing parent first with
  | nil => trivial
  | cons kind rest ih =>
    obtain ⟨inside, own, up, below⟩ := chained
    rw [List.mem_cons, not_or] at settled
    have kept := step.keeps_kind inside (own ▸ Ne.symm settled.1)
    exact ⟨Nat.lt_of_lt_of_le inside step.size_le, kept.1.trans own, kept.2.trans up,
      ih settled.2 below⟩

end Arena

namespace RouteTree

open Arena

/-- What the segments of a path are made into. -/
def segmentKinds (id : Option String) : List Pattern → List NodeKind
  | [] => [.blankPath id]
  | [last] => [(segmentContent last id).kind]
  | pattern :: rest => (segmentContent pattern none).kind :: segmentKinds id rest

theorem segmentContent_unsettled (pattern : Pattern) (id : Option String) :
    (segmentContent pattern id).kind ≠ .switch none := by
  rw [segmentContent]
  split <;> simp

theorem segmentKinds_settled (id : Option String) (patterns : List Pattern) :
    .switch none ∉ segmentKinds id patterns := by
  fun_induction segmentKinds id patterns with
  | case1 => simp
  | case2 last => simp [Ne.symm (segmentContent_unsettled last id)]
  | case3 pattern rest _ ih => simp [Ne.symm (segmentContent_unsettled pattern none), ih]

/-- The segments of a path become a chain. -/
theorem placeSegments_chained {arena grown : Arena} {parent last : Nat} {id : Option String}
    {patterns : List Pattern} (arise : ∀ pattern ∈ patterns, pattern.Arises)
    (inside : parent < arena.size)
    (placed : placeSegments arena parent id patterns = .ok (grown, last)) :
    grown.Chained parent arena.size (segmentKinds id patterns) := by
  have single {arena grown : Arena} {parent made : Nat} {content : NodeContent}
      (inside : parent < arena.size) (inserted : arena.insert parent content = .ok (grown, made)) :
      grown.Chained parent arena.size [content.kind] := by
    rw [Chained, node_insert inside inserted, if_pos rfl, size_insert inserted]
    exact ⟨Nat.lt_succ_self _, rfl, rfl, trivial⟩
  fun_induction segmentKinds id patterns generalizing arena parent with
  | case1 => exact single inside placed
  | case2 last => exact single inside placed
  | case3 pattern rest several ih =>
    rw [placeSegments, bind_ok_iff] at placed
    · obtain ⟨⟨middle, made⟩, inserted, more⟩ := placed
      obtain ⟨below, later⟩ := List.forall_mem_cons.mp arise
      have there : made < middle.size := made_lt inserted
      -- the first node is made before the rest of the chain, and building the rest keeps it
      have first := single inside inserted
      have steps := (placeSegments_steps later there more).1
      have settled : .switch none ∉ [(segmentContent pattern none).kind] := by
        simp [Ne.symm (segmentContent_unsettled pattern none)]
      have kept := steps.keeps (Chained.step · settled) first
      have chain := ih later there more
      rw [made_insert inserted, size_insert inserted] at chain
      exact ⟨kept.1, kept.2.1, kept.2.2.1, chain⟩
    · exact several

/-- Declarations change the parameters that they name and nothing else: a path becomes the chain of its
segments as they are without declarations, except that a parameter in the last segment with its name has
the type and the functions that were stated last for it. A path is refused if a declaration names a
parameter that none of its segments has. -/
theorem buildNode_declarations (blocks : Blocks) {arena : Arena} {parent : Nat}
    (inside : parent < arena.size) {spec : SpecNode} (path : spec.kind = .path) :
    (∀ known grown, buildNode blocks arena parent spec = .ok (known, grown) →
      ∃ parsed patterns, pathPatterns spec.undeclared = .ok parsed ∧
        grown.Chained parent arena.size (segmentKinds (spec.attribute? "id") patterns) ∧
        patterns.map Pattern.layout = parsed.map Pattern.layout ∧
        RestatedAll spec.declarations parsed patterns) ∧
    (∀ parsed, pathPatterns spec.undeclared = .ok parsed →
      ((∃ patterns, pathPatterns spec = .ok patterns) ↔
        ∀ declaration ∈ spec.declarations, declaration.AppliesTo parsed)) ∧
    (∀ declaration ∈ spec.declarations, ∀ name, declaration.attribute? "name" = some name →
      (∀ parsed, pathPatterns spec.undeclared = .ok parsed → name ∉ parsed.flatMap Pattern.names) →
      ∃ problem, buildNode blocks arena parent spec = .error problem) := by
  obtain ⟨kind, fields, text, children⟩ := spec
  cases path
  have built {known : Blocks} {grown : Arena}
      (done : buildNode blocks arena parent ⟨.path, fields, text, children⟩ = .ok (known, grown)) :
      ∃ patterns middle last, pathPatterns ⟨.path, fields, text, children⟩ = .ok patterns ∧
        placeSegments arena parent (fields.get? "id") patterns = .ok (middle, last) ∧
        buildChildren blocks middle last children = .ok grown := by
    simp only [buildNode, placePath, bind_ok_iff, pure_ok_iff] at done
    obtain ⟨⟨middle, last⟩, ⟨patterns, found, placed⟩, _, body, equal⟩ := done
    cases equal
    exact ⟨patterns, middle, last, found, placed, body⟩
  refine ⟨?_, fun parsed read => pathPatterns_succeeds_iff read, ?_⟩
  · intro known grown done
    obtain ⟨patterns, middle, last, found, placed, body⟩ := built done
    obtain ⟨parsed, read, all⟩ := pathPatterns_restate found
    have arise := pathPatterns_arise found
    have steps := buildChildren_steps children body (placeSegments_steps arise inside placed).2
    have chain := placeSegments_chained arise inside placed
    refine ⟨parsed, patterns, read, ?_, all.layout, all⟩
    exact steps.keeps (Chained.step · (segmentKinds_settled _ patterns)) chain
  · intro declaration member name named missing
    cases done : buildNode blocks arena parent ⟨.path, fields, text, children⟩ with
    | error problem => exact ⟨problem, rfl⟩
    | ok result =>
      obtain ⟨patterns, middle, last, found, -⟩ := built done
      obtain ⟨parsed, read, -⟩ := pathPatterns_restate found
      obtain ⟨⟨other, same, has⟩, -⟩ :=
        (pathPatterns_succeeds_iff read).mp ⟨patterns, found⟩ declaration member
      cases named.symm.trans same
      exact absurd has (missing parsed read)

/-- A path with a name in two segments, and with declarations of which some take the place of others. -/
def postSpec : SpecNode :=
  let declare (name field text : String) : SpecNode :=
    (SpecNode.parameter name).withAttribute field text
  (SpecNode.path "post/{id:int}/{id:lower}-[tag]").withChildren
    [declare "id" "type" "float", declare "tag" "function" "trim:lower", SpecNode.returning,
      (declare "id" "type" "(a|b)+").withAttribute "function" "slug", declare "id" "function" "upper"]

theorem buildNode_declarations_post :
    (∃ known grown parsed patterns, buildNode [] .start root postSpec = .ok (known, grown) ∧
      grown.Chained root 1 (segmentKinds none patterns) ∧
      patterns.map Pattern.layout = parsed.map Pattern.layout ∧
      RestatedAll postSpec.declarations parsed patterns ∧
      ((grown.node (2 : Nat)).kind.pattern?.map (·.parameters) = some [⟨"id", .int, [], true, 0⟩] ∧
        (grown.node (3 : Nat)).kind.pattern?.map (·.parameters)
          = some [⟨"id", .custom "(a|b)+", ["upper"], true, 1⟩,
            ⟨"tag", .string, ["trim", "lower"], false, 0⟩])) ∧
    ∃ problem, buildNode [] .start root (postSpec.withChild (SpecNode.parameter "page"))
      = .error problem := by
  have inside : (root : Nat) < Arena.start.size := by decide
  constructor
  · have succeeds : ((buildNode [] .start root postSpec).toOption.filter fun result =>
        (result.2.node (2 : Nat)).kind.pattern?.map (·.parameters) = some [⟨"id", .int, [], true, 0⟩] ∧
          (result.2.node (3 : Nat)).kind.pattern?.map (·.parameters)
            = some [⟨"id", .custom "(a|b)+", ["upper"], true, 1⟩,
              ⟨"tag", .string, ["trim", "lower"], false, 0⟩]).isSome = true := by decide +kernel
    obtain ⟨⟨known, grown⟩, found⟩ := Option.isSome_iff_exists.mp succeeds
    obtain ⟨built, nodes⟩ := Option.filter_eq_some_iff.mp found
    have built := ok_of_toOption built
    obtain ⟨parsed, patterns, -, chain, layout, all⟩ :=
      (buildNode_declarations [] inside rfl).1 known grown built
    exact ⟨known, grown, parsed, patterns, built, chain, layout, all, of_decide_eq_true nodes⟩
  · have missing : ((pathPatterns (postSpec.withChild (SpecNode.parameter "page")).undeclared).toOption.all
        fun parsed => "page" ∉ parsed.flatMap Pattern.names) = true := by decide +kernel
    refine (buildNode_declarations [] inside rfl).2.2 (SpecNode.parameter "page")
      (List.mem_filter.mpr ⟨by simp [SpecNode.withChild], rfl⟩) "page" rfl fun parsed read => ?_
    rw [read] at missing
    exact of_decide_eq_true missing

end RouteTree

end Signpost
