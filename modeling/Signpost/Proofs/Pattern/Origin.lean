import Signpost.Proofs.Pattern.Steps
import Signpost.Tree.Builder

/-!
# Where patterns come from

Patterns are read, and declarations change the types of their parameters. Either way the parts of a
pattern refer to its parameters in order, once each, and a parameter knows how many groups a match
reports for the regular expression of its type.
-/
namespace Signpost

/-- A match reports this number of groups for the regular expression of a type. -/
def ValueType.Opens (valueType : ValueType) (groups : Nat) : Prop :=
  match valueType with
  | .custom token =>
    ∃ regex, Regex.compile? ("^(?:" ++ token ++ ")$") = some regex ∧ groups = regex.groupCount
  | _ => groups = 0

/-- Patterns as they are read, and what declarations make of them. -/
inductive Pattern.Arises : Pattern → Prop
  | read {source : String} {pattern : Pattern} (taken : Pattern.read source = .ok pattern) :
    Arises pattern
  | declared {declaration : SpecNode} {name : String} {before after : Pattern}
    (origin : Arises before)
    (changed : RouteTree.declareInPattern declaration name before = .ok after) : Arises after

/-- The parameters that parts refer to. -/
def partIndices : List PatternPart → List Nat
  | [] => []
  | .literal _ :: rest => partIndices rest
  | .parameter index :: rest => index :: partIndices rest

theorem mem_of_partIndices {parts : List PatternPart} {index : Nat}
    (member : index ∈ partIndices parts) : .parameter index ∈ parts := by
  induction parts with
  | nil => cases member
  | cons part rest ih =>
    cases part with
    | literal text => exact List.mem_cons_of_mem _ (ih member)
    | parameter other =>
      rcases List.mem_cons.mp member with rfl | later
      · exact List.mem_cons_self
      · exact List.mem_cons_of_mem _ (ih later)

/-! ### Types -/

theorem customType_opens {token : String} {valueType : ValueType} {groups : Nat}
    (typed : customType token = .ok (valueType, groups)) : valueType.Opens groups := by
  rw [customType] at typed
  split at typed
  next => cases typed
  next regex compiled =>
    split at typed
    · cases typed
      exact ⟨regex, compiled, rfl⟩
    · cases typed

theorem keyword_opens {token : String} {valueType : ValueType}
    (keyword : ValueType.ofKeyword? token = some valueType) : valueType.Opens 0 := by
  unfold ValueType.ofKeyword? at keyword
  split at keyword <;> cases keyword <;> rfl

theorem readType_opens {token : String} {valueType : ValueType} {groups : Nat}
    (typed : readType token = .ok (valueType, groups)) : valueType.Opens groups := by
  rw [readType] at typed
  split at typed
  next keyword =>
    cases typed
    exact keyword_opens keyword
  next => exact customType_opens typed

theorem readTypeToken_opens {tokens rest : List (List Char)} {valueType : ValueType} {groups : Nat}
    (typed : readTypeToken tokens = .ok ((valueType, groups), rest)) : valueType.Opens groups := by
  cases tokens with
  | nil =>
    cases typed
    rfl
  | cons token others =>
    rw [readTypeToken] at typed
    split at typed
    next => cases typed
    -- a keyword, a token with no expression in it or an expression that must compile
    next =>
      split at typed
      next keyword =>
        cases typed
        exact keyword_opens keyword
      next =>
        split at typed
        next =>
          cases typed
          rfl
        next =>
          obtain ⟨⟨found, opened⟩, custom, only⟩ := bind_ok_iff.mp typed
          cases pure_ok_iff.mp only
          exact customType_opens custom

theorem readParameter_opens {known : List Parameter} {required : Bool} {body : List Char}
    {parameter : Parameter} (taken : readParameter known required body = .ok parameter) :
    parameter.valueType.Opens parameter.innerGroups := by
  rw [readParameter] at taken
  obtain ⟨_, -, later⟩ := bind_ok_iff.mp taken
  obtain ⟨⟨⟨valueType, groups⟩, rest⟩, typed, last⟩ := bind_ok_iff.mp later
  obtain ⟨functions, -, only⟩ := bind_ok_iff.mp last
  cases pure_ok_iff.mp only
  exact readTypeToken_opens typed

/-! ### Reading -/

theorem resolvePieces_origin {known parameters : List Parameter} {pieces : List PatternPiece}
    {parts : List PatternPart} (resolved : resolvePieces known pieces = .ok (parts, parameters)) :
    ∃ added, parameters = known ++ added ∧
      partIndices parts = List.range' known.length added.length ∧
      ∀ parameter ∈ added, parameter.valueType.Opens parameter.innerGroups := by
  induction pieces generalizing known parts with
  | nil =>
    cases resolved
    exact ⟨[], by simp, rfl, by simp⟩
  | cons piece rest ih =>
    cases piece with
    -- a text refers to no parameter
    | text text =>
      obtain ⟨later, found, rfl⟩ := resolvePieces_text_iff.mp resolved
      obtain ⟨added, all, indices, opens⟩ := ih found
      exact ⟨added, all, indices, opens⟩
    | placeholder required body =>
      obtain ⟨parameter, later, taken, found, rfl⟩ := resolvePieces_placeholder_iff.mp resolved
      obtain ⟨added, rfl, indices, opens⟩ := ih found
      -- the new parameter takes the first index, and the later ones follow on
      refine ⟨parameter :: added, by simp, ?_, ?_⟩
      · rw [partIndices, indices]
        simp [List.range'_succ]
      · exact List.forall_mem_cons.mpr ⟨readParameter_opens taken, opens⟩

namespace Pattern

theorem read_origin {source : String} {pattern : Pattern} (taken : Pattern.read source = .ok pattern) :
    partIndices pattern.parts = List.range pattern.parameters.length ∧
      ∀ parameter ∈ pattern.parameters, parameter.valueType.Opens parameter.innerGroups := by
  obtain ⟨-, -, resolved⟩ := readStripped_ok_iff.mp (read_ok_iff.mp taken)
  obtain ⟨added, all, indices, opens⟩ := resolvePieces_origin resolved
  rw [all, List.nil_append]
  exact ⟨by rw [indices, List.range_eq_range']; rfl, opens⟩

end Pattern

/-! ### Declarations -/

namespace RouteTree

theorem declareFunctions_opens {declaration : SpecNode} {parameter changed : Parameter}
    (opens : parameter.valueType.Opens parameter.innerGroups)
    (declared : (match declaration.attribute? "function" with
      | some text => do return { parameter with functions := ← readFunctions text }
      | none => return parameter : Except PatternFault Parameter) = .ok changed) :
    changed.valueType.Opens changed.innerGroups := by
  split at declared
  · obtain ⟨names, -, only⟩ := bind_ok_iff.mp declared
    cases pure_ok_iff.mp only
    exact opens
  · cases pure_ok_iff.mp declared
    exact opens

theorem declareParameter_opens {declaration : SpecNode} {parameter changed : Parameter}
    (opens : parameter.valueType.Opens parameter.innerGroups)
    (declared : declareParameter declaration parameter = .ok changed) :
    changed.valueType.Opens changed.innerGroups := by
  rw [declareParameter] at declared
  dsimp only at declared
  split at declared
  next token _ =>
    obtain ⟨⟨valueType, groups⟩, typed, functions⟩ := bind_ok_iff.mp declared
    exact declareFunctions_opens (readType_opens typed) functions
  next => exact declareFunctions_opens opens declared

theorem declareInPattern_origin {declaration : SpecNode} {name : String} {before after : Pattern}
    (changed : declareInPattern declaration name before = .ok after) :
    after.parts = before.parts ∧ after.parameters.length = before.parameters.length ∧
      ((∀ parameter ∈ before.parameters, parameter.valueType.Opens parameter.innerGroups) →
        ∀ parameter ∈ after.parameters, parameter.valueType.Opens parameter.innerGroups) := by
  obtain ⟨parameters, each, only⟩ := bind_ok_iff.mp changed
  cases pure_ok_iff.mp only
  have all := mapM_ok_iff.mp each
  refine ⟨rfl, all.length_eq.symm, fun opens parameter member => ?_⟩
  obtain ⟨origin, old, declared⟩ := forall₂_origin all parameter member
  split at declared
  · exact declareParameter_opens (opens origin old) (mapError_ok_iff.mp declared)
  · cases declared
    exact opens _ old

theorem changeLast?_forall {α ε : Type} {condition : α → Bool} {change : α → Except ε α}
    {holds : α → Prop} (each : ∀ before after, change before = .ok after → holds before → holds after)
    {inputs outputs : List α} (changed : changeLast? condition change inputs = some (.ok outputs))
    (all : ∀ input ∈ inputs, holds input) : ∀ output ∈ outputs, holds output := by
  induction inputs generalizing outputs with
  | nil => cases changed
  | cons first rest ih =>
    obtain ⟨here, later⟩ := List.forall_mem_cons.mp all
    rw [changeLast?] at changed
    split at changed
    next result deeper =>
      -- the change happens further on, and the first element stays
      cases result with
      | error => cases changed
      | ok others =>
        cases changed
        exact List.forall_mem_cons.mpr ⟨here, ih deeper later⟩
    next =>
      split at changed
      · cases done : change first with
        | error => rw [done] at changed; cases changed
        | ok first' =>
          rw [done] at changed
          cases changed
          exact List.forall_mem_cons.mpr ⟨each first first' done here, later⟩
      · cases changed

theorem applyDeclaration_arise {route : String} {before after : List Pattern}
    {declaration : SpecNode} (changed : applyDeclaration route before declaration = .ok after)
    (arise : ∀ pattern ∈ before, pattern.Arises) : ∀ pattern ∈ after, pattern.Arises := by
  obtain ⟨name, -, changed⟩ := bind_ok_iff.mp changed
  split at changed
  next result equal =>
    subst changed
    exact changeLast?_forall (fun _ _ declared origin => .declared origin declared) equal arise
  next => cases changed

/-- The patterns of a path are read, and its declarations change them. -/
theorem pathPatterns_arise {spec : SpecNode} {patterns : List Pattern}
    (found : pathPatterns spec = .ok patterns) : ∀ pattern ∈ patterns, pattern.Arises := by
  obtain ⟨first, read, declared⟩ := bind_ok_iff.mp found
  have initial : ∀ pattern ∈ first, pattern.Arises := by
    intro pattern member
    obtain ⟨source, -, taken⟩ := forall₂_origin (mapM_ok_iff.mp (mapError_ok_iff.mp read)) pattern member
    exact .read taken
  clear read found
  generalize spec.children.filter (fun child => child.kind = .parameter) = declarations at declared
  induction declarations generalizing first with
  | nil =>
    cases pure_ok_iff.mp declared
    exact initial
  | cons declaration rest ih =>
    rw [List.foldlM_cons] at declared
    obtain ⟨middle, changed, later⟩ := bind_ok_iff.mp declared
    exact ih middle (applyDeclaration_arise changed initial) later

end RouteTree

/-- The parts of a pattern refer to its parameters in order, and the parameters know their types. -/
theorem Pattern.Arises.ordered {pattern : Pattern} (arises : pattern.Arises) :
    partIndices pattern.parts = List.range pattern.parameters.length ∧
      ∀ parameter ∈ pattern.parameters, parameter.valueType.Opens parameter.innerGroups := by
  induction arises with
  | read taken => exact Pattern.read_origin taken
  | declared _ changed ih =>
    obtain ⟨parts, length, opens⟩ := RouteTree.declareInPattern_origin changed
    rw [parts, length]
    exact ⟨ih.1, opens ih.2⟩

end Signpost
