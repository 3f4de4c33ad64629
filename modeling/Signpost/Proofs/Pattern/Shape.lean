import Signpost.Proofs.Pattern.Groups
import Signpost.Proofs.Pattern.Parts
import Signpost.Proofs.Pattern.Printing

/-!
# The shape of patterns that have been read

What is read is well formed: text is only cut off where there is some, a name is compared with those
in front of it, and what is no identifier is refused. A pattern without parameters is its text. The
group of a parameter stands behind the groups of those in front of it, so the groups ascend, and none
is greater than the number of groups that the pattern counts.
-/
namespace Signpost

/-! ### Texts -/

theorem withText_filled {read : List Char} {pieces : List PatternPiece}
    (filled : .text [] ∉ pieces) : .text [] ∉ withText read pieces := by
  rw [withText]
  split
  · exact filled
  next present =>
    rw [List.isEmpty_iff] at present
    simp [filled, present]

/-- Text is only cut off where characters have been read. -/
theorem cutPattern_filled (index : Nat) (mode : CutMode) (chars : List Char) :
    .text [] ∉ (cutPattern index mode chars).1 := by
  fun_induction cutPattern index mode chars with
  | case1 index read => exact withText_filled List.not_mem_nil
  | case2 | case3 | case6 | case7 => exact List.not_mem_nil
  | case4 index mode escaped rest kept ih => exact ih
  | case5 index c rest _ _ next read opener pieces fault cut ih =>
    rw [cut] at ih
    exact withText_filled ih
  | case8 index c rest _ _ next read _ _ _ ih => exact ih
  | case9 index c rest _ _ next required start depth read _ ih => exact ih
  | case10 index c rest _ _ next required start depth read _ _ pieces fault cut ih =>
    rw [cut] at ih
    exact List.not_mem_cons_of_ne_of_not_mem (by simp) ih
  | case11 index c rest _ _ next required start depth read _ _ _ ih => exact ih
  | case12 index c rest _ _ next required start depth read _ _ _ ih => exact ih

theorem resolvePieces_filled {known parameters : List Parameter} {pieces : List PatternPiece}
    {parts : List PatternPart} (resolved : resolvePieces known pieces = .ok (parts, parameters))
    (filled : .text [] ∉ pieces) : .literal "" ∉ parts := by
  induction pieces generalizing known parts with
  | nil =>
    cases resolved
    exact List.not_mem_nil
  | cons piece rest ih =>
    have others := List.not_mem_of_not_mem_cons filled
    cases piece with
    | text text =>
      obtain ⟨later, found, rfl⟩ := resolvePieces_text_iff.mp resolved
      refine List.not_mem_cons_of_ne_of_not_mem ?_ (ih found others)
      intro empty
      have none : text = [] := String.ofList_eq_empty_iff.mp (PatternPart.literal.inj empty).symm
      exact filled (none ▸ List.mem_cons_self)
    | placeholder required body =>
      obtain ⟨parameter, later, taken, found, rfl⟩ := resolvePieces_placeholder_iff.mp resolved
      exact List.not_mem_cons_of_ne_of_not_mem (by simp) (ih found others)

/-! ### Names -/

/-- The name of a parameter and those of its functions are identifiers. -/
structure Parameter.Worded (parameter : Parameter) : Prop where
  named : isIdentifier parameter.name.toList = true
  chained : ∀ function ∈ parameter.functions, isIdentifier function.toList = true

theorem checkName_ok {known : List Parameter} {name : List Char}
    (accepted : checkName known name = .ok ()) :
    isIdentifier name = true ∧ String.ofList name ∉ known.map (·.name) := by
  cases name with
  | nil => cases accepted
  | cons first others =>
    rw [checkName] at accepted
    split at accepted
    · cases accepted
    next starts =>
      split at accepted
      · cases accepted
      next valid =>
        split at accepted
        · cases accepted
        next fresh =>
          constructor
          · rw [isIdentifier, Bool.and_eq_true, List.all_eq_true]
            refine ⟨by simpa using starts, fun c member => ?_⟩
            simpa using List.find?_eq_none.mp valid c member
          · simpa using fresh

theorem readFunctionTokens_ok {tokens : List (List Char)} {functions : List String}
    (chain : readFunctionTokens tokens = .ok functions) :
    ∀ function ∈ functions, isIdentifier function.toList = true := by
  intro function member
  obtain ⟨token, -, taken⟩ := forall₂_origin (mapM_ok_iff.mp chain) function member
  split at taken
  · cases taken
  · split at taken
    next identifier =>
      cases taken
      rwa [String.toList_ofList]
    next => cases taken

theorem readParameter_worded {known : List Parameter} {required : Bool} {body : List Char}
    {parameter : Parameter} (taken : readParameter known required body = .ok parameter) :
    parameter.Worded ∧ parameter.name ∉ known.map (·.name) := by
  rw [readParameter] at taken
  obtain ⟨⟨⟩, accepted, later⟩ := bind_ok_iff.mp taken
  obtain ⟨⟨⟨valueType, groups⟩, rest⟩, -, last⟩ := bind_ok_iff.mp later
  obtain ⟨functions, chain, only⟩ := bind_ok_iff.mp last
  cases pure_ok_iff.mp only
  obtain ⟨identifier, fresh⟩ := checkName_ok accepted
  exact ⟨⟨by rwa [String.toList_ofList], readFunctionTokens_ok chain⟩, fresh⟩

/-- Every name is compared with those in front of it. -/
theorem resolvePieces_worded {known parameters : List Parameter} {pieces : List PatternPiece}
    {parts : List PatternPart} (resolved : resolvePieces known pieces = .ok (parts, parameters))
    (distinct : (known.map (·.name)).Nodup) (worded : ∀ parameter ∈ known, parameter.Worded) :
    (parameters.map (·.name)).Nodup ∧ ∀ parameter ∈ parameters, parameter.Worded := by
  induction pieces generalizing known parts with
  | nil =>
    cases resolved
    exact ⟨distinct, worded⟩
  | cons piece rest ih =>
    cases piece with
    | text text =>
      obtain ⟨later, found, rfl⟩ := resolvePieces_text_iff.mp resolved
      exact ih found distinct worded
    | placeholder required body =>
      obtain ⟨parameter, later, taken, found, rfl⟩ := resolvePieces_placeholder_iff.mp resolved
      obtain ⟨own, fresh⟩ := readParameter_worded taken
      refine ih found ?_ ?_
      · rw [List.map_append, List.map_singleton, ← List.concat_eq_append]
        exact distinct.concat fresh
      · intro other member
        rcases List.mem_append.mp member with old | new
        · exact worded other old
        · cases List.mem_singleton.mp new
          exact own

/-! ### Patterns -/

/-- The text of a part that is literal. -/
def PatternPart.text? : PatternPart → Option String
  | .literal text => some text
  | .parameter _ => none

namespace Pattern

variable {source : String} {pattern : Pattern}

theorem read_wellFormed (taken : Pattern.read source = .ok pattern) : pattern.WellFormed := by
  have apart := read_separated taken
  have ordered := (read_origin taken).1
  obtain ⟨-, -, resolved⟩ := readStripped_ok_iff.mp (read_ok_iff.mp taken)
  have filled := resolvePieces_filled resolved (cutPattern_filled 0 (.text []) _)
  obtain ⟨distinct, worded⟩ := resolvePieces_worded resolved (by simp) (by simp)
  exact
    { filled := fun text member empty => filled (empty ▸ member)
      apart := apart.imp fun left right either text => by
        rcases either with ⟨index, rfl⟩ | ⟨index, rfl⟩
        · cases text
        · rfl
      ordered
      distinct
      named := fun parameter member => (worded parameter member).named
      chained := fun parameter member => (worded parameter member).chained }

/-- No literal text is empty, also where types have been declared. -/
theorem Arises.literal_ne_empty (arises : pattern.Arises) {text : String}
    (member : .literal text ∈ pattern.parts) : text ≠ "" := by
  induction arises with
  | read taken => exact (read_wellFormed taken).filled text member
  | declared _ changed ih => exact ih ((RouteTree.declareInPattern_origin changed).1 ▸ member)

/-- A pattern without parameters has its one text, or the empty one. -/
theorem literal?_read (taken : Pattern.read source = .ok pattern) (plain : pattern.parameters = []) :
    pattern.literal? = some (String.join (pattern.parts.filterMap PatternPart.text?)) := by
  have indices := (read_origin taken).1
  rw [plain] at indices
  have literal : pattern.isLiteral = true := List.isEmpty_iff.mpr plain
  rw [literal?, if_pos literal]
  rcases parts_of_unparameterized (read_separated taken) indices with none | ⟨text, one⟩
  · rw [none]
    rfl
  · simp [one, PatternPart.text?]

/-- What is read is well formed, is literal exactly if it has no parameters, and has the groups of its
parameters in ascending order from the first one up to the number that it counts. -/
theorem read_shape (taken : Pattern.read source = .ok pattern) :
    pattern.WellFormed ∧ (pattern.isLiteral = true ↔ pattern.parameters = []) ∧
    (pattern.parameters = [] →
      pattern.literal? = some (String.join (pattern.parts.filterMap PatternPart.text?))) ∧
    (pattern.groupOffsets.map (·.2)).Pairwise (· < ·) ∧
    (pattern.parameters ≠ [] → (pattern.groupOffsets.map (·.2)).head? = some 1) ∧
    ∀ capture ∈ pattern.groupOffsets, capture.2 ≤ pattern.groupCount := by
  refine ⟨read_wellFormed taken, List.isEmpty_iff, literal?_read taken,
    offsetsFrom_ascending 1 pattern.parameters, fun present => ?_, fun capture member => ?_⟩
  · obtain ⟨first, rest, parameters⟩ := List.exists_cons_of_ne_nil present
    rw [groupOffsets, parameters]
    rfl
  · have bounds := offsetsFrom_within capture member
    rw [groupCount]
    omega

/-- A choice of groups in front of an optional parameter. -/
def editionPattern : Pattern :=
  ⟨"v\x7bmajor:(x|(y)z)\x7d.[minor:int:trim]",
    [.literal "v", .parameter 0, .literal ".", .parameter 1],
    [⟨"major", .custom "(x|(y)z)", [], true, 2⟩, ⟨"minor", .int, ["trim"], false, 0⟩]⟩

theorem read_shape_edition :
    Pattern.read editionPattern.source = .ok editionPattern ∧ editionPattern.WellFormed ∧
    editionPattern.isLiteral = false ∧ editionPattern.groupOffsets = [("major", 1), ("minor", 4)] ∧
    ∀ capture ∈ editionPattern.groupOffsets, capture.2 ≤ 4 := by
  have taken : (read editionPattern.source).toOption = some editionPattern := by decide +kernel
  have accepted := ok_of_toOption taken
  obtain ⟨wellFormed, literal, -, -, -, bound⟩ := read_shape accepted
  refine ⟨accepted, wellFormed, ?_, rfl, bound⟩
  exact Bool.eq_false_iff.mpr fun plain => absurd (literal.mp plain) (by decide)

end Pattern

end Signpost
