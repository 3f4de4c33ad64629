import Signpost.Proofs.Pattern.Origin
import Signpost.Proofs.Regex.Numbering

/-!
# The groups of a pattern

The regular expression of a pattern is a fragment, which opens a group for every parameter and those
inside the expressions of their types. A parameter counts the groups of its type that a match
reports. These are all that its type opens, unless the last of them stand under a repetition that
never happens.
-/
namespace Signpost

open Regex

namespace ValueType

/-- The regular expression of a type. -/
def expr (valueType : ValueType) : Expr := (Expr.read? valueType.regexBody.toList).getD .empty

/-- How deep the regular expression of a type nests. -/
def nesting (valueType : ValueType) : Nat := (Expr.nesting? valueType.regexBody.toList).getD 0

/-- The groups that the regular expression of a type opens, whether or not a match reports them. -/
def openedGroups (valueType : ValueType) : Nat :=
  ((Expr.read? valueType.regexBody.toList).map Expr.groups).getD 0

/-- The names of all groups that the regular expression of a type opens. -/
def groupLabels (valueType : ValueType) : List String :=
  ((Expr.read? valueType.regexBody.toList).map Expr.labels).getD []

end ValueType

/-- The regular expressions that parameters give for their types compile by themselves. -/
def Pattern.TypesCompile (pattern : Pattern) : Prop :=
  ∀ parameter ∈ pattern.parameters, ∀ token, parameter.valueType = .custom token →
    (Regex.compile? token).isSome

/-- The parameters count all groups that their types open. -/
def Pattern.CountsGroups (pattern : Pattern) : Prop :=
  ∀ parameter ∈ pattern.parameters, parameter.innerGroups = parameter.valueType.openedGroups

/-! ### Types -/

namespace ValueType

/-- A fragment is the regular expression of a type in a group without a number. -/
structure Reads (valueType : ValueType) (fragment : Fragment) : Prop where
  denotes : Expr.read? valueType.regexBody.toList = some valueType.expr
  text : fragment.text = "(?:".toList ++ valueType.regexBody.toList ++ [')']
  items : fragment.items = [some valueType.expr]
  depths : fragment.depths = [valueType.nesting + 1]
  names : fragment.names.Perm valueType.expr.labels

variable {valueType : ValueType}

theorem Reads.openedGroups {fragment : Fragment} (reads : valueType.Reads fragment) :
    valueType.openedGroups = valueType.expr.groups := by
  rw [ValueType.openedGroups, reads.denotes]
  rfl

theorem Reads.groupLabels {fragment : Fragment} (reads : valueType.Reads fragment) :
    valueType.groupLabels = valueType.expr.labels := by
  rw [ValueType.groupLabels, reads.denotes]
  rfl

/-- What can be read by itself and as the only content of a group is read alike in every group. -/
theorem reads_of_enclosed {alone wrapped : Expr}
    (denotes : Expr.read? valueType.regexBody.toList = some alone)
    (encloses : Expr.read? ("^(?:".toList ++ valueType.regexBody.toList ++ ")$".toList)
      = some wrapped) :
    ∃ fragment, valueType.Reads fragment ∧ wrapped.reported = valueType.expr.reported ∧
      valueType.nesting + 2 ≤ Expr.nestLimit := by
  have known : valueType.expr = alone := by rw [expr, denotes, Option.getD_some]
  obtain ⟨inside, read, -, rfl⟩ := Expr.read?_iff.mp denotes
  obtain ⟨outside, enclosed, -⟩ := Expr.read?_iff.mp encloses
  have depth : valueType.nesting = inside.here.depth := by
    rw [nesting, Expr.nesting?, read, Option.map_some, Option.getD_some]
  obtain ⟨fragment, text, items, depths, names⟩ := Fragment.exists_plain read enclosed
  have shape : "^(?:".toList ++ valueType.regexBody.toList ++ ")$".toList
      = "^".toList ++ fragment.text ++ "$".toList := by
    rw [text]
    simp
  rw [← known] at denotes items names
  rw [← depth] at depths
  refine ⟨fragment, ⟨denotes, text, items, depths, names⟩, ?_⟩
  -- between both ends the fragment stands for the expression that has been checked
  rw [shape, Fragment.read_anchored] at encloses
  split at encloses
  next shallow =>
    cases encloses
    obtain ⟨-, captures⟩ := Branches.sequence_single valueType.expr
    refine ⟨?_, ?_⟩
    · rw [Expr.reported, fragment.anchored_captures, items, captures 1, Expr.reported]
    · have bound := shallow.2
      rw [fragment.anchoredDepth_eq, depths, deepest_cons, deepest_nil] at bound
      omega
  next => cases encloses

/-- A type is a fragment when it stands in a group, and a match reports as many groups of it as its
parameter has. -/
theorem exists_fragment {groups : Nat} (opens : valueType.Opens groups)
    (compiles : ∀ token, valueType = .custom token → (Regex.compile? token).isSome) :
    ∃ fragment, valueType.Reads fragment ∧ groups = valueType.expr.reported ∧
      valueType.nesting + 2 ≤ Expr.nestLimit := by
  have builtin (none : groups = 0)
      (single : (Expr.read? valueType.regexBody.toList).isSome ∧ valueType.expr.reported = 0)
      (enclosed : (Expr.read?
        ("^(?:".toList ++ valueType.regexBody.toList ++ ")$".toList)).isSome) :
      ∃ fragment, valueType.Reads fragment ∧ groups = valueType.expr.reported ∧
        valueType.nesting + 2 ≤ Expr.nestLimit := by
    obtain ⟨alone, denotes⟩ := Option.isSome_iff_exists.mp single.1
    obtain ⟨wrapped, encloses⟩ := Option.isSome_iff_exists.mp enclosed
    obtain ⟨fragment, reads, -, shallow⟩ := reads_of_enclosed denotes encloses
    exact ⟨fragment, reads, none.trans single.2.symm, shallow⟩
  cases valueType with
  | custom token =>
    obtain ⟨regex, compiled, rfl⟩ := opens
    obtain ⟨own, single⟩ := Option.isSome_iff_exists.mp (compiles token rfl)
    obtain ⟨alone, denotes, -⟩ := Option.map_eq_some_iff.mp single
    obtain ⟨wrapped, encloses, rfl⟩ := Option.map_eq_some_iff.mp compiled
    rw [String.toList_append, String.toList_append] at encloses
    exact @reads_of_enclosed (.custom token) alone wrapped denotes encloses
  | string => exact builtin opens (by decide +kernel) (by decide +kernel)
  | int => exact builtin opens (by decide +kernel) (by decide +kernel)
  | float => exact builtin opens (by decide +kernel) (by decide +kernel)

end ValueType

/-! ### Parameters -/

namespace Parameter

/-- The regular expression of a parameter: its type in a group of its own, which may be missing if the
parameter is optional. -/
def expr (parameter : Parameter) : Expr :=
  let group := .group none (Branches.sequence [some parameter.valueType.expr])
  if parameter.required then group else .repeated group 0 (some 1) true

/-- How deep the regular expression of a parameter nests: its type stands in two groups, and a third
level makes it optional. -/
def nesting (parameter : Parameter) : Nat :=
  parameter.valueType.nesting + if parameter.required then 2 else 3

/-- A fragment is the regular expression of a parameter. -/
structure Reads (parameter : Parameter) (fragment : Fragment) : Prop where
  denotes : Expr.read? ("(?:".toList ++ parameter.valueType.regexBody.toList ++ [')'])
    = some (Branches.sequence [some parameter.valueType.expr])
  text : fragment.text = parameter.regex.toList
  items : fragment.items = [some parameter.expr]
  depths : fragment.depths = [parameter.nesting]
  names : fragment.names.Perm parameter.valueType.groupLabels
  groups : parameter.valueType.expr.groups = parameter.valueType.openedGroups
  reported : parameter.innerGroups = parameter.valueType.expr.reported

variable {parameter : Parameter}

theorem exists_fragment (opens : parameter.valueType.Opens parameter.innerGroups)
    (compiles : ∀ token, parameter.valueType = .custom token → (Regex.compile? token).isSome) :
    ∃ fragment, parameter.Reads fragment := by
  obtain ⟨fragment, reads, counted, shallow⟩ := ValueType.exists_fragment opens compiles
  have distinct : fragment.names.Nodup := reads.names.nodup_iff.mpr (Expr.read?_labels reads.denotes)
  have denotes : Expr.read? ("(?:".toList ++ parameter.valueType.regexBody.toList ++ [')'])
      = some (Branches.sequence [some parameter.valueType.expr]) := by
    have alone : level fragment.depths ≤ Expr.nestLimit := by
      rw [reads.depths, level_single]
      omega
    rw [← reads.text, fragment.read_text, if_pos ⟨distinct, alone⟩, reads.items]
  have names : fragment.names.Perm parameter.valueType.groupLabels := by
    rw [reads.groupLabels]
    exact reads.names
  have depth : fragment.capturedDepth = parameter.valueType.nesting + 2 := by
    rw [Fragment.capturedDepth, reads.depths, level_single]
  -- an optional parameter is the same fragment with a question mark
  by_cases required : parameter.required
  · refine ⟨fragment.group, denotes, ?_, ?_, ?_, names, reads.openedGroups.symm, counted⟩
    · simp [Fragment.group, reads.text, Parameter.regex, required, String.toList_append]
    · simp [Fragment.group, Fragment.captured, reads.items, expr, required]
    · simp [Fragment.group, depth, nesting, required]
  · refine ⟨fragment.optional, denotes, ?_, ?_, ?_, names, reads.openedGroups.symm, counted⟩
    · simp [Fragment.optional, reads.text, Parameter.regex, required, String.toList_append]
    · simp [Fragment.optional, Fragment.captured, reads.items, expr, required]
    · simp [Fragment.optional, depth, nesting, required]

/-- The group around a type stands in front of those that the type opens. -/
theorem expr_groups (parameter : Parameter) :
    parameter.expr.groups = parameter.valueType.expr.groups + 1 ∧
      parameter.expr.groupAt? 1
        = some (none, Branches.sequence [some parameter.valueType.expr]) ∧
      parameter.expr.captures 1 = (1, none) :: parameter.valueType.expr.captures 2 := by
  obtain ⟨groups, captures⟩ := Branches.sequence_single parameter.valueType.expr
  rw [expr]
  split <;> simp [Expr.groups, Expr.groupAt?, Expr.captures, groups, captures]

end Parameter

namespace Pattern

/-- How many groups the parameters open from the one at a position on. -/
def openedFrom : List Parameter → Nat
  | [] => 0
  | parameter :: rest => 1 + parameter.valueType.openedGroups + openedFrom rest

@[simp]
theorem openedFrom_cons (parameter : Parameter) (rest : List Parameter) :
    openedFrom (parameter :: rest) = 1 + parameter.valueType.openedGroups + openedFrom rest := rfl

/-- How many groups the expression of a pattern opens. -/
def openedGroups (pattern : Pattern) : Nat := openedFrom pattern.parameters

theorem openedFrom_append (first rest : List Parameter) :
    openedFrom (first ++ rest) = openedFrom first + openedFrom rest := by
  induction first with
  | nil => simp [openedFrom]
  | cons parameter others ih =>
    rw [List.cons_append, openedFrom_cons, openedFrom_cons, ih]
    exact (Nat.add_assoc _ _ _).symm

/-- The names of all groups inside the types of a pattern. -/
def groupLabels (pattern : Pattern) : List String :=
  pattern.parameters.flatMap (·.valueType.groupLabels)

/-- A fragment opens the groups of parameters, uses the names in their types and nests as deep as
they do. -/
structure Stands (fragment : Fragment) (parameters : List Parameter) : Prop where
  groups : fragment.groups = openedFrom parameters
  names : fragment.names.Perm (parameters.flatMap (·.valueType.groupLabels))
  depth : deepest fragment.depths = deepest (parameters.map (·.nesting))

theorem Stands.literal (text : List Char) : Stands (Fragment.literal text) [] := by
  refine ⟨Fragment.literal_groups text, ?_, Fragment.literal_deepest text⟩
  rw [Fragment.literal_names]
  exact .refl _

theorem Stands.append {first second : Fragment} {parameters others : List Parameter}
    (stands : Stands first parameters) (later : Stands second others) :
    Stands (first.append second) (parameters ++ others) := by
  refine ⟨?_, ?_, ?_⟩
  · rw [Fragment.append_groups, stands.groups, later.groups, openedFrom_append]
  · rw [List.flatMap_append]
    exact (later.names.append stands.names).trans List.perm_append_comm
  · rw [List.map_append, deepest_append, ← stands.depth, ← later.depth, Nat.max_comm]
    exact deepest_append _ _

theorem Stands.parameter {parameter : Parameter} {fragment : Fragment}
    (reads : parameter.Reads fragment) : Stands fragment [parameter] := by
  have own : fragment.groups = parameter.expr.groups := by
    rw [Fragment.groups, reads.items]
    exact (Branches.sequence_single _).1
  refine ⟨?_, ?_, ?_⟩
  · rw [own, parameter.expr_groups.1, reads.groups, openedFrom_cons, openedFrom]
    omega
  · simpa using reads.names
  · rw [reads.depths]
    rfl

/-! ### Parts -/

/-- The items of a part, the last one first. -/
def partItems (pattern : Pattern) : PatternPart → List (Option Expr)
  | .literal text => (text.toList.map fun c => some (.chars (.single c))).reverse
  | .parameter index => (pattern.parameters[index]?).toList.map fun parameter => some parameter.expr

def itemsOf (pattern : Pattern) (parts : List PatternPart) : List (Option Expr) :=
  parts.reverse.flatMap pattern.partItems

/-- The regular expression of a pattern, put together from those of its parts. -/
def expr (pattern : Pattern) : Expr :=
  Branches.sequence (some (.assertion .textEnd) :: pattern.itemsOf pattern.parts
    ++ [some (.assertion .textStart)])

/-- How deep the regular expression of a pattern nests: the ends of the text stand beside the deepest of
its parameters. -/
def nesting (pattern : Pattern) : Nat := deepest (pattern.parameters.map (·.nesting)) + 1

variable {pattern : Pattern}

/-- The parameters that parts refer to. -/
def referred (pattern : Pattern) (parts : List PatternPart) : List Parameter :=
  (partIndices parts).filterMap (pattern.parameters[·]?)

theorem mem_of_referred {parts : List PatternPart} {parameter : Parameter}
    (member : parameter ∈ pattern.referred parts) : parameter ∈ pattern.parameters := by
  obtain ⟨index, -, known⟩ := List.mem_filterMap.mp member
  exact List.mem_of_getElem? known

/-- The text of the expression of some parts. -/
def textOf (pattern : Pattern) (parts : List PatternPart) : List Char :=
  parts.flatMap fun part => (pattern.partRegex part).toList

theorem textOf_parts (pattern : Pattern) :
    pattern.textOf pattern.parts = pattern.alternationBody.toList := by
  rw [alternationBody, String.toList_join, List.flatMap_map, textOf]

theorem partItems_literal (text : String) :
    pattern.partItems (.literal text) = (Fragment.literal text.toList).items :=
  (Fragment.literal_items text.toList).symm

theorem partItems_parameter {index : Nat} {parameter : Parameter}
    (known : pattern.parameters[index]? = some parameter) :
    pattern.partItems (.parameter index) = [some parameter.expr] := by
  rw [partItems, known]
  rfl

theorem itemsOf_cons (part : PatternPart) (parts : List PatternPart) :
    pattern.itemsOf (part :: parts) = pattern.itemsOf parts ++ pattern.partItems part := by
  simp [itemsOf]

theorem parts_fragment
    (opens : ∀ parameter ∈ pattern.parameters, parameter.valueType.Opens parameter.innerGroups)
    (compiles : pattern.TypesCompile) {parts : List PatternPart}
    (inside : ∀ index ∈ partIndices parts, index < pattern.parameters.length) :
    ∃ fragment : Fragment, fragment.text = pattern.textOf parts ∧
      fragment.items = pattern.itemsOf parts ∧ Stands fragment (pattern.referred parts) := by
  induction parts with
  | nil => exact ⟨.literal [], rfl, rfl, .literal []⟩
  | cons part rest ih =>
    cases part with
    | literal text =>
      obtain ⟨fragment, shape, items, stands⟩ := ih inside
      refine ⟨(Fragment.literal text.toList).append fragment, ?_, ?_,
        (Stands.literal _).append stands⟩
      · rw [textOf, List.flatMap_cons, ← textOf, ← shape]
        simp [Fragment.append, Fragment.literal_text, partRegex, Regex.escape]
      · rw [itemsOf_cons, partItems_literal, ← items]
        rfl
    | parameter index =>
      obtain ⟨known, later⟩ := List.forall_mem_cons.mp inside
      obtain ⟨fragment, shape, items, stands⟩ := ih later
      have member := List.getElem_mem known
      obtain ⟨own, reads⟩ := Parameter.exists_fragment (opens _ member) (compiles _ member)
      -- the parameters that stand in a pattern are listed in the order of its parts
      have referred_ : pattern.referred (.parameter index :: rest)
          = pattern.parameters[index] :: pattern.referred rest := by
        rw [referred, partIndices, List.filterMap_cons, List.getElem?_eq_getElem known]
        rfl
      rw [referred_]
      refine ⟨own.append fragment, ?_, ?_, (Stands.parameter reads).append stands⟩
      · rw [textOf, List.flatMap_cons, ← textOf, ← shape]
        simp [Fragment.append, reads.text, partRegex, known]
      · rw [itemsOf_cons, partItems_parameter (List.getElem?_eq_getElem known), ← items, ← reads.items]
        rfl

theorem referred_range {parts : List PatternPart} {first count : Nat}
    (indices : partIndices parts = List.range' first count) :
    pattern.referred parts = (pattern.parameters.drop first).take count := by
  rw [referred, indices]
  clear indices
  induction count generalizing first with
  | zero => rfl
  | succ count ih =>
    rw [List.range'_succ, List.filterMap_cons, ih]
    by_cases known : first < pattern.parameters.length
    · rw [List.getElem?_eq_getElem known, List.drop_eq_getElem_cons known, List.take_succ_cons]
    · rw [List.getElem?_eq_none (by omega), List.drop_eq_nil_of_le (by omega),
        List.drop_eq_nil_of_le (by omega), List.take_nil, List.take_nil]

/-- The expression of a pattern stands for its parameters. -/
theorem exists_stands (arises : pattern.Arises) (compiles : pattern.TypesCompile) :
    ∃ fragment : Fragment, fragment.text = pattern.alternationBody.toList ∧
      fragment.anchored = pattern.expr ∧ Stands fragment pattern.parameters := by
  obtain ⟨indices, opens⟩ := arises.ordered
  have inside : ∀ index ∈ partIndices pattern.parts, index < pattern.parameters.length := by
    simp [indices]
  obtain ⟨fragment, text, items, stands⟩ := parts_fragment opens compiles inside
  rw [List.range_eq_range'] at indices
  rw [referred_range indices, List.drop_zero, List.take_length] at stands
  exact ⟨fragment, text.trans pattern.textOf_parts, by rw [Fragment.anchored, items, expr], stands⟩

theorem exists_fragment (arises : pattern.Arises) (compiles : pattern.TypesCompile) :
    ∃ fragment : Fragment, fragment.text = pattern.alternationBody.toList ∧
      fragment.groups = pattern.openedGroups := by
  obtain ⟨fragment, text, -, stands⟩ := exists_stands arises compiles
  exact ⟨fragment, text, stands.groups⟩

theorem countGroups_le {parameters : List Parameter}
    (counted : ∀ parameter ∈ parameters,
      parameter.innerGroups ≤ parameter.valueType.openedGroups) :
    countGroups parameters ≤ openedFrom parameters ∧
      (countGroups parameters = openedFrom parameters ↔
        ∀ parameter ∈ parameters, parameter.innerGroups = parameter.valueType.openedGroups) := by
  induction parameters with
  | nil => simp [countGroups, openedFrom]
  | cons parameter rest ih =>
    obtain ⟨here, later⟩ := List.forall_mem_cons.mp counted
    obtain ⟨bound, exact_⟩ := ih later
    rw [List.forall_mem_cons, ← exact_, countGroups, openedFrom_cons]
    omega

theorem innerGroups_le (arises : pattern.Arises) (compiles : pattern.TypesCompile) :
    ∀ parameter ∈ pattern.parameters,
      parameter.innerGroups ≤ parameter.valueType.openedGroups := by
  intro parameter member
  obtain ⟨_, reads⟩ :=
    Parameter.exists_fragment (arises.ordered.2 parameter member) (compiles parameter member)
  rw [reads.reported, ← reads.groups]
  exact parameter.valueType.expr.reported_le

/-- A pattern counts at most the groups that it opens, and all of them if its parameters do. -/
theorem groupCount_le (arises : pattern.Arises) (compiles : pattern.TypesCompile) :
    pattern.groupCount ≤ pattern.openedGroups ∧
      (pattern.groupCount = pattern.openedGroups ↔ pattern.CountsGroups) :=
  countGroups_le (innerGroups_le arises compiles)

/-! ### Numbers counted from the first group -/

/-- The groups of parameters lie between the first one and the number of groups counted from it. -/
theorem offsetsFrom_within {next : Nat} {parameters : List Parameter} :
    ∀ capture ∈ offsetsFrom next parameters,
      next ≤ capture.2 ∧ capture.2 < next + countGroups parameters := by
  induction parameters generalizing next with
  | nil => simp [offsetsFrom]
  | cons parameter rest ih =>
    rw [offsetsFrom, List.forall_mem_cons, countGroups]
    refine ⟨⟨Nat.le_refl next, by omega⟩, fun capture member => ?_⟩
    have bounds := ih capture member
    omega

theorem offsetsFrom_ascending (next : Nat) (parameters : List Parameter) :
    ((offsetsFrom next parameters).map (·.2)).Pairwise (· < ·) := by
  induction parameters generalizing next with
  | nil => exact .nil
  | cons parameter rest ih =>
    rw [offsetsFrom, List.map_cons, List.pairwise_cons]
    refine ⟨fun number member => ?_, ih _⟩
    obtain ⟨capture, among, rfl⟩ := List.mem_map.mp member
    have bounds := offsetsFrom_within capture among
    dsimp only
    omega

end Pattern

end Signpost
