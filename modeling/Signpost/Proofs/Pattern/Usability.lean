import Signpost.Proofs.Pattern.Groups

/-!
# Expressions of patterns

The expression of a pattern is put together as text from the expressions of its types, which were
checked one by one. Whether the whole can be used then depends on what a check does not see: how deep a
type nests inside the group of its parameter, how much space all types take together, and the groups
that a match never reports. They are not counted but keep their numbers and their names, so they move
the groups behind them, and two of them may not have the same name.
-/
namespace Signpost

open Regex

namespace Pattern

/-- A parameter has the first group that opens behind the parts in front of it. -/
def OpensAt (pattern : Pattern) (index number : Nat) : Prop :=
  ∃ before after front, pattern.parts = before ++ .parameter index :: after ∧
    Expr.read? (pattern.textOf before) = some front ∧ number = front.groups + 1

variable {pattern : Pattern} {index : Nat}

/-! ### One parameter among the others -/

theorem partIndices_append (first rest : List PatternPart) :
    partIndices (first ++ rest) = partIndices first ++ partIndices rest := by
  induction first with
  | nil => rfl
  | cons part others ih => cases part <;> simp [partIndices, ih]

theorem parts_split {parts : List PatternPart} (member : index ∈ partIndices parts) :
    ∃ before after, parts = before ++ .parameter index :: after := by
  induction parts with
  | nil => cases member
  | cons part rest ih =>
    cases part with
    | literal text =>
      obtain ⟨before, after, rfl⟩ := ih member
      exact ⟨.literal text :: before, after, rfl⟩
    | parameter other =>
      rcases List.mem_cons.mp member with rfl | later
      · exact ⟨[], rest, rfl⟩
      · obtain ⟨before, after, rfl⟩ := ih later
        exact ⟨.parameter other :: before, after, rfl⟩

/-- The parts on both sides of a parameter refer to the parameters on both sides of it. -/
theorem referred_split (ordered : partIndices pattern.parts = List.range pattern.parameters.length)
    {before after : List PatternPart} (split : pattern.parts = before ++ .parameter index :: after) :
    pattern.referred before = pattern.parameters.take index ∧
      pattern.referred after = pattern.parameters.drop (index + 1) := by
  rw [split, partIndices_append, List.range_eq_range'] at ordered
  -- the indices count up, so as many stand before an index as it says
  obtain ⟨count, low, early, late⟩ := List.range'_eq_append_iff.mp ordered.symm
  obtain ⟨same, -, later⟩ := List.range'_eq_cons_iff.mp late.symm
  obtain rfl : count = index := by omega
  constructor
  · rw [referred_range early, List.drop_zero]
  · rw [referred_range later, List.take_of_length_le]
    rw [List.length_drop]
    omega

/-- The expression of a pattern around one of its parameters. -/
theorem fragment_around (arises : pattern.Arises) (compiles : pattern.TypesCompile)
    {parameter : Parameter} (own : pattern.parameters[index]? = some parameter) :
    ∃ before after front middle behind,
      pattern.parts = before ++ .parameter index :: after ∧
      Fragment.text front = pattern.textOf before ∧
      Stands front (pattern.parameters.take index) ∧ parameter.Reads middle ∧
      Stands behind (pattern.parameters.drop (index + 1)) ∧
      pattern.matchRegex.toList
        = "^".toList ++ (front.append (middle.append behind)).text ++ "$".toList := by
  obtain ⟨ordered, opens⟩ := arises.ordered
  obtain ⟨known, here⟩ := List.getElem?_eq_some_iff.mp own
  have inside : ∀ other ∈ partIndices pattern.parts, other < pattern.parameters.length := by
    simp [ordered]
  have there : index ∈ partIndices pattern.parts := by simpa [ordered] using known
  obtain ⟨before, after, split⟩ := parts_split there
  have member := List.mem_of_getElem? own
  obtain ⟨middle, reads⟩ :=
    Parameter.exists_fragment (opens parameter member) (compiles parameter member)
  rw [split, partIndices_append] at inside
  -- the parts before and behind the parameter each stand for a fragment of their own
  obtain ⟨early, later⟩ := List.forall_mem_append.mp inside
  obtain ⟨front, text, -, stands⟩ := parts_fragment opens compiles early
  obtain ⟨behind, text', -, stands'⟩ :=
    parts_fragment opens compiles (List.forall_mem_cons.mp later).2
  obtain ⟨referred, referred'⟩ := referred_split ordered split
  refine ⟨before, after, front, middle, behind, split, text, referred ▸ stands, reads,
    referred' ▸ stands', ?_⟩
  rw [matchRegex, String.toList_append, String.toList_append, ← textOf_parts, split, textOf,
    List.flatMap_append, List.flatMap_cons, ← textOf, ← textOf, ← text, ← text']
  simp [Fragment.append, reads.text, partRegex, own]

/-! ### Numbers -/

theorem offsetsFrom_getElem? (next : Nat) (parameters : List Parameter) (index : Nat) :
    (offsetsFrom next parameters)[index]?
      = parameters[index]?.map fun parameter =>
          (parameter.name, next + countGroups (parameters.take index)) := by
  induction parameters generalizing next index with
  | nil => rfl
  | cons first rest ih =>
    cases index with
    | zero => rfl
    | succ index =>
      rw [offsetsFrom, List.getElem?_cons_succ, List.getElem?_cons_succ, ih, List.take_succ_cons,
        countGroups]
      congr 1
      funext parameter
      rw [Nat.add_assoc, Nat.add_assoc, Nat.add_assoc]

theorem countGroups_append (first rest : List Parameter) :
    countGroups (first ++ rest) = countGroups first + countGroups rest := by
  induction first with
  | nil => simp [countGroups]
  | cons parameter others ih =>
    rw [List.cons_append, countGroups, countGroups, ih]
    exact (Nat.add_assoc _ _ _).symm

/-- The parameters count the groups that their types open. -/
def Count (parameters : List Parameter) : Prop :=
  ∀ parameter ∈ parameters, parameter.innerGroups = parameter.valueType.openedGroups

/-- Whether the expression of a pattern compiles, and what it compiles to. -/
theorem compile_matchRegex_iff (arises : pattern.Arises) (compiles : pattern.TypesCompile)
    {regex : Regex} :
    Regex.compile? pattern.matchRegex = some regex ↔
      (pattern.groupLabels.Nodup ∧ pattern.nesting ≤ Expr.nestLimit) ∧
        regex = ⟨pattern.matchRegex, pattern.expr⟩ := by
  obtain ⟨fragment, text, anchored, stands⟩ := exists_stands arises compiles
  have shape : pattern.matchRegex.toList = "^".toList ++ fragment.text ++ "$".toList := by
    rw [matchRegex, String.toList_append, String.toList_append, text]
  have depth : fragment.anchoredDepth = pattern.nesting := by
    rw [fragment.anchoredDepth_eq, stands.depth, nesting]
  rw [Fragment.compile_anchored_iff shape, Fragment.Compiles, stands.names.nodup_iff, depth, anchored,
    groupLabels]

/-- The expression reports the groups up to the last one that its last parameter counts. -/
theorem groupCount_iff (arises : pattern.Arises) (compiles : pattern.TypesCompile) {regex : Regex}
    (compiled : Regex.compile? pattern.matchRegex = some regex) :
    regex.groupCount = pattern.groupCount ↔ Count pattern.parameters.dropLast := by
  have bounds := innerGroups_le arises compiles
  rcases List.eq_nil_or_concat pattern.parameters with none | ⟨earlier, last, all⟩
  -- without parameters the expression has no groups
  · obtain ⟨fragment, -, anchored, stands⟩ := exists_stands arises compiles
    obtain ⟨-, rfl⟩ := (compile_matchRegex_iff arises compiles).mp compiled
    have groupless : fragment.groups = 0 := by
      rw [stands.groups, none]
      rfl
    have reported : Regex.groupCount ⟨pattern.matchRegex, pattern.expr⟩ = 0 := by
      have bound := Regex.groupCount_le ⟨pattern.matchRegex, pattern.expr⟩
      rw [← anchored, fragment.anchored_groups] at bound
      rw [← anchored]
      omega
    simp [reported, groupCount, none, countGroups, Count]
  · rw [List.concat_eq_append] at all
    have own : pattern.parameters[earlier.length]? = some last := by simp [all]
    obtain ⟨before, after, front, middle, behind, -, -, stands, reads, stands', shape⟩ :=
      fragment_around arises compiles own
    obtain ⟨-, rfl⟩ := (Fragment.compile_anchored_iff shape).mp compiled
    obtain ⟨-, -, captures⟩ := last.expr_groups
    have early : front.groups = openedFrom earlier := by
      rw [stands.groups, all, List.take_left]
    have groupless : behind.groups = 0 := by
      rw [stands'.groups, all, List.drop_of_length_le (by simp)]
      rfl
    have inner : last.expr.reported = last.valueType.expr.reported + 1 := by
      rw [Expr.reported, captures]
      exact Expr.reported_group none last.valueType.expr
    have counted : (front.append (middle.append behind)).anchored.reported
        = last.innerGroups + 1 + openedFrom earlier := by
      rw [Fragment.reported_between _ _ _ reads.items groupless, Expr.reported_seq,
        if_neg (by simp [captures]), inner, reads.reported, ← early]
      rfl
    have own_count : pattern.groupCount = countGroups earlier + (1 + last.innerGroups) := by
      rw [groupCount, all, countGroups_append]
      simp [countGroups]
    obtain ⟨-, same⟩ := countGroups_le fun parameter (member : parameter ∈ earlier) =>
      bounds parameter (by simp [all, member])
    change (front.append (middle.append behind)).anchored.reported = _ ↔ _
    rw [all, List.dropLast_concat, counted, own_count, Count, ← same]
    omega

/-- The group of a parameter opens behind all groups of the parameters in front of it. -/
theorem parameter_group (arises : pattern.Arises) (compiles : pattern.TypesCompile) {regex : Regex}
    (compiled : Regex.compile? pattern.matchRegex = some regex) {parameter : Parameter}
    (own : pattern.parameters[index]? = some parameter) :
    let number := openedFrom (pattern.parameters.take index) + 1
    pattern.OpensAt index number ∧ (number, none) ∈ regex.captures ∧
      ∃ content, regex.expr.groupAt? number = some (none, content) ∧
        Expr.read? ("(?:".toList ++ parameter.valueType.regexBody.toList ++ [')']) = some content := by
  intro number
  obtain ⟨before, after, front, middle, behind, split, text, stands, reads, -, shape⟩ :=
    fragment_around arises compiles own
  obtain ⟨⟨distinct, shallow⟩, rfl⟩ := (Fragment.compile_anchored_iff shape).mp compiled
  obtain ⟨groups, first, captures⟩ := parameter.expr_groups
  have behind_front : number = front.groups + 1 := by rw [stands.groups]
  -- the parts in front can be read by themselves, since the whole nests at least as deep
  have alone : level front.depths ≤ Expr.nestLimit := by
    have side := (level_bounds front.depths).2
    have part : deepest front.depths ≤ deepest (front.append (middle.append behind)).depths := by
      change _ ≤ deepest (_ ++ front.depths)
      rw [deepest_append]
      exact Nat.le_max_right _ _
    rw [Fragment.anchoredDepth_eq] at shallow
    omega
  refine ⟨⟨before, after, Branches.sequence front.items, split, ?_, behind_front⟩, ?_, _, ?_,
    reads.denotes⟩
  · rw [← text, front.read_text, if_pos ⟨distinct.of_append_right, alone⟩]
  · have there : (number, none) ∈ parameter.expr.captures (1 + front.groups) := by
      rw [Expr.captures_shift, captures, behind_front, Nat.add_comm front.groups]
      exact List.mem_cons_self
    rw [Regex.captures, Fragment.captures_between _ _ _ reads.items]
    exact List.mem_append_right _ (List.mem_append_left _ there)
  · rw [behind_front, Fragment.groupAt?_between _ _ _ reads.items (by omega), first]

/-- What the expression of an accepted pattern is good for, if the expressions that stand for types
also compile by themselves. It is put together from theirs and compiles exactly if no two groups in the
types share a name, which only groups that no match reports can do, if no type nests so deep that the
group of its parameter is a level too many, and if all types together fit into the space that there
is.

The group of a parameter opens behind the parts in front of it, holds the type of the parameter and is
reported. The pattern looks for it at that number or at a smaller one, and at the right one exactly if
all parameters in front of it count the groups that their types open. The number of groups is right if
all parameters but the last do. -/
theorem matchRegex_usable
    (accepted : (∃ source, Pattern.read source = .ok pattern) ∨
      ∃ spec patterns, RouteTree.pathPatterns spec = .ok patterns ∧ pattern ∈ patterns)
    (compiles : pattern.TypesCompile) :
    (∀ fits, (Regex.compileWithin? fits pattern.matchRegex).isSome ↔
      pattern.groupLabels.Nodup ∧ pattern.nesting ≤ Expr.nestLimit ∧
        fits ⟨pattern.matchRegex, pattern.expr⟩) ∧
    ∀ regex, Regex.compile? pattern.matchRegex = some regex →
      regex = ⟨pattern.matchRegex, pattern.expr⟩ ∧
      (regex.groupCount = pattern.groupCount ↔ Count pattern.parameters.dropLast) ∧
      ∀ index parameter, pattern.parameters[index]? = some parameter →
        ∃ number offset, pattern.OpensAt index number ∧ (number, none) ∈ regex.captures ∧
          (∃ content, regex.expr.groupAt? number = some (none, content) ∧
            Expr.read? ("(?:".toList ++ parameter.valueType.regexBody.toList ++ [')'])
              = some content) ∧
          pattern.groupOffsets[index]? = some (parameter.name, offset) ∧ offset ≤ number ∧
          (offset = number ↔ Count (pattern.parameters.take index)) := by
  have arises : pattern.Arises := by
    rcases accepted with ⟨source, taken⟩ | ⟨spec, patterns, found, member⟩
    · exact .read taken
    · exact RouteTree.pathPatterns_arise found pattern member
  refine ⟨fun fits => ?_, fun regex compiled => ?_⟩
  · simp only [Regex.compileWithin?, Option.isSome_iff_exists, Option.filter_eq_some_iff,
      compile_matchRegex_iff arises compiles]
    constructor
    · rintro ⟨_, ⟨⟨distinct, shallow⟩, rfl⟩, small⟩
      exact ⟨distinct, shallow, small⟩
    · rintro ⟨distinct, shallow, small⟩
      exact ⟨_, ⟨⟨distinct, shallow⟩, rfl⟩, small⟩
  obtain ⟨-, same⟩ := (compile_matchRegex_iff arises compiles).mp compiled
  refine ⟨same, groupCount_iff arises compiles compiled, fun index parameter own => ?_⟩
  obtain ⟨opens, reported, content⟩ := parameter_group arises compiles compiled own
  obtain ⟨bound, same⟩ := countGroups_le
    fun parameter (member : parameter ∈ pattern.parameters.take index) =>
      innerGroups_le arises compiles parameter (List.mem_of_mem_take member)
  refine ⟨_, 1 + countGroups (pattern.parameters.take index), opens, reported, content, ?_, ?_, ?_⟩
  · rw [groupOffsets, offsetsFrom_getElem?, own]
    rfl
  · omega
  · rw [Count, ← same]
    omega

/-- The type of the first parameter opens a group that no match reports. -/
def markedPattern : Pattern :=
  ⟨"\x7bmark:(x)\x7b0\x7d\x7d-\x7bpage\x7d", [.parameter 0, .literal "-", .parameter 1],
    [⟨"mark", .custom "(x)\x7b0\x7d", [], true, 0⟩, ⟨"page", .string, [], true, 0⟩]⟩

/-- The second parameter is looked for one group too early. -/
theorem matchRegex_usable_marked :
    read markedPattern.source = .ok markedPattern ∧ markedPattern.groupCount = 2 ∧
    markedPattern.groupOffsets = [("mark", 1), ("page", 2)] ∧
    ∃ regex number, Regex.compile? markedPattern.matchRegex = some regex ∧ regex.groupCount ≠ 2 ∧
      markedPattern.OpensAt 1 number ∧ (number, none) ∈ regex.captures ∧ number ≠ 2 := by
  have taken : (read markedPattern.source).toOption = some markedPattern := by decide +kernel
  have accepted := ok_of_toOption taken
  have compiles : markedPattern.TypesCompile := by
    have all : ∀ parameter ∈ markedPattern.parameters,
        (Regex.compile? parameter.valueType.regexBody).isSome := by decide +kernel
    intro parameter member token custom
    have compiled := all parameter member
    rwa [custom] at compiled
  have uncounted : ¬ ∀ parameter ∈ markedPattern.parameters.take 1,
      parameter.innerGroups = parameter.valueType.openedGroups := by decide +kernel
  obtain ⟨usable, numbers⟩ := matchRegex_usable (.inl ⟨_, accepted⟩) compiles
  have distinct : markedPattern.groupLabels.Nodup := by decide +kernel
  have shallow : markedPattern.nesting ≤ Expr.nestLimit := by decide +kernel
  obtain ⟨regex, within⟩ :=
    Option.isSome_iff_exists.mp ((usable fun _ => true).mpr ⟨distinct, shallow, rfl⟩)
  obtain ⟨compiled, -⟩ := Option.filter_eq_some_iff.mp within
  obtain ⟨-, counted, places⟩ := numbers regex compiled
  obtain ⟨number, offset, opens, reported, -, looked, -, right⟩ := places 1 _ rfl
  cases looked
  exact ⟨accepted, rfl, rfl, regex, number, compiled, fun same => uncounted (counted.mp same), opens,
    reported, fun same => uncounted (right.mp same.symm)⟩

end Pattern

end Signpost
