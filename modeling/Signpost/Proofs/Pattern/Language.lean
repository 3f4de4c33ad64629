import Mathlib.Data.List.Induction
import Signpost.Proofs.Pattern.Builtin
import Signpost.Proofs.Pattern.Usability
import Signpost.Proofs.Program.Batching

/-!
# The language of a pattern

A pattern with built-in types alone describes a language: the texts that are made of its literal texts
and of values that its parameters take. Its expression matches these texts and no others, however many
ways there are to cut a text, and what a match reports is one of the ways.
-/
namespace Signpost

open Regex

/-- A parameter takes values of the characters of its type, and the empty one if it is optional. -/
structure Parameter.Takes (parameter : Parameter) (value : String) : Prop where
  admitted : ∀ c ∈ value.toList, parameter.valueType.admits c
  filled : parameter.required = true → value ≠ ""

namespace Pattern

/-- The parts of a pattern with values in place of the parameters. -/
def fill (pattern : Pattern) (values : List String) : String :=
  String.join <| pattern.parts.map fun
    | .literal text => text
    | .parameter index => (values[index]?).getD ""

/-- A segment is made of values, one for each parameter. -/
structure Decomposes (pattern : Pattern) (segment : String) (values : List String) : Prop where
  takes : List.Forall₂ Parameter.Takes pattern.parameters values
  spells : pattern.fill values = segment

variable {pattern : Pattern}

/-! ### Texts of parts -/

/-- The text of parts, given the values of parameters by their numbers. -/
def spell (value : Nat → String) (parts : List PatternPart) : List Char :=
  parts.flatMap fun
    | .literal text => text.toList
    | .parameter index => (value index).toList

theorem toList_fill (pattern : Pattern) (values : List String) :
    (pattern.fill values).toList = spell (fun index => (values[index]?).getD "") pattern.parts := by
  rw [fill, String.toList_join, List.flatMap_map, spell]
  refine List.flatMap_congr fun part _ => ?_
  cases part <;> rfl

/-- A text depends on the values of the parameters that its parts refer to. -/
theorem spell_congr {value other : Nat → String} {parts : List PatternPart}
    (same : ∀ index ∈ partIndices parts, value index = other index) :
    spell value parts = spell other parts := by
  induction parts with
  | nil => rfl
  | cons part rest ih =>
    cases part with
    | literal text => exact congrArg (text.toList ++ ·) (ih same)
    | parameter index =>
      obtain ⟨here, later⟩ := List.forall_mem_cons.mp same
      change (value index).toList ++ spell value rest = (other index).toList ++ spell other rest
      rw [here, ih later]

theorem spell_append (value : Nat → String) (parts : List PatternPart) (part : PatternPart) :
    spell value (parts ++ [part]) = spell value parts ++ spell value [part] :=
  List.flatMap_append

/-- If parameters are numbered in order, the last one has the greatest number. -/
theorem range_of_last {parts : List PatternPart} {index count : Nat}
    (ordered : partIndices (parts ++ [.parameter index]) = List.range count) :
    count = index + 1 ∧ partIndices parts = List.range index := by
  rw [partIndices_append] at ordered
  cases count with
  | zero => simp [partIndices] at ordered
  | succ count =>
    rw [List.range_succ] at ordered
    obtain ⟨before, last⟩ := List.append_inj' ordered rfl
    obtain rfl : index = count := List.singleton_inj.mp last
    exact ⟨rfl, before⟩

/-! ### Expressions of parts -/

theorem itemsOf_append (parts : List PatternPart) (part : PatternPart) :
    pattern.itemsOf (parts ++ [part]) = pattern.partItems part ++ pattern.itemsOf parts := by
  simp [itemsOf]

/-- Parts open a group for each parameter. -/
theorem itemsOf_groups
    (builtin : ∀ parameter ∈ pattern.parameters, parameter.valueType.Builtin)
    {parts : List PatternPart}
    (inside : ∀ index ∈ partIndices parts, index < pattern.parameters.length) :
    (Branches.sequence (pattern.itemsOf parts)).groups = (partIndices parts).length := by
  induction parts using List.reverseRecOn with
  | nil => rfl
  | append_singleton parts part ih =>
    rw [partIndices_append] at inside
    obtain ⟨earlier, last⟩ := List.forall_mem_append.mp inside
    rw [itemsOf_append, Fragment.groups_append, ih earlier, partIndices_append, List.length_append]
    refine congrArg ((partIndices parts).length + ·) ?_
    cases part with
    | literal text =>
      rw [partItems_literal]
      exact Fragment.literal_groups _
    | parameter index =>
      have known := last index (by simp [partIndices])
      rw [partItems_parameter (List.getElem?_eq_getElem known)]
      exact (Branches.sequence_single _).1.trans
        (Parameter.groups_builtin (builtin _ (List.getElem_mem known)))

/-! ### Values that are marked -/

/-- The value that marks give to the parameter with a number. -/
def valueAt (segment : String) (marks : Marks) (index : Nat) : String :=
  ((marks.lookup (index + 1)).map (slice segment)).getD ""

theorem valueAt_cons {segment : String} {marks : Marks} {index other : Nat} (span : Nat × Nat)
    (different : index ≠ other) :
    valueAt segment ((1 + other, span) :: marks) index = valueAt segment marks index := by
  have unequal : (index + 1 == 1 + other) = false := by
    rw [beq_eq_false_iff_ne]
    omega
  rw [valueAt, valueAt, List.lookup_cons, unequal]

/-- What a run has passed over is made of parts, with values that their parameters take. -/
structure Cuts (pattern : Pattern) (segment : String) (parts : List PatternPart) (count : Nat)
    (stop : Nat) (marks : Marks) : Prop where
  spelled : ∃ rest, segment.toList = spell (valueAt segment marks) parts ++ rest
  length : stop = (spell (valueAt segment marks) parts).length
  takes : ∀ index parameter, index < count → pattern.parameters[index]? = some parameter →
    parameter.Takes (valueAt segment marks index)

namespace Cuts

variable {segment : String} {parts : List PatternPart} {count start : Nat} {marks : Marks}

theorem inside (cuts : pattern.Cuts segment parts count start marks) :
    start ≤ segment.toList.toArray.size := by
  obtain ⟨rest, spelled⟩ := cuts.spelled
  rw [cuts.length, List.size_toArray, spelled, List.length_append]
  exact Nat.le_add_right _ _

theorem literal {text : String} (cuts : pattern.Cuts segment parts count start marks)
    (there : ∀ index < text.toList.length,
      segment.toList.toArray[start + index]? = text.toList[index]?) :
    pattern.Cuts segment (parts ++ [.literal text]) count (start + text.toList.length) marks := by
  obtain ⟨rest, spelled⟩ := cuts.spelled
  have own : spell (valueAt segment marks) [.literal text] = text.toList := by simp [spell]
  rw [spelled, cuts.length] at there
  obtain ⟨after, rfl⟩ := stands_behind_iff.mp there
  refine ⟨⟨after, ?_⟩, ?_, cuts.takes⟩
  · rw [spelled, spell_append, own, List.append_assoc]
  · rw [spell_append, own, List.length_append, cuts.length]

variable {index : Nat} {parameter : Parameter}

/-- A parameter that has been left out has the empty value. -/
theorem skip (cuts : pattern.Cuts segment parts index start marks)
    (known : pattern.parameters[index]? = some parameter) (optional : parameter.required = false)
    (unmarked : marks.lookup (index + 1) = none) :
    pattern.Cuts segment (parts ++ [.parameter index]) (index + 1) start marks := by
  have empty : valueAt segment marks index = "" := by
    rw [valueAt, unmarked]
    rfl
  have own : spell (valueAt segment marks) [.parameter index] = [] := by simp [spell, empty]
  refine ⟨?_, ?_, ?_⟩
  · rw [spell_append, own, List.append_nil]
    exact cuts.spelled
  · rw [spell_append, own, List.append_nil]
    exact cuts.length
  · intro other found small there
    rcases Nat.lt_succ_iff_lt_or_eq.mp small with less | rfl
    · exact cuts.takes other found less there
    · cases known.symm.trans there
      rw [empty]
      exact ⟨by simp, fun required => absurd (optional.symm.trans required) Bool.false_ne_true⟩

/-- A parameter that has a mark has what stands there for its value. -/
theorem take {stop : Nat} (cuts : pattern.Cuts segment parts index start marks)
    (known : pattern.parameters[index]? = some parameter)
    (earlier : ∀ other ∈ partIndices parts, other < index) (later : start < stop)
    (all : ∀ position, start ≤ position → position < stop →
      Assertion.present parameter.valueType.charClass segment.toList.toArray position) :
    pattern.Cuts segment (parts ++ [.parameter index]) (index + 1) stop
      ((1 + index, start, stop) :: marks) := by
  obtain ⟨⟨rest, spelled⟩, length, takes⟩ := cuts
  rw [spelled] at all
  rw [length] at later all
  obtain ⟨value, after, rfl, end_, admitted⟩ := value_between (Nat.le_of_lt later) all
  -- The new mark gives its own parameter a value and leaves the values before it alone.
  have here : valueAt segment ((1 + index, start, stop) :: marks) index = String.ofList value := by
    have whole : segment
        = String.ofList (spell (valueAt segment marks) parts ++ value ++ after) := by
      rw [List.append_assoc, ← spelled, String.ofList_toList]
    rw [valueAt, Nat.add_comm index, List.lookup_cons, beq_self_eq_true, length, end_]
    dsimp only
    rw [Option.map_some, Option.getD_some]
    nth_rewrite 1 [whole]
    exact slice_around _ value after
  have before : spell (valueAt segment ((1 + index, start, stop) :: marks)) parts
      = spell (valueAt segment marks) parts :=
    spell_congr fun other among => valueAt_cons _ (Nat.ne_of_lt (earlier other among))
  have own : spell (valueAt segment ((1 + index, start, stop) :: marks)) [.parameter index]
      = value := by
    simp [spell, here]
  refine ⟨⟨after, ?_⟩, ?_, ?_⟩
  · rw [spell_append, before, own, spelled, List.append_assoc]
  · rw [spell_append, before, own, List.length_append, end_]
  · intro other found small there
    rcases Nat.lt_succ_iff_lt_or_eq.mp small with less | rfl
    · rw [valueAt_cons _ (Nat.ne_of_lt less)]
      exact takes other found less there
    · cases known.symm.trans there
      rw [here]
      refine ⟨fun c member => ?_, fun _ empty => ?_⟩
      · rw [String.toList_ofList] at member
        exact (parameter.valueType.admits_iff c).mpr (admitted c member)
      · have nothing : value = [] := by simpa using congrArg String.toList empty
        rw [nothing] at end_
        exact absurd later (by simp [end_])

end Cuts

/-- Every run of the expression of parts cuts the text. -/
theorem cuts_of_run
    (builtin : ∀ parameter ∈ pattern.parameters, parameter.valueType.Builtin)
    {segment : String} {parts : List PatternPart} {count : Nat}
    (ordered : partIndices parts = List.range count) (bounded : count ≤ pattern.parameters.length)
    {run : MatchRun}
    (member : run ∈
      ((Branches.sequence (pattern.itemsOf parts)).table segment.toList.toArray 1).runs 0) :
    pattern.Cuts segment parts count run.1 run.2 := by
  induction parts using List.reverseRecOn generalizing count run with
  | nil =>
    rw [show Branches.sequence (pattern.itemsOf []) = .empty from rfl, Expr.runs_empty,
      if_pos (Nat.zero_le _), List.mem_singleton] at member
    subst member
    refine ⟨⟨segment.toList, rfl⟩, rfl, ?_⟩
    intro index parameter small
    rw [List.range_eq_nil.mp ordered.symm] at small
    cases small
  | append_singleton parts part ih =>
    rw [itemsOf_append] at member
    cases part with
    | literal text =>
      rw [partItems_literal] at member
      obtain ⟨start, stop, there, before⟩ := Fragment.mem_literal member
      rw [partIndices_append, partIndices, partIndices, List.append_nil] at ordered
      rw [stop]
      exact (ih ordered bounded before).literal there
    | parameter index =>
      obtain ⟨rfl, earlier⟩ := range_of_last ordered
      have inside : ∀ other ∈ partIndices parts, other < index := by simp [earlier]
      have groups : (Branches.sequence (pattern.itemsOf parts)).groups = index := by
        rw [itemsOf_groups builtin fun other among => Nat.lt_trans (inside other among) bounded,
          earlier, List.length_range]
      have known := List.getElem?_eq_getElem bounded
      rw [partItems_parameter known, List.singleton_append] at member
      obtain ⟨first, before, second, own, rfl⟩ := Branches.mem_sequence member
      have cuts := ih earlier (Nat.le_of_lt bounded) before
      rw [groups] at own
      have type := builtin _ (List.getElem_mem bounded)
      rcases Parameter.mem_expr type cuts.inside own with ⟨rfl, optional⟩ | ⟨marks, later, all⟩
      -- the parameter has been left out, and no mark has its number
      · refine cuts.skip known optional (List.lookup_eq_none_iff.mpr fun mark marked => ?_)
        have sets : (Branches.sequence (pattern.itemsOf parts)).Sets (fun number => 1 ≤ number ∧
            number < 1 + (Branches.sequence (pattern.itemsOf parts)).groups) 1 :=
          Expr.captures_bounds
        have bounds := Expr.runs_within sets 0 first before mark marked
        rw [groups] at bounds
        rw [bne_iff_ne]
        omega
      · rw [marks]
        exact cuts.take known inside later all

/-- Where a text begins with parts that have values, a run ends behind them. -/
theorem endsAt_spell
    (builtin : ∀ parameter ∈ pattern.parameters, parameter.valueType.Builtin)
    {segment : String} {value : Nat → String} {parts : List PatternPart}
    {count : Nat} (ordered : partIndices parts = List.range count)
    (bounded : count ≤ pattern.parameters.length)
    (takes : ∀ index parameter, index < count → pattern.parameters[index]? = some parameter →
      parameter.Takes (value index))
    {rest : List Char} (spelled : segment.toList = spell value parts ++ rest) :
    EndsAt (spell value parts).length
      (((Branches.sequence (pattern.itemsOf parts)).table segment.toList.toArray 1).runs 0) := by
  -- The last part decides where a run ends, so parts are taken off the end.
  induction parts using List.reverseRecOn generalizing count rest with
  | nil =>
    rw [show Branches.sequence (pattern.itemsOf []) = .empty from rfl, Expr.runs_empty,
      if_pos (Nat.zero_le _)]
    exact ⟨[], List.mem_singleton_self _⟩
  | append_singleton parts part ih =>
    rw [spell_append, List.append_assoc] at spelled
    rw [itemsOf_append, spell_append, List.length_append]
    cases part with
    | literal text =>
      rw [partIndices_append, partIndices, partIndices, List.append_nil] at ordered
      have own : spell value [.literal text] = text.toList := by simp [spell]
      rw [own] at spelled ⊢
      have there : ∀ index < text.toList.length, (segment.toList.toArray)[(spell value parts).length
          + index]? = text.toList[index]? := by
        rw [spelled]
        exact stands_behind_iff.mpr ⟨rest, rfl⟩
      rw [endsAt_iff, partItems_literal, Fragment.firstTo_literal there, ← endsAt_iff]
      exact ih ordered bounded takes spelled
    | parameter index =>
      obtain ⟨rfl, earlier⟩ := range_of_last ordered
      have known := List.getElem?_eq_getElem bounded
      have taken := takes index _ (Nat.lt_succ_self index) known
      have own : spell value [.parameter index] = (value index).toList := by simp [spell]
      have before := ih earlier (Nat.le_of_lt bounded)
        (fun other parameter small => takes other parameter (Nat.lt_succ_of_lt small)) spelled
      have size : segment.toList.toArray.size
          = (spell value parts).length + ((value index).toList.length + rest.length) := by
        rw [List.size_toArray, spelled, own, List.length_append, List.length_append]
      rw [partItems_parameter known, own]
      refine Branches.endsAt_sequence (Nat.zero_le _) before ?_
      refine Parameter.endsAt_expr (builtin _ (List.getElem_mem bounded)) (by omega) (by omega) ?_
      -- an empty value is read by leaving an optional parameter out
      by_cases empty : value index = ""
      · refine .inl ⟨by simp [empty], Bool.eq_false_iff.mpr fun required => ?_⟩
        exact taken.filled required empty
      · have long : 0 < (value index).toList.length :=
          List.length_pos_of_ne_nil (by simpa using empty)
        refine .inr ⟨by omega, ?_⟩
        rw [spelled, own, ← List.append_assoc]
        exact present_between fun c member =>
          (ValueType.admits_iff _ c).mp (taken.admitted c member)

/-! ### Matches -/

section

variable {segment : String} {marks : Marks}
  (builtin : ∀ parameter ∈ pattern.parameters, parameter.valueType.Builtin)
  (ordered : partIndices pattern.parts = List.range pattern.parameters.length)

include builtin ordered

/-- A run over the whole of a segment cuts it into the values that it marks. -/
theorem decomposes_of_marks
    (matched : (Branches.sequence (pattern.itemsOf pattern.parts)).matchTo segment.toList.toArray 1
      = some marks) :
    pattern.Decomposes segment
      ((List.range pattern.parameters.length).map (valueAt segment marks)) := by
  obtain ⟨⟨rest, spelled⟩, length, takes⟩ :=
    cuts_of_run builtin ordered (Nat.le_refl _) (mem_of_firstTo matched)
  dsimp only at spelled length takes
  refine ⟨List.forall₂_iff_get.mpr ⟨by simp, ?_⟩, ?_⟩
  · intro index known _
    simpa using takes index _ known (List.getElem?_eq_getElem known)
  · have whole : rest = [] := by
      have size := congrArg List.length spelled
      rw [List.length_append, ← length, List.size_toArray] at size
      exact List.length_eq_zero_iff.mp (by omega)
    rw [whole, List.append_nil] at spelled
    refine String.toList_injective ?_
    rw [toList_fill, spelled]
    refine spell_congr fun index member => ?_
    rw [ordered] at member
    rw [List.getElem?_map, List.getElem?_range (List.mem_range.mp member)]
    rfl

/-- Where a segment is made of values, a run reaches its end. -/
theorem matchTo_of_decomposes {values : List String}
    (decomposes : pattern.Decomposes segment values) :
    ((Branches.sequence (pattern.itemsOf pattern.parts)).matchTo segment.toList.toArray 1).isSome := by
  obtain ⟨length, takes⟩ := List.forall₂_iff_get.mp decomposes.takes
  have spelled := pattern.toList_fill values
  rw [decomposes.spells] at spelled
  have size : segment.toList.toArray.size
      = (spell (fun index => (values[index]?).getD "") pattern.parts).length := by
    rw [List.size_toArray, spelled]
  rw [← List.append_nil (spell _ _)] at spelled
  rw [Expr.matchTo, ← endsAt_iff, size]
  refine endsAt_spell builtin ordered (Nat.le_refl _) (fun index parameter known there => ?_) spelled
  have also : index < values.length := length ▸ known
  rw [List.getElem?_eq_getElem known] at there
  cases there
  simpa [List.getElem?_eq_getElem also] using takes index known also

end

/-- The values that a match reports; a group that takes no part counts as empty. -/
def readValues (pattern : Pattern) (groups : List (Option String)) : List String :=
  pattern.groupOffsets.map fun capture => (Machine.groupText? groups capture.2).getD ""

theorem countGroups_groupless {parameters : List Parameter}
    (groupless : ∀ parameter ∈ parameters, parameter.innerGroups = 0) :
    countGroups parameters = parameters.length := by
  induction parameters with
  | nil => rfl
  | cons parameter rest ih =>
    obtain ⟨here, later⟩ := List.forall_mem_cons.mp groupless
    rw [countGroups, here, ih later, List.length_cons]
    omega

/-- Without groups inside types, parameters have the groups of their own numbers. -/
theorem readValues_eq (groupless : ∀ parameter ∈ pattern.parameters, parameter.innerGroups = 0)
    {segment : String} {marks : Marks} {groups : List (Option String)}
    (texts : ∀ index, 0 < index →
      Machine.groupText? groups index = (marks.lookup index).map (slice segment)) :
    pattern.readValues groups
      = (List.range pattern.parameters.length).map (valueAt segment marks) := by
  refine List.ext_getElem? fun index => ?_
  rw [readValues, List.getElem?_map, groupOffsets, offsetsFrom_getElem?, List.getElem?_map]
  by_cases known : index < pattern.parameters.length
  · have number : countGroups (pattern.parameters.take index) = index := by
      rw [countGroups_groupless fun parameter member => groupless parameter (List.mem_of_mem_take member),
        List.length_take, Nat.min_eq_left (Nat.le_of_lt known)]
    rw [List.getElem?_eq_getElem known, List.getElem?_range known, number]
    simp only [Option.map_some, valueAt]
    rw [texts _ (by omega), Nat.add_comm]
  · rw [List.getElem?_eq_none (by omega), List.getElem?_eq_none (by simpa using known)]
    rfl

/-- A pattern with built-in types matches the segments that are made of its literal texts and of values
that its parameters take, and no others; and what a match reports are such values. -/
theorem matchRegex_language {source : String} (accepted : Pattern.read source = .ok pattern)
    (builtin : ∀ parameter ∈ pattern.parameters, parameter.valueType.Builtin) :
    ∃ regex, Regex.compile? pattern.matchRegex = some regex ∧ ∀ segment,
      ((regex.match? segment).isSome ↔ ∃ values, pattern.Decomposes segment values) ∧
      ∀ groups, regex.match? segment = some groups →
        pattern.Decomposes segment (pattern.readValues groups) := by
  obtain ⟨ordered, opens⟩ := read_origin accepted
  have inside : ∀ index ∈ partIndices pattern.parts, index < pattern.parameters.length := by
    simp [ordered]
  obtain ⟨fragment, text, items, stands⟩ := parts_fragment opens
    (fun parameter member token custom => (builtin parameter member).compiles custom) inside
  have shape : pattern.matchRegex.toList = "^".toList ++ fragment.text ++ "$".toList := by
    rw [matchRegex, String.toList_append, String.toList_append, text, textOf_parts]
  refine ⟨_, (Fragment.compile_anchored_iff shape).mpr ⟨stands.compiles_builtin ?_, rfl⟩,
    fun segment => ?_⟩
  · exact fun parameter member => builtin parameter (mem_of_referred member)
  have whole : fragment.matchWhole segment.toList.toArray
      = (Branches.sequence (pattern.itemsOf pattern.parts)).matchTo segment.toList.toArray 1 := by
    rw [Fragment.matchWhole, items]
  have searched : search segment.toList.toArray fragment.anchored = _ := fragment.search_anchored
  rw [whole] at searched
  cases matched : (Branches.sequence (pattern.itemsOf pattern.parts)).matchTo
      segment.toList.toArray 1 with
  | none =>
    rw [matched] at searched
    have unmatched : Regex.match? ⟨pattern.matchRegex, fragment.anchored⟩ segment = none := by
      simp [Regex.match?, searched]
    refine ⟨⟨by simp [unmatched], ?_⟩, by simp [unmatched]⟩
    rintro ⟨values, decomposes⟩
    have ends := matchTo_of_decomposes builtin ordered decomposes
    rw [matched] at ends
    cases ends
  | some marks =>
    rw [matched] at searched
    obtain ⟨groups, reported, texts⟩ :=
      @Batch.groupText_eq ⟨pattern.matchRegex, fragment.anchored⟩ segment _ _ _ searched
    have decomposes : pattern.Decomposes segment (pattern.readValues groups) := by
      rw [readValues_eq (fun parameter member =>
        (builtin parameter member).opens_iff.mp (opens parameter member)) texts]
      exact decomposes_of_marks builtin ordered matched
    refine ⟨⟨fun _ => ⟨_, decomposes⟩, fun _ => by simp [reported]⟩, ?_⟩
    intro others again
    rw [reported] at again
    cases again
    exact decomposes

/-- Two numbers, the second of which may be missing, and a tag right behind them. -/
def releasePattern : Pattern :=
  ⟨"v\x7bmajor:int\x7d.[minor:int]\x7btag\x7d",
    [.literal "v", .parameter 0, .literal ".", .parameter 1, .parameter 2],
    [⟨"major", .int, [], true, 0⟩, ⟨"minor", .int, [], false, 0⟩, ⟨"tag", .string, [], true, 0⟩]⟩

theorem matchRegex_language_release :
    read releasePattern.source = .ok releasePattern ∧
    (∀ parameter ∈ releasePattern.parameters, parameter.valueType.Builtin) ∧
    releasePattern.Decomposes "v1.beta" ["1", "", "beta"] ∧
    ∃ regex, Regex.compile? releasePattern.matchRegex = some regex ∧
      ∃ groups, regex.match? "v1.beta" = some groups ∧
        releasePattern.Decomposes "v1.beta" (releasePattern.readValues groups) := by
  have taken : (read releasePattern.source).toOption = some releasePattern := by decide +kernel
  have accepted := ok_of_toOption taken
  have builtin : ∀ parameter ∈ releasePattern.parameters, parameter.valueType.Builtin := by
    simp [releasePattern, ValueType.Builtin]
  have decomposes : releasePattern.Decomposes "v1.beta" ["1", "", "beta"] := by
    refine ⟨.cons ⟨List.all_eq_true.mp (by decide), by decide⟩
      (.cons ⟨List.all_eq_true.mp (by decide), by decide⟩
        (.cons ⟨List.all_eq_true.mp (by decide), by decide⟩ .nil)), by decide +kernel⟩
  obtain ⟨regex, compiled, matches_⟩ := matchRegex_language accepted builtin
  obtain ⟨matched, values⟩ := matches_ "v1.beta"
  obtain ⟨groups, found⟩ := Option.isSome_iff_exists.mp (matched.mpr ⟨_, decomposes⟩)
  exact ⟨accepted, builtin, decomposes, regex, compiled, groups, found, values groups found⟩

end Pattern

end Signpost
