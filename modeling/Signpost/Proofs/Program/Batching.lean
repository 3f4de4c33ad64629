import Mathlib.Data.List.Find
import Signpost.Machine
import Signpost.Proofs.Pattern.Groups
import Signpost.Proofs.Program.Partition

/-!
# Merged patterns select like single ones

A merged expression matches a segment with the first of its patterns that matches by itself, and the
groups of that pattern are set as they are when it matches alone, with greater numbers. What a branch
takes for its group is the number that the patterns before it leave when their groups are counted.
The count falls short of the groups that are opened when a type ends in groups that no match reports,
and then the branches behind it look at groups that are not set.
-/
namespace Signpost

open Regex

/-- The values of the parameters when a pattern matches a whole segment by itself. -/
def Pattern.matchAlone (pattern : Pattern) (segment : String) : Option Frame := do
  let regex ← Regex.compile? pattern.matchRegex
  let groups ← regex.match? segment
  return pattern.groupOffsets.map fun (name, offset) =>
    (name, (Machine.groupText? groups offset).getD "")

namespace Batch

/-- The first of the patterns that matches a segment by itself, with its values; the first of them
all has the given arm. -/
def selectAlone (segment : String) (arm : Nat) : List Pattern → Option (Nat × Frame)
  | [] => none
  | pattern :: rest =>
    match pattern.matchAlone segment with
    | some frame => some (arm, frame)
    | none => selectAlone segment (arm + 1) rest

/-- All patterns that stand before an arm in the same expression count the groups that they open. -/
def Undisturbed (patterns : List Pattern) (groups : List BatchGroup) (arm : Nat) : Prop :=
  ∀ group ∈ groups, arm ∈ group.branches.map (·.arm) →
    ∀ earlier ∈ group.branches.map (·.arm), earlier < arm →
      ∀ pattern, patterns[earlier]? = some pattern → pattern.CountsGroups

/-! ### One pattern -/

/-- The values that marks give to captures. -/
def frameOf (segment : String) (marks : Marks) (captures : List (String × Nat)) : Frame :=
  captures.map fun (name, group) => (name, ((marks.lookup group).map (slice segment)).getD "")

/-- A fragment denotes the expression of a pattern. -/
structure Denotes (pattern : Pattern) (fragment : Fragment) : Prop where
  text : fragment.text = pattern.alternationBody.toList
  groups : fragment.groups = pattern.openedGroups
  counted : pattern.groupCount ≤ pattern.openedGroups
  counts : pattern.groupCount = pattern.openedGroups ↔ pattern.CountsGroups

theorem exists_denotes {patterns : List Pattern} (arise : ∀ pattern ∈ patterns, pattern.Arises)
    (compile : ∀ pattern ∈ patterns, pattern.TypesCompile) :
    ∃ fragments, List.Forall₂ Denotes patterns fragments := by
  induction patterns with
  | nil => exact ⟨[], .nil⟩
  | cons pattern rest ih =>
    obtain ⟨arises, others⟩ := List.forall_mem_cons.mp arise
    obtain ⟨compiles, more⟩ := List.forall_mem_cons.mp compile
    obtain ⟨fragments, all⟩ := ih others more
    obtain ⟨fragment, text, groups⟩ := Pattern.exists_fragment arises compiles
    obtain ⟨counted, counts⟩ := Pattern.groupCount_le arises compiles
    exact ⟨fragment :: fragments, .cons ⟨text, groups, counted, counts⟩ all⟩

/-- The text of a group other than the whole match. -/
theorem groupText_eq {regex : Regex} {segment : String} {start stop : Nat} {marks : Marks}
    (found : search segment.toList.toArray regex.expr = some (start, stop, marks)) :
    ∃ groups, regex.match? segment = some groups ∧ ∀ index, 0 < index →
      Machine.groupText? groups index = (marks.lookup index).map (slice segment) := by
  obtain ⟨groups, matched, texts⟩ := match?_groups found
  refine ⟨groups, matched, fun index positive => ?_⟩
  obtain ⟨before, rfl⟩ := Nat.exists_eq_succ_of_ne_zero (Nat.ne_of_gt positive)
  exact texts before

theorem Denotes.matchRegex {pattern : Pattern} {fragment : Fragment}
    (denotes : Denotes pattern fragment) :
    pattern.matchRegex.toList = "^".toList ++ fragment.text ++ "$".toList := by
  rw [Pattern.matchRegex, String.toList_append, String.toList_append, denotes.text]

theorem Denotes.matchAlone {pattern : Pattern} {fragment : Fragment}
    (denotes : Denotes pattern fragment) (compiles : fragment.Compiles) (segment : String) :
    pattern.matchAlone segment
      = (fragment.matchWhole segment.toList.toArray).map fun marks =>
          frameOf segment marks pattern.groupOffsets := by
  have compiled := (Fragment.compile_anchored_iff denotes.matchRegex).mpr ⟨compiles, rfl⟩
  rw [Pattern.matchAlone, compiled]
  have searched : search segment.toList.toArray fragment.anchored = _ := fragment.search_anchored
  cases own : fragment.matchWhole segment.toList.toArray with
  | none =>
    rw [own] at searched
    simp [Regex.match?, searched]
  -- the marks give every parameter the text of its group
  | some marks =>
    rw [own] at searched
    obtain ⟨groups, matched, texts⟩ :=
      @groupText_eq ⟨pattern.matchRegex, fragment.anchored⟩ segment _ _ _ searched
    simp only [Option.bind_eq_bind, Option.bind_some, matched, Option.map_some]
    refine congrArg some (List.map_congr_left fun capture member => ?_)
    rw [texts _ (Pattern.offsetsFrom_within capture member).1]

/-! ### One expression -/

/-- The number of the group behind patterns. -/
def groupBehind (next : Nat) : List Pattern → Nat
  | [] => next
  | pattern :: rest => groupBehind (next + 1 + pattern.openedGroups) rest

/-- What matches in a merged expression: nothing, or the first pattern that matches by itself, whose
group then is the first of those that are set. -/
theorem choose_cases {part : List Pattern} {fragments : List Fragment}
    (denote : List.Forall₂ Denotes part fragments)
    (compile : ∀ fragment ∈ fragments, fragment.Compiles)
    (segment : String) (next : Nat) :
    (Fragment.choose segment.toList.toArray next fragments = none ∧
      ∀ pattern ∈ part, pattern.matchAlone segment = none) ∨
    ∃ before pattern after own, part = before ++ pattern :: after ∧
      (∀ other ∈ before, other.matchAlone segment = none) ∧
      pattern.matchAlone segment = some (frameOf segment own pattern.groupOffsets) ∧
      own.Within (1 ≤ ·) ∧
      Fragment.choose segment.toList.toArray next fragments
        = some ((groupBehind next before, 0, segment.toList.toArray.size)
          :: own.map fun mark => (mark.1 + groupBehind next before, mark.2)) := by
  induction denote generalizing next with
  | nil => exact .inl ⟨rfl, by simp⟩
  -- the induction follows the alternation: either its first expression matches as a whole, or all
  -- that is said about the others holds with this pattern in front of them
  | @cons first fragment rest fragments denotes _ ih =>
    have alone := denotes.matchAlone (compile _ List.mem_cons_self) segment
    rw [Fragment.choose]
    cases own : fragment.matchWhole segment.toList.toArray with
    | some marks =>
      right
      rw [own] at alone
      refine ⟨[], first, rest, marks, rfl, by simp, alone, ?_, rfl⟩
      exact fun mark member => (Fragment.matchWhole_within own mark member).1
    | none =>
      rw [own] at alone
      rw [denotes.groups]
      rcases ih (List.forall_mem_of_forall_mem_cons compile) (next + 1 + first.openedGroups) with
        ⟨nothing, others⟩ | ⟨before, pattern, after, marks, rfl, others, found, within, chosen⟩
      · exact .inl ⟨nothing, List.forall_mem_cons.mpr ⟨alone, others⟩⟩
      · exact .inr ⟨first :: before, pattern, after, marks, rfl,
          List.forall_mem_cons.mpr ⟨alone, others⟩, found, within, chosen⟩

/-- Counting groups never exceeds their numbers, and reaches them if all patterns count theirs. -/
theorem groupAfter_le {patterns : List Pattern} {counted next : Nat} (behind : counted ≤ next)
    (bound : ∀ pattern ∈ patterns, pattern.groupCount ≤ pattern.openedGroups ∧
      (pattern.groupCount = pattern.openedGroups ↔ pattern.CountsGroups)) :
    groupAfter counted patterns ≤ groupBehind next patterns ∧
      (groupAfter counted patterns = groupBehind next patterns ↔
        counted = next ∧ ∀ pattern ∈ patterns, pattern.CountsGroups) := by
  induction patterns generalizing counted next with
  | nil => simpa [groupAfter, groupBehind] using behind
  | cons pattern rest ih =>
    obtain ⟨⟨limit, counts⟩, others⟩ := List.forall_mem_cons.mp bound
    -- the counted number never runs ahead, so it is equal at the end only if it has been equal
    -- throughout
    have step : counted + 1 + pattern.groupCount ≤ next + 1 + pattern.openedGroups := by omega
    obtain ⟨later, exact_⟩ := ih step others
    refine ⟨later, ?_⟩
    rw [groupAfter, groupBehind, exact_, List.forall_mem_cons, ← counts]
    constructor
    · rintro ⟨same, all⟩
      exact ⟨by omega, by omega, all⟩
    · rintro ⟨rfl, same, all⟩
      exact ⟨by omega, all⟩

theorem captures_bound {arm mark next : Nat} {patterns : List Pattern} {branch : BranchSlot}
    (member : branch ∈ branchesFrom arm mark next patterns) :
    ∀ capture ∈ branch.captures, next < capture.2 := by
  induction patterns generalizing arm mark next with
  | nil => cases member
  | cons pattern rest ih =>
    rw [branchesFrom] at member
    rcases List.mem_cons.mp member with rfl | later
    · intro capture inside
      obtain ⟨origin, offset, rfl⟩ := List.mem_map.mp inside
      have positive : 1 ≤ origin.2 := (Pattern.offsetsFrom_within origin offset).1
      dsimp only
      omega
    · exact fun capture inside => Nat.lt_trans (by omega) (ih later capture inside)

section Lookup

variable {own : Marks} {start number : Nat} {span : Nat × Nat}

/-- Below the first group of a pattern nothing is set. -/
theorem lookup_below (small : number < start) :
    List.lookup number ((start, span) :: own.map fun mark => (mark.1 + start, mark.2)) = none := by
  rw [List.lookup_eq_none_iff]
  intro mark member
  rw [bne_iff_ne]
  rcases List.mem_cons.mp member with rfl | inside
  · exact Nat.ne_of_lt small
  · obtain ⟨origin, -, rfl⟩ := List.mem_map.mp inside
    dsimp only
    omega

/-- Behind the first group of a pattern its own groups follow. -/
theorem lookup_above (positive : 1 ≤ number) :
    List.lookup (start + number) ((start, span) :: own.map fun mark => (mark.1 + start, mark.2))
      = own.lookup number := by
  have other : (start + number == start) = false := by
    rw [beq_eq_false_iff_ne]
    omega
  rw [List.lookup_cons, other]
  dsimp only
  induction own with
  | nil => rfl
  | cons mark rest ih =>
    have shifted : (start + number == mark.1 + start) = (number == mark.1) := by
      rw [Bool.eq_iff_iff, beq_iff_eq, beq_iff_eq]
      omega
    rw [List.map_cons, List.lookup_cons, List.lookup_cons, shifted, ih]

end Lookup

/-- What a group selects by the marks of its expression. -/
theorem selectBranch_eq {group : BatchGroup} {segment : String} {arm mark : Nat}
    {part : List Pattern} {fragments : List Fragment} (filled : fragments ≠ [])
    (merged : group.regex.expr = Fragment.merged fragments)
    (branches : group.branches = branchesFrom arm mark 1 part) :
    Machine.selectBranch segment group
      = (Fragment.choose segment.toList.toArray 1 fragments).bind fun marks =>
          ((branchesFrom arm mark 1 part).find? fun branch =>
            (marks.lookup branch.markGroup).isSome).map fun branch =>
              (branch.arm, frameOf segment marks branch.captures) := by
  have searched := @Fragment.search_merged segment.toList.toArray fragments filled
  rw [← merged] at searched
  rw [Machine.selectBranch, branches]
  cases chosen : Fragment.choose segment.toList.toArray 1 fragments with
  -- the expression does not match, so no branch is asked
  | none =>
    rw [chosen] at searched
    simp [Regex.match?, searched]
  | some marks =>
    rw [chosen] at searched
    obtain ⟨groups, matched, texts⟩ := groupText_eq searched
    simp only [Option.bind_eq_bind, Option.bind_some, matched]
    -- a mark is issued for a group of the expression, so its text is there exactly if the group is
    -- set
    have same : (branchesFrom arm mark 1 part).find? (fun branch =>
        (Machine.groupText? groups branch.markGroup).isSome)
        = (branchesFrom arm mark 1 part).find? fun branch =>
          (marks.lookup branch.markGroup).isSome := by
      refine List.find?_congr fun branch member => ?_
      rw [texts _ (branchesFrom_bounds member).2.2.1, Option.isSome_map]
    rw [same, Option.map_eq_bind]
    refine Option.bind_congr fun branch found => ?_
    have member := List.mem_of_find?_eq_some found
    refine congrArg (fun frame => some (branch.arm, frame))
      (List.map_congr_left fun capture inside => ?_)
    rw [texts _ (Nat.zero_lt_of_lt (captures_bound member capture inside))]

/-- In a merged expression the branch of the first pattern that matches by itself is selected, with
its values, exactly if all patterns before it count their groups; and no branch before it ever is. -/
theorem selectBranch_cases {group : BatchGroup} {segment : String} {arm mark : Nat}
    {part : List Pattern} {fragments : List Fragment} (filled : fragments ≠ [])
    (denote : List.Forall₂ Denotes part fragments)
    (compile : ∀ fragment ∈ fragments, fragment.Compiles)
    (merged : group.regex.expr = Fragment.merged fragments)
    (branches : group.branches = branchesFrom arm mark 1 part) :
    (Machine.selectBranch segment group = none ∧
      ∀ pattern ∈ part, pattern.matchAlone segment = none) ∨
    ∃ before pattern after frame, part = before ++ pattern :: after ∧
      (∀ other ∈ before, other.matchAlone segment = none) ∧
      pattern.matchAlone segment = some frame ∧
      ((∀ other ∈ before, other.CountsGroups) →
        Machine.selectBranch segment group = some (arm + before.length, frame)) ∧
      ((¬ ∀ other ∈ before, other.CountsGroups) → ∀ later another,
        Machine.selectBranch segment group = some (later, another) → arm + before.length < later) := by
  rw [selectBranch_eq filled merged branches]
  rcases choose_cases denote compile segment 1 with
    ⟨nothing, others⟩ | ⟨before, pattern, after, own, rfl, others, alone, within, chosen⟩
  · exact .inl ⟨by rw [nothing]; rfl, others⟩
  · refine .inr ⟨before, pattern, after, _, rfl, others, alone, ?_⟩
    obtain ⟨bound, aligned⟩ := groupAfter_le (Nat.le_refl 1) fun other member => by
      obtain ⟨fragment, -, denotes⟩ :=
        forall₂_origin denote.flip other (List.mem_append_left (pattern :: after) member)
      exact ⟨denotes.counted, denotes.counts⟩
    -- no branch before the pattern looks at a group that is set
    have early : (branchesFrom arm mark 1 before).find? (fun branch =>
        (List.lookup branch.markGroup ((groupBehind 1 before, 0, segment.toList.toArray.size)
          :: own.map fun mark => (mark.1 + groupBehind 1 before, mark.2))).isSome) = none := by
      rw [List.find?_eq_none]
      intro branch member
      have small := (branchesFrom_bounds member).2.2.2
      rw [lookup_below (Nat.lt_of_lt_of_le small bound)]
      exact Bool.false_ne_true
    rw [chosen, Option.bind_some, branchesFrom_append, List.find?_append, early, Option.none_or,
      branchesFrom]
    constructor
    · intro counts
      have here := aligned.mpr ⟨rfl, counts⟩
      rw [List.find?_cons_of_pos (by simp [here]), Option.map_some, here]
      refine congrArg (fun frame => some (arm + before.length, frame)) ?_
      rw [frameOf, List.map_map]
      refine List.map_congr_left fun capture inside => ?_
      have positive : 1 ≤ capture.2 := (Pattern.offsetsFrom_within capture inside).1
      dsimp only [Function.comp_apply]
      rw [lookup_above positive]
    · intro miscounted later another selected
      have behind : groupAfter 1 before < groupBehind 1 before :=
        Nat.lt_of_le_of_ne bound fun here => miscounted (aligned.mp here).2
      rw [List.find?_cons_of_neg (by simp [lookup_below behind])] at selected
      obtain ⟨branch, found, only⟩ := Option.map_eq_some_iff.mp selected
      cases only
      have member := List.mem_of_find?_eq_some found
      have bounds := branchesFrom_bounds member
      omega

/-! ### All expressions -/

theorem alternative_text {pattern : Pattern} {fragment : Fragment}
    (denotes : Denotes pattern fragment) : (alternative pattern).toList = fragment.group.text := by
  simp [alternative, Fragment.group, denotes.text, String.toList_append]

/-- The expression of a part is an alternation of fragments. -/
theorem sourceOf_text {part : List Pattern} {fragments : List Fragment}
    (denote : List.Forall₂ Denotes part fragments) :
    (sourceOf part).toList = "^(?:".toList ++ Fragment.joined fragments ++ ")$".toList := by
  have inside : (String.intercalate "|" (part.map alternative)).toList
      = Fragment.joined fragments := by
    induction denote with
    | nil => rfl
    | @cons pattern fragment rest fragments denotes others ih =>
      -- a single alternative stands without a bar
      cases others with
      | nil =>
        rw [List.map_singleton, String.intercalate_singleton, alternative_text denotes]
        rfl
      | cons next more =>
        rw [List.map_cons] at ih
        rw [List.map_cons, List.map_cons, String.intercalate_cons_cons, String.toList_append,
          String.toList_append, alternative_text denotes, ih, List.append_assoc]
        rfl
  rw [sourceOf, String.toList_append, String.toList_append, inside]
  rfl

theorem Partition.arms {arm mark : Nat} {patterns : List Pattern} {groups : List BatchGroup}
    (partition : Partition arm mark patterns groups) :
    ∀ group ∈ groups, ∀ found ∈ group.branches.map (·.arm), arm ≤ found := by
  induction partition with
  | done => simp
  | part filled compiled branches later ih =>
    rw [List.forall_mem_cons, branches, branchesFrom_arms]
    refine ⟨fun found member => (List.mem_range'_1.mp member).1, fun group member found inside => ?_⟩
    have bound := ih group member found inside
    omega

theorem selectAlone_append {segment : String} {part : List Pattern}
    (none : ∀ pattern ∈ part, pattern.matchAlone segment = none) (arm : Nat) (rest : List Pattern) :
    selectAlone segment arm (part ++ rest) = selectAlone segment (arm + part.length) rest := by
  induction part generalizing arm with
  | nil => rfl
  | cons pattern others ih =>
    obtain ⟨here, later⟩ := List.forall_mem_cons.mp none
    rw [List.cons_append, selectAlone, here, ih later, List.length_cons, Nat.add_assoc,
      Nat.add_comm 1]

theorem selectAlone_le {segment : String} {arm found : Nat} {patterns : List Pattern}
    {frame : Frame} (selected : selectAlone segment arm patterns = some (found, frame)) :
    arm ≤ found := by
  induction patterns generalizing arm with
  | nil => cases selected
  | cons pattern rest ih =>
    rw [selectAlone] at selected
    split at selected
    · cases selected
      exact Nat.le_refl _
    · exact Nat.le_of_succ_le (ih selected)

theorem select_skip {group : BatchGroup} {segment : String}
    (none : Machine.selectBranch segment group = none) (groups : List BatchGroup) :
    Machine.select (group :: groups) segment = Machine.select groups segment := by
  rw [Machine.select, List.findSome?_cons, none]
  rfl

theorem select_stop {group : BatchGroup} {segment : String} {choice : Nat × Frame}
    (some_ : Machine.selectBranch segment group = some choice) (groups : List BatchGroup) :
    Machine.select (group :: groups) segment = some choice := by
  rw [Machine.select, List.findSome?_cons, some_]

theorem select_arm {groups : List BatchGroup} {segment : String} {found : Nat} {frame : Frame}
    (selected : Machine.select groups segment = some (found, frame)) :
    ∃ group ∈ groups, found ∈ group.branches.map (·.arm) := by
  obtain ⟨group, member, branch⟩ := List.exists_of_findSome?_eq_some selected
  obtain ⟨texts, -, later⟩ := Option.bind_eq_some_iff.mp branch
  obtain ⟨slot, there, only⟩ := Option.bind_eq_some_iff.mp later
  cases only
  exact ⟨group, member, List.mem_map_of_mem (List.mem_of_find?_eq_some there)⟩

/-- What is known of a part when its expression compiles. -/
theorem part_fragments {part : List Pattern} {regex : Regex} (filled : part ≠ [])
    (arise : ∀ pattern ∈ part, pattern.Arises) (compile : ∀ pattern ∈ part, pattern.TypesCompile)
    (compiled : Regex.compile? (sourceOf part) = some regex) :
    ∃ fragments, fragments ≠ [] ∧ List.Forall₂ Denotes part fragments ∧
      regex.expr = Fragment.merged fragments ∧ ∀ fragment ∈ fragments, fragment.Compiles := by
  obtain ⟨fragments, denote⟩ := exists_denotes arise compile
  have some : fragments ≠ [] := by
    rintro rfl
    cases denote
    exact filled rfl
  obtain ⟨⟨distinct, shallow⟩, rfl⟩ :=
    (Fragment.compile_merged_iff some (sourceOf_text denote)).mp compiled
  exact ⟨fragments, some, denote, rfl, fun fragment member =>
    Fragment.compiles_of_merged distinct shallow member⟩

/-- The patterns of merged expressions compile by themselves. -/
theorem Partition.compile {arm mark : Nat} {patterns : List Pattern} {groups : List BatchGroup}
    (partition : Partition arm mark patterns groups)
    (arise : ∀ pattern ∈ patterns, pattern.Arises)
    (compile : ∀ pattern ∈ patterns, pattern.TypesCompile) :
    ∀ pattern ∈ patterns, (Regex.compile? pattern.matchRegex).isSome := by
  induction partition with
  | done => simp
  | part filled compiled branches later ih =>
    rw [List.forall_mem_append] at arise compile ⊢
    refine ⟨fun pattern member => ?_, ih arise.2 compile.2⟩
    obtain ⟨fragments, -, denote, -, compiles⟩ :=
      part_fragments filled arise.1 compile.1 compiled
    obtain ⟨fragment, inside, denotes⟩ := forall₂_origin denote.flip pattern member
    rw [(Fragment.compile_anchored_iff denotes.matchRegex).mpr ⟨compiles fragment inside, rfl⟩]
    rfl

theorem undisturbed_cons {patterns : List Pattern} {group : BatchGroup} {groups : List BatchGroup}
    {arm : Nat} : Undisturbed patterns (group :: groups) arm
      ↔ Undisturbed patterns [group] arm ∧ Undisturbed patterns groups arm := by
  simp [Undisturbed]

/-- An arm of the first expression is disturbed by the patterns in front of it there and by no others. -/
theorem undisturbed_here_iff {all before after rest : List Pattern} {pattern : Pattern} {arm : Nat}
    {group : BatchGroup} {groups : List BatchGroup}
    (place : all.drop arm = before ++ pattern :: after ++ rest)
    (arms : group.branches.map (·.arm) = List.range' arm (before ++ pattern :: after).length)
    (later : ∀ other ∈ groups, ∀ found ∈ other.branches.map (·.arm), arm + before.length < found) :
    Undisturbed all (group :: groups) (arm + before.length)
      ↔ ∀ other ∈ before, other.CountsGroups := by
  have known {position : Nat} (early : position < before.length) :
      all[arm + position]? = before[position]? := by
    rw [← List.getElem?_drop, place, List.append_assoc, List.getElem?_append_left early]
  have length : (before ++ pattern :: after).length = before.length + (after.length + 1) := by simp
  rw [undisturbed_cons]
  constructor
  · rintro ⟨undisturbed, -⟩ other member
    obtain ⟨position, early, rfl⟩ := List.getElem_of_mem member
    have own : arm + before.length ∈ group.branches.map (·.arm) := by
      rw [arms, List.mem_range'_1]
      omega
    have earlier : arm + position ∈ group.branches.map (·.arm) := by
      rw [arms, List.mem_range'_1]
      omega
    refine undisturbed group List.mem_cons_self own _ earlier (by omega) _ ?_
    rw [known early, List.getElem?_eq_getElem early]
  · intro counts
    constructor
    · intro only member _ earlier inside early pattern there
      cases List.mem_singleton.mp member
      rw [arms, List.mem_range'_1] at inside
      obtain ⟨position, rfl⟩ := Nat.exists_eq_add_of_le inside.1
      rw [known (by omega)] at there
      exact counts pattern (List.mem_of_getElem? there)
    · intro other member inside
      exact absurd (later other member _ inside) (Nat.lt_irrefl _)

/-- Where the patterns of a list are merged, the first that matches by itself is selected exactly if
the patterns before it in its expression count their groups. -/
theorem Partition.select {arm mark : Nat} {all patterns : List Pattern} {groups : List BatchGroup}
    (partition : Partition arm mark patterns groups)
    (arise : ∀ pattern ∈ patterns, pattern.Arises)
    (compile : ∀ pattern ∈ patterns, pattern.TypesCompile)
    (place : all.drop arm = patterns) (segment : String) :
    (selectAlone segment arm patterns = none → Machine.select groups segment = none) ∧
      ∀ found frame, selectAlone segment arm patterns = some (found, frame) →
        (Machine.select groups segment = some (found, frame) ↔ Undisturbed all groups found) := by
  induction partition with
  | done => exact ⟨fun _ => rfl, fun found frame selected => by cases selected⟩
  | @part arm mark part rest group groups filled compiled branches later ih =>
    rw [List.forall_mem_append] at arise compile
    have arms : group.branches.map (·.arm) = List.range' arm part.length := by
      rw [branches, branchesFrom_arms]
    obtain ⟨fragments, some_, denote, merged, compiles⟩ :=
      part_fragments filled arise.1 compile.1 compiled
    have behind : all.drop (arm + part.length) = rest := by
      rw [← List.drop_drop, place, List.drop_left]
    rcases selectBranch_cases some_ denote compiles merged branches with
      ⟨none, others⟩ | ⟨before, pattern, after, frame, rfl, others, alone, counted, miscounted⟩
    · -- no pattern of this part matches, so the later parts decide
      rw [selectAlone_append others, select_skip none]
      obtain ⟨nothing, something⟩ := ih arise.2 compile.2 behind
      refine ⟨nothing, fun found frame selected => ?_⟩
      have far := selectAlone_le selected
      rw [something found frame selected, undisturbed_cons]
      refine (and_iff_right ?_).symm
      intro only member inside
      cases List.mem_singleton.mp member
      rw [arms, List.mem_range'_1] at inside
      omega
    · -- the first pattern that matches stands in this part
      have here : selectAlone segment arm (before ++ pattern :: after ++ rest)
          = some (arm + before.length, frame) := by
        rw [List.append_assoc, selectAlone_append others, List.cons_append, selectAlone, alone]
      rw [here]
      refine ⟨fun none => absurd none (Option.some_ne_none _), fun found another selected => ?_⟩
      cases selected
      have far : ∀ other ∈ groups, ∀ found ∈ other.branches.map (·.arm),
          arm + before.length < found := by
        intro other member found inside
        have bound := later.arms other member found inside
        rw [List.length_append, List.length_cons] at bound
        omega
      rw [undisturbed_here_iff place arms far]
      constructor
      -- a pattern that miscounts would have hidden the branch: another part would answer, or
      -- another arm of this one
      · intro selected
        by_contra wrong
        cases branch : Machine.selectBranch segment group with
        | none =>
          rw [select_skip branch] at selected
          obtain ⟨last, member, inside⟩ := select_arm selected
          exact absurd (far last member _ inside) (Nat.lt_irrefl _)
        | some choice =>
          rw [select_stop branch] at selected
          cases selected
          exact absurd (miscounted wrong _ _ branch) (Nat.lt_irrefl _)
      -- with all groups counted, the branch of the pattern is the first whose mark is set
      · exact fun counts => select_stop (counted counts) groups

/-- If only the last of the patterns miscounts, no arm is disturbed. -/
theorem undisturbed_of_counts {limit issued : Nat} {patterns : List Pattern}
    {groups : List BatchGroup} (merged : merge limit issued patterns = .ok groups)
    (counts : ∀ pattern ∈ patterns.dropLast, pattern.CountsGroups) (arm : Nat) :
    Undisturbed patterns groups arm := by
  intro group member inside earlier _ early pattern there
  obtain ⟨branch, known, rfl⟩ := List.mem_map.mp inside
  obtain ⟨served, position, -⟩ := merge_branch merged group member branch known
  have bound := (List.getElem?_eq_some_iff.mp position).1
  refine counts pattern (List.mem_of_getElem? (i := earlier) ?_)
  rw [List.getElem?_dropLast, if_pos (by omega), there]

/-- Merged patterns select what they select one after another, each by its own expression, exactly
if no pattern in front of the selected one in the same expression miscounts its groups. Where the
patterns count their groups, all limits therefore select alike. -/
theorem merge_select {limit other issued another : Nat} {patterns : List Pattern}
    {groups others : List BatchGroup} (arise : ∀ pattern ∈ patterns, pattern.Arises)
    (compile : ∀ pattern ∈ patterns, pattern.TypesCompile)
    (merged : merge limit issued patterns = .ok groups)
    (again : merge other another patterns = .ok others) (segment : String) :
    (∀ pattern ∈ patterns, (Regex.compile? pattern.matchRegex).isSome) ∧
      (Machine.select groups segment = selectAlone segment 0 patterns ↔
        ∀ arm frame, selectAlone segment 0 patterns = some (arm, frame) →
          Undisturbed patterns groups arm) ∧
      ((∀ pattern ∈ patterns.dropLast, pattern.CountsGroups) →
        Machine.select groups segment = selectAlone segment 0 patterns ∧
          Machine.select groups segment = Machine.select others segment) := by
  have exact_ {limit issued : Nat} {groups : List BatchGroup}
      (merged : merge limit issued patterns = .ok groups) :
      Machine.select groups segment = selectAlone segment 0 patterns ↔
        ∀ arm frame, selectAlone segment 0 patterns = some (arm, frame) →
          Undisturbed patterns groups arm := by
    obtain ⟨nothing, something⟩ :=
      (merge_partition merged).select arise compile (List.drop_zero) segment
    cases alone : selectAlone segment 0 patterns with
    | none => simp [nothing alone]
    | some choice =>
      rw [something choice.1 choice.2 alone]
      constructor
      · rintro undisturbed arm frame ⟨⟩
        exact undisturbed
      · exact fun undisturbed => undisturbed choice.1 choice.2 rfl
  -- the selection alone does not depend on the limit, so it relates any two of them
  refine ⟨(merge_partition merged).compile arise compile, exact_ merged, fun counts => ?_⟩
  have first := (exact_ merged).mpr fun arm _ _ => undisturbed_of_counts merged counts arm
  have second := (exact_ again).mpr fun arm _ _ => undisturbed_of_counts again counts arm
  exact ⟨first, first.trans second.symm⟩

/-- The type of the first parameter opens a group that no match reports. -/
def unreportedPatterns : List Pattern := [
    ⟨"\x7ba:(x)\x7b0\x7d\x7d-\x7bb\x7d", [.parameter 0, .literal "-", .parameter 1],
      [⟨"a", .custom "(x)\x7b0\x7d", [], true, 0⟩, ⟨"b", .string, [], true, 0⟩]⟩,
    ⟨"foo\x7bc\x7d", [.literal "foo", .parameter 0], [⟨"c", .string, [], true, 0⟩]⟩]

/-- Behind such a group a pattern is found in an expression of its own only. -/
theorem merge_select_unreported :
    ∃ groups separate, merge 8192 0 unreportedPatterns = .ok groups ∧
      merge 0 0 unreportedPatterns = .ok separate ∧
      selectAlone "foox" 0 unreportedPatterns = some (1, [("c", "x")]) ∧
      Machine.select separate "foox" = some (1, [("c", "x")]) ∧
      Machine.select groups "foox" = none ∧ ¬ Undisturbed unreportedPatterns groups 1 := by
  have arise : ∀ pattern ∈ unreportedPatterns, pattern.Arises := by
    -- the texts are read by evaluation, which gives the patterns back as they stand
    have taken : ∀ pattern ∈ unreportedPatterns,
        (Pattern.read pattern.source).toOption = some pattern := by decide +kernel
    exact fun pattern member => .read (ok_of_toOption (taken pattern member))
  have compile : ∀ pattern ∈ unreportedPatterns, pattern.TypesCompile := by
    have all : ∀ pattern ∈ unreportedPatterns, ∀ parameter ∈ pattern.parameters,
        (Regex.compile? parameter.valueType.regexBody).isSome := by decide +kernel
    intro pattern member parameter inside token custom
    have compiled := all pattern member parameter inside
    rwa [custom] at compiled
  have alone : selectAlone "foox" 0 unreportedPatterns = some (1, [("c", "x")]) := by
    decide +kernel
  have whole : (merge 8192 0 unreportedPatterns).toOption.map (Machine.select · "foox")
      = some none := by decide +kernel
  have apart : (merge 0 0 unreportedPatterns).toOption.map (Machine.select · "foox")
      = some (some (1, [("c", "x")])) := by decide +kernel
  -- both limits succeed, and their results differ on this segment
  obtain ⟨groups, merged, missed⟩ := Option.map_eq_some_iff.mp whole
  obtain ⟨separate, divided, found⟩ := Option.map_eq_some_iff.mp apart
  refine ⟨groups, separate, ok_of_toOption merged, ok_of_toOption divided, alone, found, missed, ?_⟩
  -- were the second pattern undisturbed, the theorem would give the selection that is missed
  intro undisturbed
  have same := (merge_select arise compile (ok_of_toOption merged) (ok_of_toOption divided)
    "foox").2.1.mpr fun arm frame selected => by
      rw [alone] at selected
      cases selected
      exact undisturbed
  rw [missed, alone] at same
  cases same

end Batch

end Signpost
