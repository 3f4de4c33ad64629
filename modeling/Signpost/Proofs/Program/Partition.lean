import Signpost.Proofs.Success
import Signpost.Program.Batch

/-!
# How merging divides patterns

Whatever the limit is, merging cuts a list of patterns into consecutive parts that are not empty.
Every part becomes one expression, whose branches count the groups of the patterns before them.
-/
namespace Signpost.Batch

/-- The branches of patterns that are merged into one expression, the first with the given arm, mark
and group. -/
def branchesFrom (arm mark next : Nat) : List Pattern → List BranchSlot
  | [] => []
  | pattern :: rest =>
    ⟨mark, arm, next, pattern.groupOffsets.map fun (name, offset) => (name, next + offset)⟩
      :: branchesFrom (arm + 1) (mark + 1) (next + 1 + pattern.groupCount) rest

/-- The number of the group behind patterns, as it is counted. -/
def groupAfter (next : Nat) : List Pattern → Nat
  | [] => next
  | pattern :: rest => groupAfter (next + 1 + pattern.groupCount) rest

/-- The expression of patterns that are merged into one. -/
def sourceOf (patterns : List Pattern) : String :=
  opening ++ String.intercalate "|" (patterns.map alternative) ++ closing

theorem branchesFrom_append (arm mark next : Nat) (patterns more : List Pattern) :
    branchesFrom arm mark next (patterns ++ more)
      = branchesFrom arm mark next patterns
        ++ branchesFrom (arm + patterns.length) (mark + patterns.length)
          (groupAfter next patterns) more := by
  induction patterns generalizing arm mark next with
  | nil => rfl
  | cons pattern rest ih =>
    simp only [List.cons_append, branchesFrom, ih, groupAfter, List.length_cons]
    simp [Nat.add_assoc, Nat.add_comm 1]

theorem groupAfter_append (next : Nat) (patterns more : List Pattern) :
    groupAfter next (patterns ++ more) = groupAfter (groupAfter next patterns) more := by
  induction patterns generalizing next with
  | nil => rfl
  | cons pattern rest ih => exact ih _

/-- The arms and the groups of branches. -/
theorem branchesFrom_bounds {arm mark next : Nat} {patterns : List Pattern} {branch : BranchSlot}
    (member : branch ∈ branchesFrom arm mark next patterns) :
    arm ≤ branch.arm ∧ branch.arm < arm + patterns.length ∧
      next ≤ branch.markGroup ∧ branch.markGroup < groupAfter next patterns := by
  have grows (next : Nat) (patterns : List Pattern) : next ≤ groupAfter next patterns := by
    induction patterns generalizing next with
    | nil => exact Nat.le_refl next
    | cons pattern rest ih =>
      have later := ih (next + 1 + pattern.groupCount)
      rw [groupAfter]
      omega
  induction patterns generalizing arm mark next with
  | nil => cases member
  | cons pattern rest ih =>
    rw [branchesFrom] at member
    rw [List.length_cons, groupAfter]
    rcases List.mem_cons.mp member with rfl | later
    · have behind := grows (next + 1 + pattern.groupCount) rest
      dsimp only
      omega
    · have bounds := ih later
      omega

/-- What is pending after the patterns of a part. -/
structure Pending.Holds (pending : Pending) (arm mark : Nat) (part : List Pattern) : Prop where
  alternatives : pending.alternatives = part.map alternative
  nextGroup : pending.nextGroup = groupAfter 1 part
  branches : pending.branches = branchesFrom arm mark 1 part

namespace Pending

variable {pending : Pending} {arm mark : Nat} {part : List Pattern}

theorem Holds.push (holds : pending.Holds arm mark part) (pattern : Pattern) :
    (pending.push pattern (arm + part.length) (mark + part.length)).Holds arm mark
      (part ++ [pattern]) where
  alternatives := by simp [Pending.push, holds.alternatives]
  nextGroup := by
    rw [groupAfter_append]
    simp [Pending.push, holds.nextGroup, groupAfter]
  branches := by
    rw [branchesFrom_append]
    simp [Pending.push, holds.branches, holds.nextGroup, branchesFrom]

theorem Holds.isEmpty (holds : pending.Holds arm mark part) :
    pending.isEmpty = true ↔ part = [] := by
  rw [Pending.isEmpty, holds.alternatives]
  simp

theorem Holds.finish (holds : pending.Holds arm mark part) {group : BatchGroup}
    (finished : pending.finish = .ok group) :
    Regex.compile? (sourceOf part) = some group.regex ∧
      group.branches = branchesFrom arm mark 1 part := by
  have source : pending.source = sourceOf part := by
    rw [Pending.source, holds.alternatives, sourceOf]
  rw [Pending.finish, source] at finished
  split at finished
  next regex compiled =>
    cases finished
    exact ⟨compiled, holds.branches⟩
  next => cases finished

end Pending

/-- Groups for consecutive parts of a list of patterns. -/
inductive Partition : Nat → Nat → List Pattern → List BatchGroup → Prop
  | done {arm mark : Nat} : Partition arm mark [] []
  | part {arm mark : Nat} {part rest : List Pattern} {group : BatchGroup}
    {groups : List BatchGroup} (filled : part ≠ [])
    (compiled : Regex.compile? (sourceOf part) = some group.regex)
    (branches : group.branches = branchesFrom arm mark 1 part)
    (later : Partition (arm + part.length) (mark + part.length) rest groups) :
    Partition arm mark (part ++ rest) (group :: groups)

/-- Without patterns there are no groups. -/
theorem Partition.eq_nil {arm mark : Nat} {groups : List BatchGroup}
    (partition : Partition arm mark [] groups) : groups = [] := by
  generalize none : ([] : List Pattern) = patterns at partition
  cases partition with
  | done => rfl
  | part filled => exact absurd (List.append_eq_nil_iff.mp none.symm).1 filled

theorem mergeFrom_partition {limit arm mark : Nat} {pending : Pending}
    {part patterns : List Pattern} {groups : List BatchGroup}
    (holds : pending.Holds arm mark part)
    (merged : mergeFrom limit pending (arm + part.length) (mark + part.length) patterns
      = .ok groups) : Partition arm mark (part ++ patterns) groups := by
  induction patterns generalizing pending arm mark part groups with
  | nil =>
    rw [mergeFrom] at merged
    split at merged
    next none =>
      -- nothing is pending only if the part is empty
      cases merged
      obtain rfl := holds.isEmpty.mp none
      exact .done
    next some =>
      obtain ⟨last, finished, only⟩ := bind_ok_iff.mp merged
      cases pure_ok_iff.mp only
      obtain ⟨compiled, branches⟩ := holds.finish finished
      exact .part (fun none => some (holds.isEmpty.mpr none)) compiled branches .done
  | cons pattern rest ih =>
    rw [mergeFrom] at merged
    split at merged
    next full =>
      obtain ⟨first, finished, more⟩ := bind_ok_iff.mp merged
      obtain ⟨later, separate, all⟩ := bind_ok_iff.mp more
      cases pure_ok_iff.mp all
      -- what is pending overflows only if there is something
      have filled : part ≠ [] := by
        intro none
        simp [Pending.overflows, holds.isEmpty.mpr none] at full
      obtain ⟨compiled, branches⟩ := holds.finish finished
      have fresh : ({} : Pending).Holds (arm + part.length) (mark + part.length) [] :=
        ⟨rfl, rfl, rfl⟩
      exact .part filled compiled branches (ih (fresh.push pattern) separate)
    next =>
      have longer := holds.push pattern
      -- the pattern joins the part that is pending
      have step : part ++ pattern :: rest = part ++ [pattern] ++ rest := by simp
      rw [step]
      apply ih longer
      rw [List.length_append]
      exact merged

/-- Merging divides the patterns among the groups. -/
theorem merge_partition {limit issued : Nat} {patterns : List Pattern} {groups : List BatchGroup}
    (merged : merge limit issued patterns = .ok groups) :
    Partition 0 (issued + 1) patterns groups := by
  have start : ({} : Pending).Holds 0 (issued + 1) [] := ⟨rfl, rfl, rfl⟩
  exact mergeFrom_partition start merged

/-! ### Branches

Read through the groups in order, the branches stand for the patterns one by one: arms and marks are
counted on from each to the next, and a branch captures the parameters of its pattern.
-/

theorem map_fst_offsetsFrom (next : Nat) (parameters : List Parameter) :
    (Pattern.offsetsFrom next parameters).map (·.1) = parameters.map (·.name) := by
  induction parameters generalizing next with
  | nil => rfl
  | cons parameter rest ih => simp [Pattern.offsetsFrom, ih]

theorem branchesFrom_arms (arm mark next : Nat) (part : List Pattern) :
    (branchesFrom arm mark next part).map (·.arm) = List.range' arm part.length := by
  induction part generalizing arm mark next with
  | nil => rfl
  | cons pattern rest ih =>
    rw [branchesFrom, List.map_cons, ih, List.length_cons, List.range'_succ]

theorem branchesFrom_marks (arm mark next : Nat) (part : List Pattern) :
    (branchesFrom arm mark next part).map (·.mark) = List.range' mark part.length := by
  induction part generalizing arm mark next with
  | nil => rfl
  | cons pattern rest ih =>
    rw [branchesFrom, List.map_cons, ih, List.length_cons, List.range'_succ]

theorem branchesFrom_names (arm mark next : Nat) (part : List Pattern) :
    List.Forall₂ (fun pattern branch => branch.captures.map (·.1) = pattern.parameters.map (·.name))
      part (branchesFrom arm mark next part) := by
  induction part generalizing arm mark next with
  | nil => exact .nil
  | cons pattern rest ih =>
    rw [branchesFrom]
    refine .cons ?_ (ih _ _ _)
    rw [← map_fst_offsetsFrom 1, Pattern.groupOffsets, List.map_map]
    rfl

section

variable {arm mark : Nat} {patterns : List Pattern} {groups : List BatchGroup}

theorem Partition.positions (partition : Partition arm mark patterns groups) :
    (groups.flatMap (·.branches)).map (·.arm) = List.range' arm patterns.length := by
  induction partition with
  | done => rfl
  | part filled compiled branches later ih =>
    rw [List.flatMap_cons, List.map_append, branches, branchesFrom_arms, ih, List.length_append,
      List.range'_append_1]

theorem Partition.marks (partition : Partition arm mark patterns groups) :
    (groups.flatMap (·.branches)).map (·.mark) = List.range' mark patterns.length := by
  induction partition with
  | done => rfl
  | part filled compiled branches later ih =>
    rw [List.flatMap_cons, List.map_append, branches, branchesFrom_marks, ih, List.length_append,
      List.range'_append_1]

theorem Partition.names (partition : Partition arm mark patterns groups) :
    List.Forall₂ (fun pattern branch => branch.captures.map (·.1) = pattern.parameters.map (·.name))
      patterns (groups.flatMap (·.branches)) := by
  induction partition with
  | done => exact .nil
  | @part arm mark part rest group groups filled compiled branches later ih =>
    rw [List.flatMap_cons, branches]
    exact List.rel_append (branchesFrom_names arm mark 1 part) ih

end

/-- Every branch of merged patterns belongs to the pattern that stands where its arm does. -/
theorem merge_branch {limit issued : Nat} {patterns : List Pattern} {groups : List BatchGroup}
    (merged : merge limit issued patterns = .ok groups) :
    ∀ group ∈ groups, ∀ branch ∈ group.branches, ∃ pattern,
      patterns[branch.arm]? = some pattern ∧
      branch.captures.map (·.1) = pattern.parameters.map (·.name) := by
  intro group member branch inside
  have partition := merge_partition merged
  have among : branch ∈ groups.flatMap (·.branches) := List.mem_flatMap.mpr ⟨group, member, inside⟩
  obtain ⟨position, there⟩ := List.mem_iff_getElem?.mp among
  have arm : some branch.arm = (List.range' 0 patterns.length)[position]? := by
    rw [← partition.positions, List.getElem?_map, there]
    rfl
  obtain ⟨bound, here⟩ := List.getElem?_eq_some_iff.mp there
  have known : position < patterns.length := by
    rw [partition.names.length_eq]
    exact bound
  rw [List.getElem?_range' known, Nat.zero_add, Nat.one_mul] at arm
  have names := partition.names.get known bound
  refine ⟨patterns[position], ?_, ?_⟩
  · rw [Option.some.inj arm, List.getElem?_eq_getElem known]
  · rw [← here]
    exact names

end Signpost.Batch
