import Mathlib.Data.List.Chain
import Signpost.Proofs.Pattern.Groups
import Signpost.Proofs.Program.Partition

/-!
# Merged patterns within a limit

While patterns are merged, the length of the pending expression and the number of its next group are
counted along, and nothing is assembled before the expression is closed. The count is the length of the
text that is assembled then. So an expression is longer than the limit only if it has a single pattern,
and it is closed only where the next alternative would have made it longer than the limit.
-/
namespace Signpost.Batch

/-! ### Lengths -/

/-- One more alternative costs its own length, and a separator unless it is the first. -/
theorem size_sourceOf_concat (part : List Pattern) (pattern : Pattern) :
    (sourceOf (part ++ [pattern])).utf8ByteSize
      = (sourceOf part).utf8ByteSize + (if part.isEmpty then 0 else 1)
        + (alternative pattern).utf8ByteSize := by
  cases part with
  | nil =>
    have alone : String.intercalate "|" [alternative pattern] = alternative pattern :=
      String.intercalate_singleton
    simp only [sourceOf, List.nil_append, List.map_cons, List.map_nil, alone,
      String.utf8ByteSize_append, List.isEmpty_nil, if_true]
    simp
    omega
  | cons first rest =>
    have joined : String.intercalate "|" ((first :: rest).map alternative ++ [alternative pattern])
        = String.intercalate "|" ((first :: rest).map alternative) ++ "|" ++ alternative pattern := by
      rw [String.intercalate_append_of_ne_nil (by simp) (by simp), String.intercalate_singleton]
    have bar : ("|" : String).utf8ByteSize = 1 := by decide
    rw [sourceOf, List.map_append, List.map_singleton, joined, sourceOf]
    simp only [String.utf8ByteSize_append, bar, List.isEmpty_cons, Bool.false_eq_true, if_false]
    omega

/-- What is counted while the patterns of a part are pending. -/
structure Pending.Sized (pending : Pending) (limit : Nat) (part : List Pattern) : Prop where
  size : pending.size = (sourceOf part).utf8ByteSize
  bounded : (sourceOf part).utf8ByteSize ≤ limit ∨ part.length ≤ 1

namespace Pending

variable {pending : Pending} {limit arm mark : Nat} {part : List Pattern}

theorem Holds.isEmpty_eq (holds : pending.Holds arm mark part) : pending.isEmpty = part.isEmpty := by
  rw [Bool.eq_iff_iff, holds.isEmpty, List.isEmpty_iff]

/-- A pattern overflows exactly what is pending already and would become too long with it. -/
theorem Sized.overflows (sized : pending.Sized limit part) (holds : pending.Holds arm mark part)
    (pattern : Pattern) :
    pending.overflows limit pattern = true
      ↔ part ≠ [] ∧ limit < (sourceOf (part ++ [pattern])).utf8ByteSize := by
  rw [Pending.overflows, holds.isEmpty_eq, sized.size, size_sourceOf_concat]
  cases part <;> simp

theorem Sized.push (sized : pending.Sized limit part) (holds : pending.Holds arm mark part)
    {pattern : Pattern} (fits : pending.overflows limit pattern ≠ true) (next issued : Nat) :
    (pending.push pattern next issued).Sized limit (part ++ [pattern]) where
  size := by
    rw [size_sourceOf_concat, ← holds.isEmpty_eq, ← sized.size]
    rfl
  bounded := by
    rw [ne_eq, sized.overflows holds, not_and, Nat.not_lt] at fits
    cases part with
    | nil => exact .inr (Nat.le_refl 1)
    | cons first rest => exact .inl (fits (List.cons_ne_nil first rest))

theorem Sized.start (limit : Nat) : ({} : Pending).Sized limit [] where
  size := by decide
  bounded := .inr (Nat.zero_le 1)

end Pending

/-! ### Numbers -/

/-- The groups of branches follow on each other: behind the group of a branch there are those of its
pattern, and then the group of the next branch. -/
def Consecutive (part : List Pattern) (branches : List BranchSlot) : Prop :=
  (part.zip branches).IsChain fun here next =>
    next.2.markGroup = here.2.markGroup + 1 + here.1.groupCount

/-- A branch captures the groups of its pattern, counted from its own, and none of them reaches the
group of the next branch. -/
def Captures (pattern : Pattern) (branch : BranchSlot) : Prop :=
  branch.captures = pattern.groupOffsets.map (fun (name, offset) => (name, branch.markGroup + offset)) ∧
    ∀ capture ∈ branch.captures, branch.markGroup < capture.2 ∧
      capture.2 < branch.markGroup + 1 + pattern.groupCount

theorem branchesFrom_consecutive (arm mark next : Nat) (part : List Pattern) :
    Consecutive part (branchesFrom arm mark next part) := by
  induction part generalizing arm mark next with
  | nil => exact .nil
  | cons pattern rest ih =>
    refine List.isChain_cons.mpr ⟨?_, ih (arm + 1) (mark + 1) (next + 1 + pattern.groupCount)⟩
    cases rest with
    | nil => simp [branchesFrom]
    | cons second more =>
      rintro following head
      cases head
      rfl

theorem branchesFrom_captures (arm mark next : Nat) (part : List Pattern) :
    List.Forall₂ Captures part (branchesFrom arm mark next part) := by
  induction part generalizing arm mark next with
  | nil => exact .nil
  | cons pattern rest ih =>
    refine .cons ⟨rfl, fun capture member => ?_⟩ (ih _ _ _)
    obtain ⟨origin, offset, rfl⟩ := List.mem_map.mp member
    have bounds := Pattern.offsetsFrom_within origin offset
    rw [Pattern.groupCount]
    dsimp only
    omega

/-! ### Parts -/

/-- The expression of a part of the patterns, and its branches. -/
structure Describes (limit : Nat) (part : List Pattern) (group : BatchGroup) : Prop where
  source : group.regex.source = sourceOf part
  bounded : group.regex.source.utf8ByteSize ≤ limit ∨ group.branches.length = 1
  first : (group.branches.head?.map (·.markGroup)) = some 1
  consecutive : Consecutive part group.branches
  captures : List.Forall₂ Captures part group.branches

/-- The expression of a part would be too long with the first pattern of the next. -/
def Full (limit : Nat) (part next : List Pattern) : Prop :=
  ∀ pattern ∈ next.head?, limit < (sourceOf (part ++ [pattern])).utf8ByteSize

theorem Pending.Holds.describes {pending : Pending} {limit arm mark : Nat} {part : List Pattern}
    {group : BatchGroup} (holds : pending.Holds arm mark part) (sized : pending.Sized limit part)
    (filled : part ≠ []) (finished : pending.finish = .ok group) : Describes limit part group := by
  obtain ⟨compiled, branches⟩ := holds.finish finished
  have source : group.regex.source = sourceOf part := by
    obtain ⟨expr, -, same⟩ := Option.map_eq_some_iff.mp compiled
    exact (congrArg Regex.source same).symm
  have captures := branchesFrom_captures arm mark 1 part
  rw [← branches] at captures
  refine ⟨source, ?_, ?_, ?_, captures⟩
  · rw [source, ← captures.length_eq]
    have present := List.length_pos_iff.mpr filled
    exact sized.bounded.imp_right fun short => by omega
  · rw [branches]
    cases part with
    | nil => exact absurd rfl filled
    | cons pattern rest => rfl
  · rw [branches]
    exact branchesFrom_consecutive arm mark 1 part

/-- What is merged behind a pending part are consecutive parts of the patterns, the first of which
begins with what has been pending. -/
theorem mergeFrom_describes {limit arm mark : Nat} {pending : Pending} {part patterns : List Pattern}
    {groups : List BatchGroup} (holds : pending.Holds arm mark part)
    (sized : pending.Sized limit part)
    (merged : mergeFrom limit pending (arm + part.length) (mark + part.length) patterns
      = .ok groups) :
    ∃ parts : List (List Pattern), parts.flatten = part ++ patterns ∧
      List.Forall₂ (Describes limit) parts groups ∧ parts.IsChain (Full limit) ∧
      ∀ first ∈ parts.head?, part <+: first := by
  induction patterns generalizing pending arm mark part groups with
  | nil =>
    rw [mergeFrom] at merged
    split at merged
    next none =>
      cases merged
      obtain rfl := holds.isEmpty.mp none
      exact ⟨[], rfl, .nil, .nil, by simp⟩
    next some =>
      obtain ⟨last, finished, only⟩ := bind_ok_iff.mp merged
      cases pure_ok_iff.mp only
      have filled : part ≠ [] := fun none => some (holds.isEmpty.mpr none)
      exact ⟨[part], by simp, .cons (holds.describes sized filled finished) .nil, .singleton part,
        by simp⟩
  | cons pattern rest ih =>
    rw [mergeFrom] at merged
    split at merged
    next full =>
      obtain ⟨filled, long⟩ := (sized.overflows holds pattern).mp full
      obtain ⟨group, finished, more⟩ := bind_ok_iff.mp merged
      obtain ⟨later, separate, all⟩ := bind_ok_iff.mp more
      cases pure_ok_iff.mp all
      -- a new part begins with the pattern, which did not fit into the old one
      have fresh : ({} : Pending).Holds (arm + part.length) (mark + part.length) [] :=
        ⟨rfl, rfl, rfl⟩
      have small : ({} : Pending).overflows limit pattern ≠ true := by
        rw [ne_eq, (Pending.Sized.start limit).overflows fresh]
        simp
      obtain ⟨parts, flat, described, chain, begins⟩ :=
        ih (fresh.push pattern) ((Pending.Sized.start limit).push fresh small _ _) separate
      refine ⟨part :: parts, by simp [flat],
        .cons (holds.describes sized filled finished) described,
        List.isChain_cons.mpr ⟨fun next head => ?_, chain⟩, by simp⟩
      obtain ⟨others, rfl⟩ := begins next head
      rintro first ⟨⟩
      exact long
    next fits =>
      have longer := holds.push pattern
      obtain ⟨parts, flat, described, chain, begins⟩ :=
        ih longer (sized.push holds fits _ _) (by rwa [List.length_append])
      refine ⟨parts, by simp [flat], described, chain, fun first head => ?_⟩
      exact (List.prefix_append part [pattern]).trans (begins first head)

/-- Merging divides patterns into consecutive parts, as many as there are expressions. Arms and marks
are counted on from each branch to the next through all of them, and a counter of 32 bits is enough for
the marks if it is enough for the last. An expression consists of the
alternatives of its part, keeps to the limit unless it has a single branch, and would exceed it with
the first alternative of the next; its branches count their groups from the first. -/
theorem merge_divides {limit issued : Nat} {patterns : List Pattern} {groups : List BatchGroup}
    (merged : merge limit issued patterns = .ok groups) :
    (groups.flatMap (·.branches)).map (·.arm) = List.range patterns.length ∧
    (groups.flatMap (·.branches)).map (·.mark) = List.range' (issued + 1) patterns.length ∧
    (issued + patterns.length < UInt32.size →
      ∀ branch ∈ groups.flatMap (·.branches), branch.mark < UInt32.size) ∧
    ∃ parts : List (List Pattern), parts.flatten = patterns ∧
      List.Forall₂ (Describes limit) parts groups ∧ parts.IsChain (Full limit) := by
  have partition := merge_partition merged
  have start : ({} : Pending).Holds 0 (issued + 1) [] := ⟨rfl, rfl, rfl⟩
  obtain ⟨parts, flat, described, chain, -⟩ :=
    mergeFrom_describes start (Pending.Sized.start limit) merged
  refine ⟨?_, partition.marks, fun room branch member => ?_, parts, flat, described, chain⟩
  · rw [partition.positions, List.range_eq_range']
  · have issued_ : branch.mark ∈ List.range' (issued + 1) patterns.length :=
      partition.marks ▸ List.mem_map_of_mem member
    have last := (List.mem_range'_1.mp issued_).2
    omega

/-- A choice that opens a group, a number and a version whose second part may be missing. -/
def measuredPatterns : List Pattern := [
    ⟨"\x7ba:(x|y)z\x7d", [.parameter 0], [⟨"a", .custom "(x|y)z", [], true, 1⟩]⟩,
    ⟨"p-\x7bb:int\x7d", [.literal "p-", .parameter 0], [⟨"b", .int, [], true, 0⟩]⟩,
    ⟨"\x7bc\x7d.\x7bd:(u)?\x7d", [.parameter 0, .literal ".", .parameter 1],
      [⟨"c", .string, [], true, 0⟩, ⟨"d", .custom "(u)?", [], true, 1⟩]⟩]

/-- With all three the expression takes 61 bytes. -/
theorem merge_divides_measured :
    (∀ pattern ∈ measuredPatterns, Pattern.read pattern.source = .ok pattern) ∧
    (merge 61 3 measuredPatterns).toOption.map (·.length) = some 1 ∧
    ∃ groups, merge 60 3 measuredPatterns = .ok groups ∧
      groups.map (·.regex.source)
        = ["^(?:(((?:(x|y)z)))|(p\\-((?:[0-9]+))))$", "^(?:(((?:.+))\\.((?:(u)?))))$"] ∧
      groups.flatMap (·.branches) = [⟨4, 0, 1, [("a", 2)]⟩, ⟨5, 1, 4, [("b", 5)]⟩,
        ⟨6, 2, 1, [("c", 2), ("d", 3)]⟩] ∧
      (groups.flatMap (·.branches)).map (·.mark) = List.range' 4 measuredPatterns.length ∧
      (∀ branch ∈ groups.flatMap (·.branches), branch.mark < UInt32.size) ∧
      ∃ parts : List (List Pattern), parts.flatten = measuredPatterns ∧
        List.Forall₂ (Describes 60) parts groups ∧ parts.IsChain (Full 60) := by
  have taken : ∀ pattern ∈ measuredPatterns,
      (Pattern.read pattern.source).toOption = some pattern := by decide +kernel
  have whole : (merge 61 3 measuredPatterns).toOption.map (·.length) = some 1 := by decide +kernel
  have apart : (merge 60 3 measuredPatterns).toOption.map (fun groups =>
      (groups.map (·.regex.source), groups.flatMap (·.branches)))
        = some (["^(?:(((?:(x|y)z)))|(p\\-((?:[0-9]+))))$", "^(?:(((?:.+))\\.((?:(u)?))))$"],
          [⟨4, 0, 1, [("a", 2)]⟩, ⟨5, 1, 4, [("b", 5)]⟩, ⟨6, 2, 1, [("c", 2), ("d", 3)]⟩]) := by
    decide +kernel
  obtain ⟨groups, merged, made⟩ := Option.map_eq_some_iff.mp apart
  obtain ⟨sources, branches⟩ := Prod.mk.inj made
  obtain ⟨-, marks, small, divided⟩ := merge_divides (ok_of_toOption merged)
  exact ⟨fun pattern member => ok_of_toOption (taken pattern member), whole, groups,
    ok_of_toOption merged, sources, branches, marks, small (by decide), divided⟩

end Signpost.Batch
